import HostedScripts.Executor
import Mathlib.Data.List.TakeWhile
import Mathlib.Tactic.Set
import Mathlib.Tactic.SplitIfs

/-! # The outcome that a script chooses

A script that comes to its end chooses its outcome by what it leaves in a variable. A number stands for
the outcome with that code, as an integer or as a double that is whole, and a text for the outcome whose
name it spells (`Datum.StandsFor`); anything else counts as success.

The code of a double is found by cutting it, also where its part after the point is tiny and not zero.
Such a double is close to zero (`Decimal.truncated_of_isNearlyInteger`), whose outcome is success
anyway: so the tolerance is never seen (`Datum.outcome?_getD_eq_iff`). -/

namespace HostedScripts

open HostedScripts.Language

/-! ### Names in any spelling -/

namespace Text

/-- A text that spells a name: in ASCII letters of any case, with blanks around them. -/
def Spells (s name : String) : Prop :=
  ∃ before word after : List Char, s.toList = before ++ word ++ after ∧
    (∀ c ∈ before, isBlank c) ∧ (∀ c ∈ after, isBlank c) ∧ word.map Char.toLower = name.toList

theorem toLower_of_isBlank {c : Char} (h : isBlank c) : c.toLower = c := by
  unfold Char.toLower
  rw [dif_neg]
  rintro ⟨hA, hZ⟩
  have hA' : 65 ≤ c.toNat := hA
  have hZ' : c.toNat ≤ 90 := hZ
  simp only [isBlank, Bool.or_eq_true, Bool.and_eq_true, beq_iff_eq, decide_eq_true_eq] at h
  omega

/-- The characters of a text lie between blanks: those that trimming takes away. -/
theorem exists_trim (s : String) : ∃ before after : List Char,
    s.toList = before ++ (trim s).toList ++ after ∧
      (∀ c ∈ before, isBlank c) ∧ ∀ c ∈ after, isBlank c := by
  let rest := s.toList.dropWhile isBlank
  refine ⟨s.toList.takeWhile isBlank, (rest.reverse.takeWhile isBlank).reverse, ?_,
    fun c hc => List.mem_takeWhile_imp hc,
    fun c hc => List.mem_takeWhile_imp (List.mem_reverse.mp hc)⟩
  have hrest : (trim s).toList ++ (rest.reverse.takeWhile isBlank).reverse = rest := by
    rw [trim, String.toList_ofList, ← List.reverse_append, List.takeWhile_append_dropWhile,
      List.reverse_reverse]
  rw [List.append_assoc, hrest, List.takeWhile_append_dropWhile]

theorem trim_of_blanks {s : String} {before word after : List Char}
    (hs : s.toList = before ++ word ++ after) (hbefore : ∀ c ∈ before, isBlank c)
    (hafter : ∀ c ∈ after, isBlank c) (hword : ∀ c ∈ word, ¬ isBlank c) :
    trim s = String.ofList word := by
  have hstop : ∀ w : List Char, (∀ c ∈ w, ¬ isBlank c) → w.dropWhile isBlank = w := by
    rintro (- | ⟨c, w⟩) h
    · rfl
    · exact List.dropWhile_cons_of_neg (h c List.mem_cons_self)
  rw [trim, hs, List.append_assoc, List.dropWhile_append_of_pos hbefore]
  rcases word with - | ⟨c, word⟩
  · have hnone : after.dropWhile isBlank = [] := List.dropWhile_eq_nil_iff.mpr hafter
    rw [List.nil_append, hnone]
    rfl
  · rw [List.cons_append, List.dropWhile_cons_of_neg (hword c List.mem_cons_self), ← List.cons_append,
      List.reverse_append,
      List.dropWhile_append_of_pos fun d hd => hafter d (List.mem_reverse.mp hd),
      hstop _ fun d hd => hword d (List.mem_reverse.mp hd), List.reverse_reverse]

/-- A text spells a name without blanks if it is the name once trimmed and made small. -/
theorem spells_iff {s name : String} (hname : ∀ c ∈ name.toList, ¬ isBlank c) :
    Spells s name ↔ lowerAscii (trim s) = name := by
  constructor
  · rintro ⟨before, word, after, hs, hbefore, hafter, hword⟩
    have hclean : ∀ c ∈ word, ¬ isBlank c := by
      intro c hc hblank
      have hmem : c.toLower ∈ name.toList := hword ▸ List.mem_map_of_mem hc
      rw [toLower_of_isBlank hblank] at hmem
      exact hname c hmem hblank
    rw [trim_of_blanks hs hbefore hafter hclean, lowerAscii, String.toList_ofList, hword,
      String.ofList_toList]
  · intro h
    obtain ⟨before, after, hs, hbefore, hafter⟩ := exists_trim s
    refine ⟨before, (trim s).toList, after, hs, hbefore, hafter, ?_⟩
    rw [← h, lowerAscii, String.toList_ofList]

end Text

namespace Outcome

theorem ofExactName?_eq_some_iff {name : String} {o : Outcome} :
    ofExactName? name = some o ↔ o.name = name := by
  constructor
  · intro h
    unfold ofExactName? at h
    have hfound := List.find?_some h
    exact of_decide_eq_true hfound
  · rintro rfl
    cases o <;> decide

theorem ofName?_eq_some_iff {s : String} {o : Outcome} :
    ofName? s = some o ↔ Text.Spells s o.name := by
  have hall : o.name.toList.all (!Text.isBlank ·) = true := by
    cases o <;> decide
  have hclean : ∀ c ∈ o.name.toList, ¬ Text.isBlank c := fun c hc hblank => by
    have hc' := List.all_eq_true.mp hall c hc
    rw [hblank] at hc'
    cases hc'
  rw [ofName?, ofExactName?_eq_some_iff, Text.spells_iff hclean, eq_comm]

theorem ofCode?_eq_some_iff {n : Int} {o : Outcome} : ofCode? n = some o ↔ n = o.code := by
  unfold ofCode?
  cases o <;> split_ifs <;> simp_all [code]

end Outcome

/-! ### Whole doubles -/

namespace Decimal

/-- A double that is a whole number. -/
def IsWhole (x : Float) (n : Int) : Prop :=
  isFinite x = true ∧ isInteger x = true ∧ truncated x = n

theorem significand_lt (x : Float) : (magnitude x).significand < Nat.pow 2 53 := by
  have hf : fractionField x < Nat.pow 2 52 := Nat.mod_lt _ (by decide)
  have hdouble : Nat.pow 2 53 = Nat.pow 2 52 + Nat.pow 2 52 := rfl
  unfold magnitude
  dsimp only
  split_ifs
  · show fractionField x < Nat.pow 2 53
    omega
  · show Nat.pow 2 52 + fractionField x < Nat.pow 2 53
    omega

theorem isFinite_of_isNearlyInteger {x : Float} (h : isNearlyInteger x = true) : isFinite x = true := by
  rw [isNearlyInteger, Bool.and_eq_true] at h
  exact h.1

theorem isNearlyInteger_of_isInteger {x : Float} (hx : isFinite x = true) (h : isInteger x = true) :
    isNearlyInteger x = true := by
  have hunit : 0 < Nat.pow 2 (-(magnitude x).exponent).toNat := Nat.pow_pos (by decide)
  have hrest : (magnitude x).significand % Nat.pow 2 (-(magnitude x).exponent).toNat = 0 := by
    rw [isInteger, Bool.or_eq_true] at h
    rcases h with hexp | hzero
    · have hk : (-(magnitude x).exponent).toNat = 0 := by
        have := of_decide_eq_true hexp
        omega
      rw [hk]
      exact Nat.mod_one _
    · exact of_decide_eq_true hzero
  simp only [isNearlyInteger, hx, hrest, Nat.zero_mul, hunit, decide_true, Bool.and_self]

/-- **A double with a tiny part after the point is whole or close to zero.** -/
theorem truncated_of_isNearlyInteger {x : Float} (h : isNearlyInteger x = true) :
    isInteger x = true ∨ truncated x = 0 := by
  set k := (-(magnitude x).exponent).toNat with hk
  have hsmall : (magnitude x).significand % 2 ^ k * 2 ^ 52 < 2 ^ k := by
    rw [isNearlyInteger, Bool.and_eq_true] at h
    exact of_decide_eq_true h.2
  by_cases hexp : (magnitude x).exponent ≥ 0
  · exact Or.inl (by simp only [isInteger, hexp, decide_true, Bool.true_or])
  rcases Nat.lt_or_ge 52 k with hlarge | hfew
  · -- the double is smaller than one
    have hlt : (magnitude x).significand < 2 ^ k :=
      (significand_lt x).trans_le (Nat.pow_le_pow_right (by decide) hlarge)
    have hcut : (magnitude x).significand / Nat.pow 2 k = 0 := Nat.div_eq_of_lt hlt
    right
    simp only [truncated, hexp, if_false, ← hk, hcut]
    simp
  · -- the part after the point is a multiple of the distance
    have hle : 2 ^ k ≤ 2 ^ 52 := Nat.pow_le_pow_right (by decide) hfew
    have hzero : (magnitude x).significand % 2 ^ k = 0 := by
      by_contra hne
      have hone : 1 * 2 ^ 52 ≤ (magnitude x).significand % 2 ^ k * 2 ^ 52 :=
        Nat.mul_le_mul_right _ (Nat.pos_of_ne_zero hne)
      omega
    left
    have hrest : (magnitude x).significand % Nat.pow 2 k = 0 := hzero
    simp only [isInteger, ← hk, hrest, decide_true, Bool.or_true]

/-- Holding a number between the smallest and the largest integer does not change which small one it is. -/
theorem toInt_toInt64Saturating {x : Float} (hx : isFinite x = true) {n : Int} (hlow : -2 ≤ n)
    (hhigh : n ≤ 2) : (toInt64Saturating x).toInt = n ↔ truncated x = n := by
  have hmin : Int64.minValue.toInt = -2 ^ 63 := rfl
  have hmax : Int64.maxValue.toInt = 2 ^ 63 - 1 := rfl
  simp only [toInt64Saturating, hx, if_true]
  split_ifs with h1 h2
  · omega
  · omega
  · rw [Int64.toInt_ofInt_of_le (by omega) (by omega)]

end Decimal

/-! ### Values that stand for outcomes -/

namespace Language.Datum

/-- A value that stands for an outcome: its code, also as a double, or its name. A value that may not be
changed stands for what it is. -/
inductive StandsFor : Datum → Outcome → Prop where
  | int {n : Int64} {o : Outcome} (h : n.toInt = o.code) : StandsFor (.int n) o
  | float {x : Float} {o : Outcome} (h : Decimal.IsWhole x o.code) : StandsFor (.float x) o
  | string {s : String} {o : Outcome} (h : Text.Spells s o.name) : StandsFor (.string s) o
  | fixed {d : Datum} {o : Outcome} (h : StandsFor d o) : StandsFor (.fixed d) o

variable {d : Datum} {o : Outcome}

theorem code_small (o : Outcome) : -2 ≤ o.code ∧ o.code ≤ 2 := by
  cases o <;> decide

theorem outcome?_of_standsFor (h : d.StandsFor o) : d.outcome? = some o := by
  induction h with
  | int h => exact Outcome.ofCode?_eq_some_iff.mpr h
  | @float x o h =>
    obtain ⟨hfinite, hinteger, hcode⟩ := h
    have hsat := (Decimal.toInt_toInt64Saturating hfinite (code_small o).1 (code_small o).2).mpr hcode
    rw [outcome?, if_pos (Decimal.isNearlyInteger_of_isInteger hfinite hinteger)]
    exact Outcome.ofCode?_eq_some_iff.mpr hsat
  | string h => exact Outcome.ofName?_eq_some_iff.mpr h
  | fixed _ ih => exact ih

/-- A value with an outcome stands for it, or the outcome is success. -/
theorem standsFor_or_succeeded (h : d.outcome? = some o) : d.StandsFor o ∨ o = .succeeded := by
  fun_induction outcome? d with
  | case1 n => exact Or.inl (.int (Outcome.ofCode?_eq_some_iff.mp h))
  | case2 x hnear =>
    have hfinite : Decimal.isFinite x = true := Decimal.isFinite_of_isNearlyInteger hnear
    have hcode : Decimal.truncated x = o.code :=
      (Decimal.toInt_toInt64Saturating hfinite (code_small o).1 (code_small o).2).mp
        (Outcome.ofCode?_eq_some_iff.mp h)
    rcases Decimal.truncated_of_isNearlyInteger hnear with hinteger | hzero
    · exact Or.inl (.float ⟨hfinite, hinteger, hcode⟩)
    · right
      rw [hzero] at hcode
      cases o <;> first | rfl | cases hcode
  | case3 x hnear => cases h
  | case4 s => exact Or.inl (.string (Outcome.ofName?_eq_some_iff.mp h))
  | case5 d ih => exact (ih h).imp_left .fixed
  | case6 d => cases h

/-- **The outcome of a value is the one it stands for, or else success.** -/
theorem outcome?_getD_eq_iff :
    d.outcome?.getD .succeeded = o ↔ d.StandsFor o ∨ (∀ p, ¬ d.StandsFor p) ∧ o = .succeeded := by
  constructor
  · rintro rfl
    by_cases hp : ∃ p, d.StandsFor p
    · obtain ⟨p, hp⟩ := hp
      rw [outcome?_of_standsFor hp]
      exact Or.inl hp
    · refine Or.inr ⟨fun p h => hp ⟨p, h⟩, ?_⟩
      cases hd : d.outcome? with
      | none => rfl
      | some q => exact (standsFor_or_succeeded hd).resolve_left fun h => hp ⟨q, h⟩
  · rintro (h | ⟨hnone, rfl⟩)
    · rw [outcome?_of_standsFor h]
      rfl
    · cases hd : d.outcome? with
      | none => rfl
      | some q => exact (standsFor_or_succeeded hd).resolve_left (hnone q)

end Language.Datum

/-! ### The choice of a script -/

namespace Executor

/-- The outcome that a script chooses by the latest variable for it: the one that its value stands for, and
otherwise success. -/
inductive Chooses (scope : Scope) : Outcome → Prop where
  | standsFor {d : Datum} {o : Outcome} (held : scope.held? "__result__" = some d)
    (h : d.StandsFor o) : Chooses scope o
  | otherwise (h : ∀ d o, scope.held? "__result__" = some d → ¬ d.StandsFor o) :
    Chooses scope .succeeded

theorem chooses_iff {scope : Scope} {o : Outcome} :
    Chooses scope o ↔ (chosenOutcome scope).1 = o := by
  have hchosen : (chosenOutcome scope).1 =
      ((scope.held? "__result__").bind Datum.outcome?).getD .succeeded := by
    unfold chosenOutcome Scope.held? Global.result
    cases scope.lookUp "__result__" with
    | none => rfl
    | some b => cases hb : b.value.outcome? <;> simp [hb]
  rw [hchosen]
  cases hheld : scope.held? "__result__" with
  | none =>
    constructor
    · rintro (⟨held, -⟩ | -)
      · rw [hheld] at held
        cases held
      · rfl
    · rintro rfl
      exact .otherwise fun d o held => by rw [hheld] at held; cases held
  | some d =>
    rw [Option.bind_some, Datum.outcome?_getD_eq_iff]
    constructor
    · rintro (⟨held, h⟩ | h)
      · rw [hheld] at held
        cases held
        exact Or.inl h
      · exact Or.inr ⟨fun p => h d p hheld, rfl⟩
    · rintro (h | ⟨hnone, rfl⟩)
      · exact .standsFor hheld h
      · refine .otherwise fun d' p held => ?_
        rw [hheld] at held
        cases held
        exact hnone p

end Executor

end HostedScripts
