import HostedScripts.Language.Datum
import Mathlib.Data.List.Basic

/-! # Values cross between host and script unchanged

A value of the host becomes one of a script by `Datum.ofValue`, and `Datum.toValue` takes it back as it was
(`toValue_ofValue`). The other way round, the host has values for the common types only (`isCommon`). A value
of a script crosses if all values in it are of these types, and comes back as it was, but that it may be
changed then; otherwise the first value that is not, from left to right, is the one that is refused
(`answers_toValue`). The text that is left of a value that does not cross is that of the whole of it
(`values_cross`). -/

namespace HostedScripts.Language.Datum

/-- Whether the host has values of the type of a value. A mark is no type of its own. -/
def isCommon : Datum → Bool
  | unit | bool _ | int _ | float _ | string _ | array _ | map _ | fixed _ => true
  | char _ | range _ _ _ | host _ | function _ _ _ | shared _ => false

mutual

/-- A value and all values in it, from left to right; one that is marked comes before itself unmarked. -/
def parts : Datum → List Datum
  | array es => array es :: partsOfElements es
  | map entries => map entries :: partsOfEntries entries
  | fixed d => fixed d :: parts d
  | d => [d]

/-- The elements of an array and all values in them. -/
def partsOfElements : List Datum → List Datum
  | [] => []
  | d :: ds => parts d ++ partsOfElements ds

/-- The values of the entries of a map and all values in them. -/
def partsOfEntries : List (String × Datum) → List Datum
  | [] => []
  | (_, d) :: entries => parts d ++ partsOfEntries entries

end

/-- The first of some values that is of no common type. -/
def firstForeign? (ds : List Datum) : Option Datum := ds.find? fun d => !d.isCommon

theorem firstForeign?_append (ds ds' : List Datum) :
    firstForeign? (ds ++ ds') = (firstForeign? ds).or (firstForeign? ds') := List.find?_append

theorem firstForeign?_eq_none_iff {ds : List Datum} :
    firstForeign? ds = none ↔ ∀ d ∈ ds, d.isCommon = true := by
  simp [firstForeign?, List.find?_eq_none]

/-! ### From the host and back -/

mutual

/-- **A value of the host comes back as it was.** -/
theorem toValue_ofValue : ∀ v : Value, (ofValue v).toValue = .ok v
  | .null | .bool _ | .int _ | .number _ | .string _ => rfl
  | .array vs => by rw [ofValue, toValue, toValues_ofValues vs]; rfl
  | .map entries => by rw [ofValue, toValue, toEntries_ofEntries entries]; rfl

theorem toValues_ofValues : ∀ vs : List Value, toValues (ofValues vs) = .ok vs
  | [] => rfl
  | v :: vs => by rw [ofValues, toValues, toValue_ofValue v, toValues_ofValues vs]; rfl

theorem toEntries_ofEntries :
    ∀ entries : List (String × Value), toEntries (ofEntries entries) = .ok entries
  | [] => rfl
  | (k, v) :: entries => by
    rw [ofEntries, toEntries, toValue_ofValue v, toEntries_ofEntries entries]; rfl

end

/-! ### From a script -/

/-- What comes of carrying some values over: if all are of common types then something that is the same, and
otherwise the refusal of the first that is not. -/
def Answers {α : Type} (ds : List Datum) (same : α → Prop) (r : Except Refusal α) : Prop :=
  (firstForeign? ds = none ∧ ∃ a, r = .ok a ∧ same a) ∨
    ∃ d, firstForeign? ds = some d ∧ r = .error (.valueUnsupported d.fullTypeName)

namespace Answers

variable {α β γ : Type} {ds ds' : List Datum} {same : α → Prop} {same' : β → Prop} {whole : γ → Prop}
  {r : Except Refusal α} {r' : Except Refusal β}

theorem map {f : α → γ} (h : Answers ds same r) (hf : ∀ a, same a → whole (f a)) :
    Answers ds whole (r.map f) := by
  rcases h with ⟨hnone, a, rfl, ha⟩ | ⟨d, hd, rfl⟩
  · exact Or.inl ⟨hnone, f a, rfl, hf a ha⟩
  · exact Or.inr ⟨d, hd, rfl⟩

theorem cons {d : Datum} (hd : d.isCommon = true) (h : Answers ds same r) : Answers (d :: ds) same r := by
  have hfirst : firstForeign? (d :: ds) = firstForeign? ds := by simp [firstForeign?, hd]
  unfold Answers
  rwa [hfirst]

/-- Carrying values over one after the other stops at the first that is refused. -/
theorem append {f : α → β → γ} (h : Answers ds same r) (h' : Answers ds' same' r')
    (hf : ∀ a b, same a → same' b → whole (f a b)) :
    Answers (ds ++ ds') whole (do return f (← r) (← r')) := by
  unfold Answers
  rw [firstForeign?_append]
  rcases h with ⟨hnone, a, rfl, ha⟩ | ⟨d, hd, rfl⟩
  · rcases h' with ⟨hnone', b, rfl, hb⟩ | ⟨d, hd, rfl⟩
    · exact Or.inl ⟨by simp [hnone, hnone'], f a b, rfl, hf a b ha hb⟩
    · exact Or.inr ⟨d, by simp [hnone, hd], rfl⟩
  · exact Or.inr ⟨d, by simp [hd], rfl⟩

theorem of_common {d : Datum} {v : Value} (hd : d.isCommon = true) (hv : ofValue v = d.free) :
    Answers [d] (ofValue · = d.free) (.ok v) :=
  Or.inl ⟨by simp [firstForeign?, hd], v, rfl, hv⟩

theorem of_foreign {d : Datum} (hd : d.isCommon = false) :
    Answers [d] same (.error (.valueUnsupported d.fullTypeName)) :=
  Or.inr ⟨d, by simp [firstForeign?, hd], rfl⟩

end Answers

mutual

/-- **What a value of a script is for the host**: the same value without marks, unless a value in it is of
another type. -/
theorem answers_toValue : ∀ d : Datum, Answers d.parts (ofValue · = d.free) d.toValue
  | unit => .of_common (v := .null) rfl rfl
  | bool b => .of_common (v := .bool b) rfl rfl
  | int n => .of_common (v := .int n) rfl rfl
  | float x => .of_common (v := .number x) rfl rfl
  | string s => .of_common (v := .string s) rfl rfl
  | char c => .of_foreign (d := char c) rfl
  | range a b i => .of_foreign (d := range a b i) rfl
  | host h => .of_foreign (d := host h) rfl
  | function name isBound given => .of_foreign (d := function name isBound given) rfl
  | shared cell => .of_foreign (d := shared cell) rfl
  | array es => by
    rw [parts, toValue, free]
    refine .cons rfl ((answers_toValues es).map fun vs hvs => ?_)
    rw [ofValue, hvs]
  | map entries => by
    rw [parts, toValue, free]
    refine .cons rfl ((answers_toEntries entries).map fun vs hvs => ?_)
    rw [ofValue, hvs]
  | fixed d => by
    rw [parts, toValue, free]
    exact .cons rfl (answers_toValue d)

theorem answers_toValues :
    ∀ ds : List Datum, Answers (partsOfElements ds) (ofValues · = freeElements ds) (toValues ds)
  | [] => Or.inl ⟨rfl, [], rfl, rfl⟩
  | d :: ds => by
    rw [partsOfElements, toValues, freeElements]
    refine (answers_toValue d).append (answers_toValues ds) fun v vs hv hvs => ?_
    rw [ofValues, hv, hvs]

theorem answers_toEntries : ∀ entries : List (String × Datum),
    Answers (partsOfEntries entries) (ofEntries · = freeEntries entries) (toEntries entries)
  | [] => Or.inl ⟨rfl, [], rfl, rfl⟩
  | (k, d) :: entries => by
    rw [partsOfEntries, toEntries, freeEntries]
    refine .append (f := fun v vs => (k, v) :: vs) (answers_toValue d) (answers_toEntries entries)
      fun v vs hv hvs => ?_
    rw [ofEntries, hv, hvs]

end

mutual

theorem free_eq_self : ∀ d : Datum, (∀ p ∈ d.parts, p.isFixed = false) → d.free = d
  | unit, _ | bool _, _ | int _, _ | float _, _ | char _, _ | string _, _ | range _ _ _, _ | host _, _
  | function _ _ _, _ | shared _, _ => rfl
  | array es, h => by
    rw [free, freeElements_eq_self es fun p hp => h p (List.mem_cons_of_mem _ hp)]
  | map entries, h => by
    rw [free, freeEntries_eq_self entries fun p hp => h p (List.mem_cons_of_mem _ hp)]
  | fixed d, h => by cases h (fixed d) List.mem_cons_self

theorem freeElements_eq_self :
    ∀ ds : List Datum, (∀ p ∈ partsOfElements ds, p.isFixed = false) → freeElements ds = ds
  | [], _ => rfl
  | d :: ds, h => by
    rw [freeElements, free_eq_self d fun p hp => h p (List.mem_append_left _ hp),
      freeElements_eq_self ds fun p hp => h p (List.mem_append_right _ hp)]

theorem freeEntries_eq_self : ∀ entries : List (String × Datum),
    (∀ p ∈ partsOfEntries entries, p.isFixed = false) → freeEntries entries = entries
  | [], _ => rfl
  | (k, d) :: entries, h => by
    rw [freeEntries, free_eq_self d fun p hp => h p (List.mem_append_left _ hp),
      freeEntries_eq_self entries fun p hp => h p (List.mem_append_right _ hp)]

end

/-- **Values cross unchanged.** A value of the host comes back from a script as it was. A value of a script
crosses exactly if all values in it are of common types; it comes back as it was, but without marks. If it
does not cross, then the refusal names the type of the first value in it that is of another type, and the text
that is left of it is the text of the whole value in a report. -/
theorem values_cross :
    (∀ v : Value, (ofValue v).toValue = .ok v) ∧
    ∀ d : Datum,
      ((∃ v, d.toValue = .ok v) ↔ ∀ p ∈ d.parts, p.isCommon = true) ∧
      (∀ v, d.toValue = .ok v →
        ofValue v = d.free ∧ ((∀ p ∈ d.parts, p.isFixed = false) → ofValue v = d)) ∧
      ∀ e, d.toValue = .error e →
        (∃ p before after, d.parts = before ++ p :: after ∧ (∀ q ∈ before, q.isCommon = true) ∧
          p.isCommon = false ∧ e = .valueUnsupported p.fullTypeName) ∧
        d.leftText = d.shown := by
  refine ⟨toValue_ofValue, fun d => ?_⟩
  rw [← firstForeign?_eq_none_iff]
  rcases answers_toValue d with ⟨hnone, v, hv, hsame⟩ | ⟨p, hp, he⟩
  · refine ⟨iff_of_true ⟨v, hv⟩ hnone, fun v' hv' => ?_, fun e he => ?_⟩
    · obtain rfl : v = v' := Except.ok.inj (hv.symm.trans hv')
      exact ⟨hsame, fun hunmarked => hsame.trans (free_eq_self d hunmarked)⟩
    · cases hv.symm.trans he
  · refine ⟨iff_of_false ?_ ?_, fun v hv => ?_, fun e he' => ⟨?_, ?_⟩⟩
    · rintro ⟨v, hv⟩
      cases he.symm.trans hv
    · rw [hp]
      exact nofun
    · cases he.symm.trans hv
    · obtain rfl := Except.error.inj (he.symm.trans he')
      obtain ⟨hforeign, before, after, hparts, hbefore⟩ := List.find?_eq_some_iff_append.mp hp
      refine ⟨p, before, after, hparts, fun q hq => ?_, by simpa using hforeign, rfl⟩
      simpa using hbefore q hq
    · unfold leftText
      rw [he]

/-- Of two values that the host does not know the first is refused, however deep it lies, and what is left is
the text of the array with all its elements. -/
example :
    let d := array [int 1, map [("k", array [char 'x'])], range 0 5 false]
    d.toValue = .error (.valueUnsupported "char") ∧
      d.leftText = "[1, #\x7b\"k\": ['x']\x7d, 0..5]" := by
  refine ⟨rfl, ?_⟩
  decide +kernel

end HostedScripts.Language.Datum
