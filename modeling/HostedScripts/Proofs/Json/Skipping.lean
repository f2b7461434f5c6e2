import HostedScripts.Json.Cursor
import Mathlib.Data.List.Basic
import Mathlib.Tactic.SplitIfs

/-! # Passing over texts and numbers

Members with unknown names are passed over and not kept. `Cursor.skip` goes by looser rules than
`Cursor.value`: it pairs no surrogates and looks at the value of no number. Still it ends where the reader
does, whatever the reader accepts. For scalars that is `skipScalar?_of_scalar?`, over quoted texts
(`skipString_of_stringFrom`) and numbers (`skipNumber_of_number`), each compared part by part. -/

namespace HostedScripts.Json.Cursor

variable {c c' : Cursor} {n : Number}

/-! ### Digits -/

theorem takeWhile_drop {p : Char → Bool} (cs : List Char) (k : Nat) (hk : k ≤ (cs.takeWhile p).length) :
    (cs.drop k).takeWhile p = (cs.takeWhile p).drop k := by
  induction cs generalizing k with
  | nil => simp
  | cons a cs ih =>
    cases k with
    | zero => simp
    | succ k =>
      rw [List.takeWhile_cons] at hk ⊢
      split_ifs at hk ⊢ with ha
      · exact ih k (by simpa using hk)
      · simp at hk

theorem skipDigits_advance {k : Nat} (hk : k ≤ (c.rest.takeWhile Text.isDigit).length) :
    (c.advance k).skipDigits = c.skipDigits := by
  have htake := takeWhile_drop c.rest k hk
  unfold skipDigits advance
  dsimp only
  rw [htake, List.length_drop, List.drop_drop, Nat.add_sub_cancel' hk, Nat.add_assoc,
    Nat.add_sub_cancel' hk]

theorem skipDigits_of_not_digitAhead (h : c.digitAhead = false) : c.skipDigits = c := by
  obtain ⟨rest, offset⟩ := c
  cases rest with
  | nil => rfl
  | cons a rest =>
    have ha : Text.isDigit a = false := h
    simp [skipDigits, ha]

theorem length_skipDigits (h : c.digitAhead = true) : c.skipDigits.rest.length < c.rest.length := by
  obtain ⟨rest, offset⟩ := c
  cases rest with
  | nil => cases h
  | cons a rest =>
    have ha : Text.isDigit a = true := h
    have hpos : 0 < ((a :: rest).takeWhile Text.isDigit).length := by simp [ha]
    show ((a :: rest).drop ((a :: rest).takeWhile Text.isDigit).length).length < (a :: rest).length
    rw [List.length_drop]
    exact Nat.sub_lt (Nat.succ_pos _) hpos

theorem appendDigits_le (significand count : Nat) (cs : List Char) :
    (appendDigits significand count cs).2 ≤ count + (cs.takeWhile Text.isDigit).length := by
  induction cs generalizing significand count with
  | nil => simp [appendDigits]
  | cons a cs ih =>
    rw [appendDigits, List.takeWhile_cons]
    split_ifs with ha
    · dsimp only
      split_ifs with hmore
      · have hrest := ih (significand * 10 + (a.toNat - 48)) (count + 1)
        rw [List.length_cons]
        omega
      · simp
    · simp

/-- The digits that are kept are digits at the cursor, and there is none if none is kept and none is left. -/
theorem skipDigits_appendDigits (significand : Nat) (c : Cursor) :
    let count := (appendDigits significand 0 c.rest).2
    (c.advance count).skipDigits = c.skipDigits ∧
      (count ≠ 0 ∨ (c.advance count).digitAhead = true → c.digitAhead = true) := by
  intro count
  have hle : count ≤ (c.rest.takeWhile Text.isDigit).length := by
    simpa using appendDigits_le significand 0 c.rest
  refine ⟨skipDigits_advance hle, fun h => ?_⟩
  by_contra hnot
  have hnone : (c.rest.takeWhile Text.isDigit).length = 0 := by
    have hskip := congrArg Cursor.offset (skipDigits_of_not_digitAhead (by simpa using hnot))
    simpa [skipDigits] using hskip
  have hzero : count = 0 := by omega
  rw [hzero] at h
  rcases h with h | h
  · exact h rfl
  · exact hnot h

theorem exponentDigits_le (value : Nat) (cs : List Char) (count : Nat) :
    (exponentDigits value cs count).2 ≤ count + (cs.takeWhile Text.isDigit).length ∧
      ((exponentDigits value cs count).1.isSome →
        (exponentDigits value cs count).2 = count + (cs.takeWhile Text.isDigit).length) := by
  induction cs generalizing value count with
  | nil => simp [exponentDigits]
  | cons a cs ih =>
    rw [exponentDigits, List.takeWhile_cons]
    split_ifs with ha
    · dsimp only
      split_ifs with hmore
      · obtain ⟨hle, heq⟩ := ih (value * 10 + (a.toNat - 48)) (count + 1)
        refine ⟨by simp; omega, fun h => ?_⟩
        rw [heq h, List.length_cons]
        omega
      · simp
    · simp

/-! ### Numbers -/

theorem double_eq_ok {negative : Bool} {significand : Nat} {e : Int}
    (h : double negative significand e c = .ok (n, c')) : c' = c := by
  unfold double at h
  split at h
  · cases h
    rfl
  · cases h

theorem skipExponent_of_exponent {negative : Bool} {significand : Nat} {before : Int}
    (h : exponent negative significand before c = .ok (n, c')) : c.skipExponent = .ok c' := by
  unfold exponent at h
  unfold skipExponent
  dsimp only at h ⊢
  generalize (if c.next.peek? == some '+' || c.next.peek? == some '-' then c.next.next else c.next) = d at h ⊢
  cases hrest : d.rest with
  | nil =>
    rw [hrest] at h
    cases h
  | cons a rest =>
    rw [hrest] at h
    dsimp only at h
    have hahead : d.digitAhead = Text.isDigit a := by simp [digitAhead, peek?, hrest]
    by_cases hdigit : Text.isDigit a = true
    · -- both count the digits, but the reader may stop in the middle of them
      rw [hdigit] at h hahead
      rw [if_pos hahead]
      rw [← hrest] at h
      have hle := exponentDigits_le 0 d.rest 0
      rcases hdigits : exponentDigits 0 d.rest 0 with ⟨- | e, count⟩
      · -- the exponent is too large, and the rest of it is passed over
        rw [hdigits] at h hle
        dsimp only [Bool.not_true, Bool.false_eq_true, if_false] at h hle
        have hskip : (d.advance count).skipDigits = d.skipDigits := skipDigits_advance (by omega)
        rw [hskip] at h
        split_ifs at h
        · cases h
          rfl
        · cases h
          rfl
      · rw [hdigits] at h hle
        have hcount : count = (d.rest.takeWhile Text.isDigit).length := by simpa using hle.2 rfl
        rw [double_eq_ok h, hcount]
        rfl
    · rw [Bool.not_eq_true] at hdigit
      rw [hdigit] at h
      cases h

/-- Passes over what may follow the integer digits of a number. -/
def skipAfter (c : Cursor) : Except Fault Cursor :=
  if c.peek? == some '.' then
    let c := c.next
    if !c.digitAhead then .error (c.faultAhead .invalidNumber)
    else if c.skipDigits.exponentAhead then c.skipDigits.skipExponent
    else .ok c.skipDigits
  else if c.exponentAhead then c.skipExponent
  else .ok c

theorem skipAfter_of_fraction {negative : Bool} {significand : Nat} {before : Int}
    (hpoint : c.peek? = some '.') (h : fraction negative significand before c = .ok (n, c')) :
    c.skipAfter = .ok c' := by
  obtain ⟨hskip, hahead⟩ := skipDigits_appendDigits significand c.next
  unfold fraction at h
  unfold skipAfter
  rw [if_pos (by simp [hpoint])]
  dsimp only at h ⊢
  generalize appendDigits significand 0 c.next.rest = appended at h hskip hahead
  obtain ⟨more, count⟩ := appended
  dsimp only at h hskip hahead
  have hend : ∀ after : Cursor, after = c.next.skipDigits → (if after.exponentAhead then
      exponent negative more (before - count) after else double negative more (before - count) after) =
        .ok (n, c') → (if c.next.skipDigits.exponentAhead then c.next.skipDigits.skipExponent
          else .ok c.next.skipDigits) = Except.ok c' := by
    rintro after rfl hafter
    split_ifs at hafter ⊢ with hexponent
    · exact skipExponent_of_exponent hafter
    · rw [double_eq_ok hafter]
  by_cases hmore : (c.next.advance count).digitAhead = true
  · rw [if_pos hmore] at h
    rw [hahead (Or.inr hmore), if_neg (by simp)]
    exact hend _ hskip h
  · rw [if_neg hmore] at h
    rw [skipDigits_of_not_digitAhead (by simpa using hmore)] at hskip
    by_cases hcount : count = 0
    · rw [if_pos hcount] at h
      cases h
    · rw [if_neg hcount] at h
      rw [hahead (Or.inl hcount), if_neg (by simp)]
      exact hend _ hskip h

theorem skipAfter_of_afterInteger {negative : Bool} {significand : Nat} {before : Int}
    {plain : Except Fault (Number × Cursor)} (hplain : ∀ n' d, plain = .ok (n', d) → d = c)
    (h : afterInteger negative significand before c plain = .ok (n, c')) : c.skipAfter = .ok c' := by
  unfold afterInteger at h
  by_cases hpoint : c.peek? = some '.'
  · rw [if_pos (by simp [hpoint])] at h
    exact skipAfter_of_fraction hpoint h
  · rw [if_neg (by simpa using hpoint)] at h
    unfold skipAfter
    rw [if_neg (by simpa using hpoint)]
    split_ifs at h ⊢ with hexponent
    · exact skipExponent_of_exponent h
    · rw [hplain n c' h]

theorem skipNumber_eq (hdigit : c.digitAhead = true)
    (hzero : ¬ (c.peek? == some '0' && c.next.digitAhead) = true) :
    c.skipNumber = c.skipDigits.skipAfter := by
  unfold skipNumber
  rw [hdigit, if_neg (by simp), if_neg hzero]
  rfl

/-- A number that can be read is passed over. -/
theorem skipNumber_of_number {negative : Bool} (h : number negative c = .ok (n, c')) :
    c.skipNumber = .ok c' := by
  unfold number at h
  split at h
  · cases h
  · next rest hrest =>
    have hdigit : c.digitAhead = true := by simp [digitAhead, peek?, hrest, Text.isDigit]
    split_ifs at h with hmore
    have hzero : ¬ (c.peek? == some '0' && c.next.digitAhead) = true := by simp [hmore]
    have hnext : c.advance 1 = c.next := by simp [advance, next, hrest, Char.utf8Size]
    have hskip : c.skipDigits = c.next := by
      have hone : 1 ≤ (c.rest.takeWhile Text.isDigit).length := by simp [hrest, Text.isDigit]
      rw [← skipDigits_advance hone, hnext, skipDigits_of_not_digitAhead (by simpa using hmore)]
    rw [skipNumber_eq hdigit hzero, hskip]
    refine skipAfter_of_afterInteger (fun n' d hd => ?_) h
    cases hd
    rfl
  · next a rest hne hrest =>
    by_cases hdigit : Text.isDigit a = true
    · have hahead : c.digitAhead = true := by simp [digitAhead, peek?, hrest, hdigit]
      have hzero : ¬ (c.peek? == some '0' && c.next.digitAhead) = true := by
        simp [peek?, hrest]
        rintro rfl
        exact absurd rfl hne
      obtain ⟨hskip, -⟩ := skipDigits_appendDigits 0 c
      rw [if_neg (by simp [hdigit])] at h
      rw [skipNumber_eq hahead hzero]
      generalize appendDigits 0 0 c.rest = appended at h hskip
      obtain ⟨significand, count⟩ := appended
      dsimp only at h hskip
      split_ifs at h with hmore
      · rw [hskip] at h
        refine skipAfter_of_afterInteger (fun n' d hd => ?_) h
        exact double_eq_ok hd
      · rw [skipDigits_of_not_digitAhead (by simpa using hmore)] at hskip
        rw [hskip] at h
        refine skipAfter_of_afterInteger (fun n' d hd => ?_) h
        cases hd
        rfl
    · rw [if_pos (by simpa using hdigit)] at h
      cases h

/-! ### Quoted texts -/

theorem length_hexEscape {n : Nat} (h : c.hexEscape = .ok (n, c')) :
    c'.rest.length ≤ c.rest.length := by
  unfold hexEscape at h
  split_ifs at h
  split at h
  · cases h
    simp
  · cases h

theorem expectPairChar_eq_ok {a : Char} (h : c.expectPairChar a = .ok c') :
    (∃ more, c.rest = a :: more) ∧ c' = c.next := by
  unfold expectPairChar at h
  split at h
  · cases h
  · next b more hrest =>
    split_ifs at h with hab
    cases h
    exact ⟨⟨more, by rw [hrest, beq_iff_eq.mp hab]⟩, rfl⟩

/-- What stands after a `\\u`: one half of a surrogate pair is followed by the escape of the other. -/
theorem unicodeEscape_eq_ok {a : Char} (h : c.unicodeEscape = .ok (a, c')) :
    ∃ high d, c.hexEscape = .ok (high, d) ∧
      (c' = d ∨ ∃ more low, d.rest = '\\' :: 'u' :: more ∧ d.next.next.hexEscape = .ok (low, c')) := by
  unfold unicodeEscape at h
  cases hhigh : c.hexEscape with
  | error e => simp [hhigh, Bind.bind, Except.bind] at h
  | ok r =>
    obtain ⟨high, d⟩ := r
    refine ⟨high, d, rfl, ?_⟩
    rw [hhigh] at h
    simp only [Bind.bind, Except.bind, Pure.pure, Except.pure] at h
    split_ifs at h with hlone hplain
    · cases h
      exact Or.inl rfl
    · cases hslash : d.expectPairChar '\\' with
      | error e => simp [hslash] at h
      | ok slash =>
        obtain ⟨⟨more, hmore⟩, rfl⟩ := expectPairChar_eq_ok hslash
        rw [hslash] at h
        cases hu : d.next.expectPairChar 'u' with
        | error e => simp [hu] at h
        | ok pair =>
          obtain ⟨⟨rest, hrest⟩, rfl⟩ := expectPairChar_eq_ok hu
          simp only [hu] at h
          cases hlow : d.next.next.hexEscape with
          | error e => simp [hlow] at h
          | ok r =>
            obtain ⟨low, d'⟩ := r
            simp only [hlow] at h
            split_ifs at h with hpaired
            simp only [Except.ok.injEq, Prod.mk.injEq] at h
            obtain ⟨-, rfl⟩ := h
            refine Or.inr ⟨rest, low, ?_, rfl⟩
            have hmore' : d.next.rest = more := by simp [next, hmore]
            rw [hmore, ← hmore', hrest]

theorem length_next_lt {a : Char} {rest : List Char} (h : c.rest = a :: rest) :
    c.next.rest.length < c.rest.length := by
  simp [next, h]

/-- One character of a quoted text costs the pass some rounds, and no more than it has characters. -/
def PassesChar (c d : Cursor) : Prop :=
  ∃ k, k + 1 + d.rest.length ≤ c.rest.length ∧ ∀ fuel, skipString (k + 1 + fuel) c = skipString fuel d

variable {d : Cursor} {a : Char} {rest : List Char}

theorem passesChar_plain (hrest : c.rest = a :: rest) (hquote : a ≠ '"') (hslash : a ≠ '\\')
    (hcontrol : ¬ a.toNat < 0x20) : PassesChar c c.next := by
  have hshorter := length_next_lt hrest
  refine ⟨0, by omega, fun fuel => ?_⟩
  rw [Nat.zero_add, Nat.add_comm]
  simp [skipString, hrest, hcontrol]

theorem passesChar_simple (hrest : c.rest = '\\' :: a :: rest) (hu : a ≠ 'u')
    (hescape : (simpleEscape? a).isSome) : PassesChar c c.next.next := by
  have hnext : c.next.rest = a :: rest := by simp [next, hrest]
  have hshorter := length_next_lt hrest
  have hshorter' := length_next_lt hnext
  refine ⟨0, by omega, fun fuel => ?_⟩
  rw [Nat.zero_add, Nat.add_comm]
  simp [skipString, hrest, hescape]

theorem skipString_unicode {high : Nat} (hrest : c.rest = '\\' :: 'u' :: rest)
    (h : c.next.next.hexEscape = .ok (high, d)) :
    d.rest.length < c.rest.length ∧ ∀ fuel, skipString (fuel + 1) c = skipString fuel d := by
  have hnext : c.next.rest = 'u' :: rest := by simp [next, hrest]
  have hshorter := length_next_lt hrest
  have hshorter' := length_next_lt hnext
  have hescape := length_hexEscape h
  refine ⟨by omega, fun fuel => ?_⟩
  simp only [skipString, hrest, h]

theorem passesChar_unicode (hrest : c.rest = '\\' :: 'u' :: rest)
    (h : c.next.next.unicodeEscape = .ok (a, d)) : PassesChar c d := by
  obtain ⟨high, e, hhigh, hpair⟩ := unicodeEscape_eq_ok h
  obtain ⟨hshorter, hfirst⟩ := skipString_unicode hrest hhigh
  rcases hpair with rfl | ⟨more, low, hsecond, hlow⟩
  · refine ⟨0, by omega, fun fuel => ?_⟩
    rw [Nat.zero_add, Nat.add_comm, hfirst]
  · -- the second half of a pair takes the pass another round
    obtain ⟨hshorter', hhalf⟩ := skipString_unicode hsecond hlow
    refine ⟨1, by omega, fun fuel => ?_⟩
    rw [Nat.add_comm, hfirst, hhalf]

/-- One round of the reader: the text ends, or one character of it is read. -/
theorem stringFrom_eq_ok {s : String} {fuel : Nat} {read : List Char}
    (h : stringFrom (fuel + 1) read c = .ok (s, c')) :
    (∃ rest, c.rest = '"' :: rest ∧ c' = c.next) ∨
      ∃ a d, PassesChar c d ∧ stringFrom fuel (a :: read) d = .ok (s, c') := by
  rw [stringFrom] at h
  split at h
  · cases h
  · next rest hrest =>
    cases h
    exact Or.inl ⟨rest, hrest, rfl⟩
  · next rest hrest =>
    split at h
    · cases h
    · next more =>
      cases hescape : c.next.next.unicodeEscape with
      | error e => simp [hescape] at h
      | ok r =>
        rw [hescape] at h
        exact Or.inr ⟨r.1, r.2, passesChar_unicode hrest hescape, h⟩
    · next a more hu =>
      cases hescape : simpleEscape? a with
      | none => simp [hescape] at h
      | some b =>
        rw [hescape] at h
        exact Or.inr ⟨b, _, passesChar_simple hrest (fun ha => hu ha) (by simp [hescape]), h⟩
  · next a rest hquote hslash hrest =>
    split_ifs at h with hcontrol
    exact Or.inr ⟨a, _, passesChar_plain hrest (fun ha => hquote ha) (fun ha => hslash ha) hcontrol, h⟩

/-- **A quoted text that can be read is passed over.** -/
theorem skipString_of_stringFrom {s : String} (fuel : Nat) (read : List Char) (c : Cursor)
    (h : stringFrom fuel read c = .ok (s, c')) :
    c'.rest.length < c.rest.length ∧
      ∀ fuel', c.rest.length < fuel' → skipString fuel' c = .ok c' := by
  induction fuel generalizing read c with
  | zero => cases h
  | succ fuel ih =>
    obtain ⟨rest, hrest, rfl⟩ | ⟨a, d, ⟨k, hk, hpass⟩, hlater⟩ := stringFrom_eq_ok h
    · refine ⟨length_next_lt hrest, fun fuel' hfuel => ?_⟩
      obtain ⟨fuel', rfl⟩ := Nat.exists_eq_succ_of_ne_zero (Nat.ne_zero_of_lt hfuel)
      simp only [skipString, hrest]
    · obtain ⟨hlength, hskip⟩ := ih _ _ hlater
      refine ⟨by omega, fun fuel' hfuel => ?_⟩
      obtain ⟨more, rfl⟩ : ∃ more, fuel' = k + 1 + more := ⟨fuel' - (k + 1), by omega⟩
      rw [hpass]
      exact hskip more (by omega)

/-! ### Scalars -/

theorem length_next_le (c : Cursor) : c.next.rest.length ≤ c.rest.length := by
  obtain ⟨rest, offset⟩ := c
  cases rest with
  | nil => exact Nat.le_refl _
  | cons a rest => exact Nat.le_succ _

theorem length_skipDigits_le (c : Cursor) : c.skipDigits.rest.length ≤ c.rest.length := by
  simp [skipDigits]

theorem length_skipExponent (h : c.skipExponent = .ok c') : c'.rest.length ≤ c.rest.length := by
  unfold skipExponent at h
  dsimp only at h
  have hnext := c.length_next_le
  have hsign := c.next.length_next_le
  split_ifs at h
  · cases h
    have hdigits := c.next.next.length_skipDigits_le
    omega
  · cases h
    have hdigits := c.next.length_skipDigits_le
    omega

theorem length_skipAfter (h : c.skipAfter = .ok c') : c'.rest.length ≤ c.rest.length := by
  unfold skipAfter at h
  dsimp only at h
  have hnext := c.length_next_le
  have hdigits := c.next.length_skipDigits_le
  split_ifs at h
  · have hexponent := length_skipExponent h
    omega
  · cases h
    omega
  · exact length_skipExponent h
  · cases h
    exact Nat.le_refl _

theorem length_skipNumber (h : c.skipNumber = .ok c') : c'.rest.length < c.rest.length := by
  by_cases hdigit : c.digitAhead = true
  · have hshorter := length_skipDigits hdigit
    by_cases hzero : (c.peek? == some '0' && c.next.digitAhead) = true
    · simp [skipNumber, hdigit, hzero] at h
    · rw [skipNumber_eq hdigit hzero] at h
      have hafter := length_skipAfter h
      omega
  · simp [skipNumber, hdigit] at h

theorem length_literal {word : List Char} (h : c.literal word = .ok c') :
    c'.rest.length ≤ c.rest.length := by
  induction word generalizing c with
  | nil =>
    cases h
    exact Nat.le_refl _
  | cons a word ih =>
    rw [literal] at h
    split at h
    · cases h
    · split_ifs at h
      have hnext := c.length_next_le
      have hword := ih h
      omega

theorem map_eq_ok {α β : Type} {r : Except Fault α} {f : α → β} {b : β} (h : r.map f = .ok b) :
    ∃ a, r = .ok a ∧ f a = b := by
  cases r with
  | error e => cases h
  | ok a =>
    cases h
    exact ⟨a, rfl, rfl⟩

theorem skip_word {a : Char} {rest word : List Char} {j j' : Json} (hrest : c.rest = a :: rest)
    (h : (c.next.literal word).map (j, ·) = .ok (j', c')) :
    some (c.next.literal word) = some (.ok c') ∧ c'.rest.length < c.rest.length := by
  obtain ⟨d, hd, heq⟩ := map_eq_ok h
  cases heq
  have hshorter := length_next_lt hrest
  have hliteral := length_literal hd
  exact ⟨congrArg some hd, by omega⟩

/-- **A scalar that can be read is passed over.** -/
theorem skipScalar?_of_scalar? {j : Json} (h : c.scalar? = some (.ok (j, c'))) :
    c.skipScalar? = some (.ok c') ∧ c'.rest.length < c.rest.length := by
  unfold scalar? at h
  unfold skipScalar?
  split at h
  · next rest hrest => exact skip_word hrest (Option.some.inj h)
  · next rest hrest => exact skip_word hrest (Option.some.inj h)
  · next rest hrest => exact skip_word hrest (Option.some.inj h)
  · next rest hrest =>
    obtain ⟨⟨n, d⟩, hnumber, heq⟩ := map_eq_ok (Option.some.inj h)
    cases heq
    have hshorter := length_next_lt hrest
    have hskip := skipNumber_of_number hnumber
    have hlength := length_skipNumber hskip
    exact ⟨congrArg some hskip, by omega⟩
  · next rest hrest =>
    obtain ⟨⟨s, d⟩, hstring, heq⟩ := map_eq_ok (Option.some.inj h)
    cases heq
    have hshorter := length_next_lt hrest
    obtain ⟨hlength, hskip⟩ := skipString_of_stringFrom _ _ _ hstring
    exact ⟨congrArg some (hskip _ (by omega)), by omega⟩
  · next a rest hn ht hf hminus hquote hrest =>
    split_ifs at h ⊢ with hdigit
    obtain ⟨⟨n, d⟩, hnumber, heq⟩ := map_eq_ok (Option.some.inj h)
    cases heq
    have hskip := skipNumber_of_number hnumber
    exact ⟨congrArg some hskip, length_skipNumber hskip⟩
  · cases h

end HostedScripts.Json.Cursor
