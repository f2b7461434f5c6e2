import HostedScripts.Proofs.Json.Skipping

/-! # Reading, told without fuel

What `Cursor.elementsFrom` and `Cursor.membersFrom` read is told by two relations with one constructor for
each round of the loop (`Elements`, `Members`), and what stands at a cursor where a document can be read by
`Document`. The loops have a round for every character left, which is more than they need (`length_lt`), so
nothing that the relations tell is missed (`value_eq_ok_iff`).

A document that can be read is passed over, up to its end (`skip_of_value`). One document costs the pass at
most three rounds for each of its characters (`Passes`), which is what it is given. -/

namespace HostedScripts.Json.Cursor

variable {α β : Type} {c c' d : Cursor}

/-! ### Loops -/

/-- The elements of an array are read one after the other. -/
inductive Elements (item : Cursor → Except Fault (α × Cursor)) :
    Bool → Cursor → List α → Cursor → Prop
  | close {first : Bool} {c d : Cursor} (hahead : c.elementAhead first = .ok (false, d)) :
    Elements item first c [] d.next
  | element {first : Bool} {c d e c' : Cursor} {a : α} {as : List α}
    (hahead : c.elementAhead first = .ok (true, d)) (hitem : item d = .ok (a, e))
    (hrest : Elements item false e as c') : Elements item first c (a :: as) c'


/-- The members of an object are read one after the other. -/
inductive Members (item : Cursor → Except Fault (α × Cursor)) :
    Bool → Cursor → List (String × α) → Cursor → Prop
  | close {first : Bool} {c d : Cursor} (hahead : c.memberAhead first = .ok (false, d)) :
    Members item first c [] d.next
  | member {first : Bool} {c d e₁ e₂ e₃ c' : Cursor} {name : String} {a : α} {ms : List (String × α)}
    (hahead : c.memberAhead first = .ok (true, d)) (hname : d.next.string = .ok (name, e₁))
    (hcolon : e₁.colon = .ok e₂) (hitem : item e₂ = .ok (a, e₃)) (hrest : Members item false e₃ ms c') :
    Members item first c ((name, a) :: ms) c'

variable {item : Cursor → Except Fault (α × Cursor)} {first : Bool}

theorem elements_of_elementsFrom {fuel : Nat} {read as : List α}
    (h : elementsFrom item fuel first read c = .ok (as, c')) :
    ∃ more, as = read.reverse ++ more ∧ Elements item first c more c' := by
  induction fuel generalizing first read c with
  | zero => cases h
  | succ fuel ih =>
    rw [elementsFrom] at h
    split at h
    · cases h
    · next d hahead =>
      cases h
      exact ⟨[], (List.append_nil _).symm, .close hahead⟩
    · next d hahead =>
      split at h
      · cases h
      · next a e hitem =>
        obtain ⟨more, rfl, hmore⟩ := ih h
        exact ⟨a :: more, by simp, .element hahead hitem hmore⟩

theorem members_of_membersFrom {fuel : Nat} {read ms : List (String × α)}
    (h : membersFrom item fuel first read c = .ok (ms, c')) :
    ∃ more, ms = read.reverse ++ more ∧ Members item first c more c' := by
  induction fuel generalizing first read c with
  | zero => cases h
  | succ fuel ih =>
    rw [membersFrom] at h
    split at h
    · cases h
    · next d hahead =>
      cases h
      exact ⟨[], (List.append_nil _).symm, .close hahead⟩
    · next d hahead =>
      split at h
      · cases h
      · next name e₁ hname =>
        split at h
        · cases h
        · next e₂ hcolon =>
          split at h
          · cases h
          · next a e₃ hitem =>
            obtain ⟨more, rfl, hmore⟩ := ih h
            exact ⟨(name, a) :: more, by simp, .member hahead hname hcolon hitem hmore⟩

theorem Elements.elementsFrom {as : List α} (h : Elements item first c as c') (fuel : Nat)
    (hfuel : as.length < fuel) (read : List α) :
    elementsFrom item fuel first read c = .ok (read.reverse ++ as, c') := by
  induction h generalizing fuel read with
  | close hahead =>
    obtain ⟨fuel, rfl⟩ := Nat.exists_eq_succ_of_ne_zero (Nat.ne_zero_of_lt hfuel)
    rw [Cursor.elementsFrom, hahead]
    simp
  | @element first c d e c' a as hahead hitem hrest ih =>
    obtain ⟨fuel, rfl⟩ := Nat.exists_eq_succ_of_ne_zero (Nat.ne_zero_of_lt hfuel)
    rw [Cursor.elementsFrom, hahead]
    dsimp only
    rw [hitem]
    dsimp only
    rw [ih fuel (Nat.lt_of_succ_lt_succ hfuel)]
    simp

theorem Members.membersFrom {ms : List (String × α)} (h : Members item first c ms c') (fuel : Nat)
    (hfuel : ms.length < fuel) (read : List (String × α)) :
    membersFrom item fuel first read c = .ok (read.reverse ++ ms, c') := by
  induction h generalizing fuel read with
  | close hahead =>
    obtain ⟨fuel, rfl⟩ := Nat.exists_eq_succ_of_ne_zero (Nat.ne_zero_of_lt hfuel)
    rw [Cursor.membersFrom, hahead]
    simp
  | @member first c d e₁ e₂ e₃ c' name a ms hahead hname hcolon hitem hrest ih =>
    obtain ⟨fuel, rfl⟩ := Nat.exists_eq_succ_of_ne_zero (Nat.ne_zero_of_lt hfuel)
    rw [Cursor.membersFrom, hahead]
    dsimp only
    rw [hname]
    dsimp only
    rw [hcolon]
    dsimp only
    rw [hitem]
    dsimp only
    rw [ih fuel (Nat.lt_of_succ_lt_succ hfuel)]
    simp

/-! ### What is ahead -/

theorem skipSpace_skipSpace (c : Cursor) : c.skipSpace.skipSpace = c.skipSpace := by
  have hhead := List.head?_dropWhile_not isSpace c.rest
  unfold skipSpace
  cases hrest : c.rest.dropWhile isSpace with
  | nil => simp
  | cons a rest =>
    rw [hrest] at hhead
    simp [show isSpace a = false from hhead]

theorem length_skipSpace_le (c : Cursor) : c.skipSpace.rest.length ≤ c.rest.length := by
  unfold skipSpace
  exact (List.dropWhile_suffix _).length_le

theorem close_of_elementAhead (h : c.elementAhead first = .ok (false, d)) :
    d = c.skipSpace ∧ ∃ rest, d.rest = ']' :: rest := by
  unfold elementAhead at h
  dsimp only at h
  split at h
  · cases h
  · next rest hrest =>
    cases h
    exact ⟨rfl, rest, hrest⟩
  · split_ifs at h
    · cases h
    · split at h
      · cases h
      · cases h
      · cases h

theorem first_of_elementAhead (h : c.elementAhead true = .ok (true, d)) :
    d = c.skipSpace ∧ ∃ a rest, d.rest = a :: rest ∧ a ≠ ']' := by
  unfold elementAhead at h
  dsimp only at h
  split at h
  · cases h
  · cases h
  · next a rest hclose hrest =>
    cases h
    exact ⟨rfl, a, rest, hrest, fun ha => hclose ha⟩

theorem next_of_elementAhead (h : c.elementAhead false = .ok (true, d)) :
    d = c.skipSpace.next.skipSpace ∧ ∃ rest, c.skipSpace.rest = ',' :: rest := by
  unfold elementAhead at h
  dsimp only at h
  split at h
  · cases h
  · cases h
  · next a rest hclose hrest =>
    rw [if_neg (by simp)] at h
    split_ifs at h with hcomma
    split at h
    · cases h
    · cases h
    · cases h
      exact ⟨rfl, rest, by rw [hrest, beq_iff_eq.mp hcomma]⟩

theorem close_of_memberAhead (h : c.memberAhead first = .ok (false, d)) :
    d = c.skipSpace ∧ ∃ rest, d.rest = '\x7d' :: rest := by
  unfold memberAhead at h
  dsimp only at h
  split at h
  · cases h
  · next rest hrest =>
    cases h
    exact ⟨rfl, rest, hrest⟩
  · split_ifs at h
    · cases h
    · split at h
      · cases h
      · cases h
      · cases h
      · cases h

theorem first_of_memberAhead (h : c.memberAhead true = .ok (true, d)) :
    d = c.skipSpace ∧ ∃ rest, d.rest = '"' :: rest := by
  unfold memberAhead at h
  dsimp only at h
  split at h
  · cases h
  · cases h
  · next a rest hclose hrest =>
    rw [if_pos rfl] at h
    split_ifs at h with hquote
    cases h
    exact ⟨rfl, rest, by rw [hrest, beq_iff_eq.mp hquote]⟩

theorem next_of_memberAhead (h : c.memberAhead false = .ok (true, d)) :
    d = c.skipSpace.next.skipSpace ∧ (∃ rest, c.skipSpace.rest = ',' :: rest) ∧
      ∃ rest, d.rest = '"' :: rest := by
  unfold memberAhead at h
  dsimp only at h
  split at h
  · cases h
  · cases h
  · next a rest hclose hrest =>
    rw [if_neg (by simp)] at h
    split_ifs at h with hcomma
    split at h
    · cases h
    · next rest' hquote =>
      cases h
      exact ⟨rfl, ⟨rest, by rw [hrest, beq_iff_eq.mp hcomma]⟩, rest', hquote⟩
    · cases h
    · cases h

theorem colon_eq_ok (h : c.colon = .ok d) :
    d = c.skipSpace.next ∧ ∃ rest, c.skipSpace.rest = ':' :: rest := by
  unfold colon at h
  dsimp only at h
  split at h
  · cases h
  · next rest hrest =>
    cases h
    exact ⟨rfl, rest, hrest⟩
  · cases h

/-! ### Documents -/

/-- What stands at a cursor, where no more than a number of brackets may be open inside it. -/
inductive Document (depth : Nat) (c : Cursor) : Json → Cursor → Prop
  | scalar {j : Json} {c' : Cursor} (h : c.scalar? = some (.ok (j, c'))) : Document depth c j c'
  | array {rest : List Char} {es : List Json} {c' : Cursor} (hdepth : depth ≠ 0)
    (hrest : c.rest = '[' :: rest) (h : Elements (value depth) true c.next es c') :
    Document depth c (.array es) c'
  | object {rest : List Char} {ms : List (String × Json)} {c' : Cursor} (hdepth : depth ≠ 0)
    (hrest : c.rest = '\x7b' :: rest) (h : Members (value depth) true c.next ms c') :
    Document depth c (.object ms) c'

theorem document_of_value {depth : Nat} {j : Json} (h : value (depth + 1) c = .ok (j, c')) :
    Document depth c.skipSpace j c' := by
  rw [value] at h
  dsimp only at h
  split at h
  · next r hscalar => exact .scalar (h ▸ hscalar)
  · split at h
    · cases h
    · next rest hrest =>
      split_ifs at h with hdepth
      obtain ⟨⟨es, d⟩, hes, heq⟩ := map_eq_ok h
      cases heq
      obtain ⟨_, rfl, hmore⟩ := elements_of_elementsFrom hes
      exact .array hdepth hrest hmore
    · next rest hrest =>
      split_ifs at h with hdepth
      obtain ⟨⟨ms, d⟩, hms, heq⟩ := map_eq_ok h
      cases heq
      obtain ⟨_, rfl, hmore⟩ := members_of_membersFrom hms
      exact .object hdepth hrest hmore
    · cases h

/-! ### Passing over documents -/

/-- A pass gets from one cursor to the other over a document, with at most three rounds for each character
between them. -/
def Passes (c c' : Cursor) : Prop :=
  ∃ k, k + 1 + 3 * c'.rest.length ≤ 3 * c.rest.length ∧
    ∀ fuel stack, skipFrom (k + 1 + fuel) .value stack c = skipFrom fuel .closed stack c'

/-- The character that closes a bracket. -/
def Bracket.closing : Bracket → Char
  | .square => ']'
  | .curly => '\x7d'

/-- The stage of a pass between elements or members. -/
def Stage.between (first : Bool) : Stage := if first then .opened else .closed

variable {frame : Bracket} {stack : List Bracket} {rest : List Char} {fuel : Nat}

attribute [local simp] skipFrom

theorem skipFrom_close (first : Bool) {a : Char} (hrest : c.skipSpace.rest = a :: rest)
    (ha : a = frame.closing) :
    skipFrom (fuel + 1) (.between first) (frame :: stack) c =
      skipFrom fuel .closed stack c.skipSpace.next := by
  cases first <;> cases frame <;> (subst ha; simp [Stage.between, hrest, Bracket.closing])

theorem skipFrom_first {a : Char} (hrest : c.skipSpace.rest = a :: rest)
    (ha : a ≠ frame.closing) :
    skipFrom (fuel + 1) .opened (frame :: stack) c = skipFrom fuel .member (frame :: stack) c.skipSpace := by
  cases frame <;> simp_all [Bracket.closing]

theorem skipFrom_comma (hrest : c.skipSpace.rest = ',' :: rest) :
    skipFrom (fuel + 1) .closed (frame :: stack) c =
      skipFrom fuel .member (frame :: stack) c.skipSpace.next := by
  simp [hrest]

theorem Passes.of_skipSpace (h : Passes c.skipSpace c') : Passes c c' := by
  obtain ⟨k, hk, hskip⟩ := h
  have hspace := c.length_skipSpace_le
  refine ⟨k, by omega, fun fuel stack => ?_⟩
  rw [← hskip, Nat.add_right_comm, skipFrom, skipFrom, skipSpace_skipSpace]

/-- The rounds for the elements of an array; the closing bracket leaves two to spare, for the start of an
element that has no comma before it. -/
theorem Elements.passes (hitem : ∀ {c a c'}, item c = .ok (a, c') → Passes c c') {as : List α}
    (h : Elements item first c as c') :
    ∃ k, k + (if first then 0 else 2) + 3 * c'.rest.length ≤ 3 * c.rest.length ∧
      ∀ fuel stack, skipFrom (k + fuel) (.between first) (.square :: stack) c =
        skipFrom fuel .closed stack c' := by
  induction h with
  | @close first c d hahead =>
    obtain ⟨rfl, rest, hrest⟩ := close_of_elementAhead hahead
    have hspace := c.length_skipSpace_le
    have hshorter := length_next_lt hrest
    refine ⟨1, by split_ifs <;> omega, fun fuel stack => ?_⟩
    rw [Nat.add_comm]
    exact skipFrom_close first hrest rfl
  | @element first c d e c' a as hahead hread hrest ih =>
    obtain ⟨more, hmore, hlater⟩ := ih
    rw [if_neg (by decide)] at hmore
    have hspace := c.length_skipSpace_le
    cases first with
    | true =>
      obtain ⟨rfl, b, rest, hb, hne⟩ := first_of_elementAhead hahead
      have hclose : b ≠ Bracket.closing .square := hne
      obtain ⟨k, hk, hskip⟩ := hitem hread
      refine ⟨k + 1 + more + 2, by simp; omega, fun fuel stack => ?_⟩
      rw [show k + 1 + more + 2 + fuel = k + 1 + (more + fuel) + 1 + 1 by omega, Stage.between, if_pos rfl,
        skipFrom_first hb hclose]
      exact (hskip _ _).trans (hlater fuel stack)
    | false =>
      obtain ⟨rfl, rest, hcomma⟩ := next_of_elementAhead hahead
      obtain ⟨k, hk, hskip⟩ := (hitem hread).of_skipSpace
      have hshorter := length_next_lt hcomma
      refine ⟨k + 1 + more + 2, by simp; omega, fun fuel stack => ?_⟩
      rw [show k + 1 + more + 2 + fuel = k + 1 + (more + fuel) + 1 + 1 by omega, Stage.between,
        if_neg (by decide), skipFrom_comma hcomma]
      exact (hskip _ _).trans (hlater fuel stack)

/-- In front of the value of a member, a pass gets over the name and the colon. -/
theorem skipFrom_member {e₁ e₂ : Cursor} {name : String} (hquote : c.skipSpace.rest = '"' :: rest)
    (hname : c.skipSpace.next.string = .ok (name, e₁)) (hcolon : e₁.colon = .ok e₂) :
    e₂.rest.length + 1 < c.rest.length ∧ ∀ fuel stack,
      skipFrom (fuel + 1) .member (.curly :: stack) c = skipFrom fuel .value (.curly :: stack) e₂ := by
  obtain ⟨hlength, hskip⟩ := skipString_of_stringFrom _ _ _ hname
  have hshorter := length_next_lt hquote
  have hspace := c.length_skipSpace_le
  obtain ⟨rfl, more, hmore⟩ := colon_eq_ok hcolon
  have hshorter' := length_next_lt hmore
  have hspace' := e₁.length_skipSpace_le
  refine ⟨by omega, fun fuel stack => ?_⟩
  simp only [skipFrom, hquote]
  rw [hskip _ (by rw [← hquote]; omega)]
  dsimp only
  rw [hcolon]

theorem Members.passes (hitem : ∀ {c a c'}, item c = .ok (a, c') → Passes c c')
    {ms : List (String × α)} (h : Members item first c ms c') :
    ∃ k, k + (if first then 0 else 2) + 3 * c'.rest.length ≤ 3 * c.rest.length ∧
      ∀ fuel stack, skipFrom (k + fuel) (.between first) (.curly :: stack) c =
        skipFrom fuel .closed stack c' := by
  induction h with
  | @close first c d hahead =>
    obtain ⟨rfl, rest, hrest⟩ := close_of_memberAhead hahead
    have hspace := c.length_skipSpace_le
    have hshorter := length_next_lt hrest
    refine ⟨1, by split_ifs <;> omega, fun fuel stack => ?_⟩
    rw [Nat.add_comm]
    exact skipFrom_close first hrest rfl
  | @member first c d e₁ e₂ e₃ c' name a ms hahead hname hcolon hread hrest ih =>
    obtain ⟨k, hk, hskip⟩ := hitem hread
    obtain ⟨more, hmore, hlater⟩ := ih
    rw [if_neg (by decide)] at hmore
    have hspace := c.length_skipSpace_le
    cases first with
    | true =>
      obtain ⟨rfl, rest, hquote⟩ := first_of_memberAhead hahead
      have hclose : '"' ≠ Bracket.closing .curly := by decide
      obtain ⟨hlength, hmember⟩ : e₂.rest.length + 1 < c.skipSpace.rest.length ∧ _ :=
        skipFrom_member (by rw [skipSpace_skipSpace]; exact hquote) (by rwa [skipSpace_skipSpace]) hcolon
      refine ⟨k + 1 + more + 2, by simp; omega, fun fuel stack => ?_⟩
      rw [show k + 1 + more + 2 + fuel = k + 1 + (more + fuel) + 1 + 1 by omega, Stage.between, if_pos rfl,
        skipFrom_first hquote hclose, hmember, hskip]
      exact hlater fuel stack
    | false =>
      obtain ⟨rfl, ⟨rest, hcomma⟩, rest', hquote⟩ := next_of_memberAhead hahead
      have hshorter := length_next_lt hcomma
      obtain ⟨hlength, hmember⟩ := skipFrom_member hquote hname hcolon
      refine ⟨k + 1 + more + 2, by simp; omega, fun fuel stack => ?_⟩
      rw [show k + 1 + more + 2 + fuel = k + 1 + (more + fuel) + 1 + 1 by omega, Stage.between,
        if_neg (by decide), skipFrom_comma hcomma, hmember, hskip]
      exact hlater fuel stack

/-- **A document that can be read is passed over.** -/
theorem passes_of_value {depth : Nat} {j : Json} (h : value depth c = .ok (j, c')) : Passes c c' := by
  induction depth generalizing c c' j with
  | zero => cases h
  | succ depth ih =>
    refine Passes.of_skipSpace ?_
    have hspace := c.skipSpace_skipSpace
    have hdocument := document_of_value h
    generalize c.skipSpace = c at hspace hdocument
    cases hdocument with
    | scalar hscalar =>
      obtain ⟨hskip, hshorter⟩ := skipScalar?_of_scalar? hscalar
      refine ⟨0, by omega, fun fuel stack => ?_⟩
      rw [Nat.zero_add, Nat.add_comm, skipFrom, hspace, hskip]
    | @array rest es _ hdepth hrest hes =>
      obtain ⟨k, hk, hskip⟩ := hes.passes ih
      have hshorter := length_next_lt hrest
      rw [if_pos rfl] at hk
      refine ⟨k, by omega, fun fuel stack => ?_⟩
      rw [Nat.add_right_comm, ← hskip, skipFrom, hspace]
      simp [skipScalar?, hrest, Text.isDigit, Stage.between]
    | @object rest ms _ hdepth hrest hms =>
      obtain ⟨k, hk, hskip⟩ := hms.passes ih
      have hshorter := length_next_lt hrest
      rw [if_pos rfl] at hk
      refine ⟨k, by omega, fun fuel stack => ?_⟩
      rw [Nat.add_right_comm, ← hskip, skipFrom, hspace]
      simp [skipScalar?, hrest, Text.isDigit, Stage.between]

theorem length_value {depth : Nat} {j : Json} (h : value depth c = .ok (j, c')) :
    c'.rest.length < c.rest.length := by
  obtain ⟨k, hk, -⟩ := passes_of_value h
  omega

/-- **A document that can be read is passed over**, up to its end. -/
theorem skip_of_value {depth : Nat} {j : Json} (h : value depth c = .ok (j, c')) : c.skip = .ok c' := by
  obtain ⟨k, hk, hskip⟩ := passes_of_value h
  unfold skip
  rw [show 3 * c.rest.length + 3 = k + 1 + (3 * c.rest.length + 1 - k + 1) by omega, hskip]
  rfl

/-! ### Rounds enough -/

theorem length_elementAhead {more : Bool} (h : c.elementAhead first = .ok (more, d)) :
    d.rest.length ≤ c.rest.length := by
  have hspace := c.length_skipSpace_le
  have hnext := c.skipSpace.length_next_le
  have hspace' := c.skipSpace.next.length_skipSpace_le
  rcases more with _ | _
  · obtain ⟨rfl, -⟩ := close_of_elementAhead h
    exact hspace
  · rcases first with _ | _
    · obtain ⟨rfl, -⟩ := next_of_elementAhead h
      omega
    · obtain ⟨rfl, -⟩ := first_of_elementAhead h
      exact hspace

theorem length_memberAhead {more : Bool} (h : c.memberAhead first = .ok (more, d)) :
    d.rest.length ≤ c.rest.length := by
  have hspace := c.length_skipSpace_le
  have hnext := c.skipSpace.length_next_le
  have hspace' := c.skipSpace.next.length_skipSpace_le
  rcases more with _ | _
  · obtain ⟨rfl, -⟩ := close_of_memberAhead h
    exact hspace
  · rcases first with _ | _
    · obtain ⟨rfl, -⟩ := next_of_memberAhead h
      omega
    · obtain ⟨rfl, -⟩ := first_of_memberAhead h
      exact hspace

theorem Elements.length_lt (hitem : ∀ {c a c'}, item c = .ok (a, c') → c'.rest.length < c.rest.length)
    {as : List α} (h : Elements item first c as c') : as.length < c.rest.length := by
  induction h with
  | close hahead =>
    obtain ⟨-, rest, hrest⟩ := close_of_elementAhead hahead
    have hlength := length_elementAhead hahead
    rw [hrest] at hlength
    exact Nat.lt_of_lt_of_le (Nat.succ_pos _) hlength
  | element hahead hread hrest ih =>
    have hlength := length_elementAhead hahead
    have hshorter := hitem hread
    rw [List.length_cons]
    omega

theorem Members.length_lt (hitem : ∀ {c a c'}, item c = .ok (a, c') → c'.rest.length < c.rest.length)
    {ms : List (String × α)} (h : Members item first c ms c') : ms.length < c.rest.length := by
  induction h with
  | close hahead =>
    obtain ⟨-, rest, hrest⟩ := close_of_memberAhead hahead
    have hlength := length_memberAhead hahead
    rw [hrest] at hlength
    exact Nat.lt_of_lt_of_le (Nat.succ_pos _) hlength
  | @member first c d e₁ e₂ e₃ c' name a ms hahead hname hcolon hread hrest ih =>
    have hlength := length_memberAhead hahead
    have hnext := d.length_next_le
    have hstring := (skipString_of_stringFrom _ _ _ hname).1
    obtain ⟨rfl, -⟩ := colon_eq_ok hcolon
    have hspace := e₁.length_skipSpace_le
    have hnext' := e₁.skipSpace.length_next_le
    have hshorter := hitem hread
    rw [List.length_cons]
    omega

theorem value_eq_ok_iff {depth : Nat} {j : Json} :
    value (depth + 1) c = .ok (j, c') ↔ Document depth c.skipSpace j c' := by
  refine ⟨document_of_value, fun h => ?_⟩
  rw [value]
  cases h with
  | scalar hscalar =>
    dsimp only
    rw [hscalar]
  | @array rest es _ hdepth hrest hes =>
    have hfuel := hes.length_lt length_value
    have hshorter := length_next_lt hrest
    have hread := hes.elementsFrom (c.skipSpace.rest.length + 1) (by omega) []
    have hscalar : c.skipSpace.scalar? = none := by simp [scalar?, hrest, Text.isDigit]
    rw [hrest, List.length_cons] at hread
    simp [hscalar, hrest, hdepth, hread, Except.map]
  | @object rest ms _ hdepth hrest hms =>
    have hfuel := hms.length_lt length_value
    have hshorter := length_next_lt hrest
    have hread := hms.membersFrom (c.skipSpace.rest.length + 1) (by omega) []
    have hscalar : c.skipSpace.scalar? = none := by simp [scalar?, hrest, Text.isDigit]
    rw [hrest, List.length_cons] at hread
    simp [hscalar, hrest, hdepth, hread, Except.map]

end HostedScripts.Json.Cursor
