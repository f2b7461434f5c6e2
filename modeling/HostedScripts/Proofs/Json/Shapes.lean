import HostedScripts.Json.Shape
import HostedScripts.Proofs.Json.Reading

/-! # Shapes without records

A shape without records in it (`Simple`) reads exactly the documents that it admits, and gives them back as
they are (`Simple.read_eq_ok_iff`). The proof is by induction on the shape: the three scalar shapes look at
the same scalar as `Cursor.value`, and the loops over arrays and objects differ only in what they do with one
element (`Cursor.elements_iff`, `Cursor.members_iff`). -/

namespace HostedScripts.Json

/-- A shape that keeps a document as it is: there are no records in it. -/
inductive Simple : Shape → Prop
  | any : Simple .any
  | text (expected : String) : Simple (.text expected)
  | bool : Simple .bool
  | natural (expected : String) : Simple (.natural expected)
  | optional {shape : Shape} (h : Simple shape) : Simple (.optional shape)
  | list {shape : Shape} (h : Simple shape) : Simple (.list shape)
  | dictionary {shape : Shape} (h : Simple shape) : Simple (.dictionary shape)

/-- What a simple shape admits. -/
inductive Admits : Shape → Json → Prop
  | any (j : Json) : Admits .any j
  | text (expected s : String) : Admits (.text expected) (.string s)
  | bool (b : Bool) : Admits .bool (.bool b)
  | natural (expected : String) (n : Nat) : Admits (.natural expected) (.int n)
  | null (shape : Shape) : Admits (.optional shape) .null
  | optional {shape : Shape} {j : Json} (h : Admits shape j) : Admits (.optional shape) j
  | list {shape : Shape} {es : List Json} (h : ∀ e ∈ es, Admits shape e) :
    Admits (.list shape) (.array es)
  | dictionary {shape : Shape} {ms : List (String × Json)} (h : ∀ m ∈ ms, Admits shape m.2) :
    Admits (.dictionary shape) (.object ms)

namespace Cursor

variable {c c' : Cursor} {j : Json} {a : Char} {rest : List Char}

/-! ### Scalars -/

/-- What stands at a cursor where a scalar can be read. -/
inductive Scalar (c c' : Cursor) : Json → Prop
  | null {rest : List Char} (hrest : c.rest = 'n' :: rest)
    (h : c.next.literal ['u', 'l', 'l'] = .ok c') : Scalar c c' .null
  | true {rest : List Char} (hrest : c.rest = 't' :: rest)
    (h : c.next.literal ['r', 'u', 'e'] = .ok c') : Scalar c c' (.bool true)
  | false {rest : List Char} (hrest : c.rest = 'f' :: rest)
    (h : c.next.literal ['a', 'l', 's', 'e'] = .ok c') : Scalar c c' (.bool false)
  | string {rest : List Char} {s : String} (hrest : c.rest = '"' :: rest)
    (h : c.next.string = .ok (s, c')) : Scalar c c' (.string s)
  | number {a : Char} {rest : List Char} {n : Number} {j : Json} (hrest : c.rest = a :: rest)
    (ha : a = '-' ∨ Text.isDigit a = true) (hj : n.toJson = j) : Scalar c c' j

theorem scalar_of_scalar? (h : c.scalar? = some (.ok (j, c'))) : Scalar c c' j := by
  unfold scalar? at h
  split at h
  · next rest hrest =>
    obtain ⟨d, hd, heq⟩ := map_eq_ok (Option.some.inj h)
    cases heq
    exact .null hrest hd
  · next rest hrest =>
    obtain ⟨d, hd, heq⟩ := map_eq_ok (Option.some.inj h)
    cases heq
    exact .true hrest hd
  · next rest hrest =>
    obtain ⟨d, hd, heq⟩ := map_eq_ok (Option.some.inj h)
    cases heq
    exact .false hrest hd
  · next rest hrest =>
    obtain ⟨⟨n, d⟩, hd, heq⟩ := map_eq_ok (Option.some.inj h)
    cases heq
    exact .number hrest (Or.inl rfl) rfl
  · next rest hrest =>
    obtain ⟨⟨s, d⟩, hd, heq⟩ := map_eq_ok (Option.some.inj h)
    cases heq
    exact .string hrest hd
  · next a rest hn ht hf hminus hquote hrest =>
    split_ifs at h with hdigit
    obtain ⟨⟨n, d⟩, hd, heq⟩ := map_eq_ok (Option.some.inj h)
    cases heq
    exact .number hrest (Or.inr hdigit) rfl
  · cases h

theorem ahead_of_cons (h : c.skipSpace.rest = a :: rest) : c.ahead = .ok c.skipSpace := by
  simp [ahead, h]

theorem ahead_eq_ok (h : c.ahead = .ok c') :
    c' = c.skipSpace ∧ ∃ a rest, c.skipSpace.rest = a :: rest := by
  unfold ahead at h
  dsimp only at h
  split_ifs at h with hempty
  cases h
  obtain ⟨a, rest, hrest⟩ := List.exists_cons_of_ne_nil (by simpa using hempty)
  exact ⟨rfl, a, rest, hrest⟩

theorem bind_eq_ok {α β : Type} {r : Except Fault α} {f : α → Except Fault β} {b : β}
    (h : r >>= f = .ok b) : ∃ a, r = .ok a ∧ f a = .ok b := by
  cases r with
  | error e => cases h
  | ok a => exact ⟨a, rfl, h⟩

theorem text_eq_ok_iff (expected : String) :
    c.text expected = .ok (j, c') ↔
      c.skipSpace.scalar? = some (.ok (j, c')) ∧ Admits (.text expected) j := by
  constructor
  · intro h
    obtain ⟨d, hd, h⟩ := bind_eq_ok h
    obtain ⟨rfl, a, rest, hrest⟩ := ahead_eq_ok hd
    split at h
    · next rest' hquote =>
      obtain ⟨⟨s, e⟩, hs, h⟩ := bind_eq_ok h
      cases h
      exact ⟨by simp [scalar?, hquote, hs, Except.map], .text expected s⟩
    · cases h
  · rintro ⟨h, ⟨⟩⟩
    cases scalar_of_scalar? h with
    | string hrest hs =>
      unfold text
      rw [ahead_of_cons hrest]
      simp [hrest, hs, Bind.bind, Except.bind, Pure.pure, Except.pure]
    | @number a rest n _ hrest ha hj => cases n <;> cases hj

theorem truth_eq_ok_iff :
    c.truth = .ok (j, c') ↔ c.skipSpace.scalar? = some (.ok (j, c')) ∧ Admits .bool j := by
  constructor
  · intro h
    obtain ⟨d, hd, h⟩ := bind_eq_ok h
    obtain ⟨rfl, a, rest, hrest⟩ := ahead_eq_ok hd
    split at h
    · next rest' hword =>
      obtain ⟨e, he, h⟩ := bind_eq_ok h
      cases h
      exact ⟨by simp [scalar?, hword, he, Except.map], .bool true⟩
    · next rest' hword =>
      obtain ⟨e, he, h⟩ := bind_eq_ok h
      cases h
      exact ⟨by simp [scalar?, hword, he, Except.map], .bool false⟩
    · cases h
  · rintro ⟨h, ⟨⟩⟩
    cases scalar_of_scalar? h with
    | true hrest hword =>
      unfold truth
      rw [ahead_of_cons hrest]
      simp [hrest, hword, Bind.bind, Except.bind, Pure.pure, Except.pure]
    | false hrest hword =>
      unfold truth
      rw [ahead_of_cons hrest]
      simp [hrest, hword, Bind.bind, Except.bind, Pure.pure, Except.pure]
    | @number a rest n _ hrest ha hj => cases n <;> cases hj

theorem exists_rest_of_scalar? (h : c.scalar? = some (.ok (j, c'))) : ∃ a rest, c.rest = a :: rest := by
  cases scalar_of_scalar? h with
  | null hrest => exact ⟨_, _, hrest⟩
  | true hrest => exact ⟨_, _, hrest⟩
  | false hrest => exact ⟨_, _, hrest⟩
  | string hrest => exact ⟨_, _, hrest⟩
  | number hrest => exact ⟨_, _, hrest⟩

theorem unsigned_eq_ok_iff (expected : String) :
    c.unsigned expected = .ok (j, c') ↔
      c.skipSpace.scalar? = some (.ok (j, c')) ∧ Admits (.natural expected) j := by
  constructor
  · intro h
    obtain ⟨d, hd, h⟩ := bind_eq_ok h
    obtain ⟨rfl, a, rest, hrest⟩ := ahead_eq_ok hd
    split at h
    · next n after hscalar =>
      split_ifs at h with hneg
      cases h
      obtain ⟨m, rfl⟩ : ∃ m : Nat, n = m := ⟨n.toNat, by omega⟩
      exact ⟨hscalar, .natural expected m⟩
    · cases h
  · rintro ⟨h, hadmits⟩
    obtain ⟨a, rest, hrest⟩ := exists_rest_of_scalar? h
    cases hadmits with
    | natural _ n =>
      have hneg : ¬ (n : Int) < 0 := by omega
      unfold unsigned
      rw [ahead_of_cons hrest]
      simp [h, hneg, Bind.bind, Except.bind, Pure.pure, Except.pure]

/-! ### Loops over what is admitted -/

variable {α : Type} {item item' : Cursor → Except Fault (α × Cursor)} {P : α → Prop} {first : Bool}

theorem elements_iff (h : ∀ {c a c'}, item' c = .ok (a, c') ↔ item c = .ok (a, c') ∧ P a)
    {as : List α} : Elements item' first c as c' ↔ Elements item first c as c' ∧ ∀ a ∈ as, P a := by
  constructor
  · intro hread
    induction hread with
    | close hahead => exact ⟨.close hahead, by simp⟩
    | element hahead hitem hrest ih =>
      obtain ⟨hitem, ha⟩ := h.mp hitem
      exact ⟨.element hahead hitem ih.1, List.forall_mem_cons.mpr ⟨ha, ih.2⟩⟩
  · rintro ⟨hread, hall⟩
    induction hread with
    | close hahead => exact .close hahead
    | element hahead hitem hrest ih =>
      obtain ⟨ha, hall⟩ := List.forall_mem_cons.mp hall
      exact .element hahead (h.mpr ⟨hitem, ha⟩) (ih hall)

theorem members_iff (h : ∀ {c a c'}, item' c = .ok (a, c') ↔ item c = .ok (a, c') ∧ P a)
    {ms : List (String × α)} :
    Members item' first c ms c' ↔ Members item first c ms c' ∧ ∀ m ∈ ms, P m.2 := by
  constructor
  · intro hread
    induction hread with
    | close hahead => exact ⟨.close hahead, by simp⟩
    | member hahead hname hcolon hitem hrest ih =>
      obtain ⟨hitem, ha⟩ := h.mp hitem
      exact ⟨.member hahead hname hcolon hitem ih.1, List.forall_mem_cons.mpr ⟨ha, ih.2⟩⟩
  · rintro ⟨hread, hall⟩
    induction hread with
    | close hahead => exact .close hahead
    | member hahead hname hcolon hitem hrest ih =>
      obtain ⟨ha, hall⟩ := List.forall_mem_cons.mp hall
      exact .member hahead hname hcolon (h.mpr ⟨hitem, ha⟩) (ih hall)

end Cursor

open Cursor

variable {c c' : Cursor} {j : Json} {shape : Shape} {depth : Nat}

theorem value_skipSpace : value depth c.skipSpace = .ok (j, c') ↔ value depth c = .ok (j, c') := by
  cases depth with
  | zero => simp [value]
  | succ depth => rw [value, value, skipSpace_skipSpace]

theorem value_of_scalar? (h : c.skipSpace.scalar? = some (.ok (j, c'))) :
    value (depth + 1) c = .ok (j, c') := value_eq_ok_iff.mpr (.scalar h)

theorem scalar?_of_value (h : value (depth + 1) c = .ok (j, c')) (hes : ∀ es, j ≠ .array es)
    (hms : ∀ ms, j ≠ .object ms) : c.skipSpace.scalar? = some (.ok (j, c')) := by
  cases value_eq_ok_iff.mp h with
  | scalar h => exact h
  | array => exact absurd rfl (hes _)
  | object => exact absurd rfl (hms _)

theorem value_array_iff {es : List Json} : value (depth + 1) c = .ok (.array es, c') ↔
    depth ≠ 0 ∧ (∃ rest, c.skipSpace.rest = '[' :: rest) ∧
      Elements (value depth) true c.skipSpace.next es c' := by
  rw [value_eq_ok_iff]
  constructor
  · rintro (hscalar | ⟨hdepth, hrest, hes⟩)
    · cases scalar_of_scalar? hscalar with
      | @number a rest n _ hrest ha hj => cases n <;> cases hj
    · exact ⟨hdepth, ⟨_, hrest⟩, hes⟩
  · rintro ⟨hdepth, ⟨rest, hrest⟩, hes⟩
    exact .array hdepth hrest hes

theorem value_object_iff {ms : List (String × Json)} : value (depth + 1) c = .ok (.object ms, c') ↔
    depth ≠ 0 ∧ (∃ rest, c.skipSpace.rest = '\x7b' :: rest) ∧
      Members (value depth) true c.skipSpace.next ms c' := by
  rw [value_eq_ok_iff]
  constructor
  · rintro (hscalar | _ | ⟨hdepth, hrest, hms⟩)
    · cases scalar_of_scalar? hscalar with
      | @number a rest n _ hrest ha hj => cases n <;> cases hj
    · exact ⟨hdepth, ⟨_, hrest⟩, hms⟩
  · rintro ⟨hdepth, ⟨rest, hrest⟩, hms⟩
    exact .object hdepth hrest hms

attribute [local simp] Shape.read

theorem read_list_iff : (Shape.list shape).read (depth + 1) c = .ok (j, c') ↔
    depth ≠ 0 ∧ (∃ rest, c.skipSpace.rest = '[' :: rest) ∧
      ∃ es, j = .array es ∧ elementsFrom (shape.read depth) (c.skipSpace.rest.length + 1) true []
        c.skipSpace.next = .ok (es, c') := by
  rw [Shape.read]
  constructor
  · intro h
    obtain ⟨d, hd, h⟩ := bind_eq_ok h
    obtain ⟨rfl, a, rest, hrest⟩ := ahead_eq_ok hd
    split at h
    · next rest' hbracket =>
      split_ifs at h with hdepth
      · cases h
      · obtain ⟨⟨es, e⟩, hes, h⟩ := bind_eq_ok h
        cases h
        exact ⟨by omega, ⟨rest', hbracket⟩, es, rfl, hes⟩
    · cases h
  · rintro ⟨hdepth, ⟨rest, hrest⟩, es, rfl, hes⟩
    rw [hrest, List.length_cons] at hes
    simp [ahead_of_cons hrest, hrest, hdepth, hes, Bind.bind, Except.bind, Pure.pure, Except.pure]

theorem read_dictionary_iff : (Shape.dictionary shape).read (depth + 1) c = .ok (j, c') ↔
    depth ≠ 0 ∧ (∃ rest, c.skipSpace.rest = '\x7b' :: rest) ∧
      ∃ ms, j = .object ms ∧ membersFrom (shape.read depth) (c.skipSpace.rest.length + 1) true []
        c.skipSpace.next = .ok (ms, c') := by
  rw [Shape.read]
  constructor
  · intro h
    obtain ⟨d, hd, h⟩ := bind_eq_ok h
    obtain ⟨rfl, a, rest, hrest⟩ := ahead_eq_ok hd
    split at h
    · next rest' hbrace =>
      split_ifs at h with hdepth
      · cases h
      · obtain ⟨⟨ms, e⟩, hms, h⟩ := bind_eq_ok h
        cases h
        exact ⟨by omega, ⟨rest', hbrace⟩, ms, rfl, hms⟩
    · cases h
  · rintro ⟨hdepth, ⟨rest, hrest⟩, ms, rfl, hms⟩
    rw [hrest, List.length_cons] at hms
    simp [ahead_of_cons hrest, hrest, hdepth, hms, Bind.bind, Except.bind, Pure.pure, Except.pure]

theorem read_optional_null {rest : List Char} (hrest : c.skipSpace.rest = 'n' :: rest) :
    (Shape.optional shape).read depth c = .ok (j, c') ↔
      j = .null ∧ c.skipSpace.next.literal ['u', 'l', 'l'] = .ok c' := by
  rw [Shape.read]
  simp only [hrest]
  constructor
  · intro h
    obtain ⟨d, hd, heq⟩ := map_eq_ok h
    cases heq
    exact ⟨rfl, hd⟩
  · rintro ⟨rfl, hd⟩
    rw [hd]
    rfl

theorem read_optional_of_ne (hrest : ∀ rest, c.skipSpace.rest ≠ 'n' :: rest) :
    (Shape.optional shape).read depth c = shape.read depth c.skipSpace := by
  rw [Shape.read]
  split
  · next rest hn => exact absurd hn (hrest rest)
  · rfl

/-- A shape reads the documents it admits, and gives them back as they are. -/
def Keeps (shape : Shape) : Prop :=
  ∀ depth c j c', shape.read (depth + 1) c = .ok (j, c') ↔
    value (depth + 1) c = .ok (j, c') ∧ Admits shape j

/-- A shape that looks at the scalar at the cursor. -/
theorem keeps_of_scalar (hread : ∀ depth c j c', shape.read (depth + 1) c = .ok (j, c') ↔
    c.skipSpace.scalar? = some (.ok (j, c')) ∧ Admits shape j)
    (hscalar : ∀ j, Admits shape j → (∀ es, j ≠ .array es) ∧ ∀ ms, j ≠ .object ms) : Keeps shape := by
  intro depth c j c'
  rw [hread]
  refine and_congr_left fun hj => ⟨value_of_scalar?, fun h => ?_⟩
  obtain ⟨hes, hms⟩ := hscalar j hj
  exact scalar?_of_value h hes hms

theorem value_null_iff : value (depth + 1) c = .ok (.null, c') ↔
    (∃ rest, c.skipSpace.rest = 'n' :: rest) ∧ c.skipSpace.next.literal ['u', 'l', 'l'] = .ok c' := by
  constructor
  · intro h
    cases scalar_of_scalar? (scalar?_of_value h (by simp) (by simp)) with
    | null hrest hword => exact ⟨⟨_, hrest⟩, hword⟩
    | @number a rest n _ hrest ha hj => cases n <;> cases hj
  · rintro ⟨⟨rest, hrest⟩, hword⟩
    exact value_of_scalar? (by simp [scalar?, hrest, hword, Except.map])

theorem eq_null_of_value {rest : List Char} (hrest : c.skipSpace.rest = 'n' :: rest)
    (h : value (depth + 1) c = .ok (j, c')) : j = .null := by
  cases value_eq_ok_iff.mp h with
  | scalar hscalar =>
    cases scalar_of_scalar? hscalar with
    | null => rfl
    | true hother => cases hrest.symm.trans hother
    | false hother => cases hrest.symm.trans hother
    | string hother => cases hrest.symm.trans hother
    | number hother ha =>
      obtain ⟨rfl, -⟩ := List.cons.inj (hrest.symm.trans hother)
      exact absurd ha (by decide)
  | array _ hother => cases hrest.symm.trans hother
  | object _ hother => cases hrest.symm.trans hother

theorem Keeps.optional (h : Keeps shape) : Keeps (.optional shape) := by
  intro depth c j c'
  by_cases hnull : ∃ rest, c.skipSpace.rest = 'n' :: rest
  · obtain ⟨rest, hrest⟩ := hnull
    rw [read_optional_null hrest]
    constructor
    · rintro ⟨rfl, hword⟩
      exact ⟨value_null_iff.mpr ⟨⟨rest, hrest⟩, hword⟩, .null _⟩
    · rintro ⟨hvalue, -⟩
      obtain rfl := eq_null_of_value hrest hvalue
      exact ⟨rfl, (value_null_iff.mp hvalue).2⟩
  · rw [read_optional_of_ne fun rest hrest => hnull ⟨rest, hrest⟩, h, value_skipSpace]
    refine and_congr_right fun hvalue => ⟨.optional, fun hadmits => ?_⟩
    cases hadmits with
    | optional hadmits => exact hadmits
    | null => exact absurd (value_null_iff.mp hvalue).1 hnull

theorem Keeps.list (h : Keeps shape) : Keeps (.list shape) := by
  intro depth c j c'
  rw [read_list_iff]
  constructor
  · rintro ⟨hdepth, hrest, es, rfl, hes⟩
    obtain ⟨k, rfl⟩ := Nat.exists_eq_succ_of_ne_zero hdepth
    obtain ⟨_, rfl, hmore⟩ := elements_of_elementsFrom hes
    obtain ⟨hmore, hall⟩ := (elements_iff (h _ _ _ _)).mp hmore
    exact ⟨value_array_iff.mpr ⟨hdepth, hrest, hmore⟩, .list hall⟩
  · rintro ⟨hvalue, hadmits⟩
    cases hadmits with
    | @list _ es hall =>
      obtain ⟨hdepth, hrest, hes⟩ := value_array_iff.mp hvalue
      obtain ⟨k, rfl⟩ := Nat.exists_eq_succ_of_ne_zero hdepth
      have hfuel := hes.length_lt length_value
      have hnext := c.skipSpace.length_next_le
      have hread := (elements_iff (h _ _ _ _)).mpr ⟨hes, hall⟩
      exact ⟨hdepth, hrest, es, rfl, hread.elementsFrom _ (by omega) []⟩

theorem Keeps.dictionary (h : Keeps shape) : Keeps (.dictionary shape) := by
  intro depth c j c'
  rw [read_dictionary_iff]
  constructor
  · rintro ⟨hdepth, hrest, ms, rfl, hms⟩
    obtain ⟨k, rfl⟩ := Nat.exists_eq_succ_of_ne_zero hdepth
    obtain ⟨_, rfl, hmore⟩ := members_of_membersFrom hms
    obtain ⟨hmore, hall⟩ := (members_iff (h _ _ _ _)).mp hmore
    exact ⟨value_object_iff.mpr ⟨hdepth, hrest, hmore⟩, .dictionary hall⟩
  · rintro ⟨hvalue, hadmits⟩
    cases hadmits with
    | @dictionary _ ms hall =>
      obtain ⟨hdepth, hrest, hms⟩ := value_object_iff.mp hvalue
      obtain ⟨k, rfl⟩ := Nat.exists_eq_succ_of_ne_zero hdepth
      have hfuel := hms.length_lt length_value
      have hnext := c.skipSpace.length_next_le
      have hread := (members_iff (h _ _ _ _)).mpr ⟨hms, hall⟩
      exact ⟨hdepth, hrest, ms, rfl, hread.membersFrom _ (by omega) []⟩

/-- **A simple shape reads the documents it admits**, and gives them back as they are. -/
theorem Simple.keeps (h : Simple shape) : Keeps shape := by
  induction h with
  | any =>
    intro depth c j c'
    rw [Shape.read]
    exact ⟨fun h => ⟨h, .any j⟩, And.left⟩
  | text expected =>
    refine keeps_of_scalar (fun depth c j c' => ?_) (by rintro _ ⟨⟩; simp)
    rw [Shape.read, text_eq_ok_iff]
  | bool =>
    refine keeps_of_scalar (fun depth c j c' => ?_) (by rintro _ ⟨⟩; simp)
    rw [Shape.read, truth_eq_ok_iff]
  | natural expected =>
    refine keeps_of_scalar (fun depth c j c' => ?_) (by rintro _ ⟨⟩; simp)
    rw [Shape.read, unsigned_eq_ok_iff]
  | optional _ ih => exact ih.optional
  | list _ ih => exact ih.list
  | dictionary _ ih => exact ih.dictionary

theorem Simple.read_eq_ok_iff (h : Simple shape) : shape.read (depth + 1) c = .ok (j, c') ↔
    value (depth + 1) c = .ok (j, c') ∧ Admits shape j := h.keeps depth c j c'

end HostedScripts.Json
