import HostedScripts.Proofs.Json.Shapes
import Mathlib.Data.List.Forall2

/-! # Records

A record of simple fields reads an object whose members stand for all its fields (`Lists`,
`read_record_of_object`), and an array whose elements do (`Leads`, `read_record_of_array`); an object that
gives a field twice it does not read (`once_of_read_record`). Both statements about objects go through the
loop over the members, by induction on what `Cursor.value` reads there: a member with a known name is read by
the shape of its field, any other is passed over. -/

namespace HostedScripts.Json

open Cursor

/-- A field of a record: its name, its default if it may be missing, and its shape. -/
abbrev Field := String × Option Json × Shape

/-- The fields of a record. -/
def Shape.fields : Shape → List Field
  | .record _ fields => fields
  | _ => []

variable {fields : List Field} {ms members : List (String × Json)} {c c' : Cursor} {depth : Nat}

/-- The shape of the field with a name. -/
def shapeOf? (fields : List Field) (name : String) : Option Shape :=
  (fields.find? (·.1 == name)).map (·.2.2)

/-- The members that have the name of a field. -/
def known (fields : List Field) (ms : List (String × Json)) : List (String × Json) :=
  ms.filter fun m => (shapeOf? fields m.1).isSome

/-- No member that has the name of a field is given twice. -/
def Once (fields : List Field) (ms : List (String × Json)) : Prop :=
  ms.Pairwise fun m m' => (shapeOf? fields m.1).isSome → m.1 ≠ m'.1

/-- The members stand for all fields of a record: each field is given once, or not at all if it then has its
value by default. -/
def Lists (fields : List Field) (members ms : List (String × Json)) : Prop :=
  List.Forall₂ (fun field m => m.1 = field.1 ∧ Admits field.2.2 m.2 ∧
    (ms.filter (·.1 == field.1) = [m] ∨
      ms.filter (·.1 == field.1) = [] ∧ field.2.1 = some m.2)) fields members

/-! ### Reading the members -/

theorem readField_eq (name : String) (c : Cursor) :
    readField fields name depth c = (shapeOf? fields name).map (·.read depth c) := by
  unfold shapeOf?
  induction fields with
  | nil => simp [readField]
  | cons field fields ih =>
    obtain ⟨n, default?, shape⟩ := field
    rw [readField, List.find?_cons]
    split_ifs with hname
    · simp [hname]
    · simp only [hname, ih]

theorem simple_of_shapeOf? (hsimple : ∀ field ∈ fields, Simple field.2.2) {name : String} {shape : Shape}
    (h : shapeOf? fields name = some shape) : Simple shape := by
  obtain ⟨field, hfield, rfl⟩ := Option.map_eq_some_iff.mp h
  exact hsimple field (List.mem_of_find?_eq_some hfield)

theorem find?_isSome_eq_false {found : List (String × Json)} {name : String} :
    ¬ (found.find? (·.1 == name)).isSome = true ↔ ∀ m ∈ found, m.1 ≠ name := by
  simp only [List.find?_isSome, beq_iff_eq, not_exists, not_and, ne_eq]

/-- The members of a record are read and kept, those with unknown names apart. -/
theorem recordFrom_of_members (hsimple : ∀ field ∈ fields, Simple field.2.2) {first : Bool}
    (h : Members (value (depth + 1)) first c ms c') (honce : Once fields ms)
    (hadmits : ∀ m ∈ ms, ∀ shape, shapeOf? fields m.1 = some shape → Admits shape m.2) (fuel : Nat)
    (hfuel : ms.length < fuel) (found : List (String × Json))
    (hfresh : ∀ m ∈ ms, ∀ m' ∈ found, m'.1 ≠ m.1) :
    ∃ d, d.next = c' ∧ recordFrom (fun k => readField fields k (depth + 1)) fuel first found c =
      .ok ((known fields ms).reverse ++ found, d) := by
  induction h generalizing fuel found with
  | @close first c d hahead =>
    obtain ⟨fuel, rfl⟩ := Nat.exists_eq_succ_of_ne_zero (Nat.ne_zero_of_lt hfuel)
    refine ⟨d, rfl, ?_⟩
    rw [recordFrom, hahead]
    rfl
  | @member first c d e₁ e₂ e₃ c' name j ms hahead hname hcolon hvalue hrest ih =>
    obtain ⟨fuel, rfl⟩ := Nat.exists_eq_succ_of_ne_zero (Nat.ne_zero_of_lt hfuel)
    obtain ⟨hhead, honce⟩ := List.pairwise_cons.mp honce
    obtain ⟨hj, hadmits⟩ := List.forall_mem_cons.mp hadmits
    obtain ⟨hnew, hfresh⟩ := List.forall_mem_cons.mp hfresh
    have hlater := fun found hfresh => ih honce hadmits fuel (Nat.lt_of_succ_lt_succ hfuel) found hfresh
    rw [recordFrom, hahead]
    dsimp only
    rw [hname]
    dsimp only
    rw [if_neg (find?_isSome_eq_false.mpr hnew), hcolon]
    dsimp only
    rw [readField_eq]
    cases hshape : shapeOf? fields name with
    | none =>
      obtain ⟨d', hd', hread⟩ := hlater found hfresh
      refine ⟨d', hd', ?_⟩
      simp [skip_of_value hvalue, hread, known, hshape]
    | some shape =>
      have hshaped := (simple_of_shapeOf? hsimple hshape).read_eq_ok_iff.mpr ⟨hvalue, hj shape hshape⟩
      obtain ⟨d', hd', hread⟩ := hlater ((name, j) :: found) fun m hm m' hm' => by
        rcases List.mem_cons.mp hm' with rfl | hm'
        · exact hhead m hm (by simp [hshape])
        · exact hfresh m hm m' hm'
      refine ⟨d', hd', ?_⟩
      simp [hshaped, hread, known, hshape]

theorem once_of_recordFrom (hsimple : ∀ field ∈ fields, Simple field.2.2) {first : Bool}
    (h : Members (value (depth + 1)) first c ms c') (fuel : Nat) (found : List (String × Json))
    {r : List (String × Json) × Cursor}
    (hread : recordFrom (fun k => readField fields k (depth + 1)) fuel first found c = .ok r) :
    Once fields ms ∧ ∀ m ∈ ms, ∀ m' ∈ found, m'.1 ≠ m.1 := by
  induction h generalizing fuel found with
  | close => exact ⟨.nil, by simp⟩
  | @member first c d e₁ e₂ e₃ c' name j ms hahead hname hcolon hvalue hrest ih =>
    cases fuel with
    | zero => cases hread
    | succ fuel =>
      rw [recordFrom, hahead] at hread
      dsimp only at hread
      rw [hname] at hread
      dsimp only at hread
      split_ifs at hread with hdouble
      rw [hcolon] at hread
      dsimp only at hread
      rw [readField_eq] at hread
      have hnew := find?_isSome_eq_false.mp hdouble
      cases hshape : shapeOf? fields name with
      | none =>
        rw [hshape] at hread
        simp only [Option.map_none, skip_of_value hvalue] at hread
        obtain ⟨honce, hfresh⟩ := ih fuel found hread
        refine ⟨List.pairwise_cons.mpr ⟨fun m hm hknown => ?_, honce⟩,
          List.forall_mem_cons.mpr ⟨hnew, hfresh⟩⟩
        simp [hshape] at hknown
      | some shape =>
        rw [hshape] at hread
        dsimp only [Option.map_some] at hread
        split at hread
        · next j' e hfield =>
          have hfield' := Option.some.inj hfield
          obtain ⟨hvalue', -⟩ := (simple_of_shapeOf? hsimple hshape).read_eq_ok_iff.mp hfield'
          -- the field ends where `value` ends, so both go on at the same member
          obtain ⟨rfl, rfl⟩ := Prod.mk.inj (Except.ok.inj (hvalue.symm.trans hvalue'))
          obtain ⟨honce, hfresh⟩ := ih fuel ((name, j) :: found) hread
          refine ⟨List.pairwise_cons.mpr ⟨fun m hm _ => hfresh m hm _ List.mem_cons_self, honce⟩,
            List.forall_mem_cons.mpr ⟨hnew, fun m hm m' hm' => ?_⟩⟩
          exact hfresh m hm m' (List.mem_cons_of_mem _ hm')
        · cases hread
        · next hnone => cases hnone

/-! ### Filling in the defaults -/

theorem find?_known {name : String} {shape : Shape} (h : shapeOf? fields name = some shape) :
    (known fields ms).reverse.find? (·.1 == name) = (ms.filter (·.1 == name)).reverse.head? := by
  have hfilter : (known fields ms).filter (·.1 == name) = ms.filter (·.1 == name) := by
    unfold known
    rw [List.filter_filter]
    refine List.filter_congr fun m hm => ?_
    by_cases hname : m.1 = name
    · simp [hname, h]
    · simp [hname]
  rw [← List.head?_filter, List.filter_reverse, hfilter]

theorem fillFields_eq_ok (c : Cursor) {found : List (String × Json)}
    (h : List.Forall₂ (fun field m => m.1 = field.1 ∧
      (found.find? (·.1 == field.1) = some m ∨
        found.find? (·.1 == field.1) = none ∧ field.2.1 = some m.2)) fields members) :
    c.fillFields found (fieldDefaults fields) = .ok members := by
  unfold fieldDefaults
  induction h with
  | nil => rfl
  | @cons field m fields members hfield hrest ih =>
    obtain ⟨name, default?, shape⟩ := field
    obtain ⟨name', j⟩ := m
    obtain ⟨rfl, hfound | ⟨hmissing, hdefault⟩⟩ := hfield
    · simp only [List.map_cons, fillFields, hfound, ih, Except.map]
    · dsimp only at hdefault
      simp only [List.map_cons, fillFields, hmissing, hdefault, ih, Except.map]

/-! ### The normal form -/

theorem find?_of_mem (hnodup : (fields.map (·.1)).Nodup) {field : Field} (h : field ∈ fields) :
    fields.find? (·.1 == field.1) = some field := by
  induction fields with
  | nil => cases h
  | cons other fields ih =>
    rw [List.map_cons, List.nodup_cons] at hnodup
    rcases List.mem_cons.mp h with rfl | h
    · simp
    · have hne : other.1 ≠ field.1 := fun heq => hnodup.1 (heq ▸ List.mem_map_of_mem h)
      rw [List.find?_cons_of_neg (by simpa using hne)]
      exact ih hnodup.2 h

theorem shapeOf?_of_mem (hnodup : (fields.map (·.1)).Nodup) {field : Field} (h : field ∈ fields) :
    shapeOf? fields field.1 = some field.2.2 := by
  unfold shapeOf?
  rw [find?_of_mem hnodup h]
  rfl

theorem exists_field {name : String} {shape : Shape} (h : shapeOf? fields name = some shape) :
    ∃ field ∈ fields, field.1 = name ∧ field.2.2 = shape := by
  obtain ⟨field, hfield, hshape⟩ := Option.map_eq_some_iff.mp h
  exact ⟨field, List.mem_of_find?_eq_some hfield, by simpa using List.find?_some hfield, hshape⟩

theorem exists_of_forall₂ {α β : Type} {R : α → β → Prop} {as : List α} {bs : List β}
    (h : List.Forall₂ R as bs) {a : α} (ha : a ∈ as) : ∃ b, R a b := by
  induction h with
  | nil => cases ha
  | cons hab hrest ih =>
    rcases List.mem_cons.mp ha with rfl | ha
    · exact ⟨_, hab⟩
    · exact ih ha

theorem Lists.once (h : Lists fields members ms) : Once fields ms := by
  refine List.pairwise_iff_forall_sublist.mpr fun {m m'} hsublist hknown hsame => ?_
  obtain ⟨shape, hshape⟩ := Option.isSome_iff_exists.mp hknown
  obtain ⟨field, hfield, hname, -⟩ := exists_field hshape
  obtain ⟨v, -, -, hlisted⟩ := exists_of_forall₂ h hfield
  have htwice := (hsublist.filter (·.1 == field.1)).length_le
  rw [List.filter_cons_of_pos (by simp [hname]), List.filter_cons_of_pos (by simp [hname, ← hsame])] at htwice
  rcases hlisted with hlisted | ⟨hlisted, -⟩
  · simp [hlisted] at htwice
  · simp [hlisted] at htwice

theorem Lists.admits (h : Lists fields members ms) {m : String × Json} (hm : m ∈ ms) {shape : Shape}
    (hshape : shapeOf? fields m.1 = some shape) : Admits shape m.2 := by
  obtain ⟨field, hfield, hname, rfl⟩ := exists_field hshape
  obtain ⟨v, -, hadmits, hlisted⟩ := exists_of_forall₂ h hfield
  have hin : m ∈ ms.filter (·.1 == field.1) := List.mem_filter.mpr ⟨hm, by simp [hname]⟩
  rcases hlisted with hlisted | ⟨hlisted, -⟩
  · rw [hlisted, List.mem_singleton] at hin
    rwa [hin]
  · rw [hlisted] at hin
    cases hin

/-- What was found of a record fills up to all its fields. -/
theorem Lists.fillFields (hnodup : (fields.map (·.1)).Nodup) (h : Lists fields members ms) (c : Cursor) :
    c.fillFields (known fields ms).reverse (fieldDefaults fields) = .ok members := by
  have hall : ∀ field ∈ fields, shapeOf? fields field.1 = some field.2.2 := fun field hfield =>
    shapeOf?_of_mem hnodup hfield
  refine fillFields_eq_ok c ?_
  refine ((List.forall₂_and_left _ _).mpr ⟨hall, h⟩).imp fun field m ⟨hshape, hname, hadmits, hlisted⟩ => ?_
  rw [find?_known hshape]
  refine ⟨hname, hlisted.imp (fun hlisted => ?_) fun ⟨hlisted, hdefault⟩ => ⟨?_, hdefault⟩⟩
  · rw [hlisted]
    rfl
  · rw [hlisted]
    rfl

variable {name : String} {es : List Json}

/-- A record is read from an object, if it stands for all the fields. -/
theorem read_record_of_object (hsimple : ∀ field ∈ fields, Simple field.2.2)
    (hnodup : (fields.map (·.1)).Nodup) (hlists : Lists fields members ms)
    (h : value (depth + 1) c = .ok (.object ms, c')) :
    (Shape.record name fields).read (depth + 1) c = .ok (.object members, c') := by
  obtain ⟨hdepth, ⟨rest, hrest⟩, hms⟩ := value_object_iff.mp h
  obtain ⟨k, rfl⟩ := Nat.exists_eq_succ_of_ne_zero hdepth
  have hfuel := hms.length_lt length_value
  have hnext := c.skipSpace.length_next_le
  obtain ⟨d, rfl, hread⟩ := recordFrom_of_members hsimple hms hlists.once
    (fun m hm shape => hlists.admits hm) (c.skipSpace.rest.length + 1) (by omega) [] (by simp)
  have hfill := hlists.fillFields hnodup d
  rw [List.append_nil] at hread
  rw [hrest, List.length_cons] at hread
  rw [Shape.read, ahead_of_cons hrest]
  simp [hrest, hread, hfill, Bind.bind, Except.bind, Pure.pure, Except.pure]

/-- **An object that gives a field twice is no record.** -/
theorem once_of_read_record (hsimple : ∀ field ∈ fields, Simple field.2.2)
    (h : value (depth + 1) c = .ok (.object ms, c')) {r : Json × Cursor}
    (hread : (Shape.record name fields).read (depth + 1) c = .ok r) : Once fields ms := by
  obtain ⟨hdepth, ⟨rest, hrest⟩, hms⟩ := value_object_iff.mp h
  obtain ⟨k, rfl⟩ := Nat.exists_eq_succ_of_ne_zero hdepth
  rw [Shape.read, ahead_of_cons hrest] at hread
  obtain ⟨d, hd, hread⟩ := bind_eq_ok hread
  cases hd
  simp only [hrest] at hread
  rw [if_neg (by omega)] at hread
  obtain ⟨found, hfound, -⟩ := bind_eq_ok hread
  exact (once_of_recordFrom hsimple hms _ [] hfound).1

/-! ### Records as arrays -/

/-- The elements stand for the fields of a record in their order; the last ones may be missing if they have
their values by default. -/
inductive Leads : List Field → List (String × Json) → List Json → Prop
  | defaults {fields : List Field} {members : List (String × Json)}
    (h : List.Forall₂ (fun field m => m.1 = field.1 ∧ field.2.1 = some m.2) fields members) :
    Leads fields members []
  | given {name : String} {default? : Option Json} {shape : Shape} {j : Json} {fields : List Field}
    {members : List (String × Json)} {es : List Json} (hadmits : Admits shape j)
    (h : Leads fields members es) :
    Leads ((name, default?, shape) :: fields) ((name, j) :: members) (j :: es)

theorem elementAhead_of_close {rest : List Char} (h : c.skipSpace.rest = ']' :: rest) (first : Bool) :
    c.elementAhead first = .ok (false, c.skipSpace) := by
  unfold elementAhead
  simp [h]

theorem closeArray_of_close {rest : List Char} (h : c.skipSpace.rest = ']' :: rest) :
    c.closeArray = (.ok (), c.skipSpace.next) := by
  unfold closeArray
  simp [h]

theorem readFields_of_defaults {rest : List Char} (hspace : c.skipSpace = c) (hrest : c.rest = ']' :: rest)
    (h : List.Forall₂ (fun field m => m.1 = field.1 ∧ field.2.1 = some m.2) fields members)
    (record : String) (count index : Nat) :
    readFields fields record count index depth c = .ok (members, c) := by
  induction h generalizing index with
  | nil => simp [readFields]
  | @cons field m fields members hfield hfields ih =>
    obtain ⟨name, default?, shape⟩ := field
    obtain ⟨name', j⟩ := m
    obtain ⟨rfl, rfl⟩ := hfield
    have hahead := elementAhead_of_close (hspace ▸ hrest)
    simp [readFields, hahead, hspace, ih, Except.map]

/-- The fields of a record are read from elements, and the bracket closes after them. -/
theorem readFields_of_elements (hsimple : ∀ field ∈ fields, Simple field.2.2) {es : List Json}
    (h : Leads fields members es) (record : String) (count index : Nat)
    (hes : Elements (value (depth + 1)) (decide (index = 0)) c es c') :
    ∃ d, readFields fields record count index (depth + 1) c = .ok (members, d) ∧
      d.closeArray = (.ok (), c') := by
  induction h generalizing index c with
  | @defaults fields members hdefaults =>
    cases hes with
    | close hahead =>
      obtain ⟨rfl, rest, hrest⟩ := close_of_elementAhead hahead
      cases hdefaults with
      | nil => exact ⟨c, by simp [readFields], closeArray_of_close hrest⟩
      | @cons field m fields members hfield hfields =>
        obtain ⟨name, default?, shape⟩ := field
        obtain ⟨name', j⟩ := m
        obtain ⟨rfl, rfl⟩ := hfield
        have hlater : readFields fields record count (index + 1) (depth + 1) c.skipSpace =
            .ok (members, c.skipSpace) :=
          readFields_of_defaults c.skipSpace_skipSpace hrest hfields record count (index + 1)
        refine ⟨c.skipSpace, ?_, ?_⟩
        · simp [readFields, elementAhead_of_close hrest, hlater, Except.map]
        · rw [closeArray_of_close (c.skipSpace_skipSpace.symm ▸ hrest), skipSpace_skipSpace]
  | @given name default? shape j fields members es hadmits hleads ih =>
    cases hes with
    | @element _ _ d e _ _ _ hahead hitem hrest =>
      have hread := (hsimple (name, default?, shape) List.mem_cons_self).read_eq_ok_iff.mpr ⟨hitem, hadmits⟩
      obtain ⟨d', hlater, hclose⟩ := ih (fun field hfield => hsimple field (List.mem_cons_of_mem _ hfield))
        (index + 1) hrest
      refine ⟨d', ?_, hclose⟩
      rw [readFields, hahead]
      dsimp only
      rw [hread]
      dsimp only
      rw [hlater]
      rfl

/-- **A record is read from an array**, if it stands for all the fields. -/
theorem read_record_of_array (hsimple : ∀ field ∈ fields, Simple field.2.2) {es : List Json}
    (hleads : Leads fields members es) (h : value (depth + 1) c = .ok (.array es, c')) :
    (Shape.record name fields).read (depth + 1) c = .ok (.object members, c') := by
  obtain ⟨hdepth, ⟨rest, hrest⟩, hes⟩ := value_array_iff.mp h
  obtain ⟨k, rfl⟩ := Nat.exists_eq_succ_of_ne_zero hdepth
  obtain ⟨d, hread, hclose⟩ := readFields_of_elements hsimple hleads name fields.length 0 hes
  rw [Shape.read, ahead_of_cons hrest]
  simp [hrest, hread, hclose, Bind.bind, Except.bind, Pure.pure, Except.pure]

end HostedScripts.Json
