import HostedScripts.Proofs.Json.Documents
import HostedScripts.Proofs.Json.Records

/-! # The ways to write a record

The members of a record may be written in any order, with others between them, and without those that are
there by default; each step of this kind (`Rewritten`) keeps that they stand for all its fields
(`Lists.rewritten`). So whatever way is taken, the record is read back (`readsBack_record`). -/

namespace HostedScripts.Json

open Cursor

variable {fields : List Field} {ms ms' members : List (String × Json)}

/-- The default of the field with a name. -/
def defaultOf? (fields : List Field) (name : String) : Option Json :=
  (fields.find? (·.1 == name)).bind (·.2.1)

/-- Other members that stand for the same record. -/
inductive Rewritten (fields : List Field) (ms : List (String × Json)) : List (String × Json) → Prop
  | same : Rewritten fields ms ms
  | reordered {ms' ms'' : List (String × Json)} (h : Rewritten fields ms ms') (hperm : ms'.Perm ms'') :
    Rewritten fields ms ms''
  | inserted {before after : List (String × Json)} {name : String}
    (h : Rewritten fields ms (before ++ after)) (hname : name ∉ fields.map (·.1)) (j : Json) :
    Rewritten fields ms (before ++ (name, j) :: after)
  | omitted {before after : List (String × Json)} {name : String} {j : Json}
    (h : Rewritten fields ms (before ++ (name, j) :: after)) (hdefault : defaultOf? fields name = some j) :
    Rewritten fields ms (before ++ after)

/-- The members are all fields of a record in their order. -/
def Complete (fields : List Field) (members : List (String × Json)) : Prop :=
  List.Forall₂ (fun field m => m.1 = field.1 ∧ Admits field.2.2 m.2) fields members

theorem defaultOf?_of_mem (hnodup : (fields.map (·.1)).Nodup) {field : Field} (h : field ∈ fields) :
    defaultOf? fields field.1 = field.2.1 := by
  unfold defaultOf?
  rw [find?_of_mem hnodup h]
  rfl

theorem Complete.names (h : Complete fields members) : members.map (·.1) = fields.map (·.1) := by
  induction h with
  | nil => rfl
  | cons hfield _ ih => rw [List.map_cons, List.map_cons, ih, hfield.1]

theorem filter_eq_singleton {m : String × Json} (hnodup : (ms.map (·.1)).Nodup) (h : m ∈ ms) :
    ms.filter (·.1 == m.1) = [m] := by
  induction ms with
  | nil => cases h
  | cons other ms ih =>
    rw [List.map_cons, List.nodup_cons] at hnodup
    have hne : ∀ m ∈ ms, other.1 ≠ m.1 := fun m hm heq => hnodup.1 (heq ▸ List.mem_map_of_mem hm)
    rcases List.mem_cons.mp h with rfl | h
    · rw [List.filter_cons_of_pos (by simp), List.filter_eq_nil_iff.mpr]
      intro m' hm'
      simpa using (hne m' hm').symm
    · rw [List.filter_cons_of_neg (by simpa using hne m h)]
      exact ih hnodup.2 h

theorem forall₂_mem {α β : Type} {R : α → β → Prop} {as : List α} {bs : List β}
    (h : List.Forall₂ R as bs) :
    List.Forall₂ (fun a b => a ∈ as ∧ b ∈ bs ∧ R a b) as bs := by
  induction h with
  | nil => exact .nil
  | cons hab _ ih =>
    refine .cons ⟨List.mem_cons_self, List.mem_cons_self, hab⟩ (ih.imp fun a b ⟨ha, hb, hab⟩ => ?_)
    exact ⟨List.mem_cons_of_mem _ ha, List.mem_cons_of_mem _ hb, hab⟩

theorem Complete.lists (hnodup : (fields.map (·.1)).Nodup) (h : Complete fields members) :
    Lists fields members members := by
  have hnames := h.names ▸ hnodup
  refine (forall₂_mem h).imp fun field m ⟨_, hm, hname, hadmits⟩ => ⟨hname, hadmits, Or.inl ?_⟩
  rw [← hname]
  exact filter_eq_singleton hnames hm

theorem Lists.rewritten (hnodup : (fields.map (·.1)).Nodup) (h : Lists fields members ms)
    (hms : Rewritten fields ms ms') : Lists fields members ms' := by
  induction hms with
  | same => exact h
  | @reordered ms' ms'' _ hperm ih =>
    refine ih.imp fun field m ⟨hname, hadmits, hlisted⟩ => ⟨hname, hadmits, ?_⟩
    have hfilter := hperm.filter (·.1 == field.1)
    rcases hlisted with hlisted | ⟨hlisted, hdefault⟩
    · rw [hlisted] at hfilter
      exact Or.inl (List.perm_singleton.mp hfilter.symm)
    · rw [hlisted] at hfilter
      exact Or.inr ⟨hfilter.symm.eq_nil, hdefault⟩
  | @inserted before after name _ hname j ih =>
    refine (forall₂_mem ih).imp fun field m ⟨hfield, _, hlisted⟩ => ?_
    have hne : name ≠ field.1 := fun heq => hname (heq ▸ List.mem_map_of_mem hfield)
    rwa [List.filter_append, List.filter_cons_of_neg (by simpa using hne), ← List.filter_append]
  | @omitted before after name j _ hdefault ih =>
    refine (forall₂_mem ih).imp fun field m ⟨hfield, _, hname, hadmits, hlisted⟩ => ⟨hname, hadmits, ?_⟩
    rw [List.filter_append, List.filter_cons] at hlisted
    rw [List.filter_append]
    split_ifs at hlisted with hsame
    · -- the field that is left out was given once
      rcases hlisted with hlisted | ⟨hlisted, -⟩
      · obtain ⟨hbefore, hrest⟩ | ⟨_, hbefore, hrest⟩ := List.append_eq_cons_iff.mp hlisted
        · obtain ⟨rfl, hafter⟩ := List.cons.inj hrest
          have hfield' : field.2.1 = some j := by
            rw [← defaultOf?_of_mem hnodup hfield, ← hname]
            exact hdefault
          exact Or.inr ⟨by rw [hbefore, hafter]; rfl, hfield'⟩
        · simp at hrest
      · simp at hlisted
    · exact hlisted

/-- The leading elements, if what is left out is there by default. -/
theorem Complete.leads (hnodup : (fields.map (·.1)).Nodup) (h : Complete fields members) (k : Nat)
    (hdefaults : ∀ m ∈ members.drop k, defaultOf? fields m.1 = some m.2) :
    Leads fields members ((members.take k).map (·.2)) := by
  have hall : ∀ field ∈ fields, defaultOf? fields field.1 = field.2.1 := fun field hfield =>
    defaultOf?_of_mem hnodup hfield
  have hboth := (List.forall₂_and_left _ _).mpr ⟨hall, h⟩
  -- the defaults stay those of all fields while the induction goes down the list
  generalize defaultOf? fields = default at hdefaults hboth
  clear h hall hnodup
  induction hboth generalizing k with
  | nil =>
    rw [List.take_nil]
    exact .defaults .nil
  | @cons field m fields members hfield hrest ih =>
    obtain ⟨n, default?, shape⟩ := field
    obtain ⟨n', j⟩ := m
    obtain ⟨hdefault, rfl, hadmits⟩ := hfield
    cases k with
    | zero =>
      obtain ⟨hj, hdefaults⟩ := List.forall_mem_cons.mp hdefaults
      refine .defaults (.cons ⟨rfl, hdefault.symm.trans hj⟩ ?_)
      cases ih 0 hdefaults with
      | defaults h => exact h
    | succ k => exact .given hadmits (ih k hdefaults)

/-! ### Texts -/

theorem exists_value_of_parse {text : String} {j : Json} (h : parse text = .ok j) :
    ∃ c', (Cursor.start text).value depthLimit = .ok (j, c') ∧ endOfText c' = .ok () := by
  obtain ⟨⟨j', c'⟩, hvalue, h⟩ := bind_eq_ok h
  obtain ⟨⟨⟩, hend, h⟩ := bind_eq_ok h
  cases h
  exact ⟨c', hvalue, hend⟩

theorem parse_of_read {shape : Shape} {text : String} {j : Json} {c' : Cursor}
    (h : shape.read depthLimit (Cursor.start text) = .ok (j, c')) (hend : endOfText c' = .ok ()) :
    shape.parse text = .ok j := by
  unfold Shape.parse
  rw [h]
  simp [hend, Bind.bind, Except.bind, Pure.pure, Except.pure]

/-- A reader gets a record back from every way to write it: from its own text; from every text that holds an
object with the same members in any order, with members of unknown names, and without some that are there by
default; and from every text that holds the array of its fields, without some of the last that are there by
default. No text is read that holds an object with a field given twice. -/
structure ReadsBack {α : Type} (shape : Shape) (j : Json) (read : String → Except Fault α) (x : α) :
    Prop where
  written : read j.render = .ok x
  object : ∀ text ms, parse text = .ok (.object ms) → Rewritten shape.fields j.members ms →
    read text = .ok x
  array : ∀ text k, parse text = .ok (.array ((j.members.take k).map (·.2))) →
    (∀ m ∈ j.members.drop k, defaultOf? shape.fields m.1 = some m.2) → read text = .ok x
  twice : ∀ text ms name v v', parse text = .ok (.object ms) → name ∈ shape.fields.map (·.1) →
    [(name, v), (name, v')].Sublist ms → ∃ e, read text = .error e

variable {name : String} {α : Type} {read : String → Except Fault α} {x : α}

/-- **A record of simple fields is read back**, if its document is plain. -/
theorem readsBack_record (hsimple : ∀ field ∈ fields, Simple field.2.2)
    (hnodup : (fields.map (·.1)).Nodup) (hcomplete : Complete fields members)
    (hplain : Plain 127 (.object members))
    (hok : ∀ text, (Shape.record name fields).parse text = .ok (.object members) → read text = .ok x)
    (herror : ∀ text e, (Shape.record name fields).parse text = .error e → ∃ e, read text = .error e) :
    ReadsBack (.record name fields) (.object members) read x := by
  have hobject : ∀ text ms, parse text = .ok (.object ms) → Rewritten fields members ms →
      read text = .ok x := fun text ms hparse hms => by
    obtain ⟨c', hvalue, hend⟩ := exists_value_of_parse hparse
    have hlists := (hcomplete.lists hnodup).rewritten hnodup hms
    exact hok text (parse_of_read (read_record_of_object hsimple hnodup hlists hvalue) hend)
  refine ⟨hobject _ members (parse_render hplain) .same, hobject, fun text k hparse hdefaults => ?_,
    fun text ms wanted v v' hparse hwanted htwice => ?_⟩
  · obtain ⟨c', hvalue, hend⟩ := exists_value_of_parse hparse
    have hleads := hcomplete.leads hnodup k hdefaults
    exact hok text (parse_of_read (read_record_of_array hsimple hleads hvalue) hend)
  · obtain ⟨c', hvalue, hend⟩ := exists_value_of_parse hparse
    cases hread : (Shape.record name fields).parse text with
    | error e => exact herror text e hread
    | ok j =>
      obtain ⟨r, hr, -⟩ := bind_eq_ok hread
      have honce := once_of_read_record hsimple hvalue hr
      obtain ⟨field, hfield, rfl⟩ := List.mem_map.mp hwanted
      have hknown := shapeOf?_of_mem hnodup hfield
      have hne := List.pairwise_iff_forall_sublist.mp honce htwice (by simp [hknown])
      exact absurd rfl hne

end HostedScripts.Json
