import HostedScripts.Output.Arena
import Mathlib.Algebra.Group.Nat.Defs
import Mathlib.Data.List.Nodup
import Mathlib.Order.Lattice
import Mathlib.Tactic.SplitIfs

/-! # What the operations of an arena do to its slots

An arena is seen through three things: the number of its slots, what the slot with a number holds
(`tenant?`), and the generation of that slot (`generationAt`). A handle resolves to the tenant of its slot
if the generations agree (`get?_eq`).

An arena is *well formed* if its list of free slots has no number twice and holds exactly the numbers of
the slots without a tenant. Every operation keeps that (`wellFormed_insert`, `wellFormed_remove`,
`wellFormed_retain`), and for a well-formed arena every operation is described by what it does to tenants
and generations:

* `insert` gives the vacant slot a tenant (`tenant?_insert`) and no slot another generation;
* `remove` and `retain` take tenants away (`tenant?_remove`, `tenant?_retain`), and exactly the slots
  that lose theirs go on to the next generation (`generationAt_remove`, `generationAt_retain`). -/

namespace HostedScripts.Output.Arena

variable {α : Type} {a : Arena α}

/-- What the slot with a number holds, if there is such a slot. -/
def tenant? (a : Arena α) (i : Nat) : Option α := a.slots[i]?.bind (·.entry)

/-- The generation of the slot with a number; zero if there is no such slot. -/
def generationAt (a : Arena α) (i : Nat) : UInt32 := (a.slots[i]?.map (·.generation)).getD 0

/-- The slot that the next entry goes into. -/
def vacancy (a : Arena α) : Nat := a.free.headD a.slots.length

/-- The free slots are listed once each, and they are the slots without a tenant. -/
structure WellFormed (a : Arena α) : Prop where
  free_nodup : a.free.Nodup
  mem_free_iff : ∀ i, i ∈ a.free ↔ i < a.slots.length ∧ a.tenant? i = none

/-! ### Slots -/

theorem tenant?_of_getElem? {i : Nat} {s : Slot α} (h : a.slots[i]? = some s) :
    a.tenant? i = s.entry := by
  unfold tenant?; rw [h]; rfl

theorem generationAt_of_getElem? {i : Nat} {s : Slot α} (h : a.slots[i]? = some s) :
    a.generationAt i = s.generation := by
  unfold generationAt; rw [h]; rfl

theorem tenant?_eq_none_of_le {i : Nat} (h : a.slots.length ≤ i) : a.tenant? i = none := by
  unfold tenant?; rw [List.getElem?_eq_none h]; rfl

theorem generationAt_of_le {i : Nat} (h : a.slots.length ≤ i) : a.generationAt i = 0 := by
  unfold generationAt; rw [List.getElem?_eq_none h]; rfl

theorem lt_length_of_tenant? {i : Nat} {x : α} (h : a.tenant? i = some x) : i < a.slots.length := by
  by_contra hle
  rw [tenant?_eq_none_of_le (not_lt.mp hle)] at h
  cases h

/-- A handle resolves to the tenant of its slot, if it is of the slot's generation. -/
theorem get?_eq (a : Arena α) (h : Handle) :
    a.get? h = if a.generationAt h.index = h.generation then a.tenant? h.index else none := by
  unfold get?
  cases hs : a.slots[h.index]? with
  | none => simp [tenant?, hs]
  | some s => simp [tenant?_of_getElem? hs, generationAt_of_getElem? hs]

theorem get?_eq_some_iff {h : Handle} {x : α} :
    a.get? h = some x ↔ a.generationAt h.index = h.generation ∧ a.tenant? h.index = some x := by
  rw [get?_eq]
  split_ifs with hg
  · simp [hg]
  · simp [hg]

theorem handle_eq_of_generationAt {h k : Handle} (hh : a.generationAt h.index = h.generation)
    (hk : a.generationAt k.index = k.generation) (hi : k.index = h.index) : k = h := by
  obtain ⟨i, g⟩ := h
  obtain ⟨j, g'⟩ := k
  dsimp only at hh hk hi
  subst hi
  rw [← hh, ← hk]

/-! ### Entries -/

theorem entries_eq (a : Arena α) :
    a.entries = (List.range a.slots.length).filterMap a.tenant? := by
  have hslots : a.slots.map some = (List.range a.slots.length).map (a.slots[·]?) := by
    refine List.ext_getElem? fun i => ?_
    rcases Nat.lt_or_ge i a.slots.length with hi | hi
    · simp [hi]
    · simp [hi]
  have h : a.entries = (a.slots.map some).filterMap (fun s => s.bind (·.entry)) := by
    rw [List.filterMap_map]; rfl
  rw [h, hslots, List.filterMap_map]
  rfl

theorem mem_entries_iff {x : α} : x ∈ a.entries ↔ ∃ i, a.tenant? i = some x := by
  rw [entries_eq]
  simp only [List.mem_filterMap, List.mem_range]
  exact ⟨fun ⟨i, _, h⟩ => ⟨i, h⟩, fun ⟨i, h⟩ => ⟨i, lt_length_of_tenant? h, h⟩⟩

theorem mem_entries_of_get? {h : Handle} {x : α} (hx : a.get? h = some x) : x ∈ a.entries :=
  mem_entries_iff.mpr ⟨h.index, (get?_eq_some_iff.mp hx).2⟩

theorem mem_entries_iff_get? {x : α} : x ∈ a.entries ↔ ∃ h, a.get? h = some x := by
  refine ⟨fun hx => ?_, fun ⟨h, hx⟩ => mem_entries_of_get? hx⟩
  obtain ⟨i, hi⟩ := mem_entries_iff.mp hx
  exact ⟨⟨i, a.generationAt i⟩, get?_eq_some_iff.mpr ⟨rfl, hi⟩⟩

/-- An entry stands in one slot only. -/
def Distinct (a : Arena α) : Prop :=
  ∀ ⦃i j x⦄, a.tenant? i = some x → a.tenant? j = some x → i = j

theorem Distinct.nodup_entries (h : a.Distinct) : a.entries.Nodup := by
  rw [entries_eq]
  exact List.nodup_range.filterMap fun i j x hi hj => h hi hj

theorem Distinct.handle_unique (hd : a.Distinct) {h k : Handle} {x : α} (hh : a.get? h = some x)
    (hk : a.get? k = some x) : h = k := by
  obtain ⟨hg, ht⟩ := get?_eq_some_iff.mp hh
  obtain ⟨hg', ht'⟩ := get?_eq_some_iff.mp hk
  exact handle_eq_of_generationAt hg' hg (hd ht ht')

theorem length_entries_add_length_free (h : a.WellFormed) :
    a.entries.length + a.free.length = a.slots.length := by
  have hfree : a.free.Perm ((List.range a.slots.length).filter fun i => (a.tenant? i).isNone) := by
    refine (List.perm_ext_iff_of_nodup h.free_nodup (List.nodup_range.filter _)).mpr fun i => ?_
    rw [h.mem_free_iff, List.mem_filter, List.mem_range, Option.isNone_iff_eq_none]
  have hcount := (List.range a.slots.length).length_eq_countP_add_countP
    (p := fun i => (a.tenant? i).isSome)
  rw [List.length_range] at hcount
  have hnone : (fun i => (a.tenant? i).isNone) = fun i => decide ¬(a.tenant? i).isSome = true := by
    funext i
    cases a.tenant? i <;> rfl
  rw [hfree.length_eq, entries_eq, List.length_filterMap_eq_countP, ← List.countP_eq_length_filter,
    hnone]
  exact hcount.symm

/-! ### Inserting -/

theorem vacancy_lt_or_eq (h : a.WellFormed) :
    a.vacancy < a.slots.length ∨ (a.free = [] ∧ a.vacancy = a.slots.length) := by
  unfold vacancy
  cases hfree : a.free with
  | nil => exact Or.inr ⟨rfl, rfl⟩
  | cons i free => exact Or.inl ((h.mem_free_iff i).mp (by rw [hfree]; exact List.mem_cons_self)).1

theorem tenant?_vacancy (h : a.WellFormed) : a.tenant? a.vacancy = none := by
  unfold vacancy
  cases hfree : a.free with
  | nil => exact tenant?_eq_none_of_le le_rfl
  | cons i free => exact ((h.mem_free_iff i).mp (by rw [hfree]; exact List.mem_cons_self)).2

theorem insert_snd (a : Arena α) (x : α) :
    (a.insert x).2 = ⟨a.vacancy, a.generationAt a.vacancy⟩ := by
  unfold insert vacancy
  split
  · next i free hfree => rw [hfree]; rfl
  · next hfree => rw [hfree, List.headD_nil, generationAt_of_le le_rfl]

theorem insert_free (a : Arena α) (x : α) : (a.insert x).1.free = a.free.tail := by
  unfold insert
  split
  · next i free hfree => rw [hfree]; rfl
  · next hfree => rw [hfree]; rfl

theorem insert_getElem? (h : a.WellFormed) (x : α) (j : Nat) :
    (a.insert x).1.slots[j]? =
      if j = a.vacancy then some ⟨a.generationAt a.vacancy, some x⟩ else a.slots[j]? := by
  have hlt := vacancy_lt_or_eq h
  unfold insert
  unfold vacancy at hlt ⊢
  split
  · next i free hfree =>
    rw [hfree, List.headD_cons] at hlt ⊢
    have hi : i < a.slots.length := hlt.resolve_right (by simp)
    rw [List.getElem?_set]
    split_ifs with h1 h2 h3
    · rfl
    · exact absurd h1.symm h2
    · exact absurd h3.symm h1
    · rfl
  · next hfree =>
    rw [hfree, List.headD_nil, generationAt_of_le le_rfl]
    split_ifs with hj
    · rw [hj, List.getElem?_concat_length]
    · rcases Nat.lt_or_gt_of_ne hj with hj | hj
      · exact List.getElem?_append_left hj
      · rw [List.getElem?_eq_none (by simp; omega), List.getElem?_eq_none (by omega)]

theorem length_slots_insert (h : a.WellFormed) (x : α) :
    (a.insert x).1.slots.length = max a.slots.length (a.entries.length + 1) := by
  have hcount := length_entries_add_length_free h
  unfold insert
  split
  · next i free hfree =>
    rw [hfree, List.length_cons] at hcount
    rw [List.length_set]
    omega
  · next hfree =>
    rw [hfree, List.length_nil] at hcount
    rw [List.length_append, List.length_singleton]
    omega

/-- Inserting gives the vacant slot a tenant. -/
theorem tenant?_insert (h : a.WellFormed) (x : α) (j : Nat) :
    (a.insert x).1.tenant? j = if j = a.vacancy then some x else a.tenant? j := by
  unfold tenant?
  rw [insert_getElem? h]
  split_ifs <;> rfl

theorem generationAt_insert (h : a.WellFormed) (x : α) (j : Nat) :
    (a.insert x).1.generationAt j = a.generationAt j := by
  rw [generationAt, insert_getElem? h]
  split_ifs with hj
  · rw [hj]; rfl
  · rfl

theorem get?_insert_self (h : a.WellFormed) (x : α) :
    (a.insert x).1.get? (a.insert x).2 = some x := by
  rw [insert_snd, get?_eq_some_iff, generationAt_insert h, tenant?_insert h, if_pos rfl]
  exact ⟨rfl, rfl⟩

theorem get?_insert_eq_some_iff (h : a.WellFormed) {x y : α} {k : Handle} :
    (a.insert x).1.get? k = some y ↔ (k = (a.insert x).2 ∧ y = x) ∨ a.get? k = some y := by
  rw [get?_eq_some_iff, get?_eq_some_iff, generationAt_insert h, tenant?_insert h, insert_snd]
  have hvac := tenant?_vacancy h
  split_ifs with hk
  · rw [hk, hvac]
    constructor
    · rintro ⟨hg, hy⟩
      obtain ⟨i, g⟩ := k
      cases hk
      cases hg
      cases hy
      exact Or.inl ⟨rfl, rfl⟩
    · rintro (⟨rfl, rfl⟩ | ⟨-, h0⟩)
      · exact ⟨rfl, rfl⟩
      · cases h0
  · constructor
    · exact Or.inr
    · rintro (⟨rfl, -⟩ | h0)
      · exact absurd rfl hk
      · exact h0

theorem wellFormed_insert (h : a.WellFormed) (x : α) : (a.insert x).1.WellFormed where
  free_nodup := by
    rw [insert_free]
    exact h.free_nodup.tail
  mem_free_iff j := by
    have hvac := vacancy_lt_or_eq h
    have hlen := length_slots_insert h x
    have hcount := length_entries_add_length_free h
    rw [insert_free, tenant?_insert h, hlen]
    unfold vacancy at hvac ⊢
    cases hfree : a.free with
    | nil =>
      rw [hfree] at hcount
      split_ifs with hj
      · simp
      · have hnot := h.mem_free_iff j
        rw [hfree] at hnot
        simp only [List.headD_nil, List.length_nil, List.tail_nil, List.not_mem_nil, false_iff] at *
        rintro ⟨hlt, hnone⟩
        exact hnot ⟨by omega, hnone⟩
    | cons i free =>
      have hnodup := h.free_nodup
      have hmem := h.mem_free_iff j
      rw [hfree, List.length_cons] at hcount
      rw [hfree] at hnodup hmem
      rw [max_eq_left (by omega), List.tail_cons, List.headD_cons]
      split_ifs with hj
      · subst hj
        simpa using (List.nodup_cons.mp hnodup).1
      · rw [← hmem, List.mem_cons, or_iff_right hj]

theorem distinct_insert (h : a.WellFormed) (hd : a.Distinct) {x : α} (hx : x ∉ a.entries) :
    (a.insert x).1.Distinct := by
  intro i j y hi hj
  rw [tenant?_insert h] at hi hj
  split_ifs at hi hj with h1 h2 h3
  · rw [h1, h2]
  · cases hi
    exact absurd (mem_entries_iff.mpr ⟨j, hj⟩) hx
  · cases hj
    exact absurd (mem_entries_iff.mpr ⟨i, hi⟩) hx
  · exact hd hi hj

theorem mem_entries_insert (h : a.WellFormed) {x y : α} :
    y ∈ (a.insert x).1.entries ↔ y = x ∨ y ∈ a.entries := by
  rw [mem_entries_iff, mem_entries_iff]
  constructor
  · rintro ⟨i, hi⟩
    rw [tenant?_insert h] at hi
    split_ifs at hi with hv
    · cases hi
      exact Or.inl rfl
    · exact Or.inr ⟨i, hi⟩
  · rintro (rfl | ⟨i, hi⟩)
    · exact ⟨a.vacancy, by rw [tenant?_insert h, if_pos rfl]⟩
    · refine ⟨i, ?_⟩
      rw [tenant?_insert h, if_neg, hi]
      intro hv
      rw [hv, tenant?_vacancy h] at hi
      cases hi

theorem length_entries_insert (h : a.WellFormed) (x : α) :
    (a.insert x).1.entries.length = a.entries.length + 1 := by
  have hbefore := length_entries_add_length_free h
  have hafter := length_entries_add_length_free (wellFormed_insert h x)
  rw [insert_free, List.length_tail, length_slots_insert h] at hafter
  omega

/-! ### Removing -/

theorem remove_of_get? {h : Handle} {x : α} (hx : a.get? h = some x) :
    a.remove h = (⟨a.slots.modify h.index Slot.freed, h.index :: a.free⟩, some x) := by
  unfold remove; rw [hx]

theorem remove_of_get?_eq_none {h : Handle} (hx : a.get? h = none) : a.remove h = (a, none) := by
  unfold remove; rw [hx]

/-- **Removing takes the tenant of one slot away.** -/
theorem tenant?_remove {h : Handle} {x : α} (hx : a.get? h = some x) (j : Nat) :
    (a.remove h).1.tenant? j = if j = h.index then none else a.tenant? j := by
  rw [remove_of_get? hx, tenant?, List.getElem?_modify]
  split_ifs with h1 h2 h3
  · cases a.slots[j]? <;> rfl
  · exact absurd h1.symm h2
  · exact absurd h3.symm h1
  · cases hs : a.slots[j]? <;> simp [tenant?, hs]

theorem generationAt_remove {h : Handle} {x : α} (hx : a.get? h = some x) (j : Nat) :
    (a.remove h).1.generationAt j = if j = h.index then a.generationAt j + 1 else a.generationAt j := by
  have hlt := lt_length_of_tenant? (get?_eq_some_iff.mp hx).2
  rw [remove_of_get? hx, generationAt, List.getElem?_modify]
  split_ifs with h1 h2 h3
  · subst h2
    rw [generationAt, List.getElem?_eq_getElem hlt]
    rfl
  · exact absurd h1.symm h2
  · exact absurd h3.symm h1
  · cases hs : a.slots[j]? <;> simp [generationAt, hs]

theorem get?_remove_eq_some_iff {h : Handle} {x : α} (hx : a.get? h = some x) {k : Handle} {y : α} :
    (a.remove h).1.get? k = some y ↔ a.get? k = some y ∧ k ≠ h := by
  rw [get?_eq_some_iff, get?_eq_some_iff, generationAt_remove hx, tenant?_remove hx]
  split_ifs with hk
  · constructor
    · rintro ⟨-, h0⟩
      cases h0
    · rintro ⟨⟨hg, -⟩, hne⟩
      exact absurd (handle_eq_of_generationAt (get?_eq_some_iff.mp hx).1 hg hk) hne
  · refine ⟨fun h0 => ⟨h0, ?_⟩, fun h0 => h0.1⟩
    rintro rfl
    exact hk rfl

theorem get?_remove_of_ne (a : Arena α) {h k : Handle} (hk : k ≠ h) : (a.remove h).1.get? k = a.get? k := by
  cases hx : a.get? h with
  | none => rw [remove_of_get?_eq_none hx]
  | some x =>
    refine Option.ext fun y => ?_
    rw [get?_remove_eq_some_iff hx]
    exact and_iff_left hk

theorem get?_remove_self (a : Arena α) (h : Handle) : (a.remove h).1.get? h = none := by
  cases hx : a.get? h with
  | none => rw [remove_of_get?_eq_none hx, hx]
  | some x => exact Option.eq_none_iff_forall_ne_some.mpr fun y hy => ((get?_remove_eq_some_iff hx).mp hy).2 rfl

theorem length_slots_remove (a : Arena α) (h : Handle) :
    (a.remove h).1.slots.length = a.slots.length := by
  unfold remove
  split
  · exact List.length_modify ..
  · rfl

theorem wellFormed_remove (hw : a.WellFormed) (h : Handle) : (a.remove h).1.WellFormed := by
  cases hx : a.get? h with
  | none => rw [remove_of_get?_eq_none hx]; exact hw
  | some x =>
    have ht := (get?_eq_some_iff.mp hx).2
    have hlt := lt_length_of_tenant? ht
    have hfree : (a.remove h).1.free = h.index :: a.free := by rw [remove_of_get? hx]
    refine ⟨?_, fun j => ?_⟩
    · rw [hfree]
      refine List.nodup_cons.mpr ⟨fun hmem => ?_, hw.free_nodup⟩
      rw [((hw.mem_free_iff _).mp hmem).2] at ht
      cases ht
    · rw [hfree, length_slots_remove, tenant?_remove hx, List.mem_cons, hw.mem_free_iff]
      split_ifs with hj
      · simp [hj, hlt]
      · simp [hj]

theorem length_entries_remove (hw : a.WellFormed) {h : Handle} {x : α} (hx : a.get? h = some x) :
    (a.remove h).1.entries.length + 1 = a.entries.length := by
  have hbefore := length_entries_add_length_free hw
  have hafter := length_entries_add_length_free (wellFormed_remove hw h)
  rw [length_slots_remove, remove_of_get? hx, List.length_cons] at hafter
  rw [remove_of_get? hx]
  omega

/-! ### Retaining -/

/-- Whether the slot with a number loses its tenant when only some entries are kept. -/
def loses (a : Arena α) (keep : α → Bool) (i : Nat) : Bool := (a.tenant? i).any (!keep ·)

theorem loses_eq_true_iff {keep : α → Bool} {i : Nat} :
    a.loses keep i = true ↔ ∃ x, a.tenant? i = some x ∧ keep x = false := by
  unfold loses
  cases a.tenant? i <;> simp

theorem loses_eq_false {keep : α → Bool} {i : Nat} {x : α} (hx : a.tenant? i = some x)
    (hk : keep x = true) : a.loses keep i = false := by
  unfold loses
  rw [hx]
  simp [hk]

theorem retainFrom_fst (keep : α → Bool) : ∀ (slots : List (Slot α)) (i : Nat) (free : List Nat),
    (retainFrom keep i slots free).1 =
      slots.map fun s => if s.entry.any (!keep ·) then s.freed else s
  | [], _, _ => rfl
  | s :: slots, i, free => by
    unfold retainFrom
    split_ifs with hs
    · simp [retainFrom_fst keep slots, hs]
    · simp [retainFrom_fst keep slots, hs]

theorem retainFrom_snd (keep : α → Bool) : ∀ (slots : List (Slot α)) (i : Nat) (free : List Nat),
    (retainFrom keep i slots free).2 =
      ((slots.zipIdx i).filter fun s => s.1.entry.any (!keep ·)).reverse.map (·.2) ++ free
  | [], _, _ => rfl
  | s :: slots, i, free => by
    unfold retainFrom
    split_ifs with hs
    · simp [retainFrom_snd keep slots, List.zipIdx_cons, hs]
    · simp [retainFrom_snd keep slots, List.zipIdx_cons, hs]

theorem retain_slots (a : Arena α) (keep : α → Bool) :
    (a.retain keep).slots = a.slots.map fun s => if s.entry.any (!keep ·) then s.freed else s :=
  retainFrom_fst keep a.slots 0 a.free

theorem retain_getElem? (a : Arena α) (keep : α → Bool) (i : Nat) :
    (a.retain keep).slots[i]? =
      a.slots[i]?.map fun s => if a.loses keep i then s.freed else s := by
  rw [retain_slots, List.getElem?_map]
  cases hs : a.slots[i]? with
  | none => rfl
  | some s => simp [loses, tenant?_of_getElem? hs]

/-- The slots that a retention frees, the last one first. -/
def lost (a : Arena α) (keep : α → Bool) : List Nat :=
  (a.slots.zipIdx.filter fun s => s.1.entry.any (!keep ·)).reverse.map (·.2)

theorem retain_free (a : Arena α) (keep : α → Bool) :
    (a.retain keep).free = a.lost keep ++ a.free :=
  retainFrom_snd keep a.slots 0 a.free

theorem mem_lost_iff {keep : α → Bool} {i : Nat} : i ∈ a.lost keep ↔ a.loses keep i = true := by
  simp only [lost, loses, tenant?, List.mem_map, List.mem_reverse, List.mem_filter, Prod.exists,
    List.mem_zipIdx_iff_getElem?, exists_eq_right]
  cases a.slots[i]? <;> simp

theorem nodup_lost (a : Arena α) (keep : α → Bool) : (a.lost keep).Nodup := by
  unfold lost
  rw [List.map_reverse, List.nodup_reverse]
  refine List.Nodup.sublist (List.filter_sublist.map _) ?_
  rw [List.zipIdx_map_snd]
  exact List.nodup_range'

theorem length_slots_retain (a : Arena α) (keep : α → Bool) :
    (a.retain keep).slots.length = a.slots.length := by
  rw [retain_slots, List.length_map]

/-- **Retaining takes the tenants away that are not kept.** -/
theorem tenant?_retain (a : Arena α) (keep : α → Bool) (i : Nat) :
    (a.retain keep).tenant? i = (a.tenant? i).filter keep := by
  unfold tenant?
  rw [retain_getElem?]
  cases hs : a.slots[i]? with
  | none => rfl
  | some s =>
    unfold loses
    rw [tenant?_of_getElem? hs]
    cases he : s.entry with
    | none => simp [he]
    | some x => cases hk : keep x <;> simp [Slot.freed, Option.filter, hk, he]

theorem generationAt_retain (a : Arena α) (keep : α → Bool) (i : Nat) :
    (a.retain keep).generationAt i =
      if a.loses keep i then a.generationAt i + 1 else a.generationAt i := by
  unfold generationAt
  rw [retain_getElem?]
  cases hs : a.slots[i]? with
  | none => simp [loses, tenant?, hs]
  | some s => split_ifs <;> simp_all [Slot.freed]

theorem get?_retain_eq_some_iff {keep : α → Bool} {k : Handle} {y : α} :
    (a.retain keep).get? k = some y ↔ a.get? k = some y ∧ keep y = true := by
  rw [get?_eq_some_iff, get?_eq_some_iff, generationAt_retain, tenant?_retain,
    Option.filter_eq_some_iff]
  constructor
  · rintro ⟨hg, ht, hk⟩
    rw [loses_eq_false ht hk, if_neg Bool.false_ne_true] at hg
    exact ⟨⟨hg, ht⟩, hk⟩
  · rintro ⟨⟨hg, ht⟩, hk⟩
    rw [loses_eq_false ht hk, if_neg Bool.false_ne_true]
    exact ⟨hg, ht, hk⟩

theorem wellFormed_retain (h : a.WellFormed) (keep : α → Bool) : (a.retain keep).WellFormed where
  free_nodup := by
    rw [retain_free]
    refine List.nodup_append.mpr ⟨nodup_lost a keep, h.free_nodup, fun i hi j hj hij => ?_⟩
    obtain ⟨x, hx, -⟩ := loses_eq_true_iff.mp (mem_lost_iff.mp hi)
    rw [hij, ((h.mem_free_iff j).mp hj).2] at hx
    cases hx
  mem_free_iff i := by
    rw [retain_free, List.mem_append, mem_lost_iff, loses_eq_true_iff, length_slots_retain,
      tenant?_retain, h.mem_free_iff]
    cases ht : a.tenant? i with
    | none => simp
    | some x =>
      have hlt := lt_length_of_tenant? ht
      cases hk : keep x <;> simp [hlt, hk]

theorem distinct_of_tenants {b : Arena α} (hd : a.Distinct)
    (h : ∀ i x, b.tenant? i = some x → a.tenant? i = some x) : b.Distinct :=
  fun i j x hi hj => hd (h i x hi) (h j x hj)

theorem mem_entries_of_tenants {b : Arena α}
    (h : ∀ i x, b.tenant? i = some x → a.tenant? i = some x) {x : α} (hx : x ∈ b.entries) :
    x ∈ a.entries := by
  obtain ⟨i, hi⟩ := mem_entries_iff.mp hx
  exact mem_entries_iff.mpr ⟨i, h i x hi⟩

theorem tenant?_of_tenant?_remove (h : Handle) (i : Nat) (x : α)
    (hx : (a.remove h).1.tenant? i = some x) : a.tenant? i = some x := by
  cases hy : a.get? h with
  | none => rwa [remove_of_get?_eq_none hy] at hx
  | some y =>
    rw [tenant?_remove hy] at hx
    split_ifs at hx
    exact hx

theorem tenant?_remove_eq_or (a : Arena α) (h : Handle) (i : Nat) :
    (a.remove h).1.tenant? i = a.tenant? i ∨ (a.remove h).1.tenant? i = none := by
  cases hx : (a.remove h).1.tenant? i with
  | none => exact Or.inr rfl
  | some x => exact Or.inl (tenant?_of_tenant?_remove h i x hx).symm

theorem tenant?_of_tenant?_retain (keep : α → Bool) (i : Nat) (x : α)
    (hx : (a.retain keep).tenant? i = some x) : a.tenant? i = some x := by
  rw [tenant?_retain] at hx
  exact (Option.filter_eq_some_iff.mp hx).1

theorem distinct_remove (hd : a.Distinct) (h : Handle) : (a.remove h).1.Distinct :=
  distinct_of_tenants hd (tenant?_of_tenant?_remove h)

theorem mem_entries_remove (hd : a.Distinct) {h : Handle} {x y : α} (hx : a.get? h = some x) :
    y ∈ (a.remove h).1.entries ↔ y ∈ a.entries ∧ y ≠ x := by
  have ht := (get?_eq_some_iff.mp hx).2
  simp only [mem_entries_iff, tenant?_remove hx]
  constructor
  · rintro ⟨i, hi⟩
    split_ifs at hi with hne
    refine ⟨⟨i, hi⟩, ?_⟩
    rintro rfl
    exact hne (hd hi ht)
  · rintro ⟨⟨i, hi⟩, hne⟩
    refine ⟨i, ?_⟩
    rw [if_neg, hi]
    rintro rfl
    rw [ht] at hi
    exact hne (Option.some.inj hi).symm

theorem distinct_retain (hd : a.Distinct) (keep : α → Bool) : (a.retain keep).Distinct :=
  distinct_of_tenants hd (tenant?_of_tenant?_retain keep)

theorem mem_entries_retain {keep : α → Bool} {x : α} :
    x ∈ (a.retain keep).entries ↔ x ∈ a.entries ∧ keep x = true := by
  simp only [mem_entries_iff, tenant?_retain, Option.filter_eq_some_iff]
  exact ⟨fun ⟨i, hi, hk⟩ => ⟨⟨i, hi⟩, hk⟩, fun ⟨⟨i, hi⟩, hk⟩ => ⟨i, hi, hk⟩⟩

/-! ### Later states -/

/-- Whether a slot is freed on the way from one arena to another: what it held is gone. -/
def frees (a b : Arena Nat) (i : Nat) : Bool := (a.tenant? i).isSome && b.tenant? i ≠ a.tenant? i

/-- A later state of an arena of numbers: those below a limit stay where they were or are gone, and exactly
the slots that were freed are in the next generation. -/
structure Advances (limit : Nat) (a b : Arena Nat) : Prop where
  tenant? : ∀ i x, b.tenant? i = some x → x < limit → a.tenant? i = some x
  generationAt : ∀ i,
    b.generationAt i = if a.frees b i then a.generationAt i + 1 else a.generationAt i

variable {a b c : Arena Nat}

theorem frees_eq_true_iff {i : Nat} :
    a.frees b i = true ↔ ∃ x, a.tenant? i = some x ∧ b.tenant? i ≠ some x := by
  unfold frees
  cases a.tenant? i <;> simp

theorem frees_eq_false_of_eq {i : Nat} (h : b.tenant? i = a.tenant? i) : a.frees b i = false := by
  unfold frees
  simp [h]

theorem frees_eq_false_of_none {i : Nat} (h : a.tenant? i = none) : a.frees b i = false := by
  unfold frees
  simp [h]

theorem Advances.of_eq (limit : Nat) {a b : Arena Nat} (h : b = a) : a.Advances limit b where
  tenant? i x hx _ := h ▸ hx
  generationAt i := by
    rw [frees_eq_false_of_eq (by rw [h]), h]
    rfl

/-- What a handle resolves to later on it resolved to before, unless that is new. -/
theorem Advances.get?_of_lt {limit : Nat} (hstep : a.Advances limit b) {h : Handle} {x : Nat}
    (hx : b.get? h = some x) (hlt : x < limit) : a.get? h = some x := by
  obtain ⟨hg, ht⟩ := get?_eq_some_iff.mp hx
  have hbefore := hstep.tenant? h.index x ht hlt
  have hgen := hstep.generationAt h.index
  rw [frees_eq_false_of_eq (ht.trans hbefore.symm), if_neg Bool.false_ne_true, hg] at hgen
  exact get?_eq_some_iff.mpr ⟨hgen.symm, hbefore⟩

/-- Two steps make one, unless a slot gets a new tenant in the first and loses it in the second. -/
theorem Advances.trans {limit limit' : Nat} (h : a.Advances limit b) (h' : b.Advances limit' c)
    (hle : limit ≤ limit') (hlt : ∀ x ∈ a.entries, x < limit)
    (hslots : ∀ i, b.tenant? i = a.tenant? i ∨ b.tenant? i = none ∨ c.tenant? i = b.tenant? i) :
    a.Advances limit c where
  tenant? i x hx hl := h.tenant? i x (h'.tenant? i x hx (by omega)) hl
  generationAt i := by
    have hab := h.generationAt i
    have hbc := h'.generationAt i
    rcases hslots i with heq | hnone | heq
    · rw [frees_eq_false_of_eq heq, if_neg Bool.false_ne_true] at hab
      have hfrees : a.frees c i = b.frees c i := by unfold frees; rw [heq]
      rw [hbc, hab, hfrees]
    · rw [frees_eq_false_of_none hnone, if_neg Bool.false_ne_true] at hbc
      have hfrees : a.frees c i = a.frees b i := by
        rw [Bool.eq_iff_iff, frees_eq_true_iff, frees_eq_true_iff]
        refine exists_congr fun x => and_congr_right fun hx => iff_of_true (fun hc => ?_) ?_
        · have hxl := hlt x (mem_entries_iff.mpr ⟨i, hx⟩)
          rw [h'.tenant? i x hc (by omega)] at hnone
          cases hnone
        · rw [hnone]
          exact fun h0 => by cases h0
      rw [hbc, hab, hfrees]
    · rw [frees_eq_false_of_eq heq, if_neg Bool.false_ne_true] at hbc
      have hfrees : a.frees c i = a.frees b i := by unfold frees; rw [heq]
      rw [hbc, hab, hfrees]

theorem advances_insert (h : a.WellFormed) {x limit : Nat} (hx : limit ≤ x) :
    a.Advances limit (a.insert x).1 where
  tenant? i y hy hl := by
    rw [tenant?_insert h] at hy
    split_ifs at hy
    · cases hy
      omega
    · exact hy
  generationAt i := by
    rw [generationAt_insert h, if_neg]
    rw [Bool.not_eq_true]
    by_cases hi : i = a.vacancy
    · rw [hi]
      exact frees_eq_false_of_none (tenant?_vacancy h)
    · refine frees_eq_false_of_eq ?_
      rw [tenant?_insert h, if_neg hi]

theorem advances_remove (limit : Nat) (a : Arena Nat) (h : Handle) :
    a.Advances limit (a.remove h).1 where
  tenant? i x hx _ := tenant?_of_tenant?_remove h i x hx
  generationAt i := by
    cases hx : a.get? h with
    | none =>
      rw [remove_of_get?_eq_none hx, frees_eq_false_of_eq rfl]
      rfl
    | some x =>
      rw [generationAt_remove hx]
      have ht := (get?_eq_some_iff.mp hx).2
      by_cases hi : i = h.index
      · have hfrees : a.frees (a.remove h).1 i = true := by
          rw [frees_eq_true_iff]
          refine ⟨x, by rw [hi, ht], ?_⟩
          rw [tenant?_remove hx, if_pos hi]
          exact fun h0 => by cases h0
        rw [if_pos hi, hfrees, if_pos rfl]
      · have hfrees : a.frees (a.remove h).1 i = false := by
          refine frees_eq_false_of_eq ?_
          rw [tenant?_remove hx, if_neg hi]
        rw [if_neg hi, hfrees, if_neg Bool.false_ne_true]

theorem advances_retain (limit : Nat) (a : Arena Nat) (keep : Nat → Bool) :
    a.Advances limit (a.retain keep) where
  tenant? i x hx _ := tenant?_of_tenant?_retain keep i x hx
  generationAt i := by
    have hfrees : a.frees (a.retain keep) i = a.loses keep i := by
      rw [Bool.eq_iff_iff, frees_eq_true_iff, loses_eq_true_iff]
      refine exists_congr fun x => and_congr_right fun hx => ?_
      rw [tenant?_retain, hx]
      cases hk : keep x <;> simp [Option.filter, hk]
    rw [generationAt_retain, hfrees]

/-! ### Without wrapping around -/

/-- No generation wraps around on the way from one arena to another. -/
def NoWrap (a b : Arena Nat) : Prop :=
  ∀ i, a.frees b i = true → (a.generationAt i).toNat + 1 < 2 ^ 32

theorem NoWrap.of_eq (h : b = a) : a.NoWrap b := fun i hi => by
  rw [frees_eq_false_of_eq (by rw [h])] at hi
  cases hi

theorem NoWrap.lt_of_frees (h : a.NoWrap b) {i : Nat} (hi : a.frees b i = true) :
    a.generationAt i < a.generationAt i + 1 := by
  have hbound := h i hi
  have hone : (1 : UInt32).toNat = 1 := rfl
  rw [UInt32.lt_iff_toNat_lt, UInt32.toNat_add, hone, Nat.mod_eq_of_lt (by omega)]
  omega

/-- What is left of a bound on how often slots are freed, after a step. -/
theorem Advances.bound {limit : Nat} (h : a.Advances limit b) {later : Nat → Nat}
    (hfreed : ∀ i, (a.generationAt i).toNat + ((if a.frees b i then 1 else 0) + later i) < 2 ^ 32) :
    a.NoWrap b ∧ ∀ i, (b.generationAt i).toNat + later i < 2 ^ 32 := by
  have hw : a.NoWrap b := fun i hi => by
    have hbound := hfreed i
    rw [if_pos hi] at hbound
    omega
  refine ⟨hw, fun i => ?_⟩
  have hbound := hfreed i
  have hg := h.generationAt i
  by_cases hi : a.frees b i = true
  · have hlt := hw i hi
    have hone : (1 : UInt32).toNat = 1 := rfl
    rw [if_pos hi] at hbound hg
    rw [hg, UInt32.toNat_add, hone, Nat.mod_eq_of_lt hlt]
    omega
  · rw [if_neg hi] at hbound hg
    rw [hg]
    omega

/-- A handle that was issued for a number: it resolves to that number, or its generation is over. -/
def Issued (a : Arena Nat) (h : Handle) (n : Nat) : Prop :=
  a.get? h = some n ∨ h.generation < a.generationAt h.index

/-- A handle resolves to nothing but what it was issued for. -/
theorem Issued.eq_of_get? {h : Handle} {n m : Nat} (hi : a.Issued h n) (hm : a.get? h = some m) :
    m = n := by
  rcases hi with hn | hlt
  · rw [hm] at hn
    exact Option.some.inj hn
  · rw [(get?_eq_some_iff.mp hm).1] at hlt
    exact absurd hlt (UInt32.lt_irrefl _)

/-- A handle stays issued for its number, unless the generation of its slot wraps around. -/
theorem Issued.of_slot {limit : Nat} {h : Handle} {n : Nat} (hi : a.Issued h n) (hstep : a.Advances limit b)
    (hw : a.frees b h.index = true → a.generationAt h.index < a.generationAt h.index + 1) : b.Issued h n := by
  have hg := hstep.generationAt h.index
  by_cases hf : a.frees b h.index = true
  · have hlt := hw hf
    rw [if_pos hf] at hg
    refine Or.inr ?_
    rw [hg]
    rcases hi with hn | hpast
    · rwa [(get?_eq_some_iff.mp hn).1] at hlt ⊢
    · exact UInt32.lt_trans hpast hlt
  · rw [if_neg hf] at hg
    rcases hi with hn | hpast
    · obtain ⟨hgen, ht⟩ := get?_eq_some_iff.mp hn
      refine Or.inl (get?_eq_some_iff.mpr ⟨hg.trans hgen, ?_⟩)
      by_contra hne
      exact hf (frees_eq_true_iff.mpr ⟨n, ht, hne⟩)
    · exact Or.inr (hg ▸ hpast)

theorem Issued.of_advances {limit : Nat} {h : Handle} {n : Nat} (hi : a.Issued h n)
    (hstep : a.Advances limit b) (hw : a.NoWrap b) : b.Issued h n :=
  hi.of_slot hstep hw.lt_of_frees

end HostedScripts.Output.Arena
