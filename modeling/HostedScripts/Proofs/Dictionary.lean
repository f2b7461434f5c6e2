import HostedScripts.Dictionary
import Mathlib.Data.List.Sort
import Mathlib.Data.String.Basic
import Mathlib.Tactic.SplitIfs

/-! # Looking up in dictionaries

What `insert` and `erase` do to `get?`, to the order of the keys and to the number of entries. Looking up
after an insertion needs no order; that a key is there at most once, and that an insertion or an erasure
changes the number of entries by one, do need it. -/

namespace HostedScripts.Dictionary

variable {α : Type _}

/-- The keys increase strictly. -/
def Increasing (d : Dictionary α) : Prop := d.Pairwise fun a b => a.1 < b.1

/-! ### Looking up -/

theorem get?_nil (key : String) : get? key ([] : Dictionary α) = none := rfl

theorem get?_cons (key : String) (entry : String × α) (rest : Dictionary α) :
    get? key (entry :: rest) = if key = entry.1 then some entry.2 else get? key rest := rfl

theorem insert_nil (key : String) (value : α) : insert key value [] = [(key, value)] := rfl

theorem insert_cons (key : String) (value : α) (entry : String × α) (rest : Dictionary α) :
    insert key value (entry :: rest) =
      if key < entry.1 then (key, value) :: entry :: rest
      else if key = entry.1 then (key, value) :: rest
      else entry :: insert key value rest := rfl

theorem get?_insert_self (key : String) (value : α) :
    ∀ d : Dictionary α, get? key (insert key value d) = some value
  | [] => by simp [insert_nil, get?_cons]
  | (k, v) :: rest => by
    rw [insert_cons]
    split_ifs with hlt heq
    · simp [get?_cons]
    · simp [get?_cons]
    · simp [get?_cons, heq, get?_insert_self key value rest]

theorem get?_insert_of_ne {key other : String} (hne : other ≠ key) (value : α) :
    ∀ d : Dictionary α, get? other (insert key value d) = get? other d
  | [] => by simp [insert_nil, get?_cons, hne]
  | (k, v) :: rest => by
    rw [insert_cons]
    split_ifs with hlt heq
    · simp [get?_cons, hne]
    · subst heq
      simp [get?_cons, hne]
    · simp [get?_cons, get?_insert_of_ne hne value rest]

theorem erase_cons_self (key : String) (value : α) (rest : Dictionary α) :
    erase key ((key, value) :: rest) = erase key rest := by simp [erase]

theorem erase_cons_of_ne {key k : String} (hne : k ≠ key) (value : α) (rest : Dictionary α) :
    erase key ((k, value) :: rest) = (k, value) :: erase key rest := by simp [erase, hne]

theorem get?_erase_self (key : String) : ∀ d : Dictionary α, get? key (erase key d) = none
  | [] => rfl
  | (k, v) :: rest => by
    by_cases hk : k = key
    · subst hk
      rw [erase_cons_self, get?_erase_self]
    · rw [erase_cons_of_ne hk, get?_cons, if_neg (Ne.symm hk), get?_erase_self]

theorem get?_erase_of_ne {key other : String} (hne : other ≠ key) :
    ∀ d : Dictionary α, get? other (erase key d) = get? other d
  | [] => rfl
  | (k, v) :: rest => by
    by_cases hk : k = key
    · subst hk
      rw [erase_cons_self, get?_erase_of_ne hne, get?_cons, if_neg hne]
    · rw [erase_cons_of_ne hk, get?_cons, get?_cons, get?_erase_of_ne hne]

theorem mem_keys_iff {key : String} : ∀ {d : Dictionary α}, key ∈ d.map (·.1) ↔ get? key d ≠ none
  | [] => by simp [get?_nil]
  | (k, v) :: rest => by
    rw [List.map_cons, List.mem_cons, get?_cons, mem_keys_iff]
    split_ifs with hk
    · simp [hk]
    · simp [hk]

theorem mem_of_get? {key : String} {value : α} {d : Dictionary α} (h : get? key d = some value) :
    (key, value) ∈ d := by
  induction d with
  | nil => cases h
  | cons entry d ih =>
    rw [get?_cons] at h
    split_ifs at h with hkey
    · cases h
      subst hkey
      exact List.mem_cons_self
    · exact List.mem_cons_of_mem _ (ih h)

theorem get?_append (key : String) (d other : Dictionary α) :
    get? key (d ++ other) = (get? key d).or (get? key other) := by
  induction d with
  | nil => rfl
  | cons entry d ih =>
    rw [List.cons_append, get?_cons, get?_cons, ih]
    split_ifs <;> rfl

theorem get?_map {β : Type _} (f : α → β) (key : String) (d : Dictionary α) :
    get? key (d.map fun entry => (entry.1, f entry.2)) = (get? key d).map f := by
  induction d with
  | nil => rfl
  | cons entry d ih =>
    rw [List.map_cons, get?_cons, get?_cons, ih]
    split_ifs <;> rfl

/-- Of the entries that are put on top the last one with a key counts, and without one what is there. -/
theorem get?_union (key : String) (d other : Dictionary α) :
    get? key (union d other) = (get? key other.reverse).or (get? key d) := by
  induction other generalizing d with
  | nil => rfl
  | cons entry other ih =>
    have hstep : union d (entry :: other) = union (insert entry.1 entry.2 d) other := rfl
    rw [hstep, ih, List.reverse_cons, get?_append, Option.or_assoc]
    congr 1
    by_cases hkey : key = entry.1
    · rw [hkey, get?_insert_self, get?_cons, if_pos rfl]
      rfl
    · rw [get?_insert_of_ne hkey, get?_cons, if_neg hkey]
      rfl

theorem get?_ofEntries (key : String) (entries : List (String × α)) :
    get? key (ofEntries entries) = get? key entries.reverse := by
  have hunion := get?_union key [] entries
  rwa [get?_nil, Option.or_none] at hunion

/-- Where every key is there once, it does not matter from which end it is looked for. -/
theorem get?_reverse {d : Dictionary α} (h : (d.map (·.1)).Nodup) (key : String) :
    get? key d.reverse = get? key d := by
  induction d with
  | nil => rfl
  | cons entry d ih =>
    obtain ⟨hentry, hd⟩ := List.nodup_cons.mp h
    rw [List.reverse_cons, get?_append, ih hd, get?_cons, get?_nil, get?_cons]
    split_ifs with hkey
    · have hnone : get? key d = none := by
        rw [hkey]
        exact not_not.mp fun hne => hentry (mem_keys_iff.mpr hne)
      rw [hnone]
      rfl
    · exact Option.or_none

/-- From the end, the entry is found behind which the key does not come again. -/
theorem get?_reverse_eq_some_iff {key : String} {value : α} {entries : List (String × α)} :
    get? key entries.reverse = some value ↔
      ∃ before later, entries = before ++ (key, value) :: later ∧ key ∉ later.map (·.1) := by
  have hkeys (later : List (String × α)) : key ∉ later.map (·.1) ↔ get? key later.reverse = none := by
    rw [← List.mem_reverse, ← List.map_reverse, mem_keys_iff, not_not]
  constructor
  · intro h
    induction entries with
    | nil => cases h
    | cons entry entries ih =>
      rw [List.reverse_cons, get?_append] at h
      cases hrest : get? key entries.reverse with
      | some found =>
        rw [hrest] at h
        obtain ⟨before, later, heq, hlater⟩ := ih (hrest.trans h)
        exact ⟨entry :: before, later, congrArg (entry :: ·) heq, hlater⟩
      | none =>
        rw [hrest, Option.none_or, get?_cons, get?_nil] at h
        split_ifs at h with hkey
        cases h
        exact ⟨[], entries, by rw [hkey]; rfl, (hkeys entries).mpr hrest⟩
  · rintro ⟨before, later, rfl, hlater⟩
    rw [List.reverse_append, List.reverse_cons, List.append_assoc, get?_append, (hkeys later).mp hlater,
      Option.none_or, List.singleton_append, get?_cons, if_pos rfl]

/-! ### Order -/

theorem mem_insert {key : String} {value : α} {entry : String × α} :
    ∀ {d : Dictionary α}, entry ∈ insert key value d → entry = (key, value) ∨ entry ∈ d
  | [], h => by
    simp only [insert_nil, List.mem_singleton] at h
    exact Or.inl h
  | (k, v) :: rest, h => by
    rw [insert_cons] at h
    split_ifs at h with hlt heq
    · exact List.mem_cons.mp h
    · rcases List.mem_cons.mp h with h | h
      · exact Or.inl h
      · exact Or.inr (List.mem_cons_of_mem _ h)
    · rcases List.mem_cons.mp h with rfl | h
      · exact Or.inr List.mem_cons_self
      · exact (mem_insert h).imp_right (List.mem_cons_of_mem _)

theorem increasing_insert (key : String) (value : α) :
    ∀ {d : Dictionary α}, Increasing d → Increasing (insert key value d)
  | [], _ => List.pairwise_singleton _ _
  | (k, v) :: rest, h => by
    obtain ⟨hhead, hrest⟩ := List.pairwise_cons.mp h
    rw [insert_cons]
    split_ifs with hlt heq
    · refine List.pairwise_cons.mpr ⟨fun entry hentry => ?_, h⟩
      rcases List.mem_cons.mp hentry with rfl | hentry
      · exact hlt
      · exact String.lt_trans hlt (hhead entry hentry)
    · subst heq
      exact List.pairwise_cons.mpr ⟨hhead, hrest⟩
    · refine List.pairwise_cons.mpr ⟨fun entry hentry => ?_, increasing_insert key value hrest⟩
      rcases mem_insert hentry with rfl | hentry
      · exact lt_of_le_of_ne (not_lt.mp hlt) (Ne.symm heq)
      · exact hhead entry hentry

theorem insert_of_forall_lt {key : String} (value : α) :
    ∀ {d : Dictionary α}, (∀ entry ∈ d, entry.1 < key) → insert key value d = d ++ [(key, value)]
  | [], _ => rfl
  | (k, v) :: rest, h => by
    have hk : k < key := h (k, v) List.mem_cons_self
    rw [insert_cons, if_neg (not_lt.mpr hk.le), if_neg hk.ne',
      insert_of_forall_lt value fun entry hentry => h entry (List.mem_cons_of_mem _ hentry)]
    rfl

/-- Entries in order that come after those of a dictionary are put behind them. -/
theorem union_of_increasing {d other : Dictionary α} (h : Increasing (d ++ other)) :
    union d other = d ++ other := by
  induction other generalizing d with
  | nil => exact (List.append_nil d).symm
  | cons entry other ih =>
    have hlast : insert entry.1 entry.2 d = d ++ [entry] :=
      insert_of_forall_lt entry.2 fun before hbefore =>
        (List.pairwise_append.mp h).2.2 before hbefore entry List.mem_cons_self
    have hassoc : d ++ entry :: other = d ++ [entry] ++ other := by simp
    rw [hassoc] at h ⊢
    rw [← ih h, ← hlast]
    rfl

theorem ofEntries_of_increasing {d : Dictionary α} (h : Increasing d) : ofEntries d = d :=
  union_of_increasing h

theorem exists_insert {key : String} (value : α) :
    ∀ {d : Dictionary α}, get? key d = none →
      ∃ before later, d = before ++ later ∧ insert key value d = before ++ (key, value) :: later
  | [], _ => ⟨[], [], rfl, rfl⟩
  | (k, v) :: rest, h => by
    rw [get?_cons] at h
    split_ifs at h with hk
    rw [insert_cons]
    split_ifs with hlt
    · exact ⟨[], (k, v) :: rest, rfl, rfl⟩
    · obtain ⟨before, later, rfl, hinsert⟩ := exists_insert value h
      exact ⟨(k, v) :: before, later, rfl, congrArg ((k, v) :: ·) hinsert⟩

theorem increasing_union {d : Dictionary α} (h : Increasing d) (other : Dictionary α) :
    Increasing (union d other) := by
  induction other generalizing d with
  | nil => exact h
  | cons entry other ih => exact ih (increasing_insert entry.1 entry.2 h)

theorem increasing_ofEntries (entries : List (String × α)) : Increasing (ofEntries entries) :=
  increasing_union List.Pairwise.nil entries

theorem increasing_erase (key : String) {d : Dictionary α} (h : Increasing d) :
    Increasing (erase key d) := h.filter _

theorem Increasing.nodup_keys {d : Dictionary α} (h : Increasing d) : (d.map (·.1)).Nodup :=
  List.pairwise_map.mpr (h.imp fun hlt => String.ne_of_lt hlt)

theorem get?_of_mem {key : String} {value : α} {d : Dictionary α} (h : Increasing d)
    (hentry : (key, value) ∈ d) : get? key d = some value := by
  induction d with
  | nil => cases hentry
  | cons entry d ih =>
    obtain ⟨hhead, hd⟩ := List.pairwise_cons.mp h
    rw [get?_cons]
    rcases List.mem_cons.mp hentry with rfl | hentry
    · exact if_pos rfl
    · rw [if_neg (String.ne_of_lt (hhead _ hentry)).symm, ih hd hentry]

theorem eq_of_get? {d other : Dictionary α} (hd : Increasing d) (hother : Increasing other)
    (h : ∀ key, get? key d = get? key other) : d = other := by
  have hmem : ∀ entry, entry ∈ d ↔ entry ∈ other := fun (key, value) => by
    refine ⟨fun hentry => mem_of_get? ?_, fun hentry => mem_of_get? ?_⟩
    · rw [← h, get?_of_mem hd hentry]
    · rw [h, get?_of_mem hother hentry]
  have : Std.Irrefl fun a b : String × α => a.1 < b.1 := ⟨fun a => String.lt_irrefl a.1⟩
  have : Std.Antisymm fun a b : String × α => a.1 < b.1 :=
    ⟨fun a _ hab hba => absurd (String.lt_trans hab hba) (String.lt_irrefl a.1)⟩
  exact List.Pairwise.eq_of_mem_iff hd hother hmem

/-! ### Number of entries -/

theorem length_insert_of_get?_eq_none {key : String} (value : α) :
    ∀ {d : Dictionary α}, get? key d = none → (insert key value d).length = d.length + 1
  | [], _ => rfl
  | (k, v) :: rest, h => by
    rw [get?_cons] at h
    split_ifs at h with hk
    rw [insert_cons]
    split_ifs with hlt
    · rfl
    · simp [length_insert_of_get?_eq_none value h]

theorem erase_eq_self {key : String} {d : Dictionary α} (h : ∀ entry ∈ d, entry.1 ≠ key) :
    erase key d = d := by
  unfold erase
  refine List.filter_eq_self.mpr fun entry hentry => ?_
  simpa using h entry hentry

theorem length_erase_of_get? {key : String} {value : α} :
    ∀ {d : Dictionary α}, Increasing d → get? key d = some value →
      (erase key d).length + 1 = d.length
  | (k, v) :: rest, hd, h => by
    obtain ⟨hhead, hrest⟩ := List.pairwise_cons.mp hd
    rw [get?_cons] at h
    split_ifs at h with hk
    · subst hk
      have hself : erase key rest = rest := erase_eq_self fun entry hentry heq =>
        String.lt_irrefl key (heq ▸ hhead entry hentry)
      rw [erase_cons_self, hself, List.length_cons]
    · rw [erase_cons_of_ne (Ne.symm hk), List.length_cons, List.length_cons,
        length_erase_of_get? hrest h]

end HostedScripts.Dictionary
