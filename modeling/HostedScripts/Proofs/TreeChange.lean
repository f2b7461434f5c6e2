import HostedScripts.Proofs.TreeShape
import Mathlib.Data.List.Nodup

/-! # Changing the files of a tree

A path that ends with a name leads to a place of that name in a directory (`exists_front_of_locate`). So a
file that is written gets a place that a tree has room for, and trees stay trees when files are written
(`FileTree.IsTree.write`) and removed (`FileTree.IsTree.remove`). -/

namespace HostedScripts

/-- The name of a file is written at the end of a path, and is no step up. -/
theorem Path.endsWith_of_fileName? {p : Path} {s : String} (h : p.fileName? = some s) :
    p.EndsWith s.toList ∧ s.toList ≠ ['.', '.'] := by
  rw [fileName?_eq] at h
  obtain ⟨piece, hpiece, hs⟩ := Option.bind_eq_some_iff.mp h
  split_ifs at hs with hup
  cases hs
  rw [String.toList_ofList]
  exact ⟨lastPiece?_eq_some_iff.mp hpiece, hup⟩

namespace FileTree

open Path (IsName)

variable {t t' : FileTree} {p : Path} {place below q : Place} {node : Node} {s : String} {bytes : List UInt8}
  {time : Option Int}

/-! ### Where files stand -/

theorem step_name_eq_ok (h : t.step place (.name s) = .ok below) :
    t.node? place = some .directory ∧ s.utf8ByteSize ≤ 255 ∧ below = place ++ [s] := by
  unfold step at h
  dsimp only at h
  cases hdirectory : t.requireDirectory place with
  | error e =>
    rw [hdirectory] at h
    cases h
  | ok u =>
    rw [hdirectory] at h
    simp only [bind, Except.bind, throw, throwThe, MonadExceptOf.throw, pure, Except.pure] at h
    split_ifs at h with hlong
    cases h
    exact ⟨node?_of_requireDirectory hdirectory, not_lt.mp hlong, rfl⟩

/-- A path that ends with a name leads to a place of that name in a directory. -/
theorem exists_front_of_locate (hp : t.locate p = .ok place) (hname : p.fileName? = some s) :
    ∃ front, place = front ++ [s] ∧ t.node? front = some .directory ∧ IsName s := by
  obtain ⟨-, hzero, -, hwalk, -⟩ := locate_eq_ok_iff.mp hp
  obtain ⟨most, hmost⟩ := List.getLast?_eq_some_iff.mp (Path.getLast?_of_fileName? hname)
  rw [hmost] at hwalk
  obtain ⟨front, -, hstep⟩ := exists_of_foldlM_concat hwalk
  obtain ⟨hdirectory, hshort, hplace⟩ := step_name_eq_ok hstep
  obtain ⟨⟨before, after, htext, -, hslash, hidle, -⟩, hup⟩ := Path.endsWith_of_fileName? hname
  have hfree : '\x00' ∉ s.toList := fun hmem => by
    rw [htext] at hzero
    simp [hmem] at hzero
  exact ⟨front, hplace, hdirectory, hslash, hfree, hidle, hup, hshort⟩

theorem IsTree.exists_front_of_locate (ht : t.IsTree) (hp : t.locate p = .ok place)
    (hnot : t.node? place ≠ some .directory) :
    ∃ front s, p.fileName? = some s ∧ place = front ++ [s] ∧ t.node? front = some .directory ∧ IsName s := by
  cases hname : p.fileName? with
  | none => exact absurd (ht.node?_of_fileName?_eq_none hp hname) hnot
  | some s =>
    obtain ⟨front, hplace, hfront, hs⟩ := FileTree.exists_front_of_locate hp hname
    exact ⟨front, s, rfl, hplace, hfront, hs⟩

/-! ### Writing -/

theorem map_fst_put (t : FileTree) (place : Place) (node : Node) :
    (t.put place node).nodes.map (·.1) =
      if place ∈ t.nodes.map (·.1) then t.nodes.map (·.1) else t.nodes.map (·.1) ++ [place] := by
  have hany : t.nodes.any (·.1 = place) = true ↔ place ∈ t.nodes.map (·.1) := by
    simp [List.any_eq_true, List.mem_map]
  unfold put
  simp only [hany]
  split_ifs with hmem
  · rw [List.map_map]
    refine List.map_congr_left fun entry _ => ?_
    show (if entry.1 = place then (place, node) else entry).1 = entry.1
    split_ifs with heq
    · exact heq.symm
    · rfl
  · exact List.map_append

theorem place_of_mem_put {entry : Place × Node} (h : entry ∈ (t.put place node).nodes) :
    entry.1 = place ∨ ∃ old ∈ t.nodes, old.1 = entry.1 := by
  have hlisted : entry.1 ∈ (t.put place node).nodes.map (·.1) := List.mem_map_of_mem h
  rw [map_fst_put] at hlisted
  split_ifs at hlisted with hmem
  · exact Or.inr (List.mem_map.mp hlisted)
  · rw [List.mem_append, List.mem_singleton] at hlisted
    exact hlisted.symm.imp_right List.mem_map.mp

/-- A tree that gets a node in a directory is a tree, if no directory is lost. -/
theorem IsTree.put (ht : t.IsTree) {front : Place} (hfront : t.node? front = some .directory) (hs : IsName s)
    (hgrows : t.Grows (t.put (front ++ [s]) node)) : (t.put (front ++ [s]) node).IsTree where
  distinct := by
    rw [map_fst_put]
    split_ifs with hmem
    · exact ht.distinct
    · rw [← List.concat_eq_append]
      exact ht.distinct.concat hmem
  rooted entry hentry := by
    rcases place_of_mem_put hentry with hplace | ⟨old, hold, hplace⟩
    · rw [hplace]
      simp
    · rw [← hplace]
      exact ht.rooted old hold
  parent entry hentry := by
    refine hgrows.directory _ ?_
    rcases place_of_mem_put hentry with hplace | ⟨old, hold, hplace⟩
    · rw [hplace, List.dropLast_concat]
      exact hfront
    · rw [← hplace]
      exact ht.parent old hold
  name entry hentry part hpart := by
    rcases place_of_mem_put hentry with hplace | ⟨old, hold, hplace⟩
    · rw [hplace, List.mem_append, List.mem_singleton] at hpart
      rcases hpart with hpart | rfl
      · exact ht.isName hfront hpart
      · exact hs
    · rw [← hplace] at hpart
      exact ht.name old hold part hpart
  current := by
    rw [hgrows.current]
    exact hgrows.directory _ ht.current

/-- A tree in which a file is written is a tree. -/
theorem IsTree.write (ht : t.IsTree) (h : t.write p bytes time = .ok t') : t'.IsTree := by
  obtain ⟨-, -, -, -, -, hgrows⟩ := write_eq_ok h
  unfold FileTree.write at h
  cases hplace : t.placeForFile p with
  | error e =>
    rw [hplace] at h
    cases h
  | ok place =>
    rw [hplace] at h
    cases h
    obtain ⟨hp, -, hnot, -⟩ := placeForFile_eq_ok hplace
    obtain ⟨front, s, -, rfl, hfront, hs⟩ := ht.exists_front_of_locate hp hnot
    exact ht.put hfront hs hgrows

/-! ### Removing -/

theorem remove_eq_ok (h : t.remove p = .ok t') :
    ∃ place bytes time, t.lookUp p = .ok (place, .file bytes time) ∧
      t' = { t with nodes := t.nodes.filter (·.1 ≠ place) } := by
  unfold remove at h
  cases hp : t.lookUp p with
  | error e =>
    rw [hp] at h
    cases h
  | ok found =>
    rw [hp] at h
    obtain ⟨place, node⟩ := found
    cases node with
    | directory => cases h
    | file bytes time =>
      cases h
      exact ⟨place, bytes, time, rfl, rfl⟩

/-- **What removing a file changes**: the place that the path leads to, and nothing else. -/
theorem node?_filter (hplace : place ≠ []) (q : Place) :
    FileTree.node? { t with nodes := t.nodes.filter (·.1 ≠ place) } q = if q = place then none else t.node? q := by
  unfold node?
  dsimp only
  by_cases hroot : q = []
  · have hne : ¬ q = place := fun h => hplace (h.symm.trans hroot)
    rw [if_pos hroot, if_neg hne, if_pos hroot]
  · rw [if_neg hroot, if_neg hroot, List.find?_filter]
    split_ifs with hq
    · have hnone : (t.nodes.find? fun entry => decide (entry.1 ≠ place) && decide (entry.1 = q)) = none :=
        List.find?_eq_none.mpr fun entry _ => by simp [hq]
      simpa using hnone
    · have hsame : (fun entry : Place × Node =>
          decide (decide (entry.1 ≠ place) = true ∧ decide (entry.1 = q) = true)) = fun entry => decide (entry.1 = q) := by
        funext entry
        by_cases hentry : entry.1 = q <;> simp [hentry, hq]
      rw [hsame]

/-- **A tree in which a file is removed is a tree.** -/
theorem IsTree.remove (ht : t.IsTree) (h : t.remove p = .ok t') : t'.IsTree := by
  obtain ⟨place, bytes, time, hp, rfl⟩ := remove_eq_ok h
  obtain ⟨-, hnode⟩ := lookUp_eq_ok_iff.mp hp
  have hplace : place ≠ [] := fun hroot => by
    rw [hroot, t.node?_nil] at hnode
    cases hnode
  -- no directory is lost, as a file is removed
  have hkept : ∀ q, t.node? q = some .directory →
      FileTree.node? { t with nodes := t.nodes.filter (·.1 ≠ place) } q = some .directory := fun q hq => by
    have hne : ¬ q = place := fun heq => by
      rw [heq, hnode] at hq
      cases hq
    rw [node?_filter hplace, if_neg hne]
    exact hq
  have hmem : ∀ entry ∈ t.nodes.filter (·.1 ≠ place), entry ∈ t.nodes := fun entry hentry =>
    List.mem_of_mem_filter hentry
  exact
    { distinct := ht.distinct.sublist (List.filter_sublist.map _)
      rooted := fun entry hentry => ht.rooted entry (hmem entry hentry)
      parent := fun entry hentry => hkept _ (ht.parent entry (hmem entry hentry))
      name := fun entry hentry => ht.name entry (hmem entry hentry)
      current := hkept _ ht.current }

end FileTree

end HostedScripts
