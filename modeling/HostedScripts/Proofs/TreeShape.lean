import HostedScripts.Proofs.FileTree
import HostedScripts.Proofs.PathOrder

/-! # Trees as file systems have them

In a tree (`FileTree.IsTree`) every place has one node, and whatever stands somewhere stands in a directory
and has a name. So what stands below a directory is reached by its names: the path of the directory and the
names lead there (`lookUp_descend`), and walking down a directory meets every file below it once
(`mem_walk_iff`, `pairwise_walk`), in whatever order the nodes are listed.

Two trees may differ in some files only, those at *hidden* places (`DiffersAt`). A path that has another name
at its end leads to the same in both of them (`DiffersAt.lookUp_iff`). -/

namespace HostedScripts.FileTree

open Path (IsName)

variable {t t' : FileTree} {p d q : Path} {place below : Place} {names : List String} {node : Node}

theorem node?_of_requireDirectory (h : t.requireDirectory place = .ok ()) : t.node? place = some .directory := by
  unfold requireDirectory at h
  cases hnode : t.node? place with
  | none =>
    rw [hnode] at h
    cases h
  | some node =>
    rw [hnode] at h
    cases node with
    | file b c => cases h
    | directory => rfl

theorem exists_of_foldlM_concat {most : List Component} {c : Component}
    (h : (most ++ [c]).foldlM t.step place = .ok below) :
    ∃ before, most.foldlM t.step place = .ok before ∧ t.step before c = .ok below := by
  rw [List.foldlM_append] at h
  cases hbefore : most.foldlM t.step place with
  | error e =>
    rw [hbefore] at h
    cases h
  | ok before =>
    rw [hbefore] at h
    replace h : (do let next ← t.step before c; [].foldlM t.step next) = .ok below := h
    cases hnext : t.step before c with
    | error e =>
      rw [hnext] at h
      cases h
    | ok next =>
      rw [hnext] at h
      exact ⟨before, rfl, hnext.trans h⟩

theorem step_of_not_name {c : Component} (hc : ∀ s, c ≠ .name s) (h : t.step place c = .ok below) :
    below = [] ∨ (t.node? place = some .directory ∧ (below = place ∨ below = place.dropLast)) := by
  cases c with
  | root =>
    cases h
    exact Or.inl rfl
  | name s => exact absurd rfl (hc s)
  | current | up =>
    right
    unfold step at h
    dsimp only at h
    cases hdirectory : t.requireDirectory place with
    | error e =>
      rw [hdirectory] at h
      cases h
    | ok u =>
      rw [hdirectory] at h
      cases h
      exact ⟨node?_of_requireDirectory hdirectory, by simp⟩

/-- A tree as file systems have them: a place is listed once, what is listed stands in a directory, and it has
a name. -/
structure IsTree (t : FileTree) : Prop where
  distinct : (t.nodes.map (·.1)).Nodup
  rooted : ∀ entry ∈ t.nodes, entry.1 ≠ []
  parent : ∀ entry ∈ t.nodes, t.node? entry.1.dropLast = some .directory
  name : ∀ entry ∈ t.nodes, ∀ s ∈ entry.1, IsName s
  current : t.node? t.current = some .directory

namespace IsTree

/-- What is listed is what stands somewhere, apart from the root. -/
theorem mem_nodes_iff (ht : t.IsTree) : (place, node) ∈ t.nodes ↔ place ≠ [] ∧ t.node? place = some node := by
  constructor
  · intro hmem
    have hne : place ≠ [] := ht.rooted _ hmem
    have hpairwise : t.nodes.Pairwise fun e e' => e.1 ≠ e'.1 := List.pairwise_map.mp ht.distinct
    have hfound : t.nodes.find? (·.1 = place) = some (place, node) := by
      refine List.find?_eq_some_iff_append.mpr ⟨decide_eq_true rfl, ?_⟩
      obtain ⟨before, after, hnodes⟩ := List.append_of_mem hmem
      refine ⟨before, after, hnodes, fun entry hentry => ?_⟩
      rw [hnodes] at hpairwise
      have hapart := (List.pairwise_append.mp hpairwise).2.2 entry hentry _ List.mem_cons_self
      simpa using hapart
    unfold node?
    rw [if_neg hne, hfound]
    exact ⟨hne, rfl⟩
  · rintro ⟨hne, hnode⟩
    unfold node? at hnode
    rw [if_neg hne] at hnode
    obtain ⟨entry, hentry, rfl⟩ := Option.map_eq_some_iff.mp hnode
    have hplace : entry.1 = place := by simpa using List.find?_some hentry
    rw [← hplace]
    exact List.mem_of_find?_eq_some hentry

theorem node?_dropLast (ht : t.IsTree) (hnode : t.node? place = some node) :
    t.node? place.dropLast = some .directory := by
  by_cases hroot : place = []
  · rw [hroot]
    exact t.node?_nil
  · exact ht.parent _ (ht.mem_nodes_iff.mpr ⟨hroot, hnode⟩)

theorem isName (ht : t.IsTree) (hnode : t.node? place = some node) {s : String} (hs : s ∈ place) : IsName s := by
  have hne : place ≠ [] := List.ne_nil_of_mem hs
  exact ht.name _ (ht.mem_nodes_iff.mpr ⟨hne, hnode⟩) s hs

theorem isName_below (ht : t.IsTree) (hnode : t.node? (place ++ names) = some node) : ∀ s ∈ names, IsName s :=
  fun _ hs => ht.isName hnode (List.mem_append_right place hs)

/-- What stands below a directory is reached by its names. -/
theorem foldlM_names (ht : t.IsTree) (hnode : t.node? (place ++ names) = some node) :
    (names.map Component.name).foldlM t.step place = .ok (place ++ names) := by
  induction names using List.reverseRecOn generalizing node with
  | nil => exact congrArg Except.ok (List.append_nil place).symm
  | append_singleton names s ih =>
    rw [← List.append_assoc] at hnode ⊢
    have hdirectory : t.node? (place ++ names) = some .directory := by
      have hdrop := ht.node?_dropLast hnode
      rwa [List.dropLast_concat] at hdrop
    have hs : IsName s := ht.isName hnode (List.mem_append_right _ (List.mem_singleton_self s))
    rw [List.map_append, List.foldlM_append, ih hdirectory]
    have hlong : ¬ s.utf8ByteSize > 255 := not_lt.mpr hs.short
    simp [step, requireDirectory, hdirectory, hlong, bind, Except.bind, pure, Except.pure]

/-- A path without a name at its end leads to a directory. -/
theorem node?_of_fileName?_eq_none (ht : t.IsTree) (hp : t.locate p = .ok place) (hname : p.fileName? = none) :
    t.node? place = some .directory := by
  have hwalk := (locate_eq_ok_iff.mp hp).2.2.2.1
  rcases List.eq_nil_or_concat' p.components with hnil | ⟨most, c, hmost⟩
  · rw [hnil] at hwalk
    cases hwalk
    exact ht.current
  · have hc : ∀ s, c ≠ .name s := by
      rintro s rfl
      unfold Path.fileName? at hname
      rw [hmost, List.getLast?_concat] at hname
      cases hname
    rw [hmost] at hwalk
    obtain ⟨before, -, hstep⟩ := exists_of_foldlM_concat hwalk
    rcases step_of_not_name hc hstep with rfl | ⟨hdirectory, rfl | rfl⟩
    · exact t.node?_nil
    · exact hdirectory
    · exact ht.node?_dropLast hdirectory

end IsTree

/-! ### Paths below a directory -/

theorem lookUp_eq_ok_iff : t.lookUp p = .ok (place, node) ↔ t.locate p = .ok place ∧ t.node? place = some node := by
  unfold lookUp
  simp only [bind, Except.bind, pure, Except.pure, throw, throwThe, MonadExceptOf.throw]
  cases t.locate p with
  | error e => exact iff_of_false nofun fun h => by cases h.1
  | ok found =>
    dsimp only
    constructor
    · intro h
      cases hnode : t.node? found with
      | none =>
        rw [hnode] at h
        cases h
      | some other =>
        rw [hnode] at h
        cases h
        exact ⟨rfl, hnode⟩
    · rintro ⟨hfound, hnode⟩
      cases hfound
      rw [hnode]

/-- A path that is too long leads nowhere in any tree. -/
theorem exists_lookUp_eq_error (h : 4095 < p.text.utf8ByteSize) : ∃ e, ∀ t : FileTree, t.lookUp p = .error e := by
  have hlocate : ∃ e, ∀ t : FileTree, t.locate p = .error e := by
    by_cases hempty : p.text = ""
    · exact ⟨.notFound, fun t => by unfold locate; rw [if_pos hempty]; rfl⟩
    · by_cases hzero : p.text.toList.contains '\x00' = true
      · exact ⟨.zeroInPath, fun t => by unfold locate; rw [if_neg hempty, if_pos hzero]; rfl⟩
      · exact ⟨.nameTooLong, fun t => by unfold locate; rw [if_neg hempty, if_neg hzero, if_pos h]; rfl⟩
  obtain ⟨e, he⟩ := hlocate
  refine ⟨e, fun t => ?_⟩
  unfold lookUp
  rw [he t]
  rfl

/-- What is written in a path below a directory. -/
theorem text_descend (hd : d.text ≠ "" ∧ d.text.toList.contains '\x00' = false) (hnames : ∀ s ∈ names, IsName s) :
    (d.descend names).text ≠ "" ∧ (d.descend names).text.toList.contains '\x00' = false := by
  induction names using List.reverseRecOn with
  | nil => exact hd
  | append_singleton names s ih =>
    obtain ⟨hbefore, hs⟩ := List.forall_mem_append.mp hnames
    obtain ⟨hne, hzero⟩ := ih hbefore
    have hname : IsName s := hs s (List.mem_singleton_self s)
    have hfree : s.toList.contains '\x00' = false := by simpa using hname.zero
    rw [Path.descend_concat]
    have htext : ((d.descend names).join ⟨s⟩).text.toList = (d.descend names).text.toList ++ s.toList ∨
        ((d.descend names).join ⟨s⟩).text.toList = (d.descend names).text.toList ++ '/' :: s.toList :=
      (Path.join_of_isName _ hname).imp And.right And.right
    have hcons : (d.descend names).text.toList ≠ [] := fun h => hne (String.toList_eq_nil_iff.mp h)
    rcases htext with htext | htext
    · exact ⟨fun h => by simp [h, hcons] at htext, by rw [htext, List.contains_append, hzero, hfree]; rfl⟩
    · exact ⟨fun h => by simp [h] at htext, by rw [htext, List.contains_append, hzero]; simpa using hname.zero⟩

/-- The path of a directory and the names lead to what stands below the directory, if the path is not too
long. -/
theorem IsTree.lookUp_descend (ht : t.IsTree) (hd : t.lookUp d = .ok (place, .directory))
    (hnode : t.node? (place ++ names) = some node) (hlength : (d.descend names).text.utf8ByteSize ≤ 4095) :
    t.lookUp (d.descend names) = .ok (place ++ names, node) := by
  obtain ⟨hlocate, hdirectory⟩ := lookUp_eq_ok_iff.mp hd
  obtain ⟨hne, hzero, -, hwalk, -⟩ := locate_eq_ok_iff.mp hlocate
  have hnames := ht.isName_below hnode
  obtain ⟨htext, hfree⟩ := text_descend ⟨hne, hzero⟩ hnames
  refine lookUp_eq_ok_iff.mpr ⟨locate_eq_ok_iff.mpr ⟨htext, hfree, hlength, ?_, fun hends b c hfile => ?_⟩, hnode⟩
  · rw [Path.components_descend d hnames, List.foldlM_append, hwalk]
    exact ht.foldlM_names hnode
  · rcases List.eq_nil_or_concat' names with rfl | ⟨names, s, rfl⟩
    · rw [List.append_nil, hdirectory] at hfile
      cases hfile
    · have hs : IsName s := hnames s (by simp)
      unfold endsAsDirectory at hends
      rw [Path.descend_concat, Path.getLast?_pieces_join _ hs.slash hs.idle] at hends
      dsimp only at hends
      rw [hs.idle] at hends
      cases hends

/-! ### Walking down a directory -/

theorem mem_filesBelow_iff (ht : t.IsTree) :
    names ∈ t.filesBelow place ↔ ∃ bytes time, t.node? (place ++ names) = some (.file bytes time) := by
  unfold filesBelow
  rw [List.mem_filterMap]
  constructor
  · rintro ⟨⟨found, node⟩, hmem, hfound⟩
    cases node with
    | directory => cases hfound
    | file bytes time =>
      dsimp only at hfound
      split_ifs at hfound with hprefix
      obtain ⟨more, rfl⟩ := List.isPrefixOf_iff_prefix.mp hprefix
      rw [List.drop_left] at hfound
      cases hfound
      exact ⟨bytes, time, (ht.mem_nodes_iff.mp hmem).2⟩
  · rintro ⟨bytes, time, hnode⟩
    have hne : place ++ names ≠ [] := by
      intro hroot
      rw [hroot, node?_nil] at hnode
      cases hnode
    refine ⟨(place ++ names, .file bytes time), ht.mem_nodes_iff.mpr ⟨hne, hnode⟩, ?_⟩
    dsimp only
    rw [if_pos (List.isPrefixOf_iff_prefix.mpr (List.prefix_append place names)), List.drop_left]

/-- **Walking down a directory meets every file below it.** -/
theorem IsTree.mem_walk_iff (ht : t.IsTree) (hd : t.lookUp d = .ok (place, .directory)) :
    q ∈ t.walk d ↔ ∃ names bytes time, t.node? (place ++ names) = some (.file bytes time) ∧ q = d.descend names := by
  unfold walk
  rw [hd]
  dsimp only
  rw [List.mem_map]
  constructor
  · rintro ⟨names, hmem, rfl⟩
    obtain ⟨bytes, time, hnode⟩ := (mem_filesBelow_iff ht).mp hmem
    exact ⟨names, bytes, time, hnode, rfl⟩
  · rintro ⟨names, bytes, time, hnode, rfl⟩
    exact ⟨names, (mem_filesBelow_iff ht).mpr ⟨bytes, time, hnode⟩, rfl⟩

theorem nodup_filesBelow (ht : t.IsTree) (place : Place) : (t.filesBelow place).Nodup := by
  unfold filesBelow
  refine List.Pairwise.filterMap _ ?_ (List.pairwise_map.mp ht.distinct)
  rintro ⟨p, node⟩ ⟨p', node'⟩ hne names hnames names' hnames'
  cases node with
  | directory => cases hnames
  | file b c =>
    cases node' with
    | directory => cases hnames'
    | file b' c' =>
      dsimp only at hnames hnames' hne
      split_ifs at hnames hnames' with hp hp'
      obtain ⟨more, rfl⟩ := List.isPrefixOf_iff_prefix.mp hp
      obtain ⟨more', rfl⟩ := List.isPrefixOf_iff_prefix.mp hp'
      rw [List.drop_left] at hnames hnames'
      cases hnames
      cases hnames'
      exact fun h => hne (congrArg (place ++ ·) h)

/-- **Walking down a directory meets no file twice.** -/
theorem IsTree.pairwise_walk (ht : t.IsTree) (hd : t.lookUp d = .ok (place, .directory)) :
    (t.walk d).Pairwise fun p q => p.components ≠ q.components := by
  unfold walk
  rw [hd]
  dsimp only
  refine List.pairwise_map.mpr ((nodup_filesBelow ht place).imp_of_mem fun {names names'} hmem hmem' hne heq => hne ?_)
  obtain ⟨bytes, time, hnode⟩ := (mem_filesBelow_iff ht).mp hmem
  obtain ⟨bytes', time', hnode'⟩ := (mem_filesBelow_iff ht).mp hmem'
  exact Path.eq_of_descend (ht.isName_below hnode) (ht.isName_below hnode') heq

/-! ### Trees that differ in some files -/

/-- Trees that differ in files at hidden places only. -/
structure DiffersAt (hidden : Place → Prop) (t t' : FileTree) : Prop where
  current : t'.current = t.current
  same : ∀ place, ¬ hidden place → t'.node? place = t.node? place
  file : ∀ place, hidden place → t.node? place ≠ some .directory ∧ t'.node? place ≠ some .directory

namespace DiffersAt

variable {hidden : Place → Prop}

theorem symm (h : DiffersAt hidden t t') : DiffersAt hidden t' t :=
  ⟨h.current.symm, fun place hplace => (h.same place hplace).symm, fun place hplace => (h.file place hplace).symm⟩

theorem same_of_directory (h : DiffersAt hidden t t') (hplace : t.node? place = some .directory) :
    t'.node? place = t.node? place :=
  h.same place fun hhidden => (h.file place hhidden).1 hplace

theorem opens (h : DiffersAt hidden t t') : t.Opens t' :=
  ⟨h.current, fun _ hplace => (h.same_of_directory hplace).trans hplace⟩

/-- What a path leads to that is the same in both trees is found in both. -/
theorem lookUp (h : DiffersAt hidden t t') (hp : t.lookUp p = .ok (place, node))
    (hsame : t'.node? place = t.node? place) : t'.lookUp p = .ok (place, node) := by
  obtain ⟨hlocate, hnode⟩ := lookUp_eq_ok_iff.mp hp
  obtain ⟨h1, h2, h3, hwalk, hends⟩ := locate_eq_ok_iff.mp hlocate
  refine lookUp_eq_ok_iff.mpr ⟨locate_eq_ok_iff.mpr ⟨h1, h2, h3, ?_, ?_⟩, hsame.trans hnode⟩
  · rw [h.current]
    exact h.opens.walk hwalk
  · rwa [hsame]

/-- A path that ends with no name of a hidden place leads to the same in both trees. -/
theorem lookUp_iff (h : DiffersAt hidden t t') (ht : t.IsTree) (ht' : t'.IsTree)
    (hp : ∀ front s, p.fileName? = some s → ¬ hidden (front ++ [s])) :
    t'.lookUp p = .ok (place, node) ↔ t.lookUp p = .ok (place, node) := by
  have hone : ∀ {t t'}, DiffersAt hidden t t' → t.IsTree → t.lookUp p = .ok (place, node) →
      t'.lookUp p = .ok (place, node) := by
    intro t t' h ht hlookUp
    obtain ⟨hlocate, hnode⟩ := lookUp_eq_ok_iff.mp hlookUp
    refine h.lookUp hlookUp ?_
    cases hname : p.fileName? with
    | none => exact h.same_of_directory (ht.node?_of_fileName?_eq_none hlocate hname)
    | some s =>
      have hlast := getLast?_of_locate hlocate (Path.getLast?_of_fileName? hname)
      obtain ⟨front, rfl⟩ := List.getLast?_eq_some_iff.mp hlast
      exact h.same _ (hp front s hname)
  exact ⟨hone h.symm ht', hone h ht⟩

section Reading

variable (h : DiffersAt hidden t t') (ht : t.IsTree) (ht' : t'.IsTree)
  (hp : ∀ front s, p.fileName? = some s → ¬ hidden (front ++ [s]))
include h ht ht' hp

theorem isFile_eq : t'.isFile p = t.isFile p := by
  have hsame : ∀ found, t'.lookUp p = .ok found ↔ t.lookUp p = .ok found := fun _ => h.lookUp_iff ht ht' hp
  unfold isFile
  cases hfound : t.lookUp p with
  | ok found => rw [(hsame found).mpr hfound]
  | error e =>
    cases hfound' : t'.lookUp p with
    | ok found =>
      rw [(hsame found).mp hfound'] at hfound
      cases hfound
    | error e' => rfl

theorem readText_of_isFile (hfile : t.isFile p = true) : t'.readText p = t.readText p := by
  unfold isFile at hfile
  cases hfound : t.lookUp p with
  | error e =>
    rw [hfound] at hfile
    cases hfile
  | ok found =>
    unfold readText readBytes
    have hfound' : t'.lookUp p = .ok found := (h.lookUp_iff ht ht' hp).mpr hfound
    rw [hfound, hfound']

/-- The same texts are read in both trees. -/
theorem readText_iff {text : String} : t'.readText p = .ok text ↔ t.readText p = .ok text := by
  rw [readText_eq_ok_iff, readText_eq_ok_iff]
  refine exists_congr fun place => exists_congr fun bytes => exists_congr fun time => ?_
  rw [← and_assoc, ← and_assoc, ← lookUp_eq_ok_iff, ← lookUp_eq_ok_iff, h.lookUp_iff ht ht' hp]

end Reading

end DiffersAt

end HostedScripts.FileTree
