import HostedScripts.FileTree
import Mathlib.Data.List.Basic
import Mathlib.Tactic.SplitIfs

/-! # What file operations change

A tree is seen through what stands at each place (`FileTree.node?`). A tree *grows* (`Grows`) if files
stay files and directories stay directories; then every path that led somewhere still leads there
(`Grows.locate`). Writing a file grows a tree, changes the place of the file only, and the file can be read
from then on (`write_eq_ok`, `readText_of_write`). Making directories grows a tree as far as it gets, and
the only places that change are those of directories that were missing (`prepares_prepare`). -/

namespace HostedScripts

/-! ### Texts in files -/

namespace Text

theorem toList_loop (bytes : ByteArray) (i : Nat) (done : List UInt8) :
    ByteArray.toList.loop bytes i done = done.reverse ++ bytes.data.toList.drop i := by
  induction h : bytes.size - i generalizing i done with
  | zero =>
    rw [ByteArray.toList.loop, if_neg (by omega), List.drop_eq_nil_of_le, List.append_nil]
    have hsize : bytes.data.toList.length = bytes.size := rfl
    omega
  | succ k ih =>
    have hi : i < bytes.data.toList.length := by
      have hsize : bytes.data.toList.length = bytes.size := rfl
      omega
    have hget : bytes.get! i = bytes.data.toList[i] := getElem!_pos bytes.data i hi
    rw [ByteArray.toList.loop, if_pos (by omega), ih (i + 1) _ (by omega), List.drop_eq_getElem_cons hi,
      hget]
    simp

/-- A text is read back from its bytes. -/
theorem ofBytes?_toBytes (s : String) : ofBytes? (toBytes s) = some s := by
  have hbytes : ByteArray.mk (toBytes s).toArray = s.toByteArray := by
    have hlist : toBytes s = s.toByteArray.data.toList := toList_loop s.toByteArray 0 []
    rw [hlist, Array.toArray_toList]
  unfold ofBytes? String.fromUTF8?
  rw [hbytes, dif_pos s.isValidUTF8]
  rfl

end Text

/-- A path on the way to another one, as that is written: its directory, and what is on the way to that. -/
inductive Path.Above : Path → Path → Prop where
  | parent {p q : Path} (h : p.parent? = some q) : Above q p
  | further {p q r : Path} (h : p.parent? = some q) (hr : Above r q) : Above r p

namespace FileTree

variable {t t' t'' : FileTree} {p : Path} {place q : Place} {node : Node}

/-! ### What stands where -/

theorem find?_put (entries : List (Place × Node)) (place : Place) (node : Node) (q : Place) :
    ((entries.map fun entry => if entry.1 = place then (place, node) else entry).find? (·.1 = q)) =
      if q = place then (entries.find? (·.1 = place)).map fun _ => (place, node)
      else entries.find? (·.1 = q) := by
  induction entries with
  | nil => simp
  | cons entry entries ih =>
    rw [List.map_cons, List.find?_cons, ih]
    by_cases he : entry.1 = place
    · by_cases hq : q = place
      · simp [he, hq]
      · have hne : ¬ place = q := fun h => hq h.symm
        simp [he, hq, hne]
    · by_cases hq : q = place
      · simp [he, hq]
      · simp [he, hq, List.find?_cons]

/-- Putting a node at a place changes that place only. -/
theorem node?_put (t : FileTree) (hplace : place ≠ []) (node : Node) (q : Place) :
    (t.put place node).node? q = if q = place then some node else t.node? q := by
  unfold node? put
  by_cases hroot : q = []
  · have hne : ¬ q = place := fun h => hplace (h.symm.trans hroot)
    rw [if_pos hroot, if_neg hne, if_pos hroot]
  rw [if_neg hroot, if_neg hroot]
  by_cases hany : t.nodes.any (·.1 = place) = true
  · rw [if_pos hany]
    dsimp only
    rw [find?_put]
    obtain ⟨entry, hmem, hentry⟩ := List.any_eq_true.mp hany
    have hfound : (t.nodes.find? (·.1 = place)).isSome = true :=
      List.find?_isSome.mpr ⟨entry, hmem, hentry⟩
    obtain ⟨found, hfound⟩ := Option.isSome_iff_exists.mp hfound
    split_ifs with hq
    · rw [hfound]
      rfl
    · rfl
  · rw [if_neg hany]
    dsimp only
    have hnone : t.nodes.find? (·.1 = place) = none := by
      refine List.find?_eq_none.mpr fun entry hmem hentry => hany ?_
      exact List.any_eq_true.mpr ⟨entry, hmem, hentry⟩
    rw [List.find?_append]
    split_ifs with hq
    · rw [hq, hnone]
      simp
    · have hne : ¬ place = q := fun h => hq h.symm
      simp [hne]

theorem current_put (t : FileTree) (place : Place) (node : Node) :
    (t.put place node).current = t.current := by
  unfold put
  split_ifs <;> rfl

theorem node?_nil (t : FileTree) : t.node? [] = some .directory := by simp [node?]

/-! ### Growing -/

/-- A tree in which one gets on wherever one got on in another one: what were directories are directories. -/
structure Opens (t t' : FileTree) : Prop where
  current : t'.current = t.current
  directory : ∀ q, t.node? q = some .directory → t'.node? q = some .directory

namespace Opens

theorem requireDirectory (h : t.Opens t') (hq : t.requireDirectory q = .ok ()) :
    t'.requireDirectory q = .ok () := by
  unfold FileTree.requireDirectory at hq ⊢
  cases hnode : t.node? q with
  | none =>
    rw [hnode] at hq
    cases hq
  | some node =>
    cases node with
    | file b c =>
      rw [hnode] at hq
      cases hq
    | directory => rw [h.directory q hnode]

theorem step (h : t.Opens t') {c : Component} (hstep : t.step place c = .ok q) :
    t'.step place c = .ok q := by
  cases c with
  | root => exact hstep
  | current | up | name =>
    unfold FileTree.step at hstep ⊢
    dsimp only at hstep ⊢
    cases hdir : t.requireDirectory place with
    | error e =>
      rw [hdir] at hstep
      cases hstep
    | ok u =>
      rw [h.requireDirectory hdir]
      rw [hdir] at hstep
      exact hstep

theorem walk (h : t.Opens t') {cs : List Component} (hwalk : cs.foldlM t.step place = .ok q) :
    cs.foldlM t'.step place = .ok q := by
  induction cs generalizing place with
  | nil => exact hwalk
  | cons c cs ih =>
    rw [List.foldlM_cons] at hwalk ⊢
    cases hc : t.step place c with
    | error e =>
      rw [hc] at hwalk
      cases hwalk
    | ok next =>
      rw [hc] at hwalk
      rw [h.step hc]
      exact ih hwalk

end Opens

/-- A later state of a tree, in which files are still files and directories are still directories. -/
structure Grows (t t' : FileTree) : Prop where
  current : t'.current = t.current
  directory : ∀ q, t.node? q = some .directory → t'.node? q = some .directory
  file : ∀ q bytes time, t.node? q = some (.file bytes time) →
    ∃ bytes' time', t'.node? q = some (.file bytes' time')

namespace Grows

theorem refl (t : FileTree) : t.Grows t := ⟨rfl, fun _ h => h, fun _ b c h => ⟨b, c, h⟩⟩

theorem trans (h : t.Grows t') (h' : t'.Grows t'') : t.Grows t'' where
  current := h'.current.trans h.current
  directory q hq := h'.directory q (h.directory q hq)
  file q b c hq := by
    obtain ⟨b', c', hq'⟩ := h.file q b c hq
    exact h'.file q b' c' hq'

theorem opens (h : t.Grows t') : t.Opens t' := ⟨h.current, h.directory⟩

end Grows

theorem grows_put (hplace : place ≠ []) (h : ∀ old, t.node? place = some old →
    (node = .directory ↔ old = .directory)) : t.Grows (t.put place node) where
  current := current_put t place node
  directory q hq := by
    rw [node?_put t hplace]
    split_ifs with heq
    · rw [(h .directory (heq ▸ hq)).mpr rfl]
    · exact hq
  file q b c hq := by
    rw [node?_put t hplace]
    split_ifs with heq
    · have hne : node ≠ .directory := fun hdir => by
        have hold := (h (.file b c) (heq ▸ hq)).mp hdir
        cases hold
      cases node with
      | file b' c' => exact ⟨b', c', rfl⟩
      | directory => exact absurd rfl hne
    · exact ⟨b, c, hq⟩

/-! ### Where paths lead -/

/-- A path leads to a place if it can be followed, and a file does not stand where a directory is needed. -/
theorem locate_eq_ok_iff :
    t.locate p = .ok place ↔
      p.text ≠ "" ∧ p.text.toList.contains '\x00' = false ∧ p.text.utf8ByteSize ≤ 4095 ∧
        p.components.foldlM t.step t.current = .ok place ∧
        (endsAsDirectory p = true → ∀ bytes time, t.node? place ≠ some (.file bytes time)) := by
  unfold locate
  simp only [throw, throwThe, MonadExceptOf.throw, bind, Except.bind, pure, Except.pure]
  split_ifs with hempty hzero hlong hends
  · exact iff_of_false nofun fun h => h.1 hempty
  · refine iff_of_false nofun fun h => ?_
    rw [hzero] at h
    cases h.2.1
  · refine iff_of_false nofun fun h => ?_
    have hle := h.2.2.1
    omega
  · have hle : p.text.utf8ByteSize ≤ 4095 := by omega
    have hfree : p.text.toList.contains '\x00' = false := by simpa using hzero
    simp only [ne_eq, hempty, not_false_eq_true, hfree, hle, hends, true_and, true_imp_iff]
    rcases p.components.foldlM t.step t.current with e | v
    · exact iff_of_false nofun fun h => by cases h.1
    · rcases hnode : t.node? v with - | ⟨b, c⟩ | -
      · simp only [hnode, Except.ok.injEq, iff_self_and]
        rintro rfl b c hfile
        rw [hnode] at hfile
        cases hfile
      · simp only [hnode]
        refine iff_of_false nofun ?_
        rintro ⟨hv, hno⟩
        cases hv
        exact hno b c hnode
      · simp only [hnode, Except.ok.injEq, iff_self_and]
        rintro rfl b c hfile
        rw [hnode] at hfile
        cases hfile
  · have hle : p.text.utf8ByteSize ≤ 4095 := by omega
    have hfree : p.text.toList.contains '\x00' = false := by simpa using hzero
    simp only [ne_eq, hempty, not_false_eq_true, hfree, hle, hends, true_and, Bool.false_eq_true,
      false_imp_iff, and_true]
    cases p.components.foldlM t.step t.current <;> rfl

/-- Paths lead where they led before in a tree that has grown, unless a file was put where one needs a
directory. -/
theorem Grows.locate (h : t.Grows t') (hp : t.locate p = .ok place)
    (hfree : endsAsDirectory p = false ∨ t'.node? place = some .directory) :
    t'.locate p = .ok place := by
  obtain ⟨h1, h2, h3, hwalk, -⟩ := locate_eq_ok_iff.mp hp
  refine locate_eq_ok_iff.mpr ⟨h1, h2, h3, ?_, fun hends b c hfile => ?_⟩
  · rw [h.current]
    exact h.opens.walk hwalk
  · rcases hfree with hno | hdir
    · rw [hno] at hends
      cases hends
    · rw [hdir] at hfile
      cases hfile

theorem getLast?_of_locate {s : String} (hp : t.locate p = .ok place)
    (hlast : p.components.getLast? = some (.name s)) : place.getLast? = some s := by
  obtain ⟨most, hmost⟩ := List.getLast?_eq_some_iff.mp hlast
  have hwalk := (locate_eq_ok_iff.mp hp).2.2.2.1
  rw [hmost, List.foldlM_append] at hwalk
  cases hbefore : most.foldlM t.step t.current with
  | error e =>
    rw [hbefore] at hwalk
    cases hwalk
  | ok q =>
    rw [hbefore] at hwalk
    replace hwalk : (do let q' ← t.step q (.name s); [].foldlM t.step q') = .ok place := hwalk
    unfold step at hwalk
    simp only [bind, Except.bind, throw, throwThe, MonadExceptOf.throw, pure, Except.pure,
      List.foldlM_nil] at hwalk
    cases hdir : t.requireDirectory q with
    | error e =>
      rw [hdir] at hwalk
      cases hwalk
    | ok u =>
      rw [hdir] at hwalk
      dsimp only at hwalk
      split_ifs at hwalk with hlong
      cases hwalk
      exact List.getLast?_concat

/-! ### Writing files -/

theorem placeForFile_eq_ok (h : t.placeForFile p = .ok place) :
    t.locate p = .ok place ∧ place ≠ [] ∧ t.node? place ≠ some .directory ∧
      endsAsDirectory p = false := by
  unfold placeForFile at h
  simp only [throw, throwThe, MonadExceptOf.throw, bind, Except.bind, pure, Except.pure] at h
  cases hp : t.locate p with
  | error e =>
    rw [hp] at h
    cases h
  | ok v =>
    rw [hp] at h
    dsimp only at h
    have hroot : t.node? v ≠ some .directory → v ≠ [] := by
      rintro hne rfl
      exact hne t.node?_nil
    cases hnode : t.node? v with
    | none =>
      rw [hnode] at h hroot
      dsimp only at h
      split_ifs at h with hends
      cases h
      refine ⟨rfl, hroot nofun, ?_, by simpa using hends⟩
      rw [hnode]
      exact nofun
    | some node =>
      rw [hnode] at h hroot
      cases node with
      | directory => cases h
      | file b c =>
        cases h
        refine ⟨rfl, hroot nofun, ?_, ?_⟩
        · rw [hnode]
          exact nofun
        · -- a path that needs a directory does not lead to a file
          by_contra hends
          have hneeds := (locate_eq_ok_iff.mp hp).2.2.2.2 (by simpa using hends)
          exact hneeds b c hnode

/-- What writing a file changes: the place that the path leads to, and nothing else. -/
theorem write_eq_ok {bytes : List UInt8} {time : Option Int} (h : t.write p bytes time = .ok t') :
    ∃ place, t.locate p = .ok place ∧ t'.locate p = .ok place ∧
      t'.node? place = some (.file bytes time) ∧ (∀ q, q ≠ place → t'.node? q = t.node? q) ∧
      t.Grows t' := by
  unfold write at h
  cases hplace : t.placeForFile p with
  | error e =>
    rw [hplace] at h
    cases h
  | ok place =>
    rw [hplace] at h
    cases h
    obtain ⟨hp, hroot, hnot, hends⟩ := placeForFile_eq_ok hplace
    have hgrows : t.Grows (t.put place (.file bytes time)) := by
      refine grows_put hroot fun old hold => iff_of_false nofun ?_
      rintro rfl
      exact hnot hold
    refine ⟨place, hp, hgrows.locate hp (Or.inl hends), ?_, fun q hq => ?_, hgrows⟩
    · rw [node?_put t hroot, if_pos rfl]
    · rw [node?_put t hroot, if_neg hq]

theorem readText_eq_ok_iff {text : String} :
    t.readText p = .ok text ↔ ∃ place bytes time, t.locate p = .ok place ∧
      t.node? place = some (.file bytes time) ∧ Text.ofBytes? bytes = some text := by
  unfold readText readBytes lookUp
  simp only [bind, Except.bind, pure, Except.pure, throw, throwThe, MonadExceptOf.throw]
  constructor
  · intro h
    rcases hp : t.locate p with e | place
    · rw [hp] at h
      cases h
    · rw [hp] at h
      rcases hnode : t.node? place with - | ⟨bytes, time⟩ | -
      · simp only [hnode] at h
        cases h
      · simp only [hnode] at h
        refine ⟨place, bytes, time, rfl, hnode, ?_⟩
        cases htext : Text.ofBytes? bytes with
        | none =>
          rw [htext] at h
          cases h
        | some found =>
          rw [htext] at h
          rw [Except.ok.inj h]
      · simp only [hnode] at h
        cases h
  · rintro ⟨place, bytes, time, hp, hnode, htext⟩
    simp only [hp, hnode, htext]

/-- What was written is read. -/
theorem readText_of_write {text : String} {time : Option Int}
    (h : t.write p (Text.toBytes text) time = .ok t') : t'.readText p = .ok text := by
  obtain ⟨place, -, hp, hnode, -, -⟩ := write_eq_ok h
  exact readText_eq_ok_iff.mpr ⟨place, _, time, hp, hnode, Text.ofBytes?_toBytes text⟩

/-! ### Making directories -/

/-- A tree in which directories have been made that were missing: that of a path, or those on the way to it.
-/
structure Prepares (t : FileTree) (p : Path) (t' : FileTree) : Prop where
  grows : t.Grows t'
  made : ∀ q, t'.node? q ≠ t.node? q → t.node? q = none ∧ t'.node? q = some .directory ∧
    ∃ a : Path, (a = p ∨ a.Above p) ∧ t'.locate a = .ok q

theorem Prepares.refl (t : FileTree) (p : Path) : t.Prepares p t :=
  ⟨.refl t, fun _ hq => absurd rfl hq⟩

theorem Prepares.trans {parent : Path} (h : t.Prepares parent t') (hparent : p.parent? = some parent)
    (h' : t'.Prepares p t'') : t.Prepares p t'' where
  grows := h.grows.trans h'.grows
  made q hq := by
    by_cases hfirst : t'.node? q = t.node? q
    · rw [← hfirst] at hq ⊢
      exact h'.made q hq
    · obtain ⟨hnone, hdir, a, ha, hlocate⟩ := h.made q hfirst
      have hdir' := h'.grows.directory q hdir
      refine ⟨hnone, hdir', a, Or.inr ?_, h'.grows.locate hlocate (Or.inr hdir')⟩
      rcases ha with rfl | ha
      · exact .parent hparent
      · exact .further hparent ha

theorem prepares_makeDirectory (h : t.makeDirectory p = .ok t') : t.Prepares p t' := by
  unfold makeDirectory at h
  simp only [throw, throwThe, MonadExceptOf.throw, bind, Except.bind, pure, Except.pure] at h
  cases hp : t.locate p with
  | error e =>
    rw [hp] at h
    cases h
  | ok place =>
    rw [hp] at h
    dsimp only at h
    split_ifs at h with hthere
    cases h
    have hnone : t.node? place = none := by simpa using hthere
    have hroot : place ≠ [] := by
      rintro rfl
      rw [node?_nil] at hnone
      cases hnone
    have hgrows : t.Grows (t.put place .directory) := by
      refine grows_put hroot fun old hold => ?_
      rw [hnone] at hold
      cases hold
    have hmade : (t.put place .directory).node? place = some .directory := by
      rw [node?_put t hroot, if_pos rfl]
    refine ⟨hgrows, fun q hq => ?_⟩
    rw [node?_put t hroot] at hq
    split_ifs at hq with heq
    · subst heq
      exact ⟨hnone, hmade, p, Or.inl rfl, hgrows.locate hp (Or.inr hmade)⟩
    · exact absurd rfl hq

theorem prepares_ensureDirectory (t : FileTree) (p : Path) : t.Prepares p (t.ensureDirectory p).1 := by
  unfold ensureDirectory
  cases h : t.makeDirectory p with
  | ok t' => exact prepares_makeDirectory h
  | error e => exact .refl t p

/-- **Making directories changes only places of directories that were missing**, however far it gets. -/
theorem prepares_prepareWith (t : FileTree) (p : Path) (fuel : Nat) :
    t.Prepares p (t.prepareWith p fuel).1 := by
  induction fuel generalizing t p with
  | zero => exact .refl t p
  | succ fuel ih =>
    unfold prepareWith
    split_ifs with hempty
    · exact .refl t p
    · split
      · cases hparent : p.parent? with
        | none => exact .refl t p
        | some parent =>
          have hfirst := ih t parent
          dsimp only
          split
          · next t' heq =>
            rw [heq] at hfirst
            exact hfirst.trans hparent (prepares_ensureDirectory t' p)
          · next t' e heq =>
            rw [heq] at hfirst
            exact hfirst.trans hparent (.refl t' p)
      · exact prepares_ensureDirectory t p

theorem prepares_prepare (t : FileTree) (p : Path) : t.Prepares p (t.prepare p).1 :=
  prepares_prepareWith t p _

theorem prepare_of_empty (t : FileTree) : t.prepare ⟨""⟩ = (t, .ok ()) := rfl

/-! ### Logging -/

/-- A tree in which a file may have been written at a path, and directories made on the way to it. -/
structure Logged (t : FileTree) (p : Path) (t' : FileTree) : Prop where
  grows : t.Grows t'
  changed : ∀ q, t'.node? q ≠ t.node? q → t'.locate p = .ok q ∨
    (t.node? q = none ∧ t'.node? q = some .directory ∧ ∃ a : Path, a.Above p ∧ t'.locate a = .ok q)

theorem Logged.refl (t : FileTree) (p : Path) : t.Logged p t := ⟨.refl t, fun _ hq => absurd rfl hq⟩

/-- Making the directories above a path changes none but those that were missing. -/
theorem logged_prepare (t : FileTree) (p : Path) :
    t.Logged p (t.prepare (p.parent?.getD ⟨""⟩)).1 := by
  cases hparent : p.parent? with
  | none =>
    rw [Option.getD_none, prepare_of_empty]
    exact .refl t p
  | some parent =>
    obtain ⟨hgrows, hmade⟩ := t.prepares_prepare parent
    refine ⟨hgrows, fun q hq => Or.inr ?_⟩
    obtain ⟨hnone, hdir, a, ha, hlocate⟩ := hmade q hq
    refine ⟨hnone, hdir, a, ?_, hlocate⟩
    rcases ha with rfl | ha
    · exact .parent hparent
    · exact .further hparent ha

theorem Logged.write {bytes : List UInt8} {time : Option Int} (h : t.Logged p t')
    (hwrite : t'.write p bytes time = .ok t'') : t.Logged p t'' := by
  obtain ⟨place, hbefore, hp, -, hother, hgrows⟩ := write_eq_ok hwrite
  refine ⟨h.grows.trans hgrows, fun q hq => ?_⟩
  by_cases hplace : q = place
  · exact Or.inl (hplace ▸ hp)
  · rw [hother q hplace] at hq ⊢
    rcases h.changed q hq with hlocate | ⟨hnone, hdir, a, ha, hlocate⟩
    · rw [hbefore] at hlocate
      exact absurd (Except.ok.inj hlocate).symm hplace
    · exact Or.inr ⟨hnone, hdir, a, ha, hgrows.locate hlocate (Or.inr (hgrows.directory q hdir))⟩

/-- **A file elsewhere stays as it is**, and so does the path to it. -/
theorem Logged.readText {p₀ : Path} {text : String} (h : t.Logged p t') (hp : t.locate p₀ = .ok place)
    (hread : t.readText p₀ = .ok text) (hapart : t'.locate p ≠ .ok place) :
    t'.locate p₀ = .ok place ∧ t'.readText p₀ = .ok text := by
  obtain ⟨place₀, bytes, time, hp₀, hnode, htext⟩ := readText_eq_ok_iff.mp hread
  cases hp.symm.trans hp₀
  have hkept : t'.node? place = some (.file bytes time) := by
    by_contra hne
    rw [← hnode] at hne
    rcases h.changed place hne with hlocate | ⟨hnone, -⟩
    · exact hapart hlocate
    · rw [hnode] at hnone
      cases hnone
  -- a path that needs a directory does not lead to a file
  have hends : endsAsDirectory p₀ = false := by
    by_contra hends
    exact (locate_eq_ok_iff.mp hp).2.2.2.2 (by simpa using hends) bytes time hnode
  have hlocate := h.grows.locate hp (Or.inl hends)
  exact ⟨hlocate, readText_eq_ok_iff.mpr ⟨place, bytes, time, hlocate, hkept, htext⟩⟩

end FileTree

end HostedScripts
