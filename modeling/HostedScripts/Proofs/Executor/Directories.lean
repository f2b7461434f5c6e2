import HostedScripts.Runtime
import HostedScripts.Proofs.FileTree
import HostedScripts.Proofs.Path
import Mathlib.Data.List.Induction

/-! # The directories in which modules are looked for

A run looks for modules in the directory of its script, then where its context says, then where its
configuration says. Of directories that agree only the first is kept (`directories_eq`), and that does not
matter: the first directory that is good in some way is the same in the list as it is asked for and in the
list that is searched, as long as directories that agree are good together (`find?_firsts`). Which of two
directories is tried earlier is such a question too (`Path.TriedBefore`). -/

namespace HostedScripts

namespace Path

/-- The paths of a list that agree with none before them, in order. -/
def firsts (paths : List Path) : List Path :=
  (paths.zipIdx.filter fun entry => !(paths.take entry.2).any (·.agrees entry.1)).map (·.1)

/-- Whether of the paths that agree with one of two the first one agrees with `p`, and not with `q`. -/
def TriedBefore (paths : List Path) (p q : Path) : Prop :=
  ∃ d, paths.find? (fun d => d.agrees p || d.agrees q) = some d ∧ d.agrees p = true ∧ d.agrees q = false

variable {p q : Path} {paths : List Path}

theorem agrees_iff : p.agrees q = true ↔ p.components = q.components := decide_eq_true_iff

theorem agrees_congr (h : p.components = q.components) (d : Path) : p.agrees d = q.agrees d := by
  unfold agrees
  rw [h]

/-! ### First occurrences -/

theorem firsts_concat (paths : List Path) (p : Path) :
    firsts (paths ++ [p]) = if paths.any (·.agrees p) then firsts paths else firsts paths ++ [p] := by
  have hbefore : ∀ entry ∈ paths.zipIdx,
      (!((paths ++ [p]).take entry.2).any (·.agrees entry.1)) =
        !(paths.take entry.2).any (·.agrees entry.1) := fun entry hentry => by
    have hlt := (List.mem_zipIdx hentry).2.1
    rw [List.take_append_of_le_length (by omega)]
  have hlast : ((paths ++ [p]).take paths.length) = paths := List.take_left
  unfold firsts
  rw [List.zipIdx_append, List.filter_append, List.filter_congr hbefore]
  simp only [List.zipIdx_singleton, Nat.zero_add, List.filter_singleton, hlast]
  cases paths.any (·.agrees p) <;> simp

/-- **Where what agrees is good together, the first good path is the same** without those that agree with an
earlier one. -/
theorem find?_firsts {good : Path → Bool} {paths : List Path}
    (h : ∀ p ∈ paths, ∀ q ∈ paths, p.components = q.components → good p = good q) :
    (firsts paths).find? good = paths.find? good := by
  induction paths using List.reverseRecOn with
  | nil => rfl
  | append_singleton paths p ih =>
    have hfirsts := ih fun p hp q hq =>
      h p (List.mem_append_left _ hp) q (List.mem_append_left _ hq)
    rw [firsts_concat]
    split_ifs with hany
    · -- an earlier path is good if this one is
      obtain ⟨d, hd, hagrees⟩ := List.any_eq_true.mp hany
      have hgood : good d = good p := h d (List.mem_append_left _ hd) p
        (List.mem_append_right _ List.mem_cons_self) (agrees_iff.mp hagrees)
      rw [hfirsts, List.find?_append]
      cases hp : good p with
      | false => simp [hp]
      | true =>
        have hsome : (paths.find? good).isSome = true :=
          List.find?_isSome.mpr ⟨d, hd, hgood.trans hp⟩
        obtain ⟨first, hfirst⟩ := Option.isSome_iff_exists.mp hsome
        rw [hfirst]
        rfl
    · rw [List.find?_append, List.find?_append, hfirsts]

theorem any_agrees_firsts (paths : List Path) (p : Path) :
    (firsts paths).any (·.agrees p) = paths.any (·.agrees p) := by
  have hfind : (firsts paths).find? (·.agrees p) = paths.find? (·.agrees p) :=
    find?_firsts fun d _ e _ h => agrees_congr h p
  rw [← List.isSome_find?, ← List.isSome_find?, hfind]

theorem pairwise_firsts (paths : List Path) :
    (firsts paths).Pairwise fun p q => p.components ≠ q.components := by
  induction paths using List.reverseRecOn with
  | nil => exact List.Pairwise.nil
  | append_singleton paths p ih =>
    rw [firsts_concat]
    split_ifs with hany
    · exact ih
    · refine List.pairwise_append.mpr ⟨ih, List.pairwise_singleton _ _, fun d hd q hq heq => hany ?_⟩
      rw [List.mem_singleton.mp hq] at heq
      rw [← any_agrees_firsts]
      exact List.any_eq_true.mpr ⟨d, hd, agrees_iff.mpr heq⟩

theorem head?_firsts (p : Path) (paths : List Path) : (firsts (p :: paths)).head? = some p := by
  unfold firsts
  rw [List.zipIdx_cons]
  rfl

/-- Which of two paths is tried earlier is decided before the end of a list that the second one is in. -/
theorem triedBefore_firsts_append (hq : q ∈ paths) (more : List Path) :
    TriedBefore (firsts (paths ++ more)) p q ↔ TriedBefore paths p q := by
  have hfirst : (firsts (paths ++ more)).find? (fun d => d.agrees p || d.agrees q) =
      paths.find? (fun d => d.agrees p || d.agrees q) := by
    have hsome : (paths.find? fun d => d.agrees p || d.agrees q).isSome = true :=
      List.find?_isSome.mpr ⟨q, hq, by simp [agrees_iff]⟩
    obtain ⟨first, hfirst⟩ := Option.isSome_iff_exists.mp hsome
    rw [find?_firsts fun d _ e _ h => by rw [agrees_congr h, agrees_congr h], List.find?_append, hfirst]
    rfl
  unfold TriedBefore
  rw [hfirst]

end Path

/-- What can be read lies in a directory: neither the root nor the empty path is a file. -/
theorem FileTree.exists_parent_of_readText {t : FileTree} {p : Path} {text : String}
    (h : t.readText p = .ok text) : ∃ directory, p.parent? = some directory := by
  obtain ⟨place, bytes, time, hplace, hnode, -⟩ := readText_eq_ok_iff.mp h
  obtain ⟨hne, -, -, hwalk, -⟩ := locate_eq_ok_iff.mp hplace
  cases hparent : p.parent? with
  | some directory => exact ⟨directory, rfl⟩
  | none =>
    rcases Path.components_of_parent?_eq_none hparent with hempty | hroot
    · exact absurd hempty hne
    · rw [hroot] at hwalk
      cases hwalk
      cases hnode

namespace Language.Evaluator

/-- Whether a module can be read in a directory. -/
def hasModule (files : FileTree) (name : String) (directory : Path) : Bool :=
  (files.readText ((directory.join ⟨name⟩).withExtension ScriptKind.interpreted)).isOk

-- the places of modules are not to be computed here
seal Path.withExtension in
theorem findModule?_cons (files : FileTree) (name : String) (d : Path) (directories : List Path) :
    findModule? files name (d :: directories) =
      match files.readText ((d.join ⟨name⟩).withExtension ScriptKind.interpreted) with
      | .ok text => some ((d.join ⟨name⟩).withExtension ScriptKind.interpreted, text)
      | .error _ => findModule? files name directories := rfl

/-- Of the directories in which a module is looked for only the first that has it counts. -/
theorem findModule?_eq (files : FileTree) (name : String) (directories : List Path) :
    findModule? files name directories =
      (directories.find? (hasModule files name)).bind fun d => findModule? files name [d] := by
  induction directories with
  | nil => rfl
  | cons d directories ih =>
    rw [findModule?_cons, List.find?_cons]
    cases hread : files.readText ((d.join ⟨name⟩).withExtension ScriptKind.interpreted) with
    | error e =>
      have hno : hasModule files name d = false := congrArg Except.isOk hread
      rw [hno]
      exact ih
    | ok text =>
      have hyes : hasModule files name d = true := congrArg Except.isOk hread
      rw [hyes, Option.bind_some, findModule?_cons, hread]

theorem findModule?_congr {files files' : FileTree} {name : String}
    (h : ∀ (d : Path) (text : String),
      files'.readText ((d.join ⟨name⟩).withExtension ScriptKind.interpreted) = .ok text ↔
        files.readText ((d.join ⟨name⟩).withExtension ScriptKind.interpreted) = .ok text)
    (directories : List Path) : findModule? files' name directories = findModule? files name directories := by
  induction directories with
  | nil => rfl
  | cons d directories ih =>
    rw [findModule?_cons, findModule?_cons]
    cases hread : files.readText ((d.join ⟨name⟩).withExtension ScriptKind.interpreted) with
    | ok text => rw [(h d text).mpr hread]
    | error e =>
      cases hread' : files'.readText ((d.join ⟨name⟩).withExtension ScriptKind.interpreted) with
      | ok text =>
        rw [(h d text).mp hread'] at hread
        cases hread
      | error e' => exact ih

end Language.Evaluator

/-! ### The directories of a run -/

namespace Executor

theorem foldl_withPath (paths : List Path) : paths.foldl withPath [] = Path.firsts paths := by
  induction paths using List.reverseRecOn with
  | nil => rfl
  | append_singleton paths p ih =>
    rw [List.foldl_append, ih, Path.firsts_concat, ← Path.any_agrees_firsts]
    rfl

/-- The directory of a script that lies in one. -/
def ownDirectory (parent : Path) : Path := if parent.text = "" then ⟨"."⟩ else parent

/-- **The directories that are searched are those that are asked for**, each at its first place. -/
theorem directories_eq {source parent : Path} (h : source.parent? = some parent) (searchPaths : List Path) :
    directories source searchPaths = Path.firsts (ownDirectory parent :: searchPaths) := by
  rw [← foldl_withPath]
  unfold directories
  rw [h]
  rfl

end Executor

/-- What a configuration from a file says is seen from the directory of the file. -/
theorem Config.resolvedSearchPaths_of_load {files : FileTree} {path : Path} {c : Config}
    (h : load files path = .ok c) : ∃ directory, path.parent? = some directory ∧
      c.resolvedSearchPaths = c.searchPaths.map fun p => if p.isAbsolute then p else directory.join p := by
  unfold load at h
  cases hread : files.readText path with
  | error e =>
    rw [hread] at h
    cases h
  | ok text =>
    obtain ⟨directory, hparent⟩ := FileTree.exists_parent_of_readText hread
    rw [hread] at h
    dsimp only at h
    split at h
    · cases h
    · cases h
      refine ⟨directory, hparent, ?_⟩
      unfold resolvedSearchPaths resolve
      rw [hparent]

/-- **Taking directories out that are asked for twice never changes which module is found.** Take any run of a
script that lies in a directory. What it searches are the directories that it asks for, in order, without
those that agree with an earlier one. So no two of them agree. Whatever is asked of a directory, the first one
that is good is the same in both lists if those that agree are good together; and so is the module that is
found with a name. The directory of the script comes first, and a directory of the configuration is tried
before one of the context only if it is also asked for before it, as one of the context or as that of the
script. A configuration that was read from a file asks for its directories as they are seen from there. -/
theorem searched_directories_suffice (rt : Runtime) (files : FileTree) {parent : Path}
    (hparent : rt.sourceFile.parent? = some parent) :
    let own := Executor.ownDirectory parent
    let ofContext := rt.context.searchPaths
    let ofConfig := rt.context.config.resolvedSearchPaths
    let asked := own :: (ofContext ++ ofConfig)
    let searched := (rt.executor.setting files rt.sourceFile rt.searchPaths).directories
    searched = Path.firsts asked ∧
    searched.Pairwise (fun p q => p.components ≠ q.components) ∧
    (∀ good : Path → Bool, (∀ p ∈ asked, ∀ q ∈ asked, p.components = q.components → good p = good q) →
      searched.find? good = asked.find? good) ∧
    (∀ (files : FileTree) name, (∀ p ∈ asked, ∀ q ∈ asked, p.components = q.components →
        Language.Evaluator.hasModule files name p = Language.Evaluator.hasModule files name q) →
      Language.Evaluator.findModule? files name searched = Language.Evaluator.findModule? files name asked) ∧
    searched.head? = some own ∧
    (∀ p ∈ ofConfig, ∀ q ∈ ofContext, Path.TriedBefore searched p q → Path.TriedBefore (own :: ofContext) p q) ∧
    (∀ (files : FileTree) path, Config.load files path = .ok rt.context.config →
      ∃ directory, path.parent? = some directory ∧ ofConfig =
        rt.context.config.searchPaths.map fun p => if p.isAbsolute then p else directory.join p) := by
  intro own ofContext ofConfig asked searched
  have hsearched : searched = Path.firsts asked := Executor.directories_eq hparent _
  refine ⟨hsearched, ?_, fun good hgood => ?_, fun files name hhas => ?_, ?_, fun p _ q hq => ?_,
    fun files path => Config.resolvedSearchPaths_of_load⟩
  · rw [hsearched]
    exact Path.pairwise_firsts asked
  · rw [hsearched]
    exact Path.find?_firsts hgood
  · rw [hsearched, Language.Evaluator.findModule?_eq, Language.Evaluator.findModule?_eq,
      Path.find?_firsts hhas]
  · rw [hsearched]
    exact Path.head?_firsts own _
  · have hasked : asked = (own :: ofContext) ++ ofConfig := rfl
    rw [hsearched, hasked]
    exact (Path.triedBefore_firsts_append (List.mem_cons_of_mem own hq) ofConfig).mp

/-- A run for which two directories are asked for twice, each time written in another way. -/
def sharedRun : Runtime :=
  let config := { Config.standard with searchPaths := [⟨"m"⟩], base := some ⟨"lib"⟩ }
  ((Runtime.make "" (.capture "" fun _ => none) (.forScript ⟨"app/a.rhai"⟩)
    { Context.empty with searchPaths := [⟨"lib//m/"⟩, ⟨"app/."⟩], config := config }).run default).1

/-- It searches two directories, and which one comes first among all four is decided by these two. -/
theorem searched_directories_suffice_shared :
    sharedRun.sourceFile.parent? = some ⟨"app"⟩ ∧
    (sharedRun.executor.setting default sharedRun.sourceFile sharedRun.searchPaths).directories =
      [⟨"app"⟩, ⟨"lib//m/"⟩] ∧
    ∀ good : Path → Bool, good ⟨"app"⟩ = good ⟨"app/."⟩ → good ⟨"lib//m/"⟩ = good ⟨"lib/m"⟩ →
      [⟨"app"⟩, ⟨"lib//m/"⟩].find? good = [⟨"app"⟩, ⟨"lib//m/"⟩, ⟨"app/."⟩, ⟨"lib/m"⟩].find? good := by
  have hparent : sharedRun.sourceFile.parent? = some ⟨"app"⟩ := by decide +kernel
  obtain ⟨-, -, hfind, -⟩ := searched_directories_suffice sharedRun default hparent
  have hsearched : (sharedRun.executor.setting default sharedRun.sourceFile sharedRun.searchPaths).directories =
      [⟨"app"⟩, ⟨"lib//m/"⟩] := by decide +kernel
  have hasked : Executor.ownDirectory ⟨"app"⟩ ::
      (sharedRun.context.searchPaths ++ sharedRun.context.config.resolvedSearchPaths) =
        [⟨"app"⟩, ⟨"lib//m/"⟩, ⟨"app/."⟩, ⟨"lib/m"⟩] := by decide +kernel
  rw [hsearched, hasked] at hfind
  refine ⟨hparent, hsearched, fun good happ hlib => hfind good ?_⟩
  have happ' : (⟨"app"⟩ : Path).components ≠ (⟨"lib//m/"⟩ : Path).components := by decide +kernel
  have hsame : (⟨"app"⟩ : Path).components = (⟨"app/."⟩ : Path).components := by decide +kernel
  have hsame' : (⟨"lib//m/"⟩ : Path).components = (⟨"lib/m"⟩ : Path).components := by decide +kernel
  simp only [List.forall_mem_cons, List.not_mem_nil, IsEmpty.forall_iff, implies_true, and_true]
  rw [← hsame, ← hsame', ← happ, ← hlib]
  simp [happ', happ'.symm]

end HostedScripts
