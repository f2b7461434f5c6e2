import HostedScripts.Proofs.Executor.Directories
import HostedScripts.Proofs.Executor.Log
import HostedScripts.Proofs.Language.BlindStatements
import HostedScripts.Proofs.Runtime.Naming
import HostedScripts.Proofs.Selection
import HostedScripts.Proofs.TestCase.Discovery
import HostedScripts.Proofs.TestCase.Verdict
import HostedScripts.Proofs.TreeChange

/-! # A case by itself

What checking a case answers can be told from the files, the session and the id of its run (`TestCase.outcome`).
Checking gives an id to the run if the case can be read, and changes nothing else that another check would see
(`check_run`).

Of the files only some count. Scripts and modules are read at paths with an extension of their own, never at
the path of a case. So if the cases next to it are changed, taken away or others added
(`otherCases_of_changes`), a case that stays has the same outcome (`outcome_of_otherCases`). -/

namespace HostedScripts

open HostedScripts.Language

/-! ### What a report depends on -/

namespace Runtime

variable {rt : Runtime} {files files' : FileTree} {engines : EngineTable}

/-- What a run comes to before anything is logged. -/
def draft (rt : Runtime) (interpreter : Interpreter) (files : FileTree) : Draft :=
  rt.executor.draft interpreter files rt.sourceFile rt.searchPaths rt.vars

theorem execution_of_logPath_eq_none (h : rt.logPath = none) (interpreter : Interpreter) (files : FileTree) :
    (rt.execution interpreter files).said = (rt.draft interpreter files).said ∧
      (rt.execution interpreter files).ending = { (rt.draft interpreter files).ending with logFile := none } ∧
      (rt.execution interpreter files).files = files := by
  obtain ⟨hsaid, hending, hfiles⟩ :=
    Executor.execute_eq_draft rt.executor interpreter files rt.sourceFile rt.searchPaths none rt.vars
  unfold execution
  rw [h]
  refine ⟨hsaid, hending.trans ?_, hfiles.trans (ite_self files)⟩
  rw [Executor.writeLog, ite_self]
  rfl

theorem files_work (h : rt.logPath = none) (engines : EngineTable) (files : FileTree) :
    (rt.work engines files).files = files := by
  have hhanded : ∀ engine : EngineKind, engine.isProvided = true →
      (rt.workBy engines files engine).files = files := fun engine hprovided => by
    rw [workBy_of_provided rt engines files hprovided]
    cases engines.get? engine <;> rfl
  unfold work
  cases rt.engineIn files with
  | unknown => rfl
  | script => exact (execution_of_logPath_eq_none h engines.interpreter files).2.2
  | compiled | visual | invoke => exact hhanded _ rfl

/-- The same engine makes the same of a script, if that is the interpreter for the same draft. -/
theorem work_congr (engines : EngineTable) (h : rt.logPath = none) (hengine : rt.engineIn files' = rt.engineIn files)
    (hdraft : rt.engineIn files = .script →
      rt.draft engines.interpreter files' = rt.draft engines.interpreter files) :
    (rt.work engines files').written = (rt.work engines files).written ∧
      (rt.work engines files').ending = (rt.work engines files).ending := by
  have hhanded : ∀ engine : EngineKind, engine.isProvided = true →
      (rt.workBy engines files' engine).written = (rt.workBy engines files engine).written ∧
        (rt.workBy engines files' engine).ending = (rt.workBy engines files engine).ending := fun engine hprovided => by
    rw [workBy_of_provided rt engines files hprovided, workBy_of_provided rt engines files' hprovided]
    cases engines.get? engine <;> exact ⟨rfl, rfl⟩
  unfold work
  rw [hengine]
  cases hkind : rt.engineIn files with
  | unknown => exact ⟨rfl, rfl⟩
  | script =>
    obtain ⟨hsaid, hending, -⟩ := execution_of_logPath_eq_none h engines.interpreter files
    obtain ⟨hsaid', hending', -⟩ := execution_of_logPath_eq_none h engines.interpreter files'
    rw [hdraft hkind] at hsaid' hending'
    refine ⟨?_, hending'.trans hending.symm⟩
    exact congrArg (fun said : List (Bool × String) => said.map (·.2)) (hsaid'.trans hsaid.symm)
  | compiled | visual | invoke => exact hhanded _ rfl

theorem reportOf_congr (h : rt.logPath = none) (hengine : rt.engineIn files' = rt.engineIn files)
    (hdraft : rt.engineIn files = .script →
      rt.draft engines.interpreter files' = rt.draft engines.interpreter files) :
    rt.reportOf engines files' = rt.reportOf engines files := by
  obtain ⟨hwritten, hending⟩ := work_congr engines h hengine hdraft
  unfold reportOf
  rw [hengine, hwritten, hending]

end Runtime

/-- Settings that are alike make the same of a script. -/
theorem Interpreter.standard_of_settings {setting setting' : Setting} (h : setting.Alike setting') (scope : Scope)
    (text : String) : Interpreter.standard setting' scope text = Interpreter.standard setting scope text := by
  unfold Interpreter.standard
  rw [h.isStrict]
  cases compiled setting.isStrict scope text with
  | error e => rfl
  | ok program => exact congrArg Interpretation.finished (program.run_of_settings h scope)

/-- The built-in engine runs a script with its extension, whose file is there. -/
theorem EngineKind.Decided.isOf {there : Bool} {path : Path} {bundle : Option Path}
    (h : Decided there path bundle .script) : path.IsOf "rhai" ∧ there = true := by
  cases h with
  | script h hthere => exact ⟨h, hthere⟩
  | missing h hthere hk => cases hk
  | unrecognized h hk => cases hk

/-! ### Changing other cases -/

namespace TestCase

/-- A place in which two trees have a file or nothing, with the name of a case. -/
structure MayDiffer (files files' : FileTree) (place : Place) : Prop where
  name : ∃ front s, place = front ++ [s] ∧ s.endsWith suffix = true
  before : files.node? place ≠ some .directory
  after : files'.node? place ≠ some .directory

/-- A tree of files in which cases may have been changed, taken away or added, but not the one at a place. -/
structure OtherCases (place : Place) (files files' : FileTree) : Prop where
  isTree : files'.IsTree
  current : files'.current = files.current
  changed : ∀ other, files'.node? other ≠ files.node? other → MayDiffer files files' other
  kept : files'.node? place = files.node? place

theorem OtherCases.refl {files : FileTree} (ht : files.IsTree) (place : Place) : OtherCases place files files :=
  ⟨ht, rfl, fun _ h => absurd rfl h, rfl⟩

theorem OtherCases.trans {place : Place} {files files' files'' : FileTree} (h : OtherCases place files files')
    (h' : OtherCases place files' files'') : OtherCases place files files'' where
  isTree := h'.isTree
  current := h'.current.trans h.current
  changed other hother := by
    by_cases hfirst : files'.node? other = files.node? other
    · have hlater := h'.changed other (by rwa [hfirst])
      exact ⟨hlater.name, by rw [← hfirst]; exact hlater.before, hlater.after⟩
    · have hbefore := h.changed other hfirst
      refine ⟨hbefore.name, hbefore.before, ?_⟩
      by_cases hlater : files''.node? other = files'.node? other
      · rw [hlater]
        exact hbefore.after
      · exact (h'.changed other hlater).after
  kept := h'.kept.trans h.kept

/-- A file with the name of a case is written or removed, but not the one at a place. -/
inductive ChangesCase (place : Place) (files : FileTree) : FileTree → Prop where
  | write {p : Path} {s : String} {bytes : List UInt8} {time : Option Int} {files' : FileTree}
      (hname : p.fileName? = some s) (hs : s.endsWith suffix = true) (hother : files.locate p ≠ .ok place)
      (h : files.write p bytes time = .ok files') : ChangesCase place files files'
  | remove {p : Path} {s : String} {files' : FileTree} (hname : p.fileName? = some s)
      (hs : s.endsWith suffix = true) (hother : files.locate p ≠ .ok place)
      (h : files.remove p = .ok files') : ChangesCase place files files'

theorem otherCases_of_one {place other : Place} {files files' : FileTree} {p : Path} {s : String} (ht' : files'.IsTree)
    (hcurrent : files'.current = files.current) (hp : files.locate p = .ok other) (hname : p.fileName? = some s)
    (hs : s.endsWith suffix = true) (hother : files.locate p ≠ .ok place)
    (hbefore : files.node? other ≠ some .directory) (hafter : files'.node? other ≠ some .directory)
    (hsame : ∀ q, q ≠ other → files'.node? q = files.node? q) :
    OtherCases place files files' where
  isTree := ht'
  current := hcurrent
  changed q hq := by
    obtain rfl : q = other := by_contra fun hne => hq (hsame q hne)
    obtain ⟨front, rfl, -⟩ := FileTree.exists_front_of_locate hp hname
    exact ⟨⟨front, s, rfl, hs⟩, hbefore, hafter⟩
  kept := hsame place fun heq => hother (by rw [hp, heq])

theorem ChangesCase.otherCases {place : Place} {files files' : FileTree} (ht : files.IsTree)
    (h : ChangesCase place files files') : OtherCases place files files' := by
  cases h with
  | write hname hs hother h =>
    obtain ⟨other, hp, -, hnode, hsame, hgrows⟩ := FileTree.write_eq_ok h
    have hafter : files'.node? other ≠ some .directory := by
      rw [hnode]
      exact nofun
    exact otherCases_of_one (ht.write h) hgrows.current hp hname hs hother
      (fun hdirectory => hafter (hgrows.directory other hdirectory)) hafter hsame
  | remove hname hs hother h =>
    have ht' := ht.remove h
    obtain ⟨other, bytes, time, hlookUp, rfl⟩ := FileTree.remove_eq_ok h
    obtain ⟨hp, hnode⟩ := FileTree.lookUp_eq_ok_iff.mp hlookUp
    have hbefore : files.node? other ≠ some .directory := by
      rw [hnode]
      exact nofun
    have hroot : other ≠ [] := fun heq => hbefore (by rw [heq, files.node?_nil])
    refine otherCases_of_one ht' rfl hp hname hs hother hbefore ?_ fun q hq => ?_
    · rw [FileTree.node?_filter hroot, if_pos rfl]
      exact nofun
    · rw [FileTree.node?_filter hroot, if_neg hq]

/-- However other cases are changed, added and taken away, one after the other. -/
theorem otherCases_of_changes {place : Place} {files files' : FileTree} (ht : files.IsTree)
    (h : Relation.ReflTransGen (ChangesCase place) files files') : OtherCases place files files' := by
  induction h with
  | refl => exact .refl ht place
  | tail _ hchange ih => exact ih.trans (hchange.otherCases ih.isTree)

theorem extension?_of_endsWith {p : Path} {s : String} (hp : p.fileName? = some s) (hs : s.endsWith suffix = true) :
    p.extension? = some "json" := by
  have hsuffix : suffix.toList <:+ s.toSlice.copy.toList := String.Slice.endsWith_string_iff.mp hs
  rw [String.copy_toSlice] at hsuffix
  obtain ⟨stem, hstem⟩ := hsuffix
  have hname : s.toList = (stem ++ ".case".toList) ++ '.' :: "json".toList := by
    rw [← hstem, List.append_assoc]
    rfl
  have hcut : (Path.cutName s.toList).2 = some "json".toList := by
    rw [hname, Path.cutName_append (by decide), if_neg]
    rintro (hempty | hup)
    · simp at hempty
    · have hlength := congrArg List.length hup
      simp at hlength
  unfold Path.extension?
  rw [hp, Option.bind_some, hcut]
  rfl

section Changes

variable {place : Place} {files files' : FileTree}

theorem OtherCases.differs (h : OtherCases place files files') :
    FileTree.DiffersAt (MayDiffer files files') files files' where
  current := h.current
  same other hother := by
    by_contra hne
    exact hother (h.changed other hne)
  file _ hother := ⟨hother.before, hother.after⟩

theorem not_mayDiffer {p : Path} (hp : p.extension? ≠ some "json") :
    ∀ front s, p.fileName? = some s → ¬ MayDiffer files files' (front ++ [s]) := by
  rintro front s hname ⟨⟨before, last, hplace, hs⟩, -, -⟩
  obtain ⟨-, rfl⟩ := List.append_singleton_inj.mp hplace
  exact hp (extension?_of_endsWith hname hs)

variable (h : OtherCases place files files') (ht : files.IsTree)
include h ht

theorem readText_module (d : Path) (name text : String) :
    files'.readText ((d.join ⟨name⟩).withExtension ScriptKind.interpreted) = .ok text ↔
      files.readText ((d.join ⟨name⟩).withExtension ScriptKind.interpreted) = .ok text := by
  refine h.differs.readText_iff ht h.isTree (not_mayDiffer fun hjson => ?_)
  cases hname : (d.join ⟨name⟩).fileName? with
  | none =>
    have hsame : (d.join ⟨name⟩).withExtension ScriptKind.interpreted = d.join ⟨name⟩ := by
      unfold Path.withExtension Path.stem?
      rw [hname]
      rfl
    unfold Path.extension? at hjson
    rw [hsame, hname] at hjson
    cases hjson
  | some s =>
    have hextension := Path.extension?_withExtension (p := d.join ⟨name⟩) (by rw [hname]; rfl)
      (e := ScriptKind.interpreted) (by decide) (by decide) (by decide)
    rw [hextension] at hjson
    exact absurd hjson (by decide)

/-- A script is run alike, with the same modules. -/
theorem draft_of_otherCases {rt : Runtime} (hread : files'.readText rt.sourceFile = files.readText rt.sourceFile) :
    rt.draft .standard files' = rt.draft .standard files := by
  have halike : (rt.executor.setting files rt.sourceFile rt.searchPaths).Alike
      (rt.executor.setting files' rt.sourceFile rt.searchPaths) :=
    ⟨rfl, rfl, rfl, fun name => Evaluator.findModule?_congr (fun d text => readText_module h ht d name text) _⟩
  exact Executor.draft_congr hread fun text _ => Interpreter.standard_of_settings halike _ text

/-- The report of a run does not depend on cases. -/
theorem reportOf_of_otherCases {rt : Runtime} (hlog : rt.logPath = none) (hnew : rt.engine = none) :
    rt.reportOf .empty files' = rt.reportOf .empty files := by
  have hrhai : rt.sourceFile.IsOf "rhai" → ∀ front s, rt.sourceFile.fileName? = some s →
      ¬ MayDiffer files files' (front ++ [s]) := fun hof => not_mayDiffer fun hjson => by
    rw [Path.isOf_iff, hjson] at hof
    exact absurd hof (by decide)
  have hselected : ∀ files : FileTree, rt.engineIn files =
      selectEngine files.isFile rt.sourceFile rt.script.commandBundle := fun files => by
    unfold Runtime.engineIn
    rw [hnew]
    rfl
  refine Runtime.reportOf_congr hlog ?_ fun hscript => draft_of_otherCases h ht ?_
  · rw [hselected, hselected]
    exact EngineKind.selectEngine_congr rfl (EngineKind.endsAlike_refl _) fun hof =>
      h.differs.isFile_eq ht h.isTree (hrhai hof)
  · rw [hselected] at hscript
    obtain ⟨hof, hfile⟩ := (EngineKind.selectEngine_eq_iff.mp hscript).isOf
    exact h.differs.readText_of_isFile ht h.isTree (hrhai hof) hfile

end Changes

/-! ### The outcome of a case -/

variable {place : Place} {files files' : FileTree} {directory d path : Path} {c : TestCase}

/-- The run of a case, as it is made. -/
def runOf (session id : String) (directory : Path) (c : TestCase) : Runtime :=
  Runtime.fresh id default (command directory c) (context directory c session)

/-- What checking the case at a path answers in a session, if its run gets an id. -/
def outcome (patterns : Patterns) (files : FileTree) (session id : String) (path : Path) : Except CaseFault Report :=
  match load files path with
  | .error e => .error e
  | .ok c => verdict patterns c.expected ((runOf session id (path.parent?.getD ⟨"."⟩) c).reportOf .empty files)

/-- How many ids are given when some cases are checked. -/
def idsFor (files : FileTree) (paths : List Path) : Nat := paths.countP fun path => (load files path).isOk

/-- A world after cases were checked: some ids have been given, and the files and the consoles and streams of
the host are as before. -/
structure Checked (w : World) (ids : Nat) (w' : World) : Prop where
  files : w'.files = w.files
  outputs : w'.outputs = w.outputs
  naming : w'.naming = (w.session, w.seed, w.issued + ids)

namespace Checked

variable {w w' w'' : World} {ids ids' : Nat}

theorem named (h : Checked w ids w') :
    w'.session = w.session ∧ w'.seed = w.seed ∧ w'.issued = w.issued + ids := by
  simpa [World.naming] using h.naming

theorem trans (h : Checked w ids w') (h' : Checked w' ids' w'') : Checked w (ids + ids') w'' where
  files := h'.files.trans h.files
  outputs := h'.outputs.trans h.outputs
  naming := by
    obtain ⟨hsession, hseed, hissued⟩ := h.named
    rw [h'.naming, hsession, hseed, hissued, Nat.add_assoc]

end Checked

/-- A run of a case in one world. -/
theorem runCase_run (directory : Path) (c : TestCase) (w : World) :
    ∃ w', (runCase directory c).run w =
        (.ok ((runOf w.session (idText w.seed w.issued) directory c).reportOf .empty w.files), w') ∧
      Checked w 1 w' := by
  have hblind : EngineTable.empty.Blind := fun engine handler h => by cases engine <;> cases h
  have hnew : Output.Registry.empty.Untagged (command directory c).commandUniqueId (idText w.seed w.issued) :=
    fun line hline => by cases hline
  have hrun := runScript_run (w := { w with issued := w.issued + 1, outputs := .empty })
    Output.Registry.sound_empty hblind (capturedIn w) (context directory c w.session) hnew
  obtain ⟨ran, hrun, hwrote⟩ := hrun
  have hnaming := Act.keepsNaming_runScript .empty (idText w.seed w.issued) (capturedIn w) (command directory c)
    (context directory c w.session) { w with issued := w.issued + 1, outputs := .empty }
  rw [hrun] at hnaming
  exact ⟨_, runCase_of_runScript hrun, hwrote.files.trans (Runtime.files_work rfl _ _), rfl, hnaming⟩

/-- **What checking a case answers**, and what it does to the world. -/
theorem check_run (patterns : Patterns) (path : Path) (w : World) :
    ∃ w', (check patterns path).run w = (outcome patterns w.files w.session (idText w.seed w.issued) path, w') ∧
      Checked w (idsFor w.files [path]) w' := by
  unfold outcome idsFor
  rw [List.countP_singleton]
  cases hload : load w.files path with
  | error e =>
    refine ⟨w, ?_, rfl, rfl, rfl⟩
    unfold check
    rw [Act.run_bind, Act.run_get]
    dsimp only
    rw [hload]
    rfl
  | ok c =>
    obtain ⟨w', hrun, hchecked⟩ := runCase_run (path.parent?.getD ⟨"."⟩) c w
    exact ⟨w', check_of_load hload hrun, hchecked⟩

theorem readText_congr {p : Path} (h : files'.lookUp p = files.lookUp p) : files'.readText p = files.readText p := by
  unfold FileTree.readText FileTree.readBytes
  rw [h]

theorem load_of_otherCases {names : List String} {node : Node} (ht : files.IsTree)
    (hd : files.lookUp d = .ok (place, .directory)) (hnode : files.node? (place ++ names) = some node)
    (h : OtherCases (place ++ names) files files') : load files' (d.descend names) = load files (d.descend names) := by
  have hlookUp : files'.lookUp (d.descend names) = files.lookUp (d.descend names) := by
    by_cases hlength : (d.descend names).text.utf8ByteSize ≤ 4095
    · have hd' : files'.lookUp d = .ok (place, .directory) :=
        h.differs.lookUp hd (h.differs.same_of_directory (FileTree.lookUp_eq_ok_iff.mp hd).2)
      rw [ht.lookUp_descend hd hnode hlength, h.isTree.lookUp_descend hd' (h.kept.trans hnode) hlength]
    · obtain ⟨e, he⟩ := FileTree.exists_lookUp_eq_error (not_le.mp hlength)
      rw [he, he]
  unfold load
  rw [readText_congr hlookUp]

/-- **Other cases do not change the outcome of a case.** -/
theorem outcome_of_otherCases {names : List String} {node : Node} (ht : files.IsTree)
    (hd : files.lookUp d = .ok (place, .directory)) (hnode : files.node? (place ++ names) = some node)
    (h : OtherCases (place ++ names) files files') (patterns : Patterns) (session id : String) :
    outcome patterns files' session id (d.descend names) = outcome patterns files session id (d.descend names) := by
  unfold outcome
  rw [load_of_otherCases ht hd hnode h]
  cases load files (d.descend names) with
  | error e => rfl
  | ok c =>
    dsimp only
    rw [reportOf_of_otherCases h ht rfl rfl]

end TestCase

end HostedScripts
