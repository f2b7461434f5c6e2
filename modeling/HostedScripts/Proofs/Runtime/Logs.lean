import HostedScripts.Proofs.Executor.Log
import HostedScripts.Proofs.Json.Scalars
import HostedScripts.Proofs.Path
import HostedScripts.Proofs.Runtime.Check
import HostedScripts.Proofs.Runtime.Isolation
import Mathlib.Data.List.Pairwise

/-! # The logs of runs

A run of a script that fails writes its message to the log, and changes no other file. Nothing that its
host can see depends on the log, but for the log file itself (`Runtime.attempt_alike`): the same run with
another log path (`Runtime.logging`), in files that differ perhaps, is left the same.

Unless a context names the log, it is named for the id of the run. Runs with different ids then have
different logs, in whatever directories these are (`Runtime.apart_of_execId`), and of runs one after the
other (`Launch`) each finds its log untouched at the end (`readText_filesAfter`). -/

namespace HostedScripts

open HostedScripts.Language
open Output (Handle Registry)

/-! ### What a run does to files and consoles -/

/-- A registry in which a script has said something on a stream. -/
def Output.Registry.spoken (r : Registry) (stream : Nat) (said : List (Bool × String)) : Registry :=
  said.foldl (fun r words => (r.write stream words.2).1) r

namespace Runtime

variable {rt rt' : Runtime} {w w' w₂ : World} {n : Nat} {engines : EngineTable}

theorem perform_run (stream : Nat) (actions : List Action) (w : World) :
    ((perform stream actions).run w).2.files = w.files ∧
      ((perform stream actions).run w).2.outputs =
        w.outputs.spoken stream (actions.filterMap Action.words?) := by
  induction actions generalizing w with
  | nil => exact ⟨rfl, rfl⟩
  | cons action actions ih =>
    rcases hwords : action.words? with - | ⟨isDebug, text⟩
    · rw [perform_of_silent hwords, List.filterMap_cons_none hwords]
      exact ih _
    · obtain rfl : action = .said isDebug text := by
        cases action <;> cases hwords
        rfl
      exact ih _

theorem files_forM_writeTo (stream : Nat) (texts : List String) (w : World) :
    ((texts.forM (Act.writeTo stream)).run w).2.files = w.files :=
  forM_writeTo_keeps (motive := fun after => after.files = w.files) (fun _ _ h => h) rfl texts

theorem files_execute (h : rt.phase ≠ .disposed) (engine : EngineKind) (hengine : engine ≠ .script)
    (engines : EngineTable) (w : World) : ((rt.execute engine engines).run w).2.files = w.files := by
  obtain ⟨rt', n, fed, hf⟩ := exists_feed rt w h
  have hidle := idle_feed rt w
  rw [hf] at hidle
  have hhanded : ∀ engine, ((rt.handOver engine engines).run w).2.files = w.files := fun engine => by
    cases hh : engines.get? engine with
    | none =>
      unfold handOver
      rw [hh]
      rfl
    | some handler =>
      rw [handOver_run hf hh]
      exact (files_forM_writeTo _ _ _).trans hidle.1
  cases engine with
  | unknown => rfl
  | script => exact absurd rfl hengine
  | compiled => exact hhanded .compiled
  | visual => exact hhanded .visual
  | invoke => exact hhanded .invoke

/-- A run of a script asks for its stream, says what the script says, and leaves what the script leaves. -/
theorem exists_attempt (hphase : rt.phase = .configured) (hengine : rt.engineIn w.files = .script)
    (engines : EngineTable) :
    ∃ told rt' n fed w', (rt.begun w.files).feed.run { w with told := told } = ((rt', .ok n), fed) ∧
      (rt.attempt engines).run w =
        ((rt'.ended (rt.execution engines.interpreter w.files).ending,
          .ok (rt.execution engines.interpreter w.files).ending.outcome), w') ∧
      w'.files = (rt.execution engines.interpreter w.files).files ∧
      w'.outputs = fed.outputs.spoken n (rt.execution engines.interpreter w.files).said := by
  obtain ⟨told, told', rt', n, fed, hf, hrun⟩ := attempt_of_script hphase hengine engines
  obtain ⟨hkept, hspoken⟩ := perform_run n (rt.execution engines.interpreter w.files).actions
    { fed with files := (rt.execution engines.interpreter w.files).files }
  exact ⟨told, rt', n, fed, _, hf, hrun, hkept, hspoken⟩

theorem files_attempt (h : rt.phase = .configured → rt.engineIn w.files ≠ .script)
    (engines : EngineTable) : ((rt.attempt engines).run w).2.files = w.files := by
  by_cases hphase : rt.phase = .configured
  · have hne : (rt.begun w.files).phase ≠ .disposed := fun h => by cases h
    have hscript : (rt.begun w.files).engineIn w.files ≠ .script := h hphase
    rw [attempt_of_configured hphase]
    show (((rt.begun w.files).carryOut engines).run w).2.files = w.files
    obtain ⟨told, told', rt', ending, done, hexecute, -, hrun⟩ :=
      carryOut_eq (rt.begun w.files) w hne engines
    have hfiles := files_execute hne _ hscript engines { w with told := told }
    rw [hexecute] at hfiles
    rw [hrun]
    exact hfiles
  · by_cases hdisposed : rt.phase = .disposed
    · rw [attempt_of_disposed hdisposed]
    · rw [attempt_of_ran hdisposed hphase]

/-! ### One run -/

/-- Whether the script of a run fails: it does not compile, or it raises an error. -/
def Fails (rt : Runtime) (interpreter : Interpreter) (files : FileTree) : Prop :=
  ∃ c, rt.executor.Takes interpreter files rt.sourceFile rt.searchPaths rt.vars c ∧ c.Fails

/-- What a run leaves of its log. -/
theorem logs_attempt (hphase : rt.phase = .configured) (hengine : rt.engineIn w.files = .script)
    (engines : EngineTable) :
    ∃ rt' outcome w', (rt.attempt engines).run w = ((rt', .ok outcome), w') ∧
      Executor.Logs (rt.Fails engines.interpreter w.files) w.files rt.logPath rt'.traceMessage rt'.logFile
        w'.files := by
  obtain ⟨-, rt', -, -, w', -, hrun, hfiles, -⟩ := exists_attempt hphase hengine engines
  refine ⟨_, _, w', hrun, ?_⟩
  rw [hfiles]
  exact Executor.logs_execute rt.executor engines.interpreter w.files rt.sourceFile rt.searchPaths rt.logPath
    rt.vars

/-- A run changes nothing but its log and missing directories on the way to it. -/
theorem logged_attempt (rt : Runtime) (engines : EngineTable) (w : World) :
    ((rt.attempt engines).run w).2.files = w.files ∨
      ∃ p, rt.logPath = some p ∧ w.files.Logged p ((rt.attempt engines).run w).2.files := by
  by_cases h : rt.phase = .configured ∧ rt.engineIn w.files = .script
  · obtain ⟨rt', outcome, w', hrun, hlogs⟩ := logs_attempt h.1 h.2 engines
    rw [hrun]
    cases hp : rt.logPath with
    | none => exact Or.inl (hlogs.untouched (Or.inr hp)).2
    | some p => exact Or.inr ⟨p, rfl, hlogs.logged p hp⟩
  · exact Or.inl (files_attempt (fun hphase hengine => h ⟨hphase, hengine⟩) engines)

/-! ### Two runs -/

/-- The same run with another place for its log. -/
def logging (rt : Runtime) (log directory : Option Path) : Runtime :=
  { rt with context := { rt.context with
      logPath := log
      config := { rt.context.config with logDirectory := directory } } }

theorem feed_alike (hlive : rt.phase ≠ .disposed) {engine : EngineKind} (hengine : rt.engine = some engine)
    (log directory : Option Path) (hout : w₂.outputs = w.outputs) :
    ((rt.logging log directory).feed.run w₂).1 =
        ((rt.feed.run w).1.1.logging log directory, (rt.feed.run w).1.2) ∧
      ((rt.logging log directory).feed.run w₂).2.outputs = (rt.feed.run w).2.outputs := by
  let other := rt.logging log directory
  have hlive₂ : other.phase ≠ .disposed := hlive
  have hengine₂ : other.engine = some engine := hengine
  have hspec : other.consoleSpec (other.engineIn w₂.files) = rt.consoleSpec (rt.engineIn w.files) := by
    rw [engineIn_of_engine hengine, engineIn_of_engine hengine₂]
    rfl
  have halike : rt.AsksAlike w other w₂ := ⟨hlive, hlive₂, rfl, rfl, rfl, hspec, hout⟩
  obtain ⟨hanswer, hconsole, hstream, houtputs⟩ := halike.feed
  have hkept := engine_feed (w := w) hlive fun _ => by rw [hengine]; exact Option.some_ne_none _
  have hkept₂ := engine_feed (w := w₂) hlive₂ fun _ => by rw [hengine₂]; exact Option.some_ne_none _
  rw [engineIn_of_engine hengine] at hkept
  rw [engineIn_of_engine hengine₂] at hkept₂
  refine ⟨Prod.ext ?_ hanswer, houtputs⟩
  -- each is its run with what it was given
  have hfed := equipped_feed rt w
  have hfed₂ := equipped_feed other w₂
  unfold Equipped at hfed hfed₂
  rw [hkept] at hfed
  rw [hkept₂, hconsole, hstream] at hfed₂
  show (other.feed.run w₂).1.1 = (rt.feed.run w).1.1.logging log directory
  rw [hfed₂, hfed]
  rfl

/-- Where a run is logged, and whether it can be, is not seen in what the run leaves: neither in the runtime,
but for the log itself, nor in the consoles. -/
theorem attempt_alike (hphase : rt.phase = .configured) (hengine : rt.engineIn w.files = .script)
    (engines : EngineTable) (log directory : Option Path) (hout : w₂.outputs = w.outputs)
    (hengine₂ : rt.engineIn w₂.files = .script)
    (hread : w₂.files.readText rt.sourceFile = w.files.readText rt.sourceFile)
    (hsame : ∀ text, w.files.readText rt.sourceFile = .ok text →
      rt.interpretation engines.interpreter w₂.files text = rt.interpretation engines.interpreter w.files text) :
    ∃ rt' outcome w' logFile w₂', (rt.attempt engines).run w = ((rt', .ok outcome), w') ∧
      ((rt.logging log directory).attempt engines).run w₂ =
        (({ rt'.logging log directory with logFile := logFile }, .ok outcome), w₂') ∧
      w₂'.outputs = w'.outputs := by
  let other := rt.logging log directory
  have hphase₂ : other.phase = .configured := hphase
  have hother : other.engineIn w₂.files = .script := hengine₂
  obtain ⟨told, rt', n, fed, w', hf, hrun, -, hspoken⟩ := exists_attempt hphase hengine engines
  obtain ⟨told₂, rt₂, n₂, fed₂, w₂', hf₂, hrun₂, -, hspoken₂⟩ := exists_attempt hphase₂ hother engines
  -- both ask for their streams in the same state
  have hbegun : other.begun w₂.files = (rt.begun w.files).logging log directory := by
    show ({ other with engine := some (other.engineIn w₂.files), phase := .running } : Runtime) =
      ({ rt with engine := some (rt.engineIn w.files), phase := .running } : Runtime).logging log directory
    rw [hother, hengine]
    rfl
  have hdecided : (rt.begun w.files).engine = some (rt.engineIn w.files) := rfl
  have hquiet : ({ w₂ with told := told₂ } : World).outputs = ({ w with told := told } : World).outputs := hout
  have hlive : (rt.begun w.files).phase ≠ .disposed := nofun
  obtain ⟨hfeed, houtputs⟩ := feed_alike hlive hdecided log directory hquiet
  rw [← hbegun, hf, hf₂] at hfeed houtputs
  obtain ⟨rfl, hn⟩ := Prod.mk.inj hfeed
  cases hn
  -- and the script says and leaves the same
  let done := rt.execution engines.interpreter w.files
  let done₂ := other.execution engines.interpreter w₂.files
  obtain ⟨hsaid, hending⟩ :=
    Executor.execute_alike rt.executor engines.interpreter rt.logPath other.logPath hread hsame
  replace hsaid : done₂.said = done.said := hsaid
  replace hending : done₂.ending = { done.ending with logFile := done₂.ending.logFile } := hending
  refine ⟨_, _, w', done₂.ending.logFile, w₂', hrun, ?_, ?_⟩
  · rw [hrun₂, hending]
    rfl
  · rw [hspoken, hspoken₂, houtputs, hsaid]

/-! ### Different runs -/

theorem slash_notMem_idText (seed n : Nat) : '/' ∉ (idText seed n).toList := by
  rw [idText, String.toList_ofList]
  exact Text.notMem_hexDigits (by decide) _ _

/-- The log of a run with an id that is given to runs is named for the id, unless the context names it. -/
theorem getLast?_logPath {seed k : Nat} {p : Path} (hid : rt.execId = idText seed k)
    (hnone : rt.context.logPath = none) (hp : rt.logPath = some p) :
    p.components.getLast? = some (.name (rt.execId ++ ".log")) := by
  unfold logPath at hp
  rw [hnone] at hp
  obtain ⟨d, -, rfl⟩ := Option.map_eq_some_iff.mp hp
  have hchars : (rt.execId ++ ".log").toList = rt.execId.toList ++ ['.', 'l', 'o', 'g'] := by
    rw [String.toList_append]
    rfl
  refine Path.getLast?_components_join d ?_ ?_ ?_
  · rw [hchars, List.mem_append, hid]
    rintro (h | h)
    · exact slash_notMem_idText seed k h
    · exact absurd h (by decide)
  · -- the name is too long to be empty or a dot
    have hidle : ∀ cs : List Char, 4 ≤ cs.length → Path.isIdle cs = false := by
      rintro (- | ⟨c, - | ⟨c', cs⟩⟩) hcs
      · simp at hcs
      · simp at hcs
      · simp [Path.isIdle]
    exact hidle _ (by simp [hchars])
  · intro h
    have hlong := congrArg List.length (hchars.symm.trans h)
    simp at hlong

/-- **Runs with different ids have different logs**, unless a log is named, whatever their configurations and
whatever the files. -/
theorem apart_of_execId {rt₂ : Runtime} {seed k seed₂ k₂ : Nat} {p p₂ : Path}
    (hid : rt.execId = idText seed k) (hid₂ : rt₂.execId = idText seed₂ k₂)
    (hne : rt.execId ≠ rt₂.execId) (hnone : rt.context.logPath = none)
    (hnone₂ : rt₂.context.logPath = none) (hp : rt.logPath = some p) (hp₂ : rt₂.logPath = some p₂) :
    p ≠ p₂ ∧ ∀ (t t₂ : FileTree) place, t.locate p = .ok place → t₂.locate p₂ ≠ .ok place := by
  have hlast := getLast?_logPath hid hnone hp
  have hlast₂ := getLast?_logPath hid₂ hnone₂ hp₂
  refine ⟨?_, fun t t₂ place hplace hplace₂ => ?_⟩
  · rintro rfl
    rw [hlast, Option.some.injEq, Component.name.injEq] at hlast₂
    exact hne ((String.append_left_inj _).mp hlast₂)
  · have hname := FileTree.getLast?_of_locate hplace hlast
    rw [FileTree.getLast?_of_locate hplace₂ hlast₂, Option.some.injEq] at hname
    exact hne ((String.append_left_inj _).mp hname).symm

end Runtime

/-! ### Runs one after the other -/

/-- A run that is called for: the runtime, the handlers, and the world but for its files. -/
structure Launch where
  runtime : Runtime
  engines : EngineTable
  world : World

namespace Launch

/-- What becomes of a launch with some files. -/
def result (l : Launch) (files : FileTree) : (Runtime × Except Refusal Outcome) × World :=
  (l.runtime.attempt l.engines).run { l.world with files := files }

/-- The files after some launches, one after the other. -/
def filesAfter (files : FileTree) (launches : List Launch) : FileTree :=
  launches.foldl (fun files l => (l.result files).2.files) files

/-- A launch with an id that is given to runs, and with no log that its context names. -/
structure IsPlain (l : Launch) : Prop where
  issued : ∃ seed n, l.runtime.execId = idText seed n
  unnamed : l.runtime.context.logPath = none

variable {files : FileTree} {launches : List Launch} {p : Path} {text : String} {place : Place}

theorem readText_filesAfter (hp : files.locate p = .ok place) (hread : files.readText p = .ok text)
    (hapart : ∀ l ∈ launches, ∀ q, l.runtime.logPath = some q → ∀ t : FileTree, t.locate q ≠ .ok place) :
    (filesAfter files launches).readText p = .ok text := by
  induction launches generalizing files with
  | nil => exact hread
  | cons l launches ih =>
    have hlater := fun l' hl' => hapart l' (List.mem_cons_of_mem l hl')
    rcases l.runtime.logged_attempt l.engines { l.world with files := files } with
      hsame | ⟨q, hq, hlogged⟩
    · have hfiles : (l.result files).2.files = files := hsame
      show (filesAfter (l.result files).2.files launches).readText p = .ok text
      rw [hfiles]
      exact ih hp hread hlater
    · obtain ⟨hp', hread'⟩ := hlogged.readText hp hread (hapart l List.mem_cons_self q hq _)
      exact ih hp' hread' hlater

/-- **No log of a run is lost in later runs.** -/
theorem log_filesAfter {before later : List Launch} {l : Launch} (start : FileTree)
    (hplain : ∀ l' ∈ l :: later, l'.IsPlain)
    (hne : ∀ l' ∈ later, l.runtime.execId ≠ l'.runtime.execId)
    (hphase : l.runtime.phase = .configured)
    (hengine : l.runtime.engineIn (filesAfter start before) = .script)
    (hlog : (l.result (filesAfter start before)).1.1.logFile = some p) :
    (filesAfter start (before ++ l :: later)).readText p =
      .ok (l.result (filesAfter start before)).1.1.traceMessage := by
  have hsplit : filesAfter start (before ++ l :: later) =
      filesAfter (l.result (filesAfter start before)).2.files later := List.foldl_append
  rw [hsplit]
  generalize filesAfter start before = files at hengine hlog
  obtain ⟨rt', outcome, w', hrun, hlogs⟩ :=
    Runtime.logs_attempt (w := { l.world with files := files }) hphase hengine l.engines
  replace hrun : l.result files = ((rt', .ok outcome), w') := hrun
  rw [hrun] at hlog ⊢
  replace hlog : rt'.logFile = some p := hlog
  rw [hlog] at hlogs
  obtain ⟨hpath, hread⟩ := hlogs.readText
  obtain ⟨place, -, -, hplace, -⟩ := FileTree.readText_eq_ok_iff.mp hread
  obtain ⟨⟨seed, k, hid⟩, hnone⟩ := hplain l List.mem_cons_self
  refine readText_filesAfter hplace hread fun l' hl' q hq t => ?_
  obtain ⟨⟨seed', k', hid'⟩, hnone'⟩ := hplain l' (List.mem_cons_of_mem l hl')
  exact (Runtime.apart_of_execId hid hid' (hne l' hl') hnone hnone' hpath hq).2 _ t place hplace

end Launch

/-! ### The law -/

/-- **The law of logs.** Take any executor, any interpreter and any files. If the script does not compile or
raises an error and there is a place for a log, then the directories on the way to it are made and the message
is written: if both succeed, the log has the message and nothing else, and is told; otherwise there is no log,
and only directories have been made. In all other cases there is no log, and no file changes. Whatever happens,
nothing changes but the log and missing directories on the way to it. Another log, or other files in which the
script is the same for the interpreter, change neither what the script says nor how the run ends.

A runtime that runs a script in an interpreter keeps this: its log has its message. It is left the
same with another log path or another log directory, and so are the consoles. Without logs that are named, runs
with different ids have logs at different places, in whatever files; and of runs one after the other, each
finds its log at the end as it was written. -/
theorem failure_log_law :
    (∀ (x : Executor) (interpreter : Interpreter) (files : FileTree) (source : Path)
      (searchPaths : List Path) (log : Option Path) (vars : Dictionary Value),
      let r := x.execute interpreter files source searchPaths log vars
      Executor.Logs (∃ c, x.Takes interpreter files source searchPaths vars c ∧ c.Fails) files log
        r.ending.message r.ending.logFile r.files ∧
      ∀ (log' : Option Path) (files' : FileTree), files'.readText source = files.readText source →
        (∀ text, files.readText source = .ok text →
          interpreter (x.setting files' source searchPaths) (x.scope source vars) text =
            interpreter (x.setting files source searchPaths) (x.scope source vars) text) →
        let r' := x.execute interpreter files' source searchPaths log' vars
        r'.said = r.said ∧ r'.ending = { r.ending with logFile := r'.ending.logFile }) ∧
    (∀ (rt : Runtime) (engines : EngineTable) (w : World), rt.phase = .configured →
      rt.engineIn w.files = .script →
      ∃ rt' outcome w', (rt.attempt engines).run w = ((rt', .ok outcome), w') ∧
        Executor.Logs (rt.Fails engines.interpreter w.files) w.files rt.logPath rt'.traceMessage rt'.logFile
          w'.files ∧
        ∀ (log directory : Option Path) (w₂ : World), w₂.outputs = w.outputs →
          rt.engineIn w₂.files = .script →
          w₂.files.readText rt.sourceFile = w.files.readText rt.sourceFile →
          (∀ text, w.files.readText rt.sourceFile = .ok text →
            rt.interpretation engines.interpreter w₂.files text =
              rt.interpretation engines.interpreter w.files text) →
          ∃ logFile w₂', ((rt.logging log directory).attempt engines).run w₂ =
              (({ rt'.logging log directory with logFile := logFile }, .ok outcome), w₂') ∧
            w₂'.outputs = w'.outputs) ∧
    (∀ (l l' : Launch) (p p' : Path), l.IsPlain → l'.IsPlain → l.runtime.execId ≠ l'.runtime.execId →
      l.runtime.logPath = some p → l'.runtime.logPath = some p' →
      p ≠ p' ∧ ∀ (t t' : FileTree) place, t.locate p = .ok place → t'.locate p' ≠ .ok place) ∧
    ∀ (start : FileTree) (launches : List Launch), (∀ l ∈ launches, l.IsPlain) →
      launches.Pairwise (fun l l' => l.runtime.execId ≠ l'.runtime.execId) →
      ∀ before l later, launches = before ++ l :: later → l.runtime.phase = .configured →
        let files := Launch.filesAfter start before
        l.runtime.engineIn files = .script → ∀ p, (l.result files).1.1.logFile = some p →
          (Launch.filesAfter start launches).readText p = .ok (l.result files).1.1.traceMessage := by
  refine ⟨fun x interpreter files source searchPaths log vars => ⟨?_, fun log' files' hread hsame => ?_⟩,
    fun rt engines w hphase hengine => ?_, ?_, ?_⟩
  · exact Executor.logs_execute x interpreter files source searchPaths log vars
  · exact Executor.execute_alike x interpreter log log' hread hsame
  · obtain ⟨rt', outcome, w', hrun, hlogs⟩ := Runtime.logs_attempt hphase hengine engines
    refine ⟨rt', outcome, w', hrun, hlogs, fun log directory w₂ hout hengine₂ hread hsame => ?_⟩
    obtain ⟨rt'', outcome', w'', logFile, w₂', hrun', hrun₂, houtputs⟩ :=
      Runtime.attempt_alike hphase hengine engines log directory hout hengine₂ hread hsame
    rw [hrun] at hrun'
    cases hrun'
    exact ⟨logFile, w₂', hrun₂, houtputs⟩
  · rintro l l' p p' ⟨⟨seed, k, hid⟩, hnone⟩ ⟨⟨seed', k', hid'⟩, hnone'⟩ hne hp hp'
    exact Runtime.apart_of_execId hid hid' hne hnone hnone' hp hp'
  · rintro start launches hplain hne before l later rfl hphase files hengine p hlog
    refine Launch.log_filesAfter start (fun l' hl' => hplain l' (List.mem_append_right before hl'))
      (fun l' hl' => ?_) hphase hengine hlog
    exact List.rel_of_pairwise_cons (List.pairwise_append.mp hne).2.1 hl'

/-- A host with a script file that raises an error. -/
def throwingFiles : FileTree := ⟨[(["a.rhai"], .file (Text.toBytes "throw 1") none)], []⟩

/-- A run of that file with a number, with a directory for logs that is not there yet. -/
def throwing (n : Nat) : Launch where
  runtime := .fresh (idText 0 n) (.capture "" fun _ => none) (.forScript ⟨"a.rhai"⟩)
    { Context.empty with config := { Config.standard with logDirectory := some ⟨"logs"⟩ } }
  engines := .empty
  world := { (default : World) with files := throwingFiles }

/-- The log of the first of two such runs. -/
theorem failure_log_law_throwing :
    ((throwing 0).result throwingFiles).1.1.logFile =
      some ⟨"logs/00000000000000000000000000000000.log"⟩ ∧
    (Launch.filesAfter throwingFiles [throwing 0, throwing 1]).readText
        ⟨"logs/00000000000000000000000000000000.log"⟩ =
      .ok ((throwing 0).result throwingFiles).1.1.traceMessage := by
  have hengine : (throwing 0).runtime.engineIn throwingFiles = .script := by decide +kernel
  have hlog : ((throwing 0).result throwingFiles).1.1.logFile =
      some ⟨"logs/00000000000000000000000000000000.log"⟩ := by decide +kernel
  have hplain : ∀ l ∈ [throwing 0, throwing 1], l.IsPlain := by
    rintro l hl
    rcases List.mem_pair.mp hl with rfl | rfl
    · exact ⟨⟨0, 0, rfl⟩, rfl⟩
    · exact ⟨⟨0, 1, rfl⟩, rfl⟩
  have hne : [throwing 0, throwing 1].Pairwise fun l l' => l.runtime.execId ≠ l'.runtime.execId := by
    decide +kernel
  exact ⟨hlog, failure_log_law.2.2.2 throwingFiles _ hplain hne [] _ [throwing 1] rfl rfl hengine _ hlog⟩

end HostedScripts
