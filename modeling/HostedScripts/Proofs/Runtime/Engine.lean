import HostedScripts.Report
import HostedScripts.Proofs.Runtime.Logs
import HostedScripts.Proofs.Runtime.Results

/-! # The engine of a run is decided once

The engine is decided by the first call that asks for it (`Runtime.firstAsked`), from the files as they are
then: a question for the engine, or a call that gives a console, a stream or the end of the run. A call that is
refused asks for nothing. Whatever becomes of the files after that, the answers to all later questions, what
the run does (`Runtime.Dispatched`) and its report go by this engine (`Runtime.engine_is_decided_once`). -/

namespace HostedScripts

/-- What has been told of the interpreter. -/
def World.toldByExecutor (w : World) : List Event := w.told.filter (·.target = "scripthost::executor")

namespace Runtime

/-- Whether a host is told that its call is refused. -/
def Answer.isRefused : Answer → Bool
  | .refused _ => true
  | _ => false

/-- Whether a call with some answer has asked for the engine. -/
def Call.asksEngine (c : Call) (answer : Answer) : Bool :=
  match c with
  | .readEngine => true
  | .outputWindow | .outputStream | .run _ => !answer.isRefused
  | .setEventSender _ | .setEventArgs _ | .editResults _ | .dispose => false

/-- The world in which some calls ask for the engine first. -/
def firstAsked (rt : Runtime) : List (World × Call) → Option World
  | [] => none
  | (w, c) :: calls =>
    if c.asksEngine ((rt.call c).run w).1.2 then some w else ((rt.call c).run w).1.1.firstAsked calls

/-- The engine that is selected for a run in a world. -/
def selected (rt : Runtime) (w : World) : EngineKind :=
  selectEngine w.files.isFile rt.sourceFile rt.script.commandBundle

variable {rt rt' new : Runtime} {w w' : World} {engines : EngineTable}

/-! ### Which call decides -/

/-- A runtime that selects an engine as another one does, and has no console unless it has an engine. -/
structure Selects (new rt : Runtime) : Prop where
  sourceFile : rt.sourceFile = new.sourceFile
  script : rt.script = new.script
  environment : rt.environment = new.environment
  decided : rt.console ≠ none → rt.engine ≠ none

/-- A run that is under way keeps the engine that it began with. -/
theorem Fed.engine {engine : EngineKind} (h : rt.Fed w rt' w') (hphase : rt.phase ≠ .disposed)
    (hengine : rt.engine = some engine) : rt'.engine = some engine := by
  rcases h with ⟨rfl, -⟩ | ⟨n, fed, hf, -⟩
  · exact hengine
  · have hfeed := engine_feed (w := w) hphase fun _ => by rw [hengine]; exact Option.some_ne_none engine
    rw [hf, engineIn_of_engine hengine] at hfeed
    exact hfeed

/-- A call that asks for the engine decides it, unless it is decided, and no other call does. -/
theorem engine_call (hdecided : rt.console ≠ none → rt.engine ≠ none) (c : Call) (w : World) :
    ((rt.call c).run w).1.1.engine =
      if c.asksEngine ((rt.call c).run w).1.2 then some (rt.engineIn w.files) else rt.engine := by
  cases c with
  | setEventSender | setEventArgs | editResults | readEngine => rfl
  | dispose =>
    obtain ⟨told, hcall⟩ := call_dispose rt w
    rw [hcall]
    rfl
  | outputWindow =>
    by_cases h : rt.phase = .disposed
    · rw [(output_of_disposed h w).1]
      rfl
    · have hengine := engine_window (w := w) h hdecided
      obtain ⟨rt', n, w', hw⟩ := exists_window rt w h
      rw [hw] at hengine
      rw [call_outputWindow hw]
      exact hengine
  | outputStream =>
    by_cases h : rt.phase = .disposed
    · rw [(output_of_disposed h w).2]
      rfl
    · have hengine := engine_feed (w := w) h hdecided
      obtain ⟨rt', n, w', hf⟩ := exists_feed rt w h
      rw [hf] at hengine
      rw [call_outputStream hf]
      exact hengine
  | run engines =>
    by_cases h : rt.phase = .configured
    · obtain ⟨begun, -, rt', ending, w', hrun, hfed⟩ := run_eq h engines w
      rw [hrun]
      exact hfed.engine (by simp) rfl
    · rw [run_of_ne_configured h]
      rfl

theorem Selects.engineIn (h : new.Selects rt) (w : World) :
    rt.engineIn w.files = rt.engine.getD (new.selected w) := by
  unfold Runtime.engineIn selected
  rw [h.sourceFile, h.script]

theorem Selects.equipped (h : new.Selects rt) (he : rt.Equipped rt') (hengine : rt'.engine ≠ none) :
    new.Selects rt' where
  sourceFile := by
    rw [← h.sourceFile, he]
    rfl
  script := by rw [← h.script, he]
  environment := by rw [← h.environment, he]
  decided _ := hengine

theorem Selects.call (h : new.Selects rt) (c : Call) (w : World) :
    new.Selects ((rt.call c).run w).1.1 := by
  cases c with
  | setEventSender sender =>
    refine ⟨?_, h.script, h.environment, h.decided⟩
    rw [← h.sourceFile]
    match sender with
    | some (.host handle) => rfl
    | some (.unrecognized typeName) => rfl
    | none => rfl
  | setEventArgs | editResults => exact ⟨h.sourceFile, h.script, h.environment, h.decided⟩
  | readEngine => exact ⟨h.sourceFile, h.script, h.environment, fun _ => Option.some_ne_none _⟩
  | dispose =>
    obtain ⟨told, hcall⟩ := call_dispose rt w
    rw [hcall]
    exact ⟨h.sourceFile, h.script, h.environment, fun hne => absurd rfl hne⟩
  | outputWindow =>
    by_cases hphase : rt.phase = .disposed
    · rw [(output_of_disposed hphase w).1]
      exact h
    · have hsome := engine_window (w := w) hphase h.decided
      exact h.equipped (equipped_window rt w) fun hnone => Option.some_ne_none _ (hsome.symm.trans hnone)
  | outputStream =>
    by_cases hphase : rt.phase = .disposed
    · rw [(output_of_disposed hphase w).2]
      exact h
    · have hsome := engine_feed (w := w) hphase h.decided
      exact h.equipped (equipped_feed rt w) fun hnone => Option.some_ne_none _ (hsome.symm.trans hnone)
  | run engines =>
    by_cases hphase : rt.phase = .configured
    · obtain ⟨begun, -, rt', ending, w', hrun, hfed⟩ := run_eq hphase engines w
      have hbegun : new.Selects { rt.pinned w.files with phase := .running } :=
        ⟨h.sourceFile, h.script, h.environment, fun _ => Option.some_ne_none _⟩
      have hsome : rt'.engine ≠ none := by
        rw [hfed.engine (by simp) rfl]
        exact Option.some_ne_none _
      obtain ⟨hsource, hscript, henvironment, hdecided⟩ := hbegun.equipped hfed.equipped hsome
      rw [hrun]
      exact ⟨hsource, hscript, henvironment, hdecided⟩
    · rw [run_of_ne_configured hphase]
      exact h

/-- **The engine is the one that was selected when it was asked for first.** -/
theorem Selects.after (h : new.Selects rt) (calls : List (World × Call)) :
    new.Selects (rt.after calls) ∧
      (rt.after calls).engine = rt.engine.or ((rt.firstAsked calls).map new.selected) := by
  induction calls generalizing rt with
  | nil => exact ⟨h, (Option.or_none).symm⟩
  | cons call calls ih =>
    obtain ⟨w, c⟩ := call
    obtain ⟨hselects, hengine⟩ := ih (h.call c w)
    refine ⟨hselects, ?_⟩
    show (((rt.call c).run w).1.1.after calls).engine = _
    rw [hengine, engine_call h.decided, firstAsked, h.engineIn]
    split_ifs
    · cases rt.engine <;> rfl
    · rfl

end Runtime

/-! ### What is told of the interpreter -/

namespace World

variable {w : World} {events : List Event}

theorem toldByExecutor_append (w : World) (events : List Event) :
    ({ w with told := w.told ++ events } : World).toldByExecutor =
      w.toldByExecutor ++ events.filter (·.target = "scripthost::executor") :=
  List.filter_append ..

theorem toldByExecutor_of_other (h : ∀ e ∈ events, e.target ≠ "scripthost::executor") :
    ({ w with told := w.told ++ events } : World).toldByExecutor = w.toldByExecutor := by
  rw [toldByExecutor_append, List.filter_eq_nil_iff.mpr, List.append_nil]
  exact fun e he => by simpa using h e he

end World

namespace Output.Registry

variable {e : Event}

theorem target_consoleFor {r : Registry} {spec : ConsoleSpec} (h : e ∈ (r.consoleFor spec).2.2.2) :
    e.target = "scripthost::output" := by
  unfold consoleFor at h
  dsimp only at h
  split at h
  · split at h
    · cases h
    · rw [List.mem_singleton.mp h]
      rfl
  · rw [List.mem_singleton.mp h]
    rfl

theorem target_streamFor {r : Registry} {execId : String} {console : Nat}
    (h : e ∈ (r.streamFor execId console).2.2.2) : e.target = "scripthost::output" := by
  have hreclaim : (r.streamFor execId console).2.2.2 = r.reclaim.2 := rfl
  rw [hreclaim] at h
  unfold reclaim at h
  dsimp only at h
  split_ifs at h
  · rw [List.mem_singleton.mp h]
    rfl
  · cases h

theorem target_write {r : Registry} {stream : Nat} {text : String} (h : e ∈ (r.write stream text).2) :
    e.target = "scripthost::output" := by
  unfold write at h
  split at h
  · cases h
  · split_ifs at h
    · cases h
    · rw [List.mem_singleton.mp h]
      rfl

end Output.Registry

/-- What is told of the interpreter while a script file is run. -/
def Execution.told (x : Execution) : List Event :=
  ((x.actions.filter (·.words? = none)).flatMap Executor.eventsOf).filter (·.target = "scripthost::executor")

namespace Runtime

variable {rt rt' new : Runtime} {w w' : World} {engines : EngineTable} {n : Nat}

theorem target_ne_executor {e : Event} (h : e.target = "scripthost::output") :
    e.target ≠ "scripthost::executor" := by
  rw [h]
  decide

theorem target_runtime_ne (severity : Severity) (message : String) (fields : List (String × String)) :
    (event severity message fields).target ≠ "scripthost::executor" := by
  show "scripthost::runtime" ≠ "scripthost::executor"
  decide

theorem toldByExecutor_window (rt : Runtime) (w : World) :
    (rt.window.run w).2.toldByExecutor = w.toldByExecutor := by
  refine window_keeps (motive := fun _ after => after.toldByExecutor = w.toldByExecutor) rt w rfl ?_
  exact World.toldByExecutor_of_other (w := { w with outputs := (rt.consoleIn w).1 })
    fun e he => target_ne_executor (Output.Registry.target_consoleFor he)

theorem told_closeStream (rt : Runtime) (w : World) : (rt.closeStream.run w).2.told = w.told := by
  rcases hs : rt.stream with - | ⟨h, n⟩
  · rw [closeStream_of_none hs]
  · rw [closeStream_of_some hs]

theorem toldByExecutor_feed (rt : Runtime) (w : World) :
    (rt.feed.run w).2.toldByExecutor = w.toldByExecutor := by
  refine feed_keeps (motive := fun _ after => after.toldByExecutor = w.toldByExecutor) rt w
    (toldByExecutor_window rt w) (fun seen before h => ?_) fun seen before c h => ?_
  · unfold World.toldByExecutor at h ⊢
    rw [told_closeStream]
    exact h
  · have htarget : ∀ e ∈ (before.outputs.streamFor seen.execId c).2.2.2,
        e.target ≠ "scripthost::executor" :=
      fun e he => target_ne_executor (Output.Registry.target_streamFor he)
    rw [← h]
    exact World.toldByExecutor_of_other
      (w := { before with outputs := (before.outputs.streamFor seen.execId c).1 }) htarget

theorem toldByExecutor_writeTo (stream : Nat) (text : String) (w : World) :
    ((Act.writeTo stream text).run w).2.toldByExecutor = w.toldByExecutor :=
  World.toldByExecutor_of_other (w := { w with outputs := (w.outputs.write stream text).1 })
    fun _ he => target_ne_executor (Output.Registry.target_write he)

/-- What happens in the interpreter is told, but for what the script says. -/
theorem toldByExecutor_perform (stream : Nat) (x : Execution) (w : World) :
    ((perform stream x.actions).run w).2.toldByExecutor = w.toldByExecutor ++ x.told := by
  unfold Execution.told
  generalize x.actions = actions
  induction actions generalizing w with
  | nil => exact (List.append_nil _).symm
  | cons action actions ih =>
    rcases hwords : action.words? with - | ⟨isDebug, text⟩
    · rw [perform_of_silent hwords, ih, List.filter_cons_of_pos (by simp [hwords]), List.flatMap_cons,
        List.filter_append, ← List.append_assoc, World.toldByExecutor_append]
    · obtain rfl : action = .said isDebug text := by
        cases action <;> cases hwords
        rfl
      rw [List.filter_cons_of_neg (by simp [hwords]), ← toldByExecutor_writeTo stream text w]
      exact ih _

/-! ### What a run does by its engine -/

/-- What a run does by its engine, when it leaves something; `rt'` is the run at its end. Without an engine it
does nothing at all; with the interpreter it does what happens there; and with any other engine it asks the
handler, if there is one. -/
def Dispatched (rt : Runtime) (engines : EngineTable) (w : World) (rt' : Runtime) (ending : Ending)
    (w' : World) : EngineKind → Prop
  | .unknown => ending = .plain .succeeded "" ∧ rt'.console = rt.console ∧ w'.outputs = w.outputs ∧
      w'.files = w.files ∧ w'.asked = w.asked ∧ w'.toldByExecutor = w.toldByExecutor
  | .script => ending = (rt.execution engines.interpreter w.files).ending ∧
      w'.files = (rt.execution engines.interpreter w.files).files ∧ w'.asked = w.asked ∧
      w'.toldByExecutor = w.toldByExecutor ++ (rt.execution engines.interpreter w.files).told
  | engine =>
    match engines.get? engine with
    | none => ending = .plain .failed
          ("No engine handler is registered for " ++ Refusal.inQuotes engine.name ++ " scripts.") ∧
        rt'.console = rt.console ∧ w'.outputs = w.outputs ∧ w'.files = w.files ∧ w'.asked = w.asked
    | some handler => ∃ stream, ending = (handler (rt.request engine stream)).ending ∧
        w'.files = w.files ∧ w'.asked = w.asked ++ [rt.request engine stream]

theorem asked_forM_writeTo (stream : Nat) (texts : List String) (w : World) :
    ((texts.forM (Act.writeTo stream)).run w).2.asked = w.asked :=
  forM_writeTo_keeps (motive := fun after => after.asked = w.asked) (fun _ _ h => h) rfl texts

theorem asked_perform (stream : Nat) (actions : List Action) (w : World) :
    ((perform stream actions).run w).2.asked = w.asked :=
  perform_keeps (motive := fun after => after.asked = w.asked) (fun _ _ h => h) (fun _ _ h => h) rfl actions

theorem dispatched_interpret (h : rt.phase ≠ .disposed) (engines : EngineTable) (w : World) :
    ∃ rt' ending w', (rt.interpret engines.interpreter).run w = ((rt', .ok ending), w') ∧ rt.Fed w rt' w' ∧
      rt.Dispatched engines w rt' ending w' .script := by
  obtain ⟨rt', n, fed, hf⟩ := exists_feed rt w h
  have hidle := idle_feed rt w
  have htold := toldByExecutor_feed rt w
  rw [hf] at hidle htold
  refine ⟨_, _, _, interpret_run hf engines.interpreter, Or.inr ⟨n, fed, hf, quiet_perform ?_ n _⟩, rfl,
    (perform_run n _ _).1, (asked_perform n _ _).trans hidle.2, ?_⟩
  · exact .refl fed.outputs
  · rw [toldByExecutor_perform, ← htold]
    rfl

theorem dispatched_handOver (h : rt.phase ≠ .disposed) {engine : EngineKind}
    (hprovided : engine.isProvided = true) (engines : EngineTable) (w : World) :
    ∃ rt' ending w', (rt.handOver engine engines).run w = ((rt', .ok ending), w') ∧ rt.Fed w rt' w' ∧
      rt.Dispatched engines w rt' ending w' engine := by
  have hdispatched : ∀ rt' ending w', rt.Dispatched engines w rt' ending w' engine ↔
      match engines.get? engine with
      | none => ending = .plain .failed
            ("No engine handler is registered for " ++ Refusal.inQuotes engine.name ++ " scripts.") ∧
          rt'.console = rt.console ∧ w'.outputs = w.outputs ∧ w'.files = w.files ∧ w'.asked = w.asked
      | some handler => ∃ stream, ending = (handler (rt.request engine stream)).ending ∧
          w'.files = w.files ∧ w'.asked = w.asked ++ [rt.request engine stream] := fun rt' ending w' => by
    cases engine <;> first | exact Iff.rfl | cases hprovided
  simp only [hdispatched]
  cases hh : engines.get? engine with
  | none =>
    unfold handOver
    rw [hh]
    exact ⟨_, _, _, rfl, Or.inl ⟨rfl, rfl⟩, rfl, rfl, rfl, rfl, rfl⟩
  | some handler =>
    obtain ⟨rt', n, fed, hf⟩ := exists_feed rt w h
    have hequipped := equipped_feed rt w
    have hidle := idle_feed rt w
    rw [hf] at hequipped hidle
    replace hequipped : rt.Equipped rt' := hequipped
    obtain ⟨ending, w', hrun, hquiet⟩ := handOver_of_feed hf hh
    have hdone := hrun.symm.trans (handOver_run hf hh)
    rw [hequipped.request] at hdone
    cases hdone
    exact ⟨_, _, _, hrun, Or.inr ⟨n, fed, hf, hquiet⟩, n, rfl, (files_forM_writeTo n _ _).trans hidle.1,
      (asked_forM_writeTo n _ _).trans (congrArg (· ++ [rt.request engine n]) hidle.2)⟩

/-- **A run does what its engine says.** -/
theorem dispatched_execute (h : rt.phase ≠ .disposed) (engine : EngineKind) (engines : EngineTable)
    (w : World) :
    ∃ rt' ending w', (rt.execute engine engines).run w = ((rt', .ok ending), w') ∧ rt.Fed w rt' w' ∧
      rt.Dispatched engines w rt' ending w' engine := by
  cases engine with
  | unknown =>
    exact ⟨rt, _, _, rfl, Or.inl ⟨rfl, rfl⟩, rfl, rfl, rfl, rfl, rfl,
      World.toldByExecutor_of_other fun e he => by
        rw [List.mem_singleton.mp he]
        exact target_runtime_ne .info _ _⟩
  | script => exact dispatched_interpret h engines w
  | compiled => exact dispatched_handOver h rfl engines w
  | visual => exact dispatched_handOver h rfl engines w
  | invoke => exact dispatched_handOver h rfl engines w

/-- A world in which the host has told something more. -/
structure Announced (w w' : World) : Prop where
  files : w'.files = w.files
  outputs : w'.outputs = w.outputs
  asked : w'.asked = w.asked
  told : w'.toldByExecutor = w.toldByExecutor

theorem announced (w : World) (severity : Severity) (message : String) (fields : List (String × String)) :
    Announced w { w with told := w.told ++ [event severity message fields] } where
  files := rfl
  outputs := rfl
  asked := rfl
  told := World.toldByExecutor_of_other fun e he => by
    rw [List.mem_singleton.mp he]
    exact target_runtime_ne severity message fields

theorem Dispatched.announced {ending : Ending} {engine : EngineKind} {before done : World}
    (h : rt.Dispatched engines before rt' ending done engine) (hbefore : Announced w before)
    (hdone : Announced done w') : rt.Dispatched engines w rt' ending w' engine := by
  unfold Dispatched at h ⊢
  rwa [hdone.files, hdone.outputs, hdone.asked, hdone.told, ← hbefore.files, ← hbefore.outputs,
    ← hbefore.asked, ← hbefore.told]

/-- What is told before a script is run. -/
def beginning (rt : Runtime) (engine : EngineKind) : Event :=
  event .info "running script"
    [("engine", engine.name), ("runtime_type", rt.kind.name),
      ("refresh_engine", if rt.context.refreshEngine then "true" else "false")]

/-- What is told after a script has been run. -/
def finishing (e : Ending) : Event :=
  event .info "script finished"
    [("result", e.outcome.name), ("exit_code", toString (e.exitCode.getD 0).toInt)]

theorem carryOut_of_execute {ending : Ending} {done : World}
    (h : (rt.execute (rt.engineIn w.files) engines).run
      { w with told := w.told ++ [rt.beginning (rt.engineIn w.files)] } = ((rt', .ok ending), done)) :
    (rt.carryOut engines).run w =
      ((rt'.ended ending, .ok ending.outcome), { done with told := done.told ++ [finishing ending] }) := by
  unfold beginning at h
  unfold carryOut
  simp only [Act.run_bind, Act.run_get, Act.run_tell, h]
  rfl

theorem dispatched_run (hphase : rt.phase = .configured) (engines : EngineTable) (w : World) :
    ∃ before fed ending done w', Announced w before ∧ Announced done w' ∧
      (rt.call (.run engines)).run w = ((fed.ended ending, .ended ending.outcome), w') ∧
      (rt.begun w.files).Fed before fed done ∧
      rt.Dispatched engines w fed ending w' (rt.engineIn w.files) := by
  have hne : (rt.begun w.files).phase ≠ .disposed := fun h => by cases h
  obtain ⟨fed, ending, done, hrun, hfed, hdispatched⟩ :=
    dispatched_execute hne ((rt.begun w.files).engineIn w.files) engines
      { w with told := w.told ++ [(rt.begun w.files).beginning ((rt.begun w.files).engineIn w.files)] }
  have hbefore := announced w .info "running script"
    [("engine", ((rt.begun w.files).engineIn w.files).name), ("runtime_type", (rt.begun w.files).kind.name),
      ("refresh_engine", if (rt.begun w.files).context.refreshEngine then "true" else "false")]
  have hafter := announced done .info "script finished"
    [("result", ending.outcome.name), ("exit_code", toString (ending.exitCode.getD 0).toInt)]
  refine ⟨_, fed, ending, done, _, hbefore, hafter, ?_, hfed, hdispatched.announced hbefore hafter⟩
  unfold call
  rw [Act.run_bind, attempt_of_configured hphase]
  have hcarried : (({ rt.pinned w.files with phase := .running } : Runtime).carryOut engines).run w =
      ((fed.ended ending, .ok ending.outcome), { done with told := done.told ++ [finishing ending] }) :=
    carryOut_of_execute hrun
  rw [hcarried]
  rfl

/-! ### The engine from first to last -/

theorem execution_of_unreadable {files : FileTree} {e : FileError}
    (h : files.readText rt.sourceFile = .error e) (interpreter : Interpreter) :
    rt.execution interpreter files = ⟨.plain .failed e.message, files,
      [Executor.event .warn "script source unreadable" [("error", e.message)]]⟩ :=
  Executor.execute_of_unreadable h rt.logPath

/-- **The engine is decided once.** Take a runtime as it is made, after any calls, each in a world with its
own files. Its engine is the one that was selected in the world in which one of the calls asked for it first,
and none if none did. Now take any world. The engine that is selected there, or that was selected before, is
the answer to a question for the engine, which leaves it decided and goes for the version too. If the run can
begin then it comes to an end with this engine, it does what this engine says, and its report names it at any
time. A run without an engine succeeds with an empty message, opens no console and changes nothing, whatever
file there is by then. A run by the interpreter of a script that cannot be read by then fails with the text of
the error; of the interpreter only this is told, and no results and no log are left. -/
theorem engine_is_decided_once (execId : String) (captured : Environment) (script : ScriptData)
    (context : Context) (start : World) (calls : List (World × Call)) :
    let new := ((make execId captured script context).run start).1
    let rt := new.after calls
    rt.engine = (new.firstAsked calls).map new.selected ∧
    ∀ w,
      let engine := new.selected ((new.firstAsked calls).getD w)
      (rt.call .readEngine).run w = (({ rt with engine := some engine }, .engine engine), w) ∧
      rt.versionOf engine =
        (if engine = .script then new.environment.engineVersion else new.environment.runtimeVersion) ∧
      (rt.phase = .configured → ∀ engines, ∃ rt' ending w',
        (rt.call (.run engines)).run w = ((rt', .ended ending.outcome), w') ∧
        rt'.engine = some engine ∧ (∀ later, (Report.ofRuntime rt' ending.outcome later).engine = engine) ∧
        rt'.left = (some ending.outcome, ending.message, ending.logFile) ∧
        rt'.results = (rt.ended ending).results ∧ rt.Dispatched engines w rt' ending w' engine ∧
        (engine = .unknown → rt'.left = (some .succeeded, "", none) ∧ rt'.results = rt.results ∧
          rt'.console = rt.console ∧ w'.outputs = w.outputs ∧ w'.files = w.files ∧ w'.asked = w.asked ∧
          w'.toldByExecutor = w.toldByExecutor) ∧
        (engine = .script → ∀ e, w.files.readText new.sourceFile = .error e →
          rt'.left = (some .failed, e.message, none) ∧ rt'.results = rt.results ∧ w'.files = w.files ∧
          w'.toldByExecutor = w.toldByExecutor ++
            [⟨.warn, "scripthost::executor", "script source unreadable", [("error", e.message)]⟩])) := by
  intro new rt
  have hnew : new.Selects new := ⟨rfl, rfl, rfl, fun h => absurd rfl h⟩
  obtain ⟨hselects, hengine⟩ := hnew.after calls
  have hpinned : rt.engine = (new.firstAsked calls).map new.selected := hengine
  refine ⟨hpinned, fun w => ?_⟩
  intro engine
  have hin : rt.engineIn w.files = engine := by
    rw [hselects.engineIn w, hpinned]
    exact Option.getD_map new.selected w (new.firstAsked calls)
  refine ⟨?_, ?_, fun hphase engines => ?_⟩
  · show ((rt.pinned w.files, Answer.engine (rt.engineIn w.files)), w) = _
    unfold pinned
    rw [hin]
  · rw [← hselects.environment]
    unfold versionOf
    cases engine <;> rfl
  obtain ⟨before, fed, ending, done, w', hbefore, hafter, hrun, hfed, hdispatched⟩ :=
    dispatched_run hphase engines w
  rw [hin] at hdispatched
  -- the run under way keeps the engine that it began with
  have hfedEngine : fed.engine = some engine := hfed.engine (by simp [begun]) (congrArg some hin)
  have hresults : (fed.ended ending).results = (rt.ended ending).results := by
    have hsame : fed.results = rt.results := hfed.equipped.results
    unfold ended
    rw [hsame]
  refine ⟨_, ending, w', hrun, hfedEngine, fun later => engineIn_of_engine hfedEngine _, rfl, hresults,
    ?_, fun hunknown => ?_, fun hscript e he => ?_⟩
  · exact hdispatched
  · rw [hunknown] at hdispatched
    obtain ⟨rfl, hconsole, houtputs, hfiles, hasked, htold⟩ := hdispatched
    exact ⟨rfl, hresults.trans (results_ended_of_nil rt rfl), hconsole, houtputs, hfiles, hasked, htold⟩
  · rw [hscript] at hdispatched
    have he' : w.files.readText rt.sourceFile = .error e := by rwa [hselects.sourceFile]
    unfold Dispatched at hdispatched
    rw [execution_of_unreadable he' engines.interpreter] at hdispatched
    obtain ⟨rfl, hfiles, -, htold⟩ := hdispatched
    exact ⟨rfl, hresults.trans (results_ended_of_nil rt rfl), hfiles, htold⟩

end Runtime

end HostedScripts
