import HostedScripts.Report
import HostedScripts.Proofs.Executor.Course
import HostedScripts.Proofs.Output.Lines
import HostedScripts.Proofs.Runtime.Session

/-! # Runs do not see each other

Runs of one command share its console, and all runs share slots, handles and numbers. Still the report of
a run tells nothing of what happened before it: it can be said from the request and the files alone
(`Runtime.reportOf`), however the consoles and streams stand (`runScript_run`). Of the registry a run
needs only that its lists agree, which they do after any history of a host (`Session.sound_since`), and
that the id of the run tags no line of its command yet (`Registry.Untagged`). Of the handlers it is asked
that they do not tell streams apart by their numbers (`EngineTable.Blind`).

* `Runtime.feed_of_new`: a new run gets a stream that carries to its command.
* `Runtime.execute_of_new`: what a new run writes comes after the lines that there are.
* `runs_are_isolated`: the same run after two histories. -/

namespace HostedScripts

open Output (Handle Registry ConsoleSpec Console tagged)

/-- Handlers that do not tell streams apart by their numbers. -/
def EngineTable.Blind (engines : EngineTable) : Prop :=
  ∀ engine handler, engines.get? engine = some handler →
    ∀ request n, handler { request with stream := n } = handler request

/-- The id of a run that tags no line of a command. -/
def Output.Registry.Untagged (r : Registry) (outputId execId : String) : Prop :=
  ∀ line ∈ r.commandLines outputId, line.execId ≠ execId

/-! ### What a run comes to by itself -/

/-- What a run writes and leaves. -/
structure Work where
  written : List String
  ending : Ending
  files : FileTree

namespace Runtime

/-- A run as it is made. -/
def fresh (execId : String) (captured : Environment) (script : ScriptData) (context : Context) :
    Runtime :=
  ⟨execId, script, context, context.environment.getD captured, .ofContext context, none, none, none,
    none, none, "", none, .configured⟩

/-- What a handler is asked for a run. -/
def request (rt : Runtime) (engine : EngineKind) (stream : Nat) : Request :=
  ⟨engine, rt.sourceFile, rt.script, rt.context.arguments, rt.execId, rt.hostHandle, stream⟩

theorem Equipped.request {rt rt' : Runtime} (h : rt.Equipped rt') : rt'.request = rt.request := by
  rw [h]
  rfl

/-- What a run writes and leaves by an engine. -/
def workBy (rt : Runtime) (engines : EngineTable) (files : FileTree) : EngineKind → Work
  | .unknown => ⟨[], .plain .succeeded "", files⟩
  | .script =>
    let done := rt.execution engines.interpreter files
    ⟨done.said.map (·.2), done.ending, done.files⟩
  | engine =>
    match engines.get? engine with
    | none => ⟨[], .plain .failed ("No engine handler is registered for " ++
        Refusal.inQuotes engine.name ++ " scripts."), files⟩
    | some handler =>
      let response := handler (rt.request engine 0)
      ⟨response.written, response.ending, files⟩

/-- What a run writes and leaves. -/
def work (rt : Runtime) (engines : EngineTable) (files : FileTree) : Work :=
  rt.workBy engines files (rt.engineIn files)

/-- The report of a run. -/
def reportOf (rt : Runtime) (engines : EngineTable) (files : FileTree) : Report where
  execId := rt.execId
  engine := rt.engineIn files
  kind := rt.kind
  outcome := (rt.work engines files).ending.outcome
  message := (rt.work engines files).ending.message
  results := (rt.ended (rt.work engines files).ending).results.getD []
  output := (rt.work engines files).written.flatMap Console.linesOf
  logPath := (rt.work engines files).ending.logFile

end Runtime

/-! ### Writing -/

/-- A world in which a run wrote some texts for its command. -/
structure World.Wrote (w : World) (execId outputId : String) (texts : List String) (files : FileTree)
    (w' : World) : Prop where
  lines : w'.outputs.commandLines outputId =
    w.outputs.commandLines outputId ++ tagged execId (texts.flatMap Console.linesOf)
  files : w'.files = files

namespace World.Wrote

variable {w w' w'' : World} {execId outputId : String} {texts texts' : List String}
  {files files' : FileTree}

theorem nothing (hout : w'.outputs = w.outputs) (hfiles : w'.files = files) :
    w.Wrote execId outputId [] files w' :=
  ⟨by rw [hout]; exact (List.append_nil _).symm, hfiles⟩

theorem silent (h : w.Wrote execId outputId texts files w')
    (hout : w''.outputs.commandLines outputId = w'.outputs.commandLines outputId)
    (hfiles : w''.files = w'.files) : w.Wrote execId outputId texts files w'' :=
  ⟨hout.trans h.lines, hfiles.trans h.files⟩

theorem trans (h : w.Wrote execId outputId texts files w')
    (h' : w'.Wrote execId outputId texts' files' w'') :
    w.Wrote execId outputId (texts ++ texts') files' w'' where
  lines := by
    rw [h'.lines, h.lines, List.flatMap_append, Output.tagged_append, List.append_assoc]
  files := h'.files

end World.Wrote

namespace Runtime

variable {rt rt' : Runtime} {w w' : World} {stream : Nat} {execId outputId : String}

theorem wrote_writeTo (h : w.outputs.Carries stream execId outputId) (text : String) :
    ((Act.writeTo stream text).run w).2.outputs.Carries stream execId outputId ∧
      w.Wrote execId outputId [text] w.files ((Act.writeTo stream text).run w).2 := by
  obtain ⟨hcarries, hlines⟩ := h.write text
  refine ⟨hcarries, hlines.trans ?_, rfl⟩
  rw [List.flatMap_singleton]

theorem wrote_forM (h : w.outputs.Carries stream execId outputId) (texts : List String) :
    ((texts.forM (Act.writeTo stream)).run w).2.outputs.Carries stream execId outputId ∧
      w.Wrote execId outputId texts w.files ((texts.forM (Act.writeTo stream)).run w).2 := by
  induction texts generalizing w with
  | nil => exact ⟨h, .nothing rfl rfl⟩
  | cons text texts ih =>
    obtain ⟨hcarries, hwrote⟩ := wrote_writeTo h text
    obtain ⟨hrest, hall⟩ := ih hcarries
    rw [hwrote.files] at hall
    exact ⟨hrest, hwrote.trans hall⟩

theorem perform_of_silent {action : Action} (h : action.words? = none) (actions : List Action) :
    (perform stream (action :: actions)).run w =
      (perform stream actions).run { w with told := w.told ++ Executor.eventsOf action } := by
  cases action with
  | said => cases h
  | opened | told | released => rfl

/-- Doing what happened in the interpreter writes what the script said. -/
theorem wrote_perform (h : w.outputs.Carries stream execId outputId) (actions : List Action) :
    w.Wrote execId outputId ((actions.filterMap Action.words?).map (·.2)) w.files
      ((perform stream actions).run w).2 := by
  induction actions generalizing w with
  | nil => exact .nothing rfl rfl
  | cons action actions ih =>
    rcases hwords : action.words? with - | ⟨isDebug, text⟩
    · have htold : w.Wrote execId outputId [] w.files
          { w with told := w.told ++ Executor.eventsOf action } := .nothing rfl rfl
      rw [perform_of_silent hwords, List.filterMap_cons_none hwords]
      exact htold.trans (ih h)
    · obtain rfl : action = .said isDebug text := by
        cases action <;> cases hwords
        rfl
      obtain ⟨hcarries, hwrote⟩ := wrote_writeTo h text
      have hall := ih hcarries
      rw [hwrote.files] at hall
      exact hwrote.trans hall

/-! ### A new run -/

/-- A run that has no console and no stream yet, while its engine is decided. -/
structure New (rt : Runtime) (engine : EngineKind) : Prop where
  phase : rt.phase ≠ .disposed
  console : rt.console = none
  stream : rt.stream = none
  engine : rt.engine = some engine

variable {engine : EngineKind} {engines : EngineTable}

/-- A new run asks for the console of its command, and for a stream that feeds it. -/
theorem feed_run_of_new (hnew : rt.New engine) (w : World) :
    let given := rt.consoleIn w
    let fed := given.1.streamFor rt.execId given.2.2.1
    rt.feed.run w = (({ rt.pinned w.files with
        console := some given.2.1
        stream := some (fed.2.1, fed.2.2.1) }, .ok fed.2.2.1),
      { w with outputs := fed.1, told := w.told ++ given.2.2.2 ++ fed.2.2.2 }) := by
  have hnone : rt.console.bind w.outputs.console? = none := by rw [hnew.console]; rfl
  have hw := window_of_not_listed hnew.phase hnone
  have hstream : ({ rt.pinned w.files with console := some (rt.consoleIn w).2.1 } : Runtime).stream =
      none := hnew.stream
  have hn : ({ rt.pinned w.files with console := some (rt.consoleIn w).2.1 } : Runtime).streamTo
      (rt.consoleIn w).1 (rt.consoleIn w).2.2.1 = none := by
    unfold streamTo
    rw [hstream]
    rfl
  have hfeed := feed_of_not_current hw hn
  rw [closeStream_of_none hstream] at hfeed
  exact hfeed

/-- A new run gets a stream that carries to its command, and no line is changed. -/
theorem feed_of_new (hs : w.outputs.Sound) (hnew : rt.New engine) :
    ∃ rt' n w', rt.feed.run w = ((rt', .ok n), w') ∧ rt.Equipped rt' ∧ rt'.engine = some engine ∧
      w'.outputs.Carries n rt.execId rt.script.commandUniqueId ∧
      w'.outputs.commandLines rt.script.commandUniqueId =
        w.outputs.commandLines rt.script.commandUniqueId ∧ w'.files = w.files := by
  obtain ⟨hfound, hlines⟩ := Registry.commandLines_consoleFor hs
    ((rt.pinned w.files).consoleSpec ((rt.pinned w.files).engineIn w.files))
  have hsound : (rt.consoleIn w).1.Sound := Registry.sound_consoleFor hs _
  obtain ⟨hcarries, hkept⟩ := Registry.carries_streamFor hsound hfound rt.execId
  refine ⟨_, _, _, feed_run_of_new hnew w, rfl, ?_, hcarries, hkept.trans hlines, rfl⟩
  show some (rt.engineIn w.files) = some engine
  unfold engineIn
  rw [hnew.engine]
  rfl

/-- What becomes of a new run that writes and leaves something. -/
def Comes (rt : Runtime) (w : World) (engine : EngineKind) (work : Work) (rt' : Runtime) (w' : World) :
    Prop :=
  rt.Equipped rt' ∧ rt'.engine = some engine ∧
    w.Wrote rt.execId rt.script.commandUniqueId work.written work.files w'

theorem interpret_of_new (hs : w.outputs.Sound) (hnew : rt.New .script) (engines : EngineTable) :
    ∃ rt' w', (rt.interpret engines.interpreter).run w =
        ((rt', .ok (rt.workBy engines w.files .script).ending), w') ∧
      rt.Comes w .script (rt.workBy engines w.files .script) rt' w' := by
  obtain ⟨rt', n, fed, hf, hequipped, hengine, hcarries, hlines, -⟩ := feed_of_new hs hnew
  refine ⟨rt', _, interpret_run hf engines.interpreter, hequipped, hengine, ?_⟩
  have hwrote := wrote_perform (w := { fed with files := (rt.execution engines.interpreter w.files).files })
    hcarries (rt.execution engines.interpreter w.files).actions
  refine ⟨hwrote.lines.trans ?_, hwrote.files⟩
  show fed.outputs.commandLines _ ++ _ = _
  rw [hlines]
  rfl

theorem handOver_run {n : Nat} {fed : World} (hf : rt.feed.run w = ((rt', .ok n), fed))
    {handler : Handler} (hh : engines.get? engine = some handler) :
    (rt.handOver engine engines).run w =
      let response := handler (rt'.request engine n)
      let done := ((response.written.forM (Act.writeTo n)).run
        { fed with asked := fed.asked ++ [rt'.request engine n] }).2
      ((rt', .ok response.ending), { done with
        outputs := if response.keepsStream then done.outputs.holdStream n else done.outputs }) := by
  unfold handOver
  rw [hh]
  simp only [Act.run_bind, hf]
  rfl

theorem workBy_of_provided (rt : Runtime) (engines : EngineTable) (files : FileTree)
    (hprovided : engine.isProvided = true) : rt.workBy engines files engine =
      match engines.get? engine with
      | none => ⟨[], .plain .failed ("No engine handler is registered for " ++
          Refusal.inQuotes engine.name ++ " scripts."), files⟩
      | some handler =>
        ⟨(handler (rt.request engine 0)).written, (handler (rt.request engine 0)).ending, files⟩ := by
  cases engine <;> first | rfl | cases hprovided

theorem handOver_of_new (hs : w.outputs.Sound) (hnew : rt.New engine) (hblind : engines.Blind)
    (hprovided : engine.isProvided = true) :
    ∃ rt' w', (rt.handOver engine engines).run w =
        ((rt', .ok (rt.workBy engines w.files engine).ending), w') ∧
      rt.Comes w engine (rt.workBy engines w.files engine) rt' w' := by
  rw [workBy_of_provided rt engines w.files hprovided]
  cases hh : engines.get? engine with
  | none =>
    unfold handOver
    rw [hh]
    exact ⟨rt, _, rfl, .refl rt, hnew.engine, .nothing rfl rfl⟩
  | some handler =>
    obtain ⟨rt', n, fed, hf, hequipped, hengine, hcarries, hlines, hfiles⟩ := feed_of_new hs hnew
    -- the handler is asked the same, but for the number of the stream
    have hresponse : handler (rt'.request engine n) = handler (rt.request engine 0) := by
      have hsame : rt'.request engine n = { rt.request engine 0 with stream := n } := by
        rw [hequipped.request]
        rfl
      rw [hsame]
      exact hblind engine handler hh _ n
    have hrun := handOver_run hf hh
    rw [hresponse] at hrun
    have hasked : w.Wrote rt.execId rt.script.commandUniqueId [] w.files
        { fed with asked := fed.asked ++ [rt'.request engine n] } :=
      ⟨hlines.trans (List.append_nil _).symm, hfiles⟩
    have hwritten := (wrote_forM (w := { fed with asked := fed.asked ++ [rt'.request engine n] })
      hcarries (handler (rt.request engine 0)).written).2
    obtain ⟨hall, hkept⟩ := hasked.trans hwritten
    refine ⟨rt', _, hrun, hequipped, hengine, Eq.trans ?_ hall, hkept.trans hfiles⟩
    dsimp only
    split_ifs
    · exact Registry.commandLines_congr rfl rfl rfl _
    · rfl

/-- What a new run writes comes after the lines that there are, whichever engine it has. -/
theorem execute_of_new (hs : w.outputs.Sound) (hnew : rt.New engine) (hblind : engines.Blind) :
    ∃ rt' w', (rt.execute engine engines).run w =
        ((rt', .ok (rt.workBy engines w.files engine).ending), w') ∧
      rt.Comes w engine (rt.workBy engines w.files engine) rt' w' := by
  cases engine with
  | unknown => exact ⟨rt, _, rfl, .refl rt, hnew.engine, .nothing rfl rfl⟩
  | script => exact interpret_of_new hs hnew engines
  | compiled => exact handOver_of_new hs hnew hblind rfl
  | visual => exact handOver_of_new hs hnew hblind rfl
  | invoke => exact handOver_of_new hs hnew hblind rfl

/-- A new run that is under way comes to its end, and keeps what it left. -/
theorem carryOut_of_new (hs : w.outputs.Sound) (hnew : rt.New engine) (hblind : engines.Blind) :
    ∃ rt' w', (rt.carryOut engines).run w =
        ((rt'.ended (rt.workBy engines w.files engine).ending,
          .ok (rt.workBy engines w.files engine).ending.outcome), w') ∧
      rt.Comes w engine (rt.workBy engines w.files engine) rt' w' := by
  have hengine : rt.engineIn w.files = engine := by
    unfold engineIn
    rw [hnew.engine]
    rfl
  unfold carryOut
  simp only [Act.run_bind, Act.run_get, Act.run_tell, hengine]
  generalize hbegun : ({ w with told := _ } : World) = begun
  have hout : begun.outputs = w.outputs := by rw [← hbegun]
  have hfiles : begun.files = w.files := by rw [← hbegun]
  obtain ⟨rt', w', hrun, hequipped, heng, hlines, hleft⟩ :=
    execute_of_new (hout ▸ hs) hnew hblind
  rw [hfiles] at hrun hlines hleft
  rw [hout] at hlines
  rw [hrun]
  exact ⟨rt', _, rfl, hequipped, heng, hlines, hleft⟩

theorem attempt_of_fresh (hs : w.outputs.Sound) (hblind : engines.Blind) (execId : String)
    (captured : Environment) (script : ScriptData) (context : Context) :
    let rt := fresh execId captured script context
    let begun : Runtime := { rt.pinned w.files with phase := .running }
    ∃ rt' w', (rt.attempt engines).run w =
        ((rt'.ended (rt.work engines w.files).ending, .ok (rt.work engines w.files).ending.outcome), w') ∧
      begun.Comes w (rt.engineIn w.files) (rt.work engines w.files) rt' w' := by
  intro rt begun
  have hnew : begun.New (rt.engineIn w.files) := ⟨by simp [begun], rfl, rfl, rfl⟩
  have hwork : begun.workBy engines w.files (rt.engineIn w.files) = rt.work engines w.files := by
    unfold work
    generalize rt.engineIn w.files = engine
    cases engine <;> rfl
  have hcarried := carryOut_of_new hs hnew hblind
  rw [hwork] at hcarried
  rw [attempt_of_configured rfl]
  exact hcarried

end Runtime

/-! ### The report -/

theorem Output.texts_of_tagged (execId : String) (texts : List String) :
    ((tagged execId texts).filter (·.execId = execId)).map (·.text) = texts := by
  unfold tagged
  rw [List.filter_eq_self.mpr fun line hline => ?_, List.map_map]
  · exact List.map_id texts
  · obtain ⟨text, -, rfl⟩ := List.mem_map.mp hline
    exact decide_eq_true rfl

/-- **A run that had not written before is said to have written what it wrote.** -/
theorem World.Wrote.output_eq {w w' : World} {execId outputId : String} {texts : List String}
    {files : FileTree} (h : w.Wrote execId outputId texts files w')
    (hnew : w.outputs.Untagged outputId execId) :
    ((w'.outputs.findConsole? outputId).map fun n => w'.outputs.linesFor n execId).getD [] =
      texts.flatMap Console.linesOf := by
  have hnone : (w.outputs.commandLines outputId).filter (·.execId = execId) = [] :=
    List.filter_eq_nil_iff.mpr fun line hline => by
      rw [decide_eq_true_eq]
      exact hnew line hline
  rw [Registry.output_eq, h.lines, List.filter_append, hnone, List.nil_append, Output.texts_of_tagged]

namespace Runtime

theorem commandLines_dispose (rt : Runtime) (w : World) (outputId : String) :
    (rt.dispose.run w).2.outputs.commandLines outputId = w.outputs.commandLines outputId ∧
      (rt.dispose.run w).2.files = w.files := by
  obtain ⟨told, hd⟩ := dispose_run rt w
  rw [hd]
  rcases hs : rt.stream with - | ⟨h, n⟩
  · rw [closeStream_of_none hs]
    exact ⟨rfl, rfl⟩
  · rw [closeStream_of_some hs, Registry.releaseStream_fst]
    exact ⟨Registry.commandLines_congr rfl rfl rfl outputId, rfl⟩

end Runtime

/-- The report of a run that came to its end is the one that the request and the files tell. -/
theorem ofRuntime_ended {rt rt' : Runtime} {w w' : World} {engines : EngineTable}
    (hcomes : ({ rt.pinned w.files with phase := .running } : Runtime).Comes w (rt.engineIn w.files)
      (rt.work engines w.files) rt' w')
    (hnew : w.outputs.Untagged rt.script.commandUniqueId rt.execId) :
    Report.ofRuntime (rt'.ended (rt.work engines w.files).ending)
      (rt.work engines w.files).ending.outcome w' = rt.reportOf engines w.files := by
  obtain ⟨hequipped, hengine, hwrote⟩ := hcomes
  have hsame : rt' = { rt with
      engine := some (rt.engineIn w.files)
      console := rt'.console
      stream := rt'.stream
      phase := .running } := by
    rw [← hengine]
    exact hequipped
  generalize rt'.console = console at hsame
  generalize rt'.stream = stream at hsame
  subst hsame
  unfold Report.ofRuntime Runtime.reportOf
  rw [← hwrote.output_eq hnew]
  rfl

/-- The world in which a run is made. -/
def Runtime.madeIn (w : World) (execId : String) (captured : Environment) (script : ScriptData)
    (context : Context) : World := ((Runtime.make execId captured script context).run w).2

theorem runScript_of_attempt {w ran : World} {engines : EngineTable} {execId : String}
    {captured : Environment} {script : ScriptData} {context : Context} {rt' : Runtime}
    {outcome : Outcome}
    (hrun : ((Runtime.fresh execId captured script context).attempt engines).run
      (Runtime.madeIn w execId captured script context) = ((rt', .ok outcome), ran)) :
    ∃ told, (runScript engines execId captured script context).run w =
      (.ok (Report.ofRuntime rt' outcome ran), { (rt'.dispose.run ran).2 with told := told }) := by
  have hmake : (Runtime.make execId captured script context).run w =
      (Runtime.fresh execId captured script context, Runtime.madeIn w execId captured script context) :=
    rfl
  have hanswer : ((Runtime.fresh execId captured script context).run engines).run
      (Runtime.madeIn w execId captured script context) = (.ok (rt', outcome), ran) := by
    unfold Runtime.run Runtime.answered
    rw [Act.run_bind, hrun]
    rfl
  unfold runScript
  rw [Act.run_bind, hmake]
  dsimp only
  rw [Act.run_bind, hanswer]
  exact ⟨_, rfl⟩

/-- **A run of a script in one world.** However the consoles and streams of the world stand, the report is the
one that the request and the files tell, and the lines of the report come after those that the command had. -/
theorem runScript_run {w : World} (hs : w.outputs.Sound) {engines : EngineTable}
    (hblind : engines.Blind) {execId : String} (captured : Environment) {script : ScriptData}
    (context : Context) (hnew : w.outputs.Untagged script.commandUniqueId execId) :
    let rt := Runtime.fresh execId captured script context
    ∃ w', (runScript engines execId captured script context).run w =
        (.ok (rt.reportOf engines w.files), w') ∧
      w.Wrote execId script.commandUniqueId (rt.work engines w.files).written
        (rt.work engines w.files).files w' := by
  intro rt
  -- making the run tells of it, and changes neither the registry nor the files
  have hsMade : (Runtime.madeIn w execId captured script context).outputs.Sound := hs
  obtain ⟨rt', w', hrun, hcomes⟩ :=
    Runtime.attempt_of_fresh hsMade hblind execId captured script context
  obtain ⟨told, hdone⟩ := runScript_of_attempt hrun
  have hreport := ofRuntime_ended hcomes hnew
  obtain ⟨hlines, hkept⟩ := Runtime.commandLines_dispose
    (rt'.ended (rt.work engines w.files).ending) w' script.commandUniqueId
  have hwrote : w.Wrote execId script.commandUniqueId (rt.work engines w.files).written
      (rt.work engines w.files).files w' := ⟨hcomes.2.2.lines, hcomes.2.2.files⟩
  refine ⟨_, hdone.trans (congrArg (fun report => (Except.ok report, _)) hreport), ?_⟩
  exact hwrote.silent hlines hkept

/-! ### Histories of a host -/

namespace Runtime

variable {rt : Runtime} {w : World}

theorem sound_closeStream (hs : w.outputs.Sound) : (rt.closeStream.run w).2.outputs.Sound := by
  rcases hst : rt.stream with - | ⟨h, n⟩
  · rw [closeStream_of_none hst]
    exact hs
  · rw [closeStream_of_some hst]
    exact (Registry.sound_releaseStream hs h).of_same_lists (Registry.sameLists_dropStream _ n)

theorem sound_window (hs : w.outputs.Sound) : (rt.window.run w).2.outputs.Sound :=
  window_keeps (motive := fun _ after => after.outputs.Sound) rt w hs (Registry.sound_consoleFor hs _)

theorem sound_feed (rt : Runtime) (hs : w.outputs.Sound) : (rt.feed.run w).2.outputs.Sound :=
  feed_keeps (motive := fun _ after => after.outputs.Sound) rt w (sound_window hs)
    (fun _ _ h => sound_closeStream h) fun seen _ c h => Registry.sound_streamFor h seen.execId c

theorem sound_attempt (rt : Runtime) (hs : w.outputs.Sound) (engines : EngineTable) :
    ((rt.attempt engines).run w).2.outputs.Sound := by
  by_cases h : rt.phase = .disposed
  · rw [attempt_of_disposed h]
    exact hs
  by_cases hc : rt.phase = .configured
  · rw [attempt_of_configured hc]
    obtain ⟨rt', ending, begun, w', hrun, hbegun, hfed⟩ :=
      exists_carryOut { rt.pinned w.files with phase := .running } w (by simp) engines
    rw [hrun]
    rw [← hbegun] at hs
    rcases hfed with ⟨-, hout⟩ | ⟨n, fed, hf, hq⟩
    · rw [hout]
      exact hs
    · have hfeed := sound_feed { rt.pinned w.files with phase := .running } hs
      rw [hf] at hfeed
      exact hfeed.of_same_lists hq.sameLists
  · rw [attempt_of_ran h hc]
    exact hs

theorem sound_dispose (hs : w.outputs.Sound) : (rt.dispose.run w).2.outputs.Sound := by
  obtain ⟨told, hd⟩ := dispose_run rt w
  rw [hd]
  exact sound_closeStream hs

theorem sound_call (hs : w.outputs.Sound) (c : Call) : ((rt.call c).run w).2.outputs.Sound := by
  cases c with
  | setEventSender | setEventArgs | readEngine | editResults => exact hs
  | outputWindow => exact sound_window hs
  | outputStream => exact sound_feed rt hs
  | run engines => exact sound_attempt rt hs engines
  | dispose => exact sound_dispose hs

theorem sound_drop (hs : w.outputs.Sound) : (rt.drop.run w).2.outputs.Sound := by
  unfold drop
  rcases rt.stream with - | ⟨h, n⟩
  · exact hs
  · exact hs.of_same_lists (Registry.sameLists_dropStream _ n)

end Runtime

theorem sound_runScript {w : World} (hs : w.outputs.Sound) (engines : EngineTable) (execId : String)
    (captured : Environment) (script : ScriptData) (context : Context) :
    ((runScript engines execId captured script context).run w).2.outputs.Sound := by
  unfold runScript
  rw [Act.run_bind]
  generalize hmake : (Runtime.make execId captured script context).run w = made
  have hmade : made.2.outputs.Sound := by
    rw [← hmake]
    exact hs
  have hattempt := Runtime.sound_attempt made.1 hmade engines
  rw [Act.run_bind]
  have hworld : ((made.1.run engines).run made.2).2 = ((made.1.attempt engines).run made.2).2 := rfl
  rw [← hworld] at hattempt
  generalize (made.1.run engines).run made.2 = answer at hattempt
  obtain ⟨answer, w'⟩ := answer
  cases answer with
  | error e => exact Runtime.sound_dispose hattempt
  | ok done => exact Runtime.sound_dispose hattempt

namespace Session

/-- Something that happens at a host in the course of time: the script of a command is run from beginning to
end, there is an operation of the session, or anything at all is asked of the registry. -/
inductive Deed where
  | runScript (engines : EngineTable) (execId : String) (captured : Environment) (script : ScriptData)
    (context : Context)
  | operate (op : Operation)
  | ask (op : Output.Operation)

/-- The session after a deed. -/
def act (s : Session) : Deed → Session
  | .runScript engines execId captured script context =>
    { s with
      world := ((HostedScripts.runScript engines execId captured script context).run s.world).2 }
  | .operate op => s.perform op
  | .ask op => { s with world := { s.world with outputs := s.world.outputs.perform op } }

/-- The session after some deeds. -/
def since (s : Session) (deeds : List Deed) : Session := deeds.foldl act s

theorem sound_perform {s : Session} (hs : s.outputs.Sound) (op : Operation) :
    (s.perform op).outputs.Sound := by
  refine outputs_perform_cases op (fun _ => hs) (fun i c rt _ hrt => ?_) (fun i rt _ hrt => ?_)
    fun o _ _ => Registry.sound_perform hs o
  · rw [perform_call c hrt]
    exact Runtime.sound_call hs c
  · rw [perform_drop hrt]
    exact Runtime.sound_drop hs

theorem sound_act {s : Session} (hs : s.outputs.Sound) (d : Deed) : (s.act d).outputs.Sound := by
  cases d with
  | runScript engines execId captured script context =>
    exact sound_runScript hs engines execId captured script context
  | operate op => exact sound_perform hs op
  | ask op => exact Registry.sound_perform hs op

theorem sound_since {s : Session} (hs : s.outputs.Sound) (deeds : List Deed) :
    (s.since deeds).outputs.Sound := by
  induction deeds generalizing s with
  | nil => exact hs
  | cons d deeds ih => exact ih (sound_act hs d)

/-- The world of a host that starts with nothing listed, after some deeds, with some files in it. -/
def worldSince (w : World) (deeds : List Deed) (files : FileTree) : World :=
  { ((start w).since deeds).world with files := files }

end Session

/-- **Runs do not see each other.** Take two hosts that started with no consoles and streams, whatever has
happened since: scripts were run, runtimes were made, called and let go, and things were asked of the
registry. Then a run of the same script with the same files gives both the same report, if its id tags no line
of its command yet and handlers do not tell streams apart by their numbers. The output in the report are the
lines of what the run wrote; they come after those that the command had, in both worlds. -/
theorem runs_are_isolated (engines : EngineTable) (hblind : engines.Blind) (w₁ w₂ : World)
    (before₁ before₂ : List Session.Deed) (files : FileTree) (execId : String)
    (captured : Environment) (script : ScriptData) (context : Context)
    (h₁ : (Session.worldSince w₁ before₁ files).outputs.Untagged script.commandUniqueId execId)
    (h₂ : (Session.worldSince w₂ before₂ files).outputs.Untagged script.commandUniqueId execId) :
    ∃ report after₁ after₂,
      (runScript engines execId captured script context).run (Session.worldSince w₁ before₁ files) =
        (.ok report, after₁) ∧
      (runScript engines execId captured script context).run (Session.worldSince w₂ before₂ files) =
        (.ok report, after₂) ∧
      report.output = ((Runtime.fresh execId captured script context).work engines
        files).written.flatMap Console.linesOf ∧
      after₁.outputs.commandLines script.commandUniqueId =
        (Session.worldSince w₁ before₁ files).outputs.commandLines script.commandUniqueId ++
          tagged execId report.output ∧
      after₂.outputs.commandLines script.commandUniqueId =
        (Session.worldSince w₂ before₂ files).outputs.commandLines script.commandUniqueId ++
          tagged execId report.output ∧
      after₁.files = after₂.files := by
  have hsound : ∀ w deeds, (Session.worldSince w deeds files).outputs.Sound := fun w deeds =>
    Session.sound_since (s := Session.start w) Registry.sound_empty deeds
  obtain ⟨after₁, hrun₁, hwrote₁⟩ := runScript_run (hsound w₁ before₁) hblind captured context h₁
  obtain ⟨after₂, hrun₂, hwrote₂⟩ := runScript_run (hsound w₂ before₂) hblind captured context h₂
  exact ⟨_, after₁, after₂, hrun₁, hrun₂, rfl, hwrote₁.lines, hwrote₂.lines,
    hwrote₁.files.trans hwrote₂.files.symm⟩

/-- A handler for compiled scripts that writes two lines at once and keeps its stream. -/
def twoLines : EngineTable :=
  { EngineTable.empty with compiled := some fun _ => ⟨["a\nb"], true, .plain .cancelled "done"⟩ }

theorem blind_twoLines : twoLines.Blind := by
  intro engine handler h request n
  cases engine <;> cases h
  rfl

/-- A command with a compiled script. -/
def sampleTool : ScriptData := { (default : ScriptData) with
  scriptPath := ⟨"tool.cs"⟩
  commandUniqueId := "tool" }

/-- A run after another run of the same command, whose stream the handler still holds, has the report of a run
at a new host. -/
theorem runs_are_isolated_sharedConsole :
    ∃ report after₁ after₂,
      (runScript twoLines "second" default sampleTool .empty).run
        (Session.worldSince default [] default) = (.ok report, after₁) ∧
      (runScript twoLines "second" default sampleTool .empty).run
        (Session.worldSince default [.runScript twoLines "first" default sampleTool .empty] default) =
          (.ok report, after₂) ∧
      report.output = ["a", "b"] ∧
      after₂.outputs.commandLines "tool" = tagged "first" ["a", "b"] ++ tagged "second" ["a", "b"] := by
  have h₁ : (Session.worldSince default [] default).outputs.Untagged "tool" "second" := by
    unfold Registry.Untagged
    decide +kernel
  have hlines : (Session.worldSince default [.runScript twoLines "first" default sampleTool .empty]
      default).outputs.commandLines "tool" = tagged "first" ["a", "b"] := by
    decide +kernel
  have h₂ : (Session.worldSince default [.runScript twoLines "first" default sampleTool .empty]
      default).outputs.Untagged "tool" "second" := by
    unfold Registry.Untagged
    rw [hlines]
    decide
  obtain ⟨report, after₁, after₂, hrun₁, hrun₂, houtput, -, hafter, -⟩ :=
    runs_are_isolated twoLines blind_twoLines default default []
      [.runScript twoLines "first" default sampleTool .empty] default "second" default sampleTool .empty
      h₁ h₂
  have hwritten : report.output = ["a", "b"] := by
    rw [houtput]
    decide +kernel
  refine ⟨report, after₁, after₂, hrun₁, hrun₂, hwritten, ?_⟩
  rw [hwritten] at hafter
  exact hafter.trans (congrArg (· ++ tagged "second" ["a", "b"]) hlines)

end HostedScripts
