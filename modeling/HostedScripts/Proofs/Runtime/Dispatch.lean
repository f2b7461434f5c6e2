import HostedScripts.Proofs.Runtime.Attached
import HostedScripts.Proofs.Runtime.Engine

/-! # Who runs a script

A host offers handlers for engines; a table takes those that a host may provide and refuses the others
(`EngineTable.offered`). Of a table a run only looks at the handler for its own engine (`run_congr`). A handler
that is there is asked once, for what the runtime runs, with the stream that the runtime keeps
(`run_of_handler`); without one nothing is done but told (`run_of_nobody`); and the built-in interpreter runs
scripts of its own kind and no others. -/

namespace HostedScripts

open Output (Handle Registry)

/-! ### Tables of handlers -/

namespace EngineTable

/-- The table after a handler is offered; a handler that is refused leaves it as it is. -/
def offer (t : EngineTable) (offered : EngineKind × Handler) : EngineTable :=
  match t.register offered.1 offered.2 with
  | .ok t' => t'
  | .error _ => t

/-- The table with an interpreter after some handlers have been offered. -/
def offered (interpreter : Interpreter) (offers : List (EngineKind × Handler)) : EngineTable :=
  offers.foldl offer (.empty interpreter)

variable {t : EngineTable} {interpreter : Interpreter} {engine other : EngineKind} {handler : Handler}

theorem register_of_not_isProvided (h : engine.isProvided = false) (t : EngineTable) (handler : Handler) :
    t.register engine handler = .error (.engineReserved engine) := by
  cases engine <;> first | rfl | cases h

theorem get?_of_not_isProvided (h : engine.isProvided = false) (t : EngineTable) : t.get? engine = none := by
  cases engine <;> first | rfl | cases h

theorem register_of_isProvided (h : engine.isProvided = true) (t : EngineTable) (handler : Handler) :
    t.register engine handler = .ok (t.offer (engine, handler)) := by
  cases engine <;> first | rfl | cases h

theorem get?_offer (h : engine.isProvided = true) (t : EngineTable) (handler : Handler) (other : EngineKind) :
    (t.offer (engine, handler)).get? other = if other = engine then some handler else t.get? other := by
  cases engine <;> first | (cases other <;> rfl) | cases h

theorem offer_of_not_isProvided (h : engine.isProvided = false) (t : EngineTable) (handler : Handler) :
    t.offer (engine, handler) = t := by
  unfold offer
  rw [register_of_not_isProvided h]

theorem offered_concat (offers : List (EngineKind × Handler)) (o : EngineKind × Handler) :
    offered interpreter (offers ++ [o]) = (offered interpreter offers).offer o := List.foldl_concat ..

theorem interpreter_offer (t : EngineTable) (o : EngineKind × Handler) :
    (t.offer o).interpreter = t.interpreter := by
  obtain ⟨kind, handler⟩ := o
  cases kind <;> rfl

theorem interpreter_offered (interpreter : Interpreter) (offers : List (EngineKind × Handler)) :
    (offered interpreter offers).interpreter = interpreter := by
  induction offers using List.reverseRecOn with
  | nil => rfl
  | append_singleton offers o ih => rw [offered_concat, interpreter_offer, ih]

/-- The last handler that was offered counts. -/
theorem get?_offered (offers : List (EngineKind × Handler)) (h : engine.isProvided = true) :
    (offered interpreter offers).get? engine = ((offers.filter (·.1 = engine)).getLast?).map (·.2) := by
  induction offers using List.reverseRecOn with
  | nil => cases engine <;> rfl
  | append_singleton offers o ih =>
    obtain ⟨kind, handler⟩ := o
    rw [offered_concat, List.filter_append]
    by_cases hkind : kind = engine
    · subst hkind
      rw [get?_offer h, if_pos rfl, List.filter_cons_of_pos (by simp), List.filter_nil, List.getLast?_concat]
      rfl
    · rw [List.filter_cons_of_neg (by simpa using hkind), List.filter_nil, List.append_nil, ← ih]
      by_cases hprovided : kind.isProvided = true
      · rw [get?_offer hprovided, if_neg (Ne.symm hkind)]
      · rw [offer_of_not_isProvided (Bool.eq_false_iff.mpr hprovided)]

theorem mem_registered_iff : engine ∈ t.registered ↔ (t.get? engine).isSome = true := by
  unfold registered
  rw [List.mem_filter]
  exact and_iff_right (by cases engine <;> decide)

theorem isProvided_of_get? (h : t.get? engine = some handler) : engine.isProvided = true := by
  by_contra hnot
  rw [get?_of_not_isProvided (Bool.eq_false_iff.mpr hnot)] at h
  cases h

end EngineTable

/-! ### Runs -/

namespace Runtime

variable {rt rt' : Runtime} {w w' : World} {engines others : EngineTable} {engine : EngineKind}
  {handler : Handler}

/-- A run looks at the handler for its own engine only, or at the interpreter. -/
theorem run_congr (h : others.get? (rt.engineIn w.files) = engines.get? (rt.engineIn w.files))
    (hinterpreter : rt.engineIn w.files = .script → others.interpreter = engines.interpreter) :
    (rt.call (.run others)).run w = (rt.call (.run engines)).run w := by
  by_cases hphase : rt.phase = .configured
  · have hengine : (rt.begun w.files).engineIn w.files = rt.engineIn w.files := rfl
    have hexecute : (rt.begun w.files).execute (rt.engineIn w.files) others =
        (rt.begun w.files).execute (rt.engineIn w.files) engines := by
      generalize rt.engineIn w.files = engine at h hinterpreter
      cases engine with
      | unknown => rfl
      | script =>
        unfold execute
        rw [hinterpreter rfl]
      | compiled | visual | invoke =>
        unfold execute handOver
        dsimp only
        rw [h]
    have hcarried : ((rt.begun w.files).carryOut others).run w = ((rt.begun w.files).carryOut engines).run w := by
      unfold carryOut
      simp only [Act.run_bind, Act.run_get, hengine, hexecute]
    have hattempt : (rt.attempt others).run w = (rt.attempt engines).run w := by
      rw [attempt_of_configured hphase, attempt_of_configured hphase]
      exact hcarried
    unfold call
    rw [Act.run_bind, Act.run_bind, hattempt]
  · rw [run_of_ne_configured hphase, run_of_ne_configured hphase]

theorem merged_of_ending (rt : Runtime) (e : Ending) : Merged id rt.results e.results (rt.ended e).results :=
  rt.merged_ended (by simp)

theorem toldByExecutor_forM_writeTo (stream : Nat) (texts : List String) (w : World) :
    ((texts.forM (Act.writeTo stream)).run w).2.toldByExecutor = w.toldByExecutor :=
  forM_writeTo_keeps (motive := fun after => after.toldByExecutor = w.toldByExecutor)
    (fun text after h => (toldByExecutor_writeTo stream text after).trans h) rfl texts

theorem run_of_execute {ending : Ending} {done : World} (hphase : rt.phase = .configured)
    (hrun : ((rt.begun w.files).execute (rt.engineIn w.files) engines).run
      { w with told := w.told ++ [(rt.begun w.files).beginning (rt.engineIn w.files)] } =
        ((rt', .ok ending), done)) :
    (rt.call (.run engines)).run w =
      ((rt'.ended ending, .ended ending.outcome), { done with told := done.told ++ [finishing ending] }) := by
  have hcarried : ((rt.begun w.files).carryOut engines).run w =
      ((rt'.ended ending, .ok ending.outcome), { done with told := done.told ++ [finishing ending] }) :=
    carryOut_of_execute hrun
  have hattempt : (rt.attempt engines).run w =
      ((rt'.ended ending, .ok ending.outcome), { done with told := done.told ++ [finishing ending] }) := by
    rw [attempt_of_configured hphase]
    exact hcarried
  unfold call
  rw [Act.run_bind, hattempt]
  rfl

theorem execute_of_isProvided (h : engine.isProvided = true) (engines : EngineTable) :
    rt.execute engine engines = rt.handOver engine engines := by
  cases engine <;> first | rfl | cases h

/-- What a run leaves that nobody runs. -/
def unhandled (engine : EngineKind) : Ending :=
  if engine = .unknown then .plain .succeeded ""
  else .plain .failed ("No engine handler is registered for " ++ Refusal.inQuotes engine.name ++ " scripts.")

theorem handOver_of_none (hnone : engines.get? engine = none) (w : World) :
    (rt.handOver engine engines).run w = ((rt, .ok (.plain .failed
      ("No engine handler is registered for " ++ Refusal.inQuotes engine.name ++ " scripts."))),
      { w with told := w.told ++ [event .warn "no handler registered" [("engine", engine.name)]] }) := by
  unfold handOver
  rw [hnone]
  rfl

theorem execute_of_nobody (rt : Runtime) (hscript : engine ≠ .script) (hnone : engines.get? engine = none) (w : World) :
    ∃ e : Event, e.target ≠ "scripthost::executor" ∧ (rt.execute engine engines).run w =
      ((rt, .ok (unhandled engine)), { w with told := w.told ++ [e] }) := by
  cases engine with
  | script => exact absurd rfl hscript
  | unknown => exact ⟨_, target_runtime_ne .info _ _, rfl⟩
  | compiled | visual | invoke => exact ⟨_, target_runtime_ne .warn _ _, handOver_of_none hnone w⟩

/-- Without a handler a run only tells something. -/
theorem run_of_nobody (hphase : rt.phase = .configured) (hscript : rt.engineIn w.files ≠ .script)
    (hnone : engines.get? (rt.engineIn w.files) = none) :
    ∃ w' : World, (rt.call (.run engines)).run w = (((rt.begun w.files).ended (unhandled (rt.engineIn w.files)),
      .ended (unhandled (rt.engineIn w.files)).outcome), w') ∧
      w' = { w with told := w'.told } ∧ w'.toldByExecutor = w.toldByExecutor := by
  obtain ⟨e, he, hrun⟩ := execute_of_nobody (rt.begun w.files) hscript hnone
    { w with told := w.told ++ [(rt.begun w.files).beginning (rt.engineIn w.files)] }
  refine ⟨_, run_of_execute hphase hrun, rfl, ?_⟩
  dsimp only
  rw [List.append_assoc, List.append_assoc]
  refine World.toldByExecutor_of_other fun told htold => ?_
  rcases List.mem_append.mp htold with hfirst | hlater
  · rw [List.mem_singleton.mp hfirst]
    exact target_runtime_ne .info _ _
  · rcases List.mem_append.mp hlater with hsecond | hlast
    · rwa [List.mem_singleton.mp hsecond]
    · rw [List.mem_singleton.mp hlast]
      exact target_runtime_ne .info _ _

/-- **A handler that is there is asked once**, with the stream that the run keeps. -/
theorem handOver_asks (hs : w.outputs.Sound) (hphase : rt.phase ≠ .disposed)
    (hhandler : engines.get? engine = some handler) :
    ∃ fed n k w', fed.stream = some (k, n) ∧ rt.Equipped fed ∧
      (rt.handOver engine engines).run w = ((fed, .ok (handler (rt.request engine n)).ending), w') ∧
      rt.Renews w.outputs fed w'.outputs ∧ w'.asked = w.asked ++ [rt.request engine n] ∧
      w'.files = w.files ∧ w'.toldByExecutor = w.toldByExecutor := by
  obtain ⟨fed, n, world, hf⟩ := exists_feed rt w hphase
  obtain ⟨⟨k, hstream⟩, hrenews⟩ := feed_renews hs hf
  have hequipped := equipped_feed rt w
  have hidle := idle_feed rt w
  have htold := toldByExecutor_feed rt w
  rw [hf] at hequipped hidle htold
  replace hequipped : rt.Equipped fed := hequipped
  obtain ⟨ending, w', hrun, hquiet⟩ := handOver_of_feed hf hhandler
  have hdone := hrun.symm.trans (handOver_run hf hhandler)
  rw [hequipped.request] at hdone
  cases hdone
  have hkept := hrenews.then_sameLists hs hquiet.sameLists
  exact ⟨fed, n, k, _, hstream, hequipped, hrun, hkept,
    (asked_forM_writeTo n _ _).trans (congrArg (· ++ [rt.request engine n]) hidle.2),
    (files_forM_writeTo n _ _).trans hidle.1, (toldByExecutor_forM_writeTo n _ _).trans htold⟩

/-- A run with a handler keeps what that leaves. -/
theorem run_of_handler (hs : w.outputs.Sound) (hphase : rt.phase = .configured)
    (hhandler : engines.get? (rt.engineIn w.files) = some handler) :
    ∃ fed n k w', fed.stream = some (k, n) ∧ (rt.begun w.files).Equipped fed ∧
      (rt.call (.run engines)).run w =
        ((fed.ended (handler (rt.request (rt.engineIn w.files) n)).ending,
          .ended (handler (rt.request (rt.engineIn w.files) n)).ending.outcome), w') ∧
      rt.Renews w.outputs fed w'.outputs ∧ w'.asked = w.asked ++ [rt.request (rt.engineIn w.files) n] ∧
      w'.files = w.files ∧ w'.toldByExecutor = w.toldByExecutor := by
  have hne : (rt.begun w.files).phase ≠ .disposed := fun h => by cases h
  have hbegun := announced w .info "running script"
    [("engine", (rt.engineIn w.files).name), ("runtime_type", (rt.begun w.files).kind.name),
      ("refresh_engine", if (rt.begun w.files).context.refreshEngine then "true" else "false")]
  obtain ⟨fed, n, k, done, hstream, hequipped, hrun, hrenews, hasked, hfiles, htold⟩ :=
    handOver_asks (w := { w with told := w.told ++ [(rt.begun w.files).beginning (rt.engineIn w.files)] }) hs hne
      hhandler
  rw [← execute_of_isProvided (EngineTable.isProvided_of_get? hhandler)] at hrun
  have hdone := announced done .info "script finished"
    [("result", (handler (rt.request (rt.engineIn w.files) n)).ending.outcome.name),
      ("exit_code", toString ((handler (rt.request (rt.engineIn w.files) n)).ending.exitCode.getD 0).toInt)]
  exact ⟨fed, n, k, _, hstream, hequipped, run_of_execute hphase hrun, ⟨hrenews.later, hrenews.stream⟩,
    hasked, hfiles, hdone.told.trans (htold.trans hbegun.told)⟩

end Runtime

/-! ### Runtimes of a session -/

namespace Session

/-- What becomes of a runtime of a session that can begin, and of the world: it comes to its end with what its
engine leaves. A handler is asked exactly if the engine is registered, and then it is asked once, with the
stream of the run and for what the runtime runs. Without a handler the run fails with the name of the engine,
and nothing is done; the interpreter runs its own scripts; and without an engine the run succeeds, and nothing
is done. -/
structure Dispatch (s : Session) (engines : EngineTable) (i : Nat) (rt rt' : Runtime) (ending : Ending) (w' : World) :
    Prop where
  ends : (rt.call (.run engines)).run s.world = ((rt', .ended ending.outcome), w')
  left : rt'.left = (some ending.outcome, ending.message, ending.logFile)
  results : Merged id rt.results ending.results rt'.results
  asked : w'.asked ≠ s.world.asked ↔ rt.engineIn s.world.files ∈ engines.registered
  handled : ∀ handler, engines.get? (rt.engineIn s.world.files) = some handler → ∃ k n c,
    rt'.stream = some (k, n) ∧ w'.outputs.streamAt? n = some ⟨rt.execId, c⟩ ∧
    (∀ j l m, j ≠ i → s.streamOf j = some (l, m) → m ≠ n) ∧
    let request : Request := ⟨rt.engineIn s.world.files, rt.sourceFile, rt.script, rt.context.arguments, rt.execId,
      rt.hostHandle, n⟩
    ending = (handler request).ending ∧ w'.asked = s.world.asked ++ [request] ∧
      w'.files = s.world.files ∧ w'.toldByExecutor = s.world.toldByExecutor
  unhandled : (rt.engineIn s.world.files).isProvided = true → engines.get? (rt.engineIn s.world.files) = none →
    ending = .plain .failed
      ("No engine handler is registered for " ++ Refusal.inQuotes (rt.engineIn s.world.files).name ++ " scripts.") ∧
    rt'.console = rt.console ∧ rt'.stream = rt.stream ∧ w' = { s.world with told := w'.told } ∧
    w'.toldByExecutor = s.world.toldByExecutor
  interpreted : rt.engineIn s.world.files = .script →
    ending = (rt.execution engines.interpreter s.world.files).ending ∧
    w'.files = (rt.execution engines.interpreter s.world.files).files ∧ w'.asked = s.world.asked ∧
    w'.toldByExecutor = s.world.toldByExecutor ++ (rt.execution engines.interpreter s.world.files).told
  skipped : rt.engineIn s.world.files = .unknown →
    ending = .plain .succeeded "" ∧ rt'.console = rt.console ∧ rt'.stream = rt.stream ∧
    w' = { s.world with told := w'.told } ∧ w'.toldByExecutor = s.world.toldByExecutor

variable {s : Session} {engines : EngineTable} {i : Nat} {rt : Runtime} {handler : Handler}

theorem asked_iff_of_none {w' : World} (hnone : engines.get? (rt.engineIn s.world.files) = none)
    (hasked : w'.asked = s.world.asked) :
    w'.asked ≠ s.world.asked ↔ rt.engineIn s.world.files ∈ engines.registered := by
  rw [EngineTable.mem_registered_iff, hnone, hasked]
  simp

theorem dispatch_of_script (hphase : rt.phase = .configured) (hscript : rt.engineIn s.world.files = .script) :
    ∃ rt' ending w', Dispatch s engines i rt rt' ending w' := by
  have hnone : engines.get? (rt.engineIn s.world.files) = none := by
    rw [hscript]
    exact EngineTable.get?_of_not_isProvided rfl engines
  obtain ⟨before, fed, ending, done, w', hbefore, hafter, hrun, hfed, hdispatched⟩ :=
    Runtime.dispatched_run hphase engines s.world
  rw [hscript] at hdispatched
  have hresults : fed.results = rt.results := hfed.equipped.results
  refine ⟨fed.ended ending, ending, w', hrun, rfl, ?_, asked_iff_of_none hnone hdispatched.2.2.1, fun handler h => ?_,
    fun hprovided => ?_, fun _ => hdispatched, fun hunknown => ?_⟩
  · rw [← hresults]
    exact fed.merged_of_ending _
  · rw [hnone] at h
    cases h
  · rw [hscript] at hprovided
    cases hprovided
  · rw [hscript] at hunknown
    cases hunknown

theorem dispatch_of_nobody (hphase : rt.phase = .configured) (hscript : rt.engineIn s.world.files ≠ .script)
    (hnone : engines.get? (rt.engineIn s.world.files) = none) :
    ∃ rt' ending w', Dispatch s engines i rt rt' ending w' := by
  obtain ⟨w', hrun, hworld, htold⟩ := Runtime.run_of_nobody hphase hscript hnone
  have hasked : w'.asked = s.world.asked := by rw [hworld]
  refine ⟨_, Runtime.unhandled (rt.engineIn s.world.files), w', hrun, rfl,
    (rt.begun s.world.files).merged_of_ending _, asked_iff_of_none hnone hasked, fun handler h => ?_,
    fun hprovided _ => ⟨if_neg fun hunknown => ?_, rfl, rfl, hworld, htold⟩, fun h => absurd h hscript,
    fun hunknown => ⟨if_pos hunknown, rfl, rfl, hworld, htold⟩⟩
  · rw [hnone] at h
    cases h
  · rw [hunknown] at hprovided
    cases hprovided

theorem dispatch_of_handler (ha : s.Attached) (hrt : s.runtime? i = some rt) (hphase : rt.phase = .configured)
    (hhandler : engines.get? (rt.engineIn s.world.files) = some handler) :
    ∃ rt' ending w', Dispatch s engines i rt rt' ending w' := by
  have hprovided := EngineTable.isProvided_of_get? hhandler
  have hne : ∀ {other : EngineKind}, other.isProvided = false → rt.engineIn s.world.files ≠ other := by
    rintro other hother rfl
    rw [hother] at hprovided
    cases hprovided
  obtain ⟨fed, n, k, w', hstream, hequipped, hrun, hrenews, hasked, hfiles, htold⟩ :=
    Runtime.run_of_handler (w := s.world) ha.sound hphase hhandler
  have hresults : fed.results = rt.results := hequipped.results
  obtain ⟨⟨c, hc⟩, hapart⟩ := ha.own hrt hrenews hstream
  refine ⟨_, (handler (rt.request (rt.engineIn s.world.files) n)).ending, w', hrun, rfl, ?_, ?_, fun other h => ?_,
    fun _ hnone => ?_, fun hscript => absurd hscript (hne rfl), fun hunknown => absurd hunknown (hne rfl)⟩
  · rw [← hresults]
    exact fed.merged_of_ending _
  · rw [EngineTable.mem_registered_iff, hhandler, hasked]
    simp
  · cases hhandler.symm.trans h
    exact ⟨k, n, c, hstream, hc, hapart, rfl, hasked, hfiles, htold⟩
  · rw [hhandler] at hnone
    cases hnone

/-- **Every run that can begin comes to its end**, by the handler of its engine, by the built-in interpreter
or by nobody. -/
theorem exists_dispatch (ha : s.Attached) (hrt : s.runtime? i = some rt) (hphase : rt.phase = .configured)
    (engines : EngineTable) : ∃ rt' ending w', Dispatch s engines i rt rt' ending w' := by
  obtain hnone | ⟨handler, hhandler⟩ := (engines.get? (rt.engineIn s.world.files)).eq_none_or_eq_some
  · by_cases hscript : rt.engineIn s.world.files = .script
    · exact dispatch_of_script hphase hscript
    · exact dispatch_of_nobody hphase hscript hnone
  · exact dispatch_of_handler ha hrt hphase hhandler

end Session

/-- **Who runs a script.** Take the handlers that a host has offered, accepted or refused, and any runtime
after any operations of a session, with a careful host or not, and any interpreter. No table holds a handler
for the built-in engine or for no engine; offering one is refused and changes nothing; and for every other
engine the last handler that was offered is there. A runtime that cannot begin is refused and asks nobody. One
that can begin comes to its end, and what is left is its outcome, its message, its log and its results, merged
with those that there were; of the table it looks at the interpreter or at the handler for its own engine
only, and a handler is asked exactly if that engine is registered. That handler is asked once, for what the
runtime runs, with the stream that the runtime keeps, which was made for its run and is no other runtime's.
Where there is no handler the run fails with the name of the engine; no console is opened and no stream. The
interpreter runs scripts of its own kind and no others; without an engine the run succeeds, and nothing is
done. -/
theorem dispatch_law (interpreter : Interpreter) (offers : List (EngineKind × Handler)) (w : World)
    (isCareful : Bool) (ops : List Session.Operation) :
    let engines := EngineTable.offered interpreter offers
    let s := (Session.start w isCareful).after ops
    (.script ∉ engines.registered ∧ .unknown ∉ engines.registered ∧
      engines.get? .script = none ∧ engines.get? .unknown = none) ∧
    (∀ engine handler, engine.isProvided = false →
      engines.register engine handler = .error (.engineReserved engine) ∧
        EngineTable.offered interpreter (offers ++ [(engine, handler)]) = engines) ∧
    (∀ engine handler, engine.isProvided = true →
      engines.register engine handler = .ok (EngineTable.offered interpreter (offers ++ [(engine, handler)]))) ∧
    (∀ engine, engine.isProvided = true →
      engines.get? engine = ((offers.filter (·.1 = engine)).getLast?).map (·.2)) ∧
    ∀ i rt, s.runtime? i = some rt →
      (rt.phase ≠ .configured → (rt.call (.run engines)).run s.world = ((rt, .refused rt.whyIdle), s.world)) ∧
      (rt.phase = .configured → ∃ rt' ending w', s.Dispatch engines i rt rt' ending w') ∧
      ∀ others : EngineTable, (rt.engineIn s.world.files = .script → others.interpreter = interpreter) →
        others.get? (rt.engineIn s.world.files) = engines.get? (rt.engineIn s.world.files) →
          (rt.call (.run others)).run s.world = (rt.call (.run engines)).run s.world := by
  intro engines s
  have ha : s.Attached := Session.attached_after (Session.attached_start w isCareful) ops
  have hreserved : ∀ {engine : EngineKind}, engine.isProvided = false → engines.get? engine = none :=
    fun h => EngineTable.get?_of_not_isProvided h engines
  have hunregistered : ∀ {engine : EngineKind}, engine.isProvided = false → engine ∉ engines.registered := by
    intro engine h hmem
    rw [EngineTable.mem_registered_iff, hreserved h] at hmem
    cases hmem
  have hinterpreter : engines.interpreter = interpreter := EngineTable.interpreter_offered interpreter offers
  refine ⟨⟨hunregistered rfl, hunregistered rfl, rfl, rfl⟩, fun engine handler h => ⟨?_, ?_⟩,
    fun engine handler h => ?_, fun engine h => EngineTable.get?_offered offers h, fun i rt hrt =>
      ⟨fun hphase => Runtime.run_of_ne_configured hphase engines s.world,
        fun hphase => Session.exists_dispatch ha hrt hphase engines, fun others hsame h =>
          Runtime.run_congr h fun hscript => (hsame hscript).trans hinterpreter.symm⟩⟩
  · exact EngineTable.register_of_not_isProvided h engines handler
  · rw [EngineTable.offered_concat]
    exact EngineTable.offer_of_not_isProvided h engines handler
  · rw [EngineTable.offered_concat]
    exact EngineTable.register_of_isProvided h engines handler

end HostedScripts
