import HostedScripts.Runtime
import HostedScripts.Proofs.Output.Registry

/-! # What the calls of a runtime come to

The parts of a runtime that ask the registry for something are described by equations, one for each way
they can go: `window_of_disposed`, `window_of_listed`, `window_of_not_listed` for the console, and
`feed_of_disposed`, `feed_of_current`, `feed_of_not_current` for the stream. They leave a runtime as it is
but for what it works with (`Equipped`), and give the same to runtimes that ask alike (`AsksAlike.feed`). What
is kept in all the ways they can go is kept by them (`window_keeps`, `feed_keeps`). Whatever a script or a
handler does, a run that is under way is refused nothing (`exists_execute`), comes to its end
(`exists_carryOut`), and changes the lists of the registry only when it asks for its stream
(`Fed`). -/

namespace HostedScripts

open Output (Handle Registry ConsoleSpec)

/-! ### Things done in a world -/

namespace Act

theorem run_bind {α β : Type} (x : Act α) (f : α → Act β) (w : World) :
    (x >>= f).run w = (f (x.run w).1).run (x.run w).2 := rfl

theorem run_get (w : World) : (get : Act World).run w = (w, w) := rfl

theorem run_tell (events : List Event) (w : World) :
    (tell events).run w = ((), { w with told := w.told ++ events }) := rfl

end Act

namespace Runtime

variable {rt rt' : Runtime} {w w' : World}

/-- A run with another engine, console and stream perhaps, and otherwise the same. -/
def Equipped (rt rt' : Runtime) : Prop :=
  rt' = { rt with engine := rt'.engine, console := rt'.console, stream := rt'.stream }

namespace Equipped

theorem refl (rt : Runtime) : rt.Equipped rt := rfl

theorem trans {rt'' : Runtime} (h : rt.Equipped rt') (h' : rt'.Equipped rt'') : rt.Equipped rt'' := by
  unfold Equipped at h h' ⊢
  rw [h'] at ⊢
  rw [h]

theorem execId (h : rt.Equipped rt') : rt'.execId = rt.execId := by rw [h]

theorem phase (h : rt.Equipped rt') : rt'.phase = rt.phase := by rw [h]

theorem execution (h : rt.Equipped rt') : rt'.execution = rt.execution := by
  rw [h]
  rfl

theorem context (h : rt.Equipped rt') : rt'.context = rt.context := by rw [h]

theorem hosts (h : rt.Equipped rt') : rt'.hosts = rt.hosts := by rw [h]

theorem results (h : rt.Equipped rt') : rt'.results = rt.results := by rw [h]

theorem executionResult (h : rt.Equipped rt') : rt'.executionResult = rt.executionResult := by rw [h]

theorem traceMessage (h : rt.Equipped rt') : rt'.traceMessage = rt.traceMessage := by rw [h]

theorem logFile (h : rt.Equipped rt') : rt'.logFile = rt.logFile := by rw [h]

end Equipped

/-! ### The console -/

theorem requireUndisposed_of_disposed (h : rt.phase = .disposed) :
    rt.requireUndisposed = .error (.disposed rt.execId) := if_pos h

theorem requireUndisposed_of_ne (h : rt.phase ≠ .disposed) : rt.requireUndisposed = .ok () := if_neg h

theorem window_of_disposed (h : rt.phase = .disposed) :
    rt.window.run w = ((rt, .error (.disposed rt.execId)), w) := by
  unfold window
  rw [requireUndisposed_of_disposed h]
  rfl

theorem window_of_listed (h : rt.phase ≠ .disposed) {n : Nat}
    (hn : rt.console.bind w.outputs.console? = some n) : rt.window.run w = ((rt, .ok n), w) := by
  unfold window
  rw [requireUndisposed_of_ne h]
  dsimp only
  rw [Act.run_bind, Act.run_get]
  dsimp only
  rw [hn]
  rfl

/-- What a run gets when it asks for the console of its command. -/
def consoleIn (rt : Runtime) (w : World) : Registry × Handle × Nat × List Event :=
  w.outputs.consoleFor ((rt.pinned w.files).consoleSpec ((rt.pinned w.files).engineIn w.files))

theorem window_of_not_listed (h : rt.phase ≠ .disposed)
    (hn : rt.console.bind w.outputs.console? = none) :
    rt.window.run w =
      (({ rt.pinned w.files with console := some (rt.consoleIn w).2.1 }, .ok (rt.consoleIn w).2.2.1),
        { w with outputs := (rt.consoleIn w).1, told := w.told ++ (rt.consoleIn w).2.2.2 }) := by
  unfold window
  rw [requireUndisposed_of_ne h]
  dsimp only
  rw [Act.run_bind, Act.run_get]
  dsimp only
  rw [hn]
  rfl

theorem exists_window (rt : Runtime) (w : World) (h : rt.phase ≠ .disposed) :
    ∃ rt' n w', rt.window.run w = ((rt', .ok n), w') := by
  cases hn : rt.console.bind w.outputs.console? with
  | none => exact ⟨_, _, _, window_of_not_listed h hn⟩
  | some n => exact ⟨_, _, _, window_of_listed h hn⟩

/-- What a runtime and its world are when it has asked for its console: what they were, or equipped with the
console of the command. -/
theorem window_keeps {motive : Runtime → World → Prop} (rt : Runtime) (w : World) (same : motive rt w)
    (asked : motive { rt.pinned w.files with console := some (rt.consoleIn w).2.1 }
      { w with outputs := (rt.consoleIn w).1, told := w.told ++ (rt.consoleIn w).2.2.2 }) :
    motive (rt.window.run w).1.1 (rt.window.run w).2 := by
  by_cases h : rt.phase = .disposed
  · rw [window_of_disposed h]
    exact same
  · cases hn : rt.console.bind w.outputs.console? with
    | none =>
      rw [window_of_not_listed h hn]
      exact asked
    | some n =>
      rw [window_of_listed h hn]
      exact same

theorem equipped_window (rt : Runtime) (w : World) : rt.Equipped (rt.window.run w).1.1 :=
  window_keeps (motive := fun seen _ => rt.Equipped seen) rt w (.refl rt) rfl

/-! ### The stream -/

theorem closeStream_of_none (h : rt.stream = none) :
    rt.closeStream.run w = ({ rt with stream := none }, w) := by
  unfold closeStream
  rw [h]
  rfl

theorem closeStream_of_some {h : Handle} {n : Nat} (hn : rt.stream = some (h, n)) :
    rt.closeStream.run w = ({ rt with stream := none },
      { w with outputs := ((w.outputs.releaseStream h).1).dropStream n }) := by
  unfold closeStream
  rw [hn]
  rfl

theorem closeStream_fst (rt : Runtime) (w : World) :
    (rt.closeStream.run w).1 = { rt with stream := none } := by
  rcases hs : rt.stream with - | ⟨h, n⟩
  · rw [closeStream_of_none hs]
  · rw [closeStream_of_some hs]

theorem openStream_run (rt : Runtime) (console : Nat) (w : World) :
    (rt.openStream console).run w =
      let made := w.outputs.streamFor rt.execId console
      (({ rt with stream := some (made.2.1, made.2.2.1) }, made.2.2.1),
        { w with outputs := made.1, told := w.told ++ made.2.2.2 }) := rfl

theorem feed_of_disposed (h : rt.phase = .disposed) :
    rt.feed.run w = ((rt, .error (.disposed rt.execId)), w) := by
  unfold feed
  rw [Act.run_bind, window_of_disposed h]
  rfl

theorem feed_of_current {n c : Nat} {h : Handle} (hw : rt.window.run w = ((rt', .ok c), w'))
    (hn : rt'.streamTo w'.outputs c = some (h, n)) : rt.feed.run w = ((rt', .ok n), w') := by
  unfold feed
  rw [Act.run_bind, hw]
  simp only [Act.run_bind, Act.run_get, hn]
  rfl

theorem feed_of_not_current {c : Nat} (hw : rt.window.run w = ((rt', .ok c), w'))
    (hn : rt'.streamTo w'.outputs c = none) :
    rt.feed.run w =
      let made := (({ rt' with stream := none } : Runtime).openStream c).run (rt'.closeStream.run w').2
      ((made.1.1, .ok made.1.2), made.2) := by
  have hclose := closeStream_fst rt' w'
  unfold feed
  rw [Act.run_bind, hw]
  simp only [Act.run_bind, Act.run_get, hn]
  rw [← hclose]
  rfl

theorem exists_feed (rt : Runtime) (w : World) (h : rt.phase ≠ .disposed) :
    ∃ rt' n w', rt.feed.run w = ((rt', .ok n), w') := by
  obtain ⟨rt', c, w', hw⟩ := exists_window rt w h
  rcases hn : rt'.streamTo w'.outputs c with - | ⟨k, n⟩
  · exact ⟨_, _, _, feed_of_not_current hw hn⟩
  · exact ⟨_, _, _, feed_of_current hw hn⟩

/-- What a runtime and its world keep that ask for a stream, if they keep it in asking for the console, in
giving up a stream and in making one. -/
theorem feed_keeps {motive : Runtime → World → Prop} (rt : Runtime) (w : World)
    (window : motive (rt.window.run w).1.1 (rt.window.run w).2)
    (closeStream : ∀ seen w, motive seen w → motive { seen with stream := none } (seen.closeStream.run w).2)
    (openStream : ∀ seen w c, motive seen w →
      motive ((seen.openStream c).run w).1.1 ((seen.openStream c).run w).2) :
    motive (rt.feed.run w).1.1 (rt.feed.run w).2 := by
  by_cases h : rt.phase = .disposed
  · rw [window_of_disposed h] at window
    rw [feed_of_disposed h]
    exact window
  · obtain ⟨seen, c, before, hw⟩ := exists_window rt w h
    rw [hw] at window
    cases hn : seen.streamTo before.outputs c with
    | none =>
      rw [feed_of_not_current hw hn]
      exact openStream _ _ c (closeStream seen before window)
    | some s =>
      rw [feed_of_current hw hn]
      exact window

theorem equipped_feed (rt : Runtime) (w : World) : rt.Equipped (rt.feed.run w).1.1 :=
  feed_keeps (motive := fun seen _ => rt.Equipped seen) rt w (equipped_window rt w)
    (fun _ _ h => h.trans rfl) fun _ _ _ h => h.trans rfl

/-! ### Runtimes that ask alike -/

/-- Runtimes that ask for the same console and the same stream, in worlds with the same consoles and streams.
-/
structure AsksAlike (rt : Runtime) (w : World) (rt' : Runtime) (w' : World) : Prop where
  live : rt.phase ≠ .disposed
  live' : rt'.phase ≠ .disposed
  execId : rt'.execId = rt.execId
  console : rt'.console = rt.console
  stream : rt'.stream = rt.stream
  spec : rt'.consoleSpec (rt'.engineIn w'.files) = rt.consoleSpec (rt.engineIn w.files)
  outputs : w'.outputs = w.outputs

/-- What is given to two runtimes is the same. -/
structure GivenAlike (given given' : (Runtime × Except Refusal Nat) × World) : Prop where
  answer : given'.1.2 = given.1.2
  console : given'.1.1.console = given.1.1.console
  stream : given'.1.1.stream = given.1.1.stream
  outputs : given'.2.outputs = given.2.outputs

theorem GivenAlike.refl (given : (Runtime × Except Refusal Nat) × World) : GivenAlike given given :=
  ⟨rfl, rfl, rfl, rfl⟩

theorem GivenAlike.trans {given given' given'' : (Runtime × Except Refusal Nat) × World}
    (h : GivenAlike given given') (h' : GivenAlike given' given'') : GivenAlike given given'' :=
  ⟨h'.answer.trans h.answer, h'.console.trans h.console, h'.stream.trans h.stream,
    h'.outputs.trans h.outputs⟩

theorem GivenAlike.symm {given given' : (Runtime × Except Refusal Nat) × World}
    (h : GivenAlike given given') : GivenAlike given' given :=
  ⟨h.answer.symm, h.console.symm, h.stream.symm, h.outputs.symm⟩

theorem AsksAlike.window (h : rt.AsksAlike w rt' w') : GivenAlike (rt.window.run w) (rt'.window.run w') := by
  have hlisted : rt'.console.bind w'.outputs.console? = rt.console.bind w.outputs.console? := by
    rw [h.console, h.outputs]
  cases hn : rt.console.bind w.outputs.console? with
  | some n =>
    rw [window_of_listed h.live hn, window_of_listed h.live' (hlisted.trans hn)]
    exact ⟨rfl, h.console, h.stream, h.outputs⟩
  | none =>
    have hsame : rt'.consoleIn w' = rt.consoleIn w := by
      show w'.outputs.consoleFor (rt'.consoleSpec (rt'.engineIn w'.files)) =
        w.outputs.consoleFor (rt.consoleSpec (rt.engineIn w.files))
      rw [h.outputs, h.spec]
    rw [window_of_not_listed h.live hn, window_of_not_listed h.live' (hlisted.trans hn), hsame]
    exact ⟨rfl, rfl, h.stream, rfl⟩

theorem closeStream_congr (hstream : rt'.stream = rt.stream) (hout : w'.outputs = w.outputs) :
    (rt'.closeStream.run w').2.outputs = (rt.closeStream.run w).2.outputs := by
  rcases hs : rt.stream with - | ⟨h, n⟩
  · rw [closeStream_of_none hs, closeStream_of_none (hstream.trans hs)]
    exact hout
  · rw [closeStream_of_some hs, closeStream_of_some (hstream.trans hs), hout]

/-- Runtimes that ask alike are given the same. -/
theorem AsksAlike.feed (h : rt.AsksAlike w rt' w') : GivenAlike (rt.feed.run w) (rt'.feed.run w') := by
  obtain ⟨fed, c, before, hw⟩ := exists_window rt w h.live
  obtain ⟨fed', c', before', hw'⟩ := exists_window rt' w' h.live'
  have hwindow := h.window
  have hid := (equipped_window rt w).execId
  have hid' := (equipped_window rt' w').execId
  rw [hw] at hwindow hid
  rw [hw'] at hwindow hid'
  obtain ⟨hanswer, hconsole, hstream, hout⟩ := hwindow
  obtain rfl : c' = c := Except.ok.inj hanswer
  dsimp only at hconsole hstream hout hid hid'
  have hcurrent : fed'.streamTo before'.outputs c' = fed.streamTo before.outputs c' := by
    unfold streamTo
    rw [hstream, hout]
  cases hn : fed.streamTo before.outputs c' with
  | some s =>
    rw [feed_of_current hw hn, feed_of_current hw' (hcurrent.trans hn)]
    exact ⟨rfl, hconsole, hstream, hout⟩
  | none =>
    have hclosed := closeStream_congr hstream hout
    have hsame : fed'.execId = fed.execId := by rw [hid, hid', h.execId]
    rw [feed_of_not_current hw hn, feed_of_not_current hw' (hcurrent.trans hn)]
    simp only [openStream_run, hclosed, hsame]
    exact ⟨rfl, hconsole, rfl, rfl⟩

/-! ### The engine -/

theorem engineIn_of_engine {engine : EngineKind} (h : rt.engine = some engine) (files : FileTree) :
    rt.engineIn files = engine := by
  unfold engineIn
  rw [h]
  rfl

theorem engine_window (h : rt.phase ≠ .disposed) (hdecided : rt.console ≠ none → rt.engine ≠ none) :
    (rt.window.run w).1.1.engine = some (rt.engineIn w.files) := by
  cases hn : rt.console.bind w.outputs.console? with
  | none =>
    rw [window_of_not_listed h hn]
    rfl
  | some n =>
    have hconsole : rt.console ≠ none := fun hnone => by
      rw [hnone] at hn
      cases hn
    obtain ⟨engine, hengine⟩ := Option.ne_none_iff_exists'.mp (hdecided hconsole)
    rw [window_of_listed h hn, engineIn_of_engine hengine]
    exact hengine

theorem engine_feed (h : rt.phase ≠ .disposed) (hdecided : rt.console ≠ none → rt.engine ≠ none) :
    (rt.feed.run w).1.1.engine = some (rt.engineIn w.files) :=
  feed_keeps (motive := fun seen _ => seen.engine = some (rt.engineIn w.files)) rt w
    (engine_window h hdecided) (fun _ _ h => h) fun _ _ _ h => h

/-! ### The script -/

/-- What a world keeps when one text is written, it keeps when several are. -/
theorem forM_writeTo_keeps {motive : World → Prop} {stream : Nat}
    (writeTo : ∀ text w, motive w → motive ((Act.writeTo stream text).run w).2) (h : motive w)
    (texts : List String) : motive ((texts.forM (Act.writeTo stream)).run w).2 := by
  induction texts generalizing w with
  | nil => exact h
  | cons text texts ih => exact ih (writeTo text w h)

/-- **What a world keeps while a script is performed**, if it keeps it when a text is written and when
something is told. -/
theorem perform_keeps {motive : World → Prop} {stream : Nat}
    (writeTo : ∀ text w, motive w → motive ((Act.writeTo stream text).run w).2)
    (tell : ∀ events w, motive w → motive ((Act.tell events).run w).2) (h : motive w)
    (actions : List Action) : motive ((perform stream actions).run w).2 := by
  induction actions generalizing w with
  | nil => exact h
  | cons action actions ih =>
    cases action with
    | said _ text => exact ih (writeTo text w h)
    | opened | told | released => exact ih (tell _ w h)

theorem quiet_writeTo {r : Registry} (h : r.Quiet w.outputs) (stream : Nat) (text : String) :
    r.Quiet ((Act.writeTo stream text).run w).2.outputs :=
  h.trans (Registry.quiet_write w.outputs stream text)

theorem quiet_forM_writeTo {r : Registry} (h : r.Quiet w.outputs) (stream : Nat)
    (texts : List String) : r.Quiet ((texts.forM (Act.writeTo stream)).run w).2.outputs :=
  forM_writeTo_keeps (motive := fun after => r.Quiet after.outputs)
    (fun text _ h => quiet_writeTo h stream text) h texts

theorem quiet_perform {r : Registry} (h : r.Quiet w.outputs) (stream : Nat) (actions : List Action) :
    r.Quiet ((perform stream actions).run w).2.outputs :=
  perform_keeps (motive := fun after => r.Quiet after.outputs) (fun text _ h => quiet_writeTo h stream text)
    (fun _ _ h => h) h actions

/-- What becomes of a runtime and a registry when a script is run: the runtime asks for its stream, or it does
not, and after that the lists of the registry stay. -/
def Fed (rt : Runtime) (w : World) (rt' : Runtime) (w' : World) : Prop :=
  (rt' = rt ∧ w'.outputs = w.outputs) ∨
    ∃ n fed, rt.feed.run w = ((rt', .ok n), fed) ∧ fed.outputs.Quiet w'.outputs

theorem Fed.equipped {begun : World} (hf : Fed rt begun rt' w') : rt.Equipped rt' := by
  rcases hf with ⟨rfl, -⟩ | ⟨n, fed, hf, -⟩
  · exact .refl rt'
  · have he := equipped_feed rt begun
    rw [hf] at he
    exact he

theorem interpret_of_feed {n : Nat} (hf : rt.feed.run w = ((rt', .ok n), w')) (interpreter : Interpreter) :
    ∃ w'', (rt.interpret interpreter).run w = ((rt', .ok (rt'.execution interpreter w'.files).ending), w'') ∧
      w'.outputs.Quiet w''.outputs := by
  unfold interpret
  rw [Act.run_bind, hf]
  refine ⟨_, rfl, quiet_perform ?_ n _⟩
  exact .refl w'.outputs

theorem handOver_of_feed {n : Nat} (hf : rt.feed.run w = ((rt', .ok n), w')) {engine : EngineKind}
    {engines : EngineTable} {handler : Handler} (hh : engines.get? engine = some handler) :
    ∃ ending w'', (rt.handOver engine engines).run w = ((rt', .ok ending), w'') ∧
      w'.outputs.Quiet w''.outputs := by
  unfold handOver
  rw [hh]
  simp only [Act.run_bind, hf]
  refine ⟨_, _, rfl, ?_⟩
  have hkept : ∀ {r r' : Registry} (keeps : Bool), r.Quiet r' →
      r.Quiet (if keeps then r'.holdStream n else r') := fun {r r'} keeps hq => by
    split_ifs
    · exact hq.trans (Registry.quiet_holdStream r' n)
    · exact hq
  refine hkept _ (quiet_forM_writeTo ?_ n _)
  exact .refl w'.outputs

theorem exists_handOver (rt : Runtime) (w : World) (h : rt.phase ≠ .disposed) (engine : EngineKind)
    (engines : EngineTable) :
    ∃ rt' ending w', (rt.handOver engine engines).run w = ((rt', .ok ending), w') ∧
      rt.Fed w rt' w' := by
  obtain ⟨rt', n, fed, hf⟩ := exists_feed rt w h
  cases hh : engines.get? engine with
  | none =>
    unfold handOver
    rw [hh]
    exact ⟨_, _, _, rfl, Or.inl ⟨rfl, rfl⟩⟩
  | some handler =>
    obtain ⟨ending, w', hrun, hq⟩ := handOver_of_feed hf hh
    exact ⟨_, _, _, hrun, Or.inr ⟨n, fed, hf, hq⟩⟩

/-- **A run that has not been disposed of is refused nothing on the way.** -/
theorem exists_execute (rt : Runtime) (w : World) (h : rt.phase ≠ .disposed) (engine : EngineKind)
    (engines : EngineTable) :
    ∃ rt' ending w', (rt.execute engine engines).run w = ((rt', .ok ending), w') ∧
      rt.Fed w rt' w' := by
  cases engine with
  | unknown => exact ⟨rt, _, _, rfl, Or.inl ⟨rfl, rfl⟩⟩
  | script =>
    obtain ⟨rt', n, fed, hf⟩ := exists_feed rt w h
    obtain ⟨w', hrun, hq⟩ := interpret_of_feed hf engines.interpreter
    exact ⟨rt', _, w', hrun, Or.inr ⟨n, fed, hf, hq⟩⟩
  | compiled => exact exists_handOver rt w h .compiled engines
  | visual => exact exists_handOver rt w h .visual engines
  | invoke => exact exists_handOver rt w h .invoke engines

/-- A run that is under way ends as its engine says; besides, something is told. -/
theorem carryOut_eq (rt : Runtime) (w : World) (h : rt.phase ≠ .disposed) (engines : EngineTable) :
    ∃ told told' rt' ending done,
      (rt.execute (rt.engineIn w.files) engines).run { w with told := told } = ((rt', .ok ending), done) ∧
      rt.Fed { w with told := told } rt' done ∧
      (rt.carryOut engines).run w =
        ((rt'.ended ending, .ok ending.outcome), { done with told := told' }) := by
  unfold carryOut
  simp only [Act.run_bind, Act.run_get, Act.run_tell]
  generalize w.told ++ _ = told
  obtain ⟨rt', ending, done, hrun, hfed⟩ :=
    exists_execute rt { w with told := told } h (rt.engineIn w.files) engines
  rw [hrun]
  exact ⟨told, _, rt', ending, done, hrun, hfed, rfl⟩

theorem exists_carryOut (rt : Runtime) (w : World) (h : rt.phase ≠ .disposed) (engines : EngineTable) :
    ∃ rt' ending begun w', (rt.carryOut engines).run w = ((rt'.ended ending, .ok ending.outcome), w') ∧
      begun.outputs = w.outputs ∧ rt.Fed begun rt' w' := by
  obtain ⟨told, told', rt', ending, done, -, hfed, hrun⟩ := carryOut_eq rt w h engines
  exact ⟨rt', ending, { w with told := told }, _, hrun, rfl, hfed⟩

theorem attempt_of_disposed (h : rt.phase = .disposed) (engines : EngineTable) (w : World) :
    (rt.attempt engines).run w = ((rt, .error (.disposed rt.execId)), w) := by
  unfold attempt
  rw [requireUndisposed_of_disposed h]
  rfl

theorem attempt_of_ran (h : rt.phase ≠ .disposed) (hc : rt.phase ≠ .configured)
    (engines : EngineTable) (w : World) :
    (rt.attempt engines).run w = ((rt, .error (.alreadyRan rt.execId)), w) := by
  unfold attempt
  rw [requireUndisposed_of_ne h]
  simp only [if_neg hc]
  rfl

theorem attempt_of_configured (h : rt.phase = .configured) (engines : EngineTable) (w : World) :
    (rt.attempt engines).run w =
      (({ rt.pinned w.files with phase := .running } : Runtime).carryOut engines).run w := by
  have hne : rt.phase ≠ .disposed := by rw [h]; decide
  unfold attempt
  rw [requireUndisposed_of_ne hne]
  dsimp only
  rw [if_pos h, Act.run_bind, Act.run_get]

theorem run_of_attempt {engines : EngineTable} {outcome : Outcome}
    (h : (rt.attempt engines).run w = ((rt', .ok outcome), w')) :
    (rt.run engines).run w = (.ok (rt', outcome), w') := by
  unfold run answered
  rw [Act.run_bind, h]
  rfl

/-! ### The end -/

/-- What is left of a run that is disposed of. -/
def disposed (rt : Runtime) : Runtime :=
  { rt with
    stream := none
    console := none
    results := none
    hosts := .absent
    context := rt.context.dispose
    phase := .disposed }

theorem dispose_run (rt : Runtime) (w : World) :
    ∃ told, rt.dispose.run w = (rt.disposed, { (rt.closeStream.run w).2 with told := told }) := by
  unfold dispose
  rw [Act.run_bind, closeStream_fst, Act.run_bind, Act.run_tell]
  by_cases h : rt.phase = .disposed
  · exact ⟨_, by simp [h]; rfl⟩
  · exact ⟨_, by simp [h]; rfl⟩

end Runtime

end HostedScripts
