import HostedScripts.Proofs.Environment
import HostedScripts.Proofs.Runtime.Agreement
import HostedScripts.Proofs.Runtime.Engine
import HostedScripts.Proofs.Runtime.Variables

/-! # The facts of a runtime

A runtime has the facts of its session from the moment at which it is made. They are those that its context
gives, or else those of the process at that time (`World.facts`), and no call changes them (`Selects.call`). All
that is shown of them is read off there (`Runtime.Shows`): the variable of the script, the versions, and what is
written at the top of a new console.

* `Session.kept_after`: what every call of a runtime keeps is kept by the operations of a session.
* `Runtime.makes_call`: a call makes at most one console, with the versions of the runtime.
* `facts_are_frozen` puts it together. -/

namespace HostedScripts

open HostedScripts.Language
open Output (Registry ConsoleSpec Console)

/-! ### What consoles were made with -/

namespace Output.Registry

/-- What the consoles were made with, in the order of their numbers. -/
def specs (r : Registry) : List ConsoleSpec := r.made.map (·.spec)

/-- A registry in which there may be one more console than before. -/
def HasMade (spec : ConsoleSpec) (r r' : Registry) : Prop := r'.specs = r.specs ∨ r'.specs = r.specs ++ [spec]

variable {r r' r'' : Registry} {spec : ConsoleSpec}

theorem HasMade.then_same (h : HasMade spec r r') (hsame : r''.specs = r'.specs) : HasMade spec r r'' := by
  unfold HasMade
  rwa [hsame]

theorem specs_modifyConsole (r : Registry) (n : Nat) {f : Console → Console} (hf : ∀ c, (f c).spec = c.spec) :
    (r.modifyConsole n f).specs = r.specs := by
  cases n with
  | zero => rfl
  | succ i =>
    show (r.made.modify i f).map (·.spec) = r.made.map (·.spec)
    refine List.ext_getElem? fun j => ?_
    rw [List.getElem?_map, List.getElem?_map, List.getElem?_modify]
    cases r.made[j]? with
    | none => rfl
    | some c =>
      simp only [Option.map_eq_map, Option.map_some]
      split_ifs
      · rw [hf]
      · rfl

theorem specs_write (r : Registry) (stream : Nat) (text : String) : (r.write stream text).1.specs = r.specs := by
  unfold write
  split
  · rfl
  · split_ifs
    · exact specs_modifyConsole r _ fun c => spec_write c _ text
    · rfl

theorem hasMade_consoleFor (r : Registry) (spec : ConsoleSpec) : HasMade spec r (r.consoleFor spec).1 := by
  have hnew : (r.makeConsole spec).1.specs = r.specs ++ [spec] := List.map_append
  unfold consoleFor
  dsimp only
  split
  · split
    · exact Or.inl rfl
    · exact Or.inr hnew
  · exact Or.inr hnew

end Output.Registry

namespace Runtime

open Output.Registry (HasMade)

variable {rt rt' new : Runtime} {w w' : World}

theorem specs_writeTo (stream : Nat) (text : String) (w : World) :
    ((Act.writeTo stream text).run w).2.outputs.specs = w.outputs.specs :=
  w.outputs.specs_write stream text

theorem specs_forM_writeTo (stream : Nat) (texts : List String) (w : World) :
    ((texts.forM (Act.writeTo stream)).run w).2.outputs.specs = w.outputs.specs :=
  forM_writeTo_keeps (motive := fun after => after.outputs.specs = w.outputs.specs)
    (fun text after h => (specs_writeTo stream text after).trans h) rfl texts

theorem specs_perform (stream : Nat) (actions : List Action) (w : World) :
    ((perform stream actions).run w).2.outputs.specs = w.outputs.specs :=
  perform_keeps (motive := fun after => after.outputs.specs = w.outputs.specs)
    (fun text after h => (specs_writeTo stream text after).trans h) (fun _ _ h => h) rfl actions

/-- What a runtime makes its console with in a world. -/
def ownSpec (rt : Runtime) (w : World) : ConsoleSpec := rt.consoleSpec (rt.engineIn w.files)

theorem makes_window (rt : Runtime) (w : World) :
    HasMade (rt.ownSpec w) w.outputs (rt.window.run w).2.outputs :=
  window_keeps (motive := fun _ after => HasMade (rt.ownSpec w) w.outputs after.outputs) rt w (Or.inl rfl)
    (w.outputs.hasMade_consoleFor (rt.ownSpec w))

theorem specs_closeStream (rt : Runtime) (w : World) :
    (rt.closeStream.run w).2.outputs.specs = w.outputs.specs := by
  unfold Output.Registry.specs
  rw [(closeStream_silent rt w).2.1]

theorem makes_feed (rt : Runtime) (w : World) : HasMade (rt.ownSpec w) w.outputs (rt.feed.run w).2.outputs :=
  feed_keeps (motive := fun _ after => HasMade (rt.ownSpec w) w.outputs after.outputs) rt w (makes_window rt w)
    (fun seen before h => h.then_same (specs_closeStream seen before)) fun _ _ _ h => h.then_same rfl

/-- A run asks for its stream and writes to it, or does nothing with consoles. -/
theorem makes_execute (h : rt.phase ≠ .disposed) (engine : EngineKind) (engines : EngineTable) (w : World) :
    HasMade (rt.ownSpec w) w.outputs ((rt.execute engine engines).run w).2.outputs := by
  have hfeed := makes_feed rt w
  obtain ⟨fed, n, fedWorld, hf⟩ := exists_feed rt w h
  rw [hf] at hfeed
  have hhandOver : HasMade (rt.ownSpec w) w.outputs ((rt.handOver engine engines).run w).2.outputs := by
    cases hh : engines.get? engine with
    | none =>
      unfold handOver
      rw [hh]
      exact Or.inl rfl
    | some handler =>
      rw [handOver_run hf hh]
      refine hfeed.then_same ?_
      dsimp only
      split_ifs
      · exact specs_forM_writeTo n _ _
      · exact specs_forM_writeTo n _ _
  cases engine with
  | unknown => exact Or.inl rfl
  | script =>
    show HasMade _ _ ((rt.interpret engines.interpreter).run w).2.outputs
    rw [interpret_run hf]
    exact hfeed.then_same (specs_perform n _ _)
  | compiled => exact hhandOver
  | visual => exact hhandOver
  | invoke => exact hhandOver

/-- **A call makes at most one console**, with the versions of the runtime. -/
theorem makes_call (rt : Runtime) (c : Call) (w : World) :
    HasMade (rt.ownSpec w) w.outputs ((rt.call c).run w).2.outputs := by
  cases c with
  | setEventSender | setEventArgs | readEngine | editResults => exact Or.inl rfl
  | outputWindow => exact makes_window rt w
  | outputStream => exact makes_feed rt w
  | dispose =>
    obtain ⟨told, hcall⟩ := call_dispose rt w
    rw [hcall]
    exact Or.inl (specs_closeStream rt w)
  | run engines =>
    by_cases hphase : rt.phase = .configured
    · let begun := rt.begun w.files
      let before : World := { w with told := w.told ++ [begun.beginning (begun.engineIn w.files)] }
      have hne : begun.phase ≠ .disposed := fun h => by cases h
      have hmade := makes_execute hne (begun.engineIn w.files) engines before
      obtain ⟨fed, ending, done, hrun, -⟩ := dispatched_execute hne (begun.engineIn w.files) engines before
      rw [hrun] at hmade
      have hcarried : (begun.carryOut engines).run w =
          ((fed.ended ending, .ok ending.outcome), { done with told := done.told ++ [finishing ending] }) :=
        carryOut_of_execute hrun
      have hattempt : (rt.attempt engines).run w = (begun.carryOut engines).run w :=
        attempt_of_configured hphase engines w
      unfold call
      rw [Act.run_bind, hattempt, hcarried]
      exact hmade
    · rw [run_of_ne_configured hphase]
      exact Or.inl rfl

end Runtime

/-! ### What is kept in a session -/

namespace Session

variable {s : Session} {i : Nat} {p : Runtime → Prop}

theorem length_runtimes_perform (s : Session) (op : Operation) :
    s.runtimes.length ≤ (s.perform op).runtimes.length := by
  cases op with
  | make script context =>
    exact (List.prefix_append s.runtimes _).length_le
  | call j c =>
    cases hj : s.runtime? j with
    | none => rw [perform_call_of_none c hj]
    | some rt => rw [perform_call c hj, List.length_set]
  | drop j =>
    cases hj : s.runtime? j with
    | none => rw [perform_drop_of_none hj]
    | some rt => rw [perform_drop hj, List.length_set]
  | ask op =>
    by_cases hp : s.permits op = true
    · rw [perform_ask hp]
    · rw [perform_ask_of_not hp]
  | change files process => exact le_rfl

theorem kept_perform (hcall : ∀ rt c w, p rt → p ((rt.call c).run w).1.1) (hi : i < s.runtimes.length)
    (h : ∀ rt, s.runtime? i = some rt → p rt) (op : Operation) :
    ∀ rt, (s.perform op).runtime? i = some rt → p rt := by
  intro rt hrt
  rcases runtime?_perform s op i with hsame | ⟨hlast, -⟩ | ⟨c, own, -, hown, hcalled⟩ | ⟨-, hgone⟩
  · exact h rt (hsame.symm.trans hrt)
  · exact absurd hlast hi.ne
  · rw [hcalled] at hrt
    cases hrt
    exact hcall own c s.world (h own hown)
  · rw [hgone] at hrt
    cases hrt

/-- **What every call of a runtime keeps is kept in a session**, whatever else happens there. -/
theorem kept_after (hcall : ∀ rt c w, p rt → p ((rt.call c).run w).1.1) (hi : i < s.runtimes.length)
    (h : ∀ rt, s.runtime? i = some rt → p rt) (ops : List Operation) :
    ∀ rt, (s.after ops).runtime? i = some rt → p rt := by
  induction ops generalizing s with
  | nil => exact h
  | cons op ops ih =>
    exact ih (hi.trans_le (length_runtimes_perform s op)) (kept_perform hcall hi h op)

end Session

/-! ### What is shown of the facts -/

/-- The facts that a process gives: those of its variables, with the version of the built-in interpreter
unless they name another. -/
def World.facts (w : World) : Environment :=
  (Environment.capture w.session fun name => w.process.lookup name).adding [.engineVersion interpreterVersion]

/-- The version of an engine. -/
def Environment.versionOf (e : Environment) : EngineKind → String
  | .script => e.engineVersion
  | .compiled | .visual | .invoke | .unknown => e.runtimeVersion

/-- What is written at the top of a console. -/
def Environment.heading (e : Environment) (engine : EngineKind) : String :=
  e.runtimeVersion ++ ":" ++ e.versionOf engine ++ ":" ++ e.hostVersion

namespace Runtime

/-- A runtime that shows some facts: to whoever asks for them, in the versions of engines, to its script, and
in the headings of consoles. -/
structure Shows (facts : Environment) (rt : Runtime) : Prop where
  environment : rt.environment = facts
  version : ∀ engine, rt.versionOf engine = facts.versionOf engine
  sight : (rt.executor.scope rt.sourceFile rt.vars).held? Global.environment = some (.ofValue facts.toValue)
  heading : ∀ w, (rt.ownSpec w).appVersion = facts.heading (rt.engineIn w.files)

theorem shows_of_environment {facts : Environment} {rt : Runtime} (h : rt.environment = facts) :
    rt.Shows facts := by
  subst h
  have hversion : ∀ engine, rt.versionOf engine = rt.environment.versionOf engine := fun engine => by
    cases engine <;> rfl
  refine ⟨rfl, hversion, rt.held?_scope_run Global.environment, fun w => ?_⟩
  unfold Environment.heading
  rw [← hversion]
  rfl

end Runtime

/-- **Facts cannot be hidden and do not change.** Whatever variables facts are taken from and whatever is added to
them: the version of the interpreter is the first that is not empty, of other facts with one key the last counts,
and what a script is told has exactly the five names and the keys of other facts, where nothing hides one of the
five.

A runtime that is made in a session has the facts of its context, or else those of the process as it is then.
Whatever happens after that, to the runtime or to others, to the files or to the variables of the process: all that
it shows are these facts, its script is carried out in a scope in which they are seen, and a console that one of
its calls makes has them in its heading. -/
theorem facts_are_frozen :
    (∀ (session : String) (lookup : String → Option String) (additions : List Environment.Addition),
      let e := (Environment.capture session lookup).adding additions
      e.engineVersion = Environment.firstKnown
        ((lookup "SCRIPTHOST_ENGINE_VERSION").getD "" :: additions.filterMap (·.version?)) ∧
      (∀ key value, Dictionary.get? key e.extra = some value ↔
        ∃ before later, additions.filterMap (·.extra?) = before ++ (key, value) :: later ∧
          key ∉ later.map (·.1)) ∧
      ∃ entries, e.toValue = .map entries ∧ e.Tells entries) ∧
    ∀ (s : Session) (script : ScriptData) (context : Context) (ops : List Session.Operation),
      let facts := context.environment.getD s.world.facts
      let s' := (s.perform (.make script context)).after ops
      ∀ rt, s'.runtime? s.runtimes.length = some rt →
        rt.Shows facts ∧
        (∀ text engines, rt.phase = .configured → rt.engineIn s'.world.files = .script →
          s'.world.files.readText rt.sourceFile = .ok text →
          ∃ rt' outcome w', (rt.run engines).run s'.world = (.ok (rt', outcome), w') ∧
            rt.ComesTo engines.interpreter s'.world.files text outcome rt'.traceMessage) ∧
        ∀ c, ∃ spec : ConsoleSpec, spec.appVersion = facts.heading (rt.engineIn s'.world.files) ∧
          Registry.HasMade spec s'.outputs (s'.perform (.call s.runtimes.length c)).outputs := by
  refine ⟨fun session lookup additions => ?_, fun s script context ops => ?_⟩
  · intro e
    have hincreasing : Dictionary.Increasing e.extra :=
      Environment.increasing_extra_adding (e := .capture session lookup) List.Pairwise.nil additions
    have he := Environment.adding_eq (.capture session lookup) additions
    refine ⟨congrArg (·.engineVersion) he, fun key value => ?_, e.tells_toValue hincreasing⟩
    have hextra : e.extra = Dictionary.ofEntries (additions.filterMap (·.extra?)) := congrArg (·.extra) he
    rw [hextra, Dictionary.get?_ofEntries, Dictionary.get?_reverse_eq_some_iff]
  · intro facts s' rt hrt
    obtain ⟨new, hruntimes, hfacts, hnew⟩ : ∃ new : Runtime,
        (s.perform (.make script context)).runtimes = s.runtimes ++ [some new] ∧ new.environment = facts ∧
          new.Selects new := ⟨_, rfl, rfl, rfl, rfl, rfl, fun h => absurd rfl h⟩
    -- the number is the one that the runtime got when it was made, and no other runtime gets it
    have hmade : ∀ rt, (s.perform (.make script context)).runtime? s.runtimes.length = some rt →
        new.Selects rt := by
      intro rt hrt
      unfold Session.runtime? at hrt
      rw [hruntimes, List.getElem?_concat_length] at hrt
      cases hrt
      exact hnew
    have hlength : s.runtimes.length < (s.perform (.make script context)).runtimes.length := by
      rw [hruntimes, List.length_append]
      exact Nat.lt_succ_self _
    have hselects := Session.kept_after (fun _ c w h => h.call c w) hlength hmade ops rt hrt
    have hshows := Runtime.shows_of_environment (hselects.environment.trans hfacts)
    refine ⟨hshows, fun text engines hphase hengine htext =>
      Runtime.run_of_script hphase hengine htext engines, fun c => ⟨_, hshows.heading s'.world, ?_⟩⟩
    rw [Session.perform_call c hrt]
    exact Runtime.makes_call rt c s'.world

/-- A session whose process names the version of the host. -/
def versionedSession : Session :=
  ⟨{ argumentsWorld with process := [("SCRIPTHOST_HOST_VERSION", "2025.1")] }, [], [], false⟩

/-- The process names another version, and an event is set. -/
def disturbances : List Session.Operation :=
  [.change argumentsWorld.files [("SCRIPTHOST_HOST_VERSION", "2026.1")], .call 0 (.setEventArgs (some .null)),
    .call 0 (.setEventSender none)]

/-- The runtime goes by the version that the process named when it was made, and so does its console. -/
theorem facts_are_frozen_disturbances :
    let s' := (versionedSession.perform (.make (.forScript ⟨"a.rhai"⟩) .empty)).after disturbances
    s'.world.facts.hostVersion = "2026.1" ∧
      ∃ rt, s'.runtime? 0 = some rt ∧ rt.phase = .configured ∧ rt.engineIn s'.world.files = .script ∧
        s'.world.files.readText rt.sourceFile = .ok "__args__" ∧ rt.environment.hostVersion = "2025.1" ∧
        (∃ rt' outcome w', (rt.run .empty).run s'.world = (.ok (rt', outcome), w') ∧
          rt.ComesTo .standard s'.world.files "__args__" outcome rt'.traceMessage) ∧
        ∃ spec : ConsoleSpec, spec.appVersion = "0.1.0:rhai-1.23:2025.1" ∧
          Registry.HasMade spec s'.outputs (s'.perform (.call 0 .outputWindow)).outputs := by
  intro s'
  obtain ⟨rt, hrt, hphase, hundecided, hsource⟩ : ∃ rt, s'.runtime? 0 = some rt ∧ rt.phase = .configured ∧
      rt.engine = none ∧ rt.sourceFile = ⟨"a.rhai"⟩ := ⟨_, rfl, rfl, rfl, rfl⟩
  have htext : s'.world.files.readText rt.sourceFile = .ok "__args__" := by
    rw [hsource]
    exact readText_argumentsWorld
  have hkind : ScriptKind.ofPath? rt.sourceFile = some .script := by
    rw [hsource]
    decide +kernel
  have hengine := Runtime.engineIn_of_readText hundecided hkind htext
  obtain ⟨hshows, hrun, hconsole⟩ :=
    facts_are_frozen.2 versionedSession (.forScript ⟨"a.rhai"⟩) .empty disturbances rt hrt
  obtain ⟨spec, hspec, hmade⟩ := hconsole .outputWindow
  refine ⟨by decide +kernel, rt, hrt, hphase, hengine, htext, ?_, hrun _ .empty hphase hengine htext, spec, ?_,
    hmade⟩
  · rw [hshows.environment]
    decide +kernel
  · rw [hspec, hengine]
    decide +kernel

end HostedScripts
