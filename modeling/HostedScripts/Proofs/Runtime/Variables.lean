import HostedScripts.Proofs.Executor.Scope
import HostedScripts.Proofs.Runtime.Check

/-! # The variables of a run

A run gives its script the variables of every script, its own, and the constants of its host. `provided` is the
table of all of them, name by name; no other name is bound (`isSome_provided`). -/

namespace HostedScripts

open HostedScripts.Language

namespace Language.Datum

theorem ofValues_eq (vs : List Value) : ofValues vs = vs.map ofValue := by
  induction vs with
  | nil => rfl
  | cons v vs ih => rw [ofValues, ih, List.map_cons]

theorem ofEntries_eq (entries : List (String × Value)) :
    ofEntries entries = entries.map fun entry => (entry.1, ofValue entry.2) := by
  induction entries with
  | nil => rfl
  | cons entry entries ih => rw [ofEntries, ih, List.map_cons]

end Language.Datum

/-- The names that scripts rely on. -/
def Global.documented : List String :=
  [host, startingApplication, vars, file, name, arguments, message, result, results, eventArgs, elements,
    execId, configMode, debugMode, fromUi, environment]

namespace Runtime

/-- What a run provides under a name. -/
def provided (rt : Runtime) : String → Option Datum
  | "__host__" => some (.fixed (rt.hostHandle.elim .unit .host))
  | "__uicontrolledapp__" => rt.hosts.uiControlledApplication.map fun h =>
      .fixed (.host ⟨.uiControlledApplication, h⟩)
  | "__vars__" => some (.map (rt.context.config.vars.map fun entry => (entry.1, .ofValue entry.2)))
  | "__file__" => some (.string rt.sourceFile.text)
  | "__name__" => some (.fixed (.string "__main__"))
  | "__args__" => some (.array (rt.context.arguments.map .string))
  | "__message__" => some (.string "")
  | "__result__" => some (.int 0)
  | "__results__" => some (.map ((rt.results.getD []).map fun entry => (entry.1, .string entry.2)))
  | "__eventargs__" => rt.context.eventArgs.map .ofValue
  | "__elements__" => some (.array ((rt.context.command.elim [] (·.selectedElements)).map .int))
  | "__execid__" => some (.string rt.execId)
  | "__configmode__" => some (.bool rt.context.configMode)
  | "__debugmode__" => some (.bool rt.context.debugMode)
  | "__fromui__" => some (.bool rt.context.executedFromUi)
  | "__env__" => some (.ofValue rt.environment.toValue)
  | _ => none

theorem isSome_provided (rt : Runtime) (name : String) :
    (rt.provided name).isSome ↔ name ∈ Global.documented ∧
      (name = "__eventargs__" → rt.context.eventArgs.isSome) ∧
      (name = "__uicontrolledapp__" → rt.hosts.uiControlledApplication.isSome) := by
  fun_cases provided rt name
  case case17 =>
    have hname : name ∉ Global.documented := by
      simp_all [Global.documented, Global.host, Global.startingApplication, Global.vars, Global.file,
        Global.name, Global.arguments, Global.message, Global.result, Global.results, Global.eventArgs,
        Global.elements, Global.execId, Global.configMode, Global.debugMode, Global.fromUi,
        Global.environment]
    simp [hname]
  all_goals simp +decide

theorem increasing_vars (rt : Runtime) : Dictionary.Increasing rt.vars :=
  Dictionary.increasing_ofEntries _

theorem get?_optional {α β : Type _} (name key : String) (f : α → β) (o : Option α) :
    Dictionary.get? name (o.toList.map fun a => (key, f a)) = if name = key then o.map f else none := by
  cases o with
  | none => simp [Dictionary.get?]
  | some a => simp [Dictionary.get?]

theorem get?_vars (rt : Runtime) (name : String) :
    Dictionary.get? name rt.vars =
      (if name = "__results__" then rt.results.map .ofTextMap else none).or
        ((if name = "__eventargs__" then rt.context.eventArgs else none).or (Dictionary.get? name
          [("__env__", rt.environment.toValue),
            ("__fromui__", .bool rt.context.executedFromUi),
            ("__debugmode__", .bool rt.context.debugMode),
            ("__configmode__", .bool rt.context.configMode),
            ("__execid__", .string rt.execId),
            ("__elements__", .array ((rt.context.command.elim [] (·.selectedElements)).map .int)),
            ("__args__", .ofTexts rt.context.arguments),
            ("__vars__", .map rt.context.config.vars)])) := by
  have hresults := get?_optional name "__results__" Value.ofTextMap rt.results
  have hargs := get?_optional name "__eventargs__" (fun v : Value => v) rt.context.eventArgs
  rw [Option.map_id'] at hargs
  have helements : rt.context.command.toList.flatMap (·.selectedElements) =
      rt.context.command.elim [] (·.selectedElements) := by
    cases rt.context.command <;> simp
  have hreverse {α : Type} (key : String) (f : α → Value) (o : Option α) :
      (o.toList.map fun a => (key, f a)).reverse = o.toList.map fun a => (key, f a) := by
    cases o <;> rfl
  rw [← hresults, ← hargs, vars, Dictionary.get?_ofEntries]
  simp only [List.reverse_append, Dictionary.get?_append, hreverse, helements]
  rfl

theorem held?_scope_run (rt : Runtime) (name : String) :
    (rt.executor.scope rt.sourceFile rt.vars).held? name = rt.provided name := by
  have hstarting := get?_optional name "__uicontrolledapp__"
    (fun h => Datum.fixed (.host ⟨.uiControlledApplication, h⟩)) rt.hosts.uiControlledApplication
  rw [Executor.held?_scope _ _ rt.increasing_vars, get?_vars, Executor.constants, Dictionary.get?_append,
    executor, hstarting]
  fun_cases provided rt name
  case case9 =>
    -- the only name that every script has and that a run may give as well
    cases rt.results <;>
      simp [Dictionary.get?, Executor.defaults, Datum.ofValue, Value.ofTextMap, Datum.ofEntries_eq]
  case case17 => simp_all [Dictionary.get?, Executor.defaults]
  all_goals
    simp [Dictionary.get?, Executor.defaults, Datum.ofValue, Value.ofTexts, Datum.ofEntries_eq,
      Datum.ofValues_eq]

end Runtime

/-- **What a script sees.** A name stands for the constant of the host with that name, or else for what the
caller gives, or else for what every script has; only the constants may not be changed. A run binds exactly
the documented names, with the values of its context, and it is in this scope that its script is carried out.
-/
theorem script_sees :
    (∀ (x : Executor) (source : Path) (vars : Dictionary Value), Dictionary.Increasing vars →
      ∀ name, (x.scope source vars).held? name = (Dictionary.get? name x.constants).or
          (((Dictionary.get? name vars).map .ofValue).or (Dictionary.get? name (Executor.defaults source))) ∧
        ∀ d, (x.scope source vars).held? name = some d →
          (d.isFixed = true ↔ name ∈ x.constants.map (·.1))) ∧
    (∀ (rt : Runtime) (name : String),
      (rt.executor.scope rt.sourceFile rt.vars).held? name = rt.provided name ∧
        ((rt.provided name).isSome ↔ name ∈ Global.documented ∧
          (name = "__eventargs__" → rt.context.eventArgs.isSome) ∧
          (name = "__uicontrolledapp__" → rt.hosts.uiControlledApplication.isSome))) ∧
    ∀ (rt : Runtime) (w : World) (text : String) (engines : EngineTable),
      rt.phase = .configured → rt.engineIn w.files = .script →
      w.files.readText rt.sourceFile = .ok text →
        ∃ rt' outcome w', (rt.run engines).run w = (.ok (rt', outcome), w') ∧
          rt.ComesTo engines.interpreter w.files text outcome rt'.traceMessage := by
  refine ⟨fun x source vars hvars name => ⟨?_, fun d hd => ?_⟩, fun rt name => ⟨?_, ?_⟩, ?_⟩
  · exact x.held?_scope source hvars name
  · exact Executor.isFixed_iff hvars hd
  · exact rt.held?_scope_run name
  · exact rt.isSome_provided name
  · intro rt w text engines hphase hengine htext
    exact Runtime.run_of_script hphase hengine htext engines

/-- A caller that gives variables with the names of a constant and of a default. -/
def spoofing : Dictionary Value := [("__host__", .string "mine"), ("__message__", .string "hello")]

theorem script_sees_spoofing :
    let x : Executor := ⟨argumentsRun.executor.limits, none, none⟩
    Dictionary.Increasing spoofing ∧
      (x.scope ⟨"a.rhai"⟩ spoofing).held? "__host__" = some (.fixed .unit) ∧
      (x.scope ⟨"a.rhai"⟩ spoofing).held? "__message__" = some (.string "hello") ∧
      ("__host__" ∈ x.constants.map (·.1)) ∧
      argumentsRun.phase = .configured ∧ argumentsRun.engineIn argumentsWorld.files = .script ∧
      argumentsWorld.files.readText argumentsRun.sourceFile = .ok "__args__" ∧
      ∃ rt' outcome w', (argumentsRun.run .empty).run argumentsWorld = (.ok (rt', outcome), w') ∧
        argumentsRun.ComesTo .standard argumentsWorld.files "__args__" outcome rt'.traceMessage := by
  intro x
  have hvars : Dictionary.Increasing spoofing := by
    unfold Dictionary.Increasing
    decide +kernel
  have hphase : argumentsRun.phase = .configured := rfl
  have hkind : ScriptKind.ofPath? argumentsRun.sourceFile = some .script := by decide +kernel
  have hengine : argumentsRun.engineIn argumentsWorld.files = .script :=
    Runtime.engineIn_of_readText rfl hkind readText_argumentsWorld
  have hsees := script_sees.1 x ⟨"a.rhai"⟩ spoofing hvars
  have hhost : (x.scope ⟨"a.rhai"⟩ spoofing).held? "__host__" = some (.fixed .unit) := by
    rw [(hsees "__host__").1]
    rfl
  refine ⟨hvars, hhost, ?_, ((hsees "__host__").2 _ hhost).mp rfl, hphase, hengine, readText_argumentsWorld,
    script_sees.2.2 argumentsRun argumentsWorld _ .empty hphase hengine readText_argumentsWorld⟩
  rw [(hsees "__message__").1]
  rfl

end HostedScripts
