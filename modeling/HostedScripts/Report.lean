import HostedScripts.Runtime

/-!
# Running and checking scripts for a host

`runScript` makes a run, carries it out, disposes of it and gives a `Report` of what it left.
`checkScript` only compiles a script and gives the diagnostics.
-/

namespace HostedScripts

/-- What the host keeps of a run. -/
structure Report where
  execId : String
  engine : EngineKind
  kind : RunKind
  outcome : Outcome
  message : String
  results : Dictionary String
  output : List String
  logPath : Option Path
  deriving Inhabited

/-- The report of a run that has ended. -/
def Report.ofRuntime (rt : Runtime) (outcome : Outcome) (w : World) : Report where
  execId := rt.execId
  engine := rt.engineIn w.files
  kind := rt.kind
  outcome := outcome
  message := rt.traceMessage
  results := rt.results.getD []
  output := ((w.outputs.findConsole? rt.script.commandUniqueId).map fun n =>
    w.outputs.linesFor n rt.execId).getD []
  logPath := rt.logFile

/-- What is told at the end of a run. -/
def runFinished (ok : Bool) : Event :=
  Runtime.event .debug "run_script finished" [("ok", if ok then "true" else "false")]

/-- Runs the script of a command; `captured` are the facts for a context that gives none. -/
def runScript (engines : EngineTable) (execId : String) (captured : Environment)
    (script : ScriptData) (context : Context) : Act (Except Refusal Report) := do
  let rt ← Runtime.make execId captured script context
  match ← rt.run engines with
  | .error e =>
    let _ ← rt.dispose
    Act.tell [runFinished false]
    return .error e
  | .ok (rt, outcome) =>
    let report := Report.ofRuntime rt outcome (← get)
    let _ ← rt.dispose
    Act.tell [runFinished true]
    return .ok report

/-- Compiles a script and gives what is wrong with it. -/
def checkScript (source : Path) (config : Config) : Act (Except Refusal (List Diagnostic)) := do
  match Executor.check ⟨config.limits, none, none⟩ (← get).files source with
  | .error e => return .error e
  | .ok (found, actions) =>
    Act.tell (actions.flatMap Executor.eventsOf)
    return .ok found

end HostedScripts
