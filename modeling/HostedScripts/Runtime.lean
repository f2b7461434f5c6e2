import HostedScripts.Engines
import HostedScripts.Context

/-!
# One run from beginning to end

A `Runtime` is one run of the script of a command: it is configured, runs at most once, and is disposed
of. It works in a `World` of files and consoles. Which engine runs the script is decided when it is
first asked for, and never again. The runtime holds its output stream; the consoles belong to the host,
and of its console the runtime only remembers a handle.

* `outputWindow` and `outputStream` give the console and the stream of the run.
* `run` runs the script and keeps what it leaves.
* `dispose` gives up everything that belongs to the host.
-/

namespace HostedScripts

open Output (Handle Registry ConsoleSpec)

/-- What runs work in: the files, the consoles and streams of the host, what has been told to those
who watch and what handlers have been asked, both in order, the environment variables of the
process, the id of the session, for environments that name none, and what the ids of runs are made
from: a seed, and how many have been given. -/
structure World where
  files : FileTree
  outputs : Registry
  told : List Event
  asked : List Request
  process : List (String × String)
  session : String
  seed : Nat
  issued : Nat
  deriving Inhabited

/-- The digits of the id of a run. -/
def idDigits : Nat := 32

/-- The id of the run with a number. -/
def idText (seed n : Nat) : String := String.ofList (Text.hexDigits idDigits (seed + n))

/-- Something done in a world. -/
abbrev Act := StateM World

namespace Act

/-- Tells some events. -/
def tell (events : List Event) : Act Unit := modify fun w => { w with told := w.told ++ events }

/-- Does something to the consoles and streams. -/
def withOutputs {α : Type} (f : Registry → Registry × α) : Act α := do
  let w ← get
  let (outputs, a) := f w.outputs
  set { w with outputs := outputs }
  return a

/-- Writes a text to a stream. -/
def writeTo (stream : Nat) (text : String) : Act Unit := do
  tell (← withOutputs fun r => r.write stream text)

/-- The id of a new run. -/
def freshId : Act String := do
  let w ← get
  set { w with issued := w.issued + 1 }
  return idText w.seed w.issued

/-- The facts of the session as the process gives them. -/
def captured : Act Environment := do
  let w ← get
  let found := Environment.capture w.session fun name => w.process.lookup name
  return found.withEngineVersion interpreterVersion

end Act

/-- Where a run is. -/
inductive Phase where
  | created
  | configured
  | running
  | succeeded
  | cancelled
  | failed
  | disposed
  deriving DecidableEq, Inhabited

namespace Phase

/-- The name of a phase. -/
def name : Phase → String
  | created => "Created"
  | configured => "Configured"
  | running => "Running"
  | succeeded => "Succeeded"
  | cancelled => "Cancelled"
  | failed => "Failed"
  | disposed => "Disposed"

/-- The phase of a run that ended. -/
def ofOutcome : Outcome → Phase
  | .succeeded => succeeded
  | .cancelled => cancelled
  | .failed => failed

end Phase

/-- The hosts that a run may use. -/
structure Hosts where
  application : Option Host
  controlledApplication : Option Host
  uiApplication : Option Host
  uiControlledApplication : Option Host
  deriving Inhabited

namespace Hosts

/-- No hosts. -/
def absent : Hosts := ⟨none, none, none, none⟩

/-- The host of a sender, if it was handed over as some kind. -/
def ofSender (sender : Option HostHandle) (kind : HostKind) : Option Host :=
  (sender.filter (·.kind = kind)).map (·.host)

/-- The hosts that a context gives: its own first, then the sender of the event. -/
def ofContext (c : Context) : Hosts where
  application := c.application <|> ofSender c.eventSender .application
  controlledApplication := c.controlledApplication <|> ofSender c.eventSender .controlledApplication
  uiApplication := c.uiApplication <|> ofSender c.eventSender .uiApplication
  uiControlledApplication :=
    c.uiControlledApplication <|> ofSender c.eventSender .uiControlledApplication

end Hosts

/-- One run of a script: its id, what the host knows about the command, what it is given, the facts
of the session and the hosts that it may use. There is an engine once it is decided. The console is
the one that was last seen; the stream stands beside its handle. The last fields are what the run
leaves and where it is. -/
structure Runtime where
  execId : String
  script : ScriptData
  context : Context
  environment : Environment
  hosts : Hosts
  engine : Option EngineKind
  console : Option Handle
  stream : Option (Handle × Nat)
  results : Option (Dictionary String)
  executionResult : Option Outcome
  traceMessage : String
  logFile : Option Path
  phase : Phase
  deriving Inhabited

namespace Runtime

/-- An event of a runtime. -/
def event (severity : Severity) (message : String) (fields : List (String × String)) : Event :=
  ⟨severity, "scripthost::runtime", message, fields⟩

/-- A run that can begin; `captured` are the facts for a context that gives none. -/
def make (execId : String) (captured : Environment) (script : ScriptData) (context : Context) :
    Act Runtime := do
  Act.tell [event .debug "runtime configured"
    [("exec_id", execId), ("command", script.commandUniqueId)]]
  return ⟨execId, script, context, context.environment.getD captured, .ofContext context, none, none,
    none, none, none, "", none, .configured⟩

/-! ### Questions -/

/-- What started the run. -/
def kind (rt : Runtime) : RunKind :=
  if rt.context.eventSender.isSome || rt.context.eventArgs.isSome then .eventHandler
  else .externalCommand

/-- The script that runs: in configuration mode the configuration script, if there is one. -/
def sourceFile (rt : Runtime) : Path :=
  match rt.script.configScriptPath with
  | some p => if rt.context.configMode && p.text ≠ "" then p else rt.script.scriptPath
  | none => rt.script.scriptPath

/-- The engine of the run; from the files unless it is decided. -/
def engineIn (rt : Runtime) (files : FileTree) : EngineKind :=
  rt.engine.getD (selectEngine files.isFile rt.sourceFile rt.script.commandBundle)

/-- The run with its engine decided. -/
def pinned (rt : Runtime) (files : FileTree) : Runtime :=
  { rt with engine := some (rt.engineIn files) }

/-- The version of an engine. -/
def versionOf (rt : Runtime) : EngineKind → String
  | .script => rt.environment.engineVersion
  | _ => rt.environment.runtimeVersion

/-- The application with its user interface: that of the command comes first. -/
def uiApplication (rt : Runtime) : Option Host :=
  match rt.context.command with
  | some c => some c.uiApplication
  | none => rt.hosts.uiApplication

/-- The application, with its user interface if there is one. -/
def application (rt : Runtime) : Option Host := rt.uiApplication <|> rt.hosts.application

/-- The title of the active document; empty without one. -/
def documentName (rt : Runtime) : String := (rt.application.map (·.documentTitle)).getD ""

/-- The path of the active document; empty without one. -/
def documentPath (rt : Runtime) : String := (rt.application.map (·.documentPath)).getD ""

/-- Where a failure is logged: as the context says, or in the log directory of the configuration. -/
def logPath (rt : Runtime) : Option Path :=
  rt.context.logPath <|>
    rt.context.config.resolvedLogDirectory.map fun d => d.join ⟨rt.execId ++ ".log"⟩

/-- Where modules are looked for, after the directory of the script. -/
def searchPaths (rt : Runtime) : List Path :=
  rt.context.searchPaths ++ rt.context.config.resolvedSearchPaths

/-- The host for the script: the one that can do most. -/
def hostHandle (rt : Runtime) : Option HostHandle :=
  (rt.uiApplication.map (⟨.uiApplication, ·⟩)) <|>
    (rt.hosts.application.map (⟨.application, ·⟩)) <|>
    (rt.hosts.controlledApplication.map (⟨.controlledApplication, ·⟩)) <|>
    (rt.hosts.uiControlledApplication.map (⟨.uiControlledApplication, ·⟩))

/-- The variables for the script. -/
def vars (rt : Runtime) : Dictionary Value :=
  let c := rt.context
  let elements := c.command.toList.flatMap (·.selectedElements)
  let args := c.eventArgs.toList.map fun v => (Global.eventArgs, v)
  let results := rt.results.toList.map fun r => (Global.results, Value.ofTextMap r)
  Dictionary.ofEntries <|
    [(Global.vars, .map c.config.vars),
      (Global.arguments, .ofTexts c.arguments),
      (Global.elements, .array (elements.map .int)),
      (Global.execId, .string rt.execId),
      (Global.configMode, .bool c.configMode),
      (Global.debugMode, .bool c.debugMode),
      (Global.fromUi, .bool c.executedFromUi),
      (Global.environment, rt.environment.toValue)] ++ args ++ results

/-- What runs the script if the built-in interpreter does. -/
def executor (rt : Runtime) : Executor :=
  ⟨rt.context.config.limits, rt.hostHandle, rt.hosts.uiControlledApplication⟩

/-- What becomes of the script in an interpreter, with the files as they are. -/
def execution (rt : Runtime) (interpreter : Interpreter) (files : FileTree) : Execution :=
  rt.executor.execute interpreter files rt.sourceFile rt.searchPaths rt.logPath rt.vars

/-! ### Events of the host -/

/-- Sets the sender of the event. -/
def setEventSender (rt : Runtime) (sender : Option EventSender) : Act Runtime := do
  Act.tell (rt.context.senderEvents sender)
  let context := rt.context.setEventSender sender
  return { rt with context := context, hosts := .ofContext context }

/-- Sets the arguments of the event. -/
def setEventArgs (rt : Runtime) (args : Option Value) : Runtime :=
  { rt with context := { rt.context with eventArgs := args } }

/-- Changes the results; there are some from then on. -/
def editResults (rt : Runtime) (edit : Dictionary String → Dictionary String) : Runtime :=
  { rt with results := some (edit (rt.results.getD [])) }

/-- Puts a result under a key; gives the earlier one. -/
def setResult (rt : Runtime) (key value : String) : Runtime × Option String :=
  (rt.editResults (·.insert key value), (rt.results.getD []).get? key)

/-! ### Output -/

/-- Refuses a run that has been disposed of. -/
def requireUndisposed (rt : Runtime) : Except Refusal Unit :=
  if rt.phase = .disposed then .error (.disposed rt.execId) else .ok ()

/-- What the console of the run is made with. -/
def consoleSpec (rt : Runtime) (engine : EngineKind) : ConsoleSpec where
  outputId := rt.script.commandUniqueId
  title := rt.script.commandName
  appVersion := rt.environment.runtimeVersion ++ ":" ++ rt.versionOf engine ++ ":" ++
    rt.environment.hostVersion
  debugMode := rt.context.debugMode

/-- The console of the run: the one it remembers while that is listed, otherwise the one of the
command. -/
def window (rt : Runtime) : Act (Runtime × Except Refusal Nat) := do
  match rt.requireUndisposed with
  | .error e => return (rt, .error e)
  | .ok () =>
    let w ← get
    match rt.console.bind w.outputs.console? with
    | some n => return (rt, .ok n)
    | none =>
      let rt := rt.pinned w.files
      let (h, n, events) ←
        Act.withOutputs fun r => r.consoleFor (rt.consoleSpec (rt.engineIn w.files))
      Act.tell events
      return ({ rt with console := some h }, .ok n)

/-- The stream of the run and its handle, if it feeds a console. -/
def streamTo (rt : Runtime) (r : Registry) (console : Nat) : Option (Handle × Nat) :=
  rt.stream.filter fun s => r.consoleOfStream? s.2 = some console

/-- Makes a stream for the run. -/
def openStream (rt : Runtime) (console : Nat) : Act (Runtime × Nat) := do
  let (h, n, events) ← Act.withOutputs fun r => r.streamFor rt.execId console
  Act.tell events
  return ({ rt with stream := some (h, n) }, n)

/-- Gives up the stream of the run, if it has one. -/
def closeStream (rt : Runtime) : Act Runtime := do
  match rt.stream with
  | some (h, n) => Act.withOutputs fun r => (((r.releaseStream h).1).dropStream n, ())
  | none => pure ()
  return { rt with stream := none }

/-- The stream of the run, made anew when its console was replaced. -/
def feed (rt : Runtime) : Act (Runtime × Except Refusal Nat) := do
  match ← rt.window with
  | (rt, .error e) => return (rt, .error e)
  | (rt, .ok console) =>
    match rt.streamTo (← get).outputs console with
    | some (_, n) => return (rt, .ok n)
    | none =>
      let (rt, n) ← (← rt.closeStream).openStream console
      return (rt, .ok n)

/-- The answer of a call with the run that it leaves, unless the call is refused. -/
def answered {α : Type} (call : Act (Runtime × Except Refusal α)) :
    Act (Except Refusal (Runtime × α)) := do
  let (rt, answer) ← call
  return answer.map (rt, ·)

/-- The console of the run. -/
def outputWindow (rt : Runtime) : Act (Except Refusal (Runtime × Nat)) := answered rt.window

/-- The stream of the run. -/
def outputStream (rt : Runtime) : Act (Except Refusal (Runtime × Nat)) := answered rt.feed

/-! ### Running -/

/-- Does what happened while a script file was run. -/
def perform (stream : Nat) : List Action → Act Unit
  | [] => pure ()
  | .said _ text :: actions => do
    Act.writeTo stream text
    perform stream actions
  | action :: actions => do
    Act.tell (Executor.eventsOf action)
    perform stream actions

/-- Runs the script in an interpreter. -/
def interpret (rt : Runtime) (interpreter : Interpreter) : Act (Runtime × Except Refusal Ending) := do
  match ← rt.feed with
  | (rt, .error e) => return (rt, .error e)
  | (rt, .ok stream) =>
    let w ← get
    let done := rt.execution interpreter w.files
    set { w with files := done.files }
    perform stream done.actions
    return (rt, .ok done.ending)

/-- Has the script run by the handler for its engine. -/
def handOver (rt : Runtime) (engine : EngineKind) (engines : EngineTable) :
    Act (Runtime × Except Refusal Ending) := do
  match engines.get? engine with
  | none =>
    Act.tell [event .warn "no handler registered" [("engine", engine.name)]]
    return (rt, .ok <| .plain .failed
      ("No engine handler is registered for " ++ Refusal.inQuotes engine.name ++ " scripts."))
  | some handler =>
    match ← rt.feed with
    | (rt, .error e) => return (rt, .error e)
    | (rt, .ok stream) =>
      let request : Request :=
        ⟨engine, rt.sourceFile, rt.script, rt.context.arguments, rt.execId, rt.hostHandle, stream⟩
      modify fun w => { w with asked := w.asked ++ [request] }
      let response := handler request
      response.written.forM (Act.writeTo stream)
      Act.withOutputs fun r => (if response.keepsStream then r.holdStream stream else r, ())
      return (rt, .ok response.ending)

/-- The run with what it left. -/
def ended (rt : Runtime) (e : Ending) : Runtime :=
  { rt with
    results :=
      if e.results.isEmpty then rt.results
      else some (Dictionary.union (rt.results.getD []) e.results)
    executionResult := some e.outcome
    traceMessage := e.message
    logFile := e.logFile
    phase := .ofOutcome e.outcome }

/-- Keeps what a run left. -/
def finish (rt : Runtime) (e : Ending) : Act (Runtime × Outcome) := do
  Act.tell [event .info "script finished"
    [("result", e.outcome.name), ("exit_code", toString (e.exitCode.getD 0).toInt)]]
  return (rt.ended e, e.outcome)

/-- Has the script run by its engine. -/
def execute (rt : Runtime) (engine : EngineKind) (engines : EngineTable) :
    Act (Runtime × Except Refusal Ending) :=
  match engine with
  | .unknown => do
    Act.tell [event .info "no engine for script; skipping" [("script", rt.sourceFile.text)]]
    return (rt, .ok (.plain .succeeded ""))
  | .script => rt.interpret engines.interpreter
  | other => rt.handOver other engines

/-- Carries a run out that is under way. What is refused on the way is passed on, and leaves the run
as it is by then. -/
def carryOut (rt : Runtime) (engines : EngineTable) : Act (Runtime × Except Refusal Outcome) := do
  let engine := rt.engineIn (← get).files
  Act.tell [event .info "running script"
    [("engine", engine.name), ("runtime_type", rt.kind.name),
      ("refresh_engine", if rt.context.refreshEngine then "true" else "false")]]
  match ← rt.execute engine engines with
  | (rt, .error e) => return (rt, .error e)
  | (rt, .ok ending) =>
    let (rt, outcome) ← rt.finish ending
    return (rt, .ok outcome)

/-- Runs the script, unless it has run or the run has been disposed of. That the script fails is no
refusal. -/
def attempt (rt : Runtime) (engines : EngineTable) : Act (Runtime × Except Refusal Outcome) := do
  match rt.requireUndisposed with
  | .error e => return (rt, .error e)
  | .ok () =>
    if rt.phase = .configured then
      let rt := { rt.pinned (← get).files with phase := .running }
      rt.carryOut engines
    else return (rt, .error (.alreadyRan rt.execId))

/-- Runs the script and keeps what it leaves. -/
def run (rt : Runtime) (engines : EngineTable) : Act (Except Refusal (Runtime × Outcome)) :=
  answered (rt.attempt engines)

/-- Gives up everything that belongs to the host; how the run ended and its message stay. -/
def dispose (rt : Runtime) : Act Runtime := do
  let rt ← rt.closeStream
  Act.tell rt.context.disposeEvents
  if rt.phase ≠ .disposed then
    Act.tell [event .debug "runtime disposed" [("exec_id", rt.execId)]]
  return { rt with
    console := none
    results := none
    hosts := .absent
    context := rt.context.dispose
    phase := .disposed }

/-- Lets a run go without disposing of it: only its stream is given up. -/
def drop (rt : Runtime) : Act Unit :=
  match rt.stream with
  | some (_, n) => Act.withOutputs fun r => (r.dropStream n, ())
  | none => pure ()

end Runtime

end HostedScripts
