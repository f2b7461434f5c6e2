import HostedScripts.Language.Evaluator.Statements
import HostedScripts.Config
import HostedScripts.Diagnostics
import HostedScripts.Event
import HostedScripts.Text.Lines

/-!
# Running one script file

An `Executor` runs a script file in a fresh interpreter: it reads the file, builds the scope, lets the
interpreter compile and run the script, and reads back what the script left in its scope. What the
interpreter makes of a script is an `Interpretation`; `execute` can be asked about any `Interpreter`,
and `Interpreter.standard` is the one that is used.

* A script that cannot be read fails, and there is no interpreter.
* A script that does not compile is cancelled, and none of its statements are carried out.
* A script that raises an error fails; one that ends itself by `exit` succeeds.
* A script that comes to its end chooses its outcome by `__result__`.

A failure to compile or to run is written to the log. `actions` tells everything that happened, in
order; between `opened` and `released` there is an interpreter.
-/

namespace HostedScripts

open HostedScripts.Language

/-! ### Names and scope -/

namespace Global

/-- The host. -/
def host : String := "__host__"

/-- The application while it starts. -/
def startingApplication : String := "__uicontrolledapp__"

/-- The variables of the configuration. -/
def vars : String := "__vars__"

/-- The path of the script. -/
def file : String := "__file__"

/-- Tells a script that was started from a module. -/
def name : String := "__name__"

/-- The arguments. -/
def arguments : String := "__args__"

/-- The message that the script leaves. -/
def message : String := "__message__"

/-- The outcome that the script chooses. -/
def result : String := "__result__"

/-- The results that the script leaves. -/
def results : String := "__results__"

/-- The arguments of the event. -/
def eventArgs : String := "__eventargs__"

/-- The ids of the selected elements. -/
def elements : String := "__elements__"

/-- The id of the run. -/
def execId : String := "__execid__"

/-- Whether the configuration script runs. -/
def configMode : String := "__configmode__"

/-- Whether the run is for debugging. -/
def debugMode : String := "__debugmode__"

/-- Whether the user interface started the run. -/
def fromUi : String := "__fromui__"

/-- The facts of the session. -/
def environment : String := "__env__"

/-- What a script that was started is called. -/
def mainName : String := "__main__"

end Global

/-- What an interpreter is bound to: whether undeclared variables are refused, how many operations a
run may take (zero for any number), and how deeply calls may be nested. -/
structure Limits where
  isStrict : Bool
  maxOperations : Nat
  maxCallLevels : Nat
  deriving DecidableEq, Inhabited

/-- The limits that a configuration sets. -/
def Config.limits (c : Config) : Limits := ⟨c.strictVariables, c.maxOperations, c.maxCallLevels⟩

/-- Runs script files, for a host if there is one; `startingHost` is the application while it
starts. -/
structure Executor where
  limits : Limits
  host : Option HostHandle
  startingHost : Option Host
  deriving Inhabited

/-- What a run leaves; it has an exit code if the script ended itself, and a log file if the log of
a failure was written. -/
structure Ending where
  outcome : Outcome
  message : String
  results : Dictionary String
  exitCode : Option Int64
  logFile : Option Path
  deriving DecidableEq, Inhabited

/-- An ending with nothing but an outcome and a message. -/
def Ending.plain (outcome : Outcome) (message : String) : Ending := ⟨outcome, message, [], none, none⟩

/-- What happens while a script file is run: an interpreter comes into being, the script says
something, perhaps for debugging only, something is told to those who watch, and the interpreter is
gone. -/
inductive Action where
  | opened
  | said (isDebug : Bool) (text : String)
  | told (event : Event)
  | released
  deriving DecidableEq, Inhabited

/-- What an interpreter makes of a script. -/
inductive Interpretation where
  | notCompiled (error : CompileError)
  | finished (f : Finished)
  deriving Inhabited

/-- An interpreter: what it makes of a script in its setting, with its files, from the scope and the
text. It is a function of these, so a run depends on nothing else in the world, and it comes to an
end. -/
abbrev Interpreter := Setting → Scope → String → Interpretation

/-- The diagnostic for a text that does not compile. An error without a place is put on the last
line. -/
def diagnosticOf (text : String) (e : CompileError) : Diagnostic :=
  .onLine e.cause.message <|
    match e.position.known? with
    | some p => p.line
    | none => (Text.lines text).length

/-- Compiles a script; the names in its scope are known, and the values of its constants. -/
def compiled (isStrict : Bool) (scope : Scope) (text : String) : Except CompileError Program :=
  (Program.read isStrict (scope.map (·.name)) text).map fun program =>
    program.simplified (scope.map fun b => (b.name, if b.value.isFixed then some b.value.free else none))

/-- The interpreter that is used. -/
def Interpreter.standard : Interpreter := fun setting scope text =>
  match compiled setting.isStrict scope text with
  | .error e => .notCompiled e
  | .ok program => .finished (program.run setting scope)

namespace Executor

/-- An event of the executor. -/
def event (severity : Severity) (message : String) (fields : List (String × String)) : Action :=
  .told ⟨severity, "scripthost::executor", message, fields⟩

/-- The variables that every script has, the latest first. Those of the caller hide the first ones,
and the constants of the host hide all of them. -/
def scope (x : Executor) (source : Path) (vars : Dictionary Value) : Scope :=
  let slot (name : String) (d : Datum) : Binding := ⟨name, d, []⟩
  let constant (name : String) (d : Datum) : Binding := ⟨name, d.fix, []⟩
  let starting := x.startingHost.toList.map fun h =>
    constant Global.startingApplication (.host ⟨.uiControlledApplication, h⟩)
  starting ++
    [constant Global.host (x.host.elim .unit .host),
      constant Global.name (.string Global.mainName)] ++
    (vars.map fun (name, v) => slot name (.ofValue v)).reverse ++
    [slot Global.results (.map []),
      slot Global.result (.int 0),
      slot Global.message (.string ""),
      slot Global.file (.string source.text)]

/-- A list of paths with another one, unless it is there already. -/
def withPath (paths : List Path) (path : Path) : List Path :=
  if paths.any (·.agrees path) then paths else paths ++ [path]

/-- The directories in which modules are looked for: that of the script, then the others, each once.
-/
def directories (source : Path) (searchPaths : List Path) : List Path :=
  let own := source.parent?.toList.map fun p => if p.text = "" then ⟨"."⟩ else p
  searchPaths.foldl withPath own

/-- What an interpreter of the executor is bound to. -/
def setting (x : Executor) (files : FileTree) (source : Path) (searchPaths : List Path) : Setting :=
  ⟨x.limits.isStrict, x.limits.maxOperations, x.limits.maxCallLevels,
    directories source searchPaths, files⟩

/-! ### Messages and logs -/

/-- The heading of what the script has to do with a failure. -/
def scriptHeading : String := "Script Traceback:"

/-- The heading of what the executor has to do with a failure. -/
def executorHeading : String := "Executor Traceback:"

/-- The message for a script that does not compile. -/
def compileMessage (ds : List Diagnostic) : String :=
  scriptHeading ++ "\n" ++ Diagnostic.renderAll ds

/-- The message for a script that raised an error, from the text and the detailed form of the error.
-/
def failureMessage (source : Path) (text detail : String) : String :=
  scriptHeading ++ "\n" ++ text ++ "\n\n" ++ executorHeading ++ "\n" ++ source.text ++ ": " ++ detail

/-- Writes a log, making the directories it needs. A log that cannot be written is passed over with
a warning. -/
def writeLog (files : FileTree) (path : Option Path) (message : String) :
    FileTree × Option Path × List Action :=
  match path with
  | none => (files, none, [])
  | some path =>
    let parent := path.parent?.getD ⟨""⟩
    match files.prepare parent with
    | (files, .error e) =>
      (files, none,
        [event .warn "cannot create log directory" [("error", e.message), ("path", parent.text)]])
    | (files, .ok ()) =>
      match files.write path (Text.toBytes message) none with
      | .ok files => (files, some path, [event .debug "error log written" [("path", path.text)]])
      | .error e =>
        (files, none,
          [event .warn "cannot write error log" [("error", e.message), ("path", path.text)]])

/-! ### Endings -/

/-- The outcome that the script chose, with a warning if it is none. -/
def chosenOutcome (scope : Scope) : Outcome × List Action :=
  match scope.lookUp Global.result with
  | none => (.succeeded, [])
  | some b =>
    match b.value.outcome? with
    | some o => (o, [])
    | none =>
      (.succeeded,
        [event .warn ("unrecognized " ++ Global.result ++ "; treating as succeeded")
          [("value", b.value.shown)]])

/-- The message that the script left. -/
def leftMessage (scope : Scope) : String :=
  ((scope.lookUp Global.message).map (·.value.leftText)).getD ""

/-- The results that the script left. -/
def leftResults (scope : Scope) : Dictionary String :=
  ((scope.lookUp Global.results).map (·.value.results)).getD []

/-- What a script leaves that was run, with what happens at its end. -/
def conclude (source : Path) (log : Option Path) (files : FileTree) (f : Finished) :
    Ending × FileTree × List Action :=
  match f.failure with
  | none =>
    let (outcome, actions) := chosenOutcome f.scope
    (⟨outcome, leftMessage f.scope, leftResults f.scope, none, none⟩, files, actions)
  | some failure =>
    match failure.exitCode? with
    | some code =>
      (⟨.succeeded, leftMessage f.scope, leftResults f.scope, some code, none⟩, files,
        [event .debug "script exited" [("code", toString code.toInt)]])
    | none =>
      let message := failureMessage source failure.text failure.detail
      let (files, logFile, actions) := writeLog files log message
      (⟨.failed, message, [], none, logFile⟩, files,
        event .info "script raised an error" [("error", failure.text)] :: actions)

end Executor

/-- What running a script file came to: what the run left, the files afterwards, and what happened,
in order. -/
structure Execution where
  ending : Ending
  files : FileTree
  actions : List Action
  deriving Inhabited

/-- How many interpreters there are after some actions, if there were `n` before. -/
def liveInterpreters (n : Nat) : List Action → Nat
  | [] => n
  | .opened :: actions => liveInterpreters (n + 1) actions
  | .released :: actions => liveInterpreters (n - 1) actions
  | _ :: actions => liveInterpreters n actions

namespace Executor

/-- Runs a script file. -/
def execute (x : Executor) (interpreter : Interpreter) (files : FileTree) (source : Path)
    (searchPaths : List Path) (log : Option Path) (vars : Dictionary Value) : Execution :=
  match files.readText source with
  | .error e =>
    ⟨.plain .failed e.message, files,
      [event .warn "script source unreadable" [("error", e.message)]]⟩
  | .ok text =>
    match interpreter (x.setting files source searchPaths) (x.scope source vars) text with
    | .notCompiled e =>
      let message := compileMessage [diagnosticOf text e]
      let (files, logFile, actions) := writeLog files log message
      ⟨⟨.cancelled, message, [], none, logFile⟩, files,
        .opened :: event .info "script failed to compile" [("diagnostics", "1")] ::
          actions ++ [.released]⟩
    | .finished f =>
      let (ending, files, actions) := conclude source log files f
      ⟨ending, files,
        .opened :: (f.said.map fun (isDebug, text) => .said isDebug text) ++ actions ++ [.released]⟩

/-- Compiles a script file without running it; gives what is wrong with it. -/
def check (x : Executor) (files : FileTree) (source : Path) :
    Except Refusal (List Diagnostic × List Action) :=
  match files.readText source with
  | .error e => .error (.sourceUnreadable source e)
  | .ok text =>
    let found := match compiled x.limits.isStrict (x.scope source []) text with
      | .error e => [diagnosticOf text e]
      | .ok _ => []
    .ok (found, [.opened, .released])

/-- The events of an action, where what the script says is an event too. -/
def eventsOf : Action → List Event
  | .opened => [⟨.debug, "scripthost::executor", "interpreter created", []⟩]
  | .released => [⟨.debug, "scripthost::executor", "interpreter released", []⟩]
  | .told e => [e]
  | .said isDebug text => [⟨if isDebug then .debug else .info, "scripthost::script", text, []⟩]

end Executor

end HostedScripts
