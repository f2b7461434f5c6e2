import HostedScripts.CommandLine.Help
import HostedScripts.SystemPath
import HostedScripts.TestCase.Run

/-!
# The commands of the command line

Every command prints lines and ends with an exit code. The lines begin with a word in capital letters
and a colon, and texts that may hold line feeds are printed as JSON, so that a program can read them
back. A refusal is printed as an error.
-/

namespace HostedScripts.CommandLine

/-- What a command prints and the code it ends with. -/
structure Result where
  lines : List String
  exitCode : Nat
  deriving DecidableEq, Inhabited

/-- All that is printed. -/
def Result.text (r : Result) : String := String.join (r.lines.map (· ++ "\n"))

/-- The name of the host that scripts see. -/
def hostName : String := programName

/-- The exit code for an outcome. -/
def exitCode : Outcome → Nat
  | .succeeded => 0
  | .failed => 1
  | .cancelled => 2

/-- The JSON text of a text. -/
def jsonString (s : String) : String := (Json.string s).render

/-- The result for a refusal. -/
def errorResult (r : Refusal) : Result :=
  ⟨["RESULT:ERROR", "ERROR_CODE:" ++ r.code, "ERROR_MSG_JSON:" ++ jsonString r.message], 1⟩

/-- What is told of a run. -/
structure Transcript where
  outcome : Outcome
  engine : EngineKind
  execId : String
  output : List String
  message : String
  results : Dictionary String
  log : Option SystemPath
  deriving DecidableEq

namespace Transcript

/-- What a report tells. -/
def ofReport (r : Report) : Transcript :=
  ⟨r.outcome, r.engine, r.execId, r.output, r.message, r.results, r.logPath.map .ofPath⟩

/-- The line that names the log, as far as that can be shown. -/
def logLine (t : Transcript) : String := "LOG_FILE:" ++ (t.log.map (·.shown)).getD "NONE"

/-- The lines of a transcript. -/
def lines (t : Transcript) : List String :=
  ["RESULT:" ++ Text.upperAscii t.outcome.name, "ENGINE:" ++ t.engine.name, "EXEC_ID:" ++ t.execId] ++
  t.output.map ("OUTPUT:" ++ ·) ++
  ["MESSAGE_JSON:" ++ jsonString t.message, "RESULTS_JSON:" ++ (Json.ofTexts t.results).render, t.logLine]

end Transcript

/-- The lines that tell what a run left. -/
def reportLines (r : Report) : List String := (Transcript.ofReport r).lines

/-- The name and the value that an argument gives, with the equals sign between them. -/
def assignment? (raw : String) : Except Refusal (String × Value) :=
  let cs := raw.toList
  let name := Text.trim (String.ofList (cs.takeWhile (· ≠ '=')))
  match cs.dropWhile (· ≠ '=') with
  | _ :: value =>
    if name = "" then .error (.variableInvalid raw)
    else .ok (name, .parseLiteral (String.ofList value))
  | [] => .error (.variableInvalid raw)

/-- Gives variables of a configuration the values of some arguments. -/
def withVariables (c : Config) : List String → Except Refusal Config
  | [] => .ok c
  | raw :: rest =>
    match assignment? raw with
    | .error e => .error e
    | .ok (name, value) =>
      withVariables { c with vars := Dictionary.insert name value c.vars } rest

/-- A path seen from the root. -/
def absolute (files : FileTree) (path : Path) : Path :=
  Path.join ⟨"/" ++ "/".intercalate files.current⟩ path

/-- The configuration in a file, if one is given. -/
def loadConfig (files : FileTree) : Option Path → Except Refusal Config
  | some path => Config.load files (absolute files path)
  | none => .ok .standard

/-- The command that a script belongs to. -/
def scriptData (files : FileTree) (a : RunArguments) : ScriptData :=
  { ScriptData.forScript (absolute files a.script) with
    commandBundle := a.bundle.map (absolute files)
    configScriptPath := a.configScript.map (absolute files) }

/-- What a script is given. -/
def context (files : FileTree) (a : RunArguments) (config : Config) : Context :=
  { Context.empty with
    uiApplication := some (TestCase.plainHost hostName)
    searchPaths := a.searchPaths.map (absolute files)
    arguments := a.arguments
    config := config
    logPath := a.logFile.map (absolute files)
    configMode := a.configMode
    debugMode := a.debug }

/-- Runs a script. -/
def runCommand (a : RunArguments) (interpreter : Interpreter := .standard) : Act Result := do
  let files := (← get).files
  match (loadConfig files a.config).bind fun c => withVariables c a.vars with
  | .error e => return errorResult e
  | .ok config =>
    let id ← Act.freshId
    match ← runScript (.empty interpreter) id (← Act.captured) (scriptData files a)
      (context files a config) with
    | .error e => return errorResult e
    | .ok report => return ⟨reportLines report, exitCode report.outcome⟩

/-- The lines that tell what is wrong with a script. -/
def diagnosticLines (ds : List Diagnostic) : List String :=
  ds.map fun d => "DIAGNOSTIC:" ++ toString d.line ++ "|" ++ jsonString d.message

/-- Checks a script. -/
def checkCommand (script : Path) (config : Option Path) : Act Result := do
  let files := (← get).files
  match loadConfig files config with
  | .error e => return errorResult e
  | .ok c =>
    match ← checkScript (absolute files script) c with
    | .error e => return errorResult e
    | .ok [] => return ⟨["RESULT:OK"], 0⟩
    | .ok ds => return ⟨"RESULT:INVALID" :: diagnosticLines ds, exitCode .cancelled⟩

/-- The line that tells whether a case passes. -/
def caseLine : Path × Except CaseFault Report → String
  | (path, .ok _) => "CASE:PASS|" ++ path.text
  | (path, .error e) => "CASE:FAIL|" ++ path.text ++ "|" ++ jsonString e.message

/-- Whether a case passes. -/
def passes : Path × Except CaseFault Report → Bool
  | (_, .ok _) => true
  | (_, .error _) => false

/-- Runs the test cases in a directory. -/
def testCommand (directory : Path) : Act Result := do
  let files := (← get).files
  match ← TestCase.checkDirectory .standard (absolute files directory) with
  | .error e => return errorResult (.casesUnusable e.message)
  | .ok results =>
    let passed := (results.filter passes).length
    let failed := results.length - passed
    Act.tell [⟨.info, "sh_cli::commands", "test cases finished",
      [("total", toString results.length), ("failed", toString failed)]⟩]
    let lines := results.map caseLine ++
      ["PASSED:" ++ toString passed, "FAILED:" ++ toString failed,
        if failed = 0 then "RESULT:OK" else "RESULT:FAILED"]
    return ⟨lines, if failed = 0 then 0 else 1⟩

/-- Carries out a command. -/
def carryOut : Command → Act Result
  | .run a => runCommand a
  | .check script config => checkCommand script config
  | .test directory => testCommand directory

/-- Opens the file that takes what is told, if one is given. -/
def openTraceFile : Option Path → Act (Except Refusal Unit)
  | none => return .ok ()
  | some path => do
    let w ← get
    match w.files.touch path with
    | .error e => return .error (.logUnwritable e)
    | .ok files =>
      set { w with files := files }
      return .ok ()

/-- The result of the program for some arguments. -/
def run (arguments : List String) : Act Result := do
  match Invocation.parse arguments with
  | .error (.help command) => return ⟨helpLines command, 0⟩
  | .error .wrong => return ⟨[], 2⟩
  | .ok i =>
    match ← openTraceFile i.traceFile with
    | .error e => return errorResult e
    | .ok () => carryOut i.command

end HostedScripts.CommandLine
