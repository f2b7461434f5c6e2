import HostedScripts.TestCase.Basic
import HostedScripts.Report
import HostedScripts.Text.Pattern.Notation

/-!
# Running test cases

`discover` finds the case files of a directory, `runCase` runs the script of a case with consoles and
engines of its own, and `verdict` compares the report with what the case expects. What it means that
a pattern occurs in a message is a parameter of `verdict`; `Patterns.standard` is used.
-/

namespace HostedScripts

/-- Whether a pattern occurs in a text; none if the pattern stands for nothing. -/
abbrev Patterns := String → String → Option Bool

/-- Patterns as they are used. -/
def Patterns.standard : Patterns := Text.Pattern.found?

namespace TestCase

/-- What the names of case files end with. -/
def suffix : String := ".case.json"

/-- The name of the host that test cases see. -/
def hostName : String := "sh-tool"

/-- The case files at or below a path, in the order of their paths. -/
def discover (files : FileTree) (directory : Path) : Except CaseFault (List Path) :=
  match (files.walk directory).filter (·.text.endsWith suffix) with
  | [] => .error (.noCases directory)
  | found => .ok (found.mergeSort Path.notAfter)

/-- The host that gives nothing but its name. -/
def plainHost (name : String) : Host := ⟨name, libraryVersion, none⟩

/-- What the script of a case is given; `session` is the id of the session. -/
def context (directory : Path) (c : TestCase) (session : String) : Context :=
  { Context.empty with
    uiApplication := some (plainHost hostName)
    searchPaths := c.searchPaths.map directory.join
    arguments := c.arguments
    config := { Config.standard with vars := c.vars }
    environment :=
      some ((Environment.capture session fun _ => none).withEngineVersion interpreterVersion)
    configMode := c.flags.configMode
    debugMode := c.flags.debugMode
    executedFromUi := c.flags.executedFromUi }

/-- The command that the script of a case belongs to. -/
def command (directory : Path) (c : TestCase) : ScriptData :=
  { ScriptData.forScript (directory.join c.script) with
    commandBundle := c.bundle.map directory.join
    configScriptPath := c.configScript.map directory.join }

/-- Does something with consoles and streams of its own. -/
def withOwnOutputs {α : Type} (act : Act α) : Act α := do
  let before := (← get).outputs
  modify fun w => { w with outputs := .empty }
  let a ← act
  modify fun w => { w with outputs := before }
  return a

/-- Runs the script of a case. -/
def runCase (directory : Path) (c : TestCase) : Act (Except CaseFault Report) := do
  let id ← Act.freshId
  let given := context directory c (← get).session
  let report ← withOwnOutputs
    (runScript .empty id (← Act.captured) (command directory c) given)
  return report.mapError CaseFault.refused

/-- Refuses unless a condition holds. -/
def demand (holds : Bool) (fault : CaseFault) : Except CaseFault Unit :=
  if holds then .ok () else .error fault

/-- Compares a report with what is expected; the first difference counts. -/
def verdict (patterns : Patterns) (e : Expectation) (r : Report) : Except CaseFault Report := do
  demand (r.outcome = e.outcome) (.otherOutcome e.outcome r.outcome r.message)
  match e.engine with
  | some engine => demand (r.engine = engine) (.otherEngine engine r.engine)
  | none => pure ()
  e.messageContains.forM fun fragment =>
    demand (Text.contains r.message fragment) (.missingFragment fragment r.message)
  match e.messagePattern with
  | some pattern =>
    match patterns pattern r.message with
    | none => throw (.invalidPattern pattern)
    | some occurs => demand occurs (.unmatchedPattern pattern r.message)
  | none => pure ()
  e.results.forM fun (key, value) =>
    demand (r.results.get? key = some value) (.otherResult key value (r.results.get? key))
  match e.output with
  | some output => demand (output = r.output) (.otherOutput output r.output)
  | none => pure ()
  return r

/-- Runs the case in a file and compares the report with what the case expects. -/
def check (patterns : Patterns) (path : Path) : Act (Except CaseFault Report) := do
  match load (← get).files path with
  | .error e => return .error e
  | .ok c =>
    match ← runCase (path.parent?.getD ⟨"."⟩) c with
    | .error e => return .error e
    | .ok report => return verdict patterns c.expected report

/-- Checks some cases, one after the other. -/
def checkAll (patterns : Patterns) : List Path → Act (List (Path × Except CaseFault Report))
  | [] => return []
  | path :: paths => do
    let result ← check patterns path
    return (path, result) :: (← checkAll patterns paths)

/-- Checks all cases in a directory. -/
def checkDirectory (patterns : Patterns) (directory : Path) :
    Act (Except CaseFault (List (Path × Except CaseFault Report))) := do
  match discover (← get).files directory with
  | .error e => return .error e
  | .ok paths => return .ok (← checkAll patterns paths)

end TestCase

end HostedScripts
