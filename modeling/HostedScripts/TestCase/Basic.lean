import HostedScripts.Config
import HostedScripts.Environment

/-!
# Test cases for scripts

A `TestCase` is a JSON file that names a script, what it is given, and what is expected of it.
`CaseFault` says why a case does not pass.
-/

namespace HostedScripts

/-- How a test case runs its script. -/
structure CaseFlags where
  configMode : Bool
  debugMode : Bool
  executedFromUi : Bool
  deriving DecidableEq, Inhabited

/-- What is expected of a run: how it ends, the engine, if that matters, what the message contains
and a pattern that occurs in it, results that the script leaves, among others, and all lines that it
writes, if they matter. -/
structure Expectation where
  outcome : Outcome
  engine : Option EngineKind
  messageContains : List String
  messagePattern : Option String
  results : Dictionary String
  output : Option (List String)
  deriving Inhabited

/-- A test case; its script is seen from the directory of the case. -/
structure TestCase where
  schemaVersion : String
  script : Path
  bundle : Option Path
  configScript : Option Path
  searchPaths : List Path
  arguments : List String
  vars : Dictionary Value
  flags : CaseFlags
  expected : Expectation
  deriving Inhabited

/-- Why a test case does not pass. -/
inductive CaseFault where
  | unreadable (path : Path) (error : FileError)
  | malformed (path : Path) (reason : String)
  | otherSchema (found : String)
  | noCases (path : Path)
  | refused (r : Refusal)
  | otherOutcome (expected actual : Outcome) (message : String)
  | otherEngine (expected actual : EngineKind)
  | missingFragment (fragment message : String)
  | invalidPattern (pattern : String)
  | unmatchedPattern (pattern message : String)
  | otherResult (key expected : String) (actual : Option String)
  | otherOutput (expected actual : List String)

namespace CaseFault

/-- A text that may be absent, in detail. -/
def optionDetail : Option String → String
  | none => "None"
  | some s => "Some(" ++ Text.quoted s ++ ")"

/-- A fault in words. -/
def message : CaseFault → String
  | unreadable path e => "Failed to read file " ++ path.text ++ ": " ++ e.message
  | malformed path reason => "Failed to parse testcase " ++ path.text ++ ": " ++ reason
  | otherSchema found =>
    "Invalid testcase schema version \"" ++ found ++ "\", expected \"sh-tool-case.v1\"."
  | noCases path => "No *.case.json files under " ++ path.text ++ "."
  | refused r => "Runtime error: " ++ r.text
  | otherOutcome expected actual message =>
    "Expected result " ++ expected.name ++ ", actual " ++ actual.name ++ ". message=" ++ message
  | otherEngine expected actual =>
    "Expected engine " ++ expected.name ++ ", actual " ++ actual.name ++ "."
  | missingFragment fragment message =>
    "Message does not contain \"" ++ fragment ++ "\". message=" ++ message
  | invalidPattern pattern => "Invalid message pattern \"" ++ pattern ++ "\"."
  | unmatchedPattern pattern message =>
    "Message does not match /" ++ pattern ++ "/. message=" ++ message
  | otherResult key expected actual =>
    "Result \"" ++ key ++ "\" mismatch. expected=" ++ expected ++ " actual=" ++ optionDetail actual
  | otherOutput expected actual =>
    "Output mismatch. expected=" ++ (Json.ofStrings expected).render ++ " actual=" ++
      (Json.ofStrings actual).render

end CaseFault

namespace TestCase

/-- The schema that is understood. -/
def schema : String := "sh-tool-case.v1"

/-- The shape of the document of the flags. -/
def flagsShape : Json.Shape :=
  .record "CaseFlags" [
    ("configMode", some (.bool false), .bool),
    ("debugMode", some (.bool false), .bool),
    ("executedFromUi", some (.bool false), .bool)]

/-- The shape of the document of what is expected. -/
def expectationShape : Json.Shape :=
  .record "Expectation" [
    ("result", none, .variant Outcome.names),
    ("engine", some .null, .optional (.variant EngineKind.names)),
    ("messageContains", some (.array []), .list (.text "a string")),
    ("messagePattern", some .null, .optional (.text "a string")),
    ("results", some (.object []), .dictionary (.text "a string")),
    ("output", some .null, .optional (.list (.text "a string")))]

/-- The document of the flags that say nothing. -/
def noFlags : Json :=
  .object [("configMode", .bool false), ("debugMode", .bool false), ("executedFromUi", .bool false)]

/-- The shape of the document of a test case. -/
def shape : Json.Shape :=
  .record "TestCase" [
    ("schemaVersion", none, .text "a string"),
    ("script", none, Path.shape),
    ("bundle", some .null, .optional Path.shape),
    ("configScript", some .null, .optional Path.shape),
    ("searchPaths", some (.array []), .list Path.shape),
    ("arguments", some (.array []), .list (.text "a string")),
    ("variables", some (.object []), .dictionary .any),
    ("flags", some noFlags, flagsShape),
    ("expected", none, expectationShape)]

/-- The texts in the elements of a document. -/
def textsIn (j : Json) : List String := j.elements.map fun e => e.string?.getD ""

/-- The test case in a document of the right shape. -/
def ofJson (j : Json) : TestCase :=
  let part (j : Json) (name : String) := (j.member? name).getD .null
  let truth (j : Json) (name : String) := (part j name).bool?.getD false
  let e := part j "expected"
  let flags := part j "flags"
  let vars := match Value.ofJson (part j "variables") with
    | .map entries => entries
    | _ => []
  { schemaVersion := (part j "schemaVersion").string?.getD ""
    script := Path.ofJson (part j "script")
    bundle := Path.ofJson? (part j "bundle")
    configScript := Path.ofJson? (part j "configScript")
    searchPaths := (part j "searchPaths").elements.map Path.ofJson
    arguments := textsIn (part j "arguments")
    vars := vars
    flags := ⟨truth flags "configMode", truth flags "debugMode", truth flags "executedFromUi"⟩
    expected :=
      { outcome := ((part e "result").string?.bind Outcome.ofExactName?).getD .succeeded
        engine := (part e "engine").string?.bind EngineKind.ofName?
        messageContains := textsIn (part e "messageContains")
        messagePattern := (part e "messagePattern").string?
        results := Environment.textsOf (part e "results")
        output := match part e "output" with
          | .array es => some (es.map fun s => s.string?.getD "")
          | _ => none } }

/-- The document of what is expected. -/
def expectationToJson (e : Expectation) : Json :=
  .object [
    ("result", .string e.outcome.name),
    ("engine", .ofOption (fun k => .string k.name) e.engine),
    ("messageContains", .ofStrings e.messageContains),
    ("messagePattern", .ofOption .string e.messagePattern),
    ("results", .ofTexts e.results),
    ("output", .ofOption .ofStrings e.output)]

/-- The document of a test case. -/
def toJson (c : TestCase) : Json :=
  .object [
    ("schemaVersion", .string c.schemaVersion),
    ("script", c.script.toJson),
    ("bundle", .ofOption Path.toJson c.bundle),
    ("configScript", .ofOption Path.toJson c.configScript),
    ("searchPaths", .array (c.searchPaths.map Path.toJson)),
    ("arguments", .ofStrings c.arguments),
    ("variables", (Value.map c.vars).toJson),
    ("flags", .object [
      ("configMode", .bool c.flags.configMode),
      ("debugMode", .bool c.flags.debugMode),
      ("executedFromUi", .bool c.flags.executedFromUi)]),
    ("expected", expectationToJson c.expected)]

/-- Reads the test case in a file. -/
def load (files : FileTree) (path : Path) : Except CaseFault TestCase := do
  match files.readText path with
  | .error e => throw (.unreadable path e)
  | .ok text =>
    match shape.parse text with
    | .error e => throw (.malformed path (e.message text))
    | .ok j =>
      let c := ofJson j
      if c.schemaVersion = schema then return c else throw (.otherSchema c.schemaVersion)

end TestCase

end HostedScripts
