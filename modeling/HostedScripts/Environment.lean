import HostedScripts.Value
import HostedScripts.Json.Shape

/-!
# The facts of a session

An `Environment` holds what a script may know about its surroundings. It is taken once, before the
script runs, and does not change afterwards.
-/

namespace HostedScripts

/-- The version of this library. -/
def libraryVersion : String := "0.1.0"

/-- The version of the built-in interpreter. -/
def interpreterVersion : String := "rhai-1.23"

/-- The facts of a session: the versions of the runtime, the interpreter and the host, the id of the
session, the name of the clone it works in, and others. -/
structure Environment where
  runtimeVersion : String
  engineVersion : String
  hostVersion : String
  sessionId : String
  cloneName : String
  extra : Dictionary String
  deriving Inhabited

namespace Environment

/-- The facts that a lookup of variables gives; `session` is the id to fall back to. -/
def capture (session : String) (lookup : String → Option String) : Environment where
  runtimeVersion := libraryVersion
  engineVersion := (lookup "SCRIPTHOST_ENGINE_VERSION").getD ""
  hostVersion := (lookup "SCRIPTHOST_HOST_VERSION").getD ""
  sessionId := (lookup "SCRIPTHOST_SESSION").getD session
  cloneName := (lookup "SCRIPTHOST_CLONE").getD "default"
  extra := []

/-- Sets the version of the interpreter unless it is known. -/
def withEngineVersion (e : Environment) (version : String) : Environment :=
  if e.engineVersion = "" then { e with engineVersion := version } else e

/-- Adds a fact. -/
def withExtra (e : Environment) (key value : String) : Environment :=
  { e with extra := Dictionary.insert key value e.extra }

/-- The facts that every environment has. -/
def fixedFacts (e : Environment) : Dictionary String :=
  Dictionary.ofEntries [
    ("runtime_version", e.runtimeVersion),
    ("engine_version", e.engineVersion),
    ("host_version", e.hostVersion),
    ("session_id", e.sessionId),
    ("clone_name", e.cloneName)]

/-- All facts, where another fact never hides a fixed one. -/
def toValue (e : Environment) : Value := .ofTextMap (Dictionary.union e.extra e.fixedFacts)

/-- The shape of the document of an environment. -/
def shape : Json.Shape :=
  .record "EnvironmentSnapshot" [
    ("runtimeVersion", none, .text "a string"),
    ("engineVersion", none, .text "a string"),
    ("hostVersion", none, .text "a string"),
    ("sessionId", none, .text "a string"),
    ("cloneName", none, .text "a string"),
    ("extra", some (.object []), .dictionary (.text "a string"))]

/-- The document of an environment. -/
def toJson (e : Environment) : Json :=
  .object [
    ("runtimeVersion", .string e.runtimeVersion),
    ("engineVersion", .string e.engineVersion),
    ("hostVersion", .string e.hostVersion),
    ("sessionId", .string e.sessionId),
    ("cloneName", .string e.cloneName),
    ("extra", .ofTexts e.extra)]

/-- The texts in the members of a document. -/
def textsOf (j : Json) : Dictionary String :=
  Dictionary.ofEntries (j.members.map fun (k, v) => (k, v.string?.getD ""))

/-- Reads the document of an environment. -/
def parse (text : String) : Except Json.Fault Environment := do
  let j ← shape.parse text
  let texts (name : String) := ((j.member? name).bind Json.string?).getD ""
  return ⟨texts "runtimeVersion", texts "engineVersion", texts "hostVersion", texts "sessionId",
    texts "cloneName", textsOf ((j.member? "extra").getD .null)⟩

end Environment

end HostedScripts
