import HostedScripts.FileTree
import HostedScripts.Kinds

/-!
# Refusals

A `Refusal` says why the library does not do what a host asks of it. That a script fails is no
refusal: it is the outcome of a run. Every refusal has a code for machines and a message for people.
-/

namespace HostedScripts

/-- Why the library does not do what a host asks of it. -/
inductive Refusal where
  | configUnreadable (path : Path) (error : FileError)
  | configInvalid (path : Path) (reason : String)
  | sourceUnreadable (path : Path) (error : FileError)
  | alreadyRan (execId : String)
  | disposed (execId : String)
  | engineReserved (engine : EngineKind)
  | variableInvalid (raw : String)
  | logUnwritable (error : FileError)
  | valueUnsupported (typeName : String)
  | casesUnusable (reason : String)

namespace Refusal

/-- The code of a refusal. -/
def code : Refusal → String
  | configUnreadable _ _ => "CONFIG_READ"
  | configInvalid _ _ => "CONFIG_INVALID"
  | sourceUnreadable _ _ => "EXECUTOR_SOURCE_READ"
  | alreadyRan _ => "RUNTIME_ALREADY_RAN"
  | disposed _ => "RUNTIME_DISPOSED"
  | engineReserved _ => "ENGINE_RESERVED"
  | variableInvalid _ => "CLI_VAR_INVALID"
  | logUnwritable _ => "CLI_TRACE_FILE"
  | valueUnsupported _ => "EXECUTOR_VALUE_UNSUPPORTED"
  | casesUnusable _ => "CLI_CASES"

/-- A text between quotation marks. -/
def inQuotes (s : String) : String := "\"" ++ s ++ "\""

/-- The message of a refusal. -/
def message : Refusal → String
  | configUnreadable path e => "Failed to read config " ++ path.text ++ ": " ++ e.message
  | configInvalid path reason => "Invalid config " ++ path.text ++ ": " ++ reason
  | sourceUnreadable path e => "Failed to read " ++ inQuotes path.text ++ ": " ++ e.message
  | alreadyRan id => "Runtime " ++ id ++ " has already run."
  | disposed id => "Runtime " ++ id ++ " has been disposed."
  | engineReserved engine => "Engine type " ++ inQuotes engine.name ++ " cannot be registered."
  | variableInvalid raw => "Expected name=value, got " ++ inQuotes raw ++ "."
  | logUnwritable e => e.message
  | valueUnsupported typeName => "Unsupported Rhai value type " ++ inQuotes typeName ++ "."
  | casesUnusable reason => reason

/-- A code with its message. -/
def labelled (code message : String) : String := code ++ ": " ++ message

/-- The text of a refusal. -/
def text (r : Refusal) : String := labelled r.code r.message

end Refusal

end HostedScripts
