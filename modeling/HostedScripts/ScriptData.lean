import HostedScripts.Kinds
import HostedScripts.Json.Shape

/-!
# What the host knows about a command

`ScriptData` names the script of a command, the bundle that owns it, and the command itself. For a
bare script file the name and the ids come from the stem of the file name.
-/

namespace HostedScripts

/-- What the host knows about a command; its id is also the one of its console. -/
structure ScriptData where
  scriptPath : Path
  configScriptPath : Option Path
  commandBundle : Option Path
  commandName : String
  commandUniqueId : String
  commandControlId : String
  deriving Inhabited

/-- The document of a path. -/
def Path.toJson (p : Path) : Json := .string p.text

/-- The path in a document. -/
def Path.ofJson (j : Json) : Path := ⟨j.string?.getD ""⟩

/-- The path in a document that may be `null`. -/
def Path.ofJson? (j : Json) : Option Path := j.string?.map Path.mk

/-- The shape of a document that holds a path. -/
def Path.shape : Json.Shape := .text "path string"

namespace ScriptData

/-- The data of a bare script file. -/
def forScript (path : Path) : ScriptData :=
  let stem := path.stem?.getD "script"
  let id := Text.lowerAscii stem
  ⟨path, none, none, stem, "cmd-" ++ id, "control-" ++ id⟩

/-- The shape of the document of script data. -/
def shape : Json.Shape :=
  .record "ScriptData" [
    ("scriptPath", none, Path.shape),
    ("configScriptPath", some .null, .optional Path.shape),
    ("commandBundle", some .null, .optional Path.shape),
    ("commandName", some (.string ""), .text "a string"),
    ("commandUniqueId", some (.string ""), .text "a string"),
    ("commandControlId", some (.string ""), .text "a string")]

/-- The document of script data. -/
def toJson (d : ScriptData) : Json :=
  .object [
    ("scriptPath", d.scriptPath.toJson),
    ("configScriptPath", .ofOption Path.toJson d.configScriptPath),
    ("commandBundle", .ofOption Path.toJson d.commandBundle),
    ("commandName", .string d.commandName),
    ("commandUniqueId", .string d.commandUniqueId),
    ("commandControlId", .string d.commandControlId)]

/-- Reads the document of script data. -/
def parse (text : String) : Except Json.Fault ScriptData := do
  let j ← shape.parse text
  let texts (name : String) := ((j.member? name).bind Json.string?).getD ""
  let path? (name : String) := (j.member? name).bind Path.ofJson?
  return ⟨⟨texts "scriptPath"⟩, path? "configScriptPath", path? "commandBundle",
    texts "commandName", texts "commandUniqueId", texts "commandControlId"⟩

end ScriptData

end HostedScripts
