import HostedScripts.Path
import HostedScripts.Json.Basic

/-!
# Result codes and kinds

`Outcome` is the result code of a run, with the numbers and names scripts use for it. `ScriptKind`
and `BundleKind` are read off the extension of a path, without regard to the case of its letters,
and `EngineKind` names who runs a script.
-/

namespace HostedScripts

/-- How a run ended: as it should, called off, or wrong. -/
inductive Outcome where
  | succeeded
  | cancelled
  | failed
  deriving DecidableEq, Inhabited

namespace Outcome

/-- The number of an outcome. -/
def code : Outcome → Int
  | succeeded => 0
  | cancelled => 1
  | failed => -1

/-- The outcome with a number. -/
def ofCode? (code : Int) : Option Outcome :=
  if code = 0 then some succeeded
  else if code = 1 then some cancelled
  else if code = -1 then some failed
  else none

/-- The name of an outcome. -/
def name : Outcome → String
  | succeeded => "succeeded"
  | cancelled => "cancelled"
  | failed => "failed"

/-- The names of all outcomes. -/
def names : List String := ["succeeded", "cancelled", "failed"]

/-- The outcome with exactly this name. -/
def ofExactName? (name : String) : Option Outcome :=
  [succeeded, cancelled, failed].find? (·.name = name)

/-- The outcome with a name, in letters of any case and with blanks around it. -/
def ofName? (name : String) : Option Outcome := ofExactName? (Text.lowerAscii (Text.trim name))

end Outcome

/-- Who runs a script, in the order in which engines are listed: the built-in interpreter, the
engine of the host for compiled scripts, for visual programs or for the assembly of a bundle, or
nobody. -/
inductive EngineKind where
  | script
  | compiled
  | visual
  | invoke
  | unknown
  deriving DecidableEq, Inhabited

namespace EngineKind

/-- The name of an engine. -/
def name : EngineKind → String
  | script => "script"
  | compiled => "compiled"
  | visual => "visual"
  | invoke => "invoke"
  | unknown => "unknown"

/-- All engines in their order. -/
def all : List EngineKind := [script, compiled, visual, invoke, unknown]

/-- The names of all engines. -/
def names : List String := all.map name

/-- The engine with a name. -/
def ofName? (name : String) : Option EngineKind := all.find? (·.name = name)

/-- Whether the host may provide the engine. -/
def isProvided : EngineKind → Bool
  | compiled | visual | invoke => true
  | script | unknown => false

end EngineKind

/-- What a run was started by. -/
inductive RunKind where
  | externalCommand
  | eventHandler
  deriving DecidableEq, Inhabited

/-- The name of a kind of run. -/
def RunKind.name : RunKind → String
  | .externalCommand => "external-command"
  | .eventHandler => "event-handler"

/-- The kinds of script files. -/
inductive ScriptKind where
  | script
  | compiled
  | visual
  deriving DecidableEq

namespace ScriptKind

/-- The extension of interpreted scripts. -/
def interpreted : String := "rhai"

/-- The kind of script with an extension. -/
def ofExtension? (extension : String) : Option ScriptKind :=
  if extension = interpreted then some script
  else if extension = "cs" || extension = "vb" then some compiled
  else if extension = "dyn" then some visual
  else none

/-- The kind of script in a file. -/
def ofPath? (path : Path) : Option ScriptKind :=
  path.extension?.bind fun e => ofExtension? (Text.lowerAscii e)

/-- The name of a kind of script. -/
def name : ScriptKind → String
  | script => "Script"
  | compiled => "Compiled"
  | visual => "Visual"

end ScriptKind

/-- The kinds of directories that own the scripts of a command. -/
inductive BundleKind where
  | pushButton
  | smartButton
  | invokeButton
  | linkButton
  | urlButton
  | contentButton
  | other
  deriving DecidableEq

namespace BundleKind

/-- The name of a kind of bundle. -/
def name : BundleKind → String
  | pushButton => "PushButton"
  | smartButton => "SmartButton"
  | invokeButton => "InvokeButton"
  | linkButton => "LinkButton"
  | urlButton => "UrlButton"
  | contentButton => "ContentButton"
  | other => "Other"

/-- The kind of bundle with an extension: the name of the kind in small letters. -/
def ofExtension (extension : String) : BundleKind :=
  let kinds := [pushButton, smartButton, invokeButton, linkButton, urlButton, contentButton]
  (kinds.find? fun kind => Text.lowerAscii kind.name = extension).getD other

/-- The kind of bundle in a directory. -/
def ofPath (path : Path) : BundleKind :=
  match path.extension? with
  | some e => ofExtension (Text.lowerAscii e)
  | none => other

end BundleKind

/-- The engine for a script: an interpreted script has to exist, and where there is no engine for
the kind of the script a bundle that invokes an assembly has one. -/
def selectEngine (present : Path → Bool) (script : Path) (bundle : Option Path) : EngineKind :=
  let byBundle :=
    if bundle.map BundleKind.ofPath = some .invokeButton then EngineKind.invoke else .unknown
  match ScriptKind.ofPath? script with
  | some .script => if present script then .script else byBundle
  | some .compiled => .compiled
  | some .visual => .visual
  | none => byBundle

end HostedScripts
