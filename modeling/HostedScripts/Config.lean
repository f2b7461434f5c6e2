import HostedScripts.ScriptData
import HostedScripts.Value
import HostedScripts.Refusal

/-!
# The configuration of the interpreter

A `Config` is usually read from a JSON file; its relative paths then start at the directory of that
file.
-/

namespace HostedScripts

/-- The configuration of the interpreter. A run may take any number of operations if `maxOperations`
is zero; relative paths start at `base`, if the configuration comes from a file. -/
structure Config where
  searchPaths : List Path
  vars : Dictionary Value
  logDirectory : Option Path
  strictVariables : Bool
  maxOperations : Nat
  maxCallLevels : Nat
  base : Option Path
  deriving Inhabited

namespace Config

/-- How deeply calls may be nested unless a configuration says otherwise. -/
def defaultCallLevels : Nat := 64

/-- The configuration when there is none. -/
def standard : Config := ⟨[], [], none, false, 0, defaultCallLevels, none⟩

/-- The shape of the document of a configuration. -/
def shape : Json.Shape :=
  .record "ExecutorConfig" [
    ("searchPaths", some (.array []), .list Path.shape),
    ("variables", some (.object []), .dictionary .any),
    ("logDirectory", some .null, .optional Path.shape),
    ("strictVariables", some (.bool false), .bool),
    ("maxOperations", some (.int 0), .natural "u64"),
    ("maxCallLevels", some (.int defaultCallLevels), .natural "usize")]

/-- The document of a configuration. -/
def toJson (c : Config) : Json :=
  .object [
    ("searchPaths", .array (c.searchPaths.map Path.toJson)),
    ("variables", (Value.map c.vars).toJson),
    ("logDirectory", .ofOption Path.toJson c.logDirectory),
    ("strictVariables", .bool c.strictVariables),
    ("maxOperations", .int c.maxOperations),
    ("maxCallLevels", .int c.maxCallLevels)]

/-- The configuration in a document of the right shape. -/
def ofJson (j : Json) : Config :=
  let part (name : String) := (j.member? name).getD .null
  let nat (name : String) := ((part name).int?.getD 0).toNat
  let vars := match Value.ofJson (part "variables") with
    | .map entries => entries
    | _ => []
  ⟨(part "searchPaths").elements.map Path.ofJson, vars, Path.ofJson? (part "logDirectory"),
    (part "strictVariables").bool?.getD false, nat "maxOperations", nat "maxCallLevels", none⟩

/-- Reads the document of a configuration. -/
def parse (text : String) : Except Json.Fault Config := (shape.parse text).map ofJson

/-- Reads the configuration in a file. -/
def load (files : FileTree) (path : Path) : Except Refusal Config :=
  match files.readText path with
  | .error e => .error (.configUnreadable path e)
  | .ok text =>
    match parse text with
    | .error e => .error (.configInvalid path (e.message text))
    | .ok c => .ok { c with base := path.parent? }

/-- A path of the configuration, seen from where the configuration comes from. -/
def resolve (c : Config) (path : Path) : Path :=
  match c.base with
  | some base => if path.isAbsolute then path else base.join path
  | none => path

/-- Where modules are looked for. -/
def resolvedSearchPaths (c : Config) : List Path := c.searchPaths.map c.resolve

/-- Where failures are logged. -/
def resolvedLogDirectory (c : Config) : Option Path := c.logDirectory.map c.resolve

/-- Whether a configuration is the one used when there is none. -/
def isDefault (c : Config) : Bool :=
  c.searchPaths.isEmpty && c.vars.isEmpty && c.logDirectory.isNone && !c.strictVariables &&
    c.maxOperations = 0 && c.maxCallLevels = defaultCallLevels && c.base.isNone

end Config

end HostedScripts
