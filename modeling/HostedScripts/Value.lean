import HostedScripts.Dictionary
import HostedScripts.Json.Cursor

/-!
# Values that cross between host and script

A `Value` is what a configuration holds, what an event carries and what is bound into a script.
Its JSON text is `Value.jsonText`, and `Value.ofJson` reads it back: an integer that fits 64 bits
with its sign is an integer, every other number is a double. `Value.text` is the plain text of a
value, and `Value.parseLiteral` reads what somebody typed: JSON when it is JSON, a text otherwise.
-/

namespace HostedScripts

/-- A value that crosses between host and script; the entries of a map are in the order of their
keys. -/
inductive Value where
  | null
  | bool (b : Bool)
  | int (n : Int64)
  | number (x : Float)
  | string (s : String)
  | array (elements : List Value)
  | map (entries : List (String × Value))
  deriving Inhabited

namespace Value

/-- The name of the type of a value. -/
def typeName : Value → String
  | null => "null"
  | bool _ => "boolean"
  | int _ => "integer"
  | number _ => "number"
  | string _ => "string"
  | array _ => "array"
  | map _ => "map"

/-- The text of a text value. -/
def asString? : Value → Option String
  | string s => some s
  | _ => none

/-- The integer of an integer, or of a double that is one. -/
def asInt? : Value → Option Int64
  | int n => some n
  | number x => if Decimal.isNearlyInteger x then some (Decimal.toInt64Saturating x) else none
  | _ => none

/-- The double of a number. -/
def asNumber? : Value → Option Float
  | int n => some n.toFloat
  | number x => some x
  | _ => none

/-- Whether an integer fits 64 bits with its sign. -/
def fitsInt64 (n : Int) : Bool := Int64.minValue.toInt ≤ n && n ≤ Int64.maxValue.toInt

/-- The number that an integer of a document stands for. -/
def ofInteger (n : Int) : Value :=
  if fitsInt64 n then int (Int64.ofInt n) else number (Float.ofInt n)

mutual

/-- The value of a document. -/
def ofJson : Json → Value
  | .null => null
  | .bool b => bool b
  | .int n => ofInteger n
  | .number x => number x
  | .string s => string s
  | .array es => array (ofElements es)
  | .object ms => map (Dictionary.ofEntries (ofMembers ms))

/-- The values of the elements of an array. -/
def ofElements : List Json → List Value
  | [] => []
  | e :: es => ofJson e :: ofElements es

/-- The values of the members of an object. -/
def ofMembers : List (String × Json) → List (String × Value)
  | [] => []
  | (k, j) :: ms => (k, ofJson j) :: ofMembers ms

end

mutual

/-- The document of a value. -/
def toJson : Value → Json
  | null => .null
  | bool b => .bool b
  | int n => .int n.toInt
  | number x => .number x
  | string s => .string s
  | array es => .array (elementsToJson es)
  | map entries => .object (entriesToJson entries)

/-- The documents of some values. -/
def elementsToJson : List Value → List Json
  | [] => []
  | v :: vs => toJson v :: elementsToJson vs

/-- The members of the entries of a map. -/
def entriesToJson : List (String × Value) → List (String × Json)
  | [] => []
  | (k, v) :: entries => (k, toJson v) :: entriesToJson entries

end

/-- The compact JSON text of a value. -/
def jsonText (v : Value) : String := v.toJson.render

/-- The value that a JSON text holds. -/
def parse (text : String) : Except Json.Fault Value := (Json.parse text).map ofJson

/-- The plain text of a value, as it is stored in a map of texts. -/
def text : Value → String
  | null => ""
  | bool b => if b then "true" else "false"
  | int n => toString n.toInt
  | number x =>
    if Decimal.isNearlyInteger x then toString (Decimal.toInt64Saturating x).toInt
    else Decimal.plainText x
  | string s => s
  | array es => (array es).jsonText
  | map entries => (map entries).jsonText

/-- Reads what somebody typed: JSON as it stands, anything else as a text. -/
def parseLiteral (raw : String) : Value :=
  match parse raw with
  | .ok v => v
  | .error _ => string raw

/-- The array of some texts. -/
def ofTexts (texts : List String) : Value := array (texts.map string)

/-- The map of some texts. -/
def ofTextMap (texts : Dictionary String) : Value := map (texts.map fun (k, s) => (k, string s))

end Value

end HostedScripts
