import HostedScripts.Decimal.Layout
import HostedScripts.Text.Codec

/-!
# JSON documents

`Json` is a document as it is written down: integers between the smallest signed and the largest
unsigned 64-bit integer are kept exactly, every other number is a double, and an object is the list
of its members in their order. `Json.render` is the compact text.
-/

namespace HostedScripts

/-- A JSON document. An integer fits 64 bits, signed or unsigned; a `number` is any other number. -/
inductive Json where
  | null
  | bool (b : Bool)
  | int (n : Int)
  | number (x : Float)
  | string (s : String)
  | array (elements : List Json)
  | object (members : List (String × Json))
  deriving Inhabited

namespace Json

/-- A character inside a quoted JSON text: quotes, backslashes and control characters are escaped.
-/
def escapeChar (c : Char) : List Char :=
  if c == '"' then ['\\', '"']
  else if c == '\\' then ['\\', '\\']
  else if c.toNat < 0x20 then
    match c.toNat with
    | 8 => ['\\', 'b']
    | 9 => ['\\', 't']
    | 10 => ['\\', 'n']
    | 12 => ['\\', 'f']
    | 13 => ['\\', 'r']
    | n => '\\' :: 'u' :: Text.hexDigits 4 n
  else [c]

/-- A text in quotes. -/
def quoteChars (cs : List Char) : List Char := '"' :: cs.flatMap escapeChar ++ ['"']

/-- A text in quotes. -/
def quote (s : String) : String := String.ofList (quoteChars s.toList)

mutual

/-- The compact text of a document. -/
def chars : Json → List Char
  | null => ['n', 'u', 'l', 'l']
  | bool true => ['t', 'r', 'u', 'e']
  | bool false => ['f', 'a', 'l', 's', 'e']
  | int n => (toString n).toList
  | number x => (Decimal.jsonText x).toList
  | string s => quoteChars s.toList
  | array es => '[' :: elementChars es ++ [']']
  | object ms => '{' :: memberChars ms ++ ['}']

/-- Elements with commas between them. -/
def elementChars : List Json → List Char
  | [] => []
  | [e] => chars e
  | e :: es => chars e ++ ',' :: elementChars es

/-- Members with commas between them. -/
def memberChars : List (String × Json) → List Char
  | [] => []
  | [(k, v)] => quoteChars k.toList ++ ':' :: chars v
  | (k, v) :: ms => quoteChars k.toList ++ ':' :: chars v ++ ',' :: memberChars ms

end

/-- The compact text of a document. -/
def render (j : Json) : String := String.ofList j.chars

/-- The value of the last member with a name. -/
def member? (j : Json) (name : String) : Option Json :=
  match j with
  | object ms => (ms.reverse.find? (·.1 == name)).map (·.2)
  | _ => none

/-- The text of a string document. -/
def string? : Json → Option String
  | string s => some s
  | _ => none

/-- The truth value of a boolean document. -/
def bool? : Json → Option Bool
  | bool b => some b
  | _ => none

/-- The integer of an integer document. -/
def int? : Json → Option Int
  | int n => some n
  | _ => none

/-- The elements of an array; none of anything else. -/
def elements : Json → List Json
  | array es => es
  | _ => []

/-- The members of an object; none of anything else. -/
def members : Json → List (String × Json)
  | object ms => ms
  | _ => []

/-- The document of an optional value. -/
def ofOption (f : α → Json) : Option α → Json
  | some a => f a
  | none => null

/-- The document of a list of texts. -/
def ofStrings (ss : List String) : Json := array (ss.map string)

/-- The document of a list of named texts. -/
def ofTexts (ms : List (String × String)) : Json := object (ms.map fun (k, v) => (k, string v))

end Json

end HostedScripts
