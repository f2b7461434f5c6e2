import HostedScripts.Text.Quoted
import HostedScripts.Decimal.Layout
import HostedScripts.Text.Codec

/-!
# What is wrong with a JSON text

A `Fault` is a cause with the byte where it was seen. Its message names the cause and the line and
column of that byte: lines count from one, and the column is the number of bytes since the last line
feed.
-/

namespace HostedScripts.Json

/-- What a document held where something else was expected. -/
inductive Found where
  | null
  | bool (b : Bool)
  | int (n : Int)
  | number (x : Float)
  | string (s : String)
  | array
  | object

/-- A name between backquotes. -/
def ticked (name : String) : String := "`" ++ name ++ "`"

/-- What was found, in words. -/
def Found.text : Found → String
  | .null => "null"
  | .bool b => "boolean " ++ ticked (if b then "true" else "false")
  | .int n => "integer " ++ ticked (toString n)
  | .number x => "floating point " ++ ticked (Decimal.jsonText x)
  | .string s => "string " ++ Text.quoted s
  | .array => "sequence"
  | .object => "map"

/-- Why a JSON text was refused: it is none or, from `invalidType` on, not what was expected. -/
inductive Cause where
  | endOfValue
  | endOfString
  | endOfArray
  | endOfObject
  | expectedValue
  | expectedIdent
  | expectedColon
  | expectedElementEnd
  | expectedMemberEnd
  | invalidEscape
  | invalidNumber
  | numberOutOfRange
  | controlCharacter
  | keyMustBeString
  | loneSurrogate
  | endOfHexEscape
  | trailingComma
  | trailingCharacters
  | recursionLimit
  | invalidType (found : Found) (expected : String)
  | invalidValue (found : Found) (expected : String)
  | invalidLength (length : Nat) (record : String) (fields : Nat)
  | missingField (name : String)
  | duplicateField (name : String)
  | unknownVariant (name : String) (allowed : List String)

/-- A cause in words. -/
def Cause.message : Cause → String
  | .endOfValue => "EOF while parsing a value"
  | .endOfString => "EOF while parsing a string"
  | .endOfArray => "EOF while parsing a list"
  | .endOfObject => "EOF while parsing an object"
  | .expectedValue => "expected value"
  | .expectedIdent => "expected ident"
  | .expectedColon => "expected " ++ ticked ":"
  | .expectedElementEnd => "expected " ++ ticked "," ++ " or " ++ ticked "]"
  | .expectedMemberEnd => "expected " ++ ticked "," ++ " or " ++ ticked "\x7d"
  | .invalidEscape => "invalid escape"
  | .invalidNumber => "invalid number"
  | .numberOutOfRange => "number out of range"
  | .controlCharacter =>
    "control character (\\u0000-\\u001F) found while parsing a string"
  | .keyMustBeString => "key must be a string"
  | .loneSurrogate => "lone leading surrogate in hex escape"
  | .endOfHexEscape => "unexpected end of hex escape"
  | .trailingComma => "trailing comma"
  | .trailingCharacters => "trailing characters"
  | .recursionLimit => "recursion limit exceeded"
  | .invalidType found expected => "invalid type: " ++ found.text ++ ", expected " ++ expected
  | .invalidValue found expected => "invalid value: " ++ found.text ++ ", expected " ++ expected
  | .invalidLength n record fields =>
    "invalid length " ++ toString n ++ ", expected struct " ++ record ++ " with " ++
      toString fields ++ " elements"
  | .missingField name => "missing field " ++ ticked name
  | .duplicateField name => "duplicate field " ++ ticked name
  | .unknownVariant name allowed =>
    "unknown variant " ++ ticked name ++ ", expected one of " ++
      ", ".intercalate (allowed.map ticked)

/-- A cause and the byte where it was seen. -/
structure Fault where
  cause : Cause
  offset : Nat

/-- The line and the column after the first `offset` bytes. -/
def placeOf (bytes : List UInt8) (offset : Nat) : Nat × Nat :=
  (bytes.take offset).foldl
    (fun (place : Nat × Nat) b => if b == 10 then (place.1 + 1, 0) else (place.1, place.2 + 1)) (1, 0)

/-- The message of a fault in a text. -/
def Fault.message (text : String) (f : Fault) : String :=
  let (line, column) := placeOf (Text.toBytes text) f.offset
  f.cause.message ++ " at line " ++ toString line ++ " column " ++ toString column

end HostedScripts.Json
