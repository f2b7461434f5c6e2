import HostedScripts.Json.Cursor

/-!
# Documents of a given shape

A `Shape` says what a document has to hold: a text, a list, a record with named fields and defaults.
`Shape.read` reads a document of that shape and gives it back in a normal form, in which a record is
the object of all its fields in their declared order. A record may also be written as the array of
its fields, where trailing fields with a default may be left out; members with unknown names are
passed over, and a field that is given twice is refused.
-/

namespace HostedScripts.Json

/-- What a document has to hold. A text and an unsigned 64-bit integer are described by the given
words; what is optional may be `null`; each field of a record has a name, a default if it may be
missing, and a shape. -/
inductive Shape where
  | any
  | text (expected : String)
  | bool
  | natural (expected : String)
  | optional (shape : Shape)
  | list (shape : Shape)
  | dictionary (shape : Shape)
  | variant (names : List String)
  | record (name : String) (fields : List (String × Option Json × Shape))

/-- The names of the fields of a record with their defaults. -/
def fieldDefaults (fields : List (String × Option Json × Shape)) : List (String × Option Json) :=
  fields.map fun (name, default?, _) => (name, default?)

namespace Cursor

/-- The fault of a value of another type than expected. -/
def mismatch (c : Cursor) (expected : String) : Fault :=
  match c.scalar? with
  | some (.error e) => e
  | some (.ok (j, after)) =>
    match j with
    | .null => after.fault (.invalidType .null expected)
    | .bool b => after.fault (.invalidType (.bool b) expected)
    | .int n => after.fault (.invalidType (.int n) expected)
    | .number x => after.fault (.invalidType (.number x) expected)
    | .string s => after.fault (.invalidType (.string s) expected)
    | _ => after.fault .expectedValue
  | none =>
    match c.rest with
    | '[' :: _ => c.fault (.invalidType .array expected)
    | '\x7b' :: _ => c.fault (.invalidType .object expected)
    | _ => c.faultAhead .expectedValue

/-- Skips blanks and demands that something follows. -/
def ahead (c : Cursor) : Except Fault Cursor :=
  let c := c.skipSpace
  if c.rest.isEmpty then .error (c.faultAhead .endOfValue) else .ok c

/-- Reads a text. -/
def text (c : Cursor) (expected : String) : Except Fault (Json × Cursor) := do
  let c ← c.ahead
  match c.rest with
  | '"' :: _ =>
    let (s, c) ← c.next.string
    return (.string s, c)
  | _ => throw (c.mismatch expected)

/-- Reads a truth value. -/
def truth (c : Cursor) : Except Fault (Json × Cursor) := do
  let c ← c.ahead
  match c.rest with
  | 't' :: _ => return (.bool true, ← c.next.literal ['r', 'u', 'e'])
  | 'f' :: _ => return (.bool false, ← c.next.literal ['a', 'l', 's', 'e'])
  | _ => throw (c.mismatch "a boolean")

/-- Reads an unsigned integer. -/
def unsigned (c : Cursor) (expected : String) : Except Fault (Json × Cursor) := do
  let c ← c.ahead
  match c.scalar? with
  | some (.ok (.int n, after)) =>
    if n < 0 then throw (after.fault (.invalidValue (.int n) expected)) else return (.int n, after)
  | _ => throw (c.mismatch expected)

/-- The name of a variant that ends at the cursor. -/
def checkVariant (names : List String) (name : String) (c : Cursor) : Except Fault Json :=
  if names.contains name then .ok (.string name) else .error (c.fault (.unknownVariant name names))

/-- Reads the name of a variant, or the object of that name and `null`. -/
def variant (depth : Nat) (names : List String) (c : Cursor) : Except Fault (Json × Cursor) := do
  let c ← c.ahead
  match c.rest with
  | '"' :: _ =>
    let (name, c) ← c.next.string
    return (← checkVariant names name c, c)
  | '\x7b' :: _ =>
    if depth ≤ 1 then throw (c.faultAhead .recursionLimit)
    let c ← c.next.ahead
    match c.rest with
    | '"' :: _ =>
      let (name, c) ← c.next.string
      let j ← checkVariant names name c
      let c ← c.colon
      let c ← c.ahead
      let c ← match c.rest with
        | 'n' :: _ => c.next.literal ['u', 'l', 'l']
        | _ => throw (c.mismatch "unit")
      let c := c.skipSpace
      match c.rest with
      | '\x7d' :: _ => return (j, c.next)
      | [] => throw (c.fault .endOfObject)
      | _ => throw (c.fault .expectedValue)
    | _ => throw (c.mismatch "variant identifier")
  | _ => throw (c.faultAhead .expectedValue)

/-- A fault of a record as a whole: it is placed after the end of the object, if that is here. -/
def faultOfObject (c : Cursor) (cause : Cause) : Fault := c.closeObject.2.fault cause

/-- A fault of a record as a whole: it is placed after the end of the array, if that is here. -/
def faultOfArray (c : Cursor) (cause : Cause) : Fault := c.closeArray.2.fault cause

/-- The fields of a record in their order, those that are missing by their defaults. -/
def fillFields (c : Cursor) (found : List (String × Json)) :
    List (String × Option Json) → Except Fault (List (String × Json))
  | [] => .ok []
  | (name, default?) :: more =>
    match found.find? (·.1 == name), default? with
    | some (_, j), _ => (fillFields c found more).map ((name, j) :: ·)
    | none, some j => (fillFields c found more).map ((name, j) :: ·)
    | none, none => .error (c.faultOfObject (.missingField name))

/-- The members of a record after its brace; `field` reads the value of a known field. -/
def recordFrom (field : String → Cursor → Option (Except Fault (Json × Cursor))) :
    Nat → Bool → List (String × Json) → Cursor → Except Fault (List (String × Json) × Cursor)
  | 0, _, _, c => .error (c.fault .endOfObject)
  | fuel + 1, first, found, c =>
    match c.memberAhead first with
    | .error e => .error e
    | .ok (false, c) => .ok (found, c)
    | .ok (true, c) =>
      match c.next.string with
      | .error e => .error e
      | .ok (name, c) =>
        if (found.find? (·.1 == name)).isSome then .error (c.faultOfObject (.duplicateField name))
        else
          match c.colon with
          | .error e => .error e
          | .ok c =>
            match field name c with
            | some (.ok (j, c)) => recordFrom field fuel false ((name, j) :: found) c
            | some (.error e) => .error e
            | none =>
              match c.skip with
              | .ok c => recordFrom field fuel false found c
              | .error e => .error e

end Cursor

open Cursor

mutual

/-- Reads a document of a shape, where `depth` brackets may be open at once, less one. -/
def Shape.read : Shape → Nat → Cursor → Except Fault (Json × Cursor)
  | .any, depth, c => c.value depth
  | .text expected, _, c => c.text expected
  | .bool, _, c => c.truth
  | .natural expected, _, c => c.unsigned expected
  | .optional shape, depth, c =>
    let c := c.skipSpace
    match c.rest with
    | 'n' :: _ => (c.next.literal ['u', 'l', 'l']).map (.null, ·)
    | _ => shape.read depth c
  | .list shape, depth, c => do
    let c ← c.ahead
    match c.rest with
    | '[' :: _ =>
      if depth ≤ 1 then throw (c.faultAhead .recursionLimit)
      let (es, c) ← elementsFrom (shape.read (depth - 1)) (c.rest.length + 1) true [] c.next
      return (.array es, c)
    | _ => throw (c.mismatch "a sequence")
  | .dictionary shape, depth, c => do
    let c ← c.ahead
    match c.rest with
    | '\x7b' :: _ =>
      if depth ≤ 1 then throw (c.faultAhead .recursionLimit)
      let (ms, c) ← membersFrom (shape.read (depth - 1)) (c.rest.length + 1) true [] c.next
      return (.object ms, c)
    | _ => throw (c.mismatch "a map")
  | .variant names, depth, c => c.variant depth names
  | .record name fields, depth, c => do
    let c ← c.ahead
    match c.rest with
    | '\x7b' :: _ =>
      if depth ≤ 1 then throw (c.faultAhead .recursionLimit)
      let (found, c) ← recordFrom (fun k => readField fields k (depth - 1)) (c.rest.length + 1) true
        [] c.next
      let ms ← c.fillFields found (fieldDefaults fields)
      return (.object ms, c.next)
    | '[' :: _ =>
      if depth ≤ 1 then throw (c.faultAhead .recursionLimit)
      let (ms, c) ← readFields fields name fields.length 0 (depth - 1) c.next
      match c.closeArray with
      | (.ok (), c) => return (.object ms, c)
      | (.error e, _) => throw e
    | _ => throw (c.mismatch ("struct " ++ name))

/-- Reads the value of the field with a name, or none when there is no such field. -/
def readField : List (String × Option Json × Shape) → String → Nat → Cursor →
    Option (Except Fault (Json × Cursor))
  | [], _, _, _ => none
  | (name, _, shape) :: more, wanted, depth, c =>
    if name == wanted then some (shape.read depth c) else readField more wanted depth c

/-- Reads the fields of a record that is written as an array, from the field number `index` on. -/
def readFields : List (String × Option Json × Shape) → String → Nat → Nat → Nat → Cursor →
    Except Fault (List (String × Json) × Cursor)
  | [], _, _, _, _, c => .ok ([], c)
  | (name, default?, shape) :: more, record, count, index, depth, c =>
    match c.elementAhead (index = 0) with
    | .error e => .error e
    | .ok (true, c) =>
      match shape.read depth c with
      | .error e => .error e
      | .ok (j, c) =>
        (readFields more record count (index + 1) depth c).map fun (ms, c) => ((name, j) :: ms, c)
    | .ok (false, c) =>
      match default? with
      | none => .error (c.faultOfArray (.invalidLength index record count))
      | some j =>
        (readFields more record count (index + 1) depth c).map fun (ms, c) => ((name, j) :: ms, c)

end

/-- The document of a shape that a text holds, in normal form. -/
def Shape.parse (shape : Shape) (text : String) : Except Fault Json := do
  let (j, c) ← shape.read depthLimit (Cursor.start text)
  endOfText c
  return j

end HostedScripts.Json
