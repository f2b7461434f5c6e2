import HostedScripts.Language.Library
import HostedScripts.Language.Failure

/-!
# Parts of a value

A key leads to a `Part` of a value: an element of an array, an entry of a map, a bit or some bits of an
integer, a character or a slice of a text. `Part.get?` looks at a part and `Part.put` puts another value
in its place. Arrays and maps own their parts; the other values only show them, and are put together
anew when a part is assigned to. Indices below zero count from the end.
-/

namespace HostedScripts.Language

/-- A step of a chain whose key or arguments have been worked out. The place of an element is that
of the key, and the first place of a method that of the first argument. -/
inductive Step where
  | property (name : String) (position : Position) (joint : Joint)
  | index (key : Datum) (keyPosition : Position) (joint : Joint)
  | method (name : String) (arguments : List Datum) (argumentPosition position : Position) (joint : Joint)
  deriving Inhabited

namespace Step

/-- The joint of a step. -/
def joint : Step → Joint
  | property _ _ j | index _ _ j | method _ _ _ _ j => j

/-- Whether a step is not taken from a value: it is optional, and the value is none. -/
def isCutAt (s : Step) (d : Datum) : Bool :=
  s.joint.isOptional && match d.bare with
    | .unit => true
    | _ => false

end Step

/-- A part of a value: an element, an entry, a bit, the bits of a mask from one on, a character with
the place where another one is put, or so many characters from one on with the place where the text
goes on after what is put there. -/
inductive Part where
  | element (n : Nat)
  | entry (key : String)
  | bit (n : Nat)
  | bits (mask : Int64) (first : Nat)
  | character (n written : Nat)
  | slice (first length after : Nat)

namespace Datum

/-- The number of bits of an integer. -/
def bitCount : Nat := 64

/-- The part that an index leads to among so many. -/
def indexed (length : Nat) (i : Int64) (complaint : Nat → Int → Cause) (p : Position) :
    Except Failure Nat :=
  match Library.place? length i with
  | some n => .ok n
  | none => .error (.plain (complaint length i.toInt) (some p))

/-- A bit of a range of bits below a bound, which is not counted from the end. -/
def rangeBit (i : Int64) (bound : Nat) (p : Position) : Except Failure Nat :=
  if 0 ≤ i && i.toInt.toNat < bound then .ok i.toInt.toNat
  else .error (.plain (.bitBounds bitCount i.toInt) (some p))

/-- The bits of an integer in a range. -/
def bitRange (first last : Int64) (inclusive : Bool) (p : Position) : Except Failure Part := do
  let a ← rangeBit first bitCount p
  let b ← rangeBit last (if inclusive then bitCount else bitCount + 1) p
  let length := if inclusive then b + 1 - a else b - a
  return .bits (Int64.ofInt ((Int.pow 2 length - 1) * Int.pow 2 a)) (if length = 0 then 0 else a)

/-- The characters of a text in a range. There are none if the range does not end after its start.
-/
def characterRange (length : Nat) (first last : Int64) (inclusive : Bool) (p : Position) :
    Except Failure Part := do
  let a ← if 0 ≤ first then pure first.toInt.toNat
    else if length = 0 then pure 0
    else indexed length first .stringBounds p
  let b := if 0 ≤ last then last.toInt.toNat else (Library.place? length last).getD 0
  let stop := if inclusive then b + 1 else b
  return .slice a (if a < b then stop - a else 0) stop

/-- Demands an integer as a key. -/
def integerKey (key : Datum) (p : Position) : Except Failure Int64 :=
  match key.bare with
  | int i => .ok i
  | d => .error (.plain (.wrongType "i64" d.fullTypeName) (some p))

/-- The part of a value that a key leads to; none if the value has no such parts. -/
def part? (d key : Datum) (p : Position) : Except Failure (Option Part) :=
  match d.bare, key.bare with
  | array es, key => do
    return some (.element (← indexed es.length (← integerKey key p) .arrayBounds p))
  | map _, string k => .ok (some (.entry k))
  | map _, key => .error (.plain (.wrongType "string" key.fullTypeName) (some p))
  | int _, range a b inclusive => some <$> bitRange a b inclusive p
  | int _, key => do return some (.bit (← indexed bitCount (← integerKey key p) .bitBounds p))
  | string s, range a b inclusive => some <$> characterRange s.length a b inclusive p
  | string s, key => do
    let i ← integerKey key p
    let n ← indexed s.length i .stringBounds p
    return some (.character n (if 0 ≤ i then n else i.toInt.natAbs))
  | _, _ => .ok none

/-- The failure for a value that cannot be indexed by a key, to look at a part or to assign a value.
-/
def notIndexed (d key : Datum) (value : Option Datum) (p : Position) : Failure :=
  let assigned := match value with
    | some v => " = " ++ v.typeName
    | none => ""
  .plain (.noIndex (d.typeName ++ " [" ++ key.typeName ++ "]" ++ assigned)) (some p)

/-- The failure for a property that cannot be read. -/
def unknownProperty (d : Datum) (name : String) (p : Position) : Failure :=
  .plain (.noProperty ("Unknown property '" ++ name ++ "' - a getter is not registered for type '" ++
    d.typeName ++ "'")) (some p)

/-- The failure for a property that cannot be written. -/
def fixedProperty (d : Datum) (name : String) (value : Datum) (p : Position) : Failure :=
  .plain (.noProperty ("No writable property '" ++ name ++
    "' - a setter is not registered for type '" ++ d.typeName ++ "' to handle '" ++
    value.typeName ++ "'")) (some p)

end Datum

namespace Part

open Datum

/-- Whether a value owns a part. -/
def isOwned : Part → Bool
  | element _ | entry _ => true
  | _ => false

/-- A part of a value; none for an entry that a map does not have. -/
def get? (part : Part) (d : Datum) : Option Datum :=
  match part, d.bare with
  | element n, array es => es[n]?
  | entry k, map entries => Dictionary.get? k entries
  | bit n, int i => some (bool (Int.fdiv i.toInt (Int.pow 2 n) % 2 = 1))
  | bits mask first, int i =>
    some (int (Int64.ofInt (Int.fdiv (i &&& mask).toInt (Int.pow 2 first))))
  | character n _, string s => s.toList[n]?.map char
  | slice first length _, string s =>
    some (string (String.ofList ((s.toList.drop first).take length)))
  | _, _ => none

/-- The value with another one in place of a part. What does not fit is complained about at a place.
-/
def put (part : Part) (value d : Datum) (p : Position) : Except Failure Datum :=
  let refuse (expected : String) : Except Failure Datum :=
    .error (.plain (.wrongType expected value.fullTypeName) (some p))
  let changed (e : Datum) : Except Failure Datum := .ok (d.asFixedAs e)
  match part, d.bare with
  | element n, array es => changed (array (es.set n value))
  | entry k, map entries => changed (map (Dictionary.insert k value entries))
  | bit n, int i =>
    match value.bare with
    | .bool b =>
      let mask := Int64.ofInt (Int.pow 2 n)
      changed (int (if b then i ||| mask else i &&& ~~~mask))
    | _ => refuse "bool"
  | bits mask first, int i =>
    match value.bare with
    | .int v => changed (int (i &&& ~~~mask ||| Int64.ofInt (v.toInt * Int.pow 2 first) &&& mask))
    | _ => refuse "integer"
  | character _ n, string s =>
    match value.bare with
    | .char c => changed (string (String.ofList (s.toList.set n c)))
    | _ => refuse "char"
  | slice first _ after, string s =>
    let cs := s.toList
    changed (string (String.ofList (cs.take first ++ value.shown.toList ++ cs.drop after)))
  | _, _ => .ok d

end Part

end HostedScripts.Language
