import HostedScripts.Json.Basic
import HostedScripts.Json.Fault
import HostedScripts.Decimal.Reading

/-!
# Reading JSON, character by character

A `Cursor` is what is left of a text and how many bytes precede it. `Cursor.value` reads one
document; it recurses on the depth of brackets that is still allowed, and each loop over digits,
characters, elements or members is bounded by the number of characters left. `Cursor.skip` passes
over a document without keeping it, by looser rules: nesting is unlimited and surrogates are not
paired.
-/

namespace HostedScripts.Json

/-- What is left of a text, and the number of bytes before it. -/
structure Cursor where
  rest : List Char
  offset : Nat

namespace Cursor

/-- The cursor at the start of a text. -/
def start (text : String) : Cursor := ⟨text.toList, 0⟩

/-- The next character. -/
def peek? (c : Cursor) : Option Char := c.rest.head?

/-- The cursor after the next character. -/
def next (c : Cursor) : Cursor :=
  match c.rest with
  | [] => c
  | a :: rest => ⟨rest, c.offset + a.utf8Size⟩

/-- A fault at the cursor. -/
def fault (c : Cursor) (cause : Cause) : Fault := ⟨cause, c.offset⟩

/-- A fault at the character ahead: one byte further, unless the text ends here. -/
def faultAhead (c : Cursor) (cause : Cause) : Fault :=
  ⟨cause, if c.rest.isEmpty then c.offset else c.offset + 1⟩

/-- The blanks between the parts of a document. -/
def isSpace (a : Char) : Bool := a == ' ' || a == '\n' || a == '\t' || a == '\r'

/-- The cursor after the blanks at it. -/
def skipSpace (c : Cursor) : Cursor :=
  ⟨c.rest.dropWhile isSpace, c.offset + (c.rest.takeWhile isSpace).length⟩

/-- Reads the characters of a literal after its first. -/
def literal (c : Cursor) : List Char → Except Fault Cursor
  | [] => .ok c
  | a :: more =>
    match c.rest with
    | [] => .error (c.fault .endOfValue)
    | b :: _ => if a == b then c.next.literal more else .error (c.next.fault .expectedIdent)

/-! ### Quoted texts -/

/-- The four hexadecimal digits after a `\u`. -/
def hexEscape (c : Cursor) : Except Fault (Nat × Cursor) :=
  if Text.byteLength c.rest < 4 then
    .error ⟨.endOfString, c.offset + Text.byteLength c.rest⟩
  else
    match Text.hexNumber? (c.rest.take 4) with
    | some n => .ok (n, ⟨c.rest.drop 4, c.offset + 4⟩)
    | none => .error ⟨.invalidEscape, c.offset + 4⟩

/-- Expects one character of the second half of a surrogate pair. -/
def expectPairChar (c : Cursor) (a : Char) : Except Fault Cursor :=
  match c.rest with
  | [] => .error (c.fault .endOfString)
  | b :: _ => if a == b then .ok c.next else .error ⟨.endOfHexEscape, c.offset + 1⟩

/-- The character of a `\u` escape; surrogates come in pairs. -/
def unicodeEscape (c : Cursor) : Except Fault (Char × Cursor) := do
  let (high, c) ← c.hexEscape
  if 0xDC00 ≤ high && high ≤ 0xDFFF then throw (c.fault .loneSurrogate)
  if high < 0xD800 || 0xDBFF < high then return (Char.ofNat high, c)
  let c ← c.expectPairChar '\\'
  let c ← c.expectPairChar 'u'
  let (low, c) ← c.hexEscape
  if low < 0xDC00 || 0xDFFF < low then throw (c.fault .loneSurrogate)
  return (Char.ofNat (0x10000 + (high - 0xD800) * 0x400 + (low - 0xDC00)), c)

/-- The character that a one-letter escape stands for. -/
def simpleEscape? (a : Char) : Option Char :=
  if a == '"' || a == '\\' || a == '/' then some a
  else if a == 'b' then some '\x08'
  else if a == 'f' then some '\x0c'
  else if a == 'n' then some '\n'
  else if a == 'r' then some '\r'
  else if a == 't' then some '\t'
  else none

/-- The rest of a quoted text, given what was read of it backwards. -/
def stringFrom : Nat → List Char → Cursor → Except Fault (String × Cursor)
  | 0, _, c => .error (c.fault .endOfString)
  | fuel + 1, read, c =>
    match c.rest with
    | [] => .error (c.fault .endOfString)
    | '"' :: _ => .ok (String.ofList read.reverse, c.next)
    | '\\' :: rest =>
      match rest with
      | [] => .error (c.next.fault .endOfString)
      | 'u' :: _ =>
        match c.next.next.unicodeEscape with
        | .ok (a, c) => stringFrom fuel (a :: read) c
        | .error e => .error e
      | a :: _ =>
        match simpleEscape? a with
        | some b => stringFrom fuel (b :: read) c.next.next
        | none => .error ⟨.invalidEscape, c.offset + 2⟩
    | a :: _ =>
      if a.toNat < 0x20 then .error (c.next.fault .controlCharacter)
      else stringFrom fuel (a :: read) c.next

/-- The rest of a quoted text after its opening quote. -/
def string (c : Cursor) : Except Fault (String × Cursor) := stringFrom (c.rest.length + 1) [] c

/-! ### Numbers -/

/-- A number as it is written: an integer without or with a sign, or a double. -/
inductive Number where
  | natural (n : Nat)
  | negative (n : Int)
  | double (x : Float)

/-- The document of a number. -/
def Number.toJson : Number → Json
  | .natural n => .int n
  | .negative n => .int n
  | .double x => .number x

/-- The largest significand that is kept exactly. -/
def maxSignificand : Nat := Nat.pow 2 64 - 1

/-- The largest exponent that is kept exactly. -/
def maxExponent : Nat := Nat.pow 2 31 - 1

/-- Whether a digit starts the list. -/
def digitAhead (c : Cursor) : Bool := (c.peek?.map Text.isDigit).getD false

/-- The cursor after the digits at it. -/
def skipDigits (c : Cursor) : Cursor :=
  let digits := c.rest.takeWhile Text.isDigit
  ⟨c.rest.drop digits.length, c.offset + digits.length⟩

/-- Appends digits to a significand while it is kept exactly; also how many were appended. -/
def appendDigits (significand count : Nat) : List Char → Nat × Nat
  | [] => (significand, count)
  | a :: rest =>
    if Text.isDigit a then
      let more := significand * 10 + (a.toNat - 48)
      if more ≤ maxSignificand then appendDigits more (count + 1) rest else (significand, count)
    else (significand, count)

/-- The cursor `n` digits further. -/
def advance (c : Cursor) (n : Nat) : Cursor := ⟨c.rest.drop n, c.offset + n⟩

/-- The double of a sign, a significand and an exponent. -/
def double (negative : Bool) (significand : Nat) (exponent : Int) (c : Cursor) :
    Except Fault (Number × Cursor) :=
  match Decimal.ofParts? negative (UInt64.ofNat significand) exponent with
  | some x => .ok (.double x, c)
  | none => .error (c.fault .numberOutOfRange)

/-- The digits of an exponent, or none when it grows too large; the cursor is then after the digit
that made it so. -/
def exponentDigits (value : Nat) : List Char → Nat → Option Nat × Nat
  | [], count => (some value, count)
  | a :: rest, count =>
    if Text.isDigit a then
      let more := value * 10 + (a.toNat - 48)
      if more ≤ maxExponent then exponentDigits more rest (count + 1) else (none, count + 1)
    else (some value, count)

/-- An exponent held between the smallest and the largest 32-bit integer. -/
def clampExponent (e : Int) : Int := max (-2147483648) (min 2147483647 e)

/-- The exponent of a number, the cursor being at its `e`. -/
def exponent (negative : Bool) (significand : Nat) (before : Int) (c : Cursor) :
    Except Fault (Number × Cursor) :=
  let c := c.next
  let down := c.peek? == some '-'
  let c := if c.peek? == some '+' || down then c.next else c
  match c.rest with
  | [] => .error (c.fault .endOfValue)
  | a :: _ =>
    if !Text.isDigit a then .error (c.next.fault .invalidNumber)
    else
      match exponentDigits 0 c.rest 0 with
      | (some e, count) =>
        double negative significand (clampExponent (if down then before - e else before + e))
          (c.advance count)
      | (none, count) =>
        let c := c.advance count
        if significand != 0 && !down then .error (c.fault .numberOutOfRange)
        else .ok (.double (if negative then -0.0 else 0.0), c.skipDigits)

/-- Whether an exponent starts here. -/
def exponentAhead (c : Cursor) : Bool := c.peek? == some 'e' || c.peek? == some 'E'

/-- The fraction of a number, the cursor being at its point. -/
def fraction (negative : Bool) (significand : Nat) (before : Int) (c : Cursor) :
    Except Fault (Number × Cursor) :=
  let c := c.next
  let (more, count) := appendDigits significand 0 c.rest
  let after := c.advance count
  if after.digitAhead then
    let after := after.skipDigits
    if after.exponentAhead then exponent negative more (before - count) after
    else double negative more (before - count) after
  else if count = 0 then
    .error (c.faultAhead (if c.rest.isEmpty then .endOfValue else .invalidNumber))
  else if after.exponentAhead then exponent negative more (before - count) after
  else double negative more (before - count) after

/-- What follows the integer digits of a number. -/
def afterInteger (negative : Bool) (significand : Nat) (before : Int) (c : Cursor)
    (plain : Except Fault (Number × Cursor)) : Except Fault (Number × Cursor) :=
  if c.peek? == some '.' then fraction negative significand before c
  else if c.exponentAhead then exponent negative significand before c
  else plain

/-- The integer of a sign and digits; zero with a sign and what does not fit are doubles. -/
def integer (negative : Bool) (significand : Nat) : Number :=
  if !negative then .natural significand
  else if significand = 0 || Nat.pow 2 63 < significand then
    .double (-(UInt64.ofNat significand).toFloat)
  else .negative (-(significand : Int))

/-- A number after its sign. -/
def number (negative : Bool) (c : Cursor) : Except Fault (Number × Cursor) :=
  match c.rest with
  | [] => .error (c.fault .endOfValue)
  | '0' :: _ =>
    if c.next.digitAhead then .error (c.next.faultAhead .invalidNumber)
    else afterInteger negative 0 0 c.next (.ok (integer negative 0, c.next))
  | a :: _ =>
    if !Text.isDigit a then .error (c.next.fault .invalidNumber)
    else
      let (significand, count) := appendDigits 0 0 c.rest
      let after := c.advance count
      if after.digitAhead then
        let dropped := (after.rest.takeWhile Text.isDigit).length
        let after := after.skipDigits
        afterInteger negative significand dropped after (double negative significand dropped after)
      else afterInteger negative significand 0 after (.ok (integer negative significand, after))

/-! ### Documents -/

/-- Whether another element follows in an array. -/
def elementAhead (first : Bool) (c : Cursor) : Except Fault (Bool × Cursor) :=
  let c := c.skipSpace
  match c.rest with
  | [] => .error (c.faultAhead .endOfArray)
  | ']' :: _ => .ok (false, c)
  | a :: _ =>
    if first then .ok (true, c)
    else if a == ',' then
      let c := c.next.skipSpace
      match c.rest with
      | [] => .error (c.faultAhead .endOfValue)
      | ']' :: _ => .error (c.faultAhead .trailingComma)
      | _ => .ok (true, c)
    else .error (c.faultAhead .expectedElementEnd)

/-- Whether another member follows in an object; the cursor is then at its quote. -/
def memberAhead (first : Bool) (c : Cursor) : Except Fault (Bool × Cursor) :=
  let c := c.skipSpace
  match c.rest with
  | [] => .error (c.faultAhead .endOfObject)
  | '\x7d' :: _ => .ok (false, c)
  | a :: _ =>
    if first then
      if a == '"' then .ok (true, c) else .error (c.faultAhead .keyMustBeString)
    else if a == ',' then
      let c := c.next.skipSpace
      match c.rest with
      | [] => .error (c.faultAhead .endOfValue)
      | '"' :: _ => .ok (true, c)
      | '\x7d' :: _ => .error (c.faultAhead .trailingComma)
      | _ => .error (c.faultAhead .keyMustBeString)
    else .error (c.faultAhead .expectedMemberEnd)

/-- The colon between a name and its value. -/
def colon (c : Cursor) : Except Fault Cursor :=
  let c := c.skipSpace
  match c.rest with
  | [] => .error (c.faultAhead .endOfObject)
  | ':' :: _ => .ok c.next
  | _ => .error (c.faultAhead .expectedColon)

/-- Where the end of an array leaves the cursor, and whether it was there. -/
def closeArray (c : Cursor) : Except Fault Unit × Cursor :=
  let c := c.skipSpace
  match c.rest with
  | [] => (.error (c.faultAhead .endOfArray), c)
  | ']' :: _ => (.ok (), c.next)
  | ',' :: _ =>
    let c := c.next.skipSpace
    (.error (c.faultAhead (if c.peek? == some ']' then .trailingComma else .trailingCharacters)), c)
  | _ => (.error (c.faultAhead .trailingCharacters), c)

/-- Where the end of an object leaves the cursor, and whether it was there. -/
def closeObject (c : Cursor) : Except Fault Unit × Cursor :=
  let c := c.skipSpace
  match c.rest with
  | [] => (.error (c.faultAhead .endOfObject), c)
  | '\x7d' :: _ => (.ok (), c.next)
  | ',' :: _ => (.error (c.faultAhead .trailingComma), c)
  | _ => (.error (c.faultAhead .trailingCharacters), c)

/-- The elements of an array after its bracket, each read by `item`. -/
def elementsFrom (item : Cursor → Except Fault (α × Cursor)) :
    Nat → Bool → List α → Cursor → Except Fault (List α × Cursor)
  | 0, _, _, c => .error (c.fault .endOfArray)
  | fuel + 1, first, read, c =>
    match c.elementAhead first with
    | .error e => .error e
    | .ok (false, c) => .ok (read.reverse, c.next)
    | .ok (true, c) =>
      match item c with
      | .error e => .error e
      | .ok (a, c) => elementsFrom item fuel false (a :: read) c

/-- The members of an object after its brace, each value read by `item`. -/
def membersFrom (item : Cursor → Except Fault (α × Cursor)) :
    Nat → Bool → List (String × α) → Cursor → Except Fault (List (String × α) × Cursor)
  | 0, _, _, c => .error (c.fault .endOfObject)
  | fuel + 1, first, read, c =>
    match c.memberAhead first with
    | .error e => .error e
    | .ok (false, c) => .ok (read.reverse, c.next)
    | .ok (true, c) =>
      match c.next.string with
      | .error e => .error e
      | .ok (name, c) =>
        match c.colon with
        | .error e => .error e
        | .ok c =>
          match item c with
          | .error e => .error e
          | .ok (a, c) => membersFrom item fuel false ((name, a) :: read) c

/-- A scalar document, or none when no scalar starts here. -/
def scalar? (c : Cursor) : Option (Except Fault (Json × Cursor)) :=
  match c.rest with
  | 'n' :: _ => some ((c.next.literal ['u', 'l', 'l']).map (.null, ·))
  | 't' :: _ => some ((c.next.literal ['r', 'u', 'e']).map (.bool true, ·))
  | 'f' :: _ => some ((c.next.literal ['a', 'l', 's', 'e']).map (.bool false, ·))
  | '-' :: _ => some ((c.next.number true).map fun (n, c) => (n.toJson, c))
  | '"' :: _ => some (c.next.string.map fun (s, c) => (.string s, c))
  | a :: _ =>
    if Text.isDigit a then some ((c.number false).map fun (n, c) => (n.toJson, c)) else none
  | [] => none

/-- One document, where `depth` brackets may be open at once, less one. -/
def value : Nat → Cursor → Except Fault (Json × Cursor)
  | 0, c => .error (c.faultAhead .recursionLimit)
  | depth + 1, c =>
    let c := c.skipSpace
    match c.scalar? with
    | some r => r
    | none =>
      match c.rest with
      | [] => .error (c.faultAhead .endOfValue)
      | '[' :: _ =>
        if depth = 0 then .error (c.faultAhead .recursionLimit)
        else
          (elementsFrom (value depth) (c.rest.length + 1) true [] c.next).map
            fun (es, c) => (.array es, c)
      | '\x7b' :: _ =>
        if depth = 0 then .error (c.faultAhead .recursionLimit)
        else
          (membersFrom (value depth) (c.rest.length + 1) true [] c.next).map
            fun (ms, c) => (.object ms, c)
      | _ => .error (c.faultAhead .expectedValue)

/-- The depth that a document may have: 127 brackets open at once. -/
def depthLimit : Nat := 128

/-! ### Passing over a document -/

/-- Passes over the rest of a quoted text. -/
def skipString : Nat → Cursor → Except Fault Cursor
  | 0, c => .error (c.fault .endOfString)
  | fuel + 1, c =>
    match c.rest with
    | [] => .error (c.fault .endOfString)
    | '"' :: _ => .ok c.next
    | '\\' :: rest =>
      match rest with
      | [] => .error (c.next.fault .endOfString)
      | 'u' :: _ =>
        match c.next.next.hexEscape with
        | .ok (_, c) => skipString fuel c
        | .error e => .error e
      | a :: _ =>
        if (simpleEscape? a).isSome then skipString fuel c.next.next
        else .error ⟨.invalidEscape, c.offset + 2⟩
    | a :: _ =>
      if a.toNat < 0x20 then .error (c.fault .controlCharacter) else skipString fuel c.next

/-- Passes over an exponent, the cursor being at its `e`. -/
def skipExponent (c : Cursor) : Except Fault Cursor :=
  let c := c.next
  let c := if c.peek? == some '+' || c.peek? == some '-' then c.next else c
  if c.digitAhead then .ok c.skipDigits else .error (c.next.fault .invalidNumber)

/-- Passes over a number after its sign. -/
def skipNumber (c : Cursor) : Except Fault Cursor :=
  if !c.digitAhead then .error (c.next.fault .invalidNumber)
  else if c.peek? == some '0' && c.next.digitAhead then .error (c.next.faultAhead .invalidNumber)
  else
    let c := c.skipDigits
    if c.peek? == some '.' then
      let c := c.next
      if !c.digitAhead then .error (c.faultAhead .invalidNumber)
      else if c.skipDigits.exponentAhead then c.skipDigits.skipExponent
      else .ok c.skipDigits
    else if c.exponentAhead then c.skipExponent
    else .ok c

/-- Passes over a scalar, or none when no scalar starts here. -/
def skipScalar? (c : Cursor) : Option (Except Fault Cursor) :=
  match c.rest with
  | 'n' :: _ => some (c.next.literal ['u', 'l', 'l'])
  | 't' :: _ => some (c.next.literal ['r', 'u', 'e'])
  | 'f' :: _ => some (c.next.literal ['a', 'l', 's', 'e'])
  | '-' :: _ => some c.next.skipNumber
  | '"' :: _ => some (skipString (c.rest.length + 1) c.next)
  | a :: _ => if Text.isDigit a then some c.skipNumber else none
  | [] => none

/-- A kind of bracket. -/
inductive Bracket where
  | square
  | curly
  deriving DecidableEq

/-- Where a pass over a document stands: before a value, before the name of a member, if the
innermost bracket is a brace, just after an opening bracket or just after a value. -/
inductive Stage where
  | value
  | member
  | opened
  | closed

/-- Passes over the rest of a document; `open'` are the brackets open, innermost first. -/
def skipFrom : Nat → Stage → List Bracket → Cursor → Except Fault Cursor
  | 0, _, _, c => .error (c.fault .endOfValue)
  | fuel + 1, .value, stack, c =>
    let c := c.skipSpace
    match c.skipScalar? with
    | some (.ok c) => skipFrom fuel .closed stack c
    | some (.error e) => .error e
    | none =>
      match c.rest with
      | [] => .error (c.faultAhead .endOfValue)
      | '[' :: _ => skipFrom fuel .opened (.square :: stack) c.next
      | '\x7b' :: _ => skipFrom fuel .opened (.curly :: stack) c.next
      | _ => .error (c.faultAhead .expectedValue)
  | fuel + 1, .member, stack, c =>
    match stack with
    | .curly :: _ =>
      let c := c.skipSpace
      match c.rest with
      | [] => .error (c.faultAhead .endOfObject)
      | '"' :: _ =>
        match skipString (c.rest.length + 1) c.next with
        | .error e => .error e
        | .ok c =>
          match c.colon with
          | .error e => .error e
          | .ok c => skipFrom fuel .value stack c
      | _ => .error (c.faultAhead .keyMustBeString)
    | _ => skipFrom fuel .value stack c
  | _ + 1, _, [], c => .ok c
  | fuel + 1, stage, frame :: stack, c =>
    let c := c.skipSpace
    let afterValue := match stage with
      | .closed => true
      | _ => false
    match c.rest with
    | [] => .error (c.faultAhead (if frame = .square then .endOfArray else .endOfObject))
    | a :: _ =>
      if a == ',' && afterValue then skipFrom fuel .member (frame :: stack) c.next
      else if (a == ']' && frame = .square) || (a == '\x7d' && frame = .curly) then
        skipFrom fuel .closed stack c.next
      else if afterValue then
        .error (c.faultAhead (if frame = .square then .expectedElementEnd else .expectedMemberEnd))
      else skipFrom fuel .member (frame :: stack) c

/-- Passes over one document. -/
def skip (c : Cursor) : Except Fault Cursor := skipFrom (3 * c.rest.length + 3) .value [] c

end Cursor

/-- Demands that nothing but blanks follows. -/
def endOfText (c : Cursor) : Except Fault Unit :=
  let c := c.skipSpace
  if c.rest.isEmpty then .ok () else .error (c.faultAhead .trailingCharacters)

/-- The document that a text holds. -/
def parse (text : String) : Except Fault Json := do
  let (j, c) ← (Cursor.start text).value Cursor.depthLimit
  endOfText c
  return j

end HostedScripts.Json
