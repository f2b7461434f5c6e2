import HostedScripts.Language.Failure

/-!
# Operators on values

`builtIn?` is the meaning of an operator by itself: on numbers, where an integer next to a double becomes
one, on truth values, characters and texts; values of different types are never equal and never before
one another. `registered?` adds what libraries define: joining any value to a text, and arrays, maps and
ranges. Ranges and host applications are unknown to the operators themselves, so a function is looked up
for them in any case. Integer arithmetic that leaves 64 bits fails. Doubles that are nearly the same are
equal.
-/

namespace HostedScripts.Language

/-- The result of a calculation with integers, or its failure. -/
def Datum.ofInteger (n : Int) (complaint : String) : Except Cause Datum :=
  if Value.fitsInt64 n then .ok (.int (Int64.ofInt n)) else .error (.arithmetic complaint)

namespace BinaryOp

/-- Two numbers with a mark between them. -/
def formula (a b : Int64) (op : BinaryOp) : String :=
  toString a.toInt ++ " " ++ op.symbol ++ " " ++ toString b.toInt

/-- The greatest exponent that is tried. -/
def greatestExponent : Int64 := 4294967295

/-- A power of integers. -/
def integerPower (a b : Int64) : Except Cause Datum :=
  if b < 0 then .error (.arithmetic ("Integer raised to a negative power: " ++ formula a b power))
  else
    let complaint := "Exponential overflow: " ++ formula a b power
    let base := a.toInt
    let exponent := b.toInt.toNat
    if greatestExponent < b then .error (.arithmetic complaint)
    else if exponent = 0 then .ok (.int 1)
    else if base.natAbs ≤ 1 then
      Datum.ofInteger (if exponent % 2 = 0 then base * base else base) complaint
    else if exponent ≥ 64 then .error (.arithmetic complaint)
    else Datum.ofInteger (Int.pow base exponent) complaint

/-- A shift to the left, or to the right for a negative number of places. -/
def shifted (a : Int64) (places : Int) : Int64 :=
  if places ≥ 64 then 0
  else if places ≥ 0 then Int64.ofInt (a.toInt * Int.pow 2 places.toNat)
  else if places ≤ -64 then (if a < 0 then -1 else 0)
  else Int64.ofInt (Int.fdiv a.toInt (Int.pow 2 (-places).toNat))

/-- A comparison, if the operator is one. -/
def comparison? (op : BinaryOp) (equal less : Bool) : Option Bool :=
  match op with
  | .equal => some equal
  | notEqual => some !equal
  | .less => some less
  | lessEqual => some (less || equal)
  | greater => some !(less || equal)
  | greaterEqual => some !less
  | _ => none

/-- An operator on integers. -/
def onIntegers? (op : BinaryOp) (a b : Int64) : Option (Except Cause Datum) :=
  let f := formula a b op
  let x := a.toInt
  let y := b.toInt
  match op with
  | add => some (Datum.ofInteger (x + y) ("Addition overflow: " ++ f))
  | subtract => some (Datum.ofInteger (x - y) ("Subtraction overflow: " ++ f))
  | multiply => some (Datum.ofInteger (x * y) ("Multiplication overflow: " ++ f))
  | divide =>
    if b = 0 then some (.error (.arithmetic ("Division by zero: " ++ f)))
    else some (Datum.ofInteger (Int.tdiv x y) ("Division overflow: " ++ f))
  | modulo =>
    if b = 0 || !Value.fitsInt64 (Int.tdiv x y) then
      some (.error (.arithmetic ("Modulo division by zero or overflow: " ++ f)))
    else some (.ok (.int (Int64.ofInt (Int.tmod x y))))
  | power => some (integerPower a b)
  | shiftLeft => some (.ok (.int (shifted a y)))
  | shiftRight => some (.ok (.int (shifted a (-y))))
  | bitAnd => some (.ok (.int (a &&& b)))
  | bitOr => some (.ok (.int (a ||| b)))
  | bitXor => some (.ok (.int (a ^^^ b)))
  | rangeTo => some (.ok (.range a b false))
  | rangeThrough => some (.ok (.range a b true))
  | _ => (comparison? op (a = b) (a < b)).map fun r => .ok (.bool r)

/-- The remainder of doubles, with the sign of the first. -/
def floatRemainder (x y : Float) : Float :=
  if !Decimal.isFinite x || Decimal.isZero y || y.isNaN then 0.0 / 0.0
  else if !Decimal.isFinite y then x
  else
    let m := Decimal.magnitude x
    let n := Decimal.magnitude y
    let e := min m.exponent n.exponent
    let a := m.significand * Nat.pow 2 (m.exponent - e).toNat
    let b := n.significand * Nat.pow 2 (n.exponent - e).toNat
    let z := Float.scaleB (a % b).toFloat e
    if Decimal.isNegative x then -z else z

/-- How far apart doubles may be at most that are equal. -/
def tolerance : Float := Float.scaleB 1.0 (-52)

/-- How far a double is above another one, in relation to the greater one unless their product is
zero. -/
def excess (x y : Float) : Float :=
  let greater := if x.abs < y.abs then y.abs else x.abs
  (x - y) / (if x * y == 0.0 then 1.0 else greater)

/-- An operator on doubles. -/
def onFloats? (op : BinaryOp) (x y : Float) : Option Datum :=
  match op with
  | add => some (.float (x + y))
  | subtract => some (.float (x - y))
  | multiply => some (.float (x * y))
  | divide => some (.float (x / y))
  | modulo => some (.float (floatRemainder x y))
  | power => some (.float (x.pow y))
  | .equal => some (.bool ((excess x y).abs ≤ tolerance))
  | notEqual => some (.bool (tolerance < (excess x y).abs))
  | .less => some (.bool (tolerance < excess y x))
  | lessEqual => some (.bool (-tolerance < excess y x))
  | greater => some (.bool (tolerance < excess x y))
  | greaterEqual => some (.bool (-tolerance < excess x y))
  | _ => none

/-- An operator on truth values. -/
def onBools? (op : BinaryOp) (a b : Bool) : Option Datum :=
  match op with
  | bitAnd => some (.bool (a && b))
  | bitOr => some (.bool (a || b))
  | bitXor => some (.bool (a != b))
  | _ => (comparison? op (a == b) (!a && b)).map .bool

/-- A text without the places where another one occurs. -/
def without (s part : String) : String := String.join (s.splitOn part)

/-- An operator on texts. -/
def onStrings? (op : BinaryOp) (s t : String) : Option Datum :=
  match op with
  | add => some (.string (s ++ t))
  | subtract => some (.string (if t = "" then s else without s t))
  | _ => (comparison? op (s == t) (s < t)).map .bool

/-- What an operator that compares says about values of different types. -/
def onDifferent? (op : BinaryOp) : Option Datum := (comparison? op false false).map fun _ =>
  .bool (op = notEqual)

/-- The meaning of an operator by itself. -/
def builtIn? (op : BinaryOp) (a b : Datum) : Option (Except Cause Datum) :=
  match a.bare, b.bare with
  | .int x, .int y => onIntegers? op x y
  | .float x, .float y => (onFloats? op x y).map .ok
  | .int x, .float y => (onFloats? op x.toFloat y).map .ok
  | .float x, .int y => (onFloats? op x y.toFloat).map .ok
  | .bool x, .bool y => (onBools? op x y).map .ok
  | .string s, .string t => (onStrings? op s t).map .ok
  | .string s, .char c => (onStrings? op s (String.singleton c)).map .ok
  | .char c, .string t =>
    if op = subtract then none else (onStrings? op (String.singleton c) t).map .ok
  | .char c, .char d =>
    match op with
    | add => some (.ok (.string (String.ofList [c, d])))
    | _ => (comparison? op (c = d) (c < d)).map fun r => .ok (.bool r)
  | .unit, .unit => (comparison? op true false).map fun _ => .ok (.bool (op = .equal))
  | .unit, .string s | .string s, .unit =>
    if op = add then some (.ok (.string s)) else (onDifferent? op).map .ok
  | .range _ _ i, .range _ _ j => if op = notEqual && i != j then some (.ok (.bool true)) else none
  | .array _, .array _ | .map _, .map _ | .host _, .host _ | .function _ _ _, .function _ _ _ => none
  | _, _ => (onDifferent? op).map .ok

end BinaryOp

namespace Datum

/-- There is no function that compares two values. -/
def incomparable (a b : Datum) : Cause :=
  .noFunction ("== (" ++ a.typeName ++ ", " ++ b.typeName ++ ")")

/-- What a comparison of parts says: parts of different types differ where nothing compares them. -/
def comparedParts (a b : Datum) : Except Cause Bool → Except Cause Bool
  | .error cause => if a.typeName = b.typeName then .error cause else .ok false
  | result => result

mutual

/-- Whether two values that are not fixed are equal. -/
def equals : Datum → Datum → Except Cause Bool
  | array es, array fs => if es.length = fs.length then elementsEqual es fs else .ok false
  | map es, map fs => if es.length = fs.length then entriesEqual es fs else .ok false
  | range a b i, range c d j =>
    if i = j then .ok (a = c && b = d) else .error (incomparable (range a b i) (range c d j))
  | a, b =>
    match BinaryOp.builtIn? .equal a b with
    | some (.ok (bool r)) => .ok r
    | _ => .error (incomparable a b)

/-- Whether values are equal to others, in their order. -/
def elementsEqual : List Datum → List Datum → Except Cause Bool
  | a :: as, b :: bs => do
    if ← comparedParts a b (equals a b) then elementsEqual as bs else return false
  | _, _ => .ok true

/-- Whether entries are equal to those of a map. -/
def entriesEqual : List (String × Datum) → List (String × Datum) → Except Cause Bool
  | [], _ => .ok true
  | (k, a) :: as, bs => do
    match Dictionary.get? k bs with
    | some b => if ← equals a b then entriesEqual as bs else return false
    | none => return false

end

/-- The number of the first value that is equal to another one, counted from a number on. -/
def indexOfEqual? (d : Datum) (n : Nat) : List Datum → Except Cause (Option Nat)
  | [] => .ok none
  | e :: es => do
    if ← comparedParts e d (equals e.free d.free) then return some n else indexOfEqual? d (n + 1) es

end Datum

namespace BinaryOp

/-- The meaning of an operator that libraries define. -/
def registered? (op : BinaryOp) (a b : Datum) : Option (Except Cause Datum) :=
  match op, a.bare, b.bare with
  | add, .string s, d => some (.ok (.string (s ++ d.printed)))
  | add, d, .string t => some (.ok (.string (d.printed ++ t)))
  | add, .array es, .array fs => some (.ok (.array (es ++ fs)))
  | add, .map es, .map fs => some (.ok (.map (Dictionary.union es fs)))
  | .equal, .array _, .array _ | .equal, .map _, .map _ => some ((a.free.equals b.free).map .bool)
  | notEqual, .array _, .array _ | notEqual, .map _, .map _ =>
    some ((a.free.equals b.free).map fun r => .bool !r)
  | .equal, .range m n i, .range o p j => if i = j then some (.ok (.bool (m = o && n = p))) else none
  | notEqual, .range m n i, .range o p j =>
    if i = j then some (.ok (.bool !(m = o && n = p))) else none
  | _, _, _ => none

/-- The signature of an operator on two values. -/
def signature (op : BinaryOp) (a b : Datum) : String :=
  op.symbol ++ " (" ++ a.signatureName ++ ", " ++ b.signatureName ++ ")"

/-- The value of an operator. A failure of a built-in calculation has no place of its own. -/
def apply (op : BinaryOp) (a b : Datum) (p : Position) : Except Failure Datum :=
  match builtIn? op a b with
  | some (.ok d) => .ok d
  | some (.error cause) => .error (.plain cause none)
  | none =>
    match registered? op a b with
    | some result => result.mapError (.plain · (some p))
    | none => .error (.plain (.noFunction (op.signature a b)) (some p))

/-- How many functions are looked up for an operator: none if it knows the operands itself. -/
def lookUps (op : BinaryOp) (a b : Datum) : Nat :=
  if a.isForeign || b.isForeign || (builtIn? op a b).isNone then 1 else 0

/-- The value of an operator combined with an assignment. A failure is placed at the operator. -/
def applyAssigning (op : BinaryOp) (a b : Datum) (p : Position) : Except Failure Datum :=
  match op, a, b.bare with
  | add, .array es, .array fs => .ok (.array (es ++ fs))
  | add, .array es, _ => .ok (.array (es ++ [b]))
  | add, .char c, .string "" => .ok (.char c)
  | _, _, _ => (apply op a b p).mapError (·.fillPosition p)

/-- How many functions are looked up for an operator combined with an assignment: one where
libraries define the combination, and another one where only the operator itself has a meaning. -/
def lookUpsAssigning (op : BinaryOp) (a b : Datum) : Nat :=
  match op, a, b.bare with
  | add, .array _, _ => 0
  | add, .string _, .string _ | add, .string _, .char _ => 0
  | add, .string _, _ | add, .map _, .map _ => 1
  | _, .int _, .float _ => 2
  | _, _, _ => if a.isForeign || b.isForeign || (builtIn? op a b).isNone then 2 else 0

end BinaryOp

namespace UnaryOp

/-- The value of an operator with one operand. -/
def apply (op : UnaryOp) (d : Datum) (p : Position) : Except Failure Datum :=
  match op, d.bare with
  | .minus, .int n =>
    (Datum.ofInteger (-n.toInt) ("Negation overflow: -" ++ toString n.toInt)).mapError
      (.plain · (some p))
  | .minus, .float x => .ok (.float (-x))
  | .plus, .int n => .ok (.int n)
  | .plus, .float x => .ok (.float x)
  | .not, .bool b => .ok (.bool !b)
  | _, _ => .error (.plain (.noFunction (op.symbol ++ " (" ++ d.signatureName ++ ")")) (some p))

/-- How many functions are looked up for an operator with one operand. -/
def lookUps (op : UnaryOp) (d : Datum) : Nat :=
  match op, d.bare with
  | .not, .bool _ => 0
  | _, _ => 1

end UnaryOp

end HostedScripts.Language
