import HostedScripts.Language.CompileError
import HostedScripts.Host

/-!
# Syntax trees

A script is a list of statements and the functions it defines. An `Expr` yields a value, a `Stmt` is
carried out; blocks and branches may stand for values as well. A `chain` is a value followed by
properties, indices and method calls; each of these links has a joint, the point or bracket that ties
it to what precedes.
-/

namespace HostedScripts.Language

/-- A value of a script. The entries of a map are in the order of their keys. A function has a name
and the first arguments, if they are given already; it is bound to a function of a script, or looked
up whenever it is called. A fixed value may not be changed where it is, and a shared one is that of
a cell, which several variables have. -/
inductive Datum where
  | unit
  | bool (b : Bool)
  | int (n : Int64)
  | float (x : Float)
  | char (c : Char)
  | string (s : String)
  | array (elements : List Datum)
  | map (entries : List (String × Datum))
  | range (first last : Int64) (inclusive : Bool)
  | host (handle : HostHandle)
  | function (name : String) (isBound : Bool) (given : List Datum)
  | fixed (d : Datum)
  | shared (cell : Nat)
  deriving Inhabited

/-- The operators between two operands; `rangeTo` leaves the end of the range out. -/
inductive BinaryOp where
  | add
  | subtract
  | multiply
  | divide
  | modulo
  | power
  | shiftLeft
  | shiftRight
  | bitAnd
  | bitOr
  | bitXor
  | equal
  | notEqual
  | less
  | lessEqual
  | greater
  | greaterEqual
  | rangeTo
  | rangeThrough
  deriving DecidableEq, Inhabited

namespace BinaryOp

/-- The mark of an operator. -/
def symbol : BinaryOp → String
  | add => "+"
  | subtract => "-"
  | multiply => "*"
  | divide => "/"
  | modulo => "%"
  | power => "**"
  | shiftLeft => "<<"
  | shiftRight => ">>"
  | bitAnd => "&"
  | bitOr => "|"
  | bitXor => "^"
  | equal => "=="
  | notEqual => "!="
  | less => "<"
  | lessEqual => "<="
  | greater => ">"
  | greaterEqual => ">="
  | rangeTo => ".."
  | rangeThrough => "..="

/-- All operators. -/
def all : List BinaryOp :=
  [add, subtract, multiply, divide, modulo, power, shiftLeft, shiftRight, bitAnd, bitOr, bitXor,
    equal, notEqual, less, lessEqual, greater, greaterEqual, rangeTo, rangeThrough]

/-- The operator with a mark. -/
def ofSymbol? (s : String) : Option BinaryOp := all.find? (·.symbol = s)

/-- Whether an operator can be combined with an assignment. -/
def canAssign : BinaryOp → Bool
  | add | subtract | multiply | divide | modulo | power | shiftLeft | shiftRight | bitAnd | bitOr
  | bitXor => true
  | _ => false

/-- How tightly an operator binds. -/
def precedence : BinaryOp → Nat
  | bitOr | bitXor => 30
  | bitAnd => 60
  | equal | notEqual => 90
  | less | lessEqual | greater | greaterEqual => 130
  | rangeTo | rangeThrough => 140
  | add | subtract => 150
  | multiply | divide | modulo => 180
  | power => 190
  | shiftLeft | shiftRight => 210

end BinaryOp

/-- The operators with one operand. -/
inductive UnaryOp where
  | plus
  | minus
  | not
  deriving DecidableEq, Inhabited

/-- The mark of an operator. -/
def UnaryOp.symbol : UnaryOp → String
  | .plus => "+"
  | .minus => "-"
  | .not => "!"

/-- A name with its place. -/
structure Name where
  text : String
  position : Position
  deriving DecidableEq, Inhabited

/-- A path to a module, which may be empty: the names that lead to it, and where the module with the
first one is found among those in sight, counted back from the latest, if the same script or
function imports it. -/
structure Route where
  names : List Name
  back : Option Nat
  deriving DecidableEq, Inhabited

namespace Route

/-- No path. -/
def none : Route := ⟨[], Option.none⟩

/-- A path in words. -/
def text (r : Route) : String := "::".intercalate (r.names.map (·.text))

/-- The place where a path starts, or another one if it is empty. -/
def start (r : Route) (p : Position) : Position := (r.names.head?.map (·.position)).getD p

end Route

/-- What ties a link of a chain to what precedes it. If it is optional, the rest of the chain is
only followed from a value, and stands for none otherwise. -/
structure Joint where
  position : Position
  isOptional : Bool
  deriving DecidableEq, Inhabited

/-- The root of the paths to the constants that stand outside all blocks. -/
def globalRoot : String := "global"

/-- The name of the object of a method inside the method. -/
def objectName : String := "this"

mutual

/-- An expression. A constant is written down, or known beforehand, then its place is
`Position.nowhere`. An open call is one of a function that sees the variables of its caller.
Conditions of which all or any have to hold are only looked at if those before them do not decide. A
block stands for the value of its last statement. -/
inductive Expr where
  | constant (value : Datum) (position : Position)
  | interpolation (parts : List Expr) (position : Position)
  | array (elements : List Expr) (position : Position)
  | map (entries : List (String × Expr)) (position : Position)
  | lookup (name : String) (position : Position)
  | member (path : Route) (name : String) (position : Position)
  | call (path : Route) (name : String) (arguments : List Expr) (position : Position)
  | callOpen (name : String) (arguments : List Expr) (position : Position)
  | unary (op : UnaryOp) (operand : Expr) (position : Position)
  | binary (op : BinaryOp) (left right : Expr) (position : Position)
  | all (conditions : List Expr) (position : Position)
  | any (conditions : List Expr) (position : Position)
  | orElse (left right : Expr) (position : Position)
  | chain (root : Expr) (links : List Link) (position : Position)
  | block (body : List Stmt) (position : Position)

/-- A step from a value to a part of it. -/
inductive Link where
  | property (name : String) (position : Position) (joint : Joint)
  | index (key : Expr) (joint : Joint)
  | method (name : String) (arguments : List Expr) (position : Position) (joint : Joint)

/-- A statement. A call that makes up a statement of its own is performed. What is declared anew has
been declared by the same block. An assignment combines with an operator if there is one.
`repeatWhile` goes on forever without a condition, and `repeatUntil` repeats at least once, while
its condition has the truth value. A module may be loaded without a name. Variables that are shared
share their values with those that take them over. -/
inductive Stmt where
  | skip (position : Position)
  | expr (e : Expr)
  | perform (call : Expr)
  | declare (name : String) (isConstant isExported isAnew : Bool) (value : Expr)
      (position : Position)
  | assign (op : Option BinaryOp) (opPosition : Position) (target value : Expr)
  | branch (condition : Expr) (yes : List Stmt) (yesPosition : Position) (no : List Stmt)
      (noPosition : Position) (position : Position)
  | choose (subject : Expr) (cases : List Case) (otherwise : Option Expr) (position : Position)
  | repeatWhile (condition : Option Expr) (body : List Stmt) (bodyPosition : Position)
      (position : Position)
  | repeatUntil (body : List Stmt) (bodyPosition : Position) (condition : Expr) (goOn : Bool)
      (position : Position)
  | each (name : String) (counter : Option String) (elements : Expr) (body : List Stmt)
      (bodyPosition : Position) (position : Position)
  | leave (value : Option Expr) (position : Position)
  | next (position : Position)
  | answer (value : Option Expr) (position : Position)
  | raise (value : Option Expr) (position : Position)
  | attempt (body : List Stmt) (bodyPosition : Position) (name : Option String)
      (handler : List Stmt) (position : Position)
  | load (source : Expr) (shownAs : String) (position : Position)
  | expose (name : Name) (shownAs : String) (position : Position)
  | share (names : List Name) (position : Position)
  | block (body : List Stmt) (position : Position)

/-- A case of a choice by a value: values, a condition, and what the choice stands for then. -/
inductive Case where
  | mk (values : List Datum) (condition : Option Expr) (body : Expr)

end

instance : Inhabited Expr := ⟨.constant .unit default⟩

instance : Inhabited Stmt := ⟨.skip default⟩

instance : Inhabited Case := ⟨.mk [] none default⟩

instance : Inhabited Link := ⟨.property "" default default⟩

/-- The joint of a link. -/
def Link.joint : Link → Joint
  | .property _ _ q | .index _ q | .method _ _ _ q => q

namespace Expr

/-- The place of an expression: of its operator if it has one, and of the first joint of a chain. -/
def position : Expr → Position
  | constant _ p | interpolation _ p | array _ p | map _ p | lookup _ p | member _ _ p
  | call _ _ _ p | callOpen _ _ p | unary _ _ p | binary _ _ _ p | all _ p | any _ p | orElse _ _ p
  | chain _ _ p | block _ p => p

/-- Where an expression starts. -/
def start : Expr → Position
  | member path _ p | call path _ _ p => path.start p
  | all (e :: _) _ | any (e :: _) _ | orElse e _ _ => e.start
  | chain root _ _ => root.start
  | e => e.position

/-- The expression with another place. -/
def withPosition (p : Position) : Expr → Expr
  | constant v _ => constant v p
  | interpolation parts _ => interpolation parts p
  | array es _ => array es p
  | map entries _ => map entries p
  | lookup name _ => lookup name p
  | member path name _ => member path name p
  | call path name args _ => call path name args p
  | callOpen name args _ => callOpen name args p
  | unary op e _ => unary op e p
  | binary op l r _ => binary op l r p
  | all es _ => all es p
  | any es _ => any es p
  | orElse l r _ => orElse l r p
  | chain root links _ => chain root links p
  | block body _ => block body p

end Expr

/-- Whether an expression is a call: of a function or of an operator. -/
def Expr.isCall : Expr → Bool
  | .call _ _ _ _ | .callOpen _ _ _ | .unary _ _ _ | .binary _ _ _ _ => true
  | _ => false

/-- The place of a statement. -/
def Stmt.position : Stmt → Position
  | .expr e => e.start
  | .perform e => e.position
  | .assign _ p _ _ | .skip p | .declare _ _ _ _ _ p | .branch _ _ _ _ _ p | .choose _ _ _ p
  | .repeatWhile _ _ _ p | .repeatUntil _ _ _ _ p | .each _ _ _ _ _ p | .leave _ p | .next p
  | .answer _ p | .raise _ p | .attempt _ _ _ _ p | .load _ _ p | .expose _ _ p | .share _ p
  | .block _ p => p

/-- A function that a script defines; `receiver` is the type of the objects that it is a method of,
if it is a method of one type only, and a private one is kept to its script. -/
structure Function where
  name : String
  receiver : Option String
  parameters : List String
  isPrivate : Bool
  body : List Stmt
  deriving Inhabited

/-- What the names start with of functions that are written where they are used. -/
def Function.namelessMark : String := "anon$"

/-- Whether a name is that of a function that is written where it is used. -/
def Function.isNamelessName (name : String) : Bool := name.startsWith namelessMark

/-- The name of such a function by its number. -/
def Function.namelessName (n : Nat) : String :=
  let digits := Nat.toDigits 16 (n % Nat.pow 2 64)
  namelessMark ++ String.ofList (List.replicate (16 - digits.length) '0' ++ digits)

/-- A compiled script. -/
structure Program where
  body : List Stmt
  functions : List Function
  deriving Inhabited

end HostedScripts.Language
