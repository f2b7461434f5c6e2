import HostedScripts.Language.Token
import HostedScripts.Language.Choice

/-!
# Taking tokens

Reading is a computation `Read` on a `Reader`, the tokens left with the names in sight, that fails with
the first `CompileError`. Expressions, statements and blocks refer to each other; each of them is a step
over a `Grammar`, which holds how the parts one level down are read. The nesting that a script may have
is bounded apart from that: `Surroundings` tell how deeply a part is nested, and `deeper` fails at the
place of what surrounds the part once the bound is passed.

With strict names a module has to be imported, and a variable has to be declared before it is used or be
provided by the host. What the host provides is unknown here: the reader takes down each `Demand` for a
variable and goes on, and whoever knows the host refuses the script for the first demand that is not met.
-/

namespace HostedScripts.Language

/-- A variable that a script needs from its host, and why it does not compile if the host does not
provide it. -/
structure Demand where
  name : String
  error : CompileError

/-- A variable in sight. -/
structure Sighted where
  name : String
  isConstant : Bool
  isExported : Bool

/-- What the reader has seen: the tokens left, of which the last one is the end, and, the latest
first, the functions, the variables in sight, the modules in sight that the innermost script or
function imports, with an empty name if they have none, the variables that are used without being in
sight, and those that are needed from the host. `outside` variables were in sight where the
innermost block starts, and the `signature` tells the script from others. -/
structure Reader where
  tokens : List Placed
  functions : List Function
  inSight : List Sighted
  outside : Nat
  modules : List String
  modulesOutside : List String
  missing : List Name
  signature : Nat
  isStrict : Bool
  demands : List Demand

/-- Reading: takes tokens, or fails. What was needed from the host until then is known all the same.
-/
abbrev Read := ExceptT CompileError (StateM Reader)

/-- What surrounds the part that is read: how deeply it is nested, and may be; where the construct
starts that it belongs to; and whether it stands outside all blocks, in a function, in a loop, or in
a case, where bars separate the values and are no operators. -/
structure Surroundings where
  depth : Nat
  limit : Nat
  position : Position
  isGlobal : Bool
  inFunction : Bool
  inLoop : Bool
  inCase : Bool

/-- The surroundings with another place. -/
def Surroundings.startingAt (s : Surroundings) (p : Position) : Surroundings := { s with position := p }

/-- How the parts one level down are read. `operators` goes on after a left operand, as long as
operators bind at least so tightly, `member` from the name after a joint on, and `indices` from the
key of the first index on, after a joint. -/
structure Grammar where
  expr : Surroundings → Read Expr
  operand : Surroundings → Read Expr
  operators : Surroundings → Nat → Expr → Read Expr
  primary : Surroundings → Read Expr
  member : Surroundings → Joint → Read (List Link)
  indices : Surroundings → Option Expr → Joint → Read (List Link)
  block : Surroundings → Read (List Stmt × Position)
  stmt : Surroundings → Read Stmt
  conditional : Surroundings → Read Stmt

namespace Reader

/-! ### Tokens -/

/-- The next token. -/
def peek : Read Placed := do
  match (← get).tokens with
  | t :: _ => return t
  | [] => return ⟨.finish, ⟨1, 1⟩⟩

/-- Takes the next token; the end stays. -/
def next : Read Placed := do
  let r ← get
  match r.tokens with
  | t :: u :: rest => set { r with tokens := u :: rest }; return t
  | [t] => return t
  | [] => return ⟨.finish, ⟨1, 1⟩⟩

/-- Fails. -/
def fail {α : Type} (cause : CompileCause) (p : Position) : Read α := throw ⟨cause, p⟩

/-- Fails at a token: with its own fault if it is one. -/
def failAt {α : Type} (t : Placed) (cause : CompileCause) : Read α :=
  match t.token with
  | .fault f => fail (.badInput f) t.position
  | _ => fail cause t.position

/-- Whether a token is a mark. -/
def isSymbol (t : Placed) (s : String) : Bool :=
  match t.token with
  | .symbol u => u = s
  | _ => false

/-- Whether a token is a word. -/
def isKeyword (t : Placed) (s : String) : Bool :=
  match t.token with
  | .keyword u => u = s
  | _ => false

/-- Takes a mark if it is next; also tells the place of the next token. -/
def takeSymbol? (s : String) : Read (Bool × Position) := do
  let t ← peek
  if isSymbol t s then
    let _ ← next
    return (true, t.position)
  else return (false, t.position)

/-- Takes a word if it is next; also tells the place of the next token. -/
def takeKeyword? (s : String) : Read (Bool × Position) := do
  let t ← peek
  if isKeyword t s then
    let _ ← next
    return (true, t.position)
  else return (false, t.position)

/-- Takes a mark that has to be next. -/
def expect (s purpose : String) : Read Unit := do
  let t ← next
  if isSymbol t s then return () else failAt t (.missing s purpose)

/-- The surroundings one level further in. -/
def deeper (s : Surroundings) : Read Surroundings :=
  if s.limit < s.depth + 1 then fail .tooDeep s.position else return { s with depth := s.depth + 1 }

/-- Takes the first token of a construct, and tells its place and the surroundings inside. -/
def enter (s : Surroundings) : Read (Placed × Surroundings) := do
  let t ← next
  return (t, ← deeper (s.startingAt t.position))

/-- Takes the name of a variable. -/
def variableName : Read Name := do
  let t ← next
  match t.token with
  | .name s => return ⟨s, t.position⟩
  | .reserved s =>
    if CompileCause.isWord s then fail (.reserved s) t.position
    else fail .variableExpected t.position
  | _ => failAt t .variableExpected

/-- How many rounds a loop over tokens can have. -/
def rounds : Read Nat := return (← get).tokens.length + 1

/-! ### Names in sight -/

/-- Brings a variable into sight. -/
def sight (name : String) : Read Unit :=
  modify fun r => { r with inSight := ⟨name, false, false⟩ :: r.inSight }

/-- Changes the latest variable with a name. -/
def updated (name : String) (f : Sighted → Sighted) : List Sighted → List Sighted
  | [] => []
  | v :: vs => if v.name = name then f v :: vs else v :: updated name f vs

/-- Declares a variable; tells whether the same block has declared it before. A variable that is
exported is not declared anew, but hidden. -/
def declare (name : String) (isConstant : Bool) : Read Bool := do
  let r ← get
  let inner := r.inSight.take (r.inSight.length - r.outside)
  match inner.find? (·.name = name) with
  | some ⟨_, _, false⟩ =>
    set { r with inSight := updated name (fun v => { v with isConstant := isConstant }) r.inSight }
    return true
  | _ =>
    set { r with inSight := ⟨name, isConstant, false⟩ :: r.inSight }
    return false

/-- Marks a variable as exported: the latest one with a name, or the latest of all. -/
def markExported (name : Option String) : Read Unit :=
  modify fun r =>
    { r with
      inSight := match name, r.inSight with
        | some n, vs => updated n (fun v => { v with isExported := true }) vs
        | none, v :: vs => { v with isExported := true } :: vs
        | none, [] => [] }

/-- Reads something whose variables and modules go out of sight afterwards. -/
def withinScope {α : Type} (read : Read α) : Read α := do
  let before ← get
  let a ← read
  modify fun r =>
    { r with
      inSight := before.inSight
      outside := before.outside
      modules := before.modules
      modulesOutside := before.modulesOutside }
  return a

/-- Reads the inside of a block, which may declare names anew. -/
def withinBlock {α : Type} (read : Read α) : Read α := withinScope do
  modify fun r => { r with outside := r.inSight.length }
  read

/-- Takes note of a variable that is used. One that is not in sight is missing, unless a function
has its name; where names are strict, it is needed from the host. -/
def useVariable (name : Name) : Read Unit := do
  let r ← get
  let isKnown := r.inSight.any (·.name = name.text) || r.functions.any (·.name = name.text)
  if !isKnown then
    let demand : Demand := ⟨name.text, ⟨.undefinedVariable name.text, name.position⟩⟩
    set
      { r with
        missing := if r.missing.any (·.text = name.text) then r.missing else name :: r.missing
        demands := if r.isStrict then demand :: r.demands else r.demands }

/-- A path with the place where its module is found: the first import with its name counts. A module
that is not in sight is refused where names are strict. -/
def route (path : List Name) : Read Route := do
  let r ← get
  match path with
  | [] => return .none
  | root :: _ =>
    let isKnown := root.text = globalRoot || r.modules.contains root.text ||
      r.modulesOutside.contains root.text
    if r.isStrict && !isKnown then fail (.undefinedModule root.text) root.position
    let isBack (n : Nat) : Bool := r.modules[n]? = some root.text
    return ⟨path, ((List.range r.modules.length).reverse.find? isBack).map (· + 1)⟩

/-! ### Checks -/

/-- What an expression evidently is, if it is no truth value. -/
def notBoolean? : Expr → Option String
  | .constant .unit _ => some "()"
  | .constant (.function n b ds) _ => some (Datum.function n b ds).typeName
  | .constant (.int _) _ => some "a number"
  | .constant (.float _) _ => some "a floating-point number"
  | .constant (.char _) _ => some "a character"
  | .constant (.string _) _ | .interpolation _ _ => some "a string"
  | .array _ _ => some "an array"
  | .map _ _ => some "an object map"
  | _ => none

/-- Refuses an expression that evidently is no truth value. -/
def requireBoolean (e : Expr) : Read Expr :=
  match notBoolean? e with
  | some found => fail (.wrongKind "a boolean expression" found) e.start
  | none => return e

/-- What an expression evidently is, if there is nothing to go through. -/
def notIterable? : Expr → Option String
  | .constant .unit _ => some "()"
  | .constant (.bool _) _ => some "a boolean"
  | .constant (.int _) _ => some "a number"
  | .constant (.float _) _ => some "a floating-point number"
  | .constant (.char _) _ => some "a character"
  | .map _ _ => some "an object map"
  | _ => none

/-- Refuses an expression that evidently has nothing to go through. -/
def requireIterable (e : Expr) : Read Expr :=
  match notIterable? e with
  | some found => fail (.wrongKind "an iterable value" found) e.start
  | none => return e

/-- What an expression evidently is, if it is no key of a map. -/
def notKey? : Expr → Option String
  | .constant (.int _) _ => some "a number"
  | .constant (.float _) _ => some "a float"
  | .constant (.char _) _ => some "a character"
  | .constant .unit _ => some "()"
  | .constant (.bool _) _ | .all _ _ | .any _ _ => some "a boolean"
  | _ => none

/-- What an expression evidently is, if it is no index of an array or text, with the word for what
it should be. -/
def notPlace? : Expr → Option (String × String)
  | .constant (.string _) _ | .interpolation _ _ => some ("numeric", "a string")
  | .constant (.float _) _ => some ("integer", "a float")
  | .constant (.char _) _ => some ("integer", "a character")
  | .constant .unit _ => some ("integer", "()")
  | .constant (.bool _) _ | .all _ _ | .any _ _ => some ("integer", "a boolean")
  | _ => none

/-- Refuses an index that evidently does not fit the literal before it. -/
def requireIndex (indexed key : Expr) : Read Unit :=
  let refuse (expected found : String) : Read Unit :=
    fail (.malformedIndex (expected ++ " index, not " ++ found)) key.start
  match indexed with
  | .map _ _ =>
    match notKey? key with
    | some found => refuse "Object map expects string" found
    | none => return ()
  | .constant (.int _) _ | .constant (.string _) _ | .array _ _ | .interpolation _ _ =>
    match notPlace? key with
    | some (kind, found) => refuse ("Array, string or bit-field expects " ++ kind) found
    | none => return ()
  | _ => return ()

/-- Refuses a block where a condition is needed. -/
def requireCondition : Read Unit := do
  let t ← peek
  if isSymbol t "\x7b" then fail (.expressionExpected "a boolean") t.position

/-- The marks that combine an operator with an assignment. -/
def assigningOp? (s : String) : Option BinaryOp :=
  if s.endsWith "=" then
    (BinaryOp.ofSymbol? (s.dropEnd 1).toString).filter (·.canAssign)
  else none

/-- Refuses an assignment after a condition. -/
def refuseAssignment : Read Unit := do
  let t ← peek
  if isSymbol t "=" then
    fail (.badInput (.improperSymbol "=" "Possibly a typo of '=='?")) t.position

/-- Reads the condition of a statement. -/
def condition (g : Grammar) (s : Surroundings) : Read Expr := do
  requireCondition
  let e ← requireBoolean (← g.expr s)
  refuseAssignment
  return e

end Reader

end HostedScripts.Language
