import HostedScripts.Language.Focus
import HostedScripts.Language.FunctionName
import HostedScripts.Language.Reader.Statements

/-!
# Variables and calls

An `Evaluator` holds how the parts one level down are worked out.

* Functions see their parameters and the modules of their callers, and no other variables. A failure
  inside a function is wrapped by the call, unless it ends the whole script.
* Functions that scripts define come before those of the library.
* A function can be a value, which may carry its first arguments. A variable among these shares its value
  with the variable that it was taken from.
* A function of the library that changes its first argument changes the variable that stands there,
  unless that is a constant: then it changes a copy. Any other value that is fixed it refuses.
-/

namespace HostedScripts.Language

/-- How the parts one level down are worked out. -/
structure Evaluator where
  expr : Expr → Run Datum
  stmt : Stmt → Run Datum

namespace Evaluator

open Computation Run

/-- The value of the last of some statements. -/
def stmts (g : Evaluator) : List Stmt → Run Datum
  | [] => pure .unit
  | [s] => g.stmt s
  | s :: ss => do
    let _ ← g.stmt s
    stmts g ss

/-- The value of a block. -/
def block (g : Evaluator) (body : List Stmt) : Run Datum :=
  if body.isEmpty then pure .unit else withinBlock (stmts g body)

/-! ### Variables and modules -/

/-- The module that a path leads to, if its root is in sight: where it is expected, or the latest
one with its name. -/
def moduleAt? (path : Route) (p : Position) : Run (Option Module) := do
  match path.names with
  | [] => return none
  | root :: rest =>
    let modules := (← get).modules
    let expected? := path.back.bind fun n => (modules[n - 1]?).map (·.2)
    match expected? <|> modules.lookup root.text with
    | some m => return m.follow (rest.map (·.text))
    | none => failAt (.noModule path.text) (path.start p)

/-- The variable of a module, or the constant outside all blocks. -/
def memberValue (path : Route) (name : String) (p : Position) : Run Datum := do
  let m ← get
  let isGlobal := path.names.map (·.text) = [globalRoot] && (m.modules.lookup globalRoot).isNone
  let found? ←
    if isGlobal then pure (m.constants.get? name)
    else pure (((← moduleAt? path p).map (·.vars)).bind (·.get? name))
  match found? with
  | some d => return d.fix
  | none => failAt (.noVariable (path.text ++ "::" ++ name)) (path.start p)

/-- The latest variable with a name, with its value as the variable holds it. -/
def binding (name : String) (p : Position) : Run Binding := do
  match (← get).scope.lookUp name with
  | some b => return b
  | none => failAt (if name = objectName then .noObject else .noVariable name) p

/-- Whether there is a variable with a name. -/
def isDeclared (name : String) : Run Bool := return ((← get).scope.lookUp name).isSome

/-- Whether a script has a function with a name. -/
def isFunction (name : String) : Run Bool :=
  return (← get).functions.any fun s => s.functions.any (·.name = name)

/-- The value of a variable, or the function with the name if there is no variable. -/
def valueOf (name : String) (p : Position) : Run Datum := do
  if !(← isDeclared name) && (← isFunction name) then return .function name true []
  let b ← binding name p
  return (← get).content b.value

/-- Demands that there is an object if an expression stands for it. -/
def requireObject : Expr → Run Unit
  | .lookup name p => do
    if name = objectName then
      let _ ← binding name p
  | _ => pure ()

/-- Gives a variable another value as it is. -/
def store (name : String) (value : Datum) : Run Unit := modify (Machine.store name value)

/-! ### Functions of scripts -/

/-- A function of a script that is called, with the module that it belongs to; an open one sees the
variables of its caller. `enter` tells what becomes of the machine when the function is entered. -/
structure Callee where
  function : Function
  source : String
  arguments : List Datum
  isOpen : Bool
  enter : Machine → Machine

namespace Callee

/-- The machine when the function is entered, as a method of an object if there is one. -/
def entered (c : Callee) (object : Option Datum) (before : Machine) : Machine :=
  let parameters := (c.function.parameters.zip c.arguments).map fun (name, d) => Binding.mk name d.free []
  let objects := object.toList.map fun d => Binding.mk objectName d []
  c.enter { before with
    scope := parameters.reverse ++ objects ++ if c.isOpen then before.scope else []
    source := c.source
    depth := before.depth + 1
    blocks := before.blocks + 1 }

/-- The machine after the call, from that before and that at the end of the function. -/
def left (c : Callee) (before m : Machine) : Machine :=
  { m with
    scope := if c.isOpen then m.scope.rewind before.scope.length else before.scope
    modules := before.modules
    functions := before.functions
    constants := before.constants
    source := before.source
    depth := before.depth
    blocks := before.blocks }

theorem left_scope (c : Callee) (before m : Machine) :
    (c.left before m).scope <:+ (if !c.isOpen then before else m).scope := by
  cases h : c.isOpen
  · simp [left, h]
  · simpa [left, h] using m.scope.rewind_suffix _

/-- The way through a call. -/
def passage (c : Callee) : Passage Machine Machine where
  enter := c.entered none
  back := c.left
  isClosed := !c.isOpen
  changing := []
  said _ _ := rfl
  operations _ _ := rfl
  keeps before m := ⟨Scope.without_suffix _ (c.left_scope before m), fun _ => rfl⟩

/-- The way through a call of a method, which may change its object. -/
def passageOn (c : Callee) : Passage (Datum × Machine) Machine where
  enter x := c.entered (some x.1) x.2
  back x m := ((m.scope.held? objectName).getD x.1, c.left x.2 m)
  isClosed := !c.isOpen
  changing := []
  said _ _ := rfl
  operations _ _ := rfl
  keeps x m := ⟨Scope.without_suffix _ (c.left_scope x.2 m), fun _ => rfl⟩

/-- A failure of the function, as its caller sees it at a place. -/
def wrapped (c : Callee) (p : Position) (f : Failure) : Failure :=
  if f.passesCalls then f.withPosition (some p) else .inCall c.function.name c.source f (some p)

/-- What a call comes to at a place, from what the function came to. -/
def result (c : Callee) (p : Position) : Except Interrupt Datum → Except Interrupt Datum
  | .error (.answer d) => .ok d
  | r => r.mapError (Interrupt.mapFailure (c.wrapped p))

theorem isFaithful_result (c : Callee) (p : Position) : IsFaithful (c.result p) := by
  intro f code hcode
  refine ⟨c.wrapped p f, rfl, ?_, fun hcatch => ?_⟩ <;> unfold wrapped
  · split
    · rw [f.exitCode?_withPosition, hcode]
    · exact hcode
  · cases f with
    | plain cause q => simp_all [Failure.passesCalls, Failure.isCatchable, Failure.withPosition]
    | inCall function source inner q => cases hcatch
    | inModule name inner q => cases hcatch

end Callee

/-- Counts a call, and demands that calls are not nested too deeply. -/
def countCall (p : Position) : Run Unit := do
  tick p
  if (← read).maxCallLevels ≤ (← get).depth then failAt .tooManyCalls p

/-- Calls a function that a script defines. -/
def callFunction (g : Evaluator) (c : Callee) (p : Position) : Run Datum := do
  countCall p
  turned (c.result p) (c.isFaithful_result p) (inside c.passage (stmts g c.function.body))

/-- Calls a function that a script defines as a method of the value. -/
def callFunctionOn (g : Evaluator) (c : Callee) (p : Position) : Focus Datum := do
  Focus.lift (countCall p)
  turned (c.result p) (c.isFaithful_result p) (inside c.passageOn (stmts g c.function.body))

/-- The function with a name for some number of arguments, with the module it belongs to. If there
is an object, the methods of its type come first. A function without a name of its own is known
wherever its value gets to. -/
def function? (name : String) (arity : Nat) (object : Option Datum) :
    Run (Option (Function × String)) := do
  let m ← get
  let elsewhere := if Function.isNamelessName name then m.loaded.map (·.2.functions) else []
  let find? (receiver : Option String) : Option (Function × String) :=
    (m.functions ++ elsewhere).findSome? fun s =>
      (s.find? name arity receiver).map fun f => (f, s.source)
  return (object.bind fun d => find? (some d.typeName)) <|> find? none

/-! ### Functions of the library -/

/-- The signature of a call. -/
def signature (name : String) (arguments : List Datum) : String :=
  name ++ " (" ++ ", ".intercalate (arguments.map (·.signatureName)) ++ ")"

/-- Calls a function of the library. -/
def callLibrary (name : String) (arguments : List Datum) (p : Position) : Run Effect := do
  match name, arguments with
  | "print", [] => say false ""; return ⟨.unit, none⟩
  | "print", [d] => say false d.printed; return ⟨.unit, none⟩
  | "debug", [] => say true ("[debug line " ++ toString p.line ++ "] "); return ⟨.unit, none⟩
  | "debug", [d] =>
    say true ("[debug line " ++ toString p.line ++ "] " ++ d.debugged)
    return ⟨.unit, none⟩
  | "exit", [] => depart 0 p
  | "exit", [d] =>
    match d.bare with
    | .int code => depart code p
    | _ => interrupt (.finish d)
  | _, _ =>
    match Library.library? name arguments with
    | some (.ok effect) =>
      if effect.changed.isSome && (arguments.head?.map (·.isFixed)).getD false then
        failAt (.constantMethod name) p
      return effect
    | some (.error cause) => failAt cause p
    | none => failAt (.noFunction (signature name arguments)) p

/-- Calls a function of the library and counts it, unless it asks for a type. -/
def countedLibrary (name : String) (arguments : List Datum) (p : Position) : Run Effect := do
  if name ≠ "type_of" then tick p
  callLibrary name arguments p

/-! ### Calls -/

/-- Calls the function with a name. A function of a script without statements is not even counted,
unless the call is bound to it. -/
def callNamed (g : Evaluator) (name : String) (isBound isOpen : Bool) (arguments : List Datum)
    (p : Position) : Run Effect := do
  match ← function? name arguments.length none with
  | some (f, source) =>
    if f.body.isEmpty && !isBound then return ⟨.unit, none⟩
    return ⟨← callFunction g ⟨f, source, arguments, isOpen, id⟩ p, none⟩
  | none => countedLibrary name (← arguments.mapM fun d => return (← get).content d) p

/-- Calls a function as a method of the value. -/
def callOnValue (g : Evaluator) (name : String) (isBound : Bool) (arguments : List Datum)
    (p : Position) : Focus Datum := do
  let object ← get
  match ← Focus.lift (function? name arguments.length (some object)) with
  | some (f, source) =>
    if f.body.isEmpty && !isBound then return .unit
    callFunctionOn g ⟨f, source, arguments, false, id⟩ p
  | none =>
    let arguments ← Focus.lift (arguments.mapM fun d => return (← get).content d)
    let effect ← Focus.lift (countedLibrary name (object :: arguments) p)
    match effect.changed with
    | none => return effect.value
    | some changed =>
      set changed
      return effect.value

/-- Calls a method of an object; the first place is that of the first argument. A function that is
called takes the object as its own, and so does one in an entry of a map. -/
def callMethod (g : Evaluator) (name : String) (arguments : List Datum) (q p : Position) :
    Focus Datum := do
  let object ← get
  match name, object.bare, arguments.map (·.bare) with
  | "call", .function f isBound given, _ =>
    return (← Focus.lift (callNamed g f isBound false (given ++ arguments) p)).value
  | "call", _, .function f isBound given :: _ =>
    callOnValue g f isBound (given ++ arguments.drop 1) p
  | "call", _, d :: _ => Focus.lift (failAt (.wrongType "Fn" d.typeName) q)
  | "call", d, [] | "curry", d, _ =>
    match d with
    | .function f isBound given => return .function f isBound (given ++ arguments)
    | d => Focus.lift (failAt (.wrongType "Fn" d.typeName) p)
  | "is_shared", _, [] => return .bool false
  | _, .map entries, _ =>
    match ((Dictionary.get? name entries).getD .unit).bare with
    | .function f isBound given => callOnValue g f isBound (given ++ arguments) p
    | _ => callOnValue g name false arguments p
  | _, _, _ => callOnValue g name false arguments p

/-- The value of an argument as a variable holds it. -/
def heldValue (g : Evaluator) : Expr → Run Datum
  | .lookup x q => do
    tick q
    let d ← valueOf x q
    match (← get).scope.held? x with
    | some (.shared n) => return .shared n
    | _ => return d.free
  | e => g.expr e

/-- Demands a text as an argument. -/
def textArgument (g : Evaluator) (e : Expr) : Run String := do
  match (← g.expr e).bare with
  | .string s => return s
  | d => failAt (.wrongType "string" d.fullTypeName) e.start

/-- Demands an integer as an argument. -/
def integerArgument (g : Evaluator) (e : Expr) : Run Int64 := do
  match (← g.expr e).bare with
  | .int n => return n
  | d => failAt (.wrongType "i64" d.fullTypeName) e.start

/-- Demands a function as an argument. -/
def functionArgument (g : Evaluator) (e : Expr) : Run (String × Bool × List Datum) := do
  match (← g.expr e).bare with
  | .function f isBound given => return (f, isBound, given)
  | d => failAt (.wrongType "Fn" d.typeName) e.start

/-- The value of a call of a function by its name. A variable in front is looked up last, unless it
is the object. -/
def callByName (g : Evaluator) (name : String) (isBound : Bool) (args : List Expr) (p : Position) :
    Run Datum := do
  match args with
  | .lookup x q :: rest =>
    requireObject (.lookup x q)
    let ds ← rest.mapM g.expr
    let d ← valueOf x q
    tick q
    let isOwned := !d.isFixed && match (← get).scope.held? x with
      | none | some (.shared _) => false
      | _ => true
    let effect ← callNamed g name isBound false ((if d.isFixed then d.free else d) :: ds) p
    match effect.changed with
    | some changed => if isOwned then store x changed
    | none => pure ()
    return effect.value
  | args => return (← callNamed g name isBound false (← args.mapM g.expr) p).value

/-- The result of statements, where an answer is their value. -/
def answered : Except Interrupt Datum → Except Interrupt Datum
  | .error (.answer d) => .ok d
  | r => r

theorem isFaithful_answered : IsFaithful answered := isFaithful_of_failure fun _ => rfl

/-- Runs a text as statements that stand where it is called from. -/
def runText (g : Evaluator) (text : String) (p : Position) : Run Datum := do
  let source := (← get).source
  enclosed (.inCall "eval" source · (some p)) (fun _ => rfl) do
    match Program.read (← read).isStrict [] (Text.trim text) with
    | .error e => fail (.plain (.notCompiled e.cause) (some e.position))
    | .ok program =>
      if !program.functions.isEmpty then fail (.plain (.notCompiled .misplacedFunction) none)
      turned answered isFaithful_answered (stmts g program.body)

/-- The value of a call of a function in sight. -/
def callInSight (g : Evaluator) (name : String) (args : List Expr) (p : Position) : Run Datum := do
  match name, args with
  | "call", e :: rest =>
    match ← functionArgument g e with
    | (f, isBound, []) => callByName g f isBound rest p
    | (f, isBound, given) =>
      return (← callNamed g f isBound false (given ++ (← rest.mapM g.expr)) p).value
  | "curry", e :: arg :: rest =>
    let (f, isBound, given) ← functionArgument g e
    return .function f isBound (given ++ (← (arg :: rest).mapM (heldValue g)))
  | "Fn", [e] =>
    let f ← textArgument g e
    match Datum.ofFunctionName? f with
    | some d => return d
    | none => failAt (.noFunction f) e.start
  | "eval", [e] => runText g (← textArgument g e) e.start
  | "is_shared", [e] =>
    match ← heldValue g e with
    | .shared _ => return .bool true
    | _ => return .bool false
  | "is_def_var", [e] => return .bool (← isDeclared (← textArgument g e))
  | "is_def_fn", [e, arity] =>
    let f ← textArgument g e
    let n ← integerArgument g arity
    if n < 0 then return .bool false
    return .bool (← function? f n.toInt.toNat none).isSome
  | _, _ => callByName g name false args p

/-- The value of a call of a function that sees the variables of its caller. -/
def callOpen (g : Evaluator) (name : String) (args : List Expr) (p : Position) : Run Datum := do
  if (← get).scope.isEmpty || Token.functionWords.contains name then callInSight g name args p
  else return (← callNamed g name false true (← args.mapM g.expr) p).value

/-- The arguments of a function of a module; a variable in front is counted first and looked up
last. -/
def moduleArguments (g : Evaluator) : List Expr → Run (List Datum)
  | .lookup x q :: rest => do
    tick q
    let ds ← rest.mapM g.expr
    return (← valueOf x q) :: ds
  | args => args.mapM g.expr

/-- The value of a call of a function of a module. -/
def callInModule (g : Evaluator) (path : Route) (name : String) (args : List Expr)
    (p : Position) : Run Datum := do
  let ds ← moduleArguments g args
  let found? := (← moduleAt? path p).bind fun m =>
    ((m.functions.find? name ds.length none).filter (!·.isPrivate)).map fun f => (f, m)
  match found? with
  | some (f, m) =>
    let enter (machine : Machine) : Machine :=
      { machine with
        modules := m.modules ++ machine.modules
        functions := m.functions :: machine.functions
        constants := m.constants }
    callFunction g ⟨f, m.functions.source, ds, false, enter⟩ p
  | none => failAt (.noFunction (path.text ++ "::" ++ signature name ds)) p

end Evaluator

end HostedScripts.Language
