import HostedScripts.Language.Evaluator.Chains
import HostedScripts.Language.Reader.Statements
import HostedScripts.Language.Simplify

/-!
# Running a script

Expressions and statements are worked out over an `Evaluator`; `evaluator n` is the one that can go down
`n` levels. `Program.run` runs a script in a scope. Every statement and every expression is counted, but
a statement that is nothing but a call counts once.

An imported script runs in the scope of the importer and leaves a `Module`; what it declares goes out of
sight, unless it fails.
-/

namespace HostedScripts.Language

namespace Evaluator

open Computation Run

/-! ### Expressions -/

/-- Demands a truth value. -/
def truth (g : Evaluator) (e : Expr) : Run Bool := do
  match (← g.expr e).bare with
  | .bool b => return b
  | d => failAt (.wrongType "bool" d.fullTypeName) e.position

/-- Whether all of some conditions hold. -/
def allHold (g : Evaluator) : List Expr → Run Bool
  | [] => return true
  | e :: es => do if ← truth g e then allHold g es else return false

/-- Whether one of some conditions holds. -/
def anyHolds (g : Evaluator) : List Expr → Run Bool
  | [] => return false
  | e :: es => do if ← truth g e then return true else anyHolds g es

/-- The value of an expression; the expression itself has been counted. -/
def exprValue (g : Evaluator) : Expr → Run Datum
  | .constant d _ => return d
  | .interpolation parts _ => do
    let ds ← parts.mapM g.expr
    return .string (String.join (ds.map Datum.printed))
  | .array es _ => return .array (← es.mapM g.expr)
  | .map entries _ => do
    let ds ← entries.mapM fun (k, e) => do return (k, ← g.expr e)
    return .map (Dictionary.ofEntries ds)
  | .lookup name p => return (← valueOf name p).free
  | .member path name p => memberValue path name p
  | .call path name args p =>
    if path.names.isEmpty then callInSight g name args p else callInModule g path name args p
  | .callOpen name args p => callOpen g name args p
  | .unary op e p => do
    let d ← g.expr e
    for _ in List.range (op.lookUps d) do tick p
    ofExcept (op.apply d p)
  | .binary op l r p => do
    let a ← g.expr l
    let b ← g.expr r
    for _ in List.range (op.lookUps a b) do tick p
    ofExcept (op.apply a b p)
  | .all es _ => return .bool (← allHold g es)
  | .any es _ => return .bool (← anyHolds g es)
  | .orElse l r _ => do
    let d ← g.expr l
    match d.bare with
    | .unit => g.expr r
    | _ => return d
  | .chain root links _ => chain g root links
  | .block body _ => block g body

/-- Counts an expression and gives its value. -/
def countedValue (g : Evaluator) (e : Expr) : Run Datum := do
  tick e.position
  exprValue g e

/-! ### Loops -/

/-- How many rounds a loop can have. -/
def rounds : Nat := Nat.pow 2 62

/-- How a round of a loop ends: with a value if the loop is left, with none if its next round begins
early. -/
def roundEnd? : Except Interrupt Datum → Except Interrupt (Option (Option Datum))
  | .ok _ => .ok none
  | .error .next => .ok (some none)
  | .error (.leave d) => .ok (some (some d))
  | .error i => .error i

theorem isFaithful_roundEnd? : IsFaithful roundEnd? := isFaithful_of_failure fun _ => rfl

/-- How a round of a loop ends that is interrupted: with a value if the loop is left, with none if
its next round begins. -/
def brokenRound? (g : Evaluator) (body : List Stmt) : Run (Option (Option Datum)) :=
  turned roundEnd? isFaithful_roundEnd? (block g body)

/-- One round of a loop; gives the value if the loop is left. -/
def round (g : Evaluator) (body : List Stmt) : Run (Option Datum) :=
  return (← brokenRound? g body).join

/-- Counts operations until there are too many. -/
def idle (p : Position) : Nat → Run Datum
  | 0 => interrupt .exhausted
  | n + 1 => do
    tick p
    idle p n

/-- Repeats statements. -/
def repeatForever (g : Evaluator) (body : List Stmt) : Nat → Run Datum
  | 0 => interrupt .exhausted
  | n + 1 => do
    match ← round g body with
    | some d => return d
    | none => repeatForever g body n

/-- Repeats statements while a condition holds. -/
def repeatWhile (g : Evaluator) (condition : Expr) (body : List Stmt) : Nat → Run Datum
  | 0 => interrupt .exhausted
  | n + 1 => do
    if ← truth g condition then
      match ← round g body with
      | some d => return d
      | none => repeatWhile g condition body n
    else return .unit

/-- Repeats statements at least once, as long as a condition has a truth value. A round that is
broken off skips the condition. -/
def repeatUntil (g : Evaluator) (body : List Stmt) (condition : Expr) (goOn : Bool) :
    Nat → Run Datum
  | 0 => interrupt .exhausted
  | n + 1 => do
    match ← brokenRound? g body with
    | some (some d) => return d
    | some none => repeatUntil g body condition goOn n
    | none =>
      if (← truth g condition) = goOn then repeatUntil g body condition goOn n else return .unit

/-- What a loop goes through: a list, or the integers from one on. -/
inductive Sequence where
  | list (ds : List Datum)
  | integers (first : Int) (length : Nat)

/-- What there is to go through. -/
def sequence? : Datum → Option Sequence
  | .array es => some (.list es)
  | .string s => some (.list (s.toList.map .char))
  | .range a b inclusive =>
    some (.integers a.toInt (b.toInt - a.toInt + if inclusive then 1 else 0).toNat)
  | _ => none

/-- The value of a loop over elements; `bring` gives an element with its number to the variables. -/
def repeatFor (g : Evaluator) (bring : Datum → Nat → Run Unit) (body : List Stmt)
    (p : Position) (element : Nat → Option Datum) : Nat → Nat → Run Datum
  | 0, _ => return .unit
  | n + 1, i => do
    match element i with
    | none => return .unit
    | some d =>
      if body.isEmpty then
        tick p
        repeatFor g bring body p element n (i + 1)
      else
        bring d i
        match ← round g body with
        | some v => return v
        | none => repeatFor g bring body p element n (i + 1)

/-- The value of a loop over elements. The variables are the same in all rounds. -/
def each (g : Evaluator) (name : String) (counter : Option String) (elements : Expr)
    (body : List Stmt) (p : Position) : Run Datum := do
  let bring (d : Datum) (i : Nat) : Run Unit := do
    match counter with
    | some c => store c (.int (Int64.ofNat i))
    | none => pure ()
    store name d
  let repeatOver (element : Nat → Option Datum) (n : Nat) : Run Datum := withinBlock do
    match counter with
    | some c => introduce c (.int 0)
    | none => pure ()
    introduce name .unit
    repeatFor g bring body p element n 0
  match sequence? (← g.expr elements).bare with
  | none => failAt .notIterable elements.start
  | some (.list ds) =>
    let items := ds.toArray
    repeatOver (fun i => items[i]?) items.size
  | some (.integers first length) =>
    repeatOver (fun i => some (.int (Int64.ofInt (first + i)))) length

/-! ### Choices -/

/-- The first of some cases whose condition holds. -/
def firstCase (g : Evaluator) : List Case → Run (Option Case)
  | [] => return none
  | c :: cases => do
    match c.isSure, c.condition with
    | false, some condition => if ← truth g condition then return some c else firstCase g cases
    | _, _ => return some c

/-- The value of a choice by a value. -/
def choose (g : Evaluator) (subject : Expr) (cases : List Case) (otherwise : Option Expr) :
    Run Datum := do
  let d ← g.expr subject
  let same := Case.having d cases
  let fitting := if same.isEmpty then Case.covering d cases else same
  match ((← firstCase g fitting).map (·.body)) <|> otherwise with
  | some e => g.expr e
  | none => return .unit

/-! ### Modules -/

/-- A script without its first line, if that names an interpreter. -/
def withoutShebang (text : String) : String :=
  if text.startsWith "#!" then String.ofList (text.toList.dropWhile (· ≠ '\n')) else text

/-- The first file in some directories that can be read, with its text. -/
def findModule? (files : FileTree) (name : String) : List Path → Option (Path × String)
  | [] => none
  | directory :: more =>
    let path := (directory.join ⟨name⟩).withExtension ScriptKind.interpreted
    match files.readText path with
    | .ok text => some (path, text)
    | .error _ => findModule? files name more

/-- The variables that a script exports; of those under one name the latest counts. -/
def exportsOf (m : Machine) : Dictionary Datum :=
  Dictionary.ofEntries (m.scope.flatMap fun b => b.exports.map (·, m.content b.value)).reverse

/-- The way through a module with its name and functions. -/
def modulePassage (functions : FunctionSet) : Passage Machine Machine where
  enter m :=
    { m with source := functions.source, functions := functions :: m.functions, constants := [] }
  back before m :=
    { m with
      modules := before.modules
      functions := before.functions
      constants := before.constants
      source := before.source }
  isClosed := false
  changing := []
  said _ _ := rfl
  operations _ _ := rfl
  keeps _ _ := ⟨List.suffix_refl _, fun _ => rfl⟩

/-- The end of the statements of a module, which may be left by an answer. -/
def moduleEnd : Except Interrupt Datum → Except Interrupt Unit
  | .ok _ | .error (.answer _) | .error (.finish _) => .ok ()
  | .error i => .error i

theorem isFaithful_moduleEnd : IsFaithful moduleEnd := isFaithful_of_failure fun _ => rfl

/-- Runs the script of a module. -/
def runModule (g : Evaluator) (name : String) (program : Program) : Run Module := do
  let before ← get
  let functions := FunctionSet.mk name program.functions
  inside (modulePassage functions) do
    turned moduleEnd isFaithful_moduleEnd (stmts g program.body)
    let m ← get
    let own := m.modules.take (m.modules.length - before.modules.length)
    set { m with scope := m.scope.rewind before.scope.length }
    return .mk functions m.constants (exportsOf m) own

/-- The module with a name; it is run when it is imported for the first time. -/
def load (g : Evaluator) (name : String) (p : Position) : Run Module := do
  let setting ← read
  match findModule? setting.files name setting.directories with
  | none => failAt (.noModule name) p
  | some (path, text) =>
    match (← get).loaded.find? (·.1.agrees path) with
    | some (_, m) => return m
    | none =>
      let m ← enclosed (.inModule name · (some p)) (fun _ => rfl) do
        match Program.read setting.isStrict [] (withoutShebang text) with
        | .error e => fail (.plain (.notCompiled e.cause) (some e.position))
        | .ok program => runModule g name (program.simplified [])
      modify fun machine => { machine with loaded := (path, m) :: machine.loaded }
      return m

/-! ### Statements -/

/-- Brings a variable into sight, or puts it in place of the one with its name that the block has
declared before. A constant outside all blocks is kept for the functions, if there are any. -/
def bring (name : String) (isConstant isExported isAnew : Bool) (d : Datum) : Run Unit := do
  if isConstant then
    modify fun m =>
      if m.blocks = 0 && m.functions.any (!·.functions.isEmpty) then
        { m with constants := m.constants.insert name d.free }
      else m
  if isAnew then
    modify fun m => { m with
      scope := m.scope.modify name fun b => { b with value := declared d isConstant } }
  else declare name d isConstant
  if isExported then
    modify fun m => { m with
      scope := m.scope.modifyHead fun b => { b with exports := name :: b.exports } }

/-- The value of an expression that may be absent. -/
def optional (g : Evaluator) : Option Expr → Run Datum
  | some e => g.expr e
  | none => return .unit

/-- What a handler of an error comes to: it has no value, and if it raises nothing in particular, it
raises the error again. -/
def handled (e : Failure) : Except Interrupt Datum → Except Interrupt Datum
  | .ok _ => .ok .unit
  | .error (.failure (.plain (.raised d) p)) =>
    match d.bare with
    | .unit => .error (.failure (e.withPosition p))
    | _ => .error (.failure (.plain (.raised d) p))
  | .error i => .error i

theorem isFaithful_handled (e : Failure) : IsFaithful (handled e) := by
  intro f code hcode
  refine ⟨f, ?_, hcode, id⟩
  cases f with
  | plain cause p => cases cause <;> first | rfl | cases hcode
  | inCall function source inner p => rfl
  | inModule name inner p => rfl

/-- Carries out statements, and others if an error is raised. -/
def attempt (g : Evaluator) (body : List Stmt) (name : Option String) (handler : List Stmt) :
    Run Datum :=
  attempted (block g body) fun e => do
    let source := (← get).source
    turned (handled e) (isFaithful_handled e) <| withinBlock do
      match name with
      | some n => declare n (e.caught source) false
      | none => pure ()
      block g handler

/-- Counts a statement and carries it out; gives its value. -/
def carryOut (g : Evaluator) (s : Stmt) : Run Datum := do
  tick s.position
  match s with
  | .skip _ => return .unit
  | .expr e => g.expr e
  | .perform e => exprValue g e
  | .declare name isConstant isExported isAnew value _ =>
    bring name isConstant isExported isAnew (← g.expr value)
    return .unit
  | .assign op opPosition target value =>
    requireObject target
    let d ← g.expr value
    assign g op opPosition d target
    return .unit
  | .branch c yes _ no _ _ => if ← truth g c then block g yes else block g no
  | .choose subject cases otherwise _ => choose g subject cases otherwise
  | .repeatWhile none body p _ | .repeatWhile (some (.constant (.bool true) _)) body p _ =>
    if body.isEmpty then idle p rounds else repeatForever g body rounds
  | .repeatWhile (some c) body _ _ => repeatWhile g c body rounds
  | .repeatUntil body _ c goOn _ => repeatUntil g body c goOn rounds
  | .each name counter elements body p _ => each g name counter elements body p
  | .leave value _ => interrupt (.leave (← optional g value))
  | .next _ => interrupt .next
  | .answer value _ => interrupt (.answer (← optional g value))
  | .raise value p => failAt (.raised (← optional g value)) p
  | .attempt body _ name handler _ => attempt g body name handler
  | .load source shownAs _ =>
    match (← g.expr source).bare with
    | .string name =>
      let m ← load g name source.start
      modify fun machine => { machine with modules := (shownAs, m) :: machine.modules }
      return .unit
    | d => failAt (.wrongType "string" d.fullTypeName) source.position
  | .expose name shownAs _ =>
    let _ ← binding name.text name.position
    modify fun m => { m with
      scope := m.scope.modify name.text fun b => { b with exports := shownAs :: b.exports } }
    return .unit
  | .share names _ =>
    for v in names do
      let _ ← binding v.text v.position
      modify (Machine.share v.text)
    return .unit
  | .block body _ => block g body

end Evaluator

/-- The evaluator that can go down so many levels. -/
def evaluator : Nat → Evaluator
  | 0 => ⟨fun _ => .interrupt .exhausted, fun _ => .interrupt .exhausted⟩
  | n + 1 =>
    ⟨fun e => Evaluator.countedValue (evaluator n) e, fun s => Evaluator.carryOut (evaluator n) s⟩

/-- What became of a script: the failure that ended it, if one did, the variables at the end, and
what it said, in order; the flag tells what is for debugging only. -/
structure Finished where
  failure : Option Failure
  scope : Scope
  said : List (Bool × String)
  deriving Inhabited

/-- How deeply modules may import each other. -/
def maxImportLevels : Nat := 1024

/-- How many levels a script needs at most: a bounded number for every call and every module. -/
def Setting.levels (s : Setting) : Nat := 1024 * (s.maxCallLevels + maxImportLevels + 2)

/-- The variables in sight, where those that share a value hold it themselves. -/
def Machine.held (m : Machine) : Scope := m.scope.map fun b => { b with value := m.content b.value }

/-- What the statements of a script come to in a scope. -/
def Program.upshot (program : Program) (setting : Setting) (scope : Scope) : Upshot Machine Datum :=
  let machine : Machine := ⟨scope, #[], [], [⟨"", program.functions⟩], [], "", [], 0, 0, 0, []⟩
  (Evaluator.stmts (evaluator setting.levels) program.body).run (.outset setting) machine []

/-- The failure that ends a script, if its statements came to one. That the evaluator gives a script
up, because it has gone down all its levels or through all its rounds, is none of the errors of the
language. -/
def Upshot.failure? (u : Upshot Machine Datum) : Option Failure :=
  match u.result with
  | .error (.failure f) => some f
  | .error .exhausted => some (.plain .givenUp none)
  | .ok _ | .error (.leave _) | .error .next | .error (.answer _) | .error (.finish _) => none

/-- Runs a script in a scope. -/
def Program.run (program : Program) (setting : Setting) (scope : Scope) : Finished :=
  let u := program.upshot setting scope
  ⟨u.failure?, u.state.held, u.state.said.reverse⟩

end HostedScripts.Language
