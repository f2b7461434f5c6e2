import HostedScripts.Language.Operators
import HostedScripts.Language.Purity
import HostedScripts.Language.FunctionName

/-!
# Trees without idle parts

Before a script runs, its trees are simplified. A variable with a value that is known beforehand is
replaced by the value, operators on such values are worked out, and conditions that are decided choose
their branch. Pure statements go, unless they stand last in a block that stands for a value. The
constants of the host are known everywhere, also inside functions, which see no other variables; a
parameter, a loop variable or a caught error does not hide them.

Every step is a computation `Change`, which remembers whether something has changed. A list of statements
is gone through again until nothing changes any more; `Simplifier` holds how the parts one level down
are simplified, and `simplifier n` is the one that can go down `n` levels.
-/

namespace HostedScripts.Language

/-- The variables in sight, the latest first, with the values of those that are known. -/
abbrev Known := List (String × Option Datum)

/-- The value of a variable, if it is known. -/
def Known.value? (known : Known) (name : String) : Option Datum :=
  (known.find? (·.1 = name)).bind (·.2)

/-- A step that may change something; the state tells whether something has changed. -/
abbrev Change := StateM Bool

/-- How the parts one level down are simplified; the flag tells whether an expression is the last
part of a chain, and whether the value of statements is kept. -/
structure Simplifier where
  expr : Known → Bool → Expr → Change Expr
  stmt : Known → Bool → Stmt → Change Stmt
  block : Known → Bool → List Stmt → Change (List Stmt)

namespace Simplifier

/-- Another part in place of one, which is a change. -/
def changed {α : Type} (a : α) : Change α := do
  set true
  return a

/-- A shorter list in place of one, which is a change if it is shorter. -/
def shortened {α : Type} (before after : List α) : Change (List α) := do
  if after.length < before.length then set true
  return after

/-! ### Lists of statements -/

mutual

/-- A statement, or the statements of a block where no names depend on the block. -/
def spread : Stmt → List Stmt
  | .block body p => if body.any (·.bringsNames) then [.block body p] else spreadAll body
  | s => [s]

/-- The statements with those of the blocks that no names depend on. -/
def spreadAll : List Stmt → List Stmt
  | [] => []
  | s :: ss => spread s ++ spreadAll ss

end

/-- Whether a statement is a block that no names depend on. -/
def isLoose : Stmt → Bool
  | .block body _ => !body.any (·.bringsNames)
  | _ => false

/-- The statements up to the first that ends the block. -/
def reached : List Stmt → List Stmt
  | [] => []
  | s :: ss => if s.endsBlock then [s] else s :: reached ss

/-- Simplifies some statements in turn; each of them sees the names that those before it declare. -/
def inTurn (g : Simplifier) (keepsValue : Bool) (known : Known) : List Stmt → Change (List Stmt)
  | [] => return []
  | .declare name isConstant isExported isAnew value p :: ss => do
    let value ← g.expr known false value
    let s := .declare name isConstant isExported isAnew value p
    let found := if isConstant then value.literal? else none
    return s :: (← inTurn g keepsValue ((name, found) :: known) ss)
  | s :: ss => do
    let s ← g.stmt known keepsValue s
    return s :: (← inTurn g keepsValue known ss)

/-- The number of the last anchor among some statements, or zero. -/
def lastAnchor (isPure : Stmt → Bool) (stmts : List Stmt) : Nat :=
  stmts.length - 1 - (stmts.reverse.takeWhile (!·.isAnchor isPure)).length

/-- Leaves out pure statements, from number `free` on also those that only concern the block. The
last statement stays if it stands for the value. -/
def withoutIdle (isPure : Stmt → Bool) (keepsLast : Bool) (n free : Nat) : List Stmt → List Stmt
  | [] => []
  | s :: ss =>
    if keepsLast && ss.isEmpty then [s]
    else if isPure s && free ≤ n then withoutIdle isPure keepsLast n free ss
    else if s.isPure then withoutIdle isPure keepsLast n (if n < free then free - 1 else free) ss
    else s :: withoutIdle isPure keepsLast (n + 1) free ss

/-- Leaves out statements at the end of a block that do not contribute to its value; the list is
reversed. At the end of a function, a return is as good as its value. -/
def trimmed (isPure : Stmt → Bool) (endsFunction : Bool) : List Stmt → Change (List Stmt)
  | [] => return []
  | s :: rest => do
    let isAlone := match rest with
      | [] => true
      | t :: _ => !t.hasValue
    match s, endsFunction with
    | .answer none p, true =>
      if isAlone then
        set true
        trimmed isPure endsFunction rest
      else changed (.skip p :: rest)
    | .answer (some e) _, true => changed (.expr e :: rest)
    | .skip p, _ =>
      if isAlone then
        set true
        trimmed isPure endsFunction rest
      else return .skip p :: rest
    | _, _ =>
      if s.hasValue || !isPure s then return s :: rest
      else if isAlone then
        set true
        trimmed isPure endsFunction rest
      else changed (.skip s.position :: rest)

/-- Goes once through the statements of a block. -/
def onePass (g : Simplifier) (known : Known) (keepsValue isInside endsFunction : Bool)
    (stmts : List Stmt) : Change (List Stmt) := do
  let isPure := if isInside then Stmt.isPureInside else Stmt.isPure
  let stmts ← shortened stmts (reached stmts)
  let stmts ← inTurn g keepsValue known stmts
  let stmts ← shortened stmts (withoutIdle isPure keepsValue 0 (lastAnchor isPure stmts) stmts)
  if keepsValue then return (← trimmed isPure endsFunction stmts.reverse).reverse
  else shortened stmts (stmts.reverse.dropWhile isPure).reverse

/-- Goes through the statements of a block until nothing changes, at most so many times. -/
def untilSettled (pass : List Stmt → Change (List Stmt)) : Nat → List Stmt → Change (List Stmt)
  | 0, stmts => return stmts
  | n + 1, stmts => do
    let (stmts, hasChanged) := (pass stmts).run false
    if hasChanged then
      set true
      untilSettled pass n stmts
    else return stmts

/-- How often a list of statements is gone through at most. -/
def passes : Nat := Nat.pow 2 20

/-- What remains of the statements of a block. -/
def settled (g : Simplifier) (known : Known) (keepsValue isInside endsFunction : Bool)
    (stmts : List Stmt) : Change (List Stmt) := do
  if stmts.any isLoose then set true
  untilSettled (onePass g known keepsValue isInside endsFunction) passes (spreadAll stmts)

/-! ### Operators -/

/-- An operator on two operands, worked out if both are known and nothing fails. -/
def binary (g : Simplifier) (known : Known) (op : BinaryOp) (left right : Expr) (p : Position) :
    Change Expr := do
  let folded? : Option Datum := do
    match op.builtIn? (← left.literal?) (← right.literal?) with
    | some (.ok d) => some d
    | _ => none
  match folded? with
  | some d => changed (.constant d p)
  | none => return .binary op (← g.expr known false left) (← g.expr known false right) p

/-- What a call with known arguments stands for: if it asks for the type of a value, makes a
function or gives arguments to one. -/
def called? (name : String) (arguments : List Datum) : Option Datum :=
  match name, arguments with
  | "type_of", [d] => some (.string d.typeName)
  | "is_shared", [_] => some (.bool false)
  | "Fn", [.string f] => Datum.ofFunctionName? f
  | "curry", .function f isBound given :: d :: ds => some (.function f isBound (given ++ d :: ds))
  | _, _ => none

/-- A function call, worked out if that is possible. -/
def call (g : Simplifier) (known : Known) (path : Route) (name : String)
    (arguments : List Expr) (p : Position) : Change Expr := do
  let value? : Option Datum := do
    if !path.names.isEmpty then none
    called? name (← Expr.literals? arguments)
  match value? with
  | some d => changed (.constant d p)
  | none => return .call path name (← arguments.mapM (g.expr known false)) p

/-- Whether an expression is a truth value that is known. -/
def isTruth (b : Bool) : Expr → Bool
  | .constant (.bool c) _ => b = c
  | _ => false

/-- Conditions that are looked at in turn until one has the truth value that decides. Those with the
other value are left out, and what follows one with the deciding value; if only pure conditions
precede that one, it decides alone. -/
def conditions (g : Simplifier) (known : Known) (decisive : Bool) (es : List Expr) (p : Position)
    (build : List Expr → Position → Expr) : Change Expr := do
  let open' ← shortened es (es.filter (!isTruth (!decisive) ·))
  let before := open'.takeWhile (!isTruth decisive ·)
  match open'.drop before.length with
  | d :: after =>
    if Expr.arePure before then changed d
    else
      if !after.isEmpty then set true
      return build (← (before ++ [d]).mapM (g.expr known false)) p
  | [] =>
    match before with
    | [] => changed (.constant (.bool !decisive) p)
    | [e] => changed (← g.expr known false e)
    | es => return build (← es.mapM (g.expr known false)) p

/-- A value or another one, without one that is not needed. -/
def orElse (left right : Expr) (p : Position) : Change Expr :=
  match left.literal? with
  | some .unit => changed right
  | some _ => changed left
  | none => return .orElse left right p

/-! ### Texts -/

/-- The parts of a text, with neighbouring texts joined and without empty ones. -/
def joined : List Expr → List Expr
  | [] => []
  | [e] => [e]
  | a :: b :: rest =>
    match a, b with
    | .constant (.string s) p, .constant (.string t) _ => joined (.constant (.string (s ++ t)) p :: rest)
    | a, .constant .unit _ => joined (a :: rest)
    | .constant .unit _, b => joined (b :: rest)
    | a, .constant (.string "") _ => joined (a :: rest)
    | .constant (.string "") _, b => joined (b :: rest)
    | a, b => a :: joined (b :: rest)
termination_by parts => parts.length

/-- A text with embedded parts. -/
def interpolation (g : Simplifier) (known : Known) (parts : List Expr) (p : Position) :
    Change Expr := do
  match (Expr.interpolation parts p).literal? with
  | some d => changed (.constant d p)
  | none =>
    let parts ← parts.mapM (g.expr known false)
    return .interpolation (← shortened parts (joined parts)) p

/-! ### Chains -/

/-- The links of a chain. -/
def links (g : Simplifier) (known : Known) : List Link → Change (List Link)
  | [] => return []
  | .property name p q :: rest => return .property name p q :: (← links g known rest)
  | .index key q :: rest => do
    let key ← g.expr known rest.isEmpty key
    return .index key q :: (← links g known rest)
  | .method name args p q :: rest => do
    let args ← args.mapM (g.expr known false)
    return .method name args p q :: (← links g known rest)

/-- The element of a list that an index stands for, counted from the end below zero. -/
def element? {α : Type} (es : List α) (i : Int64) : Option α :=
  if 0 ≤ i then es[i.toInt.toNat]?
  else if i.toInt.natAbs ≤ es.length then es[es.length - i.toInt.natAbs]?
  else none

/-- The bit of an integer that an index stands for. -/
def bit? (n i : Int64) : Option Bool :=
  (element? (List.range 64) i).map fun k => (Int.fdiv n.toInt (Int.pow 2 k)) % 2 = 1

/-- The entry of a map that is written down, if all of them are pure. -/
def entry? (entries : List (String × Expr)) (name : String) (p : Position) : Option Expr :=
  if Expr.arePureEntries entries then
    some (((entries.lookup name).map (·.withPosition p)).getD (.constant .unit p))
  else none

/-- What a chain of one link stands for, if its root is written down and the link leads to a part of
it. -/
def part? (root : Expr) (link : Link) : Option Expr :=
  match root, link with
  | .map entries p, .property name _ _ => entry? entries name p
  | .map entries p, .index (.constant (.string name) _) _ => entry? entries name p
  | .array es p, .index (.constant (.int i) _) _ =>
    if Expr.arePure es then (element? es i).map (·.withPosition p) else none
  | .constant (.int n) p, .index (.constant (.int i) _) _ =>
    (bit? n i).map fun b => .constant (.bool b) p
  | .constant (.string s) p, .index (.constant (.int i) _) _ =>
    (element? s.toList i).map fun c => .constant (.char c) p
  | root, .method name [] p _ =>
    match name, root.literal? with
    | "type_of", some d => some (.constant (.string d.typeName) p)
    | "is_shared", some _ => some (.constant (.bool false) p)
    | _, _ => none
  | _, _ => none

/-- Whether a chain goes on from no value only if there is one. -/
def leadsNowhere : Expr → List Link → Bool
  | .constant .unit _, l :: _ => l.joint.isOptional
  | _, _ => false

/-- A value followed by links. The variable at the root of a chain is not replaced, unless the chain
is itself the last part of another one. -/
def chain (g : Simplifier) (known : Known) (isLast : Bool) (root : Expr) (ls : List Link)
    (p : Position) : Change Expr := do
  let generic (root : Expr) : Change Expr := return .chain root (← links g known ls) p
  if leadsNowhere root ls then changed root
  else if isLast then generic (← g.expr known false root)
  else
    match ls with
    | [l] =>
      match part? root l with
      | some e => return ← changed e
      | none => pure ()
    | _ => pure ()
    match root with
    | .lookup _ _ | .member _ _ _ => generic root
    | _ => generic (← g.expr known false root)

/-! ### Expressions -/

/-- Statements that stand for a value. -/
def valueBlock (g : Simplifier) (known : Known) (body : List Stmt) (p : Position) : Change Expr := do
  match body with
  | [] => changed (.constant .unit p)
  | [.expr e] => changed (← g.expr known false e)
  | _ =>
    match ← g.block known true body with
    | [.expr e] => changed e
    | body => return .block body p

/-- Simplifies an expression. -/
def simplifyExpr (g : Simplifier) (known : Known) (isLast : Bool) : Expr → Change Expr
  | .constant v p => return .constant v p
  | .member path name p => return .member path name p
  | .lookup name p =>
    match known.value? name with
    | some v => changed (.constant v p)
    | none => return .lookup name p
  | .interpolation parts p => interpolation g known parts p
  | .array es p => do
    match (Expr.array es p).literal? with
    | some d => changed (.constant d p)
    | none => return .array (← es.mapM (g.expr known false)) p
  | .map entries p => do
    match (Expr.map entries p).literal? with
    | some d => changed (.constant d p)
    | none => return .map (← entries.mapM fun (k, e) => do return (k, ← g.expr known false e)) p
  | .call path name args p => call g known path name args p
  | .callOpen name args p => return .callOpen name (← args.mapM (g.expr known false)) p
  | .unary .not (.constant (.bool b) q) _ => changed (.constant (.bool !b) q)
  | .unary op e p => return .unary op (← g.expr known false e) p
  | .binary op l r p => binary g known op l r p
  | .all es p => conditions g known false es p .all
  | .any es p => conditions g known true es p .any
  | .orElse l r p => orElse l r p
  | .chain root ls p => chain g known isLast root ls p
  | .block body p => valueBlock g known body p

/-! ### Choices -/

/-- A block, or nothing if it is empty. -/
def blockAt (body : List Stmt) (p : Position) : Stmt := if body.isEmpty then .skip p else .block body p

/-- A choice by a condition; a known condition decides it, and without statements only the condition
is left. -/
def branch (g : Simplifier) (known : Known) (keepsValue : Bool) (condition : Expr)
    (yes : List Stmt) (yesPosition : Position) (no : List Stmt) (noPosition p : Position) :
    Change Stmt := do
  match condition, yes, no with
  | c, [], [] =>
    let e ← g.expr known false c
    changed (if keepsValue then .block [.expr e, .skip c.start] c.start else .expr e)
  | .constant (.bool false) q, _, [] => changed (.skip q)
  | .constant (.bool false) _, _, _ =>
    changed (blockAt (← g.block known keepsValue no) noPosition)
  | .constant (.bool true) _, _, _ =>
    changed (blockAt (← g.block known keepsValue yes) yesPosition)
  | _, _, _ =>
    let c ← g.expr known false condition
    let yes ← g.block known keepsValue yes
    return .branch c yes yesPosition (← g.block known keepsValue no) noPosition p

/-- Simplifies the condition and the body of a case. -/
def caseParts (g : Simplifier) (known : Known) : Case → Change Case
  | .mk values condition body => do
    let condition ← condition.mapM (g.expr known false)
    let body ← g.expr known false body
    let c : Case := .mk values condition body
    return .mk values (if c.isSure then none else condition) body

/-- The cases that may be reached: those whose conditions may hold, without values that an earlier
case takes for sure. -/
def reachable (taken : List Datum) : List Case → List Case
  | [] => []
  | c :: cases =>
    let values := c.values.filter fun v => !taken.any v.isSame
    if c.isHopeless || values.isEmpty then reachable taken cases
    else
      .mk values c.condition c.body :: reachable (if c.isSure then values ++ taken else taken) cases

/-- A choice by a value. -/
def choose (g : Simplifier) (known : Known) (subject : Expr) (cases : List Case)
    (otherwise : Option Expr) (p : Position) : Change Stmt := do
  let subject ← g.expr known false subject
  let cases ← cases.mapM (caseParts g known)
  let otherwise ← otherwise.mapM (g.expr known false)
  return .choose subject (← shortened cases (reachable [] cases)) otherwise p

/-! ### Statements -/

/-- Simplifies a statement. -/
def simplifyStmt (g : Simplifier) (known : Known) (keepsValue : Bool) : Stmt → Change Stmt
  | .skip p => return .skip p
  | .next p => return .next p
  | .expose name shownAs p => return .expose name shownAs p
  | .share names p => do
    match ← shortened names (names.filter fun v => (known.value? v.text).isNone) with
    | [] => changed (.skip .nowhere)
    | names => return .share names p
  | .expr (.block [] p) => changed (.skip p)
  | .expr (.block body p) => do changed (.block (← g.block known keepsValue body) p)
  | .expr e => do
    if e.isCall then changed (.perform e) else return .expr (← g.expr known false e)
  | .perform e => do
    let e ← g.expr known false e
    return if e.isCall then .perform e else .expr e
  | .declare name isConstant isExported isAnew value p =>
    return .declare name isConstant isExported isAnew (← g.expr known false value) p
  | .assign op q target value => do
    match op, target, value with
    | none, .lookup name _, .binary operator (.lookup other _) right r =>
      if name = other && name ≠ objectName && operator.canAssign then
        return ← changed (.assign (some operator) r target right)
    | _, _, _ => pure ()
    let target ← match target with
      | .lookup _ _ => pure target
      | _ => g.expr known false target
    return .assign op q target (← g.expr known false value)
  | .branch c yes yesPosition no noPosition p =>
    branch g known keepsValue c yes yesPosition no noPosition p
  | .choose subject cases otherwise p => choose g known subject cases otherwise p
  | .repeatWhile none body q p => return .repeatWhile none (← g.block known false body) q p
  | .repeatWhile (some (.constant (.bool false) r)) _ _ _ => changed (.skip r)
  | .repeatWhile (some c) body q p => do
    let c ← g.expr known false c
    let body ← g.block known false body
    match c with
    | .constant (.bool true) _ => return .repeatWhile none body q p
    | _ => return .repeatWhile (some c) body q p
  | .repeatUntil body q c goOn p => do
    let c ← g.expr known false c
    return .repeatUntil (← g.block known false body) q c goOn p
  | .each name counter e body q p => do
    let e ← g.expr known false e
    return .each name counter e (← g.block known false body) q p
  | .leave e p => return .leave (← e.mapM (g.expr known false)) p
  | .answer e p => return .answer (← e.mapM (g.expr known false)) p
  | .raise e p => return .raise (← e.mapM (g.expr known false)) p
  | .attempt body q name handler p => do
    let isPure := Stmt.arePure body
    let body ← g.block known false body
    if isPure then changed (.block body q)
    else return .attempt body q name (← g.block known false handler) p
  | .load source shownAs p => return .load (← g.expr known false source) shownAs p
  | .block body p => do
    match ← g.block known keepsValue body with
    | [] => changed (.skip p)
    | [s] => if s.bringsNames then return .block [s] p else changed s
    | body => return .block body p

end Simplifier

/-- How parts are simplified that are nested at most so deeply. -/
def simplifier : Nat → Simplifier
  | 0 => ⟨fun _ _ e => return e, fun _ _ s => return s, fun _ _ body => return body⟩
  | n + 1 =>
    { expr := fun known isLast e => Simplifier.simplifyExpr (simplifier n) known isLast e
      stmt := fun known keepsValue s => Simplifier.simplifyStmt (simplifier n) known keepsValue s
      block := fun known keepsValue body =>
        Simplifier.settled (simplifier n) known keepsValue true false body }

/-- How deeply trees are simplified. -/
def simplifiedLevels : Nat := Nat.pow 2 20

/-- The statements of a script or function without idle parts. -/
def simplifiedBody (known : Known) (body : List Stmt) : List Stmt :=
  ((Simplifier.settled (simplifier simplifiedLevels) known true false true body).run false).1

/-- A script without idle parts, whose functions see nothing but what is known beforehand. Functions
without names of their own stay as they are. -/
def Program.simplified (known : Known) (p : Program) : Program where
  body := simplifiedBody known p.body
  functions := p.functions.map fun f =>
    if Function.isNamelessName f.name then f else { f with body := simplifiedBody known f.body }

end HostedScripts.Language
