import HostedScripts.Language.Reader.Expressions

/-!
# Reading statements

`Program.reading` turns a script into a `Program` or the first `CompileError`, with what the script needs
from its host; `Program.read` does so for a host that provides some variables. A statement that does not
end with a block is followed by a semicolon, unless it is the last one. Functions stand outside all
blocks; they see no variables but their parameters, and their nesting is bounded more tightly.

`grammar` ties the levels of reading together.
-/

namespace HostedScripts.Language

namespace Reader

/-- Whether a statement ends with a block, so that no semicolon is needed after it. -/
def endsItself : Stmt → Bool
  | .branch _ _ _ _ _ _ | .choose _ _ _ _ | .repeatWhile _ _ _ _ | .each _ _ _ _ _ _
  | .attempt _ _ _ _ _ | .block _ _ => true
  | _ => false

/-- Reads statements up to the closing brace. -/
def stmtsFrom (g : Grammar) (s : Surroundings) : Nat → List Stmt → Read (List Stmt)
  | 0, done => return done.reverse
  | fuel + 1, done => do
    let t ← peek
    match t.token with
    | .symbol "\x7d" => let _ ← next; return done.reverse
    | .finish => fail (.missing "\x7d" "to terminate this block") t.position
    | _ =>
      match ← g.stmt { s with isGlobal := false } with
      | .skip _ => stmtsFrom g s fuel done
      | stmt =>
        let t ← peek
        match t.token with
        | .symbol "\x7d" => let _ ← next; return (stmt :: done).reverse
        | .symbol ";" =>
          if !endsItself stmt then
            let _ ← next
            stmtsFrom g s fuel (stmt :: done)
          else stmtsFrom g s fuel (stmt :: done)
        | _ =>
          if endsItself stmt then stmtsFrom g s fuel (stmt :: done)
          else failAt t (.missing ";" "to terminate this statement")

/-- Reads a block. -/
def block (g : Grammar) (s : Surroundings) : Read (List Stmt × Position) := do
  let t ← next
  if !isSymbol t "\x7b" then failAt t (.missing "\x7b" "to start a statement block")
  let s ← deeper (s.startingAt t.position)
  let body ← withinBlock (do stmtsFrom g s (← rounds) [])
  return (body, t.position)

/-! ### Choices -/

/-- Reads a conditional statement. -/
def conditional (g : Grammar) (s : Surroundings) : Read Stmt := do
  let (t, s) ← enter s
  let test ← condition g s
  let (yes, yesPosition) ← g.block s
  if (← takeKeyword? "else").1 then
    let follow ← peek
    if isKeyword follow "if" then
      return .branch test yes yesPosition [← g.conditional s] follow.position t.position
    else
      let (no, noPosition) ← g.block s
      return .branch test yes yesPosition no noPosition t.position
  else return .branch test yes yesPosition [] .nowhere t.position

/-- An error among the values of a case: whatever is wrong, a literal is expected there. -/
def inCaseValue (e : CompileError) : CompileError := ⟨.expressionExpected "literal", e.position⟩

/-- Reads a value of a case. -/
def caseValue (g : Grammar) (s : Surroundings) : Read Expr := do
  let outer ← get
  set { outer with demands := [] }
  let found : Except CompileError Expr ←
    tryCatch (Except.ok <$> g.expr { s with inCase := true }) fun e => return .error e
  modify fun r =>
    { r with demands := (r.demands.map fun d => { d with error := inCaseValue d.error }) ++ outer.demands }
  match found with
  | .ok e => return e
  | .error e => throw (inCaseValue e)

/-- Reads the values of a case with bars between them. -/
def caseValuesFrom (g : Grammar) (s : Surroundings) : Nat → List Expr → Read (List Expr)
  | 0, done => return done.reverse
  | fuel + 1, done => do
    let e ← caseValue g s
    if (← takeSymbol? "|").1 then caseValuesFrom g s fuel (e :: done)
    else return (e :: done).reverse

/-- The value of a case: an expression that is known beforehand. -/
def caseValue? : Expr → Option Datum
  | .binary .rangeTo (.constant (.int a) _) (.constant (.int b) _) _ => some (.range a b false)
  | .binary .rangeThrough (.constant (.int a) _) (.constant (.int b) _) _ => some (.range a b true)
  | e => e.literal?

/-- The values of a case, without empty ranges. Once there has been a range, numbers are refused. -/
def caseValues (hasRange : Bool) : List Expr → Read (List Datum)
  | [] => return []
  | e :: es => do
    match caseValue? e with
    | none => fail (.expressionExpected "a literal") e.start
    | some (.range a b inclusive) =>
      if a < b || (inclusive && a = b) then
        return .range a b inclusive :: (← caseValues true es)
      else caseValues hasRange es
    | some v =>
      let isNumber := match v with
        | .int _ | .float _ => true
        | _ => false
      if hasRange && isNumber then fail .misplacedNumber e.start
      return v :: (← caseValues hasRange es)

/-- Whether one of some cases has a range. -/
def haveRange (cases : List Case) : Bool := cases.any fun c => c.values.any (·.isRange)

/-- A statement as what a case stands for. -/
def caseBody : Stmt → Expr
  | .block body p => .block body p
  | .skip p => .block [] p
  | s => .block [s] s.position

/-- The cases of a choice after the opening brace. -/
def casesFrom (g : Grammar) (s : Surroundings) :
    Nat → List Case → Option (Expr × Position) → Read (List Case × Option Expr)
  | 0, cases, otherwise => return (cases.reverse, otherwise.map (·.1))
  | fuel + 1, cases, otherwise => do
    let unclosed (mark : String) : CompileCause := .missing mark "to end this switch block"
    let body : Read (Expr × Bool) := do
      let arrow ← next
      if !isSymbol arrow "=>" then failAt arrow (.missing "=>" "in this switch case")
      let stmt ← g.stmt { s with isGlobal := false }
      return (caseBody stmt, endsItself stmt)
    let finish (endsItself : Bool) : Read Unit := do
      let t ← peek
      match t.token with
      | .symbol "," => let _ ← next
      | .symbol "\x7d" => return ()
      | .finish => fail (unclosed ")") t.position
      | .fault f => fail (.badInput f) t.position
      | _ =>
        if !endsItself then fail (.missing "," "to separate the items in this switch block") t.position
    let t ← peek
    match t.token with
    | .symbol "\x7d" => let _ ← next; return (cases.reverse, otherwise.map (·.1))
    | .finish => fail (unclosed "\x7d") t.position
    | token =>
      match otherwise, token with
      | some (_, p), _ => fail .misplacedDefault p
      | none, .symbol "_" =>
        let _ ← next
        let (isConditional, p) ← takeKeyword? "if"
        if isConditional then fail .conditionalDefault p
        let (e, endsItself) ← body
        finish endsItself
        casesFrom g s fuel cases (some (e, t.position))
      | none, _ =>
        let written ← caseValuesFrom g s (← rounds) []
        let guard ← if (← takeKeyword? "if").1 then some <$> condition g s else pure none
        let (e, endsItself) ← body
        let values ← caseValues (haveRange cases) written
        finish endsItself
        casesFrom g s fuel (.mk values guard e :: cases) none

/-- Reads a choice by a value. -/
def choice (g : Grammar) (s : Surroundings) : Read Stmt := do
  let (t, s) ← enter s
  let subject ← g.expr s
  expect "\x7b" "to start a switch block"
  let (cases, otherwise) ← casesFrom g s (← rounds) [] none
  return .choose subject cases otherwise t.position

/-! ### Loops -/

/-- Reads a loop with a condition in front, or with none. -/
def whileLoop (g : Grammar) (s : Surroundings) : Read Stmt := do
  let (t, s) ← enter s
  let test ← if isKeyword t "while" then some <$> condition g s else pure none
  let (body, p) ← g.block { s with inLoop := true }
  return .repeatWhile test body p t.position

/-- Reads a loop with a condition at its end. -/
def doLoop (g : Grammar) (s : Surroundings) : Read Stmt := do
  let (t, s) ← enter s
  let (body, p) ← g.block { s with inLoop := true }
  let w ← next
  if !(isKeyword w "while" || isKeyword w "until") then
    fail (.missing "while" "for the do statement") w.position
  let test ← condition g s
  return .repeatUntil body p test (isKeyword w "while") t.position

/-- Reads a loop over elements. -/
def forLoop (g : Grammar) (s : Surroundings) : Read Stmt := do
  let (t, s) ← enter s
  let (name, counter) ←
    if (← takeSymbol? "(").1 then do
      let name ← variableName
      let (hasComma, p) ← takeSymbol? ","
      if !hasComma then fail (.missing "," "after the iteration variable name") p
      let counter ← variableName
      if counter.text = name.text then fail (.duplicateVariable counter.text) counter.position
      let (isClosed, p) ← takeSymbol? ")"
      if !isClosed then fail (.missing ")" "to close the iteration variable") p
      pure (name.text, some counter.text)
    else do
      let name ← variableName
      pure (name.text, none)
  let word ← next
  if !isKeyword word "in" then failAt word (.missing "in" "after the iteration variable")
  requireCondition
  let elements ← requireIterable (← g.expr s)
  let (body, p) ← withinScope do
    match counter with
    | some c => sight c
    | none => pure ()
    sight name
    g.block { s with inLoop := true }
  return .each name counter elements body p t.position

/-! ### Declarations -/

/-- Reads a declaration. -/
def declaration (g : Grammar) (s : Surroundings) (isExported : Bool) : Read Stmt := do
  let (t, s) ← enter s
  let isConstant := isKeyword t "const"
  let name ← variableName
  let value ← if (← takeSymbol? "=").1 then g.expr s else pure (.constant .unit .nowhere)
  let isAnew ← declare name.text isConstant
  if isExported then markExported none
  return .declare name.text isConstant isExported isAnew value t.position

/-- Reads an import. -/
def importing (g : Grammar) (s : Surroundings) : Read Stmt := do
  let (t, s) ← enter s
  let source ← g.expr s
  let shownAs ← if (← takeKeyword? "as").1 then some <$> variableName else pure none
  let name := (shownAs.map (·.text)).getD ""
  modify fun r => { r with modules := name :: r.modules }
  return .load source name t.position

/-- Reads an export. -/
def exporting (g : Grammar) (s : Surroundings) : Read Stmt := do
  let (t, s) ← enter s
  let follow ← peek
  if isKeyword follow "let" || isKeyword follow "const" then
    declaration g (← deeper (s.startingAt follow.position)) true
  else
    let name ← variableName
    let shownAs ← if (← takeKeyword? "as").1 then variableName else pure name
    markExported (some name.text)
    return .expose name shownAs.text t.position

/-- Reads a statement that can fail and what is done then. -/
def attempt (g : Grammar) (s : Surroundings) : Read Stmt := do
  let (t, s) ← enter s
  let (body, bodyPosition) ← g.block s
  let (hasCatch, p) ← takeKeyword? "catch"
  if !hasCatch then fail (.missing "catch" "for the 'try' statement") p
  let name ←
    if (← takeSymbol? "(").1 then do
      let name ← variableName
      let (isClosed, p) ← takeSymbol? ")"
      if !isClosed then fail (.missing ")" "to enclose the catch variable") p
      pure (some name.text)
    else pure none
  let (handler, _) ← withinScope do
    match name with
    | some n => sight n
    | none => pure ()
    g.block s
  return .attempt body bodyPosition name handler t.position

/-- Whether an expression can start with a token. -/
def startsExpression (t : Placed) : Bool :=
  match t.token with
  | .int _ | .float _ | .char _ | .string _ | .fragment _ | .name _ | .reserved _ | .fault _ => true
  | .symbol s => ["\x7b", "(", "()", "[", "#\x7b", "-", "+", "!", "|", "||"].contains s
  | .keyword s => ["true", "false", "if", "switch", "while", "loop", "do", "for"].contains s
  | .finish => false

/-- Reads the value after a word, if there is one. -/
def optionalValue (g : Grammar) (s : Surroundings) : Read (Option Expr) := do
  if startsExpression (← peek) then some <$> g.expr s else return none

/-! ### Functions -/

/-- The parameters of a function after the opening mark. -/
def parametersFrom (function : String) : Nat → List String → Read (List String)
  | 0, done => return done.reverse
  | fuel + 1, done => do
    let t ← next
    match t.token with
    | .symbol ")" => return done.reverse
    | .name name =>
      if done.contains name then fail (.duplicateParameter function name) t.position
      let done := name :: done
      let u ← next
      match u.token with
      | .symbol ")" => return done.reverse
      | .symbol "," => parametersFrom function fuel done
      | _ =>
        failAt u (.missing "," ("to separate the parameters of function '" ++ function ++ "'"))
    | .reserved word => fail (.reserved word) t.position
    | .keyword _ => fail .variableExpected t.position
    | _ => failAt t (.missing ")" ("to close the parameters list of function '" ++ function ++ "'"))

/-- The nesting that a script may have. -/
def scriptDepth : Nat := 64

/-- The nesting that a function may have. -/
def functionDepth : Nat := 32

/-- The words that are kept free but may name functions of a script. -/
def overridableWords : List String := ["print", "debug", "type_of"]

/-- The parameters of a function; both parentheses may stand for none. -/
def parameters (function : String) : Read (List String) := do
  let t ← peek
  match t.token with
  | .symbol "()" => let _ ← next; return []
  | .symbol "(" => let _ ← next; parametersFrom function (← rounds) []
  | _ => fail (.parametersExpected function) t.position

/-- The type of objects that a name or a text stands for. -/
def receiverType (name : String) : String :=
  if name = "int" then (Datum.int 0).typeName
  else if name = "float" then (Datum.float 0).typeName
  else name

/-- Reads the name of a function, possibly after the type of the objects that it is a method of. -/
def functionName : Read (Option String × String) := do
  let t ← next
  let follow ← peek
  let nameOf (t : Placed) : Read String :=
    match t.token with
    | .name s => return s
    | .reserved s => if overridableWords.contains s then return s else fail (.reserved s) t.position
    | _ => fail .functionNameExpected t.position
  match t.token with
  | .name s | .string s =>
    if isSymbol follow "." then
      let _ ← next
      return (some (receiverType s), ← nameOf (← next))
    else
      match t.token with
      | .string _ => fail (.missing "." "after the type name for 'this'") follow.position
      | _ => return (none, s)
  | _ => return (none, ← nameOf t)

/-- Reads a function after its word, which stands at a place; also tells where its body starts. -/
def function (g : Grammar) (isPrivate : Bool) (p : Position) : Read (Function × Position) := do
  let s ← deeper ⟨0, functionDepth, p, false, true, false, false⟩
  let (receiver, name) ← functionName
  let parameters ← parameters name
  let b ← peek
  if !isSymbol b "\x7b" then fail (.bodyExpected name) b.position
  let (body, bodyPosition) ← withinScope do
    modify fun r =>
      { r with
        inSight := parameters.reverse.map (⟨·, false, false⟩)
        modules := []
        modulesOutside := r.modules ++ r.modulesOutside }
    g.block s
  return (⟨name, receiver, parameters, isPrivate, body⟩, bodyPosition)

/-- Reads the definition of a function, which may only stand outside all blocks. -/
def definition (g : Grammar) (isGlobal : Bool) : Read Stmt := do
  let t ← next
  let isPrivate := isKeyword t "private"
  let word ← if isPrivate then next else pure t
  if !isKeyword word "fn" then fail (.missing "fn" "following 'private'") word.position
  if !isGlobal then fail .misplacedFunction t.position
  let (f, bodyPosition) ← function g isPrivate word.position
  let r ← get
  let isSame (h : Function) : Bool :=
    h.name = f.name && h.receiver = f.receiver && h.parameters.length = f.parameters.length
  if r.functions.any isSame then
    fail (.duplicateFunction f.name f.parameters.length) bodyPosition
  set { r with functions := f :: r.functions }
  return .skip t.position

/-! ### Statements -/

/-- The place of the first method in a chain. -/
def firstMethod? (links : List Link) : Option Position :=
  links.findSome? fun
    | .method _ _ p _ => some p
    | _ => none

/-- Refuses a target that cannot be assigned to. -/
def requireTarget (target : Expr) (op : Option BinaryOp) (opPosition : Position) : Read Unit := do
  match target with
  | .lookup name p =>
    match (← get).inSight.find? (·.name = name) with
    | some v => if v.isConstant then fail (.constantAssigned name) p
    | none => return ()
  | .member _ _ _ => return ()
  | .chain root links _ =>
    match firstMethod? links, root with
    | some p, _ => fail .invalidTarget p
    | none, .lookup _ _ | none, .member _ _ _ => return ()
    | none, e => fail .invalidTarget e.position
  | e =>
    if e.literal?.isSome then fail (.constantAssigned "") e.start
    match op, e with
    | none, .all _ _ | none, .any _ _ | none, .orElse _ _ _ =>
      fail (.badInput (.improperSymbol "=" "Possibly a typo of '=='?")) opPosition
    | _, _ => fail .invalidTarget e.position

/-- Reads an expression or an assignment. -/
def exprStmt (g : Grammar) (s : Surroundings) : Read Stmt := do
  let e ← g.expr s
  let t ← peek
  let assignment (op : Option BinaryOp) : Read Stmt := do
    let _ ← next
    let value ← g.expr (s.startingAt t.position)
    requireTarget e op t.position
    return .assign op t.position e value
  match t.token with
  | .symbol "=" => assignment none
  | .symbol mark =>
    match assigningOp? mark with
    | some op => assignment (some op)
    | none => return .expr e
  | _ => return .expr e

/-- Reads a statement. -/
def stmt (g : Grammar) (s : Surroundings) : Read Stmt := do
  let t ← peek
  let p := t.position
  let s ← deeper (s.startingAt p)
  match t.token with
  | .finish => return .skip p
  | .symbol ";" => let _ ← next; return .skip p
  | .symbol "\x7b" =>
    let (body, p) ← g.block s
    return .block body p
  | .keyword "fn" | .keyword "private" => definition g s.isGlobal
  | .keyword "if" => g.conditional s
  | .keyword "switch" => choice g s
  | .keyword "while" | .keyword "loop" => whileLoop g s
  | .keyword "do" => doLoop g s
  | .keyword "for" => forLoop g s
  | .keyword "continue" =>
    if !s.inLoop then fail .misplacedBreak p
    let _ ← next
    return .next p
  | .keyword "break" =>
    if !s.inLoop then fail .misplacedBreak p
    let _ ← next
    return .leave (← optionalValue g s) p
  | .keyword "return" => let _ ← next; return .answer (← optionalValue g s) p
  | .keyword "throw" => let _ ← next; return .raise (← optionalValue g s) p
  | .keyword "try" => attempt g s
  | .keyword "let" | .keyword "const" => declaration g s false
  | .keyword "import" => importing g s
  | .keyword "export" =>
    if !s.isGlobal then fail .misplacedExport p
    exporting g s
  | _ => exprStmt g s

/-- How parts are read that are nested at most so deeply. -/
def grammar : Nat → Grammar
  | 0 =>
    let stop {α : Type} (s : Surroundings) : Read α := fail .tooDeep s.position
    ⟨stop, stop, fun s _ _ => stop s, stop, fun s _ => stop s, fun s _ _ => stop s, stop, stop, stop⟩
  | n + 1 =>
    { expr := fun s => expr (grammar n) s
      operand := fun s => operand (grammar n) s
      operators := fun s least e => operators (grammar n) s least e
      primary := fun s => primary (grammar n) s
      member := fun s p => member (grammar n) s p
      indices := fun s e p => indices (grammar n) s e p
      block := fun s => block (grammar n) s
      stmt := fun s => stmt (grammar n) s
      conditional := fun s => conditional (grammar n) s }

/-- Reads the statements of a script. -/
def script (g : Grammar) : Nat → List Stmt → Read (List Stmt)
  | 0, done => return done.reverse
  | fuel + 1, done => do
    let t ← peek
    match t.token with
    | .finish => return done.reverse
    | _ =>
      match ← g.stmt ⟨0, scriptDepth, t.position, true, false, false, false⟩ with
      | .skip _ => script g fuel done
      | stmt =>
        let t ← peek
        match t.token with
        | .finish => return (stmt :: done).reverse
        | .symbol ";" =>
          if !endsItself stmt then
            let _ ← next
            script g fuel (stmt :: done)
          else script g fuel (stmt :: done)
        | _ =>
          if endsItself stmt then script g fuel (stmt :: done)
          else failAt t (.missing ";" "to terminate this statement")

end Reader

/-- A number that tells a script from others. -/
def signatureOf (source : String) : Nat :=
  source.toList.foldl (fun n c => (n * 1000003 + c.toNat) % Nat.pow 2 64) 0

/-- What comes of reading a script: what it needs from its host, in order, and the program, if the
host provides all of that. -/
structure Reading where
  demands : List Demand
  result : Except CompileError Program

/-- Reads a script. -/
def Program.reading (isStrict : Bool) (source : String) : Reading :=
  let placed := tokens source
  let levels := placed.length + 8 * Reader.scriptDepth
  let (result, r) := (Reader.script (Reader.grammar levels) (placed.length + 1) []).run.run
    ⟨placed, [], [], 0, [], [], [], signatureOf source, isStrict, []⟩
  ⟨r.demands.reverse, result.map fun body => ⟨body, r.functions.reverse⟩⟩

/-- The first thing that a script needs and that is not among the variables provided. -/
def Reading.unmet? (r : Reading) (provided : List String) : Option Demand :=
  r.demands.find? fun d => !provided.contains d.name

/-- The program, unless the script needs something else than the variables provided. -/
def Reading.under (r : Reading) (provided : List String) : Except CompileError Program :=
  match r.unmet? provided with
  | some d => .error d.error
  | none => r.result

/-- Reads a script for a host that provides some variables. Where names are not strict, it need not
provide any. -/
def Program.read (isStrict : Bool) (provided : List String) (source : String) :
    Except CompileError Program :=
  let r := Program.reading isStrict source
  if isStrict then r.under provided else r.result

end HostedScripts.Language
