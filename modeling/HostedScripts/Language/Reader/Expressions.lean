import HostedScripts.Language.Reader.Basic

/-!
# Reading expressions

An expression is an operand with operators and further operands after it. An operand is a primary
expression with its signs; what may follow a primary expression directly are arguments and parts of a
path, if it is a name, and then properties, indices and method calls, which make it a chain. What follows
a chain in parentheses goes on that chain.
-/

namespace HostedScripts.Language.Reader

/-! ### Lists of expressions -/

/-- The arguments of a call after the opening mark. -/
def argumentsFrom (g : Grammar) (s : Surroundings) (function : String) :
    Nat → List Expr → Read (List Expr)
  | 0, done => return done.reverse
  | fuel + 1, done => do
    let t ← peek
    let done ← if isSymbol t ")" then pure done else do pure ((← g.expr s) :: done)
    let t ← peek
    match t.token with
    | .symbol ")" => let _ ← next; return done.reverse
    | .symbol "," => let _ ← next; argumentsFrom g s function fuel done
    | .finish =>
      fail (.missing ")" ("to close the arguments list of this function call '" ++ function ++ "'"))
        t.position
    | _ =>
      failAt t (.missing "," ("to separate the arguments to function call '" ++ function ++ "'"))

/-- The arguments of a call whose name stands at a place, after the opening mark or after both
parentheses. -/
def arguments (g : Grammar) (s : Surroundings) (function : String) (p : Position) (isEmpty : Bool) :
    Read (List Expr) := do
  if isEmpty then return []
  let t ← peek
  match t.token with
  | .finish =>
    fail (.missing ")" ("to close the arguments list of this function call '" ++ function ++ "'"))
      t.position
  | .fault f => fail (.badInput f) t.position
  | .symbol ")" => let _ ← next; return []
  | _ => argumentsFrom g (← deeper (s.startingAt p)) function (← rounds) []

/-- The elements of an array after the opening mark. -/
def elementsFrom (g : Grammar) (s : Surroundings) : Nat → List Expr → Read (List Expr)
  | 0, done => return done.reverse
  | fuel + 1, done => do
    let t ← peek
    match t.token with
    | .symbol "]" => let _ ← next; return done.reverse
    | .finish => fail (.missing "]" "to end this array literal") t.position
    | _ =>
      let done := (← g.expr (← deeper s)) :: done
      let t ← peek
      match t.token with
      | .symbol "," => let _ ← next; elementsFrom g s fuel done
      | .symbol "]" => elementsFrom g s fuel done
      | .finish => fail (.missing "]" "to end this array literal") t.position
      | _ => failAt t (.missing "," "to separate the items of this array literal")

/-- The name of an entry of a map; the flag tells whether it is the first one. -/
def entryName (isFirst : Bool) : Read Name := do
  let t ← next
  let missing : CompileCause := .missing "\x7d" "to end this object map literal"
  match t.token with
  | .name s | .string s => return ⟨s, t.position⟩
  | .fragment _ => fail .propertyExpected t.position
  | .reserved s =>
    if CompileCause.isWord s then fail (.reserved s) t.position
    else fail (if isFirst then missing else .propertyExpected) t.position
  | .finish => fail missing t.position
  | _ => failAt t (if isFirst then missing else .propertyExpected)

/-- The entries of a map after the opening mark. -/
def entriesFrom (g : Grammar) (s : Surroundings) :
    Nat → List (String × Expr) → Read (List (String × Expr))
  | 0, done => return done.reverse
  | fuel + 1, done => do
    let close := "to end this object map literal"
    let t ← peek
    match t.token with
    | .symbol "\x7d" => let _ ← next; return done.reverse
    | .finish => fail (.missing "\x7d" close) t.position
    | _ =>
      let name ← entryName done.isEmpty
      if done.any (·.1 = name.text) then fail (.duplicateProperty name.text) name.position
      expect ":" ("to follow the property '" ++ name.text ++ "' in this object map literal")
      let done := (name.text, ← g.expr (← deeper s)) :: done
      let t ← peek
      match t.token with
      | .symbol "," => let _ ← next; entriesFrom g s fuel done
      | .symbol "\x7d" => entriesFrom g s fuel done
      | .name _ =>
        fail (.missing "," "to separate the items of this object map literal") t.position
      | _ => failAt t (.missing "\x7d" close)

/-- The parts of a text with embedded blocks, after its first part. -/
def partsFrom (g : Grammar) (s : Surroundings) : Nat → List Expr → Read (List Expr)
  | 0, done => return done.reverse
  | fuel + 1, done => do
    let (body, p) ← g.block s
    let done := .block body p :: done
    let t ← next
    let with' (text : String) : List Expr :=
      if text = "" then done else .constant (.string text) t.position :: done
    match t.token with
    | .string text => return (with' text).reverse
    | .fragment text => partsFrom g s fuel (with' text)
    | .fault .openString => fail (.badInput .openString) s.position
    | .fault f => fail (.badInput f) t.position
    | _ => fail (.badInput (.unexpected t.token.text)) t.position

/-! ### Chains -/

/-- The joint that a token is before an index. -/
def indexJoint? (t : Placed) : Option Joint :=
  if isSymbol t "[" then some ⟨t.position, false⟩
  else if isSymbol t "?[" then some ⟨t.position, true⟩
  else none

/-- The joint that a token is before a member. -/
def memberJoint? (t : Placed) : Option Joint :=
  if isSymbol t "." then some ⟨t.position, false⟩
  else if isSymbol t "?." then some ⟨t.position, true⟩
  else none

/-- Takes the next token if it is a joint. -/
def takeJoint? (joint? : Placed → Option Joint) : Read (Option Joint) := do
  match joint? (← peek) with
  | some j =>
    let _ ← next
    return some j
  | none => return none

/-- Reads indices from the key of the first on, after a joint. The expression is what they stand
directly after; every further index is nested in the one before. -/
def indices (g : Grammar) (s : Surroundings) (indexed : Option Expr) (joint : Joint) :
    Read (List Link) := do
  let key ← g.expr (← deeper s)
  match indexed with
  | some e => requireIndex e key
  | none => pure ()
  let link := Link.index key joint
  let close ← peek
  if !isSymbol close "]" then failAt close (.missing "]" "for a matching [ in this index expression")
  let _ ← next
  match ← takeJoint? indexJoint? with
  | some j => return link :: (← g.indices (← deeper (s.startingAt j.position)) none j)
  | none => return [link]

/-- Reads a member, if there is one. It takes all that follows it. -/
def memberAfter (g : Grammar) (s : Surroundings) : Read (List Link) := do
  match ← takeJoint? memberJoint? with
  | some j => g.member (s.startingAt j.position) j
  | none => return []

/-- Reads indices and members; the expression is what they stand directly after, if it is not a
link. -/
def links (g : Grammar) (s : Surroundings) (indexed : Option Expr) : Read (List Link) := do
  match ← takeJoint? indexJoint? with
  | some j =>
    let found ← g.indices (← deeper (s.startingAt j.position)) indexed j
    return found ++ (← memberAfter g s)
  | none => memberAfter g s

/-- The words that are kept free but may be called as methods. -/
def methodWords : List String := ["type_of", "call", "curry", "is_shared"]

/-- Refuses an exclamation mark after a name unless arguments follow. -/
def requireArguments : Read Unit := do
  let t ← peek
  if !(isSymbol t "(" || isSymbol t "()") then
    fail (.missing "(" "to start arguments list of function call") t.position

/-- Reads the name after a point with what follows it. -/
def member (g : Grammar) (s : Surroundings) (joint : Joint) : Read (List Link) := do
  let t ← peek
  let p := t.position
  let name ← match t.token with
    | .name s => pure s
    | .reserved s => if methodWords.contains s then pure s else fail (.reserved s) p
    | _ => fail .propertyExpected p
  let s ← deeper s
  let s := s.startingAt p
  let _ ← next
  let follow ← peek
  match follow.token with
  | .symbol "(" | .symbol "()" =>
    let _ ← next
    let args ← arguments g s name p (isSymbol follow "()")
    if args.isEmpty && (name = "eval" || name = "Fn") then
      fail (.badInput (.improperSymbol name ("'" ++ name ++
        "' should not be called in method style. Try " ++ name ++ "(...);"))) p
    return .method name args p joint :: (← links g s none)
  | .symbol "!" =>
    let _ ← next
    requireArguments
    let open' ← next
    let _ ← arguments g s name p (isSymbol open' "()")
    fail (.malformedCapture "method-call style does not support running within the caller's scope") p
  | _ =>
    match t.token, follow.token with
    | .reserved word, _ => fail (.reserved word) p
    | _, .symbol "::" => fail (.badInput (.improperSymbol "::" "")) follow.position
    | _, _ => return .property name p joint :: (← links g s none)

/-- What follows a name directly: a path to another name, or arguments. -/
def named (g : Grammar) (s : Surroundings) :
    Nat → List Name → String → Position → Read Expr
  | 0, path, name, p => return .call ⟨path, none⟩ name [] p
  | fuel + 1, path, name, p => do
    let t ← peek
    let s := s.startingAt t.position
    match t.token with
    | .symbol "(" | .symbol "()" =>
      let _ ← next
      let args ← arguments g s name p (isSymbol t "()")
      return .call (← route path) name args p
    | .symbol "!" =>
      let _ ← next
      if path.isEmpty then
        requireArguments
        let open' ← next
        return .callOpen name (← arguments g s name p (isSymbol open' "()")) p
      else
        let follow ← peek
        let cause : LexicalCause :=
          if isSymbol follow "(" || isSymbol follow "()" then .unexpected "!"
          else .improperSymbol "!" "'!' cannot be used to call module functions"
        fail (.badInput cause) t.position
    | .symbol "::" =>
      let _ ← next
      let inner ← variableName
      named g s fuel (path ++ [⟨name, p⟩]) inner.text inner.position
    | _ =>
      if path.isEmpty then return .lookup name p
      else return .member ⟨path, none⟩ name p

/-- An expression with the links that follow it. Those of a chain in parentheses go on the chain. -/
def chained : Expr → List Link → Expr
  | e, [] => e
  | .chain root first p, ls => .chain root (first ++ ls) p
  | e, l :: ls => .chain e (l :: ls) l.joint.position

/-! ### Functions without names -/

/-- The parameters of a function without a name, after the opening bar. -/
def barredParametersFrom : Nat → List String → Read (List String)
  | 0, done => return done.reverse
  | fuel + 1, done => do
    let t ← next
    match t.token with
    | .symbol "|" => return done.reverse
    | .name name =>
      if done.contains name then fail (.duplicateParameter "" name) t.position
      let done := name :: done
      let u ← next
      match u.token with
      | .symbol "|" => return done.reverse
      | .symbol "," => barredParametersFrom fuel done
      | _ => failAt u (.missing "," "to separate the parameters of anonymous function")
    | .reserved word => fail (.reserved word) t.position
    | .keyword _ => fail .variableExpected t.position
    | _ => failAt t (.missing "|" "to close the parameters list of anonymous function or closure")

/-- The statements that a statement stands for as the body of a function. -/
def bodyOf : Stmt → List Stmt
  | .block body _ => body
  | .skip _ => []
  | s => [s]

/-- Reads a function that is written where it is used. The variables outside that it needs come
before its parameters; it takes them over where it stands. -/
def closure (g : Grammar) (s : Surroundings) : Read Expr := do
  let t ← next
  let s ← deeper (← deeper s)
  let parameters ← if isSymbol t "|" then barredParametersFrom (← rounds) [] else pure []
  let outer ← get
  let stmt ← withinScope do
    set
      { outer with
        inSight := parameters.reverse.map (⟨·, false, false⟩)
        outside := 0
        modules := []
        modulesOutside := outer.modules ++ outer.modulesOutside
        missing := []
        isStrict := false }
    g.stmt { s with isGlobal := false, inFunction := true, inLoop := false, inCase := false }
  let needed := (← get).missing.reverse
  modify fun r => { r with missing := outer.missing, isStrict := outer.isStrict }
  needed.forM useVariable
  let name := Function.namelessName (outer.signature + (← get).functions.length)
  let f : Function := ⟨name, none, needed.map (·.text) ++ parameters, false, bodyOf stmt⟩
  modify fun r => { r with functions := f :: r.functions }
  let p := t.position
  let bound : Expr := .constant (.function name true []) p
  match needed with
  | [] => return bound
  | first :: _ =>
    let given := needed.map fun v => .lookup v.text v.position
    return .block [.share needed first.position, .expr (.call .none "curry" (bound :: given) p)] p

/-! ### Operands -/

/-- Reads an expression that starts with its first token. -/
def head (g : Grammar) (s : Surroundings) : Read Expr := do
  let t ← next
  let p := t.position
  match t.token with
  | .int n => return .constant (.int n) p
  | .float x => return .constant (.float x) p
  | .char c => return .constant (.char c) p
  | .string text => return .constant (.string text) p
  | .keyword "true" => return .constant (.bool true) p
  | .keyword "false" => return .constant (.bool false) p
  | .symbol "()" => return .constant .unit p
  | .fragment text =>
    let first := if text = "" then [] else [.constant (.string text) p]
    return .interpolation (← partsFrom g (← deeper s) (← rounds) first) p
  | .symbol "(" =>
    let e ← g.expr (← deeper s)
    expect ")" "for a matching ( in this expression"
    return e
  | .symbol "[" =>
    return .array (← elementsFrom g (← deeper s) (← rounds) []) p
  | .symbol "#\x7b" =>
    return .map (← entriesFrom g (← deeper s) (← rounds) []) p
  | .name name =>
    let follow ← peek
    if !(["(", "()", "!", "::"].any (isSymbol follow)) then useVariable ⟨name, p⟩
    named g s (← rounds) [] name p
  | .reserved word =>
    let follow ← peek
    if Token.functionWords.contains word && ["(", "()", "!"].any (isSymbol follow) then
      named g s (← rounds) [] word p
    else if word = objectName then
      if s.inFunction then return .lookup word p
      else fail (.badInput (.improperSymbol word "'this' can only be used in functions")) p
    else fail (.reserved word) p
  | .finish => fail .incomplete p
  | .fault f => fail (.badInput f) p
  | other => fail (.badInput (.unexpected other.text)) p

/-- Reads a primary expression with what follows it. -/
def primary (g : Grammar) (s : Surroundings) : Read Expr := do
  let t ← peek
  let s := s.startingAt t.position
  let e ← match t.token with
    | .symbol "\x7b" => do
      let (body, p) ← g.block (← deeper s)
      pure (.block body p)
    | .keyword "if" => do pure (.block [← g.conditional (← deeper s)] t.position)
    | .keyword "switch" | .keyword "while" | .keyword "loop" | .keyword "do" | .keyword "for" => do
      pure (.block [← g.stmt s] t.position)
    | .symbol "|" | .symbol "||" => closure g s
    | _ => head g s
  let e := chained e (← links g s (some e))
  match e with
  | .member path name p => return .member (← route path.names) name p
  | .chain (.member path name p) ls q => return .chain (.member (← route path.names) name p) ls q
  | e => return e

/-- Reads an operand with its signs. -/
def operand (g : Grammar) (s : Surroundings) : Read Expr := do
  let t ← peek
  let p := t.position
  let s := s.startingAt p
  match t.token with
  | .symbol "-" =>
    let _ ← next
    match ← g.operand (← deeper s) with
    | .constant (.int n) _ =>
      if n = Int64.minValue then return .constant (.float (-n.toFloat)) p
      else return .constant (.int (-n)) p
    | .constant (.float x) _ => return .constant (.float (-x)) p
    | e => return .unary .minus e p
  | .symbol "+" =>
    let _ ← next
    match ← g.operand (← deeper s) with
    | .constant (.int n) q => return .constant (.int n) q
    | .constant (.float x) q => return .constant (.float x) q
    | e => return .unary .plus e p
  | .symbol "!" =>
    let _ ← next
    return .unary .not (← g.operand (← deeper s)) p
  | .finish => fail .incomplete p
  | _ => g.primary s

/-! ### Operators -/

/-- How tightly an infix mark binds; zero for other tokens. -/
def precedenceOf (s : Surroundings) (t : Placed) : Nat :=
  match t.token with
  | .symbol "||" => 30
  | .symbol "|" => if s.inCase then 0 else BinaryOp.bitOr.precedence
  | .symbol "&&" => 60
  | .symbol "??" => 135
  | .symbol "!in" | .keyword "in" => 110
  | .symbol s => ((BinaryOp.ofSymbol? s).map (·.precedence)).getD 0
  | _ => 0

/-- Refuses a mark that is kept free where an operator may stand. -/
def refuseReserved (t : Placed) : Read Unit :=
  match t.token with
  | .reserved s => if CompileCause.isWord s then return () else fail (.unknownOperator s) t.position
  | _ => return ()

/-- All of two conditions, each of which may already demand several. -/
def joinedAll (left right : Expr) (p : Position) : Expr :=
  match left, right with
  | .all ls q, .all rs _ => .all (ls ++ rs) q
  | .all ls q, r => .all (ls ++ [r]) q
  | l, .all rs _ => .all (l :: rs) p
  | l, r => .all [l, r] p

/-- One of two conditions, each of which may already offer several. -/
def joinedAny (left right : Expr) (p : Position) : Expr :=
  match left, right with
  | .any ls q, .any rs _ => .any (ls ++ rs) q
  | .any ls q, r => .any (ls ++ [r]) q
  | l, .any rs _ => .any (l :: rs) p
  | l, r => .any [l, r] p

/-- The expression of an infix mark with its operands. -/
def combine (t : Placed) (left right : Expr) : Read Expr := do
  let p := t.position
  match t.token with
  | .symbol "||" =>
    let left ← requireBoolean left
    return joinedAny left (← requireBoolean right) p
  | .symbol "&&" =>
    let left ← requireBoolean left
    return joinedAll left (← requireBoolean right) p
  | .symbol "??" => return .orElse left right p
  | .keyword "in" => return .call .none "contains" [right, left] left.start
  | .symbol "!in" => return .unary .not (.call .none "contains" [right, left] left.start) left.start
  | .symbol s =>
    match BinaryOp.ofSymbol? s with
    | some op => return .binary op left right p
    | none => fail (.unknownOperator s) p
  | other => fail (.unknownOperator other.text) p

/-- Reads operators and operands after a left operand, as long as they bind at least so tightly.
Every operator is nested one level further in than the one before. -/
def operatorsFrom (g : Grammar) (least : Nat) : Nat → Surroundings → Expr → Read Expr
  | 0, _, left => return left
  | fuel + 1, s, left => do
    let t ← peek
    refuseReserved t
    let precedence := precedenceOf s t
    let bindsRight := isSymbol t "**"
    if precedence < least || precedence = 0 then return left
    let _ ← next
    let right ← g.operand s
    let follow ← peek
    refuseReserved follow
    let followPrecedence := precedenceOf s follow
    let right ←
      if precedence < followPrecedence || (precedence = followPrecedence && bindsRight) then
        g.operators (← deeper s) (if bindsRight then precedence else precedence + 1) right
      else pure right
    let s ← deeper s
    operatorsFrom g least fuel (s.startingAt t.position) (← combine t left right)

/-- Reads operators and operands after a left operand, as long as they bind at least so tightly. -/
def operators (g : Grammar) (s : Surroundings) (least : Nat) (left : Expr) : Read Expr := do
  operatorsFrom g least (← rounds) (s.startingAt left.position) left

/-- Reads an expression. -/
def expr (g : Grammar) (s : Surroundings) : Read Expr := do
  let s ← deeper (s.startingAt (← peek).position)
  g.operators s 1 (← g.operand s)

end HostedScripts.Language.Reader
