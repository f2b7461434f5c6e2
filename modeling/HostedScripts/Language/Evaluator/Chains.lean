import HostedScripts.Language.Evaluator.Calls

/-!
# Chains

A chain works out its keys and arguments first, from left to right, and then its root. The links are
followed on the value in place, so what a method or an assignment changes on the way stays changed even
if a later link fails. A failure without a place is placed at the joint of the link.
-/

namespace HostedScripts.Language

namespace Evaluator

open Computation Run

/-! ### Steps -/

/-- Works out the key or the arguments of a link. -/
def step (g : Evaluator) : Link → Run Step
  | .property name p q => return .property name p q
  | .index key q => return .index (← g.expr key) key.start q
  | .method name args p q =>
    return .method name (← args.mapM g.expr) ((args.head?.map (·.position)).getD .nowhere) p q

/-- Where the last link of a chain is counted. -/
def ownPlace : Link → Position
  | .property _ p _ | .method _ _ p _ => p
  | .index key _ => key.position

/-- Works out the keys and arguments of links. Every link is counted: the last one where it stands,
the others at the joint of the next one. -/
def countedSteps (g : Evaluator) : List Link → Run (List Step)
  | [] => return []
  | l :: rest => do
    tick ((rest.head?.map (·.joint.position)).getD (ownPlace l))
    let s ← step g l
    return s :: (← countedSteps g rest)

/-- Works out the keys and arguments of the links of a chain. A link that stands alone is not
counted if there is nothing to work out. -/
def steps (g : Evaluator) : List Link → Run (List Step)
  | [.property name p q] => return [.property name p q]
  | [.index (.constant key p) q] => return [.index key p q]
  | [.method name [] p q] => return [.method name [] .nowhere p q]
  | links => countedSteps g links

/-! ### Looking at parts -/

/-- The property of a value that is no map. -/
def property (d : Datum) (name : String) (p joint : Position) : Focus Datum := do
  Focus.lift (tick p)
  match Library.property? name d with
  | some v => return v
  | none =>
    Focus.lift (tick joint)
    fail (d.unknownProperty name p)

/-- The part that a key leads to. -/
def part (d key : Datum) (p joint : Position) : Focus Part := do
  Focus.lift (count none)
  match ← ofExcept (d.part? key p) with
  | some part => return part
  | none =>
    Focus.lift (tick joint)
    fail (d.notIndexed key none joint)

/-- Goes on with some steps, whose failures are placed at the joint of the first one. -/
def placedNext {α : Type} (steps : List Step) (focus : Focus α) : Focus α :=
  match steps with
  | [] => focus
  | s :: _ => Focus.placedAt s.joint.position focus

/-- Goes on with a part of the value: in place if the value owns it. -/
def onPart {α : Type} (part : Part) (focus : Focus α) : Focus α := do
  if part.isOwned then Focus.within part focus
  else Focus.aside focus ((part.get? (← get)).getD .unit)

/-- Follows some steps from a value. A part that the last step leads to is copied. -/
def follow (g : Evaluator) : List Step → Focus Datum
  | [] => return (← get).free
  | s :: steps => do
    let d ← get
    if s.isCutAt d then return .unit
    match s with
    | .method name args q p _ =>
      let v ← callMethod g name args q p
      if steps.isEmpty then return v
      let rest := Focus.aside (follow g steps) v
      match d.bare with
      | .map _ => placedNext steps rest
      | _ => Focus.placedAt p rest
    | .property name p joint =>
      match d.bare with
      | .map _ =>
        Focus.lift (count none)
        Focus.within (.entry name) (placedNext steps (follow g steps))
      | d =>
        let v ← property d name p joint.position
        placedNext steps (Focus.aside (follow g steps) v)
    | .index key p joint =>
      let part ← part d key p joint.position
      onPart part (placedNext steps (follow g steps))

/-! ### Assignments -/

/-- What an assignment puts in place of an old value: the value on the right, or what an operator
makes of both; the complaint is for an old value that is fixed. -/
structure Assignment where
  op : Option BinaryOp
  opPosition : Position
  value : Datum
  complaint : Failure

/-- The new value for an old one. -/
def Assignment.over (a : Assignment) (old : Datum) : Run Datum :=
  match a.op with
  | none => pure a.value
  | some op => do
    for _ in List.range (op.lookUpsAssigning old a.value) do tick a.opPosition
    ofExcept (op.applyAssigning old a.value a.opPosition)

/-- Assigns to the value itself, unless it is fixed. -/
def Assignment.perform (a : Assignment) : Focus Unit := do
  let d ← get
  if d.isFixed then fail a.complaint
  set (← Focus.lift (a.over d))

/-- Assigns to an entry of a map, which is put there if it is missing. -/
def assignEntry (a : Assignment) (key : String) : Focus Unit := do
  let d ← get
  if ((Part.entry key).get? d).isNone then
    set (← ofExcept ((Part.entry key).put .unit d a.opPosition))
  Focus.within (.entry key) a.perform

/-- Assigns to the part that a step leads to. -/
def assignLast (a : Assignment) : Step → Focus Unit
  | .method _ _ _ _ _ => return ()
  | .property name p joint => do
    match (← get).bare with
    | .map _ =>
      Focus.lift (count none)
      assignEntry a name
    | d =>
      let value ← match a.op with
        | none => pure a.value
        | some _ => Focus.lift (a.over (← property d name p joint.position))
      Focus.lift (tick p)
      Focus.lift (tick joint.position)
      fail (d.fixedProperty name value p)
  | .index key p joint => do
    let d ← get
    Focus.lift (count none)
    match ← ofExcept (d.part? key p) with
    | none =>
      if a.op.isSome then Focus.lift (tick joint.position)
      Focus.lift (tick joint.position)
      fail (d.notIndexed key (some a.value) joint.position)
    | some (.entry k) => assignEntry a k
    | some part =>
      if part.isOwned then Focus.within part a.perform
      else
        let value ← Focus.lift (a.over ((part.get? d).getD .unit))
        set (← ofExcept (part.put value d a.opPosition))

/-- Assigns to the end of a chain. -/
def assignPart (g : Evaluator) (a : Assignment) : List Step → Focus Unit
  | [] => a.perform
  | s :: steps => do
    let d ← get
    if s.isCutAt d then return ()
    match s, steps with
    | s, [] => assignLast a s
    | .method name args q p _, steps =>
      let v ← callMethod g name args q p
      Focus.aside (assignPart g a steps) v
    | .property name p joint, steps =>
      match d.bare with
      | .map _ =>
        Focus.lift (count none)
        Focus.within (.entry name) (placedNext steps (assignPart g a steps))
      | d =>
        let v ← property d name p joint.position
        placedNext steps (Focus.aside (assignPart g a steps) v)
        Focus.lift (tick p)
        Focus.lift (tick joint.position)
    | .index key p joint, steps =>
      let part ← part d key p joint.position
      onPart part (placedNext steps (assignPart g a steps))

/-! ### Chains and targets -/

/-- The value of a chain. -/
def chain (g : Evaluator) (root : Expr) (links : List Link) : Run Datum := do
  let steps ← steps g links
  match root with
  | .lookup name p =>
    tick p
    onVariable name (← valueOf name p) (follow g steps)
  | .member path name p =>
    tick p
    onValue (← memberValue path name p) (follow g steps)
  | e => onValue (← g.expr e) (follow g steps)

/-- The complaint about changing a constant. The object of a method has no name. -/
def constantChanged (name : String) (p : Position) : Failure :=
  .plain (.constant (if name = objectName then "" else name)) (some p)

/-- What an assignment puts in place of an old value, with the complaint where a constant is changed
at this root. -/
def Assignment.at (op : Option BinaryOp) (opPosition : Position) (value : Datum) (root : Expr) :
    Assignment :=
  let complaint : Failure := match root with
    | .lookup name p => constantChanged name p
    | .member path name p => .plain (.constant name) (some (path.start p))
    | e => .plain (.constant "") (some e.position)
  ⟨op, opPosition, value, complaint⟩

/-- Assigns a value to a variable or a part of one, after combining it with an operator if there is
one. -/
def assign (g : Evaluator) (op : Option BinaryOp) (opPosition : Position) (value : Datum) :
    Expr → Run Unit
  | .lookup name p => do
    tick p
    let d ← valueOf name p
    if !(← isDeclared name) then failAt (.constant name) p
    onVariable name d (Assignment.at op opPosition value (.lookup name p)).perform
  | .member path name p => do
    tick p
    let _ ← memberValue path name p
    failAt (.constant name) p
  | .chain root links _ => do
    let steps ← steps g links
    let a := Assignment.at op opPosition value root
    match root with
    | .lookup name p =>
      tick p
      onVariable name (← valueOf name p) (assignPart g a steps)
    | .member path name p =>
      tick p
      onValue (← memberValue path name p) (assignPart g a steps)
    | e => onValue (← g.expr e) (assignPart g a steps)
  | _ => pure ()

end Evaluator

end HostedScripts.Language
