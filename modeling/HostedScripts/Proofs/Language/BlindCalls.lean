import HostedScripts.Proofs.Language.Blind

/-! # Calls do not see the place of a variable

An evaluator is blind if the values of all expressions and statements are (`Evaluator.Blind`). Whatever is worked
out over it is blind then. Variables are found by their names (`blind_binding`); a function sees its own
variables, and perhaps those of its caller (`Callee.blind_passage`); all else that is looked at in a machine has
nothing to do with its scope. -/

namespace HostedScripts.Language

variable {d : Difference} {α : Type}

/-- An evaluator that does not see the place of a variable, whatever it is. -/
structure Evaluator.Blind (g : Evaluator) : Prop where
  expr : ∀ d e, (g.expr e).Blind d
  stmt : ∀ d s, (g.stmt s).Blind d

namespace Evaluator

open Computation Run

variable {g : Evaluator}

theorem blind_stmts (h : g.Blind) (body : List Stmt) : (stmts g body).Blind d := by
  induction body with
  | nil => exact .pure _
  | cons s ss ih =>
    cases ss with
    | nil => exact h.stmt d s
    | cons t ts => exact .bind (h.stmt d s) fun _ => ih

theorem blind_block (h : g.Blind) (body : List Stmt) : (block g body).Blind d := by
  unfold block
  split
  · exact .pure _
  · exact blind_withinBlock (blind_stmts h body)

/-! ### Variables and modules -/

theorem blind_moduleAt? (path : Route) (p : Position) : (moduleAt? path p).Blind d := by
  unfold moduleAt?
  split
  · exact .pure _
  · refine .get_bind_of_scopeless (fun _ _ => rfl) fun m => ?_
    dsimp only
    split
    · exact .pure _
    · exact .failAt _ _

theorem blind_memberValue (path : Route) (name : String) (p : Position) :
    (memberValue path name p).Blind d := by
  refine .get_bind_of_scopeless (fun _ _ => rfl) fun m => ?_
  dsimp only
  split
  · refine .bind (.pure _) fun found? => ?_
    split
    · exact .pure _
    · exact .failAt _ _
  · refine .bind (blind_moduleAt? path p) fun _ => .bind (.pure _) fun found? => ?_
    split
    · exact .pure _
    · exact .failAt _ _

theorem blind_binding (name : String) (p : Position) : (binding name p).Blind d := by
  refine .get_bind (fun m m' hm => ?_) fun m => ?_
  · rw [hm.lookUp_eq]
  · split
    · exact .pure _
    · exact .failAt _ _

theorem blind_isDeclared (name : String) : (isDeclared name).Blind d := by
  refine .get_bind (fun m m' hm => ?_) fun m => .pure _
  rw [hm.lookUp_eq]

theorem blind_isFunction (name : String) : (isFunction name).Blind d :=
  .get_bind_of_scopeless (fun _ _ => rfl) fun _ => .pure _

theorem blind_content_bind (v : Datum) {f : Datum → Run α} (h : ∀ v, (f v).Blind d) :
    ((get : Run Machine) >>= fun m => f (m.content v)).Blind d :=
  .get_bind_of_scopeless (fun _ _ => rfl) fun _ => h _

theorem blind_valueOf (name : String) (p : Position) : (valueOf name p).Blind d := by
  refine .bind (blind_isDeclared name) fun declared => .bind (blind_isFunction name) fun isKnown => ?_
  split
  · exact .pure _
  · exact .bind (blind_binding name p) fun b => blind_content_bind b.value fun _ => .pure _

theorem blind_requireObject (e : Expr) : (requireObject e).Blind d := by
  unfold requireObject
  split
  · split
    · exact .bind (blind_binding _ _) fun _ => .pure _
    · exact .pure _
  · exact .pure _

theorem blind_store (name : String) (value : Datum) : (store name value).Blind d :=
  .change (fun m => m.grows_store name value) fun _ _ hm => hm.store name value

/-! ### Functions of scripts -/

namespace Callee

variable {c : Callee} {m m' t t' : Machine}

/-- The variables of a function: its parameters, and its object. -/
def own (c : Callee) (object : Option Datum) : Scope :=
  ((c.function.parameters.zip c.arguments).map fun (name, d) => Binding.mk name d.free []).reverse ++
    object.toList.map fun d => Binding.mk objectName d []

/-- How the machines differ inside a function. -/
def difference (c : Callee) (d : Difference) : Difference := if c.isOpen then d else .nothing

theorem entered_scope (hc : SparesScope c.enter) (object : Option Datum) (m : Machine) :
    (c.entered object m).scope = c.own object ++ if c.isOpen then m.scope else [] :=
  hc.scope_eq _

theorem grows_left (hc : SparesScope c.enter) {object : Option Datum}
    (hgrows : (c.entered object m).scope.Grows t.scope) : m.scope.Grows (c.left m t).scope := by
  rw [entered_scope hc] at hgrows
  unfold left
  dsimp only
  split at hgrows
  next hopen =>
    rw [if_pos hopen]
    exact hgrows.of_append
  next hclosed =>
    rw [if_neg hclosed]
    exact .refl _

theorem alike_entered (hc : SparesScope c.enter) (object : Option Datum) (hm : m.Alike d m') :
    (c.entered object m).Alike (c.difference d) (c.entered object m') := by
  obtain ⟨hscope⟩ := hm
  refine hc.alike ?_
  unfold difference
  split
  · exact .intro (hscope.append _)
  · exact .intro rfl

theorem clear_left (hc : SparesScope c.enter) {object : Option Datum} (hm : m.Alike d m')
    (hgrows : (c.entered object m).scope.Grows t.scope) (hclear : d.Clear (c.left m t).scope) :
    (c.difference d).Clear t.scope := by
  rw [entered_scope hc] at hgrows
  unfold difference
  split
  next hopen =>
    obtain ⟨hscope⟩ := hm
    unfold left at hclear
    rw [if_pos hopen] at hgrows hclear
    exact hclear.of_rewind hscope.depth_le ((Scope.grows_append _ _).trans hgrows).length_le
  next => trivial

theorem alike_left (hc : SparesScope c.enter) {object : Option Datum} (hm : m.Alike d m')
    (hgrows : (c.entered object m).scope.Grows t.scope) (ht : t.Alike (c.difference d) t') :
    (c.left m t).Alike d (c.left m' t') := by
  rw [entered_scope hc] at hgrows
  obtain ⟨hscope⟩ := hm
  obtain ⟨hinside⟩ := ht
  refine .intro (s := if c.isOpen then _ else _) ?_
  unfold difference at hinside
  unfold left
  dsimp only
  split at hinside
  next hopen =>
    rw [if_pos hopen] at hgrows ⊢
    rw [if_pos hopen]
    exact hscope.rewind hinside ((Scope.grows_append _ _).trans hgrows)
  next hclosed =>
    rw [if_neg hclosed, if_neg hclosed]
    exact hscope

theorem blind_passage (hc : SparesScope c.enter) : c.passage.Blind d (c.difference d) where
  grows _ _ hgrows := grows_left hc hgrows
  enter _ _ hm := alike_entered hc none hm
  clear _ _ _ hm hgrows hclear := clear_left hc hm hgrows hclear
  back _ _ _ _ hm hgrows ht := alike_left hc hm hgrows ht

theorem blind_passageOn (hc : SparesScope c.enter) : c.passageOn.Blind d (c.difference d) where
  grows _ _ hgrows := grows_left hc hgrows
  enter x x' hx := by
    have hentered := alike_entered hc (some x.1) hx.2
    have henter : c.passageOn.enter x' = c.entered (some x.1) x'.2 := by rw [← hx.1]; rfl
    rw [henter]
    exact hentered
  clear _ _ _ hx hgrows hclear := clear_left hc hx.2 hgrows hclear
  back x x' t t' hx hgrows ht :=
    ⟨by rw [passageOn]; simp only [ht.held?_eq, hx.1], alike_left hc hx.2 hgrows ht⟩

end Callee

theorem blind_countCall (p : Position) : (countCall p).Blind d := by
  refine .bind (blind_tick p) fun _ =>
    .read_bind (fun _ _ hsetting => by simp only [hsetting.maxCallLevels]) fun setting =>
    .get_bind_of_scopeless (fun _ _ => rfl) fun m => ?_
  split
  · exact .failAt _ _
  · exact .pure _

theorem blind_callFunction (h : g.Blind) {c : Callee} (hc : SparesScope c.enter) (p : Position) :
    (callFunction g c p).Blind d :=
  .bind (blind_countCall p) fun _ => .turned _ (.inside (Callee.blind_passage hc) (blind_stmts h _))

theorem blind_callFunctionOn (h : g.Blind) {c : Callee} (hc : SparesScope c.enter) (p : Position) :
    (callFunctionOn g c p).Blind d :=
  .bind (Focus.blind_lift (blind_countCall p)) fun _ =>
    .turned _ (.inside (Callee.blind_passageOn hc) (blind_stmts h _))

theorem blind_function? (name : String) (arity : Nat) (object : Option Datum) :
    (function? name arity object).Blind d :=
  .get_bind_of_scopeless (fun _ _ => rfl) fun _ => .pure _

/-! ### Functions of the library -/

theorem blind_callLibrary (name : String) (arguments : List Datum) (p : Position) :
    (callLibrary name arguments p).Blind d := by
  unfold callLibrary
  split
  · exact .bind (blind_say _ _) fun _ => .pure _
  · exact .bind (blind_say _ _) fun _ => .pure _
  · exact .bind (blind_say _ _) fun _ => .pure _
  · exact .bind (blind_say _ _) fun _ => .pure _
  · exact .depart _ _
  · split
    · exact .depart _ _
    · exact .interrupt _
  · split
    · split
      · exact .failAt _ _
      · exact .pure _
    · exact .failAt _ _
    · exact .failAt _ _

theorem blind_countedLibrary (name : String) (arguments : List Datum) (p : Position) :
    (countedLibrary name arguments p).Blind d := by
  unfold countedLibrary
  split
  · exact .bind (blind_tick p) fun _ => blind_callLibrary name arguments p
  · exact blind_callLibrary name arguments p

/-! ### Calls -/

theorem blind_contents (arguments : List Datum) :
    (arguments.mapM fun v => return (← get).content v : Run (List Datum)).Blind d :=
  .mapM fun v _ => blind_content_bind v fun _ => .pure _

theorem sparesScope_id : SparesScope id := fun _ _ => rfl

theorem blind_callNamed (h : g.Blind) (name : String) (isBound isOpen : Bool) (arguments : List Datum)
    (p : Position) : (callNamed g name isBound isOpen arguments p).Blind d := by
  refine .bind (blind_function? _ _ _) fun found? => ?_
  split
  · split
    · exact .pure _
    · exact .bind (blind_callFunction h sparesScope_id p) fun _ => .pure _
  · exact .bind (blind_contents arguments) fun _ => blind_countedLibrary _ _ _

theorem blind_callOnValue (h : g.Blind) (name : String) (isBound : Bool) (arguments : List Datum)
    (p : Position) : (callOnValue g name isBound arguments p).Blind d := by
  refine Focus.blind_get_bind fun object =>
    .bind (Focus.blind_lift (blind_function? _ _ _)) fun found? => ?_
  split
  · split
    · exact .pure _
    · exact blind_callFunctionOn h sparesScope_id p
  · refine .bind (Focus.blind_lift (blind_contents arguments)) fun _ =>
      .bind (Focus.blind_lift (blind_countedLibrary _ _ _)) fun effect => ?_
    split
    · exact .pure _
    · exact .bind (Focus.blind_set _) fun _ => .pure _

theorem blind_callMethod (h : g.Blind) (name : String) (arguments : List Datum) (q p : Position) :
    (callMethod g name arguments q p).Blind d := by
  refine Focus.blind_get_bind fun object => ?_
  split
  · exact .bind (Focus.blind_lift (blind_callNamed h _ _ _ _ _)) fun _ => .pure _
  · exact blind_callOnValue h _ _ _ _
  · exact Focus.blind_lift (.failAt _ _)
  · split
    · exact .pure _
    · exact Focus.blind_lift (.failAt _ _)
  · split
    · exact .pure _
    · exact Focus.blind_lift (.failAt _ _)
  · exact .pure _
  · split
    · exact blind_callOnValue h _ _ _ _
    · exact blind_callOnValue h _ _ _ _
  · exact blind_callOnValue h _ _ _ _

theorem blind_heldValue (h : g.Blind) (e : Expr) : (heldValue g e).Blind d := by
  unfold heldValue
  split
  · refine .bind (blind_tick _) fun _ => .bind (blind_valueOf _ _) fun v =>
      .get_bind (fun m m' hm => ?_) fun m => ?_
    · rw [hm.held?_eq]
    · split
      · exact .pure _
      · exact .pure _
  · exact h.expr d _

theorem blind_textArgument (h : g.Blind) (e : Expr) : (textArgument g e).Blind d := by
  refine .bind (h.expr d e) fun v => ?_
  split
  · exact .pure _
  · exact .failAt _ _

theorem blind_integerArgument (h : g.Blind) (e : Expr) : (integerArgument g e).Blind d := by
  refine .bind (h.expr d e) fun v => ?_
  split
  · exact .pure _
  · exact .failAt _ _

theorem blind_functionArgument (h : g.Blind) (e : Expr) : (functionArgument g e).Blind d := by
  refine .bind (h.expr d e) fun v => ?_
  split
  · exact .pure _
  · exact .failAt _ _

theorem blind_values (h : g.Blind) (es : List Expr) : (es.mapM g.expr).Blind d := .mapM fun e _ => h.expr d e

theorem blind_callByName (h : g.Blind) (name : String) (isBound : Bool) (args : List Expr) (p : Position) :
    (callByName g name isBound args p).Blind d := by
  unfold callByName
  split
  · refine .bind (blind_requireObject _) fun _ => .bind (blind_values h _) fun ds =>
      .bind (blind_valueOf _ _) fun v => .bind (blind_tick _) fun _ =>
      .get_bind (fun m m' hm => ?_) fun m => ?_
    · rw [hm.held?_eq]
    · refine .bind (blind_callNamed h _ _ _ _ _) fun effect => ?_
      cases effect.changed with
      | none => exact .pure _
      | some changed => exact .ite (.bind (blind_store _ _) fun _ => .pure _) (.pure _)
  · exact .bind (blind_values h _) fun _ => .bind (blind_callNamed h _ _ _ _ _) fun _ => .pure _

theorem blind_runText (h : g.Blind) (text : String) (p : Position) : (runText g text p).Blind d := by
  refine .get_bind_of_scopeless (fun _ _ => rfl) fun m => .enclosed _
    (.read_bind (fun _ _ hsetting => by simp only [hsetting.isStrict]) fun setting => ?_)
  split
  · exact .fail _
  · split
    · exact .bind (.fail _) fun _ => .turned _ (blind_stmts h _)
    · exact .turned _ (blind_stmts h _)

theorem blind_callInSight (h : g.Blind) (name : String) (args : List Expr) (p : Position) :
    (callInSight g name args p).Blind d := by
  unfold callInSight
  split
  · refine .bind (blind_functionArgument h _) fun found => ?_
    split
    · exact blind_callByName h _ _ _ _
    · exact .bind (blind_values h _) fun _ => .bind (blind_callNamed h _ _ _ _ _) fun _ => .pure _
  · refine .bind (blind_functionArgument h _) fun found => ?_
    exact .bind (.mapM fun e _ => blind_heldValue h e) fun _ => .pure _
  · refine .bind (blind_textArgument h _) fun f => ?_
    split
    · exact .pure _
    · exact .failAt _ _
  · exact .bind (blind_textArgument h _) fun _ => blind_runText h _ _
  · refine .bind (blind_heldValue h _) fun v => ?_
    split
    · exact .pure _
    · exact .pure _
  · exact .bind (blind_textArgument h _) fun _ => .bind (blind_isDeclared _) fun _ => .pure _
  · refine .bind (blind_textArgument h _) fun f => .bind (blind_integerArgument h _) fun n => ?_
    split
    · exact .pure _
    · exact .bind (blind_function? _ _ _) fun _ => .pure _
  · exact blind_callByName h _ _ _ _

theorem blind_callOpen (h : g.Blind) (name : String) (args : List Expr) (p : Position) :
    (callOpen g name args p).Blind d := by
  refine .get_bind ?_ fun m => ?_
  · rintro m _ ⟨hscope⟩
    rw [hscope.isEmpty_eq]
  · split
    · exact blind_callInSight h _ _ _
    · exact .bind (blind_values h _) fun _ => .bind (blind_callNamed h _ _ _ _ _) fun _ => .pure _

theorem blind_moduleArguments (h : g.Blind) (args : List Expr) : (moduleArguments g args).Blind d := by
  unfold moduleArguments
  split
  · exact .bind (blind_tick _) fun _ => .bind (blind_values h _) fun _ =>
      .bind (blind_valueOf _ _) fun _ => .pure _
  · exact blind_values h _

theorem blind_callInModule (h : g.Blind) (path : Route) (name : String) (args : List Expr) (p : Position) :
    (callInModule g path name args p).Blind d := by
  refine .bind (blind_moduleArguments h args) fun ds => .bind (blind_moduleAt? path p) fun found? => ?_
  dsimp only
  split
  · exact blind_callFunction h (fun _ _ => rfl) p
  · exact .failAt _ _

end Evaluator

end HostedScripts.Language
