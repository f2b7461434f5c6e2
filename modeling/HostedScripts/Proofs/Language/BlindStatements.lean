import HostedScripts.Proofs.Language.BlindCalls

/-! # Scripts do not see the place of a variable

The rest of what an evaluator works out: chains and assignments, expressions, statements, and modules. A module
shows what it exports, and only there the place of a variable would be seen if the scope were not clear
(`blind_runModule`). Evaluators of all levels are blind then (`blind_evaluator`). -/

namespace HostedScripts.Language

variable {d : Difference} {α : Type}

namespace Evaluator

open Computation Run

variable {g : Evaluator}

/-! ### Chains -/

theorem blind_step (h : g.Blind) (l : Link) : (step g l).Blind d := by
  cases l with
  | property name p q => exact .pure _
  | index key q => exact .bind (h.expr d key) fun _ => .pure _
  | method name args p q => exact .bind (blind_values h args) fun _ => .pure _

theorem blind_countedSteps (h : g.Blind) (ls : List Link) : (countedSteps g ls).Blind d := by
  induction ls with
  | nil => exact .pure _
  | cons l rest ih =>
    exact .bind (blind_tick _) fun _ => .bind (blind_step h l) fun _ => .bind ih fun _ => .pure _

theorem blind_steps (h : g.Blind) (ls : List Link) : (steps g ls).Blind d := by
  unfold steps
  split
  · exact .pure _
  · exact .pure _
  · exact .pure _
  · exact blind_countedSteps h ls

theorem blind_property (v : Datum) (name : String) (p joint : Position) :
    (property v name p joint).Blind d := by
  refine .bind (Focus.blind_lift (blind_tick p)) fun _ => ?_
  split
  · exact .pure _
  · exact .bind (Focus.blind_lift (blind_tick joint)) fun _ => .fail _

theorem blind_part (v key : Datum) (p joint : Position) : (part v key p joint).Blind d := by
  refine .bind (Focus.blind_lift (blind_count none)) fun _ => .bind (.ofExcept _) fun part? => ?_
  split
  · exact .pure _
  · exact .bind (Focus.blind_lift (blind_tick joint)) fun _ => .fail _

theorem blind_placedNext (steps : List Step) {focus : Focus α} (h : focus.Blind d) :
    (placedNext steps focus).Blind d := by
  cases steps with
  | nil => exact h
  | cons s steps => exact Focus.blind_placedAt _ h

theorem blind_onPart (part : Part) {focus : Focus α} (h : focus.Blind d) : (onPart part focus).Blind d := by
  unfold onPart
  split
  · exact Focus.blind_within part h
  · exact Focus.blind_get_bind fun v => Focus.blind_aside h _

theorem blind_follow (h : g.Blind) (steps : List Step) : (follow g steps).Blind d := by
  induction steps with
  | nil => exact Focus.blind_get_bind fun _ => .pure _
  | cons s steps ih =>
    refine Focus.blind_get_bind fun v => ?_
    split
    · exact .pure _
    · split
      · refine .bind (blind_callMethod h _ _ _ _) fun w => ?_
        split
        · exact .pure _
        · split
          · exact blind_placedNext steps (Focus.blind_aside ih _)
          · exact Focus.blind_placedAt _ (Focus.blind_aside ih _)
      · split
        · exact .bind (Focus.blind_lift (blind_count none)) fun _ =>
            Focus.blind_within _ (blind_placedNext steps ih)
        · exact .bind (blind_property _ _ _ _) fun w => blind_placedNext steps (Focus.blind_aside ih w)
      · exact .bind (blind_part _ _ _ _) fun part => blind_onPart part (blind_placedNext steps ih)

/-! ### Assignments -/

theorem blind_over (a : Assignment) (old : Datum) : (a.over old).Blind d := by
  unfold Assignment.over
  split
  · exact .pure _
  · exact .bind (.forIn (fun _ _ => .bind (blind_tick _) fun _ => .pure _) _ _) fun _ => .ofExcept _

theorem blind_perform (a : Assignment) : a.perform.Blind d := by
  refine Focus.blind_get_bind fun v => ?_
  split
  · exact .bind (.fail _) fun _ => .bind (Focus.blind_lift (blind_over a v)) fun w => Focus.blind_set w
  · exact .bind (Focus.blind_lift (blind_over a v)) fun w => Focus.blind_set w

theorem blind_assignEntry (a : Assignment) (key : String) : (assignEntry a key).Blind d := by
  refine Focus.blind_get_bind fun v => ?_
  split
  · exact .bind (.ofExcept _) fun w => .bind (Focus.blind_set w) fun _ =>
      Focus.blind_within _ (blind_perform a)
  · exact Focus.blind_within _ (blind_perform a)

theorem blind_assignLast (a : Assignment) (s : Step) : (assignLast a s).Blind d := by
  cases s with
  | method name args q p r => exact .pure _
  | property name p joint =>
    refine Focus.blind_get_bind fun v => ?_
    split
    · exact .bind (Focus.blind_lift (blind_count none)) fun _ => blind_assignEntry a name
    · have hfixed : ∀ value, (do
          Focus.lift (tick p)
          Focus.lift (tick joint.position)
          fail (v.bare.fixedProperty name value p) : Focus Unit).Blind d := fun value =>
        .bind (Focus.blind_lift (blind_tick p)) fun _ =>
          .bind (Focus.blind_lift (blind_tick joint.position)) fun _ => .fail _
      dsimp only
      split
      · exact .bind (.pure _) hfixed
      · exact .bind (blind_property _ _ _ _) fun old => .bind (Focus.blind_lift (blind_over a old)) hfixed
  | index key p joint =>
    refine Focus.blind_get_bind fun v => .bind (Focus.blind_lift (blind_count none)) fun _ =>
      .bind (.ofExcept _) fun part? => ?_
    have htick : (Focus.lift (tick joint.position)).Blind d := Focus.blind_lift (blind_tick _)
    split
    · have hfail : (do
          Focus.lift (tick joint.position)
          fail (v.notIndexed key (some a.value) joint.position) : Focus Unit).Blind d :=
        .bind htick fun _ => .fail _
      exact .ite (.bind htick fun _ => hfail) hfail
    · exact blind_assignEntry a _
    · refine .ite (Focus.blind_within _ (blind_perform a)) ?_
      exact .bind (Focus.blind_lift (blind_over a _)) fun w => .bind (.ofExcept _) fun w => Focus.blind_set w

theorem blind_assignPart (h : g.Blind) (a : Assignment) (steps : List Step) : (assignPart g a steps).Blind d := by
  induction steps with
  | nil => exact blind_perform a
  | cons s steps ih =>
    rw [assignPart]
    refine Focus.blind_get_bind fun v => ?_
    split
    · exact .pure _
    · split
      · exact blind_assignLast a s
      · exact .bind (blind_callMethod h _ _ _ _) fun w => Focus.blind_aside ih w
      · split
        · exact .bind (Focus.blind_lift (blind_count none)) fun _ =>
            Focus.blind_within _ (blind_placedNext _ ih)
        · exact .bind (blind_property _ _ _ _) fun w =>
            .bind (blind_placedNext _ (Focus.blind_aside ih w)) fun _ =>
            .bind (Focus.blind_lift (blind_tick _)) fun _ => Focus.blind_lift (blind_tick _)
      · exact .bind (blind_part _ _ _ _) fun part => blind_onPart part (blind_placedNext _ ih)

/-! ### Chains and targets -/

theorem blind_chain (h : g.Blind) (root : Expr) (links : List Link) : (chain g root links).Blind d := by
  refine .bind (blind_steps h links) fun steps => ?_
  split
  · exact .bind (blind_tick _) fun _ => .bind (blind_valueOf _ _) fun v =>
      blind_onVariable _ v (blind_follow h steps)
  · exact .bind (blind_tick _) fun _ => .bind (blind_memberValue _ _ _) fun v =>
      blind_onValue v (blind_follow h steps)
  · exact .bind (h.expr d _) fun v => blind_onValue v (blind_follow h steps)

theorem blind_assign (h : g.Blind) (op : Option BinaryOp) (opPosition : Position) (value : Datum)
    (target : Expr) : (assign g op opPosition value target).Blind d := by
  unfold assign
  split
  next name p =>
    have hperform (v : Datum) :
        (onVariable name v (Assignment.at op opPosition value (.lookup name p)).perform).Blind d :=
      blind_onVariable name v (blind_perform _)
    exact .bind (blind_tick _) fun _ => .bind (blind_valueOf _ _) fun v =>
      .bind (blind_isDeclared _) fun _ => .ite (.bind (.failAt _ _) fun _ => hperform v) (hperform v)
  · exact .bind (blind_tick _) fun _ => .bind (blind_memberValue _ _ _) fun _ => .failAt _ _
  · refine .bind (blind_steps h _) fun steps => ?_
    dsimp only
    split
    · exact .bind (blind_tick _) fun _ => .bind (blind_valueOf _ _) fun v =>
        blind_onVariable _ v (blind_assignPart h _ steps)
    · exact .bind (blind_tick _) fun _ => .bind (blind_memberValue _ _ _) fun v =>
        blind_onValue v (blind_assignPart h _ steps)
    · exact .bind (h.expr d _) fun v => blind_onValue v (blind_assignPart h _ steps)
  · exact .pure _

/-! ### Expressions -/

theorem blind_truth (h : g.Blind) (e : Expr) : (truth g e).Blind d := by
  refine .bind (h.expr d e) fun v => ?_
  split
  · exact .pure _
  · exact .failAt _ _

theorem blind_allHold (h : g.Blind) (es : List Expr) : (allHold g es).Blind d := by
  induction es with
  | nil => exact .pure _
  | cons e es ih => exact .bind (blind_truth h e) fun _ => .ite ih (.pure _)

theorem blind_anyHolds (h : g.Blind) (es : List Expr) : (anyHolds g es).Blind d := by
  induction es with
  | nil => exact .pure _
  | cons e es ih => exact .bind (blind_truth h e) fun _ => .ite (.pure _) ih

theorem blind_ticks (n : Nat) (p : Position) {c : Run α} (h : c.Blind d) : (do
    for _ in List.range n do tick p
    c : Run α).Blind d :=
  .bind (.forIn (fun _ _ => .bind (blind_tick p) fun _ => .pure _) _ _) fun _ => h

theorem blind_exprValue (h : g.Blind) (e : Expr) : (exprValue g e).Blind d := by
  cases e with
  | constant v p => exact .pure _
  | interpolation parts p => exact .bind (blind_values h parts) fun _ => .pure _
  | array es p => exact .bind (blind_values h es) fun _ => .pure _
  | map entries p =>
    exact .bind (.mapM fun entry _ => .bind (h.expr d entry.2) fun _ => .pure _) fun _ => .pure _
  | lookup name p => exact .bind (blind_valueOf name p) fun _ => .pure _
  | member path name p => exact blind_memberValue path name p
  | call path name args p => exact .ite (blind_callInSight h name args p) (blind_callInModule h path name args p)
  | callOpen name args p => exact blind_callOpen h name args p
  | unary op e p => exact .bind (h.expr d e) fun _ => blind_ticks _ p (.ofExcept _)
  | binary op l r p =>
    exact .bind (h.expr d l) fun _ => .bind (h.expr d r) fun _ => blind_ticks _ p (.ofExcept _)
  | all es p => exact .bind (blind_allHold h es) fun _ => .pure _
  | any es p => exact .bind (blind_anyHolds h es) fun _ => .pure _
  | orElse l r p =>
    refine .bind (h.expr d l) fun v => ?_
    split
    · exact h.expr d r
    · exact .pure _
  | chain root links p => exact blind_chain h root links
  | block body p => exact blind_block h body

theorem blind_countedValue (h : g.Blind) (e : Expr) : (countedValue g e).Blind d :=
  .bind (blind_tick _) fun _ => blind_exprValue h e

/-! ### Loops -/

theorem blind_brokenRound? (h : g.Blind) (body : List Stmt) : (brokenRound? g body).Blind d :=
  .turned _ (blind_block h body)

theorem blind_round (h : g.Blind) (body : List Stmt) : (round g body).Blind d :=
  .bind (blind_brokenRound? h body) fun _ => .pure _

theorem blind_idle (p : Position) (n : Nat) : (idle p n).Blind d := by
  induction n with
  | zero => exact .interrupt _
  | succ n ih => exact .bind (blind_tick p) fun _ => ih

/-- A round of a loop, and what follows unless the loop is left. -/
theorem blind_afterRound (h : g.Blind) (body : List Stmt) {c : Run Datum} (hc : c.Blind d) : (do
    match ← round g body with
    | some v => return v
    | none => c : Run Datum).Blind d := by
  refine .bind (blind_round h body) fun left? => ?_
  split
  · exact .pure _
  · exact hc

theorem blind_repeatForever (h : g.Blind) (body : List Stmt) (n : Nat) : (repeatForever g body n).Blind d := by
  induction n with
  | zero => exact .interrupt _
  | succ n ih => exact blind_afterRound h body ih

theorem blind_repeatWhile (h : g.Blind) (condition : Expr) (body : List Stmt) (n : Nat) :
    (repeatWhile g condition body n).Blind d := by
  induction n with
  | zero => exact .interrupt _
  | succ n ih =>
    exact .bind (blind_truth h condition) fun _ => .ite (blind_afterRound h body ih) (.pure _)

theorem blind_repeatUntil (h : g.Blind) (body : List Stmt) (condition : Expr) (goOn : Bool) (n : Nat) :
    (repeatUntil g body condition goOn n).Blind d := by
  induction n with
  | zero => exact .interrupt _
  | succ n ih =>
    refine .bind (blind_brokenRound? h body) fun end? => ?_
    split
    · exact .pure _
    · exact ih
    · exact .bind (blind_truth h condition) fun _ => .ite ih (.pure _)

theorem blind_repeatFor (h : g.Blind) {bring : Datum → Nat → Run Unit} (hbring : ∀ v i, (bring v i).Blind d)
    (body : List Stmt) (p : Position) (element : Nat → Option Datum) (n i : Nat) :
    (repeatFor g bring body p element n i).Blind d := by
  induction n generalizing i with
  | zero => exact .pure _
  | succ n ih =>
    unfold repeatFor
    split
    · exact .pure _
    · exact .ite (.bind (blind_tick p) fun _ => ih (i + 1))
        (.bind (hbring _ i) fun _ => blind_afterRound h body (ih (i + 1)))

theorem blind_each (h : g.Blind) (name : String) (counter : Option String) (elements : Expr)
    (body : List Stmt) (p : Position) : (each g name counter elements body p).Blind d := by
  refine .bind (h.expr d elements) fun v => ?_
  cases counter with
  | none =>
    have hrepeat := fun element n => blind_withinBlock <| Blind.bind (blind_introduce (d := d) name .unit)
      fun _ => blind_repeatFor h (fun v _ => blind_store name v) body p element n 0
    split
    · exact .failAt _ _
    · exact hrepeat _ _
    · exact hrepeat _ _
  | some c =>
    have hrepeat := fun element n => blind_withinBlock <| Blind.bind (blind_introduce (d := d) c (.int 0))
      fun _ => Blind.bind (blind_introduce name .unit) fun _ =>
      blind_repeatFor h (fun v i => Blind.bind (blind_store c (.int (Int64.ofNat i))) fun _ => blind_store name v)
        body p element n 0
    split
    · exact .failAt _ _
    · exact hrepeat _ _
    · exact hrepeat _ _

/-! ### Choices -/

theorem blind_firstCase (h : g.Blind) (cases : List Case) : (firstCase g cases).Blind d := by
  induction cases with
  | nil => exact .pure _
  | cons c cases ih =>
    unfold firstCase
    split
    · exact .bind (blind_truth h _) fun _ => .ite (.pure _) ih
    · exact .pure _

theorem blind_choose (h : g.Blind) (subject : Expr) (cases : List Case) (otherwise : Option Expr) :
    (choose g subject cases otherwise).Blind d := by
  refine .bind (h.expr d subject) fun v => .bind (blind_firstCase h _) fun found? => ?_
  split
  · exact h.expr d _
  · exact .pure _

/-! ### Modules -/

theorem runModule_run (g : Evaluator) (name : String) (program : Program) (s : Situation Machine)
    (before : Machine) (record : List Departure) :
    let functions := FunctionSet.mk name program.functions
    let p := modulePassage functions
    (runModule g name program).run s before record =
      match (turned moduleEnd isFaithful_moduleEnd (stmts g program.body)).run (s.through p before)
        (p.enter before) record with
      | ⟨.ok _, m, record⟩ =>
        ⟨.ok (.mk functions m.constants (exportsOf m) (m.modules.take (m.modules.length - before.modules.length))),
          p.back before { m with scope := m.scope.rewind before.scope.length }, record⟩
      | ⟨.error i, m, record⟩ => ⟨.error i, p.back before m, record⟩ := by
  intro functions p
  have hrun : (runModule g name program).run s before record =
      (inside p (turned moduleEnd isFaithful_moduleEnd (stmts g program.body) >>= fun _ => do
        let m ← get
        let own := m.modules.take (m.modules.length - before.modules.length)
        set { m with scope := m.scope.rewind before.scope.length }
        return .mk functions m.constants (exportsOf m) own)).run s before record := rfl
  rw [hrun, run_inside_bind]
  generalize (turned moduleEnd isFaithful_moduleEnd (stmts g program.body)).run (s.through p before)
    (p.enter before) record = u
  obtain ⟨result, m, record⟩ := u
  cases result <;> rfl

theorem exportsOf_eq {m m' : Machine} (hm : m.Alike d m') (hclear : d.Clear m.scope) :
    exportsOf m' = exportsOf m := by
  obtain ⟨hscope⟩ := hm
  refine Dictionary.eq_of_get? (Dictionary.increasing_ofEntries _) (Dictionary.increasing_ofEntries _)
    fun name => ?_
  unfold exportsOf
  rw [Dictionary.get?_ofEntries, Dictionary.get?_ofEntries, List.reverse_reverse, List.reverse_reverse]
  exact hscope.get?_exports_eq hclear m.content name

/-- A module leaves the same. What it exports is the same since the scope is clear where it ends. -/
theorem blind_runModule (h : g.Blind) (name : String) (program : Program) :
    (runModule g name program).Blind d := by
  have hbody : (turned moduleEnd isFaithful_moduleEnd (stmts g program.body)).Blind d :=
    .turned _ (blind_stmts h _)
  constructor
  · intro s m record
    have hgrows := hbody.grows (s.through (modulePassage ⟨name, program.functions⟩) m)
      ((modulePassage ⟨name, program.functions⟩).enter m) record
    rw [runModule_run]
    split
    next hu =>
      rw [hu] at hgrows
      exact hgrows.rewind
    next hu =>
      rw [hu] at hgrows
      exact hgrows
  · intro s s' m m' record record' hsetting hm hclear
    have hscope : d.Scopes m.scope m'.scope := by
      obtain ⟨hscope⟩ := hm
      exact hscope
    have hmodules : m'.modules.length = m.modules.length := by
      obtain ⟨-⟩ := hm
      rfl
    have henter := SparesScope.alike (f := (modulePassage ⟨name, program.functions⟩).enter) (fun _ _ => rfl) hm
    have hgrows := hbody.grows (s.through (modulePassage ⟨name, program.functions⟩) m)
      ((modulePassage ⟨name, program.functions⟩).enter m) record
    have hsame := hbody.same (s.through (modulePassage ⟨name, program.functions⟩) m)
      (s'.through (modulePassage ⟨name, program.functions⟩) m') _ _ record record' hsetting henter
    rw [runModule_run] at hclear
    rw [runModule_run, runModule_run]
    generalize (turned moduleEnd isFaithful_moduleEnd (stmts g program.body)).run
      (s.through (modulePassage ⟨name, program.functions⟩) m)
      ((modulePassage ⟨name, program.functions⟩).enter m) record = u at hgrows hsame hclear
    generalize (turned moduleEnd isFaithful_moduleEnd (stmts g program.body)).run
      (s'.through (modulePassage ⟨name, program.functions⟩) m')
      ((modulePassage ⟨name, program.functions⟩).enter m') record' = u' at hsame
    obtain ⟨result, t, record⟩ := u
    obtain ⟨result', t', record'⟩ := u'
    cases result with
    | ok a =>
      have hend : d.Clear t.scope := hclear.of_rewind hscope.depth_le hgrows.length_le
      obtain ⟨rfl, ht⟩ := hsame hend
      have hexports := exportsOf_eq ht hend
      obtain ⟨hinside⟩ := ht
      obtain ⟨-⟩ := hm
      refine ⟨?_, .intro (hscope.rewind hinside hgrows)⟩
      dsimp only
      rw [hexports]
    | error i =>
      obtain ⟨rfl, ht⟩ := hsame hclear
      obtain ⟨hinside⟩ := ht
      obtain ⟨-⟩ := hm
      exact ⟨rfl, .intro hinside⟩

theorem blind_load (h : g.Blind) (name : String) (p : Position) : (load g name p).Blind d := by
  refine .read_bind (fun _ _ hsetting => by simp only [hsetting.isStrict, hsetting.modules]) fun setting => ?_
  split
  · exact .failAt _ _
  · refine .get_bind_of_scopeless (fun _ _ => rfl) fun m => ?_
    split
    · exact .pure _
    · refine .bind (.enclosed _ ?_) fun m => .bind (.change_of_sparesScope fun _ _ => rfl) fun _ => .pure _
      split
      · exact .fail _
      · exact blind_runModule h _ _

/-! ### Statements -/

/-- A variable is exported under another name, too. -/
def exported (name : String) (b : Binding) : Binding := { b with exports := name :: b.exports }

theorem grows_exported (name : String) (b : Binding) :
    (exported name b).name = b.name ∧ b.exports ⊆ (exported name b).exports :=
  ⟨rfl, List.subset_cons_self _ _⟩

theorem blind_exportHead (name : String) :
    (modify fun m => { m with scope := m.scope.modifyHead (exported name) } : Run Unit).Blind d := by
  refine .change (fun m => Scope.grows_modifyHead (grows_exported name) m.scope) ?_
  rintro m _ ⟨hscope⟩
  exact .intro (hscope.modifyHead _)

theorem blind_replace (name : String) (v : Datum) :
    (modify fun m => { m with scope := m.scope.modify name fun b => { b with value := v } } : Run Unit).Blind d :=
  .change_variable (f := fun b => { b with value := v }) (fun b => ⟨rfl, List.Subset.refl b.exports⟩) name

theorem blind_bring (name : String) (isConstant isExported isAnew : Bool) (v : Datum) :
    (bring name isConstant isExported isAnew v).Blind d := by
  have hconstant : (modify fun m =>
      if m.blocks = 0 && m.functions.any (!·.functions.isEmpty) then
        { m with constants := m.constants.insert name v.free }
      else m : Run Unit).Blind d := by
    refine .change_of_sparesScope fun m s => ?_
    dsimp only
    split <;> rfl
  have hrest := Blind.ite (p := isExported = true) (blind_exportHead (d := d) name) (.pure ())
  have hvalue := Blind.ite (p := isAnew = true) (.bind (blind_replace name (declared v isConstant)) fun _ => hrest)
    (.bind (blind_declare name v isConstant) fun _ => hrest)
  exact .ite (.bind hconstant fun _ => hvalue) hvalue

theorem blind_optional (h : g.Blind) (e : Option Expr) : (optional g e).Blind d := by
  cases e with
  | none => exact .pure _
  | some e => exact h.expr d e

theorem blind_attempt (h : g.Blind) (body : List Stmt) (name : Option String) (handler : List Stmt) :
    (attempt g body name handler).Blind d := by
  refine .attempted (blind_block h body) fun e =>
    .get_bind_of_scopeless (fun _ _ => rfl) fun m => .turned _ (blind_withinBlock ?_)
  cases name with
  | none => exact blind_block h handler
  | some n => exact .bind (blind_declare n _ false) fun _ => blind_block h handler

theorem blind_carryOut (h : g.Blind) (s : Stmt) : (carryOut g s).Blind d := by
  refine .bind (blind_tick _) fun _ => ?_
  split
  · exact .pure _
  · exact h.expr d _
  · exact blind_exprValue h _
  · exact .bind (h.expr d _) fun v => .bind (blind_bring _ _ _ _ v) fun _ => .pure _
  · exact .bind (blind_requireObject _) fun _ => .bind (h.expr d _) fun v =>
      .bind (blind_assign h _ _ v _) fun _ => .pure _
  · exact .bind (blind_truth h _) fun _ => .ite (blind_block h _) (blind_block h _)
  · exact blind_choose h _ _ _
  · exact .ite (blind_idle _ _) (blind_repeatForever h _ _)
  · exact .ite (blind_idle _ _) (blind_repeatForever h _ _)
  · exact blind_repeatWhile h _ _ _
  · exact blind_repeatUntil h _ _ _ _
  · exact blind_each h _ _ _ _ _
  · exact .bind (blind_optional h _) fun _ => .interrupt _
  · exact .interrupt _
  · exact .bind (blind_optional h _) fun _ => .interrupt _
  · exact .bind (blind_optional h _) fun _ => .failAt _ _
  · exact blind_attempt h _ _ _
  · refine .bind (h.expr d _) fun v => ?_
    split
    · exact .bind (blind_load h _ _) fun m => .bind (.change_of_sparesScope fun _ _ => rfl) fun _ => .pure _
    · exact .failAt _ _
  · exact .bind (blind_binding _ _) fun _ => .bind (.change_variable (grows_exported _) _) fun _ => .pure _
  · refine .bind (.forIn (fun v _ => ?_) _ _) fun _ => .pure _
    exact .bind (blind_binding _ _) fun _ =>
      .bind (.change (fun m => m.grows_share v.text) fun _ _ hm => hm.share v.text) fun _ => .pure _
  · exact blind_block h _

end Evaluator

/-- No level of evaluators sees the place of a variable. -/
theorem blind_evaluator (n : Nat) : (evaluator n).Blind := by
  induction n with
  | zero => exact ⟨fun _ _ => .interrupt _, fun _ _ => .interrupt _⟩
  | succ n ih => exact ⟨fun _ e => Evaluator.blind_countedValue ih e, fun _ s => Evaluator.blind_carryOut ih s⟩

theorem Scope.lookUp_map (s : Scope) (f : Datum → Datum) (name : String) :
    Scope.lookUp (s.map fun b => { b with value := f b.value }) name =
      (s.lookUp name).map fun b => { b with value := f b.value } := by
  unfold Scope.lookUp
  rw [List.find?_map]
  rfl

theorem Machine.Alike.lookUp_held_eq {m m' : Machine} (h : m.Alike d m') (name : String) :
    m'.held.lookUp name = m.held.lookUp name := by
  unfold Machine.held
  rw [Scope.lookUp_map, Scope.lookUp_map, h.lookUp_eq]
  obtain ⟨-⟩ := h
  rfl

namespace Program

variable {program : Program} {setting : Setting} {s s' : Scope}

theorem grows_upshot (program : Program) (setting : Setting) (s : Scope) :
    s.Grows (program.upshot setting s).state.scope :=
  (Evaluator.blind_stmts (d := .nothing) (blind_evaluator setting.levels) program.body).grows
    (.outset setting) _ []

/-- **A script does not see the place of a variable** in its scope, if the scope is clear when it has ended:
it fails with the same failure, has said the same, and leaves the same values. -/
theorem run_of_scopes (h : d.Scopes s s') (hclear : d.Clear (program.upshot setting s).state.scope) :
    (program.run setting s').failure = (program.run setting s).failure ∧
      (program.run setting s').said = (program.run setting s).said ∧
      ∀ name, (program.run setting s').scope.lookUp name = (program.run setting s).scope.lookUp name := by
  obtain ⟨hresult, hstate⟩ : (program.upshot setting s').result = (program.upshot setting s).result ∧
      (program.upshot setting s).state.Alike d (program.upshot setting s').state :=
    (Evaluator.blind_stmts (blind_evaluator setting.levels) program.body).same (.outset setting)
      (.outset setting) _ _ [] [] (.refl setting) (Machine.Alike.intro h) hclear
  refine ⟨?_, congrArg List.reverse hstate.said_eq, hstate.lookUp_held_eq⟩
  unfold run Upshot.failure?
  dsimp only
  rw [hresult]

/-- **A script does not see more of the files than its modules.** In settings that are alike it comes to the
same. -/
theorem run_of_settings {setting' : Setting} (h : setting.Alike setting') (program : Program) (s : Scope) :
    program.run setting' s = program.run setting s := by
  obtain ⟨hresult, hstate⟩ : (program.upshot setting' s).result = (program.upshot setting s).result ∧
      (program.upshot setting s).state.Alike .nothing (program.upshot setting' s).state := by
    unfold upshot
    rw [h.levels]
    exact (Evaluator.blind_stmts (blind_evaluator setting.levels) program.body).same (.outset setting)
      (.outset setting') _ _ [] [] h (Machine.Alike.intro rfl) trivial
  unfold run Upshot.failure?
  dsimp only
  rw [hresult, hstate.eq_of_nothing]

end Program

end HostedScripts.Language
