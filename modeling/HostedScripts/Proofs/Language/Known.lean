import HostedScripts.Language.Simplify

/-! # Simplifying depends on what is known

Whoever simplifies a script looks the variables up by their names. So two lists of variables that know the same
values (`Known.Same`) lead to the same script (`Program.simplified_eq`), in whatever order the variables stand
in them. A simplifier that treats such lists alike is *even*; the steps of simplifying over it are then even,
too. -/

namespace HostedScripts.Language

/-- Two lists of variables that know the same values. -/
def Known.Same (known known' : Known) : Prop := ∀ name, known'.value? name = known.value? name

variable {known known' : Known}

theorem Known.Same.cons (h : known.Same known') (entry : String × Option Datum) :
    Known.Same (entry :: known) (entry :: known') := by
  intro name
  have hstep : ∀ known : Known, Known.value? (entry :: known) name =
      if entry.1 = name then entry.2 else known.value? name := fun known => by
    unfold Known.value?
    by_cases hname : entry.1 = name <;> simp [hname]
  rw [hstep, hstep, h name]

/-- A simplifier that looks variables up by their names. -/
structure Simplifier.Even (g : Simplifier) : Prop where
  expr : ∀ {known known' : Known}, known.Same known' → g.expr known' = g.expr known
  stmt : ∀ {known known' : Known}, known.Same known' → g.stmt known' = g.stmt known
  block : ∀ {known known' : Known}, known.Same known' → g.block known' = g.block known

namespace Simplifier

variable {g : Simplifier}

/-! ### Lists of statements -/

theorem inTurn_eq (hg : g.Even) (keepsValue : Bool) (h : known.Same known') (body : List Stmt) :
    inTurn g keepsValue known' body = inTurn g keepsValue known body := by
  induction body generalizing known known' with
  | nil => rfl
  | cons s ss ih =>
    cases s <;> simp only [inTurn, hg.expr h, hg.stmt h, ih h, ih (h.cons _)]

theorem onePass_eq (hg : g.Even) (h : known.Same known') : onePass g known' = onePass g known := by
  funext keepsValue isInside endsFunction stmts
  unfold onePass
  simp only [inTurn_eq hg keepsValue h]

theorem settled_eq (hg : g.Even) (h : known.Same known') : settled g known' = settled g known := by
  funext keepsValue isInside endsFunction stmts
  unfold settled
  rw [onePass_eq hg h]

/-! ### Expressions -/

theorem binary_eq (hg : g.Even) (h : known.Same known') : binary g known' = binary g known := by
  unfold binary
  rw [hg.expr h]

theorem call_eq (hg : g.Even) (h : known.Same known') : call g known' = call g known := by
  unfold call
  rw [hg.expr h]

theorem conditions_eq (hg : g.Even) (h : known.Same known') : conditions g known' = conditions g known := by
  unfold conditions
  rw [hg.expr h]

theorem interpolation_eq (hg : g.Even) (h : known.Same known') :
    interpolation g known' = interpolation g known := by
  unfold interpolation
  rw [hg.expr h]

theorem links_eq (hg : g.Even) (h : known.Same known') (ls : List Link) :
    links g known' ls = links g known ls := by
  induction ls with
  | nil => rfl
  | cons l ls ih => cases l <;> simp only [links, hg.expr h, ih]

theorem chain_eq (hg : g.Even) (h : known.Same known') : chain g known' = chain g known := by
  funext isLast root ls p
  unfold chain
  simp only [links_eq hg h, hg.expr h]

theorem valueBlock_eq (hg : g.Even) (h : known.Same known') : valueBlock g known' = valueBlock g known := by
  unfold valueBlock
  rw [hg.expr h, hg.block h]

theorem simplifyExpr_eq (hg : g.Even) (h : known.Same known') :
    simplifyExpr g known' = simplifyExpr g known := by
  unfold simplifyExpr
  simp only [h _, hg.expr h, binary_eq hg h, call_eq hg h, conditions_eq hg h, interpolation_eq hg h,
    chain_eq hg h, valueBlock_eq hg h]

/-! ### Statements -/

theorem branch_eq (hg : g.Even) (h : known.Same known') : branch g known' = branch g known := by
  unfold branch
  rw [hg.expr h, hg.block h]

theorem caseParts_eq (hg : g.Even) (h : known.Same known') : caseParts g known' = caseParts g known := by
  unfold caseParts
  rw [hg.expr h]

theorem choose_eq (hg : g.Even) (h : known.Same known') : choose g known' = choose g known := by
  unfold choose
  rw [hg.expr h, caseParts_eq hg h]

theorem simplifyStmt_eq (hg : g.Even) (h : known.Same known') :
    simplifyStmt g known' = simplifyStmt g known := by
  unfold simplifyStmt
  simp only [h _, hg.expr h, hg.block h, branch_eq hg h, choose_eq hg h]

end Simplifier

theorem even_simplifier (n : Nat) : (simplifier n).Even := by
  induction n with
  | zero => exact ⟨fun _ => rfl, fun _ => rfl, fun _ => rfl⟩
  | succ n ih =>
    refine ⟨fun h => ?_, fun h => ?_, fun h => ?_⟩
    · exact Simplifier.simplifyExpr_eq ih h
    · exact Simplifier.simplifyStmt_eq ih h
    · unfold simplifier
      simp only [Simplifier.settled_eq ih h]

theorem simplifiedBody_eq (h : known.Same known') : simplifiedBody known' = simplifiedBody known := by
  unfold simplifiedBody
  rw [Simplifier.settled_eq (even_simplifier _) h]

/-- **Simplifying depends on what is known**, and on nothing else about the variables. -/
theorem Program.simplified_eq (h : known.Same known') (p : Program) :
    p.simplified known' = p.simplified known := by
  unfold Program.simplified
  rw [simplifiedBody_eq h]

end HostedScripts.Language
