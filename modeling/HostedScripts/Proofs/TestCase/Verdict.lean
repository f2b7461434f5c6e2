import HostedScripts.TestCase.Run
import HostedScripts.Proofs.Dictionary
import HostedScripts.Proofs.Runtime.LifeCycle
import HostedScripts.Proofs.Runtime.Isolation
import Mathlib.Data.List.Infix

/-! # What a verdict says

An expectation is a list of checks (`Expectation.checks`): the outcome, the engine, the fragments, the pattern,
the results and the lines. The verdict on a report makes them one after the other (`verdict_eq`). So it is the
report if all of them hold, and else the fault of the first one that does not (`verdicts_are_exact`). Which
patterns occur in which texts is left open.

From the list of checks it is read off what an expectation that is taken from a report itself says
(`Expectation.copied`), and what becomes of a verdict when less is expected (`Expectation.Relaxes`). -/

namespace HostedScripts

/-! ### Parts of texts -/

theorem Text.containsList_iff {part : List Char} : ∀ {text : List Char},
    Text.containsList part text = true ↔ part <:+: text
  | [] => by simp [Text.containsList]
  | c :: text => by
    rw [Text.containsList, Bool.or_eq_true, List.isPrefixOf_iff_prefix, Text.containsList_iff,
      List.infix_cons_iff]

namespace TestCase

/-! ### Checks -/

/-- One thing that is expected of a report. -/
inductive Check where
  | outcome (expected : Outcome)
  | engine (expected : EngineKind)
  | fragment (fragment : String)
  | pattern (pattern : String)
  | result (key expected : String)
  | output (expected : List String)

namespace Check

variable (patterns : Patterns) (r : Report)

/-- What a check asks of a report. -/
def Holds : Check → Prop
  | outcome expected => r.outcome = expected
  | engine expected => r.engine = expected
  | fragment part => part.toList <:+: r.message.toList
  | pattern p => patterns p r.message = some true
  | result key expected => r.results.get? key = some expected
  | output expected => r.output = expected

instance decidableHolds : DecidablePred (Holds patterns r)
  | outcome expected => inferInstanceAs (Decidable (r.outcome = expected))
  | engine expected => inferInstanceAs (Decidable (r.engine = expected))
  | fragment part => inferInstanceAs (Decidable (part.toList <:+: r.message.toList))
  | pattern p => inferInstanceAs (Decidable (patterns p r.message = some true))
  | result key expected => inferInstanceAs (Decidable (r.results.get? key = some expected))
  | output expected => inferInstanceAs (Decidable (r.output = expected))

/-- What is wrong with a report that a check is against. A pattern that stands for nothing is told from one
that does not occur. -/
def fault : Check → CaseFault
  | outcome expected => .otherOutcome expected r.outcome r.message
  | engine expected => .otherEngine expected r.engine
  | fragment part => .missingFragment part r.message
  | pattern p =>
    if patterns p r.message = none then .invalidPattern p else .unmatchedPattern p r.message
  | result key expected => .otherResult key expected (r.results.get? key)
  | output expected => .otherOutput expected r.output

/-- Makes a check. -/
def make (c : Check) : Except CaseFault Unit := demand (c.Holds patterns r) (c.fault patterns r)

variable {patterns r} {c : Check}

theorem make_of_holds (h : c.Holds patterns r) : c.make patterns r = .ok () := if_pos (decide_eq_true h)

theorem make_of_not_holds (h : ¬ c.Holds patterns r) :
    c.make patterns r = .error (c.fault patterns r) := if_neg (by simpa using h)

theorem make_fragment (part : String) :
    (fragment part).make patterns r =
      demand (Text.contains r.message part) (.missingFragment part r.message) := by
  have hholds : decide ((fragment part).Holds patterns r) = Text.contains r.message part := by
    rw [Bool.eq_iff_iff, decide_eq_true_iff]
    exact Text.containsList_iff.symm
  unfold make
  rw [hholds]
  rfl

theorem make_pattern (p : String) :
    (pattern p).make patterns r =
      match patterns p r.message with
      | none => .error (.invalidPattern p)
      | some occurs => demand occurs (.unmatchedPattern p r.message) := by
  unfold make
  rcases hp : patterns p r.message with - | - | - <;> simp [Holds, fault, hp, demand]

theorem make_output (expected : List String) :
    (output expected).make patterns r = demand (expected = r.output) (.otherOutput expected r.output) := by
  unfold make
  simp only [Holds, fault, eq_comm]

theorem forM_make_of_holds {cs : List Check} (h : ∀ c ∈ cs, c.Holds patterns r) :
    cs.forM (make patterns r) = .ok () := by
  induction cs with
  | nil => rfl
  | cons c cs ih =>
    obtain ⟨hc, hcs⟩ := List.forall_mem_cons.mp h
    rw [List.forM_eq_forM, List.forM_cons, make_of_holds hc]
    exact ih hcs

/-- The first check that does not hold counts, whatever comes after it. -/
theorem forM_make_of_first {before after : List Check} (hbefore : ∀ b ∈ before, b.Holds patterns r)
    (hc : ¬ c.Holds patterns r) :
    (before ++ c :: after).forM (make patterns r) = .error (c.fault patterns r) := by
  induction before with
  | nil =>
    rw [List.nil_append, List.forM_eq_forM, List.forM_cons, make_of_not_holds hc]
    rfl
  | cons b before ih =>
    obtain ⟨hb, hbefore⟩ := List.forall_mem_cons.mp hbefore
    rw [List.cons_append, List.forM_eq_forM, List.forM_cons, make_of_holds hb]
    exact ih hbefore

theorem exists_first {cs : List Check} (h : ¬ ∀ c ∈ cs, c.Holds patterns r) :
    ∃ before c after, cs = before ++ c :: after ∧ (∀ b ∈ before, b.Holds patterns r) ∧
      ¬ c.Holds patterns r := by
  induction cs with
  | nil => exact absurd (fun c hc => absurd hc List.not_mem_nil) h
  | cons c cs ih =>
    by_cases hc : c.Holds patterns r
    · obtain ⟨before, d, after, rfl, hbefore, hd⟩ :=
        ih fun hcs => h (List.forall_mem_cons.mpr ⟨hc, hcs⟩)
      exact ⟨c :: before, d, after, rfl, List.forall_mem_cons.mpr ⟨hc, hbefore⟩, hd⟩
    · exact ⟨[], c, cs, rfl, fun b hb => absurd hb List.not_mem_nil, hc⟩

end Check

end TestCase

/-- What an expectation checks, in order. -/
def Expectation.checks (e : Expectation) : List TestCase.Check :=
  [.outcome e.outcome] ++ e.engine.toList.map .engine ++ e.messageContains.map .fragment ++
    e.messagePattern.toList.map .pattern ++ (e.results.map fun entry => .result entry.1 entry.2) ++
    e.output.toList.map .output

namespace TestCase

variable {patterns : Patterns} {e : Expectation} {r : Report}

/-! ### The verdict -/

/-- **The verdict makes the checks one after the other.** -/
theorem verdict_eq (patterns : Patterns) (e : Expectation) (r : Report) :
    verdict patterns e r = do
      e.checks.forM (Check.make patterns r)
      return r := by
  obtain ⟨outcome, engine, fragments, pattern, results, output⟩ := e
  have hpattern : ∀ p (rest : Except CaseFault Report),
      (match patterns p r.message with
        | none => do
          throw (.invalidPattern p)
          rest
        | some occurs => do
          demand occurs (.unmatchedPattern p r.message)
          rest) = (Check.pattern p).make patterns r >>= fun _ => rest := fun p rest => by
    rw [Check.make_pattern]
    cases patterns p r.message <;> rfl
  unfold verdict Expectation.checks
  cases engine <;> cases pattern <;> cases output <;>
    simp [Check.make_fragment, Check.make_output, ← hpattern] <;> rfl

theorem verdict_of_holds (h : ∀ c ∈ e.checks, c.Holds patterns r) : verdict patterns e r = .ok r := by
  rw [verdict_eq, Check.forM_make_of_holds h]
  rfl

theorem verdict_of_first {before after : List Check} {c : Check} (he : e.checks = before ++ c :: after)
    (hbefore : ∀ b ∈ before, b.Holds patterns r) (hc : ¬ c.Holds patterns r) :
    verdict patterns e r = .error (c.fault patterns r) := by
  rw [verdict_eq, he, Check.forM_make_of_first hbefore hc]
  rfl

theorem verdict_eq_ok_iff : verdict patterns e r = .ok r ↔ ∀ c ∈ e.checks, c.Holds patterns r := by
  refine ⟨fun h => ?_, verdict_of_holds⟩
  by_contra hnot
  obtain ⟨before, c, after, he, hbefore, hc⟩ := Check.exists_first hnot
  rw [verdict_of_first he hbefore hc] at h
  cases h

/-- What it means that all checks of an expectation hold, one kind after the other. -/
theorem forall_checks_iff : (∀ c ∈ e.checks, c.Holds patterns r) ↔
    r.outcome = e.outcome ∧
    (∀ engine, e.engine = some engine → r.engine = engine) ∧
    (∀ fragment ∈ e.messageContains, fragment.toList <:+: r.message.toList) ∧
    (∀ pattern, e.messagePattern = some pattern → patterns pattern r.message = some true) ∧
    (∀ key value, (key, value) ∈ e.results → r.results.get? key = some value) ∧
    (∀ output, e.output = some output → r.output = output) := by
  simp only [Expectation.checks, List.forall_mem_append, List.forall_mem_map, List.forall_mem_singleton,
    Option.mem_toList, Prod.forall, Check.Holds, and_assoc]

end TestCase

/-! ### Other expectations -/

namespace Expectation

/-- What a report says, as an expectation. -/
def copied (r : Report) : Expectation :=
  ⟨r.outcome, some r.engine, [r.message], none, r.results, some r.output⟩

/-- An expectation that comes from another one by leaving out what may be left out. -/
structure Relaxes (less more : Expectation) : Prop where
  outcome : less.outcome = more.outcome
  engine : less.engine = none ∨ less.engine = more.engine
  messageContains : less.messageContains.Sublist more.messageContains
  messagePattern : less.messagePattern = none ∨ less.messagePattern = more.messagePattern
  results : less.results.Sublist more.results
  output : less.output = none ∨ less.output = more.output

theorem toList_sublist {α : Type} {less more : Option α} (h : less = none ∨ less = more) :
    less.toList.Sublist more.toList := by
  rcases h with rfl | rfl
  · exact List.nil_sublist _
  · exact List.Sublist.refl _

/-- Where less is expected fewer checks are made. -/
theorem Relaxes.checks {less more : Expectation} (h : less.Relaxes more) :
    less.checks.Sublist more.checks := by
  unfold Expectation.checks
  rw [h.outcome]
  exact (((((List.Sublist.refl _).append ((toList_sublist h.engine).map _)).append
    (h.messageContains.map _)).append ((toList_sublist h.messagePattern).map _)).append
      (h.results.map _)).append ((toList_sublist h.output).map _)

end Expectation

namespace TestCase

theorem verdict_copied {r : Report} (h : r.results.Increasing) (patterns : Patterns) :
    verdict patterns (.copied r) r = .ok r := by
  refine verdict_of_holds (forall_checks_iff.mpr ⟨rfl, ?_, ?_, ?_, ?_, ?_⟩)
  · rintro engine ⟨⟩
    rfl
  · intro fragment hfragment
    rw [List.mem_singleton.mp hfragment]
  · rintro pattern ⟨⟩
  · exact fun key value hentry => Dictionary.get?_of_mem h hentry
  · rintro output ⟨⟩
    rfl

theorem verdict_of_relaxes {less more : Expectation} (h : less.Relaxes more) {patterns : Patterns}
    {r : Report} (hmore : verdict patterns more r = .ok r) : verdict patterns less r = .ok r :=
  verdict_of_holds fun c hc => verdict_eq_ok_iff.mp hmore c (h.checks.subset hc)

/-! ### The runs of test cases -/

theorem increasing_results_load {files : FileTree} {path : Path} {c : TestCase}
    (h : load files path = .ok c) : c.expected.results.Increasing := by
  unfold load at h
  split at h
  · cases h
  · split at h
    · cases h
    · simp only at h
      split_ifs at h
      cases h
      exact Dictionary.increasing_ofEntries _

end TestCase

theorem Runtime.increasing_ended {rt : Runtime} (h : (rt.results.getD []).Increasing) (e : Ending) :
    ((rt.ended e).results.getD []).Increasing := by
  unfold Runtime.ended
  dsimp only
  split_ifs
  · exact h
  · exact Dictionary.increasing_union h _

/-- **Running a script gives a report**, with its results in order. -/
theorem exists_runScript (engines : EngineTable) (execId : String) (captured : Environment)
    (script : ScriptData) (context : Context) (w : World) :
    ∃ r w', (runScript engines execId captured script context).run w = (.ok r, w') ∧
      r.results.Increasing := by
  obtain ⟨rt, ending, begun, ran, hrun, -, hfed⟩ := Runtime.exists_carryOut
    { (Runtime.fresh execId captured script context).pinned
        (Runtime.madeIn w execId captured script context).files with phase := .running }
    (Runtime.madeIn w execId captured script context) (by simp) engines
  have hconfigured : (Runtime.fresh execId captured script context).phase = .configured := rfl
  have hattempt := Runtime.attempt_of_configured hconfigured engines
    (Runtime.madeIn w execId captured script context)
  obtain ⟨told, hdone⟩ := runScript_of_attempt (hattempt.trans hrun)
  have hresults : rt.results = none := hfed.equipped.results
  refine ⟨_, _, hdone, Runtime.increasing_ended ?_ ending⟩
  rw [hresults]
  exact List.Pairwise.nil

namespace TestCase

theorem withOwnOutputs_run {α : Type} (act : Act α) (w : World) :
    (withOwnOutputs act).run w =
      let done := act.run { w with outputs := .empty }
      (done.1, { done.2 with outputs := w.outputs }) := rfl

/-- The facts of the session when a case is run. -/
def capturedIn (w : World) : Environment := (Act.captured.run { w with issued := w.issued + 1 }).1

theorem runCase_of_runScript {directory : Path} {c : TestCase} {w ran : World} {r : Report}
    (hrun : (runScript .empty (idText w.seed w.issued) (capturedIn w) (command directory c)
      (context directory c w.session)).run { w with issued := w.issued + 1, outputs := .empty } = (.ok r, ran)) :
    (runCase directory c).run w = (.ok r, { ran with outputs := w.outputs }) := by
  have hid : Act.freshId.run w = (idText w.seed w.issued, { w with issued := w.issued + 1 }) := rfl
  have hcaptured : ∀ w : World, (Act.captured.run w).2 = w := fun w => rfl
  have hown := withOwnOutputs_run (runScript .empty (idText w.seed w.issued) (capturedIn w) (command directory c)
    (context directory c w.session)) { w with issued := w.issued + 1 }
  dsimp only at hown
  rw [hrun] at hown
  unfold runCase
  rw [Act.run_bind, hid]
  dsimp only
  rw [Act.run_bind, Act.run_get]
  dsimp only
  rw [Act.run_bind, hcaptured, Act.run_bind, ← capturedIn, hown]
  rfl

theorem exists_runCase (directory : Path) (c : TestCase) (w : World) :
    ∃ r w', (runCase directory c).run w = (.ok r, w') ∧ r.results.Increasing := by
  obtain ⟨r, ran, hrun, hresults⟩ := exists_runScript .empty (idText w.seed w.issued) (capturedIn w)
    (command directory c) (context directory c w.session) { w with issued := w.issued + 1, outputs := .empty }
  exact ⟨r, _, runCase_of_runScript hrun, hresults⟩

theorem check_of_load {w w' : World} {path : Path} {c : TestCase} {r : Report}
    (hload : load w.files path = .ok c)
    (hrun : (runCase (path.parent?.getD ⟨"."⟩) c).run w = (.ok r, w')) :
    (check patterns path).run w = (verdict patterns c.expected r, w') := by
  unfold check
  rw [Act.run_bind, Act.run_get]
  dsimp only
  rw [hload]
  dsimp only
  rw [Act.run_bind, hrun]
  rfl

/-- **Verdicts are exact.** Take a case file that can be read. Its run gives a report, and the case passes
with that report if and only if the outcome is the one that is expected, the engine is if one is named, every
fragment is a part of the message, the pattern, if there is one, stands for something that occurs in the
message, every result that is expected is there with its value, and the lines are the ones that are expected
if any are. Otherwise the answer is the fault of the first check that does not hold, in this order and with
the results in the order of their keys. What is expected has no part in the run. What the report itself says
is an expectation that passes, and a case that passes does so when less is expected. -/
theorem verdicts_are_exact (patterns : Patterns) {w : World} {path : Path} {c : TestCase}
    (hload : load w.files path = .ok c) :
    let directory := path.parent?.getD ⟨"."⟩
    ∃ r w' answer, (runCase directory c).run w = (.ok r, w') ∧
      (check patterns path).run w = (answer, w') ∧
      (answer = .ok r ↔
        r.outcome = c.expected.outcome ∧
        (∀ engine, c.expected.engine = some engine → r.engine = engine) ∧
        (∀ fragment ∈ c.expected.messageContains, fragment.toList <:+: r.message.toList) ∧
        (∀ pattern, c.expected.messagePattern = some pattern → patterns pattern r.message = some true) ∧
        (∀ key value, (key, value) ∈ c.expected.results → r.results.get? key = some value) ∧
        (∀ output, c.expected.output = some output → r.output = output)) ∧
      (answer ≠ .ok r → ∃ before failing after, c.expected.checks = before ++ failing :: after ∧
        (∀ b ∈ before, b.Holds patterns r) ∧ ¬ failing.Holds patterns r ∧
        answer = .error (failing.fault patterns r)) ∧
      c.expected.results.Increasing ∧
      (∀ e, (runCase directory { c with expected := e }).run w = (.ok r, w')) ∧
      verdict patterns (.copied r) r = .ok r ∧
      (answer = .ok r → ∀ less, Expectation.Relaxes less c.expected → verdict patterns less r = .ok r) := by
  intro directory
  obtain ⟨r, w', hrun, hresults⟩ := exists_runCase directory c w
  refine ⟨r, w', verdict patterns c.expected r, hrun, check_of_load hload hrun,
    verdict_eq_ok_iff.trans forall_checks_iff, fun hnot => ?_, increasing_results_load hload,
    fun _ => hrun, verdict_copied hresults patterns, fun h less hless => verdict_of_relaxes hless h⟩
  obtain ⟨before, failing, after, he, hbefore, hfailing⟩ :=
    Check.exists_first fun hall => hnot (verdict_of_holds hall)
  exact ⟨before, failing, after, he, hbefore, hfailing, verdict_of_first he hbefore hfailing⟩

/-- A script that says hello, and a case that expects more of it. -/
def greetingWorld : World :=
  { (default : World) with files := ⟨[(["a.rhai"], .file (Text.toBytes "print(\"hello\");") none),
      (["a.case.json"], .file (Text.toBytes ("\x7b\"schemaVersion\":\"sh-tool-case.v1\",\"script\":\"a.rhai\"," ++
        "\"expected\":\x7b\"result\":\"succeeded\",\"output\":[\"hello\",\"world\"]\x7d\x7d")) none)], []⟩ }

/-- The case is run, and its first check that does not hold is the one of the lines. -/
theorem verdicts_are_exact_greeting : ∃ c, load greetingWorld.files ⟨"a.case.json"⟩ = .ok c ∧
    ∃ r w' before failing after, (runCase ⟨""⟩ c).run greetingWorld = (.ok r, w') ∧
      c.expected.checks = before ++ failing :: after ∧ (∀ b ∈ before, b.Holds .standard r) ∧
      (check .standard ⟨"a.case.json"⟩).run greetingWorld = (.error (failing.fault .standard r), w') ∧
      (failing.fault .standard r).message =
        "Output mismatch. expected=[\"hello\",\"world\"] actual=[\"hello\"]" := by
  have hloads : (load greetingWorld.files ⟨"a.case.json"⟩).isOk = true := by decide +kernel
  have hfault : (match ((check .standard ⟨"a.case.json"⟩).run greetingWorld).1 with
      | .ok _ => none
      | .error e => some e.message) =
        some "Output mismatch. expected=[\"hello\",\"world\"] actual=[\"hello\"]" := by decide +kernel
  cases hload : load greetingWorld.files ⟨"a.case.json"⟩ with
  | error e =>
    rw [hload] at hloads
    cases hloads
  | ok c =>
    obtain ⟨r, w', answer, hrun, hcheck, -, hfails, -⟩ := verdicts_are_exact .standard hload
    rw [hcheck] at hfault
    have hne : answer ≠ .ok r := fun h => by rw [h] at hfault; cases hfault
    obtain ⟨before, failing, after, he, hbefore, -, hanswer⟩ := hfails hne
    rw [hanswer] at hcheck hfault
    exact ⟨c, rfl, r, w', before, failing, after, hrun, he, hbefore, hcheck, Option.some.inj hfault⟩

end TestCase

end HostedScripts
