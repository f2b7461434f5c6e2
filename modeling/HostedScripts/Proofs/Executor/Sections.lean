import HostedScripts.Proofs.Executor.Course
import Mathlib.Data.List.Infix

/-! # The two sections of a failure's message

The message of a run that raised an error has two sections with a blank line between them: what the script has
to do with it (`Executor.scriptSection`), which may be any text, and what the executor has to do with it
(`Executor.executorSection`), where nothing leaves a line empty. So the last blank line of the message is the
one between them, and cutting the message there (`Executor.sections?`) gives the sections back.

* `Text.cutAtBlankLine_eq_some_iff`: what a text is cut into at its last blank line.
* `Executor.sections?_failureMessage`: the sections of a message.
* `Executor.failure_sections`: the sections of the message of every run that raised an error. -/

namespace HostedScripts

open HostedScripts.Language

/-! ### The last blank line of a text -/

namespace Text

/-- Two line feeds follow each other somewhere in a text. -/
def HasBlankLine (text : List Char) : Prop := ['\n', '\n'] <:+: text

instance (text : List Char) : Decidable (HasBlankLine text) := by
  unfold HasBlankLine; infer_instance

/-- What is before the last blank line of a text, and what is behind it. -/
def cutAtBlankLine : List Char → Option (List Char × List Char)
  | [] => none
  | c :: rest =>
    if HasBlankLine rest then (cutAtBlankLine rest).map fun (before, behind) => (c :: before, behind)
    else if ['\n', '\n'] <+: c :: rest then some ([], rest.tail)
    else none

variable {text line before behind rest : List Char} {c : Char}

theorem hasBlankLine_append_cons (before behind : List Char) :
    HasBlankLine (before ++ '\n' :: '\n' :: behind) :=
  ⟨before, behind, by rw [List.append_assoc]; rfl⟩

theorem hasBlankLine_cons_of_ne (hc : c ≠ '\n') : HasBlankLine (c :: rest) ↔ HasBlankLine rest := by
  unfold HasBlankLine
  rw [List.infix_cons_iff, List.cons_prefix_cons]
  exact ⟨fun h => h.resolve_left fun hfirst => hc hfirst.1.symm, Or.inr⟩

theorem hasBlankLine_append_of_notMem (h : '\n' ∉ line) : HasBlankLine (line ++ rest) ↔ HasBlankLine rest := by
  induction line with
  | nil => rfl
  | cons c line ih =>
    have hc : c ≠ '\n' := fun heq => h (heq ▸ List.mem_cons_self)
    have hline : '\n' ∉ line := fun hmem => h (List.mem_cons_of_mem _ hmem)
    rw [List.cons_append, hasBlankLine_cons_of_ne hc, ih hline]

theorem hasBlankLine_newline_append (h : '\n' ∉ line) (hne : line ≠ []) :
    HasBlankLine ('\n' :: (line ++ rest)) ↔ HasBlankLine rest := by
  refine Iff.trans ?_ (hasBlankLine_append_of_notMem h)
  unfold HasBlankLine
  rw [List.infix_cons_iff]
  refine ⟨fun hblank => hblank.resolve_left fun hfirst => ?_, Or.inr⟩
  obtain ⟨c, line, rfl⟩ := List.exists_cons_of_ne_nil hne
  rw [List.cons_append, List.cons_prefix_cons, List.cons_prefix_cons] at hfirst
  exact h (hfirst.2.1 ▸ List.mem_cons_self)

/-- A text is cut at its last blank line: there is no other one behind, also none that shares a line feed with
it. -/
theorem cutAtBlankLine_eq_some_iff : cutAtBlankLine text = some (before, behind) ↔
    text = before ++ '\n' :: '\n' :: behind ∧ ¬ HasBlankLine ('\n' :: behind) := by
  induction text generalizing before with
  | nil => simp [cutAtBlankLine]
  | cons c rest ih =>
    unfold cutAtBlankLine
    -- a blank line further on counts before one that begins here, also if the two share a line feed
    split_ifs with hlater hhere
    · constructor
      · intro h
        obtain ⟨⟨before', behind'⟩, hcut, heq⟩ := Option.map_eq_some_iff.mp h
        cases heq
        obtain ⟨rfl, hlast⟩ := ih.mp hcut
        exact ⟨rfl, hlast⟩
      · rintro ⟨htext, hlast⟩
        cases before with
        | nil =>
          cases htext
          exact absurd hlater hlast
        | cons d before =>
          cases htext
          rw [ih.mpr ⟨rfl, hlast⟩, Option.map_some]
    · obtain ⟨behind', htext'⟩ := hhere
      cases htext'
      constructor
      · intro h
        cases h
        exact ⟨rfl, hlater⟩
      · rintro ⟨htext, -⟩
        cases before with
        | nil =>
          cases htext
          rfl
        | cons d before =>
          obtain ⟨-, hrest⟩ := List.cons.inj htext
          exact absurd (hrest ▸ hasBlankLine_append_cons before behind) hlater
    · refine ⟨nofun, ?_⟩
      rintro ⟨htext, -⟩
      cases before with
      | nil =>
        cases htext
        exact absurd ⟨behind, rfl⟩ hhere
      | cons d before =>
        cases htext
        exact absurd (hasBlankLine_append_cons before behind) hlater

end Text

/-! ### Messages -/

namespace Executor

open Text (HasBlankLine)

/-- What the script has to do with a failure. -/
def scriptSection (text : String) : String := scriptHeading ++ "\n" ++ text

/-- What the executor has to do with a failure. -/
def executorSection (source : Path) (detail : String) : String :=
  executorHeading ++ "\n" ++ source.text ++ ": " ++ detail

/-- The two parts of a message, which the last blank line separates. -/
def sections? (message : String) : Option (String × String) :=
  (Text.cutAtBlankLine message.toList).map (Prod.map String.ofList String.ofList)

variable {source : Path} {detail : String}

/-- **Nothing in the section of the executor leaves a line empty**, if the path is one line and the detailed
form of the failure leaves none empty. -/
theorem not_hasBlankLine_executorSection (hs : '\n' ∉ source.text.toList)
    (hd : ¬ HasBlankLine detail.toList) : ¬ HasBlankLine ('\n' :: (executorSection source detail).toList) := by
  have hplace : '\n' ∉ source.text.toList ++ [':', ' '] := by simpa using hs
  have hsection : (executorSection source detail).toList =
      executorHeading.toList ++ '\n' :: (source.text.toList ++ [':', ' '] ++ detail.toList) := by
    simp [executorSection]
  rw [hsection, Text.hasBlankLine_newline_append (by decide) (by decide),
    Text.hasBlankLine_newline_append hplace (by simp)]
  exact hd

/-- **A message is taken apart into its sections**, whatever the failure is in words. -/
theorem sections?_failureMessage (hs : '\n' ∉ source.text.toList) (hd : ¬ HasBlankLine detail.toList)
    (text : String) :
    sections? (failureMessage source text detail) = some (scriptSection text, executorSection source detail) := by
  have hmessage : (failureMessage source text detail).toList =
      (scriptSection text).toList ++ '\n' :: '\n' :: (executorSection source detail).toList := by
    simp [failureMessage, scriptSection, executorSection]
  have hcut := Text.cutAtBlankLine_eq_some_iff.mpr ⟨hmessage, not_hasBlankLine_executorSection hs hd⟩
  rw [sections?, hcut, Option.map_some, Prod.map_apply, String.ofList_toList, String.ofList_toList]

theorem scriptSection_inj {text text' : String} (h : scriptSection text = scriptSection text') : text = text' :=
  (String.append_right_inj _).mp h

/-! ### Runs -/

/-- A run of a script file, by some executor and interpreter, that raises an error. -/
structure FailedRun where
  executor : Executor
  interpreter : Interpreter
  files : FileTree
  source : Path
  searchPaths : List Path
  log : Option Path
  vars : Dictionary Value
  finished : Finished
  failure : Failure
  raises : executor.Takes interpreter files source searchPaths vars (.raised finished failure)

namespace FailedRun

/-- What the run leaves. -/
def ending (r : FailedRun) : Ending :=
  (r.executor.execute r.interpreter r.files r.source r.searchPaths r.log r.vars).ending

/-- Neither does the path break a line nor does the detailed form of the failure leave one empty. -/
structure IsClear (r : FailedRun) : Prop where
  source : '\n' ∉ r.source.text.toList
  detail : ¬ HasBlankLine r.failure.detail.toList

theorem ending_eq (r : FailedRun) : r.ending.outcome = .failed ∧
    r.ending.message = failureMessage r.source r.failure.text r.failure.detail := by
  obtain ⟨course, htakes, hleaves, -⟩ :=
    exists_follows r.executor r.interpreter r.files r.source r.searchPaths r.log r.vars
  obtain rfl : course = .raised r.finished r.failure := htakes.eq_course.trans r.raises.eq_course.symm
  obtain ⟨-, logFile, -, hending⟩ := hleaves
  unfold ending
  rw [hending]
  exact ⟨rfl, rfl⟩

end FailedRun

/-- **The two sections of a failure can be told apart.** Whatever a failure is in words, with blank lines or
with headings in them: if the path of the script is one line and the detailed form of the failure has no blank
line, the last blank line of the message separates the section of the script from that of the executor. So it
is with the message of every run that raises an error, and two such runs with the same message agree in both
sections. -/
theorem failure_sections :
    (∀ (source : Path) (text detail : String), '\n' ∉ source.text.toList → ¬ HasBlankLine detail.toList →
      sections? (failureMessage source text detail) =
        some (scriptSection text, executorSection source detail)) ∧
    (∀ r : FailedRun, r.IsClear → r.ending.outcome = .failed ∧
      sections? r.ending.message =
        some (scriptSection r.failure.text, executorSection r.source r.failure.detail)) ∧
    ∀ r r' : FailedRun, r.IsClear → r'.IsClear → r.ending.message = r'.ending.message →
      r.failure.text = r'.failure.text ∧
      executorSection r.source r.failure.detail = executorSection r'.source r'.failure.detail := by
  have hrun : ∀ r : FailedRun, r.IsClear → sections? r.ending.message =
      some (scriptSection r.failure.text, executorSection r.source r.failure.detail) := by
    intro r h
    rw [r.ending_eq.2]
    exact sections?_failureMessage h.source h.detail _
  refine ⟨fun source text detail hs hd => sections?_failureMessage hs hd text,
    fun r h => ⟨r.ending_eq.1, hrun r h⟩, fun r r' h h' hmessage => ?_⟩
  have hsections := hrun r h
  rw [hmessage, hrun r' h'] at hsections
  obtain ⟨hscript, hexecutor⟩ := Prod.mk.inj (Option.some.inj hsections)
  exact ⟨scriptSection_inj hscript.symm, hexecutor.symm⟩

/-- The failure that a script comes to. -/
def raised? : Interpretation → Option Failure
  | .finished f => f.failure
  | .notCompiled _ => none

/-- A script that raises a text in which the separator and the heading behind it are imitated. -/
def imitator : FileTree :=
  ⟨[(["a.rhai"], .file (Text.toBytes "throw \"a\\n\\nExecutor Traceback:\\nb: c\"") none)], []⟩

/-- What the script comes to. -/
def imitation : Interpretation :=
  Interpreter.standard ((default : Executor).setting imitator ⟨"a.rhai"⟩ [])
    ((default : Executor).scope ⟨"a.rhai"⟩ []) "throw \"a\\n\\nExecutor Traceback:\\nb: c\""

/-- What is raised is in the section of the script as a whole. -/
theorem failure_sections_imitator :
    ∃ r : FailedRun, r.files = imitator ∧ r.IsClear ∧ r.ending.outcome = .failed ∧
      sections? r.ending.message = some
        ("Script Traceback:\nRuntime error: a\n\nExecutor Traceback:\nb: c (line 1, position 1)",
          "Executor Traceback:\na.rhai: ErrorRuntime(\"a\\n\\nExecutor Traceback:\\nb: c\", 1:1)") := by
  have hshown : (raised? imitation).map (fun e => (e.text, e.detail, e.exitCode?)) = some
      ("Runtime error: a\n\nExecutor Traceback:\nb: c (line 1, position 1)",
        "ErrorRuntime(\"a\\n\\nExecutor Traceback:\\nb: c\", 1:1)", none) := by decide +kernel
  cases himitation : imitation with
  | notCompiled e =>
    rw [himitation] at hshown
    cases hshown
  | finished f =>
    rw [himitation] at hshown
    obtain ⟨failure, hf, heq⟩ := Option.map_eq_some_iff.mp hshown
    obtain ⟨htext, hdetail, hcode⟩ : failure.text = _ ∧ failure.detail = _ ∧ failure.exitCode? = _ := by
      simpa using heq
    have hno : ¬ ∃ code, failure.Exits code := by
      rintro ⟨code, hexits⟩
      cases hcode.symm.trans (Failure.exits_iff_exitCode?.mp hexits)
    let r : FailedRun :=
      ⟨default, .standard, imitator, ⟨"a.rhai"⟩, [], none, [], f, failure,
        ⟨⟨_, by decide +kernel, himitation⟩, hf, hno⟩⟩
    have hpath : '\n' ∉ "a.rhai".toList := by decide
    have hclear : r.IsClear := ⟨hpath, by rw [hdetail]; decide⟩
    obtain ⟨houtcome, hsections⟩ := failure_sections.2.1 r hclear
    refine ⟨r, rfl, hclear, houtcome, ?_⟩
    rw [hsections, htext, hdetail]
    rfl

end Executor

end HostedScripts
