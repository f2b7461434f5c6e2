import HostedScripts.Proofs.Executor.Course
import HostedScripts.Proofs.FileTree

/-! # The log of a failure

A run of a script file comes to a *draft* (`Executor.draft`): how it ends, what the script says, and
whether that is a failure to be logged. The draft does not depend on the log. What the run leaves is the
draft, and for a failure what becomes of writing its message to the log (`Executor.execute_eq_draft`).

* `Executor.logs_execute`: a failure is logged exactly if its message can be written, and then the log
  has the message; nothing else changes but missing directories on the way to it.
* `Executor.execute_alike`: neither the log nor whether it can be written is seen in what a run leaves. -/

namespace HostedScripts

open HostedScripts.Language

/-! ### Drafts -/

/-- What a run of a script file comes to, before anything is logged. -/
structure Draft where
  ending : Ending
  isLogged : Bool
  said : List (Bool × String)

/-- What becomes of an interpretation of a text. -/
def Interpretation.draft (source : Path) (text : String) : Interpretation → Draft
  | .notCompiled e =>
    ⟨⟨.cancelled, Executor.compileMessage [diagnosticOf text e], [], none, none⟩, true, []⟩
  | .finished f =>
    match f.failure with
    | none =>
      ⟨⟨(Executor.chosenOutcome f.scope).1, Executor.leftMessage f.scope, Executor.leftResults f.scope,
        none, none⟩, false, f.said⟩
    | some failure =>
      match failure.exitCode? with
      | some code =>
        ⟨⟨.succeeded, Executor.leftMessage f.scope, Executor.leftResults f.scope, some code, none⟩,
          false, f.said⟩
      | none =>
        ⟨⟨.failed, Executor.failureMessage source failure.text failure.detail, [], none, none⟩, true,
          f.said⟩

/-- Whether a course is a failure that is logged: the script does not compile, or it raises an error. -/
def Course.Fails : Course → Prop
  | .notCompiled _ | .raised _ _ => True
  | .unreadable _ | .ended _ | .exited _ _ => False

namespace Executor

/-- What a run of a script file comes to. -/
def draft (x : Executor) (interpreter : Interpreter) (files : FileTree) (source : Path)
    (searchPaths : List Path) (vars : Dictionary Value) : Draft :=
  match files.readText source with
  | .error e => ⟨.plain .failed e.message, false, []⟩
  | .ok text =>
    (interpreter (x.setting files source searchPaths) (x.scope source vars) text).draft source text

variable {x : Executor} {interpreter : Interpreter} {files files' : FileTree} {source : Path}
  {searchPaths : List Path} {log : Option Path} {vars : Dictionary Value} {p : Path} {message : String}

theorem draft_of_readText {text : String} (h : files.readText source = .ok text) :
    x.draft interpreter files source searchPaths vars =
      (interpreter (x.setting files source searchPaths) (x.scope source vars) text).draft source text := by
  unfold draft
  rw [h]

theorem isLogged_iff {c : Course} (h : x.Takes interpreter files source searchPaths vars c) :
    (x.draft interpreter files source searchPaths vars).isLogged = true ↔ c.Fails := by
  cases c with
  | unreadable e =>
    have hread : files.readText source = .error e := h
    unfold draft
    rw [hread]
    exact iff_of_false nofun fun h => h
  | notCompiled e =>
    obtain ⟨text, hread, hi⟩ := h
    rw [draft_of_readText hread, hi]
    exact iff_of_true (by rfl) trivial
  | ended f =>
    obtain ⟨⟨text, hread, hi⟩, hnone⟩ := h
    rw [draft_of_readText hread, hi]
    simp only [Interpretation.draft, hnone]
    exact iff_of_false nofun fun h => h
  | exited f code =>
    obtain ⟨⟨text, hread, hi⟩, failure, hf, hexit⟩ := h
    rw [draft_of_readText hread, hi]
    simp only [Interpretation.draft, hf, Failure.exits_iff_exitCode?.mp hexit]
    exact iff_of_false nofun fun h => h
  | raised f failure =>
    obtain ⟨⟨text, hread, hi⟩, hf, hno⟩ := h
    have hcode : failure.exitCode? = none := by
      by_contra hne
      obtain ⟨code, hcode⟩ := Option.ne_none_iff_exists'.mp hne
      exact hno ⟨code, Failure.exits_iff_exitCode?.mpr hcode⟩
    rw [draft_of_readText hread, hi]
    simp only [Interpretation.draft, hf, hcode]
    exact iff_of_true (by trivial) trivial

/-- An execution that is a draft with its log. -/
structure Finishes (d : Draft) (files : FileTree) (log : Option Path) (r : Execution) : Prop where
  said : r.said = d.said
  ending : r.ending = { d.ending with
    logFile := if d.isLogged then (writeLog files log d.ending.message).2.1 else none }
  files : r.files = if d.isLogged then (writeLog files log d.ending.message).1 else files

theorem conclude_eq_draft (source : Path) (text : String) (log : Option Path) (files : FileTree) (f : Finished) :
    let d := (Interpretation.finished f).draft source text
    (conclude source log files f).1 = { d.ending with
      logFile := if d.isLogged then (writeLog files log d.ending.message).2.1 else none } ∧
    (conclude source log files f).2.1 =
      if d.isLogged then (writeLog files log d.ending.message).1 else files := by
  cases hf : f.failure with
  | none => simp only [conclude, Interpretation.draft, hf, Bool.false_eq_true, if_false, and_self]
  | some failure =>
    cases hcode : failure.exitCode? with
    | none => simp only [conclude, Interpretation.draft, hf, hcode, if_true, and_self]
    | some code =>
      simp only [conclude, Interpretation.draft, hf, hcode, Bool.false_eq_true, if_false, and_self]

/-- A run leaves its draft with its log. -/
theorem execute_eq_draft (x : Executor) (interpreter : Interpreter) (files : FileTree) (source : Path)
    (searchPaths : List Path) (log : Option Path) (vars : Dictionary Value) :
    Finishes (x.draft interpreter files source searchPaths vars) files log
      (x.execute interpreter files source searchPaths log vars) := by
  cases hread : files.readText source with
  | error e =>
    have hdraft : x.draft interpreter files source searchPaths vars =
        ⟨.plain .failed e.message, false, []⟩ := by
      rw [draft, hread]
    rw [execute_of_unreadable hread, hdraft]
    exact ⟨rfl, rfl, rfl⟩
  | ok text =>
    rw [draft_of_readText hread]
    cases hi : interpreter (x.setting files source searchPaths) (x.scope source vars) text with
    | notCompiled e =>
      have hsaid := (follows_notCompiled hread hi log).2.1.1
      rw [execute_of_notCompiled hread hi] at hsaid ⊢
      refine ⟨hsaid, ?_, ?_⟩
      all_goals simp only [Interpretation.draft, if_true]
    | finished f =>
      obtain ⟨hending, hfiles⟩ := conclude_eq_draft source text log files f
      have hsaid := (speaks_of_finished ⟨text, hread, hi⟩ log).said_eq
      rw [execute_of_finished ⟨text, hread, hi⟩] at hsaid ⊢
      refine ⟨hsaid.trans ?_, hending, hfiles⟩
      unfold Interpretation.draft
      dsimp only
      split
      · rfl
      · split <;> rfl

/-! ### Writing a log -/

/-- A tree in which the directories above a path were made and a message was written to it. -/
def Holds (files : FileTree) (p : Path) (message : String) (files' : FileTree) : Prop :=
  ∃ made, files.makeDirectories (p.parent?.getD ⟨""⟩) = .ok made ∧
    made.write p (Text.toBytes message) none = .ok files'

theorem makeDirectories_eq_ok_iff {made : FileTree} :
    files.makeDirectories p = .ok made ↔ files.prepare p = (made, .ok ()) := by
  unfold FileTree.makeDirectories
  rcases hp : files.prepare p with ⟨t, e | u⟩
  · exact iff_of_false nofun nofun
  · constructor
    · intro h
      rw [← Except.ok.inj h]
    · intro h
      exact congrArg Except.ok (congrArg Prod.fst h)

attribute [local simp] writeLog

/-- A log is told exactly if it could be written. -/
theorem writeLog_of_holds (h : Holds files p message files') :
    (writeLog files (some p) message).1 = files' ∧ (writeLog files (some p) message).2.1 = some p := by
  obtain ⟨made, hmade, hwrite⟩ := h
  have hprepare := makeDirectories_eq_ok_iff.mp hmade
  simp [hprepare, hwrite]

/-- A log that cannot be written leaves the directories that were made for it. -/
theorem writeLog_of_not_holds (h : ¬ ∃ held, Holds files p message held) :
    (writeLog files (some p) message).1 = (files.prepare (p.parent?.getD ⟨""⟩)).1 ∧
      (writeLog files (some p) message).2.1 = none := by
  rcases hprepare : files.prepare (p.parent?.getD ⟨""⟩) with ⟨made, e | u⟩
  · simp [hprepare]
  · cases hwrite : made.write p (Text.toBytes message) none with
    | error e => simp [hprepare, hwrite]
    | ok written => exact absurd ⟨written, made, makeDirectories_eq_ok_iff.mpr hprepare, hwrite⟩ h

theorem logged_writeLog (files : FileTree) (p : Path) (message : String) :
    files.Logged p (writeLog files (some p) message).1 := by
  have hlogged := files.logged_prepare p
  rcases hprepare : files.prepare (p.parent?.getD ⟨""⟩) with ⟨made, e | u⟩
  · rw [hprepare] at hlogged
    simpa [hprepare] using hlogged
  · rw [hprepare] at hlogged
    cases hwrite : made.write p (Text.toBytes message) none with
    | error e => simpa [hprepare, hwrite] using hlogged
    | ok written => simpa [hprepare, hwrite] using hlogged.write hwrite

/-! ### One run -/

/-- What a run that leaves a message does with its log, from whether it is a failure. If the message can be
written, the log has the message and nothing else; if not, there is no log, but the directories that could be
made. Without a failure, or without a place for a log, no file changes. -/
structure Logs (fails : Prop) (files : FileTree) (log : Option Path) (message : String)
    (logFile : Option Path) (files' : FileTree) : Prop where
  written : fails → ∀ p held, log = some p → Holds files p message held →
    logFile = some p ∧ files' = held ∧ files'.readText p = .ok message
  unwritten : fails → ∀ p, log = some p → (¬ ∃ held, Holds files p message held) →
    logFile = none ∧ files' = (files.prepare (p.parent?.getD ⟨""⟩)).1
  untouched : ¬ fails ∨ log = none → logFile = none ∧ files' = files
  logged : ∀ p, log = some p → files.Logged p files'

theorem Logs.readText {fails : Prop} (h : Logs fails files log message (some p) files') :
    log = some p ∧ files'.readText p = .ok message := by
  by_cases hf : fails
  · cases log with
    | none => cases (h.untouched (Or.inr rfl)).1
    | some q =>
      by_cases hholds : ∃ held, Holds files q message held
      · obtain ⟨held, hheld⟩ := hholds
        obtain ⟨hq, -, hread⟩ := h.written hf q held rfl hheld
        cases hq
        exact ⟨rfl, hread⟩
      · cases (h.unwritten hf q rfl hholds).1
  · cases (h.untouched (Or.inl hf)).1

theorem Finishes.logs {d : Draft} {files : FileTree} {log : Option Path} {r : Execution}
    (h : Finishes d files log r) :
    Logs (d.isLogged = true) files log r.ending.message r.ending.logFile r.files := by
  obtain ⟨-, hending, hfiles⟩ := h
  have hmessage : r.ending.message = d.ending.message := by rw [hending]
  have hlogFile : r.ending.logFile =
      if d.isLogged then (writeLog files log d.ending.message).2.1 else none := by rw [hending]
  refine ⟨fun hlogged p files' hp hholds => ?_, fun hlogged p hp hnot => ?_, fun hnone => ?_,
    fun p hp => ?_⟩
  · subst hp
    rw [hmessage] at hholds ⊢
    obtain ⟨hwritten, htold⟩ := writeLog_of_holds hholds
    rw [if_pos hlogged] at hlogFile hfiles
    obtain ⟨made, -, hwrite⟩ := hholds
    rw [hlogFile, hfiles, htold, hwritten]
    exact ⟨rfl, rfl, FileTree.readText_of_write hwrite⟩
  · subst hp
    rw [hmessage] at hnot
    obtain ⟨hprepared, hnone⟩ := writeLog_of_not_holds hnot
    rw [if_pos hlogged] at hlogFile hfiles
    rw [hlogFile, hfiles, hprepared, hnone]
    exact ⟨rfl, rfl⟩
  · rw [hlogFile, hfiles]
    rcases hnone with hno | rfl
    · rw [if_neg hno, if_neg hno]
      exact ⟨rfl, rfl⟩
    · split_ifs <;> exact ⟨rfl, rfl⟩
  · subst hp
    rw [hfiles]
    split_ifs
    · exact logged_writeLog files p d.ending.message
    · exact .refl files p

/-- **What a run does with its log.** -/
theorem logs_execute (x : Executor) (interpreter : Interpreter) (files : FileTree) (source : Path)
    (searchPaths : List Path) (log : Option Path) (vars : Dictionary Value) :
    let r := x.execute interpreter files source searchPaths log vars
    Logs (∃ c, x.Takes interpreter files source searchPaths vars c ∧ c.Fails) files log r.ending.message
      r.ending.logFile r.files := by
  intro r
  have hfails : (∃ c, x.Takes interpreter files source searchPaths vars c ∧ c.Fails) ↔
      (x.draft interpreter files source searchPaths vars).isLogged = true := by
    constructor
    · rintro ⟨c, hc, hf⟩
      exact (isLogged_iff hc).mpr hf
    · intro h
      obtain ⟨c, hc, -⟩ := exists_follows x interpreter files source searchPaths log vars
      exact ⟨c, hc, (isLogged_iff hc).mp h⟩
  rw [hfails]
  exact (execute_eq_draft x interpreter files source searchPaths log vars).logs

theorem draft_congr (hread : files'.readText source = files.readText source)
    (hsame : ∀ text, files.readText source = .ok text →
      interpreter (x.setting files' source searchPaths) (x.scope source vars) text =
        interpreter (x.setting files source searchPaths) (x.scope source vars) text) :
    x.draft interpreter files' source searchPaths vars =
      x.draft interpreter files source searchPaths vars := by
  unfold draft
  rw [hread]
  cases htext : files.readText source with
  | error e => rfl
  | ok text =>
    dsimp only
    rw [hsame text htext]

/-- **Neither the log nor whether it can be written is seen** in what the run says, or in its ending but for
the log itself. -/
theorem execute_alike (x : Executor) (interpreter : Interpreter) (log log' : Option Path)
    (hread : files'.readText source = files.readText source)
    (hsame : ∀ text, files.readText source = .ok text →
      interpreter (x.setting files' source searchPaths) (x.scope source vars) text =
        interpreter (x.setting files source searchPaths) (x.scope source vars) text) :
    let r := x.execute interpreter files source searchPaths log vars
    let r' := x.execute interpreter files' source searchPaths log' vars
    r'.said = r.said ∧ r'.ending = { r.ending with logFile := r'.ending.logFile } := by
  intro r r'
  obtain ⟨hsaid, hending, -⟩ := execute_eq_draft x interpreter files source searchPaths log vars
  obtain ⟨hsaid', hending', -⟩ := execute_eq_draft x interpreter files' source searchPaths log' vars
  rw [draft_congr hread hsame] at hsaid' hending'
  exact ⟨hsaid'.trans hsaid.symm, by simp only [r, r', hending, hending']⟩

end Executor

end HostedScripts
