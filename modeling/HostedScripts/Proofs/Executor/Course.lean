import HostedScripts.Proofs.Executor.Chosen
import HostedScripts.Proofs.Executor.Left

/-! # The courses that a run of a script file can take

Whatever an interpreter makes of a script, a run of the file takes exactly one of five courses
(`Course`): the file cannot be read; the script does not compile; it comes to its end; it ends itself with
an exit code; it raises an error. `Executor.Takes` says when a run takes a course, and `Course.Leaves` what
it then leaves: where a script has come to its end or has ended itself, the message and the results are those of
its last scope. An error of the compilation is told with its words and a line of the text (`CompileError.IsOn`).
A failure is an exit if there is nothing but calls and modules around the exit (`Failure.Exits`), so neither
what a script raises nor any other end of the whole script is one.

* `Executor.execute_takes_course`: a run takes exactly one course, and leaves what is said of it.
* `Course.Leaves.of_exitCode`, `of_results`, `of_logFile`: an exit code, results and a log tell the
  course. -/

namespace HostedScripts

open HostedScripts.Language

/-! ### Exits inside failures -/

namespace Language.Failure

/-- A failure that is an exit with a code, inside calls and modules. -/
inductive Exits : Failure → Int64 → Prop where
  | here {code : Int64} {p : Option Position} : Exits (.plain (.exited code) p) code
  | inCall {function source : String} {inner : Failure} {p : Option Position} {code : Int64}
    (h : Exits inner code) : Exits (.inCall function source inner p) code
  | inModule {name : String} {inner : Failure} {p : Option Position} {code : Int64}
    (h : Exits inner code) : Exits (.inModule name inner p) code

variable {f : Failure} {code : Int64}

theorem exits_iff_exitCode? : f.Exits code ↔ f.exitCode? = some code := by
  constructor
  · intro h
    induction h with
    | here => rfl
    | inCall _ ih => exact ih
    | inModule _ ih => exact ih
  · intro h
    induction f with
    | plain cause p =>
      cases cause <;> cases h
      exact .here
    | inCall function source inner p ih => exact .inCall (ih h)
    | inModule name inner p ih => exact .inModule (ih h)

/-- No other end of the whole script is an exit, inside whatever calls. -/
example : ¬ ∃ code, Exits (.inCall "f" "" (.plain (.other "ErrorTerminated" "Script terminated"
    ["\"limit\""] true) none) none) code := by
  rintro ⟨code, - | ⟨h⟩⟩
  cases h

end Language.Failure

/-! ### Lines of errors -/

/-- The line of a text that an error is on: where it was seen, or the last line if it has no place. -/
inductive Language.CompileError.IsOn (e : CompileError) (text : String) : Nat → Prop where
  | place (h : e.position.line ≠ 0) : IsOn e text e.position.line
  | last (h : e.position.line = 0) : IsOn e text (max (Text.lines text).length 1)

theorem isOn_diagnosticOf (text : String) (e : CompileError) : e.IsOn text (diagnosticOf text e).line := by
  by_cases h : e.position.line = 0
  · have hline : (diagnosticOf text e).line = max (Text.lines text).length 1 := by
      simp [diagnosticOf, Diagnostic.onLine, Position.known?, h]
    rw [hline]
    exact .last h
  · have hline : (diagnosticOf text e).line = e.position.line := by
      simp only [diagnosticOf, Diagnostic.onLine, Position.known?, h, if_false]
      omega
    rw [hline]
    exact .place h

/-- An error at the end of a script that is not closed is on its last line. -/
example : CompileError.IsOn ⟨.incomplete, .nowhere⟩ "let a = 1;\nlet b = (\n" 2 := .last rfl

/-! ### What is told of a run -/

/-- What the script says by an action, if anything. -/
def Action.words? : Action → Option (Bool × String)
  | .said isDebug text => some (isDebug, text)
  | .opened | .told _ | .released => none

/-- What the script said, in order. -/
def Execution.said (r : Execution) : List (Bool × String) := r.actions.filterMap Action.words?

/-- An action that only tells something to those who watch. -/
def Action.IsTold (action : Action) : Prop := ∃ event, action = .told event

/-- An action by which the executor tells something, but not that an interpreter comes or goes. -/
def Action.IsRemark (action : Action) : Prop :=
  ∃ severity message fields, action = Executor.event severity message fields ∧
    message ≠ "interpreter created" ∧ message ≠ "interpreter released"

theorem Action.IsRemark.isTold {action : Action} (h : action.IsRemark) : action.IsTold := by
  obtain ⟨severity, message, fields, rfl, -⟩ := h
  exact ⟨_, rfl⟩

/-- Some words as actions. -/
def Action.ofSaid (said : List (Bool × String)) : List Action :=
  said.map fun (isDebug, text) => .said isDebug text

/-- A run with an interpreter that comes, lets the script say something and goes; what happens at the end is
only told. -/
def Execution.Speaks (r : Execution) (said : List (Bool × String)) : Prop :=
  ∃ told : List Action, (∀ action ∈ told, action.IsTold) ∧
    r.actions = .opened :: Action.ofSaid said ++ told ++ [.released]

namespace Execution.Speaks

variable {r : Execution} {words : List (Bool × String)}

theorem said_eq (h : r.Speaks words) : r.said = words := by
  obtain ⟨told, htold, hactions⟩ := h
  have hnone : told.filterMap Action.words? = [] := by
    refine List.filterMap_eq_nil_iff.mpr fun action haction => ?_
    obtain ⟨event, rfl⟩ := htold action haction
    rfl
  have hall : (Action.ofSaid words).filterMap Action.words? = words := by
    rw [Action.ofSaid, List.filterMap_map]
    exact List.filterMap_some
  rw [said, hactions, List.filterMap_append, List.cons_append, List.filterMap_cons_none rfl,
    List.filterMap_append, hall, hnone, List.append_nil]
  exact List.append_nil words

end Execution.Speaks

theorem liveInterpreters_append (n : Nat) (before after : List Action) :
    liveInterpreters n (before ++ after) = liveInterpreters (liveInterpreters n before) after := by
  induction before generalizing n with
  | nil => rfl
  | cons action before ih => cases action <;> exact ih _

/-- Neither words nor what is told lets an interpreter come or go. -/
theorem liveInterpreters_of_neither {actions : List Action}
    (h : ∀ action ∈ actions, action ≠ .opened ∧ action ≠ .released) (n : Nat) :
    liveInterpreters n actions = n := by
  induction actions with
  | nil => rfl
  | cons action actions ih =>
    have hrest := ih fun a ha => h a (List.mem_cons_of_mem _ ha)
    obtain ⟨hopened, hreleased⟩ := h action List.mem_cons_self
    cases action with
    | opened => exact absurd rfl hopened
    | released => exact absurd rfl hreleased
    | said isDebug text => exact hrest
    | told event => exact hrest

/-- The interpreter that came is gone. -/
theorem Execution.Speaks.liveInterpreters_eq {r : Execution} {words : List (Bool × String)}
    (h : r.Speaks words) (n : Nat) : liveInterpreters n r.actions = n := by
  obtain ⟨told, htold, hactions⟩ := h
  have hquiet : ∀ action ∈ Action.ofSaid words ++ told, action ≠ .opened ∧ action ≠ .released := by
    intro action haction
    rcases List.mem_append.mp haction with hword | hevent
    · obtain ⟨⟨isDebug, text⟩, -, rfl⟩ := List.mem_map.mp hword
      exact ⟨nofun, nofun⟩
    · obtain ⟨event, rfl⟩ := htold action hevent
      exact ⟨nofun, nofun⟩
  rw [hactions, List.cons_append, List.cons_append, liveInterpreters, liveInterpreters_append,
    liveInterpreters_of_neither hquiet]
  rfl

namespace Executor

theorem isRemark_of_writeLog {files : FileTree} {log : Option Path} {message : String} :
    ∀ action ∈ (writeLog files log message).2.2, action.IsRemark := by
  intro action h
  unfold writeLog at h
  cases log with
  | none => cases h
  | some path =>
    dsimp only at h
    repeat' split at h
    all_goals
      rw [List.mem_singleton] at h
      exact ⟨_, _, _, h, by decide, by decide⟩

theorem isRemark_of_chosenOutcome {scope : Scope} :
    ∀ action ∈ (chosenOutcome scope).2, action.IsRemark := by
  intro action h
  unfold chosenOutcome at h
  split at h
  · cases h
  · split at h
    · cases h
    · rw [List.mem_singleton] at h
      exact ⟨_, _, _, h, by decide, by decide⟩

theorem isRemark_of_conclude {source : Path} {log : Option Path} {files : FileTree} {f : Finished} :
    ∀ action ∈ (conclude source log files f).2.2, action.IsRemark := by
  intro action h
  unfold conclude at h
  split at h
  · exact isRemark_of_chosenOutcome action h
  · split at h
    · rw [List.mem_singleton] at h
      exact ⟨_, _, _, h, by decide, by decide⟩
    · rcases List.mem_cons.mp h with h | h
      · exact ⟨_, _, _, h, by decide, by decide⟩
      · exact isRemark_of_writeLog action h

/-- A log is written to the path it was to be written to, or not at all. -/
theorem logFile_of_writeLog (files : FileTree) (log : Option Path) (message : String) :
    (writeLog files log message).2.1 = none ∨ (writeLog files log message).2.1 = log := by
  unfold writeLog
  cases log with
  | none => exact Or.inl rfl
  | some path =>
    dsimp only
    repeat' split
    all_goals first | exact Or.inl rfl | exact Or.inr rfl

end Executor

/-! ### Courses -/

/-- The course of a run of a script file: the file cannot be read, the script does not compile, it comes to
its end, it ends itself with an exit code, or it raises an error. -/
inductive Course where
  | unreadable (error : FileError)
  | notCompiled (error : CompileError)
  | ended (f : Finished)
  | exited (f : Finished) (code : Int64)
  | raised (f : Finished) (failure : Failure)

namespace Executor

/-- What an interpreter makes of the script in a file. -/
def Interprets (x : Executor) (interpreter : Interpreter) (files : FileTree) (source : Path)
    (searchPaths : List Path) (vars : Dictionary Value) (i : Interpretation) : Prop :=
  ∃ text, files.readText source = .ok text ∧
    interpreter (x.setting files source searchPaths) (x.scope source vars) text = i

/-- When a run of a script file takes a course. -/
def Takes (x : Executor) (interpreter : Interpreter) (files : FileTree) (source : Path)
    (searchPaths : List Path) (vars : Dictionary Value) : Course → Prop
  | .unreadable e => files.readText source = .error e
  | .notCompiled e => x.Interprets interpreter files source searchPaths vars (.notCompiled e)
  | .ended f => x.Interprets interpreter files source searchPaths vars (.finished f) ∧ f.failure = none
  | .exited f code => x.Interprets interpreter files source searchPaths vars (.finished f) ∧
      ∃ failure, f.failure = some failure ∧ failure.Exits code
  | .raised f failure => x.Interprets interpreter files source searchPaths vars (.finished f) ∧
      f.failure = some failure ∧ ¬ ∃ code, failure.Exits code

end Executor

/-- What a run leaves that takes a course. -/
def Course.Leaves (source : Path) (files : FileTree) (log : Option Path) (r : Execution) :
    Course → Prop
  | .unreadable e =>
    r.ending = ⟨.failed, e.message, [], none, none⟩ ∧ r.files = files ∧ .opened ∉ r.actions ∧
      r.said = []
  | .notCompiled e =>
    r.said = [] ∧ ∃ (text : String) (line : Nat) (logFile : Option Path),
      files.readText source = .ok text ∧ e.IsOn text line ∧ 1 ≤ line ∧ (logFile = none ∨ logFile = log) ∧
      r.ending = ⟨.cancelled,
        "Script Traceback:" ++ "\n" ++ (e.cause.message ++ " (line " ++ toString line ++ ")"),
        [], none, logFile⟩
  | .ended f =>
    r.said = f.said ∧ r.files = files ∧ ∃ outcome message results,
      Executor.Chooses f.scope outcome ∧ Executor.LeavesMessage f.scope message ∧
      Executor.LeavesResults f.scope results ∧ r.ending = ⟨outcome, message, results, none, none⟩
  | .exited f code =>
    r.said = f.said ∧ r.files = files ∧ ∃ message results,
      Executor.LeavesMessage f.scope message ∧ Executor.LeavesResults f.scope results ∧
      r.ending = ⟨.succeeded, message, results, some code, none⟩
  | .raised f failure =>
    r.said = f.said ∧ ∃ logFile, (logFile = none ∨ logFile = log) ∧
      r.ending = ⟨.failed,
        "Script Traceback:" ++ "\n" ++ failure.text ++ "\n\n" ++
          "Executor Traceback:" ++ "\n" ++ source.text ++ ": " ++ failure.detail,
        [], none, logFile⟩

namespace Course.Leaves

variable {source : Path} {files : FileTree} {log : Option Path} {r : Execution} {course : Course}

/-- Only an exit leaves an exit code: its own. -/
theorem of_exitCode {code : Int64} (h : course.Leaves source files log r)
    (hcode : r.ending.exitCode = some code) : ∃ f, course = .exited f code := by
  cases course with
  | unreadable e =>
    rw [h.1] at hcode
    cases hcode
  | notCompiled e =>
    obtain ⟨-, text, line, logFile, -, -, -, -, he⟩ := h
    rw [he] at hcode
    cases hcode
  | ended f =>
    obtain ⟨-, -, outcome, message, results, -, -, -, he⟩ := h
    rw [he] at hcode
    cases hcode
  | exited f code' =>
    obtain ⟨-, -, message, results, -, -, he⟩ := h
    rw [he] at hcode
    cases hcode
    exact ⟨f, rfl⟩
  | raised f failure =>
    obtain ⟨-, logFile, -, he⟩ := h
    rw [he] at hcode
    cases hcode

/-- Only a script that comes to its end or ends itself leaves results. -/
theorem of_results (h : course.Leaves source files log r) (hresults : r.ending.results ≠ []) :
    ∃ f, course = .ended f ∨ ∃ code, course = .exited f code := by
  cases course with
  | unreadable e => exact absurd (by rw [h.1]) hresults
  | notCompiled e =>
    obtain ⟨-, text, line, logFile, -, -, -, -, he⟩ := h
    exact absurd (by rw [he]) hresults
  | ended f => exact ⟨f, Or.inl rfl⟩
  | exited f code => exact ⟨f, Or.inr ⟨code, rfl⟩⟩
  | raised f failure =>
    obtain ⟨-, logFile, -, he⟩ := h
    exact absurd (by rw [he]) hresults

/-- Only a script that does not compile or raises an error leaves a log. -/
theorem of_logFile (h : course.Leaves source files log r) (hlog : r.ending.logFile ≠ none) :
    (∃ e, course = .notCompiled e) ∨ ∃ f failure, course = .raised f failure := by
  cases course with
  | unreadable e => exact absurd (by rw [h.1]) hlog
  | notCompiled e => exact Or.inl ⟨e, rfl⟩
  | ended f =>
    obtain ⟨-, -, outcome, message, results, -, -, -, he⟩ := h
    exact absurd (by rw [he]) hlog
  | exited f code =>
    obtain ⟨-, -, message, results, -, -, he⟩ := h
    exact absurd (by rw [he]) hlog
  | raised f failure => exact Or.inr ⟨f, failure, rfl⟩

end Course.Leaves

/-! ### Taking a course -/

/-- The course that an interpretation leads to. -/
def Interpretation.course : Interpretation → Course
  | .notCompiled e => .notCompiled e
  | .finished f =>
    match f.failure with
    | none => .ended f
    | some failure =>
      match failure.exitCode? with
      | some code => .exited f code
      | none => .raised f failure

namespace Executor

/-- The course of a run, found out step by step. -/
def course (x : Executor) (interpreter : Interpreter) (files : FileTree) (source : Path)
    (searchPaths : List Path) (vars : Dictionary Value) : Course :=
  match files.readText source with
  | .error e => .unreadable e
  | .ok text => (interpreter (x.setting files source searchPaths) (x.scope source vars) text).course

variable {x : Executor} {interpreter : Interpreter} {files : FileTree} {source : Path}
  {searchPaths : List Path} {vars : Dictionary Value}

theorem course_of_interprets {i : Interpretation}
    (h : x.Interprets interpreter files source searchPaths vars i) :
    x.course interpreter files source searchPaths vars = i.course := by
  obtain ⟨text, hread, rfl⟩ := h
  rw [course, hread]

theorem Takes.eq_course {c : Course} (h : x.Takes interpreter files source searchPaths vars c) :
    c = x.course interpreter files source searchPaths vars := by
  cases c with
  | unreadable e =>
    have hread : files.readText source = .error e := h
    rw [course, hread]
  | notCompiled e => exact (course_of_interprets h).symm
  | ended f =>
    obtain ⟨hi, hnone⟩ := h
    rw [course_of_interprets hi]
    simp only [Interpretation.course, hnone]
  | exited f code =>
    obtain ⟨hi, failure, hf, hexit⟩ := h
    rw [course_of_interprets hi]
    simp only [Interpretation.course, hf, Failure.exits_iff_exitCode?.mp hexit]
  | raised f failure =>
    obtain ⟨hi, hf, hno⟩ := h
    have hcode : failure.exitCode? = none := by
      cases hcode : failure.exitCode? with
      | none => rfl
      | some code => exact absurd ⟨code, Failure.exits_iff_exitCode?.mpr hcode⟩ hno
    rw [course_of_interprets hi]
    simp only [Interpretation.course, hf, hcode]

/-! ### What a run is -/

theorem execute_of_unreadable {e : FileError} (h : files.readText source = .error e)
    (log : Option Path) :
    x.execute interpreter files source searchPaths log vars =
      ⟨.plain .failed e.message, files,
        [event .warn "script source unreadable" [("error", e.message)]]⟩ := by
  rw [execute, h]

theorem execute_of_notCompiled {text : String} {e : CompileError} (hread : files.readText source = .ok text)
    (h : interpreter (x.setting files source searchPaths) (x.scope source vars) text = .notCompiled e)
    (log : Option Path) :
    let written := writeLog files log (compileMessage [diagnosticOf text e])
    x.execute interpreter files source searchPaths log vars =
      ⟨⟨.cancelled, compileMessage [diagnosticOf text e], [], none, written.2.1⟩, written.1,
        .opened :: event .info "script failed to compile" [("diagnostics", "1")] ::
          written.2.2 ++ [.released]⟩ := by
  rw [execute, hread]
  dsimp only
  rw [h]

theorem execute_of_finished {f : Finished}
    (h : x.Interprets interpreter files source searchPaths vars (.finished f)) (log : Option Path) :
    let concluded := conclude source log files f
    x.execute interpreter files source searchPaths log vars =
      ⟨concluded.1, concluded.2.1,
        .opened :: (Action.ofSaid f.said ++ concluded.2.2) ++ [.released]⟩ := by
  obtain ⟨text, hread, hi⟩ := h
  rw [execute, hread]
  dsimp only
  rw [hi]
  rfl

/-! ### Following a course -/

/-- A run takes a course, leaves what is said of it, and leaves no interpreter over. -/
def Follows (x : Executor) (interpreter : Interpreter) (files : FileTree) (source : Path)
    (searchPaths : List Path) (log : Option Path) (vars : Dictionary Value) (c : Course) : Prop :=
  x.Takes interpreter files source searchPaths vars c ∧
    c.Leaves source files log (x.execute interpreter files source searchPaths log vars) ∧
    ∀ n, liveInterpreters n (x.execute interpreter files source searchPaths log vars).actions = n

theorem follows_unreadable {e : FileError} (h : files.readText source = .error e)
    (log : Option Path) :
    x.Follows interpreter files source searchPaths log vars (.unreadable e) := by
  unfold Follows
  rw [execute_of_unreadable h]
  exact ⟨h, ⟨rfl, rfl, by rw [List.mem_singleton]; exact nofun, rfl⟩, fun n => rfl⟩

theorem follows_notCompiled {text : String} {e : CompileError} (hread : files.readText source = .ok text)
    (h : interpreter (x.setting files source searchPaths) (x.scope source vars) text = .notCompiled e)
    (log : Option Path) :
    x.Follows interpreter files source searchPaths log vars (.notCompiled e) := by
  set written := writeLog files log (compileMessage [diagnosticOf text e])
  have htold : ∀ action ∈ event .info "script failed to compile" [("diagnostics", "1")] ::
      written.2.2, action.IsTold := by
    intro action haction
    rcases List.mem_cons.mp haction with hfirst | hlog
    · exact ⟨_, hfirst⟩
    · exact (isRemark_of_writeLog action hlog).isTold
  have hexec := execute_of_notCompiled hread h log
  have hspeaks : (x.execute interpreter files source searchPaths log vars).Speaks [] := by
    rw [hexec]
    exact ⟨_, htold, rfl⟩
  refine ⟨⟨text, hread, h⟩, ⟨hspeaks.said_eq, text, (diagnosticOf text e).line, written.2.1, hread,
    isOn_diagnosticOf text e, Nat.le_max_right _ _, logFile_of_writeLog _ _ _, ?_⟩,
    hspeaks.liveInterpreters_eq⟩
  rw [hexec]
  rfl

theorem speaks_of_finished {f : Finished}
    (h : x.Interprets interpreter files source searchPaths vars (.finished f)) (log : Option Path) :
    (x.execute interpreter files source searchPaths log vars).Speaks f.said := by
  rw [execute_of_finished h log]
  exact ⟨_, fun action haction => (isRemark_of_conclude action haction).isTold, rfl⟩

/-- A script that was run follows the course that its end tells. -/
theorem follows_of_finished {f : Finished}
    (h : x.Interprets interpreter files source searchPaths vars (.finished f)) (log : Option Path) :
    ∃ c, x.Follows interpreter files source searchPaths log vars c := by
  have hexec := execute_of_finished h log
  have hspeaks := speaks_of_finished h log
  have hending := congrArg Execution.ending hexec
  have hfiles := congrArg Execution.files hexec
  dsimp only at hending hfiles
  unfold conclude at hending hfiles
  rcases hf : f.failure with - | failure
  · simp only [hf] at hending hfiles
    exact ⟨.ended f, ⟨h, hf⟩, ⟨hspeaks.said_eq, hfiles, _, _, _, chooses_iff.mpr rfl,
      leavesMessage_iff.mpr rfl, leavesResults_iff.mpr rfl, hending⟩, hspeaks.liveInterpreters_eq⟩
  rcases hcode : failure.exitCode? with - | code
  · simp only [hf, hcode] at hending
    have hno : ¬ ∃ code, failure.Exits code := by
      rintro ⟨code, hexit⟩
      cases hcode.symm.trans (Failure.exits_iff_exitCode?.mp hexit)
    exact ⟨.raised f failure, ⟨h, hf, hno⟩,
      ⟨hspeaks.said_eq, _, logFile_of_writeLog _ _ _, hending⟩, hspeaks.liveInterpreters_eq⟩
  · simp only [hf, hcode] at hending hfiles
    exact ⟨.exited f code, ⟨h, failure, hf, Failure.exits_iff_exitCode?.mpr hcode⟩,
      ⟨hspeaks.said_eq, hfiles, _, _, leavesMessage_iff.mpr rfl, leavesResults_iff.mpr rfl, hending⟩,
      hspeaks.liveInterpreters_eq⟩

theorem exists_follows (x : Executor) (interpreter : Interpreter) (files : FileTree) (source : Path)
    (searchPaths : List Path) (log : Option Path) (vars : Dictionary Value) :
    ∃ c, x.Follows interpreter files source searchPaths log vars c := by
  cases hread : files.readText source with
  | error e => exact ⟨.unreadable e, follows_unreadable hread log⟩
  | ok text =>
    cases hi : interpreter (x.setting files source searchPaths) (x.scope source vars) text with
    | notCompiled e => exact ⟨.notCompiled e, follows_notCompiled hread hi log⟩
    | finished f => exact follows_of_finished ⟨text, hread, hi⟩ log

/-- **The courses of a run.** Take any files, script file, limits, variables and hosts, and any interpreter at
all: whatever it makes of a script, with whatever failure and whatever variables at the end. Then a run of the
file takes exactly one course, and leaves what is said of it; so an exit code tells an exit, results tell an
end or an exit, and a log tells an error of either kind. No interpreter is left over. -/
theorem execute_takes_course (x : Executor) (interpreter : Interpreter) (files : FileTree)
    (source : Path) (searchPaths : List Path) (log : Option Path) (vars : Dictionary Value) :
    let r := x.execute interpreter files source searchPaths log vars
    ∃ course : Course,
      (x.Takes interpreter files source searchPaths vars course ∧
        ∀ other, x.Takes interpreter files source searchPaths vars other → other = course) ∧
      course.Leaves source files log r ∧
      (∀ code, r.ending.exitCode = some code → ∃ f, course = .exited f code) ∧
      (r.ending.results ≠ [] → ∃ f, course = .ended f ∨ ∃ code, course = .exited f code) ∧
      (r.ending.logFile ≠ none → (∃ e, course = .notCompiled e) ∨ ∃ f e, course = .raised f e) ∧
      ∀ n, liveInterpreters n r.actions = n := by
  intro r
  obtain ⟨course, htakes, hleaves, hlive⟩ :=
    exists_follows x interpreter files source searchPaths log vars
  exact ⟨course, ⟨htakes, fun other hother => hother.eq_course.trans htakes.eq_course.symm⟩, hleaves,
    fun code => hleaves.of_exitCode, hleaves.of_results, hleaves.of_logFile, hlive⟩

end Executor

end HostedScripts
