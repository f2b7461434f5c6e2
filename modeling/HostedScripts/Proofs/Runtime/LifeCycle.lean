import HostedScripts.Proofs.Runtime.Steps

/-! # The life of a runtime

A host makes a runtime and calls it: it may set what the run is given, ask for its engine, its console and
its stream, change its results, run it and dispose of it (`Call`). Questions whose answers change nothing
are left out. Between two calls anything may happen in the world, so that a history gives a world for each
call (`after`).

A run is *settled* (`Phase.IsSettled`) if it can begin, has ended or has been disposed of; between calls it
always is. `run_of_configured` and `run_of_ne_configured` say what the call to run does, `call_of_quiet`
what all other calls leave alone. Together they make `life_cycle`. -/

namespace HostedScripts

/-- Whether a run with this phase waits for its host. -/
def Phase.IsSettled (p : Phase) : Prop :=
  p = .configured ∨ (∃ outcome, p = .ofOutcome outcome) ∨ p = .disposed

theorem Phase.ofOutcome_ne_configured (outcome : Outcome) : ofOutcome outcome ≠ configured := by
  cases outcome <;> decide

namespace Runtime

/-- A call of a runtime by its host. -/
inductive Call where
  | setEventSender (sender : Option EventSender)
  | setEventArgs (args : Option Value)
  | readEngine
  | outputWindow
  | outputStream
  | editResults (edit : Dictionary String → Dictionary String)
  | run (engines : EngineTable)
  | dispose

/-- What a host gets for a call. -/
inductive Answer where
  | done
  | engine (kind : EngineKind)
  | number (n : Nat)
  | ended (outcome : Outcome)
  | refused (why : Refusal)

/-- Whether a call runs the script. -/
def Call.isRun : Call → Bool
  | .run _ => true
  | _ => false

/-- Whether a call disposes of the run. -/
def Call.isDispose : Call → Bool
  | .dispose => true
  | _ => false

namespace Answer

/-- An answer, unless the call was refused. -/
def ofExcept {α : Type} (f : α → Answer) : Except Refusal α → Answer
  | .ok a => f a
  | .error e => .refused e

/-- Whether a run came to its end. -/
def isEnded : Answer → Bool
  | .ended _ => true
  | _ => false

theorem isEnded_number (n : Except Refusal Nat) : (ofExcept number n).isEnded = false := by
  cases n <;> rfl

end Answer

/-- Calls a runtime: the runtime that is left, and the answer. -/
def call (rt : Runtime) : Call → Act (Runtime × Answer)
  | .setEventSender sender => do return (← rt.setEventSender sender, .done)
  | .setEventArgs args => return (rt.setEventArgs args, .done)
  | .readEngine => do
    let files := (← get).files
    return (rt.pinned files, .engine (rt.engineIn files))
  | .outputWindow => do
    let (rt, n) ← rt.window
    return (rt, .ofExcept .number n)
  | .outputStream => do
    let (rt, n) ← rt.feed
    return (rt, .ofExcept .number n)
  | .editResults edit => return (rt.editResults edit, .done)
  | .run engines => do
    let (rt, outcome) ← rt.attempt engines
    return (rt, .ofExcept .ended outcome)
  | .dispose => do return (← rt.dispose, .done)

/-- The runtime after some calls, each in the world as it is by then. -/
def after (rt : Runtime) : List (World × Call) → Runtime
  | [] => rt
  | (w, c) :: calls => ((rt.call c).run w).1.1.after calls

/-- The answers to some calls. -/
def answers (rt : Runtime) : List (World × Call) → List Answer
  | [] => []
  | (w, c) :: calls => ((rt.call c).run w).1.2 :: ((rt.call c).run w).1.1.answers calls

/-- What a run leaves for its host to read: its outcome, its message and its log. -/
def left (rt : Runtime) : Option Outcome × String × Option Path :=
  (rt.executionResult, rt.traceMessage, rt.logFile)

variable {rt rt' : Runtime} {w w' : World}

theorem Equipped.left (h : rt.Equipped rt') : rt'.left = rt.left := by
  unfold Runtime.left
  rw [h.executionResult, h.traceMessage, h.logFile]

theorem call_outputWindow {n : Except Refusal Nat} (h : rt.window.run w = ((rt', n), w')) :
    (rt.call .outputWindow).run w = ((rt', .ofExcept .number n), w') := by
  unfold call
  rw [Act.run_bind, h]
  rfl

theorem call_outputStream {n : Except Refusal Nat} (h : rt.feed.run w = ((rt', n), w')) :
    (rt.call .outputStream).run w = ((rt', .ofExcept .number n), w') := by
  unfold call
  rw [Act.run_bind, h]
  rfl

theorem call_dispose (rt : Runtime) (w : World) : ∃ told, (rt.call .dispose).run w =
    ((rt.disposed, .done), { (rt.closeStream.run w).2 with told := told }) := by
  obtain ⟨told, hd⟩ := dispose_run rt w
  unfold call
  rw [Act.run_bind, hd]
  exact ⟨told, rfl⟩

/-! ### Running -/

/-- The call to run equips a runtime, and gives it the end of its script. -/
theorem run_eq (hc : rt.phase = .configured) (engines : EngineTable) (w : World) :
    ∃ begun : World, begun.outputs = w.outputs ∧ ∃ rt' ending w', (rt.call (.run engines)).run w =
      ((rt'.ended ending, .ended ending.outcome), w') ∧
        Fed { rt.pinned w.files with phase := .running } begun rt' w' := by
  obtain ⟨rt', ending, begun, w', hrun, hbegun, hfed⟩ := exists_carryOut
    { rt.pinned w.files with phase := .running } w (by simp) engines
  refine ⟨begun, hbegun, rt', ending, w', ?_, hfed⟩
  unfold call
  rw [Act.run_bind, attempt_of_configured hc, hrun]
  rfl

/-- A run that can begin comes to its end. -/
theorem run_of_configured (h : rt.phase = .configured) (engines : EngineTable) (w : World) :
    ∃ rt' outcome w', (rt.call (.run engines)).run w = ((rt', .ended outcome), w') ∧
      rt'.phase = .ofOutcome outcome ∧ rt'.executionResult = some outcome := by
  obtain ⟨-, -, rt', ending, w', hrun, -⟩ := run_eq h engines w
  exact ⟨rt'.ended ending, ending.outcome, w', hrun, rfl, rfl⟩

/-- Why a runtime does not run that cannot begin. -/
def whyIdle (rt : Runtime) : Refusal :=
  if rt.phase = .disposed then .disposed rt.execId else .alreadyRan rt.execId

/-- Any other run is refused and changes nothing. -/
theorem run_of_ne_configured (h : rt.phase ≠ .configured) (engines : EngineTable) (w : World) :
    (rt.call (.run engines)).run w = ((rt, .refused rt.whyIdle), w) := by
  unfold call whyIdle
  rw [Act.run_bind]
  by_cases hd : rt.phase = .disposed
  · rw [attempt_of_disposed hd, if_pos hd]
    rfl
  · rw [attempt_of_ran hd h, if_neg hd]
    rfl

/-! ### The other calls -/

/-- **A run that has been disposed of has neither a console nor a stream.** -/
theorem output_of_disposed (h : rt.phase = .disposed) (w : World) :
    (rt.call .outputWindow).run w = ((rt, .refused (.disposed rt.execId)), w) ∧
      (rt.call .outputStream).run w = ((rt, .refused (.disposed rt.execId)), w) := by
  exact ⟨call_outputWindow (window_of_disposed h), call_outputStream (feed_of_disposed h)⟩

/-- A world in which nothing was run: the files and what handlers have been asked stay. -/
def Idle (w w' : World) : Prop := w'.files = w.files ∧ w'.asked = w.asked

theorem idle_window (rt : Runtime) (w : World) : Idle w (rt.window.run w).2 :=
  window_keeps (motive := fun _ after => Idle w after) rt w ⟨rfl, rfl⟩ ⟨rfl, rfl⟩

theorem idle_closeStream (rt : Runtime) (w : World) : Idle w (rt.closeStream.run w).2 := by
  rcases hs : rt.stream with - | ⟨h, n⟩
  · rw [closeStream_of_none hs]
    exact ⟨rfl, rfl⟩
  · rw [closeStream_of_some hs]
    exact ⟨rfl, rfl⟩

theorem idle_feed (rt : Runtime) (w : World) : Idle w (rt.feed.run w).2 :=
  feed_keeps (motive := fun _ after => Idle w after) rt w (idle_window rt w)
    (fun seen before h =>
      ⟨(idle_closeStream seen before).1.trans h.1, (idle_closeStream seen before).2.trans h.2⟩)
    fun _ _ _ h => h

theorem interpret_run {n : Nat} {fed : World} (hf : rt.feed.run w = ((rt', .ok n), fed))
    (interpreter : Interpreter) :
    (rt.interpret interpreter).run w = ((rt', .ok (rt.execution interpreter w.files).ending),
      ((perform n (rt.execution interpreter w.files).actions).run
        { fed with files := (rt.execution interpreter w.files).files }).2) := by
  have hequipped := equipped_feed rt w
  have hidle := idle_feed rt w
  rw [hf] at hequipped hidle
  have hfiles : fed.files = w.files := hidle.1
  unfold interpret
  rw [Act.run_bind, hf, ← hequipped.execution, ← hfiles]
  rfl

/-- **What all calls but a run from the beginning leave alone.** -/
theorem call_of_quiet {c : Call} (h : c.isRun = true → rt.phase ≠ .configured) (w : World) :
    ((rt.call c).run w).1.1.phase = (if c.isDispose then .disposed else rt.phase) ∧
      ((rt.call c).run w).1.1.execId = rt.execId ∧ ((rt.call c).run w).1.1.left = rt.left ∧
      ((rt.call c).run w).1.2.isEnded = false ∧ Idle w ((rt.call c).run w).2 := by
  cases c with
  | setEventSender sender => exact ⟨rfl, rfl, rfl, rfl, rfl, rfl⟩
  | setEventArgs args => exact ⟨rfl, rfl, rfl, rfl, rfl, rfl⟩
  | readEngine => exact ⟨rfl, rfl, rfl, rfl, rfl, rfl⟩
  | editResults edit => exact ⟨rfl, rfl, rfl, rfl, rfl, rfl⟩
  | outputWindow =>
    have he := equipped_window rt w
    exact ⟨he.phase, he.execId, he.left, Answer.isEnded_number _, idle_window rt w⟩
  | outputStream =>
    have he := equipped_feed rt w
    exact ⟨he.phase, he.execId, he.left, Answer.isEnded_number _, idle_feed rt w⟩
  | run engines =>
    rw [run_of_ne_configured (h rfl)]
    exact ⟨rfl, rfl, rfl, rfl, rfl, rfl⟩
  | dispose =>
    obtain ⟨told, hcall⟩ := call_dispose rt w
    have hclose := idle_closeStream rt w
    rw [hcall]
    exact ⟨rfl, rfl, rfl, rfl, hclose⟩

/-! ### Histories -/

theorem run_or_quiet (rt : Runtime) (c : Call) :
    (∃ engines, c = .run engines ∧ rt.phase = .configured) ∨
      (c.isRun = true → rt.phase ≠ .configured) := by
  by_cases hp : rt.phase = .configured
  · cases c with
    | run engines => exact Or.inl ⟨engines, rfl, hp⟩
    | setEventSender | setEventArgs | readEngine | outputWindow | outputStream | editResults | dispose =>
      exact Or.inr fun h => by cases h
  · exact Or.inr fun _ => hp

theorem isSettled_call (h : rt.phase.IsSettled) (c : Call) (w : World) :
    ((rt.call c).run w).1.1.phase.IsSettled := by
  rcases run_or_quiet rt c with ⟨engines, rfl, hp⟩ | hq
  · obtain ⟨rt', outcome, w', hrun, hphase, -⟩ := run_of_configured hp engines w
    rw [hrun]
    exact Or.inr (Or.inl ⟨outcome, hphase⟩)
  · rw [(call_of_quiet hq w).1]
    split_ifs
    · exact Or.inr (Or.inr rfl)
    · exact h

theorem isSettled_after (h : rt.phase.IsSettled) (calls : List (World × Call)) :
    (rt.after calls).phase.IsSettled := by
  induction calls generalizing rt with
  | nil => exact h
  | cons call calls ih => exact ih (isSettled_call h call.2 call.1)

theorem call_ne_configured (h : rt.phase ≠ .configured) (c : Call) (w : World) :
    ((rt.call c).run w).1.1.phase ≠ .configured := by
  rw [(call_of_quiet (fun _ => h) w).1]
  split_ifs
  · decide
  · exact h

theorem left_after (h : rt.phase ≠ .configured) (calls : List (World × Call)) :
    (rt.after calls).left = rt.left := by
  induction calls generalizing rt with
  | nil => rfl
  | cons call calls ih =>
    have hcall := (call_of_quiet (fun _ => h) call.1 (c := call.2)).2.2.1
    exact (ih (call_ne_configured h call.2 call.1)).trans hcall

theorem left_after_of_no_run (calls : List (World × Call)) (h : ∀ c ∈ calls, c.2.isRun = false) :
    (rt.after calls).left = rt.left := by
  induction calls generalizing rt with
  | nil => rfl
  | cons call calls ih =>
    have hquiet : call.2.isRun = true → rt.phase ≠ .configured := fun hr => by
      rw [h call List.mem_cons_self] at hr
      cases hr
    have hcall := (call_of_quiet hquiet call.1).2.2.1
    exact (ih fun c hc => h c (List.mem_cons_of_mem _ hc)).trans hcall

theorem countP_answers_of_ne_configured (h : rt.phase ≠ .configured) (calls : List (World × Call)) :
    (rt.answers calls).countP Answer.isEnded = 0 := by
  induction calls generalizing rt with
  | nil => rfl
  | cons call calls ih =>
    have hcall := (call_of_quiet (fun _ => h) call.1 (c := call.2)).2.2.2.1
    rw [answers, List.countP_cons, ih (call_ne_configured h call.2 call.1), hcall]
    rfl

/-- A runtime runs once at most. -/
theorem countP_answers_le_one (rt : Runtime) (calls : List (World × Call)) :
    (rt.answers calls).countP Answer.isEnded ≤ 1 := by
  induction calls generalizing rt with
  | nil => exact Nat.zero_le 1
  | cons call calls ih =>
    obtain ⟨w, c⟩ := call
    rw [answers, List.countP_cons]
    rcases run_or_quiet rt c with ⟨engines, rfl, hp⟩ | hq
    · obtain ⟨rt', outcome, w', hrun, hphase, -⟩ := run_of_configured hp engines w
      have hne : rt'.phase ≠ .configured := by
        rw [hphase]
        exact Phase.ofOutcome_ne_configured outcome
      rw [hrun, countP_answers_of_ne_configured hne]
      split_ifs <;> omega
    · rw [(call_of_quiet hq w).2.2.2.1]
      exact ih _

theorem after_append (rt : Runtime) (before later : List (World × Call)) :
    rt.after (before ++ later) = (rt.after before).after later := by
  induction before generalizing rt with
  | nil => rfl
  | cons call before ih => exact ih _

/-- **The life of a runtime.** Take a runtime as it is made, after any calls. It can begin, has ended or has
been disposed of. If it can begin then a run comes to its end, and it is in the phase of the outcome and
remembers it; otherwise a run is refused, and the runtime and the world are as before. Once it has been
disposed of, its console and its stream are refused in the same way. Every other call leaves the phase as it
is, or disposes of the run; it leaves what the host can read of a run, the files and what handlers have been
asked. Of all runs that were ever called for, one at most came to its end; what it left stays readable from
then on, and before there is nothing to read. -/
theorem life_cycle (execId : String) (captured : Environment) (script : ScriptData) (context : Context)
    (start : World) (calls : List (World × Call)) :
    let new := ((make execId captured script context).run start).1
    let rt := new.after calls
    rt.phase.IsSettled ∧
    (rt.phase = .configured → ∀ engines w, ∃ rt' outcome w',
      (rt.call (.run engines)).run w = ((rt', .ended outcome), w') ∧
        rt'.phase = .ofOutcome outcome ∧ rt'.executionResult = some outcome) ∧
    (rt.phase ≠ .configured → ∀ engines w,
      (rt.call (.run engines)).run w = ((rt, .refused rt.whyIdle), w)) ∧
    (rt.phase = .disposed → ∀ w,
      (rt.call .outputWindow).run w = ((rt, .refused (.disposed rt.execId)), w) ∧
        (rt.call .outputStream).run w = ((rt, .refused (.disposed rt.execId)), w)) ∧
    (∀ c w, (c.isRun = true → rt.phase ≠ .configured) →
      ((rt.call c).run w).1.1.phase = (if c.isDispose then .disposed else rt.phase) ∧
        ((rt.call c).run w).1.1.execId = rt.execId ∧ ((rt.call c).run w).1.1.left = rt.left ∧
        ((rt.call c).run w).1.2.isEnded = false ∧ Idle w ((rt.call c).run w).2) ∧
    (new.answers calls).countP Answer.isEnded ≤ 1 ∧
    (∀ before w engines later, calls = before ++ (w, .run engines) :: later →
      (new.after before).phase = .configured →
      rt.left = (((new.after before).call (.run engines)).run w).1.1.left) ∧
    ((∀ c ∈ calls, c.2.isRun = false) → rt.left = (none, "", none)) := by
  intro new rt
  have hnew : new.phase.IsSettled := Or.inl rfl
  refine ⟨isSettled_after hnew calls, run_of_configured, run_of_ne_configured, output_of_disposed,
    fun c w hq => call_of_quiet hq w, countP_answers_le_one new calls, ?_, left_after_of_no_run calls⟩
  rintro before w engines later rfl hp
  obtain ⟨rt', outcome, w', hrun, hphase, -⟩ := run_of_configured hp engines w
  have hne : rt'.phase ≠ .configured := by
    rw [hphase]
    exact Phase.ofOutcome_ne_configured outcome
  have hrt : rt = (((new.after before).call (.run engines)).run w).1.1.after later :=
    after_append new before _
  rw [hrt, hrun]
  exact left_after hne later

end Runtime

end HostedScripts
