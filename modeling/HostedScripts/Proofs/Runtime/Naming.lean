import HostedScripts.Report
import HostedScripts.Proofs.Runtime.Steps

/-! # What runs are named from

A world names its session, and gives ids to runs one after the other (`World.naming`). Ids are given by
`Act.freshId` and nowhere else: whatever a runtime does keeps what runs are named from, and so does running a
script from beginning to end (`Act.keepsNaming_runScript`). An act keeps it if its parts do
(`Act.keepsNaming_bind`), so there is one lemma for each act of a runtime. -/

namespace HostedScripts

/-- What a session and its runs are named from. -/
def World.naming (w : World) : String × Nat × Nat := (w.session, w.seed, w.issued)

namespace Act

/-- An act that keeps what runs are named from. -/
def KeepsNaming {α : Type} (act : Act α) : Prop := ∀ w, (act.run w).2.naming = w.naming

section Rules

variable {α β : Type}

theorem keepsNaming_pure (a : α) : KeepsNaming (pure a) := fun _ => rfl

theorem keepsNaming_bind {act : Act α} {next : α → Act β} (h : KeepsNaming act) (hnext : ∀ a, KeepsNaming (next a)) :
    KeepsNaming (act >>= next) := fun w => (hnext _ _).trans (h w)

theorem keepsNaming_get : KeepsNaming get := fun _ => rfl

theorem keepsNaming_tell (events : List Event) : KeepsNaming (tell events) := fun _ => rfl

theorem keepsNaming_withOutputs (f : Output.Registry → Output.Registry × α) : KeepsNaming (withOutputs f) :=
  fun _ => rfl

theorem keepsNaming_writeTo (stream : Nat) (text : String) : KeepsNaming (writeTo stream text) := fun _ => rfl

theorem keepsNaming_forM {act : α → Act PUnit} (h : ∀ a, KeepsNaming (act a)) (as : List α) :
    KeepsNaming (as.forM act) := by
  induction as with
  | nil => exact keepsNaming_pure _
  | cons a as ih => exact keepsNaming_bind (h a) fun _ => ih

end Rules

end Act

namespace Runtime

open Act

variable (rt : Runtime)

theorem keepsNaming_window : KeepsNaming rt.window := fun w =>
  window_keeps (motive := fun _ after => after.naming = w.naming) rt w rfl rfl

theorem keepsNaming_openStream (console : Nat) : KeepsNaming (rt.openStream console) := fun _ => rfl

theorem keepsNaming_closeStream : KeepsNaming rt.closeStream := fun w => by
  rcases hs : rt.stream with - | ⟨h, n⟩
  · rw [closeStream_of_none hs]
  · rw [closeStream_of_some hs]
    rfl

theorem keepsNaming_feed : KeepsNaming rt.feed := fun w =>
  feed_keeps (motive := fun _ after => after.naming = w.naming) rt w (keepsNaming_window rt w)
    (fun seen _ h => (keepsNaming_closeStream seen _).trans h)
    fun seen _ c h => (keepsNaming_openStream seen c _).trans h

theorem keepsNaming_answered {α : Type} {call : Act (Runtime × Except Refusal α)} (h : KeepsNaming call) :
    KeepsNaming (answered call) := keepsNaming_bind h fun _ => keepsNaming_pure _

theorem keepsNaming_perform (stream : Nat) (actions : List Action) : KeepsNaming (perform stream actions) := by
  induction actions with
  | nil => exact keepsNaming_pure _
  | cons action actions ih =>
    cases action with
    | said _ text => exact keepsNaming_bind (keepsNaming_writeTo stream text) fun _ => ih
    | opened | told | released => exact keepsNaming_bind (keepsNaming_tell _) fun _ => ih

theorem keepsNaming_interpret (interpreter : Interpreter) : KeepsNaming (rt.interpret interpreter) := by
  refine keepsNaming_bind rt.keepsNaming_feed fun fed => ?_
  obtain ⟨fed, stream | stream⟩ := fed
  · exact keepsNaming_pure _
  · -- only the files are changed before what happened is done
    exact fun w => keepsNaming_perform stream _ { w with files := (fed.execution interpreter w.files).files }

theorem keepsNaming_handOver (engine : EngineKind) (engines : EngineTable) :
    KeepsNaming (rt.handOver engine engines) := by
  unfold handOver
  cases engines.get? engine with
  | none => exact keepsNaming_bind (keepsNaming_tell _) fun _ => keepsNaming_pure _
  | some handler =>
    refine keepsNaming_bind rt.keepsNaming_feed fun fed => ?_
    obtain ⟨fed, e | stream⟩ := fed
    · exact keepsNaming_pure _
    · refine keepsNaming_bind (fun _ => rfl) fun _ => ?_
      refine keepsNaming_bind (keepsNaming_forM (keepsNaming_writeTo stream) _) fun _ => ?_
      exact keepsNaming_bind (keepsNaming_withOutputs _) fun _ => keepsNaming_pure _

theorem keepsNaming_execute (engine : EngineKind) (engines : EngineTable) :
    KeepsNaming (rt.execute engine engines) := by
  cases engine with
  | unknown => exact keepsNaming_bind (keepsNaming_tell _) fun _ => keepsNaming_pure _
  | script => exact rt.keepsNaming_interpret engines.interpreter
  | compiled | visual | invoke => exact rt.keepsNaming_handOver _ engines

theorem keepsNaming_carryOut (engines : EngineTable) : KeepsNaming (rt.carryOut engines) := by
  refine keepsNaming_bind keepsNaming_get fun w => ?_
  refine keepsNaming_bind (keepsNaming_tell _) fun _ => ?_
  refine keepsNaming_bind (rt.keepsNaming_execute _ engines) fun done => ?_
  obtain ⟨done, e | ending⟩ := done
  · exact keepsNaming_pure _
  · exact keepsNaming_bind (keepsNaming_tell _) fun _ => keepsNaming_pure _

theorem keepsNaming_attempt (engines : EngineTable) : KeepsNaming (rt.attempt engines) := fun w => by
  by_cases h : rt.phase = .disposed
  · rw [attempt_of_disposed h]
  · by_cases hc : rt.phase = .configured
    · rw [attempt_of_configured hc]
      exact keepsNaming_carryOut _ engines w
    · rw [attempt_of_ran h hc]

theorem keepsNaming_dispose : KeepsNaming rt.dispose := fun w => by
  obtain ⟨told, hd⟩ := dispose_run rt w
  rw [hd]
  exact rt.keepsNaming_closeStream w

end Runtime

/-- **Running a script gives no ids**, and stays in its session. -/
theorem Act.keepsNaming_runScript (engines : EngineTable) (execId : String) (captured : Environment)
    (script : ScriptData) (context : Context) :
    KeepsNaming (runScript engines execId captured script context) := by
  refine keepsNaming_bind (fun _ => rfl) fun rt => ?_
  refine keepsNaming_bind (Runtime.keepsNaming_answered (rt.keepsNaming_attempt engines)) fun answer => ?_
  cases answer with
  | error e =>
    refine keepsNaming_bind rt.keepsNaming_dispose fun _ => ?_
    exact keepsNaming_bind (keepsNaming_tell _) fun _ => keepsNaming_pure _
  | ok done =>
    refine keepsNaming_bind keepsNaming_get fun w => ?_
    refine keepsNaming_bind done.1.keepsNaming_dispose fun _ => ?_
    exact keepsNaming_bind (keepsNaming_tell _) fun _ => keepsNaming_pure _

end HostedScripts
