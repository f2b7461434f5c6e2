import HostedScripts.Proofs.Runtime.LifeCycle

/-! # What a runtime holds once it has been disposed of

A runtime that has been disposed of should hold nothing of its host (`HoldsNothing`). It can be called all
the same, and the calls that set the sender and the arguments of the event and that change the results do
not ask whether it has been disposed of. What such calls hand over is a `Handover`; disposing of the run
gives it back.

`holds_call` says what one call makes of what a disposed runtime holds, and `holds_after` what some calls
do. So a disposed runtime holds exactly what was handed over since it was last disposed of
(`disposed_holds_handedOver`), and it holds nothing exactly if that is nothing. -/

namespace HostedScripts

/-- The hosts of a sender and no others. -/
def Hosts.ofSenderOnly (sender : Option HostHandle) : Hosts where
  application := ofSender sender .application
  controlledApplication := ofSender sender .controlledApplication
  uiApplication := ofSender sender .uiApplication
  uiControlledApplication := ofSender sender .uiControlledApplication

namespace Runtime

/-- A runtime that holds nothing of its host. -/
structure HoldsNothing (rt : Runtime) : Prop where
  application : rt.application = none
  uiApplication : rt.uiApplication = none
  controlledApplication : rt.hosts.controlledApplication = none
  uiControlledApplication : rt.hosts.uiControlledApplication = none
  eventSender : rt.context.eventSender = none
  eventArgs : rt.context.eventArgs = none
  command : rt.context.command = none
  searchPaths : rt.context.searchPaths = []
  arguments : rt.context.arguments = []
  results : rt.results = none

/-- What a host hands over to a runtime by calling it. -/
structure Handover where
  sender : Option HostHandle
  args : Option Value
  results : Option (Dictionary String)

namespace Handover

/-- Nothing is handed over. -/
def nothing : Handover := ⟨none, none, none⟩

/-- What is handed over after one more call. -/
def add (h : Handover) : Call → Handover
  | .setEventSender (some (.host handle)) => { h with sender := some handle }
  | .setEventArgs args => { h with args := args }
  | .editResults edit => { h with results := some (edit (h.results.getD [])) }
  | .dispose => nothing
  | .setEventSender (some (.unrecognized _)) | .setEventSender none | .readEngine | .outputWindow
  | .outputStream | .run _ => h

end Handover

/-- What is handed over by some calls since the last one that disposes of the run. -/
def handedOver (calls : List (World × Call)) : Handover :=
  calls.foldl (fun h call => h.add call.2) .nothing

/-- A runtime that holds of its host what was handed over, and nothing else. -/
structure Holds (rt : Runtime) (h : Handover) : Prop where
  hosts : rt.hosts = .ofSenderOnly h.sender
  direct : rt.context.application = none ∧ rt.context.controlledApplication = none ∧
    rt.context.uiApplication = none ∧ rt.context.uiControlledApplication = none
  command : rt.context.command = none
  searchPaths : rt.context.searchPaths = []
  arguments : rt.context.arguments = []
  eventSender : rt.context.eventSender = h.sender
  eventArgs : rt.context.eventArgs = h.args
  results : rt.results = h.results

variable {rt : Runtime} {h : Handover}

/-- A runtime with nothing handed over holds nothing, and the other way round. -/
theorem Holds.holdsNothing_iff (hh : rt.Holds h) : rt.HoldsNothing ↔ h = .nothing := by
  constructor
  · intro hn
    have hsender : h.sender = none := hh.eventSender.symm.trans hn.eventSender
    have hargs : h.args = none := hh.eventArgs.symm.trans hn.eventArgs
    have hresults : h.results = none := hh.results.symm.trans hn.results
    cases h
    subst hsender hargs hresults
    rfl
  · rintro rfl
    have hui : rt.uiApplication = none := by
      unfold uiApplication
      rw [hh.command, hh.hosts]
      rfl
    exact ⟨by rw [application, hui, hh.hosts]; rfl, hui, by rw [hh.hosts]; rfl, by rw [hh.hosts]; rfl,
      hh.eventSender, hh.eventArgs, hh.command, hh.searchPaths, hh.arguments, hh.results⟩

theorem ofContext_of_direct {c : Context} (hc : c.application = none ∧ c.controlledApplication = none ∧
    c.uiApplication = none ∧ c.uiControlledApplication = none) :
    Hosts.ofContext c = .ofSenderOnly c.eventSender := by
  obtain ⟨h1, h2, h3, h4⟩ := hc
  unfold Hosts.ofContext Hosts.ofSenderOnly
  rw [h1, h2, h3, h4]
  rfl

theorem Holds.setEventSender (hh : rt.Holds h) (sender : Option EventSender) (w : World) :
    ((rt.setEventSender sender).run w).1.Holds (h.add (.setEventSender sender)) := by
  have hsame : Hosts.ofContext rt.context = .ofSenderOnly h.sender := by
    rw [ofContext_of_direct hh.direct, hh.eventSender]
  rcases sender with - | ⟨handle⟩ | ⟨typeName⟩
  · exact ⟨hsame, hh.direct, hh.command, hh.searchPaths, hh.arguments, hh.eventSender, hh.eventArgs,
      hh.results⟩
  · exact ⟨ofContext_of_direct (c := rt.context.setEventSender (some (.host handle))) hh.direct,
      hh.direct, hh.command, hh.searchPaths, hh.arguments, rfl, hh.eventArgs, hh.results⟩
  · exact ⟨hsame, hh.direct, hh.command, hh.searchPaths, hh.arguments, hh.eventSender, hh.eventArgs,
      hh.results⟩

/-- **Disposing of a run gives everything back.** -/
theorem holds_dispose (rt : Runtime) (w : World) : (rt.dispose.run w).1.Holds .nothing := by
  obtain ⟨told, hd⟩ := dispose_run rt w
  rw [hd]
  exact ⟨rfl, ⟨rfl, rfl, rfl, rfl⟩, rfl, rfl, rfl, rfl, rfl, rfl⟩

/-- **What one call makes of what a disposed runtime holds.** -/
theorem holds_call (hp : rt.phase = .disposed) (hh : rt.Holds h) (c : Call) (w : World) :
    ((rt.call c).run w).1.1.Holds (h.add c) := by
  cases c with
  | setEventSender sender => exact hh.setEventSender sender w
  | setEventArgs args =>
    exact ⟨hh.hosts, hh.direct, hh.command, hh.searchPaths, hh.arguments, hh.eventSender, rfl,
      hh.results⟩
  | readEngine =>
    exact ⟨hh.hosts, hh.direct, hh.command, hh.searchPaths, hh.arguments, hh.eventSender, hh.eventArgs,
      hh.results⟩
  | outputWindow => rw [(output_of_disposed hp w).1]; exact hh
  | outputStream => rw [(output_of_disposed hp w).2]; exact hh
  | editResults edit =>
    refine ⟨hh.hosts, hh.direct, hh.command, hh.searchPaths, hh.arguments, hh.eventSender, hh.eventArgs,
      ?_⟩
    show some (edit (rt.results.getD [])) = some (edit (h.results.getD []))
    rw [hh.results]
  | run engines =>
    rw [run_of_ne_configured (by rw [hp]; decide)]
    exact hh
  | dispose => exact holds_dispose rt w

/-- Only disposing of a run leaves it disposed of that was not. -/
theorem isDispose_of_disposed {c : Call} {w : World} (hp : rt.phase ≠ .disposed)
    (hc : ((rt.call c).run w).1.1.phase = .disposed) : c = .dispose := by
  rcases run_or_quiet rt c with ⟨engines, rfl, hconf⟩ | hq
  · obtain ⟨rt', outcome, w', hrun, hphase, -⟩ := run_of_configured hconf engines w
    rw [hrun, hphase] at hc
    cases outcome <;> cases hc
  · rw [(call_of_quiet hq w).1] at hc
    cases c with
    | dispose => rfl
    | setEventSender | setEventArgs | readEngine | outputWindow | outputStream | editResults | run =>
      exact absurd hc hp

theorem holds_after (hh : rt.phase = .disposed → rt.Holds h) (calls : List (World × Call)) :
    (rt.after calls).phase = .disposed →
      (rt.after calls).Holds (calls.foldl (fun h call => h.add call.2) h) := by
  induction calls generalizing rt h with
  | nil => exact hh
  | cons call calls ih =>
    refine ih fun hc => ?_
    by_cases hp : rt.phase = .disposed
    · exact holds_call hp (hh hp) call.2 call.1
    · obtain ⟨w, c⟩ := call
      obtain rfl := isDispose_of_disposed hp hc
      exact holds_dispose rt w

/-- **What a disposed runtime holds.** Take a runtime as it is made, after any calls. If it has been disposed
of then it holds of its host exactly what was handed over since it was last disposed of: the last sender of an
event that was recognized, whose host it gives out, the last arguments of an event, and the results that were
changed. It holds nothing exactly if nothing was handed over since. -/
theorem disposed_holds_handedOver (execId : String) (captured : Environment) (script : ScriptData)
    (context : Context) (start : World) (calls : List (World × Call)) :
    let rt := ((make execId captured script context).run start).1.after calls
    rt.phase = .disposed →
      rt.Holds (handedOver calls) ∧ (rt.HoldsNothing ↔ handedOver calls = .nothing) := by
  intro rt hp
  have hh : rt.Holds (handedOver calls) := holds_after (fun hnew => by cases hnew) calls hp
  exact ⟨hh, hh.holdsNothing_iff⟩

/-- A host for tests. -/
def sampleHost : HostHandle := ⟨.application, ⟨"Studio", "2024", none⟩⟩

/-- A runtime that is disposed of twice, with a sender set in between. -/
def disposedAgain : List (World × Call) :=
  [(default, .dispose), (default, .setEventSender (some (.host sampleHost))), (default, .dispose)]

/-- Disposing of a run again gives up the sender that was set in between. -/
theorem disposed_holds_handedOver_again :
    let rt := ((make "" default default .empty).run default).1.after disposedAgain
    rt.phase = .disposed ∧ rt.Holds .nothing ∧ rt.HoldsNothing := by
  have h := disposed_holds_handedOver "" default default .empty default disposedAgain rfl
  exact ⟨rfl, h.1, h.2.mpr rfl⟩

/-- **A disposed runtime may hold something of its host**: the sender of an event that is set afterwards, and
results. -/
theorem disposed_holds_something :
    let rt := ((make "" default default .empty).run default).1.after
      [(default, .dispose), (default, .setEventSender (some (.host sampleHost))),
        (default, .editResults id)]
    rt.phase = .disposed ∧ rt.application = some sampleHost.host ∧ rt.results = some [] ∧
      ¬ rt.HoldsNothing := by
  refine ⟨rfl, rfl, rfl, fun h => ?_⟩
  have hnone := h.eventSender
  cases hnone

end Runtime

end HostedScripts
