import HostedScripts.Proofs.Runtime.Variables

/-! # What an event gives to a run

A host may tell a runtime at any time which event has started it: the sender and the arguments. The sender set
last that is of a known type counts (`lastSender`), and the arguments set last (`lastArgs`), also where there
are none. All that a run says of its hosts comes from the context, this sender and these arguments (`Wired`);
whatever was set before is forgotten. -/

namespace HostedScripts

open HostedScripts.Language

namespace Runtime

/-- The sender that a call sets, if it is of a known type. -/
def Call.sender? : Call → Option HostHandle
  | .setEventSender (some (.host handle)) => some handle
  | _ => none

/-- The arguments that a call sets. -/
def Call.args? : Call → Option (Option Value)
  | .setEventArgs args => some args
  | _ => none

/-- The last sender of a known type; at first, that of the context. -/
def lastSender (context : Context) (calls : List (World × Call)) : Option HostHandle :=
  (calls.filterMap (·.2.sender?)).getLast?.or context.eventSender

/-- The arguments given last; at first, those of the context. -/
def lastArgs (context : Context) (calls : List (World × Call)) : Option Value :=
  (calls.filterMap (·.2.args?)).getLast?.getD context.eventArgs

end Runtime

/-- The host of each kind that a context itself gives. -/
def Context.direct (c : Context) : HostKind → Option Host
  | .application => c.application
  | .controlledApplication => c.controlledApplication
  | .uiApplication => c.uiApplication
  | .uiControlledApplication => c.uiControlledApplication

/-- The host of each kind. -/
def Hosts.slot (hosts : Hosts) : HostKind → Option Host
  | .application => hosts.application
  | .controlledApplication => hosts.controlledApplication
  | .uiApplication => hosts.uiApplication
  | .uiControlledApplication => hosts.uiControlledApplication

theorem Hosts.slot_ofContext (c : Context) (kind : HostKind) :
    (Hosts.ofContext c).slot kind =
      match c.direct kind, c.eventSender with
      | some h, _ => some h
      | none, some sender => if sender.kind = kind then some sender.host else none
      | none, none => none := by
  have hslot : (Hosts.ofContext c).slot kind = (c.direct kind).or (ofSender c.eventSender kind) := by
    cases kind <;> exact Option.orElse_eq_or
  rw [hslot]
  cases c.direct kind with
  | some h => rfl
  | none =>
    cases c.eventSender with
    | none => rfl
    | some sender => by_cases hkind : sender.kind = kind <;> simp [ofSender, hkind]

namespace Runtime

/-- A runtime with a context but for the sender and the arguments of the event, and with the hosts that this
gives. -/
structure Wired (context : Context) (sender : Option HostHandle) (args : Option Value) (rt : Runtime) :
    Prop where
  context_eq : rt.context = { context with eventSender := sender, eventArgs := args }
  hosts_eq : rt.hosts = .ofContext rt.context

namespace Wired

variable {context : Context} {sender : Option HostHandle} {args : Option Value} {rt rt' : Runtime}
  {w : World}

theorem of_eq (h : Wired context sender args rt) (hcontext : rt'.context = rt.context)
    (hhosts : rt'.hosts = rt.hosts) : Wired context sender args rt' :=
  ⟨hcontext.trans h.context_eq, by rw [hhosts, hcontext, h.hosts_eq]⟩

theorem equipped (h : Wired context sender args rt) (he : rt.Equipped rt') :
    Wired context sender args rt' :=
  h.of_eq he.context he.hosts

theorem call (h : Wired context sender args rt) {c : Call} (hc : c.isDispose = false) :
    Wired context (c.sender?.or sender) (c.args?.getD args) ((rt.call c).run w).1.1 := by
  cases c with
  | setEventSender new =>
    refine ⟨?_, rfl⟩
    show rt.context.setEventSender new = _
    rw [h.context_eq]
    match new with
    | some (.host handle) => rfl
    | some (.unrecognized typeName) => rfl
    | none => rfl
  | setEventArgs new =>
    refine ⟨?_, ?_⟩
    · show { rt.context with eventArgs := new } = _
      rw [h.context_eq]
      rfl
    · exact h.hosts_eq
  | readEngine | editResults edit => exact h.of_eq rfl rfl
  | outputWindow => exact h.equipped (equipped_window rt w)
  | outputStream => exact h.equipped (equipped_feed rt w)
  | run engines =>
    by_cases hphase : rt.phase = .configured
    · obtain ⟨begun, -, rt', ending, w', hrun, hfed⟩ := run_eq hphase engines w
      have hfedWired : Wired context sender args rt' :=
        (h.of_eq rfl rfl : Wired context sender args { rt.pinned w.files with phase := .running }).equipped
          hfed.equipped
      rw [hrun]
      exact hfedWired.of_eq rfl rfl
    · rw [run_of_ne_configured hphase]
      exact h
  | dispose => cases hc

theorem getLast?_filterMap_cons {α β : Type _} (f : α → Option β) (x : α) (xs : List α) :
    ((x :: xs).filterMap f).getLast? = (xs.filterMap f).getLast?.or (f x) := by
  cases hx : f x with
  | none => rw [List.filterMap_cons_none hx, Option.or_none]
  | some y =>
    rw [List.filterMap_cons_some hx, List.getLast?_cons]
    cases (xs.filterMap f).getLast? <;> rfl

/-- After some calls those count that were set last. -/
theorem after (h : Wired context sender args rt) {calls : List (World × Call)}
    (hcalls : ∀ c ∈ calls, c.2.isDispose = false) :
    Wired context ((calls.filterMap (·.2.sender?)).getLast?.or sender)
      ((calls.filterMap (·.2.args?)).getLast?.getD args) (rt.after calls) := by
  -- what counts for the calls that are left is what the first one sets, or else what counted before
  induction calls generalizing rt sender args with
  | nil => exact h
  | cons c calls ih =>
    obtain ⟨hc, hrest⟩ := List.forall_mem_cons.mp hcalls
    rw [getLast?_filterMap_cons, getLast?_filterMap_cons, Option.or_assoc, Option.getD_or]
    exact ih (h.call hc) hrest

end Wired

theorem application_eq (rt : Runtime) :
    rt.application = rt.uiApplication.or (rt.hosts.slot .application) := by
  unfold application
  exact Option.orElse_eq_or

theorem hostHandle_of_application {rt : Runtime} {h : Host} (hh : rt.application = some h) :
    rt.hostHandle = some ⟨if rt.uiApplication.isSome then .uiApplication else .application, h⟩ := by
  unfold application at hh
  unfold hostHandle
  cases hui : rt.uiApplication with
  | some ui =>
    rw [hui] at hh
    cases hh
    rfl
  | none =>
    rw [hui] at hh
    have happlication : rt.hosts.application = some h := hh
    rw [happlication]
    rfl

theorem hostHandle_of_no_application {rt : Runtime} (hh : rt.application = none) :
    rt.hostHandle = ((rt.hosts.slot .controlledApplication).map (⟨.controlledApplication, ·⟩)).or
      ((rt.hosts.slot .uiControlledApplication).map (⟨.uiControlledApplication, ·⟩)) := by
  rw [application_eq, Option.or_eq_none_iff] at hh
  obtain ⟨hui, happlication⟩ := hh
  have happlication : rt.hosts.application = none := happlication
  unfold hostHandle
  rw [hui, happlication]
  simp only [Option.orElse_eq_orElse, Option.orElse_eq_or, Option.map_none, Option.none_or]
  rfl

/-- **Event wiring and host precedence.** Take a runtime as it is made, after any calls but disposal, and the
sender and the arguments that count. A host of each kind is there if the context gives it, or else if the
sender is of that kind. The command's application comes before the one with a user interface, and this before
the plain one. The run is that of an event handler if there is a sender or arguments. The script finds the
application, as what it is, or else one that starts. -/
theorem event_wiring (execId : String) (captured : Environment) (script : ScriptData) (context : Context)
    (start : World) (calls : List (World × Call)) (hcalls : ∀ c ∈ calls, c.2.isDispose = false) :
    let rt := ((make execId captured script context).run start).1.after calls
    let sender := lastSender context calls
    (∀ kind, rt.hosts.slot kind =
      match context.direct kind, sender with
      | some h, _ => some h
      | none, some s => if s.kind = kind then some s.host else none
      | none, none => none) ∧
    rt.uiApplication = (match context.command with
      | some command => some command.uiApplication
      | none => rt.hosts.slot .uiApplication) ∧
    rt.application = rt.uiApplication.or (rt.hosts.slot .application) ∧
    (rt.kind = .eventHandler ↔ sender.isSome ∨ (lastArgs context calls).isSome) ∧
    (∀ h, rt.application = some h → rt.hostHandle =
      some ⟨if rt.uiApplication.isSome then .uiApplication else .application, h⟩) ∧
    (rt.application = none → rt.hostHandle =
      ((rt.hosts.slot .controlledApplication).map (⟨.controlledApplication, ·⟩)).or
        ((rt.hosts.slot .uiControlledApplication).map (⟨.uiControlledApplication, ·⟩))) ∧
    (rt.executor.scope rt.sourceFile rt.vars).held? "__host__" =
      some (.fixed (rt.hostHandle.elim .unit .host)) := by
  intro rt sender
  have hnew : Wired context context.eventSender context.eventArgs
      ((make execId captured script context).run start).1 := ⟨rfl, rfl⟩
  have hwired : Wired context sender (lastArgs context calls) rt := hnew.after hcalls
  refine ⟨fun kind => ?_, ?_, rt.application_eq, ?_, fun h => hostHandle_of_application,
    hostHandle_of_no_application, rt.held?_scope_run "__host__"⟩
  · rw [hwired.hosts_eq, Hosts.slot_ofContext, hwired.context_eq]
    cases kind <;> rfl
  · unfold uiApplication
    rw [hwired.context_eq]
    rfl
  · unfold kind
    rw [hwired.context_eq, ← Bool.or_eq_true]
    split_ifs with hevent
    · exact iff_of_true rfl hevent
    · exact iff_of_false nofun hevent

/-- A host. -/
def hostNamed (name : String) : Host := ⟨name, "1", none⟩

/-- An application is the sender, then an object of an unknown type, then an application that starts; there
are arguments, and then none. -/
def wiringCalls : List (World × Call) :=
  [(default, .setEventSender (some (.host ⟨.application, hostNamed "a"⟩))),
    (default, .setEventArgs (some (.int 1))),
    (default, .setEventSender (some (.unrecognized "window"))),
    (default, .setEventSender (some (.host ⟨.controlledApplication, hostNamed "b"⟩))),
    (default, .setEventSender none), (default, .setEventArgs none)]

theorem event_wiring_replaced :
    (∀ c ∈ wiringCalls, c.2.isDispose = false) ∧
      let rt := ((make "" (.capture "" fun _ => none) (.forScript ⟨"a.rhai"⟩) .empty).run default).1.after
        wiringCalls
      rt.hosts.slot .application = none ∧ rt.kind = .eventHandler ∧
        rt.hostHandle = some ⟨.controlledApplication, hostNamed "b"⟩ := by
  have hcalls : ∀ c ∈ wiringCalls, c.2.isDispose = false := by simp [wiringCalls, Call.isDispose]
  obtain ⟨hslot, -, happlication, hkind, -, hstarting, -⟩ := event_wiring ""
    (.capture "" fun _ => none) (.forScript ⟨"a.rhai"⟩) .empty default wiringCalls hcalls
  have hnone := happlication
  rw [hslot] at hnone
  refine ⟨hcalls, hslot .application, hkind.mpr (Or.inl rfl), ?_⟩
  rw [hstarting hnone, hslot, hslot]
  rfl

end Runtime

end HostedScripts
