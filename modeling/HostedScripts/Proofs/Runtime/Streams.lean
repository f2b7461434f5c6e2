import HostedScripts.Proofs.Output.Sparing
import HostedScripts.Proofs.Runtime.LifeCycle

/-! # What the calls of a runtime do to streams

A runtime that holds a stream in service, or none, *tends* the registry in a call (`Tends`): the registry
stays sound, all streams of others are spared, and the stream that the runtime holds afterwards is in
service and is its own or a new one. That is so for every call (`tends_call`). A runtime that is disposed
of takes its stream off the list (`not_mem_entries_dispose`). -/

namespace HostedScripts.Runtime

open Output (Handle Registry)

variable {rt rt' : Runtime} {w w' : World} {r r' r'' : Registry} {own own' : Option (Handle × Nat)}

/-- Whether a stream is not the one that somebody holds. -/
def Others (own : Option (Handle × Nat)) (n : Nat) : Prop := ∀ h, own ≠ some (h, n)

theorem not_others_self (h : Handle) (n : Nat) : ¬ Others (some (h, n)) n := fun ho => ho h rfl

/-- What somebody holds is in service. -/
def InService (own : Option (Handle × Nat)) (r : Registry) : Prop :=
  ∀ h n, own = some (h, n) → r.Serves h n

/-- A step that somebody takes with the stream that they hold: the streams of others are spared, and what is
held afterwards was held before or is new. -/
structure Tends (own : Option (Handle × Nat)) (r : Registry) (own' : Option (Handle × Nat))
    (r' : Registry) : Prop where
  sound : r'.Sound
  spares : r.Spares (Others own) r'
  listed : ∀ c ∈ r.consoles.entries, c ∈ r'.consoles.entries
  inService : InService own' r'
  origin : ∀ h n, own' = some (h, n) → own = some (h, n) ∨ r.opened.length ≤ n

theorem Tends.refl (hs : r.Sound) (hv : InService own r) : Tends own r own r :=
  ⟨hs, .refl _ r, fun _ hc => hc, hv, fun _ _ h => Or.inl h⟩

theorem InService.of_spares {p : Nat → Prop} (hv : InService own r) (hsp : r.Spares p r')
    (hp : ∀ h n, own = some (h, n) → p n) (heq : r'.streams = r.streams) : InService own r' :=
  fun h n hn => (hv h n hn).of_spares hsp (hp h n hn) (.of_eq heq)

theorem Tends.quiet (ht : Tends own r own' r') (hs : r.Sound) (hq : r'.Quiet r'') :
    Tends own r own' r'' where
  sound := ht.sound.of_same_lists hq.sameLists
  spares := ht.spares.trans hs (Registry.spares_of_quiet _ hq) fun i =>
    Or.inr (Or.inr (by rw [hq.sameLists.streams]))
  listed c hc := by
    rw [hq.sameLists.consoles]
    exact ht.listed c hc
  inService := ht.inService.of_spares (Registry.spares_of_quiet (fun _ => True) hq)
    (fun _ _ _ => trivial) hq.sameLists.streams
  origin := ht.origin

/-! ### The console -/

/-- What is known once a runtime has its console: it is listed, and no stream was touched. -/
theorem window_spares (hs : w.outputs.Sound) {c : Nat} (hw : rt.window.run w = ((rt', .ok c), w')) :
    w'.outputs.Sound ∧ (∀ p, w.outputs.Spares p w'.outputs) ∧
      (∀ c ∈ w.outputs.consoles.entries, c ∈ w'.outputs.consoles.entries) ∧
      w'.outputs.streams = w.outputs.streams ∧ c ∈ w'.outputs.consoles.entries ∧
      rt'.stream = rt.stream := by
  by_cases h : rt.phase = .disposed
  · rw [window_of_disposed h] at hw
    cases hw
  · cases hn : rt.console.bind w.outputs.console? with
    | none =>
      rw [window_of_not_listed h hn] at hw
      cases hw
      exact ⟨Registry.sound_consoleFor hs _, fun p => Registry.spares_consoleFor hs p _,
        fun c hc => Registry.listed_consoleFor hs _ hc, Registry.streams_consoleFor hs _,
        Registry.mem_entries_consoleFor hs _, rfl⟩
    | some n =>
      rw [window_of_listed h hn] at hw
      cases hw
      obtain ⟨k, -, hk⟩ := Option.bind_eq_some_iff.mp hn
      exact ⟨hs, fun p => .refl p _, fun _ hc => hc, rfl, Output.Arena.mem_entries_of_get? hk, rfl⟩

theorem tends_window (hs : w.outputs.Sound) (hv : InService rt.stream w.outputs) :
    Tends rt.stream w.outputs (rt.window.run w).1.1.stream (rt.window.run w).2.outputs := by
  by_cases h : rt.phase = .disposed
  · rw [window_of_disposed h]
    exact .refl hs hv
  · obtain ⟨rt', c, w', hw⟩ := exists_window rt w h
    obtain ⟨hs', hsp, hlisted, heq, -, hst⟩ := window_spares hs hw
    rw [hw]
    dsimp only
    rw [hst]
    exact ⟨hs', hsp _, hlisted, hv.of_spares (hsp fun _ => True) (fun _ _ _ => trivial) heq,
      fun _ _ hn => Or.inl hn⟩

/-! ### The stream -/

/-- Giving up a stream leaves those of others, and takes it off the list. -/
theorem closeStream_spares (hs : w.outputs.Sound) (hv : InService rt.stream w.outputs) :
    let r' := (rt.closeStream.run w).2.outputs
    r'.Sound ∧ w.outputs.Spares (Others rt.stream) r' ∧ r'.consoles = w.outputs.consoles ∧
      r'.opened = w.outputs.opened ∧
      (∀ i, r'.streams.tenant? i = w.outputs.streams.tenant? i ∨ r'.streams.tenant? i = none) ∧
      ∀ h n, rt.stream = some (h, n) → n ∉ r'.streams.entries := by
  rcases hst : rt.stream with - | ⟨h, n⟩
  · rw [closeStream_of_none hst]
    exact ⟨hs, .refl _ _, rfl, rfl, fun i => Or.inl rfl, fun h n hn => by cases hn⟩
  · rw [closeStream_of_some hst]
    have hserves := hv h n hst
    have hreleased := Registry.sound_releaseStream hs h
    have hown : w.outputs.Spares (Others (some (h, n))) (w.outputs.releaseStream h).1 := by
      refine Registry.spares_releaseStream fun m hm ho => ?_
      rw [hserves.issued.eq_of_get? hm] at ho
      exact not_others_self h n ho
    have hdrop : Registry.Spares (Others (some (h, n))) (w.outputs.releaseStream h).1
        ((w.outputs.releaseStream h).1.dropStream n) :=
      Registry.spares_dropStream fun ho => absurd ho (not_others_self h n)
    dsimp only
    refine ⟨hreleased.of_same_lists (Registry.sameLists_dropStream _ n),
      hown.trans hs hdrop fun i => Or.inr (Or.inr rfl), ?_⟩
    have hstreams : ((w.outputs.releaseStream h).1.dropStream n).streams =
        (w.outputs.streams.remove h).1 := by
      rw [Registry.releaseStream_fst]
      rfl
    rw [hstreams]
    refine ⟨?_, ?_, Output.Arena.tenant?_remove_eq_or _ h, ?_⟩
    · rw [Registry.releaseStream_fst]
      rfl
    · rw [Registry.releaseStream_fst]
      rfl
    · rintro h' n' hn
      cases hn
      exact hserves.not_mem_remove hs

theorem tends_feed (hs : w.outputs.Sound) (hv : InService rt.stream w.outputs) :
    Tends rt.stream w.outputs (rt.feed.run w).1.1.stream (rt.feed.run w).2.outputs := by
  by_cases h : rt.phase = .disposed
  · rw [feed_of_disposed h]
    exact .refl hs hv
  · obtain ⟨rt', c, w', hw⟩ := exists_window rt w h
    obtain ⟨hs', hsp, hlisted, heq, hc, hst⟩ := window_spares hs hw
    have hv' : InService rt.stream w'.outputs :=
      hv.of_spares (hsp fun _ => True) (fun _ _ _ => trivial) heq
    rcases hn : rt'.streamTo w'.outputs c with - | ⟨k, n⟩
    · rw [feed_of_not_current hw hn]
      rw [← hst] at hv'
      -- the stream that there was is given up before the new one is made
      obtain ⟨hclosed, hspares, hconsoles, hopened, hslots, -⟩ := closeStream_spares hs' hv'
      rw [hst] at hspares
      dsimp only
      rw [openStream_run]
      dsimp only
      generalize (rt'.closeStream.run w').2 = closed at hclosed hspares hconsoles hopened hslots
      have hnew := Registry.spares_streamFor hclosed (Others rt.stream) rt'.execId c
      refine ⟨Registry.sound_streamFor hclosed rt'.execId c, ?_, fun c hc => ?_, ?_, ?_⟩
      · refine (hsp _).trans_of_eq hs (hspares.trans hs' hnew fun i => ?_) heq
        rcases hslots i with hi | hi
        · exact Or.inl hi
        · exact Or.inr (Or.inl hi)
      · show c ∈ closed.outputs.consoles.entries
        rw [hconsoles]
        exact hlisted c hc
      · rintro k n hk
        cases hk
        exact Registry.serves_streamFor hclosed rt'.execId (hconsoles ▸ hc)
      · rintro k n hk
        cases hk
        have hlen := (hsp (Others rt.stream)).length_opened
        refine Or.inr ?_
        rw [Registry.streamFor_eq]
        dsimp only
        rw [hopened]
        exact hlen
    · rw [feed_of_current hw hn]
      dsimp only
      rw [hst]
      exact ⟨hs', hsp _, hlisted, hv', fun _ _ hk => Or.inl hk⟩

/-! ### The calls -/

theorem tends_carryOut (rt : Runtime) (hs : w.outputs.Sound) (hv : InService rt.stream w.outputs)
    (h : rt.phase ≠ .disposed) (engines : EngineTable) :
    Tends rt.stream w.outputs ((rt.carryOut engines).run w).1.1.stream
      ((rt.carryOut engines).run w).2.outputs := by
  obtain ⟨rt', ending, begun, w', hrun, hbegun, hfed⟩ := exists_carryOut rt w h engines
  have hstream : (rt'.ended ending).stream = rt'.stream := rfl
  rw [hrun]
  dsimp only
  rw [hstream]
  rw [← hbegun] at hs hv ⊢
  rcases hfed with ⟨rfl, hout⟩ | ⟨n, fed, hf, hq⟩
  · rw [hout]
    exact .refl hs hv
  · have hfeed := tends_feed hs hv
    rw [hf] at hfeed
    exact hfeed.quiet hs hq

/-- Every call of a runtime tends the registry. -/
theorem tends_call (hs : w.outputs.Sound) (hv : InService rt.stream w.outputs) (c : Call) :
    Tends rt.stream w.outputs ((rt.call c).run w).1.1.stream ((rt.call c).run w).2.outputs := by
  cases c with
  | setEventSender | setEventArgs | readEngine | editResults => exact .refl hs hv
  | outputWindow => exact tends_window hs hv
  | outputStream => exact tends_feed hs hv
  | run engines =>
    by_cases hc : rt.phase = .configured
    · have hcall : ((rt.call (.run engines)).run w).1.1 = ((rt.attempt engines).run w).1.1 := rfl
      have hworld : ((rt.call (.run engines)).run w).2 = ((rt.attempt engines).run w).2 := rfl
      rw [hcall, hworld, attempt_of_configured hc]
      exact tends_carryOut { rt.pinned w.files with phase := .running } hs hv (by simp) engines
    · rw [run_of_ne_configured hc]
      exact .refl hs hv
  | dispose =>
    obtain ⟨told, hcall⟩ := call_dispose rt w
    obtain ⟨hs', hsp, hconsoles, -⟩ := closeStream_spares hs hv
    rw [hcall]
    refine ⟨hs', hsp, fun c hc => hconsoles ▸ hc, fun h n hn => ?_, fun h n hn => ?_⟩
    · cases hn
    · cases hn

theorem tends_drop (hs : w.outputs.Sound) : Tends rt.stream w.outputs none (rt.drop.run w).2.outputs := by
  rcases hst : rt.stream with - | ⟨h, n⟩
  · unfold drop
    rw [hst]
    exact .refl hs fun h n hn => by cases hn
  · unfold drop
    rw [hst]
    refine ⟨hs.of_same_lists (Registry.sameLists_dropStream _ n),
      Registry.spares_dropStream fun ho => absurd ho (not_others_self h n),
      fun c hc => hc, fun h n hn => ?_, fun h n hn => ?_⟩
    · cases hn
    · cases hn

/-- **What others hold stays listed** when a runtime takes a step. -/
theorem Tends.stream? (ht : Tends own r own' r') {h : Handle} {n : Nat} (hv : r.Serves h n)
    (ho : Others own n) (hn : r.stream? h = some n) : r'.stream? h = some n := by
  obtain ⟨c, hf, hle, hlisted, hgone⟩ := hv.console
  rw [hv.stream?_eq hf] at hn
  split_ifs at hn with hc
  have hc' := ht.listed c hc
  obtain ⟨hgen, htenant⟩ := Output.Arena.get?_eq_some_iff.mp (hlisted hc)
  have htenant' := ht.spares.stays h.index n c ho hv.held htenant hf hle hc'
  have hgen' := ht.spares.streams.generationAt h.index
  rw [Output.Arena.frees_eq_false_of_eq (htenant'.trans htenant.symm), if_neg Bool.false_ne_true]
    at hgen'
  have hget : r'.streams.get? h = some n :=
    Output.Arena.get?_eq_some_iff.mpr ⟨hgen'.trans hgen, htenant'⟩
  unfold Registry.stream?
  rw [hget, Option.filter_some, if_pos (Registry.isHeld_iff.mpr (ht.spares.held n ho hv.held))]

/-- **What is disposed of takes its stream off the list**, whoever else holds it. -/
theorem not_mem_entries_dispose (hs : w.outputs.Sound) (hv : InService rt.stream w.outputs)
    {h : Handle} {n : Nat} (hn : rt.stream = some (h, n)) :
    n ∉ ((rt.call .dispose).run w).2.outputs.streams.entries := by
  obtain ⟨told, hcall⟩ := call_dispose rt w
  obtain ⟨-, -, -, -, -, hgone⟩ := closeStream_spares hs hv
  rw [hcall]
  exact hgone h n hn

end HostedScripts.Runtime
