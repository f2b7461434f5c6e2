import HostedScripts.Proofs.Output.Generations
import HostedScripts.Proofs.Output.Recall
import HostedScripts.Proofs.Runtime.Isolation
import HostedScripts.Proofs.Runtime.Windows

/-! # Streams that belong to runtimes, however often slots are used

The handle that a runtime keeps for its stream may have gone stale, and after `2 ^ 32` other streams it may even
resolve again, to another stream. What holds all the same is said of the number of the stream: it was given to
a stream of the run, to no other runtime, and if it is listed then under the handle that the runtime keeps
(`Registry.Assigned`, `Session.Attached`). Numbers are never given again, so whatever is done to a registry later
leaves that as it is (`Registry.Later`), and nothing is asked of the generations of slots.

Of the handle itself a count tells (`Session.Dated`): while its slot was freed less than `2 ^ 32` times, it
resolves to the stream of the runtime or to nothing. -/

namespace HostedScripts

open Output (Handle Registry)

/-! ### Later registries -/

namespace Output.Registry

variable {r r' r'' : Registry} {h : Handle} {n : Nat} {execId : String}

/-- A registry at a later time: streams that were made stay made, and the slots of streams are in a later
state. -/
structure Later (r r' : Registry) : Prop where
  opened : r.opened <+: r'.opened
  streams : r.streams.Advances r.opened.length r'.streams

namespace Later

theorem refl (r : Registry) : r.Later r := ⟨List.prefix_rfl, .of_eq _ rfl⟩

/-- Two steps make one, unless a slot gets a new tenant in the first and loses it in the second. -/
theorem trans (hs : r.Sound) (h : r.Later r') (h' : r'.Later r'')
    (hslots : ∀ i, r'.streams.tenant? i = r.streams.tenant? i ∨ r'.streams.tenant? i = none ∨
      r''.streams.tenant? i = r'.streams.tenant? i) : r.Later r'' where
  opened := h.opened.trans h'.opened
  streams := h.streams.trans h'.streams h.opened.length_le hs.stream_opened hslots

theorem of_sameLists (h : r.SameLists r') : r.Later r' where
  opened := by rw [h.opened]
  streams := .of_eq _ h.streams

theorem then_sameLists (hs : r.Sound) (h : r.Later r') (h' : r'.SameLists r'') : r.Later r'' :=
  h.trans hs (.of_sameLists h') fun i => Or.inr (Or.inr (by rw [h'.streams]))

theorem streamAt? (h : r.Later r') {s : Stream} (hn : r.streamAt? n = some s) : r'.streamAt? n = some s := by
  obtain ⟨more, hmore⟩ := h.opened
  have hlt : n < r.opened.length := (List.getElem?_eq_some_iff.mp hn).1
  unfold Registry.streamAt? at hn ⊢
  rw [← hmore, List.getElem?_append_left hlt, hn]

theorem listed (h : r.Later r') (k : Handle) (hn : n < r.opened.length) (hk : r'.streams.get? k = some n) :
    r.streams.get? k = some n := by
  obtain ⟨hgeneration, htenant⟩ := Arena.get?_eq_some_iff.mp hk
  have hbefore := h.streams.tenant? k.index n htenant hn
  have hsame := h.streams.generationAt k.index
  rw [Arena.frees_eq_false_of_eq (htenant.trans hbefore.symm), if_neg Bool.false_ne_true] at hsame
  exact Arena.get?_eq_some_iff.mpr ⟨hsame.symm.trans hgeneration, hbefore⟩

end Later

theorem later_perform (hs : r.Sound) (op : Operation) : r.Later (r.perform op) :=
  ⟨(outside_perform hs op).1, progresses_streams hs op⟩

/-- A stream that was made for a run, and that is listed, if it is, under a handle. -/
structure Assigned (r : Registry) (execId : String) (h : Handle) (n : Nat) : Prop where
  made : ∃ c, r.streamAt? n = some ⟨execId, c⟩
  listed : ∀ k, r.streams.get? k = some n → k = h

theorem Assigned.lt_opened (ha : r.Assigned execId h n) : n < r.opened.length := by
  obtain ⟨c, hc⟩ := ha.made
  exact (List.getElem?_eq_some_iff.mp hc).1

theorem Assigned.later (ha : r.Assigned execId h n) (hr : r.Later r') : r'.Assigned execId h n where
  made := by
    obtain ⟨c, hc⟩ := ha.made
    exact ⟨c, hr.streamAt? hc⟩
  listed k hk := ha.listed k (hr.listed k ha.lt_opened hk)

theorem assigned_streamFor (hs : r.Sound) (execId : String) (console : Nat) :
    (r.streamFor execId console).1.Assigned execId (r.streamFor execId console).2.1
      (r.streamFor execId console).2.2.1 where
  made := ⟨console, List.getElem?_concat_length⟩
  listed _ hk := (sound_streamFor hs execId console).stream_handle_unique hk (get?_streamFor hs execId console)

/-- A stream that was made in a step for a run, and whose handle resolves to it. -/
structure Fresh (r r' : Registry) (execId : String) (h : Handle) (n : Nat) : Prop where
  assigned : r'.Assigned execId h n
  new : r.opened.length ≤ n
  listed : r'.streams.get? h = some n

theorem Fresh.then_sameLists (hf : r.Fresh r' execId h n) (hr : r'.SameLists r'') : r.Fresh r'' execId h n :=
  ⟨hf.assigned.later (.of_sameLists hr), hf.new, by rw [hr.streams]; exact hf.listed⟩

end Output.Registry

/-! ### Runtimes -/

namespace Runtime

variable {rt rt' : Runtime} {w w' : World} {n : Nat}

theorem later_window (rt : Runtime) (hs : w.outputs.Sound) :
    w.outputs.Later (rt.window.run w).2.outputs ∧ (rt.window.run w).2.outputs.streams = w.outputs.streams :=
  window_keeps (motive := fun _ after => w.outputs.Later after.outputs ∧ after.outputs.streams = w.outputs.streams)
    rt w ⟨.refl _, rfl⟩ ⟨Registry.later_perform hs (.consoleFor (rt.consoleSpec (rt.engineIn w.files))),
      Registry.streams_consoleFor hs _⟩

theorem later_closeStream (rt : Runtime) (hs : w.outputs.Sound) :
    w.outputs.Later (rt.closeStream.run w).2.outputs ∧
      ∀ i, (rt.closeStream.run w).2.outputs.streams.tenant? i = w.outputs.streams.tenant? i ∨
        (rt.closeStream.run w).2.outputs.streams.tenant? i = none := by
  rcases hst : rt.stream with - | ⟨h, n⟩
  · rw [closeStream_of_none hst]
    exact ⟨.refl _, fun i => Or.inl rfl⟩
  · rw [closeStream_of_some hst]
    refine ⟨(Registry.later_perform hs (.releaseStream h)).then_sameLists hs (Registry.sameLists_dropStream _ n),
      fun i => ?_⟩
    rw [Registry.releaseStream_fst]
    exact Output.Arena.tenant?_remove_eq_or _ h i

/-- What a runtime keeps that asks for its stream: what it kept before, or a new stream that is made for its
run. -/
structure Renews (rt : Runtime) (r : Registry) (rt' : Runtime) (r' : Registry) : Prop where
  later : r.Later r'
  stream : ∀ h n, rt'.stream = some (h, n) → rt.stream = some (h, n) ∨ r.Fresh r' rt.execId h n

theorem Renews.of_stream (hr : w.outputs.Later w'.outputs)
    (hstream : ∀ h n, rt'.stream = some (h, n) → rt.stream = some (h, n)) :
    rt.Renews w.outputs rt' w'.outputs :=
  ⟨hr, fun h n hn => Or.inl (hstream h n hn)⟩

/-- A step in which no list changes, after a runtime has asked for its stream. -/
theorem Renews.then_sameLists {r r' r'' : Registry} (hs : r.Sound) (hr : rt.Renews r rt' r')
    (hsame : r'.SameLists r'') : rt.Renews r rt' r'' :=
  ⟨hr.later.then_sameLists hs hsame, fun h n hn => (hr.stream h n hn).imp_right fun hnew =>
    hnew.then_sameLists hsame⟩

/-- A runtime that asks for its stream is given the number of the stream that it keeps from then on. -/
theorem feed_renews (hs : w.outputs.Sound) (hf : rt.feed.run w = ((rt', .ok n), w')) :
    (∃ h, rt'.stream = some (h, n)) ∧ rt.Renews w.outputs rt' w'.outputs := by
  by_cases hphase : rt.phase = .disposed
  · rw [feed_of_disposed hphase] at hf
    cases hf
  · obtain ⟨seen, c, before, hw⟩ := exists_window rt w hphase
    obtain ⟨hlater, hslots⟩ := later_window rt hs
    have hsound : (rt.window.run w).2.outputs.Sound := sound_window hs
    have hstream : seen.stream = rt.stream := by
      have hkept := window_keeps (motive := fun seen _ => seen.stream = rt.stream) rt w rfl rfl
      rwa [hw] at hkept
    have hid := (equipped_window rt w).execId
    rw [hw] at hlater hslots hsound hid
    rcases hn : seen.streamTo before.outputs c with - | ⟨k, m⟩
    · obtain ⟨hclosed, hfreed⟩ := later_closeStream seen hsound
      have hsoundClosed : (seen.closeStream.run before).2.outputs.Sound := sound_closeStream hsound
      rw [feed_of_not_current hw hn] at hf
      dsimp only at hf
      rw [openStream_run] at hf
      generalize (seen.closeStream.run before).2 = closed at hf hclosed hfreed hsoundClosed
      cases hf
      have hopened := Registry.later_perform hsoundClosed (.streamFor seen.execId c)
      have hnew := hclosed.trans hsound hopened fun i => (hfreed i).imp_right Or.inl
      refine ⟨⟨_, rfl⟩, hlater.trans hs hnew fun i => Or.inl (by rw [hslots]), fun h n hkept => Or.inr ?_⟩
      cases hkept
      rw [← hid]
      exact ⟨Registry.assigned_streamFor hsoundClosed seen.execId c,
        (hlater.opened.trans hclosed.opened).length_le, Registry.get?_streamFor hsoundClosed seen.execId c⟩
    · rw [feed_of_current hw hn] at hf
      cases hf
      have hsome := (streamTo_eq_some_iff.mp hn).1
      exact ⟨⟨k, hsome⟩, .of_stream hlater fun h n hkept => hstream ▸ hkept⟩

theorem renews_attempt (rt : Runtime) (hs : w.outputs.Sound) (engines : EngineTable) :
    rt.Renews w.outputs ((rt.attempt engines).run w).1.1 ((rt.attempt engines).run w).2.outputs := by
  by_cases h : rt.phase = .disposed
  · rw [attempt_of_disposed h]
    exact .of_stream (.refl _) fun _ _ hn => hn
  by_cases hc : rt.phase = .configured
  · rw [attempt_of_configured hc]
    obtain ⟨rt', ending, begun, w', hrun, hbegun, hfed⟩ :=
      exists_carryOut { rt.pinned w.files with phase := .running } w (by simp) engines
    rw [hrun]
    rw [← hbegun] at hs ⊢
    rcases hfed with ⟨rfl, hout⟩ | ⟨n, fed, hf, hq⟩
    · exact ⟨by rw [hout]; exact .refl _, fun _ _ hn => Or.inl hn⟩
    · obtain ⟨-, hrenews⟩ := feed_renews hs hf
      exact ⟨(hrenews.then_sameLists hs hq.sameLists).later, (hrenews.then_sameLists hs hq.sameLists).stream⟩
  · rw [attempt_of_ran h hc]
    exact .of_stream (.refl _) fun _ _ hn => hn

/-- Every call leaves a runtime the stream that it had, or a new one of its run. -/
theorem renews_call (rt : Runtime) (hs : w.outputs.Sound) (c : Call) :
    rt.Renews w.outputs ((rt.call c).run w).1.1 ((rt.call c).run w).2.outputs := by
  cases c with
  | setEventSender | setEventArgs | readEngine | editResults => exact .of_stream (.refl _) fun _ _ hn => hn
  | outputWindow =>
    refine .of_stream (later_window rt hs).1 fun h n hn => ?_
    have hkept := window_keeps (motive := fun seen _ => seen.stream = rt.stream) rt w rfl rfl
    exact hkept ▸ hn
  | outputStream =>
    by_cases hphase : rt.phase = .disposed
    · rw [(output_of_disposed hphase w).2]
      exact .of_stream (.refl _) fun _ _ hn => hn
    · obtain ⟨rt', n, w', hf⟩ := exists_feed rt w hphase
      rw [call_outputStream hf]
      exact (feed_renews hs hf).2
  | run engines => exact renews_attempt rt hs engines
  | dispose =>
    obtain ⟨told, hcall⟩ := call_dispose rt w
    rw [hcall]
    exact .of_stream (later_closeStream rt hs).1 fun h n hn => by cases hn

theorem later_drop (rt : Runtime) (w : World) : w.outputs.Later (rt.drop.run w).2.outputs := by
  unfold drop
  rcases rt.stream with - | ⟨h, n⟩
  · exact .refl _
  · exact .of_sameLists (Registry.sameLists_dropStream _ n)

end Runtime

/-! ### Sessions -/

namespace Session

variable {s s' : Session}

/-- **The streams of runtimes are their own**: each was made for the run of its runtime, and is listed under
the handle that the runtime keeps, if it is listed. -/
structure Attached (s : Session) : Prop where
  sound : s.outputs.Sound
  assigned : ∀ i rt h n, s.runtime? i = some rt → rt.stream = some (h, n) → s.outputs.Assigned rt.execId h n
  apart : ∀ i j h k n, s.streamOf i = some (h, n) → s.streamOf j = some (k, n) → i = j

theorem Attached.assigned_streamOf (ha : s.Attached) {i n : Nat} {h : Handle} (hn : s.streamOf i = some (h, n)) :
    ∃ execId, s.outputs.Assigned execId h n := by
  obtain ⟨rt, hrt, hst⟩ := Option.bind_eq_some_iff.mp hn
  exact ⟨rt.execId, ha.assigned i rt h n hrt hst⟩

theorem Attached.lt_opened (ha : s.Attached) {i n : Nat} {h : Handle} (hn : s.streamOf i = some (h, n)) :
    n < s.outputs.opened.length := by
  obtain ⟨execId, hassigned⟩ := ha.assigned_streamOf hn
  exact hassigned.lt_opened

/-- The stream that a runtime keeps after a step was made for its run, and no other runtime has it. -/
theorem Attached.own (ha : s.Attached) {i : Nat} {rt rt' : Runtime} {r' : Registry} (hrt : s.runtime? i = some rt)
    (hrenews : rt.Renews s.outputs rt' r') {h : Handle} {n : Nat} (hn : rt'.stream = some (h, n)) :
    (∃ c, r'.streamAt? n = some ⟨rt.execId, c⟩) ∧
      ∀ j k m, j ≠ i → s.streamOf j = some (k, m) → m ≠ n := by
  rcases hrenews.stream h n hn with hbefore | hnew
  · refine ⟨((ha.assigned i rt h n hrt hbefore).later hrenews.later).made, ?_⟩
    rintro j k m hji hm rfl
    exact hji (ha.apart j i k h m hm (by rw [streamOf_of_runtime? hrt, hbefore]))
  · refine ⟨hnew.assigned.made, ?_⟩
    rintro j k m - hm rfl
    exact absurd (ha.lt_opened hm) (not_lt.mpr hnew.new)

/-! ### One operation -/

theorem later_perform (hs : s.outputs.Sound) (op : Operation) : s.outputs.Later (s.perform op).outputs := by
  refine outputs_perform_cases op (fun _ => .refl _) ?_ ?_ ?_
  · intro i c rt _ hrt
    rw [perform_call c hrt]
    exact (Runtime.renews_call rt hs c).later
  · intro i rt _ hrt
    rw [perform_drop hrt]
    exact Runtime.later_drop rt s.world
  · intro o _ _
    exact Registry.later_perform hs o

/-- The stream of a runtime after an operation: the one that it had, or a new one if the runtime was called.
-/
theorem stream_perform (hs : s.outputs.Sound) (op : Operation) {i : Nat} {rt' : Runtime} {h : Handle} {n : Nat}
    (hrt' : (s.perform op).runtime? i = some rt') (hn : rt'.stream = some (h, n)) :
    (∃ rt, s.runtime? i = some rt ∧ rt.stream = some (h, n) ∧ rt.execId = rt'.execId) ∨
      (∃ c, op = .call i c) ∧ s.outputs.Fresh (s.perform op).outputs rt'.execId h n := by
  rcases runtime?_perform s op i with hsame | ⟨-, new, hnew, -, hnone⟩ | ⟨c, rt, rfl, hrt, hcalled⟩ | ⟨-, hgone⟩
  · exact Or.inl ⟨rt', hsame.symm.trans hrt', hn, rfl⟩
  · rw [hnew] at hrt'
    cases hrt'
    rw [hnone] at hn
    cases hn
  · rw [hcalled] at hrt'
    cases hrt'
    have hid : ((rt.call c).run s.world).1.1.execId = rt.execId := (Runtime.call_same rt c s.world).2
    rw [perform_call c hrt, hid]
    exact ((Runtime.renews_call rt hs c).stream h n hn).imp (fun hbefore => ⟨rt, hrt, hbefore, rfl⟩)
      fun hnew => ⟨⟨c, rfl⟩, hnew⟩
  · rw [hgone] at hrt'
    cases hrt'

/-- Every operation leaves runtimes their streams. -/
theorem attached_perform (ha : s.Attached) (op : Operation) : (s.perform op).Attached := by
  have hlater := later_perform ha.sound op
  have horigin : ∀ {i h n}, (s.perform op).streamOf i = some (h, n) →
      s.streamOf i = some (h, n) ∨ (∃ c, op = .call i c) ∧ s.outputs.opened.length ≤ n := by
    intro i h n hn
    obtain ⟨rt', hrt', hst⟩ := Option.bind_eq_some_iff.mp hn
    refine (stream_perform ha.sound op hrt' hst).imp ?_ fun hnew => ⟨hnew.1, hnew.2.new⟩
    rintro ⟨rt, hrt, hbefore, -⟩
    rw [streamOf_of_runtime? hrt, hbefore]
  refine ⟨sound_perform ha.sound op, fun i rt' h n hrt' hn => ?_, fun i j h k n hi hj => ?_⟩
  · rcases stream_perform ha.sound op hrt' hn with ⟨rt, hrt, hbefore, hid⟩ | ⟨-, hnew⟩
    · rw [← hid]
      exact (ha.assigned i rt h n hrt hbefore).later hlater
    · exact hnew.assigned
  · rcases horigin hi with hi | ⟨⟨c, hcall⟩, hnew⟩ <;>
      rcases horigin hj with hj | ⟨⟨c', hcall'⟩, hnew'⟩
    · exact ha.apart i j h k n hi hj
    · exact absurd (ha.lt_opened hi) (not_lt.mpr hnew')
    · exact absurd (ha.lt_opened hj) (not_lt.mpr hnew)
    · rw [hcall] at hcall'
      cases hcall'
      rfl

/-! ### Histories -/

theorem attached_start (w : World) (isCareful : Bool) : (start w isCareful).Attached where
  sound := Registry.sound_empty
  assigned i rt h n hrt hn := by cases hrt
  apart i j h k n hn := by cases hn

/-- **The streams of runtimes are their own after any operations.** -/
theorem attached_after (ha : s.Attached) (ops : List Operation) : (s.after ops).Attached := by
  induction ops generalizing s with
  | nil => exact ha
  | cons op ops ih => exact ih (attached_perform ha op)

/-- The handles of runtimes, when every slot for streams has been freed some times: while that is less than `2
^ 32`, the handle of a runtime resolves to the stream of the runtime, or its generation is over. -/
structure Dated (s : Session) (freed : Nat → Nat) : Prop where
  generation : ∀ i, s.outputs.streams.generationAt i = UInt32.ofNat (freed i)
  issued : ∀ i rt h n, s.runtime? i = some rt → rt.stream = some (h, n) → freed h.index < 2 ^ 32 →
    s.outputs.Issued h n

theorem dated_perform (hs : s.outputs.Sound) {freed : Nat → Nat} (hd : s.Dated freed) (op : Operation) :
    (s.perform op).Dated fun i =>
      freed i + if s.outputs.streams.frees (s.perform op).outputs.streams i then 1 else 0 where
  generation i := by
    rw [(later_perform hs op).streams.generationAt i, hd.generation i]
    split_ifs
    · rw [UInt32.ofNat_add]
      rfl
    · rfl
  issued i rt' h n hrt' hn hbound := by
    rcases stream_perform hs op hrt' hn with ⟨rt, hrt, hbefore, -⟩ | ⟨-, hnew⟩
    · have hissued := hd.issued i rt h n hrt hbefore (by omega)
      refine Output.Arena.Issued.of_slot hissued (later_perform hs op).streams fun hfrees => ?_
      rw [if_pos hfrees] at hbound
      have hnat : (UInt32.ofNat (freed h.index)).toNat = freed h.index :=
        UInt32.toNat_ofNat_of_lt' (Nat.lt_of_succ_lt hbound)
      have hone : (1 : UInt32).toNat = 1 := rfl
      rw [hd.generation, UInt32.lt_iff_toNat_lt, UInt32.toNat_add, hnat, hone, Nat.mod_eq_of_lt hbound]
      omega
    · exact Or.inl hnew.listed

theorem dated_start (w : World) (isCareful : Bool) : (start w isCareful).Dated fun _ => 0 where
  generation i := Output.Arena.generationAt_of_le (Nat.zero_le i)
  issued i rt h n hrt := by cases hrt

/-- **After any operations a handle of a runtime that resolves does so to the stream of the runtime**, unless
its slot was freed so often that the generation wrapped around. -/
theorem dated_after (hs : s.outputs.Sound) {freed : Nat → Nat} (hd : s.Dated freed) (ops : List Operation) :
    (s.after ops).Dated fun i => freed i + s.timesFreed i ops := by
  induction ops generalizing s freed with
  | nil => exact hd
  | cons op ops ih =>
    have hrest := ih (sound_perform hs op) (dated_perform hs hd op)
    simp only [Nat.add_assoc] at hrest
    exact hrest

end Session

end HostedScripts
