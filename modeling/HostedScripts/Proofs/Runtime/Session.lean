import HostedScripts.Proofs.Output.History
import HostedScripts.Proofs.Runtime.Streams

/-! # Many runtimes and one registry

A `Session` is a host at work: its world, the runtimes that it has made, and the handles of the streams
that it asked for itself. An `Operation` makes a runtime, calls one, lets one go, asks the registry for
something, or changes the world otherwise; the operations of a session come in any order. A careful host
releases the streams that it asked for and no others, any other host releases by any handles; and all hosts
let go of the references that they and their handlers hold and no others (`permits`).

The session of a careful host is *orderly* (`Orderly`) if the stream of every runtime is in service and no two
runtimes have the same. Every operation keeps that (`orderly_perform`), as long as no slot for streams is
freed so often that its generation wraps around, so it holds of every session from the start on
(`orderly_after`). What this means for the handles of runtimes is `streams_belong_to_runtimes`. -/

namespace HostedScripts

open Output (Handle Registry ConsoleSpec)

/-- A host at work, with the runtimes that it made, unless it let them go, and with the handles of the streams
that it asked for itself. A careful host releases no streams but these. -/
structure Session where
  world : World
  runtimes : List (Option Runtime)
  handles : List (Handle × Nat)
  isCareful : Bool

namespace Session

/-- Something that happens in a session: a runtime is made, called, or let go without being disposed of; the
registry is asked for something, by the host or by whoever holds a stream; or the files and the variables of
the process change. -/
inductive Operation where
  | make (script : ScriptData) (context : Context)
  | call (i : Nat) (c : Runtime.Call)
  | drop (i : Nat)
  | ask (op : Output.Operation)
  | change (files : FileTree) (process : List (String × String))

/-- A session at its start. -/
def start (w : World) (isCareful : Bool := true) : Session :=
  ⟨{ w with outputs := .empty }, [], [], isCareful⟩

/-- The registry of a session. -/
def outputs (s : Session) : Registry := s.world.outputs

/-- The runtime with a number, unless it was let go. -/
def runtime? (s : Session) (i : Nat) : Option Runtime := s.runtimes[i]?.join

/-- The stream of the runtime with a number, and its handle. -/
def streamOf (s : Session) (i : Nat) : Option (Handle × Nat) := (s.runtime? i).bind (·.stream)

/-- The streams of all runtimes. -/
def streams (s : Session) : List Nat :=
  s.runtimes.filterMap fun rt => (rt.bind (·.stream)).map (·.2)

/-- Whether the host may ask the registry for something: if it is careful it releases its own streams only,
and it lets go of a stream only if a runtime is not the last to hold it. -/
def permits (s : Session) : Output.Operation → Bool
  | .releaseStream h => !s.isCareful || s.handles.any (·.1 = h)
  | .dropStream n => s.streams.count n < s.outputs.streamHolders.count n
  | _ => true

/-- The handles that the host gets. -/
def handed (r : Registry) : Output.Operation → List (Handle × Nat)
  | .streamFor execId console =>
    [((r.streamFor execId console).2.1, (r.streamFor execId console).2.2.1)]
  | _ => []

/-- The session after an operation; what cannot be done changes nothing. -/
def perform (s : Session) : Operation → Session
  | .make script context =>
    let making : Act Runtime := do Runtime.make (← Act.freshId) (← Act.captured) script context
    let (rt, w) := making.run s.world
    { s with world := w, runtimes := s.runtimes ++ [some rt] }
  | .call i c =>
    match s.runtime? i with
    | none => s
    | some rt =>
      let ((rt, _), w) := (rt.call c).run s.world
      { s with world := w, runtimes := s.runtimes.set i (some rt) }
  | .drop i =>
    match s.runtime? i with
    | none => s
    | some rt => { s with world := (rt.drop.run s.world).2, runtimes := s.runtimes.set i none }
  | .ask op =>
    if s.permits op then
      { s with
        world := { s.world with outputs := s.outputs.perform op }
        handles := s.handles ++ handed s.outputs op }
    else s
  | .change files process => { s with world := { s.world with files := files, process := process } }

/-- The session after some operations. -/
def after (s : Session) : List Operation → Session
  | [] => s
  | op :: ops => (s.perform op).after ops

/-- How often a slot for streams is freed in the course of some operations. -/
def timesFreed (s : Session) (i : Nat) : List Operation → Nat
  | [] => 0
  | op :: ops =>
    (if s.outputs.streams.frees (s.perform op).outputs.streams i then 1 else 0) +
      (s.perform op).timesFreed i ops

/-- The host is careful, the streams of runtimes are in service, and they are different; the host's own
handles are those of other streams. -/
structure Orderly (s : Session) : Prop where
  careful : s.isCareful = true
  sound : s.outputs.Sound
  inService : ∀ i, Runtime.InService (s.streamOf i) s.outputs
  apart : ∀ i j h k n, s.streamOf i = some (h, n) → s.streamOf j = some (k, n) → i = j
  issued : ∀ h n, (h, n) ∈ s.handles → s.outputs.Issued h n
  foreign : ∀ h n, (h, n) ∈ s.handles → n < s.outputs.opened.length ∧ ∀ i k, s.streamOf i ≠ some (k, n)

variable {s s' : Session}

/-! ### Runtimes by number -/

theorem runtime?_set (s : Session) (w : World) (i j : Nat) (rt : Option Runtime)
    (hi : i < s.runtimes.length) :
    ({ s with world := w, runtimes := s.runtimes.set i rt } : Session).runtime? j =
      if j = i then rt else s.runtime? j := by
  unfold runtime?
  rw [List.getElem?_set]
  split_ifs with h1 h2 h3
  · rfl
  · exact absurd h1.symm h2
  · exact absurd h3.symm h1
  · rfl

theorem lt_length_of_runtime? {i : Nat} {rt : Runtime} (h : s.runtime? i = some rt) :
    i < s.runtimes.length := by
  unfold runtime? at h
  by_contra hle
  rw [List.getElem?_eq_none (by omega)] at h
  cases h

theorem streamOf_of_runtime? {i : Nat} {rt : Runtime} (h : s.runtime? i = some rt) :
    s.streamOf i = rt.stream := by
  unfold streamOf
  rw [h]
  rfl

theorem mem_streams_iff {n : Nat} : n ∈ s.streams ↔ ∃ i h, s.streamOf i = some (h, n) := by
  unfold streams
  rw [List.mem_filterMap]
  constructor
  · rintro ⟨rt, hmem, hn⟩
    obtain ⟨i, hi⟩ := List.mem_iff_getElem?.mp hmem
    obtain ⟨⟨h, m⟩, hst, rfl⟩ := Option.map_eq_some_iff.mp hn
    refine ⟨i, h, ?_⟩
    unfold streamOf runtime?
    rw [hi]
    exact hst
  · rintro ⟨i, h, hi⟩
    obtain ⟨rt, hrt, hst⟩ := Option.bind_eq_some_iff.mp hi
    unfold runtime? at hrt
    refine ⟨some rt, List.mem_of_getElem? (Option.join_eq_some_iff.mp hrt), ?_⟩
    rw [Option.bind_some, hst]
    rfl

/-! ### One operation -/

theorem Orderly.lt_opened (ho : s.Orderly) {i n : Nat} {h : Handle}
    (hn : s.streamOf i = some (h, n)) : n < s.outputs.opened.length := by
  obtain ⟨c, hf, -⟩ := (ho.inService i h n hn).console
  exact Registry.lt_of_feeds? hf

theorem Orderly.of_same (ho : s.Orderly) (hcareful : s'.isCareful = s.isCareful) (hout : s'.outputs = s.outputs)
    (hst : ∀ i, s'.streamOf i = s.streamOf i) (hh : s'.handles = s.handles) : s'.Orderly where
  careful := hcareful.trans ho.careful
  sound := hout ▸ ho.sound
  inService i := by
    rw [hst, hout]
    exact ho.inService i
  apart i j := by
    rw [hst, hst]
    exact ho.apart i j
  issued := by
    rw [hh, hout]
    exact ho.issued
  foreign h n hn := by
    rw [hout]
    simp only [hst]
    exact ho.foreign h n (hh ▸ hn)

/-- A step of one runtime keeps a session orderly. -/
theorem Orderly.of_tends (ho : s.Orderly) (hcareful : s'.isCareful = s.isCareful) {i : Nat}
    {own : Option (Handle × Nat)} (ht : Runtime.Tends (s.streamOf i) s.outputs own s'.outputs)
    (hst : ∀ j, s'.streamOf j = if j = i then own else s.streamOf j) (hh : s'.handles = s.handles)
    (hw : s.outputs.NoWrap s'.outputs) : s'.Orderly where
  careful := hcareful.trans ho.careful
  sound := ht.sound
  inService j := by
    rw [hst]
    split_ifs with hj
    · exact ht.inService
    · intro h n hn
      refine (ho.inService j h n hn).of_spares ht.spares (fun k hk => ?_) hw
      exact hj (ho.apart j i h k n hn hk)
  apart j k := by
    have hnew : ∀ {l h h' n}, l ≠ i → own = some (h, n) → s.streamOf l ≠ some (h', n) := by
      intro l h h' n hl hown hn
      rcases ht.origin h n hown with hbefore | hfresh
      · exact hl (ho.apart l i h' h n hn hbefore)
      · have := ho.lt_opened hn
        omega
    intro h h' n hj hk
    rw [hst] at hj hk
    split_ifs at hj hk with hji hki hki
    · exact hji.trans hki.symm
    · exact absurd hk (hnew hki hj)
    · exact absurd hj (hnew hji hk)
    · exact ho.apart j k h h' n hj hk
  issued h n hn := (ho.issued h n (hh ▸ hn)).of_spares ht.spares hw
  foreign h n hn := by
    obtain ⟨hlt, hother⟩ := ho.foreign h n (hh ▸ hn)
    refine ⟨hlt.trans_le ht.spares.length_opened, fun j k => ?_⟩
    rw [hst]
    split_ifs with hj
    · intro hown
      rcases ht.origin k n hown with hbefore | hfresh
      · exact hother i k hbefore
      · omega
    · exact hother j k

theorem Orderly.spares_ask (ho : s.Orderly) {op : Output.Operation} (hp : s.permits op = true) :
    s.outputs.Spares (· ∈ s.streams) (s.outputs.perform op) := by
  have hquiet : ∀ {r'}, s.outputs.Quiet r' → s.outputs.Spares (· ∈ s.streams) r' :=
    Registry.spares_of_quiet _
  cases op with
  | consoleFor spec => exact Registry.spares_consoleFor ho.sound _ spec
  | streamFor execId console => exact Registry.spares_streamFor ho.sound _ execId console
  | releaseConsole h => exact Registry.spares_releaseConsole ho.sound _ h
  | releaseOutput id => exact Registry.spares_releaseOutput ho.sound _ id
  | releaseStream h =>
    have hown : s.handles.any (·.1 = h) = true := by simpa [permits, ho.careful] using hp
    obtain ⟨⟨k, n⟩, hmem, hk⟩ := List.any_eq_true.mp hown
    obtain rfl : k = h := by simpa using hk
    refine Registry.spares_releaseStream fun m hm hstream => ?_
    rw [(ho.issued k n hmem).eq_of_get? hm] at hstream
    obtain ⟨i, l, hl⟩ := mem_streams_iff.mp hstream
    exact (ho.foreign k n hmem).2 i l hl
  | holdConsole n | dropConsole n =>
    exact hquiet ⟨⟨rfl, rfl, rfl, rfl, rfl, fun _ => rfl⟩, fun _ hm => hm⟩
  | holdStream n => exact hquiet (Registry.quiet_holdStream _ n)
  | dropStream n =>
    refine Registry.spares_dropStream fun hn => ?_
    have hcount : s.streams.count n < s.outputs.streamHolders.count n := by simpa [permits] using hp
    have hpos := List.count_pos_iff.mpr hn
    omega
  | write stream text => exact hquiet (Registry.quiet_write _ stream text)
  | writeLine console execId text => exact hquiet (Registry.quiet_writeLine _ console execId text)

theorem handed_issued (hs : s.outputs.Sound) {op : Output.Operation} {h : Handle} {n : Nat}
    (hn : (h, n) ∈ handed s.outputs op) :
    (s.outputs.perform op).Issued h n ∧ n = s.outputs.opened.length ∧
      n < (s.outputs.perform op).opened.length := by
  cases op with
  | streamFor execId console =>
    obtain ⟨rfl, rfl⟩ := Prod.mk.inj (List.mem_singleton.mp hn)
    have hw := Output.Arena.wellFormed_retain hs.streams_wellFormed s.outputs.isHeld
    refine ⟨Or.inl (Output.Arena.get?_insert_self hw _), rfl, ?_⟩
    rw [Registry.perform, Registry.streamFor_eq]
    simp [Registry.openStream, Registry.reclaim]
  | _ => cases hn

/-- Something the host asks for keeps a session orderly. -/
theorem Orderly.of_ask (ho : s.Orderly) (hcareful : s'.isCareful = s.isCareful) {op : Output.Operation}
    (hp : s.permits op = true) (hout : s'.outputs = s.outputs.perform op) (hst : ∀ i, s'.streamOf i = s.streamOf i)
    (hh : s'.handles = s.handles ++ handed s.outputs op) (hw : s.outputs.NoWrap s'.outputs) :
    s'.Orderly := by
  have hsp := ho.spares_ask hp
  rw [hout] at hw
  refine ⟨hcareful.trans ho.careful, ?_, fun i => ?_, fun i j => ?_, fun h n hn => ?_, fun h n hn => ?_⟩
  · rw [hout]
    exact Registry.sound_perform ho.sound op
  · rw [hst, hout]
    intro h n hn
    exact (ho.inService i h n hn).of_spares hsp (mem_streams_iff.mpr ⟨i, h, hn⟩) hw
  · rw [hst, hst]
    exact ho.apart i j
  · rw [hout]
    rcases List.mem_append.mp (hh ▸ hn) with hold | hnew
    · exact (ho.issued h n hold).of_spares hsp hw
    · exact (handed_issued ho.sound hnew).1
  · rw [hout]
    simp only [hst]
    rcases List.mem_append.mp (hh ▸ hn) with hold | hnew
    · obtain ⟨hlt, hother⟩ := ho.foreign h n hold
      exact ⟨hlt.trans_le hsp.length_opened, hother⟩
    · obtain ⟨-, hn, hlt⟩ := handed_issued ho.sound hnew
      refine ⟨hlt, fun i k hk => ?_⟩
      have := ho.lt_opened hk
      omega

/-! ### The operations of a session -/

theorem perform_call_of_none {i : Nat} (c : Runtime.Call) (h : s.runtime? i = none) :
    s.perform (.call i c) = s := by
  simp only [perform, h]

theorem perform_call {i : Nat} {rt : Runtime} (c : Runtime.Call) (h : s.runtime? i = some rt) :
    s.perform (.call i c) = { s with
      world := ((rt.call c).run s.world).2
      runtimes := s.runtimes.set i (some ((rt.call c).run s.world).1.1) } := by
  simp only [perform, h]
  rfl

theorem perform_drop {i : Nat} {rt : Runtime} (h : s.runtime? i = some rt) :
    s.perform (.drop i) = { s with
      world := (rt.drop.run s.world).2
      runtimes := s.runtimes.set i none } := by
  simp only [perform, h]

theorem streamOf_set (w : World) {i : Nat} (j : Nat) (rt : Option Runtime)
    (hi : i < s.runtimes.length) :
    ({ s with world := w, runtimes := s.runtimes.set i rt } : Session).streamOf j =
      if j = i then rt.bind (·.stream) else s.streamOf j := by
  unfold streamOf
  rw [runtime?_set s w i j rt hi]
  split_ifs <;> rfl

theorem Orderly.tends_call (ho : s.Orderly) {i : Nat} {rt : Runtime} (c : Runtime.Call)
    (h : s.runtime? i = some rt) :
    Runtime.Tends (s.streamOf i) s.outputs ((rt.call c).run s.world).1.1.stream
      (s.perform (.call i c)).outputs := by
  have hv := ho.inService i
  rw [perform_call c h]
  rw [streamOf_of_runtime? h] at hv ⊢
  exact Runtime.tends_call ho.sound hv c

theorem Orderly.tends_drop (ho : s.Orderly) {i : Nat} {rt : Runtime} (h : s.runtime? i = some rt) :
    Runtime.Tends (s.streamOf i) s.outputs none (s.perform (.drop i)).outputs := by
  rw [perform_drop h, streamOf_of_runtime? h]
  exact Runtime.tends_drop ho.sound

theorem perform_drop_of_none {i : Nat} (h : s.runtime? i = none) : s.perform (.drop i) = s := by
  simp only [perform, h]

theorem perform_ask {op : Output.Operation} (h : s.permits op = true) :
    s.perform (.ask op) = { s with
      world := { s.world with outputs := s.outputs.perform op }
      handles := s.handles ++ handed s.outputs op } := by
  simp only [perform, h, if_true]

theorem perform_ask_of_not {op : Output.Operation} (h : ¬ s.permits op = true) :
    s.perform (.ask op) = s := by
  simp only [perform, h, if_false, Bool.false_eq_true]

/-! ### The runtimes after an operation -/

theorem runtime?_make (s : Session) (script : ScriptData) (context : Context) :
    ∃ new : Runtime, new.console = none ∧ new.stream = none ∧ ∀ i,
      (s.perform (.make script context)).runtime? i =
        if i = s.runtimes.length then some new else s.runtime? i := by
  obtain ⟨new, hruntimes, hconsole, hstream⟩ : ∃ new : Runtime,
      (s.perform (.make script context)).runtimes = s.runtimes ++ [some new] ∧
        new.console = none ∧ new.stream = none := ⟨_, rfl, rfl, rfl⟩
  refine ⟨new, hconsole, hstream, fun i => ?_⟩
  unfold runtime?
  rw [hruntimes]
  rcases Nat.lt_trichotomy i s.runtimes.length with hi | rfl | hi
  · rw [List.getElem?_append_left hi, if_neg hi.ne]
  · rw [List.getElem?_concat_length, if_pos rfl]
    rfl
  · rw [List.getElem?_eq_none (by simp; omega), List.getElem?_eq_none hi.le, if_neg hi.ne']

theorem runtime?_call {i : Nat} {rt : Runtime} (c : Runtime.Call) (h : s.runtime? i = some rt) (j : Nat) :
    (s.perform (.call i c)).runtime? j =
      if j = i then some ((rt.call c).run s.world).1.1 else s.runtime? j := by
  rw [perform_call c h]
  exact runtime?_set s _ i j _ (lt_length_of_runtime? h)

theorem runtime?_drop {i : Nat} {rt : Runtime} (h : s.runtime? i = some rt) (j : Nat) :
    (s.perform (.drop i)).runtime? j = if j = i then none else s.runtime? j := by
  rw [perform_drop h]
  exact runtime?_set s _ i j _ (lt_length_of_runtime? h)

/-- **What an operation makes of the runtime with a number**: it stays as it is, it is new, it was called, or it
was let go. -/
theorem runtime?_perform (s : Session) (op : Operation) (i : Nat) :
    (s.perform op).runtime? i = s.runtime? i ∨
      (i = s.runtimes.length ∧ ∃ new : Runtime, (s.perform op).runtime? i = some new ∧
        new.console = none ∧ new.stream = none) ∨
      (∃ c rt, op = .call i c ∧ s.runtime? i = some rt ∧
        (s.perform op).runtime? i = some ((rt.call c).run s.world).1.1) ∨
      (op = .drop i ∧ (s.perform op).runtime? i = none) := by
  cases op with
  | make script context =>
    obtain ⟨new, hconsole, hstream, hmake⟩ := runtime?_make s script context
    rw [hmake]
    split_ifs with hi
    · exact Or.inr (Or.inl ⟨hi, new, rfl, hconsole, hstream⟩)
    · exact Or.inl rfl
  | call j c =>
    cases hj : s.runtime? j with
    | none => exact Or.inl (by rw [perform_call_of_none c hj])
    | some rt =>
      rw [runtime?_call c hj]
      split_ifs with hi
      · subst hi
        exact Or.inr (Or.inr (Or.inl ⟨c, rt, rfl, hj, rfl⟩))
      · exact Or.inl rfl
  | drop j =>
    cases hj : s.runtime? j with
    | none => exact Or.inl (by rw [perform_drop_of_none hj])
    | some rt =>
      rw [runtime?_drop hj]
      split_ifs with hi
      · subst hi
        exact Or.inr (Or.inr (Or.inr ⟨rfl, rfl⟩))
      · exact Or.inl rfl
  | ask op =>
    by_cases hp : s.permits op = true
    · exact Or.inl (by rw [perform_ask hp]; rfl)
    · exact Or.inl (by rw [perform_ask_of_not hp])
  | change files process => exact Or.inl rfl

theorem streamOf_make (s : Session) (script : ScriptData) (context : Context) (j : Nat) :
    (s.perform (.make script context)).streamOf j = s.streamOf j := by
  obtain ⟨new, -, hstream, hmake⟩ := runtime?_make s script context
  unfold streamOf
  rw [hmake]
  split_ifs with hj
  · have hnone : s.runtime? j = none := by
      unfold runtime?
      rw [List.getElem?_eq_none hj.ge]
      rfl
    rw [hnone]
    exact hstream
  · rfl

/-! ### The registry after an operation -/

/-- What an operation makes of the registry: a runtime takes a step, the host asks for something, or nothing
happens. -/
@[elab_as_elim]
theorem outputs_perform_cases {motive : Registry → Prop} (op : Operation)
    (idle : (∀ o, op = .ask o → ¬ s.permits o = true) → motive s.outputs)
    (call : ∀ i c rt, op = .call i c → s.runtime? i = some rt →
      motive (s.perform (.call i c)).outputs)
    (drop : ∀ i rt, op = .drop i → s.runtime? i = some rt → motive (s.perform (.drop i)).outputs)
    (ask : ∀ o, op = .ask o → s.permits o = true → motive (s.outputs.perform o)) :
    motive (s.perform op).outputs := by
  cases op with
  | make script context => exact idle fun o h => by cases h
  | call i c =>
    cases hrt : s.runtime? i with
    | none =>
      rw [perform_call_of_none c hrt]
      exact idle fun o h => by cases h
    | some rt => exact call i c rt rfl hrt
  | drop i =>
    cases hrt : s.runtime? i with
    | none =>
      rw [perform_drop_of_none hrt]
      exact idle fun o h => by cases h
    | some rt => exact drop i rt rfl hrt
  | ask o =>
    by_cases hp : s.permits o = true
    · have hasked := ask o rfl hp
      rw [perform_ask hp]
      exact hasked
    · rw [perform_ask_of_not hp]
      refine idle fun o' h => ?_
      cases h
      exact hp
  | change files process => exact idle fun o h => by cases h

theorem Orderly.advances (ho : s.Orderly) (op : Operation) :
    s.outputs.streams.Advances s.outputs.opened.length (s.perform op).outputs.streams := by
  refine outputs_perform_cases op (fun _ => .of_eq _ rfl) ?_ ?_ ?_
  · intro i c rt _ hrt
    exact (ho.tends_call c hrt).spares.streams
  · intro i rt _ hrt
    exact (ho.tends_drop hrt).spares.streams
  · intro o _ hp
    exact (ho.spares_ask hp).streams

/-- **Every operation keeps a session orderly**, unless a generation wraps around. -/
theorem orderly_perform (ho : s.Orderly) (op : Operation)
    (hw : s.outputs.NoWrap (s.perform op).outputs) : (s.perform op).Orderly := by
  cases op with
  | make script context => exact ho.of_same rfl rfl (streamOf_make s script context) rfl
  | call i c =>
    cases hrt : s.runtime? i with
    | none => rw [perform_call_of_none c hrt]; exact ho
    | some rt =>
      refine ho.of_tends (by rw [perform_call c hrt]) (ho.tends_call c hrt) (fun j => ?_)
        (by rw [perform_call c hrt]) hw
      rw [perform_call c hrt]
      exact streamOf_set _ j _ (lt_length_of_runtime? hrt)
  | drop i =>
    cases hrt : s.runtime? i with
    | none => rw [perform_drop_of_none hrt]; exact ho
    | some rt =>
      refine ho.of_tends (by rw [perform_drop hrt]) (ho.tends_drop hrt) (fun j => ?_) (by rw [perform_drop hrt]) hw
      rw [perform_drop hrt]
      exact streamOf_set _ j _ (lt_length_of_runtime? hrt)
  | ask op =>
    by_cases hp : s.permits op = true
    · refine ho.of_ask ?_ hp ?_ (fun i => ?_) ?_ hw
      all_goals rw [perform_ask hp]
      all_goals rfl
    · rw [perform_ask_of_not hp]
      exact ho
  | change files process => exact ho.of_same rfl rfl (fun _ => rfl) rfl

/-! ### Histories -/

theorem orderly_start (w : World) : (start w).Orderly where
  careful := rfl
  sound := Registry.sound_empty
  inService i h n hn := by cases hn
  apart i j h k n hn := by cases hn
  issued h n hn := by cases hn
  foreign h n hn := by cases hn

/-- **A session stays orderly** as long as the generations do not wrap around. -/
theorem orderly_after (ho : s.Orderly) (ops : List Operation)
    (hfreed : ∀ i, (s.outputs.streams.generationAt i).toNat + s.timesFreed i ops < 2 ^ 32) :
    (s.after ops).Orderly := by
  induction ops generalizing s with
  | nil => exact ho
  | cons op ops ih =>
    obtain ⟨hw, hrest⟩ := (ho.advances op).bound hfreed
    exact ih (orderly_perform ho op hw) hrest

theorem timesFreed_le_length (s : Session) (i : Nat) (ops : List Operation) :
    s.timesFreed i ops ≤ ops.length := by
  induction ops generalizing s with
  | nil => exact le_rfl
  | cons op ops ih =>
    have h := ih (s.perform op)
    rw [timesFreed, List.length_cons]
    split_ifs <;> omega

/-- Two runtimes ask for their streams, the console of the first is released, and the slot of its stream goes
to a stream of the host. -/
def reusedSlot : List Operation :=
  let command (id : String) : ScriptData := { (default : ScriptData) with commandUniqueId := id }
  [.make (command "a") .empty, .make (command "b") .empty, .call 0 .outputStream,
    .call 1 .outputStream, .ask (.releaseOutput "a"), .ask (.streamFor "c" 2)]

end Session

end HostedScripts
