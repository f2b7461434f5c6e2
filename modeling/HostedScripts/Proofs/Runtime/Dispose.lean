import HostedScripts.Proofs.Runtime.Attached
import HostedScripts.Proofs.Runtime.Disposal

/-! # Disposing of a run

Disposing of a run gives up its stream and everything of its host, and nothing else. Whatever state a runtime
is in, what is left of it is told by `Runtime.disposed`, and disposing of that again changes nothing at all
(`dispose_disposed`). In the registry the stream of the run goes with its handle (`Registry.without`), and the
streams of others stay under their handles (`stream?_without`): the handle of a runtime resolves to its own
stream or to nothing (`Session.Dated`), but for generations that have wrapped around
(`Session.occupied_wrapping`). -/

namespace HostedScripts

open Output (Handle Registry)

/-! ### The registry -/

namespace Output

variable {r : Registry} {h k : Handle} {m n : Nat} {execId : String}

namespace Registry

/-- The registry without the stream that somebody had. -/
def without (r : Registry) : Option (Handle × Nat) → Registry
  | none => r
  | some (h, n) => { r with streams := (r.streams.remove h).1, streamHolders := r.streamHolders.erase n }

theorem without_eq (r : Registry) (own : Option (Handle × Nat)) :
    r.without own = { r with streams := (r.without own).streams, streamHolders := (r.without own).streamHolders } := by
  rcases own with - | ⟨h, n⟩ <;> rfl

theorem isHeld_without (hmn : m ≠ n) (r : Registry) (h : Handle) :
    (r.without (some (h, n))).isHeld m = r.isHeld m := by
  rw [Bool.eq_iff_iff, isHeld_iff, isHeld_iff]
  exact List.mem_erase_of_ne hmn

/-- **The streams of others stay under their handles.** -/
theorem stream?_without (ha : r.Assigned execId h n) (hk : k ≠ h) :
    (r.without (some (h, n))).stream? k = r.stream? k := by
  have hget : (r.without (some (h, n))).streams.get? k = r.streams.get? k := Arena.get?_remove_of_ne r.streams hk
  unfold stream?
  rw [hget]
  cases hm : r.streams.get? k with
  | none => rfl
  | some m =>
    -- giving the stream up takes one of its holders; what another handle resolves to has all of its own
    have hmn : m ≠ n := by
      rintro rfl
      exact hk (ha.listed k hm)
    rw [Option.filter_some, Option.filter_some, isHeld_without hmn]

theorem stream?_without_self (r : Registry) (h : Handle) (n : Nat) : (r.without (some (h, n))).stream? h = none := by
  have hget : (r.without (some (h, n))).streams.get? h = none := Arena.get?_remove_self r.streams h
  unfold stream?
  rw [hget]
  rfl

/-- What goes off the list is what the handle resolves to. -/
theorem mem_entries_without (hs : r.Sound) (h : Handle) (n : Nat) :
    m ∈ (r.without (some (h, n))).streams.entries ↔ m ∈ r.streams.entries ∧ r.streams.get? h ≠ some m := by
  rw [Arena.mem_entries_iff_get?, Arena.mem_entries_iff_get?]
  show (∃ k, (r.streams.remove h).1.get? k = some m) ↔ _
  constructor
  · rintro ⟨k, hk⟩
    by_cases hkh : k = h
    · rw [hkh, Arena.get?_remove_self] at hk
      cases hk
    · rw [Arena.get?_remove_of_ne _ hkh] at hk
      exact ⟨⟨k, hk⟩, fun hm => hkh (hs.stream_handle_unique hk hm)⟩
  · rintro ⟨⟨k, hk⟩, hne⟩
    have hkh : k ≠ h := by
      rintro rfl
      exact hne hk
    exact ⟨k, (Arena.get?_remove_of_ne r.streams hkh).trans hk⟩

theorem Assigned.get?_of_mem (ha : r.Assigned execId h n) (hn : n ∈ r.streams.entries) :
    r.streams.get? h = some n := by
  obtain ⟨k, hk⟩ := Arena.mem_entries_iff_get?.mp hn
  obtain rfl : k = h := ha.listed k hk
  exact hk

theorem not_mem_entries_without (hs : r.Sound) (ha : r.Assigned execId h n) :
    n ∉ (r.without (some (h, n))).streams.entries := by
  intro hmem
  obtain ⟨hlisted, hne⟩ := (mem_entries_without hs h n).mp hmem
  exact hne (ha.get?_of_mem hlisted)

theorem mem_entries_without_issued (hs : r.Sound) (ha : r.Assigned execId h n) (hi : r.Issued h n) :
    m ∈ (r.without (some (h, n))).streams.entries ↔ m ∈ r.streams.entries ∧ m ≠ n := by
  rw [mem_entries_without hs]
  refine and_congr_right fun hm => not_congr ⟨fun hget => hi.eq_of_get? hget, ?_⟩
  rintro rfl
  exact ha.get?_of_mem hm

end Registry

end Output

/-! ### The runtime -/

namespace Runtime

variable {rt : Runtime} {w : World}

theorem dispose_eq (rt : Runtime) (w : World) :
    ∃ told, (rt.call .dispose).run w =
      ((rt.disposed, .done), { w with outputs := w.outputs.without rt.stream, told := told }) := by
  obtain ⟨told, hcall⟩ := rt.call_dispose w
  have hclosed : (rt.closeStream.run w).2 = { w with outputs := w.outputs.without rt.stream } := by
    rcases hst : rt.stream with - | ⟨h, n⟩
    · rw [closeStream_of_none hst]
      rfl
    · rw [closeStream_of_some hst, Registry.releaseStream_fst]
      rfl
  rw [hclosed] at hcall
  exact ⟨told, hcall⟩

/-- **Disposing of a run again changes nothing.** -/
theorem dispose_disposed (rt : Runtime) (w : World) :
    (rt.disposed.call .dispose).run w = ((rt.disposed, .done), w) := by
  have htold : w.told ++ ([] : List Event) = w.told := List.append_nil _
  show ((rt.disposed, Answer.done), { w with told := w.told ++ [] }) = _
  rw [htold]

end Runtime

namespace Session

variable {s : Session} {i : Nat} {rt : Runtime}

theorem perform_dispose (hrt : s.runtime? i = some rt) :
    ∃ told, s.perform (.call i .dispose) = { s with
      world := { s.world with outputs := s.outputs.without rt.stream, told := told }
      runtimes := s.runtimes.set i (some rt.disposed) } := by
  obtain ⟨told, hcall⟩ := rt.dispose_eq s.world
  refine ⟨told, ?_⟩
  rw [perform_call _ hrt, hcall]
  rfl

theorem runtime?_dispose (hrt : s.runtime? i = some rt) (j : Nat) :
    (s.perform (.call i .dispose)).runtime? j = if j = i then some rt.disposed else s.runtime? j := by
  obtain ⟨told, ht⟩ := perform_dispose hrt
  rw [ht]
  exact runtime?_set s _ i j _ (lt_length_of_runtime? hrt)

theorem perform_dispose_again (hrt : s.runtime? i = some rt) :
    (s.perform (.call i .dispose)).perform (.call i .dispose) = s.perform (.call i .dispose) := by
  obtain ⟨told, ht⟩ := perform_dispose hrt
  have hself : (s.perform (.call i .dispose)).runtime? i = some rt.disposed := by
    rw [runtime?_dispose hrt, if_pos rfl]
  have hset : (s.perform (.call i .dispose)).runtimes.set i (some rt.disposed) =
      (s.perform (.call i .dispose)).runtimes := by
    rw [ht]
    exact List.set_set ..
  rw [perform_call _ hself, Runtime.dispose_disposed]
  dsimp only
  rw [hset]

theorem after_dispose (hrt : s.runtime? i = some rt) (n : Nat) :
    s.after (List.replicate (n + 1) (.call i .dispose)) = s.perform (.call i .dispose) := by
  show (s.perform (.call i .dispose)).after (List.replicate n (.call i .dispose)) = s.perform (.call i .dispose)
  induction n with
  | zero => rfl
  | succ n ih =>
    show ((s.perform (.call i .dispose)).perform (.call i .dispose)).after (List.replicate n (.call i .dispose)) = _
    rw [perform_dispose_again hrt, ih]

end Session

namespace Session

variable {s : Session} {g : UInt32} {n : Nat}

/-- The host makes a stream in the first slot and releases it again, some times; the slot has a generation at
first. -/
def rounds : Nat → UInt32 → List Operation
  | 0, _ => []
  | k + 1, g => .ask (.streamFor "" 1) :: .ask (.releaseStream ⟨0, g⟩) :: rounds k (g + 1)

/-- A session in which the only slot for streams is empty and has a generation, `n` streams were made, and the
first runtime keeps the first handle of the slot. -/
structure Vacant (s : Session) (g : UInt32) (n : Nat) : Prop where
  streams : s.outputs.streams = ⟨[⟨g, none⟩], [0]⟩
  opened : s.outputs.opened.length = n
  own : s.streamOf 0 = some (⟨0, 0⟩, 0)

/-- A session in which that slot holds the last stream that was made, which the host asked for. -/
structure Occupied (s : Session) (g : UInt32) (n : Nat) : Prop where
  streams : s.outputs.streams = ⟨[⟨g, some n⟩], []⟩
  opened : s.outputs.opened.length = n + 1
  own : s.streamOf 0 = some (⟨0, 0⟩, 0)
  handed : (⟨0, g⟩, n) ∈ s.handles

theorem Vacant.occupied (hv : s.Vacant g n) (execId : String) :
    (s.perform (.ask (.streamFor execId 1))).Occupied g n := by
  have hstreams : (s.outputs.reclaim.1.streams.insert s.outputs.opened.length) =
      (⟨[⟨g, some n⟩], []⟩, ⟨0, g⟩) := by
    rw [Registry.reclaim, hv.streams, hv.opened]
    rfl
  rw [perform_ask rfl]
  refine ⟨?_, ?_, hv.own, ?_⟩
  · exact congrArg Prod.fst hstreams
  · show (s.outputs.opened ++ [_]).length = n + 1
    rw [List.length_append, hv.opened]
    rfl
  · have hgiven : handed s.outputs (.streamFor execId 1) = [(⟨0, g⟩, n)] := by
      show [((s.outputs.reclaim.1.streams.insert s.outputs.opened.length).2, s.outputs.opened.length)] = _
      rw [hstreams, hv.opened]
    rw [hgiven]
    exact List.mem_append_right _ (List.mem_singleton_self _)

theorem Occupied.vacant (ho : s.Occupied g n) :
    (s.perform (.ask (.releaseStream ⟨0, g⟩))).Vacant (g + 1) (n + 1) := by
  have hpermits : s.permits (.releaseStream ⟨0, g⟩) = true := by
    have hown : s.handles.any (·.1 = ⟨0, g⟩) = true :=
      List.any_eq_true.mpr ⟨_, ho.handed, decide_eq_true rfl⟩
    rw [permits, hown, Bool.or_true]
  have hstreams : (s.outputs.releaseStream ⟨0, g⟩).1 =
      { s.outputs with streams := ⟨[⟨g + 1, none⟩], [0]⟩ } := by
    rw [Registry.releaseStream_fst, ho.streams]
    simp [Output.Arena.remove, Output.Arena.get?, Output.Slot.freed]
  rw [perform_ask hpermits]
  exact ⟨congrArg Registry.streams hstreams,
    (congrArg (fun r : Registry => r.opened.length) hstreams).trans ho.opened, ho.own⟩

theorem vacant_rounds (hv : s.Vacant g n) (k : Nat) :
    (s.after (rounds k g)).Vacant (g + UInt32.ofNat k) (n + k) := by
  -- a round takes the slot and frees it: its generation and the next number go up by one
  induction k generalizing s g n with
  | zero =>
    have hg : g + UInt32.ofNat 0 = g := UInt32.add_zero g
    rw [hg]
    exact hv
  | succ k ih =>
    have hrest := ih (hv.occupied "").vacant
    have hg : g + 1 + UInt32.ofNat k = g + UInt32.ofNat (k + 1) := by
      rw [UInt32.ofNat_add, UInt32.add_assoc, UInt32.add_comm 1]
      rfl
    rw [hg, Nat.add_assoc, Nat.add_comm 1] at hrest
    exact hrest

theorem after_append (s : Session) (before later : List Operation) :
    s.after (before ++ later) = (s.after before).after later := by
  induction before generalizing s with
  | nil => rfl
  | cons op before ih => exact ih _

/-- A runtime asks for its stream; its console is released; and the host makes and releases so many streams in
the slot that the next one has the handle of the runtime. -/
def wrapping : List Operation :=
  [.make { (default : ScriptData) with commandUniqueId := "a" } .empty, .call 0 .outputStream,
    .ask (.releaseOutput "a")] ++ (rounds (2 ^ 32 - 1) 1 ++ [.ask (.streamFor "host" 1)])

theorem occupied_wrapping : ((start default).after wrapping).Occupied 0 (2 ^ 32) := by
  unfold wrapping
  rw [after_append, after_append]
  have hvacant : ((start default).after [.make { (default : ScriptData) with commandUniqueId := "a" } .empty,
      .call 0 .outputStream, .ask (.releaseOutput "a")]).Vacant 1 1 := ⟨rfl, rfl, rfl⟩
  have hrounds := vacant_rounds hvacant (2 ^ 32 - 1)
  -- the slot is back in the generation that it had when the runtime asked for its stream
  have hg : (1 : UInt32) + UInt32.ofNat (2 ^ 32 - 1) = 0 := by decide
  have hn : 1 + (2 ^ 32 - 1) = 2 ^ 32 := by decide
  rw [hg, hn] at hrounds
  exact hrounds.occupied "host"

/-- The host asks for a console, and a runtime of another command for its stream: their handles have the same
numbers. -/
def alikeHandles : List Operation :=
  [.ask (.consoleFor ⟨"a", "", "", false⟩), .make default .empty, .call 0 .outputStream]

end Session

end HostedScripts
