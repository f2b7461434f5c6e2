import HostedScripts.Proofs.Output.History
import HostedScripts.Proofs.Output.Sparing

/-! # Handles that go stale

A registry keeps its consoles in one arena and its streams in another. In both, the generation of a slot
says how often the slot was freed, up to wrapping around: every operation moves the generation of exactly
the slots on that lose what they held (`progresses_consoles`, `progresses_streams`). So the generation of a
slot after some operations is told by counting (`timesFreed`, `generationAt_after`), and a handle of the
generation of its slot resolves, later on, exactly if the slot was freed a multiple of `2 ^ 32` times
since (`get?_after`). As long as it was not freed at all it holds what it held (`tenant?_after`).

For the handles that a registry gives out this is `resolves_by_timesFreed`. -/

namespace HostedScripts.Output.Registry

open HostedScripts.Output

/-- How often a slot of one of the arenas is freed in the course of some operations. -/
def timesFreed (arena : Registry → Arena Nat) (r : Registry) (i : Nat) : List Operation → Nat
  | [] => 0
  | op :: ops =>
    (if (arena r).frees (arena (r.perform op)) i then 1 else 0) +
      (r.perform op).timesFreed arena i ops

/-- An arena of registries in which numbers stand that are given out in order: every operation takes it to a
later state. -/
def Progresses (arena : Registry → Arena Nat) (limit : Registry → Nat) : Prop :=
  ∀ {r : Registry}, r.Sound → ∀ op, (arena r).Advances (limit r) (arena (r.perform op))

variable {r : Registry}

/-! ### The two arenas -/

theorem advances_consoles_consoleFor (hs : r.Sound) (spec : ConsoleSpec) :
    r.consoles.Advances (r.made.length + 1) (r.consoleFor spec).1.consoles := by
  cases hid : r.byOutputId.get? spec.outputId with
  | none =>
    rw [consoleFor_of_get?_eq_none hid]
    exact Arena.advances_insert hs.consoles_wellFormed le_rfl
  | some h =>
    obtain ⟨n, hn, -⟩ := hs.exists_console hid
    rw [consoleFor_of_get? hid hn]
    exact .of_eq _ rfl

theorem advances_consoles_releaseConsole (hs : r.Sound) (h : Handle) :
    r.consoles.Advances (r.made.length + 1) (r.releaseConsole h).1.consoles := by
  cases hn : r.console? h with
  | none =>
    rw [releaseConsole_of_console?_eq_none hn]
    exact .of_eq _ rfl
  | some n =>
    obtain ⟨id, hid, -⟩ := hs.exists_outputId hn
    rw [hs.releaseConsole_eq hn hid]
    exact Arena.advances_remove _ r.consoles h

/-- The consoles of a registry progress. -/
theorem progresses_consoles : Progresses Registry.consoles fun r => r.made.length + 1 := by
  intro r hs op
  cases op with
  | consoleFor spec => exact advances_consoles_consoleFor hs spec
  | releaseConsole h => exact advances_consoles_releaseConsole hs h
  | releaseOutput id =>
    show r.consoles.Advances (r.made.length + 1) (r.releaseOutput id).1.consoles
    exact releaseOutput_cases id (.of_eq _ rfl) (advances_consoles_releaseConsole hs)
  | releaseStream h => exact .of_eq _ (by rw [perform, releaseStream_fst])
  | write stream text => exact .of_eq _ (quiet_write r stream text).sameLists.consoles
  | writeLine console execId text =>
    exact .of_eq _ (quiet_writeLine r console execId text).sameLists.consoles
  | streamFor | holdConsole | dropConsole | holdStream | dropStream => exact .of_eq _ rfl

/-- An operation may take any stream away; of the rest it leaves the slots as they are. -/
theorem spares_perform (hs : r.Sound) (op : Operation) :
    r.Spares (fun _ => False) (r.perform op) := by
  have hquiet : ∀ {r'}, r.Quiet r' → r.Spares (fun _ => False) r' := spares_of_quiet _
  cases op with
  | consoleFor spec => exact spares_consoleFor hs _ spec
  | streamFor execId console => exact spares_streamFor hs _ execId console
  | releaseConsole h => exact spares_releaseConsole hs _ h
  | releaseOutput id => exact spares_releaseOutput hs _ id
  | releaseStream h => exact spares_releaseStream fun _ _ hp => hp
  | holdConsole n | dropConsole n =>
    exact hquiet ⟨⟨rfl, rfl, rfl, rfl, rfl, fun _ => rfl⟩, fun _ hm => hm⟩
  | holdStream n => exact hquiet (quiet_holdStream r n)
  | dropStream n => exact spares_dropStream fun hp => hp.elim
  | write stream text => exact hquiet (quiet_write r stream text)
  | writeLine console execId text => exact hquiet (quiet_writeLine r console execId text)

/-- The streams of a registry progress. -/
theorem progresses_streams : Progresses Registry.streams fun r => r.opened.length :=
  fun hs op => (spares_perform hs op).streams

/-! ### Counting -/

variable {arena : Registry → Arena Nat} {limit : Registry → Nat}

/-- **The generation of a slot counts how often it was freed.** -/
theorem generationAt_after (hp : Progresses arena limit) (hs : r.Sound) (i : Nat) (ops : List Operation) :
    (arena (r.after ops)).generationAt i =
      (arena r).generationAt i + UInt32.ofNat (r.timesFreed arena i ops) := by
  induction ops generalizing r with
  | nil => exact (UInt32.add_zero _).symm
  | cons op ops ih =>
    have hstep := (hp hs op).generationAt i
    have hrest := ih (sound_perform hs op)
    rw [hstep] at hrest
    unfold after at hrest ⊢
    rw [List.foldl_cons, hrest, timesFreed]
    split_ifs
    · rw [UInt32.ofNat_add, UInt32.add_assoc]
      rfl
    · rw [Nat.zero_add]

/-- **What is not freed stays.** -/
theorem tenant?_after (hs : r.Sound) {i n : Nat} (ops : List Operation)
    (hn : (arena r).tenant? i = some n) (hf : r.timesFreed arena i ops = 0) :
    (arena (r.after ops)).tenant? i = some n := by
  induction ops generalizing r with
  | nil => exact hn
  | cons op ops ih =>
    rw [timesFreed] at hf
    have hkept : ¬ (arena r).frees (arena (r.perform op)) i = true := fun h => by
      rw [if_pos h] at hf
      omega
    rw [if_neg hkept, Nat.zero_add] at hf
    refine ih (sound_perform hs op) ?_ hf
    by_contra hne
    exact hkept (Arena.frees_eq_true_iff.mpr ⟨n, hn, hne⟩)

/-- A handle of the generation of its slot resolves later on if the slot was freed a multiple of `2 ^ 32`
times, whatever the slot holds by then. -/
theorem get?_after (hp : Progresses arena limit) (hs : r.Sound) {h : Handle}
    (hg : (arena r).generationAt h.index = h.generation)
    (ops : List Operation) :
    (arena (r.after ops)).get? h =
      if 2 ^ 32 ∣ r.timesFreed arena h.index ops then (arena (r.after ops)).tenant? h.index
      else none := by
  have hwraps : h.generation + UInt32.ofNat (r.timesFreed arena h.index ops) = h.generation ↔
      2 ^ 32 ∣ r.timesFreed arena h.index ops := by
    generalize r.timesFreed arena h.index ops = f
    rw [← UInt32.toNat_inj, UInt32.toNat_add, UInt32.toNat_ofNat']
    have hlt := h.generation.toNat_lt
    omega
  rw [Arena.get?_eq, generationAt_after hp hs, hg]
  exact if_congr hwraps rfl rfl

/-- A handle that resolves goes on resolving to the same while its slot is not freed. -/
theorem get?_after_of_get? (hp : Progresses arena limit) (hs : r.Sound) {h : Handle} {n : Nat}
    (hn : (arena r).get? h = some n) (ops : List Operation) :
    let f := r.timesFreed arena h.index ops
    (arena (r.after ops)).get? h =
        (if 2 ^ 32 ∣ f then (arena (r.after ops)).tenant? h.index else none) ∧
      (f = 0 → (arena (r.after ops)).get? h = some n) := by
  intro f
  obtain ⟨hg, ht⟩ := Arena.get?_eq_some_iff.mp hn
  have hget := get?_after hp hs hg ops
  refine ⟨hget, fun hf => ?_⟩
  rw [hget, show r.timesFreed arena h.index ops = 0 from hf, if_pos (Nat.dvd_zero _)]
  exact tenant?_after hs ops ht hf

/-! ### Handles that were given out -/

theorem console?_consoleFor (hs : r.Sound) (spec : ConsoleSpec) :
    (r.consoleFor spec).1.console? (r.consoleFor spec).2.1 = some (r.consoleFor spec).2.2.1 := by
  cases hid : r.byOutputId.get? spec.outputId with
  | none =>
    rw [consoleFor_of_get?_eq_none hid]
    exact (console?_makeConsole hs spec).mpr (Or.inl ⟨rfl, rfl⟩)
  | some h =>
    obtain ⟨n, hn, -⟩ := hs.exists_console hid
    rw [consoleFor_of_get? hid hn]
    exact hn

theorem get?_streamFor (hs : r.Sound) (execId : String) (console : Nat) :
    (r.streamFor execId console).1.streams.get? (r.streamFor execId console).2.1 =
      some (r.streamFor execId console).2.2.1 :=
  Arena.get?_insert_self (Arena.wellFormed_retain hs.streams_wellFormed r.isHeld) _

theorem releaseStream_of_get?_eq_none {h : Handle} (hn : r.streams.get? h = none) :
    r.releaseStream h = (r, false) := by
  unfold releaseStream
  rw [Arena.remove_of_get?_eq_none hn]

end HostedScripts.Output.Registry
