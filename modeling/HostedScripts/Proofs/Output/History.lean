import HostedScripts.Proofs.Output.Registry

/-! # Histories of a registry

An `Operation` is something done to a registry from outside: asking for consoles and streams, releasing
them through handles or by the id of a command, taking and letting go of references, and writing. Nothing
is asked of the arguments: handles may be stale, and numbers need not have been given out. `after` is the
registry after some operations.

* `sound_after`: the lists of a registry agree with each other after any operations.
* `length_slots_after`: there are as many slots for consoles as consoles were ever listed at once.
* `representation_after`: both together, from the empty registry on. -/

namespace HostedScripts.Output

/-- Something done to a registry from outside: consoles and streams are asked for and released, references to
them are taken and let go, and texts and lines are written. -/
inductive Operation where
  | consoleFor (spec : ConsoleSpec)
  | streamFor (execId : String) (console : Nat)
  | releaseConsole (h : Handle)
  | releaseOutput (outputId : String)
  | releaseStream (h : Handle)
  | holdConsole (n : Nat)
  | dropConsole (n : Nat)
  | holdStream (n : Nat)
  | dropStream (n : Nat)
  | write (stream : Nat) (text : String)
  | writeLine (console : Nat) (execId text : String)

namespace Registry

variable {r : Registry}

/-- The registry after an operation. -/
def perform (r : Registry) : Operation → Registry
  | .consoleFor spec => (r.consoleFor spec).1
  | .streamFor execId console => (r.streamFor execId console).1
  | .releaseConsole h => (r.releaseConsole h).1
  | .releaseOutput id => (r.releaseOutput id).1
  | .releaseStream h => (r.releaseStream h).1
  | .holdConsole n => r.holdConsole n
  | .dropConsole n => r.dropConsole n
  | .holdStream n => r.holdStream n
  | .dropStream n => r.dropStream n
  | .write stream text => (r.write stream text).1
  | .writeLine console execId text => r.writeLine console execId text

/-- The registry after some operations. -/
def after (r : Registry) (ops : List Operation) : Registry := ops.foldl perform r

/-- How many consoles are listed at once at most, before and after each of some operations. -/
def peakConsoles (r : Registry) : List Operation → Nat
  | [] => r.liveConsoles
  | op :: ops => max r.liveConsoles (peakConsoles (r.perform op) ops)

/-! ### Soundness -/

theorem sound_perform (hs : r.Sound) (op : Operation) : (r.perform op).Sound := by
  cases op with
  | consoleFor spec => exact sound_consoleFor hs spec
  | streamFor execId console => exact sound_streamFor hs execId console
  | releaseConsole h => exact sound_releaseConsole hs h
  | releaseOutput id => exact sound_releaseOutput hs id
  | releaseStream h => exact sound_releaseStream hs h
  | write stream text => exact sound_write hs stream text
  | writeLine console execId text => exact sound_writeLine hs console execId text
  | holdConsole n | dropConsole n | holdStream n | dropStream n =>
    exact hs.of_same_lists ⟨rfl, rfl, rfl, rfl, rfl, fun _ => rfl⟩

theorem sound_after (hs : r.Sound) (ops : List Operation) : (r.after ops).Sound := by
  induction ops generalizing r with
  | nil => exact hs
  | cons op ops ih => exact ih (sound_perform hs op)

/-! ### Slots for consoles -/

theorem liveConsoles_le_peakConsoles (r : Registry) (ops : List Operation) :
    r.liveConsoles ≤ r.peakConsoles ops := by
  cases ops with
  | nil => exact le_rfl
  | cons op ops => exact le_max_left _ _

theorem Sound.liveConsoles_le (hs : r.Sound) : r.liveConsoles ≤ r.consoles.slots.length := by
  have := Arena.length_entries_add_length_free hs.consoles_wellFormed
  unfold liveConsoles
  omega

theorem length_slots_releaseConsole (hs : r.Sound) (h : Handle) :
    (r.releaseConsole h).1.consoles.slots.length = r.consoles.slots.length := by
  cases hn : r.console? h with
  | none => rw [releaseConsole_of_console?_eq_none hn]
  | some n =>
    obtain ⟨id, hid, -⟩ := hs.exists_outputId hn
    rw [hs.releaseConsole_eq hn hid]
    exact Arena.length_slots_remove r.consoles h

theorem length_slots_releaseOutput (hs : r.Sound) (outputId : String) :
    (r.releaseOutput outputId).1.consoles.slots.length = r.consoles.slots.length :=
  releaseOutput_cases outputId rfl (length_slots_releaseConsole hs)

/-- An operation makes no slot for a console, unless all of them are taken afterwards. -/
theorem length_slots_perform (hs : r.Sound) (op : Operation) :
    (r.perform op).consoles.slots.length =
      max r.consoles.slots.length (r.perform op).liveConsoles := by
  have hle := (sound_perform hs op).liveConsoles_le
  have hsame : (r.perform op).consoles.slots.length = r.consoles.slots.length →
      (r.perform op).consoles.slots.length =
        max r.consoles.slots.length (r.perform op).liveConsoles := fun h => by omega
  cases op with
  | consoleFor spec =>
    cases hid : r.byOutputId.get? spec.outputId with
    | some h =>
      obtain ⟨n, hn, -⟩ := hs.exists_console hid
      refine hsame ?_
      rw [perform, consoleFor_of_get? hid hn]
    | none =>
      have hlive := Arena.length_entries_insert hs.consoles_wellFormed (r.made.length + 1)
      rw [perform, consoleFor_of_get?_eq_none hid]
      unfold liveConsoles
      simp only [makeConsole]
      rw [Arena.length_slots_insert hs.consoles_wellFormed, hlive]
  | releaseConsole h => exact hsame (length_slots_releaseConsole hs h)
  | releaseOutput id => exact hsame (length_slots_releaseOutput hs id)
  | releaseStream h =>
    refine hsame ?_
    rw [perform, releaseStream_fst]
  | write stream text =>
    refine hsame ?_
    rw [perform, (quiet_write r stream text).sameLists.consoles]
  | writeLine console execId text =>
    refine hsame ?_
    rw [perform, (quiet_writeLine r console execId text).sameLists.consoles]
  | streamFor | holdConsole | dropConsole | holdStream | dropStream => exact hsame rfl

/-- **There are as many slots for consoles as consoles were ever listed at once**, or as there were at the
start. -/
theorem length_slots_after (hs : r.Sound) (ops : List Operation) :
    (r.after ops).consoles.slots.length = max r.consoles.slots.length (r.peakConsoles ops) := by
  induction ops generalizing r with
  | nil =>
    have := hs.liveConsoles_le
    simp only [after, List.foldl_nil, peakConsoles]
    omega
  | cons op ops ih =>
    have hstep := length_slots_perform hs op
    have hrest := ih (sound_perform hs op)
    have hpeak := liveConsoles_le_peakConsoles (r.perform op) ops
    have hlive := hs.liveConsoles_le
    unfold after at hrest ⊢
    rw [List.foldl_cons, hrest, hstep, peakConsoles]
    omega

/-! ### What the lists say -/

theorem exists_handle {n : Nat} (hn : n ∈ r.consoles.entries) : ∃ h, r.console? h = some n := by
  obtain ⟨i, hi⟩ := Arena.mem_entries_iff.mp hn
  exact ⟨⟨i, r.consoles.generationAt i⟩, Arena.get?_eq_some_iff.mpr ⟨rfl, hi⟩⟩

theorem Sound.findConsole?_eq (hs : r.Sound) {n : Nat} (hn : n ∈ r.consoles.entries) :
    ∃ id, r.outputIdAt? n = some id ∧ r.findConsole? id = some n := by
  obtain ⟨h, hh⟩ := exists_handle hn
  obtain ⟨id, hid, hget⟩ := hs.exists_outputId hh
  refine ⟨id, hid, ?_⟩
  unfold findConsole?
  rw [hget]
  exact hh

/-- **The lists of a registry after any operations.** In both arenas the free slots are listed once each; a
command is mapped to a handle exactly when the handle resolves to its console, so that each listed console is
found by its command and no command has two; the listed consoles have different numbers that have been given
out; and there are as many commands as listed consoles, and as many slots for them as were ever listed at
once. -/
theorem representation_after (ops : List Operation) :
    let r := empty.after ops
    r.consoles.WellFormed ∧ r.streams.WellFormed ∧
    (∀ id h, r.byOutputId.get? id = some h ↔
      ∃ n, r.console? h = some n ∧ r.outputIdAt? n = some id) ∧
    (∀ n ∈ r.consoles.entries, ∃ id, r.outputIdAt? n = some id ∧ r.findConsole? id = some n ∧
      ∀ m ∈ r.consoles.entries, r.outputIdAt? m = some id → m = n) ∧
    r.consoles.entries.Nodup ∧ (∀ n ∈ r.consoles.entries, 0 < n ∧ n ≤ r.made.length) ∧
    r.liveConsoles = r.byOutputId.length ∧
    r.consoles.slots.length = empty.peakConsoles ops := by
  intro r
  have hs : r.Sound := sound_after sound_empty ops
  refine ⟨hs.consoles_wellFormed, hs.streams_wellFormed, fun id h => ?_, fun n hn => ?_,
    hs.consoles_distinct.nodup_entries, hs.console_made, hs.length_byOutputId.symm, ?_⟩
  · rw [hs.byOutputId_iff, Option.bind_eq_some_iff]
  · obtain ⟨id, hid, hfind⟩ := hs.findConsole?_eq hn
    refine ⟨id, hid, hfind, fun m hm hidm => ?_⟩
    obtain ⟨other, hother, hfindm⟩ := hs.findConsole?_eq hm
    rw [hidm] at hother
    rw [← Option.some.inj hother, hfind] at hfindm
    exact (Option.some.inj hfindm).symm
  · have h := length_slots_after sound_empty ops
    rw [h]
    exact max_eq_right (Nat.zero_le _)

end Registry

end HostedScripts.Output
