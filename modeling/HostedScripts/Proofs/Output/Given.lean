import HostedScripts.Proofs.Output.Generations

/-! # What handles were given for

A registry gives handles for consoles and for streams, and a handle does not say which: both kinds have
slots and generations of their own, so a handle of a console may equal one of a stream
(`handle_of_both_kinds`). What a handle resolves to is told by what it was given for.

Both arenas *give* their handles (`Gives`): an operation lists nothing but what it gives. So a list of what
was given stays an account of what is listed (`Accounts.perform`, `Accounts.after`), and a handle resolves to
a number exactly if it was given for that number and the number is still listed (`get?_after_iff`). In
particular it resolves to no entry of the other kind, unless an equal handle was given for that entry
(`resolves_to_what_was_given`). -/

namespace HostedScripts.Output.Registry

open HostedScripts.Output

/-- The handle that an operation gives for a console, with the number of the console. -/
def consoleGiven? (r : Registry) : Operation → Option (Handle × Nat)
  | .consoleFor spec => some ((r.consoleFor spec).2.1, (r.consoleFor spec).2.2.1)
  | _ => none

/-- The handle that an operation gives for a stream, with the number of the stream. -/
def streamGiven? (r : Registry) : Operation → Option (Handle × Nat)
  | .streamFor execId console => some ((r.streamFor execId console).2.1, (r.streamFor execId console).2.2.1)
  | _ => none

/-- The handles that are given in the course of some operations, with the numbers they are given for. -/
def given (given? : Registry → Operation → Option (Handle × Nat)) (r : Registry) :
    List Operation → List (Handle × Nat)
  | [] => []
  | op :: ops => (given? r op).toList ++ (r.perform op).given given? ops

variable {r : Registry} {h k : Handle} {n : Nat}

/-! ### What an operation lists -/

theorem Sound.listed_of_releaseConsole (hs : r.Sound) (h : Handle) :
    ((r.releaseConsole h).1.console? k = some n → r.console? k = some n) ∧
      ((r.releaseConsole h).1.streams.get? k = some n → r.streams.get? k = some n) := by
  cases hm : r.console? h with
  | none =>
    rw [releaseConsole_of_console?_eq_none hm]
    exact ⟨id, id⟩
  | some m =>
    obtain ⟨id, hid, -⟩ := hs.exists_outputId hm
    rw [hs.releaseConsole_eq hm hid]
    exact ⟨fun hn => ((Arena.get?_remove_eq_some_iff hm).mp hn).1,
      fun hn => (Arena.get?_retain_eq_some_iff.mp hn).1⟩

theorem listed_or_given_console (hs : r.Sound) (op : Operation)
    (hn : (r.perform op).console? k = some n) :
    r.console? k = some n ∨ r.consoleGiven? op = some (k, n) := by
  have hsame : (r.perform op).consoles = r.consoles → r.console? k = some n := fun heq => by
    unfold console? at hn ⊢
    rwa [heq] at hn
  cases op with
  | consoleFor spec =>
    cases hid : r.byOutputId.get? spec.outputId with
    | none =>
      rw [perform, consoleFor_of_get?_eq_none hid] at hn
      rw [consoleGiven?, consoleFor_of_get?_eq_none hid]
      rcases (console?_makeConsole hs spec).mp hn with ⟨rfl, rfl⟩ | hn
      · exact Or.inr rfl
      · exact Or.inl hn
    | some h =>
      obtain ⟨m, hm, -⟩ := hs.exists_console hid
      rw [perform, consoleFor_of_get? hid hm] at hn
      exact Or.inl hn
  | releaseConsole h => exact Or.inl ((hs.listed_of_releaseConsole h).1 hn)
  | releaseOutput id =>
    refine Or.inl (releaseOutput_cases
      (motive := fun r' => r'.console? k = some n → r.console? k = some n) id ?_ ?_ hn)
    · exact fun hn => hn
    · exact fun h => (hs.listed_of_releaseConsole h).1
  | releaseStream h => exact Or.inl (hsame (by rw [perform, releaseStream_fst]))
  | write stream text => exact Or.inl (hsame (quiet_write r stream text).sameLists.consoles)
  | writeLine console execId text =>
    exact Or.inl (hsame (quiet_writeLine r console execId text).sameLists.consoles)
  | streamFor | holdConsole | dropConsole | holdStream | dropStream => exact Or.inl hn

theorem listed_or_given_stream (hs : r.Sound) (op : Operation)
    (hn : (r.perform op).streams.get? k = some n) :
    r.streams.get? k = some n ∨ r.streamGiven? op = some (k, n) := by
  have hsame : (r.perform op).streams = r.streams → r.streams.get? k = some n := fun heq => by
    rwa [heq] at hn
  cases op with
  | streamFor execId console =>
    rw [perform, streamFor_eq] at hn
    rw [streamGiven?, streamFor_eq]
    have hw := Arena.wellFormed_retain hs.streams_wellFormed r.isHeld
    rcases (Arena.get?_insert_eq_some_iff hw).mp hn with ⟨rfl, rfl⟩ | hn
    · exact Or.inr rfl
    · exact Or.inl (Arena.get?_retain_eq_some_iff.mp hn).1
  | consoleFor spec => exact Or.inl (hsame (streams_consoleFor hs spec))
  | releaseConsole h => exact Or.inl ((hs.listed_of_releaseConsole h).2 hn)
  | releaseOutput id =>
    refine Or.inl (releaseOutput_cases
      (motive := fun r' => r'.streams.get? k = some n → r.streams.get? k = some n) id ?_ ?_ hn)
    · exact fun hn => hn
    · exact fun h => (hs.listed_of_releaseConsole h).2
  | releaseStream h =>
    rw [perform, releaseStream_fst] at hn
    by_cases hk : k = h
    · subst hk
      rw [Arena.get?_remove_self] at hn
      cases hn
    · exact Or.inl ((Arena.get?_remove_of_ne r.streams hk).symm.trans hn)
  | write stream text => exact Or.inl (hsame (quiet_write r stream text).sameLists.streams)
  | writeLine console execId text =>
    exact Or.inl (hsame (quiet_writeLine r console execId text).sameLists.streams)
  | holdConsole | dropConsole | holdStream | dropStream => exact Or.inl hn

/-! ### What was given -/

/-- An arena of registries, in which an operation lists nothing but what it gives. -/
structure Gives (arena : Registry → Arena Nat) (limit : Registry → Nat)
    (given? : Registry → Operation → Option (Handle × Nat)) : Prop where
  progresses : Progresses arena limit
  limit_le : ∀ {r}, r.Sound → ∀ op, limit r ≤ limit (r.perform op)
  lt_limit : ∀ {r}, r.Sound → ∀ n ∈ (arena r).entries, n < limit r
  distinct : ∀ {r}, r.Sound → (arena r).Distinct
  listed : ∀ {r}, r.Sound → ∀ op {h n}, (arena (r.perform op)).get? h = some n →
    (arena r).get? h = some n ∨ given? r op = some (h, n)
  resolves : ∀ {r}, r.Sound → ∀ op {h n}, given? r op = some (h, n) →
    (arena (r.perform op)).get? h = some n

theorem gives_consoles : Gives Registry.consoles (fun r => r.made.length + 1) consoleGiven? where
  progresses := progresses_consoles
  limit_le hs op := Nat.succ_le_succ (spares_perform hs op).length_made
  lt_limit hs n hn := Nat.lt_succ_of_le (hs.console_made n hn).2
  distinct hs := hs.consoles_distinct
  listed hs op _ _ hn := listed_or_given_console hs op hn
  resolves {r} hs op h n hgiven := by
    cases op with
    | consoleFor spec =>
      cases hgiven
      exact console?_consoleFor hs spec
    | _ => cases hgiven

theorem gives_streams : Gives Registry.streams (fun r => r.opened.length) streamGiven? where
  progresses := progresses_streams
  limit_le hs op := (spares_perform hs op).length_opened
  lt_limit hs := hs.stream_opened
  distinct hs := hs.streams_distinct
  listed hs op _ _ hn := listed_or_given_stream hs op hn
  resolves {r} hs op h n hgiven := by
    cases op with
    | streamFor execId console =>
      cases hgiven
      exact get?_streamFor hs execId console
    | _ => cases hgiven

variable {arena : Registry → Arena Nat} {limit : Registry → Nat}
  {given? : Registry → Operation → Option (Handle × Nat)} {past : List (Handle × Nat)}

/-- An account of what was given: what is listed is in it, and what is in it is listed under its handle or not
at all. -/
structure Accounts (arena : Registry → Arena Nat) (limit : Registry → Nat) (past : List (Handle × Nat))
    (r : Registry) : Prop where
  mem_of_get? : ∀ {h n}, (arena r).get? h = some n → (h, n) ∈ past
  lt_limit : ∀ {h n}, (h, n) ∈ past → n < limit r
  get?_of_mem : ∀ {h n}, (h, n) ∈ past → n ∈ (arena r).entries → (arena r).get? h = some n

theorem Accounts.perform (ha : Accounts arena limit past r) (hg : Gives arena limit given?) (hs : r.Sound)
    (op : Operation) : Accounts arena limit (past ++ (given? r op).toList) (r.perform op) where
  mem_of_get? {h n} hn := by
    rcases hg.listed hs op hn with hbefore | hgiven
    · exact List.mem_append_left _ (ha.mem_of_get? hbefore)
    · exact List.mem_append_right _ (Option.mem_toList.mpr hgiven)
  lt_limit {h n} hmem := by
    rcases List.mem_append.mp hmem with hpast | hgiven
    · exact (ha.lt_limit hpast).trans_le (hg.limit_le hs op)
    · have hlisted := hg.resolves hs op (Option.mem_toList.mp hgiven)
      exact hg.lt_limit (sound_perform hs op) n (Arena.mem_entries_of_get? hlisted)
  get?_of_mem {h n} hmem hlisted := by
    rcases List.mem_append.mp hmem with hpast | hgiven
    · obtain ⟨k, hk⟩ := Arena.mem_entries_iff_get?.mp hlisted
      have hbefore := (hg.progresses hs op).get?_of_lt hk (ha.lt_limit hpast)
      have hh := ha.get?_of_mem hpast (Arena.mem_entries_of_get? hbefore)
      rwa [(hg.distinct hs).handle_unique hh hbefore]
    · exact hg.resolves hs op (Option.mem_toList.mp hgiven)

theorem Accounts.after (ha : Accounts arena limit past r) (hg : Gives arena limit given?) (hs : r.Sound)
    (ops : List Operation) : Accounts arena limit (past ++ r.given given? ops) (r.after ops) := by
  induction ops generalizing r past with
  | nil =>
    rw [given, List.append_nil]
    exact ha
  | cons op ops ih =>
    rw [given, ← List.append_assoc]
    exact ih (ha.perform hg hs op) (sound_perform hs op)

/-- **A handle resolves to what was given for it**, as long as that is listed. -/
theorem get?_after_iff (hg : Gives arena limit given?) (hempty : arena empty = .empty)
    (ops : List Operation) :
    (arena (empty.after ops)).get? h = some n ↔
      (h, n) ∈ empty.given given? ops ∧ n ∈ (arena (empty.after ops)).entries := by
  have hstart : Accounts arena limit [] empty := by
    refine ⟨fun {h n} hn => ?_, nofun, nofun⟩
    rw [hempty] at hn
    cases hn
  have ha := hstart.after hg sound_empty ops
  rw [List.nil_append] at ha
  exact ⟨fun hn => ⟨ha.mem_of_get? hn, Arena.mem_entries_of_get? hn⟩,
    fun ⟨hmem, hn⟩ => ha.get?_of_mem hmem hn⟩

/-! ### Releasing -/

/-- What a handle releases that resolves to a console: that console, and no other. -/
theorem Sound.releaseConsole_of_console? (hs : r.Sound) (hn : r.console? h = some n) :
    (r.releaseConsole h).2.1 = true ∧
      ∀ m, m ∈ (r.releaseConsole h).1.consoles.entries ↔ m ∈ r.consoles.entries ∧ m ≠ n := by
  obtain ⟨id, hid, -⟩ := hs.exists_outputId hn
  rw [hs.releaseConsole_eq hn hid]
  exact ⟨rfl, fun m => Arena.mem_entries_remove hs.consoles_distinct hn⟩

/-- What a handle releases that resolves to a stream: that stream, and no other. -/
theorem Sound.releaseStream_of_get? (hs : r.Sound) (hn : r.streams.get? h = some n) :
    (r.releaseStream h).2 = true ∧
      ∀ m, m ∈ (r.releaseStream h).1.streams.entries ↔ m ∈ r.streams.entries ∧ m ≠ n := by
  have heq : r.releaseStream h = ({ r with streams := (r.streams.remove h).1 }, true) := by
    unfold releaseStream
    rw [Arena.remove_of_get? hn]
  rw [heq]
  exact ⟨rfl, fun m => Arena.mem_entries_remove hs.streams_distinct hn⟩

end HostedScripts.Output.Registry
