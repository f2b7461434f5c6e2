import HostedScripts.Output.Registry
import HostedScripts.Proofs.Dictionary
import HostedScripts.Proofs.Output.Arena

/-! # The lists of a registry agree with each other

A registry keeps consoles and streams in arenas and the handle of each command's console in a dictionary.
It is *sound* (`Sound`) if both arenas are well formed, no number stands in two slots, and the dictionary
maps a command to a handle exactly when the handle resolves to a console of that command. Every operation
keeps this: `sound_consoleFor`, `sound_streamFor`, `sound_releaseConsole`, `sound_releaseOutput`,
`sound_releaseStream`, and the operations that leave the lists as they are by `Sound.of_same_lists`. -/

namespace HostedScripts.Output.Registry

open HostedScripts.Output

variable {r : Registry}

/-- The command of the console with a number. -/
def outputIdAt? (r : Registry) (n : Nat) : Option String := (r.consoleAt? n).map (·.spec.outputId)

/-- The lists of consoles, streams and commands agree with each other. -/
structure Sound (r : Registry) : Prop where
  consoles_wellFormed : r.consoles.WellFormed
  streams_wellFormed : r.streams.WellFormed
  consoles_distinct : r.consoles.Distinct
  streams_distinct : r.streams.Distinct
  console_made : ∀ n ∈ r.consoles.entries, 0 < n ∧ n ≤ r.made.length
  stream_opened : ∀ n ∈ r.streams.entries, n < r.opened.length
  byOutputId_increasing : Dictionary.Increasing r.byOutputId
  byOutputId_iff : ∀ id h,
    r.byOutputId.get? id = some h ↔ (r.console? h).bind r.outputIdAt? = some id
  length_byOutputId : r.byOutputId.length = r.consoles.entries.length

/-! ### Consoles by number -/

theorem outputIdAt?_succ (r : Registry) (i : Nat) :
    r.outputIdAt? (i + 1) = r.made[i]?.map (·.spec.outputId) := rfl

theorem exists_outputIdAt? {n : Nat} (h0 : 0 < n) (hn : n ≤ r.made.length) :
    ∃ id, r.outputIdAt? n = some id := by
  obtain ⟨i, rfl⟩ := Nat.exists_eq_succ_of_ne_zero (by omega : n ≠ 0)
  rw [outputIdAt?_succ, List.getElem?_eq_getElem (by omega)]
  exact ⟨_, rfl⟩

theorem outputIdAt?_modifyConsole {n m : Nat} {f : Console → Console}
    (hf : ∀ c, (f c).spec = c.spec) : (r.modifyConsole n f).outputIdAt? m = r.outputIdAt? m := by
  cases n with
  | zero => rfl
  | succ i =>
    cases m with
    | zero => rfl
    | succ j =>
      rw [outputIdAt?_succ, outputIdAt?_succ, modifyConsole, List.getElem?_modify]
      cases r.made[j]? with
      | none => simp
      | some c => split_ifs <;> simp [hf]

theorem length_made_modifyConsole (r : Registry) (n : Nat) (f : Console → Console) :
    (r.modifyConsole n f).made.length = r.made.length := by
  cases n with
  | zero => rfl
  | succ i => exact List.length_modify ..

theorem spec_write (c : Console) (execId text : String) : (c.write execId text).spec = c.spec := by
  unfold Console.write
  generalize Console.linesOf text = lines
  induction lines generalizing c with
  | nil => rfl
  | cons line lines ih => rw [List.foldl_cons, ih]; rfl

/-! ### The same lists -/

/-- A registry that lists the same consoles, streams and commands. -/
structure SameLists (r r' : Registry) : Prop where
  consoles : r'.consoles = r.consoles
  streams : r'.streams = r.streams
  byOutputId : r'.byOutputId = r.byOutputId
  opened : r'.opened = r.opened
  length_made : r'.made.length = r.made.length
  outputIdAt? : ∀ n, r'.outputIdAt? n = r.outputIdAt? n

theorem SameLists.refl (r : Registry) : r.SameLists r := ⟨rfl, rfl, rfl, rfl, rfl, fun _ => rfl⟩

theorem SameLists.trans {r' r'' : Registry} (h : r.SameLists r') (h' : r'.SameLists r'') :
    r.SameLists r'' where
  consoles := h'.consoles.trans h.consoles
  streams := h'.streams.trans h.streams
  byOutputId := h'.byOutputId.trans h.byOutputId
  opened := h'.opened.trans h.opened
  length_made := h'.length_made.trans h.length_made
  outputIdAt? n := (h'.outputIdAt? n).trans (h.outputIdAt? n)

theorem sameLists_modifyConsole (r : Registry) (n : Nat) {f : Console → Console}
    (hf : ∀ c, (f c).spec = c.spec) : r.SameLists (r.modifyConsole n f) := by
  refine ⟨?_, ?_, ?_, ?_, length_made_modifyConsole r n f, fun m => outputIdAt?_modifyConsole hf⟩
  all_goals cases n <;> rfl

theorem sameLists_dropStream (r : Registry) (n : Nat) : r.SameLists (r.dropStream n) :=
  ⟨rfl, rfl, rfl, rfl, rfl, fun _ => rfl⟩

/-- A registry that lists the same, in which whoever held a stream still does. -/
structure Quiet (r r' : Registry) : Prop where
  sameLists : r.SameLists r'
  holders : ∀ n ∈ r.streamHolders, n ∈ r'.streamHolders

theorem Quiet.refl (r : Registry) : r.Quiet r := ⟨.refl r, fun _ hn => hn⟩

theorem Quiet.trans {r' r'' : Registry} (h : r.Quiet r') (h' : r'.Quiet r'') : r.Quiet r'' :=
  ⟨h.sameLists.trans h'.sameLists, fun n hn => h'.holders n (h.holders n hn)⟩

theorem quiet_modifyConsole (r : Registry) (n : Nat) {f : Console → Console}
    (hf : ∀ c, (f c).spec = c.spec) : r.Quiet (r.modifyConsole n f) := by
  refine ⟨sameLists_modifyConsole r n hf, fun m hm => ?_⟩
  cases n <;> exact hm

theorem quiet_write (r : Registry) (stream : Nat) (text : String) :
    r.Quiet (r.write stream text).1 := by
  unfold write
  split
  · exact .refl r
  · split_ifs
    · exact quiet_modifyConsole r _ fun c => spec_write c _ text
    · exact .refl r

theorem quiet_writeLine (r : Registry) (console : Nat) (execId text : String) :
    r.Quiet (r.writeLine console execId text) :=
  quiet_modifyConsole r console fun _ => rfl

theorem quiet_holdStream (r : Registry) (n : Nat) : r.Quiet (r.holdStream n) :=
  ⟨⟨rfl, rfl, rfl, rfl, rfl, fun _ => rfl⟩, fun _ hm => List.mem_cons_of_mem n hm⟩

/-! ### Consequences of soundness -/

theorem Sound.exists_outputId (hs : r.Sound) {h : Handle} {n : Nat} (hn : r.console? h = some n) :
    ∃ id, r.outputIdAt? n = some id ∧ r.byOutputId.get? id = some h := by
  obtain ⟨h0, hle⟩ := hs.console_made n (Arena.mem_entries_of_get? hn)
  obtain ⟨id, hid⟩ := exists_outputIdAt? h0 hle
  exact ⟨id, hid, (hs.byOutputId_iff id h).mpr (by rw [hn]; exact hid)⟩

theorem Sound.exists_console (hs : r.Sound) {id : String} {h : Handle}
    (hid : r.byOutputId.get? id = some h) : ∃ n, r.console? h = some n ∧ r.outputIdAt? n = some id :=
  Option.bind_eq_some_iff.mp ((hs.byOutputId_iff id h).mp hid)

theorem Sound.stream_handle_unique (hs : r.Sound) {h k : Handle} {n : Nat}
    (hh : r.streams.get? h = some n) (hk : r.streams.get? k = some n) : h = k :=
  hs.streams_distinct.handle_unique hh hk

/-! ### The operations -/

theorem sound_empty : empty.Sound where
  consoles_wellFormed := ⟨List.nodup_nil, fun i => by simp [empty, Arena.empty]⟩
  streams_wellFormed := ⟨List.nodup_nil, fun i => by simp [empty, Arena.empty]⟩
  consoles_distinct := fun i j n hi => by cases hi
  streams_distinct := fun i j n hi => by cases hi
  console_made := fun n hn => by cases hn
  stream_opened := fun n hn => by cases hn
  byOutputId_increasing := List.Pairwise.nil
  byOutputId_iff := fun id h => by
    simp [empty, console?, Arena.get?, Arena.empty, Dictionary.get?]
  length_byOutputId := rfl

theorem Sound.of_same_lists (hs : r.Sound) {r' : Registry} (h : r.SameLists r') : r'.Sound where
  consoles_wellFormed := h.consoles ▸ hs.consoles_wellFormed
  streams_wellFormed := h.streams ▸ hs.streams_wellFormed
  consoles_distinct := h.consoles ▸ hs.consoles_distinct
  streams_distinct := h.streams ▸ hs.streams_distinct
  console_made n hn := by
    rw [h.length_made]
    exact hs.console_made n (h.consoles ▸ hn)
  stream_opened n hn := by
    rw [h.opened]
    exact hs.stream_opened n (h.streams ▸ hn)
  byOutputId_increasing := h.byOutputId ▸ hs.byOutputId_increasing
  byOutputId_iff id k := by
    have hcon : r'.console? k = r.console? k := by unfold console?; rw [h.consoles]
    rw [h.byOutputId, hs.byOutputId_iff, hcon, funext h.outputIdAt?]
  length_byOutputId := by rw [h.byOutputId, h.consoles, hs.length_byOutputId]

theorem sound_writeLine (hs : r.Sound) (console : Nat) (execId text : String) :
    (r.writeLine console execId text).Sound :=
  hs.of_same_lists (quiet_writeLine r console execId text).sameLists

theorem sound_write (hs : r.Sound) (stream : Nat) (text : String) : (r.write stream text).1.Sound :=
  hs.of_same_lists (quiet_write r stream text).sameLists

/-! ### Consoles -/

theorem consoleFor_of_get? {spec : ConsoleSpec} {h : Handle} {n : Nat}
    (hid : r.byOutputId.get? spec.outputId = some h) (hn : r.console? h = some n) :
    r.consoleFor spec = (r, h, n, []) := by
  unfold console? at hn
  simp only [consoleFor, hid, hn]

theorem consoleFor_of_get?_eq_none {spec : ConsoleSpec}
    (hid : r.byOutputId.get? spec.outputId = none) :
    r.consoleFor spec = ((r.makeConsole spec).1, (r.makeConsole spec).2.1, (r.makeConsole spec).2.2,
      [event "created console"
        [("output_id", spec.outputId), ("instance_id", toString (r.makeConsole spec).2.2)]]) := by
  simp only [consoleFor, hid]

theorem outputIdAt?_makeConsole (r : Registry) (spec : ConsoleSpec) (m : Nat) :
    (r.makeConsole spec).1.outputIdAt? m =
      if m = r.made.length + 1 then some spec.outputId else r.outputIdAt? m := by
  cases m with
  | zero => simp [outputIdAt?, consoleAt?]
  | succ i =>
    rw [outputIdAt?_succ, outputIdAt?_succ]
    simp only [makeConsole, Nat.add_right_cancel_iff]
    split_ifs with hi
    · rw [hi, List.getElem?_concat_length]
      rfl
    · rcases Nat.lt_or_gt_of_ne hi with hi | hi
      · rw [List.getElem?_append_left hi]
      · rw [List.getElem?_eq_none (by simp; omega), List.getElem?_eq_none (by omega)]

theorem console?_makeConsole (hs : r.Sound) (spec : ConsoleSpec) {k : Handle} {n : Nat} :
    (r.makeConsole spec).1.console? k = some n ↔
      (k = (r.makeConsole spec).2.1 ∧ n = r.made.length + 1) ∨ r.console? k = some n :=
  Arena.get?_insert_eq_some_iff hs.consoles_wellFormed

theorem new_not_listed (hs : r.Sound) : r.made.length + 1 ∉ r.consoles.entries := fun hmem => by
  have := (hs.console_made _ hmem).2
  omega

theorem byOutputId_iff_makeConsole (hs : r.Sound) {spec : ConsoleSpec}
    (hid : r.byOutputId.get? spec.outputId = none) (id : String) (h : Handle) :
    (r.makeConsole spec).1.byOutputId.get? id = some h ↔
      ((r.makeConsole spec).1.console? h).bind (r.makeConsole spec).1.outputIdAt? = some id := by
  have hmade : (r.makeConsole spec).1.byOutputId =
      r.byOutputId.insert spec.outputId (r.makeConsole spec).2.1 := rfl
  have hold : ∀ {k n}, r.console? k = some n → r.outputIdAt? n ≠ some spec.outputId := by
    intro k n hk hn
    rw [(hs.byOutputId_iff spec.outputId k).mpr (by rw [hk]; exact hn)] at hid
    cases hid
  rw [hmade, Option.bind_eq_some_iff]
  constructor
  · intro hget
    by_cases hne : id = spec.outputId
    · rw [hne, Dictionary.get?_insert_self] at hget
      refine ⟨r.made.length + 1, (console?_makeConsole hs spec).mpr (Or.inl ⟨?_, rfl⟩), ?_⟩
      · exact (Option.some.inj hget).symm
      · rw [outputIdAt?_makeConsole, if_pos rfl, hne]
    · rw [Dictionary.get?_insert_of_ne hne] at hget
      obtain ⟨n, hn, hidn⟩ := hs.exists_console hget
      refine ⟨n, (console?_makeConsole hs spec).mpr (Or.inr hn), ?_⟩
      rw [outputIdAt?_makeConsole, if_neg, hidn]
      rintro rfl
      exact new_not_listed hs (Arena.mem_entries_of_get? hn)
  · rintro ⟨n, hn, hidn⟩
    rw [outputIdAt?_makeConsole] at hidn
    rcases (console?_makeConsole hs spec).mp hn with ⟨rfl, rfl⟩ | hn
    · rw [if_pos rfl] at hidn
      rw [← Option.some.inj hidn, Dictionary.get?_insert_self]
    · have hne : n ≠ r.made.length + 1 := by
        rintro rfl
        exact new_not_listed hs (Arena.mem_entries_of_get? hn)
      rw [if_neg hne] at hidn
      have hid' : id ≠ spec.outputId := by
        rintro rfl
        exact hold hn hidn
      rw [Dictionary.get?_insert_of_ne hid']
      exact (hs.byOutputId_iff id h).mpr (by rw [hn]; exact hidn)

theorem sound_makeConsole (hs : r.Sound) {spec : ConsoleSpec}
    (hid : r.byOutputId.get? spec.outputId = none) : (r.makeConsole spec).1.Sound where
  consoles_wellFormed := Arena.wellFormed_insert hs.consoles_wellFormed _
  streams_wellFormed := hs.streams_wellFormed
  consoles_distinct :=
    Arena.distinct_insert hs.consoles_wellFormed hs.consoles_distinct (new_not_listed hs)
  streams_distinct := hs.streams_distinct
  console_made n hn := by
    have hlen : (r.makeConsole spec).1.made.length = r.made.length + 1 := by simp [makeConsole]
    rw [hlen]
    rcases (Arena.mem_entries_insert hs.consoles_wellFormed).mp hn with rfl | hn
    · omega
    · have := hs.console_made n hn
      omega
  stream_opened := hs.stream_opened
  byOutputId_increasing := Dictionary.increasing_insert _ _ hs.byOutputId_increasing
  byOutputId_iff := byOutputId_iff_makeConsole hs hid
  length_byOutputId := by
    have hlist : (r.makeConsole spec).1.consoles.entries.length = r.consoles.entries.length + 1 :=
      Arena.length_entries_insert hs.consoles_wellFormed _
    rw [hlist, ← hs.length_byOutputId]
    exact Dictionary.length_insert_of_get?_eq_none _ hid

theorem sound_consoleFor (hs : r.Sound) (spec : ConsoleSpec) : (r.consoleFor spec).1.Sound := by
  cases hid : r.byOutputId.get? spec.outputId with
  | none => rw [consoleFor_of_get?_eq_none hid]; exact sound_makeConsole hs hid
  | some h =>
    obtain ⟨n, hn, -⟩ := hs.exists_console hid
    rw [consoleFor_of_get? hid hn]
    exact hs

/-! ### Streams -/

/-- The list of streams can be exchanged for any well-formed list of streams that were opened. -/
theorem Sound.with_streams (hs : r.Sound) {a : Arena Nat} (hw : a.WellFormed) (hd : a.Distinct)
    (ho : ∀ n ∈ a.entries, n < r.opened.length) : ({ r with streams := a } : Registry).Sound where
  consoles_wellFormed := hs.consoles_wellFormed
  streams_wellFormed := hw
  consoles_distinct := hs.consoles_distinct
  streams_distinct := hd
  console_made := hs.console_made
  stream_opened := ho
  byOutputId_increasing := hs.byOutputId_increasing
  byOutputId_iff := hs.byOutputId_iff
  length_byOutputId := hs.length_byOutputId

theorem sound_retainStreams (hs : r.Sound) (keep : Nat → Bool) :
    ({ r with streams := r.streams.retain keep } : Registry).Sound :=
  hs.with_streams (Arena.wellFormed_retain hs.streams_wellFormed keep)
    (Arena.distinct_retain hs.streams_distinct keep)
    fun n hn => hs.stream_opened n (Arena.mem_entries_retain.mp hn).1

/-- A stream that is new for a registry, listed and held by the one who asked for it. -/
def openStream (r : Registry) (execId : String) (console : Nat) : Registry :=
  { r with
    streams := (r.streams.insert r.opened.length).1
    opened := r.opened ++ [⟨execId, console⟩]
    streamHolders := r.opened.length :: r.streamHolders }

theorem streamFor_eq (r : Registry) (execId : String) (console : Nat) :
    r.streamFor execId console = (r.reclaim.1.openStream execId console,
      (r.reclaim.1.streams.insert r.opened.length).2, r.opened.length, r.reclaim.2) := rfl

theorem sound_openStream (hs : r.Sound) (execId : String) (console : Nat) :
    (r.openStream execId console).Sound where
  consoles_wellFormed := hs.consoles_wellFormed
  streams_wellFormed := Arena.wellFormed_insert hs.streams_wellFormed _
  consoles_distinct := hs.consoles_distinct
  streams_distinct := by
    refine Arena.distinct_insert hs.streams_wellFormed hs.streams_distinct fun hmem => ?_
    exact (hs.stream_opened _ hmem).false
  console_made := hs.console_made
  stream_opened n hn := by
    have hlen : (r.openStream execId console).opened.length = r.opened.length + 1 := by
      simp [openStream]
    rw [hlen]
    rcases (Arena.mem_entries_insert hs.streams_wellFormed).mp hn with rfl | hn
    · omega
    · have := hs.stream_opened n hn
      omega
  byOutputId_increasing := hs.byOutputId_increasing
  byOutputId_iff := hs.byOutputId_iff
  length_byOutputId := hs.length_byOutputId

theorem sound_streamFor (hs : r.Sound) (execId : String) (console : Nat) :
    (r.streamFor execId console).1.Sound := by
  rw [streamFor_eq]
  exact sound_openStream (sound_retainStreams hs r.isHeld) execId console

theorem releaseStream_fst (r : Registry) (h : Handle) :
    (r.releaseStream h).1 = { r with streams := (r.streams.remove h).1 } := by
  unfold releaseStream
  cases hn : r.streams.get? h with
  | none => rw [Arena.remove_of_get?_eq_none hn]
  | some n => rw [Arena.remove_of_get? hn]

theorem sound_releaseStream (hs : r.Sound) (h : Handle) : (r.releaseStream h).1.Sound := by
  rw [releaseStream_fst]
  refine hs.with_streams (Arena.wellFormed_remove hs.streams_wellFormed h)
    (Arena.distinct_remove hs.streams_distinct h) fun n hn => hs.stream_opened n ?_
  exact Arena.mem_entries_of_tenants (Arena.tenant?_of_tenant?_remove h) hn

/-! ### Releasing consoles -/

/-- The registry without a console, which is the one of a command and stands under a handle. -/
def unlist (r : Registry) (h : Handle) (id : String) : Registry :=
  { r with consoles := (r.consoles.remove h).1, byOutputId := r.byOutputId.erase id }

theorem releaseConsole_of_console?_eq_none {h : Handle} (hn : r.console? h = none) :
    r.releaseConsole h = (r, false, []) := by
  unfold releaseConsole
  rw [Arena.remove_of_get?_eq_none hn]

/-- **Releasing a console** takes it off the list, with its command and the streams that feed it. -/
theorem Sound.releaseConsole_eq (hs : r.Sound) {h : Handle} {n : Nat} {id : String}
    (hn : r.console? h = some n) (hid : r.outputIdAt? n = some id) :
    r.releaseConsole h =
      ({ r.unlist h id with streams := r.streams.retain (r.survives n) }, true,
        [event "released console" [("output_id", id)]]) := by
  have hget : r.byOutputId.get? id = some h := (hs.byOutputId_iff id h).mpr (by rw [hn]; exact hid)
  have hspec : ((r.consoleAt? n).map (·.spec.outputId)).getD "" = id := by
    unfold outputIdAt? at hid
    rw [hid]
    rfl
  unfold releaseConsole unlist
  rw [Arena.remove_of_get? hn]
  simp only [hspec, hget, if_true]

theorem byOutputId_iff_unlist (hs : r.Sound) {h : Handle} {n : Nat} {id : String}
    (hn : r.console? h = some n) (hid : r.outputIdAt? n = some id) (other : String) (k : Handle) :
    (r.unlist h id).byOutputId.get? other = some k ↔
      ((r.unlist h id).console? k).bind (r.unlist h id).outputIdAt? = some other := by
  have hget : r.byOutputId.get? id = some h := (hs.byOutputId_iff id h).mpr (by rw [hn]; exact hid)
  have hcon : ∀ m, (r.unlist h id).console? k = some m ↔ r.console? k = some m ∧ k ≠ h :=
    fun m => Arena.get?_remove_eq_some_iff hn
  have hmap : (r.unlist h id).byOutputId = r.byOutputId.erase id := rfl
  rw [hmap, Option.bind_eq_some_iff]
  constructor
  · intro hother
    have hne : other ≠ id := by
      rintro rfl
      rw [Dictionary.get?_erase_self] at hother
      cases hother
    rw [Dictionary.get?_erase_of_ne hne] at hother
    obtain ⟨m, hm, hidm⟩ := hs.exists_console hother
    refine ⟨m, (hcon m).mpr ⟨hm, ?_⟩, hidm⟩
    rintro rfl
    rw [hn] at hm
    cases hm
    rw [hid] at hidm
    exact hne (Option.some.inj hidm).symm
  · rintro ⟨m, hm, hidm⟩
    obtain ⟨hm, hne⟩ := (hcon m).mp hm
    have hother : r.byOutputId.get? other = some k :=
      (hs.byOutputId_iff other k).mpr (by rw [hm]; exact hidm)
    rw [Dictionary.get?_erase_of_ne, hother]
    rintro rfl
    rw [hget] at hother
    exact hne (Option.some.inj hother).symm

theorem sound_unlist (hs : r.Sound) {h : Handle} {n : Nat} {id : String}
    (hn : r.console? h = some n) (hid : r.outputIdAt? n = some id) : (r.unlist h id).Sound where
  consoles_wellFormed := Arena.wellFormed_remove hs.consoles_wellFormed h
  streams_wellFormed := hs.streams_wellFormed
  consoles_distinct := Arena.distinct_remove hs.consoles_distinct h
  streams_distinct := hs.streams_distinct
  console_made m hm :=
    hs.console_made m (Arena.mem_entries_of_tenants (Arena.tenant?_of_tenant?_remove h) hm)
  stream_opened := hs.stream_opened
  byOutputId_increasing := Dictionary.increasing_erase id hs.byOutputId_increasing
  byOutputId_iff := byOutputId_iff_unlist hs hn hid
  length_byOutputId := by
    have hget := (hs.byOutputId_iff id h).mpr (by rw [hn]; exact hid)
    have hkeys := Dictionary.length_erase_of_get? hs.byOutputId_increasing hget
    have hlist := Arena.length_entries_remove hs.consoles_wellFormed hn
    have hbefore := hs.length_byOutputId
    simp only [unlist]
    omega

theorem sound_releaseConsole (hs : r.Sound) (h : Handle) : (r.releaseConsole h).1.Sound := by
  cases hn : r.console? h with
  | none => rw [releaseConsole_of_console?_eq_none hn]; exact hs
  | some n =>
    obtain ⟨id, hid, -⟩ := hs.exists_outputId hn
    rw [hs.releaseConsole_eq hn hid]
    exact sound_retainStreams (sound_unlist hs hn hid) (r.survives n)

@[elab_as_elim]
theorem releaseOutput_cases {motive : Registry → Prop} (id : String) (hnone : motive r)
    (hsome : ∀ h, motive (r.releaseConsole h).1) : motive (r.releaseOutput id).1 := by
  unfold releaseOutput
  split
  · exact hsome _
  · exact hnone

theorem sound_releaseOutput (hs : r.Sound) (id : String) : (r.releaseOutput id).1.Sound :=
  releaseOutput_cases id hs (sound_releaseConsole hs)

end HostedScripts.Output.Registry
