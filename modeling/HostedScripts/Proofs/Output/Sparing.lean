import HostedScripts.Proofs.Output.Registry

/-! # What the holders of streams may rely on

Many runs use one registry, each with a stream of its own. A step of the registry *spares* some streams
(`Spares`) if whoever holds one of them still does, and the stream stays in its slot as long as its console
is listed. Every operation spares the streams that it is not asked to give up: `spares_of_quiet`,
`spares_consoleFor`, `spares_dropStream`, `spares_releaseStream`, `spares_streamFor`,
`spares_releaseConsole`. Steps that spare the same streams can be put together (`Spares.trans`).

A stream with its handle is in *service* (`Serves`) if it is held, and listed under its handle exactly as
long as its console is listed. A step that spares a stream leaves it in service (`Serves.of_spares`), as
long as no generation wraps around; the handle of a stream that is gone stays without effect
(`Issued.of_spares`). -/

namespace HostedScripts.Output.Registry

open HostedScripts.Output

variable {r r' r'' : Registry} {p : Nat → Prop}

/-- The console that a stream was made for. -/
def feeds? (r : Registry) (stream : Nat) : Option Nat := (r.streamAt? stream).map (·.console)

/-- A later state of a registry, for those who hold some streams: these stay in their slots as long as their
consoles are listed, and when a console goes, all streams that feed it go. -/
structure Spares (p : Nat → Prop) (r r' : Registry) : Prop where
  streams : r.streams.Advances r.opened.length r'.streams
  feeds? : ∀ n < r.opened.length, r'.feeds? n = r.feeds? n
  length_opened : r.opened.length ≤ r'.opened.length
  length_made : r.made.length ≤ r'.made.length
  console : ∀ c ∈ r'.consoles.entries, c ≤ r.made.length → c ∈ r.consoles.entries
  held : ∀ n, p n → n ∈ r.streamHolders → n ∈ r'.streamHolders
  stays : ∀ i n c, p n → n ∈ r.streamHolders → r.streams.tenant? i = some n → r.feeds? n = some c →
    c ≤ r.made.length → c ∈ r'.consoles.entries → r'.streams.tenant? i = some n
  leaves : ∀ n c, r.feeds? n = some c → c ∈ r.consoles.entries → c ∉ r'.consoles.entries →
    n ∉ r'.streams.entries

theorem lt_of_feeds? {n c : Nat} (h : r.feeds? n = some c) : n < r.opened.length := by
  unfold feeds? streamAt? at h
  by_contra hle
  rw [List.getElem?_eq_none (by omega)] at h
  cases h

theorem feeds?_of_opened {n : Nat} (h : r'.opened = r.opened) : r'.feeds? n = r.feeds? n := by
  unfold feeds? streamAt?
  rw [h]

namespace Spares

theorem refl (p : Nat → Prop) (r : Registry) : r.Spares p r where
  streams := .of_eq _ rfl
  feeds? _ _ := rfl
  length_opened := le_rfl
  length_made := le_rfl
  console _ hc _ := hc
  held _ _ hn := hn
  stays _ _ _ _ _ ht _ _ _ := ht
  leaves _ _ _ hc hc' := absurd hc hc'

/-- Two steps make one, unless a slot gets a new tenant in the first and loses it in the second. -/
theorem trans (hs : r.Sound) (h : r.Spares p r') (h' : r'.Spares p r'')
    (hslots : ∀ i, r'.streams.tenant? i = r.streams.tenant? i ∨ r'.streams.tenant? i = none ∨
      r''.streams.tenant? i = r'.streams.tenant? i) : r.Spares p r'' where
  streams := h.streams.trans h'.streams h.length_opened hs.stream_opened hslots
  feeds? n hn := by
    have hn' := h.length_opened
    rw [h'.feeds? n (by omega), h.feeds? n hn]
  length_opened := h.length_opened.trans h'.length_opened
  length_made := h.length_made.trans h'.length_made
  console c hc hle := by
    have hle' := h.length_made
    exact h.console c (h'.console c hc (by omega)) hle
  held n hp hn := h'.held n hp (h.held n hp hn)
  stays i n c hp hn ht hf hle hc := by
    have hle' := h.length_made
    have hc' : c ∈ r'.consoles.entries := h'.console c hc (by omega)
    have hf' : r'.feeds? n = some c := by rw [h.feeds? n (lt_of_feeds? hf), hf]
    exact h'.stays i n c hp (h.held n hp hn) (h.stays i n c hp hn ht hf hle hc') hf' (by omega) hc
  leaves n c hf hc hgone := by
    have hlt := lt_of_feeds? hf
    have hlt' := h.length_opened
    by_cases hc' : c ∈ r'.consoles.entries
    · exact h'.leaves n c (by rw [h.feeds? n hlt, hf]) hc' hgone
    · intro hmem
      obtain ⟨i, hi⟩ := Arena.mem_entries_iff.mp hmem
      have hi' := h'.streams.tenant? i n hi (by omega)
      exact h.leaves n c hf hc hc' (Arena.mem_entries_iff.mpr ⟨i, hi'⟩)

theorem trans_of_eq (hs : r.Sound) (h : r.Spares p r') (h' : r'.Spares p r'')
    (heq : r'.streams = r.streams) : r.Spares p r'' :=
  h.trans hs h' fun i => Or.inl (by rw [heq])

end Spares

/-! ### The operations -/

theorem spares_of_quiet (p : Nat → Prop) (h : r.Quiet r') : r.Spares p r' where
  streams := .of_eq _ h.sameLists.streams
  feeds? n _ := feeds?_of_opened h.sameLists.opened
  length_opened := by rw [h.sameLists.opened]
  length_made := by rw [h.sameLists.length_made]
  console c hc _ := h.sameLists.consoles ▸ hc
  held n _ hn := h.holders n hn
  stays i n c _ _ ht _ _ _ := by rw [h.sameLists.streams, ht]
  leaves n c _ hc hc' := absurd (h.sameLists.consoles ▸ hc) hc'

theorem spares_makeConsole (hs : r.Sound) (p : Nat → Prop) (spec : ConsoleSpec) :
    r.Spares p (r.makeConsole spec).1 where
  streams := .of_eq _ rfl
  feeds? _ _ := rfl
  length_opened := le_rfl
  length_made := by simp [makeConsole]
  console c hc hle := by
    rcases (Arena.mem_entries_insert hs.consoles_wellFormed).mp hc with rfl | hc
    · omega
    · exact hc
  held _ _ hn := hn
  stays _ _ _ _ _ ht _ _ _ := ht
  leaves n c _ hc hc' :=
    absurd ((Arena.mem_entries_insert hs.consoles_wellFormed).mpr (Or.inr hc)) hc'

theorem spares_consoleFor (hs : r.Sound) (p : Nat → Prop) (spec : ConsoleSpec) :
    r.Spares p (r.consoleFor spec).1 := by
  cases hid : r.byOutputId.get? spec.outputId with
  | none => rw [consoleFor_of_get?_eq_none hid]; exact spares_makeConsole hs p spec
  | some h =>
    obtain ⟨n, hn, -⟩ := hs.exists_console hid
    rw [consoleFor_of_get? hid hn]
    exact .refl p r

theorem streams_consoleFor (hs : r.Sound) (spec : ConsoleSpec) :
    (r.consoleFor spec).1.streams = r.streams := by
  cases hid : r.byOutputId.get? spec.outputId with
  | none => rw [consoleFor_of_get?_eq_none hid]; rfl
  | some h =>
    obtain ⟨n, hn, -⟩ := hs.exists_console hid
    rw [consoleFor_of_get? hid hn]

theorem listed_consoleFor (hs : r.Sound) (spec : ConsoleSpec) {c : Nat}
    (hc : c ∈ r.consoles.entries) : c ∈ (r.consoleFor spec).1.consoles.entries := by
  cases hid : r.byOutputId.get? spec.outputId with
  | none =>
    rw [consoleFor_of_get?_eq_none hid]
    exact (Arena.mem_entries_insert hs.consoles_wellFormed).mpr (Or.inr hc)
  | some h =>
    obtain ⟨n, hn, -⟩ := hs.exists_console hid
    rw [consoleFor_of_get? hid hn]
    exact hc

theorem mem_entries_consoleFor (hs : r.Sound) (spec : ConsoleSpec) :
    (r.consoleFor spec).2.2.1 ∈ (r.consoleFor spec).1.consoles.entries := by
  cases hid : r.byOutputId.get? spec.outputId with
  | none =>
    rw [consoleFor_of_get?_eq_none hid]
    exact (Arena.mem_entries_insert hs.consoles_wellFormed).mpr (Or.inl rfl)
  | some h =>
    obtain ⟨n, hn, -⟩ := hs.exists_console hid
    rw [consoleFor_of_get? hid hn]
    exact Arena.mem_entries_of_get? hn

/-- One of several references to a stream can go. -/
theorem spares_dropStream {n : Nat} (h : p n → 1 < r.streamHolders.count n) :
    r.Spares p (r.dropStream n) where
  streams := .of_eq _ rfl
  feeds? _ _ := rfl
  length_opened := le_rfl
  length_made := le_rfl
  console _ hc _ := hc
  held m hp hm := by
    by_cases hmn : m = n
    · subst hmn
      have hcount := h hp
      have herase : (r.dropStream m).streamHolders.count m = r.streamHolders.count m - 1 :=
        List.count_erase_self
      exact List.count_pos_iff.mp (by omega)
    · exact (List.mem_erase_of_ne hmn).mpr hm
  stays _ _ _ _ _ ht _ _ _ := ht
  leaves _ _ _ hc hc' := absurd hc hc'

theorem tenant?_releaseStream {h : Handle} {i n : Nat} (ht : r.streams.tenant? i = some n)
    (hn : r.streams.get? h ≠ some n) : (r.releaseStream h).1.streams.tenant? i = some n := by
  rw [releaseStream_fst]
  cases hx : r.streams.get? h with
  | none => rw [Arena.remove_of_get?_eq_none hx]; exact ht
  | some x =>
    have hne : i ≠ h.index := by
      rintro rfl
      rw [(Arena.get?_eq_some_iff.mp hx).2] at ht
      cases ht
      exact hn hx
    rw [Arena.tenant?_remove hx, if_neg hne]
    exact ht

theorem spares_releaseStream {h : Handle} (hp : ∀ n, r.streams.get? h = some n → ¬ p n) :
    r.Spares p (r.releaseStream h).1 where
  streams := by
    rw [releaseStream_fst]
    exact Arena.advances_remove _ _ h
  feeds? n _ := by rw [releaseStream_fst]; rfl
  length_opened := by rw [releaseStream_fst]
  length_made := by rw [releaseStream_fst]
  console c hc _ := by
    rw [releaseStream_fst] at hc
    exact hc
  held n _ hn := by
    rw [releaseStream_fst]
    exact hn
  stays i n c hn _ ht _ _ _ := tenant?_releaseStream ht fun hget => hp n hget hn
  leaves n c _ hc hc' := by
    rw [releaseStream_fst] at hc'
    exact absurd hc hc'

theorem isHeld_iff {n : Nat} : r.isHeld n = true ↔ n ∈ r.streamHolders := by
  unfold isHeld
  exact List.contains_iff_mem

theorem spares_reclaim (p : Nat → Prop) (r : Registry) : r.Spares p r.reclaim.1 where
  streams := Arena.advances_retain _ _ r.isHeld
  feeds? _ _ := rfl
  length_opened := le_rfl
  length_made := le_rfl
  console _ hc _ := hc
  held _ _ hn := hn
  stays i n c _ hn ht _ _ _ := by
    have htenant : r.reclaim.1.streams.tenant? i = (r.streams.tenant? i).filter r.isHeld :=
      Arena.tenant?_retain r.streams r.isHeld i
    rw [htenant, ht, Option.filter_some, if_pos (isHeld_iff.mpr hn)]
  leaves _ _ _ hc hc' := absurd hc hc'

theorem spares_openStream (hs : r.Sound) (p : Nat → Prop) (execId : String) (console : Nat) :
    r.Spares p (r.openStream execId console) where
  streams := Arena.advances_insert hs.streams_wellFormed le_rfl
  feeds? n hn := by
    unfold feeds? streamAt? openStream
    rw [List.getElem?_append_left hn]
  length_opened := by simp [openStream]
  length_made := le_rfl
  console _ hc _ := hc
  held n _ hn := List.mem_cons_of_mem _ hn
  stays i n c _ _ ht _ _ _ := by
    have htenant : (r.openStream execId console).streams.tenant? i =
        if i = r.streams.vacancy then some r.opened.length else r.streams.tenant? i :=
      Arena.tenant?_insert hs.streams_wellFormed _ i
    rw [htenant, if_neg, ht]
    rintro rfl
    rw [Arena.tenant?_vacancy hs.streams_wellFormed] at ht
    cases ht
  leaves _ _ _ hc hc' := absurd hc hc'

theorem spares_streamFor (hs : r.Sound) (p : Nat → Prop) (execId : String) (console : Nat) :
    r.Spares p (r.streamFor execId console).1 := by
  rw [streamFor_eq]
  refine (spares_reclaim p r).trans hs
    (spares_openStream (sound_retainStreams hs r.isHeld) p execId console) fun i => ?_
  have htenant : r.reclaim.1.streams.tenant? i = (r.streams.tenant? i).filter r.isHeld :=
    Arena.tenant?_retain r.streams r.isHeld i
  rw [htenant]
  cases ht : r.streams.tenant? i with
  | none => exact Or.inl rfl
  | some n =>
    rw [Option.filter_some]
    split_ifs
    · exact Or.inl rfl
    · exact Or.inr (Or.inl rfl)

theorem survives_iff {console n : Nat} :
    r.survives console n = true ↔ n ∈ r.streamHolders ∧ ∃ c, r.feeds? n = some c ∧ c ≠ console := by
  unfold survives feeds?
  rw [Bool.and_eq_true, isHeld_iff]
  cases r.streamAt? n <;> simp

theorem spares_releaseConsole (hs : r.Sound) (p : Nat → Prop) (h : Handle) :
    r.Spares p (r.releaseConsole h).1 := by
  cases hn : r.console? h with
  | none =>
    rw [releaseConsole_of_console?_eq_none hn]
    exact .refl p r
  | some gone =>
    obtain ⟨id, hid, -⟩ := hs.exists_outputId hn
    rw [hs.releaseConsole_eq hn hid]
    have hlist : ∀ c, c ∈ (r.consoles.remove h).1.entries ↔ c ∈ r.consoles.entries ∧ c ≠ gone :=
      fun c => Arena.mem_entries_remove hs.consoles_distinct hn
    exact {
      streams := Arena.advances_retain _ _ (r.survives gone)
      feeds? := fun _ _ => rfl
      length_opened := le_rfl
      length_made := le_rfl
      console := fun c hc _ => ((hlist c).mp hc).1
      held := fun _ _ hn => hn
      stays := fun i n c _ hheld ht hf _ hc => by
        have hsurvives := survives_iff.mpr ⟨hheld, c, hf, ((hlist c).mp hc).2⟩
        change (r.streams.retain (r.survives gone)).tenant? i = some n
        rw [Arena.tenant?_retain, ht, Option.filter_some, if_pos hsurvives]
      leaves := fun n c hf hc hc' hmem => by
        obtain ⟨other, hother, hne⟩ := (survives_iff.mp (Arena.mem_entries_retain.mp hmem).2).2
        rw [hf] at hother
        exact hc' ((hlist c).mpr ⟨hc, Option.some.inj hother ▸ hne⟩) }

theorem spares_releaseOutput (hs : r.Sound) (p : Nat → Prop) (id : String) :
    r.Spares p (r.releaseOutput id).1 :=
  releaseOutput_cases id (.refl p r) (spares_releaseConsole hs p)

/-! ### Handles of streams -/

/-- A handle that was issued for a stream: it resolves to that stream, or its generation is over. -/
def Issued (r : Registry) (h : Handle) (n : Nat) : Prop :=
  r.streams.get? h = some n ∨ h.generation < r.streams.generationAt h.index

/-- A stream of a run: it is held, its handle was issued for it, and it is listed under its handle exactly as
long as its console is listed. -/
structure Serves (r : Registry) (h : Handle) (n : Nat) : Prop where
  held : n ∈ r.streamHolders
  issued : r.Issued h n
  console : ∃ c, r.feeds? n = some c ∧ c ≤ r.made.length ∧
    (c ∈ r.consoles.entries → r.streams.get? h = some n) ∧
    (c ∉ r.consoles.entries → n ∉ r.streams.entries)

theorem Issued.eq_of_get? {h : Handle} {n m : Nat} (hi : r.Issued h n)
    (hm : r.streams.get? h = some m) : m = n :=
  Arena.Issued.eq_of_get? hi hm

/-- No generation wraps around on the way from one registry to another. -/
def NoWrap (r r' : Registry) : Prop :=
  ∀ i, r.streams.frees r'.streams i = true → (r.streams.generationAt i).toNat + 1 < 2 ^ 32

theorem NoWrap.of_eq (h : r'.streams = r.streams) : r.NoWrap r' := Arena.NoWrap.of_eq h

theorem Issued.of_spares {h : Handle} {n : Nat} (hi : r.Issued h n) (hsp : r.Spares p r')
    (hw : r.NoWrap r') : r'.Issued h n :=
  Arena.Issued.of_advances hi hsp.streams hw

/-- A stream that is off the list when its console is. -/
structure GoesWith (r : Registry) (n c : Nat) : Prop where
  feeds : r.feeds? n = some c
  made : c ≤ r.made.length
  gone : c ∉ r.consoles.entries → n ∉ r.streams.entries

theorem GoesWith.of_spares {n c : Nat} (hg : r.GoesWith n c) (hsp : r.Spares p r') :
    r'.GoesWith n c where
  feeds := (hsp.feeds? n (lt_of_feeds? hg.feeds)).trans hg.feeds
  made := hg.made.trans hsp.length_made
  gone hc hmem := by
    by_cases hbefore : c ∈ r.consoles.entries
    · exact hsp.leaves n c hg.feeds hbefore hc hmem
    · obtain ⟨i, hi⟩ := Arena.mem_entries_iff.mp hmem
      have hi' := hsp.streams.tenant? i n hi (lt_of_feeds? hg.feeds)
      exact hg.gone hbefore (Arena.mem_entries_iff.mpr ⟨i, hi'⟩)

/-- **A step that spares a stream leaves it in service.** -/
theorem Serves.of_spares {h : Handle} {n : Nat} (hv : r.Serves h n) (hsp : r.Spares p r') (hp : p n)
    (hw : r.NoWrap r') : r'.Serves h n := by
  obtain ⟨c, hf, hle, hlisted, hgone⟩ := hv.console
  have hg : r'.GoesWith n c := GoesWith.of_spares ⟨hf, hle, hgone⟩ hsp
  refine ⟨hsp.held n hp hv.held, hv.issued.of_spares hsp hw, c, hg.feeds, hg.made, fun hc => ?_, hg.gone⟩
  have hget := hlisted (hsp.console c hc hle)
  obtain ⟨hgen, ht⟩ := Arena.get?_eq_some_iff.mp hget
  have ht' := hsp.stays h.index n c hp hv.held ht hf hle hc
  have hadv := hsp.streams.generationAt h.index
  rw [Arena.frees_eq_false_of_eq (ht'.trans ht.symm), if_neg Bool.false_ne_true] at hadv
  exact Arena.get?_eq_some_iff.mpr ⟨hadv.trans hgen, ht'⟩

theorem Serves.not_mem_remove {h : Handle} {n : Nat} (hv : r.Serves h n) (hs : r.Sound) :
    n ∉ (r.streams.remove h).1.entries := by
  obtain ⟨c, -, -, hlisted, hgone⟩ := hv.console
  intro hmem
  by_cases hc : c ∈ r.consoles.entries
  · rw [Arena.mem_entries_remove hs.streams_distinct (hlisted hc)] at hmem
    exact hmem.2 rfl
  · exact hgone hc (Arena.mem_entries_of_tenants (Arena.tenant?_of_tenant?_remove h) hmem)

/-- A stream in service resolves exactly as long as its console is listed. -/
theorem Serves.stream?_eq {h : Handle} {n : Nat} (hv : r.Serves h n) {c : Nat}
    (hc : r.feeds? n = some c) :
    r.stream? h = if c ∈ r.consoles.entries then some n else none := by
  obtain ⟨c', hf, -, hlisted, hgone⟩ := hv.console
  rw [hc] at hf
  cases hf
  unfold stream?
  split_ifs with hl
  · rw [hlisted hl, Option.filter_some, if_pos (isHeld_iff.mpr hv.held)]
  · cases hget : r.streams.get? h with
    | none => rfl
    | some m =>
      rw [hv.issued.eq_of_get? hget] at hget
      exact absurd (Arena.mem_entries_of_get? hget) (hgone hl)

theorem serves_streamFor (hs : r.Sound) (execId : String) {c : Nat} (hc : c ∈ r.consoles.entries) :
    (r.streamFor execId c).1.Serves (r.streamFor execId c).2.1 (r.streamFor execId c).2.2.1 := by
  have hw := Arena.wellFormed_retain hs.streams_wellFormed r.isHeld
  rw [streamFor_eq]
  have hget : (r.reclaim.1.openStream execId c).streams.get?
      (r.reclaim.1.streams.insert r.opened.length).2 = some r.opened.length :=
    Arena.get?_insert_self hw _
  refine ⟨List.mem_cons_self, Or.inl hget, c, ?_, (hs.console_made c hc).2, fun _ => hget,
    fun hgone => absurd hc hgone⟩
  unfold feeds? streamAt? openStream
  have hopened : r.reclaim.1.opened = r.opened := rfl
  rw [hopened, List.getElem?_concat_length]
  rfl

end HostedScripts.Output.Registry
