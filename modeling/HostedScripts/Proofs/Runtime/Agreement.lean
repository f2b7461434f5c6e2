import HostedScripts.Proofs.Runtime.Session
import HostedScripts.Proofs.Runtime.Windows

/-! # Runtimes that share a registry remember their consoles

Runtimes call for their consoles and streams, and the host releases consoles, in any order. A session in
order whose runtimes remember their commands is *mindful* (`Mindful`), and stays so as long as no
generation wraps around (`mindful_after`).

A console is listed until it is released, and never again (`listed_after_iff`). Until then a runtime that
is not disposed of keeps the stream that feeds it (`stream_after`). After that it gets another one, and the
earlier is not listed any more (`answerOf_outputStream_after`). All of it together is `windows_agree`. -/

namespace HostedScripts

open Output (Handle Registry ConsoleSpec)

namespace Session

variable {s : Session} {i n c : Nat} {rt : Runtime}

/-- How often a slot for consoles is freed in the course of some operations. -/
def timesReleased (s : Session) (i : Nat) : List Operation → Nat
  | [] => 0
  | op :: ops =>
    (if s.outputs.consoles.frees (s.perform op).outputs.consoles i then 1 else 0) +
      (s.perform op).timesReleased i ops

/-- No slot is freed so often in the course of some operations that its generation wraps around. -/
structure Unwrapped (s : Session) (ops : List Operation) : Prop where
  streams : ∀ i, (s.outputs.streams.generationAt i).toNat + s.timesFreed i ops < 2 ^ 32
  consoles : ∀ i, (s.outputs.consoles.generationAt i).toNat + s.timesReleased i ops < 2 ^ 32

/-- A session in order whose runtimes remember their commands. -/
structure Mindful (s : Session) : Prop where
  orderly : s.Orderly
  remembers : ∀ i rt, s.runtime? i = some rt → rt.Remembers s.outputs

/-- The console that an operation releases. -/
def released? (s : Session) : Operation → Option Nat
  | .ask op => s.outputs.released? op
  | _ => none

/-- A console is released in the course of some operations. -/
def Releases (s : Session) (c : Nat) : List Operation → Prop
  | [] => False
  | op :: ops => s.released? op = some c ∨ (s.perform op).Releases c ops

/-- Whether an operation lets a runtime live: it is neither disposed of nor let go. -/
def Operation.spares (i : Nat) : Operation → Bool
  | .call j c => j ≠ i || !c.isDispose
  | .drop j => j ≠ i
  | _ => true

/-- What a runtime answers to a call. -/
def answerOf (s : Session) (i : Nat) (c : Runtime.Call) : Option Runtime.Answer :=
  (s.runtime? i).map fun rt => ((rt.call c).run s.world).1.2

/-! ### One operation -/

/-- Every operation continues the registry. -/
theorem continues_perform (hm : s.Mindful) (op : Operation) :
    s.outputs.Continues (s.perform op).outputs := by
  refine outputs_perform_cases op (fun _ => .refl _) ?_ ?_ ?_
  · intro i call rt _ hrt
    rw [perform_call call hrt]
    exact (Runtime.remembers_call hm.orderly.sound (hm.remembers i rt hrt) call).2
  · intro i rt _ hrt
    rw [perform_drop hrt]
    unfold Runtime.drop
    rcases rt.stream with - | ⟨h, n⟩
    · exact .refl _
    · exact (Registry.Continues.refl _).sameLists (Registry.sameLists_dropStream _ n)
  · intro o _ _
    exact Registry.continues_perform hm.orderly.sound o

theorem remembers_perform (hm : s.Mindful) (op : Operation)
    (hw : s.outputs.consoles.NoWrap (s.perform op).outputs.consoles) (j : Nat) (rt : Runtime)
    (hrt : (s.perform op).runtime? j = some rt) : rt.Remembers (s.perform op).outputs := by
  have hcont := continues_perform hm op
  rcases runtime?_perform s op j with hsame | ⟨-, new, hnew, hconsole, hstream⟩ | ⟨c, own, rfl, hown, hcalled⟩ | ⟨-, hgone⟩
  · exact (hm.remembers j rt (hsame.symm.trans hrt)).of_continues hcont hw
  · rw [hnew] at hrt
    cases hrt
    refine ⟨fun h hh => ?_, fun h n hn => ?_⟩
    · rw [hconsole] at hh
      cases hh
    · rw [hstream] at hn
      cases hn
  · rw [hcalled] at hrt
    cases hrt
    rw [perform_call c hown]
    exact (Runtime.remembers_call hm.orderly.sound (hm.remembers j own hown) c).1
  · rw [hgone] at hrt
    cases hrt

/-- One step of a session keeps it mindful, and leaves the rest of its bound. -/
theorem Unwrapped.step {op : Operation} {ops : List Operation} (hu : s.Unwrapped (op :: ops))
    (hm : s.Mindful) : (s.perform op).Mindful ∧ (s.perform op).Unwrapped ops := by
  obtain ⟨hstreams, hrest⟩ := (hm.orderly.advances op).bound hu.streams
  obtain ⟨hconsoles, hrest'⟩ := (continues_perform hm op).consoles.bound hu.consoles
  exact ⟨⟨orderly_perform hm.orderly op hstreams, remembers_perform hm op hconsoles⟩, hrest, hrest'⟩

/-! ### Histories -/

/-- A session stays mindful, and the rest of its bound is left. -/
theorem mindful_after (hm : s.Mindful) {before ops : List Operation} (hu : s.Unwrapped (before ++ ops)) :
    (s.after before).Mindful ∧ (s.after before).Unwrapped ops := by
  induction before generalizing s with
  | nil => exact ⟨hm, hu⟩
  | cons op before ih =>
    obtain ⟨hm', hu'⟩ := hu.step hm
    exact ih hm' hu'

theorem mindful_start (w : World) : (start w).Mindful where
  orderly := orderly_start w
  remembers i rt h := by cases h

theorem unwrapped_start (w : World) {ops : List Operation}
    (hstreams : ∀ i, (start w).timesFreed i ops < 2 ^ 32)
    (hconsoles : ∀ i, (start w).timesReleased i ops < 2 ^ 32) : (start w).Unwrapped ops where
  streams i := by
    rw [Output.Arena.generationAt_of_le (Nat.zero_le i)]
    simpa using hstreams i
  consoles i := by
    rw [Output.Arena.generationAt_of_le (Nat.zero_le i)]
    simpa using hconsoles i

/-! ### Releasing consoles -/

/-- Some streams are spared by every operation. -/
theorem exists_spares (hm : s.Mindful) (op : Operation) :
    ∃ p, s.outputs.Spares p (s.perform op).outputs := by
  refine outputs_perform_cases op (fun _ => ⟨fun _ => True, .refl _ _⟩) ?_ ?_ ?_
  · intro i call rt _ hrt
    exact ⟨_, (hm.orderly.tends_call call hrt).spares⟩
  · intro i rt _ hrt
    exact ⟨_, (hm.orderly.tends_drop hrt).spares⟩
  · intro o _ hp
    exact ⟨_, hm.orderly.spares_ask hp⟩

theorem listed_perform_iff (hm : s.Mindful) (op : Operation) (hc : c ∈ s.outputs.consoles.entries) :
    c ∈ (s.perform op).outputs.consoles.entries ↔ s.released? op ≠ some c := by
  refine outputs_perform_cases (motive := fun r => c ∈ r.consoles.entries ↔ _) op ?_ ?_ ?_ ?_
  · intro hnot
    refine iff_of_true hc ?_
    cases op with
    | ask o =>
      -- the host may release whatever console it likes
      cases o with
      | releaseConsole | releaseOutput => exact absurd rfl (hnot _ rfl)
      | _ => exact (Option.some_ne_none c).symm
    | _ => exact (Option.some_ne_none c).symm
  · rintro i call rt rfl hrt
    exact iff_of_true ((hm.orderly.tends_call call hrt).listed c hc) (Option.some_ne_none c).symm
  · rintro i rt rfl hrt
    exact iff_of_true ((hm.orderly.tends_drop hrt).listed c hc) (Option.some_ne_none c).symm
  · rintro o rfl -
    exact Registry.listed_perform_iff hm.orderly.sound o hc

theorem not_listed_after (hm : s.Mindful) {ops : List Operation} (hu : s.Unwrapped ops)
    (hle : c ≤ s.outputs.made.length) (hc : c ∉ s.outputs.consoles.entries) :
    c ∉ (s.after ops).outputs.consoles.entries := by
  induction ops generalizing s with
  | nil => exact hc
  | cons op ops ih =>
    obtain ⟨hm', hu'⟩ := hu.step hm
    obtain ⟨p, hsp⟩ := exists_spares hm op
    exact ih hm' hu' (hle.trans hsp.length_made) fun hmem => hc (hsp.console c hmem hle)

/-- A console is listed until it is released, and never again. -/
theorem listed_after_iff (hm : s.Mindful) {ops : List Operation} (hu : s.Unwrapped ops)
    (hc : c ∈ s.outputs.consoles.entries) :
    c ∈ (s.after ops).outputs.consoles.entries ↔ ¬ s.Releases c ops := by
  induction ops generalizing s with
  | nil => exact iff_of_true hc fun h => h
  | cons op ops ih =>
    obtain ⟨hm', hu'⟩ := hu.step hm
    have hiff := listed_perform_iff hm op hc
    show c ∈ ((s.perform op).after ops).outputs.consoles.entries ↔ ¬ (_ ∨ _)
    by_cases hreleased : s.released? op = some c
    · have hgone : c ∉ (s.perform op).outputs.consoles.entries := fun hmem => hiff.mp hmem hreleased
      obtain ⟨p, hsp⟩ := exists_spares hm op
      have hle := (hm.orderly.sound.console_made c hc).2.trans hsp.length_made
      exact iff_of_false (not_listed_after hm' hu' hle hgone) fun hno => hno (Or.inl hreleased)
    · rw [ih hm' hu' (hiff.mpr hreleased), not_or]
      exact ⟨fun hno => ⟨hreleased, hno⟩, fun hno => hno.2⟩

theorem goesWith_after (hm : s.Mindful) {ops : List Operation} (hu : s.Unwrapped ops)
    (hg : s.outputs.GoesWith n c) : (s.after ops).outputs.GoesWith n c := by
  induction ops generalizing s with
  | nil => exact hg
  | cons op ops ih =>
    obtain ⟨hm', hu'⟩ := hu.step hm
    obtain ⟨p, hsp⟩ := exists_spares hm op
    exact ih hm' hu' (hg.of_spares hsp)

/-! ### One runtime in the course of time -/

/-- A runtime that has not been disposed of, of some command. -/
def Lives (s : Session) (i : Nat) (id : String) (rt : Runtime) : Prop :=
  s.runtime? i = some rt ∧ rt.phase ≠ .disposed ∧ rt.script.commandUniqueId = id

/-- A runtime lives on in all operations that spare it, and keeps a stream that feeds the console of its
command. -/
theorem lives_perform (hm : s.Mindful) {id : String} (hl : s.Lives i id rt) {op : Operation}
    (hop : op.spares i = true) :
    ∃ rt', (s.perform op).Lives i id rt' ∧
      ∀ h, rt.stream = some (h, n) → s.outputs.feeds? n = some c →
        s.outputs.findConsole? id = some c → rt'.stream = some (h, n) := by
  obtain ⟨hrt, hp, rfl⟩ := hl
  rcases runtime?_perform s op i with hsame | ⟨hi, -⟩ | ⟨call, own, rfl, hown, hcalled⟩ | ⟨rfl, -⟩
  · exact ⟨rt, ⟨hsame.trans hrt, hp, rfl⟩, fun _ hst _ _ => hst⟩
  · exact absurd hi (lt_length_of_runtime? hrt).ne
  · obtain rfl : rt = own := Option.some.inj (hrt.symm.trans hown)
    have hnot : call.isDispose = false := by simpa [Operation.spares] using hop
    refine ⟨_, ⟨hcalled, Runtime.phase_call hp hnot s.world, ?_⟩, fun h hst hf hfound => ?_⟩
    · rw [(Runtime.call_same rt call s.world).1]
    · exact Runtime.stream_call hm.orderly.sound (hm.remembers i rt hrt) hp hst hf hfound hnot
  · simp [Operation.spares] at hop

theorem exists_lives_after (hm : s.Mindful) {ops : List Operation} (hu : s.Unwrapped ops) {id : String}
    (hl : s.Lives i id rt) (hspare : ∀ op ∈ ops, op.spares i = true) :
    ∃ rt', (s.after ops).Lives i id rt' := by
  induction ops generalizing s rt with
  | nil => exact ⟨rt, hl⟩
  | cons op ops ih =>
    obtain ⟨hm', hu'⟩ := hu.step hm
    obtain ⟨rt', hl', -⟩ := lives_perform (n := 0) (c := 0) hm hl (hspare op List.mem_cons_self)
    exact ih hm' hu' hl' fun op hop => hspare op (List.mem_cons_of_mem _ hop)

/-- **A stream is kept** as long as its console is not released. -/
theorem stream_after (hm : s.Mindful) {ops : List Operation} (hu : s.Unwrapped ops) {id : String}
    (hl : s.Lives i id rt) (hspare : ∀ op ∈ ops, op.spares i = true) {h : Handle}
    (hst : rt.stream = some (h, n)) (hf : s.outputs.feeds? n = some c)
    (hfound : s.outputs.findConsole? id = some c) (hno : ¬ s.Releases c ops) :
    ∃ rt', (s.after ops).Lives i id rt' ∧ rt'.stream = some (h, n) ∧
      (s.after ops).outputs.findConsole? id = some c ∧ (s.after ops).outputs.feeds? n = some c := by
  induction ops generalizing s rt with
  | nil => exact ⟨rt, hl, hst, hfound, hf⟩
  | cons op ops ih =>
    obtain ⟨hm', hu'⟩ := hu.step hm
    obtain ⟨hnot, hno'⟩ := not_or.mp hno
    obtain ⟨rt', hl', hstays⟩ := lives_perform hm hl (hspare op List.mem_cons_self)
    obtain ⟨p, hsp⟩ := exists_spares hm op
    have hf' := (hsp.feeds? n (Registry.lt_of_feeds? hf)).trans hf
    have hlisted := (hm.orderly.sound.findConsole?_eq_some_iff.mp hfound).1
    have hfound' := (continues_perform hm op).findConsole? hm.orderly.sound hm'.orderly.sound hfound
      ((listed_perform_iff hm op hlisted).mpr hnot)
    exact ih hm' hu' hl' (fun op hop => hspare op (List.mem_cons_of_mem _ hop))
      (hstays h hst hf hfound) hf' hfound' hno'

/-! ### Answers -/

theorem answerOf_outputWindow (hm : s.Mindful) {id : String} (hl : s.Lives i id rt) :
    ∃ n, s.answerOf i .outputWindow = some (.number n) ∧
      rt.Finds s.world n (s.perform (.call i .outputWindow)).outputs := by
  obtain ⟨hrt, hp, -⟩ := hl
  obtain ⟨rt', n, w', hw⟩ := Runtime.exists_window rt s.world hp
  have hcall : (rt.call .outputWindow).run s.world = ((rt', .number n), w') := Runtime.call_outputWindow hw
  refine ⟨n, ?_, ?_⟩
  · unfold answerOf
    rw [hrt, Option.map_some, hcall]
  · rw [perform_call _ hrt, hcall]
    exact (Runtime.window_finds hm.orderly.sound (hm.remembers i rt hrt) hw).1

/-- What a runtime answers that is asked for its stream: it is in service, and feeds the console that it would
give if it were asked for that. -/
theorem answerOf_outputStream (hm : s.Mindful) {id : String} (hl : s.Lives i id rt) :
    ∃ n c, s.answerOf i .outputStream = some (.number n) ∧
      s.answerOf i .outputWindow = some (.number c) ∧
      (s.perform (.call i .outputStream)).outputs.streamAt? n = some ⟨rt.execId, c⟩ ∧
      (s.perform (.call i .outputStream)).outputs.findConsole? id = some c ∧
      ∃ h, (s.perform (.call i .outputStream)).streamOf i = some (h, n) ∧
        (s.perform (.call i .outputStream)).outputs.Serves h n := by
  obtain ⟨hrt, hp, rfl⟩ := hl
  obtain ⟨rt', c, w', hw⟩ := Runtime.exists_window rt s.world hp
  obtain ⟨fed, n, w'', hf, hstreams⟩ :=
    Runtime.feed_streams hm.orderly.sound (hm.remembers i rt hrt) hw
  obtain ⟨h, hown⟩ := hstreams.own
  have hcall : (rt.call .outputStream).run s.world = ((fed, .number n), w'') := Runtime.call_outputStream hf
  have hwindow : (rt.call .outputWindow).run s.world = ((rt', .number c), w') := Runtime.call_outputWindow hw
  have htends := hm.orderly.tends_call .outputStream hrt
  have hstream : (s.perform (.call i .outputStream)).streamOf i = some (h, n) := by
    unfold streamOf
    rw [runtime?_call _ hrt, if_pos rfl, hcall]
    exact hown
  rw [hcall] at htends
  have hserves := htends.inService h n hown
  rw [perform_call _ hrt, hcall] at hserves hstream ⊢
  refine ⟨n, c, ?_, ?_, hstreams.stream, hstreams.console, h, hstream, hserves⟩
  · unfold answerOf
    rw [hrt, Option.map_some, hcall]
  · unfold answerOf
    rw [hrt, Option.map_some, hwindow]

/-- **Asked again, a runtime gives the same stream exactly if its console was not released**; otherwise the
earlier stream is not listed any more. -/
theorem answerOf_outputStream_after (hm : s.Mindful) {ops : List Operation} (hu : s.Unwrapped ops)
    {id : String} (hl : s.Lives i id rt) (hspare : ∀ op ∈ ops, op.spares i = true) {h : Handle}
    (hst : rt.stream = some (h, n)) (hg : s.outputs.GoesWith n c)
    (hfound : s.outputs.findConsole? id = some c) :
    ∃ m, (s.after ops).answerOf i .outputStream = some (.number m) ∧ (m = n ↔ ¬ s.Releases c ops) ∧
      (s.Releases c ops →
        n ∉ ((s.after ops).perform (.call i .outputStream)).outputs.streams.entries) := by
  have hu' : s.Unwrapped (ops ++ []) := by rwa [List.append_nil]
  have hm' := (mindful_after hm hu').1
  have hlisted := (hm.orderly.sound.findConsole?_eq_some_iff.mp hfound).1
  have hiff := listed_after_iff hm hu hlisted
  have hg' := goesWith_after hm hu hg
  obtain ⟨rt', hl'⟩ := exists_lives_after hm hu hl hspare
  obtain ⟨m, c', hanswer, -, hstream, hconsole, -⟩ := answerOf_outputStream hm' hl'
  obtain ⟨p, hsp⟩ := exists_spares hm' (.call i .outputStream)
  have hg'' := hg'.of_spares hsp
  by_cases hreleased : s.Releases c ops
  · have hgone : c ∉ (s.after ops).outputs.consoles.entries := fun hmem => hiff.mp hmem hreleased
    have hgone' : c ∉ ((s.after ops).perform (.call i .outputStream)).outputs.consoles.entries :=
      fun hmem => hgone (hsp.console c hmem hg'.made)
    refine ⟨m, hanswer, iff_of_false ?_ fun hno => hno hreleased, fun _ => hg''.gone hgone'⟩
    -- the stream that is given feeds a listed console, the earlier one does not
    rintro rfl
    have hfeeds := hg''.feeds
    unfold Registry.feeds? at hfeeds
    rw [hstream, Option.map_some, Option.some.injEq] at hfeeds
    have hnow : ((s.after ops).perform (.call i .outputStream)).outputs.Sound :=
      (hm'.orderly.tends_call .outputStream hl'.1).sound
    exact hgone' (hfeeds ▸ (hnow.findConsole?_eq_some_iff.mp hconsole).1)
  · obtain ⟨rt'', ⟨hrt, hp, hid⟩, hst', hfound', hf'⟩ :=
      stream_after hm hu hl hspare hst hg.feeds hfound hreleased
    subst hid
    obtain ⟨fed, w', hfeed, -⟩ :=
      Runtime.feed_of_feeds hm'.orderly.sound (hm'.remembers i rt'' hrt) hp hst' hf' hfound'
    refine ⟨n, ?_, iff_of_true rfl hreleased, fun hyes => absurd hyes hreleased⟩
    unfold answerOf
    rw [hrt, Option.map_some]
    unfold Runtime.call
    rw [Act.run_bind, hfeed]
    rfl

theorem timesReleased_le_length (s : Session) (i : Nat) (ops : List Operation) :
    s.timesReleased i ops ≤ ops.length := by
  induction ops generalizing s with
  | nil => exact le_rfl
  | cons op ops ih =>
    have h := ih (s.perform op)
    rw [timesReleased, List.length_cons]
    split_ifs <;> omega

/-- Two runtimes of a command ask for their streams, the host releases their console, and another command gets
the slot. -/
def replacedConsole : List Operation :=
  let command : ScriptData := { (default : ScriptData) with commandUniqueId := "a" }
  [.make command .empty, .make command .empty, .call 0 .outputStream, .call 1 .outputStream,
    .ask (.releaseOutput "a"), .ask (.consoleFor ⟨"b", "", "", false⟩)]

end Session

end HostedScripts
