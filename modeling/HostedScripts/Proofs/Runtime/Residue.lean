import HostedScripts.Proofs.Output.Refinement
import HostedScripts.Proofs.Runtime.Isolation

/-! # What runs leave behind

An `Errand` is something that happens at a host that opens no console and no stream itself: a script is run
from beginning to end, something else is asked of the registry, or the files change. Runs may end in any
way, and handlers may keep the streams that they were given.

Between errands the registry is *at rest* (`Registry.AtRest`): no stream is listed, and the streams of all
runs have had the same slot. A run puts the console of its command on the list if the built-in interpreter
runs it or a handler (`EngineTable.Serves`), and nothing else (`atRest_runScript`). So the listed consoles
are those of the commands that are *attended to* (`Attended`), which is `residue_after`. -/

namespace HostedScripts

open Output (Handle Registry ConsoleSpec)

/-- Whether something that is asked of a registry makes a console or a stream. -/
def Output.Operation.opens : Output.Operation → Bool
  | .consoleFor _ => true
  | .streamFor _ _ => true
  | _ => false

/-- Something that happens at a host that opens no console and no stream itself: a script is run from
beginning to end, something else is asked of the registry, by the host or by who holds a stream, or the files
and the variables of the process change. -/
inductive Errand where
  | run (engines : EngineTable) (execId : String) (captured : Environment) (script : ScriptData)
    (context : Context)
  | ask (op : Output.Operation) (h : op.opens = false)
  | change (files : FileTree) (process : List (String × String))

namespace World

/-- The world after an errand. -/
def does (w : World) : Errand → World
  | .run engines execId captured script context =>
    ((runScript engines execId captured script context).run w).2
  | .ask op _ => { w with outputs := w.outputs.perform op }
  | .change files process => { w with files := files, process := process }

/-- The world after some errands. -/
def after (w : World) (errands : List Errand) : World := errands.foldl does w

end World

/-- Scripts of an engine come to the built-in interpreter or to a handler. -/
def EngineTable.Serves (engines : EngineTable) (engine : EngineKind) : Prop :=
  engine = .script ∨ ∃ handler, engines.get? engine = some handler

namespace Errand

/-- An errand is a run of a command that comes to an engine. -/
def Serves (w : World) (id : String) : Errand → Prop
  | .run engines execId captured script context =>
    script.commandUniqueId = id ∧
      engines.Serves ((Runtime.fresh execId captured script context).engineIn w.files)
  | _ => False

/-- An errand releases the console of a command. -/
def Releases (w : World) (id : String) : Errand → Prop
  | .ask op _ => ∃ n, w.outputs.released? op = some n ∧ w.outputs.findConsole? id = some n
  | _ => False

end Errand

/-- The errand with a number among some errands, and the world that it finds. -/
def Meets (w : World) (errands : List Errand) (i : Nat) (w' : World) (e : Errand) : Prop :=
  errands[i]? = some e ∧ w' = w.after (errands.take i)

/-- A command of which some run came to an engine, and whose console was not released since. -/
def Attended (w : World) (errands : List Errand) (id : String) : Prop :=
  ∃ i w' e, Meets w errands i w' e ∧ e.Serves w' id ∧
    ∀ j w'' e', i < j → Meets w errands j w'' e' → ¬ e'.Releases w'' id

theorem Meets.lt_length {w w' : World} {errands : List Errand} {i : Nat} {e : Errand}
    (h : Meets w errands i w' e) : i < errands.length := (List.getElem?_eq_some_iff.mp h.1).1

theorem meets_concat {w w' : World} {errands : List Errand} {e e' : Errand} {i : Nat} :
    Meets w (errands ++ [e]) i w' e' ↔
      Meets w errands i w' e' ∨ (i = errands.length ∧ w' = w.after errands ∧ e' = e) := by
  unfold Meets
  rcases Nat.lt_trichotomy i errands.length with hlt | rfl | hgt
  · rw [List.getElem?_append_left hlt, List.take_append_of_le_length hlt.le]
    simp only [hlt.ne, false_and, or_false]
  · rw [List.getElem?_concat_length, List.take_left, List.getElem?_eq_none le_rfl]
    simp only [Option.some.injEq, reduceCtorEq, false_and, false_or, true_and]
    rw [and_comm, eq_comm (a := e)]
  · have hnone : (errands ++ [e])[i]? = none := by
      rw [List.getElem?_eq_none_iff, List.length_append, List.length_singleton]
      omega
    rw [hnone, List.getElem?_eq_none hgt.le]
    simp only [reduceCtorEq, hgt.ne', false_and, or_false]

theorem attended_concat (w : World) (errands : List Errand) (e : Errand) (id : String) :
    Attended w (errands ++ [e]) id ↔
      e.Serves (w.after errands) id ∨
        (Attended w errands id ∧ ¬ e.Releases (w.after errands) id) := by
  unfold Attended
  simp only [meets_concat]
  constructor
  · rintro ⟨i, w', e', hmeets | ⟨rfl, rfl, rfl⟩, hserves, hkept⟩
    · refine Or.inr ⟨⟨i, w', e', hmeets, hserves, fun j w'' e'' hij hj => ?_⟩, ?_⟩
      · exact hkept j w'' e'' hij (Or.inl hj)
      · exact hkept errands.length _ e hmeets.lt_length (Or.inr ⟨rfl, rfl, rfl⟩)
    · exact Or.inl hserves
  · rintro (hserves | ⟨⟨i, w', e', hmeets, hserves, hkept⟩, hnot⟩)
    · refine ⟨errands.length, _, e, Or.inr ⟨rfl, rfl, rfl⟩, hserves, fun j w'' e' hij hj => ?_⟩
      rcases hj with hj | ⟨rfl, -, -⟩
      · exact absurd hj.lt_length (by omega)
      · exact absurd hij (Nat.lt_irrefl _)
    · refine ⟨i, w', e', Or.inl hmeets, hserves, fun j w'' e'' hij hj => ?_⟩
      rcases hj with hj | ⟨rfl, rfl, rfl⟩
      · exact hkept j w'' e'' hij hj
      · exact hnot

namespace Output.Registry

variable {r r' : Registry} {id : String}

/-- A registry while no run is under way. -/
structure AtRest (r : Registry) : Prop where
  sound : r.Sound
  entries : r.streams.entries = []
  slots : r.streams.slots.length ≤ 1

theorem atRest_empty : empty.AtRest := ⟨sound_empty, rfl, Nat.zero_le 1⟩

theorem streams_perform (hs : r.Sound) {op : Operation} (h : op.opens = false) :
    (∀ n ∈ (r.perform op).streams.entries, n ∈ r.streams.entries) ∧
      (r.perform op).streams.slots.length = r.streams.slots.length := by
  have hsame : ∀ {r' : Registry}, r'.streams = r.streams →
      (∀ n ∈ r'.streams.entries, n ∈ r.streams.entries) ∧
        r'.streams.slots.length = r.streams.slots.length := fun heq => by
    rw [heq]
    exact ⟨fun _ hn => hn, rfl⟩
  have hrelease : ∀ k, (∀ n ∈ (r.releaseConsole k).1.streams.entries, n ∈ r.streams.entries) ∧
      (r.releaseConsole k).1.streams.slots.length = r.streams.slots.length := fun k => by
    cases hn : r.console? k with
    | none =>
      rw [releaseConsole_of_console?_eq_none hn]
      exact hsame rfl
    | some n =>
      obtain ⟨own, hown, -⟩ := hs.exists_outputId hn
      rw [hs.releaseConsole_eq hn hown]
      exact ⟨fun m hm => (Arena.mem_entries_retain.mp hm).1, Arena.length_slots_retain _ _⟩
  cases op with
  | consoleFor => cases h
  | streamFor => cases h
  | releaseConsole k => exact hrelease k
  | releaseOutput outputId =>
    rw [perform]
    exact releaseOutput_cases outputId (hsame rfl) hrelease
  | releaseStream k =>
    rw [perform, releaseStream_fst]
    exact ⟨fun m hm => Arena.mem_entries_of_tenants (Arena.tenant?_of_tenant?_remove k) hm,
      Arena.length_slots_remove r.streams k⟩
  | write stream text => exact hsame (quiet_write r stream text).sameLists.streams
  | writeLine console execId text =>
    exact hsame (quiet_writeLine r console execId text).sameLists.streams
  | holdConsole | dropConsole | holdStream | dropStream => exact hsame rfl

theorem atRest_perform (hr : r.AtRest) {op : Operation} (h : op.opens = false) :
    (r.perform op).AtRest := by
  obtain ⟨hentries, hslots⟩ := streams_perform hr.sound h
  refine ⟨sound_perform hr.sound op, ?_, by rw [hslots]; exact hr.slots⟩
  rw [List.eq_nil_iff_forall_not_mem]
  intro n hn
  have hbefore := hentries n hn
  rw [hr.entries] at hbefore
  cases hbefore

theorem changeOf_ne_ask {op : Operation} (h : op.opens = false) (spec : ConsoleSpec) :
    r.changeOf op ≠ .ask spec := by
  cases op with
  | consoleFor => cases h
  | releaseConsole => exact Ledger.Change.ofReleased_ne_ask
  | releaseOutput => exact Ledger.Change.ofReleased_ne_ask
  | write stream text => exact changeOfWrite_ne (by simp) (by simp)
  | _ => exact fun hask => by cases hask

/-- What makes no console takes a command its console only by releasing that. -/
theorem findConsole?_perform_ne_none_iff (hs : r.Sound) {op : Operation} (h : op.opens = false)
    (id : String) :
    (r.perform op).findConsole? id ≠ none ↔ r.findConsole? id ≠ none ∧
      ¬ ∃ n, r.released? op = some n ∧ r.findConsole? id = some n := by
  have hstep : (r.perform op).findConsole? id = (r.ledger.step (r.changeOf op)).listed id :=
    congrFun (congrArg Ledger.listed (ledger_perform hs op)) id
  rw [hstep, Ledger.listed_step_ne_none_iff (changeOf_ne_ask h)]
  simp only [changeOf_eq_release_iff]
  rfl

theorem findConsole?_consoleFor_ne_none_iff (hs : r.Sound) (spec : ConsoleSpec) :
    (r.consoleFor spec).1.findConsole? id ≠ none ↔
      id = spec.outputId ∨ r.findConsole? id ≠ none := by
  have hstep : (r.consoleFor spec).1.findConsole? id = (r.ledger.step (.ask spec)).listed id :=
    congrFun (congrArg Ledger.listed (ledger_consoleFor hs spec).1) id
  rw [hstep]
  exact Ledger.listed_step_ask_ne_none_iff r.ledger spec

/-- The commands that have a console are as many as the listed consoles. -/
theorem Sound.exists_ids (hs : r.Sound) :
    ∃ ids : List String, ids.Nodup ∧ (∀ id, id ∈ ids ↔ r.findConsole? id ≠ none) ∧
      r.liveConsoles = ids.length := by
  refine ⟨r.byOutputId.map (·.1), hs.byOutputId_increasing.nodup_keys, fun id => ?_, ?_⟩
  · rw [Dictionary.mem_keys_iff]
    cases hid : r.byOutputId.get? id with
    | none => simp [findConsole?_of_get?_eq_none hid]
    | some h =>
      obtain ⟨n, -, hfound⟩ := hs.findConsole?_of_get? hid
      simp [hfound]
  · rw [List.length_map, hs.length_byOutputId]
    rfl

/-! ### A stream for a while -/

/-- A registry that was at rest and has lent one stream to a run of a command. -/
structure Lends (r : Registry) (outputId : String) (h : Handle) (r' : Registry) : Prop where
  sound : r'.Sound
  stream : r'.streams.get? h ≠ none
  entries : r'.streams.entries.length = 1
  slots : r'.streams.slots.length ≤ 1
  found : ∀ id, r'.findConsole? id ≠ none ↔ id = outputId ∨ r.findConsole? id ≠ none

theorem AtRest.lends (hr : r.AtRest) (spec : ConsoleSpec) (execId : String) :
    let given := r.consoleFor spec
    let fed := given.1.streamFor execId given.2.2.1
    r.Lends spec.outputId fed.2.1 fed.1 := by
  intro given fed
  have hgiven : given.1.Sound := sound_consoleFor hr.sound spec
  have hstreams : given.1.streams = r.streams := streams_consoleFor hr.sound spec
  have hretained := Arena.wellFormed_retain hgiven.streams_wellFormed given.1.isHeld
  -- no stream is listed, so there is none to be reclaimed
  have hentries : (given.1.streams.retain given.1.isHeld).entries = [] := by
    rw [List.eq_nil_iff_forall_not_mem]
    intro n hn
    have hbefore := (Arena.mem_entries_retain.mp hn).1
    rw [hstreams, hr.entries] at hbefore
    cases hbefore
  refine ⟨sound_streamFor hgiven execId _, ?_, ?_, ?_, fun id => ?_⟩
  · rw [get?_streamFor hgiven]
    simp
  · refine (Arena.length_entries_insert hretained _).trans ?_
    rw [hentries]
    rfl
  · refine (Arena.length_slots_insert hretained _).trans_le ?_
    rw [Arena.length_slots_retain, hentries, hstreams]
    exact max_le hr.slots le_rfl
  · exact findConsole?_consoleFor_ne_none_iff hr.sound spec

theorem findConsole?_of_sameLists {r'' : Registry} (h : r'.SameLists r'') :
    r''.findConsole? id = r'.findConsole? id := by
  unfold findConsole?
  rw [h.byOutputId, h.consoles]

theorem Lends.of_sameLists {outputId : String} {h : Handle} {r'' : Registry}
    (hl : r.Lends outputId h r') (hsame : r'.SameLists r'') : r.Lends outputId h r'' := by
  refine ⟨hl.sound.of_same_lists hsame, ?_, ?_, ?_, fun id => ?_⟩
  · rw [hsame.streams]
    exact hl.stream
  · rw [hsame.streams]
    exact hl.entries
  · rw [hsame.streams]
    exact hl.slots
  · rw [findConsole?_of_sameLists hsame]
    exact hl.found id

theorem Lends.atRest {outputId : String} {h : Handle} (hl : r.Lends outputId h r') (n : Nat) :
    ((r'.releaseStream h).1.dropStream n).AtRest ∧
      ∀ id, ((r'.releaseStream h).1.dropStream n).findConsole? id ≠ none ↔
        id = outputId ∨ r.findConsole? id ≠ none := by
  obtain ⟨m, hm⟩ := Option.ne_none_iff_exists'.mp hl.stream
  have hentries := Arena.length_entries_remove hl.sound.streams_wellFormed hm
  rw [hl.entries, Nat.succ_inj] at hentries
  have hsound := (sound_releaseStream hl.sound h).of_same_lists (sameLists_dropStream _ n)
  rw [releaseStream_fst] at hsound ⊢
  refine ⟨⟨hsound, List.eq_nil_of_length_eq_zero hentries, ?_⟩, hl.found⟩
  exact (Arena.length_slots_remove r'.streams h).trans_le hl.slots

end Output.Registry

/-! ### Runs -/

namespace Runtime

variable {rt rt' : Runtime} {w w' : World} {engines : EngineTable} {engine : EngineKind}

/-- What becomes of a new run that comes to an engine, or to none. -/
structure Occupies (rt : Runtime) (engines : EngineTable) (engine : EngineKind) (w : World)
    (rt' : Runtime) (w' : World) : Prop where
  served : engines.Serves engine → ∃ h n, rt'.stream = some (h, n) ∧
    w.outputs.Lends rt.script.commandUniqueId h w'.outputs
  unserved : ¬ engines.Serves engine → rt'.stream = none ∧ w'.outputs = w.outputs

theorem Occupies.of_feed (hr : w.outputs.AtRest) (hnew : rt.New engine)
    (hserves : engines.Serves engine) {n : Nat} {fed : World}
    (hf : rt.feed.run w = ((rt', .ok n), fed)) (hq : fed.outputs.Quiet w'.outputs) :
    rt.Occupies engines engine w rt' w' := by
  refine ⟨fun _ => ?_, fun hnot => absurd hserves hnot⟩
  have hfeed := feed_run_of_new hnew w
  rw [hf] at hfeed
  injection hfeed with hrt hfed
  injection hrt with hrt _
  have hlends := hr.lends
    ((rt.pinned w.files).consoleSpec ((rt.pinned w.files).engineIn w.files)) rt.execId
  subst hrt hfed
  exact ⟨_, _, rfl, hlends.of_sameLists hq.sameLists⟩

theorem Occupies.of_idle (hnew : rt.New engine) (hnot : ¬ engines.Serves engine)
    (hout : w'.outputs = w.outputs) : rt.Occupies engines engine w rt w' :=
  ⟨fun hserves => absurd hserves hnot, fun _ => ⟨hnew.stream, hout⟩⟩

theorem occupies_handOver (hr : w.outputs.AtRest) (hnew : rt.New engine) (engines : EngineTable)
    (hprovided : engine.isProvided = true) :
    ∃ rt' ending w', (rt.handOver engine engines).run w = ((rt', .ok ending), w') ∧
      rt.Occupies engines engine w rt' w' := by
  cases hh : engines.get? engine with
  | some handler =>
    obtain ⟨rt', n, fed, hf⟩ := exists_feed rt w hnew.phase
    obtain ⟨ending, w', hrun, hq⟩ := handOver_of_feed hf hh
    exact ⟨rt', ending, w', hrun, .of_feed hr hnew (Or.inr ⟨handler, hh⟩) hf hq⟩
  | none =>
    have hnot : ¬ engines.Serves engine := by
      rintro (rfl | ⟨handler, hhandler⟩)
      · cases hprovided
      · rw [hh] at hhandler
        cases hhandler
    unfold handOver
    rw [hh]
    exact ⟨rt, _, _, rfl, .of_idle hnew hnot rfl⟩

/-- **A new run lists one stream if it comes to an engine**, and none otherwise. -/
theorem occupies_execute (hr : w.outputs.AtRest) (hnew : rt.New engine) (engines : EngineTable) :
    ∃ rt' ending w', (rt.execute engine engines).run w = ((rt', .ok ending), w') ∧
      rt.Occupies engines engine w rt' w' := by
  cases engine with
  | unknown =>
    have hnot : ¬ engines.Serves .unknown := by
      rintro (h | ⟨handler, h⟩)
      · cases h
      · cases h
    exact ⟨rt, _, _, rfl, .of_idle hnew hnot rfl⟩
  | script =>
    obtain ⟨rt', n, fed, hf⟩ := exists_feed rt w hnew.phase
    obtain ⟨w', hrun, hq⟩ := interpret_of_feed hf engines.interpreter
    exact ⟨rt', _, w', hrun, .of_feed hr hnew (Or.inl rfl) hf hq⟩
  | compiled => exact occupies_handOver hr hnew engines rfl
  | visual => exact occupies_handOver hr hnew engines rfl
  | invoke => exact occupies_handOver hr hnew engines rfl

theorem occupies_carryOut (hr : w.outputs.AtRest) (hnew : rt.New engine) (engines : EngineTable) :
    ∃ rt' outcome w', (rt.carryOut engines).run w = ((rt', .ok outcome), w') ∧
      rt.Occupies engines engine w rt' w' := by
  have hengine : rt.engineIn w.files = engine := by
    unfold engineIn
    rw [hnew.engine]
    rfl
  unfold carryOut
  simp only [Act.run_bind, Act.run_get, Act.run_tell, hengine]
  generalize hbegun : ({ w with told := _ } : World) = begun
  have hout : begun.outputs = w.outputs := by rw [← hbegun]
  obtain ⟨rt', ending, w', hrun, hserved, hunserved⟩ :=
    occupies_execute (hout ▸ hr) hnew engines
  rw [hout] at hserved hunserved
  rw [hrun]
  exact ⟨_, _, _, rfl, hserved, hunserved⟩

theorem occupies_attempt (hr : w.outputs.AtRest) (engines : EngineTable) (execId : String)
    (captured : Environment) (script : ScriptData) (context : Context) :
    let rt := fresh execId captured script context
    ∃ rt' outcome w', (rt.attempt engines).run w = ((rt', .ok outcome), w') ∧
      rt.Occupies engines (rt.engineIn w.files) w rt' w' := by
  intro rt
  have hnew : ({ rt.pinned w.files with phase := .running } : Runtime).New (rt.engineIn w.files) :=
    ⟨by simp, rfl, rfl, rfl⟩
  obtain ⟨rt', outcome, w', hrun, hserved, hunserved⟩ := occupies_carryOut hr hnew engines
  rw [attempt_of_configured rfl]
  exact ⟨rt', outcome, w', hrun, hserved, hunserved⟩

theorem Occupies.dispose (hr : w.outputs.AtRest) (ho : rt.Occupies engines engine w rt' w') :
    (rt'.dispose.run w').2.outputs.AtRest ∧
      ∀ id, (rt'.dispose.run w').2.outputs.findConsole? id ≠ none ↔
        (rt.script.commandUniqueId = id ∧ engines.Serves engine) ∨
          w.outputs.findConsole? id ≠ none := by
  obtain ⟨told, hd⟩ := dispose_run rt' w'
  rw [hd]
  dsimp only
  by_cases hserves : engines.Serves engine
  · obtain ⟨h, n, hstream, hlends⟩ := ho.served hserves
    rw [closeStream_of_some hstream]
    obtain ⟨hrest, hfound⟩ := hlends.atRest n
    refine ⟨hrest, fun id => (hfound id).trans ?_⟩
    rw [and_iff_left hserves, eq_comm]
  · obtain ⟨hstream, hout⟩ := ho.unserved hserves
    rw [closeStream_of_none hstream, hout]
    refine ⟨hr, fun id => ?_⟩
    exact (or_iff_right fun h => hserves h.2).symm

end Runtime

/-- **A run leaves the registry at rest.** It puts the console of its command on the list if it comes to an
engine, and changes the list of consoles in no other way. -/
theorem atRest_runScript {w : World} (hr : w.outputs.AtRest) (engines : EngineTable) (execId : String)
    (captured : Environment) (script : ScriptData) (context : Context) :
    let w' := ((runScript engines execId captured script context).run w).2
    let engine := (Runtime.fresh execId captured script context).engineIn w.files
    w'.outputs.AtRest ∧ ∀ id, w'.outputs.findConsole? id ≠ none ↔
      (script.commandUniqueId = id ∧ engines.Serves engine) ∨ w.outputs.findConsole? id ≠ none := by
  intro w' engine
  have hrMade : (Runtime.madeIn w execId captured script context).outputs.AtRest := hr
  obtain ⟨rt', outcome, ran, hrun, hoccupies⟩ :=
    Runtime.occupies_attempt hrMade engines execId captured script context
  obtain ⟨told, hdone⟩ := runScript_of_attempt hrun
  have hout : w'.outputs = (rt'.dispose.run ran).2.outputs := by
    unfold w'
    rw [hdone]
  rw [hout]
  exact hoccupies.dispose hrMade

/-! ### Errands -/

theorem atRest_does {w : World} (hr : w.outputs.AtRest) (e : Errand) : (w.does e).outputs.AtRest := by
  cases e with
  | run engines execId captured script context =>
    exact (atRest_runScript hr engines execId captured script context).1
  | ask op h => exact Registry.atRest_perform hr h
  | change files process => exact hr

theorem findConsole?_does_ne_none_iff {w : World} (hr : w.outputs.AtRest) (e : Errand) (id : String) :
    (w.does e).outputs.findConsole? id ≠ none ↔
      e.Serves w id ∨ (w.outputs.findConsole? id ≠ none ∧ ¬ e.Releases w id) := by
  cases e with
  | run engines execId captured script context =>
    have hfound := (atRest_runScript hr engines execId captured script context).2 id
    exact hfound.trans (or_congr Iff.rfl (and_iff_left fun h => h).symm)
  | ask op h =>
    have hfound := Registry.findConsole?_perform_ne_none_iff hr.sound h id
    exact hfound.trans (or_iff_right fun h => h).symm
  | change files process =>
    exact ((or_iff_right fun h => h).trans (and_iff_left fun h => h)).symm

/-- The consoles that are listed after some errands are those of the commands that are attended to. -/
theorem atRest_after {w : World} (hempty : w.outputs = .empty) (errands : List Errand) :
    (w.after errands).outputs.AtRest ∧
      ∀ id, (w.after errands).outputs.findConsole? id ≠ none ↔ Attended w errands id := by
  induction errands using List.reverseRecOn with
  | nil =>
    have hout : (w.after []).outputs = .empty := hempty
    rw [hout]
    refine ⟨Registry.atRest_empty, fun id => iff_of_false (fun hfound => hfound rfl) ?_⟩
    rintro ⟨i, w', e, hmeets, -⟩
    exact absurd hmeets.lt_length (Nat.not_lt_zero i)
  | append_singleton errands e ih =>
    obtain ⟨hr, hfound⟩ := ih
    have hafter : w.after (errands ++ [e]) = (w.after errands).does e := List.foldl_concat ..
    rw [hafter]
    refine ⟨atRest_does hr e, fun id => ?_⟩
    rw [findConsole?_does_ne_none_iff hr, attended_concat, hfound]

/-- **Runs leave nothing behind but the consoles of their commands.** Take a host that begins with an empty
registry and opens no console and no stream itself. After any errands no stream is live, all streams have had
one slot, and there are as many live consoles as commands that are attended to. -/
theorem residue_after (w : World) (errands : List Errand) :
    let start : World := { w with outputs := .empty }
    let r := (start.after errands).outputs
    r.liveStreams = 0 ∧ r.streams.slots.length ≤ 1 ∧
      ∃ ids : List String, ids.Nodup ∧ (∀ id, id ∈ ids ↔ Attended start errands id) ∧
        r.liveConsoles = ids.length := by
  intro start r
  obtain ⟨hr, hfound⟩ : r.AtRest ∧ ∀ id, r.findConsole? id ≠ none ↔ Attended start errands id :=
    atRest_after rfl errands
  obtain ⟨ids, hnodup, hids, hcount⟩ := hr.sound.exists_ids
  refine ⟨?_, hr.slots, ids, hnodup, fun id => (hids id).trans (hfound id), hcount⟩
  unfold Registry.liveStreams
  rw [hr.entries]
  rfl

end HostedScripts
