import HostedScripts.Proofs.Executor.Place
import HostedScripts.Proofs.Runtime.Logs
import HostedScripts.Proofs.Runtime.Results
import HostedScripts.Proofs.Runtime.Variables
import HostedScripts.Proofs.Runtime.Windows

/-! # Looking at a runtime

A host may look at a runtime before it runs it (`Runtime.Look`). Some looks leave something behind: the engine
is decided, a console is made, a stream is opened, and there is a map for the results. A runtime and a world
after some looks are *looked at* (`Runtime.Looked`): they ask for what they would have asked for anyway, and get
the same. Every look keeps that (`looked_look`), and so do all looks one after the other (`looked_lookAt`).

So the run comes to the same (`looking_leaves_the_run`), with one exception. The map for the results hides the
variable that every script has for them, and stands elsewhere in the scope. A script can tell if it exports its
results under a name under which it also exports another of the variables that it was given
(`Runtime.ExportsApart`, `looking_shows`). -/

namespace HostedScripts

open HostedScripts.Language
open Output (Handle Registry)

namespace Runtime

/-- What a host may look at; the results may be changed then, but are not. -/
inductive Look where
  | state
  | kind
  | engine
  | engineVersion
  | sourceFile
  | sourceSignature
  | application
  | uiApplication
  | controlledApplication
  | uiControlledApplication
  | documentName
  | documentPath
  | logPath
  | outputWindow
  | outputStream
  | results

/-- What a host sees. -/
inductive Sight where
  | phase (p : Phase)
  | kind (k : RunKind)
  | engine (e : EngineKind)
  | text (s : String)
  | path (p : Option Path)
  | time (t : Option Int)
  | host (h : Option Host)
  | number (n : Except Refusal Nat)
  | results (d : Dictionary String)

/-- Looks at a runtime: the runtime that is left, and what is seen. -/
def look (rt : Runtime) : Look → Act (Runtime × Sight)
  | .state => return (rt, .phase rt.phase)
  | .kind => return (rt, .kind rt.kind)
  | .engine => do
    let files := (← get).files
    return (rt.pinned files, .engine (rt.engineIn files))
  | .engineVersion => do
    let files := (← get).files
    return (rt.pinned files, .text (rt.versionOf (rt.engineIn files)))
  | .sourceFile => return (rt, .path (some rt.sourceFile))
  | .sourceSignature => do return (rt, .time ((← get).files.changed? rt.sourceFile))
  | .application => return (rt, .host rt.application)
  | .uiApplication => return (rt, .host rt.uiApplication)
  | .controlledApplication => return (rt, .host rt.hosts.controlledApplication)
  | .uiControlledApplication => return (rt, .host rt.hosts.uiControlledApplication)
  | .documentName => return (rt, .text rt.documentName)
  | .documentPath => return (rt, .text rt.documentPath)
  | .logPath => return (rt, .path rt.logPath)
  | .outputWindow => do
    let (rt, n) ← rt.window
    return (rt, .number n)
  | .outputStream => do
    let (rt, n) ← rt.feed
    return (rt, .number n)
  | .results => return (rt.editResults id, .results (rt.results.getD []))

/-- Looks at a runtime again and again. -/
def lookAt (rt : Runtime) : List Look → Act Runtime
  | [] => return rt
  | l :: looks => do
    let (rt, _) ← rt.look l
    rt.lookAt looks

variable {rt rt' rt'' : Runtime} {w w' w'' : World} {looks looks' : List Look}

/-! ### What a look does -/

/-- What a look leaves behind: nothing, the engine, a console, a stream, or a map for the results. -/
theorem look_cases (rt : Runtime) (l : Look) (w : World) :
    let left := (rt.look l).run w
    (left.1.1 = rt ∧ left.2 = w) ∨ (left.1.1 = rt.pinned w.files ∧ left.2 = w) ∨
      (left.1.1 = (rt.window.run w).1.1 ∧ left.2 = (rt.window.run w).2) ∨
      (left.1.1 = (rt.feed.run w).1.1 ∧ left.2 = (rt.feed.run w).2) ∨
      (l = .results ∧ left.1.1 = rt.editResults id ∧ left.2 = w) := by
  cases l with
  | engine | engineVersion => exact Or.inr (Or.inl ⟨rfl, rfl⟩)
  | outputWindow => exact Or.inr (Or.inr (Or.inl ⟨rfl, rfl⟩))
  | outputStream => exact Or.inr (Or.inr (Or.inr (Or.inl ⟨rfl, rfl⟩)))
  | results => exact Or.inr (Or.inr (Or.inr (Or.inr ⟨rfl, rfl, rfl⟩)))
  | _ => exact Or.inl ⟨rfl, rfl⟩

theorem listed_window (hs : w.outputs.Sound) {c : Nat} (hw : rt.window.run w = ((rt', .ok c), w')) :
    rt'.phase ≠ .disposed ∧ rt'.console.bind w'.outputs.console? = some c := by
  by_cases h : rt.phase = .disposed
  · rw [window_of_disposed h] at hw
    cases hw
  cases hn : rt.console.bind w.outputs.console? with
  | some n =>
    rw [window_of_listed h hn] at hw
    cases hw
    exact ⟨h, hn⟩
  | none =>
    rw [window_of_not_listed h hn] at hw
    cases hw
    exact ⟨h, Registry.console?_consoleFor hs _⟩

theorem feed_window (hs : w.outputs.Sound) {c : Nat} (hw : rt.window.run w = ((rt', .ok c), w')) :
    rt'.feed.run w' = rt.feed.run w := by
  obtain ⟨hphase, hn⟩ := listed_window hs hw
  unfold feed
  rw [Act.run_bind, Act.run_bind, hw, window_of_listed hphase hn]

theorem feed_feed (hs : w.outputs.Sound) {n : Nat} (hf : rt.feed.run w = ((rt', .ok n), w')) :
    rt'.feed.run w' = ((rt', .ok n), w') := by
  by_cases h : rt.phase = .disposed
  · rw [feed_of_disposed h] at hf
    cases hf
  obtain ⟨seen, c, before, hw⟩ := exists_window rt w h
  obtain ⟨-, -, -, -, hmem, -⟩ := window_spares hs hw
  obtain ⟨hphase, hn⟩ := listed_window hs hw
  cases hcurrent : seen.streamTo before.outputs c with
  | some s =>
    rw [feed_of_current hw hcurrent] at hf
    cases hf
    exact feed_of_current (window_of_listed hphase hn) hcurrent
  | none =>
    obtain ⟨hcon, -, -, -⟩ := closeStream_silent seen before
    rw [feed_of_not_current hw hcurrent, openStream_run] at hf
    dsimp only at hf
    generalize (seen.closeStream.run before).2 = closed at hf hcon
    generalize hmade : closed.outputs.streamFor seen.execId c = made at hf
    cases hf
    -- the console is still listed, and the new stream feeds it
    have hlist : made.1.consoles = before.outputs.consoles := by
      rw [← hmade]
      exact hcon
    have hlisted : seen.console.bind made.1.console? = some c := by
      rw [← hn]
      unfold Registry.console?
      rw [hlist]
    have hthere : made.1.isThere c = true := by
      unfold Registry.isThere
      rw [hlist, List.contains_iff_mem.mpr hmem, Bool.true_or]
    have hfeeds : made.1.feeds? made.2.2.1 = some c := by
      have hlast : made.1.streamAt? made.2.2.1 = some ⟨seen.execId, c⟩ := by
        rw [← hmade]
        exact List.getElem?_concat_length
      unfold Registry.feeds?
      rw [hlast]
      rfl
    refine feed_of_current (h := made.2.1) (window_of_listed ?_ ?_)
      (streamTo_eq_some_iff.mpr ⟨rfl, hfeeds, hthere⟩)
    · exact hphase
    · exact hlisted

/-! ### What stays -/

theorem engineIn_window (rt : Runtime) (w : World) :
    (rt.window.run w).1.1.engineIn w.files = rt.engineIn w.files :=
  window_keeps (motive := fun seen _ => seen.engineIn w.files = rt.engineIn w.files) rt w rfl rfl

theorem engineIn_feed (rt : Runtime) (w : World) : (rt.feed.run w).1.1.engineIn w.files = rt.engineIn w.files :=
  feed_keeps (motive := fun seen _ => seen.engineIn w.files = rt.engineIn w.files) rt w
    (engineIn_window rt w) (fun _ _ h => h) fun _ _ _ h => h

theorem linesFor_window (rt : Runtime) (hs : w.outputs.Sound) (n : Nat) (execId : String) :
    (rt.window.run w).2.outputs.linesFor n execId = w.outputs.linesFor n execId :=
  window_keeps (motive := fun _ after => after.outputs.linesFor n execId = w.outputs.linesFor n execId) rt w
    rfl (Registry.linesFor_consoleFor hs _ n execId)

theorem linesFor_feed (rt : Runtime) (hs : w.outputs.Sound) (n : Nat) (execId : String) :
    (rt.feed.run w).2.outputs.linesFor n execId = w.outputs.linesFor n execId := by
  refine feed_keeps (motive := fun _ after => after.outputs.linesFor n execId = w.outputs.linesFor n execId)
    rt w (linesFor_window rt hs n execId) (fun seen before h => ?_) fun seen before c h => ?_
  · rw [Registry.linesFor_congr (closeStream_silent seen before).2.1, h]
  · rw [← h]
    exact Registry.linesFor_congr rfl n execId

/-- A runtime and a world after some looks, compared with how they were before: the results stay, or there are
some without entries; the files and all lines are as they were; and the runtime gets the stream that it would
have got. -/
structure Looked (looks : List Look) (rt : Runtime) (w : World) (rt' : Runtime) (w' : World) : Prop where
  runtime : Equipped { rt with results := rt'.results } rt'
  results : rt'.results = rt.results ∨ .results ∈ looks ∧ rt.results = none ∧ rt'.results = some []
  engine : rt'.engineIn w'.files = rt.engineIn w.files
  files : w'.files = w.files
  lines : ∀ n execId, w'.outputs.linesFor n execId = w.outputs.linesFor n execId
  given : GivenAlike (rt.feed.run w) (rt'.feed.run w')

theorem Looked.refl (looks : List Look) (rt : Runtime) (w : World) : Looked looks rt w rt w :=
  ⟨.refl rt, Or.inl rfl, rfl, rfl, fun _ _ => rfl, .refl _⟩

theorem Looked.trans (h : Looked looks rt w rt' w') (h' : Looked looks' rt' w' rt'' w'') :
    Looked (looks ++ looks') rt w rt'' w'' where
  runtime := by
    have hfirst := h.runtime
    have hsecond := h'.runtime
    unfold Equipped at hfirst hsecond ⊢
    rw [hsecond]
    rw [hfirst]
  results := by
    rcases h.results with hsame | ⟨hmem, hnone, htouched⟩
    · rcases h'.results with hsame' | ⟨hmem', hnone', htouched'⟩
      · exact Or.inl (hsame'.trans hsame)
      · exact Or.inr ⟨List.mem_append_right _ hmem', hsame ▸ hnone', htouched'⟩
    · rcases h'.results with hsame' | ⟨-, hnone', -⟩
      · exact Or.inr ⟨List.mem_append_left _ hmem, hnone, hsame'.trans htouched⟩
      · rw [htouched] at hnone'
        cases hnone'
  engine := h'.engine.trans h.engine
  files := h'.files.trans h.files
  lines n execId := (h'.lines n execId).trans (h.lines n execId)
  given := h.given.trans h'.given

/-- A runtime that was only equipped has the results that it had. -/
theorem Equipped.looked_runtime (h : rt.Equipped rt') : Equipped { rt with results := rt'.results } rt' := by
  rw [h.results]
  exact h

/-- Every look leaves a runtime that asks for what it would have asked for anyway. -/
theorem looked_look (hs : w.outputs.Sound) (h : rt.phase ≠ .disposed) (l : Look) :
    ((rt.look l).run w).2.outputs.Sound ∧ Looked [l] rt w ((rt.look l).run w).1.1 ((rt.look l).run w).2 := by
  obtain ⟨hrt, hw⟩ | ⟨hrt, hw⟩ | ⟨hrt, hw⟩ | ⟨hrt, hw⟩ | ⟨rfl, hrt, hw⟩ := look_cases rt l w
  all_goals rw [hrt, hw]
  · exact ⟨hs, .refl _ rt w⟩
  · have halike : rt.AsksAlike w (rt.pinned w.files) w := ⟨h, h, rfl, rfl, rfl, rfl, rfl⟩
    exact ⟨hs, rfl, Or.inl rfl, rfl, rfl, fun _ _ => rfl, halike.feed⟩
  · have hequipped := equipped_window rt w
    have hidle := (idle_window rt w).1
    refine ⟨sound_window hs, hequipped.looked_runtime, Or.inl hequipped.results, ?_, hidle,
      linesFor_window rt hs, ?_⟩
    · rw [hidle]
      exact engineIn_window rt w
    · obtain ⟨rt', c, w', hw⟩ := exists_window rt w h
      rw [hw, feed_window hs hw]
      exact .refl _
  · have hequipped := equipped_feed rt w
    have hidle := (idle_feed rt w).1
    refine ⟨sound_feed rt hs, hequipped.looked_runtime, Or.inl hequipped.results, ?_, hidle,
      linesFor_feed rt hs, ?_⟩
    · rw [hidle]
      exact engineIn_feed rt w
    · obtain ⟨rt', n, w', hf⟩ := exists_feed rt w h
      rw [hf, feed_feed hs hf]
      exact .refl _
  · have halike : rt.AsksAlike w (rt.editResults id) w := ⟨h, h, rfl, rfl, rfl, rfl, rfl⟩
    refine ⟨hs, rfl, ?_, rfl, rfl, fun _ _ => rfl, halike.feed⟩
    cases hresults : rt.results with
    | none =>
      refine Or.inr ⟨List.mem_singleton_self _, rfl, ?_⟩
      unfold editResults
      rw [hresults]
      rfl
    | some results =>
      refine Or.inl ?_
      unfold editResults
      rw [hresults]
      rfl

/-- So do all looks one after the other. -/
theorem looked_lookAt (hs : w.outputs.Sound) (h : rt.phase ≠ .disposed) (looks : List Look) :
    Looked looks rt w ((rt.lookAt looks).run w).1 ((rt.lookAt looks).run w).2 := by
  induction looks generalizing rt w with
  | nil => exact .refl [] rt w
  | cons l looks ih =>
    obtain ⟨hsound, hlooked⟩ := looked_look hs h l
    have hphase : ((rt.look l).run w).1.1.phase ≠ .disposed := by
      rw [hlooked.runtime.phase]
      exact h
    exact hlooked.trans (ih hsound hphase)

/-! ### What a script is given -/

/-- No variable that a run gives its script is left exported under a name under which the results are left
exported too. -/
def ExportsApart (rt : Runtime) (files : FileTree) : Prop :=
  let given := rt.executor.givenLeft files rt.sourceFile rt.searchPaths rt.vars
  ∀ b ∈ given, ∀ c ∈ given, b.name = "__results__" → c.name ≠ "__results__" → b.exports.Disjoint c.exports

theorem vars_touched (hnone : rt.results = none) :
    ({ rt with results := some [] } : Runtime).vars = rt.vars.insert "__results__" (.map []) := by
  unfold vars Dictionary.ofEntries
  rw [hnone]
  simp only [Option.toList_some, Option.toList_none, List.map_nil, List.append_nil, List.map_cons,
    List.foldl_append, List.foldl_cons, List.foldl_nil]
  rfl

theorem execution_touched (hnone : rt.results = none) {files : FileTree} (hapart : rt.ExportsApart files) :
    ({ rt with results := some [] } : Runtime).execution .standard files = rt.execution .standard files := by
  have hget : rt.vars.get? "__results__" = none := by
    rw [get?_vars, hnone]
    rfl
  unfold execution
  rw [vars_touched hnone]
  exact Executor.execute_insert_results hget hapart rt.logPath

/-- A script comes to the same, whether the results were looked at or not. -/
theorem Looked.execution (h : Looked looks rt w rt' w') {interpreter : Interpreter}
    (hapart : .results ∈ looks → rt.results = none → interpreter = .standard ∧ rt.ExportsApart w.files) :
    rt'.execution interpreter w'.files = rt.execution interpreter w.files := by
  rw [h.files, h.runtime.execution]
  obtain hsame | ⟨hmem, hnone, htouched⟩ := h.results
  · rw [hsame]
  · obtain ⟨rfl, hexports⟩ := hapart hmem hnone
    rw [htouched]
    exact execution_touched hnone hexports

theorem Looked.request (h : Looked looks rt w rt' w') : rt'.request = rt.request := h.runtime.request

theorem Looked.contributed (h : Looked looks rt w rt' w') : rt'.results.getD [] = rt.results.getD [] := by
  obtain hsame | ⟨-, hnone, htouched⟩ := h.results
  · rw [hsame]
  · rw [hnone, htouched]
    rfl

/-! ### Running -/

/-- What two runs come to by their engines is the same for their hosts. -/
structure EndsAlike (done done' : (Runtime × Except Refusal Ending) × World) : Prop where
  answer : done'.1.2 = done.1.2
  files : done'.2.files = done.2.files
  lines : ∀ n execId, done'.2.outputs.linesFor n execId = done.2.outputs.linesFor n execId

theorem outputs_forM_writeTo (hout : w'.outputs = w.outputs) (stream : Nat) (texts : List String) :
    ((texts.forM (Act.writeTo stream)).run w').2.outputs =
      ((texts.forM (Act.writeTo stream)).run w).2.outputs := by
  induction texts generalizing w w' with
  | nil => exact hout
  | cons text texts ih => exact ih (congrArg (fun r => (r.write stream text).1) hout)

section

variable (hlive : rt.phase ≠ .disposed) (hlive' : rt'.phase ≠ .disposed)
  (hgiven : GivenAlike (rt.feed.run w) (rt'.feed.run w')) (hfiles : w'.files = w.files)
  (hlines : ∀ n execId, w'.outputs.linesFor n execId = w.outputs.linesFor n execId)

include hlive hlive' hgiven

theorem interpret_of_given {interpreter : Interpreter}
    (hexecution : rt'.execution interpreter w'.files = rt.execution interpreter w.files) :
    EndsAlike ((rt.interpret interpreter).run w) ((rt'.interpret interpreter).run w') := by
  obtain ⟨fed, n, done, hf⟩ := exists_feed rt w hlive
  obtain ⟨fed', n', done', hf'⟩ := exists_feed rt' w' hlive'
  rw [hf, hf'] at hgiven
  obtain rfl : n' = n := Except.ok.inj hgiven.answer
  have hout : done'.outputs = done.outputs := hgiven.outputs
  rw [interpret_run hf, interpret_run hf', hexecution]
  let both := rt.execution interpreter w.files
  obtain ⟨hkept, hspoken⟩ := perform_run n' both.actions { done with files := both.files }
  obtain ⟨hkept', hspoken'⟩ := perform_run n' both.actions { done' with files := both.files }
  refine ⟨rfl, hkept'.trans hkept.symm, fun n execId => ?_⟩
  dsimp only
  rw [hspoken, hspoken', hout]

include hfiles hlines

theorem handOver_of_given (hrequest : rt'.request = rt.request) (engine : EngineKind) (engines : EngineTable) :
    EndsAlike ((rt.handOver engine engines).run w) ((rt'.handOver engine engines).run w') := by
  cases hh : engines.get? engine with
  | none =>
    unfold handOver
    rw [hh]
    exact ⟨rfl, hfiles, hlines⟩
  | some handler =>
    obtain ⟨fed, n, done, hf⟩ := exists_feed rt w hlive
    obtain ⟨fed', n', done', hf'⟩ := exists_feed rt' w' hlive'
    have hequipped := equipped_feed rt w
    have hequipped' := equipped_feed rt' w'
    have hidle := (idle_feed rt w).1
    have hidle' := (idle_feed rt' w').1
    rw [hf] at hgiven hequipped hidle
    rw [hf'] at hgiven hequipped' hidle'
    replace hequipped : fed.request = rt.request := hequipped.request
    replace hequipped' : fed'.request = rt'.request := hequipped'.request
    obtain rfl : n' = n := Except.ok.inj hgiven.answer
    -- the handler is asked the same, and writes to the same consoles
    rw [handOver_run hf hh, handOver_run hf' hh, hequipped, hequipped', hrequest]
    let texts := (handler (rt.request engine n')).written
    let asked (done : World) : World := { done with asked := done.asked ++ [rt.request engine n'] }
    have hout : (asked done').outputs = (asked done).outputs := hgiven.outputs
    have hwritten : ((texts.forM (Act.writeTo n')).run (asked done')).2.outputs =
        ((texts.forM (Act.writeTo n')).run (asked done)).2.outputs := outputs_forM_writeTo hout n' texts
    have hkept : ((texts.forM (Act.writeTo n')).run (asked done)).2.files = w.files :=
      (files_forM_writeTo n' texts _).trans hidle
    have hkept' : ((texts.forM (Act.writeTo n')).run (asked done')).2.files = w'.files :=
      (files_forM_writeTo n' texts _).trans hidle'
    refine ⟨rfl, (hkept'.trans hfiles).trans hkept.symm, fun n execId => ?_⟩
    dsimp only
    rw [hwritten]

/-- **Runs that are given the same come to the same**, whichever engine they have. -/
theorem execute_of_given {engine : EngineKind} (engines : EngineTable)
    (hexecution : engine = .script →
      rt'.execution engines.interpreter w'.files = rt.execution engines.interpreter w.files)
    (hrequest : rt'.request = rt.request) :
    EndsAlike ((rt.execute engine engines).run w) ((rt'.execute engine engines).run w') := by
  cases engine with
  | unknown => exact ⟨rfl, hfiles, hlines⟩
  | script => exact interpret_of_given hlive hlive' hgiven (hexecution rfl)
  | compiled => exact handOver_of_given hlive hlive' hgiven hfiles hlines hrequest .compiled engines
  | visual => exact handOver_of_given hlive hlive' hgiven hfiles hlines hrequest .visual engines
  | invoke => exact handOver_of_given hlive hlive' hgiven hfiles hlines hrequest .invoke engines

end

theorem given_begun (h : rt.phase ≠ .disposed) (told : List Event) :
    GivenAlike (rt.feed.run w) ((rt.begun w.files).feed.run { w with told := told }) := by
  have halike : rt.AsksAlike w (rt.begun w.files) { w with told := told } :=
    ⟨h, nofun, rfl, rfl, rfl, rfl, rfl⟩
  exact halike.feed

theorem contributed_ended (h : rt'.results.getD [] = rt.results.getD []) (e : Ending) :
    (rt'.ended e).results.getD [] = (rt.ended e).results.getD [] := by
  unfold ended
  dsimp only
  split_ifs
  · exact h
  · rw [h]

/-- **A run comes to the same after some looks.** -/
theorem Looked.run (h : Looked looks rt w rt' w') (hphase : rt.phase = .configured) (engines : EngineTable)
    (hapart : .results ∈ looks → rt.results = none → rt.engineIn w.files = .script →
      engines.interpreter = .standard ∧ rt.ExportsApart w.files) :
    ∃ last last' outcome after after', (rt.run engines).run w = (.ok (last, outcome), after) ∧
      (rt'.run engines).run w' = (.ok (last', outcome), after') ∧ last'.left = last.left ∧
      last'.results.getD [] = last.results.getD [] ∧ after'.files = after.files ∧
      ∀ n execId, after'.outputs.linesFor n execId = after.outputs.linesFor n execId := by
  have hphase' : rt'.phase = .configured := h.runtime.phase.trans hphase
  have hne : rt.phase ≠ .disposed := by rw [hphase]; decide
  have hne' : rt'.phase ≠ .disposed := by rw [hphase']; decide
  let begun := rt.begun w.files
  let begun' := rt'.begun w'.files
  have hlive : begun.phase ≠ .disposed := nofun
  have hlive' : begun'.phase ≠ .disposed := nofun
  have hengine : begun'.engineIn w'.files = begun.engineIn w.files := h.engine
  obtain ⟨told, toldAfter, fed, ending, done, hexecute, hfed, hrun⟩ := carryOut_eq begun w hlive engines
  obtain ⟨told', toldAfter', fed', ending', done', hexecute', hfed', hrun'⟩ :=
    carryOut_eq begun' w' hlive' engines
  rw [hengine] at hexecute'
  -- both get the same stream, and do the same with it
  have hgiven := (given_begun hne told).symm.trans (h.given.trans (given_begun hne' told'))
  have hexecution (hscript : begun.engineIn w.files = .script) :
      begun'.execution engines.interpreter w'.files = begun.execution engines.interpreter w.files :=
    h.execution fun hmem hnone => hapart hmem hnone hscript
  have halike := execute_of_given hlive hlive' hgiven h.files h.lines engines hexecution h.request
  rw [hexecute, hexecute'] at halike
  obtain ⟨hanswer, hfiles, hlines⟩ := halike
  obtain rfl : ending' = ending := Except.ok.inj hanswer
  have hresults : fed'.results.getD [] = fed.results.getD [] := by
    rw [hfed.equipped.results, hfed'.equipped.results]
    exact h.contributed
  refine ⟨_, _, _, _, _, run_of_attempt ((attempt_of_configured hphase engines w).trans hrun),
    run_of_attempt ((attempt_of_configured hphase' engines w').trans hrun'), rfl,
    contributed_ended hresults ending', hfiles, hlines⟩

end Runtime

/-- **Looking does not change a run.** Take any runtime that can begin, in a world with any history, and any
looks at it, in any order and number. If the run comes after the looks its outcome, its message, its log, its
results, the files and the lines of every run in every console are what they are if it comes at once. Only
where the results are looked at of a runtime that has none, and the interpreter runs the script, which is then
the standard one, the script must not export its results under a name under which it also exports another of
the variables that it was given. -/
theorem looking_leaves_the_run (w : World) (before : List Session.Deed) (files : FileTree) {rt : Runtime}
    (hphase : rt.phase = .configured) (looks : List Runtime.Look) (engines : EngineTable)
    (hapart : .results ∈ looks → rt.results = none → rt.engineIn files = .script →
      engines.interpreter = .standard ∧ rt.ExportsApart files) :
    let start := Session.worldSince w before files
    let looked := (rt.lookAt looks).run start
    ∃ last last' outcome after after', (rt.run engines).run start = (.ok (last, outcome), after) ∧
      (looked.1.run engines).run looked.2 = (.ok (last', outcome), after') ∧ last'.left = last.left ∧
      last'.results.getD [] = last.results.getD [] ∧ after'.files = after.files ∧
      ∀ n execId, after'.outputs.linesFor n execId = after.outputs.linesFor n execId := by
  intro start looked
  have hsound : start.outputs.Sound := Session.sound_since (s := Session.start w) Registry.sound_empty before
  have hlive : rt.phase ≠ .disposed := by rw [hphase]; decide
  have hlooked := Runtime.looked_lookAt hsound hlive looks
  exact hlooked.run hphase engines hapart

/-- Files with a script and an empty module. -/
def filesWith (script : String) : FileTree :=
  ⟨[(["a.rhai"], .file (Text.toBytes script) none), (["m.rhai"], .file [] none)], []⟩

/-- A run of the script. -/
def plainRun : Runtime := .fresh "run" (.capture "" fun _ => none) (.forScript ⟨"a.rhai"⟩) .empty

/-- What the run comes to after some looks at it. -/
def lookedRun (files : FileTree) (looks : List Runtime.Look) : Except Refusal (Runtime × Outcome) × World :=
  let looked := (plainRun.lookAt looks).run (Session.worldSince default [] files)
  (looked.1.run .empty).run looked.2

/-- Looks at the stream, the results and the engine. -/
def touches : List Runtime.Look := [.outputStream, .results, .engine, .results]

/-- A script that exports its results and leaves one. -/
def apartFiles : FileTree :=
  filesWith "__results__.seen = 1; export __results__ as x; export __args__ as y; print(\"done\");"

/-- The run of that script after the looks leaves what it leaves at once. -/
theorem looking_leaves_the_run_touched :
    plainRun.phase = .configured ∧ plainRun.ExportsApart apartFiles ∧
      ∃ last last' outcome after after',
        (plainRun.run .empty).run (Session.worldSince default [] apartFiles) = (.ok (last, outcome), after) ∧
        lookedRun apartFiles touches = (.ok (last', outcome), after') ∧ last'.left = last.left ∧
        last'.results = some [("seen", "1")] ∧ after'.outputs.linesFor 1 "run" = ["done"] := by
  have hphase : plainRun.phase = .configured := rfl
  have hexports : ∀ b ∈ plainRun.executor.givenLeft apartFiles plainRun.sourceFile plainRun.searchPaths
        plainRun.vars,
      ∀ c ∈ plainRun.executor.givenLeft apartFiles plainRun.sourceFile plainRun.searchPaths plainRun.vars,
        b.name = "__results__" → c.name ≠ "__results__" → ∀ x ∈ b.exports, x ∉ c.exports := by
    decide +kernel
  have hapart : plainRun.ExportsApart apartFiles := fun b hb c hc hname hother x hx hx' =>
    hexports b hb c hc hname hother x hx hx'
  have hresults : (lookedRun apartFiles touches).1.toOption.map (·.1.results) = some (some [("seen", "1")]) := by
    decide +kernel
  have hlines : (lookedRun apartFiles touches).2.outputs.linesFor 1 "run" = ["done"] := by
    decide +kernel
  obtain ⟨last, last', outcome, after, after', hrun, hrun', hleft, -⟩ :=
    looking_leaves_the_run default [] apartFiles hphase touches .empty fun _ _ _ => ⟨rfl, hapart⟩
  replace hrun' : lookedRun apartFiles touches = (.ok (last', outcome), after') := hrun'
  rw [hrun'] at hresults hlines
  exact ⟨hphase, hapart, last, last', outcome, after, after', hrun, hrun', hleft,
    Option.some.inj hresults, hlines⟩

/-- A script that exports its results and its arguments under one name, and tells which of the two a module
finds. -/
def exportingFiles : FileTree :=
  filesWith "export __results__ as x; export __args__ as x; import \"m\" as m; __message__ = type_of(m::x);"

/-- The message of that script tells whether the results were looked at. -/
theorem looking_shows :
    plainRun.phase = .configured ∧
      ((plainRun.run .empty).run (Session.worldSince default [] exportingFiles)).1.toOption.map
        (·.1.traceMessage) = some "array" ∧
      (lookedRun exportingFiles [.results]).1.toOption.map (·.1.traceMessage) = some "map" := by
  refine ⟨rfl, ?_, ?_⟩
  · decide +kernel
  · decide +kernel

end HostedScripts
