import HostedScripts.Proofs.Executor.Course
import HostedScripts.Proofs.Runtime.Isolation
import HostedScripts.Proofs.Runtime.Variables

/-! # The results of a run

A host may ask for results before a run: the script finds them under `__results__`, as a map of texts, and may
do with that map whatever it likes. What it holds when the script has come to its end or has ended itself is
put on top of what was asked for (`Merged`), each entry with its text. No entry gets lost, also where the
script takes one out. In the other courses of a run nothing is changed. What a handler answers is merged in
the same way. -/

namespace HostedScripts

open HostedScripts.Language

/-- The scope in which a script has come to its end or has ended itself. -/
def Course.lastScope? : Course → Option Scope
  | .ended f => some f.scope
  | .exited f _ => some f.scope
  | .unreadable _ | .notCompiled _ | .raised _ _ => none

/-- What a course leaves for results are the texts of the entries in its last scope. -/
theorem Course.Leaves.results_eq {source : Path} {files : FileTree} {log : Option Path} {r : Execution}
    {course : Course} (h : course.Leaves source files log r) :
    r.ending.results = (course.lastScope?.elim [] Scope.resultEntries).map fun entry =>
      (entry.1, entry.2.leftText) := by
  cases course with
  | unreadable e => rw [h.1]; rfl
  | notCompiled e =>
    obtain ⟨-, text, line, logFile, -, -, -, -, he⟩ := h
    rw [he]; rfl
  | ended f =>
    obtain ⟨-, -, outcome, message, results, -, -, hresults, he⟩ := h
    rw [he]
    exact (Executor.leavesResults_iff.mp hresults).symm.trans f.scope.leftResults_eq
  | exited f code =>
    obtain ⟨-, -, message, results, -, hresults, he⟩ := h
    rw [he]
    exact (Executor.leavesResults_iff.mp hresults).symm.trans f.scope.leftResults_eq
  | raised f failure =>
    obtain ⟨-, logFile, -, he⟩ := h
    rw [he]; rfl

/-! ### Merging -/

/-- How results are merged: `new` are the results after a run that had `old` before and left `left`, where
each value has a text. What is left is there with its text, and under all other keys everything stays. -/
structure Merged {α : Type} (text : α → String) (old : Option (Dictionary String))
    (left : List (String × α)) (new : Option (Dictionary String)) : Prop where
  found : ∀ key a, Dictionary.get? key (Dictionary.ofEntries left) = some a →
    Dictionary.get? key (new.getD []) = some (text a)
  kept : ∀ key, Dictionary.get? key (Dictionary.ofEntries left) = none →
    Dictionary.get? key (new.getD []) = Dictionary.get? key (old.getD [])
  increasing : Dictionary.Increasing (old.getD []) → Dictionary.Increasing (new.getD [])
  none_iff : new = none ↔ old = none ∧ left = []

namespace Merged

variable {α : Type} {text : α → String} {old new : Option (Dictionary String)} {left : List (String × α)}

theorem nothing (text : α → String) (old : Option (Dictionary String)) : Merged text old [] old where
  found _ _ h := by cases h
  kept _ _ := rfl
  increasing h := h
  none_iff := by simp

theorem union (text : α → String) (old : Option (Dictionary String)) (hleft : left ≠ []) :
    Merged text old left
      (some ((old.getD []).union (left.map fun entry => (entry.1, text entry.2)))) := by
  have hget (key : String) : Dictionary.get? key
      ((old.getD []).union (left.map fun entry => (entry.1, text entry.2))) =
        ((Dictionary.get? key (Dictionary.ofEntries left)).map text).or
          (Dictionary.get? key (old.getD [])) := by
    rw [Dictionary.get?_union, Dictionary.get?_ofEntries, ← List.map_reverse, Dictionary.get?_map]
  refine ⟨fun key a ha => ?_, fun key hnone => ?_, fun hold => ?_, ?_⟩
  · rw [Option.getD_some, hget, ha]
    rfl
  · rw [Option.getD_some, hget, hnone]
    rfl
  · exact Dictionary.increasing_union hold _
  · simp [hleft]

/-- What the script finds and leaves as it is stays as it is. -/
theorem untouched {left : List (String × Datum)} (h : Merged Datum.leftText old left new) {key : String}
    (hkey : Dictionary.get? key (Dictionary.ofEntries left) =
      (Dictionary.get? key (old.getD [])).map Datum.string) :
    Dictionary.get? key (new.getD []) = Dictionary.get? key (old.getD []) := by
  cases hold : Dictionary.get? key (old.getD []) with
  | none =>
    rw [hold] at hkey
    rw [h.kept key hkey, hold]
  | some s =>
    rw [hold] at hkey
    -- a text is left as it is
    exact h.found key _ hkey

end Merged

namespace Runtime

variable {rt rt' : Runtime} {w w' : World}

theorem results_ended_of_nil (rt : Runtime) {e : Ending} (he : e.results = []) :
    (rt.ended e).results = rt.results := by
  unfold ended
  rw [he]
  rfl

theorem merged_ended (rt : Runtime) {e : Ending} {α : Type} {text : α → String} {left : List (String × α)}
    (he : e.results = left.map fun entry => (entry.1, text entry.2)) :
    Merged text rt.results left (rt.ended e).results := by
  by_cases hleft : left = []
  · subst hleft
    rw [rt.results_ended_of_nil he]
    exact .nothing text rt.results
  · unfold ended
    rw [he]
    simpa [hleft] using Merged.union text rt.results hleft

/-! ### Scripts -/

/-- The entries that a script finds in its results. -/
def requested (rt : Runtime) : List (String × Datum) :=
  (rt.executor.scope rt.sourceFile rt.vars).resultEntries

theorem requested_eq (rt : Runtime) :
    rt.requested = (rt.results.getD []).map fun entry => (entry.1, .string entry.2) := by
  unfold requested Scope.resultEntries
  rw [rt.held?_scope_run]
  rfl

/-- When a run in an interpreter takes a course. -/
def Takes (rt : Runtime) (interpreter : Interpreter) (files : FileTree) (course : Course) : Prop :=
  rt.executor.Takes interpreter files rt.sourceFile rt.searchPaths rt.vars course

/-- What becomes of the results of a run with the course of its script: what is left in the last scope is
merged into what was asked for, and what the script has not touched is what it was; without a last scope the
results stay. -/
structure Settles (rt : Runtime) (course : Course) (new : Option (Dictionary String)) : Prop where
  merged : ∀ scope, course.lastScope? = some scope →
    Merged Datum.leftText rt.results scope.resultEntries new
  untouched : ∀ scope, course.lastScope? = some scope → ∀ key,
    Dictionary.get? key (Dictionary.ofEntries scope.resultEntries) = Dictionary.get? key rt.requested →
      Dictionary.get? key (new.getD []) = Dictionary.get? key (rt.results.getD [])
  stays : course.lastScope? = none → new = rt.results
  none_iff : new = none ↔ rt.results = none ∧
    ∀ scope, course.lastScope? = some scope → scope.resultEntries = []

theorem settles_ended {fed : Runtime} (hfed : fed.results = rt.results) {course : Course} {e : Ending}
    (he : e.results = (course.lastScope?.elim [] Scope.resultEntries).map fun entry =>
      (entry.1, entry.2.leftText)) :
    rt.Settles course (fed.ended e).results := by
  cases hlast : course.lastScope? with
  | none =>
    rw [hlast] at he
    have hsame := (fed.results_ended_of_nil he).trans hfed
    exact ⟨by simp [hlast], by simp [hlast], fun _ => hsame, by simp [hlast, hsame]⟩
  | some scope =>
    rw [hlast, Option.elim_some] at he
    have hmerged := fed.merged_ended he
    rw [hfed] at hmerged
    have hlastScope {last : Scope} (h : course.lastScope? = some last) : last = scope := by
      rw [hlast] at h
      exact (Option.some.inj h).symm
    refine ⟨fun last h => ?_, fun last h key hkey => ?_, fun h => ?_, ?_⟩
    · rw [hlastScope h]
      exact hmerged
    · rw [hlastScope h, rt.requested_eq, Dictionary.get?_map] at hkey
      exact hmerged.untouched hkey
    · rw [hlast] at h
      cases h
    · simpa [hlast] using hmerged.none_iff

theorem results_of_script (hphase : rt.phase = .configured) (hengine : rt.engineIn w.files = .script)
    (engines : EngineTable) :
    ∃ course rt' outcome w',
      (rt.Takes engines.interpreter w.files course ∧
        ∀ other, rt.Takes engines.interpreter w.files other → other = course) ∧
      (rt.run engines).run w = (.ok (rt', outcome), w') ∧ rt.Settles course rt'.results := by
  obtain ⟨course, htakes, hleaves, -⟩ := rt.executor.exists_follows engines.interpreter w.files rt.sourceFile
    rt.searchPaths rt.logPath rt.vars
  obtain ⟨fed, w', hequipped, hrun⟩ := run_eq_of_script hphase hengine engines
  have hunique : ∀ other, rt.Takes engines.interpreter w.files other → other = course := by
    intro other hother
    rw [hother.eq_course, htakes.eq_course]
  have hresults : fed.results = rt.results := hequipped.results
  exact ⟨course, _, _, w', ⟨htakes, hunique⟩, hrun, settles_ended hresults hleaves.results_eq⟩

/-! ### Other engines -/

/-- What an engine leaves that is not the built-in interpreter: what its handler answers, or no results. -/
def Responds (rt : Runtime) (engines : EngineTable) (engine : EngineKind) (e : Ending) : Prop :=
  match engines.get? engine with
  | none => e.results = []
  | some handler => ∃ n, e = (handler (rt.request engine n)).ending

theorem responds_of_execute (h : rt.phase ≠ .disposed) {engine : EngineKind} (hengine : engine ≠ .script)
    {engines : EngineTable} {e : Ending}
    (hrun : (rt.execute engine engines).run w = ((rt', .ok e), w')) : rt.Responds engines engine e := by
  have hhanded (hrun : (rt.handOver engine engines).run w = ((rt', .ok e), w')) :
      rt.Responds engines engine e := by
    unfold Responds
    cases hh : engines.get? engine with
    | none =>
      unfold handOver at hrun
      rw [hh] at hrun
      cases hrun
      rfl
    | some handler =>
      obtain ⟨fed, n, fedWorld, hf⟩ := exists_feed rt w h
      have hequipped : rt.Equipped fed := by
        have he := equipped_feed rt w
        rwa [hf] at he
      rw [handOver_run hf hh, hequipped.request] at hrun
      cases hrun
      exact ⟨n, rfl⟩
  cases engine with
  | unknown =>
    cases hrun
    rfl
  | script => exact absurd rfl hengine
  | compiled | visual | invoke => exact hhanded hrun

theorem results_of_other (hphase : rt.phase = .configured) (hengine : rt.engineIn w.files ≠ .script)
    (engines : EngineTable) :
    ∃ rt' outcome w', (rt.run engines).run w = (.ok (rt', outcome), w') ∧
      match engines.get? (rt.engineIn w.files) with
      | none => rt'.results = rt.results
      | some handler => ∃ n, Merged id rt.results
          (handler (rt.request (rt.engineIn w.files) n)).ending.results rt'.results := by
  have hne : (rt.begun w.files).phase ≠ .disposed := nofun
  obtain ⟨told, told', fed, ending, done, hexecute, hfed, hrun⟩ :=
    carryOut_eq (rt.begun w.files) w hne engines
  have hanswer : rt.Responds engines (rt.engineIn w.files) ending :=
    responds_of_execute hne hengine hexecute
  unfold Responds at hanswer
  have hresults : fed.results = rt.results := hfed.equipped.results
  refine ⟨fed.ended ending, ending.outcome, { done with told := told' }, run_of_attempt ?_, ?_⟩
  · rw [attempt_of_configured hphase]
    exact hrun
  · cases hh : engines.get? (rt.engineIn w.files) with
    | none =>
      rw [hh] at hanswer
      exact (fed.results_ended_of_nil hanswer).trans hresults
    | some handler =>
      rw [hh] at hanswer
      obtain ⟨n, hending⟩ := hanswer
      have hmerged : Merged id fed.results ending.results (fed.ended ending).results :=
        fed.merged_ended (by simp)
      rw [hresults] at hmerged
      refine ⟨n, ?_⟩
      rw [hending] at hmerged ⊢
      exact hmerged

end Runtime

/-- **Results are merged without loss.** Whatever results were asked for, and whatever the script leaves in
`__results__`: when it has come to its end or has ended itself, what is left is merged into what was asked
for, and what the script has not touched is what it was. In every other course the results stay. Any other
engine has its answer merged in the same way, and without a handler the results stay. -/
theorem results_merged {rt : Runtime} (hphase : rt.phase = .configured) (engines : EngineTable) (w : World) :
    ∃ rt' outcome w', (rt.run engines).run w = (.ok (rt', outcome), w') ∧
      (rt.engineIn w.files = .script → ∃ course,
        (rt.Takes engines.interpreter w.files course ∧
          ∀ other, rt.Takes engines.interpreter w.files other → other = course) ∧
        rt.Settles course rt'.results) ∧
      (rt.engineIn w.files ≠ .script → match engines.get? (rt.engineIn w.files) with
        | none => rt'.results = rt.results
        | some handler => ∃ n, Merged id rt.results
            (handler (rt.request (rt.engineIn w.files) n)).ending.results rt'.results) := by
  by_cases hengine : rt.engineIn w.files = .script
  · obtain ⟨course, rt', outcome, w', htakes, hrun, hsettles⟩ :=
      Runtime.results_of_script hphase hengine engines
    exact ⟨rt', outcome, w', hrun, fun _ => ⟨course, htakes, hsettles⟩, fun hne => absurd hengine hne⟩
  · obtain ⟨rt', outcome, w', hrun, hmerged⟩ := Runtime.results_of_other hphase hengine engines
    exact ⟨rt', outcome, w', hrun, fun he => absurd he hengine, fun _ => hmerged⟩

/-- A world with a script that adds a result, takes one out and ends itself. -/
def editingWorld : World :=
  { (default : World) with files := ⟨[(["a.rhai"], .file (Text.toBytes
      "__results__.added = 2; __results__.remove(\"gone\"); exit();") none)], []⟩ }

/-- A run of that script for which two results are asked. -/
def editingRun : Runtime :=
  { ((Runtime.make "" (.capture "" fun _ => none) (.forScript ⟨"a.rhai"⟩) .empty).run editingWorld).1 with
    results := some [("gone", "still there"), ("kept", "as it was")] }

/-- What is left of it: the result that the script has taken out is what it was. -/
theorem results_merged_editing :
    editingRun.phase = .configured ∧ editingRun.engineIn editingWorld.files = .script ∧
      ∃ course scope, editingRun.Takes .standard editingWorld.files course ∧ course.lastScope? = some scope ∧
        Merged Datum.leftText editingRun.results scope.resultEntries
          (some [("added", "2"), ("gone", "still there"), ("kept", "as it was")]) := by
  have hphase : editingRun.phase = .configured := rfl
  have hengine : editingRun.engineIn editingWorld.files = .script := by decide +kernel
  have hresults : (((editingRun.run .empty).run editingWorld).1.toOption.map fun done => done.1.results) =
      some (some [("added", "2"), ("gone", "still there"), ("kept", "as it was")]) := by decide +kernel
  obtain ⟨rt', outcome, w', hrun, hscript, -⟩ := results_merged hphase .empty editingWorld
  obtain ⟨course, ⟨htakes, -⟩, hsettles⟩ := hscript hengine
  rw [hrun] at hresults
  have hnew := Option.some.inj hresults
  dsimp only at hnew
  rw [hnew] at hsettles
  refine ⟨hphase, hengine, course, ?_⟩
  cases hlast : course.lastScope? with
  | none => exact absurd (hsettles.stays hlast) (by decide +kernel)
  | some scope => exact ⟨scope, htakes, rfl, hsettles.merged scope hlast⟩

end HostedScripts
