import HostedScripts.Report
import HostedScripts.Proofs.Runtime.LifeCycle
import Mathlib.Tactic.Tauto

/-! # Checking a script and running it

A host may check a script file before it runs it. A check should have nothing to report exactly when a run
gets past compilation, and otherwise report what the message of the run reports (`Agrees`). Both read the
script in the same way, but for the variables that the host provides: a check provides those of every
script (`checkNames`), a run also its own (`runNames`), which are more (`mem_runNames_iff`).

* `Runtime.run_of_script` says what a run comes to, by what the interpreter makes of the text.
* `Reading.unmet?_eq_none_of_subset` and `Reading.unmet?_eq_some_of_subset` compare two readings of a
  script that differ in what is provided.
* `check_agrees_iff` gives the exact condition for a check to agree with a run (`Runtime.Foreseen`). Where
  names are strict, a script that uses one of the variables of a run meets it only by chance. -/

namespace HostedScripts

open HostedScripts.Language

/-! ### Reading with more or fewer variables -/

namespace Language.Reading

variable {r : Reading} {few many : List String}

theorem unmet?_eq_none_iff (r : Reading) (provided : List String) :
    r.unmet? provided = none ↔ ∀ d ∈ r.demands, d.name ∈ provided := by
  unfold unmet?
  simp only [List.find?_eq_none, Bool.not_eq_true', Bool.not_eq_false, List.contains_iff_mem]

theorem unmet?_eq_none_of_subset (h : r.unmet? few = none) (hsub : ∀ x ∈ few, x ∈ many) :
    r.unmet? many = none := by
  rw [unmet?_eq_none_iff] at h ⊢
  exact fun d hd => hsub d.name (h d hd)

theorem unmet?_eq_some_of_subset {d : Demand} (h : r.unmet? few = some d)
    (hsub : ∀ x ∈ few, x ∈ many) (hd : d.name ∉ many) : r.unmet? many = some d := by
  unfold unmet? at h ⊢
  rw [List.find?_eq_some_iff_append] at h ⊢
  obtain ⟨-, before, later, hlist, hbefore⟩ := h
  refine ⟨?_, before, later, hlist, fun e he => ?_⟩
  · rw [Bool.not_eq_true', ← Bool.not_eq_true, List.contains_iff_mem]
    exact hd
  · have hmet := hbefore e he
    rw [Bool.not_not, List.contains_iff_mem] at hmet ⊢
    exact hsub e.name hmet

theorem under_of_met (h : r.unmet? few = none) : r.under few = r.result := by
  unfold under
  rw [h]

theorem under_of_unmet {d : Demand} (h : r.unmet? few = some d) : r.under few = .error d.error := by
  unfold under
  rw [h]

theorem not_mem_of_unmet {d : Demand} (h : r.unmet? few = some d) : d.name ∉ few := by
  have hd := List.find?_some h
  rwa [Bool.not_eq_true', ← Bool.not_eq_true, List.contains_iff_mem] at hd

end Language.Reading

namespace Language.Program

theorem read_strict (provided : List String) (source : String) :
    Program.read true provided source = (Program.reading true source).under provided := rfl

theorem read_lenient (provided : List String) (source : String) :
    Program.read false provided source = (Program.reading false source).result := rfl

theorem result_of_read {isStrict : Bool} {provided : List String} {source : String}
    {program : Program} (h : Program.read isStrict provided source = .ok program) :
    (Program.reading isStrict source).result = .ok program := by
  cases isStrict with
  | false => rwa [read_lenient] at h
  | true =>
    rw [read_strict] at h
    cases hd : (Program.reading true source).unmet? provided with
    | none => rwa [Reading.under_of_met hd] at h
    | some d =>
      rw [Reading.under_of_unmet hd] at h
      cases h

end Language.Program

/-- Whether an interpreter reads scripts as a check does: what does not compile it does not run, and what
compiles it does. -/
def Interpreter.Reads (interpreter : Interpreter) : Prop :=
  ∀ setting scope text, match compiled setting.isStrict scope text with
    | .error e => interpreter setting scope text = .notCompiled e
    | .ok _ => ∃ f, interpreter setting scope text = .finished f

theorem Interpreter.reads_standard : standard.Reads := fun setting scope text => by
  unfold standard
  cases compiled setting.isStrict scope text with
  | error e => rfl
  | ok program => exact ⟨_, rfl⟩

/-! ### Names in the scope of a script -/

/-- The names of the variables that every script has. -/
def checkNames : List String :=
  [Global.host, Global.name, Global.results, Global.result, Global.message, Global.file]

theorem scope_check (limits : Limits) (source : Path) :
    ((⟨limits, none, none⟩ : Executor).scope source []).map (·.name) = checkNames := rfl

namespace Runtime

/-- The names of the variables that a run provides. -/
def runNames (rt : Runtime) : List String := (rt.executor.scope rt.sourceFile rt.vars).map (·.name)

/-- The names of the variables that a run provides and a check does not. -/
def givenNames (rt : Runtime) : List String :=
  rt.vars.map (·.1) ++ rt.executor.startingHost.toList.map fun _ => Global.startingApplication

theorem mem_runNames_iff (rt : Runtime) (x : String) :
    x ∈ rt.runNames ↔ x ∈ checkNames ∨ x ∈ rt.givenNames := by
  unfold runNames givenNames Executor.scope checkNames
  simp only [List.map_append, List.map_map, List.mem_append, List.map_reverse, List.mem_reverse,
    List.map_cons, List.map_nil, List.mem_cons, List.not_mem_nil, or_false, Function.comp_def]
  tauto

/-- A check and a run read a script in the same way if the check provides all it needs. -/
theorem read_eq_of_met (rt : Runtime) {text : String}
    (h : (Program.reading true text).unmet? checkNames = none) :
    Program.read true checkNames text = Program.read true rt.runNames text := by
  have hmany : (Program.reading true text).unmet? rt.runNames = none :=
    Reading.unmet?_eq_none_of_subset h fun x hx => (rt.mem_runNames_iff x).mpr (Or.inl hx)
  rw [Program.read_strict, Program.read_strict, Reading.under_of_met h, Reading.under_of_met hmany]

/-- A check and a run read a script in the same way if the first variable that the check lacks is none that
the run provides. -/
theorem read_eq_of_not_given (rt : Runtime) {text : String} {d : Demand}
    (h : (Program.reading true text).unmet? checkNames = some d) (hd : d.name ∉ rt.givenNames) :
    Program.read true checkNames text = Program.read true rt.runNames text := by
  have hname : d.name ∉ rt.runNames := by
    rw [rt.mem_runNames_iff]
    rintro (hcheck | hgiven)
    · exact Reading.not_mem_of_unmet h hcheck
    · exact hd hgiven
  have hmany : (Program.reading true text).unmet? rt.runNames = some d :=
    Reading.unmet?_eq_some_of_subset h (fun x hx => (rt.mem_runNames_iff x).mpr (Or.inl hx)) hname
  rw [Program.read_strict, Program.read_strict, Reading.under_of_unmet h, Reading.under_of_unmet hmany]

/-! ### Running -/

/-- What an interpreter makes of a text that is the script of a run. -/
def interpretation (rt : Runtime) (interpreter : Interpreter) (files : FileTree) (text : String) :
    Interpretation :=
  interpreter (rt.executor.setting files rt.sourceFile rt.searchPaths)
    (rt.executor.scope rt.sourceFile rt.vars) text

/-- Whether a run of a text gets past compilation, so that the script is carried out. -/
def Compiles (rt : Runtime) (interpreter : Interpreter) (files : FileTree) (text : String) : Prop :=
  ∃ f, rt.interpretation interpreter files text = .finished f

/-- What a run of a text comes to: the end of a script that was carried out, or a cancelled run with the error
of the compilation for a message. -/
def ComesTo (rt : Runtime) (interpreter : Interpreter) (files : FileTree) (text : String)
    (outcome : Outcome) (message : String) : Prop :=
  match rt.interpretation interpreter files text with
  | .finished f =>
    outcome = (Executor.conclude rt.sourceFile rt.logPath files f).1.outcome ∧
      message = (Executor.conclude rt.sourceFile rt.logPath files f).1.message
  | .notCompiled e => outcome = .cancelled ∧ message = Executor.compileMessage [diagnosticOf text e]

variable {rt : Runtime} {w : World} {text : String} {interpreter : Interpreter}

theorem interpretation_eq (rt : Runtime) (hreads : interpreter.Reads) (files : FileTree) (text : String) :
    (∃ e, Program.read rt.context.config.strictVariables rt.runNames text = .error e ∧
      rt.interpretation interpreter files text = .notCompiled e) ∨
    ((∃ program, Program.read rt.context.config.strictVariables rt.runNames text = .ok program) ∧
      rt.Compiles interpreter files text) := by
  have hread : compiled rt.context.config.strictVariables (rt.executor.scope rt.sourceFile rt.vars) text =
      (Program.read rt.context.config.strictVariables rt.runNames text).map _ := rfl
  have hset : (rt.executor.setting files rt.sourceFile rt.searchPaths).isStrict =
      rt.context.config.strictVariables := rfl
  have hmakes := hreads (rt.executor.setting files rt.sourceFile rt.searchPaths)
    (rt.executor.scope rt.sourceFile rt.vars) text
  rw [hset, hread] at hmakes
  cases h : Program.read rt.context.config.strictVariables rt.runNames text with
  | error e =>
    rw [h] at hmakes
    exact Or.inl ⟨e, rfl, hmakes⟩
  | ok program =>
    rw [h] at hmakes
    exact Or.inr ⟨⟨program, rfl⟩, hmakes⟩

/-- A run that is under way. -/
def begun (rt : Runtime) (files : FileTree) : Runtime := { rt.pinned files with phase := .running }

/-- A run that can begin, of a script for the built-in interpreter, asks for its stream, does what happens in
the interpreter, and ends as the interpreter says. -/
theorem attempt_of_script (hphase : rt.phase = .configured) (hengine : rt.engineIn w.files = .script)
    (engines : EngineTable) :
    ∃ told told' rt' n fed,
      (rt.begun w.files).feed.run { w with told := told } = ((rt', .ok n), fed) ∧
      let done := rt.execution engines.interpreter w.files
      (rt.attempt engines).run w = ((rt'.ended done.ending, .ok done.ending.outcome),
        { ((perform n done.actions).run { fed with files := done.files }).2 with told := told' }) := by
  have hne : (rt.begun w.files).phase ≠ .disposed := fun h => by cases h
  have hscript : (rt.begun w.files).engineIn w.files = .script := hengine
  obtain ⟨told, told', rt', ending, done, hexecute, -, hrun⟩ :=
    carryOut_eq (rt.begun w.files) w hne engines
  obtain ⟨fedRuntime, n, fed, hf⟩ := exists_feed (rt.begun w.files) { w with told := told } hne
  rw [hscript] at hexecute
  cases (interpret_run hf engines.interpreter).symm.trans hexecute
  refine ⟨told, told', rt', n, fed, hf, ?_⟩
  rw [attempt_of_configured hphase]
  exact hrun

theorem execution_comesTo (interpreter : Interpreter) (htext : w.files.readText rt.sourceFile = .ok text) :
    rt.ComesTo interpreter w.files text (rt.execution interpreter w.files).ending.outcome
      (rt.execution interpreter w.files).ending.message := by
  unfold ComesTo interpretation execution Executor.execute
  rw [htext]
  dsimp only
  cases interpreter (rt.executor.setting w.files rt.sourceFile rt.searchPaths)
    (rt.executor.scope rt.sourceFile rt.vars) text with
  | notCompiled e => exact ⟨rfl, rfl⟩
  | finished f => exact ⟨rfl, rfl⟩

/-- A run of a script always answers. But for its engine, console and stream, it is the run that began, with
the end that the interpreter says. -/
theorem run_eq_of_script (hphase : rt.phase = .configured) (hengine : rt.engineIn w.files = .script)
    (engines : EngineTable) :
    ∃ fed w', (rt.begun w.files).Equipped fed ∧ (rt.run engines).run w =
      (.ok (fed.ended (rt.execution engines.interpreter w.files).ending,
        (rt.execution engines.interpreter w.files).ending.outcome), w') := by
  obtain ⟨told, told', fed, n, fedWorld, hfeed, hrun⟩ := attempt_of_script hphase hengine engines
  have hequipped := equipped_feed (rt.begun w.files) { w with told := told }
  rw [hfeed] at hequipped
  exact ⟨fed, _, hequipped, run_of_attempt hrun⟩

theorem run_of_script (hphase : rt.phase = .configured) (hengine : rt.engineIn w.files = .script)
    (htext : w.files.readText rt.sourceFile = .ok text) (engines : EngineTable) :
    ∃ rt' outcome w', (rt.run engines).run w = (.ok (rt', outcome), w') ∧
      rt.ComesTo engines.interpreter w.files text outcome rt'.traceMessage := by
  obtain ⟨fed, w', -, hrun⟩ := run_eq_of_script hphase hengine engines
  exact ⟨_, _, w', hrun, execution_comesTo engines.interpreter htext⟩

/-- The engine of a script file that can be read, unless another one is decided. -/
theorem engineIn_of_readText (hopen : rt.engine = none)
    (hkind : ScriptKind.ofPath? rt.sourceFile = some .script)
    (htext : w.files.readText rt.sourceFile = .ok text) : rt.engineIn w.files = .script := by
  have hfile : w.files.isFile rt.sourceFile = true := by
    unfold FileTree.readText FileTree.readBytes at htext
    unfold FileTree.isFile
    rcases hfound : w.files.lookUp rt.sourceFile with e | ⟨place, node⟩
    · rw [hfound] at htext
      cases htext
    · cases node with
      | directory =>
        rw [hfound] at htext
        cases htext
      | file bytes changed => rfl
  unfold engineIn selectEngine
  rw [hopen, hkind, hfile]
  rfl

end Runtime

/-! ### Checking -/

/-- What a check of a text reports. -/
def reported (isStrict : Bool) (text : String) : List Diagnostic :=
  match Program.read isStrict checkNames text with
  | .error e => [diagnosticOf text e]
  | .ok _ => []

theorem checkScript_run {source : Path} {w : World} {text : String}
    (htext : w.files.readText source = .ok text) (config : Config) :
    ∃ w', (checkScript source config).run w = (.ok (reported config.strictVariables text), w') := by
  have hstrict : config.limits.isStrict = config.strictVariables := rfl
  have hcheck : ∃ actions, Executor.check ⟨config.limits, none, none⟩ w.files source =
      .ok (reported config.strictVariables text, actions) := by
    unfold Executor.check compiled reported
    rw [htext]
    dsimp only
    rw [scope_check, hstrict]
    cases Program.read config.strictVariables checkNames text with
    | error e => exact ⟨_, rfl⟩
    | ok program => exact ⟨_, rfl⟩
  obtain ⟨actions, hcheck⟩ := hcheck
  unfold checkScript
  rw [Act.run_bind, Act.run_get]
  dsimp only
  rw [hcheck]
  exact ⟨_, rfl⟩

/-- What a check should report of a script: nothing if the run gets past compilation, and otherwise what the
message of the run says. -/
structure Agrees (found : List Diagnostic) (compiles : Prop) (message : String) : Prop where
  clean_iff : found = [] ↔ compiles
  message_eq : found ≠ [] → ¬ compiles → message = Executor.compileMessage found

/-- Whether two errors of a text are reported in the same words. -/
def SameReport (text : String) (e e' : CompileError) : Prop :=
  Executor.compileMessage [diagnosticOf text e] = Executor.compileMessage [diagnosticOf text e']

/-- Whether a check of a text can tell what a run of it says. Names are not strict; or the first variable that
the script needs from its host and that not every script has is none that the run provides; or the run does
not get past compilation either, and the words of its message happen to be those of the check. -/
def Runtime.Foreseen (rt : Runtime) (text : String) : Prop :=
  rt.context.config.strictVariables = true → ∀ d,
    (Program.reading true text).unmet? checkNames = some d → d.name ∈ rt.givenNames →
      ∃ e, (Program.reading true text).under rt.runNames = .error e ∧ SameReport text e d.error

section

variable {rt : Runtime} {interpreter : Interpreter} {files : FileTree} {text message : String}
  (hreads : interpreter.Reads)
  (hmessage : ∀ e, rt.interpretation interpreter files text = .notCompiled e →
    message = Executor.compileMessage [diagnosticOf text e])

include hreads hmessage

theorem agrees_of_read_eq (h : Program.read rt.context.config.strictVariables checkNames text =
      Program.read rt.context.config.strictVariables rt.runNames text) :
    Agrees (reported rt.context.config.strictVariables text) (rt.Compiles interpreter files text) message := by
  unfold reported
  rw [h]
  rcases rt.interpretation_eq hreads files text with ⟨e, he, hi⟩ | ⟨⟨program, hp⟩, hc⟩
  · rw [he]
    have hnot : ¬ rt.Compiles interpreter files text := fun ⟨f, hf⟩ => by
      rw [hi] at hf
      cases hf
    exact ⟨iff_of_false (List.cons_ne_nil _ _) hnot, fun _ _ => hmessage e hi⟩
  · rw [hp]
    exact ⟨iff_of_true rfl hc, fun hne => absurd rfl hne⟩

/-- A check that reports something agrees with a run exactly if the run fails in the same words. -/
theorem agrees_iff_of_error {e : CompileError}
    (h : Program.read rt.context.config.strictVariables checkNames text = .error e) :
    Agrees (reported rt.context.config.strictVariables text) (rt.Compiles interpreter files text) message ↔
      ∃ e', Program.read rt.context.config.strictVariables rt.runNames text = .error e' ∧
        SameReport text e' e := by
  unfold reported
  rw [h]
  dsimp only
  constructor
  · rintro ⟨hclean, hsame⟩
    have hnot : ¬ rt.Compiles interpreter files text := fun hc => List.cons_ne_nil _ _ (hclean.mpr hc)
    rcases rt.interpretation_eq hreads files text with ⟨e', he', hi⟩ | ⟨-, hc⟩
    · refine ⟨e', he', ?_⟩
      unfold SameReport
      rw [← hmessage e' hi]
      exact hsame (List.cons_ne_nil _ _) hnot
    · exact absurd hc hnot
  · rintro ⟨e', he', hsame⟩
    rcases rt.interpretation_eq hreads files text with ⟨e'', he'', hi⟩ | ⟨⟨program, hp⟩, -⟩
    · rw [he', Except.error.injEq] at he''
      rw [← he''] at hi
      have hnot : ¬ rt.Compiles interpreter files text := fun ⟨f, hf⟩ => by
        rw [hi] at hf
        cases hf
      exact ⟨iff_of_false (List.cons_ne_nil _ _) hnot, fun _ _ => (hmessage e' hi).trans hsame⟩
    · rw [he'] at hp
      cases hp

theorem agrees_iff :
    Agrees (reported rt.context.config.strictVariables text) (rt.Compiles interpreter files text) message ↔
      rt.Foreseen text := by
  unfold Runtime.Foreseen
  rcases Bool.eq_false_or_eq_true rt.context.config.strictVariables with hstrict | hstrict
  · cases hd : (Program.reading true text).unmet? checkNames with
    | none =>
      refine iff_of_true (agrees_of_read_eq hreads hmessage ?_) fun _ d h => by cases h
      rw [hstrict, rt.read_eq_of_met hd]
    | some d =>
      by_cases hgiven : d.name ∈ rt.givenNames
      · have hcheck : Program.read rt.context.config.strictVariables checkNames text =
            .error d.error := by
          rw [hstrict, Program.read_strict, Reading.under_of_unmet hd]
        rw [agrees_iff_of_error hreads hmessage hcheck, hstrict, Program.read_strict]
        constructor
        · rintro h - d' hd' -
          rwa [← Option.some.inj hd']
        · intro h
          exact h rfl d rfl hgiven
      · refine iff_of_true (agrees_of_read_eq hreads hmessage ?_) fun _ d' hd' hg => ?_
        · rw [hstrict, rt.read_eq_of_not_given hd hgiven]
        · rw [← Option.some.inj hd'] at hg
          exact absurd hg hgiven
  · refine iff_of_true (agrees_of_read_eq hreads hmessage ?_) fun h => ?_
    · rw [hstrict, Program.read_lenient, Program.read_lenient]
    · rw [hstrict] at h
      cases h

end

/-- If a run gets past compilation, then a check of the text has nothing to report exactly if names are not
strict or the script needs no variable from its host that not every script has. -/
theorem reported_eq_nil_iff {rt : Runtime} {interpreter : Interpreter} (hreads : interpreter.Reads)
    {files : FileTree} {text : String} (h : rt.Compiles interpreter files text) :
    reported rt.context.config.strictVariables text = [] ↔
      (rt.context.config.strictVariables = true →
        ∀ d ∈ (Program.reading true text).demands, d.name ∈ checkNames) := by
  have hresult : ∃ program,
      (Program.reading rt.context.config.strictVariables text).result = .ok program := by
    rcases rt.interpretation_eq hreads files text with ⟨e, -, hi⟩ | ⟨⟨program, hp⟩, -⟩
    · obtain ⟨f, hf⟩ := h
      rw [hi] at hf
      cases hf
    · exact ⟨program, Program.result_of_read hp⟩
  obtain ⟨program, hp⟩ := hresult
  rw [← Reading.unmet?_eq_none_iff]
  unfold reported
  cases hstrict : rt.context.config.strictVariables with
  | false =>
    rw [hstrict] at hp
    rw [Program.read_lenient, hp]
    exact iff_of_true rfl fun h => by cases h
  | true =>
    rw [hstrict] at hp
    rw [Program.read_strict]
    cases hd : (Program.reading true text).unmet? checkNames with
    | none =>
      rw [Reading.under_of_met hd, hp]
      exact iff_of_true rfl fun _ => rfl
    | some d =>
      rw [Reading.under_of_unmet hd]
      exact iff_of_false (List.cons_ne_nil _ _) fun h => Option.some_ne_none d (h rfl)

/-- **When a check agrees with a run.** Take a runtime that can begin, whose script can be read and is one for
the interpreter, which reads it as a check does. A check of that file with the configuration of the run and
the run itself both answer. The check agrees with the run exactly if it can foresee it: where names are strict
and the script needs a variable that this run provides and a check does not, it can not, but for an error of
the same words. -/
theorem check_agrees_iff {rt : Runtime} {w : World} {text : String} (engines : EngineTable)
    (hreads : engines.interpreter.Reads) (hphase : rt.phase = .configured)
    (hengine : rt.engineIn w.files = .script) (htext : w.files.readText rt.sourceFile = .ok text) :
    ∃ found w₁ rt' outcome w₂,
      (checkScript rt.sourceFile rt.context.config).run w = (.ok found, w₁) ∧
      (rt.run engines).run w = (.ok (rt', outcome), w₂) ∧
      rt.ComesTo engines.interpreter w.files text outcome rt'.traceMessage ∧
      (Agrees found (rt.Compiles engines.interpreter w.files text) rt'.traceMessage ↔ rt.Foreseen text) := by
  obtain ⟨w₁, hcheck⟩ := checkScript_run htext rt.context.config
  obtain ⟨rt', outcome, w₂, hrun, hends⟩ := Runtime.run_of_script hphase hengine htext engines
  refine ⟨_, w₁, rt', outcome, w₂, hcheck, hrun, hends, agrees_iff hreads fun e he => ?_⟩
  unfold Runtime.ComesTo at hends
  rw [he] at hends
  exact hends.2

/-- A host with a script file that asks for the arguments. -/
def argumentsWorld : World :=
  { (default : World) with files := ⟨[(["a.rhai"], .file (Text.toBytes "__args__") none)], []⟩ }

/-- A run of that file in which names are strict. -/
def argumentsRun : Runtime :=
  ((Runtime.make "" (.capture "" fun _ => none) (.forScript ⟨"a.rhai"⟩)
    { Context.empty with config := { Config.standard with strictVariables := true } }).run
      argumentsWorld).1

theorem readText_argumentsWorld :
    argumentsWorld.files.readText argumentsRun.sourceFile = .ok "__args__" := by
  have hlocate : argumentsWorld.files.locate ⟨"a.rhai"⟩ = .ok ["a.rhai"] := rfl
  have hbytes : argumentsWorld.files.readBytes ⟨"a.rhai"⟩ = .ok (Text.toBytes "__args__") := by
    unfold FileTree.readBytes FileTree.lookUp
    rw [hlocate]
    rfl
  have htext : Text.ofBytes? (Text.toBytes "__args__") = some "__args__" := by decide +kernel
  show argumentsWorld.files.readText ⟨"a.rhai"⟩ = .ok "__args__"
  unfold FileTree.readText
  rw [hbytes]
  dsimp only [bind, Except.bind]
  rw [htext]
  rfl

/-- The condition for the file with the arguments. -/
theorem check_agrees_iff_arguments :
    EngineTable.empty.interpreter.Reads ∧ argumentsRun.phase = .configured ∧
    argumentsRun.engineIn argumentsWorld.files = .script ∧
    argumentsWorld.files.readText argumentsRun.sourceFile = .ok "__args__" ∧
    ∃ found w₁ rt' outcome w₂,
      (checkScript argumentsRun.sourceFile argumentsRun.context.config).run argumentsWorld =
        (.ok found, w₁) ∧
      (argumentsRun.run .empty).run argumentsWorld = (.ok (rt', outcome), w₂) ∧
      argumentsRun.ComesTo .standard argumentsWorld.files "__args__" outcome rt'.traceMessage ∧
      (Agrees found (argumentsRun.Compiles .standard argumentsWorld.files "__args__") rt'.traceMessage ↔
        argumentsRun.Foreseen "__args__") := by
  have hphase : argumentsRun.phase = .configured := rfl
  have hkind : ScriptKind.ofPath? argumentsRun.sourceFile = some .script := by decide +kernel
  have hengine : argumentsRun.engineIn argumentsWorld.files = .script :=
    Runtime.engineIn_of_readText rfl hkind readText_argumentsWorld
  exact ⟨Interpreter.reads_standard, hphase, hengine, readText_argumentsWorld,
    check_agrees_iff .empty Interpreter.reads_standard hphase hengine readText_argumentsWorld⟩

/-- **A check disagrees with a run** about a script that asks for the arguments: it reports that they are not
defined, and the run gets past compilation. -/
theorem check_disagrees_arguments :
    (∃ w', (checkScript argumentsRun.sourceFile argumentsRun.context.config).run argumentsWorld =
      (.ok [⟨"Undefined variable: __args__", 1⟩], w')) ∧
    argumentsRun.Compiles .standard argumentsWorld.files "__args__" ∧
    ∀ message, ¬ Agrees [⟨"Undefined variable: __args__", 1⟩]
      (argumentsRun.Compiles .standard argumentsWorld.files "__args__") message := by
  have hreported : reported true "__args__" = [⟨"Undefined variable: __args__", 1⟩] := by
    decide +kernel
  have hcompiles : argumentsRun.Compiles .standard argumentsWorld.files "__args__" := by
    rcases argumentsRun.interpretation_eq Interpreter.reads_standard argumentsWorld.files "__args__" with
      ⟨e, he, -⟩ | ⟨-, hc⟩
    · have hok : (Program.read true argumentsRun.runNames "__args__").isOk = true := by decide +kernel
      have hread : Program.read true argumentsRun.runNames "__args__" = .error e := he
      rw [hread] at hok
      cases hok
    · exact hc
  obtain ⟨w', hcheck⟩ := checkScript_run readText_argumentsWorld argumentsRun.context.config
  refine ⟨⟨w', ?_⟩, hcompiles, fun message h => ?_⟩
  · rw [hcheck, ← hreported]
    rfl
  · exact List.cons_ne_nil _ _ (h.clean_iff.mpr hcompiles)

end HostedScripts
