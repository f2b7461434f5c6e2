import HostedScripts.Proofs.CommandLine.Transcript
import HostedScripts.Proofs.Runtime.Facts

/-! # Variables from the command line

A run on the command line takes the variables of its configuration and puts those of its arguments on top. An
argument has to give a name a text (`IsAssignment`): the name stands before the first equals sign, perhaps with
blanks around it, and the text behind. The last argument with a name counts (`Overrides`).

* `withVariables_of_assignments`, `withVariables_of_not`: arguments that all give names texts are all put on top;
  the first that does not is refused, wherever it stands.
* `loadConfig_eq_error_iff`: when a configuration cannot be used.
* `variables_all_or_nothing`: a run has all variables, and is otherwise the run that it would be without
  arguments; or nothing is done at all. -/

namespace HostedScripts.CommandLine

open HostedScripts.Language

/-! ### One argument -/

/-- An argument with an equals sign, and before the first one something that is not blank. -/
def IsAssignment (raw : String) : Prop :=
  ∃ front back : List Char, raw.toList = front ++ '=' :: back ∧ '=' ∉ front ∧ ∃ c ∈ front, Text.isBlank c = false

/-- What an argument says: a name, trimmed, and the text behind the first equals sign, also further ones. -/
def Gives (raw name text : String) : Prop :=
  ∃ front : List Char, raw.toList = front ++ '=' :: text.toList ∧ '=' ∉ front ∧
    name = Text.trim (String.ofList front) ∧ name ≠ ""

/-- The value that a text stands for: its value as JSON if it is JSON, or else the text. -/
inductive IsLiteral (text : String) : Value → Prop where
  | json {v : Value} (h : Value.parse text = .ok v) : IsLiteral text v
  | text {fault : Json.Fault} (h : Value.parse text = .error fault) : IsLiteral text (.string text)

variable {raw name text : String} {v : Value}

theorem isLiteral_iff : IsLiteral text v ↔ v = .parseLiteral text := by
  unfold Value.parseLiteral
  constructor
  · rintro (h | h) <;> rw [h]
  · rintro rfl
    cases h : Value.parse text with
    | ok v => exact .json h
    | error fault => exact .text h

theorem trim_eq_empty_iff (s : String) : Text.trim s = "" ↔ ∀ c ∈ s.toList, Text.isBlank c := by
  constructor
  · intro h
    obtain ⟨before, after, hs, hbefore, hafter⟩ := Text.exists_trim s
    rw [hs, h]
    intro c hc
    rcases List.mem_append.mp hc with hc | hc
    · exact hbefore c (by simpa using hc)
    · exact hafter c hc
  · intro h
    have hs : s.toList = s.toList ++ [] ++ [] := by simp
    exact Text.trim_of_blanks hs h nofun nofun

theorem trim_ofList_ne_empty_iff (front : List Char) :
    Text.trim (String.ofList front) ≠ "" ↔ ∃ c ∈ front, Text.isBlank c = false := by
  rw [ne_eq, trim_eq_empty_iff, String.toList_ofList]
  simp

theorem isAssignment_iff : IsAssignment raw ↔ ∃ name text, Gives raw name text := by
  constructor
  · rintro ⟨front, back, hraw, hfront, hname⟩
    refine ⟨_, String.ofList back, front, ?_, hfront, rfl, (trim_ofList_ne_empty_iff front).mpr hname⟩
    rwa [String.toList_ofList]
  · rintro ⟨name, text, front, hraw, hfront, rfl, hname⟩
    exact ⟨front, text.toList, hraw, hfront, (trim_ofList_ne_empty_iff front).mp hname⟩

/-- An argument that says something is read as what it says. -/
theorem assignment?_of_gives (h : Gives raw name text) : assignment? raw = .ok (name, .parseLiteral text) := by
  obtain ⟨front, hraw, hfront, rfl, hname⟩ := h
  have hpass : ∀ c ∈ front, decide (c ≠ '=') = true := fun c hc =>
    decide_eq_true fun heq => hfront (heq ▸ hc)
  have htake : raw.toList.takeWhile (· ≠ '=') = front := by
    rw [hraw, List.takeWhile_append_of_pos hpass, List.takeWhile_cons_of_neg (by simp), List.append_nil]
  have hdrop : raw.toList.dropWhile (· ≠ '=') = '=' :: text.toList := by
    rw [hraw, List.dropWhile_append_of_pos hpass, List.dropWhile_cons_of_neg (by simp)]
  unfold assignment?
  dsimp only
  rw [htake, hdrop]
  dsimp only
  rw [if_neg hname, String.ofList_toList]

/-- An argument that says nothing is refused. -/
theorem assignment?_of_not (h : ¬ IsAssignment raw) : assignment? raw = .error (.variableInvalid raw) := by
  unfold assignment?
  dsimp only
  split
  · next c value hdrop =>
    have hc : c = '=' := by
      have hstop := List.head_dropWhile_not (· ≠ '=') (l := raw.toList) (by rw [hdrop]; exact List.cons_ne_nil _ _)
      simp only [hdrop, List.head_cons] at hstop
      simpa using hstop
    subst hc
    refine if_pos (Classical.not_not.mp fun hname => h ⟨raw.toList.takeWhile (· ≠ '='), value, ?_, ?_, ?_⟩)
    · rw [← hdrop, List.takeWhile_append_dropWhile]
    · exact fun hmem => absurd (List.mem_takeWhile_imp hmem) (by simp)
    · exact (trim_ofList_ne_empty_iff _).mp hname
  · rfl

theorem isAssignment_iff_isOk : IsAssignment raw ↔ (assignment? raw).toBool = true := by
  constructor
  · intro h
    obtain ⟨name, text, hgives⟩ := isAssignment_iff.mp h
    rw [assignment?_of_gives hgives]
    rfl
  · intro h
    by_contra hnot
    rw [assignment?_of_not hnot] at h
    cases h

instance (raw : String) : Decidable (IsAssignment raw) := decidable_of_iff' _ isAssignment_iff_isOk

/-! ### All arguments -/

/-- The value that the last argument with a name gives it. -/
def LastGiven (args : List String) (name : String) (v : Value) : Prop :=
  ∃ (before : List String) (raw : String) (later : List String) (text : String),
    args = before ++ raw :: later ∧ Gives raw name text ∧ IsLiteral text v ∧
      ∀ other ∈ later, ∀ text, ¬ Gives other name text

/-- Variables with those that arguments give put on top: what is given has the value given last, and what is
not is as it was. -/
structure Overrides (vars : Dictionary Value) (args : List String) (vars' : Dictionary Value) : Prop where
  increasing : Dictionary.Increasing vars'
  given : ∀ name v, LastGiven args name v → Dictionary.get? name vars' = some v
  kept : ∀ name, (∀ raw ∈ args, ∀ text, ¬ Gives raw name text) →
    Dictionary.get? name vars' = Dictionary.get? name vars

variable {vars vars' : Dictionary Value} {args : List String} {c : Config}

theorem overrides_nil (h : Dictionary.Increasing vars) : Overrides vars [] vars where
  increasing := h
  given name v hgiven := by
    obtain ⟨before, raw, later, text, hargs, -⟩ := hgiven
    cases before <;> cases hargs
  kept name _ := rfl

theorem Overrides.cons (hgives : Gives raw name text)
    (h : Overrides (Dictionary.insert name (.parseLiteral text) vars) args vars') :
    Overrides vars (raw :: args) vars' where
  increasing := h.increasing
  given other v hgiven := by
    obtain ⟨before, last, later, said, hargs, hlast, hliteral, hlater⟩ := hgiven
    cases before with
    | nil =>
      cases hargs
      have hsame := (assignment?_of_gives hgives).symm.trans (assignment?_of_gives hlast)
      obtain ⟨rfl, hvalue⟩ := Prod.mk.inj (Except.ok.inj hsame)
      rw [h.kept name hlater, Dictionary.get?_insert_self, hvalue, isLiteral_iff.mp hliteral]
    | cons first before =>
      cases hargs
      exact h.given other v ⟨before, last, later, said, rfl, hlast, hliteral, hlater⟩
  kept other hother := by
    have hne : other ≠ name := by
      rintro rfl
      exact hother raw List.mem_cons_self text hgives
    rw [h.kept other fun given hmem => hother given (List.mem_cons_of_mem _ hmem),
      Dictionary.get?_insert_of_ne hne]

theorem withVariables_cons (hgives : Gives raw name text) (c : Config) (args : List String) :
    withVariables c (raw :: args) =
      withVariables { c with vars := Dictionary.insert name (.parseLiteral text) c.vars } args := by
  rw [withVariables, assignment?_of_gives hgives]

/-- Arguments that all say something are put on top, and nothing else is changed. -/
theorem withVariables_of_assignments (h : ∀ raw ∈ args, IsAssignment raw) (hc : Dictionary.Increasing c.vars) :
    ∃ vars, Overrides c.vars args vars ∧ withVariables c args = .ok { c with vars := vars } := by
  induction args generalizing c with
  | nil => exact ⟨c.vars, overrides_nil hc, rfl⟩
  | cons raw args ih =>
    obtain ⟨hraw, hargs⟩ := List.forall_mem_cons.mp h
    obtain ⟨name, text, hgives⟩ := isAssignment_iff.mp hraw
    obtain ⟨vars, hoverrides, hrest⟩ :=
      ih (c := { c with vars := Dictionary.insert name (.parseLiteral text) c.vars }) hargs
        (Dictionary.increasing_insert name _ hc)
    exact ⟨vars, hoverrides.cons hgives, (withVariables_cons hgives c args).trans hrest⟩

/-- **The first argument that says nothing is refused**, wherever it stands. -/
theorem withVariables_of_not {before : List String} (hbefore : ∀ given ∈ before, IsAssignment given)
    (h : ¬ IsAssignment raw) (later : List String) :
    withVariables c (before ++ raw :: later) = .error (.variableInvalid raw) := by
  induction before generalizing c with
  | nil => rw [List.nil_append, withVariables, assignment?_of_not h]
  | cons given before ih =>
    obtain ⟨hgiven, hrest⟩ := List.forall_mem_cons.mp hbefore
    obtain ⟨name, text, hgives⟩ := isAssignment_iff.mp hgiven
    rw [List.cons_append, withVariables_cons hgives]
    exact ih hrest

/-! ### The configuration -/

/-- When a configuration cannot be used, and what is said about it: its file cannot be read, or does not hold
a configuration. -/
inductive ConfigUnusable (files : FileTree) : Option Path → Refusal → Prop where
  | unreadable {path : Path} {e : FileError} (h : files.readText (absolute files path) = .error e) :
    ConfigUnusable files (some path) (.configUnreadable (absolute files path) e)
  | invalid {path : Path} {text : String} {fault : Json.Fault}
    (hread : files.readText (absolute files path) = .ok text) (hparse : Config.parse text = .error fault) :
    ConfigUnusable files (some path) (.configInvalid (absolute files path) (fault.message text))

theorem loadConfig_eq_error_iff {files : FileTree} {config : Option Path} {why : Refusal} :
    loadConfig files config = .error why ↔ ConfigUnusable files config why := by
  constructor
  · intro h
    cases config with
    | none => cases h
    | some path =>
      unfold loadConfig Config.load at h
      dsimp only at h
      cases hread : files.readText (absolute files path) with
      | error e =>
        rw [hread] at h
        cases h
        exact .unreadable hread
      | ok text =>
        rw [hread] at h
        dsimp only at h
        cases hparse : Config.parse text with
        | error fault =>
          rw [hparse] at h
          cases h
          exact .invalid hread hparse
        | ok c =>
          rw [hparse] at h
          cases h
  · rintro (h | ⟨hread, hparse⟩)
    · unfold loadConfig Config.load
      dsimp only
      rw [h]
    · unfold loadConfig Config.load
      dsimp only
      rw [hread]
      dsimp only
      rw [hparse]

theorem increasing_of_ofJson {j : Json} {entries : Dictionary Value} (h : Value.ofJson j = .map entries) :
    Dictionary.Increasing entries := by
  cases j with
  | object members =>
    cases h
    exact Dictionary.increasing_ofEntries _
  | int n =>
    rw [Value.ofJson, Value.ofInteger] at h
    split_ifs at h
  | _ => cases h

theorem increasing_vars_of_parse {text : String} (h : Config.parse text = .ok c) :
    Dictionary.Increasing c.vars := by
  unfold Config.parse at h
  cases hj : Config.shape.parse text with
  | error fault =>
    rw [hj] at h
    cases h
  | ok j =>
    rw [hj] at h
    cases h
    unfold Config.ofJson
    dsimp only
    split
    · next entries hentries => exact increasing_of_ofJson hentries
    · exact List.Pairwise.nil

theorem increasing_vars_of_loadConfig {files : FileTree} {config : Option Path}
    (h : loadConfig files config = .ok c) : Dictionary.Increasing c.vars := by
  cases config with
  | none =>
    cases h
    exact List.Pairwise.nil
  | some path =>
    unfold loadConfig Config.load at h
    dsimp only at h
    split at h
    · cases h
    · split at h
      · cases h
      · next found hparse =>
        cases h
        exact increasing_vars_of_parse (c := found) hparse

/-! ### The command -/

/-- Why a command is refused: its configuration cannot be used, or else it is the first argument that says
nothing. -/
inductive Refused (files : FileTree) (a : RunArguments) : Refusal → Prop where
  | config {why : Refusal} (h : ConfigUnusable files a.config why) : Refused files a why
  | argument {before later : List String} {raw : String} (hconfig : ∀ why, ¬ ConfigUnusable files a.config why)
    (hargs : a.vars = before ++ raw :: later) (hbefore : ∀ given ∈ before, IsAssignment given)
    (h : ¬ IsAssignment raw) : Refused files a (.variableInvalid raw)

/-- The run of a command with a configuration. -/
def runWith (a : RunArguments) (interpreter : Interpreter) (config : Config) : Act Result := do
  let files := (← get).files
  let id ← Act.freshId
  let answer ← runScript (.empty interpreter) id (← Act.captured) (scriptData files a) (context files a config)
  return printed answer

/-- The runtime that is made for a command in a world. -/
def runtimeOf (a : RunArguments) (w : World) (config : Config) : Runtime :=
  .fresh (idText w.seed w.issued) w.facts (scriptData w.files a) (context w.files a config)

/-- Runtimes that run one script in one way, where the scripts see the same but for their variables. -/
structure AlikeButVars (rt rt' : Runtime) : Prop where
  engine : rt'.engineIn = rt.engineIn
  sourceFile : rt'.sourceFile = rt.sourceFile
  executor : rt'.executor = rt.executor
  searchPaths : rt'.searchPaths = rt.searchPaths
  logPath : rt'.logPath = rt.logPath
  sight : ∀ name ≠ Global.vars, (rt'.executor.scope rt'.sourceFile rt'.vars).held? name =
    (rt.executor.scope rt.sourceFile rt.vars).held? name

variable {a : RunArguments} {interpreter : Interpreter} {w : World}

theorem provided_of_ne {name : String} (hname : name ≠ Global.vars) (a : RunArguments) (w : World) (c : Config)
    (vars : Dictionary Value) :
    (runtimeOf a w { c with vars := vars }).provided name = (runtimeOf a w c).provided name := by
  unfold Runtime.provided
  split
  case h_3 => exact absurd rfl hname
  all_goals rfl

/-- **Other variables change nothing else.** -/
theorem alikeButVars (a : RunArguments) (w : World) (c : Config) (vars : Dictionary Value) :
    AlikeButVars (runtimeOf a w c) (runtimeOf a w { c with vars := vars }) := by
  refine ⟨rfl, rfl, rfl, rfl, rfl, fun name hname => ?_⟩
  rw [Runtime.held?_scope_run, Runtime.held?_scope_run, provided_of_ne hname]

theorem freshId_run (w : World) :
    Act.freshId.run w = (idText w.seed w.issued, { w with issued := w.issued + 1 }) := rfl

theorem captured_run (w : World) : Act.captured.run w = (w.facts, w) := rfl

theorem runWith_run (a : RunArguments) (interpreter : Interpreter) (config : Config) (w : World) :
    (runWith a interpreter config).run w =
      let done := (runScript (.empty interpreter) (idText w.seed w.issued) w.facts (scriptData w.files a)
        (context w.files a config)).run { w with issued := w.issued + 1 }
      (printed done.1, done.2) := by
  have hfacts : ({ w with issued := w.issued + 1 } : World).facts = w.facts := rfl
  unfold runWith
  rw [Act.run_bind, Act.run_get, Act.run_bind, freshId_run, Act.run_bind, captured_run, hfacts]
  rfl

theorem runCommand_of_config {config : Config}
    (h : ((loadConfig w.files a.config).bind fun c => withVariables c a.vars) = .ok config) :
    (runCommand a interpreter).run w = (runWith a interpreter config).run w := by
  have hreport : (runReport a interpreter).run w =
      (runScript (.empty interpreter) (idText w.seed w.issued) w.facts (scriptData w.files a)
        (context w.files a config)).run { w with issued := w.issued + 1 } := by
    unfold runReport
    rw [Act.run_bind, Act.run_get]
    dsimp only
    rw [h]
    dsimp only
    rw [Act.run_bind, freshId_run, Act.run_bind, captured_run]
    rfl
  rw [runCommand_run, hreport, runWith_run]

theorem runCommand_of_refusal {why : Refusal}
    (h : ((loadConfig w.files a.config).bind fun c => withVariables c a.vars) = .error why) :
    (runCommand a interpreter).run w = (errorResult why, w) := by
  unfold runCommand
  rw [Act.run_bind, Act.run_get]
  dsimp only
  rw [h]
  rfl

/-- A script that can be read is carried out in the scope of the runtime that is made. -/
theorem runWith_of_script {config : Config} {text : String}
    (hengine : (runtimeOf a w config).engineIn w.files = .script)
    (htext : w.files.readText (runtimeOf a w config).sourceFile = .ok text) :
    ∃ r w', (runWith a interpreter config).run w = (printed (.ok r), w') ∧
      (runtimeOf a w config).ComesTo interpreter w.files text r.outcome r.message := by
  let made := Runtime.madeIn { w with issued := w.issued + 1 } (idText w.seed w.issued) w.facts
    (scriptData w.files a) (context w.files a config)
  obtain ⟨told, told', rt', n, fed, -, hattempt⟩ :=
    Runtime.attempt_of_script (w := made) rfl hengine (EngineTable.empty interpreter)
  obtain ⟨told, hrun⟩ := runScript_of_attempt hattempt
  rw [runWith_run, hrun]
  exact ⟨_, _, rfl, Runtime.execution_comesTo interpreter htext⟩

/-- What is said about a command that is refused: the lines of an error, and nothing else. -/
theorem errorResult_eq (why : Refusal) : errorResult why =
    ⟨["RESULT:ERROR", "ERROR_CODE:" ++ why.code, "ERROR_MSG_JSON:" ++ jsonString why.message], 1⟩ := rfl

theorem exists_first_not (h : ∃ raw ∈ args, ¬ IsAssignment raw) :
    ∃ before raw later, args = before ++ raw :: later ∧ (∀ given ∈ before, IsAssignment given) ∧
      ¬ IsAssignment raw := by
  obtain ⟨bad, hmem, hbad⟩ := h
  have hsome : (args.find? fun raw => ¬ IsAssignment raw).isSome :=
    List.find?_isSome.mpr ⟨bad, hmem, decide_eq_true hbad⟩
  obtain ⟨raw, hfirst⟩ := Option.isSome_iff_exists.mp hsome
  obtain ⟨hraw, before, later, hargs, hbefore⟩ := List.find?_eq_some_iff_append.mp hfirst
  exact ⟨before, raw, later, hargs, fun given hgiven => by simpa using hbefore given hgiven, by simpa using hraw⟩

/-- **Variables are given all or not at all.** If the configuration of a command can be used and all arguments
for variables give names texts, then the script sees the variables of the configuration with those of the
arguments put on top, where the last argument with a name counts; the run is the run of the command with these
variables, and otherwise it is the run without arguments. If the configuration cannot be used, or if any
argument says nothing, wherever it stands, then the lines of an error are printed, the code is one, and the
world is as it was: there is no run and no console, and no file and no directory has been written. -/
theorem variables_all_or_nothing (a : RunArguments) (interpreter : Interpreter) (w : World) :
    (∀ config, loadConfig w.files a.config = .ok config → (∀ raw ∈ a.vars, IsAssignment raw) →
      ∃ vars, Overrides config.vars a.vars vars ∧
        let bare := runtimeOf a w config
        let rt := runtimeOf a w { config with vars := vars }
        (runCommand a interpreter).run w = (runWith a interpreter { config with vars := vars }).run w ∧
        (runCommand { a with vars := [] } interpreter).run w = (runWith a interpreter config).run w ∧
        AlikeButVars bare rt ∧
        (rt.executor.scope rt.sourceFile rt.vars).held? Global.vars =
          some (.map (vars.map fun entry => (entry.1, .ofValue entry.2))) ∧
        ∀ text, rt.engineIn w.files = .script → w.files.readText rt.sourceFile = .ok text →
          ∃ r w', (runCommand a interpreter).run w = (printed (.ok r), w') ∧
            rt.ComesTo interpreter w.files text r.outcome r.message) ∧
    ((∃ why, ConfigUnusable w.files a.config why) ∨ (∃ raw ∈ a.vars, ¬ IsAssignment raw) →
      ∃ why, Refused w.files a why ∧ (runCommand a interpreter).run w =
        (⟨["RESULT:ERROR", "ERROR_CODE:" ++ why.code, "ERROR_MSG_JSON:" ++ jsonString why.message], 1⟩, w)) := by
  constructor
  · intro config hload hargs
    obtain ⟨vars, hoverrides, hvars⟩ :=
      withVariables_of_assignments hargs (increasing_vars_of_loadConfig hload)
    have hrun : (runCommand a interpreter).run w =
        (runWith a interpreter { config with vars := vars }).run w :=
      runCommand_of_config (by rw [hload]; exact hvars)
    have hbare : (runCommand { a with vars := [] } interpreter).run w = (runWith a interpreter config).run w :=
      runCommand_of_config (a := { a with vars := [] }) (by rw [hload]; rfl)
    refine ⟨vars, hoverrides, hrun, hbare, alikeButVars a w config vars, Runtime.held?_scope_run _ _,
      fun text hengine htext => ?_⟩
    rw [hrun]
    exact runWith_of_script hengine htext
  · intro h
    cases hload : loadConfig w.files a.config with
    | error why =>
      refine ⟨why, .config (loadConfig_eq_error_iff.mp hload), ?_⟩
      rw [runCommand_of_refusal (by rw [hload]; rfl), errorResult_eq]
    | ok config =>
      -- the configuration can be used, so an argument is to blame
      have husable : ∀ why, ¬ ConfigUnusable w.files a.config why := fun why hwhy => by
        rw [loadConfig_eq_error_iff.mpr hwhy] at hload
        cases hload
      have hbad : ∃ raw ∈ a.vars, ¬ IsAssignment raw := h.resolve_left fun ⟨why, hwhy⟩ => husable why hwhy
      obtain ⟨before, raw, later, hargs, hbefore, hraw⟩ := exists_first_not hbad
      refine ⟨.variableInvalid raw, .argument husable hargs hbefore hraw, ?_⟩
      have hrefused : withVariables config a.vars = .error (.variableInvalid raw) := by
        rw [hargs]
        exact withVariables_of_not hbefore hraw later
      rw [runCommand_of_refusal (by rw [hload]; exact hrefused), errorResult_eq]

/-- Files with a configuration and a script. -/
def configuredWorld : World :=
  { (default : World) with
    files := ⟨[(["a.rhai"], .file (Text.toBytes "print(__vars__.limit)") none),
      (["c.json"], .file (Text.toBytes "\x7b\"variables\": \x7b\"limit\": 1, \"kept\": true\x7d\x7d") none)], []⟩ }

/-- A run of that script with that configuration, and with some arguments for variables. -/
def configuredArguments (vars : List String) : RunArguments :=
  ⟨⟨"a.rhai"⟩, none, none, [], [], vars, some ⟨"c.json"⟩, none, false, false⟩

/-- The last argument with a name counts, with all that is behind its first equals sign; with one bad argument
behind a good one, nothing is done. -/
theorem variables_all_or_nothing_configured :
    let good := configuredArguments ["limit=1", " limit =2=3"]
    let bad := configuredArguments ["limit=1", " =2"]
    (∃ config vars, loadConfig configuredWorld.files good.config = .ok config ∧
      (∀ raw ∈ good.vars, IsAssignment raw) ∧
      (Dictionary.get? "kept" vars).map Value.jsonText = some "true" ∧
      Dictionary.get? "limit" vars = some (.string "2=3") ∧
      (runtimeOf good configuredWorld { config with vars := vars }).engineIn configuredWorld.files = .script ∧
      ∃ r w', (runCommand good).run configuredWorld = (printed (.ok r), w') ∧
        (runtimeOf good configuredWorld { config with vars := vars }).ComesTo .standard configuredWorld.files
          "print(__vars__.limit)" r.outcome r.message) ∧
    (∃ raw ∈ bad.vars, ¬ IsAssignment raw) ∧
      ((runCommand bad).run configuredWorld).1.lines.take 2 = ["RESULT:ERROR", "ERROR_CODE:CLI_VAR_INVALID"] ∧
      ((runCommand bad).run configuredWorld).2 = configuredWorld := by
  intro good bad
  have hassignments : ∀ raw ∈ good.vars, IsAssignment raw := by decide +kernel
  have hmalformed : ∃ raw ∈ bad.vars, ¬ IsAssignment raw := by decide +kernel
  refine ⟨?_, hmalformed, ?_⟩
  · have hkept : ((loadConfig configuredWorld.files good.config).toOption.map fun c =>
        (Dictionary.get? "kept" c.vars).map Value.jsonText) = some (some "true") := by decide +kernel
    cases hload : loadConfig configuredWorld.files good.config with
    | error why =>
      rw [hload] at hkept
      cases hkept
    | ok config =>
      rw [hload] at hkept
      obtain ⟨vars, hoverrides, -, -, -, -, hscript⟩ :=
        (variables_all_or_nothing good .standard configuredWorld).1 config hload hassignments
      have htext : configuredWorld.files.readText
          (runtimeOf good configuredWorld { config with vars := vars }).sourceFile =
            .ok "print(__vars__.limit)" := by
        show configuredWorld.files.readText (absolute configuredWorld.files ⟨"a.rhai"⟩) = _
        decide +kernel
      have hkind : ScriptKind.ofPath? (absolute configuredWorld.files ⟨"a.rhai"⟩) = some .script := by
        decide +kernel
      have hengine : (runtimeOf good configuredWorld { config with vars := vars }).engineIn
          configuredWorld.files = .script := Runtime.engineIn_of_readText rfl hkind htext
      have hother : ∀ raw ∈ good.vars, ∀ text, ¬ Gives raw "kept" text := by
        intro raw hraw text hgives
        have hnames : ∀ raw ∈ good.vars, (assignment? raw).toOption.map Prod.fst ≠ some "kept" := by
          decide +kernel
        exact hnames raw hraw (by rw [assignment?_of_gives hgives]; rfl)
      have hlast : LastGiven good.vars "limit" (.string "2=3") := by
        refine ⟨["limit=1"], " limit =2=3", [], "2=3", rfl, ⟨" limit ".toList, ?_⟩, ?_, nofun⟩
        · decide +kernel
        · have hfault : (Value.parse "2=3").toBool = false := by decide +kernel
          cases hparse : Value.parse "2=3" with
          | error fault => exact .text hparse
          | ok v =>
            rw [hparse] at hfault
            cases hfault
      refine ⟨config, vars, rfl, hassignments, ?_, hoverrides.given "limit" _ hlast, hengine,
        hscript _ hengine htext⟩
      rw [hoverrides.kept "kept" hother]
      exact Option.some.inj hkept
  · obtain ⟨why, -, hrun⟩ := (variables_all_or_nothing bad .standard configuredWorld).2 (Or.inr hmalformed)
    exact ⟨by decide +kernel, by rw [hrun]⟩

end HostedScripts.CommandLine
