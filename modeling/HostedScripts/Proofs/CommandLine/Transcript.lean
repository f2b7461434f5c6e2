import HostedScripts.CommandLine.Commands
import HostedScripts.Proofs.Json.Documents
import HostedScripts.Proofs.Executor.Log
import HostedScripts.Proofs.Output.Writing
import HostedScripts.Proofs.Runtime.Isolation
import HostedScripts.Proofs.SystemPath

/-! # Reading back what a run prints

What a run prints is read back by `Transcript.decode`: it takes the text apart at the line feeds, strips the
tags, and reads the documents. This is possible because nothing that a script controls breaks a line: the lines
of a console have no line feeds (`Console.newline_notMem_linesOf`), and documents are written on one line. The
path of the log is printed as far as it can be shown; it comes last, and as it is absolute it is not the word for
no log.

* `Transcript.decode_text`: every transcript with such lines is read back, but for a log that is no text.
* `transcripts_decode`: every run on the command line prints such a transcript, or an error that is not taken
  for one.
* `transcripts_undecodable`: logs that are no texts are not told apart. -/

namespace HostedScripts.CommandLine

open Output (Console Registry)

namespace Transcript

/-- What stands behind a tag. -/
def untag? (tag : String) (line : List Char) : Option String :=
  (line.dropPrefix? tag.toList).map String.ofList

/-- The outcome that is printed by a word. -/
def outcome? (word : String) : Option Outcome :=
  [.succeeded, .cancelled, .failed].find? fun o => Text.upperAscii o.name = word

/-- The document in a text. -/
def document? (text : String) : Option Json := (Json.parse text).toOption

/-- The members of an object of texts. -/
def texts? : Json → Option (Dictionary String)
  | .object ms => ms.mapM fun m => m.2.string?.map (m.1, ·)
  | _ => none

/-- Whether a line tells what was written to the console. -/
def isOutput (line : List Char) : Bool := (untag? "OUTPUT:" line).isSome

/-- The log that is named by a text. -/
def logOf (text : String) : Option SystemPath := if text = "NONE" then none else some (.ofPath ⟨text⟩)

/-- Reads a transcript from its lines; what is left of them is the path of the log, which may have line feeds
in it, and an empty line. -/
def ofLines : List (List Char) → Option Transcript
  | outcome :: engine :: execId :: lines =>
    match lines.dropWhile isOutput with
    | message :: results :: last => do
      return {
        outcome := ← (untag? "RESULT:" outcome).bind outcome?
        engine := ← (untag? "ENGINE:" engine).bind EngineKind.ofName?
        execId := ← untag? "EXEC_ID:" execId
        output := (lines.takeWhile isOutput).filterMap (untag? "OUTPUT:")
        message := ← ((untag? "MESSAGE_JSON:" message).bind document?).bind Json.string?
        results := ← ((untag? "RESULTS_JSON:" results).bind document?).bind texts?
        log := logOf (← untag? "LOG_FILE:" (['\n'].intercalate last.dropLast)) }
    | _ => none
  | _ => none

/-- Reads back what a run printed. -/
def decode (text : String) : Option Transcript := ofLines (Text.splitList '\n' text.toList)

/-! ### Lines -/

theorem untag?_append (tag s : String) : untag? tag (tag ++ s).toList = some s := by
  have hdrop : (tag ++ s).toList.dropPrefix? tag.toList = some s.toList :=
    List.dropPrefix?_eq_some_iff.mpr ⟨tag.toList, String.toList_append, beq_self_eq_true _⟩
  rw [untag?, hdrop, Option.map_some, String.ofList_toList]

theorem isOutput_output (s : String) : isOutput ("OUTPUT:" ++ s).toList = true := by
  rw [isOutput, untag?_append, Option.isSome_some]

theorem isOutput_message (s : String) : isOutput ("MESSAGE_JSON:" ++ s).toList = false := by
  rw [isOutput, untag?, String.toList_append]
  rfl

theorem toList_text (result : Result) :
    result.text.toList = (result.lines.map String.toList).flatMap (· ++ ['\n']) := by
  have hline : ∀ line : String, (line ++ "\n").toList = line.toList ++ ['\n'] := fun line =>
    String.toList_append
  rw [Result.text, String.toList_join, List.flatMap_map, List.flatMap_map]
  exact List.flatMap_congr fun line _ => hline line

/-! ### Reading documents back -/

theorem plain_ofTexts (ms : Dictionary String) : Json.Plain 127 (Json.ofTexts ms) := by
  refine .object fun m hm => ?_
  obtain ⟨⟨k, s⟩, -, rfl⟩ := List.mem_map.mp hm
  exact .string 126 s

theorem document?_render {j : Json} (h : Json.Plain 127 j) : document? j.render = some j := by
  rw [document?, Json.parse_render h]
  rfl

theorem texts?_ofTexts (ms : Dictionary String) : texts? (Json.ofTexts ms) = some ms := by
  show (ms.map fun m => (m.1, Json.string m.2)).mapM _ = some ms
  induction ms with
  | nil => rfl
  | cons m ms ih =>
    rw [List.map_cons, List.mapM_cons, ih]
    rfl

theorem newline_notMem_render {j : Json} (h : Json.Plain 127 j) : '\n' ∉ j.render.toList := by
  rw [Json.render, String.toList_ofList]
  exact Json.newline_notMem_chars h

/-! ### Reading a transcript back -/

variable {t : Transcript}

/-- A transcript in which nothing breaks a line, but perhaps the path of the log, which is absolute. -/
structure Legible (t : Transcript) : Prop where
  execId : '\n' ∉ t.execId.toList
  output : ∀ line ∈ t.output, '\n' ∉ line.toList
  log : ∀ p, t.log = some p → p.isAbsolute = true

/-- A transcript whose log, if there is one, is a text. -/
def HasTextLog (t : Transcript) : Prop := ∀ p, t.log = some p → p.IsText

/-- What is known of a transcript from what is printed of it. -/
def marked (t : Transcript) : Transcript := { t with log := t.log.map (·.marked) }

theorem HasTextLog.marked_eq (h : t.HasTextLog) : t.marked = t := by
  obtain ⟨outcome, engine, execId, output, message, results, log⟩ := t
  cases log with
  | none => rfl
  | some p => rw [marked, Option.map_some, (h p rfl).marked_eq]

/-- The lines of a transcript before the log. -/
def linesBefore (t : Transcript) : List String :=
  ["RESULT:" ++ Text.upperAscii t.outcome.name, "ENGINE:" ++ t.engine.name, "EXEC_ID:" ++ t.execId] ++
    t.output.map ("OUTPUT:" ++ ·) ++
    ["MESSAGE_JSON:" ++ jsonString t.message, "RESULTS_JSON:" ++ (Json.ofTexts t.results).render]

theorem lines_eq (t : Transcript) : t.lines = t.linesBefore ++ [t.logLine] := by
  simp [lines, linesBefore]

theorem newline_notMem_linesBefore (h : t.Legible) : ∀ line ∈ t.linesBefore, '\n' ∉ line.toList := by
  have htagged : ∀ (tag s : String), '\n' ∉ tag.toList → '\n' ∉ s.toList → '\n' ∉ (tag ++ s).toList := by
    intro tag s htag hs
    simp [htag, hs]
  have houtcome : ∀ o : Outcome, '\n' ∉ (Text.upperAscii o.name).toList := by
    rintro (_ | _ | _) <;> decide
  have hengine : ∀ e : EngineKind, '\n' ∉ e.name.toList := by
    rintro (_ | _ | _ | _ | _) <;> decide
  intro line hline
  simp only [linesBefore, List.mem_append, List.mem_cons, List.mem_map, List.not_mem_nil, or_false] at hline
  rcases hline with ((rfl | rfl | rfl) | ⟨s, hs, rfl⟩) | rfl | rfl
  · exact htagged _ _ (by decide) (houtcome t.outcome)
  · exact htagged _ _ (by decide) (hengine t.engine)
  · exact htagged _ _ (by decide) h.execId
  · exact htagged _ _ (by decide) (h.output s hs)
  · exact htagged _ _ (by decide) (newline_notMem_render (.string 127 t.message))
  · exact htagged _ _ (by decide) (newline_notMem_render (plain_ofTexts t.results))

/-- The lines that are printed are the lines of the transcript, and what is left is the path of the log. -/
theorem splitList_text (h : t.Legible) (code : Nat) :
    Text.splitList '\n' (Result.text ⟨t.lines, code⟩).toList =
      t.linesBefore.map String.toList ++ (Text.splitList '\n' t.logLine.toList ++ [[]]) := by
  have hfree : ∀ part ∈ t.linesBefore.map String.toList, '\n' ∉ part := by
    intro part hpart
    obtain ⟨line, hline, rfl⟩ := List.mem_map.mp hpart
    exact newline_notMem_linesBefore h line hline
  have hlast : Text.splitList '\n' (t.logLine.toList ++ ['\n']) =
      Text.splitList '\n' t.logLine.toList ++ [[]] := by
    simp only [Text.splitList_eq_splitOn]
    exact List.splitOnP_append_cons _ _ (beq_self_eq_true '\n')
  rw [toList_text, t.lines_eq, List.map_append, List.flatMap_append, Text.splitList_flatMap hfree]
  rw [List.map_singleton, List.flatMap_singleton, hlast]

theorem outcome?_upperAscii (o : Outcome) : outcome? (Text.upperAscii o.name) = some o := by
  cases o <;> decide

theorem engine?_name (e : EngineKind) : EngineKind.ofName? e.name = some e := by
  cases e <;> decide

theorem logOf_shown {log : Option SystemPath} (h : ∀ p, log = some p → p.isAbsolute = true) :
    logOf ((log.map (·.shown)).getD "NONE") = log.map (·.marked) := by
  cases log with
  | none => rfl
  | some p => exact if_neg (SystemPath.shown_ne_of_isAbsolute (h p rfl))

theorem outputs_of_lines (output : List String) {message : List Char} (h : isOutput message = false)
    (behind : List (List Char)) :
    ((output.map fun s => ("OUTPUT:" ++ s).toList) ++ message :: behind).dropWhile isOutput =
        message :: behind ∧
      (((output.map fun s => ("OUTPUT:" ++ s).toList) ++ message :: behind).takeWhile isOutput).filterMap
        (untag? "OUTPUT:") = output := by
  have houtput : ∀ line ∈ output.map fun s => ("OUTPUT:" ++ s).toList, isOutput line = true := by
    intro line hline
    obtain ⟨s, -, rfl⟩ := List.mem_map.mp hline
    exact isOutput_output s
  have heach : (untag? "OUTPUT:" ∘ fun s => ("OUTPUT:" ++ s).toList) = some :=
    funext fun s => untag?_append "OUTPUT:" s
  have hnot : ¬ isOutput message = true := Bool.not_eq_true _ ▸ h
  refine ⟨?_, ?_⟩
  · rw [List.dropWhile_append_of_pos houtput, List.dropWhile_cons_of_neg hnot]
  · rw [List.takeWhile_append_of_pos houtput, List.takeWhile_cons_of_neg hnot, List.append_nil,
      List.filterMap_map, heach, List.filterMap_some]

theorem toList_linesBefore (t : Transcript) : t.linesBefore.map String.toList =
    ("RESULT:" ++ Text.upperAscii t.outcome.name).toList :: ("ENGINE:" ++ t.engine.name).toList ::
      ("EXEC_ID:" ++ t.execId).toList :: ((t.output.map fun s => ("OUTPUT:" ++ s).toList) ++
        [("MESSAGE_JSON:" ++ jsonString t.message).toList,
          ("RESULTS_JSON:" ++ (Json.ofTexts t.results).render).toList]) := by
  simp [linesBefore]

/-- The last line is put together again, wherever the path of the log has line feeds. -/
theorem intercalate_logLine (t : Transcript) :
    ['\n'].intercalate (Text.splitList '\n' t.logLine.toList ++ [[]]).dropLast = t.logLine.toList := by
  rw [List.dropLast_concat, Text.splitList_eq_splitOn]
  exact List.intercalate_splitOn '\n'

/-- **A transcript is read back from what is printed of it**, as far as its log can be shown. -/
theorem decode_text (h : t.Legible) (code : Nat) : decode (Result.text ⟨t.lines, code⟩) = some t.marked := by
  have hmessage : (document? (jsonString t.message)).bind Json.string? = some t.message := by
    rw [jsonString, document?_render (.string 127 t.message)]
    rfl
  have hresults : (document? (Json.ofTexts t.results).render).bind texts? = some t.results := by
    rw [document?_render (plain_ofTexts t.results), Option.bind_some, texts?_ofTexts]
  have hpath := t.intercalate_logLine
  rw [decode, splitList_text h, toList_linesBefore]
  -- the parts of the last line are not looked at before they are put together again
  generalize Text.splitList '\n' t.logLine.toList ++ [[]] = behind at hpath
  obtain ⟨hdrop, htake⟩ := outputs_of_lines t.output (isOutput_message (jsonString t.message))
    (("RESULTS_JSON:" ++ (Json.ofTexts t.results).render).toList :: behind)
  simp only [List.cons_append, List.append_assoc, List.nil_append]
  unfold ofLines
  dsimp only
  rw [hdrop, htake]
  dsimp only
  rw [hpath, logLine]
  simp only [untag?_append, Option.bind_some, outcome?_upperAscii, engine?_name, hmessage, hresults,
    logOf_shown h.log, Option.bind_eq_bind, Option.pure_def]
  rfl

end Transcript

/-! ### Logs of the command line -/

theorem isAbsolute_absolute (files : FileTree) (path : Path) : (absolute files path).isAbsolute = true := by
  refine Path.isAbsolute_join (Path.isAbsolute_iff.mpr ?_) path
  exact ⟨("/".intercalate files.current).toList, String.toList_append⟩

/-- A configuration whose relative paths, if it has any, start somewhere absolute. -/
def IsRooted (c : Config) : Prop :=
  c.logDirectory = none ∨ ∃ base, c.base = some base ∧ base.isAbsolute = true

theorem IsRooted.resolvedLogDirectory {c : Config} (h : IsRooted c) {d : Path}
    (hd : c.resolvedLogDirectory = some d) : d.isAbsolute = true := by
  obtain ⟨p, hp, rfl⟩ := Option.map_eq_some_iff.mp hd
  rcases h with hnone | ⟨base, hbase, habsolute⟩
  · rw [hnone] at hp
    cases hp
  · unfold Config.resolve
    rw [hbase]
    dsimp only
    split_ifs with hp
    · exact hp
    · exact Path.isAbsolute_join habsolute p

theorem components_ne_root {files : FileTree} {p : Path} {text : String}
    (h : files.readText p = .ok text) : p.components ≠ [.root] := by
  intro hroot
  obtain ⟨place, bytes, time, hplace, hnode, -⟩ := FileTree.readText_eq_ok_iff.mp h
  have hwalk := (FileTree.locate_eq_ok_iff.mp hplace).2.2.2.1
  -- the root is a directory, and only files are read
  rw [hroot] at hwalk
  cases hwalk
  rw [FileTree.node?_nil] at hnode
  cases hnode

theorem isRooted_load {files : FileTree} {path : Path} {c : Config} (hpath : path.isAbsolute = true)
    (h : Config.load files path = .ok c) : IsRooted c := by
  unfold Config.load at h
  cases htext : files.readText path with
  | error e =>
    rw [htext] at h
    cases h
  | ok text =>
    rw [htext] at h
    dsimp only at h
    cases hparse : Config.parse text with
    | error e =>
      rw [hparse] at h
      cases h
    | ok found =>
      rw [hparse] at h
      cases h
      rcases Path.parent?_of_isAbsolute hpath with ⟨d, hd, habsolute⟩ | hroot
      · exact Or.inr ⟨d, hd, habsolute⟩
      · exact absurd hroot (components_ne_root htext)

theorem isRooted_withVariables {vars : List String} {c c' : Config} (hc : IsRooted c)
    (h : withVariables c vars = .ok c') : IsRooted c' := by
  induction vars generalizing c with
  | nil =>
    cases h
    exact hc
  | cons raw vars ih =>
    rw [withVariables] at h
    cases hassign : assignment? raw with
    | error e =>
      rw [hassign] at h
      cases h
    | ok assignment =>
      obtain ⟨name, value⟩ := assignment
      rw [hassign] at h
      have hset : IsRooted { c with vars := Dictionary.insert name value c.vars } := hc
      exact ih hset h

theorem isRooted_config {files : FileTree} {a : RunArguments} {c : Config}
    (h : ((loadConfig files a.config).bind fun c => withVariables c a.vars) = .ok c) : IsRooted c := by
  cases hload : loadConfig files a.config with
  | error e =>
    rw [hload] at h
    cases h
  | ok loaded =>
    rw [hload] at h
    refine isRooted_withVariables ?_ h
    cases hconfig : a.config with
    | none =>
      rw [hconfig] at hload
      cases hload
      exact Or.inl rfl
    | some path =>
      rw [hconfig] at hload
      exact isRooted_load (isAbsolute_absolute files path) hload

/-! ### Runs on the command line -/

/-- The report of the run that a command asks for. -/
def runReport (a : RunArguments) (interpreter : Interpreter) : Act (Except Refusal Report) := do
  let files := (← get).files
  match (loadConfig files a.config).bind fun c => withVariables c a.vars with
  | .error e => return .error e
  | .ok config =>
    let id ← Act.freshId
    runScript (.empty interpreter) id (← Act.captured) (scriptData files a) (context files a config)

/-- What is printed of a report. -/
def printed : Except Refusal Report → Result
  | .error e => errorResult e
  | .ok r => ⟨reportLines r, exitCode r.outcome⟩

theorem runCommand_run (a : RunArguments) (interpreter : Interpreter) (w : World) :
    (runCommand a interpreter).run w =
      (printed ((runReport a interpreter).run w).1, ((runReport a interpreter).run w).2) := by
  unfold runCommand runReport
  rw [Act.run_bind, Act.run_bind, Act.run_get]
  dsimp only
  generalize (loadConfig w.files a.config).bind (fun c => withVariables c a.vars) = configured
  cases configured with
  | error e => rfl
  | ok config =>
    dsimp only
    rw [Act.run_bind, Act.run_bind, Act.run_bind, Act.run_bind, Act.run_bind]
    generalize (runScript (.empty interpreter) (Act.freshId.run w).1
      (Act.captured.run (Act.freshId.run w).2).1 (scriptData w.files a) (context w.files a config)).run
        (Act.captured.run (Act.freshId.run w).2).2 = done
    obtain ⟨answer, w'⟩ := done
    cases answer with
    | error e => rfl
    | ok r => rfl

/-- What is told of a run without handlers can be read back. -/
theorem legible_reportOf {rt : Runtime} (hid : '\n' ∉ rt.execId.toList)
    (hlog : ∀ p, rt.logPath = some p → p.isAbsolute = true) (interpreter : Interpreter) (files : FileTree) :
    (Transcript.ofReport (rt.reportOf (.empty interpreter) files)).Legible where
  execId := hid
  output line hline := by
    obtain ⟨text, -, hline⟩ := List.mem_flatMap.mp hline
    exact Console.newline_notMem_linesOf text line hline
  log p hp := by
    obtain ⟨q, hq, rfl⟩ := Option.map_eq_some_iff.mp hp
    refine SystemPath.isAbsolute_ofPath (hlog q ?_)
    replace hq : (rt.workBy (.empty interpreter) files (rt.engineIn files)).ending.logFile = some q := hq
    revert hq
    generalize rt.engineIn files = engine
    intro hq
    cases engine with
    | unknown | compiled | visual | invoke => cases hq
    | script =>
      have hlogs := Executor.logs_execute rt.executor interpreter files rt.sourceFile rt.searchPaths
        rt.logPath rt.vars
      replace hq : (rt.executor.execute interpreter files rt.sourceFile rt.searchPaths rt.logPath
        rt.vars).ending.logFile = some q := hq
      dsimp only at hlogs
      rw [hq] at hlogs
      exact hlogs.readText.1

theorem hasTextLog_ofReport (r : Report) : (Transcript.ofReport r).HasTextLog := by
  intro p hp
  obtain ⟨q, -, rfl⟩ := Option.map_eq_some_iff.mp hp
  exact ⟨q, rfl⟩

/-- Where a run on the command line logs its failure is an absolute path. -/
theorem isAbsolute_logPath {files : FileTree} {a : RunArguments} {config : Config}
    (hconfig : IsRooted config) (execId : String) (captured : Environment) {p : Path}
    (hp : (Runtime.fresh execId captured (scriptData files a) (context files a config)).logPath = some p) :
    p.isAbsolute = true := by
  replace hp : (a.logFile.map (absolute files) <|>
    config.resolvedLogDirectory.map fun d => d.join ⟨execId ++ ".log"⟩) = some p := hp
  cases hlog : a.logFile with
  | some path =>
    rw [hlog] at hp
    cases hp
    exact isAbsolute_absolute files path
  | none =>
    rw [hlog] at hp
    obtain ⟨d, hd, rfl⟩ := Option.map_eq_some_iff.mp hp
    exact Path.isAbsolute_join (hconfig.resolvedLogDirectory hd) _

/-- **What a run on the command line prints can be read back.** -/
theorem legible_runReport {a : RunArguments} {interpreter : Interpreter} {w : World}
    (hw : w.outputs = .empty) {r : Report} (h : ((runReport a interpreter).run w).1 = .ok r) :
    (Transcript.ofReport r).Legible := by
  unfold runReport at h
  rw [Act.run_bind, Act.run_get] at h
  dsimp only at h
  cases hconfig : (loadConfig w.files a.config).bind (fun c => withVariables c a.vars) with
  | error e =>
    rw [hconfig] at h
    cases h
  | ok config =>
    rw [hconfig] at h
    dsimp only at h
    rw [Act.run_bind, Act.run_bind] at h
    generalize hbegun : (Act.captured.run (Act.freshId.run w).2).2 = begun at h
    generalize (Act.captured.run (Act.freshId.run w).2).1 = captured at h
    have hid : (Act.freshId.run w).1 = idText w.seed w.issued := rfl
    -- taking an identifier and the time leaves the registry as it was: empty
    have hout : begun.outputs = .empty := by
      rw [← hbegun]
      exact hw
    have hsound : begun.outputs.Sound := by
      rw [hout]
      exact Registry.sound_empty
    have hblind : (EngineTable.empty interpreter).Blind := by
      intro engine handler hh
      cases engine <;> cases hh
    have hnew : begun.outputs.Untagged (scriptData w.files a).commandUniqueId (idText w.seed w.issued) := by
      rw [hout]
      exact nofun
    obtain ⟨w', hrun, -⟩ := runScript_run hsound hblind captured (context w.files a config) hnew
    rw [hid, hrun] at h
    cases h
    refine legible_reportOf ?_ (fun p hp => ?_) interpreter begun.files
    · show '\n' ∉ (idText w.seed w.issued).toList
      rw [idText, String.toList_ofList]
      exact Text.notMem_hexDigits (by decide) _ _
    · exact isAbsolute_logPath (isRooted_config hconfig) _ _ hp

namespace Transcript

/-- An error is not taken for a report. -/
theorem decode_errorResult (e : Refusal) : decode (errorResult e).text = none := by
  obtain ⟨more, hsplit⟩ : ∃ more, Text.splitList '\n' (errorResult e).text.toList =
      "RESULT:ERROR".toList :: more := by
    have hfree : ∀ part ∈ ["RESULT:ERROR".toList], '\n' ∉ part := by decide
    have hfirst := Text.splitList_flatMap hfree
      (["ERROR_CODE:" ++ e.code, "ERROR_MSG_JSON:" ++ jsonString e.message].map
        String.toList |>.flatMap (· ++ ['\n']))
    rw [← List.flatMap_append] at hfirst
    rw [toList_text]
    exact ⟨_, hfirst⟩
  have houtcome : (untag? "RESULT:" "RESULT:ERROR".toList).bind outcome? = none := by decide
  -- the word of the first line is no outcome, whatever comes after it
  rw [decode, hsplit]
  rcases more with - | ⟨engine, - | ⟨execId, lines⟩⟩
  · rfl
  · rfl
  · unfold ofLines
    dsimp only
    split
    · rw [houtcome]
      rfl
    · rfl

end Transcript

/-- **What a run prints is decodable.** A transcript without line feeds in its id and in the lines of its
console, and with an absolute path for its log, is read back from what is printed of it: the outcome, the engine,
the id, the lines, the message, the results and, if it is a text, the log; of a log that is no text as much is
known as can be shown. The lines that are printed are those of the transcript, each line of the console one of
them, and behind them only the path of the log. So transcripts of which the same is printed are the same in all
this, and in their logs too if these are texts.

Every run on the command line whose log is known by a text prints such a transcript, whatever the script says and
leaves, or an error, which is not taken for a transcript. -/
theorem transcripts_decode :
    (∀ (t : Transcript) (code : Nat), t.Legible →
      Transcript.decode (Result.text ⟨t.lines, code⟩) = some { t with log := t.log.map (·.marked) } ∧
      (t.HasTextLog → Transcript.decode (Result.text ⟨t.lines, code⟩) = some t) ∧
      t.lines = t.linesBefore ++ [t.logLine] ∧
      Text.splitList '\n' (Result.text ⟨t.lines, code⟩).toList =
        t.linesBefore.map String.toList ++ (Text.splitList '\n' t.logLine.toList ++ [[]])) ∧
    (∀ (t t' : Transcript) (code code' : Nat), t.Legible → t'.Legible →
      Result.text ⟨t.lines, code⟩ = Result.text ⟨t'.lines, code'⟩ →
      { t' with log := t.log } = t ∧ (t.HasTextLog → t'.HasTextLog → t' = t)) ∧
    ∀ (a : RunArguments) (interpreter : Interpreter) (w : World), w.outputs = .empty →
      (∃ r, ((runReport a interpreter).run w).1 = .ok r ∧ (Transcript.ofReport r).Legible ∧
        ((runCommand a interpreter).run w).1 = ⟨(Transcript.ofReport r).lines, exitCode r.outcome⟩ ∧
        Transcript.decode ((runCommand a interpreter).run w).1.text = some (.ofReport r)) ∨
      ∃ e, ((runReport a interpreter).run w).1 = .error e ∧
        ((runCommand a interpreter).run w).1 = errorResult e ∧
        Transcript.decode ((runCommand a interpreter).run w).1.text = none := by
  have hread : ∀ (t : Transcript) (code : Nat), t.Legible → t.HasTextLog →
      Transcript.decode (Result.text ⟨t.lines, code⟩) = some t := fun t code h hlog => by
    rw [Transcript.decode_text h, hlog.marked_eq]
  refine ⟨fun t code h => ⟨Transcript.decode_text h code, hread t code h, t.lines_eq,
    Transcript.splitList_text h code⟩, fun t t' code code' h h' htext => ?_, fun a interpreter w hw => ?_⟩
  · have hsame := Transcript.decode_text h code
    rw [htext, Transcript.decode_text h' code', Option.some.injEq] at hsame
    refine ⟨?_, fun hlog hlog' => by rwa [hlog.marked_eq, hlog'.marked_eq] at hsame⟩
    calc ({ t' with log := t.log } : Transcript) = { t'.marked with log := t.log } := rfl
      _ = { t.marked with log := t.log } := by rw [hsame]
      _ = t := rfl
  · rw [runCommand_run]
    rcases hreport : ((runReport a interpreter).run w).1 with e | r
    · exact Or.inr ⟨e, rfl, rfl, Transcript.decode_errorResult e⟩
    · have hlegible := legible_runReport hw hreport
      exact Or.inl ⟨r, rfl, hlegible, rfl, hread _ _ hlegible (hasTextLog_ofReport r)⟩

/-- A host with a script file that says something like a report and then raises an error. -/
def misleadingWorld : World :=
  { (default : World) with
    files := ⟨[(["a.rhai"], .file (Text.toBytes "print(\"a\\nRESULT:FAILED\"); throw 1") none)], []⟩
    outputs := .empty }

/-- A run of that file with a log. -/
def loggedArguments (log : Path) : RunArguments :=
  ⟨⟨"a.rhai"⟩, none, none, [], [], [], none, some log, false, false⟩

/-- The run is read back, also with a line feed in the name of the log. -/
theorem transcripts_decode_misleading :
    let a := loggedArguments ⟨"b\nOUTPUT:c"⟩
    ∃ r, ((runReport a .standard).run misleadingWorld).1 = .ok r ∧
      r.output = ["a", "RESULT:FAILED"] ∧ r.logPath = some ⟨"/b\nOUTPUT:c"⟩ ∧
      Transcript.decode ((runCommand a).run misleadingWorld).1.text = some (.ofReport r) := by
  intro a
  have hrun : (((runReport a .standard).run misleadingWorld).1.toOption.map fun r =>
      (r.output, r.logPath)) = some (["a", "RESULT:FAILED"], some ⟨"/b\nOUTPUT:c"⟩) := by decide +kernel
  obtain ⟨decodes, -, runs⟩ := transcripts_decode
  rcases runs a .standard misleadingWorld rfl with ⟨r, hr, hlegible, hprinted, -⟩ | ⟨e, he, -⟩
  · rw [hr] at hrun
    obtain ⟨houtput, hlog⟩ := Prod.mk.inj (Option.some.inj hrun)
    refine ⟨r, hr, houtput, hlog, ?_⟩
    rw [hprinted]
    exact (decodes _ _ hlegible).2.1 (hasTextLog_ofReport r)
  · rw [he] at hrun
    cases hrun

/-- **Logs that are no texts are not told apart.** A run whose log has the mark for a name prints what is
printed where the name is a byte that begins no character, so nothing reads both back. -/
theorem transcripts_undecodable :
    ∃ r, ((runReport (loggedArguments ⟨"\uFFFD"⟩) .standard).run misleadingWorld).1 = .ok r ∧
      let t := Transcript.ofReport r
      let t' := { t with log := some ⟨[0x2F, 0xFF]⟩ }
      t.log = some (.ofPath ⟨"/\uFFFD"⟩) ∧ t.Legible ∧ t'.Legible ∧
        ¬ ∃ decoder : String → Option Transcript,
          decoder (Result.text ⟨t.lines, exitCode t.outcome⟩) = some t ∧
            decoder (Result.text ⟨t'.lines, exitCode t'.outcome⟩) = some t' := by
  have hlog : (((runReport (loggedArguments ⟨"\uFFFD"⟩) .standard).run misleadingWorld).1.toOption.map fun r =>
      r.logPath) = some (some ⟨"/\uFFFD"⟩) := by decide +kernel
  rcases hreport : ((runReport (loggedArguments ⟨"\uFFFD"⟩) .standard).run misleadingWorld).1 with e | r
  · rw [hreport] at hlog
    cases hlog
  rw [hreport] at hlog
  replace hlog : r.logPath = some ⟨"/\uFFFD"⟩ := Option.some.inj hlog
  refine ⟨r, rfl, ?_⟩
  intro t t'
  have ht : t.log = some (.ofPath ⟨"/\uFFFD"⟩) := congrArg (Option.map SystemPath.ofPath) hlog
  have hlegible : t.Legible := legible_runReport rfl hreport
  -- the byte and the mark are shown alike, so both transcripts have the same last line
  have hlegible' : t'.Legible := ⟨hlegible.execId, hlegible.output, fun p hp => by cases hp; rfl⟩
  have hshown : (SystemPath.mk [0x2F, 0xFF]).shown = (SystemPath.ofPath ⟨"/\uFFFD"⟩).shown := by decide +kernel
  have hline : t'.logLine = t.logLine := by
    unfold Transcript.logLine
    rw [ht]
    exact congrArg ("LOG_FILE:" ++ ·) hshown
  have hlines : t'.lines = t.lines := by
    rw [t'.lines_eq, t.lines_eq, hline]
    rfl
  refine ⟨ht, hlegible, hlegible', ?_⟩
  rintro ⟨decoder, hdecoder, hdecoder'⟩
  rw [hlines] at hdecoder'
  have hsame : t = t' := Option.some.inj (hdecoder.symm.trans hdecoder')
  have hlogs : (some (.ofPath ⟨"/\uFFFD"⟩) : Option SystemPath) = some ⟨[0x2F, 0xFF]⟩ :=
    ht.symm.trans (congrArg Transcript.log hsame)
  exact absurd hlogs (by decide +kernel)

end HostedScripts.CommandLine
