import HostedScripts.Config
import HostedScripts.Environment
import HostedScripts.Proofs.Json.Spellings
import HostedScripts.Proofs.Value

/-! # The records of a host are read back

`ScriptData`, `Environment` and `Config` are records of simple fields, whose documents are the objects of all
their fields. So each of them comes back from every way to write it down (`records_readBack`): in any order of
its members, with others between them, without those that are there by default, or as an array. -/

namespace HostedScripts

open Json

theorem admits_path (p : Path) : Admits Path.shape p.toJson := .text _ _

theorem admits_path? (p? : Option Path) : Admits (.optional Path.shape) (.ofOption Path.toJson p?) := by
  cases p? with
  | none => exact .null _
  | some p => exact .optional (admits_path p)

theorem plain_path? (depth : Nat) (p? : Option Path) : Plain depth (.ofOption Path.toJson p?) := by
  cases p? with
  | none => exact .null _
  | some p => exact .string _ _

namespace ScriptData

theorem complete (d : ScriptData) : Complete shape.fields d.toJson.members :=
  .cons ⟨rfl, admits_path _⟩ (.cons ⟨rfl, admits_path? _⟩ (.cons ⟨rfl, admits_path? _⟩
    (.cons ⟨rfl, .text _ _⟩ (.cons ⟨rfl, .text _ _⟩ (.cons ⟨rfl, .text _ _⟩ .nil)))))

theorem plain (d : ScriptData) : Plain 127 d.toJson := by
  refine .object fun m hm => ?_
  simp only [List.mem_cons, List.not_mem_nil, or_false] at hm
  rcases hm with rfl | rfl | rfl | rfl | rfl | rfl
  · exact .string _ _
  · exact plain_path? _ _
  · exact plain_path? _ _
  · exact .string _ _
  · exact .string _ _
  · exact .string _ _

theorem ofJson?_ofOption (p? : Option Path) : Path.ofJson? (.ofOption Path.toJson p?) = p? := by
  cases p? <;> rfl

theorem simple : ∀ field ∈ shape.fields, Simple field.2.2 := by
  simp [shape, Shape.fields, Path.shape, Simple.text, Simple.optional]

/-- Script data is read back. -/
theorem readsBack (d : ScriptData) : ReadsBack shape d.toJson parse d := by
  refine readsBack_record simple (by decide) d.complete d.plain (fun text h => ?_) fun text e h => ⟨e, ?_⟩
  · obtain ⟨⟨path⟩, configPath, bundle, name, id, control⟩ := d
    have hparse : shape.parse text = .ok (toJson ⟨⟨path⟩, configPath, bundle, name, id, control⟩) := h
    unfold parse
    rw [hparse]
    simp [toJson, Bind.bind, Except.bind, Pure.pure, Except.pure, member?, string?, Path.toJson,
      ofJson?_ofOption]
  · have hparse : shape.parse text = .error e := h
    unfold parse
    rw [hparse]
    rfl

end ScriptData

namespace Environment

variable {e : Environment}

theorem complete (e : Environment) : Complete shape.fields e.toJson.members := by
  have hextra : Admits (.dictionary (.text "a string")) (.ofTexts e.extra) := .dictionary fun m hm => by
    obtain ⟨entry, -, rfl⟩ := List.mem_map.mp hm
    exact .text _ _
  exact .cons ⟨rfl, .text _ _⟩ (.cons ⟨rfl, .text _ _⟩ (.cons ⟨rfl, .text _ _⟩
    (.cons ⟨rfl, .text _ _⟩ (.cons ⟨rfl, .text _ _⟩ (.cons ⟨rfl, hextra⟩ .nil)))))

theorem plain (e : Environment) : Plain 127 e.toJson := by
  refine .object fun m hm => ?_
  simp only [List.mem_cons, List.not_mem_nil, or_false] at hm
  rcases hm with rfl | rfl | rfl | rfl | rfl | rfl
  · exact .string _ _
  · exact .string _ _
  · exact .string _ _
  · exact .string _ _
  · exact .string _ _
  · refine .object fun m hm => ?_
    obtain ⟨entry, -, rfl⟩ := List.mem_map.mp hm
    exact .string _ _

theorem simple : ∀ field ∈ shape.fields, Simple field.2.2 := by
  simp [shape, Shape.fields, Simple.text, Simple.dictionary]

theorem textsOf_ofTexts {texts : Dictionary String} (h : texts.Increasing) :
    textsOf (.ofTexts texts) = texts := by
  unfold textsOf Json.ofTexts members
  simp only [List.map_map, Function.comp_def, string?, Option.getD_some, List.map_id']
  exact Dictionary.ofEntries_of_increasing h

/-- **An environment is read back.** -/
theorem readsBack (h : e.extra.Increasing) : ReadsBack shape e.toJson parse e := by
  refine readsBack_record simple (by decide) e.complete e.plain (fun text h' => ?_) fun text fault h' =>
    ⟨fault, ?_⟩
  · obtain ⟨runtime, engine, host, session, clone, extra⟩ := e
    have hparse : shape.parse text = .ok (toJson ⟨runtime, engine, host, session, clone, extra⟩) := h'
    unfold parse
    rw [hparse]
    simp [toJson, Bind.bind, Except.bind, Pure.pure, Except.pure, member?, string?, textsOf_ofTexts h]
  · have hparse : shape.parse text = .error fault := h'
    unfold parse
    rw [hparse]
    rfl

end Environment

namespace Config

variable {c : Config}

theorem toJson_vars (vars : Dictionary Value) :
    (Value.map vars).toJson = .object (vars.map fun entry => (entry.1, entry.2.toJson)) := by
  rw [Value.toJson, Value.entriesToJson_eq]

theorem complete (c : Config) : Complete shape.fields c.toJson.members := by
  have hpaths : Admits (.list Path.shape) (.array (c.searchPaths.map Path.toJson)) := .list fun j hj => by
    obtain ⟨p, -, rfl⟩ := List.mem_map.mp hj
    exact admits_path p
  have hvars : Admits (.dictionary .any) (Value.map c.vars).toJson := by
    rw [toJson_vars]
    exact .dictionary fun m _ => .any _
  exact .cons ⟨rfl, hpaths⟩ (.cons ⟨rfl, hvars⟩ (.cons ⟨rfl, admits_path? _⟩
    (.cons ⟨rfl, .bool _⟩ (.cons ⟨rfl, .natural _ _⟩ (.cons ⟨rfl, .natural _ _⟩ .nil)))))

theorem plain (hvars : Value.Plain 126 (.map c.vars)) (hoperations : c.maxOperations < 2 ^ 64)
    (hlevels : c.maxCallLevels < 2 ^ 64) : Plain 127 c.toJson := by
  refine .object fun m hm => ?_
  simp only [List.mem_cons, List.not_mem_nil, or_false] at hm
  rcases hm with rfl | rfl | rfl | rfl | rfl | rfl
  · refine .array fun j hj => ?_
    obtain ⟨p, -, rfl⟩ := List.mem_map.mp hj
    exact .string _ _
  · exact Value.plain_toJson hvars
  · exact plain_path? _ _
  · exact .bool _ _
  · exact .int _ ⟨by omega, by omega⟩
  · exact .int _ ⟨by omega, by omega⟩

theorem simple : ∀ field ∈ shape.fields, Simple field.2.2 := by
  simp [shape, Shape.fields, Path.shape, Simple.text, Simple.optional, Simple.list, Simple.dictionary,
    Simple.any, Simple.bool, Simple.natural]

theorem ofJson_toJson (hvars : Value.Plain 126 (.map c.vars)) :
    ofJson c.toJson = { c with base := none } := by
  have hvars' := Value.ofJson_toJson hvars
  obtain ⟨paths, vars, log, strict, operations, levels, base⟩ := c
  have hpaths : paths.map (Path.ofJson ∘ Path.toJson) = paths := by
    simp [Function.comp_def, Path.ofJson, Path.toJson, string?]
  simp [ofJson, toJson, member?, hvars', elements, hpaths, bool?, int?, ScriptData.ofJson?_ofOption]

/-- **A configuration is read back**, but for where its relative paths start. -/
theorem readsBack (hvars : Value.Plain 126 (.map c.vars)) (hoperations : c.maxOperations < 2 ^ 64)
    (hlevels : c.maxCallLevels < 2 ^ 64) : ReadsBack shape c.toJson parse { c with base := none } := by
  refine readsBack_record simple (by decide) c.complete (plain hvars hoperations hlevels) (fun text h => ?_)
    fun text fault h => ⟨fault, ?_⟩
  · have hparse : shape.parse text = .ok c.toJson := h
    unfold parse
    rw [hparse]
    exact congrArg Except.ok (ofJson_toJson hvars)
  · have hparse : shape.parse text = .error fault := h
    unfold parse
    rw [hparse]
    rfl

end Config

/-- **The records of a host are read back** from every way to write them down. The facts of an environment and
the variables of a configuration are in the order of their names; the variables hold no doubles, and with them
the document has at most 127 arrays and objects inside each other. Where the relative paths of a configuration
start is not written down. -/
theorem records_readBack :
    (∀ d : ScriptData, ReadsBack ScriptData.shape d.toJson ScriptData.parse d) ∧
    (∀ e : Environment, e.extra.Increasing → ReadsBack Environment.shape e.toJson Environment.parse e) ∧
    ∀ c : Config, Value.Plain 126 (.map c.vars) → c.maxOperations < 2 ^ 64 → c.maxCallLevels < 2 ^ 64 →
      ReadsBack Config.shape c.toJson Config.parse { c with base := none } :=
  ⟨ScriptData.readsBack, fun _ => Environment.readsBack, fun _ => Config.readsBack⟩

/-- A script without a second one for the configuration mode, of a command without a control. -/
def sampleScript : ScriptData := ⟨⟨"tidy.rhai"⟩, none, some ⟨"tools"⟩, "tidy", "cmd-tidy", ""⟩

/-- An environment with two more facts. -/
def sampleEnvironment : Environment := ⟨"1", "2", "3", "s", "c", [("a\n", "\""), ("é", "😀")]⟩

/-- A configuration with nested variables and the largest limits. -/
def sampleConfig : Config :=
  ⟨[⟨"lib"⟩, ⟨""⟩], [("depth", .int Int64.minValue), ("names", .array [.map [("a", .null)]])], none, true,
    2 ^ 64 - 1, 2 ^ 64 - 1, some ⟨"/etc"⟩⟩

/-- The members of the script backwards, without the one that is `null`, and with one added in front. -/
def sampleMembers : List (String × Json) :=
  [("added", .array [.null]), ("commandControlId", .string ""), ("commandUniqueId", .string "cmd-tidy"),
    ("commandName", .string "tidy"), ("commandBundle", .string "tools"), ("scriptPath", .string "tidy.rhai")]

theorem rewritten_sampleMembers :
    Rewritten ScriptData.shape.fields sampleScript.toJson.members sampleMembers := by
  have hall : Rewritten ScriptData.shape.fields sampleScript.toJson.members
      ([("scriptPath", .string "tidy.rhai")] ++ ("configScriptPath", .null) ::
        sampleScript.toJson.members.drop 2) := .same
  have hadded : Rewritten ScriptData.shape.fields sampleScript.toJson.members
      (([("scriptPath", .string "tidy.rhai")] ++ sampleScript.toJson.members.drop 2) ++
        [("added", .array [.null])]) := by
    refine .inserted ?_ (by decide) _
    rw [List.append_nil]
    exact .omitted hall rfl
  exact .reordered hadded (List.reverse_perm _).symm

theorem records_readBack_sample :
    ReadsBack Environment.shape sampleEnvironment.toJson Environment.parse sampleEnvironment ∧
    ReadsBack Config.shape sampleConfig.toJson Config.parse { sampleConfig with base := none } ∧
    ScriptData.parse (object sampleMembers).render = .ok sampleScript ∧
    ScriptData.parse (array [.string "tidy.rhai", .null, .string "tools", .string "tidy",
      .string "cmd-tidy"]).render = .ok sampleScript ∧
    ∃ e, ScriptData.parse (object [("scriptPath", .string "a"), ("scriptPath", .string "b")]).render =
      .error e := by
  obtain ⟨hscript, henvironment, hconfig⟩ := records_readBack
  have hvars : Value.Plain 126 (.map sampleConfig.vars) := by
    have hinner : Value.Plain 124 (.map [("a", .null)]) :=
      .map (List.pairwise_singleton _ _) (by simp [Value.Plain.null])
    have hnames : Value.Plain 125 (.array [.map [("a", .null)]]) := .array (by simp [hinner])
    exact .map (by unfold Dictionary.Increasing; decide +kernel)
      (by simp [sampleConfig, hnames, Value.Plain.int])
  have hread := hscript sampleScript
  have hadded : Plain 126 (.array [.null]) := .array (by simp [Plain.null])
  refine ⟨henvironment _ (by unfold Dictionary.Increasing; decide +kernel),
    hconfig _ hvars (by decide) (by decide), ?_, ?_, ?_⟩
  · exact hread.object _ _ (parse_render (.object (by simp [sampleMembers, hadded, Plain.string])))
      rewritten_sampleMembers
  · exact hread.array _ 5 (parse_render (.array (by simp [Plain.string, Plain.null])))
      (List.forall_mem_singleton.mpr rfl)
  · exact hread.twice _ _ "scriptPath" _ _ (parse_render (.object (by simp [Plain.string]))) (by decide)
      (List.Sublist.refl _)

end HostedScripts
