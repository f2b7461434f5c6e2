import HostedScripts.Proofs.Executor.Scope
import HostedScripts.Proofs.Language.BlindStatements
import HostedScripts.Proofs.Language.Known

/-! # Results that a caller gives without entries

Every script has a variable for its results, a map without entries. A caller that gives such a map again hides
that variable by one with the same name and value, which stands among the other variables of the caller
(`Executor.moved_scope`). The script is compiled to the same (`compiled_eq`), and comes to the same
(`Executor.execute_insert_results`), unless it exports its results under a name under which it exports another
of the variables that it was given. -/

namespace HostedScripts

open HostedScripts.Language

variable {d : Difference} {s s' : Scope}

/-! ### Compiling -/

namespace Language

theorem Reading.under_congr (r : Reading) {provided provided' : List String}
    (h : ∀ x, x ∈ provided' ↔ x ∈ provided) : r.under provided' = r.under provided := by
  have hunmet : r.unmet? provided' = r.unmet? provided := by
    unfold unmet?
    congr 1
    funext d
    rw [Bool.eq_iff_iff]
    simp [h]
  unfold under
  rw [hunmet]

theorem Program.read_congr (isStrict : Bool) {provided provided' : List String}
    (h : ∀ x, x ∈ provided' ↔ x ∈ provided) (text : String) :
    Program.read isStrict provided' text = Program.read isStrict provided text := by
  cases isStrict with
  | false => rfl
  | true => exact (Program.reading true text).under_congr h

theorem Scope.mem_names_iff (s : Scope) (name : String) :
    name ∈ s.map (·.name) ↔ (s.lookUp name).isSome = true := by
  unfold Scope.lookUp
  rw [List.find?_isSome]
  simp

end Language

/-- A script is compiled to the same where a variable stands elsewhere. -/
theorem compiled_eq (h : d.Scopes s s') (isStrict : Bool) (text : String) :
    compiled isStrict s' text = compiled isStrict s text := by
  have hnames : ∀ x, x ∈ s'.map (·.name) ↔ x ∈ s.map (·.name) := fun x => by
    rw [Scope.mem_names_iff, Scope.mem_names_iff, h.lookUp_eq]
  have hvalue (s : Scope) (name : String) :
      Known.value? (s.map fun b => (b.name, if b.value.isFixed then some b.value.free else none)) name =
        (s.lookUp name).bind fun b => if b.value.isFixed then some b.value.free else none := by
    unfold Known.value? Scope.lookUp
    rw [List.find?_map, Option.bind_map]
    rfl
  have hknown : Known.Same
      (s.map fun b => (b.name, if b.value.isFixed then some b.value.free else none))
      (s'.map fun b => (b.name, if b.value.isFixed then some b.value.free else none)) := fun name => by
    rw [hvalue, hvalue, h.lookUp_eq]
  unfold compiled
  rw [Program.read_congr isStrict hnames]
  simp only [Program.simplified_eq hknown]

namespace Executor

variable {x : Executor} {files : FileTree} {source : Path} {paths : List Path} {log : Option Path}
  {vars : Dictionary Value}

/-! ### The scope -/

/-- A caller that gives results without entries hides those that every script has by the same. -/
theorem moved_scope (x : Executor) (source : Path) (hnone : vars.get? "__results__" = none) :
    ∃ across, Scope.Moved "__results__" across 3 (x.scope source vars)
      (x.scope source (vars.insert "__results__" (.map []))) := by
  obtain ⟨before, later, rfl, hinsert⟩ := Dictionary.exists_insert (Value.map []) hnone
  let given (vars : Dictionary Value) : Scope :=
    .ofEntries (vars.reverse.map fun entry => (entry.1, .ofValue entry.2))
  let results : Binding := ⟨"__results__", .map [], []⟩
  let rest : Scope :=
    .ofEntries [("__result__", .int 0), ("__message__", .string ""), ("__file__", .string source.text)]
  have hscope : x.scope source (before ++ later) =
      Scope.ofEntries x.constants ++ given later ++ (given before ++ results :: rest) := by
    simp [scope_eq, Scope.ofEntries, defaults, given, results, rest]
  have hmoved : x.scope source (before ++ ("__results__", .map []) :: later) =
      Scope.ofEntries x.constants ++ given later ++ results :: (given before ++ results :: rest) := by
    simp [scope_eq, Scope.ofEntries, defaults, given, results, rest, Datum.ofValue, Datum.ofEntries]
  rw [hinsert, hscope, hmoved]
  refine ⟨(given before).length, .intro ?_ rfl rfl rfl ⟨rfl, rfl⟩ fun c hc => ?_⟩
  · simp [Scope.ofEntries, constants]
  · obtain ⟨entry, hentry, rfl⟩ : ∃ entry ∈ before, c = ⟨entry.1, .ofValue entry.2, []⟩ := by
      simpa [given, Scope.ofEntries, eq_comm] using hc
    intro hname
    have hkey : "__results__" ∈ (before ++ later).map (·.1) :=
      List.mem_map.mpr ⟨entry, List.mem_append_left _ hentry, hname⟩
    exact Dictionary.mem_keys_iff.mp hkey hnone

/-! ### Running -/

theorem conclude_congr {f f' : Finished} (hfailure : f'.failure = f.failure)
    (hscope : ∀ name, f'.scope.lookUp name = f.scope.lookUp name) (source : Path) (log : Option Path)
    (files : FileTree) : conclude source log files f' = conclude source log files f := by
  unfold conclude chosenOutcome leftMessage leftResults
  rw [hfailure]
  simp only [hscope]

/-- The variables that a script was given, as it leaves them. -/
def givenLeft (x : Executor) (files : FileTree) (source : Path) (paths : List Path)
    (vars : Dictionary Value) : Scope :=
  match files.readText source with
  | .error _ => []
  | .ok text =>
    match compiled x.limits.isStrict (x.scope source vars) text with
    | .error _ => []
    | .ok program =>
      (program.upshot (x.setting files source paths) (x.scope source vars)).state.scope.rewind
        (x.scope source vars).length

/-- **Results without entries change nothing** when they are given to a script, unless the script exports its
results under a name under which it exports another of the variables that it was given. -/
theorem execute_insert_results (hnone : vars.get? "__results__" = none)
    (hdisjoint : ∀ b ∈ x.givenLeft files source paths vars, ∀ c ∈ x.givenLeft files source paths vars,
      b.name = "__results__" → c.name ≠ "__results__" → b.exports.Disjoint c.exports)
    (log : Option Path) :
    x.execute .standard files source paths log (vars.insert "__results__" (.map [])) =
      x.execute .standard files source paths log vars := by
  obtain ⟨across, hmoved⟩ := moved_scope x source hnone
  have hscopes : (Difference.place "__results__" across 3).Scopes (x.scope source vars)
      (x.scope source (vars.insert "__results__" (.map []))) := hmoved
  unfold execute
  cases hread : files.readText source with
  | error e => rfl
  | ok text =>
    dsimp only
    unfold Interpreter.standard
    rw [compiled_eq hscopes]
    cases hcompiled : compiled (x.setting files source paths).isStrict (x.scope source vars) text with
    | error e => rfl
    | ok program =>
      have hgiven : x.givenLeft files source paths vars =
          (program.upshot (x.setting files source paths) (x.scope source vars)).state.scope.rewind
            (x.scope source vars).length := by
        have hstrict : (x.setting files source paths).isStrict = x.limits.isStrict := rfl
        unfold givenLeft
        rw [hread]
        dsimp only
        rw [← hstrict, hcompiled]
      rw [hgiven] at hdisjoint
      obtain ⟨hfailure, hsaid, hscope⟩ := Program.run_of_scopes hscopes
        (hmoved.clear_of_disjoint (Program.grows_upshot program _ _) hdisjoint)
      dsimp only
      rw [conclude_congr hfailure hscope, hsaid]

end Executor

end HostedScripts
