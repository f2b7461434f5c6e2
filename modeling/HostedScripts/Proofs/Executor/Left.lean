import HostedScripts.Executor
import Mathlib.Data.List.Forall2

/-! # What a script leaves to its host

The message of a script is the text of what the latest variable for it holds, and its results are the entries
of the map in the latest variable for them, each with its text (`LeavesMessage`, `LeavesResults`). A value has
the text of the host's value that it converts to, or else the text that it is shown as (`Datum.HasText`). A
script leaves exactly one message and one list of results, and those are what is taken
(`leavesMessage_iff`, `leavesResults_iff`). -/

namespace HostedScripts

open HostedScripts.Language

namespace Language

/-! ### Texts of values -/

/-- A text that a value has for the host. -/
inductive Datum.HasText (d : Datum) : String → Prop where
  | converted {v : Value} (h : d.toValue = .ok v) : HasText d v.text
  | shown {e : Refusal} (h : d.toValue = .error e) : HasText d d.shown

theorem Datum.hasText_iff {d : Datum} {s : String} : d.HasText s ↔ d.leftText = s := by
  unfold leftText
  constructor
  · rintro (h | h) <;> rw [h]
  · rintro rfl
    cases h : d.toValue with
    | ok v => exact .converted h
    | error e => exact .shown h

/-- The entries of a map. -/
def Datum.entries : Datum → List (String × Datum)
  | .map es => es
  | .fixed d => entries d
  | _ => []

theorem Datum.results_eq (d : Datum) : d.results = d.entries.map fun entry => (entry.1, entry.2.leftText) := by
  induction d using Datum.entries.induct with
  | case1 es => rfl
  | case2 d ih => exact ih
  | case3 d hmap hfixed => cases d <;> simp_all [Datum.results, Datum.entries]

/-- The entries of the map that a scope holds for the results. -/
def Scope.resultEntries (s : Scope) : List (String × Datum) := (s.held? "__results__").elim [] (·.entries)

theorem Scope.leftResults_eq (s : Scope) :
    Executor.leftResults s = s.resultEntries.map fun entry => (entry.1, entry.2.leftText) := by
  unfold Executor.leftResults Scope.resultEntries Scope.held? Global.results
  cases s.lookUp "__results__" with
  | none => rfl
  | some b => exact b.value.results_eq

end Language

namespace Executor

variable {scope : Scope}

/-! ### Messages -/

/-- The message that a scope holds. -/
inductive LeavesMessage (scope : Scope) : String → Prop where
  | held {d : Datum} {text : String} (held : scope.held? "__message__" = some d) (h : d.HasText text) :
      LeavesMessage scope text
  | absent (h : scope.held? "__message__" = none) : LeavesMessage scope ""

theorem leavesMessage_iff {text : String} : LeavesMessage scope text ↔ leftMessage scope = text := by
  have hleft : leftMessage scope = ((scope.held? "__message__").map (·.leftText)).getD "" := by
    unfold leftMessage Scope.held? Global.message
    rw [Option.map_map]
    rfl
  rw [hleft]
  cases hheld : scope.held? "__message__" with
  | none =>
    constructor
    · rintro (⟨held, -⟩ | -)
      · rw [hheld] at held
        cases held
      · rfl
    · rintro rfl
      exact .absent hheld
  | some d =>
    constructor
    · rintro (⟨held, h⟩ | h)
      · rw [hheld] at held
        cases held
        exact Datum.hasText_iff.mp h
      · rw [hheld] at h
        cases h
    · exact fun h => .held hheld (Datum.hasText_iff.mpr h)

/-! ### Results -/

/-- The results that a scope holds: a text under the key of every entry of the map, in their order. -/
def LeavesResults (scope : Scope) (results : Dictionary String) : Prop :=
  List.Forall₂ (fun entry result => result.1 = entry.1 ∧ entry.2.HasText result.2) scope.resultEntries results

theorem leavesResults_iff {results : Dictionary String} :
    LeavesResults scope results ↔ leftResults scope = results := by
  have hone : ∀ (entry : String × Datum) (result : String × String),
      result.1 = entry.1 ∧ entry.2.HasText result.2 ↔ (entry.1, entry.2.leftText) = result := by
    intro entry result
    rw [Datum.hasText_iff, Prod.ext_iff, eq_comm]
  unfold LeavesResults
  simp only [hone]
  rw [scope.leftResults_eq, ← List.forall₂_eq_eq_eq, List.forall₂_map_left_iff]

end Executor

end HostedScripts
