import HostedScripts.Executor
import HostedScripts.Proofs.Dictionary

/-! # What a script finds under a name

The scope of a script is made in three layers: what every script has (`defaults`), what its caller gives, and
the constants of its host (`constants`). Of all variables with a name the latest is found, so the caller hides
the first layer and the host hides both (`held?_scope`). Only the constants of the host may not be changed
(`isFixed_iff`). -/

namespace HostedScripts

open HostedScripts.Language

namespace Language.Scope

theorem held?_cons (b : Binding) (s : Scope) (name : String) :
    Scope.held? (b :: s) name = if b.name = name then some b.value else s.held? name := by
  by_cases h : b.name = name <;> simp [held?, lookUp, h]

/-- The variables that some entries make, the first one the latest. -/
def ofEntries (entries : List (String × Datum)) : Scope :=
  entries.map fun entry => ⟨entry.1, entry.2, []⟩

theorem held?_ofEntries (entries : List (String × Datum)) (name : String) :
    (ofEntries entries).held? name = Dictionary.get? name entries := by
  induction entries with
  | nil => rfl
  | cons entry entries ih =>
    have hcons : ofEntries (entry :: entries) = ⟨entry.1, entry.2, []⟩ :: ofEntries entries := rfl
    rw [hcons, held?_cons, ih, Dictionary.get?]
    simp only [eq_comm]

end Language.Scope

namespace Language.Datum

theorem isFixed_ofValue (v : Value) : (ofValue v).isFixed = false := by
  cases v <;> rfl

end Language.Datum

namespace Executor

/-- The constants of the host. -/
def constants (x : Executor) : List (String × Datum) :=
  x.startingHost.toList.map (fun h =>
    ("__uicontrolledapp__", .fixed (.host ⟨.uiControlledApplication, h⟩))) ++
  [("__host__", .fixed (x.host.elim .unit .host)), ("__name__", .fixed (.string "__main__"))]

/-- What every script has. -/
def defaults (source : Path) : List (String × Datum) :=
  [("__results__", .map []), ("__result__", .int 0), ("__message__", .string ""),
    ("__file__", .string source.text)]

variable {x : Executor} {source : Path} {vars : Dictionary Value} {name : String}

theorem scope_eq (x : Executor) (source : Path) (vars : Dictionary Value) :
    x.scope source vars = .ofEntries (x.constants ++
      vars.reverse.map (fun entry => (entry.1, .ofValue entry.2)) ++ defaults source) := by
  unfold scope constants Scope.ofEntries
  rw [List.map_append, List.map_append, List.map_append, List.map_map, List.map_map, List.map_reverse]
  cases x.host <;> rfl

/-- **What a script finds under a name** is what the host says, or else what the caller gives, or else what
every script has. -/
theorem held?_scope (x : Executor) (source : Path) (hvars : Dictionary.Increasing vars) (name : String) :
    (x.scope source vars).held? name = (Dictionary.get? name x.constants).or
      (((Dictionary.get? name vars).map .ofValue).or (Dictionary.get? name (defaults source))) := by
  rw [scope_eq, Scope.held?_ofEntries, Dictionary.get?_append, Dictionary.get?_append,
    Dictionary.get?_map Datum.ofValue, Dictionary.get?_reverse hvars.nodup_keys, Option.or_assoc]

theorem isFixed_of_constants {d : Datum} (h : Dictionary.get? name x.constants = some d) :
    d.isFixed = true := by
  have hall : ∀ entry ∈ x.constants, entry.2.isFixed = true := by
    intro entry hentry
    rcases List.mem_append.mp hentry with hstarting | hentry
    · obtain ⟨h, -, rfl⟩ := List.mem_map.mp hstarting
      rfl
    · rcases List.mem_pair.mp hentry with rfl | rfl <;> rfl
  exact hall (name, d) (Dictionary.mem_of_get? h)

theorem isFixed_of_defaults {d : Datum} (h : Dictionary.get? name (defaults source) = some d) :
    d.isFixed = false := by
  have hall : ∀ entry ∈ defaults source, entry.2.isFixed = false := by
    simp [defaults, Datum.isFixed]
  exact hall (name, d) (Dictionary.mem_of_get? h)

/-- **What a script may not change** are the constants of its host. -/
theorem isFixed_iff (hvars : Dictionary.Increasing vars) {d : Datum}
    (h : (x.scope source vars).held? name = some d) :
    d.isFixed = true ↔ name ∈ x.constants.map (·.1) := by
  rw [held?_scope x source hvars] at h
  rw [Dictionary.mem_keys_iff]
  cases hconstant : Dictionary.get? name x.constants with
  | some c =>
    rw [hconstant] at h
    cases h
    exact iff_of_true (isFixed_of_constants hconstant) nofun
  | none =>
    rw [hconstant, Option.none_or, Option.or_eq_some_iff] at h
    refine iff_of_false ?_ (fun hne => hne rfl)
    rcases h with h | ⟨-, h⟩
    · obtain ⟨v, -, rfl⟩ := Option.map_eq_some_iff.mp h
      simp [Datum.isFixed_ofValue]
    · simp [isFixed_of_defaults h]

end Executor

end HostedScripts
