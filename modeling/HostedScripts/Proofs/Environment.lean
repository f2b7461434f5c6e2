import HostedScripts.Environment
import HostedScripts.Proofs.Dictionary

/-! # Facts that nothing hides

Facts are taken from a lookup of variables, and a host may then add versions of the interpreter and other facts,
in any order (`Environment.adding`). A version that is known is not replaced, and of other facts with one key
the last counts (`Environment.adding_eq`). What a script is told has the five facts of every environment, as they
are, and under all other keys the other facts (`Environment.tells_toValue`). -/

namespace HostedScripts.Environment

/-! ### Adding facts -/

/-- Something that a host adds to the facts. -/
inductive Addition where
  | engineVersion (version : String)
  | extra (key value : String)

/-- The version that is added. -/
def Addition.version? : Addition → Option String
  | .engineVersion version => some version
  | .extra _ _ => none

/-- The other fact that is added. -/
def Addition.extra? : Addition → Option (String × String)
  | .engineVersion _ => none
  | .extra key value => some (key, value)

/-- The facts with something added. -/
def add (e : Environment) : Addition → Environment
  | .engineVersion version => e.withEngineVersion version
  | .extra key value => e.withExtra key value

/-- The facts with several things added, one after the other. -/
def adding (e : Environment) (additions : List Addition) : Environment := additions.foldl add e

/-- The first version that is not empty. -/
def firstKnown (versions : List String) : String := (versions.find? (· ≠ "")).getD ""

theorem firstKnown_nil : firstKnown [] = "" := rfl

theorem firstKnown_cons (version : String) (versions : List String) :
    firstKnown (version :: versions) = if version = "" then firstKnown versions else version := by
  unfold firstKnown
  rw [List.find?_cons]
  by_cases h : version = "" <;> simp [h]

theorem firstKnown_singleton (version : String) : firstKnown [version] = version := by
  rw [firstKnown_cons, firstKnown_nil]
  split_ifs with hempty
  · exact hempty.symm
  · rfl

/-- It does not matter if the first two are told one from the other before. -/
theorem firstKnown_pair_cons (version version' : String) (versions : List String) :
    firstKnown (firstKnown [version, version'] :: versions) = firstKnown (version :: version' :: versions) := by
  rw [firstKnown_cons version, firstKnown_cons version, firstKnown_singleton]
  split_ifs with hempty
  · rfl
  · rw [firstKnown_cons, if_neg hempty]

theorem withEngineVersion_eq (e : Environment) (version : String) :
    e.withEngineVersion version = { e with engineVersion := firstKnown [e.engineVersion, version] } := by
  unfold withEngineVersion
  rw [firstKnown_cons, firstKnown_singleton]
  split_ifs <;> rfl

/-- **Additions are put together**: the first version that is known, and all other facts, one on top of the
other. -/
theorem adding_eq (e : Environment) (additions : List Addition) :
    e.adding additions =
      { e with
        engineVersion := firstKnown (e.engineVersion :: additions.filterMap (·.version?))
        extra := Dictionary.union e.extra (additions.filterMap (·.extra?)) } := by
  induction additions generalizing e with
  | nil =>
    show e = { e with engineVersion := firstKnown [e.engineVersion] }
    rw [firstKnown_singleton]
  | cons addition additions ih =>
    show (e.add addition).adding additions = _
    rw [ih]
    cases addition with
    | engineVersion version =>
      have hadd : e.add (.engineVersion version) =
          { e with engineVersion := firstKnown [e.engineVersion, version] } := withEngineVersion_eq e version
      rw [hadd, firstKnown_pair_cons]
      rfl
    | extra key value => rfl

/-! ### What a script is told -/

/-- The keys of the facts that every environment has. -/
def factNames : List String :=
  ["runtime_version", "engine_version", "host_version", "session_id", "clone_name"]

/-- The facts that every environment has, by their keys. -/
def fact? (e : Environment) : String → Option String
  | "runtime_version" => some e.runtimeVersion
  | "engine_version" => some e.engineVersion
  | "host_version" => some e.hostVersion
  | "session_id" => some e.sessionId
  | "clone_name" => some e.cloneName
  | _ => none

variable (e : Environment)

theorem isSome_fact? (key : String) : (e.fact? key).isSome ↔ key ∈ factNames := by
  fun_cases fact? e key
  case case6 => simp_all [factNames]
  all_goals simp +decide

theorem get?_fixedFacts (key : String) : Dictionary.get? key e.fixedFacts = e.fact? key := by
  rw [fixedFacts, Dictionary.get?_ofEntries]
  fun_cases fact? e key
  case case6 => simp_all [Dictionary.get?]
  all_goals simp [Dictionary.get?]

/-- What a script is told of an environment: its facts under the five names, and its other facts under all
other keys. -/
structure Tells (entries : Dictionary Value) : Prop where
  increasing : Dictionary.Increasing entries
  keys : ∀ key, key ∈ entries.map (·.1) ↔ key ∈ factNames ∨ key ∈ e.extra.map (·.1)
  facts : factNames.map (Dictionary.get? · entries) =
    [some (.string e.runtimeVersion), some (.string e.engineVersion), some (.string e.hostVersion),
      some (.string e.sessionId), some (.string e.cloneName)]
  extra : ∀ key ∉ factNames, Dictionary.get? key entries = (Dictionary.get? key e.extra).map .string

/-- **No other fact hides one of the five.** -/
theorem tells_toValue (h : Dictionary.Increasing e.extra) :
    ∃ entries, e.toValue = .map entries ∧ e.Tells entries := by
  have hget : ∀ key, Dictionary.get? key
      ((Dictionary.union e.extra e.fixedFacts).map fun entry => (entry.1, Value.string entry.2)) =
        ((e.fact? key).or (Dictionary.get? key e.extra)).map .string := fun key => by
    have hnodup : (e.fixedFacts.map (·.1)).Nodup := (Dictionary.increasing_ofEntries _).nodup_keys
    rw [Dictionary.get?_map, Dictionary.get?_union, Dictionary.get?_reverse hnodup, get?_fixedFacts]
  refine ⟨_, rfl, ?_, fun key => ?_, ?_, fun key hkey => ?_⟩
  · exact List.pairwise_map.mpr (Dictionary.increasing_union h _)
  · rw [Dictionary.mem_keys_iff, hget, Dictionary.mem_keys_iff, ← isSome_fact? e]
    cases e.fact? key <;> simp
  · simp only [factNames, List.map_cons, List.map_nil, hget]
    rfl
  · have hnone : e.fact? key = none := by
      rwa [← isSome_fact? e, Option.not_isSome_iff_eq_none] at hkey
    rw [hget, hnone, Option.none_or]

theorem increasing_extra_adding {e : Environment} (h : Dictionary.Increasing e.extra)
    (additions : List Addition) : Dictionary.Increasing (e.adding additions).extra := by
  rw [adding_eq]
  exact Dictionary.increasing_union h _

end HostedScripts.Environment
