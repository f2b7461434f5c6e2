import HostedScripts.Language.Tree
import HostedScripts.Language.Failure
import HostedScripts.FileTree

/-!
# The state of a running script

A `Machine` holds the variables in sight, the modules and functions that can be called, what the
script has said so far, and how many operations and nested calls it has taken. An `Interrupt` tells why
a computation does not go on: because of a failure, or because the script leaves a loop, a function or
itself.
-/

namespace HostedScripts.Language

/-- A variable, with the names under which a module exports it; a constant is a variable with a
fixed value. -/
structure Binding where
  name : String
  value : Datum
  exports : List String
  deriving Inhabited

/-- The variables in sight, the latest first. -/
abbrev Scope := List Binding

namespace Scope

/-- The latest variable with a name. -/
def lookUp (s : Scope) (name : String) : Option Binding := s.find? (·.name = name)

/-- What the latest variable with a name holds. -/
def held? (s : Scope) (name : String) : Option Datum := (s.lookUp name).map (·.value)

/-- Changes the latest variable with a name. -/
def modify (name : String) (f : Binding → Binding) : Scope → Scope
  | [] => []
  | b :: s => if b.name = name then f b :: s else b :: modify name f s

/-- The scope without what came into sight since there were `n` variables. -/
def rewind (s : Scope) (n : Nat) : Scope := s.drop (s.length - n)

theorem rewind_suffix (s : Scope) (n : Nat) : s.rewind n <:+ s := List.drop_suffix _ _

/-- The variables with other names. -/
def without (s : Scope) (names : List String) : Scope := s.filter (·.name ∉ names)

theorem without_suffix {s t : Scope} (names : List String) (h : s <:+ t) :
    s.without names <:+ t.without names := h.filter _

theorem without_append (s : Scope) (names more : List String) :
    s.without (names ++ more) = (s.without names).without more := by
  unfold without
  rw [List.filter_filter]
  exact List.filter_congr fun b _ => by simp [Bool.and_comm]

theorem without_comm (s : Scope) (names more : List String) :
    (s.without names).without more = (s.without more).without names := by
  unfold without
  rw [List.filter_filter, List.filter_filter]
  exact List.filter_congr fun b _ => Bool.and_comm _ _

/-- A change of a variable that keeps its name is not seen by those with other names. -/
theorem without_modify {s : Scope} {names : List String} {name : String} {f : Binding → Binding}
    (hf : ∀ b, (f b).name = b.name) (hname : name ∈ names) :
    (s.modify name f).without names = s.without names := by
  induction s with
  | nil => rfl
  | cons b s ih =>
    unfold modify
    split
    next h => simp [without, hf b, h, hname]
    next h =>
      unfold without at ih ⊢
      rw [List.filter_cons, List.filter_cons, ih]

end Scope

/-- The functions of a script; `source` is the module that it is, or nothing for the script that was
started. -/
structure FunctionSet where
  source : String
  functions : List Function
  deriving Inhabited

/-- The function with a name for some number of arguments, and for objects of a type or for any. -/
def FunctionSet.find? (s : FunctionSet) (name : String) (arity : Nat) (receiver : Option String) :
    Option Function :=
  s.functions.find? fun f => f.name = name && f.parameters.length = arity && f.receiver = receiver

/-- What an imported script leaves: its functions, the constants outside all blocks, the variables
it exports and the modules it imports. -/
inductive Module where
  | mk (functions : FunctionSet) (constants : Dictionary Datum) (vars : Dictionary Datum)
      (modules : List (String × Module))
  deriving Inhabited

namespace Module

/-- The functions of a module. -/
def functions : Module → FunctionSet
  | mk fs _ _ _ => fs

/-- The constants of a module that stand outside all blocks. -/
def constants : Module → Dictionary Datum
  | mk _ cs _ _ => cs

/-- The variables that a module exports. -/
def vars : Module → Dictionary Datum
  | mk _ _ vs _ => vs

/-- The modules that a module imports. -/
def modules : Module → List (String × Module)
  | mk _ _ _ ms => ms

/-- The module that a path leads to. -/
def follow (m : Module) : List String → Option Module
  | [] => some m
  | name :: path =>
    match m.modules.lookup name with
    | some inner => follow inner path
    | none => none

end Module

/-- What a running script is bound to: whether undeclared variables are refused in modules, how many
operations may be taken (zero for any number), how deeply calls may be nested, and the directories
in which modules are looked for, in their order. -/
structure Setting where
  isStrict : Bool
  maxOperations : Nat
  maxCallLevels : Nat
  directories : List Path
  files : FileTree

/-- The state of a running script: the variables in sight; the values that variables share, by the
numbers of their cells; the modules in sight, the latest first, with an empty name if they were
imported without one; the functions that can be called by their names, the latest scripts first; the
constants that stand outside all blocks of the script whose code is running, and the module that
this is; the modules that have been loaded, by their files; how many operations have been taken; how
deeply calls and blocks are nested; and what the script has said, the latest first, where the flag
tells what is for debugging only. -/
structure Machine where
  scope : Scope
  cells : Array Datum
  modules : List (String × Module)
  functions : List FunctionSet
  constants : Dictionary Datum
  source : String
  loaded : List (Path × Module)
  operations : Nat
  depth : Nat
  blocks : Nat
  said : List (Bool × String)
  deriving Inhabited

namespace Machine

/-- The value that a variable holds: itself, or in the cell that it shares. -/
def content (m : Machine) : Datum → Datum
  | .shared n => (m.cells[n]?).getD .unit
  | d => d

/-- Gives a variable another value as it is; one that is shared stays so. -/
def store (name : String) (value : Datum) (m : Machine) : Machine :=
  match m.scope.held? name with
  | some (.shared n) => { m with cells := m.cells.setIfInBounds n value }
  | _ => { m with scope := m.scope.modify name fun b => { b with value := value } }

@[simp]
theorem store_said (name : String) (value : Datum) (m : Machine) :
    (m.store name value).said = m.said := by
  unfold store
  split <;> rfl

theorem store_without (name : String) (value : Datum) (m : Machine) :
    (m.store name value).scope.without [name] = m.scope.without [name] := by
  unfold store
  split
  · rfl
  · exact Scope.without_modify (fun _ => rfl) (List.mem_singleton_self _)

@[simp]
theorem store_operations (name : String) (value : Datum) (m : Machine) :
    (m.store name value).operations = m.operations := by
  unfold store
  split <;> rfl

/-- Makes a variable share its value, unless it does so already. -/
def share (name : String) (m : Machine) : Machine :=
  match m.scope.held? name with
  | none | some (.shared _) => m
  | some d =>
    { m with
      cells := m.cells.push d
      scope := m.scope.modify name fun b => { b with value := .shared m.cells.size } }

end Machine

/-- Why a computation does not go on: it fails, the loop is left with a value, the loop goes on with
its next round, the function returns a value, the script ends, or the bound on the nesting of
computations is reached. -/
inductive Interrupt where
  | failure (f : Failure)
  | leave (value : Datum)
  | next
  | answer (value : Datum)
  | finish (value : Datum)
  | exhausted
  deriving Inhabited

/-- The interrupt with another failure in place of its own, if it is one. -/
def Interrupt.mapFailure (f : Failure → Failure) : Interrupt → Interrupt
  | .failure e => .failure (f e)
  | i => i

end HostedScripts.Language
