/-!
# Slots that are used again

An `Arena` is a row of slots. A `Handle` names a slot and the generation it was issued in; every
time a slot is freed its generation moves on, so handles of earlier tenants no longer resolve.
Freed slots are used again, the one freed last first. Generations have 32 bits and wrap around.
-/

namespace HostedScripts.Output

/-- A slot and the generation it was issued in. -/
structure Handle where
  index : Nat
  generation : UInt32
  deriving DecidableEq, Inhabited

/-- The detailed text of a handle. -/
def Handle.detail (h : Handle) : String :=
  "OutputHandle \x7b index: " ++ toString h.index ++ ", generation: " ++
    toString h.generation.toNat ++ " \x7d"

/-- A slot: how often it was freed, up to wrapping around, and what it holds. -/
structure Slot (α : Type) where
  generation : UInt32
  entry : Option α
  deriving Inhabited

/-- The slot after what it held is gone. -/
def Slot.freed {α : Type} (s : Slot α) : Slot α := ⟨s.generation + 1, none⟩

/-- A row of slots, and the numbers of the empty ones; the first is used next. -/
structure Arena (α : Type) where
  slots : List (Slot α)
  free : List Nat

namespace Arena

variable {α : Type}

/-- The arena without slots. -/
def empty : Arena α := ⟨[], []⟩

/-- Puts an entry into a slot, an empty one if there is any. -/
def insert (a : Arena α) (x : α) : Arena α × Handle :=
  match a.free with
  | i :: free =>
    let generation := (a.slots[i]?.map (·.generation)).getD 0
    (⟨a.slots.set i ⟨generation, some x⟩, free⟩, ⟨i, generation⟩)
  | [] => (⟨a.slots ++ [⟨0, some x⟩], []⟩, ⟨a.slots.length, 0⟩)

/-- The entry a handle was issued for, or a later one of the same generation. -/
def get? (a : Arena α) (h : Handle) : Option α :=
  match a.slots[h.index]? with
  | some slot => if slot.generation = h.generation then slot.entry else none
  | none => none

/-- Frees the slot of a handle that resolves; gives what it held. -/
def remove (a : Arena α) (h : Handle) : Arena α × Option α :=
  match a.get? h with
  | some x => (⟨a.slots.modify h.index Slot.freed, h.index :: a.free⟩, some x)
  | none => (a, none)

/-- Frees the slots from number `i` on whose entries are not kept, in order. -/
def retainFrom (keep : α → Bool) (i : Nat) :
    List (Slot α) → List Nat → List (Slot α) × List Nat
  | [], free => ([], free)
  | slot :: slots, free =>
    if slot.entry.any (!keep ·) then
      let (slots, free) := retainFrom keep (i + 1) slots (i :: free)
      (slot.freed :: slots, free)
    else
      let (slots, free) := retainFrom keep (i + 1) slots free
      (slot :: slots, free)

/-- Frees every slot whose entry is not kept. -/
def retain (a : Arena α) (keep : α → Bool) : Arena α :=
  let (slots, free) := retainFrom keep 0 a.slots a.free
  ⟨slots, free⟩

/-- The entries in the order of their slots. -/
def entries (a : Arena α) : List α := a.slots.filterMap (·.entry)

end Arena

end HostedScripts.Output
