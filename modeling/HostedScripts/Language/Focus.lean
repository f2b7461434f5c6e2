import HostedScripts.Language.Computation
import HostedScripts.Language.Parts

/-!
# Computations on a value in place

A `Focus` is a computation of a running script with a value that it may change. What it did to the value
stays even if it is interrupted. `within` turns the focus to a part of the value that the value owns, and
`aside` to a value of its own; `Run.onVariable` and `Run.onValue` begin with a focus on the value of a
variable and on a value that goes away afterwards.
-/

namespace HostedScripts.Language

/-- A computation of a running script that may change a value. -/
abbrev Focus := Computation (Datum × Machine)

variable {α : Type}

namespace Passage

/-- The way to the machine beside the value. -/
def beside : Passage (Datum × Machine) Machine where
  enter x := x.2
  back x m := (x.1, m)
  isClosed := false
  changing := []
  said _ _ := rfl
  operations _ _ := rfl
  keeps _ _ := ⟨List.suffix_refl _, fun _ => rfl⟩

/-- The way to a value that goes away afterwards. -/
def ofValue (d : Datum) : Passage Machine (Datum × Machine) where
  enter m := (d, m)
  back _ x := x.2
  isClosed := false
  changing := []
  said _ _ := rfl
  operations _ _ := rfl
  keeps _ _ := ⟨List.suffix_refl _, fun _ => rfl⟩

/-- The way to the value of a variable, which is changed. -/
def ofVariable (name : String) (d : Datum) : Passage Machine (Datum × Machine) where
  enter m := (d, m)
  back _ x := x.2.store name x.1
  isClosed := false
  changing := [name]
  said _ x := x.2.store_said name x.1
  operations _ x := x.2.store_operations name x.1
  keeps _ x := ⟨x.2.store_without name x.1 ▸ List.suffix_refl _, fun h => by cases h⟩

/-- The way from a value to another one, with what becomes of the value. -/
def shift (d : Datum) (back : Datum → Datum → Datum) : Passage (Datum × Machine) (Datum × Machine) where
  enter x := (d, x.2)
  back x y := (back x.1 y.1, y.2)
  isClosed := false
  changing := []
  said _ _ := rfl
  operations _ _ := rfl
  keeps _ _ := ⟨List.suffix_refl _, fun _ => rfl⟩

end Passage

namespace Focus

open Computation

/-- A computation that does not look at the value. -/
def lift (run : Run α) : Focus α := inside .beside run

/-- A computation on a value that goes away afterwards. -/
def aside (focus : Focus α) (d : Datum) : Focus α := inside (.shift d fun d _ => d) focus

/-- A computation on a part that the value owns. -/
def within (part : Part) (focus : Focus α) : Focus α := do
  match part.get? (← get) with
  | none => aside focus .unit
  | some v =>
    inside (.shift v fun d v => match part.put v d .nowhere with | .ok d => d | .error _ => d) focus

/-- A computation whose failures get a place unless they have one. -/
def placedAt (p : Position) (focus : Focus α) : Focus α :=
  turned (·.mapError (Interrupt.mapFailure (·.fillPosition p)))
    (isFaithful_mapFailure (·.exitCode?_fillPosition p) (·.isCatchable_fillPosition p)) focus

end Focus

namespace Run

open Computation

/-- Carries out a computation on a variable. -/
def onVariable (name : String) (value : Datum) (focus : Focus α) : Run α :=
  inside (.ofVariable name value) focus

/-- Carries out a computation on a value that goes away afterwards. -/
def onValue (value : Datum) (focus : Focus α) : Run α := inside (.ofValue value) focus

end Run

end HostedScripts.Language
