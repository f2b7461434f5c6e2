import HostedScripts.Decimal.Binary64

/-!
# Reading doubles

Two ways to read a decimal. `ofParts?` converts the significand and then multiplies or divides it by
a power of ten, each step rounded, so the result need not be the nearest double; it fails when the
number is too large. `nearest` is correctly rounded.
-/

namespace HostedScripts.Decimal

/-- The double nearest to `10 ^ n`. -/
def powerOfTen (n : Nat) : Float := Float.ofScientific 1 false n

/-- Divides `f` by `10 ^ n`, by at most `10 ^ 308` at a time. -/
def divideByPower (f : Float) : Nat → Nat → Float
  | 0, _ => f
  | fuel + 1, n =>
    if n ≤ 308 then f / powerOfTen n
    else if f == 0 then f
    else divideByPower (f / powerOfTen 308) fuel (n - 308)

/-- The double `significand · 10 ^ exponent`, or none when it is too large. -/
def ofParts? (negative : Bool) (significand : UInt64) (exponent : Int) : Option Float :=
  let f := significand.toFloat
  let signed (x : Float) := if negative then -x else x
  if exponent ≥ 0 then
    if exponent ≤ 308 then
      let x := f * powerOfTen exponent.toNat
      if x.isInf then none else some (signed x)
    else if f == 0 then some (signed f) else none
  else some (signed (divideByPower f ((-exponent).toNat / 308 + 1) (-exponent).toNat))

/-- The double nearest to `digits · 10 ^ exponent`. -/
def nearest (digits : Nat) (exponent : Int) : Float :=
  if exponent < 0 then Float.ofScientific digits true (-exponent).toNat
  else Float.ofScientific digits false exponent.toNat

end HostedScripts.Decimal
