/-!
# Doubles as exact fractions

A finite double is `m · 2 ^ e` with an integer significand `m`. `Magnitude` holds that pair for the
absolute value, together with whether the gap below it is half the gap above.
-/

namespace HostedScripts.Decimal

/-- The absolute value `significand · 2 ^ exponent` of a finite double, with a significand below `2
^ 53`; `narrowBelow` tells whether the next smaller double is only half as far away as the next
larger one. -/
structure Magnitude where
  significand : Nat
  exponent : Int
  narrowBelow : Bool

/-- Whether the sign bit is set. -/
def isNegative (x : Float) : Bool := x.toBits.toNat ≥ Nat.pow 2 63

/-- The biased exponent field. -/
def exponentField (x : Float) : Nat := x.toBits.toNat / Nat.pow 2 52 % Nat.pow 2 11

/-- The fraction field. -/
def fractionField (x : Float) : Nat := x.toBits.toNat % Nat.pow 2 52

/-- The absolute value of a finite double. -/
def magnitude (x : Float) : Magnitude :=
  let e := exponentField x
  let f := fractionField x
  if e = 0 then ⟨f, -1074, false⟩
  else ⟨Nat.pow 2 52 + f, (e : Int) - 1075, f = 0 && 1 < e⟩

/-- Whether a double is a number, neither infinite nor undefined. -/
def isFinite (x : Float) : Bool := exponentField x != 2047

/-- Whether a double is zero, of either sign. -/
def isZero (x : Float) : Bool := x == 0

/-- The integer that a finite double is cut to, toward zero. -/
def truncated (x : Float) : Int :=
  let m := magnitude x
  let n : Nat := if m.exponent ≥ 0 then m.significand * Nat.pow 2 m.exponent.toNat
    else m.significand / Nat.pow 2 (-m.exponent).toNat
  if isNegative x then -n else n

/-- Whether a finite double is an integer. -/
def isInteger (x : Float) : Bool :=
  let m := magnitude x
  m.exponent ≥ 0 || m.significand % Nat.pow 2 (-m.exponent).toNat = 0

/-- The integer below a double toward zero, held between the smallest and the largest 64-bit
integer; an undefined double gives zero. -/
def toInt64Saturating (x : Float) : Int64 :=
  if isFinite x then
    let n := truncated x
    if n < Int64.minValue.toInt then Int64.minValue
    else if n > Int64.maxValue.toInt then Int64.maxValue
    else Int64.ofInt n
  else if fractionField x != 0 then 0
  else if isNegative x then Int64.minValue else Int64.maxValue

/-- Whether a double is an integer as far as its text is concerned: its part after the point is
smaller than `2 ^ -52`, the distance from one to the next larger double. -/
def isNearlyInteger (x : Float) : Bool :=
  let m := magnitude x
  let unit := Nat.pow 2 (-m.exponent).toNat
  isFinite x && m.significand % unit * Nat.pow 2 52 < unit

end HostedScripts.Decimal
