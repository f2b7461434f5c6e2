import HostedScripts.Decimal.Binary64

/-!
# Shortest decimals

`shortest m` is the decimal with the fewest digits among those that lie in the interval of reals
rounding to `m`, and the nearest to `m` of those; `Digits` is its digit string with the place of the
point. The interval contains its ends when the significand is even. If a point of a decimal grid
lies in the interval, so does one of the two neighbours of `m` on that grid, so only those are
tried.
-/

namespace HostedScripts.Decimal

/-- The decimal `0.d₁d₂… · 10 ^ point`, the first digit not zero. -/
structure Digits where
  digits : List Char
  point : Int

/-- Which of two equally near decimals is taken: the one with an even last digit or the larger one.
-/
inductive Tie where
  | even
  | up

/-- The positive fraction `numerator / denominator`. -/
structure Fraction where
  numerator : Nat
  denominator : Nat

/-- `n · 2 ^ e` as a fraction. -/
def Fraction.ofBinary (n : Nat) (e : Int) : Fraction :=
  if e ≥ 0 then ⟨n * Nat.pow 2 e.toNat, 1⟩ else ⟨n, Nat.pow 2 (-e).toNat⟩

/-- `x / 10 ^ e` as a fraction. -/
def Fraction.scaleDown (x : Fraction) (e : Int) : Fraction :=
  if e ≥ 0 then ⟨x.numerator, x.denominator * Nat.pow 10 e.toNat⟩
  else ⟨x.numerator * Nat.pow 10 (-e).toNat, x.denominator⟩

/-- The number of digits of the numeral of `n`. -/
def digitCount (n : Nat) : Nat := (Nat.toDigits 10 n).length

/-- The place of the leading digit of a fraction: the `k` with `10 ^ k ≤ x < 10 ^ (k + 1)`. -/
def Fraction.leadingPlace (x : Fraction) : Int :=
  if x.denominator ≤ x.numerator then digitCount (x.numerator / x.denominator) - 1
  else
    let c := (x.denominator + x.numerator - 1) / x.numerator
    Int.negOfNat (digitCount (c - 1))

/-- The reals that round to the double `value`: from `low` to `high`, all three over `denominator`.
If it is `closed` the ends belong to it. -/
structure Interval where
  low : Nat
  value : Nat
  high : Nat
  denominator : Nat
  closed : Bool

/-- The interval of a magnitude, divided by `10 ^ place`. -/
def Magnitude.interval (m : Magnitude) (place : Int) : Interval :=
  let at' (n : Nat) := (Fraction.ofBinary n (m.exponent - 2)).scaleDown place
  let four := 4 * m.significand
  ⟨(at' (four - if m.narrowBelow then 1 else 2)).numerator, (at' four).numerator,
    (at' (four + 2)).numerator, (at' four).denominator, m.significand % 2 = 0⟩

/-- Whether the integer `n` lies in the interval. -/
def Interval.contains (i : Interval) (n : Nat) : Bool :=
  let scaled := n * i.denominator
  if i.closed then i.low ≤ scaled && scaled ≤ i.high else i.low < scaled && scaled < i.high

/-- The neighbour of the double on the integer grid that lies in the interval, the nearer of two. -/
def Interval.nearest? (tie : Tie) (i : Interval) : Option Nat :=
  let below := i.value / i.denominator
  let rest := i.value % i.denominator
  match i.contains below, i.contains (below + 1) with
  | true, false => some below
  | false, true => some (below + 1)
  | false, false => none
  | true, true =>
    if 2 * rest < i.denominator then some below
    else if i.denominator < 2 * rest then some (below + 1)
    else match tie with
      | .even => some (if below % 2 = 0 then below else below + 1)
      | .up => some (below + 1)

/-- The first of the grids with `count`, `count + 1`, … digits that has a point in the interval. -/
def shortestFrom (tie : Tie) (m : Magnitude) (leading : Int) : Nat → Nat → Nat × Int
  | 0, count => (0, leading - count)
  | fuel + 1, count =>
    let place := leading - count + 1
    match (m.interval place).nearest? tie with
    | some n => (n, place)
    | none => shortestFrom tie m leading fuel (count + 1)

/-- The digits of `n · 10 ^ place`, without zeros at their end. -/
def Digits.ofNat (n : Nat) (place : Int) : Digits :=
  let all := Nat.toDigits 10 n
  ⟨(all.reverse.dropWhile (· == '0')).reverse, place + all.length⟩

/-- The shortest digits of a positive magnitude; seventeen always suffice. -/
def Magnitude.shortest (tie : Tie) (m : Magnitude) : Digits :=
  let leading := (Fraction.ofBinary m.significand m.exponent).leadingPlace
  let (n, place) := shortestFrom tie m leading 18 1
  Digits.ofNat n place

end HostedScripts.Decimal
