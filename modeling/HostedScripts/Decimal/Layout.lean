import HostedScripts.Decimal.Shortest

/-!
# How a double is laid out

A `Layout` holds the decisions of one output format: which doubles are written positionally, whether
an integer keeps `.0`, the sign of a positive exponent. The layouts of the formats of this library
follow.
-/

namespace HostedScripts.Decimal

/-- The decisions of one text format for doubles. A double is `positional` if it is written with a
point and no exponent; the place is that of its leading digit. A positional integer that
`keepsPoint` ends with `.0`, `plus` is the sign of a positive exponent, and the `tie` tells which of
two equally near decimals is taken. -/
structure Layout where
  positional : Float → Int → Bool
  keepsPoint : Bool
  plus : String
  tie : Tie
  infinite : String
  undefined : String

/-- Digits with a point and as many zeros as it takes. -/
def positionalText (keepsPoint : Bool) (d : Digits) : List Char :=
  let n : Int := d.digits.length
  if d.point ≤ 0 then '0' :: '.' :: List.replicate (-d.point).toNat '0' ++ d.digits
  else if n ≤ d.point then
    d.digits ++ List.replicate (d.point - n).toNat '0' ++ (if keepsPoint then ['.', '0'] else [])
  else d.digits.take d.point.toNat ++ '.' :: d.digits.drop d.point.toNat

/-- Digits with a point after the first and an exponent. -/
def exponentText (plus : String) (d : Digits) : List Char :=
  let exponent := d.point - 1
  let head := match d.digits with
    | [] => ['0']
    | [c] => [c]
    | c :: rest => c :: '.' :: rest
  head ++ 'e' :: (if exponent < 0 then "-" else plus).toList ++ (Nat.toDigits 10 exponent.natAbs)

/-- The text of a double in a layout. -/
def Layout.render (layout : Layout) (x : Float) : String :=
  let sign := if isNegative x then ['-'] else []
  if !isFinite x then
    if fractionField x != 0 then layout.undefined
    else String.ofList (sign ++ layout.infinite.toList)
  else if isZero x then String.ofList (sign ++ '0' :: (if layout.keepsPoint then ['.', '0'] else []))
  else
    let d := (magnitude x).shortest layout.tie
    String.ofList (sign ++
      if layout.positional x (d.point - 1) then positionalText layout.keepsPoint d
      else exponentText layout.plus d)

/-- JSON: positional for exponents from -5 to 15; what JSON cannot write is `null`. -/
def Layout.json : Layout where
  positional := fun _ e => -5 ≤ e && e ≤ 15
  keepsPoint := true
  plus := "+"
  tie := .even
  infinite := "null"
  undefined := "null"

/-- Plain text: always positional, an integer without its point. -/
def Layout.plain : Layout where
  positional := fun _ _ => true
  keepsPoint := false
  plus := ""
  tie := .up
  infinite := "inf"
  undefined := "NaN"

/-- What a script prints: positional between the single-precision neighbours of `1e-13` and `1e13`.
Zero loses its sign. -/
def Layout.script : Layout where
  positional := fun x _ =>
    Float.ofScientific 9999999824516700 true 29 ≤ x.abs && x.abs ≤ 9999999827968
  keepsPoint := true
  plus := ""
  tie := .up
  infinite := "inf"
  undefined := "NaN"

/-- The detailed form of a script value: positional for exponents from -4 to 15. -/
def Layout.detailed : Layout where
  positional := fun _ e => -5 < e && e ≤ 15
  keepsPoint := true
  plus := ""
  tie := .up
  infinite := "inf"
  undefined := "NaN"

/-- The JSON text of a double. -/
def jsonText (x : Float) : String :=
  if isFinite x then Layout.json.render x else "null"

/-- The plain text of a double. -/
def plainText (x : Float) : String := Layout.plain.render x

/-- The text a script prints for a double. -/
def scriptText (x : Float) : String := if isZero x then "0.0" else Layout.script.render x

/-- The text of a double in the detailed form of script values. -/
def detailedText (x : Float) : String := Layout.detailed.render x

end HostedScripts.Decimal
