import HostedScripts.Language.Tree
import HostedScripts.Decimal.Layout
import HostedScripts.Value
import HostedScripts.Refusal

/-!
# The texts of script values

A value has four texts. `printed` is what a script prints, `debugged` what it prints for debugging:
texts inside arrays and maps are quoted, and host objects describe themselves. `shown` and `detail`
are the forms that failure reports use: there a host object is only named by its type, and a
character inside an array is quoted.

`ofValue` carries a value of the host over to a script, and `toValue` back, where that can be. A cell is
nothing without its machine, so the host has no value for it.

A value is `fixed` where it may not be changed; to every other end it is the value inside. `fix` is a
value that is fixed with all its parts, and `free` one that is not, nor any of its parts: what a copy is.
-/

namespace HostedScripts.Language.Datum

/-- Whether a value may not be changed where it is. -/
def isFixed : Datum → Bool
  | fixed _ => true
  | _ => false

/-- A value itself, whether it is fixed or not; its parts stay as they are. -/
def bare : Datum → Datum
  | fixed d => bare d
  | d => d

/-- Whether the type of a value is not one of the language itself. -/
def isForeign (d : Datum) : Bool :=
  match d.bare with
  | range _ _ _ | host _ => true
  | _ => false

/-- Another value, fixed if this one is. -/
def asFixedAs (d other : Datum) : Datum := if d.isFixed then fixed other else other

mutual

/-- A copy of a value, which may be changed. -/
def free : Datum → Datum
  | fixed d => free d
  | array es => array (freeElements es)
  | map entries => map (freeEntries entries)
  | d => d

/-- Copies of the elements of an array. -/
def freeElements : List Datum → List Datum
  | [] => []
  | d :: ds => free d :: freeElements ds

/-- Copies of the entries of a map. -/
def freeEntries : List (String × Datum) → List (String × Datum)
  | [] => []
  | (k, d) :: entries => (k, free d) :: freeEntries entries

end

mutual

/-- A value that may not be changed, nor any of its parts. -/
def fix : Datum → Datum
  | fixed d => fix d
  | array es => fixed (array (fixElements es))
  | map entries => fixed (map (fixEntries entries))
  | d => fixed d

/-- Elements of an array that may not be changed. -/
def fixElements : List Datum → List Datum
  | [] => []
  | d :: ds => fix d :: fixElements ds

/-- Entries of a map that may not be changed. -/
def fixEntries : List (String × Datum) → List (String × Datum)
  | [] => []
  | (k, d) :: entries => (k, fix d) :: fixEntries entries

end

/-- What a failure report calls a host object. -/
def hostTypeName : String := "sh_runtime::helpers::host_binding::HostBinding"

/-- The name of the type of a value. -/
def typeName : Datum → String
  | unit => "()"
  | bool _ => "bool"
  | int _ => "i64"
  | float _ => "f64"
  | char _ => "char"
  | string _ => "string"
  | array _ => "array"
  | map _ => "map"
  | range _ _ inclusive => if inclusive then "range=" else "range"
  | host _ => "HostApplication"
  | function _ _ _ => "Fn"
  | fixed d => typeName d
  | shared _ => "()"

/-- The type of a value in the signature of a call. -/
def signatureName : Datum → String
  | string _ => "&str | ImmutableString | String"
  | fixed d => signatureName d
  | d => d.typeName

/-- The text of a range. -/
def rangeText (first last : Int64) (inclusive : Bool) : String :=
  toString first.toInt ++ (if inclusive then "..=" else "..") ++ toString last.toInt

/-- The text of a function. -/
def functionText (name : String) : String := "Fn(" ++ name ++ ")"

/-- Parts between brackets, with commas. -/
def bracketed (parts : List String) : String := "[" ++ ", ".intercalate parts ++ "]"

/-- Entries between braces, with commas. -/
def braced (entries : List (String × String)) : String :=
  "#\x7b" ++ ", ".intercalate (entries.map fun (k, v) => Text.quoted k ++ ": " ++ v) ++ "\x7d"

mutual

/-- What a script prints for debugging. -/
def debugged : Datum → String
  | unit => "()"
  | bool b => if b then "true" else "false"
  | int n => toString n.toInt
  | float x => Decimal.detailedText x
  | char c => String.singleton c
  | string s => Text.quoted s
  | array es => bracketed (debuggedElements es)
  | map entries => braced (debuggedEntries entries)
  | range a b i => rangeText a b i
  | host h => h.describe
  | function name _ _ => functionText name
  | fixed d => debugged d
  | shared _ => "()"

/-- What a script prints for the elements of an array. -/
def debuggedElements : List Datum → List String
  | [] => []
  | d :: ds => debugged d :: debuggedElements ds

/-- What a script prints for the entries of a map. -/
def debuggedEntries : List (String × Datum) → List (String × String)
  | [] => []
  | (k, d) :: entries => (k, debugged d) :: debuggedEntries entries

end

/-- What a script prints. -/
def printed : Datum → String
  | unit => ""
  | string s => s
  | float x => Decimal.scriptText x
  | fixed d => printed d
  | d => d.debugged

mutual

/-- The detailed form in a failure report. -/
def detail : Datum → String
  | unit => "()"
  | bool b => if b then "true" else "false"
  | int n => toString n.toInt
  | float x => Decimal.detailedText x
  | char c => Text.quotedChar c
  | string s => Text.quoted s
  | array es => bracketed (detailElements es)
  | map entries => braced (detailEntries entries)
  | range a b i => rangeText a b i
  | host _ => hostTypeName
  | function name _ _ => functionText name
  | fixed d => detail d
  | shared _ => "()"

/-- The detailed forms of the elements of an array. -/
def detailElements : List Datum → List String
  | [] => []
  | d :: ds => detail d :: detailElements ds

/-- The detailed forms of the entries of a map. -/
def detailEntries : List (String × Datum) → List (String × String)
  | [] => []
  | (k, d) :: entries => (k, detail d) :: detailEntries entries

end

/-- The plain form in a failure report. -/
def shown : Datum → String
  | unit => ""
  | string s => s
  | char c => String.singleton c
  | float x => Decimal.scriptText x
  | fixed d => shown d
  | d => d.detail

mutual

/-- The script value of a value of the host. -/
def ofValue : Value → Datum
  | .null => unit
  | .bool b => bool b
  | .int n => int n
  | .number x => float x
  | .string s => string s
  | .array es => array (ofValues es)
  | .map entries => map (ofEntries entries)

/-- The script values of some values of the host. -/
def ofValues : List Value → List Datum
  | [] => []
  | v :: vs => ofValue v :: ofValues vs

/-- The entries of a map of the host. -/
def ofEntries : List (String × Value) → List (String × Datum)
  | [] => []
  | (k, v) :: entries => (k, ofValue v) :: ofEntries entries

end

/-- The full name of the type of a value. -/
def fullTypeName : Datum → String
  | range _ _ inclusive =>
    if inclusive then "core::ops::range::RangeInclusive<i64>" else "core::ops::range::Range<i64>"
  | host _ => hostTypeName
  | fixed d => fullTypeName d
  | d => d.typeName

mutual

/-- The value of the host for a script value. The first part that has none is refused. -/
def toValue : Datum → Except Refusal Value
  | unit => .ok .null
  | bool b => .ok (.bool b)
  | int n => .ok (.int n)
  | float x => .ok (.number x)
  | string s => .ok (.string s)
  | array es => (toValues es).map .array
  | map entries => (toEntries entries).map .map
  | char c => .error (.valueUnsupported (fullTypeName (char c)))
  | range a b i => .error (.valueUnsupported (fullTypeName (range a b i)))
  | host h => .error (.valueUnsupported (fullTypeName (host h)))
  | function name isBound given => .error (.valueUnsupported (fullTypeName (function name isBound given)))
  | fixed d => toValue d
  | shared cell => .error (.valueUnsupported (fullTypeName (shared cell)))

/-- The values of the host for some script values. -/
def toValues : List Datum → Except Refusal (List Value)
  | [] => .ok []
  | d :: ds => do
    let v ← toValue d
    let vs ← toValues ds
    return v :: vs

/-- The entries of a map of the host. -/
def toEntries : List (String × Datum) → Except Refusal (List (String × Value))
  | [] => .ok []
  | (k, d) :: entries => do
    let v ← toValue d
    let vs ← toEntries entries
    return (k, v) :: vs

end

/-- The text of a value that a script leaves to its host. -/
def leftText (d : Datum) : String :=
  match d.toValue with
  | .ok v => v.text
  | .error _ => d.shown

/-- The outcome that a value stands for: a number or a name. -/
def outcome? : Datum → Option Outcome
  | int n => Outcome.ofCode? n.toInt
  | float x =>
    if Decimal.isNearlyInteger x then Outcome.ofCode? (Decimal.toInt64Saturating x).toInt else none
  | string s => Outcome.ofName? s
  | fixed d => outcome? d
  | _ => none

/-- The results in a value: the texts of the entries of a map. -/
def results : Datum → Dictionary String
  | map entries => entries.map fun (k, d) => (k, d.leftText)
  | fixed d => results d
  | _ => []

end HostedScripts.Language.Datum
