import HostedScripts.Language.Datum

/-!
# Literals and choices by a value

`Expr.literal?` is the value of an expression that is made of literals only. A case of a choice fits a
value if one of its values is the same, of the same type, or if the value lies in one of its ranges; the
ranges count only where no case has the same value.
-/

namespace HostedScripts.Language

namespace Expr

mutual

/-- The value of an expression that is made of literals only. -/
def literal? : Expr → Option Datum
  | constant v _ => some v
  | array elements _ => (literals? elements).map .array
  | map entries _ => (literalEntries? entries).map fun es => .map (Dictionary.ofEntries es)
  | interpolation parts _ =>
    (literals? parts).map fun ds => .string (String.join (ds.map Datum.shown))
  | _ => none

/-- The values of expressions that are made of literals only. -/
def literals? : List Expr → Option (List Datum)
  | [] => some []
  | e :: es => do return (← literal? e) :: (← literals? es)

/-- The entries of a map whose values are made of literals only. -/
def literalEntries? : List (String × Expr) → Option (List (String × Datum))
  | [] => some []
  | (k, e) :: entries => do return (k, ← literal? e) :: (← literalEntries? entries)

end

end Expr

namespace Datum

mutual

/-- Whether a value is the same as another one, of the same type. -/
def isSame : Datum → Datum → Bool
  | unit, unit => true
  | bool a, bool b => a == b
  | int a, int b => a == b
  | float x, float y => x.toBits == y.toBits
  | char a, char b => a == b
  | string s, string t => s == t
  | array es, array fs => areSame es fs
  | map es, map fs => areSameEntries es fs
  | _, _ => false

/-- Whether some values are the same as others, in their order. -/
def areSame : List Datum → List Datum → Bool
  | [], [] => true
  | a :: as, b :: bs => isSame a b && areSame as bs
  | _, _ => false

/-- Whether some entries are the same as others. -/
def areSameEntries : List (String × Datum) → List (String × Datum) → Bool
  | [], [] => true
  | (k, a) :: as, (l, b) :: bs => k == l && isSame a b && areSameEntries as bs
  | _, _ => false

end

/-- Whether a value is a range. -/
def isRange : Datum → Bool
  | range _ _ _ => true
  | _ => false

/-- Whether a value is a number in a range, or the range itself. -/
def liesIn (d : Datum) : Datum → Bool
  | range a b inclusive =>
    match d with
    | range c e inclusive' => a = c && b = e && inclusive = inclusive'
    | int n => a ≤ n && (n < b || (inclusive && n = b))
    | float x => a.toFloat ≤ x && (x < b.toFloat || (inclusive && x == b.toFloat))
    | _ => false
  | _ => false

end Datum

namespace Case

/-- The values of a case. -/
def values : Case → List Datum
  | mk vs _ _ => vs

/-- The condition of a case, if it has one. -/
def condition : Case → Option Expr
  | mk _ c _ => c

/-- What the choice stands for in a case. -/
def body : Case → Expr
  | mk _ _ e => e

/-- Whether nothing but its values decides about a case. -/
def isSure (c : Case) : Bool :=
  match c.condition with
  | none | some (.constant (.bool true) _) => true
  | _ => false

/-- Whether the condition of a case never holds. -/
def isHopeless (c : Case) : Bool :=
  match c.condition with
  | some (.constant (.bool false) _) => true
  | _ => false

/-- The cases with a value like this, each as often as it has one. -/
def havingLike (fits : Datum → Bool) (cases : List Case) : List Case :=
  cases.flatMap fun c => (c.values.filter fits).map fun _ => c

/-- The cases with a value, each as often as it has it. -/
def having (d : Datum) (cases : List Case) : List Case := havingLike d.free.isSame cases

/-- The cases with a range that a value lies in, each as often as it has one. -/
def covering (d : Datum) (cases : List Case) : List Case := havingLike d.bare.liesIn cases

end Case

end HostedScripts.Language
