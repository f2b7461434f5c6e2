import HostedScripts.Language.Choice

/-!
# Pure parts of a script

An expression is *pure* if it does nothing but yield a value, and a statement if it cannot be told from
doing nothing. Inside a block a statement is also pure if all it does is to bring a name into sight. A
variable counts as pure although it may be missing, but not the object of a method.
-/

namespace HostedScripts.Language

mutual

/-- Whether an expression does nothing but yield a value. -/
def Expr.isPure : Expr → Bool
  | .constant _ _ | .member _ _ _ => true
  | .lookup name _ => name != objectName
  | .interpolation es _ | .array es _ | .all es _ | .any es _ => Expr.arePure es
  | .map entries _ => Expr.arePureEntries entries
  | .orElse l r _ => l.isPure && r.isPure
  | .block body _ => Stmt.arePure body
  | .call _ _ _ _ | .callOpen _ _ _ | .unary _ _ _ | .binary _ _ _ _ | .chain _ _ _ => false

/-- Whether all expressions are pure. -/
def Expr.arePure : List Expr → Bool
  | [] => true
  | e :: es => e.isPure && Expr.arePure es

/-- Whether the expressions of all entries are pure. -/
def Expr.arePureEntries : List (String × Expr) → Bool
  | [] => true
  | (_, e) :: entries => e.isPure && Expr.arePureEntries entries

/-- Whether a statement cannot be told from doing nothing. -/
def Stmt.isPure : Stmt → Bool
  | .skip _ => true
  | .expr e => e.isPure
  | .branch c yes _ no _ _ => c.isPure && Stmt.arePure yes && Stmt.arePure no
  | .choose subject cases (some e) _ => subject.isPure && Case.arePure cases && e.isPure
  | .repeatWhile (some (.constant (.bool false) _)) _ _ _ => true
  | .repeatUntil body _ (.constant (.bool b) _) goOn _ => b != goOn && Stmt.arePure body
  | .each _ _ e body _ _ => e.isPure && Stmt.arePure body
  | .attempt body _ _ _ _ => Stmt.arePure body
  | .block body _ => Stmt.arePure body
  | .repeatWhile _ _ _ _ | .repeatUntil _ _ _ _ _ | .choose _ _ none _ | .declare _ _ _ _ _ _
  | .assign _ _ _ _ | .perform _ | .leave _ _ | .next _ | .answer _ _ | .raise _ _ | .load _ _ _
  | .expose _ _ _ | .share _ _ => false

/-- Whether all statements are pure. -/
def Stmt.arePure : List Stmt → Bool
  | [] => true
  | s :: ss => s.isPure && Stmt.arePure ss

/-- Whether the conditions and bodies of all cases are pure. -/
def Case.arePure : List Case → Bool
  | [] => true
  | .mk _ none e :: cases => e.isPure && Case.arePure cases
  | .mk _ (some c) e :: cases => c.isPure && e.isPure && Case.arePure cases

end

namespace Stmt

mutual

/-- Whether a statement only concerns the block that it stands in. -/
def isPureInside : Stmt → Bool
  | declare _ _ _ _ value _ => value.isPure
  | load source _ _ => source.isPure
  | expose _ _ _ => true
  | expr (.block body _) => arePureInside body
  | s => s.isPure

/-- Whether all statements only concern the block that they stand in. -/
def arePureInside : List Stmt → Bool
  | [] => true
  | s :: ss => isPureInside s && arePureInside ss

end

mutual

/-- Whether a statement may bring names into sight of its block. -/
def bringsNames : Stmt → Bool
  | declare _ _ _ _ _ _ | load _ _ _ | expose _ _ _ => true
  | expr (.block body _) => bringNames body
  | expr (.call path name _ _) | perform (.call path name _ _) => path.names.isEmpty && name = "eval"
  | expr (.callOpen name _ _) | perform (.callOpen name _ _) => name = "eval"
  | _ => false

/-- Whether all statements bring names into sight of their block. -/
def bringNames : List Stmt → Bool
  | [] => true
  | s :: ss => bringsNames s && bringNames ss

end

/-- Whether a statement can stand for a value. -/
def hasValue : Stmt → Bool
  | expr _ | perform _ | branch _ _ _ _ _ _ | choose _ _ _ _ | block _ _ => true
  | _ => false

/-- Whether nothing after a statement is reached. -/
def endsBlock : Stmt → Bool
  | leave _ _ | next _ | answer _ _ | raise _ _ => true
  | _ => false

/-- Whether a statement keeps those before it that only concern the block: it may use their names.
-/
def isAnchor (isPure : Stmt → Bool) (s : Stmt) : Bool :=
  !isPure s || match s with
    | declare _ _ _ _ value _ => value.literal?.isSome
    | expr e => e.literal?.isNone
    | load source _ _ => source.literal?.isNone
    | _ => false

end Stmt

end HostedScripts.Language
