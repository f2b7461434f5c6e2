import HostedScripts.Language.Token
import HostedScripts.Language.Tree

/-!
# Names of functions

A value that stands for a function may be made from its name. The name has to be one that a function can
have, whether there is such a function or not.
-/

namespace HostedScripts.Language

/-- Whether functions can have a name. -/
def isFunctionName (name : String) : Bool :=
  match name.toList with
  | [] => false
  | c :: cs =>
    Source.startsName c && cs.all Source.continuesName && match Source.wordToken name with
      | .name _ => true
      | .reserved word => Token.functionWords.contains word
      | _ => false

/-- The function with a name, which is looked up whenever it is called. -/
def Datum.ofFunctionName? (name : String) : Option Datum :=
  if isFunctionName name then some (.function name false []) else none

end HostedScripts.Language
