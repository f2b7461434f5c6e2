import HostedScripts.Text.Quoted

/-!
# Why a script does not compile

A `CompileError` is a cause and a place in the script. Causes found among the characters are
`LexicalCause`s, those found among the tokens `CompileCause`s. `message` words a cause for people,
`detail` gives it as the nested form that a failure report shows.
-/

namespace HostedScripts.Language

/-- A place in a script: line and column count from one. -/
structure Position where
  line : Nat
  column : Nat
  deriving DecidableEq, Inhabited, Repr

namespace Position

/-- The place of what is not written in a script. -/
def nowhere : Position := ⟨0, 0⟩

/-- A place, if it is one in a script. -/
def known? (p : Position) : Option Position := if p.line = 0 then none else some p

/-- A place in words. -/
def text (p : Position) : String :=
  "line " ++ toString p.line ++ ", position " ++ toString p.column

/-- A place in short. -/
def detail (p : Position) : String := toString p.line ++ ":" ++ toString p.column

/-- An optional place in short. -/
def detail? : Option Position → String
  | some p => p.detail
  | none => "none"

end Position

/-- What is wrong among the characters of a script. -/
inductive LexicalCause where
  | unexpected (found : String)
  | openString
  | malformedEscape (found : String)
  | malformedNumber (found : String)
  | malformedChar (found : String)
  | malformedName (found : String)
  | improperSymbol (symbol hint : String)
  deriving DecidableEq, Inhabited

namespace LexicalCause

/-- A text between single quotation marks. -/
def inQuotes (s : String) : String := "'" ++ s ++ "'"

/-- A cause in words. -/
def message : LexicalCause → String
  | unexpected s => "Unexpected " ++ inQuotes s
  | openString => "Open string is not terminated"
  | malformedEscape s => "Invalid escape sequence: " ++ inQuotes s
  | malformedNumber s => "Invalid number: " ++ inQuotes s
  | malformedChar s => "Invalid character: " ++ inQuotes s
  | malformedName s => "Variable name is not proper: " ++ inQuotes s
  | improperSymbol s hint =>
    if hint = "" then "Invalid symbol encountered: " ++ inQuotes s else hint

/-- The nested form of a constructor and some texts. -/
def nested (name : String) (texts : List String) : String :=
  name ++ "(" ++ ", ".intercalate (texts.map Text.quoted) ++ ")"

/-- The nested form of a cause. -/
def detail : LexicalCause → String
  | unexpected s => nested "UnexpectedInput" [s]
  | openString => "UnterminatedString"
  | malformedEscape s => nested "MalformedEscapeSequence" [s]
  | malformedNumber s => nested "MalformedNumber" [s]
  | malformedChar s => nested "MalformedChar" [s]
  | malformedName s => nested "MalformedIdentifier" [s]
  | improperSymbol s hint => nested "ImproperSymbol" [s, hint]

end LexicalCause

/-- What is wrong among the tokens of a script. -/
inductive CompileCause where
  | badInput (cause : LexicalCause)
  | incomplete
  | missing (token purpose : String)
  | unknownOperator (symbol : String)
  | expressionExpected (kind : String)
  | wrongKind (expected found : String)
  | reserved (word : String)
  | variableExpected
  | propertyExpected
  | duplicateProperty (name : String)
  | duplicateVariable (name : String)
  | constantAssigned (name : String)
  | invalidTarget
  | functionNameExpected
  | parametersExpected (function : String)
  | bodyExpected (function : String)
  | duplicateParameter (function parameter : String)
  | duplicateFunction (function : String) (parameters : Nat)
  | misplacedFunction
  | misplacedExport
  | misplacedBreak
  | misplacedDefault
  | conditionalDefault
  | misplacedNumber
  | malformedIndex (reason : String)
  | malformedCapture (reason : String)
  | tooDeep
  | undefinedVariable (name : String)
  | undefinedModule (name : String)
  deriving DecidableEq, Inhabited

namespace CompileCause

/-- How many parameters, in words. -/
def parameterCount : Nat → String
  | 0 => "no parameters"
  | 1 => "1 parameter"
  | n => toString n ++ " parameters"

/-- Whether a word is made of letters, digits and underscores. -/
def isWord (s : String) : Bool :=
  s.toList.all fun c => c.isAlphanum || c = '_'

/-- A cause in words. -/
def message : CompileCause → String
  | badInput cause => cause.message
  | incomplete => "Script is incomplete"
  | missing token purpose => "Expecting '" ++ token ++ "' " ++ purpose
  | unknownOperator s => "Unknown operator: '" ++ s ++ "'"
  | expressionExpected kind => "Expecting " ++ kind ++ " expression"
  | wrongKind expected found => "Expecting " ++ expected ++ ", not " ++ found
  | reserved s =>
    "'" ++ s ++ (if isWord s then "' is a reserved keyword" else "' is a reserved symbol")
  | variableExpected => "Expecting name of a variable"
  | propertyExpected => "Expecting name of a property"
  | duplicateProperty name => "Duplicated property for object map literal: " ++ name
  | duplicateVariable name => "Duplicated variable name: " ++ name
  | constantAssigned name =>
    if name = "" then "Cannot assign to a constant value" else "Cannot assign to constant " ++ name
  | invalidTarget => "Expression cannot be assigned to"
  | functionNameExpected => "Expecting function name in function declaration"
  | parametersExpected f => "Expecting parameters for function " ++ f
  | bodyExpected f => "Expecting body statement block for function " ++ f
  | duplicateParameter f p => "Duplicated parameter " ++ p ++ " for function " ++ f
  | duplicateFunction f n => "Function " ++ f ++ " with " ++ parameterCount n ++ " already exists"
  | misplacedFunction =>
    "Function definitions must be at global level and cannot be inside a block or another function"
  | misplacedExport => "Export statement can only appear at global level"
  | misplacedBreak => "Break statement should only be used inside a loop"
  | misplacedDefault => "Default switch case must be the last"
  | conditionalDefault => "This switch case cannot have a condition"
  | misplacedNumber => "Numeric switch case cannot follow a range case"
  | malformedIndex reason =>
    if reason = "" then "Invalid index in indexing expression" else reason
  | malformedCapture reason => "Invalid capturing: " ++ reason
  | tooDeep => "Expression exceeds maximum complexity"
  | undefinedVariable name => "Undefined variable: " ++ name
  | undefinedModule name => "Undefined module: " ++ name

/-- The nested form of a cause. -/
def detail : CompileCause → String
  | badInput cause => "BadInput(" ++ cause.detail ++ ")"
  | incomplete => "UnexpectedEOF"
  | missing token purpose => LexicalCause.nested "MissingToken" [token, purpose]
  | unknownOperator s => LexicalCause.nested "UnknownOperator" [s]
  | expressionExpected kind => LexicalCause.nested "ExprExpected" [kind]
  | wrongKind expected found => LexicalCause.nested "MismatchedType" [expected, found]
  | reserved s => LexicalCause.nested "Reserved" [s]
  | variableExpected => "VariableExpected"
  | propertyExpected => "PropertyExpected"
  | duplicateProperty name => LexicalCause.nested "DuplicatedProperty" [name]
  | duplicateVariable name => LexicalCause.nested "DuplicatedVariable" [name]
  | constantAssigned name => LexicalCause.nested "AssignmentToConstant" [name]
  | invalidTarget => LexicalCause.nested "AssignmentToInvalidLHS" [""]
  | functionNameExpected => "FnMissingName"
  | parametersExpected f => LexicalCause.nested "FnMissingParams" [f]
  | bodyExpected f => LexicalCause.nested "FnMissingBody" [f]
  | duplicateParameter f p => LexicalCause.nested "FnDuplicatedParam" [f, p]
  | duplicateFunction f n => "FnDuplicatedDefinition(" ++ Text.quoted f ++ ", " ++ toString n ++ ")"
  | misplacedFunction => "WrongFnDefinition"
  | misplacedExport => "WrongExport"
  | misplacedBreak => "LoopBreak"
  | misplacedDefault => "WrongSwitchDefaultCase"
  | conditionalDefault => "WrongSwitchCaseCondition"
  | misplacedNumber => "WrongSwitchIntegerCase"
  | malformedIndex reason => LexicalCause.nested "MalformedIndexExpr" [reason]
  | malformedCapture reason => LexicalCause.nested "MalformedCapture" [reason]
  | tooDeep => "ExprTooDeep"
  | undefinedVariable name => LexicalCause.nested "VariableUndefined" [name]
  | undefinedModule name => LexicalCause.nested "ModuleUndefined" [name]

end CompileCause

/-- Why and where a script does not compile. -/
structure CompileError where
  cause : CompileCause
  position : Position
  deriving DecidableEq, Inhabited

end HostedScripts.Language
