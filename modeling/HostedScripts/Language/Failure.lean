import HostedScripts.Language.Datum

/-!
# Failures of a script

A `Failure` is a cause with a place, possibly wrapped by the function calls and imports it came
through. `text` words it, one line to a wrapper; `detail` is its nested form. `exitCode?` tells a
controlled exit through any number of wrappers, and `caught` is the value that a `catch` block is
given.
-/

namespace HostedScripts.Language

/-- Why a script fails, or is ended. `givenUp` is none of its own: the evaluator gave the script up,
because a bound on its work was reached. `other` stands for what no function or operator of the
library raises: what it is called, its words, the parts of its nested form, and whether it ends the
whole script. -/
inductive Cause where
  | raised (value : Datum)
  | noVariable (name : String)
  | noObject
  | noFunction (signature : String)
  | noProperty (reason : String)
  | noIndex (types : String)
  | arrayBounds (length : Nat) (index : Int)
  | stringBounds (length : Nat) (index : Int)
  | bitBounds (length : Nat) (index : Int)
  | arithmetic (reason : String)
  | constant (name : String)
  | constantMethod (name : String)
  | noModule (name : String)
  | wrongType (expected found : String)
  | notIterable
  | notCompiled (cause : CompileCause)
  | tooManyOperations
  | tooManyCalls
  | exited (code : Int64)
  | givenUp
  | other (name words : String) (details : List String) (endsScript : Bool)
  deriving Inhabited

namespace Cause

/-- The name of a kind of cause. -/
def kind : Cause → String
  | raised _ => "ErrorRuntime"
  | noVariable _ => "ErrorVariableNotFound"
  | noObject => "ErrorUnboundThis"
  | noFunction _ => "ErrorFunctionNotFound"
  | noProperty _ => "ErrorDotExpr"
  | noIndex _ => "ErrorIndexingType"
  | arrayBounds _ _ => "ErrorArrayBounds"
  | stringBounds _ _ => "ErrorStringBounds"
  | bitBounds _ _ => "ErrorBitFieldBounds"
  | arithmetic _ => "ErrorArithmetic"
  | constant _ => "ErrorAssignmentToConstant"
  | constantMethod _ => "ErrorNonPureMethodCallOnConstant"
  | noModule _ => "ErrorModuleNotFound"
  | wrongType _ _ => "ErrorMismatchDataType"
  | notIterable => "ErrorFor"
  | notCompiled _ => "ErrorParsing"
  | tooManyOperations => "ErrorTooManyOperations"
  | tooManyCalls => "ErrorStackOverflow"
  | exited _ => "ErrorTerminated"
  | givenUp => "EvaluationGivenUp"
  | other name _ _ _ => name

/-- How many elements there are, in words. -/
def elementCount : Nat → String
  | 0 => "array is empty"
  | 1 => "only 1 element in array"
  | n => "only " ++ toString n ++ " elements in array"

/-- How many characters there are, in words. -/
def characterCount : Nat → String
  | 0 => "string is empty"
  | 1 => "only 1 character in string"
  | n => "only " ++ toString n ++ " characters in string"

/-- A cause in words. -/
def text : Cause → String
  | raised d => if d.shown = "" then "Runtime error" else "Runtime error: " ++ d.shown
  | noVariable name => "Variable not found: " ++ name
  | noObject => "'this' not bound"
  | noFunction signature => "Function not found: " ++ signature
  | noProperty reason => reason
  | noIndex types => "Indexer unavailable: " ++ types
  | arrayBounds n i => "Array index " ++ toString i ++ " out of bounds: " ++ elementCount n
  | stringBounds n i => "String index " ++ toString i ++ " out of bounds: " ++ characterCount n
  | bitBounds n i =>
    "Bit-field index " ++ toString i ++ " out of bounds: only " ++ toString n ++ " bits in bit-field"
  | arithmetic reason => reason
  | constant name => "Cannot modify constant " ++ name
  | constantMethod name => "Non-pure method '" ++ name ++ "' cannot be called on constant"
  | noModule name => "Module not found: " ++ name
  | wrongType expected found => "Data type incorrect: " ++ found ++ " (expecting " ++ expected ++ ")"
  | notIterable => "For loop expects iterable type"
  | notCompiled cause => "Syntax error: " ++ cause.message
  | tooManyOperations => "Too many operations"
  | tooManyCalls => "Stack overflow"
  | exited _ => "Script terminated"
  | givenUp => "Evaluation given up"
  | other _ words _ _ => words

/-- The parts of a cause in its nested form. -/
def parts : Cause → List String
  | raised d => [d.detail]
  | noVariable s | noFunction s | noProperty s | noIndex s | arithmetic s | constant s
  | constantMethod s | noModule s => [Text.quoted s]
  | arrayBounds n i | stringBounds n i | bitBounds n i => [toString n, toString i]
  | wrongType expected found => [Text.quoted expected, Text.quoted found]
  | noObject | notIterable | tooManyOperations | tooManyCalls | givenUp => []
  | notCompiled cause => [cause.detail]
  | exited code => ["ExitSignal(" ++ toString code.toInt ++ ")"]
  | other _ _ details _ => details

/-- The details that a `catch` block is told about a cause. -/
def fields : Cause → List (String × Datum)
  | noVariable s | constant s => [("variable", .string s)]
  | noFunction s => [("function", .string s)]
  | noProperty s => [("property", .string s)]
  | noIndex s => [("type", .string s)]
  | arrayBounds n i | stringBounds n i | bitBounds n i =>
    [("length", .int (Int64.ofNat n)), ("index", .int (Int64.ofInt i))]
  | constantMethod s => [("function", .string s)]
  | noModule s => [("module", .string s)]
  | wrongType expected found => [("requested", .string expected), ("actual", .string found)]
  | raised _ | noObject | arithmetic _ | notIterable | notCompiled _ | tooManyOperations | tooManyCalls
  | exited _ | givenUp | other _ _ _ _ => []

/-- Whether a cause ends the whole script: it cannot be caught, and calls do not wrap it. -/
def isFinal : Cause → Bool
  | tooManyOperations | tooManyCalls | exited _ | givenUp | notCompiled _ => true
  | other _ _ _ endsScript => endsScript
  | _ => false

end Cause

/-- A cause with a place, wrapped by the calls and imports it came through; `source` names the
module of a function. -/
inductive Failure where
  | plain (cause : Cause) (position : Option Position)
  | inCall (function source : String) (inner : Failure) (position : Option Position)
  | inModule (name : String) (inner : Failure) (position : Option Position)
  deriving Inhabited

namespace Failure

/-- Where a failure was seen. -/
def position : Failure → Option Position
  | plain _ p | inCall _ _ _ p | inModule _ _ p => p

/-- The failure with another place. -/
def withPosition (p : Option Position) : Failure → Failure
  | plain cause _ => plain cause p
  | inCall f source inner _ => inCall f source inner p
  | inModule name inner _ => inModule name inner p

/-- The failure with a place unless it has one. -/
def fillPosition (p : Position) (f : Failure) : Failure :=
  match f.position with
  | none => f.withPosition (some p)
  | some _ => f

/-- A text with a place in words after it. -/
def placed (text : String) : Option Position → String
  | some p => text ++ " (" ++ p.text ++ ")"
  | none => text

/-- A failure in words, without its own place. -/
def textOnly : Failure → String
  | plain cause _ => cause.text
  | inCall f source inner _ =>
    let called := if Function.isNamelessName f then "closure" else "function '" ++ f ++ "'"
    if source = "" then placed inner.textOnly inner.position ++ "\nin call to " ++ called
    else
      placed (inner.textOnly ++ " @ '" ++ source ++ "'") inner.position ++
        "\nin call to " ++ called ++ " (from '" ++ source ++ "')"
  | inModule name inner _ =>
    placed inner.textOnly inner.position ++
      (if name = "" then "\nin module" else "\nin module '" ++ name ++ "'")

/-- A failure in words. -/
def text (f : Failure) : String := placed f.textOnly f.position

/-- The nested form of a failure. -/
def detail : Failure → String
  | plain cause p =>
    cause.kind ++ "(" ++ ", ".intercalate (cause.parts ++ [Position.detail? p]) ++ ")"
  | inCall f source inner p =>
    "ErrorInFunctionCall(" ++ Text.quoted f ++ ", " ++ Text.quoted source ++ ", " ++ inner.detail ++
      ", " ++ Position.detail? p ++ ")"
  | inModule name inner p =>
    "ErrorInModule(" ++ Text.quoted name ++ ", " ++ inner.detail ++ ", " ++ Position.detail? p ++ ")"

/-- The name of the outermost kind. -/
def kind : Failure → String
  | plain cause _ => cause.kind
  | inCall _ _ _ _ => "ErrorInFunctionCall"
  | inModule _ _ _ => "ErrorInModule"

/-- The failure inside all wrappers. -/
def core : Failure → Cause
  | plain cause _ => cause
  | inCall _ _ inner _ | inModule _ inner _ => inner.core

/-- The code of a controlled exit, inside any number of wrappers. -/
def exitCode? : Failure → Option Int64
  | plain (.exited code) _ => some code
  | plain _ _ => none
  | inCall _ _ inner _ | inModule _ inner _ => inner.exitCode?

/-- Whether a `catch` block may have the failure. -/
def isCatchable : Failure → Bool
  | plain cause _ => !cause.isFinal
  | inCall _ _ _ _ | inModule _ _ _ => true

/-- Whether a call passes the failure on as it is. -/
def passesCalls : Failure → Bool
  | plain cause _ => cause.isFinal
  | inCall _ _ _ _ | inModule _ _ _ => false

@[simp]
theorem isCatchable_withPosition (f : Failure) (p : Option Position) :
    (f.withPosition p).isCatchable = f.isCatchable := by cases f <;> rfl

@[simp]
theorem exitCode?_withPosition (f : Failure) (p : Option Position) :
    (f.withPosition p).exitCode? = f.exitCode? := by
  cases f with
  | plain cause q => cases cause <;> rfl
  | inCall function source inner q => rfl
  | inModule name inner q => rfl

@[simp]
theorem isCatchable_fillPosition (f : Failure) (p : Position) :
    (f.fillPosition p).isCatchable = f.isCatchable := by
  unfold fillPosition
  split <;> simp

@[simp]
theorem exitCode?_fillPosition (f : Failure) (p : Position) :
    (f.fillPosition p).exitCode? = f.exitCode? := by
  unfold fillPosition
  split <;> simp

/-- The details that a `catch` block is told about a failure. -/
def fields : Failure → List (String × Datum)
  | plain cause _ => cause.fields
  | inCall f source _ _ => [("function", .string f), ("source", .string source)]
  | inModule name _ _ => [("module", .string name)]

/-- What a `catch` block is given: the raised value, inside any number of wrappers, or a map that
tells about the failure. -/
def caught (source : String) (f : Failure) : Datum :=
  match f.core with
  | .raised d => d.free
  | _ =>
    let place := match f.position with
      | some p => [("line", Datum.int (Int64.ofNat p.line)), ("position", .int (Int64.ofNat p.column))]
      | none => []
    let source := if source = "" then [] else [("source", Datum.string source)]
    .map (Dictionary.ofEntries
      (("message", .string f.textOnly) :: source ++ place ++ ("error", .string f.kind) :: f.fields))

end Failure

end HostedScripts.Language
