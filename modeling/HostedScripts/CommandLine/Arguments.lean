import HostedScripts.Event
import HostedScripts.Path

/-!
# The arguments of the command line

`Invocation.parse` reads the arguments that follow the name of the program. Options that are not
repeatable may be given once; options for all commands may stand before or after the command. The value
of an option follows it, or is joined to it by an equals sign. A value that looks like an option has to
be joined, unless the option takes such values.
-/

namespace HostedScripts.CommandLine

/-- What an option takes: nothing, as often as one likes (`count`) or once, a path, a text, which
may look like an option or not, or one of some words. -/
inductive Takes where
  | count
  | nothing
  | path
  | text (likeOption : Bool)
  | word (words : List String)

/-- An option; `valueName` and `about` are what help shows of it. -/
structure OptionSpec where
  name : String
  takes : Takes
  isRepeatable : Bool
  valueName : String
  about : String

/-- The options for all commands. -/
def commonOptions : List OptionSpec :=
  [⟨"verbose", .count, true, "", "Raise diagnostic logging: -v for info, -vv for debug"⟩,
    ⟨"log-format", .word ["pretty", "compact", "json"], false, "LOG_FORMAT",
      "[default: compact] [possible values: pretty, compact, json]"⟩,
    ⟨"trace-file", .path, false, "TRACE_FILE", "Also append diagnostic logging to this file"⟩]

/-- What help tells about variables. -/
def aboutVariables : String :=
  "`name=value`; the value is read as JSON when it parses, else as text"

/-- What help tells about the log of a failure. -/
def aboutFailureLog : String :=
  "Failure log written when the script fails to compile or run"

/-- The options for running a script. -/
def runOptions : List OptionSpec :=
  [⟨"script", .path, false, "SCRIPT", ""⟩, ⟨"bundle", .path, false, "BUNDLE", ""⟩,
    ⟨"config-script", .path, false, "CONFIG_SCRIPT", ""⟩,
    ⟨"search-path", .path, true, "SEARCH_PATHS", ""⟩, ⟨"arg", .text true, true, "ARGUMENTS", ""⟩,
    ⟨"var", .text false, true, "VARS", aboutVariables⟩, ⟨"config", .path, false, "CONFIG", ""⟩,
    ⟨"log-file", .path, false, "LOG_FILE", aboutFailureLog⟩,
    ⟨"config-mode", .nothing, false, "", ""⟩, ⟨"debug", .nothing, false, "", ""⟩]

/-- The options for checking a script. -/
def checkOptions : List OptionSpec :=
  [⟨"script", .path, false, "SCRIPT", ""⟩, ⟨"config", .path, false, "CONFIG", ""⟩]

/-- The options for running test cases. -/
def testOptions : List OptionSpec := [⟨"cases-dir", .path, false, "CASES_DIR", ""⟩]

/-- Why there is nothing to carry out: somebody asks how the program, or one of its commands, is
used, or the arguments are wrong. -/
inductive Usage where
  | help (command : Option String)
  | wrong
  deriving DecidableEq

/-- Options that were given, in order, with their values. -/
abbrev Given := List (String × String)

namespace Given

/-- The values of an option. -/
def values (given : Given) (name : String) : List String :=
  given.filterMap fun (n, v) => if n = name then some v else none

/-- The value of an option that is not repeatable. -/
def value? (given : Given) (name : String) : Option String := (given.values name).head?

/-- The path that an option takes. -/
def path? (given : Given) (name : String) : Option Path := (given.value? name).map Path.mk

/-- Whether an option was given. -/
def has (given : Given) (name : String) : Bool := (given.value? name).isSome

end Given

/-- Whether an argument looks like an option. -/
def looksLikeOption (argument : String) : Bool := argument.startsWith "-" && argument ≠ "-"

/-- Whether an option takes a value. -/
def Takes.accepts (t : Takes) (value : String) : Bool :=
  match t with
  | count | nothing => false
  | path => value ≠ ""
  | text _ => true
  | word words => words.contains value

/-- Whether an option takes a value that follows it. -/
def Takes.acceptsNext (t : Takes) (value : String) : Bool :=
  t.accepts value &&
    match t with
    | text likeOption => likeOption || !looksLikeOption value
    | _ => !looksLikeOption value

/-- Adds an option to those that were given. -/
def add (spec : OptionSpec) (value : String) (given : Given) : Except Usage Given :=
  if !spec.isRepeatable && given.has spec.name then .error .wrong
  else .ok (given ++ [(spec.name, value)])

/-- Reads a row of short options, of a command if one is named. -/
def shortOptions (command : Option String) (given : Given) : List Char → Except Usage Given
  | [] => .ok given
  | 'v' :: cs => shortOptions command (given ++ [("verbose", "")]) cs
  | 'h' :: _ => .error (.help command)
  | _ => .error .wrong

/-- The name of a long option and the value joined to it. -/
def splitOption (argument : String) : String × Option String :=
  let cs := argument.toList.drop 2
  let name := String.ofList (cs.takeWhile (· ≠ '='))
  match cs.dropWhile (· ≠ '=') with
  | [] => (name, none)
  | _ :: value => (name, some (String.ofList value))

/-- Whether an option takes no value. -/
def Takes.isAlone : Takes → Bool
  | count | nothing => true
  | path | text _ | word _ => false

/-- Reads options, of a command if one is named, up to the first argument that is none; gives what
is left. -/
def options (command : Option String) (specs : List OptionSpec) (given : Given) :
    List String → Except Usage (Given × List String)
  | [] => .ok (given, [])
  | argument :: rest =>
    if argument = "--" then if rest.isEmpty then .ok (given, []) else .error .wrong
    else if argument.startsWith "--" then
      let (name, value?) := splitOption argument
      if name = "help" && value?.isNone then .error (.help command)
      else
        match specs.find? (·.name = name), value?, rest with
        | none, _, _ => .error .wrong
        | some spec, some value, rest =>
          if spec.takes.accepts value then
            match add spec value given with
            | .ok given => options command specs given rest
            | .error e => .error e
          else .error .wrong
        | some spec, none, rest =>
          if spec.takes.isAlone then
            match add spec "" given with
            | .ok given => options command specs given rest
            | .error e => .error e
          else
            match rest with
            | [] => .error .wrong
            | value :: rest =>
              if spec.takes.acceptsNext value then
                match add spec value given with
                | .ok given => options command specs given rest
                | .error e => .error e
              else .error .wrong
    else if looksLikeOption argument then
      match shortOptions command given (argument.toList.drop 1) with
      | .ok given => options command specs given rest
      | .error e => .error e
    else .ok (given, argument :: rest)
termination_by arguments => arguments.length

/-- What is run, and how; `vars` are names and values with an equals sign between them. -/
structure RunArguments where
  script : Path
  bundle : Option Path
  configScript : Option Path
  searchPaths : List Path
  arguments : List String
  vars : List String
  config : Option Path
  logFile : Option Path
  configMode : Bool
  debug : Bool
  deriving Inhabited

/-- What the program is to do. -/
inductive Command where
  | run (arguments : RunArguments)
  | check (script : Path) (config : Option Path)
  | test (directory : Path)

/-- What the program was started with: how much is told and to which file, and what is to be done.
-/
structure Invocation where
  verbosity : Nat
  traceFile : Option Path
  command : Command

/-- The least severity of the events that are shown. -/
def Invocation.leastSeverity (i : Invocation) : Severity :=
  match i.verbosity with
  | 0 => .warn
  | 1 => .info
  | _ => .debug

/-- Demands an option. -/
def required (given : Given) (name : String) : Except Usage Path :=
  match given.path? name with
  | some p => .ok p
  | none => .error .wrong

/-- The command with a name and its options. -/
def commandOf (name : String) (given : Given) : Except Usage Command := do
  match name with
  | "run" =>
    let script ← required given "script"
    return .run
      { script := script
        bundle := given.path? "bundle"
        configScript := given.path? "config-script"
        searchPaths := (given.values "search-path").map Path.mk
        arguments := given.values "arg"
        vars := given.values "var"
        config := given.path? "config"
        logFile := given.path? "log-file"
        configMode := given.has "config-mode"
        debug := given.has "debug" }
  | "check" => return .check (← required given "script") (given.path? "config")
  | "test" => return .test (← required given "cases-dir")
  | _ => throw .wrong

/-- The options for a command. -/
def optionsFor? : String → Option (List OptionSpec)
  | "run" => some runOptions
  | "check" => some checkOptions
  | "test" => some testOptions
  | _ => none

/-- The command that shows help. -/
def helpCommand : String := "help"

/-- What follows from the arguments of the command that shows help: it takes the name of a command,
itself included. -/
def helpFor : List String → Usage
  | [] => .help none
  | [name] =>
    if name = helpCommand || (optionsFor? name).isSome then .help (some name) else .wrong
  | _ => .wrong

/-- Reads the arguments of the program. An option for all commands that stands after the command
hides the same option before it. -/
def Invocation.parse (arguments : List String) : Except Usage Invocation := do
  let (before, rest) ← options none commonOptions [] arguments
  match rest with
  | [] => throw .wrong
  | name :: rest =>
    if name = helpCommand then throw (helpFor rest)
    match optionsFor? name with
    | none => throw .wrong
    | some specs =>
      let (given, rest) ← options (some name) (specs ++ commonOptions) [] rest
      if !rest.isEmpty then throw .wrong
      let verbosity := ((if given.has "verbose" then given else before).values "verbose").length
      let traceFile := given.path? "trace-file" <|> before.path? "trace-file"
      return ⟨verbosity, traceFile, ← commandOf name given⟩

end HostedScripts.CommandLine
