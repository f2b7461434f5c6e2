import HostedScripts.CommandLine.Arguments

/-!
# Help

Help shows how the program, or one of its commands, is called: a line of usage, the commands, and the
options in two columns. What is told about an entry begins in the same column for all entries, behind
the longest of them.

* `OptionSpec.shown` is an option with the name of its value, as it is written on the command line.
* `inColumns` puts entries and what is told about them in columns.
* `helpLines` is all of it, line by line.
-/

namespace HostedScripts.CommandLine

/-- The name of the program. -/
def programName : String := "sh-cli"

/-- What the program is for. -/
def aboutProgram : String := "Script host command line runner"

/-- What help tells about the command that shows it. -/
def aboutHelp : String := "Print this message or the help of the given subcommand(s)"

/-- The option as it is written, with the name of its value. -/
def OptionSpec.shown (o : OptionSpec) : String :=
  "--" ++ o.name ++
    match o.takes with
    | .count => "..."
    | .nothing => ""
    | .path | .text _ | .word _ => " <" ++ o.valueName ++ ">"

/-- The short form of an option and the gap behind it, or as much space. -/
def OptionSpec.short (o : OptionSpec) : String :=
  if o.name = "verbose" then "-v, " else if o.name = helpCommand then "-h, " else "    "

/-- The option that asks for help. -/
def helpOption : OptionSpec := ⟨helpCommand, .nothing, false, "", "Print help"⟩

/-- The elements of two lists in turn, the first list first. -/
def inTurn {α : Type} : List α → List α → List α
  | x :: xs, y :: ys => x :: y :: inTurn xs ys
  | xs, [] => xs
  | [], ys => ys

/-- Entries in columns, indented: the lead of an entry, the entry, and what is told about it. -/
def inColumns (entries : List (String × String × String)) : List String :=
  let longest := (entries.map (·.2.1.length)).foldr max 0
  entries.map fun (lead, entry, about) =>
    "  " ++ lead ++ entry ++ "".pushn ' ' (longest + 2 - entry.length) ++ about

/-- The lines that show options. -/
def optionLines (os : List OptionSpec) : List String :=
  "Options:" :: inColumns ((os ++ [helpOption]).map fun o => (o.short, o.shown, o.about))

/-- The lines that show the commands. -/
def commandLines : List String :=
  "Commands:" ::
    inColumns [("", "run", ""), ("", "check", ""), ("", "test", ""), ("", helpCommand, aboutHelp)]

/-- The option that a command cannot do without. -/
def requiredOptions (os : List OptionSpec) : List OptionSpec :=
  os.filter fun o => o.name = "script" || o.name = "cases-dir"

/-- The line of usage. -/
def usageLine (words : List String) : String := " ".intercalate ("Usage:" :: programName :: words)

/-- What help shows, about a command if one is named. -/
def helpLines : Option String → List String
  | none =>
    [aboutProgram, "", usageLine ["[OPTIONS]", "<COMMAND>"], ""] ++ commandLines ++ [""] ++
      optionLines commonOptions
  | some name =>
    match optionsFor? name with
    | some os =>
      [usageLine ([name, "[OPTIONS]"] ++ (requiredOptions os).map (·.shown)), ""] ++
        optionLines (inTurn os commonOptions)
    | none =>
      [aboutHelp, "", usageLine [helpCommand, "[COMMAND]..."], "", "Arguments:"] ++
        inColumns [("", "[COMMAND]...", "Print help for the subcommand(s)")]

end HostedScripts.CommandLine
