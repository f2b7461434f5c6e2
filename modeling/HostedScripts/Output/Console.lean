import HostedScripts.Text.Lines

/-!
# Consoles and streams

A `Console` is a window that collects lines; each line is tagged with the run that wrote it. A
`Stream` is the way of one run to a console.
-/

namespace HostedScripts.Output

/-- What a console is made with: the id of the command it belongs to, its title, the versions it
shows, and whether it is shown for debugging. -/
structure ConsoleSpec where
  outputId : String
  title : String
  appVersion : String
  debugMode : Bool
  deriving DecidableEq, Inhabited

/-- A line of a console, with the run that wrote it. -/
structure ConsoleLine where
  execId : String
  text : String
  deriving DecidableEq, Inhabited

/-- A window that collects lines, the oldest first. -/
structure Console where
  spec : ConsoleSpec
  lines : List ConsoleLine
  deriving DecidableEq, Inhabited

namespace Console

/-- Adds a line. -/
def writeLine (c : Console) (execId text : String) : Console :=
  { c with lines := c.lines ++ [⟨execId, text⟩] }

/-- The texts of the lines that a run wrote. -/
def linesFor (c : Console) (execId : String) : List String :=
  (c.lines.filter (·.execId = execId)).map (·.text)

/-- The lines that a text becomes; an empty text is one empty line. -/
def linesOf (text : String) : List String := if text = "" then [""] else Text.lines text

/-- Adds the lines of a text. -/
def write (c : Console) (execId text : String) : Console :=
  (linesOf text).foldl (fun c line => c.writeLine execId line) c

end Console

/-- The way of one run to a console, which is given by its number. -/
structure Stream where
  execId : String
  console : Nat
  deriving DecidableEq, Inhabited

end HostedScripts.Output
