/-!
# Diagnostics of a compilation

A `Diagnostic` is a message with the line it is about; lines count from one. Diagnostics are kept in
the order in which they were reported.
-/

namespace HostedScripts

/-- A message about a line of a script; lines count from one. -/
structure Diagnostic where
  message : String
  line : Nat
  deriving DecidableEq, Inhabited

namespace Diagnostic

/-- A diagnostic for a line; line zero is taken as line one. -/
def onLine (message : String) (line : Nat) : Diagnostic := ⟨message, max line 1⟩

/-- The text of a diagnostic. -/
def render (d : Diagnostic) : String := d.message ++ " (line " ++ toString d.line ++ ")"

/-- The texts of some diagnostics, one to a line. -/
def renderAll (ds : List Diagnostic) : String := "\n".intercalate (ds.map render)

end Diagnostic

end HostedScripts
