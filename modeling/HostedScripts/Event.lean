/-!
# Events for the log

An `Event` is something a run tells those who watch it: how serious it is, where it comes from, a
message, and named details.
-/

namespace HostedScripts

/-- How serious an event is. -/
inductive Severity where
  | debug
  | info
  | warn
  deriving DecidableEq, Inhabited

namespace Severity

/-- The name of a severity. -/
def name : Severity → String
  | debug => "DEBUG"
  | info => "INFO"
  | warn => "WARN"

/-- The rank of a severity. -/
def rank : Severity → Nat
  | debug => 0
  | info => 1
  | warn => 2

/-- Whether a severity is at least another one. -/
def reaches (s least : Severity) : Bool := least.rank ≤ s.rank

end Severity

/-- Something a run tells those who watch it; `target` is where it comes from, and `fields` are the
details by name. -/
structure Event where
  severity : Severity
  target : String
  message : String
  fields : List (String × String)
  deriving DecidableEq, Inhabited

end HostedScripts
