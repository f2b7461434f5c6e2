import HostedScripts.Executor
import HostedScripts.ScriptData
import HostedScripts.Output.Registry

/-!
# Engines that the host provides

The host may provide engines for scripts that the built-in interpreter does not run. A `Handler` gets
a `Request` and gives a `Response`: what it writes to the stream of the run, whether it keeps the
stream for itself, and what the run leaves. An `EngineTable` holds the built-in interpreter, and at most
one handler for each engine that can be provided.
-/

namespace HostedScripts

/-- What a handler gets for a run; the stream is given by its number. -/
structure Request where
  engine : EngineKind
  sourcePath : Path
  script : ScriptData
  arguments : List String
  execId : String
  host : Option HostHandle
  stream : Nat
  deriving Inhabited

/-- What a handler does with a request: the texts that it writes to the stream, whether it goes on
holding the stream, and what the run leaves. -/
structure Response where
  written : List String
  keepsStream : Bool
  ending : Ending
  deriving Inhabited

/-- Runs scripts for the host. -/
abbrev Handler := Request → Response

/-- The handlers of the host, beside the built-in interpreter. -/
structure EngineTable where
  compiled : Option Handler
  visual : Option Handler
  invoke : Option Handler
  interpreter : Interpreter
  deriving Inhabited

namespace EngineTable

/-- The table without handlers. -/
def empty (interpreter : Interpreter := .standard) : EngineTable := ⟨none, none, none, interpreter⟩

/-- Puts a handler into the table; engines that the host cannot provide are refused. -/
def register (t : EngineTable) (engine : EngineKind) (h : Handler) : Except Refusal EngineTable :=
  match engine with
  | .compiled => .ok { t with compiled := some h }
  | .visual => .ok { t with visual := some h }
  | .invoke => .ok { t with invoke := some h }
  | .script | .unknown => .error (.engineReserved engine)

/-- The handler for an engine. -/
def get? (t : EngineTable) : EngineKind → Option Handler
  | .compiled => t.compiled
  | .visual => t.visual
  | .invoke => t.invoke
  | .script | .unknown => none

/-- The engines that have a handler, in their order. -/
def registered (t : EngineTable) : List EngineKind :=
  EngineKind.all.filter fun engine => (t.get? engine).isSome

end EngineTable

end HostedScripts
