import HostedScripts.Output.Arena
import HostedScripts.Output.Console
import HostedScripts.Dictionary
import HostedScripts.Event

/-!
# The registry of consoles and streams

The `Registry` lists the consoles of a host by the id of their command, and the streams that feed
them. Consoles and streams are numbered in the order in which they are made, from one and from zero,
and a number is never given again. A console is there as long as it is listed or somebody outside
holds it. A stream is there as long as somebody holds it: listing a stream does not keep it. A stream
never keeps its console.

* `consoleFor` gives the listed console of a command or makes one.
* `streamFor` makes a stream; listed streams that nobody holds give up their slots first.
* `releaseConsole` takes a console off the list together with all streams that feed it.
-/

namespace HostedScripts.Output

/-- The consoles and streams of a host, by their numbers: those that are listed; the listed console
of each command; all that were ever made, in the order of their numbers; and those that are held,
with one entry for every holder. -/
structure Registry where
  consoles : Arena Nat
  streams : Arena Nat
  byOutputId : Dictionary Handle
  made : List Console
  opened : List Stream
  consoleHolders : List Nat
  streamHolders : List Nat

namespace Registry

/-- The registry at the start. -/
def empty : Registry := ⟨.empty, .empty, [], [], [], [], []⟩

instance : Inhabited Registry := ⟨empty⟩

/-! ### Looking -/

/-- The console with a number. -/
def consoleAt? (r : Registry) (n : Nat) : Option Console :=
  match n with
  | 0 => none
  | i + 1 => r.made[i]?

/-- The stream with a number. -/
def streamAt? (r : Registry) (n : Nat) : Option Stream := r.opened[n]?

/-- Whether somebody holds a stream. -/
def isHeld (r : Registry) (stream : Nat) : Bool := r.streamHolders.contains stream

/-- Whether a console is listed or held. -/
def isThere (r : Registry) (console : Nat) : Bool :=
  r.consoles.entries.contains console || r.consoleHolders.contains console

/-- The number of the console a handle resolves to. -/
def console? (r : Registry) (h : Handle) : Option Nat := r.consoles.get? h

/-- The number of the stream a handle resolves to. -/
def stream? (r : Registry) (h : Handle) : Option Nat := (r.streams.get? h).filter r.isHeld

/-- The number of the listed console of a command. -/
def findConsole? (r : Registry) (outputId : String) : Option Nat :=
  (r.byOutputId.get? outputId).bind r.consoles.get?

/-- How many consoles are listed. -/
def liveConsoles (r : Registry) : Nat := r.consoles.entries.length

/-- How many streams are listed and held. -/
def liveStreams (r : Registry) : Nat := (r.streams.entries.filter r.isHeld).length

/-- The console that a stream feeds, while it is there. -/
def consoleOfStream? (r : Registry) (stream : Nat) : Option Nat :=
  match r.streamAt? stream with
  | some s => if r.isThere s.console then some s.console else none
  | none => none

/-- The texts that a run wrote to a console. -/
def linesFor (r : Registry) (console : Nat) (execId : String) : List String :=
  match r.consoleAt? console with
  | some c => c.linesFor execId
  | none => []

/-! ### Holding -/

/-- Holds a console. -/
def holdConsole (r : Registry) (n : Nat) : Registry :=
  { r with consoleHolders := n :: r.consoleHolders }

/-- Lets go of a console. -/
def dropConsole (r : Registry) (n : Nat) : Registry :=
  { r with consoleHolders := r.consoleHolders.erase n }

/-- Holds a stream. -/
def holdStream (r : Registry) (n : Nat) : Registry :=
  { r with streamHolders := n :: r.streamHolders }

/-- Lets go of a stream. -/
def dropStream (r : Registry) (n : Nat) : Registry :=
  { r with streamHolders := r.streamHolders.erase n }

/-! ### Making and releasing -/

/-- An event of the registry. -/
def event (message : String) (fields : List (String × String)) : Event :=
  ⟨.debug, "scripthost::output", message, fields⟩

/-- Makes a console and lists it. -/
def makeConsole (r : Registry) (spec : ConsoleSpec) : Registry × Handle × Nat :=
  let n := r.made.length + 1
  let (consoles, h) := r.consoles.insert n
  ({ r with
      consoles := consoles
      byOutputId := r.byOutputId.insert spec.outputId h
      made := r.made ++ [⟨spec, []⟩] }, h, n)

/-- The listed console of a command, or a new one. -/
def consoleFor (r : Registry) (spec : ConsoleSpec) : Registry × Handle × Nat × List Event :=
  let create :=
    let (r, h, n) := r.makeConsole spec
    (r, h, n, [event "created console"
      [("output_id", spec.outputId), ("instance_id", toString n)]])
  match r.byOutputId.get? spec.outputId with
  | some h =>
    match r.consoles.get? h with
    | some n => (r, h, n, [])
    | none => create
  | none => create

/-- Frees the slots of the listed streams that nobody holds. -/
def reclaim (r : Registry) : Registry × List Event :=
  let lost := (r.streams.entries.filter (!r.isHeld ·)).length
  ({ r with streams := r.streams.retain r.isHeld },
    if lost > 0 then [event "reclaimed dropped streams" [("reclaimed", toString lost)]] else [])

/-- Makes a stream that feeds a console and lists it; who asked for it holds it. -/
def streamFor (r : Registry) (execId : String) (console : Nat) :
    Registry × Handle × Nat × List Event :=
  let (r, events) := r.reclaim
  let n := r.opened.length
  let (streams, h) := r.streams.insert n
  ({ r with
      streams := streams
      opened := r.opened ++ [⟨execId, console⟩]
      streamHolders := n :: r.streamHolders }, h, n, events)

/-- Whether a listed stream stays listed when a console is released. -/
def survives (r : Registry) (console stream : Nat) : Bool :=
  r.isHeld stream && (r.streamAt? stream).any (·.console ≠ console)

/-- Takes a console off the list, with all streams that feed it. -/
def releaseConsole (r : Registry) (h : Handle) : Registry × Bool × List Event :=
  match r.consoles.remove h with
  | (_, none) => (r, false, [])
  | (consoles, some n) =>
    let id := ((r.consoleAt? n).map (·.spec.outputId)).getD ""
    let index := if r.byOutputId.get? id = some h then r.byOutputId.erase id else r.byOutputId
    ({ r with
        consoles := consoles
        byOutputId := index
        streams := r.streams.retain (r.survives n) }, true,
      [event "released console" [("output_id", id)]])

/-- Takes the console of a command off the list. -/
def releaseOutput (r : Registry) (outputId : String) : Registry × Bool × List Event :=
  match r.byOutputId.get? outputId with
  | some h => r.releaseConsole h
  | none => (r, false, [])

/-- Takes a stream off the list. -/
def releaseStream (r : Registry) (h : Handle) : Registry × Bool :=
  match r.streams.remove h with
  | (_, none) => (r, false)
  | (streams, some _) => ({ r with streams := streams }, true)

/-! ### Writing -/

/-- Changes the console with a number. -/
def modifyConsole (r : Registry) (n : Nat) (f : Console → Console) : Registry :=
  match n with
  | 0 => r
  | i + 1 => { r with made := r.made.modify i f }

/-- Adds a line to a console. -/
def writeLine (r : Registry) (console : Nat) (execId text : String) : Registry :=
  r.modifyConsole console (·.writeLine execId text)

/-- Writes a text to a stream; it is lost when the console is no longer there. -/
def write (r : Registry) (stream : Nat) (text : String) : Registry × List Event :=
  match r.streamAt? stream with
  | none => (r, [])
  | some s =>
    if r.isThere s.console then (r.modifyConsole s.console (·.write s.execId text), [])
    else (r, [event "console released; dropping output" [("exec_id", s.execId)]])

end Registry

end HostedScripts.Output
