import HostedScripts.Config
import HostedScripts.Environment
import HostedScripts.Event
import HostedScripts.Host

/-!
# What a run is given

A `Context` holds what the host gives a run: its applications, the command invocation, arguments,
configuration and flags, and the sender and arguments of an event. Disposing of a context gives up
everything that belongs to the host.
-/

namespace HostedScripts

/-- What to do with an event sender of an unknown type: pass over it silently or with a warning. -/
inductive SenderPolicy where
  | ignore
  | warn
  deriving DecidableEq, Inhabited

/-- What a run is given: its hosts, the command invocation, where modules are looked for first
(`searchPaths`), the facts of the session, if the host gives them (`environment`), where a failure
is logged (`logPath`), and the event that started it. -/
structure Context where
  application : Option Host
  controlledApplication : Option Host
  uiApplication : Option Host
  uiControlledApplication : Option Host
  command : Option CommandInvocation
  searchPaths : List Path
  arguments : List String
  config : Config
  environment : Option Environment
  logPath : Option Path
  refreshEngine : Bool
  configMode : Bool
  debugMode : Bool
  executedFromUi : Bool
  senderPolicy : SenderPolicy
  eventSender : Option HostHandle
  eventArgs : Option Value
  isDisposed : Bool
  deriving Inhabited

namespace Context

/-- The context that gives nothing. -/
def empty : Context :=
  ⟨none, none, none, none, none, [], [], .standard, none, none, false, false, false, false, .ignore,
    none, none, false⟩

/-- Sets the sender of the event. None leaves the sender as it is, and so does a sender of an
unknown type. -/
def setEventSender (c : Context) : Option EventSender → Context
  | some (.host handle) => { c with eventSender := some handle }
  | some (.unrecognized _) | none => c

/-- What is told when the sender of the event is set. -/
def senderEvents (c : Context) : Option EventSender → List Event
  | none => []
  | some (.host handle) =>
    [⟨.debug, "scripthost::context", "event sender set", [("kind", handle.kind.name)]⟩]
  | some (.unrecognized typeName) =>
    match c.senderPolicy with
    | .ignore => []
    | .warn =>
      [⟨.warn, "scripthost::context", "ignoring event sender of unrecognized type",
        [("type_name", typeName)]⟩]

/-- Gives up everything that belongs to the host. -/
def dispose (c : Context) : Context :=
  { c with
    application := none
    controlledApplication := none
    uiApplication := none
    uiControlledApplication := none
    command := none
    searchPaths := []
    arguments := []
    eventSender := none
    eventArgs := none
    isDisposed := true }

/-- What is told when the context is disposed of. -/
def disposeEvents (c : Context) : List Event :=
  if c.isDisposed then []
  else [⟨.debug, "scripthost::context", "disposing execution context", []⟩]

end Context

end HostedScripts
