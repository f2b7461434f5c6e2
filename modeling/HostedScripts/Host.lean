import HostedScripts.Text.Quoted

/-!
# Host applications

A `Host` is an application that scripts work with; a `HostHandle` is a host handed over as one of
four kinds, and an `EventSender` is what the host names as the sender of an event.
-/

namespace HostedScripts

/-- A document that is open in a host. -/
structure Document where
  title : String
  path : String
  deriving DecidableEq, Inhabited

/-- An application that scripts work with. -/
structure Host where
  name : String
  version : String
  document : Option Document
  deriving DecidableEq, Inhabited

namespace Host

/-- The title of the active document; empty without one. -/
def documentTitle (h : Host) : String := (h.document.map (·.title)).getD ""

/-- The path of the active document; empty without one. -/
def documentPath (h : Host) : String := (h.document.map (·.path)).getD ""

end Host

/-- What a host is handed over as: the application or, while it starts, the controlled application,
with its user interface or without. -/
inductive HostKind where
  | application
  | controlledApplication
  | uiApplication
  | uiControlledApplication
  deriving DecidableEq, Inhabited

namespace HostKind

/-- The name of a kind of handle. -/
def name : HostKind → String
  | application => "application"
  | controlledApplication => "controlled-application"
  | uiApplication => "ui-application"
  | uiControlledApplication => "ui-controlled-application"

/-- The kind of handle with a name. -/
def ofName? (name : String) : Option HostKind :=
  [application, controlledApplication, uiApplication, uiControlledApplication].find? (·.name = name)

/-- The label of a kind in the detailed text of a handle. -/
def label : HostKind → String
  | application => "Application"
  | controlledApplication => "ControlledApplication"
  | uiApplication => "UiApplication"
  | uiControlledApplication => "UiControlledApplication"

end HostKind

/-- A host handed over as something. -/
structure HostHandle where
  kind : HostKind
  host : Host
  deriving DecidableEq, Inhabited

namespace HostHandle

/-- The detailed text of a handle. -/
def detail (h : HostHandle) : String :=
  "HostHandle \x7b kind: " ++ h.kind.label ++ ", name: " ++ Text.quoted h.host.name ++ " \x7d"

/-- What a script prints for a handle. -/
def describe (h : HostHandle) : String :=
  h.host.name ++ " " ++ h.host.version ++ " (" ++ h.kind.name ++ ")"

end HostHandle

/-- What the host names as the sender of an event: a host, or an object of a type that is not known
here. -/
inductive EventSender where
  | host (handle : HostHandle)
  | unrecognized (typeName : String)

/-- What the host passes along when a command is invoked from its user interface: itself and the ids
of the selected elements. -/
structure CommandInvocation where
  uiApplication : Host
  selectedElements : List Int64

/-- The detailed text of a command invocation. -/
def CommandInvocation.detail (c : CommandInvocation) : String :=
  "CommandInvocation \x7b ui_application: " ++ Text.quoted c.uiApplication.name ++
    ", selected_elements: [" ++
    ", ".intercalate (c.selectedElements.map fun n => toString n.toInt) ++ "] \x7d"

end HostedScripts
