import HostedScripts.Path
import HostedScripts.Text.Codec

/-!
# Files and directories

A `FileTree` maps places, lists of names from the root, to files and directories; the root itself is
always a directory, and paths that do not start at the root start at `current`. A path is followed
name by name, so `a/../b` needs a directory `a`. The operations give the new tree or the reason why
they cannot be done.
-/

namespace HostedScripts

/-- Why a file operation cannot be done. -/
inductive FileError where
  | notFound
  | isDirectory
  | notDirectory
  | alreadyExists
  | nameTooLong
  | zeroInPath
  | notText
  deriving DecidableEq, Inhabited

/-- A reason in words. -/
def FileError.message : FileError → String
  | .notFound => "No such file or directory (os error 2)"
  | .isDirectory => "Is a directory (os error 21)"
  | .notDirectory => "Not a directory (os error 20)"
  | .alreadyExists => "File exists (os error 17)"
  | .nameTooLong => "File name too long (os error 36)"
  | .zeroInPath => "file name contained an unexpected NUL byte"
  | .notText => "stream did not contain valid UTF-8"

/-- A place in a tree: the names on the way from the root. -/
abbrev Place := List String

/-- What stands at a place: a directory, or a file with its bytes and the time of its last change,
in milliseconds if it is known. -/
inductive Node where
  | file (bytes : List UInt8) (changed : Option Int)
  | directory
  deriving Inhabited

/-- Files and directories by their places, apart from the root; relative paths start at `current`.
-/
structure FileTree where
  nodes : List (Place × Node)
  current : Place
  deriving Inhabited

namespace FileTree

/-- What stands at a place. -/
def node? (t : FileTree) (place : Place) : Option Node :=
  if place = [] then some .directory else (t.nodes.find? (·.1 = place)).map (·.2)

/-- The tree with a node put at a place. -/
def put (t : FileTree) (place : Place) (node : Node) : FileTree :=
  if t.nodes.any (·.1 = place) then
    { t with nodes := t.nodes.map fun entry => if entry.1 = place then (place, node) else entry }
  else { t with nodes := t.nodes ++ [(place, node)] }

/-- Demands a directory at a place. -/
def requireDirectory (t : FileTree) (place : Place) : Except FileError Unit :=
  match t.node? place with
  | some .directory => .ok ()
  | some (.file _ _) => .error .notDirectory
  | none => .error .notFound

/-- Takes one step from a place, which has to be a directory. -/
def step (t : FileTree) (place : Place) (c : Component) : Except FileError Place := do
  match c with
  | .root => return []
  | .current => t.requireDirectory place; return place
  | .up => t.requireDirectory place; return place.dropLast
  | .name s =>
    t.requireDirectory place
    if s.utf8ByteSize > 255 then throw .nameTooLong
    return place ++ [s]

/-- Whether a path can only lead to a directory because of the way it ends. -/
def endsAsDirectory (p : Path) : Bool :=
  match p.parts.pieces.getLast? with
  | some piece => Path.isIdle piece
  | none => false

/-- The place a path leads to; what is on the way must exist, the place itself need not. -/
def locate (t : FileTree) (p : Path) : Except FileError Place := do
  if p.text = "" then throw .notFound
  if p.text.toList.contains '\x00' then throw .zeroInPath
  if p.text.utf8ByteSize > 4095 then throw .nameTooLong
  let place ← p.components.foldlM t.step t.current
  if endsAsDirectory p then
    match t.node? place with
    | some (.file _ _) => throw .notDirectory
    | _ => pure ()
  return place

/-- What a path leads to. -/
def lookUp (t : FileTree) (p : Path) : Except FileError (Place × Node) := do
  let place ← t.locate p
  match t.node? place with
  | some node => return (place, node)
  | none => throw .notFound

/-- Whether a path leads to a file. -/
def isFile (t : FileTree) (p : Path) : Bool :=
  match t.lookUp p with
  | .ok (_, .file _ _) => true
  | _ => false

/-- Whether a path leads to a directory. -/
def isDirectory (t : FileTree) (p : Path) : Bool :=
  match t.lookUp p with
  | .ok (_, .directory) => true
  | _ => false

/-- When the file or directory at a path was last changed, if that is known. -/
def changed? (t : FileTree) (p : Path) : Option Int :=
  match t.lookUp p with
  | .ok (_, .file _ time) => time
  | _ => none

/-- The bytes of the file at a path. -/
def readBytes (t : FileTree) (p : Path) : Except FileError (List UInt8) := do
  match ← t.lookUp p with
  | (_, .file bytes _) => return bytes
  | (_, .directory) => throw .isDirectory

/-- The text of the file at a path. -/
def readText (t : FileTree) (p : Path) : Except FileError String := do
  match Text.ofBytes? (← t.readBytes p) with
  | some text => return text
  | none => throw .notText

/-- The place for a file that is to be written at a path. -/
def placeForFile (t : FileTree) (p : Path) : Except FileError Place := do
  let place ← t.locate p
  match t.node? place with
  | some .directory => throw .isDirectory
  | some (.file _ _) => return place
  | none =>
    if endsAsDirectory p then throw .isDirectory
    return place

/-- Writes a file, over an older one if there is one. -/
def write (t : FileTree) (p : Path) (bytes : List UInt8) (changed : Option Int) :
    Except FileError FileTree := do
  return t.put (← t.placeForFile p) (.file bytes changed)

/-- Opens a file to add to it: it is there afterwards, and an older one keeps its bytes. -/
def touch (t : FileTree) (p : Path) : Except FileError FileTree := do
  let place ← t.placeForFile p
  if (t.node? place).isSome then return t
  return t.put place (.file [] none)

/-- Makes the directory at a path. -/
def makeDirectory (t : FileTree) (p : Path) : Except FileError FileTree := do
  let place ← t.locate p
  if (t.node? place).isSome then throw .alreadyExists
  return t.put place .directory

/-- Makes the directory at a path, unless it is there already. -/
def ensureDirectory (t : FileTree) (p : Path) : FileTree × Except FileError Unit :=
  match t.makeDirectory p with
  | .ok t => (t, .ok ())
  | .error e => (t, if t.isDirectory p then .ok () else .error e)

/-- Makes the directory at a path and those on the way that are missing, as far as they can be made;
`fuel` bounds the number of directories. -/
def prepareWith (t : FileTree) (p : Path) : Nat → FileTree × Except FileError Unit
  | 0 => (t, .error .notFound)
  | fuel + 1 =>
    if p.text = "" then (t, .ok ())
    else
      match t.makeDirectory p with
      | .error .notFound =>
        match p.parent? with
        | none => (t, .error .notFound)
        | some parent =>
          match t.prepareWith parent fuel with
          | (t, .ok ()) => t.ensureDirectory p
          | (t, .error e) => (t, .error e)
      | _ => t.ensureDirectory p

/-- Makes the directory at a path and those on the way that are missing. What has been made stays,
also when the rest cannot be made. -/
def prepare (t : FileTree) (p : Path) : FileTree × Except FileError Unit :=
  t.prepareWith p (p.components.length + 2)

/-- The tree with the directory at a path and those on the way, if they can be made. -/
def makeDirectories (t : FileTree) (p : Path) : Except FileError FileTree :=
  (t.prepare p).2.map fun _ => (t.prepare p).1

/-- Removes the file at a path. -/
def remove (t : FileTree) (p : Path) : Except FileError FileTree := do
  match ← t.lookUp p with
  | (place, .file _ _) => return { t with nodes := t.nodes.filter (·.1 ≠ place) }
  | (_, .directory) => throw .isDirectory

/-- The files at or below a place, each with the names that lead to it from there. -/
def filesBelow (t : FileTree) (place : Place) : List Place :=
  t.nodes.filterMap fun (p, node) =>
    match node with
    | .file _ _ => if place.isPrefixOf p then some (p.drop place.length) else none
    | .directory => none

/-- The files at or below a path, as paths that start with it. -/
def walk (t : FileTree) (p : Path) : List Path :=
  match t.lookUp p with
  | .ok (place, _) => (t.filesBelow place).map fun names => names.foldl (fun q s => q.join ⟨s⟩) p
  | .error _ => []

end FileTree

end HostedScripts
