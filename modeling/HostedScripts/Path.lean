import HostedScripts.Text.Blank

/-!
# Paths

A `Path` is kept as it was written. Its meaning is the list of its components: repeated slashes, a
trailing slash and a `.` that is not the first component do not count. `Path.fileName?`,
`Path.stem?`, `Path.extension?` and `Path.parent?` take a path apart; `Path.join` puts two together,
where an absolute path replaces what it is joined to.
-/

namespace HostedScripts

/-- A path as it was written. -/
structure Path where
  text : String
  deriving DecidableEq, Inhabited

/-- A component of a path: the root, a leading `.`, a step up or a name. -/
inductive Component where
  | root
  | current
  | up
  | name (s : String)
  deriving DecidableEq

namespace Path

/-- Whether a piece adds no component, unless it comes first. -/
def isIdle (piece : List Char) : Bool := piece = [] || piece = ['.']

/-- A path taken apart: what stands before its names, as written, and the pieces after it. -/
structure Parts where
  lead : Option Component
  pieces : List (List Char)

/-- The parts of a path. -/
def parts (p : Path) : Parts :=
  match Text.splitList '/' p.text.toList with
  | [[]] => ⟨none, []⟩
  | [] :: more => ⟨some .root, more⟩
  | ['.'] :: more => ⟨some .current, more⟩
  | more => ⟨none, more⟩

/-- The component that a piece stands for. -/
def componentOf (piece : List Char) : Component :=
  if piece = ['.', '.'] then .up else .name (String.ofList piece)

/-- The components of a path. -/
def components (p : Path) : List Component :=
  p.parts.lead.toList ++ (p.parts.pieces.filter (!isIdle ·)).map componentOf

/-- Whether two paths have the same components. -/
def agrees (p q : Path) : Bool := p.components = q.components

/-- Whether a path starts at the root. -/
def isAbsolute (p : Path) : Bool := p.text.startsWith "/"

/-- The name of the file a path leads to: its last component, if that is a name. -/
def fileName? (p : Path) : Option String :=
  match p.components.getLast? with
  | some (.name s) => some s
  | _ => none

/-- A file name cut at its last dot, unless the dot comes first or there is none. -/
def cutName (name : List Char) : List Char × Option (List Char) :=
  let after := (name.reverse.takeWhile (· ≠ '.')).reverse
  let before := name.take (name.length - after.length - 1)
  if after.length = name.length || name = ['.', '.'] || before = [] then (name, none)
  else (before, some after)

/-- What precedes the last dot of the file name. -/
def stem? (p : Path) : Option String :=
  p.fileName?.map fun name => String.ofList (cutName name.toList).1

/-- What follows the last dot of the file name. -/
def extension? (p : Path) : Option String :=
  p.fileName?.bind fun name => (cutName name.toList).2.map String.ofList

/-- The pieces without those at the end that add no component. -/
def trimPieces (pieces : List (List Char)) : List (List Char) :=
  (pieces.reverse.dropWhile isIdle).reverse

/-- Pieces with slashes between them. -/
def joinPieces : List (List Char) → List Char
  | [] => []
  | [piece] => piece
  | piece :: more => piece ++ '/' :: joinPieces more

/-- The path with some parts. -/
def ofParts (parts : Parts) : Path :=
  let rest := joinPieces parts.pieces
  ⟨String.ofList <|
    match parts.lead with
    | some .root => '/' :: rest
    | some .current => if parts.pieces = [] then ['.'] else '.' :: '/' :: rest
    | _ => rest⟩

/-- The path without its last component; none for the root and the empty path. -/
def parent? (p : Path) : Option Path :=
  let parts := p.parts
  match trimPieces parts.pieces with
  | [] =>
    match parts.lead with
    | some .current => some ⟨""⟩
    | _ => none
  | pieces => some (ofParts ⟨parts.lead, trimPieces pieces.dropLast⟩)

/-- A path followed from another one. -/
def join (p q : Path) : Path :=
  if q.isAbsolute then q
  else if p.text = "" || p.text.endsWith "/" then ⟨p.text ++ q.text⟩
  else ⟨p.text ++ "/" ++ q.text⟩

/-- The path with another extension; a path without a file name stays as it is. -/
def withExtension (p : Path) (extension : String) : Path :=
  match p.stem? with
  | none => p
  | some stem =>
    let parts := p.parts
    let name := stem.toList ++ '.' :: extension.toList
    ofParts ⟨parts.lead, (trimPieces parts.pieces).dropLast ++ [name]⟩

/-- Whether a component comes before another one: the root first, then `.`, then a step up, then
names in their order. -/
def componentBefore : Component → Component → Bool
  | .root, .root => false
  | .root, _ => true
  | .current, .root | .current, .current => false
  | .current, _ => true
  | .up, .name _ => true
  | .up, _ => false
  | .name s, .name t => s < t
  | .name _, _ => false

/-- Whether a list of components comes before another one. -/
def before : List Component → List Component → Bool
  | [], [] => false
  | [], _ :: _ => true
  | _ :: _, [] => false
  | a :: as, b :: bs => componentBefore a b || (a = b && before as bs)

/-- Whether a path comes no later than another one, component by component. -/
def notAfter (p q : Path) : Bool := !before q.components p.components

/-- What remains of a path below another one, with single slashes. -/
def below? (base p : Path) : Option Path :=
  let inner := base.components
  if inner.isPrefixOf p.components then
    let rest := p.components.drop inner.length
    some ⟨"/".intercalate (rest.map fun
      | .root => ""
      | .current => "."
      | .up => ".."
      | .name s => s)⟩
  else none

end Path

end HostedScripts
