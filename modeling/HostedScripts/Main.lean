import HostedScripts.CommandLine.Commands

/-!
# The program

The program takes the files that it may need into a tree, carries out its command in that tree, puts
what the command has changed back into the file system, and prints. What a command does is decided by
`CommandLine.run`; nothing is decided here.

* `takeIn` reads what stands at a place and below it.
* `putBack` writes what a run has made or changed.
* `program` does all of it.
-/

namespace HostedScripts.CommandLine

/-- How many directories deep files are taken in. -/
def deepest : Nat := 32

/-- The path of a place. -/
def pathOf (place : Place) : String := "/" ++ "/".intercalate place

/-- Takes in what stands at a place and below it. -/
def takeIn (tree : FileTree) (place : Place) : Nat → IO FileTree
  | 0 => return tree
  | depth + 1 => do
    let entry : IO.FS.DirEntry := ⟨← IO.currentDir, pathOf place⟩
    let found ← try pure (some (← entry.path.metadata)) catch _ => pure none
    match found with
    | none => return tree
    | some data =>
      if data.type matches .dir then
        let entries ← try entry.path.readDir catch _ => pure #[]
        entries.foldlM (fun t e => takeIn t (place ++ [e.fileName]) depth) (tree.put place .directory)
      else
        let bytes ← try pure (some (← IO.FS.readBinFile (pathOf place))) catch _ => pure none
        match bytes with
        | none => return tree
        | some bytes =>
          let changed := data.modified.sec * 1000 + data.modified.nsec.toNat / 1000000
          return tree.put place (.file bytes.toList (some changed))

/-- Takes in what stands at a path and below it, and the directories on the way. -/
def takeInPath (tree : FileTree) (path : Path) : IO FileTree :=
  let place := path.components.foldl
    (fun p c =>
      match c with
      | .root => []
      | .current => p
      | .up => p.dropLast
      | .name s => p ++ [s])
    tree.current
  let onTheWay := (List.range place.length).map place.take
  takeIn (onTheWay.foldl (fun t p => if p.isEmpty then t else t.put p .directory) tree) place deepest

/-- The directories that a command may read from and write to. -/
def directoriesOf : Command → List Path
  | .run a =>
    ([a.script] ++ a.bundle.toList ++ a.configScript.toList ++ a.config.toList ++
      a.logFile.toList).filterMap Path.parent? ++ a.searchPaths
  | .check script config => ([script] ++ config.toList).filterMap Path.parent?
  | .test directory => [directory]

/-- The configuration file that a command names. -/
def configOf : Command → Option Path
  | .run a => a.config
  | .check _ config => config
  | .test _ => none

/-- Takes in all that a command may need. -/
def takeInFor (tree : FileTree) (i : Invocation) : IO FileTree := do
  let directories := directoriesOf i.command ++ (i.traceFile.bind Path.parent?).toList
  let files ← directories.foldlM takeInPath tree
  match loadConfig files (configOf i.command) with
  | .error _ => return files
  | .ok c => (c.resolvedSearchPaths ++ c.resolvedLogDirectory.toList).foldlM takeInPath files

/-- Writes what stands in a tree and did not stand in an earlier one. -/
def putBack (earlier tree : FileTree) : IO Unit := do
  for (place, node) in tree.nodes do
    match node, earlier.node? place with
    | .directory, none => IO.FS.createDirAll (pathOf place)
    | .file bytes _, some (.file old _) =>
      if bytes ≠ old then IO.FS.writeBinFile (pathOf place) ⟨bytes.toArray⟩
    | .file bytes _, _ => IO.FS.writeBinFile (pathOf place) ⟨bytes.toArray⟩
    | .directory, some _ => pure ()

/-- The variables of the process that tell about the session. -/
def sessionVariables : List String :=
  ["SCRIPTHOST_ENGINE_VERSION", "SCRIPTHOST_HOST_VERSION", "SCRIPTHOST_SESSION", "SCRIPTHOST_CLONE"]

/-- A number that differs from run to run. -/
def randomNumber : IO Nat :=
  return (← IO.getRandomBytes 16).toList.foldl (fun n b => 256 * n + b.toNat) 0

/-- The world that the program begins in. -/
def world (files : FileTree) : IO World := do
  let process ← sessionVariables.filterMapM fun name =>
    return (← IO.getEnv name).map (Prod.mk name)
  return ⟨files, .empty, [], [], process, idText (← randomNumber) 0, ← randomNumber, 0⟩

/-- Shows an event to whoever looks after the program. -/
def showEvent (event : Event) : IO Unit :=
  let details := event.fields.map fun (name, text) => " " ++ name ++ "=" ++ text
  IO.eprintln
    (event.severity.name ++ " " ++ event.target ++ ": " ++ event.message ++ String.join details)

/-- Carries out the command that the arguments name and gives the exit code. -/
def program (arguments : List String) : IO UInt32 := do
  let current : Path := ⟨toString (← IO.currentDir)⟩
  let place := current.components.filterMap fun
    | .name s => some s
    | _ => none
  let tree ← takeInPath ⟨[], place⟩ ⟨"."⟩
  let invocation := Invocation.parse arguments
  let files ← match invocation with
    | .ok i => takeInFor tree i
    | .error _ => pure tree
  let (result, after) := (run arguments).run (← world files)
  putBack files after.files
  IO.print result.text
  if let .ok i := invocation then
    for event in after.told do
      if event.severity.reaches i.leastSeverity then showEvent event
  return result.exitCode.toUInt32

end HostedScripts.CommandLine

/-- The program. -/
def main (arguments : List String) : IO UInt32 := HostedScripts.CommandLine.program arguments
