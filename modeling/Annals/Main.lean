import Annals.CommandLine.Run

/-!
# The Program

The command on the files of the machine: the files that the arguments name are read,
the command is run on them, and what it writes is written.

No releases are fetched here: every request fails as if there were no network.
-/

namespace Annals

namespace Program

/-- What is at a place, if it can be read. -/
partial def treeAt (place : String) : IO (Option FileTree) := do
  let path := (← IO.currentDir) / place
  if ← path.isDir then
    let entries ← path.readDir
    let inside ← entries.toList.filterMapM fun entry => do
      return (← treeAt entry.path.toString).map fun t => (entry.fileName, t)
    return some (.directory inside)
  else if ← path.pathExists then
    let bytes ← IO.FS.readBinFile path
    return some (.file bytes.toList)
  else return none

/-- The places that options name. -/
def placesOf (o : Options) : List Path :=
  o.root :: o.ignorePath.toList ++ o.schemaPath.toList ++ o.breakingChangesPath.toList

/-- The current directory with what is at the places that arguments name. -/
def fileSystem (arguments : List String) : IO FileSystem := do
  let current := (Path.parse (← IO.currentDir).toString).names
  let places := match Command.ofArguments arguments with
    | .ok (.lint o _ _) => placesOf o
    | _ => []
  let mut tree := FileTree.put (.directory []) current none
  for p in places do
    let place := (FileSystem.mk tree current).resolve p
    match ← treeAt place.text with
    | some found => tree := FileTree.put found place.names (some tree)
    | none => pure ()
  return ⟨tree, current⟩

/-- The variables of the environment that the command looks at. -/
def environment : IO Environment := do
  let names := [Environment.tokenName, Environment.testModeName]
  names.filterMapM fun name => do return (← IO.getEnv name).map fun value => (name, value)

end Program

end Annals

open Annals in
/-- The command. -/
def main (arguments : List String) : IO UInt32 := do
  let files ← Program.fileSystem arguments
  let settings ← Program.environment
  let ending := Command.execute files settings (fun _ => .broken "offline") arguments
  IO.print ending.written.out
  IO.eprint ending.written.err
  match ending.halt with
  | some h => IO.eprintln h.message
  | none => pure ()
  return ending.code.toUInt32
