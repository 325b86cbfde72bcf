import Annals.Files.Tree
import Annals.Files.Wildcard

/-!
# Globs

A glob selects paths below a directory, name by name: a name with wildcards selects
the entries of a directory whose names match, two stars select a directory and all
directories below it, and any other name selects what is there under this name.
All but the last name have to select directories.

## Main definitions

* `Glob.Part`: A name of a glob.
* `Glob.parse`: The names of a glob.
* `Glob.select`: The paths that a glob selects.
-/

namespace Annals

namespace Glob

/-- Why a text is no glob: it is empty, it starts at the root, it has no name, it
    is nothing but the directory itself, two stars are only a part of a name, a set
    of characters cannot be read, or a path that it names can be none. -/
inductive Fault where
  | empty
  | absolute
  | noName
  | onlyDirectory
  | stars
  | badSet
  | path (f : PathFault)
  deriving Repr

/-- The wording of a fault. -/
def Fault.message : Fault → String
  | empty => "Unacceptable pattern: ''"
  | absolute => "A pattern has to be relative"
  | noName => "A pattern has to name something"
  | onlyDirectory => "A pattern has to name more than the directory itself"
  | stars => "Invalid pattern: '**' can only be an entire path component"
  | badSet => "Invalid set of characters in a pattern"
  | path f => f.message

/-- A name of a glob: the directories below, entries that match, what is there
    under a name, or nothing more, where the path so far has to be a directory. -/
inductive Part where
  | below
  | wild (e : Pattern.Expr)
  | exact (name : String)
  | done

/-- A name of a glob. -/
def part (name : String) : Except Fault Part :=
  if name == "**" then .ok .below
  else if Text.contains ['*', '*'] name.toList then .error .stars
  else if Wildcard.isWild name then
    match Wildcard.name name with
    | some e => .ok (.wild e)
    | none => .error .badSet
  else .ok (.exact name)

/-- The names of a glob. A slash at its end asks for directories. -/
def parse (text : String) : Except Fault (List Part) := do
  if text.isEmpty then throw .empty
  let p := Path.parse text
  if p.isAbsolute then throw .absolute
  let parts ← p.names.mapM part
  let parts := if text.endsWith "/" then parts ++ [.done] else parts
  match parts with
  | [] => throw .noName
  | [.done] => throw .onlyDirectory
  | parts => return parts

/-- Whether a name matches a pattern as a whole. -/
def matchesName (e : Pattern.Expr) (name : String) : Bool :=
  let cs := name.toList.toArray
  (Pattern.run cs (e.bound cs.size) [.expr e] 0 []).isSome

/-- The number of directories inside each other. -/
def depth : FileTree → Nat
  | .file _ => 0
  | .directory entries => 1 + depthOf entries
where
  /-- The same for the deepest of several entries. -/
  depthOf : List (String × FileTree) → Nat
    | [] => 0
    | (_, t) :: rest => max (depth t) (depthOf rest)

/-- A directory and all directories below it. -/
def directoriesBelow (fs : FileSystem) : (fuel : Nat) → Path → List Path
  | 0, p => [p]
  | fuel + 1, p =>
    p :: (fs.entriesAt p).flatMap fun (name, t) =>
      if t.isDirectory then directoriesBelow fs fuel (p.child name) else []

/-- The paths that the names of a glob select from a path. -/
def selectFrom (fs : FileSystem) : List Part → Path → Except PathFault (List Path)
  | [], p => .ok [p]
  | .done :: _, p => .ok [p]
  | .below :: rest, p => do
    let found ← (directoriesBelow fs (depth fs.root) p).mapM (selectFrom fs rest)
    -- A path can be reached from several directories on the way, but counts once.
    return found.flatten.eraseDups
  | .wild e :: rest, p => do
    let hits := (fs.entriesAt p).filter fun (name, t) =>
      matchesName e name && (rest.isEmpty || t.isDirectory)
    return (← hits.mapM fun (name, _) => selectFrom fs rest (p.child name)).flatten
  | .exact name :: rest, p => do
    match ← fs.look (p.child name) with
    | some t => if rest.isEmpty || t.isDirectory then selectFrom fs rest (p.child name) else return []
    | none => return []

/-- The paths that a glob selects below a directory. -/
def select (fs : FileSystem) (directory : Path) (text : String) : Except Fault (List Path) := do
  let parts ← parse text
  if ← (fs.isDirectory directory).mapError .path then
    (selectFrom fs parts directory).mapError .path
  else return []

end Glob

end Annals
