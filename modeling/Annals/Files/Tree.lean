import Annals.Files.Path
import Annals.Text.Quoted

/-!
# File Trees

Files hold bytes, directories hold files and directories under names. A file
system is a tree with a current directory, from which relative paths start. Two
dots lead from a directory to the one it is in; the root is in itself.

## Main definitions

* `FileTree`: Files and directories.
* `FileTree.put`: A tree with something put at a place.
* `FileSystem`: A tree with a current directory.
* `FileSystem.find`: What is at a path.
* `FileSystem.read`: The text of a file.
-/

namespace Annals

/-- A file with its bytes, or a directory with its entries. -/
inductive FileTree where
  | file (bytes : List UInt8)
  | directory (entries : List (String × FileTree))
  deriving Inhabited

namespace FileTree

/-- Whether there is a directory. -/
def isDirectory : FileTree → Bool
  | directory _ => true
  | file _ => false

/-- The entries of a directory. -/
def entries : FileTree → List (String × FileTree)
  | directory es => es
  | file _ => []

/-- The entries of a directory with one of them changed, or added at the end. -/
def change (name : String) (f : Option FileTree → FileTree) :
    List (String × FileTree) → List (String × FileTree)
  | [] => [(name, f none)]
  | (other, t) :: rest =>
    if other == name then (other, f (some t)) :: rest else (other, t) :: change name f rest

/-- Something put in the place of what is there. A directory that is there keeps its
    other entries if the new one is a directory too. -/
def placed : FileTree → Option FileTree → FileTree
  | directory es, some (directory old) =>
    directory (old.filter (fun (name, _) => (es.lookup name).isNone) ++ es)
  | new, _ => new

/-- The tree with a file or directory put at a place. Directories on the way that are
    missing are made. -/
def put (new : FileTree) : List String → Option FileTree → FileTree
  | [], there => placed new there
  | name :: rest, some (directory es) => directory (change name (put new rest) es)
  | name :: rest, _ => directory [(name, put new rest none)]

end FileTree

/-- A tree and the names that lead from its root to the current directory. -/
structure FileSystem where
  root : FileTree
  current : List String

/-- What is wrong with a path itself, whatever the files are: a name in it, or all of
    it, is longer than names and paths can be; or it has the null character. -/
inductive PathFault where
  | tooLong (path : Path)
  | nullCharacter
  deriving Repr

/-- The wording of a fault. -/
def PathFault.message : PathFault → String
  | tooLong p => "[Errno 36] File name too long: " ++ Text.quoted p.text
  | nullCharacter => "embedded null byte"

/-- Why a file cannot be read. -/
inductive ReadFault where
  | missing
  | notDirectory
  | isDirectory
  | tooLong
  | undecodable (f : Utf8.Fault)
  deriving Repr

/-- The wording of a fault for the file that is called `name`. -/
def ReadFault.message (name : String) : ReadFault → String
  | missing => "[Errno 2] No such file or directory: " ++ name
  | notDirectory => "[Errno 20] Not a directory: " ++ name
  | isDirectory => "[Errno 21] Is a directory: " ++ name
  | tooLong => "[Errno 36] File name too long: " ++ name
  | undecodable f => f.message

namespace Path

/-- The bytes of a name can be this many. -/
def maxName : Nat := 255

/-- The bytes of a path can be this many. -/
def maxLength : Nat := 4095

/-- Whether a path has the null character. -/
def hasNull (p : Path) : Bool := p.names.any fun n => n.toList.contains '\x00'

end Path

namespace FileSystem

/-- What names lead to from a directory; `around` are the directories that it is
    in, the nearest first. -/
def walk (around : List FileTree) (here : FileTree) : List String → Except ReadFault FileTree
  | [] => .ok here
  | name :: rest =>
    match here with
    | .file _ => .error .notDirectory
    | .directory entries =>
      if name == ".." then
        -- Above the root there is the root.
        match around with
        | [] => walk [] here rest
        | parent :: outer => walk outer parent rest
      else if Path.maxName < name.utf8ByteSize then .error .tooLong
      else match entries.lookup name with
        | none => .error .missing
        | some next => walk (here :: around) next rest

/-- A path from the root. -/
def absolute (fs : FileSystem) (p : Path) : Path := (Path.mk "/" fs.current).join p

/-- What is at a path. -/
def find (fs : FileSystem) (p : Path) : Except ReadFault FileTree :=
  if Path.maxLength < p.text.utf8ByteSize then .error .tooLong
  else walk [] fs.root (fs.absolute p).names

/-- What is at a path, if anything. -/
def look (fs : FileSystem) (p : Path) : Except PathFault (Option FileTree) :=
  match fs.find p with
  | .ok t => .ok (some t)
  | .error .tooLong => .error (.tooLong p)
  | .error _ => .ok none

/-- Whether there is a directory at a path. -/
def isDirectory (fs : FileSystem) (p : Path) : Except PathFault Bool :=
  (fs.look p).map fun there => there.any FileTree.isDirectory

/-- Whether there is a file at a path. -/
def isFile (fs : FileSystem) (p : Path) : Bool :=
  match fs.find p with
  | .ok t => !t.isDirectory
  | .error _ => false

/-- The entries of the directory at a path. -/
def entriesAt (fs : FileSystem) (p : Path) : List (String × FileTree) :=
  match fs.find p with
  | .ok t => t.entries
  | .error _ => []

/-- The place that a path means. -/
def resolve (fs : FileSystem) (p : Path) : Path := (fs.absolute p).withoutDots

/-- The text of a file, with every line end written as a line feed. -/
def read (fs : FileSystem) (p : Path) : Except ReadFault String := do
  match ← fs.find p with
  | .directory _ => .error .isDirectory
  | .file bytes =>
    match Utf8.decode (bytes.map UInt8.toNat) with
    | .ok cs => return String.ofList (Text.joinLineEnds cs)
    | .error f => .error (.undecodable f)

end FileSystem

end Annals
