import Annals.Text.Blank
import Annals.Text.Line
import Annals.Text.Utf8
import Annals.Text.Digit

/-!
# Paths

A path leads from the root of a file tree or from a current directory through
names. Empty names and single dots are dropped when a path is read; two dots are
kept, since what they mean depends on what is there.

## Main definitions

* `Path`: A path.
* `Path.parse`, `Path.text`: Between paths and their texts.
* `Path.join`: A path from where another one leads.
* `Path.withoutDots`: The place that a path means if nothing stands in the way.
* `Path.uri`: The address of a file.
-/

namespace Annals

/-- A path: what stands before its names, which is empty for a relative path, and
    its names. -/
structure Path where
  root : String
  names : List String
  deriving DecidableEq, Repr, Inhabited

namespace Path

/-- The names in a text. -/
def namesOf (cs : List Char) : List String :=
  ((Text.splitOn '/' cs).map String.ofList).filter fun n => !n.isEmpty && n != "."

/-- The path that a text means. Exactly two slashes at the start are kept. -/
def parse (text : String) : Path :=
  match text.toList with
  | '/' :: '/' :: '/' :: rest => ⟨"/", namesOf rest⟩
  | '/' :: '/' :: rest => ⟨"//", namesOf rest⟩
  | '/' :: rest => ⟨"/", namesOf rest⟩
  | cs => ⟨"", namesOf cs⟩

/-- Whether a path starts at the root. -/
def isAbsolute (p : Path) : Bool := !p.root.isEmpty

/-- The text of a path; a dot for the current directory. -/
def text (p : Path) : String :=
  if p.root.isEmpty && p.names.isEmpty then "." else p.root ++ "/".intercalate p.names

/-- A path from where another one leads. -/
def join (p q : Path) : Path := if q.isAbsolute then q else { p with names := p.names ++ q.names }

/-- One more name. -/
def child (p : Path) (name : String) : Path := { p with names := p.names ++ [name] }

/-- Names with each two dots and the name before them taken away. -/
def withoutDotsFrom (before : List String) : List String → List String
  | [] => before.reverse
  | name :: rest =>
    if name == ".." then withoutDotsFrom (before.drop 1) rest
    else withoutDotsFrom (name :: before) rest

/-- The place that an absolute path means. -/
def withoutDots (p : Path) : Path := { p with names := withoutDotsFrom [] p.names }

/-- What follows one path in another, which begins with it. -/
def relativeTo? (p base : Path) : Option Path :=
  if p.root == base.root && base.names.isPrefixOf p.names then
    some ⟨"", p.names.drop base.names.length⟩
  else none

/-- The ending of the last name: from its last dot on, unless the dot is the first
    or the last character. -/
def suffix (p : Path) : String :=
  match p.names.getLast? with
  | none => ""
  | some name =>
    let after := (name.toList.reverse.takeWhile (· != '.')).reverse
    let before := name.length - after.length
    if before ≤ 1 || after.isEmpty then "" else String.ofList ('.' :: after)

/-- Whether a character stands for itself in the address of a file. -/
def isPlain (c : Char) : Bool :=
  c.isAlphanum || c == '_' || c == '.' || c == '-' || c == '~' || c == '/'

/-- A text as part of an address: every byte of a character that does not stand for
    itself as a percent sign and two digits. -/
def quotedPath (s : String) : String :=
  String.ofList (s.toList.flatMap fun c =>
    if isPlain c then [c]
    else (Utf8.encodeChar c).flatMap fun b => '%' :: (Text.toHex 2 b).map Char.toUpper)

/-- The address of a file. -/
def uri (p : Path) : String := "file://" ++ quotedPath p.text

/-- Whether names are in order, the shorter list first. -/
def namesLe : List String → List String → Bool
  | [], _ => true
  | _ :: _, [] => false
  | a :: rest, b :: others => if a == b then namesLe rest others else a < b

/-- Whether one path is not after another: paths are ordered name by name. -/
def le (p q : Path) : Bool := if p.root == q.root then namesLe p.names q.names else p.root < q.root

end Path

end Annals
