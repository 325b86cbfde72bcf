import Annals.Lint.Check
import Annals.Text.Letter

/-!
# Checks of the Wording

Two checks look at the lines of a history as they are written. A line with a key and
a value may begin with the dash of a list. A value between quotes is safe; a value
without quotes should begin and end with a letter, a digit or a full stop, and a
description should not be without quotes at all.

## Main definitions

* `Wording.keyLine?`, `Wording.descriptionLine?`: The key and the value of a line.
* `Wording.isQuoted`: Whether a value stands between quotes.
* `Wording.stringIssues`, `Wording.descriptionIssues`: The issues of the two checks.
-/

namespace Annals

namespace Wording

/-- Whether a character can be in a key. -/
def isKeyChar (c : Char) : Bool := Text.isWordChar c || c == '-'

/-- A line from its key on: without blanks at its start, and without the dash of a list
    and the blanks after it. -/
def fromKey (line : List Char) : List Char :=
  match line.dropWhile Text.isBlank with
  | '-' :: c :: rest => if Text.isBlank c then rest.dropWhile Text.isBlank else '-' :: c :: rest
  | cs => cs

/-- Whether a character is a space or a tab. -/
def isGap (c : Char) : Bool := c == ' ' || c == '\t'

/-- The value after a key: a colon and spaces or tabs come before it, and it is not
    blank. -/
def valueAfter? : List Char → Option (List Char)
  | ':' :: c :: rest =>
    if isGap c then
      let value := rest.dropWhile isGap
      match value with
      | first :: _ => if Text.isBlank first then none else some value
      | [] => none
    else none
  | _ => none

/-- The key and the value of a line. -/
def keyLine? (line : List Char) : Option (List Char × List Char) :=
  let start := fromKey line
  let key := start.takeWhile isKeyChar
  if key.isEmpty then none
  else (valueAfter? (start.dropWhile isKeyChar)).map fun value => (key, Text.trim value)

/-- How the key of a description ends. -/
def descriptionEnd : List Char := "description".toList

/-- The key and the value of a line with a description. -/
def descriptionLine? (line : List Char) : Option (List Char × List Char) :=
  let start := fromKey line
  let key := start.takeWhile isKeyChar
  if descriptionEnd.isSuffixOf key then
    (valueAfter? (start.dropWhile isKeyChar)).map fun value => (key, Text.trim value)
  else none

/-- Whether a value stands between quotes of one kind. -/
def isQuoted (value : List Char) : Bool :=
  match value with
  | first :: rest =>
    (first == '\'' || first == '"') && rest.getLast? == some first
  | [] => false

/-- Whether a value without quotes can begin or end with a character. -/
def isSafeEdge (c : Char) : Bool := Text.isAlnum c || c == '.'

/-- Whether the characters at both ends of a value are safe. -/
def hasSafeEdges (value : List Char) : Bool :=
  value.head?.all isSafeEdge && value.getLast?.all isSafeEdge

/-- A key and its value as messages show them. -/
def shown (key value : List Char) : String := String.ofList key ++ ": " ++ String.ofList value

/-- The issue of a value that should be between quotes. -/
def unsafeString (e : Entry) (key value : List Char) : Issue :=
  e.issue .warning .unsafeString
    ("Possible string with special characters at its boundaries: " ++ shown key value)
    (some "Unquoted special characters can break YAML parsing, wrap the value in quotes")

/-- The issue of a description that is not between quotes. -/
def unquotedDescription (e : Entry) (key value : List Char) : Issue :=
  e.issue .error .unquotedDescription
    ("Description must be wrapped in quotes: " ++ shown key value)
    (some "Wrap the description in double quotes, e.g. description: \"...\"")

/-- The issues of values without quotes and with unsafe ends. -/
def stringIssues (e : Entry) : List Issue :=
  (Text.lines e.block.yaml.toList).filterMap fun line =>
    match keyLine? line with
    | some (key, value) =>
      if isQuoted value || hasSafeEdges value then none else some (unsafeString e key value)
    | none => none

/-- The issues of descriptions without quotes. -/
def descriptionIssues (e : Entry) : List Issue :=
  (Text.lines e.block.yaml.toList).filterMap fun line =>
    match descriptionLine? line with
    | some (key, value) => if isQuoted value then none else some (unquotedDescription e key value)
    | none => none

end Wording

namespace Check

/-- The check for values that should be between quotes. -/
def strings {σ : Type} : Check σ := .pure "check_strings" fun e => .ok (Wording.stringIssues e)

/-- The check for descriptions that should be between quotes. -/
def descriptions {σ : Type} : Check σ :=
  .pure "check_descriptions" fun e => .ok (Wording.descriptionIssues e)

end Check

end Annals
