import Annals.Text.Emoji

/-!
# Marked Text

In a marked text a word in square brackets changes how the text after it looks, and a
name between colons stands for a picture. A bracket that is to be shown has an odd
number of backslashes before it; two backslashes before a mark stand for one. What
begins with neither a small letter nor one of three signs is no mark, and is shown as
it is.

## Main definitions

* `Markup.guarded`: A text as it is written so that no mark is in it.
* `Markup.shown`: A marked text as it is shown.
-/

namespace Annals

namespace Markup

/-- A mark at the start of a text, with its brackets. -/
def mark? : List Char → Option (List Char)
  | '[' :: c :: rest =>
    let inside := rest.takeWhile fun d => d != '[' && d != ']'
    if (('a' ≤ c && c ≤ 'z') || c == '#' || c == '/' || c == '@') &&
        (rest.drop inside.length).head? == some ']' then
      some ('[' :: c :: inside ++ [']'])
    else none
  | _ => none

/-- The backslashes before a mark at the start of a text, and the mark. -/
def guardedMark? (cs : List Char) : Option (Nat × List Char) :=
  let count := (cs.takeWhile (· == '\\')).length
  (mark? (cs.drop count)).map fun mark => (count, mark)

/-- So many backslashes. -/
def backslashes (count : Nat) : List Char := List.replicate count '\\'

/-- A text with backslashes before its marks, where the next `skipped` characters are
    done already. -/
def guardedFrom : (skipped : Nat) → List Char → List Char
  | _, [] => []
  | skipped + 1, _ :: rest => guardedFrom skipped rest
  | 0, c :: rest =>
    match guardedMark? (c :: rest) with
    | some (count, mark) =>
      backslashes (2 * count + 1) ++ mark ++ guardedFrom (count + mark.length - 1) rest
    | none => c :: guardedFrom 0 rest

/-- A text as it is written so that no mark is in it. A single backslash at its end is
    doubled, for a mark could follow. -/
def guarded (cs : List Char) : List Char :=
  let cs := guardedFrom 0 cs
  if cs.getLast? == some '\\' && cs.dropLast.getLast? != some '\\' then cs ++ ['\\'] else cs

/-- Plain text with a bracket in place of a backslash and a bracket. -/
def openBrackets : List Char → List Char
  | [] => []
  | c :: rest =>
    if c == '\\' && rest.head? == some '[' then openBrackets rest else c :: openBrackets rest

/-- Plain text as it is shown. -/
def plain (cs : List Char) : List Char := Text.withEmoji (openBrackets cs)

/-- A marked text as it is shown, after plain text in `before`, which is in reverse; the
    next `skipped` characters are shown already. -/
def shownFrom (before : List Char) : (skipped : Nat) → List Char → List Char
  | _, [] => plain before.reverse
  | skipped + 1, _ :: rest => shownFrom before skipped rest
  | 0, c :: rest =>
    match guardedMark? (c :: rest) with
    | some (count, mark) =>
      -- Two backslashes stand for one, and one that is left guards the mark.
      plain before.reverse ++ backslashes (count / 2) ++
        (if count % 2 == 1 then plain mark else []) ++
        shownFrom [] (count + mark.length - 1) rest
    | none => shownFrom (c :: before) 0 rest

/-- A marked text as it is shown. -/
def shown (s : String) : String := String.ofList (shownFrom [] 0 s.toList)

/-- A text within a mark and the mark that ends it. -/
def within (style text : String) : String := "[" ++ style ++ "]" ++ text ++ "[/" ++ style ++ "]"

/-- A text in which there are no marks. -/
def literal (s : String) : String := String.ofList (guarded s.toList)

end Markup

end Annals
