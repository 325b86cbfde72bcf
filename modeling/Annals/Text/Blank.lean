import Annals.Text.Ranges

/-!
# Blank Characters

What counts as white space in a text, and what follows from it: trimming a
text at its ends and cutting it into words. There are 29 blank characters: the
tab and the line controls, the four information separators, the space, and the
spaces and line marks outside ASCII. The zero-width characters are not blank.

## Main definitions

* `Text.isBlank`: Whether a character is white space.
* `Text.trim`, `Text.trimStart`, `Text.trimEnd`: A text without blanks at its
  ends.
* `Text.words`: The runs of characters that are not blank.
* `Text.firstWord`: The first word and what follows the blanks after it.
-/

namespace Annals

namespace Text

/-- The code points of white space. -/
def blankRanges : Ranges :=
  [(9, 13), (28, 32), (133, 133), (160, 160), (5760, 5760), (8192, 8202), (8232, 8233),
   (8239, 8239), (8287, 8287), (12288, 12288)]

/-- Whether `c` is white space. -/
def isBlank (c : Char) : Bool := blankRanges.has c.toNat

/-- The text from its first character that is not blank. -/
def trimStart (cs : List Char) : List Char := cs.dropWhile isBlank

/-- The text up to its last character that satisfies `p` no longer. -/
def dropEndWhile (p : Char → Bool) (cs : List Char) : List Char :=
  (cs.reverse.dropWhile p).reverse

/-- The text up to its last character that is not blank. -/
def trimEnd (cs : List Char) : List Char := dropEndWhile isBlank cs

/-- The text without the blanks at either end. -/
def trim (cs : List Char) : List Char := trimEnd (trimStart cs)

/-- A text without the blanks at either end. -/
def trimmed (s : String) : String := String.ofList (trim s.toList)

/-- The runs of characters that are not blank, from a text whose current run,
    reversed, is `word`. -/
def wordsFrom (word : List Char) : List Char → List (List Char)
  | [] => if word.isEmpty then [] else [word.reverse]
  | c :: rest =>
    if isBlank c then
      if word.isEmpty then wordsFrom [] rest else word.reverse :: wordsFrom [] rest
    else wordsFrom (c :: word) rest

/-- The runs of characters that are not blank, in order. -/
def words (cs : List Char) : List (List Char) := wordsFrom [] cs

/-- The first word of a text, and the text from its second word on; both are
    empty for a blank text. -/
def firstWord (cs : List Char) : List Char × List Char :=
  let start := trimStart cs
  (start.takeWhile (!isBlank ·), trimStart (start.dropWhile (!isBlank ·)))

end Text

end Annals
