import Annals.Text.Digit

/-!
# Places in a YAML Text

A place is counted in characters, and in lines and columns for the reader. Five
characters and the pair of carriage return and line feed end a line; a byte order
mark takes no column. When a place is shown, the line around it is shown with it,
cut down to a window, and a caret under the place.

A text holds no null character, so a null character stands for its end.

## Main definitions

* `Yaml.Mark`: A place.
* `Yaml.Mark.shown`: A place with the line around it.
* `Yaml.Cursor`: A text and a place in it.
* `Yaml.Cursor.peek`, `Yaml.Cursor.next`: The character at the place, and the
  place after it.
-/

namespace Annals

namespace Yaml

/-- A place: the characters before it, the line, and the column. -/
structure Mark where
  index : Nat
  line : Nat
  column : Nat
  deriving DecidableEq, Repr, Inhabited

/-- The character that stands for the end of a text. -/
def endChar : Char := Char.ofNat 0

/-- Whether `c` ends a line. -/
def isBreak (c : Char) : Bool :=
  c == '\n' || c == '\r' || c.toNat == 0x85 || c.toNat == 0x2028 || c.toNat == 0x2029

/-- Whether `c` ends a line or the text. -/
def isLineEnd (c : Char) : Bool := c == endChar || isBreak c

/-- Whether `c` is a blank, or ends a line or the text. -/
def isWordEnd (c : Char) : Bool := c == ' ' || isLineEnd c

/-- Whether `c` is a blank or a tab, or ends a line or the text. -/
def isGap (c : Char) : Bool := c == '\t' || isWordEnd c

/-- Whether `c` may be in the name of an anchor or a directive. -/
def isNameChar (c : Char) : Bool :=
  Text.isAsciiDigit c || ('A' ≤ c && c ≤ 'Z') || ('a' ≤ c && c ≤ 'z') || c == '-' || c == '_'

namespace Mark

/-- How many characters of a line are shown on either side of a place. -/
def window : Nat := 37

/-- How many of these give way to the dots if the line goes on. -/
def dotted : Nat := 5

/-- The part of a line, running away from a place, that is shown there. -/
def side (line : List Char) : List Char × Bool :=
  let reach := line.take window
  if window ≤ reach.length then (reach.take (window - dotted), true) else (reach, false)

/-- A place with the line around it: `text` is the whole text. -/
def shown (m : Mark) (text : Array Char) : String :=
  let inLine := fun c => !isLineEnd c
  let (before, headDots) := side ((text.extract 0 m.index).toList.reverse.takeWhile inLine)
  let (after, tailDots) := side ((text.extract m.index text.size).toList.takeWhile inLine)
  let head := if headDots then " ... " else ""
  let tail := if tailDots then " ... " else ""
  let indent := 4 + head.length + before.length
  "  in \"<unicode string>\", line " ++ toString (m.line + 1) ++ ", column " ++
    toString (m.column + 1) ++ ":\n    " ++ head ++ String.ofList (before.reverse ++ after) ++ tail ++
    "\n" ++ String.ofList (List.replicate indent ' ') ++ "^"

end Mark

/-- A text and a place in it. -/
structure Cursor where
  text : Array Char
  mark : Mark
  deriving Inhabited

namespace Cursor

/-- The start of a text. -/
def start (text : List Char) : Cursor := ⟨text.toArray, ⟨0, 0, 0⟩⟩

/-- The column of the place. -/
def column (c : Cursor) : Int := c.mark.column

/-- The number of characters that are left. -/
def left (c : Cursor) : Nat := c.text.size - c.mark.index

/-- The character `ahead` places further on. -/
def peek (c : Cursor) (ahead : Nat := 0) : Char := c.text.getD (c.mark.index + ahead) endChar

/-- The place after the next character. A carriage return ends a line only if no
    line feed follows it. -/
def next (c : Cursor) : Cursor :=
  if c.mark.index < c.text.size then
    let char := c.peek
    let m := c.mark
    let ends := isBreak char && !(char == '\r' && c.peek 1 == '\n')
    let place : Mark :=
      if ends then ⟨m.index + 1, m.line + 1, 0⟩
      else if char.toNat == 0xFEFF then ⟨m.index + 1, m.line, m.column⟩
      else ⟨m.index + 1, m.line, m.column + 1⟩
    ⟨c.text, place⟩
  else c

theorem left_next (c : Cursor) (h : c.mark.index < c.text.size) : c.next.left < c.left := by
  unfold next left
  simp only [h, if_true]
  split
  · simp only
    omega
  · split <;> simp only <;> omega

/-- The place `count` characters further on. -/
def skip (c : Cursor) : (count : Nat) → Cursor
  | 0 => c
  | count + 1 => c.next.skip count

/-- The first place from here on whose character does not satisfy `p`. -/
def skipWhile (p : Char → Bool) (c : Cursor) : Cursor :=
  if _ : c.mark.index < c.text.size then if p c.peek then c.next.skipWhile p else c else c
termination_by c.left
decreasing_by exact left_next c ‹_›

/-- The text from here up to another place. -/
def upTo (c stop : Cursor) : List Char := (c.text.extract c.mark.index stop.mark.index).toList

/-- The text from here on that satisfies `p`, and the place after it. -/
def takeWhile (p : Char → Bool) (c : Cursor) : List Char × Cursor :=
  let stop := c.skipWhile p
  (c.upTo stop, stop)

/-- Whether the text goes on with `word`. -/
def goesOn (c : Cursor) (word : List Char) : Bool :=
  (c.text.extract c.mark.index (c.mark.index + word.length)).toList == word

/-- The end of a line, if there is one here: what it is read as, which is a line
    feed for most of them, and the place after it. -/
def lineEnd (c : Cursor) : List Char × Cursor :=
  let char := c.peek
  if char == '\r' && c.peek 1 == '\n' then (['\n'], c.skip 2)
  else if char == '\n' || char == '\r' || char.toNat == 0x85 then (['\n'], c.next)
  else if isBreak char then ([char], c.next)
  else ([], c)

/-- Whether a mark that separates documents stands here. -/
def atSeparator (c : Cursor) : Bool :=
  (c.goesOn ['-', '-', '-'] || c.goesOn ['.', '.', '.']) && isGap (c.peek 3)

end Cursor

end Yaml

end Annals
