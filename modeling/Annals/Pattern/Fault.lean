import Annals.Number.DigitLimit

/-!
# What Is Wrong with a Pattern

A text that is no pattern has a place at which this is found. The place is given by
its position, and also by its line and column if the text has several lines.

## Main definitions

* `Pattern.Fault`: Why a text is not read as a pattern.
* `Pattern.Fault.message`: The wording.
-/

namespace Annals

namespace Pattern

/-- Why a text is not read as a pattern: something is wrong at a position, or with the
    whole of it; a number of repetitions is too large, or has too many digits to be
    read; the whole is to hold ASCII only and all scripts; there are too many groups
    inside each other. -/
inductive Fault where
  | malformed (what : String) (position : Nat)
  | unfit (what : String)
  | largeCount
  | longCount (digits : Nat)
  | twoScripts
  | nested
  deriving DecidableEq, Repr

/-- A position in a text of several lines. -/
def lineAndColumn (text : List Char) (position : Nat) : String :=
  let before := text.take position
  let column := (before.reverse.takeWhile (· != '\n')).length + 1
  " (line " ++ toString (before.count '\n' + 1) ++ ", column " ++ toString column ++ ")"

/-- A position in a text. -/
def positionText (text : List Char) (position : Nat) : String :=
  " at position " ++ toString position ++
    if text.contains '\n' then lineAndColumn text position else ""

/-- The wording of a fault of a text. -/
def Fault.message (text : List Char) : Fault → String
  | malformed what position => what ++ positionText text position
  | unfit what => what
  | largeCount => "the repetition number is too large"
  | longCount digits => longNumberMessage digits
  | twoScripts => "ASCII and UNICODE flags are incompatible"
  | nested => "A pattern has too many groups inside each other"

end Pattern

end Annals
