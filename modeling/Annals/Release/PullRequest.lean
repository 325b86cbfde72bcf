import Annals.Number.DigitLimit
import Annals.Text.Blank
import Annals.Text.Digit
import Annals.Text.Letter
import Annals.Text.Line

/-!
# Pull Requests

A pull request has a number. It is the last part of the address of the pull
request, and texts refer to it by this number. The digits can be those of any
script; only so many of them are read.

## Main definitions

* `LongNumber`: A number that has more digits than are read.
* `PullRequest.ofUrl`: The number in an address.
* `PullRequest.mentionedDigits`: The numbers to which a text refers, as digits.
-/

namespace Annals

/-- A number that has more digits than are read. -/
structure LongNumber where
  digits : Nat
  deriving DecidableEq, Repr

/-- The wording for a number that has too many digits. -/
def LongNumber.message (n : LongNumber) : String := longNumberMessage n.digits

namespace PullRequest

/-- The number that digits make. -/
def number (digits : List Char) : Except LongNumber Nat :=
  if digits.length ≤ maxDigits then .ok (Text.decimalValue digits) else .error ⟨digits.length⟩

/-- A text without a slash at its end. -/
def withoutSlash (cs : List Char) : List Char :=
  if cs.getLast? == some '/' then cs.dropLast else cs

/-- The digits at the end of an address, if nothing but a slash stands between them and
    the rest. Blanks around the address do not count, nor does one slash after the
    digits. -/
def digitsOfUrl? (url : String) : Option (List Char) :=
  let reversed := (withoutSlash (Text.trim url.toList)).reverse
  let digits := (reversed.takeWhile Text.isDigit).reverse
  let before := reversed.dropWhile Text.isDigit
  if !digits.isEmpty && before.head? == some '/' then some digits else none

/-- The number of the pull request at an address. -/
def ofUrl (url : String) : Except LongNumber (Option Nat) :=
  match digitsOfUrl? url with
  | some digits => (number digits).map some
  | none => .ok none

/-- The digits of the reference with which a text begins. No part of a word may follow
    them. -/
def mention? (cs : List Char) : Option (List Char) :=
  match (Text.after? "/pull/".toList cs).or (Text.after? ['#'] cs) with
  | none => none
  | some rest =>
    let digits := rest.takeWhile Text.isDigit
    if digits.isEmpty || (rest.dropWhile Text.isDigit).head?.any Text.isWordChar then none
    else some digits

/-- The digits of all references in a text. -/
def mentionedDigits : List Char → List (List Char)
  | [] => []
  | c :: rest => (mention? (c :: rest)).toList ++ mentionedDigits rest


end PullRequest

end Annals
