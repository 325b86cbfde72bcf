import Annals.Number.Double
import Annals.Text.Blank
import Annals.Text.Digit

/-!
# Written Numbers

Numbers as they may stand in a text by themselves: with blanks around them, a
sign, and digits of any script.

## Main definitions

* `Notation.integer?`: The integer that a text writes in a base.
* `Notation.double?`: The double that a text writes.
-/

namespace Annals

namespace Notation

/-- Whether `c` may stand around a number. The separators of information may not,
    although they are blank. -/
def isAround (c : Char) : Bool := Text.isBlank c && !(28 ≤ c.toNat && c.toNat ≤ 31)

/-- A text without what may stand around a number. -/
def trim (cs : List Char) : List Char := Text.dropEndWhile isAround (cs.dropWhile isAround)

/-- A sign at the start of a text, and the text behind it. -/
def sign : List Char → Bool × List Char
  | '-' :: rest => (true, rest)
  | '+' :: rest => (false, rest)
  | cs => (false, cs)

/-- The value of a digit in bases up to 16. -/
def digit? (base : Nat) (c : Char) : Option Nat :=
  match Text.digitValue? c <|> Text.hexValue? c with
  | some n => if n < base then some n else none
  | none => none

/-- The letter that may stand behind a zero in front of a number in a base. -/
def letter? (base : Nat) : Option Char :=
  if base == 2 then some 'b' else if base == 8 then some 'o' else if base == 16 then some 'x' else none

/-- A number without the zero and the letter of its base, if they are there. -/
def withoutLetter (base : Nat) (cs : List Char) : List Char :=
  match cs with
  | '0' :: c :: rest => if letter? base == some c.toLower then rest else cs
  | _ => cs

/-- The natural number that digits write in a base. -/
def digits? (base : Nat) (cs : List Char) : Option Nat :=
  if cs.isEmpty then none else (cs.mapM (digit? base)).map (Text.ofDigits base)

/-- The integer that a text writes in a base. -/
def integer? (base : Nat) (cs : List Char) : Option Int :=
  let (negative, body) := sign (trim cs)
  (digits? base (withoutLetter base body)).map fun n => if negative then -(n : Int) else n

/-- Digits without the low lines between them; each has a digit on both sides. -/
def ungrouped? : List Char → Option (List Char)
  | [] => some []
  | ['_'] => none
  | c :: '_' :: d :: rest => if d == '_' then none else (ungrouped? (d :: rest)).map (c :: ·)
  | c :: rest => if c == '_' then none else (ungrouped? rest).map (c :: ·)

/-- The integer that a text writes in decimal digits, which low lines may group. -/
def grouped? (cs : List Char) : Option Int := do
  let (negative, body) := sign (trim cs)
  let n ← digits? 10 (← ungrouped? body)
  return if negative then -(n : Int) else n

/-- The number of decimal digits in the text of an integer. -/
def digitCount (cs : List Char) : Nat := cs.countP Text.isDigit

/-- The integer that digits after a sign write. -/
def exponent? (cs : List Char) : Option Int :=
  let (negative, body) := sign cs
  (digits? 10 body).map fun n => if negative then -(n : Int) else n

/-- The double that digits write, with a point and an exponent or without. -/
def decimal? (negative : Bool) (cs : List Char) : Option Double := do
  let whole := cs.takeWhile Text.isDigit
  let rest := cs.drop whole.length
  let fraction := match rest with
    | '.' :: rest => rest.takeWhile Text.isDigit
    | _ => []
  let rest := match rest with
    | '.' :: rest => rest.drop fraction.length
    | rest => rest
  let exponent ← match rest with
    | [] => some 0
    | c :: rest => if c == 'e' || c == 'E' then exponent? rest else none
  let digits ← digits? 10 (whole ++ fraction)
  return .ofDecimal negative digits (exponent - fraction.length)

/-- The names of infinity. -/
def infinityNames : List (List Char) := ["inf".toList, "infinity".toList]

/-- The double that a text writes. A mark of no number is written with the mark
    `nan`. -/
def double? (nan : Nat) (cs : List Char) : Option Double :=
  let (negative, body) := sign (trim cs)
  let small := body.map Char.toLower
  if infinityNames.contains small then some (.infinite negative)
  else if small == "nan".toList then some (.nan nan)
  else decimal? negative body

end Notation

end Annals
