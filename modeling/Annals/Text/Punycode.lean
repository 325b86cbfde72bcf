import Annals.Text.Digit

/-!
# Punycode

A label of a host name can hold characters outside ASCII although the name is
written in ASCII only. The ASCII characters of the label come first, up to the
last hyphen. What follows are numbers, each of which says at which place which
character is put in: code points go up, so that a number counts how many places
are passed over from the last character on. The digits of a number are letters
and decimal digits with values up to 35; a digit below a threshold is the last
one. The thresholds follow the size of the numbers that were read before.

## Main definitions

* `Punycode.Draft`: A label that is read in part.
* `Punycode.Draft.step?`: The draft after one more digit.
* `Punycode.decode?`: The label that a text spells out.
-/

namespace Annals

namespace Punycode

/-- A label that is read in part: its characters, the last code point that was
    put in, the first place for the next one, and the bias of the thresholds. Of
    the number that is read now, the value so far, what the next digit counts,
    and how many digits there were. -/
structure Draft where
  chars : List Char
  code : Nat
  place : Nat
  bias : Nat
  isFirst : Bool
  value : Nat
  weight : Nat
  digits : Nat

/-- A label of which the ASCII characters are known. -/
def Draft.start (chars : List Char) : Draft := ⟨chars, 128, 0, 72, true, 0, 1, 0⟩

/-- The value of a digit. -/
def digit? (c : Char) : Option Nat :=
  if 'a' ≤ c && c ≤ 'z' then some (c.toNat - 97)
  else if 'A' ≤ c && c ≤ 'Z' then some (c.toNat - 65)
  else if '0' ≤ c && c ≤ '9' then some (c.toNat - 22)
  else none

/-- The value below which the digit after `digits` others is the last one. -/
def threshold (digits bias : Nat) : Nat := max 1 (min 26 (36 * (digits + 1) - bias))

/-- A number brought down to 455 by divisions by 35, and 36 for each of them. -/
def scaled (n : Nat) : Nat × Nat :=
  if 455 < n then
    let (small, count) := scaled (n / 35)
    (small, count + 36)
  else (n, 0)
termination_by n
decreasing_by exact Nat.div_lt_self (by omega) (by omega)

/-- The bias after a number, in a label of `size` characters. -/
def biasAfter (value size : Nat) (isFirst : Bool) : Nat :=
  let half := if isFirst then value / 700 else value / 2
  let (small, count) := scaled (half + half / size)
  count + 36 * small / (small + 38)

/-- The draft with the character put in that a whole number stands for. There is
    no character beyond the last code point. -/
def Draft.put? (d : Draft) (value : Nat) : Option Draft :=
  let size := d.chars.length + 1
  let code := d.code + (d.place + value) / size
  let place := (d.place + value) % size
  if 0x10FFFF < code then none
  else
    let chars := d.chars.take place ++ Char.ofNat code :: d.chars.drop place
    some ⟨chars, code, place + 1, biasAfter value size d.isFirst, false, 0, 1, 0⟩

/-- The draft after one more digit. -/
def Draft.step? (d : Draft) (c : Char) : Option Draft := do
  let digit ← digit? c
  let value := d.value + digit * d.weight
  let last := threshold d.digits d.bias
  if digit < last then d.put? value
  else
    some { d with value := value, weight := d.weight * (36 - last), digits := d.digits + 1 }

/-- The label that the digits after its ASCII characters spell out. The last
    number must be whole. -/
def Draft.read? (d : Draft) : List Char → Option (List Char)
  | [] => if d.digits == 0 then some d.chars else none
  | c :: rest => (d.step? c).bind fun next => next.read? rest

/-- The label that an ASCII text spells out. -/
def decode? (cs : List Char) : Option (List Char) :=
  if cs.any (128 ≤ ·.toNat) then none
  else
    let digits := (cs.reverse.takeWhile (· != '-')).reverse
    (Draft.start (cs.take (cs.length - digits.length - 1))).read? digits

end Punycode

end Annals
