/-!
# Surrogate Halves

A character outside the first plane can be written as two numbers, the halves of a
surrogate pair, each in a range where there are no characters. Numbers of characters
and of halves are read together: two halves that belong together are one character,
and a half on its own becomes the replacement character.

## Main definitions

* `Text.joinHalves`: The characters that numbers stand for.
-/

namespace Annals

namespace Text

/-- Whether a number is the first half of a pair. -/
def isFirstHalf (n : Nat) : Bool := 0xD800 ≤ n && n < 0xDC00

/-- Whether a number is the second half of a pair. -/
def isSecondHalf (n : Nat) : Bool := 0xDC00 ≤ n && n < 0xE000

/-- The character with a number, where a half on its own is replaced. -/
def charOrReplacement (n : Nat) : Char :=
  if isFirstHalf n || isSecondHalf n then Char.ofNat 0xFFFD else Char.ofNat n

/-- The characters that numbers of characters and of halves stand for. -/
def joinHalves : List Nat → List Char
  | [] => []
  | [n] => [charOrReplacement n]
  | n :: m :: rest =>
    if isFirstHalf n && isSecondHalf m then
      Char.ofNat (0x10000 + (n - 0xD800) * 0x400 + (m - 0xDC00)) :: joinHalves rest
    else charOrReplacement n :: joinHalves (m :: rest)

end Text

end Annals
