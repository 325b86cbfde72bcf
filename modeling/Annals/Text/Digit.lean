import Annals.Text.Ranges

/-!
# Decimal Digits

The decimal digits of every script. They come in runs of ten in ascending
order, so a digit's value is its distance from the start of its range, modulo
ten.

## Main definitions

* `Text.digitValue?`: The value of a decimal digit.
* `Text.isDigit`: Whether a character is a decimal digit.
* `Text.ofDigits`: The number that a list of digits writes in a base.
-/

namespace Annals

namespace Text

/-- The code points of decimal digits, zero first in every run of ten. -/
def digitRanges : Ranges :=
  [(48, 57), (1632, 1641), (1776, 1785), (1984, 1993), (2406, 2415), (2534, 2543), (2662, 2671),
   (2790, 2799), (2918, 2927), (3046, 3055), (3174, 3183), (3302, 3311), (3430, 3439),
   (3558, 3567), (3664, 3673), (3792, 3801), (3872, 3881), (4160, 4169), (4240, 4249),
   (6112, 6121), (6160, 6169), (6470, 6479), (6608, 6617), (6784, 6793), (6800, 6809),
   (6992, 7001), (7088, 7097), (7232, 7241), (7248, 7257), (42528, 42537), (43216, 43225),
   (43264, 43273), (43472, 43481), (43504, 43513), (43600, 43609), (44016, 44025), (65296, 65305),
   (66720, 66729), (68912, 68921), (69734, 69743), (69872, 69881), (69942, 69951), (70096, 70105),
   (70384, 70393), (70736, 70745), (70864, 70873), (71248, 71257), (71360, 71369), (71472, 71481),
   (71904, 71913), (72016, 72025), (72784, 72793), (73040, 73049), (73120, 73129), (92768, 92777),
   (92864, 92873), (93008, 93017), (120782, 120831), (123200, 123209), (123632, 123641),
   (125264, 125273), (130032, 130041)]

/-- The value of a decimal digit of any script. -/
def digitValue? (c : Char) : Option Nat :=
  (digitRanges.find? c.toNat).map fun range => (c.toNat - range.1) % 10

/-- Whether `c` is a decimal digit of some script. -/
def isDigit (c : Char) : Bool := (digitValue? c).isSome

/-- Whether `c` is one of `0` to `9`. -/
def isAsciiDigit (c : Char) : Bool := '0' ≤ c && c ≤ '9'

/-- The value of a digit of base sixteen, either case. -/
def hexValue? (c : Char) : Option Nat :=
  if '0' ≤ c && c ≤ '9' then some (c.toNat - 48)
  else if 'a' ≤ c && c ≤ 'f' then some (c.toNat - 87)
  else if 'A' ≤ c && c ≤ 'F' then some (c.toNat - 55)
  else none

/-- Whether `c` is a digit of base sixteen. -/
def isHexDigit (c : Char) : Bool := (hexValue? c).isSome

/-- The number whose digits in `base` are `digits`, the most significant
    first. -/
def ofDigits (base : Nat) (digits : List Nat) : Nat :=
  digits.foldl (fun total digit => total * base + digit) 0

/-- The number that decimal digits of any script write; characters that are no
    digits count as zero. -/
def decimalValue (digits : List Char) : Nat :=
  ofDigits 10 (digits.map fun c => (digitValue? c).getD 0)

/-- The number that digits of base sixteen write. -/
def hexNumber (digits : List Char) : Nat :=
  ofDigits 16 (digits.map fun c => (hexValue? c).getD 0)

/-- The digit of base sixteen with value `n`, in lower case. -/
def hexDigit (n : Nat) : Char :=
  if n < 10 then Char.ofNat (48 + n) else Char.ofNat (87 + n)

/-- The last `width` digits of `n` in base sixteen, with leading zeros. -/
def toHex : (width : Nat) → (n : Nat) → List Char
  | 0, _ => []
  | width + 1, n => toHex width (n / 16) ++ [hexDigit (n % 16)]

end Text

end Annals
