/-!
# Long Integers

An integer of many digits is neither read from a decimal text nor written as one.
The limit does not hold for other bases, so there are integers that cannot be
written although they were read.

## Main definitions

* `maxDigits`: The most decimal digits of an integer in a text.
* `isLong`: Whether an integer has more.
-/

namespace Annals

/-- The most decimal digits that the text of an integer may have. -/
def maxDigits : Nat := 4300

/-- The wording for a decimal text with too many digits. -/
def longNumberMessage (digits : Nat) : String :=
  "Exceeds the limit (" ++ toString maxDigits ++
    " digits) for integer string conversion: value has " ++ toString digits ++
    " digits; use sys.set_int_max_str_digits() to increase the limit"

/-- The least natural number that has too many digits. -/
def leastLong : Nat := Nat.pow 10 maxDigits

/-- Whether an integer has too many digits to be written. -/
def isLong (n : Int) : Bool := leastLong ≤ n.natAbs

/-- The wording for an integer with too many digits to be written. -/
def longIntegerMessage : String :=
  "Exceeds the limit (" ++ toString maxDigits ++
    " digits) for integer string conversion; use sys.set_int_max_str_digits() to increase the limit"

/-- The wording for an integer that is too large for any double. -/
def largeIntegerMessage : String := "int too large to convert to float"

end Annals
