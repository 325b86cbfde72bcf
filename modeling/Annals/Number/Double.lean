/-!
# Doubles

Binary floating-point numbers of double precision, held exactly: a finite
number is a sign, a whole mantissa and a power of two. The mantissa is odd or
zero, so every finite number but zero has one form, and comparing two numbers,
or a number with an integer of any size, is arithmetic on integers.

A result that is no double is rounded to the nearest one, and to the one with
an even mantissa of the two when it lies halfway.

A number that is not a number equals nothing, itself included; it carries a
mark by which a collection still finds the very same one.

## Main definitions

* `Double`: The numbers.
* `Double.ofRatio`: The double nearest to a fraction.
* `Double.ofDecimal`: The double nearest to a decimal number.
* `Extended`: Fractions with both infinities, on which numbers are compared.
-/

namespace Annals

/-- A double-precision number: `mantissa * 2 ^ exponent` with a sign, where the
    mantissa is odd or zero; an infinity; or a mark of no number. -/
inductive Double where
  | finite (negative : Bool) (mantissa : Nat) (exponent : Int)
  | infinite (negative : Bool)
  | nan (mark : Nat)
  deriving DecidableEq, Repr, Inhabited

/-- A fraction with a positive denominator, or beyond all of them. -/
inductive Extended where
  | below
  | ratio (num : Int) (den : Nat)
  | above
  deriving Repr

namespace Extended

/-- The order of two numbers. -/
def compare : Extended → Extended → Ordering
  | below, below => .eq
  | below, _ => .lt
  | _, below => .gt
  | above, above => .eq
  | above, _ => .gt
  | _, above => .lt
  | ratio a b, ratio c d => Ord.compare (a * d) (c * b)

end Extended

namespace Double

/-- Positive zero. -/
def zero : Double := .finite false 0 0

/-- `num / den` to the nearest whole number, a half to the even one. -/
def roundDiv (num den : Nat) : Nat :=
  let quotient := num / den
  let twice := 2 * (num % den)
  if twice < den then quotient
  else if den < twice then quotient + 1
  else if quotient % 2 == 0 then quotient else quotient + 1

/-- Moves factors of two from the mantissa into the exponent, at most `fuel`
    of them. -/
def reduceFor : (fuel : Nat) → Nat → Int → Nat × Int
  | 0, m, e => (m, e)
  | fuel + 1, m, e => if m % 2 == 0 then reduceFor fuel (m / 2) (e + 1) else (m, e)

/-- The finite number `mantissa * 2 ^ exponent` in its one form. -/
def ofParts (negative : Bool) (mantissa : Nat) (exponent : Int) : Double :=
  if mantissa == 0 then .finite negative 0 0
  else
    let (m, e) := reduceFor (mantissa.log2 + 1) mantissa exponent
    .finite negative m e

/-- Numerator and denominator of `num / den * 2 ^ (-e)`. -/
def scaledBy (num den : Nat) (e : Int) : Nat × Nat :=
  if 0 ≤ e then (num, den * Nat.pow 2 e.toNat) else (num * Nat.pow 2 (-e).toNat, den)

/-- The double nearest to `num / den`. The unit in the last place is chosen so
    that the mantissa has 53 bits, but never smaller than `2 ^ (-1074)`. -/
def ofRatio (negative : Bool) (num den : Nat) : Double :=
  if num == 0 then .finite negative 0 0
  else
    let guess : Int := (num.log2 : Int) - den.log2 - 52
    let (n, d) := scaledBy num den guess
    let unit := max (if n < d * Nat.pow 2 52 then guess - 1 else guess) (-1074)
    let (n, d) := scaledBy num den unit
    let mantissa := roundDiv n d
    if 1024 < (mantissa.log2 : Int) + 1 + unit then .infinite negative
    else ofParts negative mantissa unit

/-- The double nearest to `digits * 10 ^ exponent`. Exponents far outside the
    range of doubles are settled by size alone. -/
def ofDecimal (negative : Bool) (digits : Nat) (exponent : Int) : Double :=
  if digits == 0 then .finite negative 0 0
  else
    let size := exponent + (digits.log2 * 3 / 10 : Nat)
    if 400 < size then .infinite negative
    else if size + (digits.log2 / 250 : Nat) + 2 < -400 then .finite negative 0 0
    else if 0 ≤ exponent then ofRatio negative (digits * Nat.pow 10 exponent.toNat) 1
    else ofRatio negative digits (Nat.pow 10 (-exponent).toNat)

/-- The double nearest to an integer; too large an integer has none. -/
def ofInt? (n : Int) : Option Double :=
  match ofRatio (n < 0) n.natAbs 1 with
  | .infinite _ => none
  | x => some x

/-- The value of a finite number as a fraction. -/
def fraction (negative : Bool) (mantissa : Nat) (exponent : Int) : Int × Nat :=
  let n : Int := if 0 ≤ exponent then (mantissa * Nat.pow 2 exponent.toNat : Nat) else mantissa
  (if negative then -n else n, if 0 ≤ exponent then 1 else Nat.pow 2 (-exponent).toNat)

/-- Where a number stands in the order of numbers; a mark of no number has no
    place. -/
def extended? : Double → Option Extended
  | .finite negative m e => let (n, d) := fraction negative m e; some (.ratio n d)
  | .infinite negative => some (if negative then .below else .above)
  | .nan _ => none

/-- The number with its sign turned. -/
def neg : Double → Double
  | .finite negative m e => .finite (!negative) m e
  | .infinite negative => .infinite (!negative)
  | .nan mark => .nan mark

/-- The sum of two finite numbers, rounded; a sum of zero is positive unless
    both are negative zeros. -/
def add (x y : Double) : Double :=
  match x, y with
  | .finite s m e, .finite s' m' e' =>
    let (a, b) := fraction s m e
    let (c, d) := fraction s' m' e'
    let n := a * d + c * b
    if n == 0 then .finite (s && s') 0 0 else ofRatio (n < 0) n.natAbs (b * d)
  | .nan mark, _ => .nan mark
  | _, .nan mark => .nan mark
  | .infinite s, .infinite s' => if s == s' then .infinite s else .nan 2
  | .infinite s, _ => .infinite s
  | _, .infinite s => .infinite s

/-- A number times a natural number, rounded. -/
def mulNat (x : Double) (k : Nat) : Double :=
  match x with
  | .finite s m e =>
    if 0 ≤ e then ofRatio s (m * k * Nat.pow 2 e.toNat) 1
    else ofRatio s (m * k) (Nat.pow 2 (-e).toNat)
  | .infinite s => if k == 0 then .nan 2 else .infinite s
  | .nan mark => .nan mark

/-- Whether a number is below zero, or negative zero. -/
def isNegative : Double → Bool
  | .finite negative .. => negative
  | .infinite negative => negative
  | .nan _ => false

/-- A number divided by another, rounded; there is no quotient by zero. -/
def div? (x y : Double) : Option Double :=
  let negative := x.isNegative != y.isNegative
  match x, y with
  | _, .finite _ 0 _ => none
  | .nan mark, _ => some (.nan mark)
  | _, .nan mark => some (.nan mark)
  | .infinite _, .infinite _ => some (.nan 2)
  | .infinite _, _ => some (.infinite negative)
  | _, .infinite _ => some (.finite negative 0 0)
  | .finite _ m e, .finite _ n f =>
    let (a, b) := fraction false m e
    let (c, d) := fraction false n f
    some (ofRatio negative (a.natAbs * d) (b * c.natAbs))

/-- Whether a finite number has no fractional part. -/
def isWhole : Double → Bool
  | .finite _ _ e => 0 ≤ e
  | _ => false

/-- The whole part of a finite number, towards zero. -/
def truncate? : Double → Option Int
  | .finite negative m e => let (n, d) := fraction negative m e; some (n.tdiv d)
  | _ => none

end Double

end Annals
