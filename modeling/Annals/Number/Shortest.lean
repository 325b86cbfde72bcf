import Annals.Number.Double
import Annals.Text.Digit

/-!
# Shortest Decimal Text

A double is written with the fewest digits that read back as the same double,
and of the numbers with that many digits the one nearest to it. Every double
stands for an interval of reals, those that round to it; its ends belong to it
when the mantissa is even. For 1, 2, … 17 digits the two neighbours of the
number on the decimal grid of that many digits are tried, in exact arithmetic,
and the first grid with a neighbour in the interval gives the digits.

How digits and exponent become a text is a choice of the output: a record
holds it, and the value that describes this program's texts stands beside it.

## Main definitions

* `Double.shortest`: The digits, and the place of the decimal point.
* `DecimalStyle`: How digits become text.
* `Double.written`: The text of a number.
-/

namespace Annals

namespace Double

/-- The largest `t` with `10 ^ t * den ≤ num`, sought downwards from `t`. -/
def decadeFrom : (fuel : Nat) → (num den : Nat) → Int → Int
  | 0, _, _, t => t
  | fuel + 1, num, den, t =>
    let fits := if 0 ≤ t then Nat.pow 10 t.toNat * den ≤ num
      else den ≤ num * Nat.pow 10 (-t).toNat
    if fits then t else decadeFrom fuel num den (t - 1)

/-- The decimal exponent of the leading digit of `num / den`. -/
def decade (num den : Nat) : Int :=
  let bits : Int := (num.log2 : Int) - den.log2
  decadeFrom 4 num den (bits * 30103 / 100000 + 1)

/-- The grid point of `count` digits that reads back as the number `num / den`,
    whose interval is `(low / den, high / den)` with its ends if `closed`. All
    three are scaled by the same denominator. The exponent belongs to the last
    digit. -/
def onGrid? (num low high den : Nat) (closed : Bool) (top : Int) (count : Nat) :
    Option (Nat × Int) :=
  let unit : Int := top - count + 1
  let scale := fun n : Nat => if 0 ≤ unit then n else n * Nat.pow 10 (-unit).toNat
  let step := if 0 ≤ unit then den * Nat.pow 10 unit.toNat else den
  let down := scale num / step
  let inside := fun k : Nat =>
    if closed then scale low ≤ k * step && k * step ≤ scale high
    else scale low < k * step && k * step < scale high
  let up := down + 1
  -- If both neighbours read back, the nearer one is taken, and of two as near the even one.
  match inside down, inside up with
  | true, true =>
    let below := scale num - down * step
    let above := up * step - scale num
    some (if below < above || (below == above && down % 2 == 0) then down else up, unit)
  | true, false => some (down, unit)
  | false, true => some (up, unit)
  | false, false => none

/-- The first grid that has a point in the interval, from `count` digits on. -/
def firstGrid : (fuel count : Nat) → (num low high den : Nat) → Bool → Int → Nat × Int
  | 0, _, num, _, _, den, _, _ => (num / den, 0)
  | fuel + 1, count, num, low, high, den, closed, top =>
    match onGrid? num low high den closed top count with
    | some found => found
    | none => firstGrid fuel (count + 1) num low high den closed top

/-- The mantissa and exponent with 53 bits, or with the smallest exponent. -/
def normalized (mantissa : Nat) (exponent : Int) : Nat × Int :=
  let room : Int := min (52 - (mantissa.log2 : Int)) (exponent + 1074)
  if 0 < room then (mantissa * Nat.pow 2 room.toNat, exponent - room) else (mantissa, exponent)

/-- The fewest digits that read back as `mantissa * 2 ^ exponent`, and the
    exponent of the last of them. -/
def shortest (mantissa : Nat) (exponent : Int) : Nat × Int :=
  let (m, e) := normalized mantissa exponent
  -- a quarter unit is the scale on which the interval has whole ends
  let quarter := e - 2
  let den := if 0 ≤ quarter then 1 else Nat.pow 2 (-quarter).toNat
  let scale := fun n : Nat => if 0 ≤ quarter then n * Nat.pow 2 quarter.toNat else n
  let atBoundary := m == Nat.pow 2 52 && -1074 < e
  let num := scale (4 * m)
  let low := scale (if atBoundary then 4 * m - 1 else 4 * m - 2)
  let high := scale (4 * m + 2)
  firstGrid 17 1 num low high den (m % 2 == 0) (decade num den)

end Double

/-- How the digits of a number become a text. -/
structure DecimalStyle where
  /-- The least exponent of the leading digit that is written positionally. -/
  least : Int
  /-- The greatest exponent of the leading digit that is written positionally. -/
  greatest : Int
  /-- What follows a whole number. -/
  wholeTail : String
  /-- The mark before the exponent. -/
  mark : String
  /-- The least number of digits of the exponent. -/
  exponentDigits : Nat
  /-- The text of positive infinity. -/
  infinity : String
  /-- The text of a mark of no number. -/
  noNumber : String

namespace DecimalStyle

/-- Numbers from `0.0001` up to below `10 ^ 16` are written positionally, whole
    ones with `.0`; the exponent of all others is signed and has two digits or
    more. -/
def plain : DecimalStyle := ⟨-4, 15, ".0", "e", 2, "inf", "nan"⟩

/-- As `plain`, with the names that a JSON text uses for what is not finite. -/
def json : DecimalStyle := { plain with infinity := "Infinity", noNumber := "NaN" }

/-- The digits of a natural number, without the zeros at its end, and how many
    of these there were; at most `fuel` are taken off. -/
def stripZeros : (fuel : Nat) → Nat → Nat × Nat
  | 0, n => (n, 0)
  | fuel + 1, n =>
    if n % 10 == 0 && n != 0 then
      let (m, k) := stripZeros fuel (n / 10)
      (m, k + 1)
    else (n, 0)

/-- The text of the positive number `digits * 10 ^ exponent`. -/
def digitsText (style : DecimalStyle) (digits : Nat) (exponent : Int) : String :=
  let (digits, zeros) := stripZeros 20 digits
  let exponent := exponent + zeros
  let ds := (Nat.toDigits 10 digits)
  let lead : Int := exponent + ds.length - 1
  if style.least ≤ lead && lead ≤ style.greatest then
    if 0 ≤ exponent then
      String.ofList (ds ++ List.replicate exponent.toNat '0') ++ style.wholeTail
    else if 0 ≤ lead then
      let whole := lead.toNat + 1
      String.ofList (ds.take whole ++ '.' :: ds.drop whole)
    else
      "0." ++ String.ofList (List.replicate (-lead - 1).toNat '0' ++ ds)
  else
    let power := Nat.toDigits 10 lead.natAbs
    let padded := List.replicate (style.exponentDigits - power.length) '0' ++ power
    let fraction := if ds.length == 1 then [] else '.' :: ds.drop 1
    String.ofList (ds.take 1 ++ fraction) ++ style.mark ++ (if lead < 0 then "-" else "+") ++
      String.ofList padded

end DecimalStyle

namespace Double

/-- The text of a number. -/
def written (style : DecimalStyle) : Double → String
  | .nan _ => style.noNumber
  | .infinite negative => (if negative then "-" else "") ++ style.infinity
  | .finite negative m e =>
    let sign := if negative then "-" else ""
    if m == 0 then sign ++ "0" ++ style.wholeTail
    else
      let (digits, exponent) := shortest m e
      sign ++ style.digitsText digits exponent

end Double

end Annals
