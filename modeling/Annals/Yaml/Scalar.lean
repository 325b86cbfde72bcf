import Annals.Number.DigitLimit
import Annals.Number.Notation
import Annals.Text.Base64
import Annals.Text.Case
import Annals.Text.Line
import Annals.Text.Quoted
import Annals.Value.Display
import Annals.Yaml.Fault
import Annals.Yaml.Tag

/-!
# Values of Scalars

What the text of a scalar means under each tag. A plain scalar has the form that
its tag asks for, but it may still mean nothing: a day that does not exist, or a
number too long to be read. Under a tag that is written, a scalar may have any
text.

## Main definitions

* `Yaml.boolOf`, `Yaml.intOf`, `Yaml.floatOf`, `Yaml.bytesOf`, `Yaml.momentOf`: The
  value of a text.
-/

namespace Annals

namespace Yaml

/-- A text that does not mean a value of its kind. -/
def refuse {α : Type} (message : String) : Except Fault α := .error (.defect (.value message))

/-- A truth value, by its name in any case. -/
def boolOf (text : String) : Except Fault Value :=
  match boolNames.lookup (Text.lowered text) with
  | some b => .ok (.bool b)
  | none => .error (.defect .name)

/-- A text without the marks that make a number easier to read, and without its
    sign. -/
def magnitude (text : String) : Except Fault (Bool × List Char) :=
  match text.toList.filter (· != '_') with
  | [] => .error (.defect .empty)
  | c :: rest => .ok (c == '-', if c == '-' || c == '+' then rest else c :: rest)

/-- The longest part of a text that is shown where it is no integer. -/
def shownDigits : Nat := 200

/-- The integer that digits write in a base. -/
def digitsOf (base : Nat) (cs : List Char) : Except Fault Int :=
  let count := ((Notation.sign (Notation.trim cs)).2.takeWhile Text.isDigit).length
  if base == 10 && maxDigits < count then refuse (longNumberMessage count)
  else
    match Notation.integer? base cs with
    | some n => .ok n
    | none =>
      let shown := (Text.quoted (String.ofList cs)).toList.take shownDigits
      refuse ("invalid literal for int() with base " ++ toString base ++ ": " ++ String.ofList shown)

/-- The value of parts in base sixty. -/
def sixtieths (parts : List Int) : Int := parts.foldl (fun total part => total * 60 + part) 0

/-- An integer. -/
def intOf (text : String) : Except Fault Value := do
  let (negative, cs) ← magnitude text
  let n ← match cs with
    | [] => throw (.defect .empty)
    | ['0'] => pure 0
    | '0' :: 'b' :: rest => digitsOf 2 rest
    | '0' :: 'x' :: rest => digitsOf 16 rest
    | '0' :: _ => digitsOf 8 cs
    | _ =>
      if cs.contains ':' then sixtieths <$> (Text.splitOn ':' cs).mapM (digitsOf 10)
      else digitsOf 10 cs
  return .int (if negative then -n else n)

/-- The mark of the one value for no number. -/
def nanMark : Nat := 0

/-- The double that a text writes. -/
def doubleOf (own : Nat) (cs : List Char) : Except Fault Double :=
  match Notation.double? own cs with
  | some x => .ok x
  | none => refuse ("could not convert string to float: " ++ Text.quoted (String.ofList cs))

/-- The value of parts in base sixty, the last one first, with the weight of the
    next. A weight that is no double has no use. -/
def sixtiethsFrom (weight : Nat) (total : Double) : List Double → Except Fault Double
  | [] => .ok total
  | part :: rest =>
    if (Double.ofInt? weight).isNone then .error (.defect (.range largeIntegerMessage))
    else sixtiethsFrom (weight * 60) (total.add (part.mulNat weight)) rest

/-- A floating-point number. A mark of no number that is not written in the common
    way is a new one, `own`. -/
def floatOf (own : Nat) (text : String) : Except Fault Value := do
  let (negative, cs) ← magnitude (Text.lowered text)
  let x ←
    if cs == ".inf".toList then pure (Double.infinite false)
    else if cs == ".nan".toList then return .float (.nan nanMark)
    else if cs.contains ':' then
      let parts ← (Text.splitOn ':' cs).mapM (doubleOf own)
      sixtiethsFrom 1 .zero parts.reverse
    else doubleOf own cs
  return .float (match if negative then x.neg else x with
    | .nan _ => .nan own
    | x => x)

/-- A place or a range of places. -/
def places (first count : Nat) : String :=
  if count == 1 then toString first else toString first ++ "-" ++ toString (first + count - 1)

/-- Why a text is no ASCII, if it is not. -/
def asciiFault? (cs : List Char) : Option String :=
  let isAscii := fun c : Char => c.toNat < 128
  let before := cs.takeWhile isAscii
  match cs.drop before.length with
  | [] => none
  | c :: rest =>
    let count := 1 + (rest.takeWhile (!isAscii ·)).length
    let code := c.toNat
    let shown :=
      if code < 256 then '\\' :: 'x' :: Text.toHex 2 code
      else if code < 65536 then '\\' :: 'u' :: Text.toHex 4 code
      else '\\' :: 'U' :: Text.toHex 8 code
    let what := if count == 1 then "character '" ++ String.ofList shown ++ "'" else "characters"
    some ("'ascii' codec can't encode " ++ what ++ " in position " ++ places before.length count ++
      ": ordinal not in range(128)")

/-- Bytes, written in groups of four characters. -/
def bytesOf (mark : Mark) (text : String) : Except Fault Value :=
  let fault (problem : String) : Except Fault Value :=
    .error (.problem (.plain .constructor problem mark))
  match asciiFault? text.toList with
  | some message => fault ("failed to convert base64 data into ascii: " ++ message)
  | none =>
    match Base64.decode text.toList with
    | .ok bytes => .ok (.bytes bytes)
    | .error f => fault ("failed to decode base64 data: " ++ f.message)

/-- Refuses a day that does not exist. -/
def checkedDate (year month day : Nat) : Except Fault Date :=
  if year == 0 then refuse "year 0 is out of range"
  else if month == 0 || 12 < month then refuse "month must be in 1..12"
  else if day == 0 || Date.daysIn year month < day then refuse "day is out of range for month"
  else .ok ⟨year, month, day⟩

/-- The microseconds that the digits of a fraction write; further digits do not
    count. -/
def microseconds (digits : List Char) : Nat :=
  let six := digits.take 6
  Text.decimalValue (six ++ List.replicate (6 - six.length) '0')

/-- The distance from universal time in minutes: less than a day. -/
def checkedOffset (m : MomentText) : Except Fault (Option Int) :=
  match m.offset with
  | some (negative, hours, minutes) =>
    let total : Int := hours * 60 + minutes
    let total := if negative then -total else total
    if total.natAbs < 1440 then .ok (some total)
    else refuse ("offset must be a timedelta strictly between -timedelta(hours=24) and " ++
      "timedelta(hours=24), not " ++ Moment.spanDisplay total ++ ".")
  | none => .ok (if m.isUniversal then some 0 else none)

/-- A date, or a date and time. -/
def momentOf (text : String) : Except Fault Value := do
  match moment? (withoutLineEnd text.toList) with
  | none => throw (.defect .form)
  | some m =>
    match m.time with
    | none => return .date (← checkedDate m.year m.month m.day)
    | some (hour, minute, second) =>
      let offset ← checkedOffset m
      let date ← checkedDate m.year m.month m.day
      if 23 < hour then refuse "hour must be in 0..23"
      else if 59 < minute then refuse "minute must be in 0..59"
      else if 59 < second then refuse "second must be in 0..59"
      else return .moment ⟨date, hour, minute, second, microseconds m.fraction, offset⟩

end Yaml

end Annals
