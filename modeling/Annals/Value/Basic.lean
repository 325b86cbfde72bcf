import Annals.Number.Double

/-!
# Decoded Values

What a document in a data format decodes to. Values are dynamic: the checks
look at whatever an author wrote. Every list, mapping and set carries a number
that tells it from the other containers of its document, since a document can
say that a container holds itself: there the value has a reference back to the
container by its number, so values are finite trees although what they describe
need not be.

## Main definitions

* `Date`, `Moment`: A day, and a time on a day with its distance from universal
  time.
* `Value`: The values.
* `Value.get?`: The value under a textual key of a mapping.
-/

namespace Annals

/-- A day of the Gregorian calendar. -/
structure Date where
  year : Nat
  month : Nat
  day : Nat
  deriving DecidableEq, Repr, Inhabited

namespace Date

/-- Whether a year has 366 days. -/
def isLeap (year : Nat) : Bool := year % 4 == 0 && (year % 100 != 0 || year % 400 == 0)

/-- The number of days of a month. -/
def daysIn (year month : Nat) : Nat :=
  match month with
  | 2 => if isLeap year then 29 else 28
  | 4 | 6 | 9 | 11 => 30
  | _ => 31

/-- The number of days from the start of year 1 to the start of a day. -/
def ordinal (d : Date) : Nat :=
  let years := d.year - 1
  let before := (List.range (d.month - 1)).foldl (fun total m => total + daysIn d.year (m + 1)) 0
  years * 365 + years / 4 - years / 100 + years / 400 + before + d.day - 1

end Date

/-- A time on a day, to the microsecond. The distance from universal time is in
    minutes; without it the time is local. -/
structure Moment where
  date : Date
  hour : Nat
  minute : Nat
  second : Nat
  microsecond : Nat
  offset : Option Int
  deriving DecidableEq, Repr, Inhabited

/-- Microseconds since the start of year 1, in universal time where the
    distance from it is known. -/
def Moment.instant (t : Moment) : Int :=
  let minutes : Int := ((t.date.ordinal * 24 + t.hour) * 60 + t.minute : Nat) - t.offset.getD 0
  (minutes * 60 + t.second) * 1000000 + t.microsecond

/-- A decoded value. -/
inductive Value where
  | null
  | bool (b : Bool)
  | int (n : Int)
  | float (x : Double)
  | text (s : String)
  | bytes (b : List UInt8)
  | date (d : Date)
  | moment (t : Moment)
  /-- A list. -/
  | seq (id : Nat) (items : List Value)
  /-- A mapping, in the order in which its keys were first met. -/
  | map (id : Nat) (entries : List (Value × Value))
  /-- A set, in the order in which its members were first met. -/
  | set (id : Nat) (members : List Value)
  /-- An entry of an ordered list of pairs. -/
  | pair (first second : Value)
  /-- The container with this number, of which this place is a part. -/
  | back (id : Nat)
  deriving Inhabited, Repr

namespace Value

/-- The entry under a textual key. -/
def lookup? (key : String) : List (Value × Value) → Option Value
  | [] => none
  | (.text k, v) :: rest => if k == key then some v else lookup? key rest
  | _ :: rest => lookup? key rest

/-- The value under a textual key of a mapping. -/
def get? (key : String) : Value → Option Value
  | .map _ entries => lookup? key entries
  | _ => none

/-- The items of a list. -/
def items? : Value → Option (List Value)
  | .seq _ items => some items
  | _ => none

/-- Whether a value is a mapping. -/
def isObject : Value → Bool
  | .map .. => true
  | _ => false

/-- Whether a value is a list. -/
def isArray : Value → Bool
  | .seq .. => true
  | _ => false

/-- Whether a value is a text. -/
def isText : Value → Bool
  | .text _ => true
  | _ => false

/-- Whether a value is a number; truth values are none. -/
def isNumber : Value → Bool
  | .int _ | .float _ => true
  | _ => false

/-- The number of a container. -/
def id? : Value → Option Nat
  | .seq id _ | .map id _ | .set id _ | .back id => some id
  | _ => none

/-- A mapping with textual keys that is no part of a larger document. -/
def object (entries : List (String × Value)) : Value :=
  .map 0 (entries.map fun (k, v) => (.text k, v))

end Value

end Annals
