import Annals.Number.DigitLimit
import Annals.Number.Shortest
import Annals.Text.Quoted
import Annals.Value.Basic

/-!
# Values in Messages

How a value is shown inside a message. A value is shown in full, with quotes
around texts and with the parts of a date named; a scalar that stands alone in
a message is shown plainly, a text without quotes and a date as it is usually
written. A container inside itself is shown as three dots.

## Main definitions

* `Value.display`: A value in full.
* `Value.plain`: A value on its own.
* `Value.holdsLong`: Whether a value cannot be shown for the length of an integer in it.
-/

namespace Annals

namespace Date

/-- A number in at least `width` digits. -/
def padded (width n : Nat) : String :=
  let ds := Nat.toDigits 10 n
  String.ofList (List.replicate (width - ds.length) '0' ++ ds)

/-- Year, month and day with hyphens. -/
def text (d : Date) : String :=
  padded 4 d.year ++ "-" ++ padded 2 d.month ++ "-" ++ padded 2 d.day

end Date

namespace Moment

/-- Hours and minutes away from universal time, with a sign. -/
def offsetText (minutes : Int) : String :=
  (if minutes < 0 then "-" else "+") ++ Date.padded 2 (minutes.natAbs / 60) ++ ":" ++
    Date.padded 2 (minutes.natAbs % 60)

/-- Day and time as usually written: the fraction in six digits if there is
    one, and the distance from universal time if it is known. -/
def text (t : Moment) : String :=
  t.date.text ++ " " ++ Date.padded 2 t.hour ++ ":" ++ Date.padded 2 t.minute ++ ":" ++
    Date.padded 2 t.second ++
    (if t.microsecond == 0 then "" else "." ++ Date.padded 6 t.microsecond) ++
    (match t.offset with | some minutes => offsetText minutes | none => "")

/-- A span of minutes in full: whole days and the seconds left, each only if it
    is not zero. -/
def spanDisplay (minutes : Int) : String :=
  let seconds := minutes * 60
  let days := seconds.fdiv 86400
  let rest := seconds.fmod 86400
  let parts := (if days == 0 then [] else ["days=" ++ toString days]) ++
    (if rest == 0 then [] else ["seconds=" ++ toString rest])
  "datetime.timedelta(" ++ (if parts.isEmpty then "0" else ", ".intercalate parts) ++ ")"

/-- Day and time in full. -/
def display (t : Moment) : String :=
  let clock := [t.date.year, t.date.month, t.date.day, t.hour, t.minute] ++
    (if t.microsecond != 0 then [t.second, t.microsecond]
     else if t.second != 0 then [t.second] else [])
  let zone := match t.offset with
    | none => ""
    | some 0 => ", tzinfo=datetime.timezone.utc"
    | some minutes => ", tzinfo=datetime.timezone(" ++ spanDisplay minutes ++ ")"
  "datetime.datetime(" ++ ", ".intercalate (clock.map toString) ++ zone ++ ")"

end Moment

namespace Value

/-- The containers that are open, each with the text that stands for it inside
    itself. A container that nothing refers back to has the number 0. -/
abbrev Around := List (Nat × String)

/-- One more open container. -/
def Around.enter (around : Around) (id : Nat) (dots : String) : Around :=
  if id == 0 then around else (id, dots) :: around

mutual

/-- A value in full, inside the containers that are open. -/
def displayIn (around : Around) : Value → String
  | .null => "None"
  | .bool b => if b then "True" else "False"
  | .int n => toString n
  | .float x => x.written .plain
  | .text s => Text.quoted s
  | .bytes b => Text.quotedBytes b
  | .date d =>
    "datetime.date(" ++ ", ".intercalate [toString d.year, toString d.month, toString d.day] ++ ")"
  | .moment t => t.display
  | .seq id items =>
    match around.lookup id with
    -- A container that is open already would be shown forever.
    | some dots => dots
    | none => "[" ++ ", ".intercalate (displayAll (around.enter id "[...]") items) ++ "]"
  | .map id entries =>
    match around.lookup id with
    | some dots => dots
    | none =>
      "\x7b" ++ ", ".intercalate (displayEntries (around.enter id "\x7b...\x7d") entries) ++
        "\x7d"
  | .set _ members =>
    if members.isEmpty then "set()"
    else "\x7b" ++ ", ".intercalate (displayAll around members) ++ "\x7d"
  | .pair a b => "(" ++ displayIn around a ++ ", " ++ displayIn around b ++ ")"
  | .back id => (around.lookup id).getD "..."
termination_by structural v => v

/-- Several values in full. -/
def displayAll (around : Around) : List Value → List String
  | [] => []
  | v :: rest => displayIn around v :: displayAll around rest
termination_by structural vs => vs

/-- The entries of a mapping in full. -/
def displayEntries (around : Around) : List (Value × Value) → List String
  | [] => []
  | (k, v) :: rest =>
    (displayIn around k ++ ": " ++ displayIn around v) :: displayEntries around rest
termination_by structural es => es

end

mutual

/-- Whether there is an integer in a value that has too many digits to be shown. -/
def holdsLong : Value → Bool
  | .int n => isLong n
  | .seq _ items => anyHoldsLong items
  | .map _ entries => entryHoldsLong entries
  | .set _ members => anyHoldsLong members
  | .pair a b => holdsLong a || holdsLong b
  | _ => false
termination_by structural v => v

/-- Whether there is such an integer in some of the values. -/
def anyHoldsLong : List Value → Bool
  | [] => false
  | v :: rest => holdsLong v || anyHoldsLong rest
termination_by structural vs => vs

/-- Whether there is such an integer in some of the entries. -/
def entryHoldsLong : List (Value × Value) → Bool
  | [] => false
  | (k, v) :: rest => holdsLong k || holdsLong v || entryHoldsLong rest
termination_by structural es => es

end

/-- A value in full. -/
def display (v : Value) : String := displayIn [] v

/-- A value on its own: a text as it is, a date as usually written, all else in
    full. -/
def plain : Value → String
  | .text s => s
  | .date d => d.text
  | .moment t => t.text
  | v => display v

end Value

end Annals
