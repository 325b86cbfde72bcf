import Annals.Text.Digit

/-!
# Tags

The kinds of nodes. A node whose kind is not written has the common kind of its
form, except for plain scalars: their text tells whether they are a number, a date
or some other value, or else a string.

## Main definitions

* `Yaml.Tag`: The tags that have a meaning.
* `Yaml.MomentText`, `Yaml.moment?`: The parts of a written date and time.
* `Yaml.Tag.ofPlain`: The tag of a plain scalar.
-/

namespace Annals

namespace Yaml

namespace Tag

/-- The beginning of the tags that have a meaning. -/
def common (name : String) : String := "tag:yaml.org,2002:" ++ name

/-- The tag of no value. -/
def null : String := common "null"
/-- The tag of truth values. -/
def bool : String := common "bool"
/-- The tag of integers. -/
def int : String := common "int"
/-- The tag of floating-point numbers. -/
def float : String := common "float"
/-- The tag of bytes. -/
def binary : String := common "binary"
/-- The tag of dates and times. -/
def timestamp : String := common "timestamp"
/-- The tag of mappings as lists of pairs with an order. -/
def omap : String := common "omap"
/-- The tag of lists of pairs. -/
def pairs : String := common "pairs"
/-- The tag of sets. -/
def set : String := common "set"
/-- The tag of strings. -/
def str : String := common "str"
/-- The tag of sequences. -/
def seq : String := common "seq"
/-- The tag of mappings. -/
def map : String := common "map"
/-- The tag of a key whose value is merged into the mapping. -/
def merge : String := common "merge"
/-- The tag of a key whose value stands for the mapping. -/
def value : String := common "value"

end Tag

/-- The names of truth values in lower case. -/
def boolNames : List (String × Bool) :=
  [("yes", true), ("no", false), ("true", true), ("false", false), ("on", true), ("off", false)]

/-- The truth values as they may be written in a plain scalar: small, with a
    capital, or all in capitals. -/
def isBoolText (cs : List Char) : Bool :=
  boolNames.any fun (name, _) =>
    let small := name.toList
    let capital := (small.take 1).map Char.toUpper ++ small.drop 1
    cs == small || cs == capital || cs == small.map Char.toUpper

/-- No value as it may be written in a plain scalar. -/
def isNullText (cs : List Char) : Bool :=
  [[], "~".toList, "null".toList, "Null".toList, "NULL".toList].contains cs

/-- Whether `c` is a digit or a mark that only makes a number easier to read. -/
def isDigitOrLine (c : Char) : Bool := Text.isAsciiDigit c || c == '_'

/-- A text without a sign in front. -/
def unsigned : List Char → List Char
  | c :: rest => if c == '-' || c == '+' then rest else c :: rest
  | [] => []

/-- Whether a text is a minute or a second: up to 59, in one or two digits. -/
def isSixtieth (cs : List Char) : Bool :=
  match cs with
  | [d] => Text.isAsciiDigit d
  | [t, d] => '0' ≤ t && t ≤ '5' && Text.isAsciiDigit d
  | _ => false

/-- What is left of a text after the digits in front, and after parts in base
    sixty, each behind a colon; none if there is no such part. -/
def afterSixtieths? : (fuel : Nat) → (any : Bool) → List Char → Option (List Char)
  | 0, _, _ => none
  | fuel + 1, any, cs =>
    match cs with
    | ':' :: rest =>
      let part := rest.takeWhile Text.isAsciiDigit
      if isSixtieth part then afterSixtieths? fuel true (rest.drop part.length) else none
    | _ => if any then some cs else none

/-- An integer as it may be written in a plain scalar: in base 2, 8, 10, 16, or
    60. -/
def isIntText (cs : List Char) : Bool :=
  match unsigned cs with
  | ['0'] => true
  | '0' :: 'b' :: rest => !rest.isEmpty && rest.all fun c => c == '0' || c == '1' || c == '_'
  | '0' :: 'x' :: rest => !rest.isEmpty && rest.all fun c => Text.isHexDigit c || c == '_'
  | '0' :: rest => rest.all fun c => ('0' ≤ c && c ≤ '7') || c == '_'
  | c :: rest =>
    Text.isAsciiDigit c &&
      (let rest := rest.dropWhile isDigitOrLine
       rest.isEmpty || afterSixtieths? (rest.length + 1) false rest == some [])
  | [] => false

/-- Whether a text is empty or an exponent with a sign. -/
def isExponent (cs : List Char) : Bool :=
  match cs with
  | [] => true
  | e :: s :: digits =>
    (e == 'e' || e == 'E') && (s == '-' || s == '+') && !digits.isEmpty &&
      digits.all Text.isAsciiDigit
  | _ => false

/-- A floating-point number as it may be written in a plain scalar. It has a point;
    its exponent has a sign. -/
def isFloatText (cs : List Char) : Bool :=
  let body := unsigned cs
  let afterDigits := body.dropWhile isDigitOrLine
  match body with
  | '.' :: rest =>
    let name := String.ofList rest
    name == "inf" || name == "Inf" || name == "INF" ||
      -- With a sign before it, only an infinity begins with a point.
      (body.length == cs.length &&
        (name == "nan" || name == "NaN" || name == "NAN" ||
          ((rest.head?.map Text.isAsciiDigit).getD false &&
            isExponent (rest.dropWhile isDigitOrLine))))
  | c :: _ =>
    Text.isAsciiDigit c &&
      (match afterDigits with
       | '.' :: rest => isExponent (rest.dropWhile isDigitOrLine)
       | _ =>
         -- Sixtieths behind colons, the last ones with a fraction.
         match afterSixtieths? (afterDigits.length + 1) false afterDigits with
         | some ('.' :: rest) => rest.all isDigitOrLine
         | _ => false)
  | [] => false

/-- The parts of a written date and time; the fraction is kept as digits. The
    distance from universal time is its sign, hours and minutes. -/
structure MomentText where
  year : Nat
  month : Nat
  day : Nat
  time : Option (Nat × Nat × Nat)
  fraction : List Char
  isUniversal : Bool
  offset : Option (Bool × Nat × Nat)
  /-- Whether month and day have two digits. -/
  isFull : Bool
  deriving Repr

/-- One or two digits at the start of a text. -/
def shortNumber? (cs : List Char) : Option (List Char × List Char) :=
  let digits := (cs.take 2).takeWhile Text.isAsciiDigit
  if digits.isEmpty then none else some (digits, cs.drop digits.length)

/-- Exactly `count` digits at the start of a text. -/
def fixedNumber? (count : Nat) (cs : List Char) : Option (Nat × List Char) :=
  let digits := (cs.take count).takeWhile Text.isAsciiDigit
  if digits.length == count then some (Text.decimalValue digits, cs.drop count) else none

/-- What follows a character at the start of a text. -/
def behind? (c : Char) : List Char → Option (List Char)
  | d :: rest => if d == c then some rest else none
  | [] => none

/-- The end of a written time: universal time, or a distance from it. -/
def zone? (cs : List Char) : Option (Bool × Option (Bool × Nat × Nat)) :=
  match cs.dropWhile fun c => c == ' ' || c == '\t' with
  | [] => if cs.isEmpty then some (false, none) else none
  | ['Z'] => some (true, none)
  | s :: rest =>
    if s == '-' || s == '+' then do
      let (hours, rest) ← shortNumber? rest
      let minutes ← match rest with
        | [] => some 0
        | ':' :: rest => match fixedNumber? 2 rest with
          | some (minutes, []) => some minutes
          | _ => none
        | _ => none
      return (false, some (s == '-', Text.decimalValue hours, minutes))
    else none

/-- What follows the separator between a date and a time. -/
def timeStart? : List Char → Option (List Char)
  | c :: rest =>
    if c == 'T' || c == 't' then some rest
    else if c == ' ' || c == '\t' then some (rest.dropWhile fun d => d == ' ' || d == '\t')
    else none
  | [] => none

/-- A written date, or date and time. -/
def moment? (cs : List Char) : Option MomentText := do
  let (year, rest) ← fixedNumber? 4 cs
  let (month, rest) ← shortNumber? (← behind? '-' rest)
  let (day, rest) ← shortNumber? (← behind? '-' rest)
  let date : MomentText := ⟨year, Text.decimalValue month, Text.decimalValue day, none, [], false,
    none, month.length == 2 && day.length == 2⟩
  if rest.isEmpty then return date
  let (hour, rest) ← shortNumber? (← timeStart? rest)
  let (minute, rest) ← fixedNumber? 2 (← behind? ':' rest)
  let (second, rest) ← fixedNumber? 2 (← behind? ':' rest)
  let fraction := match rest with
    | '.' :: rest => rest.takeWhile Text.isAsciiDigit
    | _ => []
  let rest := match rest with
    | '.' :: rest => rest.drop fraction.length
    | rest => rest
  let (isUniversal, offset) ← zone? rest
  return { date with
    time := some (Text.decimalValue hour, minute, second)
    fraction := fraction
    isUniversal := isUniversal
    offset := offset }

/-- A text without a line end behind it. -/
def withoutLineEnd (cs : List Char) : List Char :=
  if cs.getLast? == some '\n' then cs.dropLast else cs

/-- Whether a text is a date and time in their form, as it may be written in a plain
    scalar. -/
def isMomentText (cs : List Char) : Bool :=
  match moment? cs with
  | some m => m.time.isSome || m.isFull
  | none => false

/-- The tag of a plain scalar. -/
def Tag.ofPlain (text : String) : String :=
  let cs := text.toList
  let bare := withoutLineEnd cs
  if bare.isEmpty then if cs.isEmpty then Tag.null else Tag.str
  else if isBoolText bare then Tag.bool
  else if isFloatText bare then Tag.float
  else if isIntText bare then Tag.int
  else if bare == ['<', '<'] then Tag.merge
  else if isNullText bare then Tag.null
  else if isMomentText bare then Tag.timestamp
  else if bare == ['='] then Tag.value
  else Tag.str

end Yaml

end Annals
