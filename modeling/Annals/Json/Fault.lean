/-!
# Faults of a JSON Text

Why a text is no JSON document, and where. A fault is placed by the number of
characters before it, and by line and column, both counted from one.

## Main definitions

* `Json.Cause`: What is wrong.
* `Json.Fault`: What is wrong, and where.
* `Json.Refusal`: Why a text could not be read.
-/

namespace Annals

namespace Json

/-- What is wrong with a text that is no JSON document. -/
inductive Cause where
  | byteOrderMark
  | value
  | name
  | colon
  | comma
  | extra
  | openText
  | control
  | escape
  | unicode
  deriving DecidableEq, Repr

/-- The wording of a cause. -/
def Cause.message : Cause → String
  | byteOrderMark => "Unexpected UTF-8 BOM (decode using utf-8-sig)"
  | value => "Expecting value"
  | name => "Expecting property name enclosed in double quotes"
  | colon => "Expecting ':' delimiter"
  | comma => "Expecting ',' delimiter"
  | extra => "Extra data"
  | openText => "Unterminated string starting at"
  | control => "Invalid control character at"
  | escape => "Invalid \\escape"
  | unicode => "Invalid \\uXXXX escape"

/-- A cause and its place: the characters before it, and the line ends and the
    characters of the line before it. -/
structure Fault where
  cause : Cause
  offset : Nat
  line : Nat
  column : Nat
  deriving Repr

namespace Fault

/-- The fault at the place with `offset` characters of `text` before it. -/
def locate (text : List Char) (offset : Nat) (cause : Cause) : Fault :=
  let before := text.take offset
  ⟨cause, offset, before.count '\n' + 1, (before.reverse.takeWhile (· != '\n')).length + 1⟩

/-- The wording of a fault with its place. -/
def message (f : Fault) : String :=
  f.cause.message ++ ": line " ++ toString f.line ++ " column " ++ toString f.column ++
    " (char " ++ toString f.offset ++ ")"

end Fault

/-- Why a text could not be read: it is no JSON document, it holds a number with
    more digits than are read, or its containers are nested too deep. -/
inductive Refusal where
  | fault (f : Fault)
  | longNumber (digits : Nat)
  | nested
  deriving Repr

end Json

end Annals
