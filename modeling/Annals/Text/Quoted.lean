import Annals.Text.Digit
import Annals.Text.Printable

/-!
# Quoted Text

How a text is shown inside a message: between single quotes, or between double
quotes if it holds a single quote and no double one. The quote in use, the
backslash, line ends and tabs are escaped by a backslash; a character that is
not printable is written by its number in base sixteen, in two, four or eight
digits.

## Main definitions

* `Text.quoted`: A text between quotes.
* `Text.quotedBytes`: A string of bytes between quotes.
-/

namespace Annals

namespace Text

/-- The quote around a text: a double quote only where it saves an escape. -/
def quoteFor (hasSingle hasDouble : Bool) : Char :=
  if hasSingle && !hasDouble then '"' else '\''

/-- One character between quotes. -/
def quotedChar (quote c : Char) : List Char :=
  if c == quote || c == '\\' then ['\\', c]
  else if c == '\n' then ['\\', 'n']
  else if c == '\r' then ['\\', 'r']
  else if c == '\t' then ['\\', 't']
  else if isPrintable c then [c]
  else if c.toNat < 256 then '\\' :: 'x' :: toHex 2 c.toNat
  else if c.toNat < 65536 then '\\' :: 'u' :: toHex 4 c.toNat
  else '\\' :: 'U' :: toHex 8 c.toNat

/-- A text between quotes. -/
def quoted (s : String) : String :=
  let cs := s.toList
  let quote := quoteFor (cs.contains '\'') (cs.contains '"')
  String.ofList (quote :: cs.flatMap (quotedChar quote) ++ [quote])

/-- One byte between quotes. -/
def quotedByte (quote : Char) (b : UInt8) : List Char :=
  let c := Char.ofNat b.toNat
  if 127 ≤ b.toNat then '\\' :: 'x' :: toHex 2 b.toNat else quotedChar quote c

/-- A string of bytes between quotes, after the letter that tells it from a
    text. -/
def quotedBytes (bytes : List UInt8) : String :=
  let quote := quoteFor (bytes.contains 39) (bytes.contains 34)
  String.ofList ('b' :: quote :: bytes.flatMap (quotedByte quote) ++ [quote])

end Text

end Annals
