import Annals.Html.NamedCharacters
import Annals.Number.DigitLimit

/-!
# Character References

A markup text can write a character by its name or by its number. Two readings
are needed. In the text of an HTML fragment every reference is resolved that
can be: the semicolon may be missing, the longest old name at the start of an
unknown one counts, and numbers that stand for no character are mended. Inside
a document text a reference counts only in its full form.

## Main definitions

* `Html.unescape`: A text of an HTML fragment with its references resolved.
* `Html.reference?`: A reference in full form at the start of a text.
-/

namespace Annals

namespace Html

/-- What the numbers of the C1 controls stand for by old custom. -/
def mendedNumbers : List (Nat × Nat) :=
  [(0, 0xFFFD), (13, 13), (0x80, 0x20AC), (0x81, 0x81), (0x82, 0x201A), (0x83, 0x192),
   (0x84, 0x201E), (0x85, 0x2026), (0x86, 0x2020), (0x87, 0x2021), (0x88, 0x2C6),
   (0x89, 0x2030), (0x8A, 0x160), (0x8B, 0x2039), (0x8C, 0x152), (0x8D, 0x8D), (0x8E, 0x17D),
   (0x8F, 0x8F), (0x90, 0x90), (0x91, 0x2018), (0x92, 0x2019), (0x93, 0x201C), (0x94, 0x201D),
   (0x95, 0x2022), (0x96, 0x2013), (0x97, 0x2014), (0x98, 0x2DC), (0x99, 0x2122),
   (0x9A, 0x161), (0x9B, 0x203A), (0x9C, 0x153), (0x9D, 0x9D), (0x9E, 0x17E), (0x9F, 0x178)]

/-- Whether `n` lies in a surrogate half. -/
def isHalf (n : Nat) : Bool := 0xD800 ≤ n && n < 0xE000

/-- Whether `n` is set aside and never a character of a text. -/
def isNonCharacter (n : Nat) : Bool :=
  (0xFDD0 ≤ n && n ≤ 0xFDEF) || n % 0x10000 == 0xFFFE || n % 0x10000 == 0xFFFF

/-- What a number in a reference of an HTML fragment stands for. -/
def numbered (n : Nat) : List Char :=
  match mendedNumbers.lookup n with
  | some m => [Char.ofNat m]
  | none =>
    if isHalf n || 0x10FFFF < n then [Char.ofNat 0xFFFD]
    else if (1 ≤ n && n ≤ 8) || n == 11 || (14 ≤ n && n ≤ 31) || (127 ≤ n && n ≤ 159) ||
        isNonCharacter n then []
    else [Char.ofNat n]

/-- The longest old name, of two letters or more, that `name` begins with, tried
    from `length` down: its characters and the rest of the name. -/
def legacyStart? (name : List Char) : (length : Nat) → Option (List Char)
  | 0 => none
  | length + 1 =>
    if length < 1 then none
    else
      let start := name.take (length + 1)
      if isLegacyName start then
        (namedCharacters? start).map (· ++ name.drop (length + 1))
      else legacyStart? name length

/-- What a name in a reference stands for; an unknown name stays as written. -/
def named (name : List Char) (closed : Bool) : List Char :=
  let written := if closed then name ++ [';'] else name
  let known := if closed || isLegacyName name then namedCharacters? name else none
  match known with
  | some cs => cs
  | none =>
    match legacyStart? written (written.length - 1) with
    | some cs => cs
    | none => '&' :: written

/-- Whether `c` may be part of a name in a reference. -/
def isNameChar (c : Char) : Bool :=
  !(c == '\t' || c == '\n' || c.toNat == 12 || c == ' ' || c == '<' || c == '&' || c == '#' ||
    c == ';')

/-- A semicolon at the start of the text is taken off. -/
def takeSemicolon : List Char → Bool × List Char
  | ';' :: rest => (true, rest)
  | rest => (false, rest)

/-- What follows an ampersand, resolved, and how many characters that was; none
    if it is no reference. -/
def resolve? (cs : List Char) : Option (List Char × Nat) :=
  let number := fun (skipped : Nat) (base : Nat) (digits : List Char) =>
    if digits.isEmpty then none
    else
      let (closed, _) := takeSemicolon (cs.drop (skipped + digits.length))
      let n := if base == 16 then Text.hexNumber digits else Text.decimalValue digits
      some (numbered n, skipped + digits.length + (if closed then 1 else 0))
  match cs with
  | '#' :: 'x' :: rest => number 2 16 (rest.takeWhile Text.isHexDigit)
  | '#' :: 'X' :: rest => number 2 16 (rest.takeWhile Text.isHexDigit)
  | '#' :: rest => number 1 10 (rest.takeWhile Text.isAsciiDigit)
  | _ =>
    -- A name is looked for in this many characters; what stands behind them is text.
    let name := (cs.takeWhile isNameChar).take 32
    if name.isEmpty then none
    else
      let (closed, _) := takeSemicolon (cs.drop name.length)
      some (named name closed, name.length + (if closed then 1 else 0))

/-- A text with its references resolved, where the next `skipped` characters
    belong to a reference that is resolved already. -/
def unescapeFrom : (skipped : Nat) → List Char → List Char
  | _, [] => []
  | skipped + 1, _ :: rest => unescapeFrom skipped rest
  | 0, '&' :: rest =>
    match resolve? rest with
    | some (cs, length) => cs ++ unescapeFrom length rest
    | none => '&' :: unescapeFrom 0 rest
  | 0, c :: rest => c :: unescapeFrom 0 rest

/-- The text of an HTML fragment with its references resolved. -/
def unescape (cs : List Char) : List Char := unescapeFrom 0 cs

/-- The number of digits of the first decimal reference in a text that has too
    many of them to be read. -/
def longReference? : List Char → Option Nat
  | [] => none
  | '&' :: '#' :: rest =>
    let count := (rest.takeWhile Text.isAsciiDigit).length
    if maxDigits < count then some count else longReference? rest
  | _ :: rest => longReference? rest

/-- Whether a number in a reference of a document text stands for a
    character. -/
def isCharacterNumber (n : Nat) : Bool :=
  !(isHalf n || isNonCharacter n || n ≤ 8 || n == 11 || (14 ≤ n && n ≤ 31) ||
    (0x7F ≤ n && n ≤ 0x9F) || 0x10FFFF < n)

/-- The number in a reference in full form, up to the semicolon, and how many
    characters it takes. It has at most so many decimal or hexadecimal digits. -/
def fullNumber? (decimals hexes : Nat) : List Char → Option (Nat × Nat)
  | x :: rest =>
    if x == 'x' || x == 'X' then
      let digits := rest.takeWhile Text.isHexDigit
      if 1 ≤ digits.length && digits.length ≤ hexes && (takeSemicolon (rest.drop digits.length)).1 then
        some (Text.hexNumber digits, digits.length + 2)
      else none
    else
      let digits := (x :: rest).takeWhile Text.isAsciiDigit
      if 1 ≤ digits.length && digits.length ≤ decimals &&
          (takeSemicolon ((x :: rest).drop digits.length)).1 then
        some (Text.decimalValue digits, digits.length + 1)
      else none
  | [] => none

/-- A letter or digit of ASCII. -/
def isAsciiAlnum (c : Char) : Bool :=
  ('a' ≤ c && c ≤ 'z') || ('A' ≤ c && c ≤ 'Z') || ('0' ≤ c && c ≤ '9')

/-- A letter of ASCII. -/
def isAsciiLetter (c : Char) : Bool := ('a' ≤ c && c ≤ 'z') || ('A' ≤ c && c ≤ 'Z')

/-- A reference in full form at the start of a text that begins with an
    ampersand: what it stands for, and its length. A number has at most so many
    decimal or hexadecimal digits. -/
def reference? (decimals hexes : Nat) : List Char → Option (List Char × Nat)
  | '&' :: '#' :: rest =>
    (fullNumber? decimals hexes rest).map fun (n, length) =>
      ([if isCharacterNumber n then Char.ofNat n else Char.ofNat 0xFFFD], length + 2)
  | '&' :: rest =>
    let name := rest.takeWhile isAsciiAlnum
    if 2 ≤ name.length && name.length ≤ 32 && (name.head?.map isAsciiLetter).getD false &&
        (takeSemicolon (rest.drop name.length)).1 then
      (namedCharacters? name).map fun cs => (cs, name.length + 2)
    else none
  | _ => none

end Html

end Annals
