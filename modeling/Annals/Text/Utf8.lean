import Annals.Text.Digit

/-!
# Bytes of a Text

Files hold bytes, and a text file holds the UTF-8 form of its characters. A
sequence of bytes that is no such form is refused, with the first place where
it fails, what is wrong there, and how many bytes are affected.

A character takes one to four bytes. The first byte tells how many; all others
lie between 128 and 191. The second byte is limited further, so that no
character has two forms and no half of a surrogate pair has one.

## Main definitions

* `Utf8.Reason`, `Utf8.Fault`: What is wrong with a sequence of bytes.
* `Utf8.decode`: The characters that bytes make.
* `Utf8.encode`: The bytes of characters.
-/

namespace Annals

namespace Utf8

/-- What is wrong with bytes that are no text. -/
inductive Reason where
  | start
  | continuation
  | ending
  deriving DecidableEq, Repr

/-- The wording of a reason. -/
def Reason.message : Reason → String
  | start => "invalid start byte"
  | continuation => "invalid continuation byte"
  | ending => "unexpected end of data"

/-- A fault: the place of its first byte and the byte there, how many bytes are
    affected, and why. -/
structure Fault where
  place : Nat
  byte : Nat
  length : Nat
  reason : Reason
  deriving DecidableEq, Repr

/-- The wording of a fault. -/
def Fault.message (f : Fault) : String :=
  let what :=
    if f.length == 1 then
      "byte 0x" ++ String.ofList (Text.toHex 2 f.byte) ++ " in position " ++ toString f.place
    else "bytes in position " ++ toString f.place ++ "-" ++ toString (f.place + f.length - 1)
  "'utf-8' codec can't decode " ++ what ++ ": " ++ f.reason.message

/-- How many bytes follow a first byte, and the limits of the second one. None
    if no character begins so. -/
def shape? (b : Nat) : Option (Nat × Nat × Nat) :=
  if b < 128 then some (0, 0, 0)
  else if 0xC2 ≤ b && b ≤ 0xDF then some (1, 0x80, 0xBF)
  else if b == 0xE0 then some (2, 0xA0, 0xBF)
  else if b == 0xED then some (2, 0x80, 0x9F)
  else if 0xE1 ≤ b && b ≤ 0xEF then some (2, 0x80, 0xBF)
  else if b == 0xF0 then some (3, 0x90, 0xBF)
  else if 0xF1 ≤ b && b ≤ 0xF3 then some (3, 0x80, 0xBF)
  else if b == 0xF4 then some (3, 0x80, 0x8F)
  else none

/-- The bits of a first byte that belong to the character. -/
def firstBits (b : Nat) : Nat :=
  if b < 128 then b else if b < 0xE0 then b - 0xC0 else if b < 0xF0 then b - 0xE0 else b - 0xF0

/-- Takes `count` more bytes into the number of a character, of which `taken`
    bytes are read; the next lies within the limits. -/
def following (count taken low high total : Nat) : List Nat → Except (Nat × Reason) (Nat × List Nat)
  | bytes =>
    match count with
    | 0 => .ok (total, bytes)
    | count + 1 =>
      match bytes with
      | [] => .error (taken, .ending)
      | b :: rest =>
        if low ≤ b && b ≤ high then
          following count (taken + 1) 0x80 0xBF (total * 64 + (b - 0x80)) rest
        else .error (taken, .continuation)

/-- The first character of a sequence of bytes, and the bytes after it; or how
    many bytes are wrong, and why. -/
def character : List Nat → Except (Nat × Reason) (Char × List Nat)
  | [] => .error (0, .ending)
  | b :: rest =>
    match shape? b with
    | none => .error (1, .start)
    | some (count, low, high) => do
      let (n, rest) ← following count 1 low high (firstBits b) rest
      return (Char.ofNat n, rest)

/-- The characters that bytes make, `place` bytes into the sequence. -/
def decodeFrom : (fuel place : Nat) → List Nat → Except Fault (List Char)
  | 0, _, _ => .ok []
  | _, _, [] => .ok []
  | fuel + 1, place, b :: rest =>
    match character (b :: rest) with
    | .error (length, reason) => .error ⟨place, b, length, reason⟩
    | .ok (c, after) => do
      let cs ← decodeFrom fuel (place + (rest.length + 1 - after.length)) after
      return c :: cs

/-- The characters that bytes make. -/
def decode (bytes : List Nat) : Except Fault (List Char) := decodeFrom (bytes.length + 1) 0 bytes

/-- The characters that bytes make, with a replacement for those that make none. -/
def decodeLossyFrom : (fuel : Nat) → List Nat → List Char
  | 0, _ => []
  | _, [] => []
  | fuel + 1, bytes =>
    match character bytes with
    | .error (length, _) => Char.ofNat 0xFFFD :: decodeLossyFrom fuel (bytes.drop (max length 1))
    | .ok (c, after) => c :: decodeLossyFrom fuel after

/-- The characters that bytes make, with a replacement for those that make none. -/
def decodeLossy (bytes : List Nat) : List Char := decodeLossyFrom bytes.length bytes

/-- The character that exactly these bytes make. -/
def single? (bytes : List Nat) : Option (List Char) :=
  match character bytes with
  | .ok (c, []) => some [c]
  | _ => none

/-- The bytes of a character. -/
def encodeChar (c : Char) : List Nat :=
  let n := c.toNat
  if n < 0x80 then [n]
  else if n < 0x800 then [0xC0 + n / 64, 0x80 + n % 64]
  else if n < 0x10000 then [0xE0 + n / 4096, 0x80 + n / 64 % 64, 0x80 + n % 64]
  else [0xF0 + n / 262144, 0x80 + n / 4096 % 64, 0x80 + n / 64 % 64, 0x80 + n % 64]

/-- The bytes of characters. -/
def encode (cs : List Char) : List Nat := cs.flatMap encodeChar

end Utf8

end Annals
