/-!
# Bytes Written as Text

Bytes in groups of three are written with four characters of an alphabet of 64.
Characters outside of the alphabet are passed over. A group that is not full is
filled with equals signs; what follows a filled group is not read.

## Main definitions

* `Base64.Fault`: Why a text writes no bytes.
* `Base64.decode`: The bytes that a text writes.
-/

namespace Annals

namespace Base64

/-- Why a text writes no bytes: a group is not filled, or it has a single
    character, after `whole` groups. -/
inductive Fault where
  | padding
  | single (whole : Nat)
  deriving DecidableEq, Repr

/-- The wording of a fault. -/
def Fault.message : Fault → String
  | padding => "Incorrect padding"
  | single whole => "Invalid base64-encoded string: number of data characters (" ++
      toString (whole * 4 + 1) ++ ") cannot be 1 more than a multiple of 4"

/-- The six bits that a character stands for. -/
def bits? (c : Char) : Option Nat :=
  if 'A' ≤ c && c ≤ 'Z' then some (c.toNat - 65)
  else if 'a' ≤ c && c ≤ 'z' then some (c.toNat - 71)
  else if '0' ≤ c && c ≤ '9' then some (c.toNat + 4)
  else if c == '+' then some 62
  else if c == '/' then some 63
  else none

/-- The bytes from here on: `place` characters of the group are read, `left` are
    the bits of them that are in no byte yet, `fill` equals signs follow them, and
    `count` bytes are read. -/
def decodeFrom (place left fill count : Nat) : List Char → Except Fault (List UInt8)
  | [] =>
    if place == 0 then .ok []
    else if place == 1 then .error (.single (count / 3))
    else .error .padding
  | c :: rest =>
    if c == '=' then
      -- An equals sign fills up a group that has enough for a byte; elsewhere it is passed over
      -- like any other character.
      if 2 ≤ place then
        if 4 ≤ place + fill + 1 then .ok [] else decodeFrom place left (fill + 1) count rest
      else decodeFrom place left fill count rest
    else
      match bits? c with
      | none => decodeFrom place left fill count rest
      | some bits =>
        match place with
        | 0 => decodeFrom 1 bits 0 count rest
        | 1 => (decodeFrom 2 (bits % 16) 0 (count + 1) rest).map (UInt8.ofNat (left * 4 + bits / 16) :: ·)
        | 2 => (decodeFrom 3 (bits % 4) 0 (count + 1) rest).map (UInt8.ofNat (left * 16 + bits / 4) :: ·)
        | _ => (decodeFrom 0 0 0 (count + 1) rest).map (UInt8.ofNat (left * 64 + bits) :: ·)

/-- The bytes that a text writes. -/
def decode (cs : List Char) : Except Fault (List UInt8) := decodeFrom 0 0 0 0 cs

end Base64

end Annals
