import Annals.Text.CaseTable

/-!
# Letter Case

Lower and upper case of a text in every script. Most letters move to one other
letter, whatever stands beside them. Two rules go further: the dotted capital
I becomes an i and a combining dot, and a capital sigma at the end of a word
becomes the final sigma, where a word ends if no cased letter follows.

## Main definitions

* `Text.lower`, `Text.upper`: A text in lower and in upper case.
* `Text.endsWord`: Whether a sigma between two texts takes its final form.
-/

namespace Annals

namespace Text

/-- The first character that is not looked through has case. -/
def meetsCased : List Char → Bool
  | [] => false
  | c :: rest =>
    if caseIgnorableRanges.has c.toNat then meetsCased rest else casedRanges.has c.toNat

/-- Whether a sigma takes its final form between the text before it, reversed,
    and the text after it: a cased letter precedes and none follows. -/
def endsWord (before after : List Char) : Bool := meetsCased before && !meetsCased after

/-- The lower case of a letter, its context aside. -/
def lowerChar (c : Char) : List Char :=
  if c.toNat == 304 then [Char.ofNat 105, Char.ofNat 775]
  else [((CaseRun.image? lowerRuns c.toNat).map Char.ofNat).getD c]

/-- The first letter of the lower case of a letter, both as code points. -/
def lowerCode (n : Nat) : Nat := if n == 304 then 105 else (CaseRun.image? lowerRuns n).getD n

/-- The first letter of the upper case of a letter, both as code points. -/
def upperCode (n : Nat) : Nat :=
  match upperSequences.lookup n with
  | some (first :: _) => first
  | _ => (CaseRun.image? upperRuns n).getD n

/-- The upper case of a letter. -/
def upperChar (c : Char) : List Char :=
  match upperSequences.lookup c.toNat with
  | some sequence => sequence.map Char.ofNat
  | none => [((CaseRun.image? upperRuns c.toNat).map Char.ofNat).getD c]

/-- The lower case of a text that follows `before`, which is reversed. -/
def lowerFrom (before : List Char) : List Char → List Char
  | [] => []
  | c :: rest =>
    (if c.toNat == 931 then [Char.ofNat (if endsWord before rest then 962 else 963)]
     else lowerChar c) ++ lowerFrom (c :: before) rest

/-- A text in lower case. -/
def lower (cs : List Char) : List Char := lowerFrom [] cs

/-- A text in upper case. -/
def upper (cs : List Char) : List Char := cs.flatMap upperChar

/-- A string in lower case. -/
def lowered (s : String) : String := String.ofList (lower s.toList)

end Text

end Annals
