import Annals.Text.Case
import Annals.Pattern.Basic

/-!
# Letters in Any Case

Where the case of letters does not matter, a character of a text is put into lower
case before it is compared. Several letters can have the same upper case, so what it
is compared with may be more than one letter.

A set is compared as a whole: if it has no letter with two cases, nothing is put into
lower case. A character beyond the basic plane stands in a set of several members as
it is written, and a range that goes beyond it also has the characters whose upper
case is in the range.

## Main definitions

* `Pattern.literal`: The pattern of a character.
* `Pattern.setOf`: The pattern of a set.
-/

namespace Annals

namespace CaseRun

/-- The code points of a run that lie between two others. -/
def between (run : CaseRun) (low high : Nat) : List Nat :=
  let first := run.low + (max run.low low - run.low + run.step - 1) / run.step * run.step
  let last := min run.high high
  if last < first then []
  else (List.range ((last - first) / run.step + 1)).map fun k => first + k * run.step

end CaseRun

namespace Pattern

/-- The letters that have the same upper case without having the same lower case. -/
def alikeLetters : List (List Nat) :=
  [[105, 305], [115, 383], [181, 956], [837, 953, 8126], [912, 8147], [944, 8163], [946, 976],
   [949, 1013], [952, 977], [954, 1008], [960, 982], [961, 1009], [962, 963], [966, 981],
   [1074, 7296], [1076, 7297], [1086, 7298], [1089, 7299], [1090, 7300, 7301], [1098, 7302],
   [1123, 7303], [7304, 42571], [7777, 7835], [64261, 64262]]

/-- The end of the basic plane. -/
def planeEnd : Nat := 65536

namespace CaseRule

/-- Whether a character has two cases. -/
def isCased (r : CaseRule) (n : Nat) : Bool :=
  match r with
  | exact => false
  | ascii => r.lower n != n || (97 ≤ n && n ≤ 122)
  | every => Text.lowerCode n != n || Text.upperCode n != n

/-- The letters between two that change in lower case. -/
def capitals (r : CaseRule) (low high : Nat) : List Nat :=
  match r with
  | exact => []
  | ascii => (CaseRun.mk 65 90 1 32).between low high
  | every =>
    (if low ≤ 304 && 304 ≤ high then [304] else []) ++ Text.lowerRuns.flatMap (·.between low high)

/-- Whether there is a letter with two cases between two letters. -/
def hasCased (r : CaseRule) (low high : Nat) : Bool :=
  !(r.capitals low high).isEmpty ||
    match r with
    | exact => false
    | ascii => !((CaseRun.mk 97 122 1 0).between low high).isEmpty
    | every => (Text.upperRuns.any fun run => !(run.between low high).isEmpty) ||
        Text.upperSequences.any fun s => low ≤ s.1 && s.1 ≤ high

/-- The letters that a letter in lower case is as good as, and itself. -/
def alike (r : CaseRule) (n : Nat) : List Nat :=
  match r with
  | every => (alikeLetters.find? (·.contains n)).getD [n]
  | _ => [n]

/-- Whether a member of a set has two cases. -/
def concerns (r : CaseRule) : Member → Bool
  | .char n => planeEnd ≤ n || r.isCased n
  | .range low high => planeEnd ≤ high || r.hasCased low high
  | .rangeInUpper .. => true
  | .class _ => false

/-- What a character in lower case is compared with for a range. -/
def widenedRange (r : CaseRule) (low high : Nat) : List Member :=
  let top := min high (planeEnd - 1)
  let lowered := (r.capitals low top).map r.lower
  let has (n : Nat) : Bool := lowered.contains n || (low ≤ n && n ≤ top && r.lower n == n)
  let others := match r with
    | every => (alikeLetters.filter (·.any has)).flatten
    | _ => []
  .range low top :: (lowered ++ others).map Member.char ++
    if planeEnd ≤ high then [.rangeInUpper low high] else []

/-- What a character in lower case is compared with for a member of a set. -/
def widened (r : CaseRule) : Member → List Member
  | .char n => if planeEnd ≤ n then [.char n] else (r.alike (r.lower n)).map Member.char
  | .range low high => r.widenedRange low high
  | m => [m]

end CaseRule

/-- The characters that are the same as one with two cases. -/
def sameLetters (r : CaseRule) (n : Nat) : List Member := (r.alike (r.lower n)).map Member.char

/-- The pattern of a character. -/
def literal (r : CaseRule) (n : Nat) : Expr :=
  if r.isCased n then .set false (sameLetters r n) r else .char n

/-- The pattern of a set. -/
def setOf (r : CaseRule) (negated : Bool) (members : List Member) : Expr :=
  match members.eraseDups with
  | [.char n] =>
    if r.isCased n then .set negated (sameLetters r n) r else .set negated [.char n] .exact
  | members =>
    if members.any r.concerns then .set negated (members.flatMap r.widened) r
    else .set negated members .exact

end Pattern

end Annals
