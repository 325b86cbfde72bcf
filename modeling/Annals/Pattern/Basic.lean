import Annals.Text.Blank
import Annals.Text.Case
import Annals.Text.Digit
import Annals.Text.Letter

/-!
# Patterns

Regular expressions as they are used in schemas. Besides characters, classes,
alternatives and repetitions, a pattern may look ahead or behind, refer back to
what a group matched, and give up other ways to match what it has matched once.

Options are not part of a pattern: what a character, a class or a line mark means
under them is settled when the pattern is read.

## Main definitions

* `Pattern.CharClass`, `Pattern.Member`: Sets of characters.
* `Pattern.Expr`: A pattern.
* `Pattern.CaseRule`: How letters are compared.
* `Pattern.Expr.widths`: How many characters a pattern matches.
-/

namespace Annals

namespace Pattern

/-- A class of characters: digits, white space, or characters of words; of all
    scripts, or ASCII only. -/
inductive ClassKind where
  | digit
  | space
  | word
  deriving DecidableEq, Repr

/-- A class of characters or all others. -/
structure CharClass where
  kind : ClassKind
  negated : Bool
  ascii : Bool
  deriving DecidableEq, Repr

/-- Whether a character is in a class. -/
def CharClass.has (k : CharClass) (c : Char) : Bool :=
  let inKind := match k.kind with
    | .digit => Text.isDigit c
    | .space => Text.isBlank c
    | .word => Text.isWordChar c
  let isAscii := c.toNat < 128
  let inKind := if k.ascii then inKind && isAscii && !(k.kind == .space && 28 ≤ c.toNat && c.toNat < 32)
    else inKind
  inKind != k.negated

/-- A member of a set of characters, which are given by their code points: one that no
    character has stands for nothing. A range can also have the characters whose upper
    case is in it. -/
inductive Member where
  | char (n : Nat)
  | range (low high : Nat)
  | rangeInUpper (low high : Nat)
  | class (k : CharClass)
  deriving DecidableEq, Repr

/-- Whether a character is given by a member. -/
def Member.has (m : Member) (c : Char) : Bool :=
  let n := c.toNat
  match m with
  | char d => n == d
  | range low high => low ≤ n && n ≤ high
  | rangeInUpper low high =>
    (low ≤ n && n ≤ high) || (low ≤ Text.upperCode n && Text.upperCode n ≤ high)
  | .class k => k.has c

/-- How characters are compared: as they are, or in lower case, where either ASCII
    letters or letters of every script have one. -/
inductive CaseRule where
  | exact
  | ascii
  | every
  deriving DecidableEq, Repr

/-- The form in which a character is compared. -/
def CaseRule.lower (r : CaseRule) (n : Nat) : Nat :=
  match r with
  | exact => n
  | ascii => if 65 ≤ n && n ≤ 90 then n + 32 else n
  | every => Text.lowerCode n

/-- How a repetition is made: as often as possible first, as seldom as possible
    first, or as often as possible only. -/
inductive Greed where
  | most
  | least
  | only
  deriving DecidableEq, Repr

/-- A place between characters. The end of the text may have one more line end
    behind it where `soft`. -/
inductive Place where
  | start
  | lineStart
  | stop (soft : Bool)
  | lineEnd
  | wordEdge (negated ascii : Bool)
  deriving DecidableEq, Repr

/-- A pattern. -/
inductive Expr where
  | empty
  | fail
  | char (n : Nat)
  | any (lineEnds : Bool)
  | set (negated : Bool) (members : List Member) (r : CaseRule)
  | place (p : Place)
  | seq (first second : Expr)
  | alt (first second : Expr)
  | group (number : Nat) (e : Expr)
  | backReference (number : Nat) (r : CaseRule)
  | repeat (e : Expr) (least : Nat) (most : Option Nat) (greed : Greed)
  | look (negated : Bool) (e : Expr)
  | lookBehind (negated : Bool) (width : Nat) (e : Expr)
  | atomic (e : Expr)
  | conditional (number : Nat) (matched unmatched : Expr)
  deriving Repr, Inhabited

namespace Expr

/-- The number of parts of a pattern. -/
def size : Expr → Nat
  | seq a b => a.size + b.size + 1
  | alt a b => a.size + b.size + 1
  | group _ e => e.size + 2
  | .repeat e .. => e.size + 3
  | look _ e => e.size + 1
  | lookBehind _ _ e => e.size + 1
  | atomic e => e.size + 1
  | conditional _ a b => a.size + b.size + 1
  | _ => 1

/-- More characters, or turns of a repetition, than any bound that can be written. -/
def unbounded : Nat := 4294967295

/-- The least and the greatest number of characters that a pattern matches, up to what
    can be counted. `groups` are the numbers for the groups before it. -/
def widths (groups : List (Nat × Nat × Nat)) : Expr → Nat × Nat
  | empty => (0, 0)
  | fail => (0, 0)
  | char .. => (1, 1)
  | any _ => (1, 1)
  | set .. => (1, 1)
  | place _ => (0, 0)
  | seq a b =>
    let (m, n) := a.widths groups
    let (k, l) := b.widths groups
    counted (m + k) (n + l)
  | alt a b =>
    let (m, n) := a.widths groups
    let (k, l) := b.widths groups
    (min m k, max n l)
  | group _ e => e.widths groups
  | backReference n _ => (groups.lookup n).getD (0, 0)
  | .repeat e least most _ =>
    let (m, n) := e.widths groups
    counted (m * least) (n * most.getD unbounded)
  -- What looks around takes no characters.
  | look .. => (0, 0)
  | lookBehind .. => (0, 0)
  | atomic e => e.widths groups
  | conditional _ a b =>
    let (m, n) := a.widths groups
    let (k, l) := b.widths groups
    (min m k, max n l)
where
  /-- Numbers up to what can be counted. -/
  counted (m n : Nat) : Nat × Nat := (min m (unbounded - 1), min n unbounded)

/-- How the first repetition in a pattern is made, if there is one. -/
def firstRepeat? : Expr → Option Greed
  | seq a b => a.firstRepeat? <|> b.firstRepeat?
  | alt a b => a.firstRepeat? <|> b.firstRepeat?
  | group _ e => e.firstRepeat?
  | .repeat _ _ _ greed => some greed
  | look _ e => e.firstRepeat?
  | lookBehind _ _ e => e.firstRepeat?
  | atomic e => e.firstRepeat?
  | conditional _ a b => a.firstRepeat? <|> b.firstRepeat?
  | _ => none

end Expr

end Pattern

end Annals
