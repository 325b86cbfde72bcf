import Annals.Markdown.Tree
import Annals.Text.Punctuation

/-!
# Emphasis

Stars and underscores are first read as marks, one piece each, between the other
pieces of a text. Which of them belong together is found out afterwards. A mark
can open emphasis, close it, or both, depending on what stands next to its run.
Every mark that can close is given the nearest mark before it that can open and
has no partner yet; two runs do not match if one of them both opens and closes
and their lengths add up to a multiple of three, unless both are one.

Two pairs directly around each other are strong emphasis. The outer marks of
such a double pair stay behind as empty texts.

## Main definitions

* `Emphasis.Mark`: A mark, and what it can do.
* `Emphasis.Piece`: A mark or another piece of a text.
* `Emphasis.paired`: For every mark the mark that it opens for.
* `Emphasis.resolve`: The pieces as a text with emphasis.
-/

namespace Annals

namespace Emphasis

open Markdown

/-- One star or underscore: its character, the length of the run it is part of,
    and whether it can open and close emphasis. -/
structure Mark where
  char : Char
  run : Nat
  opens : Bool
  closes : Bool
  deriving Repr, Inhabited

/-- A piece of a text. -/
inductive Piece where
  | part (part : Inline)
  | mark (mark : Mark)
  deriving Inhabited

/-- Whether `c` counts as a blank next to a mark. -/
def isGap (c : Char) : Bool :=
  let n := c.toNat
  (9 ≤ n && n ≤ 13) || n == 0x20 || n == 0xA0 || n == 0x1680 || (0x2000 ≤ n && n ≤ 0x200A) ||
    n == 0x202F || n == 0x205F || n == 0x3000

/-- A mark of a run of length `run` between two characters. Underscores within a
    word neither open nor close. -/
def Mark.between (char : Char) (run : Nat) (before after : Char) : Mark :=
  let pointBefore := Text.isPunctuation before
  let pointAfter := Text.isPunctuation after
  let gapBefore := isGap before
  let gapAfter := isGap after
  let left := !(gapAfter || (pointAfter && !(gapBefore || pointBefore)))
  let right := !(gapBefore || (pointBefore && !(gapAfter || pointAfter)))
  let splits := char == '*'
  ⟨char, run, left && (splits || !right || pointBefore), right && (splits || !left || pointAfter)⟩

/-- A mark while partners are looked for: its place among the pieces, the mark
    that closes what it opens, and how many marks before it can be skipped in a
    search that comes from behind. -/
structure Candidate where
  mark : Mark
  place : Nat
  partner : Option Nat
  jump : Nat
  deriving Inhabited

/-- What a search for an opening mark depends on, apart from where it begins. -/
structure SearchKey where
  char : Char
  opens : Bool
  third : Nat
  deriving DecidableEq

/-- The search so far: the marks, the first one of the run that is being read,
    the place of the last mark of that run, and how far down searches have
    failed. -/
structure Search where
  marks : Array Candidate
  head : Nat
  last : Option Nat
  floors : List (SearchKey × Nat)

/-- Whether two marks of these runs may be a pair. -/
def mayPair (opener closer : Mark) : Bool :=
  !((opener.closes || closer.opens) && (opener.run + closer.run) % 3 == 0 &&
    (opener.run % 3 != 0 || closer.run % 3 != 0))

/-- The opening mark below `above` for a closing one, not below `floor`. -/
def opener? (marks : Array Candidate) (closer : Mark) (floor : Nat) : (above : Nat) → Option Nat
  | 0 => none
  | above + 1 =>
    if above < floor then none
    else
      let c := marks.getD above default
      if c.mark.char == closer.char && c.mark.opens && c.partner.isNone && mayPair c.mark closer then
        some above
      else opener? marks closer floor (above - c.jump)
termination_by above => above
decreasing_by exact Nat.lt_succ_of_le (Nat.sub_le ..)

/-- The search after the mark with number `n`. -/
def Search.step (s : Search) (n : Nat) : Search :=
  let c := s.marks.getD n default
  let first := s.marks.getD s.head default
  -- Marks side by side make a run, and the search for an opener begins before the run.
  let continues := first.mark.char == c.mark.char && s.last == some (c.place - 1) && 0 < c.place
  let head := if continues then s.head else n
  let s := { s with head := head, last := some c.place }
  if !c.mark.closes then s
  else
    let key := ⟨c.mark.char, c.mark.opens, c.mark.run % 3⟩
    let above := head - (s.marks.getD head default).jump
    match opener? s.marks c.mark ((s.floors.lookup key).getD 0) above with
    | some o =>
      let opener := s.marks.getD o default
      let before := s.marks.getD (o - 1) default
      -- Later searches jump over all that is between the two marks.
      let skipped := if 0 < o && !before.mark.opens then before.jump + 1 else 0
      let opener := { opener with
        partner := some n, jump := skipped, mark := { opener.mark with closes := false } }
      let closer := { c with jump := n - o + skipped, mark := { c.mark with opens := false } }
      { s with
        marks := (s.marks.setIfInBounds n closer).setIfInBounds o opener
        last := none }
    -- No mark of this kind opens anything from here down, so later ones need not look there.
    | none => if above == 0 then s else { s with floors := (key, above) :: s.floors }

/-- The marks with the partners that they have. -/
def paired (marks : List (Mark × Nat)) : Array Candidate :=
  let all := (marks.map fun (mark, place) => (⟨mark, place, none, 0⟩ : Candidate)).toArray
  ((List.range all.size).foldl Search.step ⟨all, 0, none, []⟩).marks

/-- What becomes of a mark. -/
inductive Role where
  | literal
  | open_ (strong : Bool)
  | close
  | empty
  deriving DecidableEq, Repr, Inhabited

/-- Whether the pair that mark `n` opens makes strong emphasis together with the
    pair that the mark before it opens. -/
def isStrong (marks : Array Candidate) (n partner : Nat) : Bool :=
  0 < n &&
    (let c := marks.getD n default
     let outer := marks.getD (n - 1) default
     outer.partner == some (partner + 1) && outer.mark.char == c.mark.char &&
       outer.place + 1 == c.place &&
       (marks.getD (partner + 1) default).place == (marks.getD partner default).place + 1)

/-- The roles of the marks below `above`, from the last one down, given those of
    the marks that are settled. -/
def roles (marks : Array Candidate) : (above : Nat) → Array Role → Array Role
  | 0, settled => settled
  | n + 1, settled =>
    match (marks.getD n default).partner with
    | none => roles marks n settled
    | some partner =>
      if isStrong marks n partner then
        let settled := (settled.setIfInBounds n (.open_ true)).setIfInBounds partner .close
        let settled := (settled.setIfInBounds (n - 1) .empty).setIfInBounds (partner + 1) .empty
        roles marks (n - 1) settled
      else
        roles marks n ((settled.setIfInBounds n (.open_ false)).setIfInBounds partner .close)
termination_by above => above

/-- A text with an inline part added at its end, where texts that meet are
    joined; the text is reversed. -/
def joinPart (part : Inline) : List Inline → List Inline
  | .text before :: rest =>
    match part with
    | .text s => .text (before ++ s) :: rest
    | part => part :: .text before :: rest
  | parts => part :: parts

/-- Emphasis that is open, with the parts before it reversed. -/
structure Open where
  before : List Inline
  strong : Bool

/-- The pieces with their roles as a text: `open_` is the emphasis that is open,
    and `parts` what was read inside of the innermost one, reversed. -/
def assemble : (stack : List Open) → (parts : List Inline) → List (Piece × Role) → List Inline
  | [], parts, [] => parts.reverse
  | o :: stack, parts, [] =>
    assemble stack (joinPart (if o.strong then .strong parts.reverse else .emphasis parts.reverse)
      o.before) []
  | stack, parts, (.part part, _) :: rest => assemble stack (joinPart part parts) rest
  | stack, parts, (.mark mark, .literal) :: rest =>
    assemble stack (joinPart (.text (String.singleton mark.char)) parts) rest
  | stack, parts, (.mark _, .empty) :: rest => assemble stack (joinPart (.text "") parts) rest
  | stack, parts, (.mark _, .open_ strong) :: rest => assemble (⟨parts, strong⟩ :: stack) [] rest
  | o :: stack, parts, (.mark _, .close) :: rest =>
    let part := if o.strong then Inline.strong parts.reverse else .emphasis parts.reverse
    assemble stack (part :: o.before) rest
  | [], parts, (.mark _, .close) :: rest => assemble [] parts rest

/-- The marks of a text with their places. -/
def marksFrom : (place : Nat) → List Piece → List (Mark × Nat)
  | _, [] => []
  | place, .mark mark :: rest => (mark, place) :: marksFrom (place + 1) rest
  | place, .part _ :: rest => marksFrom (place + 1) rest

/-- The pieces with the roles of the marks, given in order. -/
def withRoles : List Role → List Piece → List (Piece × Role)
  | _, [] => []
  | role :: roles, .mark mark :: rest => (.mark mark, role) :: withRoles roles rest
  | roles, piece :: rest => (piece, .literal) :: withRoles roles rest

/-- The pieces as a text with emphasis. -/
def resolve (pieces : List Piece) : List Inline :=
  let marks := paired (marksFrom 0 pieces)
  let settled := roles marks marks.size (Array.replicate marks.size .literal)
  assemble [] [] (withRoles settled.toList pieces)

end Emphasis

end Annals
