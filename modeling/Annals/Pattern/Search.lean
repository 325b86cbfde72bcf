import Annals.Pattern.Reader

/-!
# Searching for Patterns

Whether a text has a part that a pattern matches. Of the ways in which a part can
match, the first counts: alternatives in their order, repetitions as their greed
says. What is left to match after a part is a list of tasks, so that a later
failure can take back an earlier choice.

A run is bounded by the number of tasks on one way through a text. Every turn of a
repetition takes a character or is its last one, so a task is met at most once for
every character, place and part that is around it.

## Main definitions

* `Pattern.Task`: What is left to match.
* `Pattern.run`: The end of the first match of some tasks at a place.
* `Pattern.occursIn`: Whether a pattern matches somewhere in a text.
-/

namespace Annals

namespace Pattern

/-- What is left to match: a pattern, the end of a group that began at a place,
    or more turns of a repetition whose last turn began at a place. -/
inductive Task where
  | expr (e : Expr)
  | close (number start : Nat)
  | turn (e : Expr) (least : Nat) (most : Option Nat) (lazily : Bool) (start : Nat)

/-- What groups matched, the latest first. -/
abbrev Captures := List (Nat × (Nat × Nat))

/-- Whether a word begins or ends at a place. -/
def atWordEdge (ascii : Bool) (text : Array Char) (pos : Nat) : Bool :=
  let inWord (c : Option Char) : Bool := (c.map (CharClass.has ⟨.word, false, ascii⟩)).getD false
  let before := if pos == 0 then none else text[pos - 1]?
  inWord before != inWord text[pos]?

/-- Whether a place is of a kind. -/
def Place.holds (p : Place) (text : Array Char) (pos : Nat) : Bool :=
  let atEnd := pos == text.size
  match p with
  | start => pos == 0
  | lineStart => pos == 0 || text[pos - 1]? == some '\n'
  | stop soft => atEnd || (soft && pos + 1 == text.size && text[pos]? == some '\n')
  | lineEnd => atEnd || text[pos]? == some '\n'
  | wordEdge negated ascii => if text.isEmpty then false else atWordEdge ascii text pos != negated

/-- Whether a set has a character. -/
def setHas (negated : Bool) (members : List Member) (r : CaseRule) (c : Char) : Bool :=
  let c := Char.ofNat (r.lower c.toNat)
  (members.any fun m => m.has c) != negated

/-- Whether two characters are compared in the same form. -/
def sameChar (r : CaseRule) (c d : Char) : Bool := r.lower c.toNat == r.lower d.toNat

/-- The end of an earlier match that is found again at a place. -/
def again? (r : CaseRule) (text : Array Char) (pos : Nat) (from_ to_ : Nat) : Option Nat :=
  let n := to_ - from_
  let here := (text.extract pos (pos + n)).toList
  let there := (text.extract from_ to_).toList
  if here.length == n && (here.zip there).all fun (c, d) => sameChar r c d then some (pos + n)
  else none

/-- The end of the first match of some tasks at a place, and what groups matched. -/
def run (text : Array Char) : (fuel : Nat) → List Task → Nat → Captures → Option (Nat × Captures)
  | 0, _, _, _ => none
  | _ + 1, [], pos, captures => some (pos, captures)
  | fuel + 1, .close number start :: tasks, pos, captures =>
    run text fuel tasks pos ((number, (start, pos)) :: captures)
  | fuel + 1, .turn e least most lazily start :: tasks, pos, captures =>
    -- A turn that has taken nothing ends the repetition, which would never end else.
    if pos == start then run text fuel tasks pos captures
    else run text fuel (.expr (.repeat e least most (if lazily then .least else .most)) :: tasks)
      pos captures
  | fuel + 1, .expr e :: tasks, pos, captures =>
    let taking (accepts : Char → Bool) : Option (Nat × Captures) :=
      match text[pos]? with
      | some c => if accepts c then run text fuel tasks (pos + 1) captures else none
      | none => none
    match e with
    | .empty => run text fuel tasks pos captures
    | .fail => none
    | .char n => taking fun c => c.toNat == n
    | .any lineEnds => taking fun c => lineEnds || c != '\n'
    | .set negated members r => taking (setHas negated members r)
    | .place p => if p.holds text pos then run text fuel tasks pos captures else none
    | .seq a b => run text fuel (.expr a :: .expr b :: tasks) pos captures
    | .alt a b =>
      match run text fuel (.expr a :: tasks) pos captures with
      | some found => some found
      | none => run text fuel (.expr b :: tasks) pos captures
    | .group number e => run text fuel (.expr e :: .close number pos :: tasks) pos captures
    | .backReference number r =>
      match captures.lookup number with
      | none => none
      | some (start, stop) =>
        match again? r text pos start stop with
        | none => none
        | some pos => run text fuel tasks pos captures
    | .repeat e least most greed =>
      match greed with
      | .only =>
        -- Matched by itself, so that nothing behind it can make it give back what it has taken.
        match run text fuel [.expr (.repeat e least most .most)] pos captures with
        | none => none
        | some (pos, captures) => run text fuel tasks pos captures
      | greed =>
        let lazily := greed == .least
        let turn := .turn e (least - 1) (most.map (· - 1)) lazily pos
        -- Both ways are put off, and the second one is gone only if the first one fails.
        let more (_ : Unit) := run text fuel (.expr e :: turn :: tasks) pos captures
        let enough (_ : Unit) := run text fuel tasks pos captures
        if 0 < least then more ()
        else if most == some 0 then enough ()
        else if lazily then
          match enough () with
          | some found => some found
          | none => more ()
        else match more () with
          | some found => some found
          | none => enough ()
    | .look negated e =>
      -- What was looked at gives its groups, but the place stays.
      match run text fuel [.expr e] pos captures with
      | some (_, inner) => if negated then none else run text fuel tasks pos inner
      | none => if negated then run text fuel tasks pos captures else none
    | .lookBehind negated width e =>
      -- The width is fixed, so there is only one place to begin at.
      let found := if pos < width then none else run text fuel [.expr e] (pos - width) captures
      match found with
      | some (_, inner) => if negated then none else run text fuel tasks pos inner
      | none => if negated then run text fuel tasks pos captures else none
    | .atomic e =>
      match run text fuel [.expr e] pos captures with
      | none => none
      | some (pos, captures) => run text fuel tasks pos captures
    | .conditional number yes no =>
      let e := if (captures.lookup number).isSome then yes else no
      run text fuel (.expr e :: tasks) pos captures

/-- A bound for the tasks on one way through a text of some length. -/
def Expr.bound (e : Expr) (length : Nat) : Nat :=
  (e.size + 2) * (e.size + 2) * (length + 2) * 4

/-- Whether a pattern matches somewhere in a text. -/
def occursIn (e : Expr) (text : String) : Bool :=
  let cs := text.toList.toArray
  let fuel := e.bound cs.size
  (List.range (cs.size + 1)).any fun pos => (run cs fuel [.expr e] pos []).isSome

end Pattern

end Annals
