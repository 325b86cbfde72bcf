import Annals.Text.Line

/-!
# Alternatives in Patterns

A group of alternatives is a pair of braces with a comma between them and no other
brace. The first group of a pattern is replaced by each of its alternatives in
turn, and what comes out is expanded again. Every step takes away one opening
brace, so their number bounds the steps.

## Main definitions

* `Brace.findGroup?`: The first group of a pattern.
* `Brace.expand`: The patterns without groups that a pattern stands for.
-/

namespace Annals

namespace Brace

/-- Whether a character is a brace. -/
def isBrace (c : Char) : Bool := c == '\x7b' || c == '\x7d'

/-- The first group of a pattern: what is before it, its alternatives, and what is
    after it. -/
def findGroup? : List Char → Option (List Char × List (List Char) × List Char)
  | [] => none
  | c :: rest =>
    let body := rest.takeWhile (!isBrace ·)
    let after := rest.dropWhile (!isBrace ·)
    if c == '\x7b' && body.contains ',' && after.head? == some '\x7d' then
      some ([], Text.splitOn ',' body, after.drop 1)
    else (findGroup? rest).map fun (before, options, after) => (c :: before, options, after)

/-- The patterns that a pattern stands for, with at most `fuel` groups replaced. -/
def expandFor : (fuel : Nat) → List Char → List (List Char)
  | 0, cs => [cs]
  | fuel + 1, cs =>
    match findGroup? cs with
    | none => [cs]
    | some (before, options, after) =>
      options.flatMap fun option => expandFor fuel (before ++ option ++ after)

/-- The patterns without groups that a pattern stands for. -/
def expand (pattern : String) : List String :=
  (expandFor (pattern.toList.count '\x7b') pattern.toList).map String.ofList

end Brace

end Annals
