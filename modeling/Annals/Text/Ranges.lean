/-!
# Ranges of Characters

A property of characters that no short rule gives is kept as a table: the
code points that have it, as closed ranges in ascending order. Looking a
character up walks the table and stops at the first range that starts after
it, so the characters that texts are mostly made of are found at once.

## Main definitions

* `Ranges`: Closed ranges of code points, ascending.
* `Ranges.has`: Whether a code point lies in one of the ranges.
-/

namespace Annals

/-- Closed ranges of code points in ascending order. -/
abbrev Ranges := List (Nat × Nat)

namespace Ranges

/-- Whether `n` lies in one of the ranges. Only the ranges that start at or
    below `n` are looked at. -/
def has : Ranges → Nat → Bool
  | [], _ => false
  | (low, high) :: rest, n => if n < low then false else n ≤ high || has rest n

/-- The range that holds `n`, if any. -/
def find? : Ranges → Nat → Option (Nat × Nat)
  | [], _ => none
  | (low, high) :: rest, n =>
    if n < low then none else if n ≤ high then some (low, high) else find? rest n

end Ranges

end Annals
