import Annals.Value.Order

/-!
# Sorting Values

Sorting by insertion: a run at the start of a list that is in order, or in the opposite
order, is kept or turned around, and every other item is put into its place, which is
found by halving. Where the order is not that of a line, the result depends on which
items are compared.

## Main definitions

* `Sorted.of?`: The sorted items, if all that are compared have an order.
-/

namespace Annals

namespace Sorted

variable {α : Type}

/-- The items that go on with a run, which is in reverse, and the others. -/
def takeRun? (isBefore? : α → α → Option Bool) (descending : Bool) :
    (run items : List α) → Option (List α × List α)
  | run, [] => some (run, [])
  | [], items => some ([], items)
  | last :: run, x :: rest => do
    if (← isBefore? x last) == descending then
      takeRun? isBefore? descending (x :: last :: run) rest
    else return (last :: run, x :: rest)

/-- The place of an item among sorted ones from `low` to `high`. -/
def placeOf? (isBefore? : α → α → Option Bool) (x : α) (sorted : Array α) (low high : Nat) :
    Option Nat :=
  if low < high then
    let middle := low + (high - low) / 2
    match sorted[middle]? with
    | none => some low
    | some y =>
      match isBefore? x y with
      | none => none
      | some true => placeOf? isBefore? x sorted low middle
      | some false => placeOf? isBefore? x sorted (middle + 1) high
  else some low
termination_by high - low

/-- Sorted items with one more. -/
def insert? (isBefore? : α → α → Option Bool) (sorted : List α) (x : α) : Option (List α) := do
  let place ← placeOf? isBefore? x sorted.toArray 0 sorted.length
  return sorted.take place ++ x :: sorted.drop place

/-- The sorted items; none if two that are compared have no order. -/
def of? (isBefore? : α → α → Option Bool) : List α → Option (List α)
  | a :: b :: rest => do
    let descending ← isBefore? b a
    let (run, rest) ← takeRun? isBefore? descending [b, a] rest
    rest.foldlM (insert? isBefore?) (if descending then run else run.reverse)
  | items => some items

end Sorted

end Annals
