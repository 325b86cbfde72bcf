import Annals.Value.Basic

/-!
# Parts of Values

A part of a container can refer back to the container. Taken out, such a part
would lose what it refers to, so every reference to the container is filled
with the container itself: what comes out is again a value that holds all it
speaks of. A reference is left alone below a container with its own number,
which is what it means there.

## Main definitions

* `Value.filled`: A value with a container put in for the references to it.
* `Value.part`: A part of a container as a value of its own.
* `Value.isTrue`: Whether a value counts as true.
-/

namespace Annals

namespace Value

mutual

/-- A value with `whole` in place of the references to the container `id`. -/
def filled (id : Nat) (whole : Value) : Value → Value
  | .seq n items => if n == id then .seq n items else .seq n (filledItems id whole items)
  | .map n entries => if n == id then .map n entries else .map n (filledEntries id whole entries)
  | .pair a b => .pair (filled id whole a) (filled id whole b)
  | .back n => if n == id then whole else .back n
  | v => v
termination_by structural v => v

/-- Several values with `whole` in place of the references to it. -/
def filledItems (id : Nat) (whole : Value) : List Value → List Value
  | [] => []
  | v :: rest => filled id whole v :: filledItems id whole rest
termination_by structural vs => vs

/-- Entries with `whole` in place of the references to it. -/
def filledEntries (id : Nat) (whole : Value) : List (Value × Value) → List (Value × Value)
  | [] => []
  | (k, v) :: rest => (k, filled id whole v) :: filledEntries id whole rest
termination_by structural es => es

end

/-- A part of a container as a value of its own. A container that nothing refers
    back to has the number 0. -/
def part (whole child : Value) : Value :=
  match whole.id? with
  | none => child
  | some 0 => child
  | some id => filled id whole child

/-- The items of a list, as values of their own. -/
def parts (whole : Value) : List Value :=
  match whole with
  | .seq _ items => items.map (whole.part ·)
  | _ => []

/-- The value under a textual key of a mapping, as a value of its own. -/
def field? (whole : Value) (key : String) : Option Value := (whole.get? key).map (whole.part ·)

/-- Whether a value counts as true: it is not null, false, zero or empty. -/
def isTrue : Value → Bool
  | .null => false
  | .bool b => b
  | .int n => n != 0
  | .float (.finite _ m _) => m != 0
  | .text s => !s.isEmpty
  | .bytes b => !b.isEmpty
  | .seq _ items => !items.isEmpty
  | .map _ entries => !entries.isEmpty
  | .set _ members => !members.isEmpty
  | _ => true

end Value

end Annals
