import Annals.Value.Sorted

/-!
# Equality in Schemas

Schemas tell truth values from numbers, which keys of a mapping do not. Lists
are equal if their items are, whether they are lists, bytes or pairs; mappings
if each key of one is a key of the other, with equal values.

Values are compared to some depth only; there is no answer for values that are alike
further down.

Whether items of a list are distinct is seen from their neighbours, if the items can
be sorted, and else from all pairs of them.

## Main definitions

* `Value.equals?`: Whether two values are equal for a schema.
* `Value.areDistinct?`: Whether no two values of a list are equal.
-/

namespace Annals

namespace Value

/-- The items of a value that is a sequence of values. -/
def sequence? : Value → Option (List Value)
  | .seq _ items => some items
  | .bytes b => some (b.map fun n => .int n.toNat)
  | .pair a b => some [a, b]
  | _ => none

/-- Whether two scalars are equal for a schema: a truth value is no number. -/
def equalsScalar (a b : Value) : Bool :=
  match a, b with
  | .bool a, .bool b => a == b
  | .bool _, _ => false
  | _, .bool _ => false
  | .back m, .back n => m == n
  | .set _ a, .set _ b => a.length == b.length && a.all fun x => b.any x.sameKey
  | a, b => a.isKey && b.isKey && a.sameKey b

/-- Whether bytes are the items of a list. -/
def equalsNumbers : List UInt8 → List Value → Bool
  | [], [] => true
  | n :: rest, b :: others => equalsScalar (.int n.toNat) b && equalsNumbers rest others
  | _, _ => false

/-- The room that comparing the parts of two values takes. -/
def levelRoom : Nat := 3

mutual

/-- Whether two values are equal for a schema. -/
def equals? (room : Nat) : Value → Value → Option Bool
  | .seq _ items, b =>
    match b.sequence? with
    | none => some false
    | some others =>
      if items.length != others.length then some false
      else if room < levelRoom then none
      else equalsItems? (room - levelRoom) items others
  -- A pair is a sequence too, and can be equal to a list of two.
  | .pair x y, b =>
    match b.sequence? with
    | some [u, v] =>
      if room < levelRoom then none
      else match x.equals? (room - levelRoom) u with
        | some true => y.equals? (room - levelRoom) v
        | answer => answer
    | _ => some false
  | .map _ entries, .map _ others =>
    if entries.length != others.length then some false
    else if room < levelRoom then none
    else equalsEntries? (room - levelRoom) entries others
  | .bytes a, b =>
    match b with
    | .seq _ others => some (equalsNumbers a others)
    | .pair x y => some (equalsNumbers a [x, y])
    | b => some (equalsScalar (.bytes a) b)
  | a, b => some (equalsScalar a b)
termination_by structural v => v

/-- Whether two lists have equal items. -/
def equalsItems? (room : Nat) : List Value → List Value → Option Bool
  | [], [] => some true
  | a :: rest, b :: others =>
    match a.equals? room b with
    | some true => equalsItems? room rest others
    | answer => answer
  | _, _ => some false
termination_by structural vs => vs

/-- Whether every entry has a key of the others, with an equal value. -/
def equalsEntries? (room : Nat) : List (Value × Value) → List (Value × Value) → Option Bool
  | [], _ => some true
  | (k, v) :: rest, others =>
    match find? k others with
    | none => some false
    | some w =>
      match v.equals? room w with
      | some true => equalsEntries? room rest others
      | answer => answer
termination_by structural es => es

end

/-- Whether one of several values equals another one. -/
def equalsAny? (room : Nat) (v : Value) : List Value → Option Bool
  | [] => some false
  | w :: rest =>
    match w.equals? room v with
    | some false => equalsAny? room v rest
    | answer => answer

/-- Whether no two neighbours are equal. -/
def neighboursDiffer? (room : Nat) : List Value → Option Bool
  | a :: b :: rest =>
    match a.equals? room b with
    | some false => neighboursDiffer? room (b :: rest)
    | some true => some false
    | none => none
  | _ => some true

/-- Whether no value equals one of those before it, which are `seen`. -/
def allDiffer? (room : Nat) (seen : List Value) : List Value → Option Bool
  | [] => some true
  | v :: rest =>
    match v.equalsAny? room seen with
    | some false => allDiffer? room (seen ++ [v]) rest
    | some true => some false
    | none => none

/-- Whether an item comes before another one. Truth values are not ordered. -/
def itemIsBefore? (a b : Value) : Option Bool :=
  match a, b with
  | .bool _, _ => none
  | _, .bool _ => none
  | a, b => a.isBefore? b

/-- Whether no two items of a list are equal for a schema. -/
def areDistinct? (room : Nat) (items : List Value) : Option Bool :=
  match Sorted.of? itemIsBefore? items with
  | some sorted => neighboursDiffer? room sorted
  | none => allDiffer? room [] items

end Value

end Annals
