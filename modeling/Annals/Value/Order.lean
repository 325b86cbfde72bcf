import Annals.Value.Equal

/-!
# The Order of Values

Which of two values comes first. Texts are ordered by their characters, numbers by
their size, days and times by when they are, and lists by the first place where they
differ. A set comes before those that have all its members and more. Values of
different kinds, and all others, have no order.

## Main definitions

* `Value.same`: Whether two values are equal.
* `Value.isBefore?`: Whether a value comes before another one, if they have an order.
-/

namespace Annals

namespace Value

mutual

/-- Whether two values are equal. Mappings are equal if they have equal values under
    the same keys, in whatever order. -/
def same : Value → Value → Bool
  | .seq _ items, .seq _ others => sameItems items others
  | .map _ entries, .map _ others =>
    entries.length == others.length && sameEntries entries others
  | .pair a b, .pair c d => same a c && same b d
  | .set _ members, .set _ others =>
    members.length == others.length && members.all fun v => others.any v.sameKey
  | .back m, .back n => m == n
  | a, b => a.sameKey b
termination_by structural a => a

/-- Whether two lists of values are equal. -/
def sameItems : List Value → List Value → Bool
  | [], [] => true
  | a :: rest, b :: others => same a b && sameItems rest others
  | _, _ => false
termination_by structural items => items

/-- Whether each entry is among `others`. -/
def sameEntries : List (Value × Value) → List (Value × Value) → Bool
  | [], _ => true
  | (k, v) :: rest, others =>
    (match find? k others with
    | some w => same v w
    | none => false) && sameEntries rest others
termination_by structural entries => entries

end

/-- Whether a value is in the order of numbers, be it without a place in it. -/
def isNumeric : Value → Bool
  | .bool _ | .int _ | .float _ => true
  | _ => false

/-- Whether a scalar or a set comes before another one; none if they have no order. -/
def scalarIsBefore? : Value → Value → Option Bool
  | .text s, .text t => some (s < t)
  | .bytes s, .bytes t => some (s.map UInt8.toNat < t.map UInt8.toNat)
  | .date s, .date t => some (s.ordinal < t.ordinal)
  | .moment s, .moment t =>
    if s.offset.isSome == t.offset.isSome then some (s.instant < t.instant) else none
  | .set _ members, .set _ others =>
    some (members.length < others.length && members.all fun v => others.any v.sameKey)
  | a, b =>
    if !a.isNumeric || !b.isNumeric then none
    else match a.number?, b.number? with
      | some x, some y => some (x.compare y == .lt)
      | _, _ => some false

mutual

/-- Whether a value comes before another one; none if they have no order. -/
def isBefore? : Value → Value → Option Bool
  | .seq _ items, .seq _ others => listIsBefore? items others
  | .pair a b, .pair c d =>
    if same a c then if same b d then some false else isBefore? b d else isBefore? a c
  | a, b => scalarIsBefore? a b
termination_by structural a => a

/-- Whether a list comes before another one: where they first differ its item does, or
    it is the beginning of the other one. -/
def listIsBefore? : List Value → List Value → Option Bool
  | [], others => some !others.isEmpty
  | _ :: _, [] => some false
  | a :: rest, b :: others => if same a b then listIsBefore? rest others else isBefore? a b
termination_by structural items => items

end

end Value

end Annals
