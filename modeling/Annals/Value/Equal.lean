import Annals.Value.Basic

/-!
# Equality of Values

Two notions. As keys of a mapping, values are compared by what they mean:
truth values are the numbers 1 and 0, and an integer equals a float of the same
value. Only scalars can be keys. A mark of no number equals nothing, but is
found as a key by its own identity.

## Main definitions

* `Value.number?`: The place of a value in the order of numbers.
* `Value.isKey`: Whether a value can be a key.
* `Value.sameKey`: Whether two keys are one.
-/

namespace Annals

namespace Value

/-- The place of a value in the order of numbers; truth values count as 1 and
    0. -/
def number? : Value → Option Extended
  | .bool b => some (.ratio (if b then 1 else 0) 1)
  | .int n => some (.ratio n 1)
  | .float x => x.extended?
  | _ => none

/-- Whether two values are the same number. -/
def sameNumber (a b : Value) : Bool :=
  match a.number?, b.number? with
  | some x, some y => x.compare y == .eq
  | _, _ => false

/-- Whether a value can be a key of a mapping or a member of a set. -/
def isKey : Value → Bool
  | .seq .. | .map .. | .set .. | .back _ => false
  | _ => true

/-- Whether two times are the same instant. A local time is never the same as
    one whose distance from universal time is known. -/
def sameMoment (a b : Moment) : Bool :=
  a.offset.isSome == b.offset.isSome && a.instant == b.instant

/-- Whether two scalars are equal, or the very same mark of no number. -/
def sameKey (a b : Value) : Bool :=
  match a, b with
  | .null, .null => true
  | .text s, .text t => s == t
  | .bytes s, .bytes t => s == t
  | .date s, .date t => s == t
  | .moment s, .moment t => sameMoment s t
  | .float (.nan m), .float (.nan n) => m == n
  | a, b => sameNumber a b

/-- The entries with `value` under `key`: in place of the value that `key` had,
    or at the end. -/
def insert (key value : Value) : List (Value × Value) → List (Value × Value)
  | [] => [(key, value)]
  | (k, v) :: rest => if k.sameKey key then (k, value) :: rest else (k, v) :: insert key value rest

/-- The value under a key of any kind. -/
def find? (key : Value) : List (Value × Value) → Option Value
  | [] => none
  | (k, v) :: rest => if k.sameKey key then some v else find? key rest

end Value

end Annals
