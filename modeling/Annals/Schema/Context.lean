import Annals.Pattern.Search
import Annals.Schema.Equality
import Annals.Schema.Outcome
import Annals.Schema.Registry

/-!
# What Rules Work With

A rule of a keyword looks at the setting of the keyword, at the schema it stands
in and at the value. To hold parts of the value against other schemas it is
given a judge, so the rules do not depend on how schemas are held against values
as a whole.

## Main definitions

* `Schema.Context`: Where a schema stands.
* `Schema.Judge`: How a schema is held against a value.
* `Schema.Step`: Following a schema, or asking whether it holds.
* `Schema.descend`, `Schema.holds`: A schema inside another one, and whether a
  value conforms to it.
* `Value.isOfType?`: Whether a value is of a type.
-/

namespace Annals

namespace Schema

/-- Where a schema stands: what can be referred to, its dialect, the dialect that says
    which of its entries count, the way to it, and whether texts are held against the
    formats that they should have. -/
structure Context where
  registry : Registry
  dialect : Dialect
  outer : Dialect
  scope : Scope
  checksFormats : Bool

/-- How a rule comes to another schema: it follows it and passes its violations on, or it
    only asks whether there are any. -/
inductive Step where
  | into
  | test
  deriving DecidableEq, Repr

/-- How a schema is held against a value, after a step. -/
abbrev Judge := Step → Context → (schema value : Value) → Outcome

/-- A schema followed with a scope, held against a value. The entries that count are
    those that do in the dialect of the current schema. -/
def follows (judge : Judge) (c : Context) (scope : Except Fault Scope) (schema value : Value) :
    Outcome :=
  match schema with
  | .bool true => .none
  | .bool false => .forbidden value
  | _ =>
    .decide scope fun scope =>
    .decide (c.dialect.inside schema) fun d =>
    judge .into { c with scope := scope, dialect := d, outer := c.dialect } schema value

/-- A schema inside the current one, held against a value. -/
def descend (judge : Judge) (c : Context) (schema value : Value) : Outcome :=
  follows judge c (c.scope.inside c.dialect schema) schema value

/-- A schema inside the current one, held against a part of the value. What a
    schema that allows nothing forbids has the place of the whole, and a key that is
    null leads no further. -/
def descendAt (judge : Judge) (c : Context) (key : Value) (schema value : Value) : Outcome :=
  match schema, key with
  | .bool _, _ | _, .null => descend judge c schema value
  | _, _ => (descend judge c schema value).beneath key

/-- Whether a value conforms to a schema inside the current one. -/
def holds (judge : Judge) (c : Context) (schema value : Value) : Except Fault Bool := do
  let d ← c.dialect.inside schema
  (judge .test { c with dialect := d, outer := d } schema value).conforms

/-- What a reference means, held against a value. -/
def descendTo (judge : Judge) (c : Context) (target : Except Fault (Value × Scope))
    (value : Value) : Outcome :=
  .decide target fun (schema, scope) => follows judge c (.ok scope) schema value

/-- A pattern that is read. -/
def patternOf (text : String) : Except Fault Pattern.Expr :=
  (Pattern.read text).mapError (.pattern text)

/-- Whether a pattern occurs in a text. -/
def occurs (pattern : String) (text : Value) : Except Fault Bool := do
  let e ← patternOf pattern
  match text with
  | .text s => return Pattern.occursIn e s
  | _ => throw .unsuited

end Schema

namespace Value

/-- Whether a value is of a type; none if the type has no meaning. -/
def isOfType? (d : Schema.Dialect) (name : String) (v : Value) : Option Bool :=
  match name with
  | "array" => some v.isArray
  | "object" => some v.isObject
  | "string" => some v.isText
  | "number" => some v.isNumber
  | "null" => some (match v with | .null => true | _ => false)
  | "boolean" => some (match v with | .bool _ => true | _ => false)
  | "integer" => some (match v with
    | .int _ => true
    | .float x => d.wholeIsInteger && x.isWhole
    | _ => false)
  | "any" => if d == .third then some true else none
  | _ => none

/-- The order of two numbers; none if there is none. What is no number cannot be
    compared. -/
def order? (a b : Value) : Except Schema.Fault (Option Ordering) :=
  let isNumeric (v : Value) : Bool := match v with
    | .bool _ | .int _ | .float _ => true
    | _ => false
  if isNumeric a && isNumeric b then
    match a.number?, b.number? with
    | some x, some y => .ok (some (x.compare y))
    | _, _ => .ok none
  else .error .unsuited

/-- A value as the items of a list, if a keyword has a list in it or one item. -/
def orSingle : Value → List Value
  | .seq _ items => items
  | v => [v]

end Value

end Annals
