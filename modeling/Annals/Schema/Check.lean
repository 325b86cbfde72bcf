import Annals.Schema.Rules
import Annals.Schema.Standard

/-!
# Holding Values against Schemas

A schema's keywords are followed in their order. References can make a schema a
part of itself, so the room for schemas that are followed inside each other is
limited; a schema that needs more never comes to an end.

A schema is accepted if it conforms to the schema of its dialect.

## Main definitions

* `Schema.judgeFor`: A schema held against a value, in some room.
* `Schema`: An accepted schema.
* `Schema.accept`: Accepts a schema or says what is wrong with it.
* `Schema.violations`: The violations of a value, in the order of their places.
-/

namespace Annals

namespace Schema

/-- The room for schemas inside each other. -/
def maxRoom : Nat := 982

/-- The entries of a schema that count. -/
def applicable (d : Dialect) (entries : List (Value × Value)) : List (Value × Value) :=
  if d.refersAlone then
    match Value.lookup? "$ref" entries with
    | some .null | none => entries
    | some target => [(.text "$ref", target)]
  else entries

/-- A schema held against a value. Following another schema takes two units of room, and
    asking whether one holds takes three. -/
def judgeFor : (room : Nat) → Judge
  | 0, _, _, _, _ | 1, _, _, _, _ | 2, _, _, _, _ => .stop .endless
  | room + 3, _, c, schema, value =>
    match schema with
    | .bool true => .none
    | .bool false => .forbidden value
    | .map _ entries =>
      let inner : Judge
        | .into => judgeFor (room + 1) .into
        | .test => judgeFor room .test
      .each (applicable c.outer entries) fun (k, setting) =>
        match k with
        | .text name =>
          match c.dialect.keyword? name with
          | some rule => applyRule room rule ⟨name, setting, schema, c, inner, room⟩ value
          | none => .none
        | _ => .none
    | _ => .stop .noSchema

/-- The outcome of holding a whole schema against a value. -/
def judge (r : Registry) (d : Dialect) (checksFormats : Bool) (schema value : Value) : Outcome :=
  .decide (ownAddress d schema) fun own =>
  judgeFor maxRoom .test ⟨r, d, d, ⟨own.getD "", []⟩, checksFormats⟩ schema value

end Schema

/-- An accepted schema with its dialect and what it can refer to. -/
structure Schema where
  root : Value
  dialect : Schema.Dialect
  registry : Schema.Registry

namespace Schema

/-- Why a schema is not accepted: it is not what its dialect asks for, or it cannot
    be followed. -/
inductive Refusal where
  | invalid (message : String)
  | fault (f : Fault)
  deriving Repr

/-- Accepts a schema or says what is wrong with it first. Without an address of its
    own the dialect is the latest. -/
def accept (root : Value) : Except Refusal Schema := do
  let d ← (Dialect.of2020.inside root).mapError .fault
  match judge Registry.forStandard d true d.standard root with
  | .found v _ => .error (.invalid v.message)
  | .stop f => .error (.fault f)
  | .none =>
    let r ← (Registry.ofSchema standardSchemas d root).mapError .fault
    return ⟨root, d, r⟩

/-- The texts of a path, by which violations are ordered. -/
def Violation.key (v : Violation) : List String := v.path.map Value.plain

/-- The place of a violation as a text. -/
def Violation.place (v : Violation) : String := String.join (v.key.map ("/" ++ ·))

/-- Whether a list of texts is not after another one. -/
def notAfter : List String → List String → Bool
  | [], _ => true
  | _ :: _, [] => false
  | a :: rest, b :: others => if a == b then notAfter rest others else a < b

/-- Whether a violation can be reported: no integer in its path is too long to be shown,
    and none in what the value is checked against. -/
def Violation.isReportable (v : Violation) : Bool :=
  !v.path.any Value.holdsLong && !v.setting.holdsLong

/-- The violations of a value, ordered by the texts of their paths; among those of
    one path, the order in which they were found. -/
def violations (s : Schema) (value : Value) : Except Fault (List Violation) := do
  let found ← (judge s.registry s.dialect false s.root value).violations
  if found.all Violation.isReportable then
    return found.mergeSort fun a b => notAfter a.key b.key
  else throw .longInteger

end Schema

end Annals
