import Annals.Schema.Check

/-!
# Tame Schemas

There are schemas that are accepted and yet cannot be followed: a reference leads nowhere, a
pattern is held against a key that is no text, a schema is a part of itself. A tame schema
is one with which nothing of this kind can happen, whatever modest value it is held against.

Tameness is read off the schema. A rule is tame by its setting, if the schemas in the
setting are. References are looked up and followed, so a schema that comes back to itself
would have no end; tameness is asked for up to a depth only, which is no loss, since the room
for following schemas inside each other is bounded too.

Of some rules nothing is said. Whether they end depends on more than their setting, as for
patterns that are held against keys.

## Main definitions

* `Schema.tameRule`: Which rules come to their end.
* `Schema.isTame`: A schema with which every check comes to its end.
* `Schema.Sample.schema`: The schema for histories, which is tame.
-/

namespace Annals

namespace Value

/-- Whether a value is a list of values of a kind. -/
def isListOf (p : Value → Bool) : Value → Bool
  | .seq _ items => items.all p
  | _ => false

/-- Whether a value is a mapping to values of a kind. -/
def isMappingTo (p : Value → Bool) : Value → Bool
  | .map _ entries => entries.all fun e => p e.2
  | _ => false

/-- A scalar that equals nothing but scalars. -/
def isAtom : Value → Bool
  | .null | .bool _ | .int _ | .float _ | .text _ | .date _ | .moment _ => true
  | _ => false

end Value

namespace Schema

/-- Whether a value is the name of a type in a dialect. -/
def isTypeName (d : Dialect) : Value → Bool
  | .text name => (Value.null.isOfType? d name).isSome
  | _ => false

/-- Whether a value is a pattern that can be read. -/
def isPattern : Value → Bool
  | .text s => (patternOf s).isOk
  | _ => false

/-- Whether a schema is tame where it is followed with a scope. -/
def tameWhere (tame : Context → Value → Bool) (c : Context) (scope : Except Fault Scope)
    (schema : Value) : Bool :=
  match schema with
  | .bool _ => true
  | _ =>
    match scope, c.dialect.inside schema with
    | .ok scope, .ok d => tame { c with scope := scope, dialect := d, outer := c.dialect } schema
    | _, _ => false

/-- Whether a schema is tame where it is only asked whether a value conforms to it. -/
def tameAsked (tame : Context → Value → Bool) (c : Context) (schema : Value) : Bool :=
  match c.dialect.inside schema with
  | .ok d => tame { c with dialect := d, outer := d } schema
  | .error _ => false

/-- Whether a reference leads to a tame schema. -/
def tameReference (tame : Context → Value → Bool) (c : Context) : Value → Bool
  | .text s =>
    match referred (c.registry.lookup c.scope s) with
    | .ok (target, scope) => tameWhere tame c (.ok scope) target
    | .error _ => false
  | _ => false

/-- Whether a rule with a setting comes to its end on every modest value, given which
    schemas inside are tame. Of rules whose end depends on more than the setting it is not
    said that they do. -/
def tameRule (tame : Context → Value → Bool) (c : Context) (schema setting : Value)
    (rule : Keyword) : Bool :=
  let follow (s : Value) : Bool := tameWhere tame c (c.scope.inside c.dialect s) s
  let ask : Value → Bool := tameAsked tame c
  match rule with
  | .reference | .dynamicReference => tameReference tame c setting
  | .additionalProperties =>
    (schema.get? "patternProperties").isNone && (schema.get? "properties").all Value.isObject &&
      (!setting.isObject || follow setting)
  | .allOf | .anyOf | .tuple => setting.isListOf follow
  | .oneOf => setting.isListOf fun s => follow s && ask s
  | .not => ask setting
  | .condition =>
    ask setting && (schema.get? "then").all follow && (schema.get? "else").all follow
  | .const => setting.isAtom
  | .enum => setting.isListOf Value.isAtom
  | .exclusiveMaximum | .exclusiveMinimum | .maximum | .minimum | .maximumWithFlag
  | .minimumWithFlag | .maxItems | .minItems | .maxLength | .minLength | .maxProperties
  | .minProperties => setting.isNumeric
  | .format => !c.checksFormats
  | .itemsAfterTuple => follow setting
  | .itemsOrTuple => if setting.isObject then follow setting else setting.isListOf follow
  | .itemsOrTupleStrict => setting.isListOf follow || (!setting.isArray && follow setting)
  | .pattern => isPattern setting
  | .properties => setting.isMappingTo follow
  | .propertyNames => follow setting
  | .required => setting.isArray
  | .type => setting.orSingle.all (isTypeName c.dialect)
  | .uniqueItems => !setting.isTrue
  | _ => false

/-- Whether a schema is tame, where schemas are inside each other to some depth only. -/
def isTameFor : (depth : Nat) → Context → Value → Bool
  | 0, _, _ => false
  | depth + 1, c, schema =>
    match schema with
    | .bool _ => true
    | .map _ entries =>
      (applicable c.outer entries).all fun (k, setting) =>
        match k with
        | .text name =>
          match c.dialect.keyword? name with
          | some rule => !setting.holdsLong && tameRule (isTameFor depth) c schema setting rule
          | none => true
        | _ => true
    | _ => false

/-- The depth to which schemas can be inside each other in the room that there is. -/
def maxDepth : Nat := maxRoom / 3

/-- Whether an accepted schema is tame. -/
def isTame (s : Schema) : Bool :=
  match ownAddress s.dialect s.root with
  | .ok own =>
    isTameFor maxDepth ⟨s.registry, s.dialect, s.dialect, ⟨own.getD "", []⟩, false⟩ s.root
  | .error _ => false

namespace Sample

/-- A schema for texts, with other limits. -/
def text (limits : List (String × Value)) : Value := .object (("type", .text "string") :: limits)

/-- A schema for one record of a history. -/
def record : Value :=
  .object [
    ("type", .text "object"),
    ("properties", .object [
      ("pr-url", text [("pattern", .text "^https://github\\.com/electron/electron/pull/\\d+$")]),
      ("breaking-changes-header", text [("minLength", .int 3)]),
      ("description", text [("minLength", .int 3)])]),
    ("required", .seq 0 [.text "pr-url"]),
    ("additionalProperties", .bool false)]

/-- A schema for histories. -/
def root : Value :=
  let records : Value := .object [("$ref", .text "#/definitions/records")]
  .object [
    ("$schema", .text "http://json-schema.org/draft-07/schema#"),
    ("type", .text "object"),
    ("properties", .object [("added", records), ("deprecated", records), ("changes", records),
      ("removed", records)]),
    ("additionalProperties", .bool false),
    ("definitions", .object [
      ("records", .object [("type", .text "array"),
        ("items", .object [("$ref", .text "#/definitions/record")])]),
      ("record", record)])]

/-- The schema for histories, with what it can refer to. -/
def schema : Schema :=
  ⟨root, .seventh, ⟨standardSchemas, [⟨"", true, .seventh, root, []⟩], crawl .seventh "" root⟩⟩

example : Registry.ofSchema standardSchemas .seventh root = .ok schema.registry := rfl

/-- The references of the schema are followed, and its pattern is read. -/
theorem isTame_schema : schema.isTame = true := by
  decide +kernel

end Sample

end Schema

end Annals
