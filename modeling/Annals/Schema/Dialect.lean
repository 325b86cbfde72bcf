import Annals.Pattern.Fault
import Annals.Schema.Address
import Annals.Text.Quoted
import Annals.Value.Equal
import Annals.Value.Part

/-!
# Dialects of Schemas

There are six dialects. A schema names its own by an address; a part of it that
names none has the dialect of what is around it. A dialect says which keywords
there are, and for some of them which of several rules they follow.

## Main definitions

* `Schema.Dialect`: The dialects.
* `Schema.Keyword`: The rules.
* `Schema.Dialect.keyword?`: The rule of a keyword in a dialect.
* `Schema.Fault`: Why a schema cannot be followed.
-/

namespace Annals

namespace Schema

/-- What a reference leads to where nothing is: no schema has the address; a path leads
    out of the schema that is at the address; the schema has no such anchor; a name
    cannot be that of an anchor; a schema on the way is not known by its address. The
    texts are those of the reference, the path, the name or the address, and of the
    schema. -/
inductive Missing where
  | address (reference : String)
  | path (way schema : String)
  | anchor (name schema : String)
  | anchorName (name : String)
  | resource (address : String)
  deriving DecidableEq, Repr

/-- The wording for what is missing. -/
def Missing.message : Missing → String
  | address reference => reference
  | path way schema =>
    Text.quoted way ++ " does not exist within " ++ schema ++
      if way == "/" then ". The pointer '/' is a valid JSON Pointer but it points to " ++
        "an empty string property ''. If you intended to point " ++
        "to the entire resource, you should use '#'." else ""
  | anchor name schema => Text.quoted name ++ " does not exist within " ++ schema
  | resource name => Text.quoted name
  | anchorName name =>
    "'#" ++ name ++ "' is not a valid anchor, neither as a plain name anchor nor as a JSON Pointer. " ++
      "You may have intended to use '#/" ++ name ++ "', as the slash is required *before each " ++
      "segment* of a JSON pointer."

/-- Why a schema cannot be followed to an answer: a reference leads nowhere, or what is
    asked of it does; a value is of a kind that a rule cannot work on; something is no
    schema; a type has no meaning; a pattern cannot be read; an address cannot be one;
    the schema never comes to an end; a list has no place that is meant by a text, or
    by so many digits. Of numbers: an integer is too long to be shown, or too large to
    be divided by; a quotient is no number; a number is infinite; a divisor is zero. -/
inductive Fault where
  | reference
  | missing (m : Missing)
  | unsuited
  | noSchema
  | unknownType (name schema value : String)
  | pattern (text : String) (f : Pattern.Fault)
  | address (f : Address.Fault)
  | endless
  | place (name : String)
  | longPlace (digits : Nat)
  | longInteger
  | largeInteger
  | noQuotient
  | infinite
  | zeroDivisor (operation : String)
  deriving DecidableEq, Repr

/-- The characters of a text in a message, if it is long. -/
def maxShown : Nat := 200

/-- The wording of a fault. -/
def Fault.message : Fault → String
  | reference => "A reference leads nowhere"
  | missing m => m.message
  | unsuited => "A rule meets a value that it cannot work on"
  | noSchema => "Something that is no schema is in the place of one"
  | unknownType name schema value =>
    "Unknown type " ++ name ++ " for validator with schema:\n    " ++ schema ++
      "\n\nWhile checking instance:\n    " ++ value
  | pattern text f => f.message text.toList
  | address f => f.message
  | endless => "A schema never comes to an end"
  | place name =>
    "invalid literal for int() with base 10: " ++
      String.ofList ((Text.quoted name).toList.take maxShown)
  | longPlace digits => longNumberMessage digits
  | longInteger => longIntegerMessage
  | largeInteger => largeIntegerMessage
  | noQuotient => "cannot convert float NaN to integer"
  | infinite => "cannot convert Infinity to integer ratio"
  | zeroDivisor operation => operation

/-- The dialects, the oldest first. -/
inductive Dialect where
  | third
  | fourth
  | sixth
  | seventh
  | of2019
  | of2020
  deriving DecidableEq, Repr, Inhabited

/-- The rules that keywords follow. Where older dialects have a rule of their own,
    it is one here. -/
inductive Keyword where
  | reference
  | dynamicReference
  | recursiveReference
  | additionalItems
  | additionalProperties
  | allOf
  | anyOf
  | const
  | containsCounted
  | containsAny
  | dependencies
  | dependenciesOnName
  | dependentRequired
  | dependentSchemas
  | disallow
  | enum
  | exclusiveMaximum
  | exclusiveMinimum
  | extends
  | format
  | condition
  | itemsAfterTuple
  | itemsOrTuple
  | itemsOrTupleStrict
  | maxItems
  | maxLength
  | maxProperties
  | maximum
  | maximumWithFlag
  | minItems
  | minLength
  | minProperties
  | minimum
  | minimumWithFlag
  | multipleOf
  | not
  | oneOf
  | pattern
  | patternProperties
  | tuple
  | properties
  | propertiesWithFlag
  | propertyNames
  | required
  | type
  | typeOrSchema
  | unevaluatedItems
  | unevaluatedProperties
  | uniqueItems
  deriving DecidableEq, Repr

namespace Dialect

/-- The place of a dialect in their order. -/
def age : Dialect → Nat
  | third => 3
  | fourth => 4
  | sixth => 6
  | seventh => 7
  | of2019 => 8
  | of2020 => 9

/-- The address that names a dialect. -/
def address : Dialect → String
  | third => "http://json-schema.org/draft-03/schema"
  | fourth => "http://json-schema.org/draft-04/schema"
  | sixth => "http://json-schema.org/draft-06/schema"
  | seventh => "http://json-schema.org/draft-07/schema"
  | of2019 => "https://json-schema.org/draft/2019-09/schema"
  | of2020 => "https://json-schema.org/draft/2020-12/schema"

/-- All dialects. -/
def all : List Dialect := [third, fourth, sixth, seventh, of2019, of2020]

/-- The dialect that an address names. -/
def ofAddress? (text : String) : Except Address.Fault (Option Dialect) :=
  (Address.normalized text).map fun a => all.find? fun d => d.address == a

/-- Whether the keywords beside a reference do not count. -/
def refersAlone (d : Dialect) : Bool := d.age ≤ 7

/-- The keyword under which a schema has its address. -/
def addressKey (d : Dialect) : String := if d.age ≤ 4 then "id" else "$id"

/-- Whether a number without fractional part is an integer even if it is
    written with a fraction. -/
def wholeIsInteger (d : Dialect) : Bool := 6 ≤ d.age

/-- The rule of a keyword; none if the dialect does not have the keyword, or has
    it without a rule. -/
def keyword? (d : Dialect) (name : String) : Option Keyword :=
  let since (age : Nat) (k : Keyword) : Option Keyword := if age ≤ d.age then some k else none
  let upTo (age : Nat) (k : Keyword) : Option Keyword := if d.age ≤ age then some k else none
  match name with
  | "$ref" => some .reference
  | "$dynamicRef" => since 9 .dynamicReference
  | "$recursiveRef" => if d == of2019 then some .recursiveReference else none
  | "additionalItems" => upTo 8 .additionalItems
  | "additionalProperties" => some .additionalProperties
  | "allOf" => since 4 .allOf
  | "anyOf" => since 4 .anyOf
  | "const" => since 6 .const
  | "contains" => if 8 ≤ d.age then some .containsCounted else since 6 .containsAny
  | "dependencies" => if d == third then some .dependenciesOnName else upTo 7 .dependencies
  | "dependentRequired" => since 8 .dependentRequired
  | "dependentSchemas" => since 8 .dependentSchemas
  | "disallow" => upTo 3 .disallow
  | "divisibleBy" => upTo 3 .multipleOf
  | "enum" => some .enum
  | "exclusiveMaximum" => since 6 .exclusiveMaximum
  | "exclusiveMinimum" => since 6 .exclusiveMinimum
  | "extends" => upTo 3 .extends
  | "format" => some .format
  | "if" => since 7 .condition
  | "items" =>
    if d.age ≤ 4 then some .itemsOrTuple
    else if d.age ≤ 8 then some .itemsOrTupleStrict
    else some .itemsAfterTuple
  | "maxItems" => some .maxItems
  | "maxLength" => some .maxLength
  | "maxProperties" => since 4 .maxProperties
  | "maximum" => some (if d.age ≤ 4 then .maximumWithFlag else .maximum)
  | "minItems" => some .minItems
  | "minLength" => some .minLength
  | "minProperties" => since 4 .minProperties
  | "minimum" => some (if d.age ≤ 4 then .minimumWithFlag else .minimum)
  | "multipleOf" => since 4 .multipleOf
  | "not" => since 4 .not
  | "oneOf" => since 4 .oneOf
  | "pattern" => some .pattern
  | "patternProperties" => some .patternProperties
  | "prefixItems" => since 9 .tuple
  | "properties" => some (if d == third then .propertiesWithFlag else .properties)
  | "propertyNames" => since 6 .propertyNames
  | "required" => since 4 .required
  | "type" => some (if d == third then .typeOrSchema else .type)
  | "unevaluatedItems" => since 8 .unevaluatedItems
  | "unevaluatedProperties" => since 8 .unevaluatedProperties
  | "uniqueItems" => some .uniqueItems
  | _ => none

/-- The dialect of a schema inside one of dialect `d`. -/
def inside (d : Dialect) (schema : Value) : Except Fault Dialect :=
  match schema with
  | .bool _ => .ok d
  | .map .. =>
    match schema.get? "$schema" with
    | none => .ok d
    | some (.text s) => ((ofAddress? s).map (·.getD d)).mapError .address
    | some (.bytes _) => .ok d
    | some (.seq ..) | some (.map ..) | some (.set ..) => .error .unsuited
    | some v => if v.isTrue then .error .noSchema else .ok d
  | .seq _ items | .set _ items =>
    if items.any fun v => v.sameKey (.text "$schema") then .error .unsuited else .ok d
  | .text s =>
    if Text.contains "$schema".toList s.toList then .error .unsuited else .ok d
  | _ => .error .unsuited

end Dialect

end Schema

end Annals
