import Annals.Schema.Registry

/-!
# The Schemas of the Dialects

Each dialect has a schema for its schemas. The order of the entries matters: it is
the order in which rules are followed, so it says which of several violations is
the first. What only annotates is left out, unless it has an effect on
references.

## Main definitions

* `Schema.Dialect.standard`: The schema for the schemas of a dialect.
* `Schema.standardSchemas`: All of them with their parts.
-/

namespace Annals

namespace Schema

namespace Standard

/-- A mapping with textual keys. -/
abbrev object (entries : List (String × Value)) : Value := .object entries

/-- A list. -/
def list (items : List Value) : Value := .seq 0 items

/-- A schema for values of some types. -/
def ofType (name : String) : Value := object [("type", .text name)]

/-- A reference. -/
def ref (target : String) : Value := object [("$ref", .text target)]

/-- A text that reads as a pattern. -/
def regex : Value := object [("type", .text "string"), ("format", .text "regex")]

/-- A list of schemas, not empty. -/
def schemaArray (item : Value) : Value :=
  object [("type", .text "array"), ("minItems", .int 1), ("items", item)]

/-- A mapping whose values are schemas. -/
def schemas (item : Value) : Value :=
  object [("type", .text "object"), ("additionalProperties", item)]

/-- A mapping from patterns to schemas. -/
def patterns (item : Value) : Value :=
  object [("type", .text "object"), ("additionalProperties", item),
    ("propertyNames", object [("format", .text "regex")])]

/-- One of several schemas. -/
def anyOf (options : List Value) : Value := object [("anyOf", list options)]

/-- One of several types. -/
def types (names : List String) : Value := list (names.map Value.text)

/-- The names of the types. -/
def simpleTypes : Value :=
  object [("enum", types ["array", "boolean", "integer", "null", "number", "object", "string"])]

/-- A type or a list of types, where `simple` refers to the names of types. -/
def typeSetting (simple : Value) : Value :=
  anyOf [simple, object [("type", .text "array"), ("items", simple), ("minItems", .int 1),
    ("uniqueItems", .bool true)]]

/-- A natural number. -/
def natural : Value := object [("type", .text "integer"), ("minimum", .int 0)]

/-- A list of texts without repetitions. -/
def stringArray : Value :=
  object [("type", .text "array"), ("items", ofType "string"), ("uniqueItems", .bool true)]

/-- A list of values without repetitions, not empty. -/
def choices : Value :=
  object [("type", .text "array"), ("minItems", .int 1), ("uniqueItems", .bool true)]

/-- A number above zero. -/
def positive : Value := object [("type", .text "number"), ("exclusiveMinimum", .int 0)]

/-- A number above zero, said with a flag. -/
def positiveWithFlag : Value :=
  object [("type", .text "number"), ("minimum", .int 0), ("exclusiveMinimum", .bool true)]

/-- Several entries with the same value. -/
def all (names : List String) (v : Value) : List (String × Value) := names.map (·, v)

/-- The schema for schemas of the third dialect. -/
def third : Value :=
  let self := ref "#"
  let orBool := object [("type", list [self, .text "boolean"])]
  let orList := object [("type", list [self, .text "array"]), ("items", self)]
  let names := object [("type", types ["string", "array"]),
    ("items", object [("type", list [.text "string", self])]), ("uniqueItems", .bool true)]
  object [
    ("$schema", .text "http://json-schema.org/draft-03/schema#"),
    ("id", .text "http://json-schema.org/draft-03/schema#"),
    ("type", .text "object"),
    ("properties", object (
      [("type", names),
       ("properties", schemas (object [("$ref", .text "#"), ("type", .text "object")])),
       ("patternProperties", schemas self),
       ("additionalProperties", orBool),
       ("items", orList),
       ("additionalItems", orBool),
       ("required", ofType "boolean"),
       ("dependencies", object [("type", .text "object"),
         ("additionalProperties", object [("type", list [.text "string", .text "array", self]),
           ("items", ofType "string")])])] ++
      all ["minimum", "maximum"] (ofType "number") ++
      all ["exclusiveMinimum", "exclusiveMaximum"] (ofType "boolean") ++
      all ["minItems", "maxItems"] natural ++
      [("uniqueItems", ofType "boolean"), ("pattern", regex), ("minLength", natural),
       ("maxLength", ofType "integer"), ("enum", choices), ("default", ofType "any"),
       ("title", ofType "string"), ("description", ofType "string"),
       ("format", ofType "string"), ("divisibleBy", positiveWithFlag), ("disallow", names),
       ("extends", orList), ("id", ofType "string"), ("$ref", ofType "string"),
       ("$schema", ofType "string")])),
    ("dependencies", object [("exclusiveMinimum", .text "minimum"),
      ("exclusiveMaximum", .text "maximum")])]

/-- The schema for schemas of the fourth dialect. -/
def fourth : Value :=
  let self := ref "#"
  let number := ref "#/definitions/positiveInteger"
  let numberOrZero := ref "#/definitions/positiveIntegerDefault0"
  let many := ref "#/definitions/schemaArray"
  let names := ref "#/definitions/stringArray"
  let orBool := anyOf [ofType "boolean", self]
  object [
    ("$schema", .text "http://json-schema.org/draft-04/schema#"),
    ("id", .text "http://json-schema.org/draft-04/schema#"),
    ("definitions", object [
      ("schemaArray", schemaArray self),
      ("positiveInteger", natural),
      ("positiveIntegerDefault0", object [("allOf", list [number, object []])]),
      ("simpleTypes", simpleTypes),
      ("stringArray", object [("type", .text "array"), ("items", ofType "string"),
        ("minItems", .int 1), ("uniqueItems", .bool true)])]),
    ("type", .text "object"),
    ("properties", object (
      all ["id", "$schema", "title", "description"] (ofType "string") ++
      [("default", object []), ("multipleOf", positiveWithFlag), ("maximum", ofType "number"),
       ("exclusiveMaximum", ofType "boolean"), ("minimum", ofType "number"),
       ("exclusiveMinimum", ofType "boolean"), ("maxLength", number),
       ("minLength", numberOrZero), ("pattern", regex), ("additionalItems", orBool),
       ("items", anyOf [self, many]), ("maxItems", number), ("minItems", numberOrZero),
       ("uniqueItems", ofType "boolean"), ("maxProperties", number),
       ("minProperties", numberOrZero), ("required", names), ("additionalProperties", orBool)] ++
      all ["definitions", "properties", "patternProperties"] (schemas self) ++
      [("dependencies", schemas (anyOf [self, names])), ("enum", choices),
       ("type", typeSetting (ref "#/definitions/simpleTypes")), ("format", ofType "string")] ++
      all ["allOf", "anyOf", "oneOf"] many ++ [("not", self)])),
    ("dependencies", object [("exclusiveMaximum", types ["maximum"]),
      ("exclusiveMinimum", types ["minimum"])])]

/-- The definitions in the schemas for schemas of the sixth and seventh dialects. -/
def definitions : Value :=
  object [
    ("schemaArray", schemaArray (ref "#")),
    ("nonNegativeInteger", natural),
    ("nonNegativeIntegerDefault0",
      object [("allOf", list [ref "#/definitions/nonNegativeInteger", object []])]),
    ("simpleTypes", simpleTypes),
    ("stringArray", stringArray)]

/-- The schema for schemas of the sixth dialect, or of the seventh with the keywords
    that it added. -/
def sixthOrSeventh (address : String) (isSeventh : Bool) : Value :=
  let self := ref "#"
  let number := ref "#/definitions/nonNegativeInteger"
  let numberOrZero := ref "#/definitions/nonNegativeIntegerDefault0"
  let many := ref "#/definitions/schemaArray"
  let names := ref "#/definitions/stringArray"
  let anything : Value := if isSeventh then .bool true else object []
  let added (entries : List (String × Value)) := if isSeventh then entries else []
  object [
    ("$schema", .text address),
    ("$id", .text address),
    ("definitions", definitions),
    ("type", types ["object", "boolean"]),
    ("properties", object (
      all ["$id", "$schema", "$ref"] (ofType "string") ++
      added [("$comment", ofType "string")] ++
      all ["title", "description"] (ofType "string") ++
      [("default", anything)] ++
      added [("readOnly", ofType "boolean")] ++
      [("examples", object [("type", .text "array"), ("items", anything)]),
       ("multipleOf", positive)] ++
      all ["maximum", "exclusiveMaximum", "minimum", "exclusiveMinimum"] (ofType "number") ++
      [("maxLength", number), ("minLength", numberOrZero), ("pattern", regex),
       ("additionalItems", self), ("items", anyOf [self, many]), ("maxItems", number),
       ("minItems", numberOrZero), ("uniqueItems", ofType "boolean"), ("contains", self),
       ("maxProperties", number), ("minProperties", numberOrZero), ("required", names),
       ("additionalProperties", self), ("definitions", schemas self),
       ("properties", schemas self), ("patternProperties", patterns self),
       ("dependencies", schemas (anyOf [self, names])), ("propertyNames", self),
       ("const", anything), ("enum", ofType "array"),
       ("type", typeSetting (ref "#/definitions/simpleTypes")), ("format", ofType "string")] ++
      added (all ["contentMediaType", "contentEncoding"] (ofType "string") ++
        all ["if", "then", "else"] self) ++
      all ["allOf", "anyOf", "oneOf"] many ++ [("not", self)]))]

/-- The address of the schemas for schemas of 2019. -/
def base2019 : String := "https://json-schema.org/draft/2019-09/"

/-- The address of the schemas for schemas of 2020. -/
def base2020 : String := "https://json-schema.org/draft/2020-12/"

/-- A part of the schema for schemas of 2019. -/
def part2019 (name : String) (properties : List (String × Value))
    (defs : List (String × Value)) : Value :=
  object ([
    ("$schema", .text (base2019 ++ "schema")),
    ("$id", .text (base2019 ++ name)),
    ("$recursiveAnchor", .bool true),
    ("type", types ["object", "boolean"]),
    ("properties", object properties)] ++ if defs.isEmpty then [] else [("$defs", object defs)])

/-- A part of the schema for schemas of 2020. -/
def part2020 (name : String) (properties : List (String × Value))
    (defs : List (String × Value)) : Value :=
  object ([
    ("$schema", .text (base2020 ++ "schema")),
    ("$id", .text (base2020 ++ name)),
    ("$dynamicAnchor", .text "meta"),
    ("type", types ["object", "boolean"]),
    ("properties", object properties)] ++ if defs.isEmpty then [] else [("$defs", object defs)])

/-- A text of some form. -/
def textLike (form : String) : Value :=
  object [("type", .text "string"), ("pattern", .text form)]

/-- The keywords with limits, in their order. -/
def limits : List (String × Value) :=
  let number := ref "#/$defs/nonNegativeInteger"
  let numberOrZero := ref "#/$defs/nonNegativeIntegerDefault0"
  [("multipleOf", positive)] ++
  all ["maximum", "exclusiveMaximum", "minimum", "exclusiveMinimum"] (ofType "number") ++
  [("maxLength", number), ("minLength", numberOrZero), ("pattern", regex), ("maxItems", number),
   ("minItems", numberOrZero), ("uniqueItems", ofType "boolean"), ("maxContains", number),
   ("minContains", number), ("maxProperties", number), ("minProperties", numberOrZero),
   ("required", ref "#/$defs/stringArray"),
   ("dependentRequired", schemas (ref "#/$defs/stringArray"))]

/-- The definitions beside the keywords with limits. -/
def limitDefs : List (String × Value) :=
  [("nonNegativeInteger", natural),
   ("nonNegativeIntegerDefault0", ref "#/$defs/nonNegativeInteger"),
   ("simpleTypes", simpleTypes),
   ("stringArray", stringArray)]

/-- The keywords with constants, in their order. -/
def constants : List (String × Value) :=
  [("const", .bool true), ("enum", object [("type", .text "array"), ("items", .bool true)])]

/-- The keywords that describe. -/
def descriptions : List (String × Value) :=
  all ["title", "description"] (ofType "string") ++ [("default", .bool true)] ++
  all ["deprecated", "readOnly", "writeOnly"] (ofType "boolean") ++
  [("examples", object [("type", .text "array"), ("items", .bool true)])]

/-- The schemas for schemas of 2019. -/
def of2019 : List Value :=
  let self := object [("$recursiveRef", .text "#")]
  let many := ref "#/$defs/schemaArray"
  [ object [
      ("$schema", .text (base2019 ++ "schema")),
      ("$id", .text (base2019 ++ "schema")),
      ("$recursiveAnchor", .bool true),
      ("allOf", list (["core", "applicator", "validation", "meta-data", "format",
        "content"].map fun name => ref ("meta/" ++ name))),
      ("type", types ["object", "boolean"]),
      ("properties", object [
        ("definitions", schemas self),
        ("dependencies", schemas (anyOf [self, ref "meta/validation#/$defs/stringArray"]))])],
    part2019 "meta/core" [
      ("$id", textLike "^[^#]*#?$"),
      ("$schema", ofType "string"),
      ("$anchor", textLike "^[A-Za-z][-A-Za-z0-9.:_]*$"),
      ("$ref", ofType "string"),
      ("$recursiveRef", ofType "string"),
      ("$recursiveAnchor", ofType "boolean"),
      ("$vocabulary", object [("type", .text "object"), ("propertyNames", ofType "string"),
        ("additionalProperties", ofType "boolean")]),
      ("$comment", ofType "string"),
      ("$defs", schemas self)] [],
    part2019 "meta/applicator" (
      all ["additionalItems", "unevaluatedItems"] self ++
      [("items", anyOf [self, many])] ++
      all ["contains", "additionalProperties", "unevaluatedProperties"] self ++
      [("properties", schemas self), ("patternProperties", patterns self),
       ("dependentSchemas", schemas self)] ++
      all ["propertyNames", "if", "then", "else"] self ++
      all ["allOf", "anyOf", "oneOf"] many ++ [("not", self)])
      [("schemaArray", schemaArray self)],
    part2019 "meta/validation"
      (limits ++ constants ++ [("type", typeSetting (ref "#/$defs/simpleTypes"))]) limitDefs,
    part2019 "meta/meta-data" descriptions [],
    part2019 "meta/format" [("format", ofType "string")] [],
    part2019 "meta/content" (all ["contentMediaType", "contentEncoding"] (ofType "string") ++
      [("contentSchema", self)]) []]

/-- The schemas for schemas of 2020. -/
def of2020 : List Value :=
  let self := object [("$dynamicRef", .text "#meta")]
  let many := ref "#/$defs/schemaArray"
  let uri := ref "#/$defs/uriString"
  let uriReference := ref "#/$defs/uriReferenceString"
  let anchor := ref "#/$defs/anchorString"
  [ object [
      ("$schema", .text (base2020 ++ "schema")),
      ("$id", .text (base2020 ++ "schema")),
      ("$dynamicAnchor", .text "meta"),
      ("allOf", list (["core", "applicator", "unevaluated", "validation", "meta-data",
        "format-annotation", "content"].map fun name => ref ("meta/" ++ name))),
      ("type", types ["object", "boolean"]),
      ("properties", object [
        ("definitions", schemas self),
        ("dependencies", schemas (anyOf [self, ref "meta/validation#/$defs/stringArray"])),
        ("$recursiveAnchor", ref "meta/core#/$defs/anchorString"),
        ("$recursiveRef", ref "meta/core#/$defs/uriReferenceString")])],
    part2020 "meta/core" [
      ("$id", object [("$ref", .text "#/$defs/uriReferenceString"),
        ("pattern", .text "^[^#]*#?$")]),
      ("$schema", uri),
      ("$ref", uriReference),
      ("$anchor", anchor),
      ("$dynamicRef", uriReference),
      ("$dynamicAnchor", anchor),
      ("$vocabulary", object [("type", .text "object"), ("propertyNames", uri),
        ("additionalProperties", ofType "boolean")]),
      ("$comment", ofType "string"),
      ("$defs", schemas self)]
      [("anchorString", textLike "^[A-Za-z_][-A-Za-z0-9._]*$"),
       ("uriString", ofType "string"),
       ("uriReferenceString", ofType "string")],
    part2020 "meta/applicator" (
      [("prefixItems", many)] ++
      all ["items", "contains", "additionalProperties"] self ++
      [("properties", schemas self), ("patternProperties", patterns self),
       ("dependentSchemas", schemas self)] ++
      all ["propertyNames", "if", "then", "else"] self ++
      all ["allOf", "anyOf", "oneOf"] many ++ [("not", self)])
      [("schemaArray", schemaArray self)],
    part2020 "meta/unevaluated" (all ["unevaluatedItems", "unevaluatedProperties"] self) [],
    part2020 "meta/validation"
      ([("type", typeSetting (ref "#/$defs/simpleTypes"))] ++ constants ++ limits) limitDefs,
    part2020 "meta/meta-data" descriptions [],
    part2020 "meta/format-annotation" [("format", ofType "string")] [],
    part2020 "meta/content" (all ["contentEncoding", "contentMediaType"] (ofType "string") ++
      [("contentSchema", self)]) []]

end Standard

/-- The schema for the schemas of a dialect. -/
def Dialect.standard : Dialect → Value
  | third => Standard.third
  | fourth => Standard.fourth
  | sixth => Standard.sixthOrSeventh "http://json-schema.org/draft-06/schema#" false
  | seventh => Standard.sixthOrSeventh "http://json-schema.org/draft-07/schema#" true
  | of2019 => Standard.of2019.headD .null
  | of2020 => Standard.of2020.headD .null

/-- The schemas for schemas of all dialects, with their parts. -/
def standardSchemas : List Resource :=
  [Dialect.third, .fourth, .sixth, .seventh].flatMap (fun d => Registry.wholeOf d d.standard) ++
  Standard.of2019.flatMap (Registry.wholeOf .of2019) ++
  Standard.of2020.flatMap (Registry.wholeOf .of2020)

/-- What the schema for the schemas of a dialect can refer to. -/
def Registry.forStandard : Registry := ⟨standardSchemas, [], .ok []⟩

end Schema

end Annals
