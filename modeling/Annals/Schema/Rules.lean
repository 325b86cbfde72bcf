import Annals.Schema.Evaluated

/-!
# The Rules of the Keywords

One rule for each keyword, as a function of the keyword's setting, the schema it
stands in and the value. A rule for values of one kind says nothing about values
of other kinds.

## Main definitions

* `Schema.Place`: Where a keyword stands.
* `Schema.applyRule`: The outcome of one keyword.
-/

namespace Annals

namespace Schema

/-- Where a keyword stands: its name and setting, the schema around it, and the
    context. -/
structure Place where
  name : String
  setting : Value
  schema : Value
  context : Context
  judge : Judge
  /-- The room for comparing values. -/
  room : Nat

namespace Place

/-- A violation of the keyword. -/
def violated (p : Place) (message : List Piece) : Outcome := .one p.name p.setting message

/-- A violation if an answer is yes. -/
def violatedIf (p : Place) (answer : Except Fault Bool) (message : List Piece) : Outcome :=
  .decide answer fun b => if b then p.violated message else .none

/-- A schema inside, held against a value. -/
def descend (p : Place) (schema value : Value) : Outcome :=
  Schema.descend p.judge p.context schema value

/-- A schema inside, held against a part of a value. -/
def descendAt (p : Place) (key schema value : Value) : Outcome :=
  Schema.descendAt p.judge p.context key schema value

/-- Whether a value conforms to a schema inside. -/
def holds (p : Place) (schema value : Value) : Except Fault Bool :=
  Schema.holds p.judge p.context schema value

/-- Another keyword of the same schema. -/
def beside? (p : Place) (name : String) : Option Value := p.schema.get? name

/-- A violation message that names a value and a limit. -/
def compared (p : Place) (value : Value) (relation : String) : List Piece :=
  [.shown value, " is " ++ relation ++ " of ", .shown p.setting]

end Place

/-- Whether a number is a limit, from an order; numbers without an order are not. -/
def ordered (a b : Value) (accepts : Ordering → Bool) : Except Fault Bool := do
  return ((← a.order? b).map accepts).getD false

/-- Whether a size is below a limit. -/
def isBelow (size : Nat) (limit : Value) : Except Fault Bool := ordered (.int size) limit (·.isLT)

/-- Whether a size is above a limit. -/
def isAbove (size : Nat) (limit : Value) : Except Fault Bool := ordered (.int size) limit (·.isGT)

/-- Whether a value is a number that equals a small one. -/
def isNumberOf (v : Value) (n : Nat) : Bool := v.sameNumber (.int n)

/-- Values that were not expected: their texts, and the verb. -/
def unexpected (vs : List Value) : List Piece :=
  Piece.listed vs ++ [.words ((if vs.length == 1 then " was" else " were") ++ " unexpected)")]

/-- Keys in the order of their texts. -/
def sortedByText (keys : List Value) : List Value :=
  keys.mergeSort fun a b => a.plain ≤ b.plain

/-- Keys in their own order, if all are texts. -/
def sortedKeys (keys : List Value) : Except Fault (List Value) :=
  if keys.length ≤ 1 || keys.all Value.isText then .ok (sortedByText keys) else .error .unsuited

/-- The entries of a mapping. -/
def entriesOf : Value → Except Fault (List (Value × Value))
  | .map _ entries => .ok entries
  | _ => .error .noSchema

/-- The items of a list. -/
def itemsOf : Value → Except Fault (List Value)
  | .seq _ items => .ok items
  | _ => .error .unsuited

/-- The names of patterns in a schema. -/
def patternNames (p : Place) : Except Fault (List Value) :=
  match p.beside? "patternProperties" with
  | none => .ok []
  | some patterns => do return (← entriesOf patterns).map (·.1)

/-- The keys of a value that no keyword for keys of the schema speaks of. -/
def extraKeys (p : Place) (entries : List (Value × Value)) : Except Fault (List Value) := do
  let properties ← match p.beside? "properties" with
    | none => .ok []
    | some properties => entriesOf properties
  let patterns ← patternNames p
  let pattern := "|".intercalate (patterns.map Value.plain)
  let unknown := (entries.map (·.1)).filter fun k => (Value.find? k properties).isNone
  if pattern.isEmpty then return unknown
  else unknown.filterM fun k => do return !(← occurs pattern k)

/-- Keys that are missing from entries. -/
def missing (keys : List Value) (entries : List (Value × Value)) : List Value :=
  keys.filter fun k => (Value.find? k entries).isNone

/-- A number as a double. -/
def asDouble : Value → Except Fault Double
  | .int n =>
    match Double.ofInt? n with
    | some x => .ok x
    | none => .error .largeInteger
  | .float x => .ok x
  | _ => .error .unsuited

/-- Whether a quotient of numbers is no integer, where it is too large for a double. -/
def isNoWholeQuotient (value divisor : Value) : Except Fault Bool :=
  match value.number?, divisor.number? with
  | some (.ratio a b), some (.ratio e f) => .ok (e != 0 && (a * f) % (b * e) != 0)
  | _, _ => .error .infinite

/-- Whether a number is no multiple of a double: the quotient is made as a double. -/
def isNoMultipleOfDouble (value : Value) (d : Double) : Except Fault Bool := do
  let x ← asDouble value
  match x.div? d with
  | none => throw (.zeroDivisor "float division by zero")
  | some (.finite n m e) => return !(Double.finite n m e).isWhole
  | some (.infinite _) => isNoWholeQuotient value (.float d)
  | some (.nan _) => throw .noQuotient

/-- Whether a double is no multiple of an integer, which is taken as a double. -/
def isNoMultipleOfInteger (x : Double) (d : Int) : Except Fault Bool := do
  let y ← asDouble (.int d)
  if d == 0 then throw (.zeroDivisor "float modulo")
  match x.extended?, y.extended? with
  | some (.ratio a b), some (.ratio e f) => return (a * f) % (b * e) != 0
  | _, _ => return true

/-- Whether a number is no multiple of another. -/
def isNoMultiple (value divisor : Value) : Except Fault Bool :=
  match divisor, value with
  | .float d, v => isNoMultipleOfDouble v d
  | .int d, .int n =>
    if d == 0 then .error (.zeroDivisor "integer modulo by zero") else .ok (n % d != 0)
  | .int d, .float x => isNoMultipleOfInteger x d
  | _, _ => .error .unsuited

/-- The answer of a comparison; there is none if values are alike too far down. -/
def compared? : Option Bool → Except Fault Bool
  | some b => .ok b
  | none => .error .endless

/-- The rule for items that are matched by one schema after a tuple of schemas. -/
def itemsAfterTuple (p : Place) (value : Value) (items : List Value) : Outcome :=
  let first := (listUnder p.schema "prefixItems").length
  let extra := items.length - first
  if extra == 0 then .none
  else match p.setting with
    | .bool false =>
      let rest := match items.drop first with
        | [v] => v
        | vs => .seq 0 vs
      p.violated ["Expected at most " ++ toString first ++ (if first == 1 then " item" else " items") ++
        " but found " ++ toString extra ++ " extra: ", .shown rest]
    | schema =>
      .each (items.zipIdx.drop first) fun (v, i) => p.descendAt (.int i) schema (value.part v)

/-- The rule for a tuple of schemas. -/
def tuple (p : Place) (value : Value) (items : List Value) (schemas : List Value) : Outcome :=
  .each (items.zip schemas).zipIdx fun ((v, schema), i) =>
    p.descendAt (.int i) schema (value.part v)

/-- One schema for all items. -/
def allItems (p : Place) (value : Value) (items : List Value) : Outcome :=
  .each items.zipIdx fun (v, i) => p.descendAt (.int i) p.setting (value.part v)

/-- The rule for items after a tuple, in dialects where one keyword has either a
    schema or a tuple. -/
def additionalItems (p : Place) (value : Value) (items : List Value) : Outcome :=
  match p.beside? "items" with
  | none => .none
  | some (.map ..) => .none
  | some (.seq _ schemas) =>
    let rest := items.drop schemas.length
    if p.setting.isObject then
      .each (items.zipIdx.drop schemas.length) fun (v, i) =>
        p.descendAt (.int i) p.setting (value.part v)
    else if !p.setting.isTrue && !rest.isEmpty then
      p.violated ("Additional items are not allowed (" :: unexpected (rest.map value.part))
    else .none
  | some _ => .stop .unsuited

/-- The rule for keys that no other keyword speaks of. -/
def additionalProperties (p : Place) (value : Value) (entries : List (Value × Value)) : Outcome :=
  .decide (extraKeys p entries) fun extras =>
  if p.setting.isObject then
    .each extras fun k => p.descendAt k p.setting (value.part ((Value.find? k entries).getD .null))
  else if p.setting.isTrue || extras.isEmpty then .none
  else if (p.beside? "patternProperties").isSome then
    .decide (do return (← sortedKeys extras, ← sortedKeys (← patternNames p))) fun (keys, patterns) =>
    p.violated (Piece.listed keys ++
      [.words ((if keys.length == 1 then " does" else " do") ++ " not match any of the regexes: ")] ++
      Piece.listed patterns)
  else
    p.violated ("Additional properties are not allowed (" :: unexpected (sortedByText extras))

/-- Counts the items that conform, until there are too many. -/
def countMatches (p : Place) (most : Option Value) : (count : Nat) → List Value →
    Except Fault (Nat × Bool)
  | count, [] => .ok (count, false)
  | count, v :: rest => do
    if ← p.holds p.setting v then
      let tooMany ← match most with
        | some limit => isAbove (count + 1) limit
        | none => .ok false
      if tooMany then return (count + 1, true)
      countMatches p most (count + 1) rest
    else countMatches p most count rest

/-- The rule that a number of items conform. -/
def containsCounted (p : Place) (value : Value) : Outcome :=
  let least := (p.beside? "minContains").getD (.int 1)
  let most := p.beside? "maxContains"
  .decide (countMatches p most 0 value.parts) fun (count, tooMany) =>
  if tooMany then
    let limit := most.getD .null
    .one "maxContains" limit
      ["Too many items match the given schema (expected at most ", .plain limit, ")"]
  else
    .decide (isBelow count least) fun tooFew =>
    if !tooFew then .none
    else if count == 0 then
      p.violated [.shown value, " does not contain items matching the given schema"]
    else
      .one "minContains" least
        ["Too few items match the given schema (expected at least ", .plain least,
          " but only " ++ toString count ++ " matched)"]

/-- The rule that one item conforms. -/
def containsAny (p : Place) (value : Value) : Outcome :=
  .decide (value.parts.anyM (p.holds p.setting)) fun found =>
  if found then .none
  else p.violated ["None of ", .shown value, " are valid under the given schema"]

/-- Names that have to be there because of a key. -/
def needed (p : Place) (entries : List (Value × Value)) (key : Value) (names : List Value) :
    Outcome :=
  .each (missing names entries) fun k =>
    p.violated [.shown k, " is a dependency of ", .shown key]

/-- The entries of a setting whose keys the value has. -/
def present (p : Place) (entries : List (Value × Value)) (rule : Value → Value → Outcome) :
    Outcome :=
  .decide (entriesOf p.setting) fun settings =>
  .each settings fun (k, v) => if (Value.find? k entries).isSome then rule k v else .none

/-- The rule that a value conforms to one of several schemas: the first one it
    conforms to, with those after it. -/
def firstFitting (p : Place) (value : Value) : List Value → Except Fault (Option (Value × List Value))
  | [] => .ok none
  | s :: rest => do
    if ← (p.descend s value).isClean then return some (s, rest)
    else firstFitting p value rest

/-- No schema fits. -/
def nothingFits (p : Place) (value : Value) : Outcome :=
  p.violated [.shown value, " is not valid under any of the given schemas"]

/-- The rule that a value conforms to exactly one schema. -/
def oneOf (p : Place) (value : Value) (schemas : List Value) : Outcome :=
  .decide (firstFitting p value schemas) fun
  | none => nothingFits p value
  | some (s, rest) =>
    .decide (rest.filterM (p.holds · value)) fun more =>
    if more.isEmpty then .none
    else p.violated (.shown value :: " is valid under each of " :: Piece.listed (more ++ [s]))

/-- Whether a value is of the type with a name. -/
def isOfType (p : Place) (value name : Value) : Except Fault Bool :=
  let unknown := .error (.unknownType name.display p.schema.display value.display)
  match name with
  | .text s =>
    match value.isOfType? p.context.dialect s with
    | some b => .ok b
    | none => unknown
  | .seq .. | .map .. | .set .. | .back _ => .error .unsuited
  | _ => unknown

/-- Whether a value is of one of several types. -/
def isOfSome (p : Place) (value : Value) : List Value → Except Fault Bool
  | [] => .ok false
  | name :: rest => do
    if ← isOfType p value name then return true
    isOfSome p value rest

/-- A violation of a rule on types. -/
def wrongType (p : Place) (value : Value) (names : List Value) : Outcome :=
  p.violated (.shown value :: " is not of type " :: Piece.listed names)

/-- Whether a value is of one of several types or conforms to one of several
    schemas. -/
def isOfSomeOrFits (p : Place) (value : Value) : List Value → Except Fault Bool
  | [] => .ok false
  | .map id entries :: rest => do
    if ← (p.descend (.map id entries) value).isClean then return true
    isOfSomeOrFits p value rest
  | name :: rest => do
    if ← isOfType p value name then return true
    isOfSomeOrFits p value rest

/-- The rule for keys with schemas, where a schema can say that its key is
    required. -/
def propertiesWithFlag (p : Place) (value : Value) (entries : List (Value × Value)) : Outcome :=
  .decide (entriesOf p.setting) fun properties =>
  .each properties fun (k, s) =>
    match Value.find? k entries with
    | some v => p.descendAt k s (value.part v)
    | none =>
      match s with
      | .map .. =>
        match s.get? "required" with
        | some flag =>
          if flag.isTrue then
            (Outcome.one "required" flag [.shown k, " is a required property"]).beneath k
          else .none
        | none => .none
      | _ => .stop .noSchema

/-- The rule for keys with schemas. -/
def properties (p : Place) (value : Value) (entries : List (Value × Value)) : Outcome :=
  .decide (entriesOf p.setting) fun properties =>
  .each properties fun (k, s) =>
    match Value.find? k entries with
    | some v => p.descendAt k s (value.part v)
    | none => .none

/-- The rule for keys that match patterns. -/
def patternProperties (p : Place) (value : Value) (entries : List (Value × Value)) : Outcome :=
  .decide (entriesOf p.setting) fun patterns =>
  .each patterns fun (pattern, s) =>
  .each entries fun (k, v) =>
    match pattern with
    | .text t =>
      .decide (occurs t k) fun found => if found then p.descendAt k s (value.part v) else .none
    | _ => .stop .unsuited

/-- The rule for items that nothing has looked at. -/
def unevaluatedItems (fuel : Nat) (p : Place) (value : Value) : Outcome :=
  .decide (seenItems p.judge p.context.dialect fuel p.context p.schema value) fun seen =>
  let left := (value.parts.zipIdx.filter fun (_, i) =>
    !seen.any fun n => n.sameNumber (.int i)).map (·.1)
  if left.isEmpty then .none
  else p.violated ("Unevaluated items are not allowed (" :: unexpected left)

/-- The rule for keys that nothing has looked at. A key is named once for each
    violation of its value. -/
def unevaluatedProperties (fuel : Nat) (p : Place) (value : Value)
    (entries : List (Value × Value)) : Outcome :=
  .decide (seenKeys p.judge p.context.dialect fuel p.context p.schema value) fun seen =>
  let left := entries.filter fun (k, _) => !seen.any k.sameKey
  let violating := collect left fun (k, v) =>
    (p.descend p.setting (value.part v)).violations.map (·.map fun _ => k)
  .decide violating fun keys =>
  if keys.isEmpty then .none
  else match p.setting with
    | .bool false =>
      p.violated ("Unevaluated properties are not allowed (" :: unexpected (sortedByText keys))
    | _ =>
      p.violated ("Unevaluated properties are not valid under the given schema (" ::
        unexpected keys)

/-- A limit for a number, which a flag beside it can make stricter. -/
def limitWithFlag (p : Place) (value : Value) (flag : String) (beyond : Ordering) (word limit : String) :
    Outcome :=
  let strict := ((p.beside? flag).map Value.isTrue).getD false
  let relation := word ++ " than" ++ (if strict then " or equal to" else "") ++ " the " ++ limit
  p.violatedIf (ordered value p.setting fun o => o == beyond || (strict && o == .eq))
    (p.compared value relation)

/-- A rule for sizes: too small with its two wordings. -/
def tooSmall (p : Place) (value : Value) (size : Nat) (wording : String) : Outcome :=
  p.violatedIf (isBelow size p.setting)
    [.shown value, if isNumberOf p.setting 1 then " should be non-empty" else wording]

/-- A rule for sizes: too large with its two wordings. -/
def tooLarge (p : Place) (value : Value) (size : Nat) (wording : String) : Outcome :=
  p.violatedIf (isAbove size p.setting)
    [.shown value, if isNumberOf p.setting 0 then " is expected to be empty" else wording]

/-- A rule for formats. Only patterns are held against their format. -/
def format (p : Place) (value : Value) : Outcome :=
  match p.setting, value with
  | .text "regex", .text s =>
    match Pattern.read s with
    | .ok _ => .none
    | .error (.malformed ..) | .error (.unfit _) =>
      p.violated [.shown value, " is not a ", .shown p.setting]
    | .error f => .stop (.pattern s f)
  | _, _ => .none

/-- The outcome of one rule. -/
def applyRule (fuel : Nat) (rule : Keyword) (p : Place) (value : Value) : Outcome :=
  let c := p.context
  -- A rule that is made for one kind of value allows all values of the other kinds.
  let onItems (f : List Value → Outcome) : Outcome := match value with
    | .seq _ items => f items
    | _ => .none
  let onEntries (f : List (Value × Value) → Outcome) : Outcome := match value with
    | .map _ entries => f entries
    | _ => .none
  let onText (f : String → Outcome) : Outcome := match value with
    | .text s => f s
    | _ => .none
  let onNumber (o : Unit → Outcome) : Outcome := if value.isNumber then o () else .none
  match rule with
  | .reference | .dynamicReference =>
    match p.setting with
    | .text s => descendTo p.judge c (referred (c.registry.lookup c.scope s)) value
    | _ => .stop .noSchema
  | .recursiveReference => descendTo p.judge c (c.registry.lookupRecursive c.scope) value
  | .additionalItems => onItems (additionalItems p value)
  | .additionalProperties => onEntries (additionalProperties p value)
  | .allOf => .decide (itemsOf p.setting) fun schemas => .each schemas (p.descend · value)
  | .anyOf =>
    .decide (itemsOf p.setting) fun schemas =>
    .decide (firstFitting p value schemas) fun found =>
    if found.isSome then .none else nothingFits p value
  | .const =>
    .decide (compared? (value.equals? p.room p.setting)) fun same =>
    if same then .none else p.violated [.shown p.setting, " was expected"]
  | .containsCounted => onItems fun _ => containsCounted p value
  | .containsAny => onItems fun _ => containsAny p value
  | .dependencies =>
    onEntries fun entries => present p entries fun k v =>
      match v with
      | .seq _ names => needed p entries k names
      | schema => p.descend schema value
  | .dependenciesOnName =>
    onEntries fun entries => present p entries fun k v =>
      match v with
      | .map .. => p.descend v value
      -- A single name stands for a list of it.
      | .text _ => needed p entries k [v]
      | .seq _ names => needed p entries k names
      | _ => .stop .unsuited
  | .dependentRequired =>
    onEntries fun entries => present p entries fun k v =>
      .decide (itemsOf v) (needed p entries k)
  | .dependentSchemas =>
    onEntries fun entries => present p entries fun _ v => p.descend v value
  | .disallow =>
    .each p.setting.orSingle fun t =>
      p.violatedIf (p.holds (.object [("type", .seq 0 [t])]) value)
        [.shown t, " is disallowed for ", .shown value]
  | .enum =>
    .decide (itemsOf p.setting) fun options =>
    .decide (compared? (value.equalsAny? p.room options)) fun found =>
    if found then .none else p.violated [.shown value, " is not one of ", .shown p.setting]
  | .exclusiveMaximum =>
    onNumber fun _ => p.violatedIf (ordered value p.setting (·.isGE))
      (p.compared value "greater than or equal to the maximum")
  | .exclusiveMinimum =>
    onNumber fun _ => p.violatedIf (ordered value p.setting (·.isLE))
      (p.compared value "less than or equal to the minimum")
  | .extends =>
    if p.setting.isObject then p.descend p.setting value
    else .decide (itemsOf p.setting) fun schemas => .each schemas (p.descend · value)
  | .condition =>
    .decide (p.holds p.setting value) fun fits =>
    match p.beside? (if fits then "then" else "else") with
    | some schema => p.descend schema value
    | none => .none
  | .format => if c.checksFormats then format p value else .none
  | .itemsAfterTuple => onItems (itemsAfterTuple p value)
  | .itemsOrTuple =>
    onItems fun items =>
      if p.setting.isObject then allItems p value items
      else .decide (itemsOf p.setting) (tuple p value items)
  | .itemsOrTupleStrict =>
    onItems fun items =>
      match p.setting with
      | .seq _ schemas => tuple p value items schemas
      | _ => allItems p value items
  | .maxItems => onItems fun items => tooLarge p value items.length " is too long"
  | .maxLength => onText fun s => tooLarge p value s.length " is too long"
  | .maxProperties =>
    onEntries fun entries => tooLarge p value entries.length " has too many properties"
  | .maximum =>
    onNumber fun _ => p.violatedIf (ordered value p.setting (·.isGT))
      (p.compared value "greater than the maximum")
  | .maximumWithFlag =>
    onNumber fun _ => limitWithFlag p value "exclusiveMaximum" .gt "greater" "maximum"
  | .minItems => onItems fun items => tooSmall p value items.length " is too short"
  | .minLength => onText fun s => tooSmall p value s.length " is too short"
  | .minProperties =>
    onEntries fun entries => tooSmall p value entries.length " does not have enough properties"
  | .minimum =>
    onNumber fun _ => p.violatedIf (ordered value p.setting (·.isLT))
      (p.compared value "less than the minimum")
  | .minimumWithFlag =>
    onNumber fun _ => limitWithFlag p value "exclusiveMinimum" .lt "less" "minimum"
  | .multipleOf =>
    onNumber fun _ => p.violatedIf (isNoMultiple value p.setting)
      [.shown value, " is not a multiple of ", .shown p.setting]
  | .not =>
    p.violatedIf (p.holds p.setting value)
      [.shown value, " should not be valid under ", .shown p.setting]
  | .oneOf => .decide (itemsOf p.setting) (oneOf p value)
  | .pattern =>
    onText fun _ =>
      match p.setting with
      | .text pattern =>
        p.violatedIf (do return !(← occurs pattern value))
          [.shown value, " does not match ", .shown p.setting]
      | _ => .stop .unsuited
  | .patternProperties => onEntries (patternProperties p value)
  | .tuple => onItems fun items => .decide (itemsOf p.setting) (tuple p value items)
  | .properties => onEntries (properties p value)
  | .propertiesWithFlag => onEntries (propertiesWithFlag p value)
  | .propertyNames =>
    onEntries fun entries => .each entries fun (k, _) => p.descend p.setting k
  | .required =>
    onEntries fun entries =>
      .decide (itemsOf p.setting) fun keys =>
      .each (missing keys entries) fun k => p.violated [.shown k, " is a required property"]
  | .type =>
    let names := p.setting.orSingle
    .decide (isOfSome p value names) fun found => if found then .none else wrongType p value names
  | .typeOrSchema =>
    let names := p.setting.orSingle
    .decide (isOfSomeOrFits p value names) fun found =>
    if found then .none
    else wrongType p value (names.map fun t => (t.get? "name").getD t)
  | .unevaluatedItems => onItems fun _ => unevaluatedItems fuel p value
  | .unevaluatedProperties => onEntries (unevaluatedProperties fuel p value)
  | .uniqueItems =>
    onItems fun _ =>
      if !p.setting.isTrue then .none
      else
        .decide (compared? (Value.areDistinct? p.room value.parts)) fun distinct =>
        if distinct then .none else p.violated [.shown value, " has non-unique elements"]

end Schema

end Annals
