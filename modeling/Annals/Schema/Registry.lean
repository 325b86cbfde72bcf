import Annals.Number.Notation
import Annals.Schema.Dialect
import Annals.Value.Display
import Annals.Value.Equal

/-!
# References between Schemas

A reference is an address, relative to the address of the schema it stands in.
Its fragment is a path of keys and indices or the name of an anchor. Schemas can
be found that are known from the start, and those that stand inside the schema that
is followed and have addresses of their own. It is only when a schema is not known
otherwise that the inside is looked through, so what is wrong there need not show.

An anchor can be dynamic: then the outermost schema on the way to the reference
that has a dynamic anchor of the same name is meant. The way is kept in a scope.

## Main definitions

* `Schema.Scope`: The address of the current schema, and those on the way to it.
* `Schema.Registry`: The schemas that are known by address.
* `Schema.Registry.lookup`: What a reference means.
-/

namespace Annals

namespace Schema

/-- The address of the current schema, and the addresses on the way to it, the
    latest first. -/
structure Scope where
  base : String
  previous : List String
  deriving Repr

/-- The scope at another address. An empty address is no part of the way. -/
def Scope.moved (s : Scope) (base : String) : Scope :=
  ⟨base, if s.base.isEmpty || (!s.previous.isEmpty && base == s.base) then s.previous
    else s.base :: s.previous⟩

/-- Where a keyword has schemas in its value: as the value, as the items of a list, under
    names, as either of the first two, under names if the first of them has a mapping, or
    as the value if it is a mapping. Of two schemas with one address the one counts whose
    keyword has the first of these roles. -/
inductive Role where
  | one
  | many
  | named
  | oneOrMany
  | dependent
  | mapping
  deriving DecidableEq

namespace Dialect

/-- The keywords with a schema as their value. -/
def singles (d : Dialect) : List String :=
  match d with
  | third => []
  | fourth => ["not"]
  | sixth => ["additionalItems", "additionalProperties", "contains", "not", "propertyNames"]
  | seventh =>
    ["additionalItems", "additionalProperties", "contains", "else", "if", "not", "propertyNames",
      "then"]
  | of2019 =>
    ["additionalItems", "additionalProperties", "contains", "contentSchema", "else", "if", "not",
      "propertyNames", "then", "unevaluatedItems", "unevaluatedProperties"]
  | of2020 =>
    ["additionalProperties", "contains", "contentSchema", "else", "if", "items", "not",
      "propertyNames", "then", "unevaluatedItems", "unevaluatedProperties"]

/-- The keywords with a list of schemas as their value. -/
def lists (d : Dialect) : List String :=
  match d with
  | third => ["extends"]
  | of2020 => ["allOf", "anyOf", "oneOf", "prefixItems"]
  | _ => ["allOf", "anyOf", "oneOf"]

/-- The keywords with schemas under names. -/
def mappings (d : Dialect) : List String :=
  (if 8 ≤ d.age then ["$defs", "dependentSchemas"] else []) ++
    ["definitions", "patternProperties", "properties"]

/-- The keywords whose value is a schema if it is a mapping. -/
def partly (d : Dialect) : List String :=
  if d.age ≤ 4 then ["additionalItems", "additionalProperties"] else []

/-- Where a keyword has schemas, if it has any. -/
def role? (d : Dialect) (keyword : String) : Option Role :=
  if d.singles.contains keyword then some .one
  else if d.lists.contains keyword then some .many
  else if d.mappings.contains keyword then some .named
  else if d.partly.contains keyword then some .mapping
  else if keyword == "items" then some .oneOrMany
  else if keyword == "dependencies" && d.age ≤ 7 then some .dependent
  else none

/-- Whether a keyword leads to a schema, in paths. -/
def leadsTo (d : Dialect) (keyword : String) : Bool :=
  d.singles.contains keyword || d.partly.contains keyword

/-- Whether a keyword leads to a schema if that is a mapping, in paths. -/
def leadsToMapping (d : Dialect) (keyword : String) : Bool :=
  (keyword == "items" && d.age ≤ 8) || (keyword == "dependencies" && d.age ≤ 7)

/-- Whether a keyword leads through a list or a mapping to schemas, in paths. -/
def leadsInto (d : Dialect) (keyword : String) : Bool :=
  d.lists.contains keyword || d.mappings.contains keyword

end Dialect

/-- A text without the number signs at its end. -/
def withoutSigns (s : String) : String :=
  String.ofList ((s.toList.reverse.dropWhile (· == '#')).reverse)

/-- What is wrong with something that is no schema, in a dialect. -/
def noSchemaFault (d : Dialect) (v : Value) : Fault :=
  match v with
  | .null | .bool _ | .int _ | .float _ | .date _ | .moment _ =>
    if d.age ≤ 4 then .unsuited else .noSchema
  | _ => .noSchema

/-- The address that a schema gives itself. In older dialects one that begins with a
    number sign is an anchor, and in the oldest ones what refers has no address. -/
def ownAddress (d : Dialect) (schema : Value) : Except Fault (Option String) :=
  match schema with
  | .map .. =>
    if d.age ≤ 4 && (schema.get? "$ref").isSome then .ok none
    else match schema.get? d.addressKey with
      | none | some .null => .ok none
      | some (.text s) =>
        .ok (if d.age ≤ 7 && s.startsWith "#" then none else some (withoutSigns s))
      | some _ => .error .noSchema
  | .bool _ => if d.age ≤ 4 then .error .unsuited else .ok none
  | v => .error (noSchemaFault d v)

/-- An address relative to another one. -/
def joined (base relative : String) : Except Fault String :=
  (Address.join base relative).mapError .address

/-- The scope inside a schema. Only following a reference leads on the way. -/
def Scope.inside (s : Scope) (d : Dialect) (schema : Value) : Except Fault Scope := do
  match ← ownAddress d schema with
  | some a => return { s with base := ← joined s.base a }
  | none => return s

/-- An anchor: its name, and whether it is dynamic. -/
structure Anchor where
  name : String
  isDynamic : Bool
  deriving DecidableEq, Repr

/-- The anchors that a schema gives itself. -/
def ownAnchors (d : Dialect) (schema : Value) : Except Fault (List Anchor) :=
  let text (key : String) : List String := match schema.get? key with
    | some (.text s) => [s]
    | _ => []
  if d.age ≤ 7 then
    match schema.get? d.addressKey with
    | none => .ok []
    | some (.text s) => .ok (if s.startsWith "#" then [⟨(s.drop 1).toString, false⟩] else [])
    | some _ => .error .noSchema
  else
    .ok ((text "$anchor").map (⟨·, false⟩) ++
      (if d == .of2020 then (text "$dynamicAnchor").map (⟨·, true⟩) else []))

/-- The dialect of a schema among others of a dialect. -/
def Dialect.among (d : Dialect) (schema : Value) : Except Fault Dialect :=
  match schema.get? "$schema" with
  | none | some .null => .ok d
  | some (.text s) => .ok ((Dialect.all.find? fun e => e.address == withoutSigns s).getD d)
  | some _ => .error .noSchema

/-- A schema that is known: the address of what it belongs to, whether it is the schema
    with this address, its dialect, and its anchors. -/
structure Resource where
  address : String
  isRoot : Bool
  dialect : Dialect
  schema : Value
  anchors : List Anchor

mutual

/-- A schema and those in it, the inner ones first. -/
def crawl (d : Dialect) (base : String) : Value → Except Fault (List Resource)
  | .map id entries => do
    let d ← d.among (.map id entries)
    let own ← ownAddress d (.map id entries)
    let base ← match own with
      | some a => joined base a
      | none => .ok base
    let anchors ← ownAnchors d (.map id entries)
    let inner ← crawlEntries d base entries
    return (inner.mergeSort fun a b => a.1.ctorIdx ≤ b.1.ctorIdx).flatMap (·.2) ++
      [⟨base, own.isSome, d, .map id entries, anchors⟩]
  | .back _ => .ok []
  | v => (ownAddress d v).map fun _ => []
termination_by structural v => v

/-- The schemas in the entries of a schema, with the roles of their keywords. -/
def crawlEntries (d : Dialect) (base : String) :
    List (Value × Value) → Except Fault (List (Role × List Resource))
  | [] => .ok []
  | (.text k, .map id entries) :: rest => do
    let role := d.role? k
    let found ← match role with
      | some .one | some .oneOrMany | some .mapping => crawl d base (.map id entries)
      | some .named => crawlValues d base entries
      | some .dependent =>
        -- The first value alone tells schemas from lists of names.
        match entries with
        | (_, .map ..) :: _ => crawlValues d base entries
        | _ => .ok []
      | some .many =>
        match entries with
        | (k, _) :: _ => .error (noSchemaFault d k)
        | [] => .ok []
      | none => .ok []
    return (role.map (·, found)).toList ++ (← crawlEntries d base rest)
  | (.text k, .seq _ items) :: rest => do
    let role := d.role? k
    let found ← match role with
      | some .many | some .oneOrMany => crawlItems d base items
      | some .mapping | none => .ok []
      | _ => .error .noSchema
    return (role.map (·, found)).toList ++ (← crawlEntries d base rest)
  | (.text k, v) :: rest => do
    -- Neither a list nor a mapping: a keyword passes such a value over, or fails on it.
    match d.role? k, v with
    | none, _ | some .mapping, _ | some .oneOrMany, .null | some .dependent, .null => pure ()
    | some .many, .text "" | some .oneOrMany, .text "" => pure ()
    | some .many, .text _ | some .named, _ | some .dependent, _ => throw .noSchema
    | some .many, _ => throw .unsuited
    | some .one, v | some .oneOrMany, v => discard (ownAddress d v)
    crawlEntries d base rest
  | _ :: rest => crawlEntries d base rest
termination_by structural es => es

/-- The schemas under the names of a mapping. -/
def crawlValues (d : Dialect) (base : String) : List (Value × Value) → Except Fault (List Resource)
  | [] => .ok []
  | (_, v) :: rest => do return (← crawl d base v) ++ (← crawlValues d base rest)
termination_by structural es => es

/-- The schemas in a list. -/
def crawlItems (d : Dialect) (base : String) : List Value → Except Fault (List Resource)
  | [] => .ok []
  | v :: rest => do return (← crawl d base v) ++ (← crawlItems d base rest)
termination_by structural vs => vs

end

/-- The schemas that are known: those known from the start, the schema that is followed,
    and, when it comes to that, those in it. -/
structure Registry where
  standard : List Resource
  root : List Resource
  inner : Except Fault (List Resource)

namespace Registry

/-- A schema and all that is in it. -/
def wholeOf (d : Dialect) (schema : Value) : List Resource :=
  let base := ((ownAddress d schema).toOption.bind id).getD ""
  ((crawl d base schema).toOption.getD []) ++ [⟨base, true, d, schema, []⟩]

/-- What is known with a schema besides the standard ones. -/
def ofSchema (standard : List Resource) (d : Dialect) (schema : Value) : Except Fault Registry := do
  let base := (← ownAddress d schema).getD ""
  return ⟨standard, [⟨base, true, d, schema, []⟩], crawl d base schema⟩

/-- The schema with an address among some. -/
def rootAt? (address : String) (known : List Resource) : Option Resource :=
  known.find? fun e => e.isRoot && e.address == address

/-- The schema at an address. -/
def resource? (r : Registry) (address : String) : Except Fault (Option Resource) :=
  match rootAt? address (r.root ++ r.standard) with
  | some e => .ok (some e)
  | none => r.inner.map (rootAt? address)

/-- The schema with an anchor among some, with the anchor. -/
def anchorAt? (address name : String) (known : List Resource) : Option (Resource × Anchor) :=
  known.findSome? fun e =>
    if e.address == address then (e.anchors.find? (·.name == name)).map fun a => (e, a) else none

/-- The schema with an anchor at an address. -/
def anchor? (r : Registry) (address name : String) : Except Fault (Option (Resource × Anchor)) :=
  match anchorAt? address name r.standard with
  | some found => .ok (some found)
  | none => r.inner.map (anchorAt? address name)

end Registry

/-- The number that a path segment is. -/
def index (segment : List Char) : Except Fault Int :=
  if maxDigits < Notation.digitCount segment then .error (.longPlace (Notation.digitCount segment))
  else match Notation.grouped? segment with
    | some n => .ok n
    | none => .error (.place (String.ofList segment))

/-- The item of a list at a number, from the end if it is negative. -/
def itemAt? {α : Type} (items : List α) (n : Int) : Option α :=
  let n := if n < 0 then n + items.length else n
  if n < 0 then none else items[n.toNat]?

/-- A path segment with its escapes undone: `~1` is a slash and `~0` a tilde. -/
def unescaped : List Char → List Char
  | '~' :: '1' :: rest => '/' :: unescaped rest
  | '~' :: '0' :: rest => '~' :: unescaped rest
  | c :: rest => c :: unescaped rest
  | [] => []

/-- Whether segments lead from a schema to a schema in it, through keywords that have
    schemas. A segment that is a number is no keyword. -/
def entersSchema (d : Dialect) (target : Value) : List (Option String) → Bool
  | [] => true
  | none :: _ => false
  | some keyword :: rest =>
    if d.leadsToMapping keyword && target.isObject then true
    else if d.leadsTo keyword then entersSchema d target rest
    else if d.leadsInto keyword then
      match rest with
      | [] => false
      | _ :: rest => entersSchema d target rest
    else false

/-- The part of a value that a segment means, and the segment as a keyword. Nothing, if
    there is no such part. -/
def partAt (v : Value) (segment : List Char) : Except Fault (Option Value × Option String) :=
  match v with
  | .seq _ items => do return ((itemAt? items (← index segment)).map v.part, none)
  | .text s => do return ((itemAt? s.toList (← index segment)).map fun c => .text c.toString, none)
  | .bytes b => do return ((itemAt? b (← index segment)).map fun n => .int n.toNat, none)
  | .pair a b => do return (itemAt? [a, b] (← index segment), none)
  | .map _ entries =>
    let key := String.ofList (unescaped segment)
    .ok ((Value.find? (.text key) entries).map v.part, some key)
  | _ => .error .unsuited

/-- What a path of keys and indices leads to, and the scope there. `way` is the path as
    it was written, `whole` what it begins at, and `since` what of it was followed since
    the scope has changed. -/
def follow (d : Dialect) (way : String) (whole : Value) (since : List (Option String))
    (scope : Scope) (v : Value) : List (List Char) → Except Fault (Value × Scope)
  | [] => .ok (v, scope)
  | segment :: rest => do
    match ← partAt v segment with
    | (none, _) => .error (.missing (.path way whole.display))
    | (some next, key) =>
      let since := since ++ [key]
      let own ← if entersSchema d next since then ownAddress d next else .ok none
      match own with
      | some a => follow d way whole [] { scope with base := ← joined scope.base a } next rest
      | none => follow d way whole since scope next rest

namespace Registry

/-- The outermost schema on the way that has a dynamic anchor of a name. -/
def outermost (r : Registry) (name : String) (found : Resource) :
    List String → Except Fault Resource
  | [] => .ok found
  | address :: rest => do
    match ← r.anchor? address name with
    | some (e, a) => outermost r name (if a.isDynamic then e else found) rest
    | none =>
      if (← r.resource? address).isNone then throw (.missing (.resource address))
      outermost r name found rest

/-- The schema that a name in a reference means, where the scope is that of the address,
    and the scope there. -/
def anchored (r : Registry) (scope : Scope) (at_ : Resource) (name : String) :
    Except Fault (Value × Scope) := do
  match ← r.anchor? at_.address name with
  | none =>
    .error (.missing (if name.toList.contains '/' then .anchorName name
      else .anchor name at_.schema.display))
  | some (e, a) =>
    if a.isDynamic then
      let target ← outermost r name e scope.previous
      return (target.schema, ← scope.inside target.dialect target.schema)
    else return (e.schema, scope)

/-- What a reference means, and the scope there. -/
def lookup (r : Registry) (scope : Scope) (reference : String) : Except Fault (Value × Scope) := do
  let (address, fragment) ← if reference.startsWith "#" then .ok (scope.base, reference.toList.drop 1)
    else (Address.split (← joined scope.base reference)).mapError .address
  match ← r.resource? address with
  | none => .error (.missing (.address reference))
  | some e =>
    let scope := scope.moved address
    match fragment with
    | [] => return (e.schema, scope)
    | '/' :: path =>
      follow e.dialect (String.ofList fragment) e.schema [] scope e.schema
        (Text.splitOn '/' (Address.unquoted path))
    | name => r.anchored scope e (String.ofList name)

/-- What a reference to the outermost schema of a recursive kind means. -/
def lookupRecursive (r : Registry) (scope : Scope) : Except Fault (Value × Scope) := do
  let isRecursive (v : Value) : Bool := ((v.get? "$recursiveAnchor").map Value.isTrue).getD false
  let here ← lookup r scope "#"
  if isRecursive here.1 then climb isRecursive here scope.previous else return here
where
  /-- The last of the addresses on the way up to which every schema is recursive. -/
  climb (isRecursive : Value → Bool) (found : Value × Scope) :
      List String → Except Fault (Value × Scope)
    | [] => .ok found
    | address :: rest => do
      let next ← lookup r scope address
      if isRecursive next.1 then climb isRecursive next rest else return found

end Registry

/-- What a reference of a schema means; if it is missing, the reference leads nowhere. A
    schema on the way that is missing is not what the reference leads to. -/
def referred (found : Except Fault (Value × Scope)) : Except Fault (Value × Scope) :=
  found.mapError fun
    | .missing (.resource a) => .missing (.resource a)
    | .missing _ => .reference
    | f => f

end Schema

end Annals
