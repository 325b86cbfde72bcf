import Annals.Schema.Context

/-!
# What a Schema Has Looked At

Rules for what is left over need to know which items and which keys of a value
were looked at by the other keywords of a schema: by those beside it, and by those
of every schema that is followed for the same value and to which it conforms.

## Main definitions

* `Schema.seenItems`: The indices of the items that were looked at.
* `Schema.seenKeys`: The keys that were looked at.
-/

namespace Annals

namespace Schema

/-- What other schemas have looked at, one after another. -/
def collect {α : Type} (vs : List α) (seen : α → Except Fault (List Value)) :
    Except Fault (List Value) :=
  match vs with
  | [] => .ok []
  | v :: rest => do return (← seen v) ++ (← collect rest seen)

/-- The schemas in the list under a keyword. -/
def listUnder (schema : Value) (keyword : String) : List Value :=
  ((schema.get? keyword).bind Value.items?).getD []

/-- What a reference under a keyword leads to. -/
def target (c : Context) (schema : Value) (keyword : String) :
    Except Fault (List (Context × Value)) :=
  match schema.get? keyword with
  | some (.text s) => do
    let (found, scope) ← c.registry.lookup c.scope s
    let d ← c.dialect.inside found
    return [({ c with scope := scope, dialect := d }, found)]
  | some .null | none => .ok []
  | some _ => .error .noSchema

/-- What the references of a schema lead to, for a rule of a dialect. -/
def targets (d : Dialect) (c : Context) (schema : Value) : Except Fault (List (Context × Value)) := do
  let here ← target c schema "$ref"
  if d == .of2020 then return here ++ (← target c schema "$dynamicRef")
  if (schema.get? "$recursiveRef").isNone then return here
  let (found, scope) ← c.registry.lookupRecursive c.scope
  let inner ← c.dialect.inside found
  return here ++ [({ c with scope := scope, dialect := inner }, found)]

/-- The schemas of a condition that are followed for a value. -/
def conditional (judge : Judge) (c : Context) (schema value : Value) :
    Except Fault (List (Context × Value)) :=
  match schema.get? "if" with
  | none => .ok []
  | some test => do
    if ← holds judge c test value then
      return (c, test) :: ((schema.get? "then").map (c, ·)).toList
    else return ((schema.get? "else").map (c, ·)).toList

/-- The schemas in the lists of a schema to which a value conforms. -/
def conforming (judge : Judge) (c : Context) (schema value : Value) :
    Except Fault (List (Context × Value)) := do
  let fits ← ["allOf", "oneOf", "anyOf"].mapM fun keyword =>
    (listUnder schema keyword).filterM fun s => (descend judge c s value).conforms
  return fits.flatten.map (c, ·)

/-- The first numbers, as indices. -/
def indices (n : Nat) : List Value := (List.range n).map fun (i : Nat) => .int i

/-- The indices of the items of a list that the schema for items looks at; none, if it
    looks at all of them. -/
def firstItems? (d : Dialect) (schema : Value) : Except Fault (Option (List Value)) :=
  match schema.get? "items" with
  | none => .ok (some (if d == .of2020 then indices (listUnder schema "prefixItems").length else []))
  | some setting =>
    if d == .of2020 || (schema.get? "additionalItems").isSome || setting.isObject then .ok none
    else match setting with
      | .seq _ items => .ok (some (indices items.length))
      | .text s => .ok (some (indices s.length))
      | _ => .error .unsuited

/-- The indices of the items of a list that were looked at, for a rule of a dialect. -/
def seenItems (judge : Judge) (d : Dialect) : (fuel : Nat) → Context → (schema value : Value) →
    Except Fault (List Value)
  | 0, _, _, _ => .error .endless
  | fuel + 1, c, schema, value =>
    match schema with
    | .map .. => do
      let items := value.parts
      let ofSchemas (vs : List (Context × Value)) : Except Fault (List Value) :=
        collect vs fun (c, s) => seenItems judge d fuel c s value
      -- In this dialect the keyword is about all items behind the tuple.
      if d == .of2020 && (schema.get? "items").isSome then return indices items.length
      let referred ← ofSchemas (← targets d c schema)
      match ← firstItems? d schema with
      | none => return indices items.length
      | some first =>
        let fitting (keyword : String) : Except Fault (List Value) :=
          match schema.get? keyword with
          | none => .ok []
          | some setting => do
            let fits ← (items.zipIdx).filterM fun (v, _) => holds judge c setting v
            return fits.map fun (_, i) => .int i
        return referred ++ first ++ (← ofSchemas (← conditional judge c schema value)) ++
          (← fitting "contains") ++ (← fitting "unevaluatedItems") ++
          (← ofSchemas (← conforming judge c schema value))
    | .bool _ => .ok []
    | _ => .error .noSchema

/-- The keys that the schemas for single keys and for other keys look at. In the older
    dialect a schema for other keys that allows everything looks at all of them, and a
    mapping at those that are among its own keys. -/
def namedKeys (judge : Judge) (d : Dialect) (c : Context) (schema value : Value)
    (entries : List (Value × Value)) : Except Fault (List Value) := do
  let among (names : List (Value × Value)) : List Value :=
    (names.map (·.1)).filter fun k => (Value.find? k entries).isSome
  let named := match schema.get? "properties" with
    | some (.map _ properties) => among properties
    | _ => []
  let others ← ["additionalProperties", "unevaluatedProperties"].mapM fun keyword =>
    match schema.get? keyword with
    | none | some .null => .ok []
    | some setting =>
      if d == .of2020 then do
        let fits ← entries.filterM fun (_, v) =>
          (descend judge c setting (value.part v)).conforms
        return fits.map (·.1)
      else match setting with
        | .bool true => .ok (entries.map (·.1))
        | .map _ own => .ok (among own)
        | _ => .ok []
  return named ++ others.flatten

/-- The keys that match patterns of a schema. -/
def matchingKeys (schema : Value) (entries : List (Value × Value)) : Except Fault (List Value) :=
  match schema.get? "patternProperties" with
  | some (.map _ patterns) => do
    let fits ← entries.filterM fun (k, _) => do
      let found ← patterns.mapM fun (p, _) => match p with
        | .text p => occurs p k
        | _ => .error .unsuited
      return found.any id
    return fits.map (·.1)
  | _ => .ok []

/-- The keys of a mapping that were looked at, for a rule of a dialect. -/
def seenKeys (judge : Judge) (d : Dialect) : (fuel : Nat) → Context → (schema value : Value) →
    Except Fault (List Value)
  | 0, _, _, _ => .error .endless
  | fuel + 1, c, schema, value =>
    match schema, value with
    | .map .., .map _ entries => do
      let ofSchemas (vs : List (Context × Value)) : Except Fault (List Value) :=
        collect vs fun (c, s) => seenKeys judge d fuel c s value
      -- Schemas for keys that are not there were not held against anything.
      let dependent : List Value := match schema.get? "dependentSchemas" with
        | some (.map _ schemas) =>
          (schemas.filter fun (k, _) => (Value.find? k entries).isSome).map (·.2)
        | _ => []
      return (← ofSchemas (← targets d c schema)) ++ (← namedKeys judge d c schema value entries) ++
        (← matchingKeys schema entries) ++ (← ofSchemas (dependent.map (c, ·))) ++
        (← ofSchemas (← conforming judge c schema value)) ++
        (← ofSchemas (← conditional judge c schema value))
    | .bool _, _ => .ok []
    | .map .., _ => .ok []
    | _, _ => .error .noSchema

end Schema

end Annals
