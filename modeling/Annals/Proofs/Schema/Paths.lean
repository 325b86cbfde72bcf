import Annals.Proofs.Schema.Targets
import Annals.Schema.Check

/-!
# The Paths of Violations

A violation is found at some place of a value, and its path says by which indices and keys a
schema came there. This is not quite a way through the value. A key on the path can be the name
that a schema has for it, which is the same key but need not be written in the same way; it can
be a name that the schema asks for and the value does not have; and below a key that is null
there is nothing on the path at all. `Leads` says what there can be.

That all paths are of this form is shown rule by rule. The rules know nothing of how schemas
are followed but that the paths are right there (`Placing`), which is what the induction on the
room puts in. Names come from the schemas that are followed, so with a schema goes that all keys
in it are among the known ones.

## Main definitions

* `Schema.Leads`: Indices and keys that lead through a value.
* `Schema.Outcome.All`: What is true of the paths of all violations.
* `Schema.Placing`: A way to follow schemas that finds violations at places of the value.

## Theorems

* `all_rule`: The violations of a rule.
* `placing_judgeFor`: The violations of a schema.
* `leads_of_mem_violations`: The violations that are reported.
-/

namespace Annals

namespace Schema

/-- The keys of mappings that are known by their outlines. -/
def namesOf (known : List (List (Value × Bool))) : List Value := known.flatMap (·.map Prod.fst)

/-- Indices and keys that lead through a value, where some names are known besides its keys. -/
inductive Leads (names : List Value) : Value → List Value → Prop where
  | here (v : Value) : Leads names v []
  | item {id i : Nat} {items : List Value} {v : Value} {path : List Value}
      (hi : items[i]? = some v) (h : Leads names ((Value.seq id items).part v) path) :
      Leads names (.seq id items) (.int i :: path)
  | entry {id : Nat} {entries : List (Value × Value)} {e : Value × Value} {k : Value}
      {path : List Value} (he : e ∈ entries) (hk : k ∈ names ++ entries.map Prod.fst)
      (hsame : e.1 = k ∨ e.1.sameKey k = true)
      (h : Leads names ((Value.map id entries).part e.2) path) :
      Leads names (.map id entries) (k :: path)
  /-- A name that the value should have. -/
  | absent {id : Nat} {entries : List (Value × Value)} {k : Value}
      (hk : k ∈ names ++ entries.map Prod.fst) : Leads names (.map id entries) [k]
  /-- A key that is null is no part of the path. -/
  | unnamed {id : Nat} {entries : List (Value × Value)} {e : Value × Value} {path : List Value}
      (he : e ∈ entries) (hk : e.1 = .null)
      (h : Leads names ((Value.map id entries).part e.2) path) :
      Leads names (.map id entries) path
  /-- A key can be looked at as a value of its own. -/
  | key {id : Nat} {entries : List (Value × Value)} {e : Value × Value} {path : List Value}
      (he : e ∈ entries) (h : Leads names e.1 path) : Leads names (.map id entries) path

/-- Nothing leads into what is no container. -/
theorem Leads.eq_nil {names : List Value} {v : Value} {path : List Value} (h : Leads names v path)
    (hv : v.isContainer = false) : path = [] := by
  cases h with
  | here => rfl
  | _ => cases hv

namespace Outcome

/-- What is true of the paths of all violations that are found. -/
def All (holds : List Value → Prop) : Outcome → Prop
  | none => True
  | stop _ => True
  | found v rest => holds v.path ∧ (rest ()).All holds

variable {o : Outcome} {b : Unit → Outcome} {α : Type} {holds other : List Value → Prop}

theorem All.mono (h : o.All holds) (himp : ∀ path, holds path → other path) : o.All other := by
  induction o with
  | none | stop _ => trivial
  | found v rest ih => exact ⟨himp _ h.1, ih () h.2⟩

theorem All.andThen (ho : o.All holds) (hb : (b ()).All holds) : (o.andThen b).All holds := by
  induction o with
  | none => exact hb
  | stop f => trivial
  | found v rest ih => exact ⟨ho.1, ih () ho.2⟩

theorem all_each {items : List α} {check : α → Outcome}
    (h : ∀ item ∈ items, (check item).All holds) : (each items check).All holds := by
  induction items with
  | nil => trivial
  | cons item rest ih =>
      rw [List.forall_mem_cons] at h
      exact h.1.andThen (ih h.2)

theorem all_decide {answer : Except Fault α} {next : α → Outcome}
    (h : ∀ x, answer = .ok x → (next x).All holds) : (decide answer next).All holds := by
  cases answer with
  | ok x => exact h x rfl
  | error f => trivial

theorem All.beneath {key : Value} (h : o.All fun path => holds (key :: path)) :
    (o.beneath key).All holds := by
  induction o with
  | none | stop _ => trivial
  | found v rest ih => exact ⟨h.1, ih () h.2⟩

theorem all_single {keyword : Option String} {setting : Value} {pieces : List Piece}
    (h : holds []) : (single keyword setting pieces).All holds := by
  unfold single
  split
  · exact ⟨h, trivial⟩
  · trivial

theorem All.violations (h : o.All holds) {found : List Violation}
    (hfound : o.violations = .ok found) : ∀ v ∈ found, holds v.path := by
  induction o generalizing found with
  | none =>
      cases hfound
      exact fun _ hv => absurd hv List.not_mem_nil
  | stop f => cases hfound
  | found v rest ih =>
      rw [Outcome.violations] at hfound
      cases hrest : (rest ()).violations with
      | error f =>
          rw [hrest] at hfound
          cases hfound
      | ok more =>
          rw [hrest] at hfound
          cases hfound
          exact List.forall_mem_cons.mpr ⟨h.1, ih () h.2 hrest⟩

end Outcome

variable {known : List (List (Value × Bool))}

/-- All keys in the schemas that can be referred to are known. -/
def Context.Knows (known : List (List (Value × Bool))) (c : Context) : Prop :=
  ∀ d ∈ c.registry.documents, d.outlines ⊆ known

/-- A way to follow schemas that finds violations at places of the value. -/
def Placing (known : List (List (Value × Bool))) (judge : Judge) : Prop :=
  ∀ step c schema value, c.Knows known → schema.outlines ⊆ known →
    (judge step c schema value).All (Leads (namesOf known) value)

theorem mem_namesOf {entries : List (Value × Value)} {id : Nat} {e : Value × Value}
    (h : (Value.map id entries).outlines ⊆ known) (he : e ∈ entries) : e.1 ∈ namesOf known := by
  refine List.mem_flatMap.mpr ⟨_, h (Value.outline_mem id entries), ?_⟩
  exact List.mem_map.mpr ⟨_, List.mem_map.mpr ⟨e, he, rfl⟩, rfl⟩

theorem eq_map_of_entriesOf {v : Value} {entries : List (Value × Value)}
    (h : entriesOf v = .ok entries) : ∃ id, v = .map id entries := by
  cases v with
  | map id own =>
      cases h
      exact ⟨id, rfl⟩
  | _ => cases h

theorem eq_seq_of_itemsOf {v : Value} {items : List Value} (h : itemsOf v = .ok items) :
    ∃ id, v = .seq id items := by
  cases v with
  | seq id own =>
      cases h
      exact ⟨id, rfl⟩
  | _ => cases h

theorem outlines_get? {v w : Value} {key : String} (h : v.get? key = some w) :
    w.outlines ⊆ v.outlines := by
  cases v with
  | map id entries =>
      -- What is found for a key is the value of an entry.
      have hmem : ∃ k, (k, w) ∈ entries := by
        rw [Value.get?] at h
        induction entries with
        | nil => cases h
        | cons e rest ih =>
            rcases e with ⟨k, u⟩
            have hrest (h : Value.lookup? key rest = some w) : ∃ k', (k', w) ∈ (k, u) :: rest := by
              rcases ih h with ⟨k', hk'⟩
              exact ⟨k', List.mem_cons_of_mem _ hk'⟩
            cases k with
            | text name =>
                rw [Value.lookup?] at h
                split at h
                · cases h
                  exact ⟨_, List.mem_cons_self ..⟩
                · exact hrest h
            | _ => exact hrest h
      rcases hmem with ⟨k, hk⟩
      exact Value.outlines_entry hk
  | _ => cases h

theorem eq_null_of_sameKey {k : Value} (h : k.sameKey .null = true) : k = .null := by
  cases k with
  | null => rfl
  | float x => cases x <;> cases h
  | _ => cases h

/-- A rule that stands in a schema whose keys are known. -/
structure Place.Stands (known : List (List (Value × Bool))) (p : Place) : Prop where
  judge : Placing known p.judge
  context : p.context.Knows known
  setting : p.setting.outlines ⊆ known
  schema : p.schema.outlines ⊆ known

section Rules

variable {p : Place} {schema value : Value}

theorem all_follows {judge : Judge} {c : Context} {scope : Except Fault Scope}
    (hj : Placing known judge) (hc : c.Knows known) (hs : schema.outlines ⊆ known) :
    (follows judge c scope schema value).All (Leads (namesOf known) value) := by
  unfold follows
  split
  · trivial
  · exact Outcome.all_single (.here value)
  · exact Outcome.all_decide fun _ _ => Outcome.all_decide fun _ _ => hj _ _ _ _ hc hs

theorem Place.Stands.all_descend (h : p.Stands known) (hs : schema.outlines ⊆ known) :
    (p.descend schema value).All (Leads (namesOf known) value) :=
  all_follows h.judge h.context hs

/-- A part of a value that a key leads to. A schema that allows nothing does not say where. -/
theorem Place.Stands.all_descendAt (h : p.Stands known) (hs : schema.outlines ⊆ known)
    {key child : Value}
    (hkey : ∀ path, Leads (namesOf known) child path → Leads (namesOf known) value (key :: path))
    (hnull : key = .null → ∀ path, Leads (namesOf known) child path →
      Leads (namesOf known) value path) :
    (p.descendAt key schema child).All (Leads (namesOf known) value) := by
  have hbelow : (p.descend schema child).All (Leads (namesOf known) child) := h.all_descend hs
  unfold Place.descendAt Schema.descendAt
  split
  · next b =>
      cases b with
      | true => trivial
      | false => exact Outcome.all_single (.here value)
  · exact hbelow.mono (hnull rfl)
  · exact (hbelow.mono hkey).beneath

/-- An item of a list. -/
theorem Place.Stands.all_item (h : p.Stands known) (hs : schema.outlines ⊆ known) {id i : Nat}
    {items : List Value} {v : Value} (hi : items[i]? = some v) :
    (p.descendAt (.int i) schema ((Value.seq id items).part v)).All
      (Leads (namesOf known) (.seq id items)) :=
  h.all_descendAt hs (fun _ hpath => .item hi hpath) (fun hnull => (by cases hnull))

/-- A value under a key, which the schema may write in another way. -/
theorem Place.Stands.all_entry (h : p.Stands known) (hs : schema.outlines ⊆ known) {id : Nat}
    {entries : List (Value × Value)} {e : Value × Value} {k : Value} (he : e ∈ entries)
    (hk : k ∈ namesOf known ++ entries.map Prod.fst) (hsame : e.1 = k ∨ e.1.sameKey k = true) :
    (p.descendAt k schema ((Value.map id entries).part e.2)).All
      (Leads (namesOf known) (.map id entries)) := by
  refine h.all_descendAt hs (fun _ hpath => .entry he hk hsame hpath) fun hnull _ hpath => ?_
  subst hnull
  exact .unnamed he (hsame.elim (fun h => h) eq_null_of_sameKey) hpath

theorem all_violated (p : Place) (value : Value) (pieces : List Piece) :
    (p.violated pieces).All (Leads (namesOf known) value) :=
  Outcome.all_single (.here value)

theorem all_violatedIf (p : Place) (value : Value) (answer : Except Fault Bool)
    (pieces : List Piece) : (p.violatedIf answer pieces).All (Leads (namesOf known) value) := by
  refine Outcome.all_decide fun b _ => ?_
  split
  · exact all_violated p value pieces
  · trivial

/-- Items of a list, from some place on, with one schema. -/
theorem Place.Stands.all_items (h : p.Stands known) (hs : schema.outlines ⊆ known) {id : Nat}
    {items : List Value} (start : Nat) :
    (Outcome.each (items.zipIdx.drop start) fun (v, i) =>
      p.descendAt (.int i) schema ((Value.seq id items).part v)).All
        (Leads (namesOf known) (.seq id items)) := by
  refine Outcome.all_each fun e he => ?_
  rcases List.mem_zipIdx' (List.mem_of_mem_drop he) with ⟨hi, heq⟩
  exact h.all_item hs (List.getElem?_eq_some_iff.mpr ⟨hi, heq.symm⟩)

theorem Place.Stands.all_tuple (h : p.Stands known) {id : Nat} {items schemas : List Value}
    (hs : ∀ s ∈ schemas, s.outlines ⊆ known) :
    (tuple p (.seq id items) items schemas).All (Leads (namesOf known) (.seq id items)) := by
  refine Outcome.all_each fun e he => ?_
  rcases e with ⟨⟨v, s⟩, i⟩
  rcases List.mem_zipIdx' he with ⟨hi, heq⟩
  rw [List.getElem_zip] at heq
  rcases Prod.mk.inj heq with ⟨hv, hschema⟩
  rw [List.length_zip] at hi
  exact h.all_item (hs s (hschema ▸ List.getElem_mem _))
    (List.getElem?_eq_some_iff.mpr ⟨by omega, hv.symm⟩)

theorem Place.Stands.items (h : p.Stands known) {schemas : List Value}
    (hitems : itemsOf p.setting = .ok schemas) : ∀ s ∈ schemas, s.outlines ⊆ known := by
  rcases eq_seq_of_itemsOf hitems with ⟨id, hset⟩
  exact fun s hs => List.Subset.trans (hset ▸ Value.outlines_item hs) h.setting

theorem Place.Stands.entries (h : p.Stands known) {settings : List (Value × Value)}
    (hentries : entriesOf p.setting = .ok settings) :
    ∀ e ∈ settings, e.1 ∈ namesOf known ∧ e.2.outlines ⊆ known := by
  rcases eq_map_of_entriesOf hentries with ⟨id, hset⟩
  have hsetting := hset ▸ h.setting
  exact fun e he => ⟨mem_namesOf hsetting he, List.Subset.trans (Value.outlines_entry he) hsetting⟩

theorem Place.Stands.all_itemsAfterTuple (h : p.Stands known) (id : Nat) (items : List Value) :
    (itemsAfterTuple p (.seq id items) items).All (Leads (namesOf known) (.seq id items)) := by
  unfold itemsAfterTuple
  simp only []
  split
  · trivial
  · split
    · exact all_violated p _ _
    · exact h.all_items h.setting _

theorem Place.Stands.all_additionalItems (h : p.Stands known) (id : Nat) (items : List Value) :
    (additionalItems p (.seq id items) items).All (Leads (namesOf known) (.seq id items)) := by
  unfold additionalItems
  split
  · trivial
  · trivial
  · simp only []
    split
    · exact h.all_items h.setting _
    · split
      · exact all_violated p _ _
      · trivial
  · trivial

/-- Keys of a mapping that no other keyword speaks of. -/
theorem subset_of_extraKeys {entries : List (Value × Value)} {extras : List Value}
    (h : extraKeys p entries = .ok extras) : extras ⊆ entries.map Prod.fst := by
  unfold extraKeys at h
  simp only [] at h
  split at h
  all_goals
    rcases bind_eq_ok.mp h with ⟨properties, _, h⟩
    rcases bind_eq_ok.mp h with ⟨patterns, _, h⟩
    split at h
    · cases h
      exact List.filter_sublist.subset
    · exact List.Subset.trans (subset_of_filterM h) List.filter_sublist.subset

theorem Place.Stands.all_additionalProperties (h : p.Stands known) (id : Nat)
    (entries : List (Value × Value)) :
    (additionalProperties p (.map id entries) entries).All
      (Leads (namesOf known) (.map id entries)) := by
  refine Outcome.all_decide fun extras hextras => ?_
  split
  · refine Outcome.all_each fun k hk => ?_
    have hlabel : k ∈ namesOf known ++ entries.map Prod.fst :=
      List.mem_append_right _ (subset_of_extraKeys hextras hk)
    cases hfound : Value.find? k entries with
    | none =>
        -- Nothing is found under a key that is not the same as itself, and then it is null that
        -- the schema is held against.
        have hnone : ((Value.map id entries).part .null).isContainer = false :=
          Value.isContainer_part rfl .null
        refine h.all_descendAt h.setting (fun path hpath => ?_) fun _ path hpath => ?_
        · rw [hpath.eq_nil hnone]
          exact .absent hlabel
        · rw [hpath.eq_nil hnone]
          exact .here _
    | some v =>
        rcases Value.mem_of_find? hfound with ⟨own, hmem, hsame⟩
        exact h.all_entry (e := (own, v)) h.setting hmem hlabel (Or.inr hsame)
  · split
    · trivial
    · split
      · exact Outcome.all_decide fun _ _ => all_violated p _ _
      · exact all_violated p _ _

theorem Place.Stands.all_properties (h : p.Stands known) (id : Nat)
    (entries : List (Value × Value)) :
    (properties p (.map id entries) entries).All (Leads (namesOf known) (.map id entries)) := by
  refine Outcome.all_decide fun settings hsettings => Outcome.all_each fun e he => ?_
  rcases e with ⟨k, s⟩
  rcases h.entries hsettings _ he with ⟨hk, hs⟩
  simp only []
  split
  · next v hfound =>
      rcases Value.mem_of_find? hfound with ⟨own, hmem, hsame⟩
      exact h.all_entry (e := (own, v)) hs hmem (List.mem_append_left _ hk) (Or.inr hsame)
  · trivial

theorem Place.Stands.all_propertiesWithFlag (h : p.Stands known) (id : Nat)
    (entries : List (Value × Value)) :
    (propertiesWithFlag p (.map id entries) entries).All
      (Leads (namesOf known) (.map id entries)) := by
  refine Outcome.all_decide fun settings hsettings => Outcome.all_each fun e he => ?_
  rcases e with ⟨k, s⟩
  rcases h.entries hsettings _ he with ⟨hk, hs⟩
  -- The key is one of the names of the schema, whether or not the value has it.
  have hlabel : k ∈ namesOf known ++ entries.map Prod.fst := List.mem_append_left _ hk
  simp only []
  split
  · next v hfound =>
      rcases Value.mem_of_find? hfound with ⟨own, hmem, hsame⟩
      exact h.all_entry (e := (own, v)) hs hmem hlabel (Or.inr hsame)
  · split
    · split
      · split
        · exact Outcome.All.beneath (Outcome.all_single (.absent hlabel))
        · trivial
      · trivial
    · trivial

theorem Place.Stands.all_patternProperties (h : p.Stands known) (id : Nat)
    (entries : List (Value × Value)) :
    (patternProperties p (.map id entries) entries).All
      (Leads (namesOf known) (.map id entries)) := by
  refine Outcome.all_decide fun settings hsettings => Outcome.all_each fun e he => ?_
  rcases e with ⟨pattern, s⟩
  refine Outcome.all_each fun f hf => ?_
  simp only []
  split
  · refine Outcome.all_decide fun found _ => ?_
    split
    · exact h.all_entry (h.entries hsettings _ he).2 hf
        (List.mem_append_right _ (List.mem_map.mpr ⟨f, hf, rfl⟩)) (Or.inl rfl)
    · trivial
  · trivial

/-- What the entries of a setting ask of a value that has their keys. -/
theorem Place.Stands.all_present (h : p.Stands known) {entries : List (Value × Value)}
    {rule : Value → Value → Outcome}
    (hrule : ∀ k v, v.outlines ⊆ known → (rule k v).All (Leads (namesOf known) value)) :
    (present p entries rule).All (Leads (namesOf known) value) := by
  refine Outcome.all_decide fun settings hsettings => Outcome.all_each fun e he => ?_
  simp only []
  split
  · exact hrule _ _ (h.entries hsettings _ he).2
  · trivial

/-- A rule on the whole value: it says nothing if the answer to a question suits it. -/
theorem all_unless {α : Type} (p : Place) (value : Value) (answer : Except Fault α)
    (suits : α → Bool) (pieces : α → List Piece) :
    (Outcome.decide answer fun a => if suits a then .none else p.violated (pieces a)).All
      (Leads (namesOf known) value) := by
  refine Outcome.all_decide fun a _ => ?_
  split
  · trivial
  · exact all_violated p value (pieces a)

theorem all_containsCounted (p : Place) (value : Value) :
    (containsCounted p value).All (Leads (namesOf known) value) := by
  refine Outcome.all_decide fun found _ => ?_
  simp only []
  split
  · exact Outcome.all_single (.here value)
  · refine Outcome.all_decide fun tooFew _ => ?_
    split
    · trivial
    · split
      · exact all_violated p value _
      · exact Outcome.all_single (.here value)

theorem all_oneOf (p : Place) (value : Value) (schemas : List Value) :
    (oneOf p value schemas).All (Leads (namesOf known) value) := by
  refine Outcome.all_decide fun first _ => ?_
  split
  · exact all_violated p value _
  · exact all_unless p value _ _ _

theorem all_format (p : Place) (value : Value) :
    (format p value).All (Leads (namesOf known) value) := by
  unfold format
  split
  · split
    · trivial
    · exact all_violated p _ _
    · exact all_violated p _ _
    · trivial
  · trivial

theorem all_unevaluatedItems (p : Place) (value : Value) (fuel : Nat) :
    (unevaluatedItems fuel p value).All (Leads (namesOf known) value) :=
  all_unless p value _ _ _

theorem all_unevaluatedProperties (p : Place) (value : Value) (fuel : Nat)
    (entries : List (Value × Value)) :
    (unevaluatedProperties fuel p value entries).All (Leads (namesOf known) value) := by
  refine Outcome.all_decide fun seen _ => Outcome.all_decide fun keys _ => ?_
  split
  · trivial
  · split
    · exact all_violated p value _
    · exact all_violated p value _

theorem all_needed (p : Place) (value : Value) (entries : List (Value × Value)) (key : Value)
    (names : List Value) :
    (needed p entries key names).All (Leads (namesOf known) value) :=
  Outcome.all_each fun _ _ => all_violated p value _

/-- What a reference leads to. -/
theorem Place.Stands.all_descendTo (h : p.Stands known)
    {target : Except Fault (Value × Scope)}
    (ht : ∀ found, target = .ok found → found.1.outlines ⊆ known) :
    (descendTo p.judge p.context target value).All (Leads (namesOf known) value) :=
  Outcome.all_decide fun found hfound => all_follows h.judge h.context (ht found hfound)

theorem Place.Stands.all_allOf (h : p.Stands known) :
    (Outcome.decide (itemsOf p.setting) fun schemas =>
      .each schemas (p.descend · value)).All (Leads (namesOf known) value) :=
  Outcome.all_decide fun _ hitems =>
    Outcome.all_each fun s hs => h.all_descend (h.items hitems s hs)

/-- The violations of a rule are at places of the value. The cases are the keywords; most rules
    only speak of the value as a whole. -/
theorem Place.Stands.all_rule (h : p.Stands known) (fuel : Nat) (rule : Keyword) :
    (applyRule fuel rule p value).All (Leads (namesOf known) value) := by
  cases rule with
  | reference | dynamicReference =>
      simp only [applyRule]
      split
      · exact h.all_descendTo fun found hfound =>
          Registry.outlines_lookup h.context (eq_ok_of_referred hfound)
      · trivial
  | recursiveReference =>
      exact h.all_descendTo fun found hfound => Registry.outlines_lookupRecursive h.context hfound
  -- What goes on with another schema or in a part of the value.
  | additionalItems =>
      cases value with
      | seq id items => exact h.all_additionalItems id items
      | _ => trivial
  | additionalProperties =>
      cases value with
      | map id entries => exact h.all_additionalProperties id entries
      | _ => trivial
  | allOf => exact h.all_allOf
  | dependencies =>
      cases value with
      | map id entries =>
          simp only [applyRule]
          refine h.all_present fun k v hv => ?_
          split
          · exact all_needed p _ _ _ _
          · exact h.all_descend hv
      | _ => trivial
  | dependenciesOnName =>
      cases value with
      | map id entries =>
          simp only [applyRule]
          refine h.all_present fun k v hv => ?_
          split
          · exact h.all_descend hv
          · exact all_needed p _ _ _ _
          · exact all_needed p _ _ _ _
          · trivial
      | _ => trivial
  | dependentRequired =>
      cases value with
      | map id entries =>
          simp only [applyRule]
          exact h.all_present fun k v _ => Outcome.all_decide fun names _ => all_needed p _ _ _ _
      | _ => trivial
  | dependentSchemas =>
      cases value with
      | map id entries => exact h.all_present fun k v hv => h.all_descend hv
      | _ => trivial
  | «extends» =>
      simp only [applyRule]
      split
      · exact h.all_descend h.setting
      · exact h.all_allOf
  | condition =>
      refine Outcome.all_decide fun fits _ => ?_
      split
      · next branch hbranch =>
          exact h.all_descend (List.Subset.trans (outlines_get? hbranch) h.schema)
      · trivial
  | itemsAfterTuple =>
      cases value with
      | seq id items => exact h.all_itemsAfterTuple id items
      | _ => trivial
  | itemsOrTuple =>
      cases value with
      | seq id items =>
          simp only [applyRule]
          split
          · exact h.all_items h.setting 0
          · exact Outcome.all_decide fun schemas hitems => h.all_tuple (h.items hitems)
      | _ => trivial
  | itemsOrTupleStrict =>
      cases value with
      | seq id items =>
          simp only [applyRule]
          split
          · next schemas hset => exact h.all_tuple (h.items (by rw [hset]; rfl))
          · exact h.all_items h.setting 0
      | _ => trivial
  | tuple =>
      cases value with
      | seq id items => exact Outcome.all_decide fun schemas hitems => h.all_tuple (h.items hitems)
      | _ => trivial
  | patternProperties =>
      cases value with
      | map id entries => exact h.all_patternProperties id entries
      | _ => trivial
  | properties =>
      cases value with
      | map id entries => exact h.all_properties id entries
      | _ => trivial
  | propertiesWithFlag =>
      cases value with
      | map id entries => exact h.all_propertiesWithFlag id entries
      | _ => trivial
  | propertyNames =>
      cases value with
      | map id entries =>
          exact Outcome.all_each fun e he =>
            (h.all_descend h.setting).mono fun _ hpath => .key he hpath
      | _ => trivial
  -- What speaks of the value itself, and is violated there.
  | exclusiveMaximum | exclusiveMinimum | maximum | minimum | maximumWithFlag | minimumWithFlag
  | multipleOf =>
      simp only [applyRule]
      split
      · exact all_violatedIf p value _ _
      · trivial
  | maxItems | maxLength | maxProperties | minItems | minLength | minProperties =>
      cases value <;> first | trivial | exact all_violatedIf p _ _ _
  | disallow => exact Outcome.all_each fun _ _ => all_violatedIf p value _ _
  | not => exact all_violatedIf p value _ _
  | const | type | typeOrSchema => exact all_unless p value _ _ _
  | anyOf | enum => exact Outcome.all_decide fun _ _ => all_unless p value _ _ _
  | oneOf => exact Outcome.all_decide fun schemas _ => all_oneOf p value schemas
  | format =>
      simp only [applyRule]
      split
      · exact all_format p value
      · trivial
  | containsCounted | containsAny | unevaluatedItems =>
      cases value with
      | seq id items =>
          first
          | exact all_containsCounted p _
          | exact all_unevaluatedItems p _ _
          | exact all_unless p _ _ _ _
      | _ => trivial
  | pattern =>
      cases value with
      | text s =>
          simp only [applyRule]
          split
          · exact all_violatedIf p _ _ _
          · trivial
      | _ => trivial
  | required =>
      cases value with
      | map id entries =>
          exact Outcome.all_decide fun _ _ => Outcome.all_each fun _ _ => all_violated p _ _
      | _ => trivial
  | unevaluatedProperties =>
      cases value with
      | map id entries => exact all_unevaluatedProperties p _ _ entries
      | _ => trivial
  | uniqueItems =>
      cases value with
      | seq id items =>
          simp only [applyRule]
          split
          · trivial
          · exact all_unless p _ _ _ _
      | _ => trivial

end Rules

/-- The setting of an entry that counts is in the schema. -/
theorem outlines_applicable {d : Dialect} {id : Nat} {entries : List (Value × Value)}
    {e : Value × Value} (he : e ∈ applicable d entries) :
    e.2.outlines ⊆ (Value.map id entries).outlines := by
  unfold applicable at he
  split at he
  · split at he
    · exact Value.outlines_entry he
    · exact Value.outlines_entry he
    · next target _ hfound =>
        rw [List.mem_singleton.mp he]
        have hget : (Value.map id entries).get? "$ref" = some target := hfound
        exact outlines_get? hget
  · exact Value.outlines_entry he

/-- Schemas find violations at places of the value. The induction is on the room: a schema inside
    has less of it. -/
theorem placing_judgeFor (room : Nat) : Placing known (judgeFor room) := by
  induction room using Nat.strongRecOn with
  | ind room ih =>
      intro step c schema value hc hs
      -- Nothing is found in less room than three.
      rcases room with _ | _ | _ | room
      · trivial
      · trivial
      · trivial
      cases schema with
      | bool b =>
          cases b with
          | true => trivial
          | false => exact Outcome.all_single (.here value)
      | map id entries =>
          rw [judgeFor]
          refine Outcome.all_each fun e he => ?_
          have hsetting := List.Subset.trans (outlines_applicable he) hs
          rcases e with ⟨k, setting⟩
          cases k with
          | text name =>
              simp only []
              split
              · refine Place.Stands.all_rule ⟨?_, hc, hsetting, hs⟩ room _
                intro step c schema value hc hs
                cases step with
                | into => exact ih (room + 1) (by omega) .into c schema value hc hs
                | test => exact ih room (by omega) .test c schema value hc hs
              · trivial
          | _ => trivial
      | _ => trivial

/-- The violations that are reported are at places of the value. -/
theorem leads_of_mem_violations {s : Schema} {value : Value} {found : List Violation}
    (hs : ∀ d ∈ s.root :: s.registry.documents, d.outlines ⊆ known)
    (h : s.violations value = .ok found) {v : Violation} (hv : v ∈ found) :
    Leads (namesOf known) value v.path := by
  have hjudge : (judge s.registry s.dialect false s.root value).All
      (Leads (namesOf known) value) := by
    refine Outcome.all_decide fun own _ => placing_judgeFor maxRoom _ _ _ _ ?_ ?_
    · exact fun d hd => hs d (List.mem_cons_of_mem _ hd)
    · exact hs s.root (List.mem_cons_self ..)
  rcases bind_eq_ok.mp h with ⟨all, hall, h⟩
  split at h
  · cases h
    exact hjudge.violations hall v (List.mem_mergeSort.mp hv)
  · cases h

end Schema

end Annals
