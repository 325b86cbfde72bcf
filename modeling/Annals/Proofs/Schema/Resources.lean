import Annals.Proofs.Schema.Targets
import Annals.Schema.Check

/-!
# The Schemas in a Schema

What can be referred to is made out before a schema is followed: the schema with all schemas
that stand in it, and the standard ones. A schema that is found in another one is a part of it
as it was written, so all of its mappings are mappings of the whole. Hence a mapping in anything
that an accepted schema can refer to stands in this schema or in a standard one.

## Main definitions

* `Schema.standardOutlines`: The outlines of the mappings in the standard schemas.

## Theorems

* `crawlEntries_cons`: What is found in the entries of a schema.
* `outlines_crawl`: What is found in a schema.
* `outlines_documents`: What an accepted schema can refer to.
-/

namespace Annals

namespace Schema

/-- What is found in the value of an entry: nothing, the schema that the value is with those in
    it, or the schemas that it has. -/
inductive FoundIn (d : Dialect) (base : String) : Value → List Resource → Prop where
  | nothing (v : Value) : FoundIn d base v []
  | schema {id : Nat} {entries : List (Value × Value)} {found : List Resource}
      (h : crawl d base (.map id entries) = .ok found) : FoundIn d base (.map id entries) found
  | values {id : Nat} {entries : List (Value × Value)} {found : List Resource}
      (h : crawlValues d base entries = .ok found) : FoundIn d base (.map id entries) found
  | items {id : Nat} {items : List Value} {found : List Resource}
      (h : crawlItems d base items = .ok found) : FoundIn d base (.seq id items) found

/-- What is found in entries is found in the first of them or in the others. The keyword decides
    what is looked for in its value. -/
theorem crawlEntries_cons {d : Dialect} {base : String} {k v : Value}
    {rest : List (Value × Value)} {found : List (Role × List Resource)}
    (h : crawlEntries d base ((k, v) :: rest) = .ok found) :
    ∃ own others, crawlEntries d base rest = .ok others ∧ found = own ++ others ∧
      ∀ f ∈ own, FoundIn d base v f.2 := by
  have hnone (h : crawlEntries d base rest = .ok found) :
      ∃ own others, crawlEntries d base rest = .ok others ∧ found = own ++ others ∧
        ∀ f ∈ own, FoundIn d base v f.2 :=
    ⟨[], found, h, rfl, fun _ hf => absurd hf List.not_mem_nil⟩
  have hsome {role : Option Role} {inner : Except Fault (List Resource)}
      (hinner : ∀ all, inner = .ok all → FoundIn d base v all)
      (h : (do return (role.map (·, ← inner)).toList ++ (← crawlEntries d base rest)) = .ok found) :
      ∃ own others, crawlEntries d base rest = .ok others ∧ found = own ++ others ∧
        ∀ f ∈ own, FoundIn d base v f.2 := by
    rcases bind_eq_ok.mp h with ⟨all, hall, h⟩
    rcases bind_eq_ok.mp h with ⟨others, hothers, h⟩
    cases h
    refine ⟨_, others, hothers, rfl, fun f hf => ?_⟩
    cases role with
    | none => cases hf
    | some role =>
        rw [List.mem_singleton.mp hf]
        exact hinner all hall
  have hempty : ∀ all, Except.ok [] = Except.ok (ε := Fault) all → FoundIn d base v all := by
    intro all hall
    cases hall
    exact .nothing v
  -- Only a text is a keyword, and what is looked for depends on the kind of its value.
  cases k with
  | text k =>
      cases v with
      | map id entries =>
          simp only [crawlEntries] at h
          split at h
          · exact hsome (fun _ => .schema) h
          · exact hsome (fun _ => .schema) h
          · exact hsome (fun _ => .schema) h
          · exact hsome (fun _ => .values) h
          · split at h
            · exact hsome (fun _ => .values) h
            · exact hsome hempty h
          · split at h
            · cases h
            · exact hsome hempty h
          · exact hsome hempty h
      | seq id items =>
          simp only [crawlEntries] at h
          split at h
          · exact hsome (fun _ => .items) h
          · exact hsome (fun _ => .items) h
          · exact hsome hempty h
          · exact hsome hempty h
          · cases h
      | _ =>
          -- There is no schema in what is no container. It may be wrong, and else it is passed.
          simp only [crawlEntries] at h
          split at h <;> first
            | exact hnone h
            | rcases bind_eq_ok.mp h with ⟨_, _, h⟩
              exact hnone h
  | _ => exact hnone h

/-- Schemas all of whose mappings have known outlines. -/
abbrev Within (known : List (List (Value × Bool))) (found : List Resource) : Prop :=
  ∀ e ∈ found, e.schema.outlines ⊆ known

section Within

variable {known more : List (List (Value × Bool))} {found others : List Resource}

theorem within_nil : Within known [] := fun _ he => absurd he List.not_mem_nil

theorem Within.append (h : Within known found) (ho : Within more others) :
    Within (known ++ more) (found ++ others) :=
  List.forall_mem_append.mpr
    ⟨fun e he => List.subset_append_of_subset_left _ (h e he),
      fun e he => List.subset_append_of_subset_right _ (ho e he)⟩

theorem within_of_map {α : Type} {answer : Except Fault α}
    (h : (answer.map fun _ => []) = .ok found) : Within known found := by
  cases answer with
  | error f => cases h
  | ok a =>
      cases h
      exact within_nil

/-- What is found in entries is within them, if this is so for the first and for the others. -/
theorem within_entries {d : Dialect} {base : String} {k v : Value} {rest : List (Value × Value)}
    {found : List (Role × List Resource)} (h : crawlEntries d base ((k, v) :: rest) = .ok found)
    (hown : ∀ own, FoundIn d base v own → Within v.outlines own)
    (hrest : ∀ others, crawlEntries d base rest = .ok others →
      ∀ f ∈ others, Within (Value.entryOutlines rest) f.2) :
    ∀ f ∈ found, Within (Value.entryOutlines ((k, v) :: rest)) f.2 := by
  rcases crawlEntries_cons h with ⟨own, others, hothers, rfl, hfirst⟩
  rw [Value.entryOutlines]
  exact List.forall_mem_append.mpr
    ⟨fun f hf e he => List.subset_append_of_subset_left _ (hown _ (hfirst f hf) e he),
      fun f hf e he => List.subset_append_of_subset_right _ (hrest _ hothers f hf e he)⟩

end Within

mutual

theorem outlines_crawl : ∀ (v : Value) {d : Dialect} {base : String} {found : List Resource},
    crawl d base v = .ok found → Within v.outlines found
  | .map id entries, d, base, found, h => by
      rw [crawl] at h
      rcases bind_eq_ok.mp h with ⟨d, _, h⟩
      rcases bind_eq_ok.mp h with ⟨own, _, h⟩
      -- The schemas inside and the schema itself, in whatever order they are listed.
      have hfound {base : String} {inner : List (Role × List Resource)}
          (hinner : crawlEntries d base entries = .ok inner) (anchors : List Anchor) :
          Within (Value.map id entries).outlines
            ((inner.mergeSort fun a b => a.1.ctorIdx ≤ b.1.ctorIdx).flatMap (·.2) ++
              [⟨base, own.isSome, d, .map id entries, anchors⟩]) := by
        refine List.forall_mem_append.mpr ⟨fun e he => ?_, fun e he => ?_⟩
        · rcases List.mem_flatMap.mp he with ⟨f, hf, he⟩
          rw [Value.outlines]
          exact List.subset_cons_of_subset _
            (outlines_crawlEntries entries hinner f (List.mem_mergeSort.mp hf) e he)
        · rw [List.mem_singleton.mp he]
          exact List.Subset.refl _
      simp only [] at h
      split at h
      all_goals
        rcases bind_eq_ok.mp h with ⟨base, _, h⟩
        rcases bind_eq_ok.mp h with ⟨anchors, _, h⟩
        rcases bind_eq_ok.mp h with ⟨inner, hinner, h⟩
        cases h
        exact hfound hinner anchors
  | .back _, d, base, found, h => by
      cases h
      exact within_nil
  | .seq .., d, base, found, h | .null, d, base, found, h | .bool _, d, base, found, h
  | .int _, d, base, found, h | .float _, d, base, found, h | .text _, d, base, found, h
  | .bytes _, d, base, found, h | .date _, d, base, found, h | .moment _, d, base, found, h
  | .set .., d, base, found, h | .pair .., d, base, found, h => by
      simp only [crawl] at h
      exact within_of_map h

theorem outlines_crawlEntries : ∀ (es : List (Value × Value)) {d : Dialect} {base : String}
    {found : List (Role × List Resource)}, crawlEntries d base es = .ok found →
    ∀ f ∈ found, Within (Value.entryOutlines es) f.2
  | [], d, base, found, h => by
      cases h
      exact fun _ hf => absurd hf List.not_mem_nil
  | (k, .map id entries) :: rest, d, base, found, h => by
      -- What stands in a list or a mapping is a part of the whole.
      refine within_entries h (fun own hown => ?_) fun _ ho => outlines_crawlEntries rest ho
      cases hown with
      | nothing => exact within_nil
      | schema h => exact outlines_crawl (.map id entries) h
      | values h =>
          rw [Value.outlines]
          exact fun e he => List.subset_cons_of_subset _ (outlines_crawlValues entries h e he)
  | (k, .seq id items) :: rest, d, base, found, h => by
      refine within_entries h (fun own hown => ?_) fun _ ho => outlines_crawlEntries rest ho
      cases hown with
      | nothing => exact within_nil
      | items h =>
          rw [Value.outlines]
          exact outlines_crawlItems items h
  | (k, .null) :: rest, d, base, found, h | (k, .bool _) :: rest, d, base, found, h
  | (k, .int _) :: rest, d, base, found, h | (k, .float _) :: rest, d, base, found, h
  | (k, .text _) :: rest, d, base, found, h | (k, .bytes _) :: rest, d, base, found, h
  | (k, .date _) :: rest, d, base, found, h | (k, .moment _) :: rest, d, base, found, h
  | (k, .set ..) :: rest, d, base, found, h | (k, .pair ..) :: rest, d, base, found, h
  | (k, .back _) :: rest, d, base, found, h => by
      refine within_entries h (fun own hown => ?_) fun _ ho => outlines_crawlEntries rest ho
      cases hown
      exact within_nil

theorem outlines_crawlValues : ∀ (es : List (Value × Value)) {d : Dialect} {base : String}
    {found : List Resource}, crawlValues d base es = .ok found →
    Within (Value.entryOutlines es) found
  | [], d, base, found, h => by
      cases h
      exact within_nil
  | (k, v) :: rest, d, base, found, h => by
      rcases bind_eq_ok.mp h with ⟨own, hown, h⟩
      rcases bind_eq_ok.mp h with ⟨others, hothers, h⟩
      cases h
      rw [Value.entryOutlines]
      exact Within.append (outlines_crawl v hown) (outlines_crawlValues rest hothers)

theorem outlines_crawlItems : ∀ (vs : List Value) {d : Dialect} {base : String}
    {found : List Resource}, crawlItems d base vs = .ok found →
    Within (Value.itemOutlines vs) found
  | [], d, base, found, h => by
      cases h
      exact within_nil
  | v :: rest, d, base, found, h => by
      rcases bind_eq_ok.mp h with ⟨own, hown, h⟩
      rcases bind_eq_ok.mp h with ⟨others, hothers, h⟩
      cases h
      rw [Value.itemOutlines]
      exact Within.append (outlines_crawl v hown) (outlines_crawlItems rest hothers)

end

/-- The standard schemas with their parts. -/
def standardRoots : List Value :=
  [Dialect.third, .fourth, .sixth, .seventh].map Dialect.standard ++ Standard.of2019 ++
    Standard.of2020

/-- The outlines of the mappings in the standard schemas. -/
def standardOutlines : List (List (Value × Bool)) := standardRoots.flatMap Value.outlines

/-- All keys in the standard schemas are texts. -/
theorem isText_standard : ∀ o ∈ standardOutlines, ∀ e ∈ o, e.1.isText = true := by
  decide +kernel

theorem within_wholeOf (d : Dialect) (schema : Value) :
    Within schema.outlines (Registry.wholeOf d schema) := by
  refine List.forall_mem_append.mpr ⟨?_, fun e he => ?_⟩
  · cases hcrawl : crawl d (((ownAddress d schema).toOption.bind id).getD "") schema with
    | error f => exact within_nil
    | ok found => exact outlines_crawl schema hcrawl
  · rw [List.mem_singleton.mp he]
    exact List.Subset.refl _

theorem within_standardSchemas : Within standardOutlines standardSchemas := by
  intro e he
  obtain ⟨d, root, hroot, he⟩ : ∃ d, ∃ root ∈ standardRoots, e ∈ Registry.wholeOf d root := by
    rcases List.mem_append.mp he with he | he
    · rcases List.mem_append.mp he with he | he
      · rcases List.mem_flatMap.mp he with ⟨d, hd, he⟩
        exact ⟨d, _, List.mem_append_left _ (List.mem_append_left _
          (List.mem_map.mpr ⟨d, hd, rfl⟩)), he⟩
      · rcases List.mem_flatMap.mp he with ⟨root, hroot, he⟩
        exact ⟨_, root, List.mem_append_left _ (List.mem_append_right _ hroot), he⟩
    · rcases List.mem_flatMap.mp he with ⟨root, hroot, he⟩
      exact ⟨_, root, List.mem_append_right _ hroot, he⟩
  exact List.Subset.trans (within_wholeOf d root e he)
    fun o ho => List.mem_flatMap.mpr ⟨root, hroot, ho⟩

/-- What an accepted schema can refer to: the schemas in it and the standard ones. -/
theorem outlines_documents {root : Value} {s : Schema} (h : accept root = .ok s) :
    ∀ d ∈ s.root :: s.registry.documents, d.outlines ⊆ root.outlines ++ standardOutlines := by
  rcases bind_eq_ok.mp h with ⟨d, _, h⟩
  split at h
  · cases h
  · cases h
  · rcases bind_eq_ok.mp h with ⟨r, hr, h⟩
    cases h
    rcases bind_eq_ok.mp (mapError_eq_ok.mp hr) with ⟨own, _, hr⟩
    cases hr
    refine List.forall_mem_cons.mpr ⟨List.subset_append_left _ _, fun v hv => ?_⟩
    rcases List.mem_map.mp hv with ⟨e, he, rfl⟩
    rcases List.mem_append.mp he with he | he
    · rcases List.mem_append.mp he with he | he
      · rw [List.mem_singleton.mp he]
        exact List.subset_append_left _ _
      · exact List.subset_append_of_subset_right _ (within_standardSchemas e he)
    · -- A schema that cannot be gone through has no schemas in it that could be found.
      cases hcrawl : crawl d (own.getD "") root with
      | error f =>
          rw [hcrawl] at he
          cases he
      | ok found =>
          rw [hcrawl] at he
          exact List.subset_append_of_subset_left _ (outlines_crawl root hcrawl e he)

end Schema

end Annals
