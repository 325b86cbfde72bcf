import Annals.Proofs.Text.Lists
import Annals.Proofs.Value.Outlines
import Annals.Schema.Registry

/-!
# What References Lead to

A reference leads to one of the schemas that are known, or along a path of keys and indices
into one of them. So what stands at the end of a reference has stood in a known schema all
along, and no mapping in it has keys that are not found there (`outlines_lookup`).

## Main definitions

* `Schema.Registry.documents`: The known schemas.

## Theorems

* `outlines_follow`: Along a path.
* `outlines_lookup`, `outlines_lookupRecursive`: Through a reference.
-/

namespace Annals

namespace Schema

variable {known : List (List (Value × Bool))}

theorem mem_of_itemAt? {α : Type} {items : List α} {n : Int} {a : α}
    (h : itemAt? items n = some a) : a ∈ items := by
  unfold itemAt? at h
  simp only [] at h
  generalize (if n < 0 then n + items.length else n) = place at h
  split at h
  · cases h
  · exact List.mem_of_getElem? h

/-- An item that a segment of a path means. -/
theorem exists_of_itemAt? {α : Type} {items : List α} {place : Except Fault Int} {f : α → Value}
    {next : Value} {key : Option String}
    (h : (do return ((itemAt? items (← place)).map f, none)) = Except.ok (some next, key)) :
    ∃ a ∈ items, f a = next := by
  rcases bind_eq_ok.mp h with ⟨n, _, hpart⟩
  have hnext : (itemAt? items n).map f = some next := (Prod.mk.inj (Except.ok.inj hpart)).1
  rcases Option.map_eq_some_iff.mp hnext with ⟨a, ha, hf⟩
  exact ⟨a, mem_of_itemAt? ha, hf⟩

/-- A part that a segment of a path means. -/
theorem outlines_partAt {v next : Value} {segment : List Char} {key : Option String}
    (h : partAt v segment = .ok (some next, key)) : next.outlines ⊆ v.outlines := by
  cases v with
  | seq id items =>
      rcases exists_of_itemAt? h with ⟨item, hitem, rfl⟩
      exact Value.outlines_part rfl (Value.outlines_item hitem)
  | text s =>
      rcases exists_of_itemAt? h with ⟨c, _, rfl⟩
      exact List.nil_subset _
  | bytes b =>
      rcases exists_of_itemAt? h with ⟨n, _, rfl⟩
      exact List.nil_subset _
  | pair a b =>
      -- A pair has two items, and their outlines are those of the pair.
      rcases bind_eq_ok.mp h with ⟨n, _, hpart⟩
      have hnext : itemAt? [a, b] n = some next := (Prod.mk.inj (Except.ok.inj hpart)).1
      rw [Value.outlines]
      rcases List.mem_cons.mp (mem_of_itemAt? hnext) with rfl | hb
      · exact List.subset_append_left _ _
      · rw [List.mem_singleton.mp hb]
        exact List.subset_append_right _ _
  | map id entries =>
      have hnext : (Value.find? (.text (String.ofList (unescaped segment))) entries).map
          (Value.map id entries).part = some next := (Prod.mk.inj (Except.ok.inj h)).1
      rcases Option.map_eq_some_iff.mp hnext with ⟨w, hfound, rfl⟩
      rcases Value.mem_of_find? hfound with ⟨k, hmem, _⟩
      exact Value.outlines_part rfl (Value.outlines_entry hmem)
  | _ => cases h

/-- What a path leads to. -/
theorem outlines_follow {d : Dialect} {way : String} {whole v : Value}
    {since : List (Option String)} {scope : Scope} {path : List (List Char)}
    {found : Value × Scope} (h : follow d way whole since scope v path = .ok found)
    (hv : v.outlines ⊆ known) : found.1.outlines ⊆ known := by
  induction path generalizing since scope v with
  | nil =>
      cases h
      exact hv
  | cons segment rest ih =>
      rw [follow] at h
      rcases bind_eq_ok.mp h with ⟨⟨next, key⟩, hpart, h⟩
      cases next with
      | none => cases h
      | some next =>
          have hnext := List.Subset.trans (outlines_partAt hpart) hv
          simp only [] at h
          split at h
          all_goals
            rcases bind_eq_ok.mp h with ⟨own, _, h⟩
            cases own with
            | none => exact ih h hnext
            | some a =>
                -- A schema with an address of its own changes the scope, and nothing else.
                rcases bind_eq_ok.mp h with ⟨base, _, h⟩
                exact ih h hnext

namespace Registry

/-- The schemas that are known. -/
def documents (r : Registry) : List Value :=
  (r.root ++ r.standard ++ r.inner.toOption.getD []).map Resource.schema

variable {r : Registry}

theorem mem_documents {e : Resource}
    (h : e ∈ r.root ++ r.standard ∨ ∃ inner, r.inner = .ok inner ∧ e ∈ inner) :
    e.schema ∈ r.documents := by
  refine List.mem_map.mpr ⟨e, ?_, rfl⟩
  rcases h with h | ⟨inner, hinner, h⟩
  · exact List.mem_append_left _ h
  · rw [hinner]
    exact List.mem_append_right _ h

theorem mem_of_resource? {address : String} {e : Resource}
    (h : r.resource? address = .ok (some e)) : e.schema ∈ r.documents := by
  unfold resource? at h
  split at h
  · next hfound =>
      cases h
      exact mem_documents (Or.inl (List.mem_of_find?_eq_some hfound))
  · cases hinner : r.inner with
    | error f =>
        rw [hinner] at h
        cases h
    | ok inner =>
        rw [hinner] at h
        have hfound : rootAt? address inner = some e := Except.ok.inj h
        exact mem_documents (Or.inr ⟨inner, hinner, List.mem_of_find?_eq_some hfound⟩)

theorem mem_of_anchorAt? {address name : String} {all : List Resource} {e : Resource} {a : Anchor}
    (h : anchorAt? address name all = some (e, a)) : e ∈ all := by
  rcases List.exists_of_findSome?_eq_some h with ⟨f, hf, hown⟩
  split at hown
  · rcases Option.map_eq_some_iff.mp hown with ⟨b, _, hpair⟩
    cases hpair
    exact hf
  · cases hown

theorem mem_of_anchor? {address name : String} {e : Resource} {a : Anchor}
    (h : r.anchor? address name = .ok (some (e, a))) : e.schema ∈ r.documents := by
  unfold anchor? at h
  split at h
  · next hfound =>
      cases h
      exact mem_documents (Or.inl (List.mem_append_right _ (mem_of_anchorAt? hfound)))
  · cases hinner : r.inner with
    | error f =>
        rw [hinner] at h
        cases h
    | ok inner =>
        rw [hinner] at h
        exact mem_documents (Or.inr ⟨inner, hinner, mem_of_anchorAt? (Except.ok.inj h)⟩)

theorem mem_of_outermost {name : String} {found e : Resource} {addresses : List String}
    (hfound : found.schema ∈ r.documents) (h : r.outermost name found addresses = .ok e) :
    e.schema ∈ r.documents := by
  induction addresses generalizing found with
  | nil =>
      cases h
      exact hfound
  | cons address rest ih =>
      rw [outermost] at h
      rcases bind_eq_ok.mp h with ⟨at_, hat, h⟩
      -- An address that has no anchor of the name is passed over.
      cases at_ with
      | none =>
          rcases bind_eq_ok.mp h with ⟨known, _, h⟩
          simp only [] at h
          split at h
          · cases h
          · exact ih hfound h
      | some next =>
          refine ih ?_ h
          split
          · exact mem_of_anchor? hat
          · exact hfound

theorem mem_of_anchored {scope : Scope} {at_ : Resource} {name : String} {found : Value × Scope}
    (h : r.anchored scope at_ name = .ok found) : found.1 ∈ r.documents := by
  unfold anchored at h
  rcases bind_eq_ok.mp h with ⟨next, hnext, h⟩
  cases next with
  | none => cases h
  | some next =>
      have hown := mem_of_anchor? hnext
      simp only [] at h
      split at h
      · -- A dynamic anchor may lead to a schema further out, which is in the registry as well.
        rcases bind_eq_ok.mp h with ⟨target, htarget, h⟩
        rcases bind_eq_ok.mp h with ⟨inside, _, h⟩
        cases h
        exact mem_of_outermost hown htarget
      · cases h
        exact hown

/-- What a reference leads to. -/
theorem outlines_lookup {scope : Scope} {reference : String} {found : Value × Scope}
    (hr : ∀ d ∈ r.documents, d.outlines ⊆ known) (h : r.lookup scope reference = .ok found) :
    found.1.outlines ⊆ known := by
  unfold lookup at h
  simp only [] at h
  split at h
  -- An address that is not the one of the current schema is made from the reference first.
  on_goal 2 => rcases bind_eq_ok.mp h with ⟨base, _, h⟩
  all_goals
    rcases bind_eq_ok.mp h with ⟨⟨address, fragment⟩, _, h⟩
    rcases bind_eq_ok.mp h with ⟨e, he, h⟩
    cases e with
    | none => cases h
    | some e =>
        have hown := hr _ (mem_of_resource? he)
        simp only [] at h
        split at h
        · cases h
          exact hown
        · exact outlines_follow h hown
        · exact hr _ (mem_of_anchored h)

theorem outlines_climb {isRecursive : Value → Bool} {addresses : List String}
    {here found : Value × Scope} {scope : Scope} (hr : ∀ d ∈ r.documents, d.outlines ⊆ known)
    (hhere : here.1.outlines ⊆ known)
    (h : lookupRecursive.climb r scope isRecursive here addresses = .ok found) :
    found.1.outlines ⊆ known := by
  induction addresses generalizing here with
  | nil =>
      cases h
      exact hhere
  | cons address rest ih =>
      -- The search climbs while it finds schemas that ask for it, and stays at the last one.
      rw [lookupRecursive.climb] at h
      rcases bind_eq_ok.mp h with ⟨next, hnext, h⟩
      split at h
      · exact ih (outlines_lookup hr hnext) h
      · cases h
        exact hhere

/-- What a reference to the outermost schema of a recursive kind leads to. -/
theorem outlines_lookupRecursive {scope : Scope} {found : Value × Scope}
    (hr : ∀ d ∈ r.documents, d.outlines ⊆ known) (h : r.lookupRecursive scope = .ok found) :
    found.1.outlines ⊆ known := by
  unfold lookupRecursive at h
  simp only [] at h
  rcases bind_eq_ok.mp h with ⟨here, hhere, h⟩
  have hstart := outlines_lookup hr hhere
  split at h
  · exact outlines_climb hr hstart h
  · cases h
    exact hstart

end Registry

/-- A reference that leads somewhere leads to the same for a schema. -/
theorem eq_ok_of_referred {found : Except Fault (Value × Scope)} {target : Value × Scope}
    (h : referred found = .ok target) : found = .ok target := by
  cases found with
  | error f => cases f <;> cases h
  | ok t => exact h

end Schema

end Annals
