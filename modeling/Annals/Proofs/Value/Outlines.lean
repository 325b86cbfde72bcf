import Annals.Proofs.Value.Modest

/-!
# The Mappings in a Value

What is asked of every mapping in a value is often about its keys alone, and about whether
anything can be reached below them. This is the outline of a mapping. A part of a container is
taken out with the container filled in for the references to it, so it is not the value that
stood there; but all mappings in it have the outline of one that is in the container
(`outlines_part`). So what is true of all outlines in a value is true of those in its parts.

## Main definitions

* `Value.isContainer`: Whether indices or keys lead into a value.
* `Value.outlines`: The outlines of the mappings in a value.

## Theorems

* `outlines_item`, `outlines_entry`, `outlines_part`: The outlines in the parts of a value.
-/

namespace Annals

namespace Value

/-- A list or a mapping, or what leads back to one. -/
def isContainer : Value → Bool
  | .seq .. | .map .. | .back _ => true
  | _ => false

/-- The keys of a mapping, each with whether there is a container under it. -/
def outline (entries : List (Value × Value)) : List (Value × Bool) :=
  entries.map fun e => (e.1, e.2.isContainer)

mutual

/-- The outlines of the mappings in a value. -/
def outlines : Value → List (List (Value × Bool))
  | .seq _ items => itemOutlines items
  | .map _ entries => outline entries :: entryOutlines entries
  | .pair a b => outlines a ++ outlines b
  | _ => []
termination_by structural v => v

/-- The outlines of the mappings in several values. -/
def itemOutlines : List Value → List (List (Value × Bool))
  | [] => []
  | v :: rest => outlines v ++ itemOutlines rest
termination_by structural vs => vs

/-- The outlines of the mappings in the values of some entries. -/
def entryOutlines : List (Value × Value) → List (List (Value × Bool))
  | [] => []
  | (_, v) :: rest => outlines v ++ entryOutlines rest
termination_by structural es => es

end

theorem outlines_item {id : Nat} {items : List Value} {v : Value} (hv : v ∈ items) :
    v.outlines ⊆ (Value.seq id items).outlines := by
  rw [outlines]
  induction items with
  | nil => cases hv
  | cons w rest ih =>
      rw [itemOutlines]
      rcases List.mem_cons.mp hv with rfl | hv
      · exact List.subset_append_left _ _
      · exact List.subset_append_of_subset_right _ (ih hv)

theorem outlines_entry {id : Nat} {entries : List (Value × Value)} {e : Value × Value}
    (he : e ∈ entries) : e.2.outlines ⊆ (Value.map id entries).outlines := by
  rw [outlines]
  refine List.subset_cons_of_subset _ ?_
  induction entries with
  | nil => cases he
  | cons f rest ih =>
      rw [entryOutlines]
      rcases List.mem_cons.mp he with rfl | he
      · exact List.subset_append_left _ _
      · exact List.subset_append_of_subset_right _ (ih he)

theorem outline_mem (id : Nat) (entries : List (Value × Value)) :
    outline entries ∈ (Value.map id entries).outlines := by
  rw [outlines]
  exact List.mem_cons_self ..

section Filled

variable {whole : Value} (id : Nat)

/-- A container stays one when the whole is filled in, and nothing else becomes one. -/
theorem isContainer_filled (hw : whole.isContainer = true) (v : Value) :
    (filled id whole v).isContainer = v.isContainer := by
  cases v with
  | seq n items | map n entries =>
      rw [filled]
      split <;> rfl
  | back n =>
      rw [filled]
      split
      · exact hw
      · rfl
  | pair a b => rw [filled]; rfl
  | _ => rfl

theorem outline_filled (hw : whole.isContainer = true) (entries : List (Value × Value)) :
    outline (filledEntries id whole entries) = outline entries := by
  induction entries with
  | nil => rfl
  | cons e rest ih =>
      unfold outline at ih ⊢
      rw [filledEntries, List.map_cons, List.map_cons, ih, isContainer_filled id hw]

/-- What two lists have beyond others, both have from the same list. -/
theorem append_subset_of_subset {α : Type} {a a' b b' more : List α} (ha : a' ⊆ a ++ more)
    (hb : b' ⊆ b ++ more) : a' ++ b' ⊆ a ++ b ++ more := by
  rw [List.append_subset, List.append_assoc]
  refine ⟨fun x hx => ?_, List.subset_append_of_subset_right _ hb⟩
  rcases List.mem_append.mp (ha hx) with hx | hx
  · exact List.mem_append_left _ hx
  · exact List.mem_append_right _ (List.mem_append_right _ hx)

mutual

/-- Filling in puts no mappings into a value but those of the whole, and leaves the outlines of
    the others. -/
theorem outlines_filled (hw : whole.isContainer = true) : ∀ v : Value,
    (filled id whole v).outlines ⊆ v.outlines ++ whole.outlines
  | .null | .bool _ | .int _ | .float _ | .text _ | .bytes _ | .date _ | .moment _ | .set .. =>
      List.nil_subset _
  | .back n => by
      rw [filled]
      split
      · exact List.subset_append_right _ _
      · exact List.nil_subset _
  | .seq n items => by
      rw [filled]
      split
      · exact List.subset_append_left _ _
      · rw [outlines, outlines]
        exact itemOutlines_filled hw items
  | .map n entries => by
      rw [filled]
      split
      · exact List.subset_append_left _ _
      · rw [outlines, outlines, outline_filled id hw, List.cons_append]
        -- A mapping keeps its outline, since filling in leaves the keys and which values are
        -- mappings.
        exact List.cons_subset_cons _ (entryOutlines_filled hw entries)
  | .pair a b => by
      rw [filled, outlines, outlines]
      exact append_subset_of_subset (outlines_filled hw a) (outlines_filled hw b)

theorem itemOutlines_filled (hw : whole.isContainer = true) : ∀ vs : List Value,
    itemOutlines (filledItems id whole vs) ⊆ itemOutlines vs ++ whole.outlines
  | [] => List.nil_subset _
  | v :: rest => by
      rw [filledItems, itemOutlines, itemOutlines]
      exact append_subset_of_subset (outlines_filled hw v) (itemOutlines_filled hw rest)

theorem entryOutlines_filled (hw : whole.isContainer = true) : ∀ es : List (Value × Value),
    entryOutlines (filledEntries id whole es) ⊆ entryOutlines es ++ whole.outlines
  | [] => List.nil_subset _
  | (k, v) :: rest => by
      rw [filledEntries, entryOutlines, entryOutlines]
      exact append_subset_of_subset (outlines_filled hw v) (entryOutlines_filled hw rest)

end

end Filled

/-- The mappings in a part of a container have outlines that are in the container. -/
theorem outlines_part {whole child : Value} (hw : whole.isContainer = true)
    (hc : child.outlines ⊆ whole.outlines) : (whole.part child).outlines ⊆ whole.outlines := by
  unfold part
  split
  · exact hc
  · exact hc
  · exact fun o ho => (List.mem_append.mp (outlines_filled _ hw child ho)).elim (@hc o) id

theorem isContainer_part {whole : Value} (hw : whole.isContainer = true) (child : Value) :
    (whole.part child).isContainer = child.isContainer := by
  unfold part
  split
  · rfl
  · rfl
  · exact isContainer_filled _ hw child

end Value

end Annals
