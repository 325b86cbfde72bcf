import Annals.Proofs.Yaml.Construction
import Annals.Proofs.Yaml.PlacedNodes

/-!
# Places of Problems

Every problem with which a text cannot be decoded is at a place of this text.

What is left is the making of values. Most scalars that mean nothing are defects and have no
place. The problems are all at marks of nodes, and merging changes what the nodes hold but
not where they begin.

## Main definitions

* `Builder.Placed`: A builder for a document whose nodes begin at marks of a kind.
* `Builder.MergesPlaced`: Merging that keeps this.

## Theorems

* `Graph.initial_points`: What is made of a node at first.
* `Builder.fill_points`, `Builder.fillAll_points`: Filling collections.
* `decode_points`: The problems of a text.
-/

namespace Annals

namespace Yaml

variable {P : Mark → Prop} {α β : Type}

theorem mapM_points {f : α → Except Fault β} {Q : β → Prop} {items : List α}
    (h : ∀ a ∈ items, Points P (f a) Q) : Points P (items.mapM f) (fun bs => ∀ b ∈ bs, Q b) := by
  induction items with
  | nil => exact Points.ok fun b hb => absurd hb List.not_mem_nil
  | cons a rest ih =>
      rw [List.forall_mem_cons] at h
      rw [List.mapM_cons]
      exact h.1.bind fun b hb => (ih h.2).bind fun bs hbs =>
        Points.ok (List.forall_mem_cons.mpr ⟨hb, hbs⟩)

theorem boolOf_points (text : String) : Points P (boolOf text) (fun _ => True) := by
  unfold boolOf
  split
  · exact Points.ok trivial
  · exact Points.defect _

theorem magnitude_points (text : String) : Points P (magnitude text) (fun _ => True) := by
  unfold magnitude
  split
  · exact Points.defect _
  · exact Points.ok trivial

theorem digitsOf_points (base : Nat) (cs : List Char) :
    Points P (digitsOf base cs) (fun _ => True) := by
  refine Points.ite (Points.defect _) ?_
  split
  · exact Points.ok trivial
  · exact Points.defect _

theorem intOf_points (text : String) : Points P (intOf text) (fun _ => True) := by
  unfold intOf
  refine (magnitude_points text).bind fun r _ => ?_
  simp only []
  split
  · exact Points.defect _
  · exact Points.ok trivial
  · exact (digitsOf_points 2 _).bind fun _ _ => Points.ok trivial
  · exact (digitsOf_points 16 _).bind fun _ _ => Points.ok trivial
  · exact (digitsOf_points 8 _).bind fun _ _ => Points.ok trivial
  · refine Points.ite ?_ ((digitsOf_points 10 _).bind fun _ _ => Points.ok trivial)
    refine Points.bind (Q := fun _ => True) ?_ fun _ _ => Points.ok trivial
    exact Points.map (mapM_points fun a _ => digitsOf_points 10 a) fun _ _ => trivial

theorem doubleOf_points (own : Nat) (cs : List Char) :
    Points P (doubleOf own cs) (fun _ => True) := by
  unfold doubleOf
  split
  · exact Points.ok trivial
  · exact Points.defect _

theorem sixtiethsFrom_points (weight : Nat) (total : Double) (parts : List Double) :
    Points P (sixtiethsFrom weight total parts) (fun _ => True) := by
  induction parts generalizing weight total with
  | nil => exact Points.ok trivial
  | cons part rest ih => exact Points.ite (Points.defect _) (ih _ _)

theorem floatOf_points (own : Nat) (text : String) :
    Points P (floatOf own text) (fun _ => True) := by
  refine (magnitude_points _).bind fun r _ => ?_
  refine Points.ite (Points.ok trivial) (Points.ite (Points.ok trivial) (Points.ite ?_ ?_))
  · refine (mapM_points fun cs _ => doubleOf_points own cs).bind fun parts _ => ?_
    exact (sixtiethsFrom_points _ _ _).bind fun _ _ => Points.ok trivial
  · exact (doubleOf_points own _).bind fun _ _ => Points.ok trivial

theorem bytesOf_points {mark : Mark} (hmark : P mark) (text : String) :
    Points P (bytesOf mark text) (fun _ => True) := by
  unfold bytesOf
  simp only []
  split
  · exact Points.problem hmark
  split
  · exact Points.ok trivial
  · exact Points.problem hmark

theorem checkedDate_points (year month day : Nat) :
    Points P (checkedDate year month day) (fun _ => True) :=
  Points.ite (Points.defect _)
    (Points.ite (Points.defect _) (Points.ite (Points.defect _) (Points.ok trivial)))

theorem checkedOffset_points (m : MomentText) :
    Points P (checkedOffset m) (fun _ => True) := by
  unfold checkedOffset
  split
  · exact Points.ite (Points.ok trivial) (Points.defect _)
  · exact Points.ok trivial

theorem momentOf_points (text : String) : Points P (momentOf text) (fun _ => True) := by
  unfold momentOf
  split
  · exact Points.defect _
  split
  · exact (checkedDate_points _ _ _).bind fun _ _ => Points.ok trivial
  · refine (checkedOffset_points _).bind fun offset _ => ?_
    refine (checkedDate_points _ _ _).bind fun date _ => Points.ite (Points.defect _) ?_
    exact Points.ite (Points.defect _) (Points.ite (Points.defect _) (Points.ok trivial))

variable {g : Graph}

theorem scalarText_points (h : g.Placed P) (fuel id : Nat) :
    Points P (scalarText g fuel id) (fun _ => True) := by
  induction fuel generalizing id with
  | zero => exact Points.defect _
  | succ n ih =>
      unfold scalarText
      simp only []
      split
      · exact Points.ok trivial
      · split
        · exact ih _
        · exact Points.problem (h id)
      · exact Points.problem (h id)

namespace Graph

theorem text_points (h : g.Placed P) (id : Nat) : Points P (g.text id) (fun _ => True) :=
  scalarText_points h _ id

theorem moment_points (h : g.Placed P) (id : Nat) : Points P (g.moment id) (fun _ => True) := by
  refine (text_points h id).bind fun text _ => ?_
  split
  · exact momentOf_points text
  · exact Points.defect _

theorem scalar_points (h : g.Placed P) (id : Nat) : Points P (g.scalar id) (fun _ => True) := by
  have htext := text_points h id
  refine Points.ite (htext.bind fun _ _ => Points.ok trivial) ?_
  refine Points.ite (htext.bind fun _ _ => Points.ok trivial) ?_
  refine Points.ite (htext.bind fun text _ => boolOf_points text) ?_
  refine Points.ite (htext.bind fun text _ => intOf_points text) ?_
  refine Points.ite (htext.bind fun text _ => floatOf_points _ text) ?_
  refine Points.ite (htext.bind fun text _ => bytesOf_points (h id) text) ?_
  exact Points.ite (moment_points h id) (Points.problem (h id))

theorem initial_points (h : g.Placed P) (id : Nat) : Points P (g.initial id) (fun _ => True) := by
  refine Points.ite (Points.ok trivial) (Points.ite (Points.ok trivial) ?_)
  refine Points.ite (Points.ok trivial) (Points.ite (Points.ok trivial) ?_)
  exact Points.map (scalar_points h id) fun _ _ => trivial

end Graph

namespace Builder

/-- A builder for a document whose nodes begin at marks that satisfy `P`. -/
def Placed (P : Mark → Prop) (b : Builder) : Prop := b.graph.Placed P

variable {b : Builder}

theorem make_points (h : b.Placed P) (id : Nat) : Points P (b.make id) (Placed P) := by
  -- Making adds a value and leaves the nodes alone, so only the fault is left to look at.
  refine ⟨?_, fun b' hb' id => by rw [make_graph hb']; exact h id⟩
  have hinitial : Points P (b.make id) (fun _ => True) :=
    Points.ite (Points.ok trivial) (Points.map (Graph.initial_points h id) fun _ _ => trivial)
  exact hinitial.fails

theorem checkKeysFrom_points (start : Mark) (seen : List Value) (entries : List (Nat × Nat))
    (h : b.Placed P) : Points P (checkKeysFrom start seen entries b) (Placed P) := by
  induction entries generalizing b seen with
  | nil => exact Points.ok h
  | cons e rest ih =>
      unfold checkKeysFrom
      refine Points.ite (ih _ h) ((make_points h _).bind fun b' hb' => ?_)
      split
      · split
        · exact Points.defect _
        · exact ih _ hb'
      · refine Points.ite (Points.ite (Points.defect _) (Points.problem (hb' _))) (ih _ hb')

theorem checkKeys_points (h : b.Placed P) (id : Nat) :
    Points P (b.checkKeys id) (Placed P) := by
  refine Points.ite ?_ (Points.ok h)
  split
  · exact checkKeysFrom_points _ _ _ h
  · exact Points.ite (Points.ok h) (Points.defect _)
  · exact Points.ite (Points.ok h) (Points.defect _)

theorem Placed.setEntries (h : b.Placed P) (id : Nat) (entries : List (Nat × Nat)) :
    (b.setEntries id entries).Placed P :=
  Graph.Placed.setContent h id _

/-- Merging by which no problem is at any other mark. -/
def MergesPlaced (P : Mark → Prop) (merge : Nat → Builder → Except Fault Builder) : Prop :=
  ∀ id b, b.Placed P → Points P (merge id b) (Placed P)

theorem mergedItems_points {merge : Nat → Builder → Except Fault Builder}
    (hmerge : MergesPlaced P merge) (id : Nat) (items : List Nat) (h : b.Placed P) :
    Points P (mergedItems merge id items b) (·.2.Placed P) := by
  induction items generalizing b with
  | nil => exact Points.ok h
  | cons item rest ih =>
      unfold mergedItems
      split
      · refine (hmerge item b h).bind fun b' hb' => ?_
        exact (ih hb').bind fun r hr => Points.ok hr
      · exact Points.problem (h item)

theorem flattenFrom_points {merge : Nat → Builder → Except Fault Builder}
    (hmerge : MergesPlaced P merge) (id : Nat) (merged kept entries : List (Nat × Nat))
    (h : b.Placed P) : Points P (flattenFrom merge id merged kept entries b) (Placed P) := by
  induction entries generalizing b merged kept with
  | nil =>
      refine Points.ok ?_
      split
      · exact h
      · exact h.setEntries id _
  | cons e rest ih =>
      -- The entry is taken away before the mappings behind it are merged.
      have hset := h.setEntries id (kept ++ rest)
      unfold flattenFrom
      refine Points.ite ?_ (ih _ _ ?_)
      · simp only []
        split
        · exact (hmerge _ _ hset).bind fun b' hb' => ih _ _ hb'
        · exact (mergedItems_points hmerge id _ hset).bind fun r hr => ih _ _ hr
        · exact Points.problem (hset _)
      · split
        · exact Graph.Placed.setTag h _ _
        · exact h

theorem flattenWithin_points (fuel : Nat) : MergesPlaced P (flattenWithin fuel) := by
  induction fuel with
  | zero => exact fun _ _ _ => Points.defect _
  | succ n ih => exact fun id b h => flattenFrom_points ih id _ _ _ h

theorem makeEntries_points (start : Mark) (made : List (Value × Nat)) (entries : List (Nat × Nat))
    (h : b.Placed P) : Points P (makeEntries start made entries b) (·.2.Placed P) := by
  induction entries generalizing b made with
  | nil => exact Points.ok h
  | cons e rest ih =>
      unfold makeEntries
      refine (make_points h _).bind fun b' hb' => ?_
      split
      · exact Points.problem (hb' _)
      · exact (make_points hb' _).bind fun b'' hb'' => ih _ hb''

theorem mappingEntries_points (h : b.Placed P) (id : Nat) :
    Points P (b.mappingEntries id) (·.2.Placed P) := by
  unfold mappingEntries
  refine (checkKeys_points h id).bind fun b1 hb1 => ?_
  simp only []
  split
  · refine (flattenWithin_points _ _ _ hb1).bind fun b2 hb2 => ?_
    exact (makeEntries_points _ _ _ hb2).bind fun r hr => Points.ok hr
  · exact Points.problem (hb1 id)

theorem makeAll_points (items : List Nat) (h : b.Placed P) :
    Points P (makeAll items b) (Placed P) := by
  induction items generalizing b with
  | nil => exact Points.ok h
  | cons id rest ih => exact (make_points h id).bind fun b' hb' => ih hb'

theorem makePairs_points (context : String) (start : Mark) (items : List Nat) (h : b.Placed P) :
    Points P (makePairs context start items b) (·.2.Placed P) := by
  induction items generalizing b with
  | nil => exact Points.ok h
  | cons item rest ih =>
      unfold makePairs
      simp only []
      split
      · refine (make_points h _).bind fun b1 hb1 => (make_points hb1 _).bind fun b2 hb2 => ?_
        exact (ih hb2).bind fun r hr => Points.ok hr
      · exact Points.problem (h item)
      · exact Points.problem (h item)

theorem fill_points (h : b.Placed P) (id : Nat) : Points P (b.fill id) (Placed P) := by
  unfold fill
  simp only []
  split
  · split
    · exact (makeAll_points _ h).bind fun b' hb' => Points.ok hb'
    · exact Points.problem (h id)
  · exact (mappingEntries_points h id).bind fun r hr => Points.ok hr
  · exact (mappingEntries_points h id).bind fun r hr => Points.ok hr
  · split
    · exact (makePairs_points _ _ _ h).bind fun r hr => Points.ok hr
    · exact Points.problem (h id)
  · exact Points.ok h

theorem fillAll_points (fuel : Nat) (h : b.Placed P) :
    Points P (b.fillAll fuel) (Placed P) := by
  induction fuel generalizing b with
  | zero => exact Points.ok h
  | succ n ih =>
      unfold fillAll
      split
      · exact Points.ok h
      · next id rest _ =>
          have hpopped : Placed P { b with waiting := rest } := h
          exact (fill_points hpopped id).bind fun b' hb' => ih hb'

end Builder

theorem construct_points (uniqueKeys : Bool) (root : Nat) (h : g.Placed P) :
    Points P (construct uniqueKeys root g) (fun _ => True) := by
  have hblank : Builder.Placed P ⟨uniqueKeys, g, Array.replicate g.size none, []⟩ := h
  refine (Builder.make_points hblank root).bind fun b hb => ?_
  exact (Builder.fillAll_points _ hb).bind fun b' _ => Points.ok trivial

/-- Every problem of a text is at a place of it. -/
theorem decode_points (uniqueKeys : Bool) (text : String) :
    Points (IsPlace text.toList) (decode uniqueKeys text) (fun _ => True) := by
  unfold decode
  refine (compose_placed text.toList).bind fun r hr => ?_
  split
  · exact Points.ok trivial
  · next root g => exact construct_points uniqueKeys root (hr root g rfl)

end Yaml

end Annals
