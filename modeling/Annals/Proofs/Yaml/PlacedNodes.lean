import Annals.Proofs.Yaml.Merging
import Annals.Proofs.Yaml.PlacedEvents

/-!
# Places of Nodes

The nodes of a document begin at marks of events, and the problems of its composition are at
such marks. Putting the parts into a collection leaves its mark as it is, so it is enough to
look at a node when it is added.

## Main definitions

* `Graph.Placed`: A document whose nodes begin at marks of a kind.
* `Assembly.Placed`: The same for what was composed so far.

## Theorems

* `compose_points`: Nodes, items and entries.
* `compose_placed`: The document of a text, whose nodes begin at places of the text.
-/

namespace Annals

namespace Yaml

variable {P : Mark → Prop} {g : Graph}

/-- A document whose nodes begin at marks that satisfy `P`. -/
def Graph.Placed (P : Mark → Prop) (g : Graph) : Prop := ∀ id, P (g.node id).mark

/-- Another node in the place of one that begins at the same mark. -/
theorem mark_setIfInBounds (g : Graph) (id x : Nat) {node : Node}
    (hmark : node.mark = (g.node id).mark) :
    (Graph.node (g.setIfInBounds id node) x).mark = (g.node x).mark := by
  by_cases hid : id < g.size
  · rw [Graph.node_setIfInBounds g id x node hid]
    split
    · next hx => rw [hx, hmark]
    · rfl
  · rw [Array.setIfInBounds_eq_of_size_le (Nat.le_of_not_lt hid)]

namespace Graph

theorem Placed.push (h : g.Placed P) {node : Node} (hnode : P node.mark) :
    Placed P (g.push node) := by
  intro id
  unfold Graph.node
  rw [Array.getD_eq_getD_getElem?, Array.getElem?_push]
  split
  · exact hnode
  · have hid := h id
    unfold Graph.node at hid
    rwa [Array.getD_eq_getD_getElem?] at hid

theorem Placed.setContent (h : g.Placed P) (id : Nat) (content : Content) :
    (g.setContent id content).Placed P := by
  intro x
  have hsame : ((g.setContent id content).node x).mark = (g.node x).mark :=
    mark_setIfInBounds g id x rfl
  rw [hsame]
  exact h x

theorem Placed.setTag (h : g.Placed P) (id : Nat) (tag : String) : (g.setTag id tag).Placed P := by
  intro x
  have hsame : ((g.setTag id tag).node x).mark = (g.node x).mark :=
    mark_setIfInBounds g id x rfl
  rw [hsame]
  exact h x

end Graph

namespace Assembly

/-- An assembly whose nodes and events are at marks that satisfy `P`, and the problem that ends
    them. -/
structure Placed (P : Mark → Prop) (s : Assembly) : Prop where
  graph : s.graph.Placed P
  rest : Events.Placed P ⟨s.events, s.fault⟩

variable {s : Assembly}

theorem Placed.drop (h : s.Placed P) : s.drop.Placed P :=
  ⟨h.graph, fun e he => h.rest.events e (List.mem_of_mem_drop he), h.rest.fault⟩

theorem Placed.add (h : s.Placed P) (anchor : Option String) {node : Node}
    (hnode : P node.mark) : (s.add anchor node).2.Placed P :=
  ⟨h.graph.push hnode, h.rest⟩

theorem peek_points (hP : P default) (h : s.Placed P) :
    Points P s.peek (fun e => P e.mark) := by
  unfold peek
  split
  · next event rest hevents =>
      exact Points.ok (h.rest.events event (hevents ▸ List.mem_cons_self ..))
  · next fault hfault =>
      refine ⟨fun p hp => ?_, fun a ha => (by cases ha)⟩
      cases hp
      exact h.rest.fault p hfault
  · exact Points.ok hP

theorem checkAnchor_points (s : Assembly) (anchor : Option String) {mark : Mark}
    (hmark : P mark) : Points P (s.checkAnchor anchor mark) (fun _ => True) := by
  unfold checkAnchor
  split
  · exact Points.ok trivial
  split
  · exact Points.ok trivial
  · exact Points.problem hmark

end Assembly

/-- Composing nodes, items and entries. They take each other's fuel. -/
theorem compose_points (hP : P default) (fuel : Nat) :
    (∀ depth s, s.Placed P → Points P (composeNode fuel depth s) (fun r => r.2.Placed P)) ∧
    (∀ depth s, s.Placed P → Points P (composeItems fuel depth s) (fun r => r.2.Placed P)) ∧
    (∀ depth s, s.Placed P → Points P (composeEntries fuel depth s) (fun r => r.2.Placed P)) := by
  induction fuel with
  | zero => exact ⟨fun _ _ h => Points.ok h, fun _ _ h => Points.ok h, fun _ _ h => Points.ok h⟩
  | succ n ih =>
      rcases ih with ⟨hnode, hitems, hentries⟩
      refine ⟨fun depth s h => ?_, fun depth s h => ?_, fun depth s h => ?_⟩
      · unfold composeNode
        refine (Assembly.peek_points hP h).bind fun event he => ?_
        split
        · split
          · exact Points.ok h.drop
          · exact Points.problem he
        · exact (s.checkAnchor_points _ he).bind fun _ _ => Points.ok (h.drop.add _ he)
        · -- The parts are put into the node in the end, and it stays where it began.
          refine (s.checkAnchor_points _ he).bind fun _ _ => Points.ite (Points.defect _) ?_
          refine (hitems _ _ (h.drop.add _ he)).bind fun r hr => Points.ok ?_
          exact ⟨hr.graph.setContent _ _, hr.rest⟩
        · refine (s.checkAnchor_points _ he).bind fun _ _ => Points.ite (Points.defect _) ?_
          refine (hentries _ _ (h.drop.add _ he)).bind fun r hr => Points.ok ?_
          exact ⟨hr.graph.setContent _ _, hr.rest⟩
        · exact Points.ok h.drop
      · unfold composeItems
        refine (Assembly.peek_points hP h).bind fun event he => Points.ite (Points.ok h.drop) ?_
        refine (hnode _ _ h).bind fun item hitem => ?_
        exact (hitems _ _ hitem).bind fun r hr => Points.ok hr
      · unfold composeEntries
        refine (Assembly.peek_points hP h).bind fun event he => Points.ite (Points.ok h.drop) ?_
        refine (hnode _ _ h).bind fun key hkey => ?_
        refine (hnode _ _ hkey).bind fun value hvalue => ?_
        exact (hentries _ _ hvalue).bind fun r hr => Points.ok hr

/-- A document whose nodes begin at marks that satisfy `P`, if there is one. -/
theorem composeDocument_points (hP : P default) {es : Events} (h : es.Placed P) :
    Points P (composeDocument es) (fun r => ∀ root g, r = some (root, g) → g.Placed P) := by
  have hstart : Assembly.Placed P ⟨#[], [], es.events, es.fault⟩ := ⟨fun _ => hP, h⟩
  refine (Assembly.peek_points hP hstart).bind fun _ _ => ?_
  refine (Assembly.peek_points hP hstart.drop).bind fun first _ => ?_
  refine Points.ite (Points.ok fun root g hg => (by cases hg)) ?_
  refine ((compose_points hP _).1 _ _ hstart.drop.drop).bind fun r hr => ?_
  refine (Assembly.peek_points hP hr).bind fun _ _ => ?_
  refine (Assembly.peek_points hP hr.drop).bind fun event he => ?_
  refine Points.ite (Points.ok fun root g hg => ?_) (Points.problem he)
  cases hg
  exact hr.graph

/-- A character that may not be in a text is reported by its position alone. -/
theorem strayChar?_points {α : Type} {Q : α → Prop} {position : Nat} {cs : List Char} {f : Fault}
    (h : strayChar? position cs = some f) : Points P (.error f) Q := by
  induction cs generalizing position with
  | nil => cases h
  | cons c rest ih =>
      unfold strayChar? at h
      split at h
      · exact ih h
      · cases h
        exact ⟨fun p hp => (by cases hp), fun a ha => (by cases ha)⟩

theorem compose_placed (text : List Char) :
    Points (IsPlace text) (compose text)
      (fun r => ∀ root g, r = some (root, g) → g.Placed (IsPlace text)) := by
  have hdocument := composeDocument_points isPlace_default
    (placed_eventsOf isPlace_default (placed_scan text))
  unfold compose
  split
  · next fault hfault => exact strayChar?_points hfault
  · exact hdocument

end Yaml

end Annals
