import Annals.Proofs.Yaml.Construction
import Mathlib.Data.List.Basic
import Mathlib.Logic.Relation

/-!
# What Merges Change in the Nodes

Merges take place in the nodes. When a mapping is filled, the entries behind its
keys for merging are put in front of its own, and the mappings they come from are
merged into first, in the nodes as well. So filling one mapping may change others,
which may be filled later, or refer back to it.

`Evolved` is what any number of merges may change: a mapping either stays as it was,
or had a key for merging and has none any more; its own entries stay, in their order;
and no entry comes from nowhere. `Flattened` says more of a single one: only mappings
that `id` draws on change, and afterwards `id` has all entries that it draws on.

This does not hold of all mappings on the way. If mappings are merged in a circle, the
one that was begun with gets everything, and others may miss what is found only by way
of it. But nothing is missing that is not in the first one then, which is what
`Flattened.draws` says.

## Main definitions

* `Graph.Merges`, `Graph.Draws`: A mapping is merged into another one, directly or not.
* `Graph.Apart`: The same without coming by a certain mapping.
* `Evolved`: What merges may have changed.
* `Edited`: A change of the entries of one mapping.
* `Flattened`: What merging into one mapping does.

## Theorems

* `Graph.draws_iff`: What a mapping draws on is found apart from it.
* `Evolved.trans`: Merges after merges.
* `Edited.evolved`: Merges, but for one mapping that is in the middle of it.
* `Flattened.draws`: What another mapping draws on is taken over or left as it was.
-/

namespace Annals

namespace Yaml

namespace Graph

/-- A node is a mapping, whatever its tag. -/
def IsMapping (g : Graph) (id : Nat) : Prop := ∃ entries, (g.node id).content = .mapping entries

/-- A node is a key of some mapping. -/
def IsKey (g : Graph) (id : Nat) : Prop := ∃ m value, (id, value) ∈ g.entries m

/-- Whether the key of an entry is one for merging. -/
def isMerge (g : Graph) (e : Nat × Nat) : Bool := (g.node e.1).tag == Tag.merge

/-- A node has a key for merging. -/
def HasMerge (g : Graph) (id : Nat) : Prop := ∃ e ∈ g.entries id, g.isMerge e = true

/-- The entries of a list whose keys are not for merging. -/
def notMerges (g : Graph) (entries : List (Nat × Nat)) : List (Nat × Nat) :=
  entries.filter fun e => !g.isMerge e

/-- The entries of a node whose keys are not for merging. -/
def ownEntries (g : Graph) (id : Nat) : List (Nat × Nat) := g.notMerges (g.entries id)

/-- What is to be merged if `value` is behind a key for merging: itself or its items. -/
def sources (g : Graph) (value : Nat) : List Nat :=
  match (g.node value).content with
  | .mapping _ => [value]
  | .sequence items => items
  | .scalar _ => []

/-- A node is merged into mapping `id`. -/
def Merges (g : Graph) (id x : Nat) : Prop :=
  ∃ e ∈ g.entries id, g.isMerge e = true ∧ x ∈ g.sources e.2

/-- A node is mapping `id`, or is merged into it, or into one that it draws on. -/
def Draws (g : Graph) : Nat → Nat → Prop := Relation.ReflTransGen g.Merges

/-- A mapping draws on another one, and not by way of `id`. -/
def Apart (g : Graph) (id : Nat) : Nat → Nat → Prop :=
  Relation.ReflTransGen fun m x => m ≠ id ∧ g.Merges m x

variable {g : Graph}

theorem mem_notMerges {entries : List (Nat × Nat)} {e : Nat × Nat} :
    e ∈ g.notMerges entries ↔ e ∈ entries ∧ g.isMerge e = false := by
  unfold notMerges
  rw [List.mem_filter, Bool.not_eq_true']

theorem notMerges_append (entries more : List (Nat × Nat)) :
    g.notMerges (entries ++ more) = g.notMerges entries ++ g.notMerges more :=
  List.filter_append ..

theorem notMerges_nil : g.notMerges [] = [] := rfl

theorem notMerges_cons (e : Nat × Nat) (rest : List (Nat × Nat)) :
    g.notMerges (e :: rest) = if g.isMerge e then g.notMerges rest else e :: g.notMerges rest := by
  unfold notMerges
  cases hm : g.isMerge e <;> simp [hm]

theorem notMerges_ownEntries (id : Nat) : g.notMerges (g.ownEntries id) = g.ownEntries id :=
  List.filter_eq_self.mpr fun e he => by rw [(mem_notMerges.mp he).2]; rfl

theorem Apart.draws {id x src : Nat} (h : g.Apart id x src) : g.Draws x src :=
  Relation.ReflTransGen.mono (fun _ _ hstep => hstep.2) _ _ h

/-- A way that comes back to where it began can begin anew there, so all that a mapping
    draws on is drawn on by one merged into it, apart from it. -/
theorem draws_iff {id src : Nat} :
    g.Draws id src ↔ src = id ∨ ∃ x, g.Merges id x ∧ g.Apart id x src := by
  constructor
  · intro h
    induction h with
    | refl => exact Or.inl rfl
    | @tail m n _ hstep ih =>
        by_cases hm : m = id
        · exact Or.inr ⟨n, hm ▸ hstep, Relation.ReflTransGen.refl⟩
        · rcases ih with heq | ⟨x, hx, hway⟩
          · exact absurd heq hm
          · exact Or.inr ⟨x, hx, hway.tail ⟨hm, hstep⟩⟩
  · rintro (rfl | ⟨x, hx, hway⟩)
    · exact Relation.ReflTransGen.refl
    · exact Relation.ReflTransGen.head hx hway.draws

theorem node_setIfInBounds (g : Graph) (id x : Nat) (node : Node) (hid : id < g.size) :
    Graph.node (g.setIfInBounds id node) x = if x = id then node else g.node x := by
  unfold Graph.node
  simp only [Array.getD_eq_getD_getElem?, Array.getElem?_setIfInBounds]
  by_cases hx : x = id
  · simp [hx, hid]
  · have hne : ¬ id = x := fun h => hx h.symm
    simp only [if_neg hx, if_neg hne]

theorem lt_of_entry {id : Nat} {e : Nat × Nat} (h : e ∈ g.entries id) : id < g.size := by
  by_contra hge
  rw [entries_beyond (Nat.le_of_not_lt hge)] at h
  exact absurd h (List.not_mem_nil)

theorem isMapping_of_entry {id : Nat} {e : Nat × Nat} (h : e ∈ g.entries id) : g.IsMapping id := by
  unfold Graph.entries at h
  split at h
  · next entries hc => exact ⟨entries, hc⟩
  · exact absurd h (List.not_mem_nil)

theorem entries_of_content {id : Nat} {entries : List (Nat × Nat)}
    (h : (g.node id).content = .mapping entries) : g.entries id = entries := by
  unfold Graph.entries
  rw [h]

theorem entries_congr {g' : Graph} {id : Nat} (h : (g'.node id).content = (g.node id).content) :
    g'.entries id = g.entries id := by
  unfold Graph.entries
  rw [h]

theorem isMerge_congr {g' : Graph} {e : Nat × Nat} (h : (g'.node e.1).tag = (g.node e.1).tag ∨
    ((g.node e.1).tag = Tag.value ∧ (g'.node e.1).tag = Tag.str)) :
    g'.isMerge e = g.isMerge e := by
  unfold isMerge
  rcases h with htag | ⟨hvalue, hstr⟩
  · rw [htag]
  · rw [hvalue, hstr]
    decide

theorem sources_congr {g' : Graph} {value : Nat}
    (h : (g'.node value).content = (g.node value).content ∨
      g.IsMapping value ∧ g'.IsMapping value) : g'.sources value = g.sources value := by
  unfold sources
  rcases h with h | ⟨⟨es, hes⟩, es', hes'⟩
  · rw [h]
  · rw [hes, hes']

end Graph

/-- What merges may have changed in the nodes. Of the nodes other than those `on` which
    something is to be said, nothing is said about what became of their entries. -/
structure Evolved (on : Nat → Prop) (g g' : Graph) : Prop where
  size : g'.size = g.size
  mark : ∀ x, (g'.node x).mark = (g.node x).mark
  tag : ∀ x, (g'.node x).tag = (g.node x).tag ∨
    (g.IsKey x ∧ (g.node x).tag = Tag.value ∧ (g'.node x).tag = Tag.str)
  content : ∀ x, (g'.node x).content = (g.node x).content ∨ g.IsMapping x ∧ g'.IsMapping x
  known : ∀ m, ∀ e ∈ g'.entries m, ∃ src, e ∈ g.entries src
  own : ∀ m, on m → (g.ownEntries m).Sublist (g'.entries m)
  flat : ∀ m, on m → g'.entries m = g.entries m ∨ (g.HasMerge m ∧ ¬ g'.HasMerge m)

/-- Of all nodes. -/
def everywhere (_ : Nat) : Prop := True

namespace Evolved

variable {on : Nat → Prop} {g g1 g2 : Graph}

theorem refl (on : Nat → Prop) (g : Graph) : Evolved on g g where
  size := rfl
  mark _ := rfl
  tag _ := Or.inl rfl
  content _ := Or.inl rfl
  known m _ he := ⟨m, he⟩
  own _ _ := List.filter_sublist
  flat _ _ := Or.inl rfl

/-- Keys for merging stay what they are, and no others come up. -/
theorem isMerge (h : Evolved on g g1) (e : Nat × Nat) : g1.isMerge e = g.isMerge e :=
  Graph.isMerge_congr ((h.tag e.1).imp_right fun hkey => hkey.2)

theorem notMerges (h : Evolved on g g1) (entries : List (Nat × Nat)) :
    g1.notMerges entries = g.notMerges entries := by
  unfold Graph.notMerges
  simp only [h.isMerge]

theorem sources (h : Evolved on g g1) (value : Nat) : g1.sources value = g.sources value :=
  Graph.sources_congr (h.content value)

theorem ownEntries (h : Evolved on g g1) {m : Nat} (hm : g1.entries m = g.entries m) :
    g1.ownEntries m = g.ownEntries m := by
  unfold Graph.ownEntries
  rw [hm, h.notMerges]

theorem hasMerge (h : Evolved on g g1) {m : Nat} (hm : g1.entries m = g.entries m) :
    g1.HasMerge m ↔ g.HasMerge m := by
  unfold Graph.HasMerge
  simp only [hm, h.isMerge]

/-- Entries for merging are only taken away. -/
theorem mem_of_isMerge (h : Evolved on g g1) {m : Nat} (hm : on m) {e : Nat × Nat}
    (he : e ∈ g1.entries m) (hmerge : g.isMerge e = true) : e ∈ g.entries m := by
  rcases h.flat m hm with hsame | ⟨_, hnone⟩
  · rw [← hsame]
    exact he
  · exact absurd ⟨e, he, by rw [h.isMerge]; exact hmerge⟩ hnone

theorem merges (h : Evolved on g g1) {m x : Nat} (hm : on m) (hx : g1.Merges m x) :
    g.Merges m x := by
  rcases hx with ⟨e, he, hmerge, hx⟩
  rw [h.isMerge] at hmerge
  rw [h.sources] at hx
  exact ⟨e, h.mem_of_isMerge hm he hmerge, hmerge, hx⟩

theorem draws (h : Evolved everywhere g g1) {m x : Nat} (hx : g1.Draws m x) : g.Draws m x :=
  Relation.ReflTransGen.mono (fun _ _ hstep => h.merges trivial hstep) _ _ hx

theorem isMapping (h : Evolved on g g1) {x : Nat} : g1.IsMapping x ↔ g.IsMapping x := by
  unfold Graph.IsMapping
  rcases h.content x with hc | ⟨hg, hg1⟩
  · rw [hc]
  · exact ⟨fun _ => hg, fun _ => hg1⟩

theorem isKey (h : Evolved on g g1) {x : Nat} (hx : g1.IsKey x) : g.IsKey x := by
  rcases hx with ⟨m, value, he⟩
  rcases h.known m _ he with ⟨src, hsrc⟩
  exact ⟨src, value, hsrc⟩

theorem ownEntries_sublist (h : Evolved on g g1) {m : Nat} (hm : on m) :
    (g.ownEntries m).Sublist (g1.ownEntries m) := by
  have hsub := (h.own m hm).filter fun e => !g1.isMerge e
  have hsame : (g.ownEntries m).filter (fun e => !g1.isMerge e) = g.ownEntries m :=
    (h.notMerges _).trans (Graph.notMerges_ownEntries m)
  rw [hsame] at hsub
  exact hsub

theorem trans (h : Evolved on g g1) (h' : Evolved everywhere g1 g2) : Evolved on g g2 where
  size := h'.size.trans h.size
  mark x := (h'.mark x).trans (h.mark x)
  tag x := by
    rcases h'.tag x with ht' | ⟨hkey, hvalue, hstr⟩
    · rw [ht']
      exact h.tag x
    · -- A key for a value becomes a text once, and a text stays one.
      rcases h.tag x with ht | ⟨_, _, ht⟩
      · exact Or.inr ⟨h.isKey hkey, ht ▸ hvalue, hstr⟩
      · rw [ht] at hvalue
        exact absurd hvalue (by decide)
  content x := by
    rcases h'.content x with hc' | ⟨hg1, hg2⟩
    · rcases h.content x with hc | ⟨hg, hg1⟩
      · exact Or.inl (hc'.trans hc)
      · exact Or.inr ⟨hg, h'.isMapping.mpr hg1⟩
    · exact Or.inr ⟨h.isMapping.mp hg1, hg2⟩
  known m e he := by
    rcases h'.known m e he with ⟨src, hsrc⟩
    exact h.known src e hsrc
  own m hm := (h.ownEntries_sublist hm).trans (h'.own m trivial)
  flat m hm := by
    -- Keys for merging that are gone do not come back, so a mapping changes in one of the two.
    rcases h.flat m hm with hsame | ⟨hhas, hnone⟩
    · rcases h'.flat m trivial with hsame' | ⟨hhas', hnone'⟩
      · exact Or.inl (hsame'.trans hsame)
      · exact Or.inr ⟨(h.hasMerge hsame).mp hhas', hnone'⟩
    · rcases h'.flat m trivial with hsame' | ⟨hhas', _⟩
      · exact Or.inr ⟨hhas, fun hno => hnone ((h'.hasMerge hsame').mp hno)⟩
      · exact absurd hhas' hnone

theorem tag_of_ne (h : Evolved on g g1) {x : Nat} (hne : (g.node x).tag ≠ Tag.value) :
    (g1.node x).tag = (g.node x).tag :=
  (h.tag x).resolve_right fun hkey => hne hkey.2.1

theorem content_of_sequence (h : Evolved on g g1) {x : Nat} {items : List Nat}
    (hc : (g.node x).content = .sequence items) : (g1.node x).content = .sequence items := by
  rcases h.content x with hsame | ⟨⟨entries, hmap⟩, _⟩
  · rw [hsame, hc]
  · rw [hc] at hmap
    cases hmap

/-- A mapping without keys for merging stays as it is. -/
theorem entries_eq (h : Evolved on g g1) {m : Nat} (hm : on m) (hno : ¬ g.HasMerge m) :
    g1.entries m = g.entries m := by
  rcases h.flat m hm with hsame | ⟨hhas, _⟩
  · exact hsame
  · exact absurd hhas hno

end Evolved

/-- A change of nothing but the entries of `id`, and of keys for the values of mappings,
    which become texts. -/
structure Edited (g : Graph) (id : Nat) (g1 g2 : Graph) : Prop where
  size : g2.size = g1.size
  mark : ∀ x, (g2.node x).mark = (g1.node x).mark
  tag : ∀ x, (g2.node x).tag = (g1.node x).tag ∨
    (g.IsKey x ∧ (g1.node x).tag = Tag.value ∧ (g2.node x).tag = Tag.str)
  content : ∀ x, (g2.node x).content = (g1.node x).content ∨
    x = id ∧ g1.IsMapping x ∧ g2.IsMapping x

namespace Edited

variable {g g1 g2 : Graph} {id : Nat}

theorem refl (g : Graph) (id : Nat) (g1 : Graph) : Edited g id g1 g1 :=
  ⟨rfl, fun _ => rfl, fun _ => Or.inl rfl, fun _ => Or.inl rfl⟩

theorem entries (h : Edited g id g1 g2) {m : Nat} (hm : m ≠ id) :
    g2.entries m = g1.entries m :=
  Graph.entries_congr ((h.content m).resolve_right fun hmap => hm hmap.1)

theorem isMerge (h : Edited g id g1 g2) (e : Nat × Nat) : g2.isMerge e = g1.isMerge e :=
  Graph.isMerge_congr ((h.tag e.1).imp_right fun hkey => hkey.2)

theorem sources (h : Edited g id g1 g2) (value : Nat) : g2.sources value = g1.sources value :=
  Graph.sources_congr ((h.content value).imp_right fun hmap => hmap.2)

theorem hasMerge (h : Edited g id g1 g2) {m : Nat} (hm : g2.entries m = g1.entries m) :
    g2.HasMerge m ↔ g1.HasMerge m := by
  unfold Graph.HasMerge
  simp only [hm, h.isMerge]

/-- Other entries of a mapping. -/
theorem setContent (g : Graph) (he : g1.IsMapping id) (hlt : id < g1.size)
    (list : List (Nat × Nat)) :
    Edited g id g1 (g1.setContent id (.mapping list)) ∧
      (g1.setContent id (.mapping list)).entries id = list := by
  have hnode : ∀ x, (g1.setContent id (.mapping list)).node x
      = if x = id then { g1.node id with content := .mapping list } else g1.node x :=
    fun x => Graph.node_setIfInBounds g1 id x _ hlt
  have hcontent : ((g1.setContent id (.mapping list)).node id).content = .mapping list := by
    rw [hnode id, if_pos rfl]
  refine ⟨⟨Array.size_setIfInBounds, fun x => ?_, fun x => Or.inl ?_, fun x => ?_⟩,
    Graph.entries_of_content hcontent⟩
  · rw [hnode x]
    split
    · next hx => rw [hx]
    · rfl
  · rw [hnode x]
    split
    · next hx => rw [hx]
    · rfl
  · -- Only the entries of this node are changed.
    by_cases hx : x = id
    · subst hx
      exact Or.inr ⟨rfl, he, _, hcontent⟩
    · rw [hnode x, if_neg hx]
      exact Or.inl rfl

/-- The key for the value of a mapping becomes a text. -/
theorem setTag {key : Nat} (id : Nat) (hkey : g.IsKey key)
    (hvalue : (g1.node key).tag = Tag.value) :
    Edited g id g1 (g1.setTag key Tag.str) ∧
      (g1.setTag key Tag.str).entries id = g1.entries id := by
  -- The node has a tag of its own, so it is one of the graph.
  have hlt : key < g1.size := by
    by_contra hge
    rw [node_beyond (Nat.le_of_not_lt hge)] at hvalue
    exact absurd hvalue (by decide)
  have hnode : ∀ x, (g1.setTag key Tag.str).node x
      = if x = key then { g1.node key with tag := Tag.str } else g1.node x :=
    fun x => Graph.node_setIfInBounds g1 key x _ hlt
  have hcontent : ∀ x, ((g1.setTag key Tag.str).node x).content = (g1.node x).content := by
    intro x
    rw [hnode x]
    split
    · next hx => rw [hx]
    · rfl
  refine ⟨⟨Array.size_setIfInBounds, fun x => ?_, fun x => ?_, fun x => Or.inl (hcontent x)⟩,
    Graph.entries_congr (hcontent id)⟩
  · rw [hnode x]
    split
    · next hx => rw [hx]
    · rfl
  · rw [hnode x]
    split
    · next hx =>
        subst hx
        exact Or.inr ⟨hkey, hvalue, rfl⟩
    · exact Or.inl rfl

/-- Merges may have changed what they may change before, and the entries of `id`. -/
theorem evolved (h : Edited g id g1 g2) (hg : Evolved (· ≠ id) g g1)
    (hknown : ∀ e ∈ g2.entries id, ∃ src, e ∈ g.entries src) : Evolved (· ≠ id) g g2 := by
  refine ⟨h.size.trans hg.size, fun x => (h.mark x).trans (hg.mark x), ?_, ?_, ?_, ?_, ?_⟩
  · intro x
    rcases h.tag x with hsame | ⟨hkey, hvalue, hstr⟩
    · rw [hsame]
      exact hg.tag x
    · -- A key for the value is one only once: as a text it is not changed again.
      rcases hg.tag x with ht | ⟨_, _, ht⟩
      · exact Or.inr ⟨hkey, ht ▸ hvalue, hstr⟩
      · rw [ht] at hvalue
        exact absurd hvalue (by decide)
  · intro x
    rcases h.content x with hsame | ⟨_, hmap1, hmap2⟩
    · rw [hsame, show g2.IsMapping x ↔ g1.IsMapping x by unfold Graph.IsMapping; rw [hsame]]
      exact hg.content x
    · exact Or.inr ⟨hg.isMapping.mp hmap1, hmap2⟩
  · intro m e he
    by_cases hm : m = id
    · exact hknown e (hm ▸ he)
    · exact hg.known m e (h.entries hm ▸ he)
  · intro m hm
    rw [h.entries hm]
    exact hg.own m hm
  · intro m hm
    rw [h.entries hm, h.hasMerge (h.entries hm)]
    exact hg.flat m hm

end Edited

/-- What merging into mapping `id` does to the nodes. Nothing changes in mappings on
    which `id` does not draw, and afterwards it has no keys for merging, and all the
    entries of those on which it draws. -/
structure Flattened (g : Graph) (id : Nat) (g' : Graph) : Prop
    extends Evolved everywhere g g' where
  drawn : ∀ m, g'.entries m ≠ g.entries m → g.Draws id m
  clean : ¬ g'.HasMerge id
  whole : ∀ src, g.Draws id src → ∀ e ∈ g.ownEntries src, e ∈ g'.entries id

theorem Flattened.merges {g g' : Graph} {x m n : Nat} (h : Flattened g x g')
    (hm : g'.entries m = g.entries m) (hstep : g.Merges m n) : g'.Merges m n := by
  rcases hstep with ⟨e, he, hmerge, hn⟩
  exact ⟨e, hm ▸ he, by rw [h.isMerge]; exact hmerge, by rw [h.sources]; exact hn⟩

/-- When `x` is merged into, what another mapping draws on by certain ways is either drawn
    on by `x` too, or left as it was, and the way to it. -/
theorem Flattened.draws {g g' : Graph} {x m src : Nat} {via : Nat → Prop} (h : Flattened g x g')
    (hway : Relation.ReflTransGen (fun m n => via m ∧ g.Merges m n) m src) :
    g.Draws x src ∨ (g'.entries src = g.entries src ∧
      Relation.ReflTransGen (fun m n => via m ∧ g'.Merges m n) m src) := by
  -- From the end of the way on, so that the rest of it is known when a step is looked at.
  induction hway using Relation.ReflTransGen.head_induction_on with
  | refl =>
      by_cases hsame : g'.entries src = g.entries src
      · exact Or.inr ⟨hsame, Relation.ReflTransGen.refl⟩
      · exact Or.inl (h.drawn src hsame)
  | @head m n hstep hrest ih =>
      rcases ih with hdraws | ⟨hsrc, hway⟩
      · exact Or.inl hdraws
      by_cases hsame : g'.entries m = g.entries m
      · exact Or.inr ⟨hsrc, Relation.ReflTransGen.head ⟨hstep.1, h.merges hsame hstep.2⟩ hway⟩
      · -- The way leads through a mapping that changes, so `x` comes to its end as well.
        have hrest' : g.Draws n src := Relation.ReflTransGen.mono (fun _ _ hs => hs.2) _ _ hrest
        exact Or.inl ((h.drawn m hsame).trans (Relation.ReflTransGen.head hstep.2 hrest'))

theorem Flattened.draws_all {g g' : Graph} {x m src : Nat} (h : Flattened g x g')
    (hdraws : g.Draws m src) :
    g.Draws x src ∨ (g'.entries src = g.entries src ∧ g'.Draws m src) := by
  have hway : Relation.ReflTransGen (fun m n => everywhere m ∧ g.Merges m n) m src :=
    Relation.ReflTransGen.mono (fun _ _ hstep => ⟨trivial, hstep⟩) _ _ hdraws
  refine (h.draws hway).imp_right fun hkept => ⟨hkept.1, ?_⟩
  exact Relation.ReflTransGen.mono (fun _ _ hstep => hstep.2) _ _ hkept.2

end Yaml

end Annals
