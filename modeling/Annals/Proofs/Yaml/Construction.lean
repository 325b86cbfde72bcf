import Annals.Yaml.Construct
import Annals.Proofs.Text.Lists
import Mathlib.Data.Finset.Card
import Mathlib.Data.Finset.Range

/-!
# What a Construction Goes Through

Which nodes of a document are made to values, and that the making comes to an
end with all of them.

Values are made in waves: filling a collection makes its parts, and a part that
is a collection waits in turn. `Constructed` says which nodes this must come to,
by following parts from the outermost node and nothing else. That the queue
finds exactly those is the usual invariant of a search: what has been made can be
reached, and what has been made and no longer waits has all its parts made. The
second half fails for the one collection that is being filled, so the invariant
`Sound` carries the nodes that are `busy`.

All three ways of filling a collection are calls of `make` and nothing else as
far as the invariant goes. `Makes` is a sequence of such calls, and every
property is proved for it once.

The queue is run with a fuel. `fillAll_sound` says that it is enough: a
collection waits only when it is first made, so the nodes not made yet and those
that wait decrease together.

## Main definitions

* `Child`: A node that is made when another one is filled.
* `Constructed`: A node that is made in the course of a document.
* `Made.emptied`: What was made, before it was filled.
* `Makes`: Nodes made one after another.
* `Sound`: The invariant of a construction.
* `Builder.unmade`: The nodes not made yet.

## Theorems

* `make_eq_ok`: What making a node can do.
* `initial_lt`: Only nodes of the document can be made.
* `Makes.sound`, `Makes.made`: Making keeps the invariant, and makes.
* `fill_makes`: Filling a collection makes its parts.
* `fillAll_sound`: A construction keeps the invariant and ends with nothing that waits.
* `constructed_made`: What is constructed has been made in the end.
-/

namespace Annals

namespace Yaml

theorem node_beyond {g : Graph} {id : Nat} (h : g.size ≤ id) : g.node id = default := by
  unfold Graph.node
  rw [Array.getD_eq_getD_getElem?, Array.getElem?_eq_none h]
  rfl

/-- Beyond the nodes of a document there are no entries. -/
theorem entries_beyond {g : Graph} {id : Nat} (h : g.size ≤ id) : g.entries id = [] := by
  unfold Graph.entries
  rw [node_beyond h]
  rfl

/-- A node that is made when another one is filled: an item of a sequence, a key or a
    value of a mapping or a set, or one of a list of pairs. -/
inductive Child (g : Graph) (id : Nat) : Nat → Prop where
  | item {items : List Nat} {x : Nat} :
      (g.node id).tag = Tag.seq → (g.node id).content = .sequence items → x ∈ items →
      Child g id x
  | key {k v : Nat} :
      ((g.node id).tag = Tag.map ∨ (g.node id).tag = Tag.set) → (k, v) ∈ g.entries id →
      Child g id k
  | value {k v : Nat} :
      ((g.node id).tag = Tag.map ∨ (g.node id).tag = Tag.set) → (k, v) ∈ g.entries id →
      Child g id v
  | first {items : List Nat} {pair k v : Nat} :
      ((g.node id).tag = Tag.omap ∨ (g.node id).tag = Tag.pairs) →
      (g.node id).content = .sequence items → pair ∈ items →
      (g.node pair).content = .mapping [(k, v)] → Child g id k
  | second {items : List Nat} {pair k v : Nat} :
      ((g.node id).tag = Tag.omap ∨ (g.node id).tag = Tag.pairs) →
      (g.node id).content = .sequence items → pair ∈ items →
      (g.node pair).content = .mapping [(k, v)] → Child g id v

/-- A node that is made in the course of a document whose outermost node is `root`. -/
inductive Constructed (g : Graph) (root : Nat) : Nat → Prop where
  | root : Constructed g root root
  | part {id x : Nat} : Constructed g root id → Child g id x → Constructed g root x

/-- What was made, as it was before it was filled. -/
def Made.emptied : Made → Made
  | .scalar v => .scalar v
  | .sequence _ => .sequence []
  | .mapping _ => .mapping []
  | .set _ => .set []
  | .pairs _ => .pairs []

/-- Whether what was made has keys that must differ. -/
def Made.isKeyed : Made → Bool
  | .mapping _ => true
  | .set _ => true
  | _ => false

theorem Made.isScalar_emptied (m : Made) : m.emptied.isScalar = m.isScalar := by
  cases m <;> rfl

theorem Made.isKeyed_emptied (m : Made) : m.emptied.isKeyed = m.isKeyed := by
  cases m <;> rfl

theorem Made.isScalar_of_isKeyed {m : Made} (h : m.isKeyed = true) : m.isScalar = false := by
  cases m with
  | mapping entries => rfl
  | set members => rfl
  | scalar v => cases h
  | sequence items => cases h
  | pairs pairs => cases h

theorem Made.emptied_eq_scalar {m : Made} {v : Value} (h : m.emptied = .scalar v) :
    m = .scalar v := by
  cases m with
  | scalar w => exact h
  | sequence _ => cases h
  | mapping _ => cases h
  | set _ => cases h
  | pairs _ => cases h

theorem Made.emptied_eq_sequence {m : Made} (h : m.emptied = .sequence []) :
    ∃ items, m = .sequence items := by
  cases m with
  | sequence items => exact ⟨items, rfl⟩
  | scalar _ => cases h
  | mapping _ => cases h
  | set _ => cases h
  | pairs _ => cases h

theorem Made.emptied_eq_mapping {m : Made} (h : m.emptied = .mapping []) :
    ∃ entries, m = .mapping entries := by
  cases m with
  | mapping entries => exact ⟨entries, rfl⟩
  | scalar _ => cases h
  | sequence _ => cases h
  | set _ => cases h
  | pairs _ => cases h

/-- Nodes made one after another. -/
inductive Makes : Builder → List Nat → Builder → Prop where
  | nil {b : Builder} : Makes b [] b
  | cons {b b1 b2 : Builder} {id : Nat} {ids : List Nat} :
      b.make id = .ok b1 → Makes b1 ids b2 → Makes b (id :: ids) b2

/-- What is made of a node at first, by its tag. -/
theorem initial_form {g : Graph} {id : Nat} {m : Made} (h : g.initial id = .ok m) :
    (m = .mapping [] ∧ (g.node id).tag = Tag.map) ∨
      (m = .sequence [] ∧ (g.node id).tag = Tag.seq) ∨
      (m = .set [] ∧ (g.node id).tag = Tag.set) ∨
      (m = .pairs [] ∧ ((g.node id).tag = Tag.omap ∨ (g.node id).tag = Tag.pairs)) ∨
      ((∃ v, m = .scalar v) ∧ ∀ x, ¬ Child g id x) := by
  unfold Graph.initial at h
  simp only [] at h
  split at h
  · cases h; simp_all
  split at h
  · cases h; simp_all
  split at h
  · cases h; simp_all
  split at h
  · cases h; simp_all
  -- None of the tags of collections is left, and only they have parts.
  have hnone : ∀ x, ¬ Child g id x := by
    intro x hx
    cases hx <;> simp_all
  cases hs : g.scalar id with
  | error f => rw [hs] at h; cases h
  | ok v => rw [hs] at h; cases h; simp [hnone]

theorem initial_emptied {g : Graph} {id : Nat} {m : Made} (h : g.initial id = .ok m) :
    m.emptied = m := by
  rcases initial_form h with ⟨rfl, _⟩ | ⟨rfl, _⟩ | ⟨rfl, _⟩ | ⟨rfl, _⟩ | ⟨⟨v, rfl⟩, _⟩ <;> rfl

/-- The tags of nodes that can be made to values. -/
def knownTags : List String :=
  [Tag.map, Tag.seq, Tag.set, Tag.omap, Tag.pairs, Tag.str, Tag.null, Tag.bool, Tag.int,
    Tag.float, Tag.binary, Tag.timestamp]

theorem mem_knownTags {g : Graph} {id : Nat} {m : Made} (h : g.initial id = .ok m) :
    (g.node id).tag ∈ knownTags := by
  by_contra htag
  simp only [knownTags, List.mem_cons, List.not_mem_nil, or_false, not_or, ← beq_eq_false_iff_ne]
    at htag
  simp only [Graph.initial, Graph.scalar, htag, Bool.or_false, Bool.false_eq_true, if_false] at h
  cases h

/-- Only a node of the document can be made to a value, since no other one has a tag
    with a meaning. -/
theorem initial_lt {g : Graph} {id : Nat} {m : Made} (h : g.initial id = .ok m) :
    id < g.size := by
  by_contra hge
  have htag := mem_knownTags h
  rw [node_beyond (Nat.le_of_not_lt hge)] at htag
  exact absurd htag (by decide)

namespace Builder

/-- There is room for all nodes that can be made. -/
theorem lt_of_initial {b : Builder} {id : Nat} {m : Made} (hsize : b.made.size = b.graph.size)
    (h : b.graph.initial id = .ok m) : id < b.made.size := by
  rw [hsize]
  exact initial_lt h

theorem lt_of_made {b : Builder} {id : Nat} {m : Made} (h : b.made? id = some m) :
    id < b.made.size := by
  by_contra hge
  unfold made? at h
  rw [Array.getD_eq_getD_getElem?, Array.getElem?_eq_none (Nat.le_of_not_lt hge)] at h
  cases h

/-- What is known of a node after something was made of one. -/
theorem made?_set (b : Builder) (id x : Nat) (m : Made) (hid : id < b.made.size) :
    (b.set id m).made? x = if x = id then some m else b.made? x := by
  unfold made? set
  simp only [Array.getD_eq_getD_getElem?, Array.getElem?_setIfInBounds]
  by_cases hx : x = id
  · subst hx
    simp [hid]
  · have hne : ¬ id = x := fun hc => hx hc.symm
    simp only [if_neg hx, if_neg hne]

theorem made?_start (b : Builder) (id x : Nat) (m : Made) (hid : id < b.made.size) :
    (b.start id m).made? x = if x = id then some m else b.made? x := by
  unfold start
  split
  · exact made?_set b id x m hid
  · exact made?_set b id x m hid

@[simp] theorem graph_set (b : Builder) (id : Nat) (m : Made) : (b.set id m).graph = b.graph := rfl

@[simp] theorem waiting_set (b : Builder) (id : Nat) (m : Made) :
    (b.set id m).waiting = b.waiting := rfl

@[simp] theorem size_set (b : Builder) (id : Nat) (m : Made) :
    (b.set id m).made.size = b.made.size := by
  simp only [set, Array.size_setIfInBounds]

@[simp] theorem graph_start (b : Builder) (id : Nat) (m : Made) :
    (b.start id m).graph = b.graph := by
  unfold start
  split <;> rfl

@[simp] theorem size_start (b : Builder) (id : Nat) (m : Made) :
    (b.start id m).made.size = b.made.size := by
  unfold start
  split
  · exact size_set b id m
  · exact size_set b id m

theorem waiting_start (b : Builder) (id : Nat) (m : Made) :
    (b.start id m).waiting = b.waiting ++ if m.isScalar then [] else [id] := by
  unfold start
  cases hm : m.isScalar with
  | true => simp
  | false => simp [wait]

/-- A node that was made before is left alone. -/
theorem make_of_made {b : Builder} {id : Nat} {m : Made} (h : b.made? id = some m) :
    b.make id = .ok b := by
  unfold make
  rw [h]
  rfl

theorem make_of_unmade {b : Builder} {id : Nat} (h : b.made? id = none) :
    b.make id = (b.graph.initial id).map (b.start id) := by
  unfold make
  rw [h]
  rfl

/-- Making a node does nothing if it was made before, and else puts in what it is at
    first. -/
theorem make_eq_ok {b b' : Builder} {id : Nat} (h : b.make id = .ok b') :
    ((b.made? id).isSome ∧ b' = b) ∨
      (b.made? id = none ∧ ∃ m, b.graph.initial id = .ok m ∧ b' = b.start id m) := by
  cases hm : b.made? id with
  | some m =>
      rw [make_of_made hm] at h
      cases h
      exact Or.inl ⟨rfl, rfl⟩
  | none =>
      rw [make_of_unmade hm] at h
      cases hi : b.graph.initial id with
      | error f => rw [hi] at h; cases h
      | ok m =>
          rw [hi] at h
          cases h
          exact Or.inr ⟨rfl, m, rfl, rfl⟩

end Builder

/-- The invariant of a construction. All that was made can be reached and is what its
    node says; and a collection waits, or is being filled, or its parts were made. -/
structure Sound (g : Graph) (root : Nat) (busy : List Nat) (b : Builder) : Prop where
  graph : b.graph = g
  size : b.made.size = g.size
  shape : ∀ id m, b.made? id = some m → g.initial id = .ok m.emptied
  reached : ∀ id m, b.made? id = some m → Constructed g root id
  waits : ∀ id ∈ b.waiting, ∃ m, b.made? id = some m ∧ m.isScalar = false
  done : ∀ id m, b.made? id = some m → m.isScalar = false →
    id ∈ b.waiting ∨ id ∈ busy ∨ ∀ x, Child g id x → (b.made? x).isSome

theorem Sound.lt {g : Graph} {root id : Nat} {busy : List Nat} {b : Builder} {m : Made}
    (hs : Sound g root busy b) (h : b.graph.initial id = .ok m) : id < b.made.size :=
  Builder.lt_of_initial (hs.size.trans (congrArg Array.size hs.graph.symm)) h

/-- One builder knows all that another one does. -/
def Builder.Grows (b b' : Builder) : Prop := ∀ x m, b.made? x = some m → b'.made? x = some m

theorem make_grows {g : Graph} {root id : Nat} {busy : List Nat} {b b' : Builder}
    (hs : Sound g root busy b) (h : b.make id = .ok b') : b.Grows b' := by
  rcases Builder.make_eq_ok h with ⟨_, rfl⟩ | ⟨hnone, m, hi, rfl⟩
  · exact fun x m hm => hm
  · intro x n hx
    rw [Builder.made?_start b id x m (hs.lt hi)]
    by_cases hxid : x = id
    · rw [hxid, hnone] at hx
      cases hx
    · rw [if_neg hxid]
      exact hx

theorem make_made {g : Graph} {root id : Nat} {busy : List Nat} {b b' : Builder}
    (hs : Sound g root busy b) (h : b.make id = .ok b') : (b'.made? id).isSome := by
  rcases Builder.make_eq_ok h with ⟨hsome, rfl⟩ | ⟨hnone, m, hi, rfl⟩
  · exact hsome
  · rw [Builder.made?_start b id id m (hs.lt hi), if_pos rfl]
    rfl

theorem make_sound {g : Graph} {root id : Nat} {busy : List Nat} {b b' : Builder}
    (hs : Sound g root busy b) (hid : Constructed g root id) (h : b.make id = .ok b') :
    Sound g root busy b' := by
  have hgrows := make_grows hs h
  rcases Builder.make_eq_ok h with ⟨_, rfl⟩ | ⟨hnone, m, hi, rfl⟩
  · exact hs
  have hmade := fun x => Builder.made?_start b id x m (hs.lt hi)
  rw [hs.graph] at hi
  refine ⟨?_, ?_, ?_, ?_, ?_, ?_⟩
  · rw [Builder.graph_start, hs.graph]
  · rw [Builder.size_start, hs.size]
  · intro x n hx
    rw [hmade x] at hx
    by_cases hxid : x = id
    · rw [if_pos hxid] at hx
      cases hx
      rw [hxid, hi, initial_emptied hi]
    · rw [if_neg hxid] at hx
      exact hs.shape x n hx
  · intro x n hx
    rw [hmade x] at hx
    by_cases hxid : x = id
    · rw [hxid]
      exact hid
    · rw [if_neg hxid] at hx
      exact hs.reached x n hx
  · intro x hx
    rw [Builder.waiting_start] at hx
    rcases List.mem_append.mp hx with hx | hx
    · rcases hs.waits x hx with ⟨n, hn, hcol⟩
      exact ⟨n, hgrows x n hn, hcol⟩
    · cases hm : m.isScalar with
      | true => simp [hm] at hx
      | false =>
          simp only [hm, Bool.false_eq_true, if_false, List.mem_singleton] at hx
          exact ⟨m, by rw [hmade x, if_pos hx], hm⟩
  · intro x n hx hcol
    rw [hmade x] at hx
    rw [Builder.waiting_start]
    by_cases hxid : x = id
    · -- A collection waits from now on, so nothing is asked of its parts.
      rw [if_pos hxid] at hx
      cases hx
      simp [hcol, hxid]
    · -- Of a node made earlier the same holds as before, since no node is lost.
      rw [if_neg hxid] at hx
      rcases hs.done x n hx hcol with hw | hb | hparts
      · exact Or.inl (List.mem_append.mpr (Or.inl hw))
      · exact Or.inr (Or.inl hb)
      · refine Or.inr (Or.inr (fun y hy => ?_))
        rcases Option.isSome_iff_exists.mp (hparts y hy) with ⟨k, hk⟩
        rw [hgrows y k hk]
        rfl

namespace Makes

variable {g : Graph} {root : Nat} {busy ids : List Nat} {b b' : Builder}

/-- Making nodes that can be reached keeps the invariant. -/
theorem sound (h : Makes b ids b') (hs : Sound g root busy b)
    (hids : ∀ id ∈ ids, Constructed g root id) : Sound g root busy b' := by
  induction h with
  | nil => exact hs
  | cons hmake _ ih =>
      have hhead := hids _ (List.mem_cons_self ..)
      exact ih (make_sound hs hhead hmake) (fun x hx => hids x (List.mem_cons_of_mem _ hx))

theorem grows (h : Makes b ids b') (hs : Sound g root busy b)
    (hids : ∀ id ∈ ids, Constructed g root id) : b.Grows b' := by
  induction h with
  | nil => exact fun x m hm => hm
  | cons hmake _ ih =>
      have hhead := hids _ (List.mem_cons_self ..)
      have hrest := ih (make_sound hs hhead hmake)
        (fun x hx => hids x (List.mem_cons_of_mem _ hx))
      exact fun x m hm => hrest x m (make_grows hs hmake x m hm)

/-- Afterwards all the nodes have been made. -/
theorem made (h : Makes b ids b') (hs : Sound g root busy b)
    (hids : ∀ id ∈ ids, Constructed g root id) : ∀ id ∈ ids, (b'.made? id).isSome := by
  induction h with
  | nil => exact fun x hx => absurd hx (List.not_mem_nil)
  | cons hmake hrest ih =>
      have hhead := hids _ (List.mem_cons_self ..)
      have hs1 := make_sound hs hhead hmake
      have htail := fun x hx => hids x (List.mem_cons_of_mem _ hx)
      intro x hx
      rcases List.mem_cons.mp hx with rfl | hx
      · -- Made at once, and known to all builders after that.
        rcases Option.isSome_iff_exists.mp (make_made hs hmake) with ⟨m, hm⟩
        rw [hrest.grows hs1 htail x m hm]
        rfl
      · exact ih hs1 htail x hx

end Makes

/-- No key of a mapping has a tag with a meaning of its own: none is there for merging,
    and none for the value of the mapping. -/
def Graph.PlainKeys (g : Graph) : Prop :=
  ∀ id, ∀ e ∈ g.entries id, (g.node e.1).tag ≠ Tag.merge ∧ (g.node e.1).tag ≠ Tag.value

/-- The keys and values of entries in the order in which they are made. -/
def entryNodes (entries : List (Nat × Nat)) : List Nat := entries.flatMap fun e => [e.1, e.2]

theorem mem_entryNodes {entries : List (Nat × Nat)} {x : Nat} :
    x ∈ entryNodes entries ↔ ∃ e ∈ entries, x = e.1 ∨ x = e.2 := by
  simp [entryNodes, List.mem_flatMap]

/-- The keys and values of the single entries of mappings. -/
def pairNodes (g : Graph) (items : List Nat) : List Nat :=
  items.flatMap fun item => match (g.node item).content with
    | .mapping [(k, v)] => [k, v]
    | _ => []

theorem make_graph {b b' : Builder} {id : Nat} (h : b.make id = .ok b') : b'.graph = b.graph := by
  rcases Builder.make_eq_ok h with ⟨_, rfl⟩ | ⟨_, m, _, rfl⟩
  · rfl
  · exact Builder.graph_start b id m

theorem make_uniqueKeys {b b' : Builder} {id : Nat} (h : b.make id = .ok b') :
    b'.uniqueKeys = b.uniqueKeys := by
  rcases Builder.make_eq_ok h with ⟨_, rfl⟩ | ⟨_, m, _, rfl⟩
  · rfl
  · unfold Builder.start
    split <;> rfl

theorem Makes.graph {b b' : Builder} {ids : List Nat} (h : Makes b ids b') :
    b'.graph = b.graph := by
  induction h with
  | nil => rfl
  | cons hmake _ ih => rw [ih, make_graph hmake]

theorem Makes.uniqueKeys {b b' : Builder} {ids : List Nat} (h : Makes b ids b') :
    b'.uniqueKeys = b.uniqueKeys := by
  induction h with
  | nil => rfl
  | cons hmake _ ih => rw [ih, make_uniqueKeys hmake]

namespace Builder

theorem makeAll_makes {items : List Nat} {b b' : Builder} (h : makeAll items b = .ok b') :
    Makes b items b' := by
  induction items generalizing b with
  | nil =>
      cases h
      exact Makes.nil
  | cons id rest ih =>
      rcases bind_eq_ok.mp h with ⟨b1, hmake, hrest⟩
      exact Makes.cons hmake (ih hrest)

theorem makeEntries_makes {start : Mark} {entries : List (Nat × Nat)} {b b' : Builder}
    {made found : List (Value × Nat)} (h : makeEntries start made entries b = .ok (found, b')) :
    Makes b (entryNodes entries) b' := by
  induction entries generalizing b made with
  | nil =>
      cases h
      exact Makes.nil
  | cons e rest ih =>
      rcases e with ⟨key, value⟩
      rcases bind_eq_ok.mp h with ⟨b1, hkey, h⟩
      cases hv : b1.key? key with
      | none => rw [hv] at h; cases h
      | some v =>
          rw [hv] at h
          rcases bind_eq_ok.mp h with ⟨b2, hvalue, h⟩
          -- A key is made before its value, and both before the entries behind them.
          exact Makes.cons hkey (Makes.cons hvalue (ih h))

theorem makePairs_makes {context : String} {start : Mark} {items : List Nat} {b b' : Builder}
    {found : List (Nat × Nat)} (h : makePairs context start items b = .ok (found, b')) :
    Makes b (pairNodes b.graph items) b' := by
  induction items generalizing b found with
  | nil =>
      cases h
      exact Makes.nil
  | cons item rest ih =>
      simp only [makePairs] at h
      split at h
      · next key value hc =>
          rcases bind_eq_ok.mp h with ⟨b1, hkey, h⟩
          rcases bind_eq_ok.mp h with ⟨b2, hvalue, h⟩
          rcases bind_eq_ok.mp h with ⟨⟨more, b3⟩, hrest, h⟩
          cases h
          have hgraph : b2.graph = b.graph := by rw [make_graph hvalue, make_graph hkey]
          -- Only a mapping with a single entry is a pair.
          have hnodes : pairNodes b.graph (item :: rest)
              = key :: value :: pairNodes b.graph rest := by
            have hcontent : (b.graph.node item).content = .mapping [(key, value)] := hc
            simp [pairNodes, hcontent]
          rw [hnodes, ← hgraph]
          exact Makes.cons hkey (Makes.cons hvalue (ih hrest))
      · cases h
      · cases h

/-- Entries without keys for merging stay as they are. -/
theorem flattenFrom_plain (merge : Nat → Builder → Except Fault Builder) (id : Nat)
    (kept entries : List (Nat × Nat)) (b : Builder)
    (h : ∀ e ∈ entries, (b.node e.1).tag ≠ Tag.merge ∧ (b.node e.1).tag ≠ Tag.value) :
    flattenFrom merge id [] kept entries b = .ok b := by
  induction entries generalizing kept with
  | nil => rfl
  | cons e rest ih =>
      rcases e with ⟨key, value⟩
      have hkey := h (key, value) (List.mem_cons_self ..)
      have hmerge : ((b.node key).tag == Tag.merge) = false := beq_eq_false_iff_ne.mpr hkey.1
      have hvalue : ((b.node key).tag == Tag.value) = false := beq_eq_false_iff_ne.mpr hkey.2
      simp only [flattenFrom, hmerge, hvalue, Bool.false_eq_true, if_false]
      exact ih _ (fun e he => h e (List.mem_cons_of_mem _ he))

theorem flatten_plain {b : Builder} (h : b.graph.PlainKeys) (id : Nat) : b.flatten id = .ok b :=
  flattenFrom_plain _ id [] (b.graph.entries id) b (fun e he => h id e he)

end Builder

theorem not_keyed_of_seq {t : String} (h : t = Tag.seq) : ¬ (t = Tag.map ∨ t = Tag.set) := by
  rw [h]
  decide

theorem not_paired_of_seq {t : String} (h : t = Tag.seq) : ¬ (t = Tag.omap ∨ t = Tag.pairs) := by
  rw [h]
  decide

theorem not_paired_of_keyed {t : String} (h : t = Tag.map ∨ t = Tag.set) :
    ¬ (t = Tag.omap ∨ t = Tag.pairs) := by
  rcases h with rfl | rfl <;> decide

theorem child_seq {g : Graph} {id : Nat} {items : List Nat} (ht : (g.node id).tag = Tag.seq)
    (hc : (g.node id).content = .sequence items) (x : Nat) : Child g id x ↔ x ∈ items := by
  constructor
  · intro h
    -- The other ways to be a part ask for other tags.
    cases h with
    | item _ hc' hx =>
        rw [hc] at hc'
        cases hc'
        exact hx
    | key ht' _ => exact absurd ht' (not_keyed_of_seq ht)
    | value ht' _ => exact absurd ht' (not_keyed_of_seq ht)
    | first ht' _ _ _ => exact absurd ht' (not_paired_of_seq ht)
    | second ht' _ _ _ => exact absurd ht' (not_paired_of_seq ht)
  · exact fun hx => Child.item ht hc hx

theorem child_keyed {g : Graph} {id : Nat}
    (ht : (g.node id).tag = Tag.map ∨ (g.node id).tag = Tag.set) (x : Nat) :
    Child g id x ↔ x ∈ entryNodes (g.entries id) := by
  unfold entryNodes
  constructor
  · intro h
    cases h with
    -- The tag tells what the children are; those of lists and pairs have others.
    | item ht' _ _ => exact absurd ht (not_keyed_of_seq ht')
    | key _ he => exact List.mem_flatMap.mpr ⟨_, he, by simp⟩
    | value _ he => exact List.mem_flatMap.mpr ⟨_, he, by simp⟩
    | first ht' _ _ _ => exact absurd ht' (not_paired_of_keyed ht)
    | second ht' _ _ _ => exact absurd ht' (not_paired_of_keyed ht)
  · intro h
    rcases List.mem_flatMap.mp h with ⟨⟨k, v⟩, he, hx⟩
    rcases List.mem_cons.mp hx with rfl | hx
    · exact Child.key ht he
    · rw [List.mem_singleton] at hx
      rw [hx]
      exact Child.value ht he

theorem child_pairs {g : Graph} {id : Nat} {items : List Nat}
    (ht : (g.node id).tag = Tag.omap ∨ (g.node id).tag = Tag.pairs)
    (hc : (g.node id).content = .sequence items) (x : Nat) :
    Child g id x ↔ x ∈ pairNodes g items := by
  unfold pairNodes
  constructor
  · intro h
    cases h with
    -- A node of pairs is no list and has no keys.
    | item ht' _ _ => exact absurd ht (not_paired_of_seq ht')
    | key ht' _ => exact absurd ht (not_paired_of_keyed ht')
    | value ht' _ => exact absurd ht (not_paired_of_keyed ht')
    | first _ hc' hp hm =>
        rw [hc] at hc'
        cases hc'
        exact List.mem_flatMap.mpr ⟨_, hp, by rw [hm]; simp⟩
    | second _ hc' hp hm =>
        rw [hc] at hc'
        cases hc'
        exact List.mem_flatMap.mpr ⟨_, hp, by rw [hm]; simp⟩
  · intro h
    rcases List.mem_flatMap.mp h with ⟨p, hp, hx⟩
    split at hx
    · next k v hm =>
        rcases List.mem_cons.mp hx with rfl | hx
        · exact Child.first ht hc hp hm
        · rw [List.mem_singleton] at hx
          rw [hx]
          exact Child.second ht hc hp hm
    · exact absurd hx (List.not_mem_nil)

/-- The entries of a keyed collection are made key by key, where no key is for merging
    and equal keys are not refused. -/
theorem mappingEntries_makes {g : Graph} {id : Nat} {b b' : Builder} {found : List (Value × Nat)}
    (hb : b.graph = g) (hg : g.PlainKeys) (hu : b.uniqueKeys = false)
    (h : b.mappingEntries id = .ok (found, b')) : Makes b (entryNodes (g.entries id)) b' := by
  have hflat : b.flatten id = .ok b := Builder.flatten_plain (hb ▸ hg) id
  have hkeys : b.checkKeys id = .ok b := by
    unfold Builder.checkKeys
    rw [hu]
    rfl
  unfold Builder.mappingEntries at h
  rw [hkeys] at h
  rcases bind_eq_ok.mp h with ⟨b0, hb0, h⟩
  cases hb0
  simp only [] at h
  split at h
  · -- Neither comparing keys nor merging does anything, and what is left are the entries.
    rw [hflat] at h
    rcases bind_eq_ok.mp h with ⟨b0, hb0, h⟩
    cases hb0
    rcases bind_eq_ok.mp h with ⟨⟨entries, b1⟩, hmade, h⟩
    cases h
    rw [← hb]
    exact Builder.makeEntries_makes hmade
  · cases h

/-- What filling a collection does: it makes exactly the parts, and then puts them in. -/
theorem fill_makes {g : Graph} {root id : Nat} {busy : List Nat} {b b' : Builder} {m : Made}
    (hs : Sound g root busy b) (hg : g.PlainKeys) (hu : b.uniqueKeys = false)
    (hm : b.made? id = some m) (hcol : m.isScalar = false) (h : b.fill id = .ok b') :
    ∃ ids b1 filled, Makes b ids b1 ∧ b' = b1.set id filled ∧ filled.emptied = m.emptied ∧
      ∀ x, x ∈ ids ↔ Child g id x := by
  have hform := initial_form (hs.shape id m hm)
  have hnode : b.node id = g.node id := by rw [← hs.graph]; rfl
  unfold Builder.fill at h
  cases m with
  | scalar v => cases hcol
  | sequence items =>
      have ht : (g.node id).tag = Tag.seq := by simpa [Made.emptied] using hform
      simp only [hm, hnode] at h
      cases hc : (g.node id).content with
      | sequence nodes =>
          simp only [hc] at h
          rcases bind_eq_ok.mp h with ⟨b1, hmade, h⟩
          cases h
          exact ⟨nodes, b1, _, Builder.makeAll_makes hmade, rfl, rfl,
            fun x => (child_seq ht hc x).symm⟩
      | scalar text => simp only [hc] at h; cases h
      | mapping entries => simp only [hc] at h; cases h
  | mapping entries =>
      have ht : (g.node id).tag = Tag.map := by simpa [Made.emptied] using hform
      simp only [hm] at h
      rcases bind_eq_ok.mp h with ⟨⟨found, b1⟩, hmade, h⟩
      cases h
      exact ⟨_, b1, _, mappingEntries_makes hs.graph hg hu hmade, rfl, rfl,
        fun x => (child_keyed (Or.inl ht) x).symm⟩
  | set members =>
      have ht : (g.node id).tag = Tag.set := by simpa [Made.emptied] using hform
      simp only [hm] at h
      rcases bind_eq_ok.mp h with ⟨⟨found, b1⟩, hmade, h⟩
      cases h
      exact ⟨_, b1, _, mappingEntries_makes hs.graph hg hu hmade, rfl, rfl,
        fun x => (child_keyed (Or.inr ht) x).symm⟩
  | pairs pairs =>
      -- Ordered mappings and pairs are made alike.
      have ht : (g.node id).tag = Tag.omap ∨ (g.node id).tag = Tag.pairs := by
        simpa [Made.emptied] using hform
      simp only [hm, hnode] at h
      cases hc : (g.node id).content with
      | sequence items =>
          simp only [hc] at h
          rcases bind_eq_ok.mp h with ⟨⟨found, b1⟩, hmade, h⟩
          cases h
          have hmakes := Builder.makePairs_makes hmade
          rw [hs.graph] at hmakes
          exact ⟨_, b1, _, hmakes, rfl, rfl, fun x => (child_pairs ht hc x).symm⟩
      | scalar text => simp only [hc] at h; cases h
      | mapping entries => simp only [hc] at h; cases h

/-- The nodes that were not made yet. -/
def Builder.unmade (b : Builder) : Finset Nat :=
  (Finset.range b.made.size).filter fun x => b.made? x = none

/-- How much there is left to do: what was not made, and what waits to be filled. -/
def Builder.left (b : Builder) : Nat := b.unmade.card + b.waiting.length

theorem make_left {g : Graph} {root id : Nat} {busy : List Nat} {b b' : Builder}
    (hs : Sound g root busy b) (h : b.make id = .ok b') : b'.left ≤ b.left := by
  rcases Builder.make_eq_ok h with ⟨_, rfl⟩ | ⟨hnone, m, hi, rfl⟩
  · exact Nat.le_refl _
  have hlt := hs.lt hi
  -- The node itself is one that is no longer left to be made.
  have hfewer : (b.start id m).unmade ⊂ b.unmade := by
    rw [Finset.ssubset_iff_of_subset]
    · refine ⟨id, ?_, ?_⟩
      · simp [Builder.unmade, hlt, hnone]
      · simp [Builder.unmade, Builder.made?_start b id _ m hlt]
    · intro x hx
      simp only [Builder.unmade, Builder.size_start, Finset.mem_filter, Finset.mem_range,
        Builder.made?_start b id _ m hlt] at hx ⊢
      refine ⟨hx.1, ?_⟩
      by_cases hxid : x = id
      · rw [hxid]
        exact hnone
      · simpa [hxid] using hx.2
  have hcard := Finset.card_lt_card hfewer
  have hwait : (b.start id m).waiting.length ≤ b.waiting.length + 1 := by
    rw [Builder.waiting_start, List.length_append]
    split <;> simp
  unfold Builder.left
  omega

theorem Makes.left {g : Graph} {root : Nat} {busy ids : List Nat} {b b' : Builder}
    (h : Makes b ids b') (hs : Sound g root busy b) (hids : ∀ id ∈ ids, Constructed g root id) :
    b'.left ≤ b.left := by
  induction h with
  | nil => exact Nat.le_refl _
  | cons hmake _ ih =>
      have hs1 := make_sound hs (hids _ (List.mem_cons_self ..)) hmake
      have hrest := ih hs1 (fun x hx => hids x (List.mem_cons_of_mem _ hx))
      exact Nat.le_trans hrest (make_left hs hmake)

/-- Putting the parts into a collection changes nothing else. -/
theorem set_sound {g : Graph} {root id : Nat} {b : Builder} {m filled : Made}
    (hs : Sound g root [id] b) (hm : b.made? id = some m) (hf : filled.emptied = m.emptied)
    (hparts : ∀ x, Child g id x → (b.made? x).isSome) : Sound g root [] (b.set id filled) := by
  have hmade := fun x => Builder.made?_set b id x filled (Builder.lt_of_made hm)
  have hscalar : filled.isScalar = m.isScalar := by
    rw [← Made.isScalar_emptied filled, hf, Made.isScalar_emptied]
  -- Every node that was made still is, and has the same form.
  have hold : ∀ x n, (b.set id filled).made? x = some n →
      ∃ n', b.made? x = some n' ∧ n'.emptied = n.emptied ∧ n'.isScalar = n.isScalar := by
    intro x n hx
    rw [hmade x] at hx
    by_cases hxid : x = id
    · rw [if_pos hxid] at hx
      cases hx
      exact ⟨m, by rw [hxid, hm], hf.symm, hscalar.symm⟩
    · rw [if_neg hxid] at hx
      exact ⟨n, hx, rfl, rfl⟩
  have hknown : ∀ x, (b.made? x).isSome → ((b.set id filled).made? x).isSome := by
    intro x hx
    rw [hmade x]
    split
    · rfl
    · exact hx
  refine ⟨hs.graph, ?_, ?_, ?_, ?_, ?_⟩
  · rw [Builder.size_set, hs.size]
  · -- What is put in has the form that the node asks for.
    intro x n hx
    rcases hold x n hx with ⟨n', hn', he, _⟩
    rw [← he]
    exact hs.shape x n' hn'
  · intro x n hx
    rcases hold x n hx with ⟨n', hn', _, _⟩
    exact hs.reached x n' hn'
  · intro x hx
    rcases hs.waits x hx with ⟨n, hn, hcol⟩
    rw [hmade x]
    by_cases hxid : x = id
    · rw [hxid, hm] at hn
      cases hn
      exact ⟨filled, if_pos hxid, hscalar.trans hcol⟩
    · exact ⟨n, by rw [if_neg hxid]; exact hn, hcol⟩
  · intro x n hx hcol
    rcases hold x n hx with ⟨n', hn', _, hsame⟩
    rcases hs.done x n' hn' (hsame.trans hcol) with hw | hb | hdone
    · exact Or.inl hw
    · -- The busy one is the one that is filled here, with all of its parts.
      rw [List.mem_singleton] at hb
      subst hb
      exact Or.inr (Or.inr (fun y hy => hknown y (hparts y hy)))
    · exact Or.inr (Or.inr (fun y hy => hknown y (hdone y hy)))

/-- A builder that knows the nodes of a document and has made none of them. -/
def Builder.blank (uniqueKeys : Bool) (g : Graph) : Builder :=
  ⟨uniqueKeys, g, Array.replicate g.size none, []⟩

theorem Builder.made?_blank (uniqueKeys : Bool) (g : Graph) (id : Nat) :
    (Builder.blank uniqueKeys g).made? id = none := by
  unfold Builder.made? Builder.blank
  rw [Array.getD_eq_getD_getElem?, Array.getElem?_replicate]
  split <;> rfl

theorem blank_sound (uniqueKeys : Bool) (g : Graph) (root : Nat) :
    Sound g root [] (Builder.blank uniqueKeys g) := by
  refine ⟨rfl, Array.size_replicate, ?_, ?_, ?_, ?_⟩
  · intro id m hm
    rw [Builder.made?_blank] at hm
    cases hm
  · intro id m hm
    rw [Builder.made?_blank] at hm
    cases hm
  · exact fun id hid => absurd hid (List.not_mem_nil)
  · intro id m hm
    rw [Builder.made?_blank] at hm
    cases hm

theorem blank_left (uniqueKeys : Bool) (g : Graph) :
    (Builder.blank uniqueKeys g).left ≤ g.size := by
  have hcard := Finset.card_filter_le (Finset.range (Builder.blank uniqueKeys g).made.size)
    (fun x => (Builder.blank uniqueKeys g).made? x = none)
  have hsize : (Builder.blank uniqueKeys g).made.size = g.size := Array.size_replicate
  rw [Finset.card_range, hsize] at hcard
  unfold Builder.left Builder.unmade
  rw [hsize]
  exact hcard

/-- The builder without the collection that waits first. -/
def Builder.popped (b : Builder) : Builder := { b with waiting := b.waiting.drop 1 }

theorem popped_sound {g : Graph} {root id : Nat} {rest : List Nat} {b : Builder}
    (hs : Sound g root [] b) (hw : b.waiting = id :: rest) : Sound g root [id] b.popped := by
  have hrest : b.popped.waiting = rest := by simp [Builder.popped, hw]
  refine ⟨hs.graph, hs.size, hs.shape, hs.reached, ?_, ?_⟩
  · intro x hx
    rw [hrest] at hx
    exact hs.waits x (by rw [hw]; exact List.mem_cons_of_mem _ hx)
  · intro x m hx hcol
    rcases hs.done x m hx hcol with h | h | h
    · rw [hw] at h
      rcases List.mem_cons.mp h with rfl | h
      · -- It no longer waits, so it has to be busy.
        exact Or.inr (Or.inl (List.mem_singleton_self _))
      · exact Or.inl (by rw [hrest]; exact h)
    · exact absurd h (List.not_mem_nil)
    · exact Or.inr (Or.inr h)

/-- Filling the collection that waits first keeps the invariant and leaves less to do. -/
theorem fill_step {g : Graph} {root id : Nat} {rest : List Nat} {b b' : Builder}
    (hs : Sound g root [] b) (hg : g.PlainKeys) (hu : b.uniqueKeys = false)
    (hw : b.waiting = id :: rest) (h : b.popped.fill id = .ok b') :
    Sound g root [] b' ∧ b'.uniqueKeys = false ∧ b'.left < b.left ∧
      ∀ x, (b.made? x).isSome → (b'.made? x).isSome := by
  have hpop := popped_sound hs hw
  rcases hs.waits id (by rw [hw]; exact List.mem_cons_self ..) with ⟨m, hm, hcol⟩
  have hm0 : b.popped.made? id = some m := hm
  rcases fill_makes hpop hg hu hm0 hcol h with ⟨ids, b1, filled, hmakes, rfl, hf, hids⟩
  have hreach : ∀ x ∈ ids, Constructed g root x := fun x hx =>
    Constructed.part (hs.reached id m hm) ((hids x).mp hx)
  have hs1 := hmakes.sound hpop hreach
  have hm1 : b1.made? id = some m := hmakes.grows hpop hreach id m hm0
  have hset := fun x => Builder.made?_set b1 id x filled (Builder.lt_of_made hm1)
  have hparts : ∀ x, Child g id x → (b1.made? x).isSome := fun x hx =>
    hmakes.made hpop hreach x ((hids x).mpr hx)
  refine ⟨set_sound hs1 hm1 hf hparts, ?_, ?_, ?_⟩
  · exact hmakes.uniqueKeys.trans hu
  · -- Making parts adds as many that wait as it takes from those to be made, so it is
    -- the collection itself that counts: it was taken off, and does not come back.
    have hless := hmakes.left hpop hreach
    have hunmade : (b1.set id filled).unmade = b1.unmade := by
      unfold Builder.unmade
      rw [Builder.size_set]
      refine Finset.filter_congr (fun x _ => ?_)
      rw [hset x]
      by_cases hx : x = id
      · simp [hx, hm1]
      · simp [hx]
    have hbefore : b.popped.left + 1 = b.left := by
      simp only [Builder.left, Builder.popped, hw, List.drop_one, List.tail_cons,
        List.length_cons]
      rfl
    unfold Builder.left at hless hbefore ⊢
    rw [hunmade, Builder.waiting_set]
    omega
  · intro x hx
    rcases Option.isSome_iff_exists.mp hx with ⟨n, hn⟩
    rw [hset x]
    split
    · rfl
    · rw [hmakes.grows hpop hreach x n hn]
      rfl

theorem fillAll_cons (fuel id : Nat) (rest : List Nat) (b : Builder) (hw : b.waiting = id :: rest) :
    Builder.fillAll (fuel + 1) b = b.popped.fill id >>= Builder.fillAll fuel := by
  simp only [Builder.fillAll, Builder.popped, hw, List.drop_one, List.tail_cons]

/-- A construction keeps the invariant and ends with nothing that waits, if its fuel
    covers what is left to do. -/
theorem fillAll_sound {g : Graph} {root fuel : Nat} {b b' : Builder} (hs : Sound g root [] b)
    (hg : g.PlainKeys) (hu : b.uniqueKeys = false) (hfuel : b.left ≤ fuel)
    (h : b.fillAll fuel = .ok b') :
    Sound g root [] b' ∧ b'.waiting = [] ∧ ∀ x, (b.made? x).isSome → (b'.made? x).isSome := by
  induction fuel generalizing b with
  | zero =>
      -- Without fuel there is nothing left, so nothing waits.
      have hnone : b.waiting.length = 0 := by
        unfold Builder.left at hfuel
        omega
      cases h
      exact ⟨hs, List.length_eq_zero_iff.mp hnone, fun x hx => hx⟩
  | succ n ih =>
      cases hw : b.waiting with
      | nil =>
          simp only [Builder.fillAll, hw] at h
          cases h
          exact ⟨hs, hw, fun x hx => hx⟩
      | cons id rest =>
          rw [fillAll_cons n id rest b hw] at h
          rcases bind_eq_ok.mp h with ⟨b1, hfill, hrest⟩
          rcases fill_step hs hg hu hw hfill with ⟨hs1, hu1, hleft, hknown⟩
          rcases ih hs1 hu1 (by omega) hrest with ⟨hs2, hempty, hknown2⟩
          exact ⟨hs2, hempty, fun x hx => hknown2 x (hknown x hx)⟩

/-- When nothing waits, all that can be reached from a made node has been made. -/
theorem constructed_made {g : Graph} {root : Nat} {b : Builder} (hs : Sound g root [] b)
    (hw : b.waiting = []) (hroot : (b.made? root).isSome) (id : Nat)
    (hid : Constructed g root id) : (b.made? id).isSome := by
  induction hid with
  | root => exact hroot
  | part hprev hchild ih =>
      rcases Option.isSome_iff_exists.mp ih with ⟨m, hm⟩
      cases hcol : m.isScalar with
      | false =>
          rcases hs.done _ m hm hcol with h | h | h
          · rw [hw] at h
            exact absurd h (List.not_mem_nil)
          · exact absurd h (List.not_mem_nil)
          · exact h _ hchild
      | true =>
          -- What has no parts was made of a node that has none.
          have hshape := initial_form (hs.shape _ m hm)
          cases m with
          | scalar v =>
              have hnone := by simpa [Made.emptied] using hshape
              exact absurd hchild (hnone _)
          | sequence items => cases hcol
          | mapping entries => cases hcol
          | set members => cases hcol
          | pairs pairs => cases hcol

end Yaml

end Annals
