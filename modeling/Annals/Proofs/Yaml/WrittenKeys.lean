import Annals.Proofs.Yaml.MergedKeys

/-!
# No Key Is Lost

That a text is decoded with unique keys says that none of the mappings it constructs is
written with a key twice.

The keys that are compared are those that a mapping has at its turn. They need not be
the ones that were written, since the mapping may have been merged into before, but
those are still among them. And a mapping that is constructed has a turn, whichever way
it comes into the document: as the whole of it, as an item, as a key or a value, or as
a key or a value of an entry that is merged from elsewhere. The last of these is where
the ways part: what an entry leads to is constructed where the entry is merged to, but
the mapping that it is merged from is not, unless it stands somewhere else too. Its
keys are never compared with each other.

`Part` follows what is written, with merges as far as they can be drawn on. While the
document is constructed, merges take away keys for merging, so that less can be drawn
on. `Underway` is the invariant: what a collection led to as it was written has been
made, or it still leads there.

## Main definitions

* `Graph.Part`, `Graph.Built`: What is constructed on behalf of a collection or a document.
* `Builder.Distinct`: Keys that have been made to different values.
* `Underway`: The invariant of a construction with merges.

## Theorems

* `checkKeysFrom_distinct`: Keys that were compared are different.
* `Graph.Part.flattened`: What is part of a collection remains so, or is taken over.
* `fill_underway`: Filling a collection keeps the invariant.
* `fillAll_underway`: A construction keeps the invariant, and nothing waits in the end.
* `decode_distinct`: No mapping that is constructed is written with a key twice.
-/

namespace Annals

namespace Yaml

namespace Graph

/-- The keys of a node that are not for merging. -/
def ownKeys (g : Graph) (id : Nat) : List Nat := (g.ownEntries id).map Prod.fst

/-- A node is constructed on behalf of a collection: an item of a sequence, a key or a value
    of a mapping or a set, its own or a merged one, or one of a list of pairs. -/
inductive Part (g : Graph) (id : Nat) : Nat → Prop where
  | item {items : List Nat} {x : Nat} :
      (g.node id).tag = Tag.seq → (g.node id).content = .sequence items → x ∈ items → Part g id x
  | entry {src x : Nat} {e : Nat × Nat} :
      g.Keyed id → g.Draws id src → e ∈ g.ownEntries src → (x = e.1 ∨ x = e.2) → Part g id x
  | pair {items : List Nat} {item x : Nat} {e : Nat × Nat} :
      (g.node id).tag = Tag.omap ∨ (g.node id).tag = Tag.pairs →
      (g.node id).content = .sequence items → item ∈ items →
      (g.node item).content = .mapping [e] → g.isMerge e = false → (x = e.1 ∨ x = e.2) → Part g id x

/-- A node is constructed in a document whose outermost node is `root`. -/
def Built (g : Graph) (root : Nat) : Nat → Prop := Relation.ReflTransGen g.Part root

/-- The value that a scalar has as a key. The key for the value of a mapping is a text. -/
def written? (g : Graph) (id : Nat) : Option Value :=
  match (g.node id).content with
  | .scalar text => if (g.node id).tag = Tag.value then some (.text text) else g.keyValue? id
  | _ => none

end Graph

/-- Whether something can be made of a node with a tag. -/
def Made.Fits (tag : String) : Made → Prop
  | .scalar _ => tag ∉ [Tag.map, Tag.seq, Tag.set, Tag.omap, Tag.pairs]
  | .sequence _ => tag = Tag.seq
  | .mapping _ => tag = Tag.map
  | .set _ => tag = Tag.set
  | .pairs _ => tag = Tag.omap ∨ tag = Tag.pairs

theorem Made.fits_emptied {tag : String} (m : Made) : m.emptied.Fits tag ↔ m.Fits tag := by
  cases m <;> rfl

theorem Made.fits_of_emptied {tag : String} {m m' : Made} (h : m'.emptied = m.emptied)
    (hm : m.Fits tag) : m'.Fits tag := by
  rw [← fits_emptied, h, fits_emptied]
  exact hm

theorem initial_fits {g : Graph} {id : Nat} {m : Made} (h : g.initial id = .ok m) :
    m.Fits (g.node id).tag := by
  unfold Graph.initial at h
  simp only [] at h
  split at h
  · next ht => cases h; exact beq_iff_eq.mp ht
  split at h
  · next ht => cases h; exact beq_iff_eq.mp ht
  split at h
  · next ht => cases h; exact beq_iff_eq.mp ht
  split at h
  · next ht =>
      cases h
      simpa [Made.Fits] using ht
  -- The tag is that of no collection, so a scalar is made.
  cases hs : g.scalar id with
  | error f => rw [hs] at h; cases h
  | ok v =>
      rw [hs] at h
      cases h
      simp_all [Made.Fits]

/-- What was made of a node before or after merges fits what is written. -/
theorem Evolved.fits {on : Nat → Prop} {g g1 : Graph} (h : Evolved on g g1) {id : Nat} {m : Made}
    (hm : m.Fits (g1.node id).tag) : m.Fits (g.node id).tag := by
  rcases h.tag id with hsame | ⟨_, hvalue, hstr⟩
  · rw [← hsame]
    exact hm
  · rw [hstr] at hm
    rw [hvalue]
    cases m with
    | scalar v => simp only [Made.Fits]; decide
    | sequence items => exact absurd (show Tag.str = Tag.seq from hm) (by decide)
    | mapping entries => exact absurd (show Tag.str = Tag.map from hm) (by decide)
    | set members => exact absurd (show Tag.str = Tag.set from hm) (by decide)
    | pairs pairs =>
        exact absurd (show Tag.str = Tag.omap ∨ Tag.str = Tag.pairs from hm) (by decide)

/-- No collection is made of the key for the value of a mapping. -/
theorem Evolved.fits_of_collection {on : Nat → Prop} {g g1 : Graph} (h : Evolved on g g1)
    {id : Nat} {m : Made} (hcol : m.isScalar = false) (hm : m.Fits (g.node id).tag) :
    m.Fits (g1.node id).tag := by
  have hne : (g.node id).tag ≠ Tag.value := by
    intro hvalue
    rw [hvalue] at hm
    cases m with
    | scalar v => cases hcol
    | sequence items => exact absurd (show Tag.value = Tag.seq from hm) (by decide)
    | mapping entries => exact absurd (show Tag.value = Tag.map from hm) (by decide)
    | set members => exact absurd (show Tag.value = Tag.set from hm) (by decide)
    | pairs pairs =>
        exact absurd (show Tag.value = Tag.omap ∨ Tag.value = Tag.pairs from hm) (by decide)
  rw [h.tag_of_ne hne]
  exact hm

theorem initial_text {g : Graph} {id : Nat} {text : String} (htag : (g.node id).tag = Tag.str)
    (hc : (g.node id).content = .scalar text) : g.initial id = .ok (.scalar (.text text)) := by
  have htext : g.text id = .ok text := by
    unfold Graph.text scalarText
    simp only [hc]
  have hother : ∀ t ∈ [Tag.map, Tag.seq, Tag.set, Tag.omap, Tag.pairs], (Tag.str == t) = false := by
    decide
  simp only [List.forall_mem_cons] at hother
  simp only [Graph.initial, Graph.scalar, htag, hother, htext, beq_self_eq_true, Bool.or_false,
    Bool.false_eq_true, if_false, if_true]
  rfl

/-- What was made of a scalar as a key is the value that is written. -/
theorem initial_written {on : Nat → Prop} {g g1 : Graph} (h : Evolved on g g1) {id : Nat}
    {m : Made} {v : Value} (hi : g1.initial id = .ok m) (hv : g.written? id = some v) :
    m = .scalar v := by
  unfold Graph.written? at hv
  cases hc : (g.node id).content with
  | sequence items => simp [hc] at hv
  | mapping entries => simp [hc] at hv
  | scalar text =>
      have hmap : ¬ g.IsMapping id := by
        rintro ⟨entries, hentries⟩
        rw [hc] at hentries
        cases hentries
      have hc1 : (g1.node id).content = (g.node id).content :=
        (h.content id).resolve_right fun hboth => hmap hboth.1
      simp only [hc] at hv
      split at hv
      · next hvalue =>
          -- The key for the value of a mapping can be made only after it became a text.
          cases hv
          rcases h.tag id with hsame | ⟨_, _, hstr⟩
          · have htag := mem_knownTags hi
            rw [hsame, hvalue] at htag
            exact absurd htag (by decide)
          · rw [initial_text hstr (hc1.trans hc)] at hi
            cases hi
            rfl
      · next hne =>
          have htag : (g1.node id).tag = (g.node id).tag :=
            (h.tag id).resolve_right fun hkey => hne hkey.2.1
          have hsame := initial_congr htag (h.mark id) (text_congr (h.mark id) hc1 hmap)
            (h.content id)
          rw [hsame] at hi
          unfold Graph.keyValue? at hv
          rw [hi] at hv
          cases m with
          | scalar w =>
              cases hv
              rfl
          | sequence items => cases hv
          | mapping entries => cases hv
          | set members => cases hv
          | pairs pairs => cases hv

/-- A node that was made before is a value only if it was one. -/
theorem Further.key?_of_made {b b1 : Builder} (h : Further b b1) {id : Nat} {v : Value}
    (hid : (b.made? id).isSome) (hv : b1.key? id = some v) : b.key? id = some v := by
  rcases Option.isSome_iff_exists.mp hid with ⟨m, hm⟩
  rcases h.made id m hm with ⟨m', hm', he⟩
  rw [key?_eq_some.mp hv] at hm'
  cases hm'
  rw [key?_eq_some, hm, Made.emptied_eq_scalar he.symm]

/-- Keys have been made to values, no two of them the same. -/
structure Builder.Distinct (b : Builder) (keys : List Nat) : Prop where
  valued : ∀ k ∈ keys, ∃ v, b.key? k = some v
  differ : keys.Pairwise fun j k =>
    ∀ v w, b.key? j = some v → b.key? k = some w → v.sameKey w = false

theorem Builder.Distinct.further {b b1 : Builder} {keys : List Nat} (h : b.Distinct keys)
    (hfurther : Further b b1) : b1.Distinct keys := by
  have hmade : ∀ k ∈ keys, (b.made? k).isSome := by
    intro k hk
    rcases h.valued k hk with ⟨v, hv⟩
    rw [key?_eq_some.mp hv]
    rfl
  constructor
  · intro k hk
    rcases h.valued k hk with ⟨v, hv⟩
    exact ⟨v, hfurther.key? hv⟩
  · refine h.differ.imp_of_mem (fun {j k} hj hk hdiffer v w hv hw => ?_)
    exact hdiffer v w (hfurther.key?_of_made (hmade j hj) hv) (hfurther.key?_of_made (hmade k hk) hw)

theorem Builder.Distinct.sublist {b : Builder} {keys more : List Nat} (h : b.Distinct more)
    (hsub : keys.Sublist more) : b.Distinct keys :=
  ⟨fun k hk => h.valued k (hsub.subset hk), h.differ.sublist hsub⟩

/-- Keys that were compared are different, from each other and from those seen before. -/
theorem checkKeysFrom_distinct {start : Mark} {seen : List Value} {entries : List (Nat × Nat)}
    {b b' : Builder} (hsize : b.made.size = b.graph.size)
    (h : Builder.checkKeysFrom start seen entries b = .ok b') :
    ((b.graph.notMerges entries).map Prod.fst).Pairwise (fun j k =>
      ∀ v w, b'.key? j = some v → b'.key? k = some w → v.sameKey w = false) ∧
    ∀ v ∈ seen, ∀ k ∈ (b.graph.notMerges entries).map Prod.fst, ∀ w, b'.key? k = some w →
      v.sameKey w = false := by
  induction entries generalizing b seen with
  | nil => exact ⟨List.Pairwise.nil, fun _ _ _ hk => nomatch hk⟩
  | cons e rest ih =>
      rcases checkKeysFrom_cons h with ⟨hmerge, hrest⟩ | ⟨hmerge, b1, hmake, hrest⟩
      · rw [Graph.notMerges_cons, if_pos hmerge]
        exact ih hsize hrest
      rw [Graph.notMerges_cons, hmerge, if_neg Bool.false_ne_true, List.map_cons]
      have hfirst := Makes.cons hmake Makes.nil
      have hsize1 := hfirst.roomy hsize
      have hmade : (b1.made? e.1).isSome := hfirst.isSome hsize e.1 (List.mem_cons_self ..)
      rcases hrest with ⟨hnone, hrest⟩ | ⟨u, hu, hseen, hrest⟩
      · -- A collection stays one, so it is not compared with any.
        have hfurther := (checkKeysFrom_makes hrest).further hsize1
        have hno : ∀ w, b'.key? e.1 ≠ some w := by
          intro w hw
          rw [hfurther.key?_of_made hmade hw] at hnone
          cases hnone
        rcases ih hsize1 hrest with ⟨hdiffer, hothers⟩
        rw [hfirst.graph] at hdiffer hothers
        refine ⟨List.pairwise_cons.mpr ⟨fun k _ v w hv => absurd hv (hno v), hdiffer⟩, ?_⟩
        intro v hv k hk w hw
        rcases List.mem_cons.mp hk with rfl | hk
        · exact absurd hw (hno w)
        · exact hothers v hv k hk w hw
      · have hfurther := (checkKeysFrom_makes hrest).further hsize1
        have heq : ∀ w, b'.key? e.1 = some w → w = u := by
          intro w hw
          rw [hfurther.key?_of_made hmade hw] at hu
          exact Option.some.inj hu
        rcases ih hsize1 hrest with ⟨hdiffer, hothers⟩
        rw [hfirst.graph] at hdiffer hothers
        refine ⟨List.pairwise_cons.mpr ⟨fun k hk v w hv hw => ?_, hdiffer⟩, ?_⟩
        · rw [heq v hv]
          exact hothers u (List.mem_cons_self ..) k hk w hw
        · intro v hv k hk w hw
          rcases List.mem_cons.mp hk with rfl | hk
          · rw [heq w hw]
            exact hseen v hv
          · exact hothers v (List.mem_cons_of_mem _ hv) k hk w hw

theorem Evolved.keyed {on : Nat → Prop} {g g1 : Graph} (h : Evolved on g g1) {id : Nat}
    (hid : g.Keyed id) : g1.Keyed id := by
  have hne : (g.node id).tag ≠ Tag.value := by
    rcases hid with ht | ht <;> rw [ht] <;> decide
  unfold Graph.Keyed
  rw [h.tag_of_ne hne]
  exact hid

/-- When mapping `id` is merged into, what is part of a collection remains so, or is among
    the entries that were taken. -/
theorem Graph.Part.flattened {g g1 : Graph} {id y x : Nat} (h : g.Part y x)
    (hf : Flattened g id g1) : g1.Part y x ∨ x ∈ entryNodes (g1.entries id) := by
  cases h with
  | item ht hc hx =>
      have ht1 : (g1.node y).tag = Tag.seq := by
        rw [hf.tag_of_ne (by rw [ht]; decide), ht]
      exact Or.inl (Graph.Part.item ht1 (hf.content_of_sequence hc) hx)
  | entry hkeyed hdraws he hx =>
      rcases hf.draws_all hdraws with htaken | ⟨hsame, hdraws1⟩
      · exact Or.inr (mem_entryNodes.mpr ⟨_, hf.whole _ htaken _ he, hx⟩)
      · exact Or.inl (Graph.Part.entry (hf.keyed hkeyed) hdraws1 (hf.ownEntries hsame ▸ he) hx)
  | @pair items item x e ht hc hitem hpair hown hx =>
      have ht1 : (g1.node y).tag = (g.node y).tag :=
        hf.tag_of_ne (by rcases ht with ht | ht <;> rw [ht] <;> decide)
      -- A pair has one entry, which is none for merging, so nothing is merged into it.
      have hentries : g.entries item = [e] := Graph.entries_of_content hpair
      have hno : ¬ g.HasMerge item := by
        rintro ⟨e', he', hmerge⟩
        rw [hentries, List.mem_singleton] at he'
        rw [he', hown] at hmerge
        cases hmerge
      rcases hf.isMapping.mpr ⟨_, hpair⟩ with ⟨entries, hpair1⟩
      have hsame := hf.entries_eq trivial hno
      rw [Graph.entries_of_content hpair1, hentries] at hsame
      rw [hsame] at hpair1
      exact Or.inl (Graph.Part.pair (ht1 ▸ ht) (hf.content_of_sequence hc) hitem hpair1
        ((hf.isMerge e).trans hown) hx)

/-- What nodes were made to when they were made. -/
theorem Makes.initial {b b1 : Builder} {ids : List Nat} (h : Makes b ids b1)
    (hsize : b.made.size = b.graph.size) {x : Nat} {m : Made} (hm : b1.made? x = some m) :
    b.made? x = some m ∨ b.graph.initial x = .ok m := by
  induction h with
  | nil => exact Or.inl hm
  | @cons b b1 b2 id ids hmake hrest ih =>
      have hroomy := (Makes.cons hmake Makes.nil).roomy hsize
      rcases ih hroomy hm with hm1 | hi
      · rcases Builder.make_eq_ok hmake with ⟨_, rfl⟩ | ⟨_, n, hi, rfl⟩
        · exact Or.inl hm1
        · rw [Builder.made?_start b id x n (Builder.lt_of_initial hsize hi)] at hm1
          -- A step makes one node, and leaves the others as they were.
          by_cases hx : x = id
          · rw [if_pos hx] at hm1
            cases hm1
            exact Or.inr (hx ▸ hi)
          · rw [if_neg hx] at hm1
            exact Or.inl hm1
      · rw [make_graph hmake] at hi
        exact Or.inr hi

theorem isSome_set {b : Builder} {x : Nat} (id : Nat) (filled : Made)
    (hx : (b.made? x).isSome) : ((b.set id filled).made? x).isSome := by
  by_cases hid : id < b.made.size
  · rw [Builder.made?_set b id x filled hid]
    split
    · rfl
    · exact hx
  · have hsame : (b.set id filled).made = b.made := Array.setIfInBounds_eq_of_size_le
      (Nat.le_of_not_lt hid)
    unfold Builder.made?
    rw [hsame]
    exact hx

theorem Made.fits_keyed {tag : String} {m : Made} (hk : m.isKeyed = true) (h : m.Fits tag) :
    tag = Tag.map ∨ tag = Tag.set := by
  cases m with
  | mapping entries => exact Or.inl h
  | set members => exact Or.inr h
  | scalar v => cases hk
  | sequence items => cases hk
  | pairs pairs => cases hk

theorem Made.isKeyed_of_fits {tag : String} {m : Made} (h : m.Fits tag)
    (ht : tag = Tag.map ∨ tag = Tag.set) : m.isKeyed = true := by
  cases m with
  | mapping entries => rfl
  | set members => rfl
  | scalar v =>
      simp only [Made.Fits, List.mem_cons, List.not_mem_nil, or_false, not_or] at h
      rcases ht with ht | ht
      · exact absurd ht h.1
      · exact absurd ht h.2.2.1
  | sequence items => exact absurd ht (not_keyed_of_seq h)
  | pairs pairs => exact absurd h (not_paired_of_keyed ht)

namespace Graph

variable {g : Graph} {id x : Nat}

theorem Part.of_seq {items : List Nat} (h : g.Part id x) (ht : (g.node id).tag = Tag.seq)
    (hc : (g.node id).content = .sequence items) : x ∈ items := by
  cases h with
  | item _ hc' hx =>
      rw [hc] at hc'
      cases hc'
      exact hx
  | entry ht' _ _ _ => exact absurd ht' (not_keyed_of_seq ht)
  | pair ht' _ _ _ _ _ => exact absurd ht' (not_paired_of_seq ht)

theorem Part.of_pairs {items : List Nat} (h : g.Part id x)
    (ht : (g.node id).tag = Tag.omap ∨ (g.node id).tag = Tag.pairs)
    (hc : (g.node id).content = .sequence items) : x ∈ pairNodes g items := by
  cases h with
  | item ht' _ _ => exact absurd ht (not_paired_of_seq ht')
  | entry ht' _ _ _ => exact absurd ht (not_paired_of_keyed ht')
  | pair _ hc' hitem hpair _ hx =>
      rw [hc] at hc'
      cases hc'
      exact List.mem_flatMap.mpr ⟨_, hitem, by rw [hpair]; simpa using hx⟩

theorem Part.of_keyed (h : g.Part id x) (ht : g.Keyed id) :
    ∃ src, g.Draws id src ∧ ∃ e ∈ g.ownEntries src, x = e.1 ∨ x = e.2 := by
  cases h with
  | item ht' _ _ => exact absurd ht (not_keyed_of_seq ht')
  | entry _ hdraws he hx => exact ⟨_, hdraws, _, he, hx⟩
  | pair ht' _ _ _ _ _ => exact absurd ht' (not_paired_of_keyed ht)

end Graph

namespace Filling

variable {b b' : Builder} {id : Nat} {m : Made}

/-- What is known after a turn was known before, or is what nodes say that merges may have
    changed. -/
theorem initial (h : Filling b id m b') (hsize : b.made.size = b.graph.size)
    (hm : b.made? id = some m) {x : Nat} {n : Made} (hn : b'.made? x = some n) :
    (∃ n0, b.made? x = some n0 ∧ n.emptied = n0.emptied) ∨
      ∃ g, Evolved everywhere b.graph g ∧ g.initial x = .ok n := by
  -- A turn compares keys, merges, makes the parts and fills the collection, in this order.
  rcases h.steps with ⟨keys, bk, g, ids, b1, filled, hkeys, hevolved, hmakes, rfl, hf⟩
  have hroomy : (bk.over g).made.size = (bk.over g).graph.size :=
    (hkeys.further hsize).size.trans (hsize.trans hevolved.size.symm)
  have hfurther := ((hkeys.further hsize).over_graph g).trans (hmakes.further hroomy)
  rcases hfurther.made id _ hm with ⟨m1, hm1, _⟩
  rw [Builder.made?_set b1 id x filled (Builder.lt_of_made hm1)] at hn
  by_cases hx : x = id
  · rw [if_pos hx] at hn
    cases hn
    exact Or.inl ⟨m, hx ▸ hm, hf⟩
  · rw [if_neg hx] at hn
    rcases hmakes.initial hroomy hn with hbefore | hi
    · rcases hkeys.initial hsize hbefore with hknown | hi
      · exact Or.inl ⟨n, hknown, rfl⟩
      · exact Or.inr ⟨b.graph, Evolved.refl _ _, hi⟩
    · exact Or.inr ⟨g, hevolved, hi⟩

/-- After its turn, all that is part of a collection has been made. -/
theorem parts (h : Filling b id m b') (hsize : b.made.size = b.graph.size)
    (hfits : m.Fits (b.graph.node id).tag) {x : Nat} (hx : b.graph.Part id x) :
    (b'.made? x).isSome := by
  cases h with
  | sequence hc hmakes => exact isSome_set id _ (hmakes.isSome hsize x (hx.of_seq hfits hc))
  | pairs hc hmakes => exact isSome_set id _ (hmakes.isSome hsize x (hx.of_pairs hfits hc))
  | keyed hk _ _ _ hkeys hflat hmakes _ =>
      rcases hx.of_keyed (Made.fits_keyed hk hfits) with ⟨src, hdraws, e, he, hx⟩
      have hroomy := (hkeys.further hsize).size.trans (hsize.trans hflat.size.symm)
      exact isSome_set id _ (hmakes.isSome hroomy x
        (mem_entryNodes.mpr ⟨e, hflat.whole src hdraws e he, hx⟩))

/-- What is part of a collection has been made after the turn of another one, or remains
    part of it. -/
theorem lasting (h : Filling b id m b') (hsize : b.made.size = b.graph.size) {y x : Nat}
    (hx : b.graph.Part y x) : (b'.made? x).isSome ∨ b'.graph.Part y x := by
  cases h with
  | sequence _ hmakes =>
      rw [Builder.graph_set, hmakes.graph]
      exact Or.inr hx
  | pairs _ hmakes =>
      rw [Builder.graph_set, hmakes.graph]
      exact Or.inr hx
  | keyed _ _ _ _ hkeys hflat hmakes _ =>
      rw [Builder.graph_set, hmakes.graph]
      have hroomy := (hkeys.further hsize).size.trans (hsize.trans hflat.size.symm)
      exact (hx.flattened hflat).symm.imp_left fun htaken =>
        isSome_set id _ (hmakes.isSome hroomy x htaken)

/-- After its turn, the keys that a mapping had before are different values. -/
theorem distinct (h : Filling b id m b') (hsize : b.made.size = b.graph.size)
    (hu : b.uniqueKeys = true) (hm : b.made? id = some m) (hk : m.isKeyed = true) :
    b'.Distinct (b.graph.ownKeys id) := by
  cases h with
  | sequence _ _ => cases hk
  | pairs _ _ => cases hk
  | @keyed _ filled keys bk b1 g _ hf hmap hcheck hkeys hflat hmakes hvalued =>
      rcases hmap with ⟨entries, hmap⟩
      have hrun : Builder.checkKeysFrom (b.node id).mark [] (b.graph.entries id) b = .ok bk := by
        rw [Graph.entries_of_content hmap]
        have hcontent : (b.node id).content = .mapping entries := hmap
        unfold Builder.checkKeys at hcheck
        rw [hu, hcontent] at hcheck
        exact hcheck
      have hcompared := checkKeysFrom_makes hrun
      have hroomy : (bk.over g).made.size = (bk.over g).graph.size :=
        (hkeys.further hsize).size.trans (hsize.trans hflat.size.symm)
      have hfirst := ((hkeys.further hsize).over_graph g).trans (hmakes.further hroomy)
      rcases hfirst.made id _ hm with ⟨m1, hm1, he⟩
      have hset := Further.set b1 hm1 (hf.trans he.symm)
      have hafter : Further bk (b1.set id filled) :=
        (((Further.refl bk).over_graph g).trans (hmakes.further hroomy)).trans hset
      constructor
      · intro k hk
        rcases List.mem_map.mp hk with ⟨e, he, rfl⟩
        rcases hvalued e ((hflat.own id trivial).subset he) with ⟨v, hv⟩
        exact ⟨v, hset.key? hv⟩
      · -- They were compared before the merge, and have not changed since.
        have hmade := hcompared.isSome hsize
        refine (checkKeysFrom_distinct hsize hrun).1.imp_of_mem
          (fun {j k} hj hk hdiffer v w hv hw => ?_)
        exact hdiffer v w (hafter.key?_of_made (hmade j hj) hv)
          (hafter.key?_of_made (hmade k hk) hw)

end Filling

/-- The invariant of a construction with merges. What was made fits what is written; what a
    collection led to as it was written has been made, or it still leads there; and if it no
    longer waits, all of this has been made, and its keys differ. -/
structure Underway (g : Graph) (b : Builder) : Prop where
  unique : b.uniqueKeys = true
  queued : Queued b
  evolved : Evolved everywhere g b.graph
  fits : ∀ id m, b.made? id = some m → m.Fits (g.node id).tag
  written : ∀ id m v, b.made? id = some m → g.written? id = some v → m = .scalar v
  lasting : ∀ id x, g.Part id x → (b.made? x).isSome ∨ b.graph.Part id x
  done : ∀ id m, b.made? id = some m → m.isScalar = false → id ∈ b.waiting ∨
    ((∀ x, g.Part id x → (b.made? x).isSome) ∧ (m.isKeyed = true → b.Distinct (g.ownKeys id)))

/-- Filling the collection that waits first keeps the invariant. -/
theorem fill_underway {g : Graph} {b b' : Builder} {id : Nat} {rest : List Nat}
    (hb : Underway g b) (hw : b.waiting = id :: rest) (h : b.popped.fill id = .ok b') :
    Underway g b' := by
  rcases fill_queued hb.queued hw h with ⟨m, hm, hcol, hfill, hfurther, hq⟩
  have hsize : b.popped.made.size = b.popped.graph.size := hb.queued.size
  have hfits := hb.evolved.fits_of_collection hcol (hb.fits id m hm)
  -- All parts of the collection were made before, or are made now.
  have hparts : ∀ x, g.Part id x → (b'.made? x).isSome := by
    intro x hx
    rcases hb.lasting id x hx with hmade | hpart
    · exact hfurther.isSome hmade
    · exact hfill.parts hsize hfits hpart
  have hpop : b.popped.waiting = rest := by simp [Builder.popped, hw]
  refine ⟨hfill.uniqueKeys.trans hb.unique, hq, hb.evolved.trans hfill.evolved, ?_, ?_, ?_, ?_⟩
  · intro x n hn
    rcases hfill.initial hsize hm hn with ⟨n0, hn0, he⟩ | ⟨g1, hg1, hi⟩
    · exact Made.fits_of_emptied he (hb.fits x n0 hn0)
    · exact (hb.evolved.trans hg1).fits (initial_fits hi)
  · intro x n v hn hv
    rcases hfill.initial hsize hm hn with ⟨n0, hn0, he⟩ | ⟨g1, hg1, hi⟩
    · rw [hb.written x n0 v hn0 hv] at he
      exact Made.emptied_eq_scalar he
    · exact initial_written (hb.evolved.trans hg1) hi hv
  · intro y x hx
    rcases hb.lasting y x hx with hmade | hpart
    · exact Or.inl (hfurther.isSome hmade)
    · exact hfill.lasting hsize hpart
  · intro y n hn hncol
    rcases hfurther.queued y n hn hncol with hmade | hwait
    · rcases Option.isSome_iff_exists.mp hmade with ⟨n0, hn0⟩
      rcases hfurther.made y n0 hn0 with ⟨n1, hn1, he⟩
      rw [hn] at hn1
      cases hn1
      have hkeyed : n.isKeyed = n0.isKeyed := Made.isKeyed_of_emptied he
      by_cases hy : y = id
      · -- The collection that was filled.
        subst hy
        have hn0' : b.made? y = some n0 := hn0
        rw [hm] at hn0'
        cases hn0'
        refine Or.inr ⟨hparts, fun hk => ?_⟩
        have hdistinct := hfill.distinct hsize hb.unique hm (hkeyed ▸ hk)
        exact hdistinct.sublist ((hb.evolved.ownEntries_sublist trivial).map Prod.fst)
      · rcases hb.done y n0 hn0 ((Made.isScalar_of_emptied he) ▸ hncol) with hwait | ⟨hall, hdiffer⟩
        · rw [hw] at hwait
          rcases List.mem_cons.mp hwait with heq | hrest
          · exact absurd heq hy
          · exact Or.inl (hfurther.mem_waiting (hpop ▸ hrest))
        · refine Or.inr ⟨fun x hx => hfurther.isSome (hall x hx), fun hk => ?_⟩
          have hbefore := hdiffer (hkeyed ▸ hk)
          have hdistinct : b.popped.Distinct (g.ownKeys y) := ⟨hbefore.valued, hbefore.differ⟩
          exact hdistinct.further hfurther
    · exact Or.inl hwait

/-- New collections were not made before, so together there is no more left to do. -/
theorem Further.left {b b' : Builder} (h : Further b b') : b'.left ≤ b.left := by
  rcases h.waiting with ⟨new, hwait, hnodup, hnew⟩
  have hsub : b'.unmade ∪ new.toFinset ⊆ b.unmade := by
    intro x hx
    rcases Finset.mem_union.mp hx with hx | hx
    · simp only [Builder.unmade, Finset.mem_filter, Finset.mem_range] at hx ⊢
      exact ⟨h.size ▸ hx.1, h.none_of_none hx.2⟩
    · rcases hnew x (List.mem_toFinset.mp hx) with ⟨hnone, m, hm, _⟩
      simp only [Builder.unmade, Finset.mem_filter, Finset.mem_range]
      exact ⟨h.size ▸ Builder.lt_of_made hm, hnone⟩
  -- What is new waits to be filled, so it is made and no longer counts as unmade.
  have hdisjoint : Disjoint b'.unmade new.toFinset := by
    refine Finset.disjoint_left.mpr (fun x hx hmem => ?_)
    rcases (hnew x (List.mem_toFinset.mp hmem)).2 with ⟨m, hm, _⟩
    simp only [Builder.unmade, Finset.mem_filter, hm] at hx
    cases hx.2
  have hcard := Finset.card_le_card hsub
  rw [Finset.card_union_of_disjoint hdisjoint, List.toFinset_card_of_nodup hnodup] at hcard
  unfold Builder.left
  rw [hwait, List.length_append]
  omega

/-- A construction keeps the invariant and ends with nothing that waits, if its fuel covers
    what is left to do. -/
theorem fillAll_underway {g : Graph} {fuel : Nat} {b b' : Builder} (hb : Underway g b)
    (hfuel : b.left ≤ fuel) (h : b.fillAll fuel = .ok b') :
    Underway g b' ∧ b'.waiting = [] ∧ ∀ x, (b.made? x).isSome → (b'.made? x).isSome := by
  induction fuel generalizing b with
  | zero =>
      have hnone : b.waiting.length = 0 := by
        unfold Builder.left at hfuel
        omega
      cases h
      exact ⟨hb, List.length_eq_zero_iff.mp hnone, fun x hx => hx⟩
  | succ n ih =>
      cases hw : b.waiting with
      | nil =>
          simp only [Builder.fillAll, hw] at h
          cases h
          exact ⟨hb, hw, fun x hx => hx⟩
      | cons id rest =>
          rw [fillAll_cons n id rest b hw] at h
          rcases bind_eq_ok.mp h with ⟨b1, hfill, hrest⟩
          rcases fill_queued hb.queued hw hfill with ⟨_, _, _, _, hfurther, _⟩
          -- It was taken off, and what comes to wait was not made before.
          have hpop : b.popped.left + 1 = b.left := by
            simp only [Builder.left, Builder.popped, hw, List.drop_one, List.tail_cons,
              List.length_cons]
            rfl
          have hless := hfurther.left
          rcases ih (fill_underway hb hw hfill) (by omega) hrest with ⟨hb', hempty, hknown⟩
          exact ⟨hb', hempty, fun x hx => hknown x (hfurther.isSome hx)⟩

/-- When nothing waits, everything that is constructed has been made. -/
theorem built_made {g : Graph} {root id : Nat} {b : Builder} (hb : Underway g b)
    (hw : b.waiting = []) (hroot : (b.made? root).isSome) (hid : g.Built root id) :
    (b.made? id).isSome := by
  induction hid with
  | refl => exact hroot
  | @tail y x _ hpart ih =>
      rcases Option.isSome_iff_exists.mp ih with ⟨m, hm⟩
      cases hcol : m.isScalar with
      | false =>
          rcases hb.done y m hm hcol with hwait | ⟨hall, _⟩
          · rw [hw] at hwait
            exact absurd hwait (List.not_mem_nil)
          · exact hall x hpart
      | true =>
          -- What has no parts was made of a node that has none.
          have hfits := hb.fits y m hm
          cases m with
          | scalar v =>
              simp only [Made.Fits, List.mem_cons, List.not_mem_nil, or_false, not_or] at hfits
              cases hpart with
              | item ht _ _ => exact absurd ht hfits.2.1
              | entry ht _ _ _ => exact absurd ht (by rintro (ht | ht) <;> simp_all)
              | pair ht _ _ _ _ _ => exact absurd ht (by rintro (ht | ht) <;> simp_all)
          | sequence items => cases hcol
          | mapping entries => cases hcol
          | set members => cases hcol
          | pairs pairs => cases hcol

/-- The construction of a document, before its value is put together. -/
def Graph.filled (g : Graph) (uniqueKeys : Bool) (root : Nat) : Except Fault Builder :=
  (Builder.blank uniqueKeys g).make root >>= fun b => b.fillAll (g.size + 1)

theorem make_underway {g : Graph} {root : Nat} {b : Builder}
    (h : (Builder.blank true g).make root = .ok b) : Underway g b := by
  have hq := blank_queued true g
  have hmakes := Makes.cons h Makes.nil
  have hgraph : b.graph = g := make_graph h
  have hfurther := make_further hq.size h
  -- At first nothing was made, so all that there is comes from the root.
  have hblank : ∀ {x m}, b.made? x = some m → g.initial x = .ok m := by
    intro x m hm
    rcases hmakes.initial hq.size hm with hbefore | hi
    · rw [Builder.made?_blank] at hbefore
      cases hbefore
    · exact hi
  refine ⟨make_uniqueKeys h, make_queued hq h, hgraph.symm ▸ Evolved.refl _ _,
    fun x m hm => initial_fits (hblank hm), fun x m v hm hv => ?_, fun x y hy => ?_,
    fun x m hm hcol => ?_⟩
  · exact initial_written (Evolved.refl everywhere g) (hblank hm) hv
  · exact Or.inr (hgraph.symm ▸ hy)
  · rcases hfurther.queued x m hm hcol with hbefore | hwait
    · rw [Builder.made?_blank] at hbefore
      cases hbefore
    · exact Or.inl hwait

/-- A text that is decoded with unique keys has a construction in which all keys that a
    mapping is written with, if the mapping is constructed, were made to values that differ
    from each other; and keys that are scalars were made to what is written. -/
theorem decode_distinct {text : String} {v : Value} {root : Nat} {g : Graph}
    (hcompose : compose text.toList = .ok (some (root, g))) (h : decode true text = .ok v) :
    ∃ b, g.filled true root = .ok b ∧ v = b.value (g.size + 1) [] root ∧
      ∀ id, g.Built root id → g.Keyed id → b.Distinct (g.ownKeys id) ∧
        ∀ k ∈ g.ownKeys id, ∀ w, g.written? k = some w → b.key? k = some w := by
  have hunfold : decode true text = g.filled true root >>= fun b =>
      .ok (b.value (g.size + 1) [] root) := by
    unfold decode Graph.filled
    rw [hcompose]
    exact (bind_assoc ((Builder.blank true g).make root) _ _).symm
  rw [hunfold] at h
  rcases bind_eq_ok.mp h with ⟨b, hfilled, hv⟩
  cases hv
  refine ⟨b, hfilled, rfl, fun id hid hkeyed => ?_⟩
  rcases bind_eq_ok.mp hfilled with ⟨b0, hmake, hfill⟩
  have hsize : (Builder.blank true g).made.size = (Builder.blank true g).graph.size :=
    (blank_queued true g).size
  have hleft : b0.left ≤ g.size + 1 :=
    Nat.le_trans (make_further hsize hmake).left (Nat.le_succ_of_le (blank_left true g))
  rcases fillAll_underway (make_underway hmake) hleft hfill with ⟨hb, hempty, hknown⟩
  have hroot : (b.made? root).isSome := hknown root
    ((Makes.cons hmake Makes.nil).isSome hsize root (List.mem_cons_self ..))
  rcases Option.isSome_iff_exists.mp (built_made hb hempty hroot hid) with ⟨m, hm⟩
  -- It was made to a collection with keys, and no longer waits.
  have hk : m.isKeyed = true := Made.isKeyed_of_fits (hb.fits id m hm) hkeyed
  rcases hb.done id m hm (Made.isScalar_of_isKeyed hk) with hwait | ⟨_, hdistinct⟩
  · rw [hempty] at hwait
    exact absurd hwait (List.not_mem_nil)
  · refine ⟨hdistinct hk, fun k hkey w hw => ?_⟩
    rcases (hdistinct hk).valued k hkey with ⟨u, hu⟩
    have hmade := key?_eq_some.mp hu
    rw [key?_eq_some, hmade, hb.written k _ w hmade hw]

/-- In the text with a key that is merged and given again, the inner mapping is constructed,
    so that its own keys differ. -/
theorem decode_distinct_overriding : ∃ root g b m, compose overriding.toList = .ok (some (root, g)) ∧
    g.filled true root = .ok b ∧ g.Built root m ∧ g.HasMerge m ∧ b.Distinct (g.ownKeys m) := by
  -- The mapping is the value of an entry of the outermost one.
  rcases exists_composed overriding (fun root g => (g.entries root).any fun e =>
      decide ((g.node root).tag = Tag.map) && decide ((g.node e.2).tag = Tag.map) &&
        (!g.isMerge e) && (g.entries e.2).any g.isMerge) (by decide +kernel)
    with ⟨root, g, hcompose, hfound⟩
  rcases isSome_iff.mp overriding_decoded.2.2.2 with ⟨v, hv⟩
  rcases decode_distinct hcompose hv with ⟨b, hfilled, _, hdistinct⟩
  simp only [List.any_eq_true, Bool.and_eq_true, decide_eq_true_eq, Bool.not_eq_true'] at hfound
  rcases hfound with ⟨e, he, ⟨⟨⟨hroot, hvalue⟩, hown⟩, e', he', hmerge⟩⟩
  have hbuilt : g.Built root e.2 := Relation.ReflTransGen.single
    (Graph.Part.entry (Or.inl hroot) Relation.ReflTransGen.refl
      (Graph.mem_notMerges.mpr ⟨he, hown⟩) (Or.inr rfl))
  exact ⟨root, g, b, e.2, hcompose, hfilled, hbuilt, ⟨e', he', hmerge⟩,
    (hdistinct e.2 hbuilt (Or.inl hvalue)).1⟩

/-- But a mapping that is only merged from can be written with a key twice, and one of the
    entries is lost. -/
theorem decode_unique_unwritten :
    ¬ ∀ text v, decode true text = .ok v → WrittenOnce text := by
  intro hall
  have hok : (decode true "<<: {a: 1, a: 2}").toOption.isSome = true := by decide +kernel
  have hnot : ¬ WrittenOnce "<<: {a: 1, a: 2}" := by decide +kernel
  rcases isSome_iff.mp hok with ⟨v, hv⟩
  exact hnot (hall _ v hv)

end Yaml

end Annals
