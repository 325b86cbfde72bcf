import Annals.Proofs.Yaml.Flattening

/-!
# Comparing the Keys of a Mapping

What it changes for one mapping that its keys must differ: nothing, if they do.

A construction that refuses equal keys makes the keys of a mapping twice over:
first all of them, to compare them, and then each before its value, as any other
construction does. So in the middle of a mapping the two constructions know
different things, and it has to be shown that this leaves no trace. `Ahead` is the
difference: one builder has made some more nodes, all of them values without
parts. Such values do not wait, and what they are depends on their node alone, so
the other builder catches up when it comes to them, and after the last entry the
two are the same.

In between, the mapping is merged into. That changes the nodes, but not what is made of
them: without a key for the value of a mapping, which may become a text on the way, a
node that is a value stays the same value. And the keys that were compared are among
those that the mapping has then.

A key that is a collection can not be compared. It is passed over, since making
the entries finds it in either construction.

## Main definitions

* `Builder.strict`: A builder that refuses equal keys.
* `Stricter`: A step of one construction, and what becomes of it if keys must differ.
* `Graph.keyValue?`: The value of a node as a key.
* `Graph.RepeatsKey`: A mapping has two keys that are the same.
* `Graph.Clash`: The same for keys that are yet to be compared.
* `Graph.ValueFree`: No key is the one for the value of a mapping.
* `Shaped`: All that was made is what its node says.
* `Ahead`: A builder that made some values before another one.

## Theorems

* `Evolved.initial`: What is made of a node at first does not depend on merges.
* `make_ahead`: The builder that is behind catches up.
* `makeEntries_ahead`: After all entries it has caught up.
* `checkKeysFrom_valued`: What comparing keys finds.
* `checkKeysFrom_makes`: Comparing keys makes nodes and does nothing else.
* `mergedEntries_strict`: The keys and values of one mapping, the merged ones included.
* `mappingEntries_strict`: The entries of one mapping.
-/

namespace Annals

namespace Yaml

/-- A node is to be a mapping or a set. -/
def Graph.Keyed (g : Graph) (id : Nat) : Prop :=
  (g.node id).tag = Tag.map ∨ (g.node id).tag = Tag.set

/-- The value of a node if entries can be found by it. -/
def Graph.keyValue? (g : Graph) (id : Nat) : Option Value :=
  match g.initial id with
  | .ok (.scalar v) => some v
  | _ => none

/-- A node lists a key after another one that is the same. -/
def Graph.RepeatsKey (g : Graph) (same : Value → Value → Bool) (id : Nat) : Prop :=
  ∃ before j k after v w, (g.entries id).map Prod.fst = before ++ k :: after ∧ j ∈ before ∧
    g.keyValue? j = some v ∧ g.keyValue? k = some w ∧ same v w = true

/-- Two keys are the same, and the second one is too long to be shown. -/
def sameLongKey (v w : Value) : Bool := v.sameKey w && w.holdsLong

/-- The builder that refuses equal keys. -/
def Builder.strict (b : Builder) : Builder := { b with uniqueKeys := true }

/-- What it changes for a step that keys must differ. If the step fails, it fails still. If
    it succeeds, it either goes on as before, and its outcome is `fine`, or it ends since a
    key `repeats`; this is named as a problem of the text unless the key is too `long`. -/
structure Stricter {α β : Type} (x : Except Fault α) (y : Except Fault β) (up : α → β)
    (fine : α → Prop) (repeats long : Prop) : Prop where
  fails : ∀ f, x = .error f → ∃ f', y = .error f'
  gives : ∀ a, x = .ok a → (y = .ok (up a) ∧ fine a) ∨
    ∃ f, y = .error f ∧ repeats ∧ ((∃ p, f = .problem p) ∨ long)

namespace Stricter

variable {α β γ δ : Type} {x : Except Fault α} {y : Except Fault β} {up : α → β}
variable {fine : α → Prop} {repeats long : Prop}

/-- A step in which no keys are compared. -/
theorem same (hy : y = x.map up) (hfine : ∀ a, x = .ok a → fine a) :
    Stricter x y up fine repeats long := by
  constructor
  · intro f hf
    exact ⟨f, by rw [hy, hf]; rfl⟩
  · intro a ha
    exact Or.inl ⟨by rw [hy, ha]; rfl, hfine a ha⟩

/-- A step that fails in any case. -/
theorem fault (hx : ∃ f, x = .error f) (hy : ∃ f, y = .error f) :
    Stricter x y up fine repeats long := by
  rcases hx with ⟨f, hf⟩
  constructor
  · exact fun _ _ => hy
  · intro a ha
    rw [hf] at ha
    cases ha

/-- One step after another one. Where the first one is refused, nothing follows. -/
theorem bind {next : α → Except Fault γ} {next' : β → Except Fault δ} {up' : γ → δ}
    {fine' : γ → Prop} {repeats' long' : Prop} (h : Stricter x y up fine repeats long)
    (hrepeats : repeats → repeats') (hlong : long → long')
    (hnext : ∀ a, x = .ok a → fine a →
      Stricter (next a) (next' (up a)) up' fine' repeats' long') :
    Stricter (x >>= next) (y >>= next') up' fine' repeats' long' := by
  cases hx : x with
  | error f =>
      rcases h.fails f hx with ⟨f', hf'⟩
      exact fault ⟨f, rfl⟩ ⟨f', by rw [hf']; rfl⟩
  | ok a =>
      rcases h.gives a hx with ⟨hy, hfine⟩ | ⟨f, hf, hrep, hwhy⟩
      · rw [hy]
        exact hnext a hx hfine
      · -- The strict one has stopped, so nothing is asked of it any more.
        rw [hf]
        refine ⟨fun _ _ => ⟨f, rfl⟩, fun c _ => Or.inr ⟨f, rfl, hrepeats hrep, ?_⟩⟩
        exact hwhy.imp_right hlong

end Stricter

/-- All that was made is what its node says. -/
structure Shaped (b : Builder) : Prop where
  size : b.made.size = b.graph.size
  shape : ∀ id m, b.made? id = some m → b.graph.initial id = .ok m.emptied

/-- A builder that made some of the nodes `ks` before another one, all of them values
    without parts. -/
structure Ahead (ks : List Nat) (b b' : Builder) : Prop where
  graph : b'.graph = b.graph
  waiting : b'.waiting = b.waiting
  size : b'.made.size = b.made.size
  same : ∀ x, b'.made? x = b.made? x ∨
    (x ∈ ks ∧ b.made? x = none ∧
      ∃ v, b'.made? x = some (.scalar v) ∧ b.graph.initial x = .ok (.scalar v))

theorem Sound.shaped {g : Graph} {root : Nat} {busy : List Nat} {b : Builder}
    (hs : Sound g root busy b) : Shaped b :=
  ⟨by rw [hs.size, hs.graph], by rw [hs.graph]; exact hs.shape⟩

theorem make_shaped {b b' : Builder} {id : Nat} (hs : Shaped b) (h : b.make id = .ok b') :
    Shaped b' := by
  rcases Builder.make_eq_ok h with ⟨_, rfl⟩ | ⟨_, m, hi, rfl⟩
  · exact hs
  constructor
  · rw [Builder.size_start, Builder.graph_start, hs.size]
  · intro x n hx
    rw [Builder.made?_start b id x m (Builder.lt_of_initial hs.size hi)] at hx
    rw [Builder.graph_start]
    by_cases hxid : x = id
    · rw [if_pos hxid] at hx
      cases hx
      rw [hxid, hi, initial_emptied hi]
    · rw [if_neg hxid] at hx
      exact hs.shape x n hx

theorem Makes.shaped {b b' : Builder} {ids : List Nat} (h : Makes b ids b') (hs : Shaped b) :
    Shaped b' := by
  induction h with
  | nil => exact hs
  | cons hmake _ ih => exact ih (make_shaped hs hmake)

/-- A node that has been made as a key has the value of its node. -/
theorem keyValue?_of_key? {b : Builder} {id : Nat} {v : Value} (hs : Shaped b)
    (h : b.key? id = some v) : b.graph.keyValue? id = some v := by
  unfold Builder.key? at h
  split at h
  · next w hm =>
      cases h
      have hshape := hs.shape id _ hm
      unfold Graph.keyValue?
      rw [hshape]
      rfl
  · cases h

/-- No key of a mapping is the one for the value of the mapping. -/
def Graph.ValueFree (g : Graph) : Prop :=
  ∀ id, ∀ e ∈ g.entries id, (g.node e.1).tag ≠ Tag.value

theorem Graph.PlainKeys.valueFree {g : Graph} (h : g.PlainKeys) : g.ValueFree :=
  fun id e he => (h id e he).2

namespace Evolved

variable {on : Nat → Prop} {g g' : Graph}

/-- Without keys for the values of mappings all tags stay. -/
theorem tag_eq (h : Evolved on g g') (hg : g.ValueFree) (x : Nat) :
    (g'.node x).tag = (g.node x).tag := by
  rcases h.tag x with hsame | ⟨⟨m, value, he⟩, hvalue, _⟩
  · exact hsame
  · exact absurd hvalue (hg m _ he)

theorem valueFree (h : Evolved on g g') (hg : g.ValueFree) : g'.ValueFree := by
  intro m e he
  rcases h.known m e he with ⟨src, hsrc⟩
  rw [h.tag_eq hg]
  exact hg src e hsrc

end Evolved

/-- A mapping without a key for its value is no text. -/
theorem Graph.text_mapping {g : Graph} (hg : g.ValueFree) {id : Nat} (h : g.IsMapping id) :
    g.text id = .error (makeFault "expected a scalar node, but found mapping" (g.node id).mark) := by
  rcases h with ⟨entries, hc⟩
  unfold text scalarText
  simp only [hc]
  rw [List.find?_eq_none.mpr ?none]
  case none =>
    intro e he hvalue
    exact hg id e (entries_of_content hc ▸ he) (beq_iff_eq.mp hvalue)

/-- What is made of a node at first depends on its tag, its text, and its place. -/
theorem initial_congr {g g' : Graph} {x : Nat} (htag : (g'.node x).tag = (g.node x).tag)
    (hmark : (g'.node x).mark = (g.node x).mark) (htext : g'.text x = g.text x)
    (hcontent : (g'.node x).content = (g.node x).content ∨ g.IsMapping x ∧ g'.IsMapping x) :
    g'.initial x = g.initial x := by
  have hmoment : g'.moment x = g.moment x := by
    unfold Graph.moment
    rw [htext]
    rcases hcontent with hc | ⟨⟨entries, hc⟩, entries', hc'⟩
    · rw [hc]
    · rw [hc, hc']
  simp only [Graph.initial, Graph.scalar, htag, hmark, htext, hmoment]

theorem text_congr {g g' : Graph} {x : Nat} (hmark : (g'.node x).mark = (g.node x).mark)
    (hcontent : (g'.node x).content = (g.node x).content) (hmap : ¬ g.IsMapping x) :
    g'.text x = g.text x := by
  unfold Graph.text scalarText
  cases hform : (g.node x).content with
  | mapping entries => exact absurd ⟨entries, hform⟩ hmap
  | scalar text => simp only [hcontent, hform]
  | sequence items => simp only [hcontent, hform, hmark]

/-- What is made of a node at first does not depend on merges. -/
theorem Evolved.initial {on : Nat → Prop} {g g' : Graph} (h : Evolved on g g')
    (hg : g.ValueFree) (x : Nat) : g'.initial x = g.initial x := by
  refine initial_congr (h.tag_eq hg x) (h.mark x) ?_ (h.content x)
  by_cases hmap : g.IsMapping x
  · rw [Graph.text_mapping hg hmap, Graph.text_mapping (h.valueFree hg) (h.isMapping.mpr hmap),
      h.mark]
  · exact text_congr (h.mark x) ((h.content x).resolve_right fun hc => hmap hc.1) hmap

/-- What was made is still what its node says after merges. -/
theorem Shaped.over {b : Builder} {g : Graph} (hs : Shaped b) {on : Nat → Prop}
    (h : Evolved on b.graph g) (hg : b.graph.ValueFree) : Shaped (b.over g) :=
  ⟨hs.size.trans h.size.symm, fun id m hm => (h.initial hg id).trans (hs.shape id m hm)⟩

theorem Ahead.over {ks : List Nat} {b b' : Builder} {g : Graph} (h : Ahead ks b b')
    {on : Nat → Prop} (hg' : Evolved on b.graph g) (hg : b.graph.ValueFree) :
    Ahead ks (b.over g) (b'.over g) := by
  refine ⟨rfl, h.waiting, h.size, fun x => ?_⟩
  rcases h.same x with hsame | ⟨hx, hnone, v, hv, hi⟩
  · exact Or.inl hsame
  · exact Or.inr ⟨hx, hnone, v, hv, (hg'.initial hg x).trans hi⟩

theorem Ahead.refl (ks : List Nat) (b : Builder) : Ahead ks b b :=
  ⟨rfl, rfl, rfl, fun _ => Or.inl rfl⟩

theorem Ahead.mono {ks more : List Nat} {b b' : Builder} (h : Ahead ks b b')
    (hsub : ∀ x ∈ ks, x ∈ more) : Ahead more b b' := by
  refine ⟨h.graph, h.waiting, h.size, fun x => ?_⟩
  rcases h.same x with hx | ⟨hx, hrest⟩
  · exact Or.inl hx
  · exact Or.inr ⟨hsub x hx, hrest⟩

theorem Ahead.trans {ks : List Nat} {b b1 b2 : Builder} (h : Ahead ks b b1)
    (h' : Ahead ks b1 b2) : Ahead ks b b2 := by
  refine ⟨h'.graph.trans h.graph, h'.waiting.trans h.waiting, h'.size.trans h.size,
    fun x => ?_⟩
  rcases h'.same x with hx' | ⟨hx', hnone, v, hv, hi⟩
  · rw [hx']
    exact h.same x
  · rcases h.same x with hx | ⟨_, _, w, hw, _⟩
    · rw [hx] at hnone
      rw [h.graph] at hi
      exact Or.inr ⟨hx', hnone, v, hv, hi⟩
    · rw [hw] at hnone
      cases hnone

/-- A builder that is ahead by nothing is the same one, apart from what it refuses. -/
theorem Ahead.eq {b b' : Builder} (h : Ahead [] b b') :
    b' = { b with uniqueKeys := b'.uniqueKeys } := by
  -- What it might be ahead by is in the list, which is empty.
  have hmade : b'.made = b.made := by
    refine Array.ext h.size (fun x hx' hx => ?_)
    rcases h.same x with hsame | ⟨hmem, _⟩
    · unfold Builder.made? at hsame
      rw [Array.getD_eq_getD_getElem?, Array.getD_eq_getD_getElem?,
        Array.getElem?_eq_getElem hx', Array.getElem?_eq_getElem hx] at hsame
      exact hsame
    · exact absurd hmem (List.not_mem_nil)
  rcases b with ⟨u, graph, made, waiting⟩
  rcases b' with ⟨u', graph', made', waiting'⟩
  have hgraph := h.graph
  have hwaiting := h.waiting
  simp only at hgraph hwaiting hmade
  rw [hgraph, hwaiting, hmade]

theorem mem_filter_ne {ks : List Nat} {x id : Nat} (hx : x ∈ ks) (hne : x ≠ id) :
    x ∈ ks.filter (· ≠ id) :=
  List.mem_filter.mpr ⟨hx, decide_eq_true hne⟩

/-- What both have made is not what the one is ahead by. -/
theorem Ahead.dropped {ks : List Nat} {b b' : Builder} {id : Nat} {m : Made}
    (h : Ahead ks b b') (hm : b.made? id = some m) :
    b'.made? id = some m ∧ Ahead (ks.filter (· ≠ id)) b b' := by
  constructor
  · rcases h.same id with hx | ⟨_, hnone, _⟩
    · rw [hx, hm]
    · rw [hm] at hnone
      cases hnone
  · refine ⟨h.graph, h.waiting, h.size, fun x => ?_⟩
    rcases h.same x with hx | ⟨hx, hnone, hrest⟩
    · exact Or.inl hx
    · refine Or.inr ⟨mem_filter_ne hx ?_, hnone, hrest⟩
      rintro rfl
      rw [hm] at hnone
      cases hnone

/-- Both builders make a node. -/
theorem Ahead.start_both {ks : List Nat} {b b' : Builder} (h : Ahead ks b b') (id : Nat)
    (m : Made) (hlt : id < b.made.size) :
    Ahead (ks.filter (· ≠ id)) (b.start id m) (b'.start id m) := by
  refine ⟨?_, ?_, ?_, fun x => ?_⟩
  · rw [Builder.graph_start, Builder.graph_start, h.graph]
  · rw [Builder.waiting_start, Builder.waiting_start, h.waiting]
  · rw [Builder.size_start, Builder.size_start, h.size]
  · rw [Builder.made?_start b id x m hlt, Builder.made?_start b' id x m (h.size.symm ▸ hlt),
      Builder.graph_start]
    by_cases hx : x = id
    · rw [if_pos hx, if_pos hx]
      exact Or.inl rfl
    · rw [if_neg hx, if_neg hx]
      rcases h.same x with hsame | ⟨hmem, hrest⟩
      · exact Or.inl hsame
      · exact Or.inr ⟨mem_filter_ne hmem hx, hrest⟩

/-- The builder that is behind makes a node that the other one knows. -/
theorem Ahead.start_behind {ks : List Nat} {b b' : Builder} (h : Ahead ks b b') {id : Nat}
    {v : Value} (hv : b'.made? id = some (.scalar v)) (hlt : id < b.made.size) :
    Ahead (ks.filter (· ≠ id)) (b.start id (.scalar v)) b' := by
  refine ⟨?_, ?_, ?_, fun x => ?_⟩
  · rw [Builder.graph_start, h.graph]
  · -- A value without parts does not wait, so the queues stay the same.
    rw [Builder.waiting_start, h.waiting]
    simp [Made.isScalar]
  · rw [Builder.size_start, h.size]
  · rw [Builder.made?_start b id x _ hlt, Builder.graph_start]
    by_cases hx : x = id
    · rw [if_pos hx, hx]
      exact Or.inl hv
    · rw [if_neg hx]
      rcases h.same x with hsame | ⟨hmem, hrest⟩
      · exact Or.inl hsame
      · exact Or.inr ⟨mem_filter_ne hmem hx, hrest⟩

/-- The builder that is behind catches up with a node that it makes. -/
theorem make_ahead {ks : List Nat} {b b' : Builder} (hs : Shaped b) (h : Ahead ks b b')
    (id : Nat) :
    (∀ b1, b.make id = .ok b1 →
      ∃ b1', b'.make id = .ok b1' ∧ Ahead (ks.filter (· ≠ id)) b1 b1') ∧
    ∀ f, b.make id = .error f → b'.make id = .error f := by
  cases hm : b.made? id with
  | some m =>
      rcases h.dropped hm with ⟨hm', hdropped⟩
      rw [Builder.make_of_made hm, Builder.make_of_made hm']
      constructor
      · intro b1 h1
        cases h1
        exact ⟨b', rfl, hdropped⟩
      · intro f hf
        cases hf
  | none =>
      rw [Builder.make_of_unmade hm]
      rcases h.same id with hsame | ⟨_, _, v, hv, hi⟩
      · -- Neither of them has made it, so both do now.
        rw [Builder.make_of_unmade (hsame.trans hm), h.graph]
        cases hi : b.graph.initial id with
        | error f => exact ⟨fun b1 h1 => (by cases h1), fun f' hf => hf⟩
        | ok m =>
            refine ⟨fun b1 h1 => ?_, fun f hf => (by cases hf)⟩
            cases h1
            exact ⟨_, rfl, h.start_both id m (Builder.lt_of_initial hs.size hi)⟩
      · -- Only the one that is ahead has made it, and this is where the other one does.
        rw [Builder.make_of_made hv, hi]
        refine ⟨fun b1 h1 => ?_, fun f hf => (by cases hf)⟩
        cases h1
        exact ⟨b', rfl, h.start_behind hv (Builder.lt_of_initial hs.size hi)⟩

namespace Builder

/-- After the last entry nothing is left by which the one builder was ahead, and a fault
    on the way is the same for both. -/
theorem makeEntries_ahead {ks : List Nat} {b b' : Builder} (hs : Shaped b) (h : Ahead ks b b')
    (start : Mark) (made : List (Value × Nat)) (entries : List (Nat × Nat))
    (hks : ∀ x ∈ ks, x ∈ entries.map Prod.fst) :
    (∀ found b1, makeEntries start made entries b = .ok (found, b1) →
      ∃ b1', makeEntries start made entries b' = .ok (found, b1') ∧ Ahead [] b1 b1') ∧
    ∀ f, makeEntries start made entries b = .error f →
      makeEntries start made entries b' = .error f := by
  induction entries generalizing b b' ks made with
  | nil =>
      have hnil : ks = [] := List.eq_nil_iff_forall_not_mem.mpr (fun x hx => by
        simpa using hks x hx)
      rw [hnil] at h
      constructor
      · intro found b1 h1
        cases h1
        exact ⟨b', rfl, h⟩
      · intro f hf
        cases hf
  | cons e rest ih =>
      rcases e with ⟨key, value⟩
      rcases make_ahead hs h key with ⟨hkey, hkeyfault⟩
      cases hmake : b.make key with
      | error f =>
          have hmake' := hkeyfault f hmake
          simp only [makeEntries, hmake, hmake', bind, Except.bind]
          exact ⟨fun _ _ h1 => (by cases h1), fun _ hf => hf⟩
      | ok b1 =>
          rcases hkey b1 hmake with ⟨b1', hmake', h1⟩
          have hs1 := make_shaped hs hmake
          -- The key itself is known to both alike, since it is no longer among `ks`.
          have hsame : b1'.key? key = b1.key? key := by
            rcases h1.same key with hx | ⟨hx, _⟩
            · unfold key?
              rw [hx]
            · simp at hx
          have hnode : b1'.node key = b1.node key := by
            unfold node
            rw [h1.graph]
          simp only [makeEntries, hmake, hmake', bind, Except.bind, hsame, hnode]
          cases hv : b1.key? key with
          | none => exact ⟨fun _ _ h2 => (by cases h2), fun _ hf => hf⟩
          | some v =>
              rcases make_ahead hs1 h1 value with ⟨hvalue, hvaluefault⟩
              simp only []
              cases hmake2 : b1.make value with
              | error f =>
                  rw [hvaluefault f hmake2]
                  exact ⟨fun _ _ h2 => (by cases h2), fun _ hf => hf⟩
              | ok b2 =>
                  rcases hvalue b2 hmake2 with ⟨b2', hmake2', h2⟩
                  rw [hmake2']
                  refine ih (make_shaped hs1 hmake2) h2 ((v, value) :: made) (fun x hx => ?_)
                  have hx1 := List.mem_of_mem_filter hx
                  have hne : x ≠ key := by
                    have hx2 := (List.mem_filter.mp hx1).2
                    simpa using hx2
                  have hmem := hks x (List.mem_of_mem_filter hx1)
                  simpa [hne] using hmem

/-- The keys of entries that could be made are values. -/
theorem makeEntries_valued {start : Mark} {made found : List (Value × Nat)}
    {entries : List (Nat × Nat)} {b b1 : Builder} (hs : Shaped b)
    (h : makeEntries start made entries b = .ok (found, b1)) :
    ∀ e ∈ entries, ∃ v, b.graph.keyValue? e.1 = some v := by
  induction entries generalizing b made with
  | nil => exact fun e he => absurd he (List.not_mem_nil)
  | cons e rest ih =>
      rcases e with ⟨key, value⟩
      rcases bind_eq_ok.mp h with ⟨b2, hkey, h⟩
      cases hv : b2.key? key with
      | none => rw [hv] at h; cases h
      | some v =>
          rw [hv] at h
          rcases bind_eq_ok.mp h with ⟨b3, hvalue, h⟩
          have hs2 := make_shaped hs hkey
          -- A key that is there was made, and so it is the value of its node.
          have hkeyvalue := keyValue?_of_key? hs2 hv
          rw [make_graph hkey] at hkeyvalue
          have hgraph : b3.graph = b.graph := by rw [make_graph hvalue, make_graph hkey]
          intro e he
          rcases List.mem_cons.mp he with rfl | he
          · exact ⟨v, hkeyvalue⟩
          · rw [← hgraph]
            exact ih (make_shaped hs2 hvalue) h e he

end Builder

/-- A key stands in a list after one that is the same, or is the same as one of the
    values `seen`. -/
def Graph.Clash (g : Graph) (same : Value → Value → Bool) (seen : List Value) (keys : List Nat) :
    Prop :=
  ∃ before k after v w, keys = before ++ k :: after ∧ g.keyValue? k = some w ∧
    same v w = true ∧ (v ∈ seen ∨ ∃ j ∈ before, g.keyValue? j = some v)

theorem clash_nil (g : Graph) (same : Value → Value → Bool) (seen : List Value) :
    ¬ g.Clash same seen [] := by
  rintro ⟨before, k, after, v, w, hkeys, _⟩
  simp at hkeys

theorem clash_cons {g : Graph} (same : Value → Value → Bool) (seen : List Value) {key : Nat}
    (keys : List Nat) {u : Value} (hu : g.keyValue? key = some u) :
    g.Clash same seen (key :: keys) ↔
      (∃ v ∈ seen, same v u = true) ∨ g.Clash same (u :: seen) keys := by
  constructor
  · rintro ⟨before, k, after, v, w, hkeys, hw, hsame, hv⟩
    -- The key that clashes is the first one, or one behind it.
    cases before with
    | nil =>
        simp only [List.nil_append, List.cons.injEq] at hkeys
        rw [← hkeys.1, hu] at hw
        cases hw
        rcases hv with hv | ⟨j, hj, _⟩
        · exact Or.inl ⟨v, hv, hsame⟩
        · exact absurd hj (List.not_mem_nil)
    | cons first before =>
        simp only [List.cons_append, List.cons.injEq] at hkeys
        refine Or.inr ⟨before, k, after, v, w, hkeys.2, hw, hsame, ?_⟩
        rcases hv with hv | ⟨j, hj, hjv⟩
        · exact Or.inl (List.mem_cons_of_mem _ hv)
        · rcases List.mem_cons.mp hj with rfl | hj
          · rw [← hkeys.1, hu] at hjv
            cases hjv
            exact Or.inl (List.mem_cons_self ..)
          · exact Or.inr ⟨j, hj, hjv⟩
  · rintro (⟨v, hv, hsame⟩ | ⟨before, k, after, v, w, hkeys, hw, hsame, hv⟩)
    · exact ⟨[], key, keys, v, u, rfl, hu, hsame, Or.inl hv⟩
    · refine ⟨key :: before, k, after, v, w, by rw [hkeys]; rfl, hw, hsame, ?_⟩
      rcases hv with hv | ⟨j, hj, hjv⟩
      · rcases List.mem_cons.mp hv with rfl | hv
        · exact Or.inr ⟨key, List.mem_cons_self .., hu⟩
        · exact Or.inl hv
      · exact Or.inr ⟨j, List.mem_cons_of_mem _ hj, hjv⟩

/-- A key for merging is no value. -/
theorem keyValue?_merge {g : Graph} {id : Nat} (h : (g.node id).tag = Tag.merge) :
    g.keyValue? id = none := by
  unfold Graph.keyValue?
  cases hi : g.initial id with
  | error f => rfl
  | ok m =>
      have htag := mem_knownTags hi
      rw [h] at htag
      exact absurd htag (by decide)

/-- A key that is no value clashes with none. -/
theorem clash_skip {g : Graph} (same : Value → Value → Bool) (seen : List Value) {key : Nat}
    (keys : List Nat) (hkey : g.keyValue? key = none) :
    g.Clash same seen (key :: keys) ↔ g.Clash same seen keys := by
  constructor
  · rintro ⟨before, k, after, v, w, hkeys, hw, hsame, hv⟩
    -- The key itself is neither of the two that clash, since it has no value.
    cases before with
    | nil =>
        simp only [List.nil_append, List.cons.injEq] at hkeys
        rw [← hkeys.1, hkey] at hw
        cases hw
    | cons first before =>
        simp only [List.cons_append, List.cons.injEq] at hkeys
        refine ⟨before, k, after, v, w, hkeys.2, hw, hsame, hv.imp_right ?_⟩
        rintro ⟨j, hj, hjv⟩
        rcases List.mem_cons.mp hj with rfl | hj
        · rw [← hkeys.1, hkey] at hjv
          cases hjv
        · exact ⟨j, hj, hjv⟩
  · rintro ⟨before, k, after, v, w, hkeys, hw, hsame, hv⟩
    refine ⟨key :: before, k, after, v, w, by rw [hkeys]; rfl, hw, hsame, hv.imp_right ?_⟩
    exact fun ⟨j, hj, hjv⟩ => ⟨j, List.mem_cons_of_mem _ hj, hjv⟩

theorem repeatsKey_iff_clash (g : Graph) (same : Value → Value → Bool) (id : Nat) :
    g.RepeatsKey same id ↔ g.Clash same [] ((g.entries id).map Prod.fst) := by
  constructor
  · rintro ⟨before, j, k, after, v, w, hkeys, hj, hv, hw, hsame⟩
    exact ⟨before, k, after, v, w, hkeys, hw, hsame, Or.inr ⟨j, hj, hv⟩⟩
  · rintro ⟨before, k, after, v, w, hkeys, hw, hsame, hv | ⟨j, hj, hv⟩⟩
    · exact absurd hv (List.not_mem_nil)
    · exact ⟨before, j, k, after, v, w, hkeys, hj, hv, hw, hsame⟩

/-- What a construction may end with on finding that a key is repeated: a problem of the
    text, or a key that cannot be shown in its wording. -/
def Refusal (g : Graph) (seen : List Value) (keys : List Nat) (f : Fault) : Prop :=
  (∃ p, f = .problem p) ∨ g.Clash sameLongKey seen keys

/-- Making a node that is a value without parts. -/
theorem make_valued {b : Builder} {key : Nat} {v : Value} (hs : Shaped b)
    (hv : b.graph.keyValue? key = some v) :
    ∃ b1, b.make key = .ok b1 ∧ Ahead [key] b b1 ∧ b1.key? key = some v := by
  have hi : b.graph.initial key = .ok (.scalar v) := by
    unfold Graph.keyValue? at hv
    split at hv
    · next w hi =>
        cases hv
        exact hi
    · cases hv
  have hlt := Builder.lt_of_initial hs.size hi
  cases hm : b.made? key with
  | some m =>
      refine ⟨b, Builder.make_of_made hm, Ahead.refl _ b, ?_⟩
      -- What was made before has the form of a value, and so it is this value.
      have hshape := hs.shape key m hm
      rw [hi] at hshape
      rw [Made.emptied_eq_scalar (Except.ok.inj hshape).symm] at hm
      unfold Builder.key?
      rw [hm]
  | none =>
      have hb : b.make key = .ok (b.start key (.scalar v)) := by
        rw [Builder.make_of_unmade hm, hi]
        rfl
      -- Nothing but this node is made, and it has no parts to be made.
      refine ⟨_, hb, ⟨rfl, rfl, ?_, fun x => ?_⟩, ?_⟩
      · exact Builder.size_start b key _
      · rw [Builder.made?_start b key x _ hlt]
        by_cases hx : x = key
        · rw [if_pos hx, hx]
          exact Or.inr ⟨List.mem_singleton_self _, hm, v, rfl, hi⟩
        · rw [if_neg hx]
          exact Or.inl rfl
      · unfold Builder.key?
        rw [Builder.made?_start b key key _ hlt, if_pos rfl]

/-- What comparing the keys of entries does, when all but those for merging are values:
    either they differ, and then some values have been made before their turn, or they
    clash. -/
theorem checkKeysFrom_valued (start : Mark) (seen : List Value) (entries : List (Nat × Nat))
    {b : Builder} (hs : Shaped b)
    (hvalued : ∀ e ∈ b.graph.notMerges entries, ∃ v, b.graph.keyValue? e.1 = some v) :
    (∃ b', Builder.checkKeysFrom start seen entries b = .ok b' ∧
      Ahead ((b.graph.notMerges entries).map Prod.fst) b b' ∧
      ¬ b.graph.Clash Value.sameKey seen (entries.map Prod.fst)) ∨
    ∃ f, Builder.checkKeysFrom start seen entries b = .error f ∧
      b.graph.Clash Value.sameKey seen (entries.map Prod.fst) ∧
      Refusal b.graph seen (entries.map Prod.fst) f := by
  induction entries generalizing b seen with
  | nil => exact Or.inl ⟨b, rfl, Ahead.refl _ b, clash_nil _ _ _⟩
  | cons e rest ih =>
      rcases e with ⟨key, value⟩
      have hcons := Graph.notMerges_cons (g := b.graph) (key, value) rest
      by_cases hmerge : b.graph.isMerge (key, value) = true
      · -- A key for merging is passed over, and clashes with none.
        rw [if_pos hmerge] at hcons
        have htag : ((b.node key).tag == Tag.merge) = true := hmerge
        have hskip := fun same => clash_skip same seen (rest.map Prod.fst)
          (keyValue?_merge (beq_iff_eq.mp htag))
        simp only [Builder.checkKeysFrom, htag, if_true, hcons, List.map_cons, hskip, Refusal]
        exact ih seen hs (fun e he => hvalued e (hcons ▸ he))
      have hmerge := Bool.eq_false_iff.mpr hmerge
      rw [hmerge, if_neg Bool.false_ne_true] at hcons
      rcases hvalued (key, value) (hcons ▸ List.mem_cons_self ..) with ⟨v, hv⟩
      rcases make_valued hs hv with ⟨b1, hmake, hahead, hkey⟩
      have hs1 := make_shaped hs hmake
      have hgraph : b1.graph = b.graph := hahead.graph
      have htag : ((b.node key).tag == Tag.merge) = false := hmerge
      have hclash := fun same => clash_cons same seen (rest.map Prod.fst) hv
      simp only [Builder.checkKeysFrom, htag, Bool.false_eq_true, if_false, hmake, bind,
        Except.bind, hkey, List.map_cons, hcons]
      by_cases hseen : seen.any (·.sameKey v)
      · -- The key is the same as one before it.
        rcases List.any_eq_true.mp hseen with ⟨w, hw, hsame⟩
        have hfound : b.graph.Clash Value.sameKey seen (key :: rest.map Prod.fst) :=
          (hclash _).mpr (Or.inl ⟨w, hw, hsame⟩)
        rw [if_pos hseen]
        by_cases hlong : v.holdsLong
        · rw [if_pos hlong]
          refine Or.inr ⟨_, rfl, hfound, Or.inr ((hclash _).mpr (Or.inl ⟨w, hw, ?_⟩))⟩
          unfold sameLongKey
          rw [hsame, hlong]
          rfl
        · rw [if_neg hlong]
          exact Or.inr ⟨_, rfl, hfound, Or.inl ⟨_, rfl⟩⟩
      · rw [if_neg hseen]
        have hno : ∀ w ∈ seen, w.sameKey v = false := by
          intro w hw
          cases hsame : w.sameKey v with
          | false => rfl
          | true => exact absurd (List.any_eq_true.mpr ⟨w, hw, hsame⟩) hseen
        have hrest := ih (v :: seen) hs1 (fun e he => by
          rw [hgraph] at he ⊢
          exact hvalued e (hcons ▸ List.mem_cons_of_mem _ he))
        rw [hgraph] at hrest
        rcases hrest with ⟨b2, hcheck, hahead2, hdiffer⟩ | ⟨f, hcheck, hfound, hrefuse⟩
        · refine Or.inl ⟨b2, hcheck, ?_, ?_⟩
          · have h1 : Ahead (key :: (b.graph.notMerges rest).map Prod.fst) b b1 :=
              hahead.mono (fun x hx => by simp_all)
            have h2 : Ahead (key :: (b.graph.notMerges rest).map Prod.fst) b1 b2 :=
              hahead2.mono (fun x hx => List.mem_cons_of_mem _ hx)
            exact h1.trans h2
          · rw [hclash]
            rintro (⟨w, hw, hsame⟩ | hfound)
            · rw [hno w hw] at hsame
              cases hsame
            · exact hdiffer hfound
        · refine Or.inr ⟨f, hcheck, (hclash _).mpr (Or.inr hfound), ?_⟩
          rcases hrefuse with hp | hlong
          · exact Or.inl hp
          · exact Or.inr ((hclash _).mpr (Or.inr hlong))

/-- What the first entry does when its key is compared with those `seen`, if all goes well. -/
theorem checkKeysFrom_cons {start : Mark} {seen : List Value} {e : Nat × Nat}
    {rest : List (Nat × Nat)} {b b' : Builder}
    (h : Builder.checkKeysFrom start seen (e :: rest) b = .ok b') :
    (b.graph.isMerge e = true ∧ Builder.checkKeysFrom start seen rest b = .ok b') ∨
    (b.graph.isMerge e = false ∧ ∃ b1, b.make e.1 = .ok b1 ∧
      ((b1.key? e.1 = none ∧ Builder.checkKeysFrom start seen rest b1 = .ok b') ∨
      ∃ v, b1.key? e.1 = some v ∧ (∀ w ∈ seen, w.sameKey v = false) ∧
        Builder.checkKeysFrom start (v :: seen) rest b1 = .ok b')) := by
  unfold Builder.checkKeysFrom at h
  split at h
  · next hmerge => exact Or.inl ⟨hmerge, h⟩
  · next hmerge =>
      rcases bind_eq_ok.mp h with ⟨b1, hmake, h⟩
      refine Or.inr ⟨Bool.eq_false_iff.mpr hmerge, b1, hmake, ?_⟩
      -- What is made of the key may be no value, and then nothing is compared with it.
      cases hv : b1.key? e.1 with
      | none =>
          simp only [hv] at h
          split at h
          · cases h
          · exact Or.inl ⟨rfl, h⟩
      | some v =>
          simp only [hv] at h
          split at h
          · split at h
            · cases h
            · cases h
          · next hany =>
              refine Or.inr ⟨v, rfl, fun w hw => ?_, h⟩
              exact Bool.eq_false_iff.mpr fun hsame =>
                hany (List.any_eq_true.mpr ⟨w, hw, hsame⟩)

/-- Comparing keys makes them, all but those for merging, and does nothing else. -/
theorem checkKeysFrom_makes {start : Mark} {seen : List Value} {entries : List (Nat × Nat)}
    {b b' : Builder} (h : Builder.checkKeysFrom start seen entries b = .ok b') :
    Makes b ((b.graph.notMerges entries).map Prod.fst) b' := by
  induction entries generalizing b seen with
  | nil =>
      cases h
      exact Makes.nil
  | cons e rest ih =>
      rcases checkKeysFrom_cons h with ⟨hmerge, hrest⟩ | ⟨hmerge, b1, hmake, hrest⟩
      · rw [Graph.notMerges_cons, if_pos hmerge]
        exact ih hrest
      · rw [Graph.notMerges_cons, hmerge, if_neg Bool.false_ne_true, List.map_cons]
        refine Makes.cons hmake ?_
        rw [← make_graph hmake]
        -- Whether or not the key has a value, the rest goes on with the same builder.
        rcases hrest with ⟨_, hrest⟩ | ⟨v, _, _, hrest⟩
        · exact ih hrest
        · exact ih hrest

theorem checkKeysFrom_shaped {start : Mark} {seen : List Value} {entries : List (Nat × Nat)}
    {b b' : Builder} (hs : Shaped b) (h : Builder.checkKeysFrom start seen entries b = .ok b') :
    Shaped b' ∧ b'.graph = b.graph :=
  ⟨(checkKeysFrom_makes h).shaped hs, (checkKeysFrom_makes h).graph⟩

namespace Builder

theorem start_strict (b : Builder) (id : Nat) (m : Made) :
    b.strict.start id m = (b.start id m).strict := by
  unfold start
  split <;> rfl

theorem make_strict (b : Builder) (id : Nat) : b.strict.make id = (b.make id).map strict := by
  have hmade : b.strict.made? id = b.made? id := rfl
  have hgraph : b.strict.graph = b.graph := rfl
  unfold make
  rw [hmade, hgraph]
  split
  · rfl
  · cases b.graph.initial id with
    | error f => rfl
    | ok m =>
        simp only [Except.map, start_strict]

theorem makeAll_strict (items : List Nat) (b : Builder) :
    makeAll items b.strict = (makeAll items b).map strict := by
  induction items generalizing b with
  | nil => rfl
  | cons id rest ih =>
      simp only [makeAll, make_strict]
      cases b.make id with
      | error f => rfl
      | ok b1 => exact ih b1

theorem makePairs_strict (context : String) (start : Mark) (items : List Nat) (b : Builder) :
    makePairs context start items b.strict
      = (makePairs context start items b).map fun r => (r.1, r.2.strict) := by
  induction items generalizing b with
  | nil => rfl
  | cons item rest ih =>
      have hnode : b.strict.node item = b.node item := rfl
      simp only [makePairs, hnode]
      split
      · next key value hc =>
          -- Neither the key nor the value of a pair is compared with others.
          rw [make_strict]
          cases b.make key with
          | error f => rfl
          | ok b1 =>
              simp only [Except.map, bind, Except.bind]
              rw [make_strict]
              cases b1.make value with
              | error f => rfl
              | ok b2 =>
                  simp only [Except.map]
                  rw [ih]
                  cases makePairs context start rest b2 with
                  | error f => rfl
                  | ok r => rfl
      · rfl
      · rfl

theorem ahead_strict (ks : List Nat) (b : Builder) : Ahead ks b b.strict :=
  ⟨rfl, rfl, rfl, fun _ => Or.inl rfl⟩

end Builder

theorem makeEntries_uniqueKeys {start : Mark} {made found : List (Value × Nat)}
    {entries : List (Nat × Nat)} {b b1 : Builder}
    (h : Builder.makeEntries start made entries b = .ok (found, b1)) :
    b1.uniqueKeys = b.uniqueKeys :=
  (Builder.makeEntries_makes h).uniqueKeys

/-- Comparing keys leaves the nodes as they are. -/
theorem checkKeys_graph {b b' : Builder} {id : Nat} (hs : Shaped b)
    (h : b.checkKeys id = .ok b') : b'.graph = b.graph := by
  -- Keys are only compared if the node is a mapping and they must differ.
  unfold Builder.checkKeys at h
  split at h
  · split at h
    · exact (checkKeysFrom_shaped hs h).2
    · split at h
      · cases h
        rfl
      · cases h
    · split at h
      · cases h
        rfl
      · cases h
  · cases h
    rfl

/-- After its keys were compared, a mapping has the same entries. -/
theorem makeEntries_checked {start : Mark} {ks : List Nat} {entries : List (Nat × Nat)}
    {b b' : Builder} (hs : Shaped b) (hahead : Ahead ks b b')
    (hks : ∀ x ∈ ks, x ∈ entries.map Prod.fst) (hu : b'.uniqueKeys = true) :
    Builder.makeEntries start [] entries b'
      = (Builder.makeEntries start [] entries b).map fun r => (r.1, r.2.strict) := by
  rcases Builder.makeEntries_ahead hs hahead start [] entries hks with ⟨hmade, hfault⟩
  cases hm : Builder.makeEntries start [] entries b with
  | error f => exact hfault f hm
  | ok r =>
      rcases hmade r.1 r.2 hm with ⟨b2, hm', hend⟩
      -- Nothing is left by which the one is ahead, so only what they refuse is different.
      have hflag : b2.uniqueKeys = true := by rw [makeEntries_uniqueKeys hm', hu]
      have heq := hend.eq
      rw [hflag] at heq
      rw [hm', heq]
      rfl

/-- Entries with a key that is a collection cannot be made. -/
theorem makeEntries_unvalued {start : Mark} {made : List (Value × Nat)}
    {entries : List (Nat × Nat)} {b : Builder} (hs : Shaped b)
    (h : ¬ ∀ e ∈ entries, ∃ v, b.graph.keyValue? e.1 = some v) :
    ∃ f, Builder.makeEntries start made entries b = .error f := by
  cases hm : Builder.makeEntries start made entries b with
  | error f => exact ⟨f, rfl⟩
  | ok r => exact absurd (Builder.makeEntries_valued hs hm) h

/-- Merges into a mapping, and makes the keys and values that it has then. -/
def Builder.mergedEntries (b : Builder) (start : Mark) (id : Nat) :
    Except Fault (List (Value × Nat) × Builder) :=
  b.flatten id >>= fun b1 => Builder.makeEntries start [] (b1.graph.entries id) b1

/-- After its keys were compared, a mapping has the same entries, the merged ones
    included. Those compared are all among them. -/
theorem mergedEntries_checked {b b' : Builder} {id : Nat} (start : Mark) (hs : Shaped b)
    (hg : b.graph.ValueFree)
    (hahead : Ahead ((b.graph.ownEntries id).map Prod.fst) b b') (hu : b'.uniqueKeys = true) :
    b'.mergedEntries start id = (b.mergedEntries start id).map fun r => (r.1, r.2.strict) := by
  unfold Builder.mergedEntries
  rw [flatten_over id hahead.graph]
  cases hflat : b.flatten id with
  | error f => rfl
  | ok b1 =>
      rcases flatten_flattened hflat with ⟨hb1, hf⟩
      have hs1 : Shaped (b.over b1.graph) := hs.over hf.toEvolved hg
      have hahead1 := hahead.over hf.toEvolved hg
      -- What was made ahead are keys of the mapping, and merging has left them there.
      have hks : ∀ x ∈ (b.graph.ownEntries id).map Prod.fst,
          x ∈ (b1.graph.entries id).map Prod.fst := fun x hx =>
        ((hf.own id trivial).map Prod.fst).subset hx
      rw [hb1]
      exact makeEntries_checked hs1 hahead1 hks hu

/-- A mapping with a key of its own that is a collection has no entries that could be made. -/
theorem mergedEntries_unvalued {b : Builder} {id : Nat} (start : Mark) (hs : Shaped b)
    (hg : b.graph.ValueFree)
    (h : ¬ ∀ e ∈ b.graph.ownEntries id, ∃ v, b.graph.keyValue? e.1 = some v) :
    ∃ f, b.mergedEntries start id = .error f := by
  unfold Builder.mergedEntries
  cases hflat : b.flatten id with
  | error f => exact ⟨f, rfl⟩
  | ok b1 =>
      rcases flatten_flattened hflat with ⟨hb1, hf⟩
      have hs1 : Shaped b1 := hb1 ▸ hs.over hf.toEvolved hg
      refine makeEntries_unvalued hs1 (fun hall => h (fun e he => ?_))
      have hkey := hall e ((hf.own id trivial).subset he)
      unfold Graph.keyValue? at hkey ⊢
      rw [hf.initial hg] at hkey
      exact hkey

/-- What it changes for the keys and values of a mapping that its keys must differ. -/
theorem mergedEntries_strict {b : Builder} (id : Nat) (start : Mark) (hs : Shaped b)
    (hg : b.graph.ValueFree) :
    Stricter (b.mergedEntries start id)
      (Builder.checkKeysFrom start [] (b.graph.entries id) b.strict >>= fun b' =>
        b'.mergedEntries start id)
      (fun r => (r.1, r.2.strict)) (fun _ => ¬ b.graph.RepeatsKey Value.sameKey id)
      (b.graph.RepeatsKey Value.sameKey id) (b.graph.RepeatsKey sameLongKey id) := by
  have hstrict : Shaped b.strict := ⟨hs.size, hs.shape⟩
  by_cases hvalued : ∀ e ∈ b.graph.ownEntries id, ∃ v, b.graph.keyValue? e.1 = some v
  · have hspec := checkKeysFrom_valued start [] (b.graph.entries id) hstrict hvalued
    have hgraph : b.strict.graph = b.graph := rfl
    simp only [hgraph, Refusal, ← repeatsKey_iff_clash] at hspec
    rcases hspec with ⟨b', hok, hahead, hdiffer⟩ | ⟨f, hfault, hrepeats, hwhy⟩
    · -- The keys differ, and comparing them leaves no trace.
      rw [hok]
      have hahead' := (Builder.ahead_strict _ b).trans hahead
      have hu := (checkKeysFrom_makes hok).uniqueKeys
      exact Stricter.same (mergedEntries_checked start hs hg hahead' hu) (fun _ _ => hdiffer)
    · rw [hfault]
      exact ⟨fun _ _ => ⟨f, rfl⟩, fun r _ => Or.inr ⟨f, rfl, hrepeats, hwhy⟩⟩
  · -- A key that is a collection is found by either construction, if nothing before it is.
    refine Stricter.fault (mergedEntries_unvalued start hs hg hvalued) ?_
    cases hk : Builder.checkKeysFrom start [] (b.graph.entries id) b.strict with
    | error f => exact ⟨f, rfl⟩
    | ok b' =>
        rcases checkKeysFrom_shaped hstrict hk with ⟨hs', hg'⟩
        exact mergedEntries_unvalued start hs' (by rw [hg']; exact hg) (by rw [hg']; exact hvalued)

/-- The entries of a mapping, in steps: its keys are compared, and it is merged into. -/
theorem mappingEntries_eq (b : Builder) (id : Nat)
    (hgraph : ∀ b', b.checkKeys id = .ok b' → b'.graph = b.graph) :
    b.mappingEntries id = b.checkKeys id >>= fun b' =>
      match (b.node id).content with
      | .mapping _ => b'.mergedEntries (b.node id).mark id >>=
          fun r => .ok (Builder.settled r.1, r.2)
      | content => .error (makeFault ("expected a mapping node, but found " ++ content.form)
          (b.node id).mark) := by
  unfold Builder.mappingEntries
  cases hc : b.checkKeys id with
  | error f => rfl
  | ok b' =>
      -- Comparing the keys leaves the graph as it is.
      have hnode : b'.node id = b.node id := by
        unfold Builder.node
        rw [hgraph b' hc]
      simp only [bind, Except.bind, hnode, Builder.mergedEntries]
      cases (b.node id).content with
      | scalar text => rfl
      | sequence items => rfl
      | mapping entries =>
          simp only []
          cases b'.flatten id with
          | error f => rfl
          | ok b1 => rfl

/-- What it changes for one mapping that its keys must differ. -/
theorem mappingEntries_strict {b : Builder} (id : Nat) (hs : Shaped b) (hg : b.graph.ValueFree)
    (hu : b.uniqueKeys = false) :
    Stricter (b.mappingEntries id) (b.strict.mappingEntries id) (fun r => (r.1, r.2.strict))
      (fun _ => ¬ b.graph.RepeatsKey Value.sameKey id)
      (b.graph.RepeatsKey Value.sameKey id) (b.graph.RepeatsKey sameLongKey id) := by
  have hstrict : Shaped b.strict := ⟨hs.size, hs.shape⟩
  have hplain : b.checkKeys id = .ok b := by
    unfold Builder.checkKeys
    rw [hu]
    rfl
  have hleft := mappingEntries_eq b id (fun b' h => checkKeys_graph hs h)
  have hright := mappingEntries_eq b.strict id (fun b' h => checkKeys_graph hstrict h)
  have hnode : b.strict.node id = b.node id := rfl
  rw [hplain] at hleft
  rw [hnode] at hright
  rw [hleft, hright]
  cases hc : (b.node id).content with
  | mapping entries =>
      have hentries : b.graph.entries id = entries := Graph.entries_of_content hc
      have hcheck : b.strict.checkKeys id
          = Builder.checkKeysFrom (b.node id).mark [] (b.graph.entries id) b.strict := by
        have hcontent : (b.strict.node id).content = .mapping entries := hc
        unfold Builder.checkKeys
        rw [hcontent, hentries]
        rfl
      have hmade := mergedEntries_strict id (b.node id).mark hs hg
      rw [hcheck]
      simp only []
      -- The keys are compared and then merged, which is stricter; what is done with the entries is
      -- the same.
      rw [← bind_assoc (Builder.checkKeysFrom _ _ _ _)]
      refine hmade.bind (fun h => h) (fun h => h) (fun r _ h => ?_)
      exact Stricter.same rfl (fun _ _ => h)
  -- What is no mapping fails either way, be it now or when the keys are compared.
  | scalar text =>
      refine Stricter.fault ⟨_, rfl⟩ ?_
      cases b.strict.checkKeys id with
      | error f => exact ⟨f, rfl⟩
      | ok b' => exact ⟨_, rfl⟩
  | sequence items =>
      refine Stricter.fault ⟨_, rfl⟩ ?_
      cases b.strict.checkKeys id with
      | error f => exact ⟨f, rfl⟩
      | ok b' => exact ⟨_, rfl⟩

end Yaml

end Annals
