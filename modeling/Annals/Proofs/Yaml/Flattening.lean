import Annals.Proofs.Yaml.Merging

/-!
# Merging Entry by Entry

That merging into a mapping flattens it.

This needs an argument because of circles. A mapping that is being merged into has
lost some of its keys for merging already, so what it would draw on by these is not
found by way of it. What is found from a source is all that can be drawn on without
coming back, `Apart` from the mapping. That is enough, for a way that does come back
begins anew there, with an entry for merging that has its own turn.

The sources are merged into one after another, and each changes the nodes for those
that follow. `Gathering` is the invariant: whatever a source leads to apart from the
mapping is gathered, or can be reached as before. The mapping itself may be merged into
on the way, so of its entries only those in front of which the gathered ones are put
are known.

## Main definitions

* `Gathered`: All that a source leads to has been taken.
* `Gathering`: The invariant of merging into a mapping.
* `Progress`: How far merging into a mapping has come.
* `Builder.over`: A builder with other nodes.

## Theorems

* `Gathering.flattened`: A source that is merged into first is gathered.
* `Progress.take`: An entry for merging is done with when its sources are gathered.
* `flattenFrom_flattened`: Merging into a mapping, entry by entry.
* `flatten_flattened`: Merging into a mapping flattens it.
* `flatten_over`: Merging looks at nothing but the nodes.
-/

namespace Annals

namespace Yaml

/-- All that a source leads to apart from `id` has been gathered. -/
def Gathered (g : Graph) (id x : Nat) (merged : List (Nat × Nat)) : Prop :=
  ∀ src, g.Apart id x src → src ≠ id → ∀ e ∈ g.ownEntries src, e ∈ merged

/-- The invariant of merging into mapping `id`. The mapping has the entries of `list`, or
    was merged into meanwhile; `merged` are the entries gathered so far; and what a source
    leads to apart from `id` is among these or can be reached as before. -/
structure Gathering (g : Graph) (id : Nat) (list merged : List (Nat × Nat)) (g' : Graph) :
    Prop where
  evolved : Evolved (· ≠ id) g g'
  drawn : ∀ m, g'.entries m ≠ g.entries m → g.Draws id m
  listed : list.Sublist (g.entries id)
  here : g'.entries id = list ∨
    (¬ g'.HasMerge id ∧ (g.notMerges list).Sublist (g'.entries id))
  known : ∀ e ∈ merged, ∃ src, e ∈ g.entries src
  clean : ∀ e ∈ merged, g.isMerge e = false
  ways : ∀ x src, g.Apart id x src → src ≠ id → (∀ e ∈ g.ownEntries src, e ∈ merged) ∨
    (g'.entries src = g.entries src ∧ g'.Apart id x src)

namespace Gathering

variable {g g1 g2 : Graph} {id : Nat} {list merged : List (Nat × Nat)}

/-- Nothing is gathered yet. -/
theorem start (g : Graph) (id : Nat) : Gathering g id (g.entries id) [] g where
  evolved := Evolved.refl _ g
  drawn _ hne := absurd rfl hne
  listed := List.Sublist.refl _
  here := Or.inl rfl
  known _ he := absurd he (List.not_mem_nil)
  clean _ he := absurd he (List.not_mem_nil)
  ways _ _ hway _ := Or.inr ⟨rfl, hway⟩

/-- It does not matter in which order entries were gathered. -/
theorem congr (h : Gathering g id list merged g1) {merged' : List (Nat × Nat)}
    (hsame : ∀ e, e ∈ merged' ↔ e ∈ merged) : Gathering g id list merged' g1 :=
  { h with
    known := fun e he => h.known e ((hsame e).mp he)
    clean := fun e he => h.clean e ((hsame e).mp he)
    ways := fun x src hway hne => (h.ways x src hway hne).imp_left
      fun hall e he => (hsame e).mpr (hall e he) }

/-- No mapping is merged into another one that was not before. -/
theorem merges (h : Gathering g id list merged g1) {m x : Nat} (hx : g1.Merges m x) :
    g.Merges m x := by
  by_cases hm : m = id
  · subst hm
    rcases hx with ⟨e, he, hmerge, hx⟩
    rcases h.here with hlist | ⟨hnone, _⟩
    · rw [h.evolved.isMerge] at hmerge
      rw [h.evolved.sources] at hx
      exact ⟨e, h.listed.subset (hlist ▸ he), hmerge, hx⟩
    · exact absurd ⟨e, he, hmerge⟩ hnone
  · exact h.evolved.merges hm hx

/-- A source is merged into first, and its entries are taken. All that it leads to is
    gathered by this, and what other sources lead to was taken along or left alone. -/
theorem flattened {x : Nat} (h : Gathering g id list merged g1) (hx : g.Merges id x)
    (hf : Flattened g1 x g2) :
    Gathering g id list (merged ++ g2.entries x) g2 ∧ Gathered g id x (merged ++ g2.entries x) := by
  have hmore : ∀ e ∈ merged, e ∈ merged ++ g2.entries x := fun e he =>
    List.mem_append.mpr (Or.inl he)
  have hevolved := h.evolved.trans hf.toEvolved
  -- What `x` draws on now has its own entries among those taken.
  have htaken : ∀ src, g1.entries src = g.entries src → g1.Draws x src →
      ∀ e ∈ g.ownEntries src, e ∈ merged ++ g2.entries x := by
    intro src hsame hdraws e he
    rw [← h.evolved.ownEntries hsame] at he
    exact List.mem_append.mpr (Or.inr (hf.whole src hdraws e he))
  constructor
  · refine ⟨hevolved, ?_, h.listed, ?_, ?_, ?_, ?_⟩
    · intro m hne
      by_cases hsame : g1.entries m = g.entries m
      · -- It has changed just now, so `x` draws on it, and `id` on `x`.
        have hdraws : g1.Draws x m := hf.drawn m (hsame ▸ hne)
        have hdraws' : g.Draws x m :=
          Relation.ReflTransGen.mono (fun _ _ hstep => h.merges hstep) _ _ hdraws
        exact Relation.ReflTransGen.head hx hdraws'
      · exact h.drawn m hsame
    · rcases hf.flat id trivial with hsame | ⟨hhas, hnone⟩
      · rw [hsame, hf.hasMerge hsame]
        exact h.here
      · -- It was merged into on the way, so it still had the entries of the list.
        rcases h.here with hlist | ⟨hno, _⟩
        · have hown := hf.own id trivial
          unfold Graph.ownEntries at hown
          rw [hlist, h.evolved.notMerges] at hown
          exact Or.inr ⟨hnone, hown⟩
        · exact absurd hhas hno
    · intro e he
      rcases List.mem_append.mp he with he | he
      · exact h.known e he
      · exact hevolved.known x e he
    · intro e he
      rcases List.mem_append.mp he with he | he
      · exact h.clean e he
      · rw [← hevolved.isMerge]
        exact Bool.eq_false_iff.mpr (fun hmerge => hf.clean ⟨e, he, hmerge⟩)
    · -- What any source leads to and is not gathered yet can be reached as before, so
      -- `x` draws on it as well, or it was left alone.
      intro y src hway hne
      rcases h.ways y src hway hne with hall | ⟨hsame, hway1⟩
      · exact Or.inl (fun e he => hmore e (hall e he))
      · rcases hf.draws hway1 with hdraws | ⟨hsame', hway2⟩
        · exact Or.inl (htaken src hsame hdraws)
        · exact Or.inr ⟨hsame'.trans hsame, hway2⟩
  · intro src hway hne
    rcases h.ways x src hway hne with hall | ⟨hsame, hway1⟩
    · exact fun e he => hmore e (hall e he)
    · exact htaken src hsame hway1.draws

/-- An entry for merging is taken away, or a key is changed into a text. -/
theorem edited {list' : List (Nat × Nat)} (h : Gathering g id list merged g1)
    (hedit : Edited g id g1 g2) (hlist : list'.Sublist list)
    (hhere : g2.entries id = list' ∨ list' = list ∧ g2.entries id = g1.entries id) :
    Gathering g id list' merged g2 := by
  have hsub := hlist.trans h.listed
  refine ⟨hedit.evolved h.evolved ?_, ?_, hsub, ?_, h.known, h.clean, ?_⟩
  · intro e he
    rcases hhere with hlist' | ⟨_, hsame⟩
    · exact ⟨id, hsub.subset (hlist' ▸ he)⟩
    · exact h.evolved.known id e (hsame ▸ he)
  · intro m hne
    by_cases hm : m = id
    · rw [hm]
      exact Relation.ReflTransGen.refl
    · exact h.drawn m (hedit.entries hm ▸ hne)
  · -- If the entries are as they were, so is whether one of them merges.
    rcases hhere with hlist' | ⟨rfl, hsame⟩
    · exact Or.inl hlist'
    · rw [hsame, hedit.hasMerge hsame]
      exact h.here
  · -- A way through other mappings is not touched by the edit of this one.
    intro x src hway hne
    rcases h.ways x src hway hne with hall | ⟨hsame, hway1⟩
    · exact Or.inl hall
    · refine Or.inr ⟨(hedit.entries hne).trans hsame, Relation.ReflTransGen.mono ?_ _ _ hway1⟩
      rintro m n ⟨hm, e, he, hmerge, hn⟩
      exact ⟨hm, e, (hedit.entries hm).symm ▸ he, (hedit.isMerge e).trans hmerge,
        (hedit.sources e.2).symm ▸ hn⟩

/-- When all sources are gathered and put in front of the own entries, the mapping is
    flattened. -/
theorem finish (h : Gathering g id list merged g1) (hedit : Edited g id g1 g2)
    (hall : ∀ x, g.Merges id x → Gathered g id x merged)
    (hmerged : ∀ e ∈ merged, e ∈ g2.entries id)
    (hown : (g.ownEntries id).Sublist (g2.entries id)) (hclean : ¬ g2.HasMerge id)
    (hknown : ∀ e ∈ g2.entries id, ∃ src, e ∈ g.entries src)
    (hfresh : g.HasMerge id ∨ g2.entries id = g.entries id) : Flattened g id g2 := by
  have hevolved := hedit.evolved h.evolved hknown
  refine ⟨{ hevolved with own := fun m _ => ?_, flat := fun m _ => ?_ }, ?_, hclean, ?_⟩
  · by_cases hm : m = id
    · exact hm ▸ hown
    · exact hevolved.own m hm
  · by_cases hm : m = id
    · rw [hm]
      exact hfresh.symm.imp_right fun hhas => ⟨hhas, hclean⟩
    · exact hevolved.flat m hm
  · intro m hne
    by_cases hm : m = id
    · rw [hm]
      exact Relation.ReflTransGen.refl
    · exact h.drawn m (hedit.entries hm ▸ hne)
  · -- What is drawn in is the mapping itself, or was gathered from one of its sources.
    intro src hdraws e he
    by_cases hsrc : src = id
    · exact hown.subset (hsrc ▸ he)
    · rcases (Graph.draws_iff.mp hdraws).resolve_left hsrc with ⟨x, hx, hway⟩
      exact hmerged e (hall x hx src hway hsrc e he)

end Gathering

/-- The builder with other nodes. -/
def Builder.over (b : Builder) (g : Graph) : Builder := { b with graph := g }

/-- A way to merge into mappings flattens them and touches nothing but the nodes. -/
def Flattens (merge : Nat → Builder → Except Fault Builder) : Prop :=
  ∀ x b b', merge x b = .ok b' → b' = b.over b'.graph ∧ Flattened b.graph x b'.graph

theorem mergedItems_gathering {merge : Nat → Builder → Except Fault Builder}
    (hmerge : Flattens merge) {g : Graph} {id : Nat} {list merged more : List (Nat × Nat)}
    {items : List Nat} {b b' : Builder} (h : Gathering g id list merged b.graph)
    (hitems : ∀ x ∈ items, g.Merges id x)
    (hrun : Builder.mergedItems merge id items b = .ok (more, b')) :
    b' = b.over b'.graph ∧ Gathering g id list (merged ++ more) b'.graph ∧
      ∀ x ∈ items, Gathered g id x (merged ++ more) := by
  induction items generalizing b merged more with
  | nil =>
      cases hrun
      exact ⟨rfl, by rw [List.append_nil]; exact h, fun x hx => absurd hx (List.not_mem_nil)⟩
  | cons x rest ih =>
      simp only [Builder.mergedItems] at hrun
      split at hrun
      · rcases bind_eq_ok.mp hrun with ⟨b1, hrun1, hrun⟩
        rcases bind_eq_ok.mp hrun with ⟨⟨others, b2⟩, hrest, hrun⟩
        cases hrun
        rcases hmerge x b b1 hrun1 with ⟨hb1, hf⟩
        rcases h.flattened (hitems x (List.mem_cons_self ..)) hf with ⟨h1, hx⟩
        rcases ih h1 (fun y hy => hitems y (List.mem_cons_of_mem _ hy)) hrest with
          ⟨hb2, h2, hothers⟩
        -- Of several sources the first has precedence, and so its entries come last.
        have hsame : ∀ e, e ∈ merged ++ (others ++ b1.graph.entries x) ↔
            e ∈ merged ++ b1.graph.entries x ++ others := by
          intro e
          simp only [List.mem_append]
          tauto
        refine ⟨by rw [hb2, hb1]; rfl, h2.congr hsame, fun y hy src hway hne e he => ?_⟩
        rw [hsame]
        rcases List.mem_cons.mp hy with rfl | hy
        · exact List.mem_append.mpr (Or.inl (hx src hway hne e he))
        · exact hothers y hy src hway hne e he
      · cases hrun

/-- How far merging into mapping `id` has come: the entries `done` were looked at, and what
    the sources among them lead to is gathered. -/
structure Progress (g : Graph) (id : Nat) (done rest merged : List (Nat × Nat)) (g1 : Graph) :
    Prop where
  split : g.entries id = done ++ rest
  gathering : Gathering g id (g.notMerges done ++ rest) merged g1
  gathered : ∀ e ∈ done, g.isMerge e = true → ∀ x ∈ g.sources e.2, Gathered g id x merged
  fresh : g.HasMerge id ∨ (merged = [] ∧ g1.entries id = g.entries id)

theorem Progress.start (g : Graph) (id : Nat) : Progress g id [] (g.entries id) [] g where
  split := rfl
  gathering := Gathering.start g id
  gathered _ he := absurd he (List.not_mem_nil)
  fresh := Or.inr ⟨rfl, rfl⟩

namespace Progress

variable {g g1 : Graph} {id key value : Nat} {done rest merged : List (Nat × Nat)}

theorem mem (h : Progress g id done ((key, value) :: rest) merged g1) :
    (key, value) ∈ g.entries id := by
  rw [h.split]
  simp

theorem notMerges (g : Graph) (done : List (Nat × Nat)) (e : Nat × Nat) : g.notMerges (done ++ [e])
    = if g.isMerge e then g.notMerges done else g.notMerges done ++ [e] := by
  rw [Graph.notMerges_append, Graph.notMerges_cons, Graph.notMerges_nil]
  split
  · rw [List.append_nil]
  · rfl

/-- An entry for merging is taken away, and what is behind it is gathered. -/
theorem take {merge : Nat → Builder → Except Fault Builder} (hmerge : Flattens merge)
    {b b1 : Builder} {more : List (Nat × Nat)}
    (h : Progress g id done ((key, value) :: rest) merged b.graph)
    (hkey : g.isMerge (key, value) = true)
    (hitems : Builder.mergedItems merge id
      ((b.setEntries id (g.notMerges done ++ rest)).graph.sources value)
      (b.setEntries id (g.notMerges done ++ rest)) = .ok (more, b1)) :
    b1 = b.over b1.graph ∧
      Progress g id (done ++ [(key, value)]) rest (merged ++ more) b1.graph := by
  have hevolved := h.gathering.evolved
  have hmap := hevolved.isMapping.mpr (Graph.isMapping_of_entry h.mem)
  have hlt : id < b.graph.size := hevolved.size.symm ▸ Graph.lt_of_entry h.mem
  rcases Edited.setContent g hmap hlt (g.notMerges done ++ rest) with ⟨hedit, hentries⟩
  have h0 : Gathering g id (g.notMerges done ++ rest) merged
      (b.setEntries id (g.notMerges done ++ rest)).graph :=
    h.gathering.edited hedit (by simp) (Or.inl hentries)
  have hsources : (b.setEntries id (g.notMerges done ++ rest)).graph.sources value
      = g.sources value := h0.evolved.sources value
  rw [hsources] at hitems
  -- What the entry names was named before it was taken away.
  rcases mergedItems_gathering hmerge h0 (fun x hx => ⟨_, h.mem, hkey, hx⟩) hitems with
    ⟨hb1, h1, hnew⟩
  refine ⟨by rw [hb1]; rfl, by rw [h.split]; simp, ?_, ?_, Or.inl ⟨_, h.mem, hkey⟩⟩
  · rw [notMerges, if_pos hkey]
    exact h1
  · intro e he hem x hx
    -- What was gathered before stays, and the sources of this entry come behind it.
    rcases List.mem_append.mp he with he | he
    · exact fun src hway hne e' he' =>
        List.mem_append.mpr (Or.inl (h.gathered e he hem x hx src hway hne e' he'))
    · rw [List.mem_singleton.mp he] at hx
      exact hnew x hx

/-- An entry of the mapping's own stays. -/
theorem keep {e : Nat × Nat} (h : Progress g id done (e :: rest) merged g1)
    (hkey : ¬ g.isMerge e = true) : Progress g id (done ++ [e]) rest merged g1 := by
  refine ⟨by rw [h.split]; simp, ?_, fun e' he' hem => ?_, h.fresh⟩
  · rw [notMerges, if_neg hkey, List.append_assoc]
    exact h.gathering
  · rcases List.mem_append.mp he' with he' | he'
    · exact h.gathered e' he' hem
    · exact absurd (List.mem_singleton.mp he' ▸ hem) hkey

/-- The key for the value of the mapping becomes a text. -/
theorem setTag (h : Progress g id done ((key, value) :: rest) merged g1)
    (hvalue : (g1.node key).tag = Tag.value) :
    Progress g id done ((key, value) :: rest) merged (g1.setTag key Tag.str) := by
  rcases Edited.setTag id ⟨id, value, h.mem⟩ hvalue with ⟨hedit, hentries⟩
  exact { h with
    gathering := h.gathering.edited hedit (List.Sublist.refl _) (Or.inr ⟨rfl, hentries⟩)
    fresh := h.fresh.imp_right fun hsame => ⟨hsame.1, hentries.trans hsame.2⟩ }

/-- After the last entry, all sources are gathered. -/
theorem gathered_all (h : Progress g id done [] merged g1) (x : Nat) (hx : g.Merges id x) :
    Gathered g id x merged := by
  rcases hx with ⟨e, he, hmerge, hx⟩
  rw [h.split, List.append_nil] at he
  exact h.gathered e he hmerge x hx

theorem notMerges_done (h : Progress g id done [] merged g1) :
    g.notMerges done = g.ownEntries id := by
  unfold Graph.ownEntries
  rw [h.split, List.append_nil]

end Progress

/-- What an entry for merging does, be there one mapping behind it or a list. -/
theorem flattenFrom_merge {merge : Nat → Builder → Except Fault Builder} {id key value : Nat}
    {merged kept rest : List (Nat × Nat)} {b b' : Builder}
    (hkey : b.graph.isMerge (key, value) = true)
    (h : Builder.flattenFrom merge id merged kept ((key, value) :: rest) b = .ok b') :
    ∃ more b1, Builder.mergedItems merge id ((b.setEntries id (kept ++ rest)).graph.sources value)
        (b.setEntries id (kept ++ rest)) = .ok (more, b1) ∧
      Builder.flattenFrom merge id (merged ++ more) kept rest b1 = .ok b' := by
  have htag : ((b.node key).tag == Tag.merge) = true := hkey
  simp only [Builder.flattenFrom, htag, if_true] at h
  unfold Graph.sources
  -- Nodes are looked at by way of the graph.
  have hnode : ∀ x, (b.setEntries id (kept ++ rest)).node x
      = (b.setEntries id (kept ++ rest)).graph.node x := fun _ => rfl
  split at h
  · next entries hc =>
      rcases bind_eq_ok.mp h with ⟨b1, hrun, h⟩
      rw [hnode] at hc
      refine ⟨b1.graph.entries value, b1, ?_, h⟩
      simp only [hc, Builder.mergedItems, hnode, hrun]
      rfl
  · next items hc =>
      rcases bind_eq_ok.mp h with ⟨⟨more, b1⟩, hrun, h⟩
      rw [hnode] at hc
      rw [hc]
      exact ⟨more, b1, hrun, h⟩
  · cases h

theorem flattenFrom_keep (merge : Nat → Builder → Except Fault Builder) (id : Nat)
    {key value : Nat} (merged kept rest : List (Nat × Nat)) {b : Builder}
    (hkey : ¬ b.graph.isMerge (key, value) = true) :
    Builder.flattenFrom merge id merged kept ((key, value) :: rest) b
      = Builder.flattenFrom merge id merged (kept ++ [(key, value)]) rest
        (if (b.graph.node key).tag = Tag.value then b.over (b.graph.setTag key Tag.str) else b) := by
  have htag : ((b.node key).tag == Tag.merge) = false := Bool.eq_false_iff.mpr hkey
  simp only [Builder.flattenFrom, htag, Bool.false_eq_true, if_false, beq_iff_eq]
  rfl

/-- After the last entry, what was gathered is put in front. -/
theorem flattenFrom_nil {g : Graph} {id : Nat} {merged : List (Nat × Nat)} {b b' : Builder}
    (h : Gathering g id (g.ownEntries id) merged b.graph)
    (hall : ∀ x, g.Merges id x → Gathered g id x merged)
    (hfresh : g.HasMerge id ∨ (merged = [] ∧ b.graph.entries id = g.entries id))
    (hrun : Except.ok (if merged.isEmpty then b else b.setEntries id (merged ++ g.ownEntries id))
      = (.ok b' : Except Fault Builder)) :
    b' = b.over b'.graph ∧ Flattened g id b'.graph := by
  cases merged with
  | nil =>
      -- The nodes stay as they are. There may have been keys for merging, with nothing behind.
      simp only [List.isEmpty_nil, if_true, Except.ok.injEq] at hrun
      subst hrun
      refine ⟨rfl, h.finish (Edited.refl g id _) hall (fun e he => absurd he (List.not_mem_nil))
        ?_ ?_ (h.evolved.known id) (hfresh.imp_right fun hsame => hsame.2)⟩
      · rcases h.here with hlist | ⟨_, hsub⟩
        · rw [hlist]
        · rw [Graph.notMerges_ownEntries] at hsub
          exact hsub
      · rcases h.here with hlist | ⟨hnone, _⟩
        · rintro ⟨e, he, hmerge⟩
          rw [hlist] at he
          rw [h.evolved.isMerge, (Graph.mem_notMerges.mp he).2] at hmerge
          cases hmerge
        · exact hnone
  | cons first others =>
      have hhas : g.HasMerge id := hfresh.resolve_right fun hno => nomatch hno.1
      rcases hhas with ⟨e, he, hmerge⟩
      have hmap := h.evolved.isMapping.mpr (Graph.isMapping_of_entry he)
      have hlt : id < b.graph.size := h.evolved.size.symm ▸ Graph.lt_of_entry he
      have hset := Edited.setContent g hmap hlt (first :: others ++ g.ownEntries id)
      simp only [List.isEmpty_cons, Bool.false_eq_true, if_false, Except.ok.injEq] at hrun
      subst hrun
      have hedit : Edited g id b.graph (b.setEntries id _).graph := hset.1
      have hentries : (b.setEntries id _).graph.entries id = _ := hset.2
      refine ⟨rfl, h.finish hedit hall (fun e he => ?_) ?_ ?_ (fun e he => ?_)
        (Or.inl ⟨e, he, hmerge⟩)⟩
      · rw [hentries]
        exact List.mem_append.mpr (Or.inl he)
      · rw [hentries]
        exact List.sublist_append_right ..
      · -- Neither what was gathered nor what was kept has a key for merging.
        rintro ⟨e, he, hmerge⟩
        rw [hentries] at he
        rw [hedit.isMerge, h.evolved.isMerge] at hmerge
        rcases List.mem_append.mp he with he | he
        · rw [h.clean e he] at hmerge
          cases hmerge
        · rw [(Graph.mem_notMerges.mp he).2] at hmerge
          cases hmerge
      · rw [hentries] at he
        rcases List.mem_append.mp he with he | he
        · exact h.known e he
        · exact ⟨id, (Graph.mem_notMerges.mp he).1⟩

/-- Merging into a mapping, entry by entry, where the entries `done` were looked at. -/
theorem flattenFrom_flattened {merge : Nat → Builder → Except Fault Builder}
    (hmerge : Flattens merge) {g : Graph} {id : Nat} {done rest merged : List (Nat × Nat)}
    {b b' : Builder} (h : Progress g id done rest merged b.graph)
    (hrun : Builder.flattenFrom merge id merged (g.notMerges done) rest b = .ok b') :
    b' = b.over b'.graph ∧ Flattened g id b'.graph := by
  -- On the entries to come; what those before have done is carried by `Progress`.
  induction rest generalizing done merged b with
  | nil =>
      have hgathering := h.gathering
      rw [List.append_nil, h.notMerges_done] at hgathering
      rw [h.notMerges_done] at hrun
      exact flattenFrom_nil hgathering h.gathered_all h.fresh hrun
  | cons e rest ih =>
      rcases e with ⟨key, value⟩
      have hhere : b.graph.isMerge (key, value) = g.isMerge (key, value) :=
        h.gathering.evolved.isMerge _
      have hkept := Progress.notMerges g done (key, value)
      by_cases hkey : g.isMerge (key, value) = true
      · rcases flattenFrom_merge (hhere.trans hkey) hrun with ⟨more, b1, hitems, hrun1⟩
        rcases h.take hmerge hkey hitems with ⟨hb1, h1⟩
        rw [if_pos hkey] at hkept
        rw [← hkept] at hrun1
        rcases ih h1 hrun1 with ⟨hb', hf⟩
        exact ⟨by rw [hb', hb1]; rfl, hf⟩
      · rw [flattenFrom_keep merge id _ _ _ (hhere ▸ hkey)] at hrun
        rw [if_neg hkey] at hkept
        rw [← hkept] at hrun
        split at hrun
        · next hvalue =>
            exact ih (b := b.over (b.graph.setTag key Tag.str)) ((h.setTag hvalue).keep hkey) hrun
        · exact ih (h.keep hkey) hrun

theorem flattenWithin_flattens (fuel : Nat) : Flattens (Builder.flattenWithin fuel) := by
  -- The fuel bounds how deep mappings are merged into while another one is.
  induction fuel with
  | zero => exact fun x b b' h => by cases h
  | succ n ih => exact fun id b b' h => flattenFrom_flattened ih (Progress.start b.graph id) h

/-- Merging into a mapping flattens it. -/
theorem flatten_flattened {b b' : Builder} {id : Nat} (h : b.flatten id = .ok b') :
    b' = b.over b'.graph ∧ Flattened b.graph id b'.graph :=
  flattenWithin_flattens _ id b b' h

/-- A way to merge into mappings looks at nothing but the nodes. -/
def LooksAtNodes (merge : Nat → Builder → Except Fault Builder) : Prop :=
  ∀ x (b c : Builder), c.graph = b.graph → merge x c = (merge x b).map fun r => c.over r.graph

theorem mergedItems_over {merge : Nat → Builder → Except Fault Builder}
    (hmerge : LooksAtNodes merge) (id : Nat) (items : List Nat) {b c : Builder}
    (hc : c.graph = b.graph) :
    Builder.mergedItems merge id items c
      = (Builder.mergedItems merge id items b).map fun r => (r.1, c.over r.2.graph) := by
  induction items generalizing b c with
  | nil => simp only [Builder.mergedItems, Except.map, ← hc]; rfl
  | cons x rest ih =>
      -- The two builders have the same nodes, and merging looks at nothing else.
      have hnode : ∀ y, c.node y = b.node y := fun y => by unfold Builder.node; rw [hc]
      simp only [Builder.mergedItems, hnode, hmerge x b c hc]
      split
      · cases merge x b with
        | error f => rfl
        | ok b1 =>
            simp only [Except.map, bind, Except.bind]
            rw [ih (b := b1) (c := c.over b1.graph) rfl]
            cases Builder.mergedItems merge id rest b1 with
            | error f => rfl
            | ok r => rfl
      · rfl

theorem flattenFrom_over {merge : Nat → Builder → Except Fault Builder}
    (hmerge : LooksAtNodes merge) (id : Nat) (merged kept rest : List (Nat × Nat))
    {b c : Builder} (hc : c.graph = b.graph) :
    Builder.flattenFrom merge id merged kept rest c
      = (Builder.flattenFrom merge id merged kept rest b).map fun r => c.over r.graph := by
  induction rest generalizing merged kept b c with
  | nil =>
      simp only [Builder.flattenFrom, Except.map]
      split
      · rw [← hc]; rfl
      · simp only [Builder.setEntries, hc]; rfl
  | cons e rest ih =>
      rcases e with ⟨key, value⟩
      have hnode : ∀ y, c.node y = b.node y := fun y => by unfold Builder.node; rw [hc]
      -- The number of a node and what was made of it are no part of the graph, which is all that
      -- counts here.
      have hset : (c.setEntries id (kept ++ rest)).graph = (b.setEntries id (kept ++ rest)).graph := by
        simp only [Builder.setEntries, hc]
      have hnode1 : ∀ y, (c.setEntries id (kept ++ rest)).node y
          = (b.setEntries id (kept ++ rest)).node y := fun y => by unfold Builder.node; rw [hset]
      simp only [Builder.flattenFrom, hnode, hnode1]
      split
      · split
        · rw [hmerge value _ _ hset]
          cases merge value (b.setEntries id (kept ++ rest)) with
          | error f => rfl
          | ok b1 => exact ih _ _ rfl
        · rw [mergedItems_over hmerge id _ hset]
          cases Builder.mergedItems merge id _ (b.setEntries id (kept ++ rest)) with
          | error f => rfl
          | ok r => exact ih _ _ rfl
        · rfl
      · split
        · rw [ih (b := b.over (b.graph.setTag key Tag.str)) _ _ (by rw [hc]; rfl)]
          rfl
        · exact ih _ _ hc

theorem flattenWithin_over (fuel : Nat) : LooksAtNodes (Builder.flattenWithin fuel) := by
  induction fuel with
  | zero => exact fun _ _ _ _ => rfl
  | succ n ih =>
      intro x b c hc
      simp only [Builder.flattenWithin, hc]
      exact flattenFrom_over ih x [] [] _ hc

/-- Merging looks at nothing but the nodes. -/
theorem flatten_over {b c : Builder} (id : Nat) (hc : c.graph = b.graph) :
    c.flatten id = (b.flatten id).map fun r => c.over r.graph := by
  have hcount : c.mergeCount = b.mergeCount := by
    unfold Builder.mergeCount Builder.node
    rw [hc]
  unfold Builder.flatten
  rw [hcount]
  exact flattenWithin_over _ id b c hc

end Yaml

end Annals
