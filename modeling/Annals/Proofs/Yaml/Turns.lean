import Annals.Proofs.Yaml.Keys

/-!
# The Turns of Collections

In which order the collections of a document are filled, and what each of them finds.

A collection waits from the moment it is made, and none is made twice, so each has one
turn. When its turn comes, its node need not be what was written: whoever drew on it
before has merged into it as well. `turn_found` says that there is no other way for
its entries to have changed.

`Filling` takes apart what happens at a turn, for constructions with and without unique
keys: nodes are made, in the case of keys the node is merged into in between, and what
was made of it is put in. `Further` is what all of this has in common: no node is lost,
and new collections queue up behind those that wait.

## Main definitions

* `Further`: A builder that went on from another one.
* `Filling`: What happens when a collection is filled.
* `Builder.turns`: The collections in the order of their turns, each with the nodes that
  it finds.

## Theorems

* `Makes.further`: Making nodes loses none.
* `fill_filling`: Filling a collection, taken apart.
* `Filling.further`: Filling a collection loses no node.
* `turn_found`: Entries that changed were changed by a turn before.
* `turns_nodup`: No collection has two turns.
-/

namespace Annals

namespace Yaml

/-- A builder that went on from another one. It still knows what was made, though
    collections may have been filled, and it has queued up new ones. -/
structure Further (b b' : Builder) : Prop where
  size : b'.made.size = b.made.size
  made : ∀ x m, b.made? x = some m → ∃ m', b'.made? x = some m' ∧ m'.emptied = m.emptied
  waiting : ∃ new, b'.waiting = b.waiting ++ new ∧ new.Nodup ∧
    ∀ x ∈ new, b.made? x = none ∧ ∃ m, b'.made? x = some m ∧ m.isScalar = false
  queued : ∀ x m, b'.made? x = some m → m.isScalar = false →
    (b.made? x).isSome ∨ x ∈ b'.waiting

theorem Made.isScalar_of_emptied {m m' : Made} (h : m'.emptied = m.emptied) :
    m'.isScalar = m.isScalar := by
  rw [← Made.isScalar_emptied m', h, Made.isScalar_emptied]

theorem Made.isKeyed_of_emptied {m m' : Made} (h : m'.emptied = m.emptied) :
    m'.isKeyed = m.isKeyed := by
  rw [← Made.isKeyed_emptied m', h, Made.isKeyed_emptied]

namespace Further

variable {b b1 b2 : Builder}

theorem refl (b : Builder) : Further b b :=
  ⟨rfl, fun _ m hm => ⟨m, hm, rfl⟩, ⟨[], by simp, List.nodup_nil, fun _ hx => nomatch hx⟩,
    fun x m hm _ => Or.inl (by rw [hm]; rfl)⟩

theorem isSome (h : Further b b1) {x : Nat} (hx : (b.made? x).isSome) : (b1.made? x).isSome := by
  rcases Option.isSome_iff_exists.mp hx with ⟨m, hm⟩
  rcases h.made x m hm with ⟨m', hm', _⟩
  rw [hm']
  rfl

theorem mem_waiting (h : Further b b1) {x : Nat} (hx : x ∈ b.waiting) : x ∈ b1.waiting := by
  rcases h.waiting with ⟨new, hwait, _⟩
  rw [hwait]
  exact List.mem_append.mpr (Or.inl hx)

theorem none_of_none (h : Further b b1) {x : Nat} (hx : b1.made? x = none) :
    b.made? x = none := by
  cases hm : b.made? x with
  | none => rfl
  | some m =>
      rcases h.made x m hm with ⟨m', hm', _⟩
      rw [hx] at hm'
      cases hm'

/-- A value without parts stays the same. -/
theorem scalar (h : Further b b1) {x : Nat} {v : Value} (hx : b.made? x = some (.scalar v)) :
    b1.made? x = some (.scalar v) := by
  rcases h.made x _ hx with ⟨m', hm', he⟩
  rw [hm', Made.emptied_eq_scalar he]

theorem trans (h : Further b b1) (h' : Further b1 b2) : Further b b2 := by
  rcases h.waiting with ⟨new, hwait, hnodup, hnew⟩
  rcases h'.waiting with ⟨new', hwait', hnodup', hnew'⟩
  refine ⟨h'.size.trans h.size, fun x m hm => ?_, ⟨new ++ new', ?_, ?_, fun x hx => ?_⟩,
    fun x m hm hcol => ?_⟩
  · rcases h.made x m hm with ⟨m1, hm1, he1⟩
    rcases h'.made x m1 hm1 with ⟨m2, hm2, he2⟩
    exact ⟨m2, hm2, he2.trans he1⟩
  · rw [hwait', hwait, List.append_assoc]
  · -- Those that queued up first were made by then, and the others were not.
    refine List.nodup_append.mpr ⟨hnodup, hnodup', fun x hx y hy hxy => ?_⟩
    rcases (hnew x hx).2 with ⟨m, hm, _⟩
    rw [hxy, (hnew' y hy).1] at hm
    cases hm
  · rcases List.mem_append.mp hx with hx | hx
    · rcases hnew x hx with ⟨hnone, m, hm, hcol⟩
      rcases h'.made x m hm with ⟨m', hm', he⟩
      exact ⟨hnone, m', hm', (Made.isScalar_of_emptied he).trans hcol⟩
    · exact ⟨h.none_of_none (hnew' x hx).1, (hnew' x hx).2⟩
  · rcases h'.queued x m hm hcol with hsome | hwait
    · rcases Option.isSome_iff_exists.mp hsome with ⟨m1, hm1⟩
      rcases h'.made x m1 hm1 with ⟨m2, hm2, he⟩
      rw [hm] at hm2
      cases hm2
      have hcol1 : m1.isScalar = false := (Made.isScalar_of_emptied he).symm.trans hcol
      exact (h.queued x m1 hm1 hcol1).imp_right h'.mem_waiting
    · exact Or.inr hwait

/-- Nothing is lost when the nodes change. -/
theorem over_graph (h : Further b b1) (g : Graph) : Further b (b1.over g) :=
  ⟨h.size, h.made, h.waiting, h.queued⟩

/-- Putting its parts into a collection loses nothing. -/
theorem set {id : Nat} {m filled : Made} (b : Builder) (hm : b.made? id = some m)
    (hf : filled.emptied = m.emptied) : Further b (b.set id filled) := by
  have hmade := fun x => Builder.made?_set b id x filled (Builder.lt_of_made hm)
  refine ⟨Builder.size_set b id filled, fun x n hx => ?_,
    ⟨[], by simp, List.nodup_nil, fun _ hx => nomatch hx⟩, fun x n hx _ => Or.inl ?_⟩
  · rw [hmade x]
    -- Only this collection changes, and without its parts it is what it was.
    by_cases hxid : x = id
    · rw [hxid, hm] at hx
      cases hx
      exact ⟨filled, if_pos hxid, hf⟩
    · exact ⟨n, by rw [if_neg hxid]; exact hx, rfl⟩
  · rw [hmade x] at hx
    by_cases hxid : x = id
    · rw [hxid, hm]
      rfl
    · rw [if_neg hxid] at hx
      rw [hx]
      rfl

end Further

theorem make_further {b b' : Builder} {id : Nat} (hsize : b.made.size = b.graph.size)
    (h : b.make id = .ok b') : Further b b' := by
  rcases Builder.make_eq_ok h with ⟨_, rfl⟩ | ⟨hnone, m, hi, rfl⟩
  · exact Further.refl _
  -- The node is made now. If it is a collection, it is the only one to queue up.
  have hmade := fun x => Builder.made?_start b id x m (Builder.lt_of_initial hsize hi)
  refine ⟨Builder.size_start b id m, fun x n hx => ?_,
    ⟨_, Builder.waiting_start b id m, ?_, fun x hx => ?_⟩, fun x n hx hcol => ?_⟩
  · have hxid : x ≠ id := by
      rintro rfl
      rw [hnone] at hx
      cases hx
    exact ⟨n, by rw [hmade x, if_neg hxid]; exact hx, rfl⟩
  · split <;> simp
  · cases hcol : m.isScalar with
    | true => simp [hcol] at hx
    | false =>
        simp only [hcol, Bool.false_eq_true, if_false, List.mem_singleton] at hx
        subst hx
        exact ⟨hnone, m, by rw [hmade x, if_pos rfl], hcol⟩
  · rw [hmade x] at hx
    by_cases hxid : x = id
    · rw [if_pos hxid] at hx
      cases hx
      rw [Builder.waiting_start, hxid, hcol]
      simp
    · rw [if_neg hxid] at hx
      exact Or.inl (by rw [hx]; rfl)

namespace Makes

variable {b b' : Builder} {ids : List Nat}

/-- Making nodes loses none. -/
theorem further (h : Makes b ids b') (hsize : b.made.size = b.graph.size) : Further b b' := by
  induction h with
  | nil => exact Further.refl _
  | cons hmake _ ih =>
      have hfirst := make_further hsize hmake
      exact hfirst.trans (ih (by rw [hfirst.size, make_graph hmake, hsize]))

theorem roomy (h : Makes b ids b') (hsize : b.made.size = b.graph.size) :
    b'.made.size = b'.graph.size := by
  rw [(h.further hsize).size, h.graph, hsize]

/-- Afterwards all the nodes have been made. -/
theorem isSome (h : Makes b ids b') (hsize : b.made.size = b.graph.size) :
    ∀ x ∈ ids, (b'.made? x).isSome := by
  induction h with
  | nil => exact fun x hx => nomatch hx
  | @cons b b1 b2 id ids hmake hrest ih =>
      have hroomy : b1.made.size = b1.graph.size := by
        rw [(make_further hsize hmake).size, make_graph hmake, hsize]
      intro x hx
      rcases List.mem_cons.mp hx with rfl | hx
      · refine (hrest.further hroomy).isSome ?_
        rcases Builder.make_eq_ok hmake with ⟨hsome, rfl⟩ | ⟨_, m, hi, rfl⟩
        · exact hsome
        · rw [Builder.made?_start b x x m (Builder.lt_of_initial hsize hi), if_pos rfl]
          rfl
      · exact ih hroomy x hx

end Makes

theorem checkKeys_makes {b b' : Builder} {id : Nat} (h : b.checkKeys id = .ok b') :
    ∃ keys, Makes b keys b' := by
  unfold Builder.checkKeys at h
  split at h
  · split at h
    · exact ⟨_, checkKeysFrom_makes h⟩
    · split at h
      · cases h
        exact ⟨[], Makes.nil⟩
      · cases h
    · split at h
      · cases h
        exact ⟨[], Makes.nil⟩
      · cases h
  · cases h
    exact ⟨[], Makes.nil⟩

/-- What happens when a collection is filled of which `m` was made. Its parts are made, and
    then put in. If it has keys, these are compared first, and the node is merged into. -/
inductive Filling (b : Builder) (id : Nat) : Made → Builder → Prop where
  | sequence {old items : List Nat} {b1 : Builder} :
      (b.graph.node id).content = .sequence items → Makes b items b1 →
      Filling b id (.sequence old) (b1.set id (.sequence items))
  | pairs {old found : List (Nat × Nat)} {items : List Nat} {b1 : Builder} :
      (b.graph.node id).content = .sequence items → Makes b (pairNodes b.graph items) b1 →
      Filling b id (.pairs old) (b1.set id (.pairs found))
  | keyed {m filled : Made} {keys : List Nat} {bk b1 : Builder} {g : Graph} :
      m.isKeyed = true → filled.emptied = m.emptied → b.graph.IsMapping id →
      b.checkKeys id = .ok bk → Makes b keys bk → Flattened b.graph id g →
      Makes (bk.over g) (entryNodes (g.entries id)) b1 →
      (∀ e ∈ g.entries id, ∃ v, b1.key? e.1 = some v) → Filling b id m (b1.set id filled)

theorem key?_eq_some {b : Builder} {id : Nat} {v : Value} :
    b.key? id = some v ↔ b.made? id = some (.scalar v) := by
  unfold Builder.key?
  constructor
  · intro h
    split at h
    · next w hm =>
        cases h
        exact hm
    · cases h
  · intro h
    rw [h]

theorem Further.key? {b b1 : Builder} (h : Further b b1) {id : Nat} {v : Value}
    (hv : b.key? id = some v) : b1.key? id = some v :=
  key?_eq_some.mpr (h.scalar (key?_eq_some.mp hv))

/-- The keys of entries that could be made are values. -/
theorem makeEntries_keys {start : Mark} {made found : List (Value × Nat)}
    {entries : List (Nat × Nat)} {b b1 : Builder} (hsize : b.made.size = b.graph.size)
    (h : Builder.makeEntries start made entries b = .ok (found, b1)) :
    ∀ e ∈ entries, ∃ v, b1.key? e.1 = some v := by
  induction entries generalizing b made with
  | nil => exact fun e he => nomatch he
  | cons e rest ih =>
      rcases e with ⟨key, value⟩
      rcases bind_eq_ok.mp h with ⟨b2, hkey, h⟩
      cases hv : b2.key? key with
      | none => rw [hv] at h; cases h
      | some v =>
          rw [hv] at h
          rcases bind_eq_ok.mp h with ⟨b3, hvalue, h⟩
          have hsize3 : b3.made.size = b3.graph.size :=
            (Makes.cons hkey (Makes.cons hvalue Makes.nil)).roomy hsize
          have hsize2 : b2.made.size = b2.graph.size :=
            (Makes.cons hkey Makes.nil).roomy hsize
          -- What was made of the key stays while the rest is made.
          have hfurther := (make_further hsize2 hvalue).trans
            ((Builder.makeEntries_makes h).further hsize3)
          intro e he
          rcases List.mem_cons.mp he with rfl | he
          · exact ⟨v, hfurther.key? hv⟩
          · exact ih hsize3 h e he

theorem mappingEntries_filling {b b1 : Builder} {id : Nat} {m filled : Made}
    {found : List (Value × Nat)} (hsize : b.made.size = b.graph.size) (hk : m.isKeyed = true)
    (hf : filled.emptied = m.emptied) (h : b.mappingEntries id = .ok (found, b1)) :
    Filling b id m (b1.set id filled) := by
  unfold Builder.mappingEntries at h
  rcases bind_eq_ok.mp h with ⟨bk, hcheck, h⟩
  rcases checkKeys_makes hcheck with ⟨keys, hkeys⟩
  simp only [] at h
  split at h
  · next entries hc =>
      rcases bind_eq_ok.mp h with ⟨b2, hflat, h⟩
      rcases bind_eq_ok.mp h with ⟨⟨made, b3⟩, hmade, h⟩
      cases h
      rcases flatten_flattened hflat with ⟨hb2, hflattened⟩
      have hmakes := Builder.makeEntries_makes hmade
      rw [hkeys.graph] at hflattened
      -- The keys were compared and the sources drawn in before anything was put into the mapping.
      have hmap : b.graph.IsMapping id := ⟨entries, by rw [← hkeys.graph]; exact hc⟩
      have hsize2 : b2.made.size = b2.graph.size := by
        rw [hb2]
        exact ((hkeys.further hsize).size.trans hsize).trans hflattened.size.symm
      have hvalued := makeEntries_keys hsize2 hmade
      rw [hb2] at hmakes
      exact Filling.keyed hk hf hmap hcheck hkeys hflattened hmakes hvalued
  · cases h

/-- Filling a collection, taken apart. -/
theorem fill_filling {b b' : Builder} {id : Nat} {m : Made}
    (hsize : b.made.size = b.graph.size) (hm : b.made? id = some m)
    (hcol : m.isScalar = false) (h : b.fill id = .ok b') : Filling b id m b' := by
  unfold Builder.fill at h
  -- Each kind of collection makes its parts first and is filled then.
  cases m with
  | scalar v => cases hcol
  | sequence old =>
      simp only [hm] at h
      split at h
      · next items hc =>
          rcases bind_eq_ok.mp h with ⟨b1, hmade, h⟩
          cases h
          exact Filling.sequence hc (Builder.makeAll_makes hmade)
      · cases h
  | mapping old =>
      simp only [hm] at h
      rcases bind_eq_ok.mp h with ⟨⟨found, b1⟩, hmade, h⟩
      cases h
      exact mappingEntries_filling hsize rfl rfl hmade
  | set old =>
      simp only [hm] at h
      rcases bind_eq_ok.mp h with ⟨⟨found, b1⟩, hmade, h⟩
      cases h
      exact mappingEntries_filling hsize rfl rfl hmade
  | pairs old =>
      simp only [hm] at h
      split at h
      · next items hc =>
          rcases bind_eq_ok.mp h with ⟨⟨found, b1⟩, hmade, h⟩
          cases h
          exact Filling.pairs hc (Builder.makePairs_makes hmade)
      · cases h

namespace Filling

variable {b b' : Builder} {id : Nat} {m : Made}

/-- Filling a collection merges into it at most. -/
theorem graph (h : Filling b id m b') : b'.graph = b.graph ∨ Flattened b.graph id b'.graph := by
  cases h with
  | sequence _ hmakes => exact Or.inl hmakes.graph
  | pairs _ hmakes => exact Or.inl hmakes.graph
  | keyed _ _ _ _ _ hf hmakes _ =>
      refine Or.inr ?_
      rw [Builder.graph_set, hmakes.graph]
      exact hf

theorem evolved (h : Filling b id m b') : Evolved everywhere b.graph b'.graph := by
  rcases h.graph with hsame | hf
  · rw [hsame]
    exact Evolved.refl _ _
  · exact hf.toEvolved

/-- What all turns have in common: nodes are made, merges may take place, nodes are made,
    and what was made of the collection is filled. -/
theorem steps (h : Filling b id m b') : ∃ keys bk g ids b1 filled, Makes b keys bk ∧
    Evolved everywhere b.graph g ∧ Makes (bk.over g) ids b1 ∧ b' = b1.set id filled ∧
    filled.emptied = m.emptied := by
  cases h with
  | sequence _ hmakes =>
      exact ⟨_, b, b.graph, _, _, _, Makes.nil, Evolved.refl _ _, hmakes, rfl, rfl⟩
  | pairs _ hmakes =>
      exact ⟨_, b, b.graph, _, _, _, Makes.nil, Evolved.refl _ _, hmakes, rfl, rfl⟩
  | keyed _ hf _ _ hkeys hflat hmakes _ =>
      exact ⟨_, _, _, _, _, _, hkeys, hflat.toEvolved, hmakes, rfl, hf⟩

theorem uniqueKeys (h : Filling b id m b') : b'.uniqueKeys = b.uniqueKeys := by
  rcases h.steps with ⟨keys, bk, g, ids, b1, filled, hkeys, _, hmakes, rfl, _⟩
  exact hmakes.uniqueKeys.trans hkeys.uniqueKeys

/-- Filling a collection loses no node. -/
theorem further (h : Filling b id m b') (hm : b.made? id = some m)
    (hsize : b.made.size = b.graph.size) : Further b b' := by
  rcases h.steps with ⟨keys, bk, g, ids, b1, filled, hkeys, hg, hmakes, rfl, hf⟩
  have hfirst := (hkeys.further hsize).over_graph g
  have hroomy : (bk.over g).made.size = (bk.over g).graph.size :=
    hfirst.size.trans (hsize.trans hg.size.symm)
  have hsecond := hfirst.trans (hmakes.further hroomy)
  rcases hsecond.made id _ hm with ⟨m1, hm1, he⟩
  exact hsecond.trans (Further.set _ hm1 (hf.trans he.symm))

end Filling

/-- There is room for what is made of all nodes, and what waits are collections that were
    made, each once. -/
structure Queued (b : Builder) : Prop where
  size : b.made.size = b.graph.size
  nodup : b.waiting.Nodup
  made : ∀ x ∈ b.waiting, ∃ m, b.made? x = some m ∧ m.isScalar = false

theorem blank_queued (u : Bool) (g : Graph) : Queued (Builder.blank u g) :=
  ⟨Array.size_replicate, List.nodup_nil, fun _ hx => nomatch hx⟩

theorem popped_queued {b : Builder} (hq : Queued b) : Queued b.popped :=
  ⟨hq.size, hq.nodup.sublist (List.drop_sublist 1 _), fun x hx =>
    hq.made x (List.mem_of_mem_drop hx)⟩

/-- New collections queue up once, since they were not made before. -/
theorem Queued.further {b b' : Builder} (hq : Queued b) (h : Further b b')
    (hgraph : b'.graph.size = b.graph.size) : Queued b' := by
  rcases h.waiting with ⟨new, hwait, hnew, hmade⟩
  refine ⟨by rw [h.size, hgraph]; exact hq.size, ?_, fun x hx => ?_⟩
  · rw [hwait]
    refine List.nodup_append.mpr ⟨hq.nodup, hnew, fun x hx y hy hxy => ?_⟩
    rcases hq.made x hx with ⟨m, hm, _⟩
    rw [hxy, (hmade y hy).1] at hm
    cases hm
  · rw [hwait] at hx
    rcases List.mem_append.mp hx with hx | hx
    · rcases hq.made x hx with ⟨m, hm, hcol⟩
      rcases h.made x m hm with ⟨m', hm', he⟩
      exact ⟨m', hm', (Made.isScalar_of_emptied he).trans hcol⟩
    · exact (hmade x hx).2

theorem make_queued {b b' : Builder} {id : Nat} (hq : Queued b) (h : b.make id = .ok b') :
    Queued b' :=
  hq.further (make_further hq.size h) (congrArg Array.size (make_graph h))

/-- What waits, when the collection that waits first is filled. -/
theorem fill_queued {b b' : Builder} {id : Nat} {rest : List Nat} (hq : Queued b)
    (hw : b.waiting = id :: rest) (h : b.popped.fill id = .ok b') :
    ∃ m, b.made? id = some m ∧ m.isScalar = false ∧ Filling b.popped id m b' ∧
      Further b.popped b' ∧ Queued b' := by
  rcases hq.made id (by rw [hw]; exact List.mem_cons_self ..) with ⟨m, hm, hcol⟩
  have hfill : Filling b.popped id m b' := fill_filling hq.size hm hcol h
  have hfurther := hfill.further hm hq.size
  exact ⟨m, hm, hcol, hfill, hfurther, (popped_queued hq).further hfurther hfill.evolved.size⟩

/-- The collections in the order of their turns, each with the nodes that it finds. -/
def Builder.turns : (fuel : Nat) → Builder → List (Nat × Graph)
  | 0, _ => []
  | fuel + 1, b =>
    match b.waiting with
    | [] => []
    | id :: _ => (id, b.graph) :: match b.popped.fill id with
      | .ok b' => turns fuel b'
      | .error _ => []

theorem turns_cons {fuel id : Nat} {rest : List Nat} {b b' : Builder}
    (hw : b.waiting = id :: rest) (h : b.popped.fill id = .ok b') :
    b.turns (fuel + 1) = (id, b.graph) :: b'.turns fuel := by
  simp only [Builder.turns, hw, h]

theorem turns_error {fuel id : Nat} {rest : List Nat} {b : Builder} {f : Fault}
    (hw : b.waiting = id :: rest) (h : b.popped.fill id = .error f) :
    b.turns (fuel + 1) = [(id, b.graph)] := by
  simp only [Builder.turns, hw, h]

theorem turns_nil {fuel : Nat} {b : Builder} (hw : b.waiting = []) : b.turns fuel = [] := by
  cases fuel with
  | zero => rfl
  | succ n => simp only [Builder.turns, hw]

/-- If the entries that a collection finds at its turn are not those that were written,
    then a collection that draws on it had a turn before. -/
theorem turn_found {fuel id : Nat} {b : Builder} {before after : List (Nat × Graph)} {now : Graph}
    (hq : Queued b) (h : b.turns fuel = before ++ (id, now) :: after) :
    Evolved everywhere b.graph now ∧
      (now.entries id ≠ b.graph.entries id → ∃ t ∈ before, b.graph.Draws t.1 id) := by
  -- On the turns: the first one is that of `id` itself, or it is one of those before.
  induction fuel generalizing b before with
  | zero => simp [Builder.turns] at h
  | succ n ih =>
      cases hw : b.waiting with
      | nil => simp [turns_nil hw] at h
      | cons first rest =>
          cases before with
          | nil =>
              have hnow : now = b.graph := by
                cases hfill : b.popped.fill first with
                | error f =>
                    rw [turns_error hw hfill] at h
                    cases h
                    rfl
                | ok b1 =>
                    rw [turns_cons hw hfill] at h
                    cases h
                    rfl
              rw [hnow]
              exact ⟨Evolved.refl _ _, fun hne => absurd rfl hne⟩
          | cons t before =>
              cases hfill : b.popped.fill first with
              | error f =>
                  rw [turns_error hw hfill] at h
                  simp at h
              | ok b1 =>
                  rw [turns_cons hw hfill, List.cons_append, List.cons.injEq] at h
                  rcases fill_queued hq hw hfill with ⟨m, _, _, hfilled, _, hq1⟩
                  rcases ih hq1 h.2 with ⟨hevolved, hfound⟩
                  have hstep : Evolved everywhere b.graph b1.graph := hfilled.evolved
                  refine ⟨hstep.trans hevolved, fun hne => ?_⟩
                  by_cases hsame : b1.graph.entries id = b.graph.entries id
                  · rcases hfound (hsame ▸ hne) with ⟨t', ht', hdraws⟩
                    exact ⟨t', List.mem_cons_of_mem _ ht', hstep.draws hdraws⟩
                  · -- The turn itself changed them.
                    refine ⟨t, List.mem_cons_self .., ?_⟩
                    rcases hfilled.graph with hgraph | hflat
                    · rw [hgraph] at hsame
                      exact absurd rfl hsame
                    · rw [← h.1]
                      exact hflat.drawn id hsame

/-- No collection has two turns, and what was made and does not wait has none. -/
theorem turns_nodup (fuel : Nat) {b : Builder} (hq : Queued b) :
    ((b.turns fuel).map Prod.fst).Nodup ∧
      ∀ x, (b.made? x).isSome → x ∉ b.waiting → x ∉ (b.turns fuel).map Prod.fst := by
  induction fuel generalizing b with
  | zero => exact ⟨List.nodup_nil, fun _ _ _ hx => nomatch hx⟩
  | succ n ih =>
      cases hw : b.waiting with
      | nil =>
          rw [turns_nil hw]
          exact ⟨List.nodup_nil, fun _ _ _ hx => nomatch hx⟩
      | cons id rest =>
          cases hfill : b.popped.fill id with
          | error f =>
              rw [turns_error hw hfill]
              refine ⟨List.nodup_singleton _, fun x _ hx hmem => hx ?_⟩
              rw [List.mem_singleton.mp hmem]
              exact List.mem_cons_self ..
          | ok b1 =>
              rw [turns_cons hw hfill]
              rcases fill_queued hq hw hfill with ⟨m, hm, _, _, hfurther, hq1⟩
              rcases ih hq1 with ⟨hnodup, hnone⟩
              have hpop : b.popped.waiting = rest := by simp [Builder.popped, hw]
              -- Nothing that was made and does not wait any more comes to wait again.
              have hgone : ∀ x, (b.made? x).isSome → x ∉ rest →
                  x ∉ (b1.turns n).map Prod.fst := by
                intro x hx hrest
                refine hnone x (hfurther.isSome hx) (fun hmem => ?_)
                rcases hfurther.waiting with ⟨new, hwait, _, hnew⟩
                rw [hwait, hpop] at hmem
                rcases List.mem_append.mp hmem with hmem | hmem
                · exact hrest hmem
                · have hunmade : b.made? x = none := (hnew x hmem).1
                  rw [hunmade] at hx
                  cases hx
              have hq0 := hq.nodup
              rw [hw, List.nodup_cons] at hq0
              rw [List.map_cons]
              refine ⟨List.nodup_cons.mpr ⟨hgone id (by rw [hm]; rfl) hq0.1, hnodup⟩, ?_⟩
              intro x hx hwait hmem
              rcases List.mem_cons.mp hmem with rfl | hmem
              · exact hwait (List.mem_cons_self ..)
              · exact hgone x hx (fun hrest => hwait (List.mem_cons_of_mem _ hrest)) hmem

end Yaml

end Annals
