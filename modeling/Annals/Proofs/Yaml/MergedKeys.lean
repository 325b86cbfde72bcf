import Annals.Proofs.Yaml.Turns
import Annals.Proofs.Yaml.UniqueKeys

/-!
# Unique Keys and Merges

What it changes for a text with merges that keys must be unique.

The keys of a mapping are compared at its turn, before it is merged into, so that a
merged key may be given again. But merging into one mapping is merging into all those
that it draws on. If one of these has its own turn later, the keys that are compared
then are no longer those that were written: the merged ones are among them, and a
merged key that is given again is found twice.

So a text in which no mapping is written with a key twice may be refused all the same,
and it is refused exactly if a mapping with merges is `Overtaken` in this way. Turns
follow the depth at which collections are first referred to, so the names of anchors
and the order in the text do not tell.

## Main definitions

* `Refused`: A turn at which a key is found twice.
* `Graph.turns`: The turns of a document.
* `Overtaken`: A text with a mapping that another collection merged into before its turn.
* `WrittenOnce`: No mapping of a text is written with a key twice.

## Theorems

* `fillAll_turns`: The constructions go on together until a turn is refused.
* `not_overtaken_of_flat`: Merges that are not within each other overtake no mapping.
* `overtaken_of_refused`: Where keys are written once, only an overtaken mapping is refused.
* `decode_merges`: A text with merges is decoded with unique keys exactly if no mapping is
  overtaken.
-/

namespace Annals

namespace Yaml

namespace Stricter

variable {α β : Type} {x : Except Fault α} {y : Except Fault β} {up : α → β}
variable {fine : α → Prop} {repeats long : Prop}

/-- Less is said. -/
theorem weaken {fine' : α → Prop} {repeats' long' : Prop} (h : Stricter x y up fine repeats long)
    (hfine : ∀ a, fine a → fine' a) (hrepeats : repeats → repeats') (hlong : long → long') :
    Stricter x y up fine' repeats' long' := by
  refine ⟨h.fails, fun a ha => ?_⟩
  rcases h.gives a ha with ⟨hy, ha'⟩ | ⟨f, hf, hrep, hwhy⟩
  · exact Or.inl ⟨hy, hfine a ha'⟩
  · exact Or.inr ⟨f, hf, hrepeats hrep, hwhy.imp_right hlong⟩

end Stricter

theorem Shaped.set {b : Builder} {id : Nat} {m filled : Made} (hs : Shaped b)
    (hm : b.made? id = some m) (hf : filled.emptied = m.emptied) : Shaped (b.set id filled) := by
  refine ⟨by rw [Builder.size_set]; exact hs.size, fun x n hx => ?_⟩
  rw [Builder.made?_set b id x filled (Builder.lt_of_made hm)] at hx
  rw [Builder.graph_set]
  by_cases hxid : x = id
  · rw [if_pos hxid] at hx
    cases hx
    rw [hxid, hf]
    exact hs.shape id m hm
  · rw [if_neg hxid] at hx
    exact hs.shape x n hx

namespace Filling

variable {b b' : Builder} {id : Nat} {m : Made}

/-- What was made is what its node says, also after a turn. -/
theorem shaped (h : Filling b id m b') (hm : b.made? id = some m) (hs : Shaped b)
    (hg : b.graph.ValueFree) : Shaped b' := by
  rcases h.steps with ⟨keys, bk, g, ids, b1, filled, hkeys, hevolved, hmakes, rfl, hf⟩
  have hs1 : Shaped (bk.over g) :=
    (hkeys.shaped hs).over (hkeys.graph.symm ▸ hevolved) (hkeys.graph.symm ▸ hg)
  have hfurther := ((hkeys.further hs.size).over_graph g).trans (hmakes.further hs1.size)
  rcases hfurther.made id _ hm with ⟨m1, hm1, he⟩
  exact (hmakes.shaped hs1).set hm1 (hf.trans he.symm)

end Filling

/-- A turn of a collection with keys that finds a key twice. -/
def Refused (t : Nat × Graph) : Prop := t.2.Keyed t.1 ∧ t.2.RepeatsKey Value.sameKey t.1

/-- What it changes for the collections that wait that keys must differ: the two
    constructions go on together until a turn is refused. -/
theorem fillAll_turns (fuel : Nat) {b : Builder} (hq : Queued b) (hs : Shaped b)
    (hg : b.graph.ValueFree) (hu : b.uniqueKeys = false) :
    Stricter (b.fillAll fuel) (b.strict.fillAll fuel) Builder.strict
      (fun _ => ∀ t ∈ b.turns fuel, ¬ Refused t) (∃ t ∈ b.turns fuel, Refused t) True := by
  induction fuel generalizing b with
  | zero => exact Stricter.same rfl (fun _ _ _ ht => absurd ht List.not_mem_nil)
  | succ n ih =>
      cases hw : b.waiting with
      | nil =>
          have hw' : b.strict.waiting = [] := hw
          simp only [Builder.fillAll, hw, hw', turns_nil hw]
          exact Stricter.same rfl (fun _ _ _ ht => absurd ht List.not_mem_nil)
      | cons id rest =>
          rw [fillAll_cons n id rest b hw, fillAll_cons n id rest b.strict hw]
          have hsame : b.strict.popped = b.popped.strict := rfl
          have hpop : Shaped b.popped := ⟨hs.size, hs.shape⟩
          rcases hq.made id (by rw [hw]; exact List.mem_cons_self ..) with ⟨m, hm, _⟩
          have hkeyed := keyed_iff_tag (hs.shape id m hm)
          have hhead : (id, b.graph) ∈ b.turns (n + 1) := by
            cases hfill : b.popped.fill id with
            | error f => rw [turns_error hw hfill]; exact List.mem_cons_self ..
            | ok b1 => rw [turns_cons hw hfill]; exact List.mem_cons_self ..
          rw [hsame]
          refine (fill_strict hpop hg hu hm).bind
            (fun h => ⟨_, hhead, hkeyed.mp h.1, h.2⟩) (fun _ => trivial) (fun b1 hfill hdiffer => ?_)
          -- This turn is not refused, and the others follow.
          rcases fill_queued hq hw hfill with ⟨m1, hm1, _, hfilled, _, hq1⟩
          have hs1 := hfilled.shaped hm1 hpop hg
          have hg1 : b1.graph.ValueFree := hfilled.evolved.valueFree hg
          have hrest := ih hq1 hs1 hg1 (hfilled.uniqueKeys.trans hu)
          rw [turns_cons hw hfill]
          refine hrest.weaken (fun _ hnone t ht => ?_)
            (Exists.imp fun _ h => ⟨List.mem_cons_of_mem _ h.1, h.2⟩) (fun h => h)
          rcases List.mem_cons.mp ht with rfl | ht
          · exact fun hrefused => hdiffer (hkeyed.mpr hrefused.1) hrefused.2
          · exact hnone t ht

/-- The turns of a document whose outermost node is `root`. -/
def Graph.turns (g : Graph) (root : Nat) : List (Nat × Graph) :=
  match (Builder.blank false g).make root with
  | .ok b => b.turns (g.size + 1)
  | .error _ => []

/-- What it changes for a document that its keys must differ. -/
theorem construct_turns (root : Nat) {g : Graph} (hg : g.ValueFree) :
    Stricter (construct false root g) (construct true root g) (fun v => v)
      (fun _ => ∀ t ∈ g.turns root, ¬ Refused t) (∃ t ∈ g.turns root, Refused t) True := by
  have hunfold : ∀ u, construct u root g = (Builder.blank u g).make root >>= fun b =>
      b.fillAll (g.size + 1) >>= fun b => .ok (b.value (g.size + 1) [] root) := fun _ => rfl
  have hblank : (Builder.blank true g).make root
      = ((Builder.blank false g).make root).map Builder.strict :=
    Builder.make_strict (Builder.blank false g) root
  rw [hunfold, hunfold]
  have hmake : Stricter _ _ _ (fun _ => True) False False :=
    Stricter.same hblank (fun _ _ => trivial)
  refine hmake.bind False.elim False.elim (fun b hb _ => ?_)
  have hturns : g.turns root = b.turns (g.size + 1) := by
    unfold Graph.turns
    rw [hb]
  have hs : Shaped b := make_shaped (blank_sound false g root).shaped hb
  have hgraph : b.graph = g := make_graph hb
  -- The root is made in the same way by both, and from there on it is the turns that tell them
  -- apart.
  have hfill := fillAll_turns (g.size + 1) (make_queued (blank_queued false g) hb) hs
    (hgraph.symm ▸ hg) (make_uniqueKeys hb)
  rw [← hturns] at hfill
  refine hfill.bind (fun h => h) (fun h => h) (fun b1 _ hnone => ?_)
  exact Stricter.same (by rw [Builder.value_strict]; rfl) (fun _ _ => hnone)

theorem repeatsKey_congr {g g' : Graph} {id : Nat} (same : Value → Value → Bool)
    (hentries : g'.entries id = g.entries id) (hinitial : ∀ x, g'.initial x = g.initial x) :
    g'.RepeatsKey same id ↔ g.RepeatsKey same id := by
  unfold Graph.RepeatsKey Graph.keyValue?
  simp only [hentries, hinitial]

/-- A mapping or a set with merges is merged into before its own turn, since another
    collection draws on it, and at its turn a key is found twice. -/
def Graph.Overtaken (g : Graph) (root : Nat) : Prop :=
  ∃ before id now after, g.turns root = before ++ (id, now) :: after ∧ Refused (id, now) ∧
    g.HasMerge id ∧ ∃ t ∈ before, t.1 ≠ id ∧ g.Draws t.1 id

/-- Where no mapping is written with a key twice, none is found twice but by merges, and
    then the mapping is one that was merged into before its turn. -/
theorem overtaken_of_refused {g : Graph} {root : Nat} (hg : g.ValueFree)
    (honce : ∀ id, ¬ g.RepeatsKey Value.sameKey id) {t : Nat × Graph} (ht : t ∈ g.turns root)
    (hrefused : Refused t) : g.Overtaken root := by
  rcases t with ⟨id, now⟩
  rcases List.append_of_mem ht with ⟨before, after, hsplit⟩
  refine ⟨before, id, now, after, hsplit, hrefused, ?_⟩
  unfold Graph.turns at hsplit
  cases hb : (Builder.blank false g).make root with
  | error f => simp [hb] at hsplit
  | ok b =>
      simp only [hb] at hsplit
      have hq := make_queued (blank_queued false g) hb
      have hgraph : b.graph = g := make_graph hb
      rcases turn_found hq hsplit with ⟨hevolved, hfound⟩
      rw [hgraph] at hevolved hfound
      have hne : now.entries id ≠ g.entries id := by
        intro hsame
        exact honce id ((repeatsKey_congr _ hsame (hevolved.initial hg)).mp hrefused.2)
      rcases hfound hne with ⟨t, ht, hdraws⟩
      refine ⟨((hevolved.flat id trivial).resolve_left hne).1, t, ht, ?_, hdraws⟩
      -- It was not its own turn, since it has only one.
      have hnodup := (turns_nodup (g.size + 1) hq).1
      rw [hsplit, List.map_append, List.map_cons, List.nodup_append] at hnodup
      exact hnodup.2.2 t.1 (List.mem_map_of_mem ht) id (List.mem_cons_self ..)

/-- Mappings that are merged from without merging themselves are never overtaken. -/
theorem not_overtaken_of_flat {g : Graph} {root : Nat}
    (hflat : ∀ m x, g.Merges m x → ¬ g.HasMerge x) : ¬ g.Overtaken root := by
  rintro ⟨before, id, now, after, _, _, hhas, t, _, hne, hdraws⟩
  rcases Relation.ReflTransGen.cases_tail hdraws with heq | ⟨m, _, hstep⟩
  · exact hne heq.symm
  · exact hflat m id hstep hhas

/-- A text has a mapping with merges that is overtaken. -/
def Overtaken (text : String) : Prop :=
  ∃ root g, compose text.toList = .ok (some (root, g)) ∧ g.Overtaken root

/-- The nodes of a text, if it has any, are such that `p`. -/
def NodesAre (p : Graph → Prop) (text : String) : Prop :=
  ∀ root g, compose text.toList = .ok (some (root, g)) → p g

/-- No key of a mapping of a text is the one for the value of the mapping. -/
def ValueFree (text : String) : Prop := NodesAre Graph.ValueFree text

/-- No mapping of a text is written with two keys that are the same. Keys for merging are
    no values, and do not count. -/
def WrittenOnce (text : String) : Prop :=
  NodesAre (fun g => ∀ id, ¬ g.RepeatsKey Value.sameKey id) text

/-- A text without a key twice in a mapping is decoded with unique keys to the value that it
    is decoded to anyway, whatever it merges, unless a mapping is overtaken; and then it is
    refused. -/
theorem decode_merges (text : String) (v : Value) (hvalue : ValueFree text)
    (honce : WrittenOnce text) (h : decode false text = .ok v) :
    (¬ Overtaken text → decode true text = .ok v) ∧
      (Overtaken text → ∃ f, decode true text = .error f) := by
  unfold decode at h ⊢
  cases hcompose : compose text.toList with
  | error f =>
      rw [hcompose] at h
      cases h
  | ok found =>
      rw [hcompose] at h
      cases found with
      | none =>
          refine ⟨fun _ => h, ?_⟩
          rintro ⟨root, g, hg, _⟩
          rw [hcompose] at hg
          cases hg
      | some r =>
          rcases r with ⟨root, g⟩
          -- The text is composed to one graph only, so whether it is overtaken is said of this one.
          have hovertaken : Overtaken text ↔ g.Overtaken root := by
            constructor
            · rintro ⟨root', g', hg, ho⟩
              rw [hcompose] at hg
              cases hg
              exact ho
            · exact fun ho => ⟨root, g, hcompose, ho⟩
          have hg := hvalue root g hcompose
          have hconstruct := construct_turns root hg
          simp only [hovertaken, bind, Except.bind] at h ⊢
          rcases hconstruct.gives v h with ⟨hok, hnone⟩ | ⟨f, hf, ⟨t, ht, hrefused⟩, _⟩
          · refine ⟨fun _ => hok, ?_⟩
            rintro ⟨before, id, now, after, hsplit, hrefused, _⟩
            exact absurd hrefused (hnone _ (by rw [hsplit]; simp))
          · -- It is refused at a turn, and as no key is written twice, the keys met by merging.
            have ho := overtaken_of_refused hg (honce root g hcompose) ht hrefused
            exact ⟨fun hno => absurd ho hno, fun _ => ⟨f, hf⟩⟩

instance (p : Graph → Prop) [DecidablePred p] (text : String) : Decidable (NodesAre p text) :=
  match h : compose text.toList with
  | .ok (some (root, g)) => decidable_of_iff (p g) (by
      unfold NodesAre
      rw [h]
      exact ⟨fun hg root' g' heq => (by cases heq; exact hg), fun hg => hg root g rfl⟩)
  | .ok none => isTrue (by
      unfold NodesAre
      rw [h]
      intro root g heq
      cases heq)
  | .error f => isTrue (by
      unfold NodesAre
      rw [h]
      intro root g heq
      cases heq)

theorem not_repeatsKey_beyond {g : Graph} {id : Nat} (same : Value → Value → Bool)
    (h : g.size ≤ id) : ¬ g.RepeatsKey same id := by
  rintro ⟨before, j, k, after, v, w, hkeys, _⟩
  rw [entries_beyond h] at hkeys
  simp at hkeys

instance (g : Graph) : Decidable g.ValueFree :=
  decidable_of_iff (∀ id < g.size, ∀ e ∈ g.entries id, (g.node e.1).tag ≠ Tag.value)
    ⟨fun h id e he => h id (Graph.lt_of_entry he) e he, fun h id _ => h id⟩

instance : DecidablePred fun g : Graph => ∀ id, ¬ g.RepeatsKey Value.sameKey id := fun g =>
  decidable_of_iff (∀ id < g.size, ¬ g.RepeatsKey Value.sameKey id)
    ⟨fun h id => if hid : id < g.size then h id hid
      else not_repeatsKey_beyond _ (Nat.le_of_not_lt hid), fun h id _ => h id⟩

instance (text : String) : Decidable (ValueFree text) :=
  inferInstanceAs (Decidable (NodesAre _ text))

instance (text : String) : Decidable (WrittenOnce text) :=
  inferInstanceAs (Decidable (NodesAre _ text))

theorem isSome_iff {α : Type} {x : Except Fault α} :
    x.toOption.isSome = true ↔ ∃ a, x = .ok a := by
  cases x with
  | error f => exact ⟨fun h => (nomatch h), fun ⟨_, h⟩ => (nomatch h)⟩
  | ok a => exact ⟨fun _ => ⟨a, rfl⟩, fun _ => rfl⟩

/-- A mapping in which a merged key is given again. -/
def overriding : String := "a: &A {x: 1}\nb: {<<: *A, x: 2}"

/-- The same for a mapping within the merge of another one, which is referred to later. -/
def overridingWithin : String := "b: {<<: &A {<<: {x: 1}, x: 2}}\na: *A"

theorem overriding_decoded : ValueFree overriding ∧ WrittenOnce overriding ∧
    (decode false overriding).toOption.isSome = true ∧
    (decode true overriding).toOption.isSome = true := by
  decide +kernel

theorem overridingWithin_decoded : ValueFree overridingWithin ∧ WrittenOnce overridingWithin ∧
    (decode false overridingWithin).toOption.isSome = true ∧
    (decode true overridingWithin).toOption.isSome = false := by
  decide +kernel

/-- To give a merged key again does no harm by itself, but the mapping within is merged
    into too early. -/
theorem overtaken_overridingWithin : ¬ Overtaken overriding ∧ Overtaken overridingWithin := by
  constructor
  · rcases overriding_decoded with ⟨hvalue, honce, hok, hunique⟩
    rcases isSome_iff.mp hok with ⟨v, hv⟩
    rcases isSome_iff.mp hunique with ⟨w, hw⟩
    intro ho
    rcases (decode_merges _ v hvalue honce hv).2 ho with ⟨f, hf⟩
    rw [hw] at hf
    cases hf
  · rcases overridingWithin_decoded with ⟨hvalue, honce, hok, hunique⟩
    rcases isSome_iff.mp hok with ⟨v, hv⟩
    by_contra hno
    rw [(decode_merges _ v hvalue honce hv).1 hno] at hunique
    cases hunique

/-- So a text can be refused that is decoded otherwise and in which no mapping is written
    with a key twice. -/
theorem decode_merges_refused :
    ¬ ∀ text v, WrittenOnce text → decode false text = .ok v → decode true text = .ok v := by
  intro hall
  rcases overridingWithin_decoded with ⟨_, honce, hok, hunique⟩
  rcases isSome_iff.mp hok with ⟨v, hv⟩
  rw [hall _ v honce hv] at hunique
  cases hunique

end Yaml

end Annals
