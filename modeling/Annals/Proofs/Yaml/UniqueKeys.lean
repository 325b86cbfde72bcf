import Annals.Proofs.Yaml.Keys

/-!
# Unique Keys

What it changes for a text that keys must be unique: nothing, if they are.

Two keys are the same if they are equal or the very same mark of no number. The
second half matters: a mark of no number equals nothing, and still counts as the
same key if it is written twice in the common way.

The two constructions go on side by side, one collection after another. A
collection in which a key is repeated ends the one that refuses this, so what
remains to be shown is that none escapes: a collection with keys waits from the
moment it is made until it is filled, which is when its keys are compared, and in
the end nothing waits. `Clean` is the invariant for this.

## Main definitions

* `Repeats`: A text has a mapping with two keys that are the same.
* `PlainKeys`: No key of a text is one for merging.
* `Clean`: Of the collections with keys that no longer wait, none repeats a key.

## Theorems

* `fill_strict`: What it changes for one collection that keys must differ.
* `fillAll_strict`: And for all that wait.
* `decode_unique_iff`: A text is decoded with unique keys exactly if it is decoded
  and repeats no key.
-/

namespace Annals

namespace Yaml

/-- A mapping or a set that is constructed lists a key after another one that is the
    same. -/
def Graph.Repeats (g : Graph) (root : Nat) (same : Value → Value → Bool) : Prop :=
  ∃ id, Constructed g root id ∧ ((g.node id).tag = Tag.map ∨ (g.node id).tag = Tag.set) ∧
    g.RepeatsKey same id

/-- A text repeats a key in a mapping or a set that is constructed. -/
def Repeats (same : Value → Value → Bool) (text : String) : Prop :=
  ∃ root g, compose text.toList = .ok (some (root, g)) ∧ g.Repeats root same

/-- No key of a mapping of a text is one for merging or for the value of the mapping. -/
def PlainKeys (text : String) : Prop :=
  ∀ root g, compose text.toList = .ok (some (root, g)) → g.PlainKeys

theorem keyed_iff_tag {g : Graph} {id : Nat} {m : Made} (h : g.initial id = .ok m.emptied) :
    m.isKeyed = true ↔ (g.node id).tag = Tag.map ∨ (g.node id).tag = Tag.set := by
  have hform := initial_form h
  constructor
  · intro hk
    cases m with
    | mapping entries => exact Or.inl (by simpa [Made.emptied] using hform)
    | set members => exact Or.inr (by simpa [Made.emptied] using hform)
    | scalar v => cases hk
    | sequence items => cases hk
    | pairs pairs => cases hk
  · intro ht
    -- The tag alone says as what a node begins.
    have hsome : m.emptied = .mapping [] ∨ m.emptied = .set [] := by
      have hset : (Tag.set == Tag.map) = false := by decide
      have hseq : (Tag.set == Tag.seq) = false := by decide
      unfold Graph.initial at h
      rcases ht with ht | ht
      · simp only [ht, beq_self_eq_true, if_true, Except.ok.injEq] at h
        exact Or.inl h.symm
      · simp only [ht, hset, hseq, beq_self_eq_true, if_true, Bool.false_eq_true, if_false,
          Except.ok.injEq] at h
        exact Or.inr h.symm
    rw [← Made.isKeyed_emptied]
    rcases hsome with h' | h' <;> rw [h'] <;> rfl

/-- What it changes for one collection that keys must differ. -/
theorem fill_strict {b : Builder} {id : Nat} {m : Made} (hs : Shaped b)
    (hg : b.graph.ValueFree) (hu : b.uniqueKeys = false) (hm : b.made? id = some m) :
    Stricter (b.fill id) (b.strict.fill id) Builder.strict
      (fun _ => m.isKeyed = true → ¬ b.graph.RepeatsKey Value.sameKey id)
      (m.isKeyed = true ∧ b.graph.RepeatsKey Value.sameKey id)
      (m.isKeyed = true ∧ b.graph.RepeatsKey sameLongKey id) := by
  have hm' : b.strict.made? id = some m := hm
  have hnode : b.strict.node id = b.node id := rfl
  have hentries := mappingEntries_strict id hs hg hu
  cases m with
  | scalar v =>
      simp only [Builder.fill, hm, hm']
      exact Stricter.same rfl (fun _ _ => nofun)
  | sequence items =>
      simp only [Builder.fill, hm, hm', hnode]
      cases (b.node id).content with
      | sequence nodes =>
          refine Stricter.same ?_ (fun _ _ => nofun)
          simp only [Builder.makeAll_strict]
          cases Builder.makeAll nodes b <;> rfl
      | scalar text => exact Stricter.fault ⟨_, rfl⟩ ⟨_, rfl⟩
      | mapping entries => exact Stricter.fault ⟨_, rfl⟩ ⟨_, rfl⟩
  | mapping entries =>
      simp only [Builder.fill, hm, hm']
      -- Only what has keys can fail where it would not have failed before.
      refine hentries.bind (fun h => ⟨rfl, h⟩) (fun h => ⟨rfl, h⟩) (fun r _ hdiffer => ?_)
      exact Stricter.same rfl (fun _ _ _ => hdiffer)
  | set members =>
      simp only [Builder.fill, hm, hm']
      refine hentries.bind (fun h => ⟨rfl, h⟩) (fun h => ⟨rfl, h⟩) (fun r _ hdiffer => ?_)
      exact Stricter.same rfl (fun _ _ _ => hdiffer)
  | pairs pairs =>
      simp only [Builder.fill, hm, hm', hnode]
      cases (b.node id).content with
      | sequence items =>
          refine Stricter.same ?_ (fun _ _ => nofun)
          simp only [Builder.makePairs_strict]
          cases Builder.makePairs _ (b.node id).mark items b <;> rfl
      | scalar text => exact Stricter.fault ⟨_, rfl⟩ ⟨_, rfl⟩
      | mapping entries => exact Stricter.fault ⟨_, rfl⟩ ⟨_, rfl⟩

/-- Of the collections with keys that no longer wait, none repeats a key. -/
def Clean (b : Builder) : Prop :=
  ∀ id m, b.made? id = some m → m.isKeyed = true →
    id ∈ b.waiting ∨ ¬ b.graph.RepeatsKey Value.sameKey id

/-- A collection that is made begins to wait, and those that wait go on to do so. -/
theorem make_waiting {b b' : Builder} {id : Nat} (hs : Shaped b) (h : b.make id = .ok b') :
    (∀ x ∈ b.waiting, x ∈ b'.waiting) ∧
      ∀ x m, b'.made? x = some m → m.isScalar = false →
        b.made? x = some m ∨ x ∈ b'.waiting := by
  rcases Builder.make_eq_ok h with ⟨_, rfl⟩ | ⟨_, m, hi, rfl⟩
  · exact ⟨fun x hx => hx, fun x n hx _ => Or.inl hx⟩
  have hlt := Builder.lt_of_initial hs.size hi
  rw [Builder.waiting_start]
  constructor
  · exact fun x hx => List.mem_append.mpr (Or.inl hx)
  · intro x n hx hcol
    rw [Builder.made?_start b id x m hlt] at hx
    by_cases hxid : x = id
    · rw [if_pos hxid] at hx
      cases hx
      exact Or.inr (by simp [hcol, hxid])
    · rw [if_neg hxid] at hx
      exact Or.inl hx

theorem Makes.waiting {b b' : Builder} {ids : List Nat} (h : Makes b ids b') (hs : Shaped b) :
    (∀ x ∈ b.waiting, x ∈ b'.waiting) ∧
      ∀ x m, b'.made? x = some m → m.isScalar = false →
        b.made? x = some m ∨ x ∈ b'.waiting := by
  induction h with
  | nil => exact ⟨fun x hx => hx, fun x m hx _ => Or.inl hx⟩
  | cons hmake _ ih =>
      rcases make_waiting hs hmake with ⟨hkeep, hnew⟩
      rcases ih (make_shaped hs hmake) with ⟨hkeep', hnew'⟩
      refine ⟨fun x hx => hkeep' x (hkeep x hx), fun x m hx hcol => ?_⟩
      rcases hnew' x m hx hcol with hx1 | hx1
      · rcases hnew x m hx1 hcol with hx0 | hx0
        · exact Or.inl hx0
        · exact Or.inr (hkeep' x hx0)
      · exact Or.inr hx1

/-- A collection that was filled without a repeated key leaves a builder clean. -/
theorem fill_clean {g : Graph} {root id : Nat} {rest : List Nat} {b b' : Builder} {m : Made}
    (hs : Sound g root [] b) (hg : g.PlainKeys) (hu : b.uniqueKeys = false)
    (hw : b.waiting = id :: rest) (hm : b.made? id = some m)
    (hdiffer : m.isKeyed = true → ¬ g.RepeatsKey Value.sameKey id) (hclean : Clean b)
    (h : b.popped.fill id = .ok b') : Clean b' := by
  have hpop := popped_sound hs hw
  have hcol : m.isScalar = false := by
    rcases hs.waits id (by rw [hw]; exact List.mem_cons_self ..) with ⟨n, hn, hcol⟩
    rw [hm] at hn
    cases hn
    exact hcol
  rcases fill_makes hpop hg hu hm hcol h with ⟨ids, b1, filled, hmakes, rfl, hf, hids⟩
  have hreach : ∀ x ∈ ids, Constructed g root x := fun x hx =>
    Constructed.part (hs.reached id m hm) ((hids x).mp hx)
  have hs1 := hmakes.sound hpop hreach
  have hlt := Builder.lt_of_made (hmakes.grows hpop hreach id m hm)
  rcases hmakes.waiting hpop.shaped with ⟨hkeep, hnew⟩
  intro x n hx hk
  rw [Builder.made?_set b1 id x filled hlt] at hx
  rw [Builder.graph_set, Builder.waiting_set, hs1.graph]
  by_cases hxid : x = id
  · -- The collection that was filled, of which it is known.
    rw [if_pos hxid] at hx
    cases hx
    rw [hxid]
    refine Or.inr (hdiffer ?_)
    rw [← Made.isKeyed_emptied m, ← hf, Made.isKeyed_emptied]
    exact hk
  · -- Any other one was there before, or is a part that waits from now on.
    rw [if_neg hxid] at hx
    rcases hnew x n hx (Made.isScalar_of_isKeyed hk) with hold | hwait
    · rcases hclean x n hold hk with hwait | hno
      · rw [hw] at hwait
        rcases List.mem_cons.mp hwait with heq | hrest
        · exact absurd heq hxid
        · exact Or.inl (hkeep x (by simp [Builder.popped, hw, hrest]))
      · rw [hs.graph] at hno
        exact Or.inr hno
    · exact Or.inl hwait

/-- What it changes for the collections that wait that keys must differ: the two
    constructions go on together until the first key that is repeated. -/
theorem fillAll_strict (fuel : Nat) {g : Graph} {root : Nat} {b : Builder} (hs : Sound g root [] b)
    (hg : g.PlainKeys) (hu : b.uniqueKeys = false) (hclean : Clean b) :
    Stricter (b.fillAll fuel) (b.strict.fillAll fuel) Builder.strict Clean
      (g.Repeats root Value.sameKey) (g.Repeats root sameLongKey) := by
  induction fuel generalizing b with
  | zero => exact Stricter.same rfl (fun b1 h1 => by cases h1; exact hclean)
  | succ n ih =>
      cases hw : b.waiting with
      | nil =>
          have hw' : b.strict.waiting = [] := hw
          simp only [Builder.fillAll, hw, hw']
          exact Stricter.same rfl (fun b1 h1 => by cases h1; exact hclean)
      | cons id rest =>
          rw [fillAll_cons n id rest b hw, fillAll_cons n id rest b.strict hw]
          have hpop := popped_sound hs hw
          have hsame : b.strict.popped = b.popped.strict := rfl
          rcases hs.waits id (by rw [hw]; exact List.mem_cons_self ..) with ⟨m, hm, hcol⟩
          have hreach := hs.reached id m hm
          have hgraph : b.popped.graph = g := hs.graph
          have hfill := fill_strict hpop.shaped (hgraph.symm ▸ hg.valueFree) hu hm
          have hfound : ∀ same, m.isKeyed = true ∧ g.RepeatsKey same id → g.Repeats root same :=
            fun same h => ⟨id, hreach, (keyed_iff_tag (hs.shape id m hm)).mp h.1, h.2⟩
          rw [hgraph] at hfill
          rw [hsame]
          refine hfill.bind (hfound _) (hfound _) (fun b2 hfilled hdiffer => ?_)
          -- No key is repeated in this one, and the others follow.
          rcases fill_step hs hg hu hw hfilled with ⟨hs2, hu2, _, _⟩
          exact ih hs2 hu2 (fill_clean hs hg hu hw hm hdiffer hclean hfilled)

theorem Builder.value_strict (b : Builder) (fuel : Nat) (around : List Nat) (id : Nat) :
    b.strict.value fuel around id = b.value fuel around id := by
  have hmade : ∀ x, b.strict.made? x = b.made? x := fun _ => rfl
  induction fuel generalizing around id with
  | zero => rfl
  | succ n ih =>
      have hfun : ∀ around, b.strict.value n around = b.value n around := fun around =>
        funext (fun x => ih around x)
      simp only [Builder.value, hmade, hfun]

/-- When nothing waits any more in a clean builder, no key is repeated in the document. -/
theorem not_repeats_of_clean {g : Graph} {root : Nat} {b : Builder} (hs : Sound g root [] b)
    (hw : b.waiting = []) (hroot : (b.made? root).isSome) (hclean : Clean b) :
    ¬ g.Repeats root Value.sameKey := by
  rintro ⟨id, hid, htag, hrepeats⟩
  rcases Option.isSome_iff_exists.mp (constructed_made hs hw hroot id hid) with ⟨m, hm⟩
  have hk := (keyed_iff_tag (hs.shape id m hm)).mpr htag
  rcases hclean id m hm hk with hwait | hno
  · rw [hw] at hwait
    exact absurd hwait (List.not_mem_nil)
  · rw [hs.graph] at hno
    exact hno hrepeats

/-- What it changes for a document that its keys must differ. -/
theorem construct_strict (root : Nat) {g : Graph} (hg : g.PlainKeys) :
    Stricter (construct false root g) (construct true root g) (fun v => v)
      (fun _ => ¬ g.Repeats root Value.sameKey)
      (g.Repeats root Value.sameKey) (g.Repeats root sameLongKey) := by
  have hs := blank_sound false g root
  have hunfold : ∀ u, construct u root g = (Builder.blank u g).make root >>= fun b =>
      b.fillAll (g.size + 1) >>= fun b => .ok (b.value (g.size + 1) [] root) := fun _ => rfl
  have hblank : (Builder.blank true g).make root
      = ((Builder.blank false g).make root).map Builder.strict :=
    Builder.make_strict (Builder.blank false g) root
  rw [hunfold, hunfold]
  -- The outermost node is made, the collections are filled, and the value is put together.
  have hmake : Stricter _ _ _ (fun _ => True) False False :=
    Stricter.same hblank (fun _ _ => trivial)
  refine hmake.bind False.elim False.elim (fun b hb _ => ?_)
  have hs1 := make_sound hs Constructed.root hb
  have hu1 : b.uniqueKeys = false := make_uniqueKeys hb
  have hclean : Clean b := by
    intro id m hm hk
    rcases (make_waiting hs.shaped hb).2 id m hm (Made.isScalar_of_isKeyed hk) with h | h
    · rw [Builder.made?_blank] at h
      cases h
    · exact Or.inl h
  have hleft : b.left ≤ g.size + 1 :=
    Nat.le_trans (make_left hs hb) (Nat.le_succ_of_le (blank_left false g))
  refine (fillAll_strict (g.size + 1) hs1 hg hu1 hclean).bind (fun h => h) (fun h => h)
    (fun b2 hfill hclean2 => ?_)
  refine Stricter.same ?_ (fun _ _ => ?_)
  · rw [Builder.value_strict]
    rfl
  · rcases fillAll_sound hs1 hg hu1 hleft hfill with ⟨hs2, hempty, hknown⟩
    exact not_repeats_of_clean hs2 hempty (hknown root (make_made hs hb)) hclean2

/-- Without keys for merging, a text is decoded with unique keys exactly if it is decoded
    at all and repeats no key, and to the same value. If it does repeat one, this is named
    as a problem of the text, unless a repeated key is too long to be shown. -/
theorem decode_unique_iff (text : String) (hplain : PlainKeys text) :
    (∀ v, decode true text = .ok v ↔
      decode false text = .ok v ∧ ¬ Repeats Value.sameKey text) ∧
    ∀ v, decode false text = .ok v → Repeats Value.sameKey text →
      ¬ Repeats sameLongKey text →
      ∃ f named, decode true text = .error f ∧ f.named? text.toList.toArray = some named := by
  unfold decode
  cases hcompose : compose text.toList with
  | error f =>
      -- Nothing is composed, so neither construction takes place.
      refine ⟨fun v => ⟨fun h => (by cases h), fun h => (by cases h.1)⟩, fun v h => (by cases h)⟩
  | ok found =>
      cases found with
      | none =>
          -- There is no document, and so no mapping.
          have hno : ¬ Repeats Value.sameKey text := by
            rintro ⟨root, g, hg, _⟩
            rw [hcompose] at hg
            cases hg
          exact ⟨fun v => ⟨fun h => ⟨h, hno⟩, fun h => h.1⟩, fun v _ h => absurd h hno⟩
      | some r =>
          rcases r with ⟨root, g⟩
          have hrepeats : ∀ same, Repeats same text ↔ g.Repeats root same := by
            intro same
            constructor
            · rintro ⟨root', g', hg, h⟩
              rw [hcompose] at hg
              cases hg
              exact h
            · exact fun h => ⟨root, g, hcompose, h⟩
          have hconstruct := construct_strict root (hplain root g hcompose)
          simp only [hrepeats, bind, Except.bind]
          constructor
          · intro v
            constructor
            · intro h
              cases hl : construct false root g with
              | error f =>
                  rcases hconstruct.fails f hl with ⟨f', hf'⟩
                  rw [hf'] at h
                  cases h
              | ok w =>
                  rcases hconstruct.gives w hl with ⟨hok, hno⟩ | ⟨f, hf, _⟩
                  · rw [hok] at h
                    exact ⟨h, hno⟩
                  · rw [hf] at h
                    cases h
            · rintro ⟨h, hno⟩
              rcases hconstruct.gives v h with ⟨hok, _⟩ | ⟨_, _, hrep, _⟩
              · exact hok
              · exact absurd hrep hno
          · intro v h hrep hshort
            rcases hconstruct.gives v h with ⟨_, hno⟩ | ⟨f, hf, _, ⟨p, rfl⟩ | hlong⟩
            · exact absurd hrep hno
            · exact ⟨_, _, hf, rfl⟩
            · exact absurd hlong hshort

/-- Whether two keys are equal. A mark of no number equals nothing, not even itself. -/
def equalKey (v w : Value) : Bool :=
  match v, w with
  | .float (.nan _), .float (.nan _) => false
  | v, w => v.sameKey w

theorem plainKeys_iff (g : Graph) : g.PlainKeys ↔ ∀ id < g.size, ∀ e ∈ g.entries id,
    (g.node e.1).tag ≠ Tag.merge ∧ (g.node e.1).tag ≠ Tag.value := by
  constructor
  · exact fun h id _ => h id
  · intro h id e he
    by_cases hid : id < g.size
    · exact h id hid e he
    · rw [entries_beyond (Nat.le_of_not_lt hid)] at he
      exact absurd he (List.not_mem_nil)

instance (g : Graph) : Decidable g.PlainKeys := decidable_of_iff _ (plainKeys_iff g).symm

instance (text : String) : Decidable (PlainKeys text) :=
  match h : compose text.toList with
  | .ok (some (root, g)) => decidable_of_iff g.PlainKeys (by
      unfold PlainKeys
      rw [h]
      exact ⟨fun hg root' g' heq => (by cases heq; exact hg), fun hg => hg root g rfl⟩)
  | .ok none => isTrue (by
      unfold PlainKeys
      rw [h]
      intro root g heq
      cases heq)
  | .error f => isTrue (by
      unfold PlainKeys
      rw [h]
      intro root g heq
      cases heq)

theorem repeatsKey_iff (g : Graph) (same : Value → Value → Bool) (id : Nat) :
    g.RepeatsKey same id ↔ ¬ ((g.entries id).map Prod.fst).Pairwise fun j k =>
      ∀ v ∈ g.keyValue? j, ∀ w ∈ g.keyValue? k, same v w = false := by
  rw [List.pairwise_iff_forall_sublist]
  constructor
  · rintro ⟨before, j, k, after, v, w, hkeys, hj, hv, hw, hsame⟩ hall
    -- The one key stands before the other, so both are a part of the keys in this order.
    have hsub : [j, k].Sublist ((g.entries id).map Prod.fst) := by
      rw [hkeys]
      have hone : [j].Sublist before := List.singleton_sublist.mpr hj
      have htwo : [k].Sublist (k :: after) := List.singleton_sublist.mpr (List.mem_cons_self ..)
      exact hone.append htwo
    rw [hall hsub v hv w hw] at hsame
    cases hsame
  · intro hnot
    push Not at hnot
    rcases hnot with ⟨j, k, hsub, v, hv, w, hw, hsame⟩
    rcases List.cons_sublist_iff.mp hsub with ⟨before, more, hkeys, hj, hk⟩
    rcases List.append_of_mem (List.singleton_sublist.mp hk) with ⟨between, after, rfl⟩
    refine ⟨before ++ between, j, k, after, v, w, ?_, ?_, hv, hw, ?_⟩
    · rw [hkeys, List.append_assoc]
    · exact List.mem_append.mpr (Or.inl hj)
    · exact Bool.eq_true_of_not_eq_false hsame

instance (g : Graph) (same : Value → Value → Bool) (id : Nat) :
    Decidable (g.RepeatsKey same id) :=
  decidable_of_iff _ (repeatsKey_iff g same id).symm

/-- Whether a node of a text repeats a key, be it constructed or not. -/
def repeatsAnywhere (same : Value → Value → Bool) (text : String) : Bool :=
  match compose text.toList with
  | .ok (some (_, g)) => (List.range g.size).any fun id => g.RepeatsKey same id
  | _ => false

theorem not_repeats {same : Value → Value → Bool} {text : String}
    (h : repeatsAnywhere same text = false) : ¬ Repeats same text := by
  rintro ⟨root, g, hg, id, _, _, hrep⟩
  have hid : id < g.size := by
    by_contra hge
    rcases hrep with ⟨before, j, k, after, v, w, hkeys, _⟩
    rw [entries_beyond (Nat.le_of_not_lt hge)] at hkeys
    simp at hkeys
  unfold repeatsAnywhere at h
  rw [hg] at h
  have hany : ((List.range g.size).any fun id => decide (g.RepeatsKey same id)) = true :=
    List.any_eq_true.mpr ⟨id, List.mem_range.mpr hid, decide_eq_true hrep⟩
  exact Bool.noConfusion (hany.symm.trans h)

/-- A text of which a test of its nodes holds has nodes. -/
theorem exists_composed (text : String) (p : Nat → Graph → Bool)
    (h : (compose text.toList).toOption.join.any (fun r => p r.1 r.2) = true) :
    ∃ root g, compose text.toList = .ok (some (root, g)) ∧ p root g = true := by
  rcases (Option.any_eq_true _ _).mp h with ⟨r, hr, hp⟩
  refine ⟨r.1, r.2, ?_, hp⟩
  cases hc : compose text.toList with
  | error f =>
      rw [hc] at hr
      cases hr
  | ok found =>
      rw [hc] at hr
      exact congrArg Except.ok (Option.some.inj (Option.join_eq_some_iff.mp hr))

/-- Truth values are the numbers 1 and 0, so this mapping has a key twice. -/
theorem decode_unique_truth_value :
    ∃ f named, decode true "1: a\ntrue: b" = .error f ∧
      f.named? "1: a\ntrue: b".toList.toArray = some named := by
  have hplain : PlainKeys "1: a\ntrue: b" := by decide +kernel
  have hshort : ¬ Repeats sameLongKey "1: a\ntrue: b" := not_repeats (by decide +kernel)
  rcases exists_composed "1: a\ntrue: b" (fun root g => decide ((g.node root).tag = Tag.map ∧
    g.RepeatsKey Value.sameKey root)) (by decide +kernel) with ⟨root, g, hg, hp⟩
  rcases of_decide_eq_true hp with ⟨htag, hrep⟩
  have hrepeats : Repeats Value.sameKey "1: a\ntrue: b" :=
    ⟨root, g, hg, root, Constructed.root, Or.inl htag, hrep⟩
  cases hv : decode false "1: a\ntrue: b" with
  | error f =>
      have hok : (decode false "1: a\ntrue: b").toOption.isSome = true := by decide +kernel
      rw [hv] at hok
      cases hok
  | ok v => exact (decode_unique_iff _ hplain).2 v hv hrepeats hshort

/-- A mark of no number equals nothing, and still is refused as a repeated key. -/
theorem decode_unique_no_number :
    PlainKeys ".nan: 1\n.nan: 2" ∧
      ¬ ∀ v, decode true ".nan: 1\n.nan: 2" = .ok v ↔
        decode false ".nan: 1\n.nan: 2" = .ok v ∧ ¬ Repeats equalKey ".nan: 1\n.nan: 2" := by
  refine ⟨by decide +kernel, fun h => ?_⟩
  have hdiffer : ¬ Repeats equalKey ".nan: 1\n.nan: 2" := not_repeats (by decide +kernel)
  have hrefused : (decode true ".nan: 1\n.nan: 2").toOption.isSome = false := by decide +kernel
  cases hv : decode false ".nan: 1\n.nan: 2" with
  | error f =>
      have hok : (decode false ".nan: 1\n.nan: 2").toOption.isSome = true := by decide +kernel
      rw [hv] at hok
      cases hok
  | ok v =>
      rw [(h v).mpr ⟨hv, hdiffer⟩] at hrefused
      cases hrefused

end Yaml

end Annals
