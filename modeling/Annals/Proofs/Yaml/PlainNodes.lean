import Annals.Proofs.Yaml.UniqueKeys

/-!
# Nodes without Surprises

The construction of a document whose nodes are scalars that can be read, lists, and
mappings with strings for keys that differ.

Of such nodes everything can be made, and what a collection is when it has been filled
can be told from its node alone. So the construction succeeds, whether or not keys must
be unique, and in the end each node it came to is `whole`. Until then a collection is
whole or waits or is being filled; this is the invariant.

## Main definitions

* `Graph.IsString`: A node is a string.
* `PlainNode`: A node is a scalar that can be read, a list, or a mapping of strings that
  differ.
* `Graph.whole`: What is made of a node in the end.
* `Whole`: What was made and no longer waits is whole.

## Theorems

* `fill_whole`: Filling a collection makes it whole.
* `construct_plain`: A document of plain nodes is constructed, and all of it is whole.
-/

namespace Annals

namespace Yaml

/-- A node is a string. -/
def Graph.IsString (g : Graph) (id : Nat) (text : String) : Prop :=
  (g.node id).tag = Tag.str ∧ (g.node id).content = .scalar text

/-- The text of a node that is a scalar. -/
def Graph.keyText (g : Graph) (id : Nat) : String :=
  match (g.node id).content with
  | .scalar text => text
  | _ => ""

/-- A node that is a scalar that can be read, a list, or a mapping with strings for keys that
    differ. -/
inductive PlainNode (g : Graph) (id : Nat) : Prop where
  | scalar {text : String} {v : Value} :
      (g.node id).content = .scalar text → g.initial id = .ok (.scalar v) → PlainNode g id
  | sequence {items : List Nat} :
      (g.node id).tag = Tag.seq → (g.node id).content = .sequence items →
      (∀ x ∈ items, x < g.size) → PlainNode g id
  | mapping {entries : List (Nat × Nat)} :
      (g.node id).tag = Tag.map → (g.node id).content = .mapping entries →
      (∀ e ∈ entries, g.IsString e.1 (g.keyText e.1)) → (∀ e ∈ entries, e.2 < g.size) →
      (entries.map fun e => g.keyText e.1).Nodup → PlainNode g id

/-- What is made of a node in the end. For a scalar this is what is made of it at first. -/
def Graph.whole (g : Graph) (id : Nat) : Made :=
  match (g.node id).content with
  | .scalar _ => (g.initial id).toOption.getD (.scalar .null)
  | .sequence items => .sequence items
  | .mapping entries => .mapping (entries.map fun e => (.text (g.keyText e.1), e.2))

/-- What was made and neither waits nor is being filled is whole. -/
def Whole (g : Graph) (busy : List Nat) (b : Builder) : Prop :=
  ∀ id m, b.made? id = some m → id ∈ b.waiting ∨ id ∈ busy ∨ m = g.whole id

variable {g : Graph} {root id : Nat} {busy ids : List Nat} {b b' : Builder} {m : Made} {text : String}

theorem initial_string (h : g.IsString id text) : g.initial id = .ok (.scalar (.text text)) := by
  have hscalar : g.scalar id = .ok (.text text) := by
    unfold Graph.scalar Graph.text scalarText
    simp only [h.1, h.2]
    rfl
  have htag : (Tag.str == Tag.map) = false ∧ (Tag.str == Tag.seq) = false ∧
      (Tag.str == Tag.set) = false ∧ (Tag.str == Tag.omap || Tag.str == Tag.pairs) = false := by
    decide
  unfold Graph.initial
  simp only [h.1, htag, Bool.false_eq_true, if_false, hscalar]
  rfl

theorem initial_sequence (h : (g.node id).tag = Tag.seq) : g.initial id = .ok (.sequence []) := by
  have htag : (Tag.seq == Tag.map) = false := by decide
  unfold Graph.initial
  simp only [h, htag, beq_self_eq_true, Bool.false_eq_true, if_false, if_true]

theorem initial_mapping (h : (g.node id).tag = Tag.map) : g.initial id = .ok (.mapping []) := by
  unfold Graph.initial
  simp only [h, beq_self_eq_true, if_true]

theorem PlainNode.string (h : g.IsString id text) : PlainNode g id :=
  .scalar h.2 (initial_string h)

theorem whole_of_scalar {v : Value} (hcontent : (g.node id).content = .scalar text)
    (h : g.initial id = .ok (.scalar v)) : g.whole id = .scalar v := by
  unfold Graph.whole
  rw [hcontent, h]
  rfl

/-- A plain node can be made, and is whole at once if it has no parts. -/
theorem PlainNode.initial (h : PlainNode g id) :
    ∃ m, g.initial id = .ok m ∧ (m.isScalar = true → m = g.whole id) := by
  cases h with
  | scalar hcontent hinitial =>
      exact ⟨_, hinitial, fun _ => (whole_of_scalar hcontent hinitial).symm⟩
  | sequence htag _ _ => exact ⟨_, initial_sequence htag, fun h => by cases h⟩
  | mapping htag _ _ _ _ => exact ⟨_, initial_mapping htag, fun h => by cases h⟩

theorem PlainNode.make (h : PlainNode g id) (hb : b.graph = g) : ∃ b', b.make id = .ok b' := by
  cases hm : b.made? id with
  | some m => exact ⟨b, Builder.make_of_made hm⟩
  | none =>
      rcases h.initial with ⟨m, hinitial, _⟩
      exact ⟨b.start id m, by rw [Builder.make_of_unmade hm, hb, hinitial]; rfl⟩

/-- What is made is whole or waits. -/
theorem make_whole (hs : Sound g root busy b) (hplain : PlainNode g id) (hwhole : Whole g busy b)
    (h : b.make id = .ok b') : Whole g busy b' := by
  rcases Builder.make_eq_ok h with ⟨_, rfl⟩ | ⟨_, m, hinitial, rfl⟩
  · exact hwhole
  intro x n hx
  rw [Builder.made?_start b id x m (hs.lt hinitial)] at hx
  rw [Builder.waiting_start]
  -- The new one waits if it is a collection, and is a whole value if it is a scalar.
  by_cases hxid : x = id
  · rw [if_pos hxid] at hx
    cases hx
    rcases hplain.initial with ⟨m', hinitial', hscalar⟩
    rw [hs.graph, hinitial'] at hinitial
    cases hinitial
    cases hm : m.isScalar with
    | true => exact Or.inr (Or.inr (by rw [hxid]; exact hscalar hm))
    | false => exact Or.inl (by simp [hxid])
  · rw [if_neg hxid] at hx
    exact (hwhole x n hx).imp_left (List.mem_append_left _)

theorem Makes.whole (h : Makes b ids b') (hs : Sound g root busy b)
    (hids : ∀ id ∈ ids, Constructed g root id) (hplain : ∀ id ∈ ids, PlainNode g id)
    (hwhole : Whole g busy b) : Whole g busy b' := by
  induction h with
  | nil => exact hwhole
  | cons hmake _ ih =>
      exact ih (make_sound hs (hids _ (List.mem_cons_self ..)) hmake)
        (fun x hx => hids x (List.mem_cons_of_mem _ hx))
        (fun x hx => hplain x (List.mem_cons_of_mem _ hx))
        (make_whole hs (hplain _ (List.mem_cons_self ..)) hwhole hmake)

theorem makeAll_ok {items : List Nat} (hb : b.graph = g) (hplain : ∀ x ∈ items, PlainNode g x) :
    ∃ b', Builder.makeAll items b = .ok b' := by
  induction items generalizing b with
  | nil => exact ⟨b, rfl⟩
  | cons x rest ih =>
      rcases (hplain x (List.mem_cons_self ..)).make hb with ⟨b1, hmake⟩
      rcases ih ((make_graph hmake).trans hb) (fun y hy => hplain y (List.mem_cons_of_mem _ hy))
        with ⟨b', hrest⟩
      exact ⟨b', by rw [Builder.makeAll, hmake, ok_bind, hrest]⟩

/-- A string that was made is a key. -/
theorem key?_of_made (hs : Sound g root busy b) (hstring : g.IsString id text)
    (h : (b.made? id).isSome) : b.key? id = some (.text text) := by
  rcases Option.isSome_iff_exists.mp h with ⟨m, hm⟩
  have hshape := hs.shape id m hm
  rw [initial_string hstring] at hshape
  rw [Made.emptied_eq_scalar (Except.ok.inj hshape).symm] at hm
  unfold Builder.key?
  rw [hm]

theorem makeEntries_ok {entries : List (Nat × Nat)} (start : Mark) (done : List (Value × Nat))
    (hs : Sound g root busy b) (hreach : ∀ x ∈ entryNodes entries, Constructed g root x)
    (hkey : ∀ e ∈ entries, g.IsString e.1 (g.keyText e.1))
    (hvalue : ∀ e ∈ entries, PlainNode g e.2) :
    ∃ b', Builder.makeEntries start done entries b
      = .ok (done.reverse ++ entries.map (fun e => (.text (g.keyText e.1), e.2)), b') := by
  induction entries generalizing b done with
  | nil => exact ⟨b, by simp [Builder.makeEntries]⟩
  | cons e rest ih =>
      rcases e with ⟨key, value⟩
      have hhead : (key, value) ∈ (key, value) :: rest := List.mem_cons_self ..
      have hkeyed := hreach key (List.mem_cons_self ..)
      have hvalued := hreach value (List.mem_cons_of_mem _ (List.mem_cons_self ..))
      rcases (PlainNode.string (hkey _ hhead)).make hs.graph with ⟨b1, hmake1⟩
      -- Each node that is made leaves the builder sound for the next one.
      have hs1 := make_sound hs hkeyed hmake1
      rcases (hvalue _ hhead).make hs1.graph with ⟨b2, hmake2⟩
      have hs2 := make_sound hs1 hvalued hmake2
      rcases ih ((.text (g.keyText key), value) :: done) hs2
        (fun x hx => hreach x (List.mem_cons_of_mem _ (List.mem_cons_of_mem _ hx)))
        (fun e he => hkey e (List.mem_cons_of_mem _ he))
        (fun e he => hvalue e (List.mem_cons_of_mem _ he)) with ⟨b', hrest⟩
      refine ⟨b', ?_⟩
      unfold Builder.makeEntries
      rw [hmake1, ok_bind, key?_of_made hs1 (hkey _ hhead) (make_made hs hmake1)]
      simp only [hmake2, ok_bind, hrest, List.reverse_cons, List.append_assoc, List.map_cons,
        List.singleton_append]

/-- Entries whose keys are texts that differ from each other and from those before them are
    put behind these. -/
theorem foldl_distinct (done entries : List (String × Nat))
    (h : ((done ++ entries).map Prod.fst).Nodup) :
    (entries.map fun e => (Value.text e.1, e.2)).foldl (fun done (key, value) =>
      if done.any (·.1.sameKey key) then
        done.map fun (k, v) => (k, if k.sameKey key then value else v)
      else done ++ [(key, value)]) (done.map fun e => (.text e.1, e.2))
    = (done ++ entries).map fun e => (.text e.1, e.2) := by
  induction entries generalizing done with
  | nil => simp
  | cons e rest ih =>
      -- The key is none of those before it, so its entry is put behind them.
      have hnew : (done.map fun e => (Value.text e.1, e.2)).any (·.1.sameKey (.text e.1)) = false := by
        rw [List.any_eq_false]
        rintro ⟨k, v⟩ hk
        rcases List.mem_map.mp hk with ⟨d, hd, heq⟩
        cases heq
        have hne : d.1 ≠ e.1 := by
          rw [List.map_append, List.map_cons] at h
          exact (List.nodup_append.mp h).2.2 _ (List.mem_map_of_mem hd) _ (List.mem_cons_self ..)
        simpa [Value.sameKey] using hne
      have hmore := ih (done ++ [e]) (by simpa using h)
      simp only [List.map_cons, List.foldl_cons, hnew, Bool.false_eq_true, if_false]
      simpa using hmore

/-- Entries whose keys are texts that differ stay as they are. -/
theorem settled_distinct (entries : List (String × Nat)) (h : (entries.map Prod.fst).Nodup) :
    Builder.settled (entries.map fun e => (.text e.1, e.2)) = entries.map fun e => (.text e.1, e.2) := by
  simpa [Builder.settled] using foldl_distinct [] entries (by simpa using h)

/-- When the parts of a collection have been made and it is put in as a whole, nothing is
    being filled any more. -/
theorem Makes.set_whole (h : Makes b ids b') (hs : Sound g root [id] b)
    (hids : ∀ x ∈ ids, Constructed g root x) (hplain : ∀ x ∈ ids, PlainNode g x)
    (hm : b.made? id = some m) (hwhole : Whole g [id] b) : Whole g [] (b'.set id (g.whole id)) := by
  have hm' := h.grows hs hids id m hm
  have hwhole' := h.whole hs hids hplain hwhole
  intro x n hx
  rw [Builder.made?_set b' id x _ (Builder.lt_of_made hm')] at hx
  rw [Builder.waiting_set]
  by_cases hxid : x = id
  · rw [if_pos hxid] at hx
    cases hx
    exact Or.inr (Or.inr (by rw [hxid]))
  · rw [if_neg hxid] at hx
    exact (hwhole' x n hx).imp_right
      (Or.imp_left (fun h => absurd (List.mem_singleton.mp h) hxid))

/-- The entries of a mapping of strings that differ, as they stand. -/
theorem mappingEntries_plain {entries : List (Nat × Nat)} (hs : Sound g root busy b)
    (hkeys : g.PlainKeys) (hu : b.uniqueKeys = false)
    (hcontent : (g.node id).content = .mapping entries)
    (hreach : ∀ x ∈ entryNodes entries, Constructed g root x)
    (hstrings : ∀ e ∈ entries, g.IsString e.1 (g.keyText e.1))
    (hvalues : ∀ e ∈ entries, PlainNode g e.2)
    (hdiffer : (entries.map fun e => g.keyText e.1).Nodup) :
    ∃ b', Builder.makeEntries (g.node id).mark [] entries b
        = .ok (entries.map (fun e => (.text (g.keyText e.1), e.2)), b') ∧
      b.mappingEntries id = .ok (entries.map fun e => (.text (g.keyText e.1), e.2), b') := by
  have hnode : b.node id = g.node id := by rw [← hs.graph]; rfl
  have hentries : g.entries id = entries := by
    unfold Graph.entries
    rw [hcontent]
  rcases makeEntries_ok (g.node id).mark [] hs hreach hstrings hvalues with ⟨b', hmade⟩
  refine ⟨b', by simpa using hmade, ?_⟩
  have hsettled := settled_distinct (entries.map fun e => (g.keyText e.1, e.2))
    (by simpa [List.map_map, Function.comp_def] using hdiffer)
  rw [List.map_map] at hsettled
  -- Nothing is merged and no keys are compared, so the entries are made as they stand.
  have hflat : b.flatten id = .ok b := Builder.flatten_plain (hs.graph ▸ hkeys) id
  have hchecked : b.checkKeys id = .ok b := by
    unfold Builder.checkKeys
    rw [hu]
    rfl
  unfold Builder.mappingEntries
  simp only [hchecked, ok_bind, hnode, hcontent, hflat, hs.graph, hentries, hmade,
    List.reverse_nil, List.nil_append]
  exact congrArg (fun done => Except.ok (done, b')) hsettled

/-- Filling a collection makes its parts, and then it is whole. -/
theorem fill_whole (hplain : ∀ x < g.size, PlainNode g x) (hkeys : g.PlainKeys)
    (hs : Sound g root [id] b) (hu : b.uniqueKeys = false) (hm : b.made? id = some m)
    (hcol : m.isScalar = false) (hwhole : Whole g [id] b) :
    ∃ b', b.fill id = .ok b' ∧ Whole g [] b' := by
  have hid : id < g.size := hs.size ▸ Builder.lt_of_made hm
  have hnode : b.node id = g.node id := by rw [← hs.graph]; rfl
  have hshape := hs.shape id m hm
  cases hplain id hid with
  | scalar _ hinitial =>
      rw [hinitial] at hshape
      rw [Made.emptied_eq_scalar (Except.ok.inj hshape).symm] at hcol
      cases hcol
  | @sequence items htag hcontent hitems =>
      rw [initial_sequence htag] at hshape
      rcases Made.emptied_eq_sequence (Except.ok.inj hshape).symm with ⟨old, rfl⟩
      have hparts : ∀ x ∈ items, PlainNode g x := fun x hx => hplain x (hitems x hx)
      have hreach : ∀ x ∈ items, Constructed g root x := fun x hx =>
        .part (hs.reached id _ hm) (.item htag hcontent hx)
      rcases makeAll_ok hs.graph hparts with ⟨b1, hmade⟩
      refine ⟨b1.set id (g.whole id), ?_,
        (Builder.makeAll_makes hmade).set_whole hs hreach hparts hm hwhole⟩
      unfold Builder.fill
      simp only [hm, hnode, hcontent, hmade, ok_bind]
      unfold Graph.whole
      rw [hcontent]
      rfl
  | @mapping entries htag hcontent hstrings hvalues hdiffer =>
      rw [initial_mapping htag] at hshape
      rcases Made.emptied_eq_mapping (Except.ok.inj hshape).symm with ⟨old, rfl⟩
      -- The parts are the keys, which are strings, and the values.
      have hparts : ∀ x ∈ entryNodes entries, PlainNode g x := by
        intro x hx
        rcases mem_entryNodes.mp hx with ⟨e, he, rfl | rfl⟩
        · exact .string (hstrings e he)
        · exact hplain _ (hvalues e he)
      have hreach : ∀ x ∈ entryNodes entries, Constructed g root x := by
        intro x hx
        refine .part (hs.reached id _ hm) ((child_keyed (Or.inl htag) x).mpr ?_)
        unfold Graph.entries
        rw [hcontent]
        exact hx
      rcases mappingEntries_plain hs hkeys hu hcontent hreach hstrings
        (fun e he => hplain _ (hvalues e he)) hdiffer with ⟨b1, hmade, hmapping⟩
      refine ⟨b1.set id (g.whole id), ?_,
        (Builder.makeEntries_makes hmade).set_whole hs hreach hparts hm hwhole⟩
      unfold Builder.fill
      simp only [hm, hmapping, ok_bind]
      unfold Graph.whole
      rw [hcontent]
      rfl

/-- A collection that is taken from the waiting ones is the one being filled. -/
theorem Whole.popped {rest : List Nat} (hwhole : Whole g [] b) (hw : b.waiting = id :: rest) :
    Whole g [id] b.popped := by
  have hrest : b.popped.waiting = rest := by simp [Builder.popped, hw]
  intro x n hx
  rcases hwhole x n hx with h | h | h
  · rw [hw] at h
    rcases List.mem_cons.mp h with rfl | h
    · exact Or.inr (Or.inl (List.mem_singleton_self _))
    · exact Or.inl (by rwa [hrest])
  · exact absurd h (List.not_mem_nil)
  · exact Or.inr (Or.inr h)

theorem fillAll_whole (fuel : Nat) (hplain : ∀ x < g.size, PlainNode g x) (hkeys : g.PlainKeys)
    (hs : Sound g root [] b) (hu : b.uniqueKeys = false) (hwhole : Whole g [] b) :
    ∃ b', b.fillAll fuel = .ok b' ∧ Whole g [] b' := by
  induction fuel generalizing b with
  | zero => exact ⟨b, rfl, hwhole⟩
  | succ fuel ih =>
      cases hw : b.waiting with
      | nil => exact ⟨b, by simp only [Builder.fillAll, hw], hwhole⟩
      | cons id rest =>
          rcases hs.waits id (by rw [hw]; exact List.mem_cons_self ..) with ⟨m, hm, hcol⟩
          rcases fill_whole hplain hkeys (popped_sound hs hw) hu hm hcol (hwhole.popped hw)
            with ⟨b1, hfill, h1⟩
          rcases fill_step hs hkeys hu hw hfill with ⟨hs1, hu1, _, _⟩
          rcases ih hs1 hu1 h1 with ⟨b', hfilled, h'⟩
          exact ⟨b', by rw [fillAll_cons fuel id rest b hw, hfill, ok_bind, hfilled], h'⟩

/-- The keys of plain nodes have no meaning of their own. -/
theorem plainKeys_of_plain (hplain : ∀ x < g.size, PlainNode g x) : g.PlainKeys := by
  rw [plainKeys_iff]
  intro id hid e he
  unfold Graph.entries at he
  cases hplain id hid with
  | scalar hcontent _ =>
      rw [hcontent] at he
      cases he
  | sequence _ hcontent _ =>
      rw [hcontent] at he
      cases he
  | mapping _ hcontent hstrings _ _ =>
      rw [hcontent] at he
      rw [(hstrings e he).1]
      decide

/-- Mappings of strings that differ repeat no key. -/
theorem not_repeats_of_plain (hplain : ∀ x < g.size, PlainNode g x) :
    ¬ g.Repeats root Value.sameKey := by
  rintro ⟨id, _, _, before, j, k, after, v, w, hkeys, hj, hv, hw, hsame⟩
  have hid : id < g.size := by
    by_contra hge
    rw [entries_beyond (Nat.le_of_not_lt hge)] at hkeys
    simp at hkeys
  unfold Graph.entries at hkeys
  cases hplain id hid with
  | scalar hcontent _ =>
      rw [hcontent] at hkeys
      simp at hkeys
  | sequence _ hcontent _ =>
      rw [hcontent] at hkeys
      simp at hkeys
  | @mapping entries _ hcontent hstrings _ hdiffer =>
      rw [hcontent] at hkeys
      simp only at hkeys
      -- Keys that are strings are the same only if their texts are, and the texts differ.
      have htext {x : Nat} {value : Value} (hx : x ∈ before ++ k :: after)
          (hvalue : g.keyValue? x = some value) : value = .text (g.keyText x) := by
        rw [← hkeys] at hx
        rcases List.mem_map.mp hx with ⟨e, he, rfl⟩
        unfold Graph.keyValue? at hvalue
        rw [initial_string (hstrings e he)] at hvalue
        exact (Option.some.inj hvalue).symm
      rw [htext (List.mem_append_left _ hj) hv, htext (by simp) hw] at hsame
      have heq : g.keyText j = g.keyText k := by simpa [Value.sameKey] using hsame
      have hmap : entries.map (fun e => g.keyText e.1)
          = (before ++ k :: after).map fun x => g.keyText x := by
        rw [← hkeys, List.map_map]
        rfl
      rw [hmap, List.map_append, List.map_cons] at hdiffer
      exact (List.nodup_append.mp hdiffer).2.2 _ (List.mem_map_of_mem hj) _ (List.mem_cons_self ..) heq

/-- A document of plain nodes is constructed, whether or not keys must be unique, from a
    builder to which all of it is whole. -/
theorem construct_plain (hplain : ∀ x < g.size, PlainNode g x) (hroot : root < g.size)
    (uniqueKeys : Bool) :
    ∃ b : Builder, b.graph = g ∧ construct uniqueKeys root g = .ok (b.value (g.size + 1) [] root) ∧
      ∀ id, Constructed g root id → b.made? id = some (g.whole id) := by
  have hkeys := plainKeys_of_plain hplain
  have hs := blank_sound false g root
  have hnone : Whole g [] (Builder.blank false g) := by
    intro id m hm
    rw [Builder.made?_blank] at hm
    cases hm
  -- The outermost node is made, and then all that waits is filled.
  rcases (hplain root hroot).make hs.graph with ⟨b1, hmake⟩
  have hs1 := make_sound hs .root hmake
  have hwhole1 := make_whole hs (hplain root hroot) hnone hmake
  have hu1 : b1.uniqueKeys = false := make_uniqueKeys hmake
  rcases fillAll_whole (g.size + 1) hplain hkeys hs1 hu1 hwhole1 with ⟨b, hfill, hwhole⟩
  have hleft : b1.left ≤ g.size + 1 :=
    Nat.le_succ_of_le (Nat.le_trans (make_left hs hmake) (blank_left false g))
  rcases fillAll_sound hs1 hkeys hu1 hleft hfill with ⟨hs2, hwaiting, hknown⟩
  have hmade (id : Nat) (hid : Constructed g root id) : b.made? id = some (g.whole id) := by
    have hsome := constructed_made hs2 hwaiting (hknown root (make_made hs hmake)) id hid
    rcases Option.isSome_iff_exists.mp hsome with ⟨m, hm⟩
    rcases hwhole id m hm with h | h | h
    · rw [hwaiting] at h
      exact absurd h (List.not_mem_nil)
    · exact absurd h (List.not_mem_nil)
    · rw [hm, h]
  have hloose : construct false root g = .ok (b.value (g.size + 1) [] root) := by
    have hunfold : construct false root g = (Builder.blank false g).make root >>= fun b =>
        b.fillAll (g.size + 1) >>= fun b => .ok (b.value (g.size + 1) [] root) := rfl
    rw [hunfold, hmake, ok_bind, hfill, ok_bind]
  refine ⟨b, hs2.graph, ?_, hmade⟩
  cases uniqueKeys with
  | false => exact hloose
  | true =>
      rcases (construct_strict root hkeys).gives _ hloose with ⟨hstrict, _⟩ | ⟨_, _, hrepeats, _⟩
      · exact hstrict
      · exact absurd hrepeats (not_repeats_of_plain hplain)

end Yaml

end Annals
