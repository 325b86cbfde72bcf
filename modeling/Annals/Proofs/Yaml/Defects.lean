import Annals.Proofs.Yaml.Keys

/-!
# Defects of Single Nodes

A construction that ends with a defect, and not with a problem of the text, has met a
node that has this defect.

The kinds of it are few: the node is a scalar whose text means no value of its kind;
it is to be a mapping and has no entries, but something else; or one of its keys is a
set, or a number too long to be shown in the wording that refuses it. Where a
construction ends depends on the order in which it makes the nodes, but that there is
such a node does not.

`Blames` says this of one step, together with what is known once the step succeeds,
so steps can be put together without looking into them again.

## Main definitions

* `Defective`: A node has a defect.
* `Fits`: A builder for the nodes of a document.
* `Blames`: A step fails with a defect only if a node has it.

## Theorems

* `make_blames`: Making a node.
* `mappingEntries_blames`: The entries of a mapping.
* `fill_blames`, `fillAll_blames`: Filling collections.
* `decode_defect`: A text that ends with a defect has a node that has it.
-/

namespace Annals

namespace Yaml

/-- A node has a defect. -/
inductive Defective (g : Graph) (id : Nat) : Defect → Prop where
  /-- Its text means no value of its kind. -/
  | value {d : Defect} : g.initial id = .error (.defect d) → Defective g id d
  /-- It is to be a mapping, and is a scalar with a text. -/
  | text {s : String} : g.Keyed id → (g.node id).content = .scalar s → s.isEmpty = false →
      Defective g id (.value "not enough values to unpack (expected 2, got 1)")
  /-- It is to be a mapping, and is a sequence with items. -/
  | items {ids : List Nat} : g.Keyed id → (g.node id).content = .sequence ids →
      ids.isEmpty = false → Defective g id .entries
  /-- One of its keys is a set. -/
  | setKey {e : Nat × Nat} : e ∈ g.entries id → (g.node e.1).tag = Tag.set →
      Defective g id .setKey
  /-- One of its keys is a number too long to be shown. -/
  | longKey {e : Nat × Nat} {v : Value} : e ∈ g.entries id → g.keyValue? e.1 = some v →
      v.holdsLong = true → Defective g id (.value longIntegerMessage)

/-- A builder for a document: all that was made is what its node says. -/
structure Fits (g : Graph) (b : Builder) : Prop where
  shaped : Shaped b
  graph : b.graph = g

/-- A step fails with a defect only if a node has it, and where it succeeds, its outcome
    is as said by `fine`. -/
structure Blames {α : Type} (g : Graph) (x : Except Fault α) (fine : α → Prop) : Prop where
  fails : ∀ d, x = .error (.defect d) → ∃ id, Defective g id d
  gives : ∀ a, x = .ok a → fine a

namespace Blames

variable {α β : Type} {g : Graph} {x : Except Fault α} {fine : α → Prop}

theorem ok {a : α} (h : fine a) : Blames g (.ok a) fine :=
  ⟨fun d hd => (by cases hd), fun a' ha => (by cases ha; exact h)⟩

/-- A problem of the text is no defect. -/
theorem problem (p : Problem) : Blames g (.error (.problem p)) fine :=
  ⟨fun d hd => (by cases hd), fun a ha => (by cases ha)⟩

theorem defect {id : Nat} {d : Defect} (h : Defective g id d) :
    Blames g (.error (.defect d)) fine :=
  ⟨fun d' hd => (by cases hd; exact ⟨id, h⟩), fun a ha => (by cases ha)⟩

theorem bind {next : α → Except Fault β} {fine' : β → Prop} (h : Blames g x fine)
    (hnext : ∀ a, fine a → Blames g (next a) fine') : Blames g (x >>= next) fine' := by
  cases hx : x with
  | error f => exact ⟨fun d hd => h.fails d (by cases hd; exact hx), fun b hb => (by cases hb)⟩
  | ok a => exact hnext a (h.gives a hx)

end Blames

namespace Fits

variable {g : Graph} {b : Builder}

theorem node (hb : Fits g b) (id : Nat) : b.node id = g.node id := by
  unfold Builder.node
  rw [hb.graph]

/-- What was made of a node is what the node says, before it was filled. -/
theorem initial (hb : Fits g b) {id : Nat} {m : Made} (hm : b.made? id = some m) :
    g.initial id = .ok m.emptied := by
  rw [← hb.graph]
  exact hb.shaped.shape id m hm

/-- Putting the parts into a collection. -/
theorem set (hb : Fits g b) {id : Nat} {filled : Made} (hi : g.initial id = .ok filled.emptied) :
    Fits g (b.set id filled) := by
  rw [← hb.graph] at hi
  have hlt := Builder.lt_of_initial hb.shaped.size hi
  refine ⟨⟨?_, fun x m hx => ?_⟩, hb.graph⟩
  · rw [Builder.size_set, Builder.graph_set, hb.shaped.size]
  · rw [Builder.made?_set b id x filled hlt] at hx
    rw [Builder.graph_set]
    by_cases hxid : x = id
    · rw [if_pos hxid] at hx
      cases hx
      rw [hxid, hi]
    · rw [if_neg hxid] at hx
      exact hb.shaped.shape x m hx

end Fits

variable {g : Graph} {b : Builder}

/-- Making a node fails only for the defect that the node has. -/
theorem make_blames (hb : Fits g b) (id : Nat) : Blames g (b.make id) (Fits g) := by
  cases hm : b.made? id with
  | some m =>
      rw [Builder.make_of_made hm]
      exact Blames.ok hb
  | none =>
      cases hmake : b.make id with
      | ok b' => exact Blames.ok ⟨make_shaped hb.shaped hmake, (make_graph hmake).trans hb.graph⟩
      | error f =>
          -- The fault comes from the node alone.
          rw [Builder.make_of_unmade hm, hb.graph] at hmake
          refine ⟨fun d hd => ⟨id, Defective.value ?_⟩, fun b' hb' => (by cases hb')⟩
          cases hd
          cases hi : g.initial id with
          | ok m => rw [hi] at hmake; cases hmake
          | error f => rw [hi] at hmake; cases hmake; rfl

theorem makeAll_blames (items : List Nat) (hb : Fits g b) :
    Blames g (Builder.makeAll items b) (Fits g) := by
  induction items generalizing b with
  | nil => exact Blames.ok hb
  | cons id rest ih => exact (make_blames hb id).bind (fun b1 hb1 => ih hb1)

theorem makeEntries_blames (start : Mark) (made : List (Value × Nat)) (entries : List (Nat × Nat))
    (hb : Fits g b) : Blames g (Builder.makeEntries start made entries b) (Fits g ·.2) := by
  induction entries generalizing b made with
  | nil => exact Blames.ok hb
  | cons e rest ih =>
      rcases e with ⟨key, value⟩
      refine (make_blames hb key).bind (fun b1 hb1 => ?_)
      cases b1.key? key with
      | none => exact Blames.problem _
      | some v => exact (make_blames hb1 value).bind (fun b2 hb2 => ih _ hb2)

theorem makePairs_blames (context : String) (start : Mark) (items : List Nat) (hb : Fits g b) :
    Blames g (Builder.makePairs context start items b) (Fits g ·.2) := by
  induction items generalizing b with
  | nil => exact Blames.ok hb
  | cons item rest ih =>
      simp only [Builder.makePairs]
      split
      · refine (make_blames hb _).bind (fun b1 hb1 => ?_)
        refine (make_blames hb1 _).bind (fun b2 hb2 => ?_)
        exact (ih hb2).bind (fun r hr => Blames.ok hr)
      · exact Blames.problem _
      · exact Blames.problem _

/-- Comparing keys fails with a defect only if one of them is a set or too long. -/
theorem checkKeysFrom_blames (start : Mark) (seen : List Value) (entries : List (Nat × Nat))
    {id : Nat} (hin : ∀ e ∈ entries, e ∈ g.entries id) (hb : Fits g b) :
    Blames g (Builder.checkKeysFrom start seen entries b) (Fits g) := by
  induction entries generalizing b seen with
  | nil => exact Blames.ok hb
  | cons e rest ih =>
      rcases e with ⟨key, value⟩
      have he : (key, value) ∈ g.entries id := hin _ (List.mem_cons_self ..)
      have hrest : ∀ e ∈ rest, e ∈ g.entries id := fun e he => hin e (List.mem_cons_of_mem _ he)
      unfold Builder.checkKeysFrom
      split
      · exact ih _ hrest hb
      · refine (make_blames hb key).bind (fun b1 hb1 => ?_)
        split
        · split
          · next members hm =>
              -- A key that was made to a set has the tag of one.
              have hform := initial_form (hb1.initial hm)
              refine Blames.defect (Defective.setKey he ?_)
              simpa [Made.emptied] using hform
          · exact ih _ hrest hb1
        · next v hv =>
            split
            · split
              · next hlong =>
                  have hvalue := keyValue?_of_key? hb1.shaped hv
                  rw [hb1.graph] at hvalue
                  exact Blames.defect (Defective.longKey he hvalue hlong)
              · exact Blames.problem _
            · exact ih _ hrest hb1

theorem checkKeys_blames {id : Nat} (hk : g.Keyed id) (hb : Fits g b) :
    Blames g (b.checkKeys id) (Fits g) := by
  have hnode := hb.node id
  unfold Builder.checkKeys
  split
  · rw [hnode]
    cases hc : (g.node id).content with
    | mapping entries =>
        -- A mapping is compared key by key; what is no mapping is a defect if there is anything in
        -- it.
        have hentries : g.entries id = entries := by
          unfold Graph.entries
          rw [hc]
        exact checkKeysFrom_blames _ _ entries (fun e he => by rw [hentries]; exact he) hb
    | scalar text =>
        simp only []
        cases ht : text.isEmpty with
        | true => exact Blames.ok hb
        | false => exact Blames.defect (Defective.text hk hc ht)
    | sequence items =>
        simp only []
        cases hi : items.isEmpty with
        | true => exact Blames.ok hb
        | false => exact Blames.defect (Defective.items hk hc hi)
  · exact Blames.ok hb

theorem mappingEntries_blames (hg : g.PlainKeys) {id : Nat} (hk : g.Keyed id) (hb : Fits g b) :
    Blames g (b.mappingEntries id) (Fits g ·.2) := by
  unfold Builder.mappingEntries
  refine (checkKeys_blames hk hb).bind (fun b1 hb1 => ?_)
  simp only []
  cases (b1.node id).content with
  | mapping entries =>
      -- There is nothing to be merged, so only the entries are left to be made.
      rw [Builder.flatten_plain (hb1.graph.symm ▸ hg) id]
      exact (makeEntries_blames _ _ _ hb1).bind (fun r hr => Blames.ok hr)
  | scalar text => exact Blames.problem _
  | sequence items => exact Blames.problem _

theorem fill_blames (hg : g.PlainKeys) (id : Nat) (hb : Fits g b) :
    Blames g (b.fill id) (Fits g) := by
  unfold Builder.fill
  cases hm : b.made? id with
  | none => exact Blames.ok hb
  | some m =>
      have hi := hb.initial hm
      -- What was made of the node says which tag it has.
      have hform := initial_form hi
      cases m with
      | scalar v => exact Blames.ok hb
      | sequence items =>
          simp only []
          cases (b.node id).content with
          | sequence nodes =>
              exact (makeAll_blames nodes hb).bind (fun b1 hb1 => Blames.ok (hb1.set hi))
          | scalar text => exact Blames.problem _
          | mapping entries => exact Blames.problem _
      | mapping entries =>
          have hk : g.Keyed id := Or.inl (by simpa [Made.emptied] using hform)
          exact (mappingEntries_blames hg hk hb).bind (fun r hr => Blames.ok (hr.set hi))
      | set members =>
          have hk : g.Keyed id := Or.inr (by simpa [Made.emptied] using hform)
          exact (mappingEntries_blames hg hk hb).bind (fun r hr => Blames.ok (hr.set hi))
      | pairs pairs =>
          simp only []
          cases (b.node id).content with
          | sequence items =>
              exact (makePairs_blames _ _ items hb).bind (fun r hr => Blames.ok (hr.set hi))
          | scalar text => exact Blames.problem _
          | mapping entries => exact Blames.problem _

theorem fillAll_blames (hg : g.PlainKeys) (fuel : Nat) (hb : Fits g b) :
    Blames g (b.fillAll fuel) (Fits g) := by
  induction fuel generalizing b with
  | zero => exact Blames.ok hb
  | succ n ih =>
      cases hw : b.waiting with
      | nil =>
          simp only [Builder.fillAll, hw]
          exact Blames.ok hb
      | cons id rest =>
          rw [fillAll_cons n id rest b hw]
          -- What waits plays no part in what was made.
          have hpop : Fits g b.popped := ⟨⟨hb.shaped.size, hb.shaped.shape⟩, hb.graph⟩
          exact (fill_blames hg id hpop).bind (fun b1 hb1 => ih hb1)

/-- A text that is composed and then ends with a defect has a node that has it, where no
    key is one for merging. -/
theorem decode_defect {uniqueKeys : Bool} {text : String} {root : Nat} {d : Defect}
    (hcompose : compose text.toList = .ok (some (root, g))) (hg : g.PlainKeys)
    (h : decode uniqueKeys text = .error (.defect d)) : ∃ id, Defective g id d := by
  have hblank : Fits g (Builder.blank uniqueKeys g) :=
    ⟨(blank_sound uniqueKeys g root).shaped, rfl⟩
  have hconstruct : Blames g (construct uniqueKeys root g) (fun _ => True) := by
    refine (make_blames hblank root).bind (fun b hb => ?_)
    exact (fillAll_blames hg _ hb).bind (fun b1 _ => Blames.ok trivial)
  unfold decode at h
  rw [hcompose] at h
  exact hconstruct.fails d h

end Yaml

end Annals
