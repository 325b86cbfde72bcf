import Annals.Proofs.Yaml.PlainNodes
import Annals.Value.Part

/-!
# What Scalars Are Read As

A scalar is made to a value without parts, which is a text if the scalar is a string and
only then. What looks like another kind of value need not be one: a day may be none of the
calendar, and a number may be too long. Then nothing is made of the scalar, and nothing is
made of a document in which it has to be.

## Main definitions

* `Value.isLeaf`: A value without parts.

## Theorems

* `scalar_leaf`, `initial_plain`: What is made of a scalar.
* `initial_of_construct`: All that a value is made of can be made.
-/

namespace Annals

/-- Whether a value has no parts and does not refer to what it is a part of. -/
def Value.isLeaf : Value → Bool
  | .seq .. | .map .. | .set .. | .pair .. | .back _ => false
  | _ => true

namespace Value

variable {v : Value}

/-- There is nothing to fill in in a value without parts. -/
theorem filled_leaf (id : Nat) (whole : Value) (h : v.isLeaf = true) : filled id whole v = v := by
  cases v with
  | seq _ _ => cases h
  | map _ _ => cases h
  | set _ _ => cases h
  | pair _ _ => cases h
  | back _ => cases h
  | _ => rfl

end Value

namespace Yaml

variable {g : Graph} {id : Nat} {v : Value} {text : String}

/-- What is made of a scalar that is no string. -/
def isOtherLeaf (v : Value) : Bool := v.isLeaf && !v.isText

theorem boolOf_other (h : boolOf text = .ok v) : isOtherLeaf v = true := by
  unfold boolOf at h
  split at h
  · cases h
    rfl
  · cases h

theorem intOf_other (h : intOf text = .ok v) : isOtherLeaf v = true := by
  -- Whatever its base is, the number is put together at the end.
  have hlast {negative : Bool} {x : Except Fault Int}
      (h : (x >>= fun n => pure (.int (if negative then -n else n))) = .ok v) :
      isOtherLeaf v = true := by
    rcases bind_eq_ok.mp h with ⟨_, _, h⟩
    cases h
    rfl
  unfold intOf at h
  rcases bind_eq_ok.mp h with ⟨⟨negative, cs⟩, _, h⟩
  simp only at h
  split at h
  all_goals first
    | exact hlast h
    | (split at h <;> exact hlast h)

theorem floatOf_other {own : Nat} (h : floatOf own text = .ok v) : isOtherLeaf v = true := by
  -- Whatever the form, in the end there is a number with a sign.
  have hlast {signed : Double → Double} {x : Except Fault Double}
      (h : (x >>= fun x => pure (.float (signed x))) = .ok v) : isOtherLeaf v = true := by
    rcases bind_eq_ok.mp h with ⟨_, _, h⟩
    cases h
    rfl
  unfold floatOf at h
  rcases bind_eq_ok.mp h with ⟨⟨negative, cs⟩, _, h⟩
  simp only at h
  split at h
  · exact hlast h
  split at h
  · cases h
    rfl
  split at h
  · rcases bind_eq_ok.mp h with ⟨parts, _, h⟩
    exact hlast h
  · exact hlast h

theorem bytesOf_other {mark : Mark} (h : bytesOf mark text = .ok v) : isOtherLeaf v = true := by
  unfold bytesOf at h
  split at h
  · cases h
  · split at h
    · cases h
      rfl
    · cases h

theorem momentOf_other (h : momentOf text = .ok v) : isOtherLeaf v = true := by
  unfold momentOf at h
  split at h
  · cases h
  · split at h
    · rcases bind_eq_ok.mp h with ⟨_, _, h⟩
      cases h
      rfl
    · rcases bind_eq_ok.mp h with ⟨_, _, h⟩
      rcases bind_eq_ok.mp h with ⟨_, _, h⟩
      repeat' split at h
      all_goals cases h
      rfl

theorem scalar_other (htag : (g.node id).tag ≠ Tag.str) (h : g.scalar id = .ok v) :
    isOtherLeaf v = true := by
  unfold Graph.scalar at h
  simp only [beq_iff_eq, if_neg htag] at h
  -- One tag after the other; each of them but that of texts makes values of a kind of its own.
  split at h
  · rcases bind_eq_ok.mp h with ⟨_, _, h⟩
    cases h
    rfl
  split at h
  · rcases bind_eq_ok.mp h with ⟨_, _, h⟩
    exact boolOf_other h
  split at h
  · rcases bind_eq_ok.mp h with ⟨_, _, h⟩
    exact intOf_other h
  split at h
  · rcases bind_eq_ok.mp h with ⟨_, _, h⟩
    exact floatOf_other h
  split at h
  · rcases bind_eq_ok.mp h with ⟨_, _, h⟩
    exact bytesOf_other h
  split at h
  · unfold Graph.moment at h
    rcases bind_eq_ok.mp h with ⟨_, _, h⟩
    split at h
    · exact momentOf_other h
    · cases h
  · cases h

/-- What is made of a scalar has no parts, and is a text if the scalar is a string and only
    then. -/
theorem scalar_leaf (h : g.scalar id = .ok v) :
    v.isLeaf = true ∧ (v.isText = true ↔ (g.node id).tag = Tag.str) := by
  by_cases htag : (g.node id).tag = Tag.str
  · unfold Graph.scalar at h
    simp only [htag, beq_self_eq_true, if_true] at h
    rcases bind_eq_ok.mp h with ⟨_, _, h⟩
    cases h
    exact ⟨rfl, fun _ => htag, fun _ => rfl⟩
  · have hother := scalar_other htag h
    simp only [isOtherLeaf, Bool.and_eq_true, Bool.not_eq_true'] at hother
    exact ⟨hother.1, fun htext => absurd (hother.2.symm.trans htext) (by decide),
      fun heq => absurd heq htag⟩

theorem scalar_of_initial (h : g.initial id = .ok (.scalar v)) : g.scalar id = .ok v := by
  unfold Graph.initial at h
  simp only at h
  repeat' split at h
  all_goals try cases h
  cases hs : g.scalar id with
  | error f =>
      rw [hs] at h
      cases h
  | ok w =>
      rw [hs] at h
      cases h
      rfl

/-- A plain scalar is no collection. -/
theorem ofPlain_scalar (text : String) :
    Tag.ofPlain text ∉ [Tag.map, Tag.seq, Tag.set, Tag.omap, Tag.pairs] := by
  unfold Tag.ofPlain
  simp only
  repeat' split
  all_goals decide

/-- What is made of a plain scalar has no parts, and is a text if the scalar is a string and
    only then. -/
theorem initial_plain {m : Made} (htag : (g.node id).tag = Tag.ofPlain text)
    (h : g.initial id = .ok m) : ∃ v, m = .scalar v ∧ v.isLeaf = true ∧
      (v.isText = true ↔ Tag.ofPlain text = Tag.str) := by
  have hother := ofPlain_scalar text
  rw [← htag] at hother ⊢
  simp only [List.mem_cons, List.not_mem_nil, or_false, not_or] at hother
  rcases initial_form h with ⟨_, hmap⟩ | ⟨_, hseq⟩ | ⟨_, hset⟩ | ⟨_, hpairs⟩ | ⟨⟨v, rfl⟩, _⟩
  · exact absurd hmap hother.1
  · exact absurd hseq hother.2.1
  · exact absurd hset hother.2.2.1
  · exact absurd hpairs (by simp [hother])
  · exact ⟨v, rfl, scalar_leaf (scalar_of_initial h)⟩

/-- All that a value is made of can be made. -/
theorem initial_of_construct {root : Nat} {uniqueKeys : Bool} (hkeys : g.PlainKeys)
    (h : construct uniqueKeys root g = .ok v) (hid : Constructed g root id) :
    ∃ m, g.initial id = .ok m := by
  -- What is constructed with unique keys is constructed without.
  have hloose : ∃ w, construct false root g = .ok w := by
    cases uniqueKeys with
    | false => exact ⟨v, h⟩
    | true =>
        cases hc : construct false root g with
        | ok w => exact ⟨w, rfl⟩
        | error f =>
            rcases (construct_strict root hkeys).fails f hc with ⟨f', hf⟩
            rw [hf] at h
            cases h
  rcases hloose with ⟨w, hw⟩
  have hs := blank_sound false g root
  have hunfold : construct false root g = (Builder.blank false g).make root >>= fun b =>
      b.fillAll (g.size + 1) >>= fun b => .ok (b.value (g.size + 1) [] root) := rfl
  rw [hunfold] at hw
  rcases bind_eq_ok.mp hw with ⟨b1, hmake, hw⟩
  rcases bind_eq_ok.mp hw with ⟨b, hfill, _⟩
  have hleft : b1.left ≤ g.size + 1 :=
    Nat.le_succ_of_le (Nat.le_trans (make_left hs hmake) (blank_left false g))
  rcases fillAll_sound (make_sound hs .root hmake) hkeys (make_uniqueKeys hmake) hleft hfill
    with ⟨hs', hwaiting, hknown⟩
  -- In the end all that was reached is made, in the way in which it is made at first.
  have hsome := constructed_made hs' hwaiting (hknown root (make_made hs hmake)) id hid
  rcases Option.isSome_iff_exists.mp hsome with ⟨m, hm⟩
  exact ⟨_, hs'.shape id m hm⟩

end Yaml

end Annals
