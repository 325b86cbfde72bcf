import Annals.Value.Equal
import Annals.Value.Part
import Annals.Value.Display

/-!
# Modest Values

A value is modest if all of it can be named in a message: no integer in it has too many
digits, and neither has the place of an item in one of its lists.

A part of a container is taken out with the container filled in for the references to it,
so it can be much larger than it was inside. It is no less modest: filling in puts nothing
into a list that was not there, and what it puts below it is the container.

## Main definitions

* `Value.isModest`: A value all of which can be named.

## Theorems

* `holdsLong_of_isModest`: A modest value can be shown.
* `isModest_part`, `isModest_parts`: The parts of a modest value are modest.
-/

namespace Annals

namespace Value

mutual

/-- Whether all of a value can be named in a message. -/
def isModest : Value → Bool
  | .int n => !isLong n
  | .seq _ items => decide (items.length ≤ leastLong) && allModest items
  | .map _ entries => entriesModest entries
  | .set _ members => allModest members
  | .pair a b => isModest a && isModest b
  | _ => true
termination_by structural v => v

/-- Whether all of several values can be named. -/
def allModest : List Value → Bool
  | [] => true
  | v :: rest => isModest v && allModest rest
termination_by structural vs => vs

/-- Whether all keys and values of some entries can be named. -/
def entriesModest : List (Value × Value) → Bool
  | [] => true
  | (k, v) :: rest => isModest k && isModest v && entriesModest rest
termination_by structural es => es

end

mutual

/-- A modest value can be shown. -/
theorem holdsLong_of_isModest : ∀ v : Value, v.isModest = true → v.holdsLong = false
  | .null | .bool _ | .float _ | .text _ | .bytes _ | .date _ | .moment _ | .back _ => fun _ => rfl
  | .int n => by
      rw [isModest, Bool.not_eq_true', holdsLong]
      exact id
  | .seq _ items => by
      rw [isModest, Bool.and_eq_true, holdsLong]
      exact fun h => anyHoldsLong_of_allModest items h.2
  | .map _ entries => by
      rw [isModest, holdsLong]
      exact entryHoldsLong_of_entriesModest entries
  | .set _ members => by
      rw [isModest, holdsLong]
      exact anyHoldsLong_of_allModest members
  | .pair a b => by
      rw [isModest, Bool.and_eq_true, holdsLong, Bool.or_eq_false_iff]
      exact fun h => ⟨holdsLong_of_isModest a h.1, holdsLong_of_isModest b h.2⟩

theorem anyHoldsLong_of_allModest : ∀ vs : List Value,
    allModest vs = true → anyHoldsLong vs = false
  | [] => fun _ => rfl
  | v :: rest => by
      rw [allModest, Bool.and_eq_true, anyHoldsLong, Bool.or_eq_false_iff]
      exact fun h => ⟨holdsLong_of_isModest v h.1, anyHoldsLong_of_allModest rest h.2⟩

theorem entryHoldsLong_of_entriesModest : ∀ es : List (Value × Value),
    entriesModest es = true → entryHoldsLong es = false
  | [] => fun _ => rfl
  | (k, v) :: rest => by
      rw [entriesModest, Bool.and_eq_true, Bool.and_eq_true, entryHoldsLong, Bool.or_eq_false_iff,
        Bool.or_eq_false_iff]
      exact fun h => ⟨⟨holdsLong_of_isModest k h.1.1, holdsLong_of_isModest v h.1.2⟩,
        entryHoldsLong_of_entriesModest rest h.2⟩

end

theorem allModest_iff {vs : List Value} : allModest vs = true ↔ ∀ v ∈ vs, v.isModest = true := by
  induction vs with
  | nil => simp [allModest]
  | cons v rest ih => rw [allModest, Bool.and_eq_true, ih, List.forall_mem_cons]

theorem entriesModest_iff {es : List (Value × Value)} :
    entriesModest es = true ↔ ∀ e ∈ es, e.1.isModest = true ∧ e.2.isModest = true := by
  induction es with
  | nil => simp [entriesModest]
  | cons e rest ih =>
      rw [entriesModest, Bool.and_eq_true, Bool.and_eq_true, ih, List.forall_mem_cons]

/-- Several values can be shown if each of them can. -/
theorem anyHoldsLong_iff {vs : List Value} :
    anyHoldsLong vs = false ↔ ∀ v ∈ vs, v.holdsLong = false := by
  induction vs with
  | nil => simp [anyHoldsLong]
  | cons v rest ih => rw [anyHoldsLong, Bool.or_eq_false_iff, ih, List.forall_mem_cons]

theorem entryHoldsLong_iff {es : List (Value × Value)} :
    entryHoldsLong es = false ↔ ∀ e ∈ es, e.1.holdsLong = false ∧ e.2.holdsLong = false := by
  induction es with
  | nil => simp [entryHoldsLong]
  | cons e rest ih =>
      rw [entryHoldsLong, Bool.or_eq_false_iff, Bool.or_eq_false_iff, ih, List.forall_mem_cons]

theorem length_filledItems (id : Nat) (whole : Value) (items : List Value) :
    (filledItems id whole items).length = items.length := by
  induction items with
  | nil => rfl
  | cons v rest ih => rw [filledItems, List.length_cons, ih, List.length_cons]

section Filled

variable {whole : Value} (id : Nat)

mutual

theorem isModest_filled (hw : whole.isModest = true) : ∀ v : Value, v.isModest = true →
    (filled id whole v).isModest = true
  | .null | .bool _ | .float _ | .text _ | .bytes _ | .date _ | .moment _ => fun _ => rfl
  | .int _ | .set _ _ => fun h => h
  | .back n => fun h => by
      rw [filled]
      -- What leads back to the whole becomes the whole, which is modest too.
      split
      · exact hw
      · exact h
  | .seq n items => fun h => by
      rw [filled]
      split
      · exact h
      · rw [isModest, Bool.and_eq_true, length_filledItems] at *
        exact ⟨h.1, allModest_filledItems hw items h.2⟩
  | .map n entries => fun h => by
      rw [filled]
      split
      · exact h
      · rw [isModest] at *
        exact entriesModest_filledEntries hw entries h
  | .pair a b => fun h => by
      rw [filled, isModest, Bool.and_eq_true]
      rw [isModest, Bool.and_eq_true] at h
      exact ⟨isModest_filled hw a h.1, isModest_filled hw b h.2⟩

theorem allModest_filledItems (hw : whole.isModest = true) : ∀ vs : List Value,
    allModest vs = true → allModest (filledItems id whole vs) = true
  | [] => fun _ => rfl
  | v :: rest => fun h => by
      rw [filledItems, allModest, Bool.and_eq_true]
      rw [allModest, Bool.and_eq_true] at h
      exact ⟨isModest_filled hw v h.1, allModest_filledItems hw rest h.2⟩

theorem entriesModest_filledEntries (hw : whole.isModest = true) : ∀ es : List (Value × Value),
    entriesModest es = true → entriesModest (filledEntries id whole es) = true
  | [] => fun _ => rfl
  | (k, v) :: rest => fun h => by
      rw [filledEntries, entriesModest, Bool.and_eq_true, Bool.and_eq_true]
      rw [entriesModest, Bool.and_eq_true, Bool.and_eq_true] at h
      exact ⟨⟨h.1.1, isModest_filled hw v h.1.2⟩, entriesModest_filledEntries hw rest h.2⟩

end

end Filled

/-- A modest child of a modest container is modest as a value of its own. -/
theorem isModest_part {whole child : Value} (hw : whole.isModest = true)
    (hc : child.isModest = true) : (whole.part child).isModest = true := by
  unfold part
  split
  · exact hc
  · exact hc
  · exact isModest_filled _ hw child hc

/-- The items of a modest list are modest. -/
theorem isModest_items {id : Nat} {items : List Value} (h : (Value.seq id items).isModest = true) :
    ∀ v ∈ items, v.isModest = true := by
  rw [isModest, Bool.and_eq_true] at h
  exact allModest_iff.mp h.2

/-- The entries of a modest mapping are modest. -/
theorem isModest_entries {id : Nat} {entries : List (Value × Value)}
    (h : (Value.map id entries).isModest = true) :
    ∀ e ∈ entries, e.1.isModest = true ∧ e.2.isModest = true := by
  rw [isModest] at h
  exact entriesModest_iff.mp h

/-- The place of an item in a modest list can be named. -/
theorem not_isLong_index {id : Nat} {items : List Value} (h : (Value.seq id items).isModest = true)
    {i : Nat} (hi : i < items.length) : isLong i = false := by
  rw [isModest, Bool.and_eq_true, decide_eq_true_eq] at h
  exact decide_eq_false (Nat.not_le.mpr (Nat.lt_of_lt_of_le hi h.1))

/-- What is found under a key stands in one of the entries, under the same key. -/
theorem mem_of_find? {key v : Value} {entries : List (Value × Value)}
    (h : find? key entries = some v) : ∃ k, (k, v) ∈ entries ∧ k.sameKey key = true := by
  induction entries with
  | nil => cases h
  | cons e rest ih =>
      rw [find?] at h
      split at h
      · next hsame =>
          cases h
          exact ⟨e.1, List.mem_cons_self .., hsame⟩
      · rcases ih h with ⟨k, hk, hsame⟩
        exact ⟨k, List.mem_cons_of_mem _ hk, hsame⟩

end Value

end Annals
