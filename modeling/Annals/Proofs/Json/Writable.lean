import Annals.Json.Writer

/-!
# Values that Can Be Written

A lenient style has a text for a value that JSON has no form for, but not for every value.
There is none for a container that is a part of itself, none for a key that is neither a
text nor a number nor a truth value nor null, and none for an integer with too many digits.
A set is written as the text by which it is shown, so nothing else is asked of what is in
it.

`isWritable` says so without writing anything. What can be written in a style can be
written in every lenient one: other styles only ask for more.

## Main definitions

* `Value.isName`: A value that can be the key of an object.
* `Value.isWritable`: A value that a lenient style has a text for.

## Theorems

* `isWritable_of_write`: What is written in any style is writable.
* `write_lenient_iff`: A lenient style has a text exactly for what is writable.
-/

namespace Annals

namespace Value

/-- Whether a value can be the key of an object. -/
def isName : Value → Bool
  | .null | .bool _ | .float _ | .text _ => true
  | .int n => !isLong n
  | _ => false

mutual

/-- Whether a value has a text in a lenient style. -/
def isWritable : Value → Bool
  | .int n => !isLong n
  | .seq _ items => allWritable items
  | .pair a b => isWritable a && isWritable b
  | .map _ entries => entriesWritable entries
  | .set _ members => !anyHoldsLong members
  | .back _ => false
  | _ => true
termination_by structural v => v

/-- Whether all items of a list have one. -/
def allWritable : List Value → Bool
  | [] => true
  | v :: rest => isWritable v && allWritable rest
termination_by structural vs => vs

/-- Whether all entries of a mapping can be written. -/
def entriesWritable : List (Value × Value) → Bool
  | [] => true
  | (k, v) :: rest => k.isName && isWritable v && entriesWritable rest
termination_by structural es => es

end

end Value

namespace Json

open Value

variable {style : Style}

theorem writeInteger_iff {n : Int} : (∃ cs, writeInteger n = .ok cs) ↔ isLong n = false := by
  unfold writeInteger
  cases isLong n <;> simp

theorem writeKey_iff {k : Value} : (∃ cs, writeKey style k = .ok cs) ↔ k.isName = true := by
  cases k with
  | int n =>
      rw [isName, Bool.not_eq_true', ← writeInteger_iff, writeKey]
      cases writeInteger n <;> simp [Except.map]
  | _ => simp [writeKey, isName]

theorem writeOther_lenient (h : style.lenient = true) {v : Value} (hv : v.holdsLong = false) :
    writeOther style v = .ok (writeText style.ascii v.plain) := by
  simp [writeOther, h, hv]

theorem holdsLong_of_writeOther {v : Value} {cs : List Char} (h : writeOther style v = .ok cs) :
    v.holdsLong = false := by
  unfold writeOther at h
  cases hv : v.holdsLong with
  | false => rfl
  | true => cases hl : style.lenient <;> simp [hv, hl] at h

mutual

theorem isWritable_of_writeAt (level : Nat) : ∀ v : Value,
    (∃ cs, writeAt style level v = .ok cs) → v.isWritable = true
  | .null | .bool _ | .float _ | .text _ | .bytes _ | .date _ | .moment _ => fun _ => rfl
  | .back _ => by
      rintro ⟨_, h⟩
      cases h
  | .int n => by
      rw [writeAt, writeInteger_iff, isWritable, Bool.not_eq_true']
      exact id
  | .set _ members => by
      rintro ⟨_, h⟩
      rw [writeAt] at h
      rw [isWritable, Bool.not_eq_true']
      exact holdsLong_of_writeOther h
  | .seq _ [] | .map _ [] => fun _ => rfl
  | .seq _ (v :: rest) => by
      rintro ⟨_, h⟩
      refine allWritable_of_writeItems (level + 1) (v :: rest) ?_
      -- The brackets around the items never fail.
      cases hi : writeItems style (level + 1) (v :: rest) with
      | ok members => exact ⟨members, rfl⟩
      | error u =>
          simp only [writeAt, List.isEmpty_cons, hi] at h
          cases h
  | .map _ (e :: rest) => by
      rintro ⟨_, h⟩
      refine entriesWritable_of_writeEntries (level + 1) (e :: rest) ?_
      cases he : writeEntries style (level + 1) (e :: rest) with
      | ok members => exact ⟨members, rfl⟩
      | error u =>
          simp only [writeAt, List.isEmpty_cons, he] at h
          cases h
  | .pair a b => by
      rintro ⟨_, h⟩
      rw [writeAt] at h
      cases ha : writeAt style (level + 1) a with
      | error u => rw [ha] at h; cases h
      | ok first =>
          cases hb : writeAt style (level + 1) b with
          | error u => rw [ha, hb] at h; cases h
          | ok second =>
              rw [isWritable, isWritable_of_writeAt (level + 1) a ⟨first, ha⟩,
                isWritable_of_writeAt (level + 1) b ⟨second, hb⟩]
              rfl

theorem allWritable_of_writeItems (level : Nat) : ∀ vs : List Value,
    (∃ cs, writeItems style level vs = .ok cs) → allWritable vs = true
  | [] => fun _ => rfl
  | v :: rest => by
      rintro ⟨_, h⟩
      rw [writeItems] at h
      cases hv : writeAt style level v with
      | error u => rw [hv] at h; cases h
      | ok first =>
          cases hr : writeItems style level rest with
          | error u => rw [hv, hr] at h; cases h
          | ok others =>
              rw [allWritable, isWritable_of_writeAt level v ⟨first, hv⟩,
                allWritable_of_writeItems level rest ⟨others, hr⟩]
              rfl

theorem entriesWritable_of_writeEntries (level : Nat) : ∀ es : List (Value × Value),
    (∃ cs, writeEntries style level es = .ok cs) → entriesWritable es = true
  | [] => fun _ => rfl
  | (k, v) :: rest => by
      rintro ⟨_, h⟩
      rw [writeEntries] at h
      -- Entries are written only if the key, the value and the other entries are.
      cases hk : writeKey style k with
      | error u => rw [hk] at h; cases h
      | ok key =>
          cases hv : writeAt style level v with
          | error u => rw [hk, hv] at h; cases h
          | ok value =>
              cases hr : writeEntries style level rest with
              | error u =>
                  rw [hk, hv] at h
                  simp only [hr] at h
                  cases h
              | ok others =>
                  rw [entriesWritable, writeKey_iff.mp ⟨key, hk⟩,
                    isWritable_of_writeAt level v ⟨value, hv⟩,
                    entriesWritable_of_writeEntries level rest ⟨others, hr⟩]
                  rfl

end

mutual

theorem writeAt_of_isWritable (hs : style.lenient = true) (level : Nat) : ∀ v : Value,
    v.isWritable = true → ∃ cs, writeAt style level v = .ok cs
  | .null | .bool _ | .float _ | .text _ => fun _ => ⟨_, rfl⟩
  | .bytes _ | .date _ | .moment _ => fun _ => ⟨_, writeOther_lenient hs rfl⟩
  | .back _ => fun h => by cases h
  | .int n => by
      rw [writeAt, writeInteger_iff, isWritable, Bool.not_eq_true']
      exact id
  | .set _ members => by
      rw [writeAt, isWritable, Bool.not_eq_true']
      exact fun h => ⟨_, writeOther_lenient hs h⟩
  | .seq _ [] | .map _ [] => fun _ => ⟨_, rfl⟩
  | .seq _ (v :: rest) => by
      intro h
      rcases writeItems_of_allWritable hs (level + 1) (v :: rest) h with ⟨members, hmembers⟩
      simp only [writeAt, List.isEmpty_cons, hmembers]
      exact ⟨_, rfl⟩
  | .map _ (e :: rest) => by
      intro h
      rcases writeEntries_of_entriesWritable hs (level + 1) (e :: rest) h with ⟨members, hmembers⟩
      simp only [writeAt, List.isEmpty_cons, hmembers]
      exact ⟨_, rfl⟩
  | .pair a b => by
      rw [isWritable, Bool.and_eq_true]
      -- A pair is written like a list of both.
      rintro ⟨ha, hb⟩
      rcases writeAt_of_isWritable hs (level + 1) a ha with ⟨first, hfirst⟩
      rcases writeAt_of_isWritable hs (level + 1) b hb with ⟨second, hsecond⟩
      rw [writeAt, hfirst, hsecond]
      exact ⟨_, rfl⟩

theorem writeItems_of_allWritable (hs : style.lenient = true) (level : Nat) : ∀ vs : List Value,
    allWritable vs = true → ∃ cs, writeItems style level vs = .ok cs
  | [] => fun _ => ⟨_, rfl⟩
  | v :: rest => by
      rw [allWritable, Bool.and_eq_true]
      rintro ⟨hv, hrest⟩
      rcases writeAt_of_isWritable hs level v hv with ⟨first, hfirst⟩
      rcases writeItems_of_allWritable hs level rest hrest with ⟨others, hothers⟩
      rw [writeItems, hfirst, hothers]
      exact ⟨_, rfl⟩

theorem writeEntries_of_entriesWritable (hs : style.lenient = true) (level : Nat) :
    ∀ es : List (Value × Value),
      entriesWritable es = true → ∃ cs, writeEntries style level es = .ok cs
  | [] => fun _ => ⟨_, rfl⟩
  | (k, v) :: rest => by
      rw [entriesWritable, Bool.and_eq_true, Bool.and_eq_true]
      rintro ⟨⟨hk, hv⟩, hrest⟩
      obtain ⟨key, hkey⟩ : ∃ cs, writeKey style k = .ok cs := writeKey_iff.mpr hk
      rcases writeAt_of_isWritable hs level v hv with ⟨value, hvalue⟩
      rcases writeEntries_of_entriesWritable hs level rest hrest with ⟨others, hothers⟩
      rw [writeEntries, hkey, hvalue]
      simp only [hothers]
      exact ⟨_, rfl⟩

end

/-- What is written in any style is writable. -/
theorem isWritable_of_write {v : Value} {s : String} (h : write style v = .ok s) :
    v.isWritable = true := by
  unfold write at h
  cases hv : writeAt style 0 v with
  | ok cs => exact isWritable_of_writeAt 0 v ⟨cs, hv⟩
  | error u => rw [hv] at h; cases h

/-- A lenient style has a text exactly for what is writable. -/
theorem write_lenient_iff (style : Style) (h : style.lenient = true) (v : Value) :
    (∃ s, write style v = .ok s) ↔ v.isWritable = true := by
  refine ⟨fun ⟨s, hs⟩ => isWritable_of_write hs, fun hv => ?_⟩
  rcases writeAt_of_isWritable h 0 v hv with ⟨cs, hcs⟩
  exact ⟨_, congrArg (Except.map String.ofList) hcs⟩

/-- A list that holds itself is not written, and neither is a mapping whose key is a day; a
    day as a value is. -/
example : (Value.seq 1 [.back 1]).isWritable = false ∧
    (Value.map 1 [(.date ⟨2020, 1, 1⟩, .null)]).isWritable = false ∧
    (Value.seq 1 [.date ⟨2020, 1, 1⟩]).isWritable = true := by
  decide

end Json

end Annals
