import Annals.Release.Memo

/-!
# What a Memo Owes

An index is made when it is first needed and remembered from then on, so what a
memo holds depends on what was looked up before. What it answers does not, as
long as the outcome is one that is remembered: an index, or the message for data
that is not at hand. `Owes` is the invariant for this. A memo owes an outcome if
it remembers it, or if it remembers nothing and the loader will come to it when
it is asked next. Every look-up pays the same outcome out and leaves the memo
owing it still.

The faults of records are not remembered, so nothing is said of them here.

## Main definitions

* `Loader.Yields`: What a loader comes to when it is asked for the first time.
* `Memo.Owes`: What a memo answers from.

## Theorems

* `load_of_owes`, `find_of_owes`: A look-up answers from the outcome that is owed.
* `owes_of_load`: A memo that comes to an index.
* `load_of_known`, `find_of_known`: What is remembered is answered without a request.
-/

namespace Annals

/-- Asked for the first time, a loader comes to an outcome that is remembered. -/
def Loader.Yields (loader : Loader) (outcome : Except String ReleaseIndex) : Prop :=
  (loader 0).result = outcome.mapError .reference

namespace Memo

variable {loader : Loader} {outcome : Except String ReleaseIndex} {m : Memo}

/-- A memo remembers an outcome, or it remembers nothing and the loader comes to this
    outcome when it is asked next. -/
def Owes (loader : Loader) (outcome : Except String ReleaseIndex) (m : Memo) : Prop :=
  m.known = some outcome ∨
    (m.known = none ∧ (loader m.requests.length).result = outcome.mapError .reference)

theorem start_owes (h : loader.Yields outcome) : Memo.start.Owes loader outcome :=
  Or.inr ⟨rfl, h⟩

theorem remembered_mapError (outcome : Except String ReleaseIndex) :
    remembered (outcome.mapError .reference) = some outcome := by
  cases outcome with
  | ok index => rfl
  | error message => rfl

/-- What is remembered is answered at once: nothing is asked for, and the memo stays as it
    is. -/
theorem load_of_known (loader : Loader) (h : m.known = some outcome) :
    m.load loader = (outcome.mapError .reference, m) := by
  unfold load
  rw [h]

/-- A memo that comes to an index owes it. -/
theorem owes_of_load {index : ReleaseIndex} (h : (m.load loader).1 = .ok index) :
    m.Owes loader (.ok index) := by
  cases hm : m.known with
  | none =>
      unfold load at h
      rw [hm] at h
      exact Or.inr ⟨hm, h⟩
  | some known =>
      rw [load_of_known loader hm] at h
      cases known with
      | ok own =>
          cases h
          exact Or.inl hm
      | error message => cases h

theorem load_of_owes (h : m.Owes loader outcome) :
    (m.load loader).1 = outcome.mapError .reference ∧
      (m.load loader).2.known = some outcome := by
  rcases h with hknown | ⟨hnone, hnext⟩
  · rw [load_of_known loader hknown]
    exact ⟨rfl, hknown⟩
  · unfold load
    rw [hnone]
    refine ⟨hnext, ?_⟩
    change remembered (loader m.requests.length).result = some outcome
    rw [hnext, remembered_mapError]

theorem find_of_known (loader : Loader) (h : m.known = some outcome) (number : Nat) :
    m.find loader number = ((outcome.mapError .reference).map (·.find? number), m) := by
  unfold find
  rw [load_of_known loader h]

theorem find_of_owes (h : m.Owes loader outcome) (number : Nat) :
    (m.find loader number).1 = (outcome.mapError .reference).map (·.find? number) ∧
      (m.find loader number).2.Owes loader outcome := by
  rcases load_of_owes h with ⟨hresult, hknown⟩
  exact ⟨congrArg (Except.map _) hresult, Or.inl hknown⟩

end Memo

end Annals
