import Annals.Proofs.Lint.Outage
import Annals.Proofs.Lint.Workspaces

/-!
# Errors and Warnings by their Codes

Each issue of a run is as bad as its code says.

There are few places where issues are made: the ways in which a block can fail to be read,
the six checks, a document that is closed for want of data, and a file that cannot be
read. In each of them the code and the severity are given together, so the law holds of
every issue, for every state of the memo and whether or not the run goes on to its end.
The counts of a run are those of its issues, part by part.

## Main definitions

* `Check.IsRegular`: A check whose issues are as bad as their codes say.

## Theorems

* `Context.isRegular`: The checks that a context can ask for.
* `regular_of_alone`: The issues of a document.
* `regular_of_contribution`, `balanced_contribution`: What a path of a workspace adds.
* `total_contributions`: What all of its paths add up to.
-/

namespace Annals

namespace Check

variable {σ : Type}

/-- A check whose issues are as bad as their codes say, on any state. -/
def IsRegular (check : Check σ) : Prop :=
  ∀ e s found, (check.run e s).1 = .ok found → ∀ i ∈ found, i.IsRegular

theorem isRegular_pure {code : IssueCode} (name : String)
    {find : Entry → Except CheckFault (List Issue)} (h : ∀ e, Speaks code (find e)) :
    (Check.pure name find : Check σ).IsRegular :=
  fun e _ found hfound i hi => ((h e).issues found hfound i hi).2

theorem isRegular_pullRequestIssue (loader : Loader) (e : Entry) (name : String) (record : Value)
    (m : Memo) {found : Option Issue}
    (h : (References.pullRequestIssue loader e name record m).1 = .ok found) :
    ∀ i ∈ found.toList, i.IsRegular := by
  let url := (record.field? "pr-url").getD .null
  have hnumber : (References.noNumber e name url).IsRegular := rfl
  have hrelease (number : Nat) : (References.noRelease e name number).IsRegular := rfl
  unfold References.pullRequestIssue at h
  simp only [] at h
  split at h
  · cases h
  · -- Without a number there is one issue, unless the address cannot be shown.
    rcases about_eq url (References.noNumber e name url) with habout | ⟨f, habout⟩
    · rw [habout] at h
      cases h
      exact List.forall_mem_singleton.mpr hnumber
    · rw [habout] at h
      cases h
  · split at h
    · cases h
    · cases h
      exact List.forall_mem_singleton.mpr (hrelease _)
    · cases h
      exact fun i hi => absurd hi List.not_mem_nil

theorem isRegular_pullRequests (loader : Loader) : (Check.pullRequests loader).IsRegular := by
  have hrecords (e : Entry) (records : List (String × Value)) (m : Memo) (found : List Issue)
      (h : (References.pullRequestIssuesFrom loader e records m).1 = .ok found) :
      ∀ i ∈ found, i.IsRegular := by
    induction records generalizing m found with
    | nil =>
        cases h
        exact fun i hi => absurd hi List.not_mem_nil
    | cons r rest ih =>
        rcases r with ⟨name, record⟩
        have hown (own : Option Issue) :=
          @isRegular_pullRequestIssue loader e name record m own
        rcases hr : References.pullRequestIssue loader e name record m with ⟨answer, after⟩
        rw [hr] at hown
        -- There are issues only if this record and all after it have an answer.
        simp only [References.pullRequestIssuesFrom, hr] at h
        cases answer with
        | error f => cases h
        | ok own =>
            simp only [] at h
            cases hothers : (References.pullRequestIssuesFrom loader e rest after).1 with
            | error f =>
                rw [hothers] at h
                cases h
            | ok others =>
                rw [hothers] at h
                cases h
                intro i hi
                rcases List.mem_append.mp hi with hi | hi
                · exact hown own rfl i hi
                · exact ih after others hothers i hi
  exact fun e m found h => hrecords e _ m found h

end Check

/-- The issues of each check that a context asks for are as bad as their codes say. -/
theorem Context.isRegular (c : Context) : ∀ check ∈ c.checks, check.IsRegular := by
  intro check hcheck
  simp only [checks, List.mem_append] at hcheck
  -- The checks in the order in which a context asks for them.
  rcases hcheck with ((((h | h) | h) | h) | h) | h
  · rw [List.mem_ite_nil_right, List.mem_singleton] at h
    rw [h.2]
    exact Check.isRegular_pure _ Check.speaks_strings
  · rw [List.mem_ite_nil_right, List.mem_singleton] at h
    rw [h.2]
    exact Check.isRegular_pure _ Check.speaks_descriptions
  · rcases List.mem_map.mp h with ⟨s, _, rfl⟩
    exact Check.isRegular_pure _ (Check.speaks_schema s)
  · rw [List.mem_ite_nil_right, List.mem_singleton] at h
    rw [h.2]
    exact Check.isRegular_pure _ Check.speaks_placement
  · rcases List.mem_map.mp h with ⟨changes, _, rfl⟩
    exact Check.isRegular_pure _ (Check.speaks_breakingChanges changes)
  · rcases List.mem_map.mp h with ⟨loader, _, rfl⟩
    exact Check.isRegular_pullRequests loader

namespace Results

theorem Balanced.plus {r s : Results} (hr : r.Balanced) (hs : s.Balanced) :
    (r.plus s).Balanced := by
  constructor
  · simp only [Results.plus, List.countP_append, hr.errors, hs.errors]
  · simp only [Results.plus, List.countP_append, hr.warnings, hs.warnings]

theorem balanced_total {parts : List Results} (h : ∀ r ∈ parts, r.Balanced) :
    (total parts).Balanced := by
  induction parts with
  | nil => exact ⟨rfl, rfl⟩
  | cons r rest ih =>
      rw [List.forall_mem_cons] at h
      exact h.1.plus (ih h.2)

end Results

namespace Run

variable {σ : Type} {checks : List (Check σ)}

theorem mem_answers {e : Entry} {s : σ} {answer : Except CheckFault (List Issue)}
    (h : answer ∈ answers e checks s) : ∃ check ∈ checks, ∃ s', answer = (check.run e s').1 := by
  induction checks generalizing s with
  | nil => cases h
  | cons check rest ih =>
      rcases List.mem_cons.mp h with rfl | h
      · exact ⟨check, List.mem_cons_self .., s, rfl⟩
      · rcases ih h with ⟨other, hother, s', hs⟩
        exact ⟨other, List.mem_cons_of_mem _ hother, s', hs⟩

theorem mem_outcomes {file : String} {cs : List History.Candidate} {s : σ} {o : BlockOutcome}
    (h : o ∈ outcomes checks file cs s) : ∃ c s', o = (lintBlock checks file c s').1 := by
  induction cs generalizing s with
  | nil => cases h
  | cons c rest ih =>
      rcases List.mem_cons.mp h with rfl | h
      · exact ⟨c, s, rfl⟩
      · exact ih h

/-- The issues of a candidate are as bad as their codes say, if those of the checks are. -/
theorem regular_of_gives (h : ∀ check ∈ checks, check.IsRegular) {file : String}
    {c : History.Candidate} {s : σ} {o : BlockOutcome} (ho : Gives checks file c s o) :
    ∀ i ∈ o.issues, i.IsRegular := by
  cases ho with
  -- One error of the candidate itself, none at all, or those that its checks found.
  | misformed | undecoded => exact List.forall_mem_singleton.mpr rfl
  | unreadable | defective => exact fun i hi => absurd hi List.not_mem_nil
  | checked hb hd =>
      intro i hi
      rcases foundIn_mem hi with ⟨found, hanswer, hi⟩
      rcases mem_answers hanswer with ⟨check, hcheck, s', hs⟩
      exact h check hcheck _ s' found hs.symm i hi

/-- The issues of a document are as bad as their codes say, if those of the checks are. -/
theorem regular_of_alone (h : ∀ check ∈ checks, check.IsRegular) (d : Document) (s : σ) :
    ∀ i ∈ (alone checks d s).1.results.issues, i.IsRegular := by
  intro i hi
  rcases lintBlocks_account .transcript checks d.name (History.candidates d.text)
    (start s []).countDocument with ⟨hresults, _, hfault⟩
  unfold alone at hi
  rw [lintDocument_closing, emitAll_results, hresults, hfault] at hi
  rcases List.mem_append.mp hi with hi | hi
  · rcases List.mem_append.mp hi with hi | hi
    · cases hi
    · rcases List.mem_flatMap.mp hi with ⟨o, ho, hi⟩
      rcases mem_outcomes (List.mem_of_mem_take ho) with ⟨c, s', rfl⟩
      exact regular_of_gives h (lintBlock_gives checks d.name c s') i hi
  · -- The issue that closes a document is an error, if there is one.
    unfold closing at hi
    split at hi
    · rw [List.mem_singleton.mp hi]
      rfl
    · cases hi

/-- The counts of a document are those of its issues. -/
theorem balanced_alone (checks : List (Check σ)) (d : Document) (s : σ) :
    (alone checks d s).1.results.Balanced := by
  have hstart : (start s ([] : List Event)).countDocument.results.Balanced := ⟨rfl, rfl⟩
  have hresults := (lintBlocks_account .transcript checks d.name (History.candidates d.text)
    (start s []).countDocument).1
  unfold alone
  rw [lintDocument_closing, emitAll_results, hresults]
  exact (hstart.grown _ _).grown _ _

theorem balanced_contribution (c : Context) (fs : FileSystem) (w : Workspace) (p : Path) :
    (contribution c fs w p).Balanced := by
  unfold contribution
  cases w.load fs p with
  | error f => exact ⟨rfl, rfl⟩
  | ok d => exact balanced_alone c.checks d Memo.start

/-- The issues of a path are as bad as their codes say. -/
theorem regular_of_contribution (c : Context) (fs : FileSystem) (w : Workspace) (p : Path) :
    ∀ i ∈ (contribution c fs w p).issues, i.IsRegular := by
  unfold contribution
  cases w.load fs p with
  | error f => exact List.forall_mem_singleton.mpr rfl
  | ok d => exact regular_of_alone c.isRegular d Memo.start

/-- What the paths of a workspace add up to. -/
theorem total_contributions (c : Context) (fs : FileSystem) (w : Workspace) (ps : List Path) :
    let results := Results.total (ps.map (contribution c fs w))
    results.Balanced ∧ ∀ i ∈ results.issues, i.IsRegular := by
  refine ⟨Results.balanced_total fun part hpart => ?_, fun i hi => ?_⟩
  · rcases List.mem_map.mp hpart with ⟨p, _, rfl⟩
    exact balanced_contribution c fs w p
  · rw [Results.total_issues] at hi
    rcases List.mem_flatMap.mp hi with ⟨part, hpart, hi⟩
    rcases List.mem_map.mp hpart with ⟨p, _, rfl⟩
    exact regular_of_contribution c fs w p i hi

end Run

end Annals
