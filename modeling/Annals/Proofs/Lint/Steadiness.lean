import Annals.Proofs.Lint.Separation
import Annals.Proofs.Lint.Trace

/-!
# The Memo is Steady

The checks of a context share a memo of the index, and no document can tell what is in it.

If the loader comes to an outcome that is remembered, this is the invariant `Memo.Owes`:
whether the memo has the outcome already or has yet to ask for it, the answers are the
same. There is one other way in which loading can end. A fault of the records is not
remembered, and the next one who asks may be told something else. But such a fault ends
the run, so as long as the run goes on, nobody has asked for the index and the memo is
still what it was at the start (`lintDocument_refused`). So in every run that goes on, and
for every loader, the memo is in one of two states that make no difference.

## Main definitions

* `Loader.Refuses`: Asked for the first time, a loader comes to a fault of the records.
* `Memo.Settled`: The states of a memo in a run that goes on.

## Theorems

* `lintDocument_refused`: Nobody has asked a loader that refuses, or the run ends.
* `Context.steady`: The memo makes no difference to documents.
-/

namespace Annals

/-- Asked for the first time, a loader comes to a fault of the records. -/
def Loader.Refuses (loader : Loader) : Prop :=
  ∃ f, (loader 0).result = .error (.record f)

theorem Loader.yields_or_refuses (loader : Loader) :
    (∃ outcome, loader.Yields outcome) ∨ loader.Refuses := by
  cases h : (loader 0).result with
  | ok index => exact Or.inl ⟨.ok index, h⟩
  | error f =>
      cases f with
      | reference message => exact Or.inl ⟨.error message, h⟩
      | record f => exact Or.inr ⟨f, h⟩

/-- The states of a memo in a run that goes on: it is as it was at the start, or it owes the
    outcome of the loader. -/
def Memo.Settled (loader : Loader) (m : Memo) : Prop :=
  m = start ∨ ∃ outcome, loader.Yields outcome ∧ m.Owes loader outcome

/-- A failure that ends the run. -/
def CheckFault.IsHalt (f : CheckFault) : Prop := ∃ h, f = .halt h

namespace References

variable {loader : Loader}

/-- The first record for which a loader that refuses is asked ends the run. -/
theorem pullRequestIssue_refused (h : loader.Refuses) (e : Entry) (name : String)
    (record : Value) :
    (∃ f, (pullRequestIssue loader e name record .start).1 = .error f ∧ f.IsHalt) ∨
      (pullRequestIssue loader e name record .start).2 = .start := by
  rcases h with ⟨f, hf⟩
  unfold pullRequestIssue
  simp only []
  cases numberOf ((record.field? "pr-url").getD .null) with
  | error n => exact Or.inr rfl
  | ok found =>
      cases found with
      | none => exact Or.inr rfl
      | some number =>
          -- The memo knows nothing yet, so the loader is asked, and it refuses.
          have hfind : (Memo.start.find loader number).1 = .error (.record f) := by
            change Except.map _ (loader 0).result = _
            rw [hf]
            rfl
          rcases hfound : Memo.start.find loader number with ⟨answer, after⟩
          rw [hfound] at hfind
          simp only [] at hfind
          subst hfind
          simp only [hfound]
          exact Or.inl ⟨_, rfl, _, rfl⟩

theorem pullRequestIssuesFrom_refused (h : loader.Refuses) (e : Entry)
    (records : List (String × Value)) :
    (∃ f, (pullRequestIssuesFrom loader e records .start).1 = .error f ∧ f.IsHalt) ∨
      (pullRequestIssuesFrom loader e records .start).2 = .start := by
  induction records with
  | nil => exact Or.inr rfl
  | cons r rest ih =>
      rcases r with ⟨name, record⟩
      rcases hr : pullRequestIssue loader e name record .start with ⟨answer, after⟩
      have hown := pullRequestIssue_refused h e name record
      rw [hr] at hown
      simp only [pullRequestIssuesFrom, hr]
      rcases hown with ⟨f, rfl, hhalt⟩ | rfl
      · exact Or.inl ⟨f, rfl, hhalt⟩
      · -- Another failure ends the check too, but then the loader has not been asked.
        cases answer with
        | error f => exact Or.inr rfl
        | ok found =>
            rcases ih with ⟨f, hf, hhalt⟩ | hsame
            · refine Or.inl ⟨f, ?_, hhalt⟩
              simp only [hf]
              rfl
            · exact Or.inr hsame

end References

namespace Run

open Check

variable {ρ : Type} {loader : Loader}

theorem runChecks_refused (h : loader.Refuses) (e : Entry) (forms : List Form) :
    (∃ f, (runChecks e (forms.map (·.on loader)) .start).1.fault = some f ∧ f.IsHalt) ∨
      (runChecks e (forms.map (·.on loader)) .start).2 = .start := by
  induction forms with
  | nil => exact Or.inr rfl
  | cons form rest ih =>
      -- Only the check of pull requests has a use for the memo.
      have hown : (∃ f, ((form.on loader).run e .start).1 = .error f ∧ f.IsHalt) ∨
          ((form.on loader).run e .start).2 = .start := by
        cases form with
        | plain name find => exact Or.inr rfl
        | pullRequests => exact References.pullRequestIssuesFrom_refused h e _
      rcases hr : (form.on loader).run e .start with ⟨answer, after⟩
      rw [hr] at hown
      simp only [List.map_cons, runChecks, hr]
      rcases hown with ⟨f, rfl, hhalt⟩ | rfl
      · exact Or.inl ⟨f, rfl, hhalt⟩
      · cases answer with
        | error f => exact Or.inr rfl
        | ok found => exact ih

theorem lintBlock_refused (h : loader.Refuses) (forms : List Form) (file : String)
    (c : History.Candidate) :
    (∃ f, (lintBlock (forms.map (·.on loader)) file c .start).1.fault = some f ∧ f.IsHalt) ∨
      (lintBlock (forms.map (·.on loader)) file c .start).2 = .start := by
  unfold lintBlock
  cases History.block c with
  | error f => cases f <;> exact Or.inr rfl
  | ok b =>
      -- Nothing is asked for before the checks are run.
      simp only [lintHistory]
      cases Yaml.decode true b.yaml with
      | ok history => exact runChecks_refused h _ forms
      | error f =>
          cases f with
          | defect d => exact Or.inr rfl
          | character position code => exact Or.inr rfl
          | problem p => exact Or.inr rfl

theorem lintBlocks_refused (h : loader.Refuses) (l : Listener ρ) (forms : List Form)
    (file : String) (cs : List History.Candidate) {r : Run Memo ρ} (hr : r.shared = .start) :
    (∃ f, (lintBlocks l (forms.map (·.on loader)) file cs r).2 = some f ∧ f.IsHalt) ∨
      (lintBlocks l (forms.map (·.on loader)) file cs r).1.shared = .start := by
  induction cs generalizing r with
  | nil => exact Or.inr hr
  | cons c rest ih =>
      have hown := lintBlock_refused h forms file c
      rcases ho : lintBlock (forms.map (·.on loader)) file c .start with ⟨o, after⟩
      rw [ho] at hown
      -- Up to here nothing is remembered, so the candidate starts afresh.
      have hblock : lintBlock (forms.map (·.on loader)) file c r.shared = (o, after) := by
        rw [hr, ho]
      have hshared : (emitAll l o.issues { r.countBlock with shared := after }).shared = after :=
        emitAll_shared l _ _
      simp only [lintBlocks, countBlock, hblock] at hshared ⊢
      rcases hown with ⟨f, hf, hhalt⟩ | rfl
      · rw [hf]
        exact Or.inl ⟨f, rfl, hhalt⟩
      · cases o.fault with
        | some f => exact Or.inr hshared
        | none => exact ih hshared

/-- A document ends the run, or nobody has asked a loader that refuses. -/
theorem lintDocument_refused (h : loader.Refuses) (l : Listener ρ) (forms : List Form)
    (d : Document) {r : Run Memo ρ} (hr : r.shared = .start)
    (hnone : (lintDocument l (forms.map (·.on loader)) d r).2 = none) :
    (lintDocument l (forms.map (·.on loader)) d r).1.shared = .start := by
  rw [lintDocument_closing] at hnone ⊢
  rcases lintBlocks_refused h l forms d.name (History.candidates d.text) (r := r.countDocument) hr
    with ⟨f, hf, halted, rfl⟩ | hsame
  · rw [hf] at hnone
    cases hnone
  · rw [emitAll_shared]
    exact hsame

/-- The memo makes no difference to documents, whatever the loader. -/
theorem steady_forms (forms : List Form) (loader : Loader) :
    Steady (alone (forms.map (·.on loader))) Memo.start (Memo.Settled loader) := by
  have howed {outcome : Except String ReleaseIndex} (d : Document) {m : Memo}
      (h : m.Owes loader outcome) :=
    lintDocument_forms .transcript forms d (r := start m []) h
  constructor
  · intro d m hm
    rcases hm with rfl | ⟨outcome, hyields, howes⟩
    · exact ⟨rfl, rfl, rfl⟩
    · -- The memo and that of the start owe the same outcome.
      rcases howed d howes with ⟨hresults, hhalt, _⟩
      rcases howed d (Memo.start_owes hyields) with ⟨hresults', hhalt', _⟩
      exact agree_alone (hresults.trans hresults'.symm) (hhalt.trans hhalt'.symm)
  · intro d m hm hnone
    -- After a document the memo owes an outcome, unless no loader could be asked for one.
    rcases hm with rfl | ⟨outcome, hyields, howes⟩
    · rcases loader.yields_or_refuses with ⟨outcome, hyields⟩ | hrefuses
      · exact Or.inr ⟨outcome, hyields, (howed d (Memo.start_owes hyields)).2.2⟩
      · exact Or.inl (lintDocument_refused hrefuses .transcript forms d rfl hnone)
    · exact Or.inr ⟨outcome, hyields, (howed d howes).2.2⟩

end Run

namespace Context

/-- The states in which a run of a context can leave the memo. -/
def Settled (c : Context) : Memo → Prop := Memo.Settled (c.loader.getD (.failing ""))

theorem settled_start (c : Context) : c.Settled .start := Or.inl rfl

/-- The memo makes no difference to the documents of a run. -/
theorem steady (c : Context) : Run.Steady (Run.alone c.checks) Memo.start c.Settled := by
  have hloader : ∀ own, c.loader = some own → own = c.loader.getD (.failing "") := by
    intro own h
    rw [h]
    rfl
  rw [c.checks_eq_forms hloader]
  exact Run.steady_forms _ _

end Context

end Annals
