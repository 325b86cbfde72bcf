import Annals.Lint.References
import Annals.Proofs.Lint.Account
import Annals.Proofs.Release.Memo

/-!
# Chains of Checks without their State

A chain of checks carries one thing from block to block, the memo of the index of
releases. It never shows: as long as the memo owes an outcome, the check of pull
requests answers every block as it would if the outcome had been there from the
beginning. So a chain is worth the same for a block wherever the block stands, in
whatever document, and in whichever run.

A check is given here by its `Form`, which leaves open the loader that the check of
pull requests asks. `Form.answer` is what a form answers once the outcome of the
loader is known, and it is a function of the block alone. All that is said of runs
follows from `lintBlock_forms`, by the loops over candidates and documents: what a
document adds to the results is its `share`, and a run adds up the shares.

## Main definitions

* `Check.Form`: A check with its loader left open.
* `Check.Form.answer`: What a check answers, by the outcome of the loader.
* `Results.plus`, `Results.total`: Results put together.
* `Run.worth`: What a candidate is worth.
* `Run.share`, `Run.haltOf`: What a document adds to a run, and why it ends it.

## Theorems

* `run_form`: A check answers by the outcome, and the memo goes on owing it.
* `lintBlock_forms`: What a candidate is worth does not depend on the memo.
* `lintDocument_forms`: One document.
* `lintDocuments_forms`: Several documents.
-/

namespace Annals

namespace References

/-- The issues of unknown pull requests if the index comes to an outcome. -/
def pullRequestAnswer (outcome : Except String ReleaseIndex) (e : Entry) :
    Except CheckFault (List Issue) :=
  (pullRequestIssues (.failing "") e ⟨some outcome, 0, []⟩).1

variable {loader : Loader} {outcome : Except String ReleaseIndex} {m m' : Memo}

/-- Two memos that owe the same outcome, each to its own loader, answer a record alike. -/
theorem pullRequestIssue_owes {loader' : Loader} (h : m.Owes loader outcome)
    (h' : m'.Owes loader' outcome) (e : Entry) (name : String) (record : Value) :
    (pullRequestIssue loader e name record m).1 = (pullRequestIssue loader' e name record m').1 ∧
      (pullRequestIssue loader e name record m).2.Owes loader outcome ∧
      (pullRequestIssue loader' e name record m').2.Owes loader' outcome := by
  let url := (record.field? "pr-url").getD .null
  cases hn : numberOf url with
  | error n =>
      have hfails (loader : Loader) (m : Memo) : pullRequestIssue loader e name record m
          = (.error (.halt (.record (.longNumber n))), m) := by
        simp only [pullRequestIssue, url, hn] at hn ⊢
      rw [hfails, hfails]
      exact ⟨rfl, h, h'⟩
  | ok found =>
      cases found with
      | none =>
          have hnone (loader : Loader) (m : Memo) : pullRequestIssue loader e name record m
              = (some <$> about url (noNumber e name url), m) := by
            simp only [pullRequestIssue, url, hn] at hn ⊢
          rw [hnone, hnone]
          exact ⟨rfl, h, h'⟩
      | some number =>
          -- Only here is anything looked up.
          rcases Memo.find_of_owes h number with ⟨hresult, howes⟩
          rcases Memo.find_of_owes h' number with ⟨hresult', howes'⟩
          rcases hf : m.find loader number with ⟨answer, after⟩
          rcases hf' : m'.find loader' number with ⟨answer', after'⟩
          rw [hf] at hresult howes
          rw [hf'] at hresult' howes'
          have hsame : answer = answer' := hresult.trans hresult'.symm
          subst hsame
          simp only [pullRequestIssue, url, hn, hf, hf'] at hn ⊢
          cases answer with
          | error f => exact ⟨rfl, howes, howes'⟩
          | ok release => cases release <;> exact ⟨rfl, howes, howes'⟩

theorem pullRequestIssuesFrom_owes {loader' : Loader} (e : Entry) (records : List (String × Value))
    (h : m.Owes loader outcome) (h' : m'.Owes loader' outcome) :
    (pullRequestIssuesFrom loader e records m).1
        = (pullRequestIssuesFrom loader' e records m').1 ∧
      (pullRequestIssuesFrom loader e records m).2.Owes loader outcome := by
  induction records generalizing m m' with
  | nil => exact ⟨rfl, h⟩
  | cons r rest ih =>
      rcases r with ⟨name, record⟩
      rcases pullRequestIssue_owes h h' e name record with ⟨hsame, howes, howes'⟩
      -- The first record is answered alike by both loaders, and both memos go on owing the outcome.
      rcases hr : pullRequestIssue loader e name record m with ⟨answer, after⟩
      rcases hr' : pullRequestIssue loader' e name record m' with ⟨answer', after'⟩
      rw [hr] at hsame howes
      rw [hr'] at hsame howes'
      simp only [] at hsame howes howes'
      subst hsame
      simp only [pullRequestIssuesFrom, hr, hr']
      cases answer with
      | error f => exact ⟨rfl, howes⟩
      | ok found =>
          rcases ih howes howes' with ⟨hrest, hafter⟩
          exact ⟨congrArg (Except.map (found.toList ++ ·)) hrest, hafter⟩

theorem pullRequestIssues_owes (h : m.Owes loader outcome) (e : Entry) :
    (pullRequestIssues loader e m).1 = pullRequestAnswer outcome e ∧
      (pullRequestIssues loader e m).2.Owes loader outcome :=
  pullRequestIssuesFrom_owes e _ h (Or.inl rfl)

end References

namespace Check

/-- A check with its loader left open: one that has no use for the index, or the check of
    pull requests. -/
inductive Form where
  | plain (name : String) (find : Entry → Except CheckFault (List Issue))
  | pullRequests

namespace Form

/-- The check that asks a loader for the index. -/
def on (loader : Loader) : Form → Check Memo
  | plain name find => .pure name find
  | pullRequests => .pullRequests loader

/-- What a check answers if the index comes to an outcome. -/
def answer (outcome : Except String ReleaseIndex) : Form → Entry → Except CheckFault (List Issue)
  | plain _ find => find
  | pullRequests => References.pullRequestAnswer outcome

end Form

theorem run_form {loader : Loader} {outcome : Except String ReleaseIndex} {m : Memo}
    (h : m.Owes loader outcome) (f : Form) (e : Entry) :
    ((f.on loader).run e m).1 = f.answer outcome e ∧
      ((f.on loader).run e m).2.Owes loader outcome := by
  cases f with
  | plain name find => exact ⟨rfl, h⟩
  | pullRequests => exact References.pullRequestIssues_owes h e

end Check

namespace Results

/-- The results of two parts of a run together. -/
def plus (r s : Results) : Results :=
  ⟨r.documents + s.documents, r.blocks + s.blocks, r.errors + s.errors, r.warnings + s.warnings,
    r.issues ++ s.issues⟩

/-- The results of several parts of a run together. -/
def total (parts : List Results) : Results := parts.foldr plus empty

theorem plus_assoc (r s t : Results) : (r.plus s).plus t = r.plus (s.plus t) := by
  simp only [plus, Nat.add_assoc, List.append_assoc]

theorem empty_plus (r : Results) : empty.plus r = r := by
  simp only [plus, empty, Nat.zero_add, List.nil_append]

theorem plus_empty (r : Results) : r.plus empty = r := by
  simp only [plus, empty, Nat.add_zero, List.append_nil]

theorem total_append (parts more : List Results) :
    total (parts ++ more) = (total parts).plus (total more) := by
  induction parts with
  | nil => exact (empty_plus _).symm
  | cons r rest ih =>
      change r.plus (total (rest ++ more)) = (r.plus (total rest)).plus (total more)
      rw [ih, plus_assoc]

theorem total_issues (parts : List Results) : (total parts).issues = parts.flatMap (·.issues) := by
  induction parts with
  | nil => rfl
  | cons r rest ih =>
      change r.issues ++ (total rest).issues = _
      rw [ih, List.flatMap_cons]

/-- The counts of results do not depend on the order of their parts. -/
theorem total_perm {parts other : List Results} (h : parts.Perm other) :
    (total parts).documents = (total other).documents ∧
      (total parts).blocks = (total other).blocks ∧
      (total parts).errors = (total other).errors ∧
      (total parts).warnings = (total other).warnings := by
  induction h with
  | nil => exact ⟨rfl, rfl, rfl, rfl⟩
  | cons r _ ih =>
      rcases ih with ⟨hd, hb, he, hw⟩
      exact ⟨congrArg (r.documents + ·) hd, congrArg (r.blocks + ·) hb,
        congrArg (r.errors + ·) he, congrArg (r.warnings + ·) hw⟩
  | swap r s rest =>
      exact ⟨Nat.add_left_comm .., Nat.add_left_comm .., Nat.add_left_comm ..,
        Nat.add_left_comm ..⟩
  | trans _ _ ih ih' =>
      exact ⟨ih.1.trans ih'.1, ih.2.1.trans ih'.2.1, ih.2.2.1.trans ih'.2.2.1,
        ih.2.2.2.trans ih'.2.2.2⟩

end Results

namespace Run

variable {ρ : Type} {loader : Loader} {outcome : Except String ReleaseIndex}

/-- What checks answer to an entry, each by itself. -/
def answersOf (outcome : Except String ReleaseIndex) (forms : List Check.Form) (e : Entry) :
    List (Except CheckFault (List Issue)) :=
  forms.map fun f => f.answer outcome e

/-- What a candidate is worth to a chain whose index comes to an outcome. -/
def worth (outcome : Except String ReleaseIndex) (forms : List Check.Form) (file : String)
    (c : History.Candidate) : BlockOutcome :=
  match History.block c with
  | .error (.format f) => ⟨[formatError file c f], none⟩
  | .error (.html f) => ⟨[], some (.halt (.html f))⟩
  | .ok b =>
    match Yaml.decode true b.yaml with
    | .ok history =>
      let answers := answersOf outcome forms ⟨file, b, history⟩
      ⟨foundIn answers, failureIn answers⟩
    | .error (.defect d) => ⟨[], some (.halt (.decoding d))⟩
    | .error f =>
      match f.named? b.yaml.toList.toArray with
      | some (message, line) => ⟨[parseError file b message line], none⟩
      | none => ⟨[], none⟩

/-- What the candidates of a document are worth. -/
def worths (outcome : Except String ReleaseIndex) (forms : List Check.Form) (d : Document) :
    List BlockOutcome :=
  (History.candidates d.text).map (worth outcome forms d.name)

/-- What a document adds to the results of a run. -/
def share (outcome : Except String ReleaseIndex) (forms : List Check.Form) (d : Document) :
    Results :=
  let all := worths outcome forms d
  { Results.empty.grown (reached all)
      ((all.take (reached all)).flatMap (·.issues) ++ closing d.name (stopped all)) with
    documents := 1 }

/-- Why a document ends a run, if it does. -/
def haltOf (outcome : Except String ReleaseIndex) (forms : List Check.Form) (d : Document) :
    Option Halt :=
  halting (stopped (worths outcome forms d))

theorem answers_forms (forms : List Check.Form) {m : Memo} (h : m.Owes loader outcome)
    (e : Entry) : answers e (forms.map (·.on loader)) m = answersOf outcome forms e := by
  induction forms generalizing m with
  | nil => rfl
  | cons f rest ih =>
      rcases Check.run_form h f e with ⟨hanswer, howes⟩
      change ((f.on loader).run e m).1 :: answers e (rest.map (·.on loader)) _ = _
      rw [hanswer, ih howes]
      rfl

theorem runChecks_owes (forms : List Check.Form) {m : Memo} (h : m.Owes loader outcome)
    (e : Entry) : (runChecks e (forms.map (·.on loader)) m).2.Owes loader outcome := by
  induction forms generalizing m with
  | nil => exact h
  | cons f rest ih =>
      rcases Check.run_form h f e with ⟨_, howes⟩
      rcases hr : (f.on loader).run e m with ⟨answer, after⟩
      rw [hr] at howes
      simp only [List.map_cons, runChecks, hr]
      cases answer with
      | error fault => exact howes
      | ok found => exact ih howes

/-- What a candidate is worth does not depend on what is remembered of the index. -/
theorem lintBlock_forms (forms : List Check.Form) (file : String) (c : History.Candidate)
    {m : Memo} (h : m.Owes loader outcome) :
    (lintBlock (forms.map (·.on loader)) file c m).1 = worth outcome forms file c ∧
      (lintBlock (forms.map (·.on loader)) file c m).2.Owes loader outcome := by
  unfold lintBlock worth
  cases hb : History.block c with
  | error f => cases f <;> exact ⟨rfl, h⟩
  | ok b =>
      simp only [lintHistory]
      cases hd : Yaml.decode true b.yaml with
      | ok history =>
          simp only []
          -- Only here checks are run, and only they use what is remembered.
          rw [runChecks_outcome, answers_forms forms h]
          exact ⟨rfl, runChecks_owes forms h _⟩
      | error f =>
          cases f with
          | defect d => exact ⟨rfl, h⟩
          | character position code => exact ⟨rfl, h⟩
          | problem p => exact ⟨rfl, h⟩

theorem outcomes_forms (forms : List Check.Form) (file : String) (cs : List History.Candidate)
    {m : Memo} (h : m.Owes loader outcome) :
    outcomes (forms.map (·.on loader)) file cs m = cs.map (worth outcome forms file) := by
  induction cs generalizing m with
  | nil => rfl
  | cons c rest ih =>
      rcases lintBlock_forms forms file c h with ⟨hworth, howes⟩
      rw [outcomes, hworth, ih howes]
      rfl

theorem lintBlocks_owes (l : Listener ρ) (forms : List Check.Form) (file : String)
    (cs : List History.Candidate) {r : Run Memo ρ} (h : r.shared.Owes loader outcome) :
    (lintBlocks l (forms.map (·.on loader)) file cs r).1.shared.Owes loader outcome := by
  induction cs generalizing r with
  | nil => exact h
  | cons c rest ih =>
      rcases lintBlock_forms forms file c h with ⟨_, howes⟩
      rcases ho : lintBlock (forms.map (·.on loader)) file c r.shared with ⟨o, after⟩
      rw [ho] at howes
      have hshared : (emitAll l o.issues { r.countBlock with shared := after }).shared = after :=
        emitAll_shared l _ _
      simp only [lintBlocks, countBlock, ho]
      cases o.fault with
      | some fault => exact hshared.symm ▸ howes
      | none => exact ih (hshared.symm ▸ howes)

/-- One document adds its share to the results, whatever is remembered of the index. -/
theorem lintDocument_forms (l : Listener ρ) (forms : List Check.Form) (d : Document)
    {r : Run Memo ρ} (h : r.shared.Owes loader outcome) :
    (lintDocument l (forms.map (·.on loader)) d r).1.results
        = r.results.plus (share outcome forms d) ∧
      (lintDocument l (forms.map (·.on loader)) d r).2 = haltOf outcome forms d ∧
      (lintDocument l (forms.map (·.on loader)) d r).1.shared.Owes loader outcome := by
  have hcount : r.countDocument.shared.Owes loader outcome := h
  -- The blocks give the results and the reason for a stop; what closes the document adds to both.
  have hblocks := lintBlocks_account l (forms.map (·.on loader)) d.name
    (History.candidates d.text) r.countDocument
  rw [outcomes_forms forms d.name _ hcount] at hblocks
  rcases hblocks with ⟨hresults, _, hstop⟩
  rw [lintDocument_closing]
  refine ⟨?_, ?_, ?_⟩
  · rw [emitAll_results, hresults, hstop, Results.grown_grown]
    simp only [share, worths, Results.plus, Results.grown, Results.empty, countDocument,
      Nat.add_zero, Nat.zero_add, List.nil_append]
  · exact congrArg halting hstop
  · rw [emitAll_shared]
    exact lintBlocks_owes l forms d.name _ hcount

/-- A run over documents ends with the first of them that ends it, and if none does, it has
    added up their shares. The induction is on the documents; the memo owes the outcome to
    each of them. -/
theorem lintDocuments_forms (l : Listener ρ) (forms : List Check.Form) (ds : List Document)
    {r : Run Memo ρ} (h : r.shared.Owes loader outcome) :
    let run := lintDocuments l (forms.map (·.on loader)) ds r
    run.2 = ds.findSome? (haltOf outcome forms) ∧
      run.1.shared.Owes loader outcome ∧
      (run.2 = none →
        run.1.results = r.results.plus (Results.total (ds.map (share outcome forms)))) := by
  induction ds generalizing r with
  | nil => exact ⟨rfl, h, fun _ => (Results.plus_empty _).symm⟩
  | cons d rest ih =>
      intro run
      rcases lintDocument_forms l forms d h with ⟨hresults, hhalt, howes⟩
      rcases hrun : lintDocument l (forms.map (·.on loader)) d r with ⟨r', halted⟩
      rw [hrun] at hresults hhalt howes
      rw [List.findSome?_cons, ← hhalt]
      -- A document that ends the run leaves the others out, in the list of ends as in the run.
      cases halted with
      | some halt =>
          have hstop : run = (r', some halt) := by simp only [run, lintDocuments, hrun]
          rw [hstop]
          exact ⟨rfl, howes, fun hnone => by cases hnone⟩
      | none =>
          have hgo : run = lintDocuments l (forms.map (·.on loader)) rest r' := by
            simp only [run, lintDocuments, hrun]
          rcases ih howes with ⟨ihhalt, ihowes, ihresults⟩
          rw [hgo]
          refine ⟨ihhalt, ihowes, fun hnone => ?_⟩
          rw [ihresults hnone, hresults, Results.plus_assoc]
          rfl

end Run

end Annals
