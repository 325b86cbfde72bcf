import Annals.Options.Context
import Annals.Proofs.Lint.Chain
import Annals.Proofs.Text.Lists

/-!
# Checks are Separate

A check can be turned off without changing what the other checks say.

Two facts make this so. A check does not look at what the checks before it have
found, so what it answers is a function of the block and of the index, as
`Run.worth` has it. And each check speaks under a code of its own, so its issues can
be told from all others: `Speaks` says this of an answer, and `speaks_form` of every
check that options can ask for. With an index at hand no answer is a want of data;
so if a run returns, no check has failed in it, every check was heard on every
block, and taking one away takes away exactly the issues with its code.

Each code stands for errors or for warnings throughout, in every issue of a run.
So taking away a check that only warns leaves the errors as they are.

## Main definitions

* `Check.Kind`: The six checks.
* `Context.without`: A context with one check turned off.
* `Context.forms`: The checks of a context, each with its kind.
* `Check.Speaks`: An answer whose issues have a given code.
* `Results.Lacks`: Results without the issues of a code.

## Theorems

* `checks_eq_forms`, `forms_without`: The checks of a context, and those with one
  turned off.
* `speaks_form`: A check speaks under its own code.
* `worth_without`, `share_without`: A candidate and a document with one check turned
  off.
* `lintDocuments_without`: A run with one check turned off.
-/

namespace Annals

/-- The severity of the issues with a code. -/
def IssueCode.severity : IssueCode → Severity
  | .unsafeString | .unknownPullRequest => .warning
  | _ => .error

/-- An issue is as bad as its code says. -/
def Issue.IsRegular (i : Issue) : Prop := i.severity = i.code.severity

namespace Check

/-- The six checks. -/
inductive Kind where
  | strings
  | descriptions
  | schema
  | placement
  | breakingChanges
  | pullRequests
  deriving DecidableEq, Repr

/-- The checks in the order in which they are made. -/
def Kind.all : List Kind :=
  [strings, descriptions, schema, placement, breakingChanges, pullRequests]

/-- The code under which a check speaks. -/
def Kind.code : Kind → IssueCode
  | strings => .unsafeString
  | descriptions => .unquotedDescription
  | schema => .schemaViolation
  | placement => .missingHeading
  | breakingChanges => .unknownBreakingChange
  | pullRequests => .unknownPullRequest

theorem Kind.code_injective {j k : Kind} (h : j.code = k.code) : j = k := by
  cases j <;> cases k <;> first | rfl | cases h

theorem formatError_ne_code (k : Kind) : .formatError ≠ k.code := by
  cases k <;> decide

theorem parseError_ne_code (k : Kind) : .parseError ≠ k.code := by
  cases k <;> decide

/-- An answer speaks under a code: all its issues have the code and are as bad as it says,
    and if it is none, it is not for want of data. -/
structure Speaks (code : IssueCode) (answer : Except CheckFault (List Issue)) : Prop where
  issues : ∀ found, answer = .ok found → ∀ i ∈ found, i.code = code ∧ i.IsRegular
  fault : ∀ message, answer ≠ .error (.reference message)

end Check

namespace Context

open Check

/-- A check of a context, with its loader left open, if it is turned on. -/
def form? (c : Context) : Kind → Option Form
  | .strings =>
    if c.options.checksStrings then
      some (.plain "check_strings" fun e => .ok (Wording.stringIssues e))
    else none
  | .descriptions =>
    if c.options.checksDescriptions then
      some (.plain "check_descriptions" fun e => .ok (Wording.descriptionIssues e))
    else none
  | .schema => c.schema.map fun s => .plain "check_schema" (Structure.schemaIssues s)
  | .placement =>
    if c.options.checksPlacement then
      some (.plain "check_placement" fun e => .ok (Structure.placementIssues e))
    else none
  | .breakingChanges =>
    c.breakingChanges.map fun changes =>
      .plain "check_breaking_changes" fun e => References.headerIssues changes e
  | .pullRequests => c.loader.map fun _ => .pullRequests

/-- The checks of a context that are turned on, with their kinds. -/
def forms (c : Context) : List (Kind × Form) :=
  Kind.all.filterMap fun k => (c.form? k).map (k, ·)

/-- A context with one check turned off. -/
def without (k : Kind) (c : Context) : Context :=
  match k with
  | .strings => { c with options := { c.options with checksStrings := false } }
  | .descriptions => { c with options := { c.options with checksDescriptions := false } }
  | .schema => { c with schema := none }
  | .placement => { c with options := { c.options with checksPlacement := false } }
  | .breakingChanges => { c with breakingChanges := none }
  | .pullRequests => { c with loader := none }

/-- The checks of a run are those that are turned on. If pull requests are not checked, any
    loader will do. -/
theorem checks_eq_forms (c : Context) {loader : Loader}
    (h : ∀ own, c.loader = some own → own = loader) :
    c.checks = (c.forms.map Prod.snd).map (·.on loader) := by
  unfold checks forms Kind.all
  simp only [List.filterMap_cons, List.filterMap_nil, form?]
  have hlast : c.loader.toList.map Check.pullRequests
      = (c.loader.map fun _ => Form.pullRequests).toList.map (·.on loader) := by
    cases hl : c.loader with
    | none => rfl
    | some own =>
        rw [h own hl]
        rfl
  rw [hlast]
  cases c.options.checksStrings <;> cases c.options.checksDescriptions <;> cases c.schema <;>
    cases c.options.checksPlacement <;> cases c.breakingChanges <;> cases c.loader <;> rfl

theorem form?_without (c : Context) (j k : Kind) :
    (c.without k).form? j = if j = k then none else c.form? j := by
  cases k <;> cases j <;> rfl

theorem forms_without (c : Context) (k : Kind) :
    (c.without k).forms = c.forms.filter (·.1 ≠ k) := by
  unfold forms
  rw [List.filter_filterMap]
  refine congrArg (fun f => List.filterMap f Kind.all) (funext (fun j => ?_))
  rw [form?_without]
  by_cases hj : j = k
  · cases c.form? j <;> simp [Option.filter, hj]
  · cases c.form? j <;> simp [Option.filter, hj]

end Context

namespace Check

theorem Speaks.of_issues {code : IssueCode} {found : List Issue}
    (h : ∀ i ∈ found, i.code = code ∧ i.IsRegular) : Speaks code (.ok found) := by
  refine ⟨fun all hall => ?_, fun message hm => (by cases hm)⟩
  cases hall
  exact h

theorem Speaks.of_halt (code : IssueCode) (h : Halt) : Speaks code (.error (.halt h)) :=
  ⟨fun found hfound => (by cases hfound), fun message hm => (by cases hm)⟩

theorem speaks_strings (e : Entry) : Speaks .unsafeString (.ok (Wording.stringIssues e)) := by
  refine Speaks.of_issues (fun i hi => ?_)
  rcases List.mem_filterMap.mp hi with ⟨line, _, hline⟩
  split at hline
  · split at hline
    · cases hline
    · cases hline
      exact ⟨rfl, rfl⟩
  · cases hline

theorem speaks_descriptions (e : Entry) :
    Speaks .unquotedDescription (.ok (Wording.descriptionIssues e)) := by
  refine Speaks.of_issues (fun i hi => ?_)
  rcases List.mem_filterMap.mp hi with ⟨line, _, hline⟩
  split at hline
  · split at hline
    · cases hline
    · cases hline
      exact ⟨rfl, rfl⟩
  · cases hline

theorem speaks_schema (s : Schema) (e : Entry) :
    Speaks .schemaViolation (Structure.schemaIssues s e) := by
  unfold Structure.schemaIssues
  cases s.violations e.history with
  | error f => exact Speaks.of_halt _ _
  | ok violations =>
      cases violations with
      -- Without violations there is nothing to say; all others are told in one issue.
      | nil => exact Speaks.of_issues (fun i hi => absurd hi List.not_mem_nil)
      | cons v rest =>
          simp only []
          cases Structure.schemaDetails e (v :: rest) with
          | error u => exact Speaks.of_halt _ _
          | ok details =>
              refine Speaks.of_issues (fun i hi => ?_)
              rw [List.mem_singleton.mp hi]
              exact ⟨rfl, rfl⟩

theorem speaks_placement (e : Entry) :
    Speaks .missingHeading (.ok (Structure.placementIssues e)) := by
  refine Speaks.of_issues (fun i hi => ?_)
  unfold Structure.placementIssues at hi
  split at hi
  · exact absurd hi List.not_mem_nil
  · rw [List.mem_singleton.mp hi]
    exact ⟨rfl, rfl⟩

/-- An issue about a value is that issue, or there is none for another reason than want of
    data. -/
theorem about_eq (v : Value) (i : Issue) :
    References.about v i = .ok i ∨ ∃ h, References.about v i = .error (.halt h) := by
  unfold References.about
  split
  · exact Or.inr ⟨_, rfl⟩
  · exact Or.inl rfl

theorem headerIssue?_eq (changes : BreakingChanges) (e : Entry) (name : String)
    (record : Value) :
    (∃ h, References.headerIssue? changes e name record = .error (.halt h)) ∨
      References.headerIssue? changes e name record = .ok none ∨
      ∃ header, References.headerIssue? changes e name record
        = .ok (some (References.unknownHeader e name header)) := by
  unfold References.headerIssue?
  cases record.field? "breaking-changes-header" with
  | none => exact Or.inr (Or.inl rfl)
  | some header =>
      simp only []
      split
      · exact Or.inr (Or.inl rfl)
      · -- The header is shown in the issue, which a long integer does not allow.
        rcases about_eq header (References.unknownHeader e name header) with h | ⟨f, h⟩
        · rw [h]
          exact Or.inr (Or.inr ⟨header, rfl⟩)
        · rw [h]
          exact Or.inl ⟨f, rfl⟩

theorem speaks_breakingChanges (changes : BreakingChanges) (e : Entry) :
    Speaks .unknownBreakingChange (References.headerIssues changes e) := by
  let records := Entry.records e.history References.headerSections
  let find := fun r : String × Value => References.headerIssue? changes e r.1 r.2
  have hissues : References.headerIssues changes e
      = records.mapM find >>= fun found => .ok (found.filterMap id) := rfl
  rcases mapM_except find records with ⟨hfault, hfound⟩
  rw [hissues]
  -- The check fails where it fails for a record, and has the issues of the records.
  cases hall : records.mapM find with
  | error f =>
      rcases hfault f hall with ⟨r, _, hr⟩
      rcases headerIssue?_eq changes e r.1 r.2 with ⟨h, hh⟩ | hh | ⟨header, hh⟩
      · cases hr.symm.trans hh
        exact Speaks.of_halt _ h
      · cases hr.symm.trans hh
      · cases hr.symm.trans hh
  | ok all =>
      refine Speaks.of_issues (fun i hi => ?_)
      rcases List.mem_filterMap.mp hi with ⟨one, hone, rfl⟩
      rcases hfound all hall (some i) hone with ⟨r, _, hr⟩
      rcases headerIssue?_eq changes e r.1 r.2 with ⟨h, hh⟩ | hh | ⟨header, hh⟩
      · cases hr.symm.trans hh
      · cases hr.symm.trans hh
      · cases hr.symm.trans hh
        exact ⟨rfl, rfl⟩

/-- With an index at hand the check of a record gives an issue under its code or none, or it
    halts; and the index stays at hand. -/
theorem pullRequestIssue_eq (loader : Loader) (index : ReleaseIndex) (e : Entry) (name : String)
    (record : Value) {m : Memo} (h : m.known = some (.ok index)) :
    (References.pullRequestIssue loader e name record m).2 = m ∧
      ((∃ f, (References.pullRequestIssue loader e name record m).1 = .error (.halt f)) ∨
        ∃ found : Option Issue,
          (References.pullRequestIssue loader e name record m).1 = .ok found ∧
          ∀ i ∈ found.toList, i.code = .unknownPullRequest ∧ i.IsRegular) := by
  let url := (record.field? "pr-url").getD .null
  -- Without a number the index is not asked; with one it answers, since it is at hand.
  cases hn : References.numberOf url with
  | error n =>
      have hrun : References.pullRequestIssue loader e name record m
          = (.error (.halt (.record (.longNumber n))), m) := by
        simp only [References.pullRequestIssue, url, hn] at hn ⊢
      rw [hrun]
      exact ⟨rfl, Or.inl ⟨_, rfl⟩⟩
  | ok found =>
      cases found with
      | none =>
          have hrun : References.pullRequestIssue loader e name record m
              = (some <$> References.about url (References.noNumber e name url), m) := by
            simp only [References.pullRequestIssue, url, hn] at hn ⊢
          rw [hrun]
          rcases about_eq url (References.noNumber e name url) with hh | ⟨f, hh⟩
          · rw [hh]
            refine ⟨rfl, Or.inr ⟨_, rfl, fun i hi => ?_⟩⟩
            rw [List.mem_singleton.mp hi]
            exact ⟨rfl, rfl⟩
          · rw [hh]
            exact ⟨rfl, Or.inl ⟨f, rfl⟩⟩
      | some number =>
          have hfind : m.find loader number = (.ok (index.find? number), m) :=
            Memo.find_of_known loader h number
          simp only [References.pullRequestIssue, url, hn, hfind] at hn ⊢
          cases index.find? number with
          | none =>
              refine ⟨rfl, Or.inr ⟨_, rfl, fun i hi => ?_⟩⟩
              rw [List.mem_singleton.mp hi]
              exact ⟨rfl, rfl⟩
          | some release => exact ⟨rfl, Or.inr ⟨_, rfl, fun i hi => absurd hi List.not_mem_nil⟩⟩

theorem speaks_pullRequestsFrom (loader : Loader) (index : ReleaseIndex) (e : Entry)
    (records : List (String × Value)) {m : Memo} (h : m.known = some (.ok index)) :
    Speaks .unknownPullRequest (References.pullRequestIssuesFrom loader e records m).1 := by
  induction records with
  | nil => exact Speaks.of_issues (fun i hi => absurd hi List.not_mem_nil)
  | cons r rest ih =>
      rcases r with ⟨name, record⟩
      rcases pullRequestIssue_eq loader index e name record h with ⟨hsame, hanswer⟩
      rcases hr : References.pullRequestIssue loader e name record m with ⟨answer, after⟩
      rw [hr] at hsame hanswer
      simp only [] at hsame hanswer
      subst hsame
      simp only [References.pullRequestIssuesFrom, hr]
      -- A record that halts the check keeps the others from being looked at.
      rcases hanswer with ⟨f, rfl⟩ | ⟨found, rfl, hfound⟩
      · exact Speaks.of_halt _ f
      · simp only []
        cases hrest : (References.pullRequestIssuesFrom loader e rest after).1 with
        | error f =>
            rw [hrest] at ih
            exact ih
        | ok others =>
            rw [hrest] at ih
            refine Speaks.of_issues (fun i hi => ?_)
            rcases List.mem_append.mp hi with hi | hi
            · exact hfound i hi
            · exact ih.issues others rfl i hi

/-- With an index at hand every check that options can ask for speaks under its own
    code. -/
theorem speaks_form {c : Context} {k : Kind} {f : Form} (h : c.form? k = some f)
    (index : ReleaseIndex) (e : Entry) : Speaks k.code (f.answer (.ok index) e) := by
  unfold Context.form? at h
  -- A check is made if it is switched on, or if there is what it compares with.
  cases k with
  | strings =>
      simp only [] at h
      split at h
      · cases h
        exact speaks_strings e
      · cases h
  | descriptions =>
      simp only [] at h
      split at h
      · cases h
        exact speaks_descriptions e
      · cases h
  | schema =>
      rcases Option.map_eq_some_iff.mp h with ⟨s, _, rfl⟩
      exact speaks_schema s e
  | placement =>
      simp only [] at h
      split at h
      · cases h
        exact speaks_placement e
      · cases h
  | breakingChanges =>
      rcases Option.map_eq_some_iff.mp h with ⟨changes, _, rfl⟩
      exact speaks_breakingChanges changes e
  | pullRequests =>
      rcases Option.map_eq_some_iff.mp h with ⟨own, _, rfl⟩
      exact speaks_pullRequestsFrom _ index e _ rfl

theorem speaks_forms (c : Context) (index : ReleaseIndex) (e : Entry) :
    ∀ p ∈ c.forms, Speaks p.1.code (p.2.answer (.ok index) e) := by
  intro p hp
  rcases List.mem_filterMap.mp hp with ⟨k, _, hk⟩
  rcases Option.map_eq_some_iff.mp hk with ⟨f, hf, rfl⟩
  exact speaks_form hf index e

end Check

namespace Results

/-- Results that lack the issues of a code and are otherwise the same. If the code only
    warns, they have the same errors. -/
structure Lacks (code : IssueCode) (off on : Results) : Prop where
  documents : off.documents = on.documents
  blocks : off.blocks = on.blocks
  issues : off.issues = on.issues.filter (·.code != code)
  errors : code.severity ≠ .error → off.errors = on.errors

theorem lacks_empty (code : IssueCode) : empty.Lacks code empty := ⟨rfl, rfl, rfl, fun _ => rfl⟩

theorem Lacks.plus {code : IssueCode} {off on off' on' : Results} (h : off.Lacks code on)
    (h' : off'.Lacks code on') : (off.plus off').Lacks code (on.plus on') where
  documents := by simp only [Results.plus, h.documents, h'.documents]
  blocks := by simp only [Results.plus, h.blocks, h'.blocks]
  issues := by
    change off.issues ++ off'.issues = (on.issues ++ on'.issues).filter _
    rw [List.filter_append, h.issues, h'.issues]
  errors := fun hw => by simp only [Results.plus, h.errors hw, h'.errors hw]

/-- Results with the issues of a code left out lack them. -/
theorem lacks_grown (code : IssueCode) {found : List Issue} (h : ∀ i ∈ found, i.IsRegular)
    (blocks : Nat) :
    (empty.grown blocks (found.filter (·.code != code))).Lacks code (empty.grown blocks found) where
  documents := rfl
  blocks := rfl
  issues := rfl
  errors := by
    intro hw
    refine congrArg (0 + ·) ?_
    rw [List.countP_filter]
    refine List.countP_congr (fun i hi => ?_)
    -- An error has a code that stands for errors, and so another one.
    have hother : i.isError → i.code ≠ code := by
      intro herror hcode
      have hs : i.severity = .error := eq_of_beq herror
      exact hw (hcode ▸ (h i hi) ▸ hs)
    simpa using hother

end Results

namespace Run

open Check

variable {ρ : Type} {index : ReleaseIndex}

theorem foundIn_ok (found : List Issue) (rest : List (Except CheckFault (List Issue))) :
    foundIn (.ok found :: rest) = found ++ foundIn rest := by
  simp [foundIn, Except.isOk, Except.toBool, Except.toOption]

theorem failureIn_ok (found : List Issue) (rest : List (Except CheckFault (List Issue))) :
    failureIn (.ok found :: rest) = failureIn rest := rfl

/-- If all checks come to an answer, leaving one out leaves out the issues with its code. The
    induction is on the checks. -/
theorem answersOf_filter (k : Kind) (e : Entry) (forms : List (Kind × Form))
    (hspeaks : ∀ p ∈ forms, Speaks p.1.code (p.2.answer (.ok index) e))
    (hpass : failureIn (answersOf (.ok index) (forms.map Prod.snd) e) = none) :
    let off := answersOf (.ok index) ((forms.filter (·.1 ≠ k)).map Prod.snd) e
    let on := answersOf (.ok index) (forms.map Prod.snd) e
    failureIn off = none ∧ foundIn off = (foundIn on).filter (·.code != k.code) ∧
      ∀ i ∈ foundIn on, i.IsRegular := by
  induction forms with
  | nil => exact ⟨rfl, rfl, fun i hi => absurd hi List.not_mem_nil⟩
  | cons p rest ih =>
      rcases p with ⟨j, f⟩
      have hown := hspeaks (j, f) (List.mem_cons_self ..)
      cases ha : f.answer (.ok index) e with
      | error fault => simp [answersOf, failureIn, ha] at hpass
      | ok found =>
          have hissues := hown.issues found ha
          have hon : answersOf (.ok index) (((j, f) :: rest).map Prod.snd) e
              = .ok found :: answersOf (.ok index) (rest.map Prod.snd) e :=
            congrArg (· :: _) ha
          rw [hon, failureIn_ok] at hpass
          rcases ih (fun p hp => hspeaks p (List.mem_cons_of_mem _ hp)) hpass
            with ⟨ihpass, ihfound, ihregular⟩
          simp only [hon, foundIn_ok, List.filter_append]
          have hregular : ∀ i ∈ found ++ foundIn (answersOf (.ok index) (rest.map Prod.snd) e),
              i.IsRegular := by
            intro i hi
            rcases List.mem_append.mp hi with hi | hi
            · exact (hissues i hi).2
            · exact ihregular i hi
          by_cases hj : j = k
          · -- The check that is left out, and nothing of what it found stays.
            have hgone : found.filter (·.code != k.code) = [] :=
              List.filter_eq_nil_iff.mpr (fun i hi => by simp [(hissues i hi).1, hj])
            have hoff : ((j, f) :: rest).filter (·.1 ≠ k) = rest.filter (·.1 ≠ k) := by
              simp [hj]
            rw [hoff, hgone]
            exact ⟨ihpass, ihfound, hregular⟩
          · have hstays : found.filter (·.code != k.code) = found := by
              refine List.filter_eq_self.mpr (fun i hi => ?_)
              rw [(hissues i hi).1]
              exact bne_iff_ne.mpr fun hcode => hj (Kind.code_injective hcode)
            have hoff : answersOf (.ok index)
                ((((j, f) :: rest).filter (·.1 ≠ k)).map Prod.snd) e
                = .ok found :: answersOf (.ok index) ((rest.filter (·.1 ≠ k)).map Prod.snd) e := by
              simp [hj, answersOf, ha]
            rw [hoff, foundIn_ok, failureIn_ok, hstays, ihfound]
            exact ⟨ihpass, rfl, hregular⟩

/-- No check fails for want of data. -/
theorem failureIn_ne_reference (e : Entry) (forms : List (Kind × Form))
    (hspeaks : ∀ p ∈ forms, Speaks p.1.code (p.2.answer (.ok index) e)) (message : String) :
    failureIn (answersOf (.ok index) (forms.map Prod.snd) e) ≠ some (.reference message) := by
  intro h
  rcases List.exists_of_findSome?_eq_some h with ⟨answer, hmem, hfault⟩
  rcases List.mem_map.mp hmem with ⟨f, hf, rfl⟩
  rcases List.mem_map.mp hf with ⟨p, hp, rfl⟩
  split at hfault
  · rename_i fault hanswer
    cases hfault
    exact (hspeaks p hp).fault message hanswer
  · cases hfault

/-- What a candidate is worth that no check has part in: at most the issue that it is no
    history. -/
structure Unchecked (o : BlockOutcome) : Prop where
  fault : ∀ message, o.fault ≠ some (.reference message)
  regular : ∀ i ∈ o.issues, i.IsRegular
  codes : ∀ i ∈ o.issues, i.code = .formatError ∨ i.code = .parseError

theorem Unchecked.of_issue {i : Issue} (hregular : i.IsRegular)
    (hcode : i.code = .formatError ∨ i.code = .parseError) : Unchecked ⟨[i], none⟩ where
  fault := fun _ h => by cases h
  regular := List.forall_mem_singleton.mpr hregular
  codes := List.forall_mem_singleton.mpr hcode

theorem Unchecked.of_halt (h : Halt) : Unchecked ⟨[], some (.halt h)⟩ where
  fault := fun _ h => by cases h
  regular := fun _ hi => absurd hi List.not_mem_nil
  codes := fun _ hi => absurd hi List.not_mem_nil

theorem Unchecked.code_ne {o : BlockOutcome} (h : Unchecked o) (k : Kind) {i : Issue}
    (hi : i ∈ o.issues) : i.code ≠ k.code := by
  rcases h.codes i hi with hcode | hcode
  · rw [hcode]
    exact formatError_ne_code k
  · rw [hcode]
    exact parseError_ne_code k

/-- A candidate with a decoded history is worth the answers of the checks to it, whatever the
    index and the checks are. No check has part in what another one is worth. -/
theorem worth_cases (file : String) (x : History.Candidate) :
    (∃ b history, History.block x = .ok b ∧ Yaml.decode true b.yaml = .ok history ∧
      ∀ outcome forms, worth outcome forms file x
        = ⟨foundIn (answersOf outcome forms ⟨file, b, history⟩),
            failureIn (answersOf outcome forms ⟨file, b, history⟩)⟩) ∨
      (∀ b history, History.block x = .ok b → Yaml.decode true b.yaml ≠ .ok history) ∧
        ∃ o, Unchecked o ∧ ∀ outcome forms, worth outcome forms file x = o := by
  unfold worth
  cases History.block x with
  | error f =>
      refine Or.inr ⟨fun b history h => (by cases h), ?_⟩
      cases f with
      | format f =>
          refine ⟨_, ?_, fun _ _ => rfl⟩
          exact .of_issue rfl (Or.inl rfl)
      | html f => exact ⟨_, .of_halt _, fun _ _ => rfl⟩
  | ok b =>
      simp only []
      cases hd : Yaml.decode true b.yaml with
      | ok history => exact Or.inl ⟨b, history, rfl, hd, fun _ _ => rfl⟩
      | error f =>
          refine Or.inr ⟨fun own history h hown => ?_, ?_⟩
          · cases h
            cases hd.symm.trans hown
          · cases f with
            | defect d => exact ⟨_, .of_halt _, fun _ _ => rfl⟩
            | character position code =>
                refine ⟨_, ?_, fun _ _ => rfl⟩
                exact .of_issue rfl (Or.inr rfl)
            | problem p =>
                refine ⟨_, ?_, fun _ _ => rfl⟩
                exact .of_issue rfl (Or.inr rfl)

/-- No candidate fails for want of data. -/
theorem worth_ne_reference (c : Context) (file : String) (candidate : History.Candidate)
    (message : String) :
    (worth (.ok index) (c.forms.map Prod.snd) file candidate).fault
      ≠ some (.reference message) := by
  rcases worth_cases file candidate with ⟨b, history, _, _, hworth⟩ | ⟨_, o, ho, hworth⟩
  · rw [hworth]
    exact failureIn_ne_reference _ c.forms (speaks_forms c index _) message
  · rw [hworth]
    exact ho.fault message

/-- A candidate with one check turned off, where the run goes on behind it. -/
theorem worth_without (c : Context) (k : Kind) (file : String) (candidate : History.Candidate)
    (hpass : (worth (.ok index) (c.forms.map Prod.snd) file candidate).fault = none) :
    let off := worth (.ok index) ((c.without k).forms.map Prod.snd) file candidate
    let on := worth (.ok index) (c.forms.map Prod.snd) file candidate
    off.fault = none ∧ off.issues = on.issues.filter (·.code != k.code) ∧
      ∀ i ∈ on.issues, i.IsRegular := by
  rcases worth_cases file candidate with ⟨b, history, _, _, hworth⟩ | ⟨_, o, ho, hworth⟩
  · simp only [hworth] at hpass ⊢
    rw [Context.forms_without]
    exact answersOf_filter k _ c.forms (speaks_forms c index _) hpass
  · simp only [hworth] at hpass ⊢
    exact ⟨hpass, (List.filter_eq_self.mpr fun i hi => bne_iff_ne.mpr (ho.code_ne k hi)).symm,
      ho.regular⟩

/-- If a document does not end a run, no candidate in it fails. -/
theorem stopped_of_haltOf (c : Context) (d : Document)
    (h : haltOf (.ok index) (c.forms.map Prod.snd) d = none) :
    stopped (worths (.ok index) (c.forms.map Prod.snd) d) = none := by
  unfold haltOf at h
  cases hs : stopped (worths (.ok index) (c.forms.map Prod.snd) d) with
  | none => rfl
  | some fault =>
      rcases List.exists_of_findSome?_eq_some hs with ⟨o, ho, hfault⟩
      rcases List.mem_map.mp ho with ⟨candidate, _, rfl⟩
      cases fault with
      | reference message => exact absurd hfault (worth_ne_reference c d.name candidate message)
      | halt halted =>
          rw [hs] at h
          cases h

/-- What a document adds to a run if no candidate in it fails. -/
theorem share_of_not_stopped {outcome : Except String ReleaseIndex} {forms : List Form}
    {d : Document} (h : stopped (worths outcome forms d) = none) :
    share outcome forms d
      = { Results.empty.grown (worths outcome forms d).length
            ((worths outcome forms d).flatMap (·.issues)) with documents := 1 } := by
  have hall := reached_of_not_stopped h
  simp only [share, h, closing, List.append_nil, hall, List.take_length]

/-- A document with one check turned off, where the run goes on behind it. -/
theorem share_without (c : Context) (k : Kind) (d : Document)
    (h : haltOf (.ok index) (c.forms.map Prod.snd) d = none) :
    haltOf (.ok index) ((c.without k).forms.map Prod.snd) d = none ∧
      (share (.ok index) ((c.without k).forms.map Prod.snd) d).Lacks k.code
        (share (.ok index) (c.forms.map Prod.snd) d) := by
  have hon := stopped_of_haltOf c d h
  have hpass := List.findSome?_eq_none_iff.mp hon
  have hworth (candidate : History.Candidate) (hc : candidate ∈ History.candidates d.text) :=
    worth_without c k d.name candidate (hpass _ (List.mem_map_of_mem hc))
  have hoff : stopped (worths (.ok index) ((c.without k).forms.map Prod.snd) d) = none := by
    refine List.findSome?_eq_none_iff.mpr (fun o ho => ?_)
    -- No candidate stops the run with the check, and then none does without it.
    rcases List.mem_map.mp ho with ⟨candidate, hc, rfl⟩
    exact (hworth candidate hc).1
  have hissues : (worths (.ok index) ((c.without k).forms.map Prod.snd) d).flatMap (·.issues)
      = ((worths (.ok index) (c.forms.map Prod.snd) d).flatMap (·.issues)).filter
          (·.code != k.code) := by
    rw [worths, worths, List.filter_flatMap, List.flatMap_map, List.flatMap_map,
      List.flatMap_def, List.flatMap_def]
    exact congrArg List.flatten (List.map_congr_left fun candidate hc => (hworth candidate hc).2.1)
  have hregular : ∀ i ∈ (worths (.ok index) (c.forms.map Prod.snd) d).flatMap (·.issues),
      i.IsRegular := by
    intro i hi
    rcases List.mem_flatMap.mp hi with ⟨o, ho, hi⟩
    rcases List.mem_map.mp ho with ⟨candidate, hc, rfl⟩
    exact (hworth candidate hc).2.2 i hi
  have hlength : (worths (.ok index) ((c.without k).forms.map Prod.snd) d).length
      = (worths (.ok index) (c.forms.map Prod.snd) d).length := by
    rw [worths, worths, List.length_map, List.length_map]
  refine ⟨congrArg halting hoff, ?_⟩
  rw [share_of_not_stopped hoff, share_of_not_stopped hon, hissues, hlength]
  have hlacks := Results.lacks_grown k.code hregular
    (worths (.ok index) (c.forms.map Prod.snd) d).length
  exact ⟨rfl, rfl, hlacks.issues, hlacks.errors⟩

theorem total_without (c : Context) (k : Kind) (ds : List Document)
    (h : ∀ d ∈ ds, haltOf (.ok index) (c.forms.map Prod.snd) d = none) :
    (Results.total (ds.map (share (.ok index) ((c.without k).forms.map Prod.snd)))).Lacks k.code
      (Results.total (ds.map (share (.ok index) (c.forms.map Prod.snd)))) := by
  induction ds with
  | nil => exact Results.lacks_empty k.code
  | cons d rest ih =>
      have hown := (share_without c k d (h d (List.mem_cons_self ..))).2
      exact hown.plus (ih fun d hd => h d (List.mem_cons_of_mem _ hd))

/-- A run with one check turned off, next to the same run with it. If the one with the check
    returns, so does the one without. It counts the same documents and blocks, and its issues
    are those of the other run less those with the code of the check. The checks that only
    warn do not change the errors, nor what the run ends with. -/
theorem lintDocuments_without (l : Listener ρ) (c : Context) (k : Kind) (told : ρ)
    (ds : List Document)
    (hindex : ∀ loader, c.loader = some loader → ∃ index, (loader 0).result = .ok index)
    (hreturns : (lintDocuments l c.checks ds (start Memo.start told)).2 = none) :
    let on := lintDocuments l c.checks ds (start Memo.start told)
    let off := lintDocuments l (c.without k).checks ds (start Memo.start told)
    off.2 = none ∧
      off.1.results.documents = on.1.results.documents ∧
      off.1.results.blocks = on.1.results.blocks ∧
      off.1.results.issues = on.1.results.issues.filter (·.code != k.code) ∧
      (k = .strings ∨ k = .pullRequests →
        off.1.results.errors = on.1.results.errors ∧
          off.1.results.exitCode = on.1.results.exitCode) := by
  -- Without a loader the memo is not used, so any index will do.
  have hloader : ∃ (loader : Loader) (index : ReleaseIndex), loader.Yields (.ok index) ∧
      ∀ own, c.loader = some own → own = loader := by
    cases hl : c.loader with
    | none => exact ⟨Loader.ofIndex [], [], rfl, fun own h => by cases h⟩
    | some loader =>
        rcases hindex loader hl with ⟨index, hi⟩
        exact ⟨loader, index, hi, fun own h => by cases h; rfl⟩
  rcases hloader with ⟨loader, index, hyields, hsame⟩
  have howes : (start Memo.start told).shared.Owes loader (.ok index) := Memo.start_owes hyields
  have hkept : ∀ own, (c.without k).loader = some own → own = loader := by
    cases k with
    | pullRequests => exact fun own h => by cases h
    | strings | descriptions | schema | placement | breakingChanges => exact hsame
  have hon : c.checks = _ := c.checks_eq_forms hsame
  have hoff : (c.without k).checks = _ := (c.without k).checks_eq_forms hkept
  rw [hon] at hreturns ⊢
  rw [hoff]
  intro on off
  rcases lintDocuments_forms l (c.forms.map Prod.snd) ds howes with ⟨hhalt, _, hresults⟩
  rcases lintDocuments_forms l ((c.without k).forms.map Prod.snd) ds howes
    with ⟨hhalt', _, hresults'⟩
  have hpasses := List.findSome?_eq_none_iff.mp (hhalt.symm.trans hreturns)
  have hpasses' : off.2 = none :=
    hhalt'.trans (List.findSome?_eq_none_iff.mpr fun d hd =>
      (share_without c k d (hpasses d hd)).1)
  have hlacks : off.1.results.Lacks k.code on.1.results := by
    rw [hresults hreturns, hresults' hpasses']
    exact (Results.lacks_empty k.code).plus (total_without c k ds hpasses)
  refine ⟨hpasses', hlacks.documents, hlacks.blocks, hlacks.issues, fun hk => ?_⟩
  have herrors : off.1.results.errors = on.1.results.errors := by
    refine hlacks.errors ?_
    rcases hk with rfl | rfl <;> decide
  refine ⟨herrors, ?_⟩
  unfold Results.exitCode Results.passed
  rw [herrors]

/-- A pull request that is in no release is not missed if nobody asks for it; the error and
    the other warning stay. -/
theorem lintDocuments_without_pullRequests :
    let d := Document.ofText
      "<!--\n```yaml history\nadded:\n  - pr-url: /1\n```\n-->\n" Document.defaultName
    let c : Context := ⟨Options.default, [], none, none, some (.ofIndex [])⟩
    let run := fun c : Context =>
      lintDocuments (Listener.silent : Listener Unit) c.checks [d] (start Memo.start ())
    (run c).2 = none ∧
      (run (c.without .pullRequests)).1.results.issues
        = (run c).1.results.issues.filter (·.code != .unknownPullRequest) ∧
      (run (c.without .pullRequests)).1.results.exitCode = (run c).1.results.exitCode ∧
      (run c).1.results.issues.map (·.code)
        = [.unsafeString, .missingHeading, .unknownPullRequest] := by
  intro d c run
  have hindex : ∀ loader, c.loader = some loader → ∃ index, (loader 0).result = .ok index := by
    intro loader h
    cases h
    exact ⟨[], rfl⟩
  -- The index is there but knows no pull request, so the run comes to its end.
  have hreturns : (run c).2 = none := by decide +kernel
  have hwithout := lintDocuments_without Listener.silent c .pullRequests () [d] hindex hreturns
  exact ⟨hreturns, hwithout.2.2.2.1, (hwithout.2.2.2.2 (Or.inr rfl)).2, by decide +kernel⟩

end Run

end Annals
