import Mathlib.Data.List.Basic
import Annals.Proofs.Lint.Separation

/-!
# When the Index is not at Hand

A failing index hides nothing but the rest of its document.

The index is asked for by the last check of a chain, and by this check only for the
sake of a record whose address ends in a number. So a block that has no such record
is worth the same with and without the check, but for warnings of its own. In the
first block that has one, all other checks have spoken before the failure, and what
they said has been told; the block loses the warnings of the check itself and nothing
else. Behind this block the document ends, with one issue that says why.

This is a comparison of two runs over one document, one of them cut short. Both are
read off from what the candidates are worth (`worth_needy`, `worth_needless`), and
`lintBlocks_account` says how far the shorter one gets.

## Main definitions

* `History.Candidate.addresses`: The addresses of the pull requests in a block.
* `History.Candidate.needsIndex`: A block that has an address with a number.
* `Run.Adds`: What some blocks and issues add to a run.

## Theorems

* `pullRequestAnswer_error`: What the check answers if the index is not at hand.
* `worth_needy`, `worth_needless`: A candidate with the check and without it.
* `lintDocument_outage`: A document with the check and without it.
-/

namespace Annals

/-- A value that is an address with the number of a pull request at its end. -/
def Value.isNumbered : Value → Bool
  | .text url => (PullRequest.digitsOfUrl? url).isSome
  | _ => false

/-- A value that can be shown, and in which the number of a pull request can be read, if it
    has one. -/
def Value.isReadable (v : Value) : Bool :=
  !v.holdsLong &&
    match v with
    | .text url => (PullRequest.digitsOfUrl? url).all (·.length ≤ maxDigits)
    | _ => true

/-- The address under which a record has its pull request. -/
def Value.address (record : Value) : Value := (record.field? "pr-url").getD .null

namespace History.Candidate

/-- The addresses of the pull requests in a candidate, one for each record under the keys
    that have pull requests. What is no block or cannot be decoded has none. -/
def addresses (c : Candidate) : List Value :=
  match block c with
  | .error _ => []
  | .ok b =>
    match Yaml.decode true b.yaml with
    | .error _ => []
    | .ok history =>
      (Entry.records history References.pullRequestSections).map fun r => r.2.address

/-- A candidate in which the number of a pull request has to be looked up. -/
def needsIndex (c : Candidate) : Bool := c.addresses.any Value.isNumbered

end History.Candidate

namespace References

open Check

variable {m : Memo} {message : String}

theorem number_of_isReadable {url : String} {digits : List Char}
    (hd : PullRequest.digitsOfUrl? url = some digits)
    (h : (Value.text url).isReadable = true) :
    PullRequest.ofUrl url = .ok (some (Text.decimalValue digits)) := by
  have hlength : digits.length ≤ maxDigits := by
    simp only [Value.isReadable, hd, Option.all_some, Bool.and_eq_true, decide_eq_true_eq] at h
    exact h.2
  have hnumber : PullRequest.number digits = .ok (Text.decimalValue digits) := if_pos hlength
  simp only [PullRequest.ofUrl, hd, hnumber]
  rfl

/-- A record whose address has a number finds out that the index is not at hand. -/
theorem pullRequestIssue_numbered (loader : Loader) (e : Entry) (name : String) {record : Value}
    (h : m.known = some (.error message)) (hreadable : record.address.isReadable = true)
    (hnumbered : record.address.isNumbered = true) :
    pullRequestIssue loader e name record m = (.error (.reference message), m) := by
  -- A number at the end can be read, since the address is readable.
  have hnumber : ∃ number, numberOf record.address = .ok (some number) := by
    cases hv : record.address with
    | text url =>
        rw [hv] at hreadable hnumbered
        rcases Option.isSome_iff_exists.mp hnumbered with ⟨digits, hd⟩
        exact ⟨_, number_of_isReadable hd hreadable⟩
    | _ =>
        rw [hv] at hnumbered
        cases hnumbered
  rcases hnumber with ⟨number, hnumber⟩
  unfold Value.address at hnumber
  simp only [pullRequestIssue, hnumber, Memo.find_of_known loader h number]
  rfl

/-- Any other record is an issue of its own, for which no index is needed. -/
theorem pullRequestIssue_unnumbered (loader : Loader) (e : Entry) (name : String)
    {record : Value} (hreadable : record.address.isReadable = true)
    (hnumbered : record.address.isNumbered = false) :
    pullRequestIssue loader e name record m
      = (.ok (some (noNumber e name record.address)), m) := by
  -- An address that is no text, or a text that does not end with a number.
  have hnone : numberOf record.address = .ok none := by
    cases hv : record.address with
    | text url =>
        rw [hv] at hnumbered
        have hd : PullRequest.digitsOfUrl? url = none :=
          Option.isNone_iff_eq_none.mp (Option.isSome_eq_false_iff.mp hnumbered)
        simp only [numberOf, PullRequest.ofUrl, hd]
    | _ => rfl
  have hshown : record.address.holdsLong = false := by
    simp only [Value.isReadable, Bool.and_eq_true, Bool.not_eq_true'] at hreadable
    exact hreadable.1
  unfold Value.address at hnone hshown ⊢
  simp only [pullRequestIssue, hnone, about, hshown, Bool.false_eq_true, if_false]
  rfl

/-- The records of a block if the index is not at hand: the first one with a number ends the
    check, and if there is none, the check only warns. -/
theorem pullRequestIssuesFrom_error (loader : Loader) (e : Entry)
    (h : m.known = some (.error message)) (records : List (String × Value))
    (hreadable : ∀ r ∈ records, r.2.address.isReadable = true) :
    (pullRequestIssuesFrom loader e records m).1
      = if records.any fun r => r.2.address.isNumbered then .error (.reference message)
        else .ok (records.map fun r => noNumber e r.1 r.2.address) := by
  induction records with
  | nil => rfl
  | cons r rest ih =>
      rcases r with ⟨name, record⟩
      have hown : record.address.isReadable = true := hreadable _ (List.mem_cons_self ..)
      have hrest := ih fun r hr => hreadable r (List.mem_cons_of_mem _ hr)
      rw [pullRequestIssuesFrom, List.any_cons]
      -- A record with a number ends the check here, whatever comes behind it.
      cases hn : record.address.isNumbered with
      | true => rw [pullRequestIssue_numbered loader e name h hown hn]; rfl
      | false =>
          rw [pullRequestIssue_unnumbered loader e name hown hn]
          change ((pullRequestIssuesFrom loader e rest m).1).map _ = _
          rw [hrest, Bool.false_or]
          split <;> rfl

/-- What the check of pull requests answers if the index is not at hand. -/
theorem pullRequestAnswer_error (message : String) (e : Entry)
    (hreadable : ∀ r ∈ Entry.records e.history pullRequestSections,
      r.2.address.isReadable = true) :
    pullRequestAnswer (.error message) e
      = if (Entry.records e.history pullRequestSections).any fun r => r.2.address.isNumbered then
          .error (.reference message)
        else .ok ((Entry.records e.history pullRequestSections).map fun r =>
          noNumber e r.1 r.2.address) :=
  pullRequestIssuesFrom_error _ e rfl _ hreadable

end References

namespace Context

open Check

/-- The check of pull requests is the last of a chain. -/
theorem checks_pullRequests {c : Context} {loader : Loader} (h : c.loader = some loader) :
    c.checks = (c.without .pullRequests).checks ++ [Check.pullRequests loader] := by
  unfold checks without
  simp only [h, Option.toList_some, Option.toList_none, List.map_cons, List.map_nil,
    List.append_nil]

/-- The checks of a context other than that of pull requests. -/
def others (c : Context) : List Form := (c.without .pullRequests).forms.map Prod.snd

/-- No other check asks for the index. -/
theorem answer_others (c : Context) (outcome other : Except String ReleaseIndex) (e : Entry) :
    Run.answersOf outcome c.others e = Run.answersOf other c.others e := by
  unfold others Run.answersOf
  rw [List.map_map, List.map_map]
  refine List.map_congr_left (fun p hp => ?_)
  rcases List.mem_filterMap.mp hp with ⟨k, _, hk⟩
  rcases Option.map_eq_some_iff.mp hk with ⟨f, hf, rfl⟩
  rw [form?_without] at hf
  cases f with
  | plain name find => rfl
  | pullRequests =>
      -- The one form that asks for the index is that of the check left out.
      exfalso
      cases k with
      | pullRequests => cases hf
      | strings | descriptions | placement =>
          simp only [form?, reduceCtorEq, if_false] at hf
          split at hf <;> cases hf
      | schema | breakingChanges =>
          simp only [form?, reduceCtorEq, if_false] at hf
          rcases Option.map_eq_some_iff.mp hf with ⟨_, _, hf⟩
          cases hf

end Context

namespace Run

open Check

variable {ρ : Type} {message : String}

/-- What some blocks and issues add to a run: they are counted, recorded and told. -/
structure Adds (l : Listener ρ) (before : Run Memo ρ) (blocks : Nat) (found : List Issue)
    (after : Run Memo ρ) : Prop where
  results : after.results = before.results.grown blocks found
  told : after.told = found.foldl (fun told i => l.issue i told) before.told

/-- The candidates of a document up to the first that fails, by what they are worth. -/
theorem lintBlocks_adds (l : Listener ρ) (forms : List Form) (file : String) {loader : Loader}
    {outcome : Except String ReleaseIndex} (cs : List History.Candidate) {r : Run Memo ρ}
    (h : r.shared.Owes loader outcome) :
    let all := cs.map (worth outcome forms file)
    let run := lintBlocks l (forms.map (·.on loader)) file cs r
    Adds l r (reached all) ((all.take (reached all)).flatMap (·.issues)) run.1 ∧
      run.2 = stopped all := by
  have haccount := lintBlocks_account l (forms.map (·.on loader)) file cs r
  rw [outcomes_forms forms file cs h] at haccount
  exact ⟨⟨haccount.1, haccount.2.1⟩, haccount.2.2⟩

/-- A document up to the first candidate that fails, and the issue that closes it. -/
theorem lintDocument_adds (l : Listener ρ) (forms : List Form) (d : Document) {loader : Loader}
    {outcome : Except String ReleaseIndex} {r : Run Memo ρ} (h : r.shared.Owes loader outcome) :
    let all := worths outcome forms d
    let run := lintDocument l (forms.map (·.on loader)) d r
    Adds l r.countDocument (reached all)
        ((all.take (reached all)).flatMap (·.issues) ++ closing d.name (stopped all)) run.1 ∧
      run.2 = halting (stopped all) := by
  rcases lintBlocks_adds l forms d.name (History.candidates d.text) (r := r.countDocument) h
    with ⟨⟨hresults, htold⟩, hstop⟩
  simp only [lintDocument_closing, hstop]
  refine ⟨⟨?_, ?_⟩, rfl⟩
  · rw [emitAll_results, hresults, Results.grown_grown]
    rfl
  · rw [emitAll_told, htold, List.foldl_append]
    rfl

theorem failureIn_append {answers : List (Except CheckFault (List Issue))}
    (h : failureIn answers = none) (more : List (Except CheckFault (List Issue))) :
    failureIn (answers ++ more) = failureIn more := by
  unfold failureIn at h ⊢
  rw [List.findSome?_append, h, Option.none_or]

theorem foundIn_append {answers : List (Except CheckFault (List Issue))}
    (h : failureIn answers = none) (more : List (Except CheckFault (List Issue))) :
    foundIn (answers ++ more) = foundIn answers ++ foundIn more := by
  induction answers with
  | nil => rfl
  | cons answer rest ih =>
      cases answer with
      | error fault => cases h
      | ok found => rw [List.cons_append, foundIn_ok, foundIn_ok, ih h, List.append_assoc]

theorem foundIn_mem {answers : List (Except CheckFault (List Issue))} {i : Issue}
    (h : i ∈ foundIn answers) : ∃ found, .ok found ∈ answers ∧ i ∈ found := by
  rcases List.mem_flatMap.mp h with ⟨answer, hanswer, hi⟩
  cases answer with
  | error fault => exact absurd hi List.not_mem_nil
  | ok found => exact ⟨found, (List.takeWhile_sublist _).subset hanswer, hi⟩

/-- A candidate is looked at by the checks, with the addresses that are its own; or it has no
    addresses, and no check has part in what it is worth. -/
theorem worth_parts (file : String) (x : History.Candidate) :
    (∃ e : Entry,
      x.addresses = (Entry.records e.history References.pullRequestSections).map (·.2.address) ∧
      ∀ outcome forms, worth outcome forms file x
        = ⟨foundIn (answersOf outcome forms e), failureIn (answersOf outcome forms e)⟩) ∨
      ∃ o, x.addresses = [] ∧ Unchecked o ∧ ∀ outcome forms, worth outcome forms file x = o := by
  unfold History.Candidate.addresses
  rcases worth_cases file x with ⟨b, history, hb, hd, hworth⟩ | ⟨hnone, o, ho, hworth⟩
  · exact Or.inl ⟨⟨file, b, history⟩, by simp only [hb, hd], hworth⟩
  · refine Or.inr ⟨o, ?_, ho, hworth⟩
    cases hb : History.block x with
    | error f => rfl
    | ok b =>
        cases hd : Yaml.decode true b.yaml with
        | error f => simp only [hd]
        | ok history => exact absurd hd (hnone b history hb)

/-- Without the check of pull requests a candidate is worth the same whatever the index. -/
theorem worth_others (c : Context) (outcome other : Except String ReleaseIndex) (file : String)
    (x : History.Candidate) : worth outcome c.others file x = worth other c.others file x := by
  rcases worth_parts file x with ⟨e, _, hworth⟩ | ⟨o, _, _, hworth⟩
  · rw [hworth, hworth, c.answer_others outcome other]
  · rw [hworth, hworth]

theorem Kind.code_of_ne_pullRequests {k : Kind} (h : k ≠ .pullRequests) :
    k.code ≠ .unknownPullRequest ∧ k.code ≠ .documentFailure := by
  cases k with
  | pullRequests => exact absurd rfl h
  | _ => exact ⟨by decide, by decide⟩

/-- The other checks neither speak for the check of pull requests nor close a document. -/
theorem worth_codes (c : Context) (outcome : Except String ReleaseIndex) (file : String)
    (x : History.Candidate) : ∀ i ∈ (worth outcome c.others file x).issues,
      i.code ≠ .unknownPullRequest ∧ i.code ≠ .documentFailure := by
  intro i hi
  rcases worth_parts file x with ⟨e, _, hworth⟩ | ⟨o, _, ho, hworth⟩
  · rw [hworth, c.answer_others outcome (.ok [])] at hi
    rcases foundIn_mem hi with ⟨found, hanswer, hi⟩
    rcases List.mem_map.mp hanswer with ⟨f, hf, hanswer⟩
    rcases List.mem_map.mp hf with ⟨⟨k, f⟩, hp, rfl⟩
    -- An issue of a check has the code of this check.
    have hcode : i.code = k.code := ((speaks_forms _ [] e _ hp).issues found hanswer i hi).1
    rw [Context.forms_without, List.mem_filter, decide_eq_true_eq] at hp
    rw [hcode]
    exact Kind.code_of_ne_pullRequests hp.2
  · rw [hworth] at hi
    rcases ho.codes i hi with hcode | hcode
    · rw [hcode]
      exact ⟨by decide, by decide⟩
    · rw [hcode]
      exact ⟨by decide, by decide⟩

/-- The issues of a run with more warnings about pull requests among them, which has not been
    closed. -/
structure Augments (own found : List Issue) : Prop where
  rest : own = found.filter (·.code != .unknownPullRequest)
  warnings : ∀ i ∈ found, i.code = .unknownPullRequest → i.severity = .warning
  unclosed : ∀ i ∈ found, i.code ≠ .documentFailure

theorem Augments.nil : Augments [] [] :=
  ⟨rfl, fun _ hi => absurd hi List.not_mem_nil, fun _ hi => absurd hi List.not_mem_nil⟩

/-- Warnings about pull requests and nothing else. -/
theorem Augments.of_warnings {more : List Issue}
    (h : ∀ i ∈ more, i.code = .unknownPullRequest ∧ i.severity = .warning) :
    Augments [] more where
  rest := (List.filter_eq_nil_iff.mpr fun i hi => by simp [(h i hi).1]).symm
  warnings := fun i hi _ => (h i hi).2
  unclosed := fun i hi hcode => by cases (h i hi).1.symm.trans hcode

theorem Augments.append {own found own' found' : List Issue} (h : Augments own found)
    (h' : Augments own' found') : Augments (own ++ own') (found ++ found') where
  rest := by rw [List.filter_append, ← h.rest, ← h'.rest]
  warnings := by
    intro i hi
    rcases List.mem_append.mp hi with hi | hi
    · exact h.warnings i hi
    · exact h'.warnings i hi
  unclosed := by
    intro i hi
    rcases List.mem_append.mp hi with hi | hi
    · exact h.unclosed i hi
    · exact h'.unclosed i hi

/-- Warnings do not count as errors. -/
theorem Augments.errors {own found : List Issue} (h : Augments own found) :
    own.countP Issue.isError = found.countP Issue.isError := by
  rw [h.rest, List.countP_filter]
  refine List.countP_congr (fun i hi => ?_)
  have hother : i.isError → i.code ≠ .unknownPullRequest := by
    intro herror hcode
    have hs : i.severity = .error := eq_of_beq herror
    cases hs.symm.trans (h.warnings i hi hcode)
  simpa using hother

/-- The other checks by themselves. -/
theorem Augments.of_others (c : Context) (outcome : Except String ReleaseIndex) (file : String)
    (x : History.Candidate) : Augments (worth outcome c.others file x).issues
      (worth outcome c.others file x).issues where
  rest := (List.filter_eq_self.mpr fun i hi =>
    bne_iff_ne.mpr (worth_codes c outcome file x i hi).1).symm
  warnings := fun i hi hcode => absurd hcode (worth_codes c outcome file x i hi).1
  unclosed := fun i hi => (worth_codes c outcome file x i hi).2

theorem answersOf_pullRequests (outcome : Except String ReleaseIndex) (forms : List Form)
    (e : Entry) : answersOf outcome (forms ++ [.pullRequests]) e
      = answersOf outcome forms e ++ [References.pullRequestAnswer outcome e] := by
  unfold answersOf
  rw [List.map_append]
  rfl

section Candidates

variable (c : Context) {file : String} {x : History.Candidate}

/-- In a candidate that needs the index all other checks have spoken before the failure. -/
theorem worth_needy (hpass : (worth (.error message) c.others file x).fault = none)
    (hreadable : ∀ a ∈ x.addresses, a.isReadable = true) (hneeds : x.needsIndex = true) :
    worth (.error message) (c.others ++ [.pullRequests]) file x
      = ⟨(worth (.error message) c.others file x).issues, some (.reference message)⟩ := by
  unfold History.Candidate.needsIndex at hneeds
  rcases worth_parts file x with ⟨e, haddresses, hworth⟩ | ⟨o, haddresses, _⟩
  · rw [haddresses, List.any_map] at hneeds
    rw [haddresses, List.forall_mem_map] at hreadable
    -- One of the records has a number, so the check for pull requests fails.
    have hanswer : References.pullRequestAnswer (.error message) e = .error (.reference message) :=
      (References.pullRequestAnswer_error message e hreadable).trans (if_pos hneeds)
    rw [hworth] at hpass
    rw [hworth, hworth, answersOf_pullRequests, hanswer, foundIn_append hpass,
      failureIn_append hpass]
    exact congrArg (BlockOutcome.mk · _) (List.append_nil _)
  · rw [haddresses] at hneeds
    cases hneeds

/-- In any other candidate the check of pull requests has warnings at most. -/
theorem worth_needless (hpass : (worth (.error message) c.others file x).fault = none)
    (hreadable : ∀ a ∈ x.addresses, a.isReadable = true) (hneeds : x.needsIndex = false) :
    (worth (.error message) (c.others ++ [.pullRequests]) file x).fault = none ∧
      Augments (worth (.error message) c.others file x).issues
        (worth (.error message) (c.others ++ [.pullRequests]) file x).issues := by
  have hown := Augments.of_others c (.error message) file x
  unfold History.Candidate.needsIndex at hneeds
  rcases worth_parts file x with ⟨e, haddresses, hworth⟩ | ⟨o, _, _, hworth⟩
  · rw [haddresses, List.any_map] at hneeds
    rw [haddresses, List.forall_mem_map] at hreadable
    let warnings := (Entry.records e.history References.pullRequestSections).map fun r =>
      References.noNumber e r.1 r.2.address
    have hanswer : References.pullRequestAnswer (.error message) e = .ok warnings :=
      (References.pullRequestAnswer_error message e hreadable).trans
        (if_neg (Bool.eq_false_iff.mp hneeds))
    -- All that the check says is that there are addresses without numbers.
    have hwarned : Augments [] warnings := Augments.of_warnings <| by
      rw [List.forall_mem_map]
      exact fun r _ => ⟨rfl, rfl⟩
    rw [hworth] at hpass hown
    rw [hworth, hworth, answersOf_pullRequests, hanswer, foundIn_append hpass,
      failureIn_append hpass, foundIn_ok]
    refine ⟨rfl, ?_⟩
    have hboth := hown.append hwarned
    rw [List.append_nil] at hboth
    exact (List.append_nil warnings).symm ▸ hboth
  · -- What no check has part in is the same with one check more.
    rw [hworth] at hpass hown
    rw [hworth, hworth]
    exact ⟨hpass, hown⟩

end Candidates

/-- Candidates that do not need the index. The induction is on them. -/
theorem worths_needless (c : Context) (file : String) (xs : List History.Candidate)
    (hpass : ∀ x ∈ xs, (worth (.error message) c.others file x).fault = none)
    (hreadable : ∀ x ∈ xs, ∀ a ∈ x.addresses, a.isReadable = true)
    (hneeds : ∀ x ∈ xs, x.needsIndex = false) :
    let off := xs.map (worth (.error message) c.others file)
    let on := xs.map (worth (.error message) (c.others ++ [.pullRequests]) file)
    stopped on = none ∧ Augments (off.flatMap (·.issues)) (on.flatMap (·.issues)) := by
  induction xs with
  | nil => exact ⟨rfl, Augments.nil⟩
  | cons x rest ih =>
      rcases worth_needless c (hpass x (List.mem_cons_self ..))
        (hreadable x (List.mem_cons_self ..)) (hneeds x (List.mem_cons_self ..)) with ⟨hx, hissues⟩
      rcases ih (fun y hy => hpass y (List.mem_cons_of_mem _ hy))
        (fun y hy => hreadable y (List.mem_cons_of_mem _ hy))
        (fun y hy => hneeds y (List.mem_cons_of_mem _ hy)) with ⟨hrest, hmore⟩
      refine ⟨?_, ?_⟩
      · rw [List.map_cons, stopped, List.findSome?_cons, hx]
        exact hrest
      · simp only [List.map_cons, List.flatMap_cons]
        exact hissues.append hmore

/-- If a document does not end a run without the check of pull requests, none of its candidates
    fails there. -/
theorem pass_of_haltOf (c : Context) {d : Document}
    (h : haltOf (.error message) c.others d = none) :
    ∀ x ∈ History.candidates d.text, (worth (.error message) c.others d.name x).fault = none := by
  have hsame : worths (.error message) c.others d = worths (.ok []) c.others d :=
    List.map_congr_left fun x _ => worth_others c _ _ d.name x
  unfold haltOf at h
  rw [hsame] at h
  have hstop : stopped (worths (.ok []) c.others d) = none :=
    stopped_of_haltOf (c.without .pullRequests) d h
  intro x hx
  rw [worth_others c _ (.ok [])]
  exact List.findSome?_eq_none_iff.mp hstop _ (List.mem_map_of_mem hx)

/-- Where the first failure is among what candidates are worth. -/
theorem stopped_at {before after : List BlockOutcome} {o : BlockOutcome} {fault : CheckFault}
    (hbefore : stopped before = none) (ho : o.fault = some fault) :
    stopped (before ++ o :: after) = some fault ∧
      reached (before ++ o :: after) = before.length + 1 ∧
      (before ++ o :: after).take (reached (before ++ o :: after)) = before ++ [o] := by
  have hreached : reached (before ++ o :: after) = before.length + 1 := by
    rw [reached_append, reached_cons, hbefore, ho]
    rfl
  refine ⟨?_, hreached, ?_⟩
  · unfold stopped at hbefore ⊢
    rw [List.findSome?_append, hbefore, List.findSome?_cons, ho]
    rfl
  · rw [hreached, List.take_append, List.take_of_length_le (Nat.le_succ _),
      Nat.add_sub_cancel_left]
    rfl

section Documents

variable (l : Listener ρ) (c : Context) {loader : Loader} {d : Document} {r : Run Memo ρ}

/-- A document in which no candidate needs the index. -/
theorem lintDocument_needless (howes : r.shared.Owes loader (.error message))
    (hpass : ∀ x ∈ History.candidates d.text,
      (worth (.error message) c.others d.name x).fault = none)
    (hreadable : ∀ x ∈ History.candidates d.text, ∀ a ∈ x.addresses, a.isReadable = true)
    (hneeds : ∀ x ∈ History.candidates d.text, x.needsIndex = false) :
    let off := lintDocument l (c.others.map (·.on loader)) d r
    let on := lintDocument l ((c.others ++ [Form.pullRequests]).map (·.on loader)) d r
    on.2 = none ∧ ∃ own found, Augments own found ∧
      Adds l r.countDocument (History.candidates d.text).length own off.1 ∧
      Adds l r.countDocument (History.candidates d.text).length found on.1 := by
  rcases worths_needless c d.name _ hpass hreadable hneeds with ⟨hstop, hissues⟩
  have hstop' : stopped (worths (.error message) c.others d) = none :=
    List.findSome?_eq_none_iff.mpr (List.forall_mem_map.mpr hpass)
  -- A document that is not stopped adds all of its candidates with all of their issues.
  have hwhole (forms : List Form) (h : stopped (worths (.error message) forms d) = none) :
      let run := lintDocument l (forms.map (·.on loader)) d r
      run.2 = none ∧ Adds l r.countDocument (History.candidates d.text).length
        ((worths (.error message) forms d).flatMap (·.issues)) run.1 := by
    rcases lintDocument_adds l forms d howes with ⟨hadds, hhalt⟩
    simp only [h, reached_of_not_stopped h, List.take_length, closing, List.append_nil] at hadds
    rw [h] at hhalt
    rw [worths, List.length_map] at hadds
    exact ⟨hhalt, hadds⟩
  exact ⟨(hwhole _ hstop).1, _, _, hissues, (hwhole _ hstop').2, (hwhole _ hstop).2⟩

/-- A document in which the candidate `x` is the first that needs the index. -/
theorem lintDocument_needy (howes : r.shared.Owes loader (.error message))
    {before after : List History.Candidate} {x : History.Candidate}
    (hall : History.candidates d.text = before ++ x :: after)
    (hpass : ∀ x ∈ History.candidates d.text,
      (worth (.error message) c.others d.name x).fault = none)
    (hreadable : ∀ x ∈ History.candidates d.text, ∀ a ∈ x.addresses, a.isReadable = true)
    (hneeds : ∀ y ∈ before, y.needsIndex = false) (hneedy : x.needsIndex = true) :
    let part := lintBlocks l (c.others.map (·.on loader)) d.name (before ++ [x]) r.countDocument
    let on := lintDocument l ((c.others ++ [Form.pullRequests]).map (·.on loader)) d r
    on.2 = none ∧ part.2 = none ∧ ∃ own found, Augments own found ∧
      Adds l r.countDocument (before.length + 1) own part.1 ∧
      Adds l r.countDocument (before.length + 1)
        (found ++ [.documentFailure d.name message]) on.1 := by
  have hbefore : ∀ y ∈ before, y ∈ History.candidates d.text := fun y hy =>
    hall ▸ List.mem_append_left _ hy
  have hx : x ∈ History.candidates d.text := hall ▸ List.mem_append_right _ (List.mem_cons_self ..)
  rcases worths_needless c d.name before (fun y hy => hpass y (hbefore y hy))
    (fun y hy => hreadable y (hbefore y hy)) hneeds with ⟨hstop, hissues⟩
  have hworth := worth_needy c (hpass x hx) (hreadable x hx) hneedy
  -- The other checks go through all candidates up to this one.
  have hpart : stopped ((before ++ [x]).map (worth (.error message) c.others d.name)) = none := by
    refine List.findSome?_eq_none_iff.mpr (List.forall_mem_map.mpr fun y hy => ?_)
    rcases List.mem_append.mp hy with hy | hy
    · exact hpass y (hbefore y hy)
    · rw [List.mem_singleton.mp hy]
      exact hpass x hx
  rcases lintBlocks_adds l c.others d.name (before ++ [x]) (r := r.countDocument) howes
    with ⟨hoff, hoffstop⟩
  rw [reached_of_not_stopped hpart, List.take_length, List.length_map, List.length_append,
    List.length_singleton, List.map_append, List.flatMap_append, List.map_singleton,
    List.flatMap_singleton] at hoff
  -- With the check of pull requests the document ends at this candidate.
  have hworths : worths (.error message) (c.others ++ [.pullRequests]) d
      = before.map (worth (.error message) (c.others ++ [.pullRequests]) d.name)
        ++ ⟨(worth (.error message) c.others d.name x).issues, some (.reference message)⟩
        :: after.map (worth (.error message) (c.others ++ [.pullRequests]) d.name) := by
    rw [worths, hall, List.map_append, List.map_cons, hworth]
  rcases stopped_at hstop rfl (o := ⟨_, some (.reference message)⟩) with ⟨hends, hreached, htake⟩
  rcases lintDocument_adds l (c.others ++ [.pullRequests]) d howes with ⟨hon, hhalt⟩
  rw [hworths, hends, htake, hreached, List.length_map, List.flatMap_append,
    List.flatMap_singleton] at hon
  rw [hworths, hends] at hhalt
  have hboth := hissues.append (Augments.of_others c (.error message) d.name x)
  exact ⟨hhalt, hoffstop.trans hpart, _, _, hboth, hoff, hon⟩

end Documents

end Run

end Annals
