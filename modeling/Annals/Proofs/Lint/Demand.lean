import Annals.Proofs.Lint.Outage

/-!
# Asking for the Index

The index of releases is asked for when a record needs it, and only then, and no
second time.

Every stage of a run leaves the memo in one of two states: as it found it, or as it is
once the loader has been asked. `Memo.after` names these states by whether the index
was needed, and `Tallies` says of a stage that it keeps this account: unless it ends
the run, the memo is the one after what was needed, and a stage in which nothing was
needed has not failed. The second half is what the stages are put together by. If the
first of two stages fails, the second one is left out, but then the first one has
needed the index already, and a memo that was asked once is not changed by being asked
again. So two stages need the index together if one of them does (`Tallies.or`), and
with that the account is carried from the records of a block to its checks, to the
blocks of a document, to the documents of a run, and to runs that follow each other.

## Main definitions

* `Memo.after`: A memo after the index was needed, or was not.
* `Run.Tallies`: A stage of a run that keeps account of the index.
* `Check.Form.Quiet`: A check that has no data of its own to fail for.
* `Run.inSuccession`: Runs that share nothing but their checks.
* `Run.processed`: The candidates of a document that a run gets to.

## Theorems

* `Tallies.or`: Two stages after each other.
* `lintBlock_tallies`: One candidate.
* `lintBlocks_tallies`: The candidates of a document.
* `processed_needsIndex`: What is left out of a document does not need the index alone.
* `loads_inSuccession`: How often the loader is asked in all.
-/

namespace Annals

namespace History.Candidate

/-- A candidate needs the index if it is a block, can be decoded, and has a record whose
    address is a text with a number at its end. -/
theorem needsIndex_iff (x : Candidate) :
    x.needsIndex = true ↔ ∃ b history r url, block x = .ok b ∧
      Yaml.decode true b.yaml = .ok history ∧
      r ∈ Entry.records history References.pullRequestSections ∧
      r.2.field? "pr-url" = some (.text url) ∧ (PullRequest.digitsOfUrl? url).isSome := by
  -- An address is numbered if it is a text with digits at its end, which the record may not have at
  -- all.
  have haddress (record : Value) : record.address.isNumbered = true ↔
      ∃ url, record.field? "pr-url" = some (.text url) ∧
        (PullRequest.digitsOfUrl? url).isSome := by
    unfold Value.address
    cases record.field? "pr-url" with
    | none => simp [Value.isNumbered]
    | some v => cases v <;> simp [Value.isNumbered]
  unfold needsIndex addresses
  cases block x with
  | error f => simp
  | ok b =>
      cases hd : Yaml.decode true b.yaml with
      | error f => simp [hd]
      | ok history => simp [hd, haddress]

end History.Candidate

namespace Memo

variable {loader : Loader} {outcome : Except String ReleaseIndex} {m : Memo}

/-- A memo after the index was needed, or was not. -/
def after (loader : Loader) (asked : Bool) (m : Memo) : Memo :=
  if asked then (m.load loader).2 else m

theorem after_owes (h : m.Owes loader outcome) (asked : Bool) :
    (m.after loader asked).Owes loader outcome := by
  cases asked with
  | false => exact h
  | true => exact Or.inl (load_of_owes h).2

/-- A memo that was asked already is not changed by being asked again. -/
theorem after_after (h : m.Owes loader outcome) (asked again : Bool) :
    (m.after loader asked).after loader again = m.after loader (asked || again) := by
  cases asked with
  | false => rfl
  | true =>
      cases again with
      | false => rfl
      | true =>
          change ((m.load loader).2.load loader).2 = (m.load loader).2
          rw [load_of_known loader (load_of_owes h).2]

/-- In a new memo the loader is asked once if the index is needed. -/
theorem after_start (loader : Loader) (asked : Bool) :
    (start.after loader asked).loads = (if asked then 1 else 0) ∧
      (start.after loader asked).requests = if asked then (loader 0).requests else [] := by
  cases asked <;> exact ⟨rfl, rfl⟩

end Memo

namespace Run

variable {ρ : Type} {loader : Loader} {outcome : Except String ReleaseIndex} {m m' m'' : Memo}

/-- A stage of a run keeps account of the index: unless it ends the run, it has asked for the
    index exactly if it was needed, and has not failed if it was not. -/
def Tallies (loader : Loader) (m : Memo) (asked : Bool) (fault : Option CheckFault)
    (m' : Memo) : Prop :=
  (∃ h, fault = some (.halt h)) ∨ m' = m.after loader asked ∧ (asked = false → fault = none)

/-- A stage that passes and has no use for the index. -/
theorem Tallies.pass (loader : Loader) (m : Memo) : Tallies loader m false none m :=
  Or.inr ⟨rfl, fun _ => rfl⟩

/-- A stage that ends the run. -/
theorem Tallies.halt (h : Halt) (asked : Bool) :
    Tallies loader m asked (some (.halt h)) m' :=
  Or.inl ⟨h, rfl⟩

/-- A stage that fails for want of data has needed the index, and so have all stages up to
    it, whatever would have come behind it. -/
theorem Tallies.stop {asked : Bool} {fault : CheckFault}
    (h : Tallies loader m asked (some fault) m') (more : Bool) :
    Tallies loader m (asked || more) (some fault) m' := by
  rcases h with hhalt | ⟨hafter, hquiet⟩
  · exact Or.inl hhalt
  · cases asked with
    | false => cases hquiet rfl
    | true => exact Or.inr ⟨hafter, fun h => (by cases h)⟩

/-- A stage that passes, and another one behind it. -/
theorem Tallies.or (howes : m.Owes loader outcome) {asked more : Bool} {fault : Option CheckFault}
    (h : Tallies loader m asked none m') (h' : Tallies loader m' more fault m'') :
    Tallies loader m (asked || more) fault m'' := by
  rcases h with ⟨_, hhalt⟩ | ⟨rfl, _⟩
  · cases hhalt
  · rcases h' with hhalt | ⟨rfl, hquiet⟩
    · exact Or.inl hhalt
    · refine Or.inr ⟨Memo.after_after howes asked more, fun hnone => hquiet ?_⟩
      exact (Bool.or_eq_false_iff.mp hnone).2

theorem Tallies.owes (howes : m.Owes loader outcome) {asked : Bool}
    (h : Tallies loader m asked none m') : m'.Owes loader outcome := by
  rcases h with ⟨_, hhalt⟩ | ⟨rfl, _⟩
  · cases hhalt
  · exact Memo.after_owes howes asked

end Run

/-- Why a check has no answer, if it has none. -/
def CheckFault.of? {α : Type} : Except CheckFault α → Option CheckFault
  | .error f => some f
  | .ok _ => none

namespace References

open Run

variable {loader : Loader} {outcome : Except String ReleaseIndex} {m : Memo}

/-- An address that is read has a number at its end if a number is read in it. -/
theorem isNumbered_of_numberOf {v : Value} {found : Option Nat} (h : numberOf v = .ok found) :
    v.isNumbered = found.isSome := by
  cases v with
  | text url =>
      simp only [numberOf, PullRequest.ofUrl] at h
      -- Only a text is looked into for a number; what else there may be has none.
      cases hd : PullRequest.digitsOfUrl? url with
      | none =>
          rw [hd] at h
          cases h
          simp only [Value.isNumbered, hd, Option.isSome_none]
      | some digits =>
          simp only [hd] at h
          cases hnumber : PullRequest.number digits with
          | error n =>
              rw [hnumber] at h
              cases h
          | ok number =>
              rw [hnumber] at h
              cases h
              simp only [Value.isNumbered, hd, Option.isSome_some]
  | _ =>
      cases h
      rfl

/-- A record needs the index if its address has a number. -/
theorem pullRequestIssue_tallies (loader : Loader) (e : Entry) (name : String) (record : Value)
    (m : Memo) : Tallies loader m record.address.isNumbered
      (CheckFault.of? (pullRequestIssue loader e name record m).1)
      (pullRequestIssue loader e name record m).2 := by
  unfold Value.address
  let url := (record.field? "pr-url").getD .null
  cases hn : numberOf url with
  | error n =>
      have hrun : pullRequestIssue loader e name record m
          = (.error (.halt (.record (.longNumber n))), m) := by
        simp only [pullRequestIssue, url, hn] at hn ⊢
      rw [hrun]
      exact Tallies.halt _ _
  | ok found =>
      have hnumbered : url.isNumbered = found.isSome := isNumbered_of_numberOf hn
      change Tallies loader m url.isNumbered _ _
      rw [hnumbered]
      cases found with
      | none =>
          have hrun : pullRequestIssue loader e name record m
              = (some <$> about url (noNumber e name url), m) := by
            simp only [pullRequestIssue, url, hn] at hn ⊢
          rw [hrun]
          rcases Check.about_eq url (noNumber e name url) with habout | ⟨h, habout⟩
          · rw [habout]
            exact Tallies.pass loader m
          · rw [habout]
            exact Tallies.halt h _
      | some number =>
          -- The memo is that of the look-up, whatever the look-up comes to.
          have hmemo : (pullRequestIssue loader e name record m).2 = (m.load loader).2 := by
            have hfind : (m.find loader number).2 = (m.load loader).2 := rfl
            rcases hf : m.find loader number with ⟨answer, after⟩
            rw [hf] at hfind
            simp only [pullRequestIssue, url, hn, hf] at hn ⊢
            rw [← hfind]
            cases answer with
            | error f => rfl
            | ok release => cases release <;> rfl
          exact Or.inr ⟨hmemo, fun h => (by cases h)⟩

theorem pullRequestIssuesFrom_tallies (e : Entry) (records : List (String × Value))
    (h : m.Owes loader outcome) :
    Tallies loader m (records.any fun r => r.2.address.isNumbered)
      (CheckFault.of? (pullRequestIssuesFrom loader e records m).1)
      (pullRequestIssuesFrom loader e records m).2 := by
  induction records generalizing m with
  | nil => exact Tallies.pass loader m
  | cons r rest ih =>
      rcases r with ⟨name, record⟩
      have hone := pullRequestIssue_tallies loader e name record m
      rcases hr : pullRequestIssue loader e name record m with ⟨answer, after⟩
      rw [hr] at hone
      simp only [pullRequestIssuesFrom, hr, List.any_cons]
      -- A record that fails keeps the later ones from being looked at, and these ask for nothing
      -- then.
      cases answer with
      | error f => exact hone.stop _
      | ok found =>
          have hrest := ih (hone.owes h)
          simp only []
          cases hothers : (pullRequestIssuesFrom loader e rest after).1 with
          | error f =>
              rw [hothers] at hrest
              exact hone.or h hrest
          | ok others =>
              rw [hothers] at hrest
              exact hone.or h hrest

end References

namespace Check.Form

open Run

variable {loader : Loader} {outcome : Except String ReleaseIndex} {m : Memo}

/-- A check does not fail for want of data, unless it is the check that asks for the index. -/
def Quiet : Form → Prop
  | plain _ find => ∀ e message, find e ≠ .error (.reference message)
  | pullRequests => True

/-- Whether a check asks for the index when it looks at an entry. -/
def asks (e : Entry) : Form → Bool
  | plain .. => false
  | pullRequests =>
    (Entry.records e.history References.pullRequestSections).any fun r => r.2.address.isNumbered

theorem run_tallies {f : Form} (hquiet : f.Quiet) (e : Entry) (h : m.Owes loader outcome) :
    Tallies loader m (f.asks e) (CheckFault.of? ((f.on loader).run e m).1)
      ((f.on loader).run e m).2 := by
  cases f with
  | plain name find =>
      change Tallies loader m false (CheckFault.of? (find e)) m
      cases hfind : find e with
      | ok found => exact Tallies.pass loader m
      | error fault =>
          cases fault with
          | reference message => exact absurd hfind (hquiet e message)
          | halt h => exact Tallies.halt h _
  | pullRequests => exact References.pullRequestIssuesFrom_tallies e _ h

/-- With the check of pull requests among them, checks ask for the index if this check does. -/
theorem any_asks {forms : List Form} (h : .pullRequests ∈ forms) (e : Entry) :
    forms.any (·.asks e) = asks e .pullRequests := by
  rw [Bool.eq_iff_iff, List.any_eq_true]
  constructor
  · rintro ⟨f, _, hf⟩
    cases f with
    | plain name find => cases hf
    | pullRequests => exact hf
  · exact fun hasks => ⟨_, h, hasks⟩

end Check.Form

/-- The checks that options can ask for are quiet. -/
theorem Context.quiet_forms (c : Context) : ∀ f ∈ c.forms.map Prod.snd, f.Quiet := by
  intro f hf
  rcases List.mem_map.mp hf with ⟨⟨k, f⟩, hp, rfl⟩
  cases f with
  | plain name find =>
      exact fun e message => (Check.speaks_forms c [] e _ hp).fault message
  | pullRequests => trivial

namespace Run

open Check

variable {ρ : Type} {loader : Loader} {outcome : Except String ReleaseIndex} {m : Memo}
  {forms : List Form}

theorem runChecks_tallies (hquiet : ∀ f ∈ forms, f.Quiet) (e : Entry)
    (h : m.Owes loader outcome) :
    Tallies loader m (forms.any (·.asks e)) (runChecks e (forms.map (·.on loader)) m).1.fault
      (runChecks e (forms.map (·.on loader)) m).2 := by
  induction forms generalizing m with
  | nil => exact Tallies.pass loader m
  | cons f rest ih =>
      have hone := Form.run_tallies (hquiet f (List.mem_cons_self ..)) e h
      rcases hr : (f.on loader).run e m with ⟨answer, after⟩
      rw [hr] at hone
      simp only [List.map_cons, List.any_cons, runChecks, hr]
      cases answer with
      | error fault => exact hone.stop _
      | ok found =>
          exact hone.or h (ih (fun g hg => hquiet g (List.mem_cons_of_mem _ hg)) (hone.owes h))

/-- A candidate asks for the index exactly if it needs it. -/
theorem lintBlock_tallies (hforms : .pullRequests ∈ forms) (hquiet : ∀ f ∈ forms, f.Quiet)
    (file : String) (x : History.Candidate) (h : m.Owes loader outcome) :
    Tallies loader m x.needsIndex (lintBlock (forms.map (·.on loader)) file x m).1.fault
      (lintBlock (forms.map (·.on loader)) file x m).2 := by
  unfold lintBlock History.Candidate.needsIndex History.Candidate.addresses
  cases History.block x with
  | error f =>
      cases f with
      | format f => exact Tallies.pass loader m
      | html f => exact Tallies.halt _ _
  | ok b =>
      simp only [lintHistory]
      cases hd : Yaml.decode true b.yaml with
      | ok history =>
          -- The checks are reached, and the one for pull requests is among them.
          have hchecks := runChecks_tallies hquiet ⟨file, b, history⟩ h
          rw [Form.any_asks hforms] at hchecks
          simp only [List.any_map]
          exact hchecks
      | error f =>
          cases f with
          | defect d => exact Tallies.halt _ _
          | character position code => exact Tallies.pass loader m
          | problem p => exact Tallies.pass loader m

/-- The candidates of a document ask for the index if one of them needs it, also where they
    are not all looked at. -/
theorem lintBlocks_tallies (hforms : .pullRequests ∈ forms) (hquiet : ∀ f ∈ forms, f.Quiet)
    (l : Listener ρ) (file : String) (cs : List History.Candidate) {r : Run Memo ρ}
    (h : r.shared.Owes loader outcome) :
    let run := lintBlocks l (forms.map (·.on loader)) file cs r
    Tallies loader r.shared (cs.any (·.needsIndex)) run.2 run.1.shared := by
  induction cs generalizing r with
  | nil => exact Tallies.pass loader r.shared
  | cons x rest ih =>
      have hone := lintBlock_tallies hforms hquiet file x h
      rcases ho : lintBlock (forms.map (·.on loader)) file x r.shared with ⟨o, after⟩
      rw [ho] at hone
      have hshared : (emitAll l o.issues { r.countBlock with shared := after }).shared = after :=
        emitAll_shared l _ _
      have hcounted : r.countBlock.shared = r.shared := rfl
      simp only [lintBlocks, hcounted, ho, List.any_cons]
      -- A candidate that ends the document has asked for the index, if it needs it, before the
      -- others could.
      cases hf : o.fault with
      | some fault =>
          rw [hf] at hone
          simp only [hshared]
          exact hone.stop _
      | none =>
          rw [hf] at hone
          have hrest := ih (r := emitAll l o.issues { r.countBlock with shared := after })
            (hshared.symm ▸ hone.owes h)
          rw [hshared] at hrest
          exact hone.or h hrest

/-- The candidates of a document that a run gets to. -/
def processed (outcome : Except String ReleaseIndex) (forms : List Form) (d : Document) :
    List History.Candidate :=
  (History.candidates d.text).take (reached (worths outcome forms d))

/-- They are the blocks that the document adds to the results. -/
theorem length_processed (outcome : Except String ReleaseIndex) (forms : List Form)
    (d : Document) : (processed outcome forms d).length = (share outcome forms d).blocks := by
  have hle : reached (worths outcome forms d) ≤ (History.candidates d.text).length :=
    Nat.le_trans (reached_le _) (Nat.le_of_eq (List.length_map _))
  rw [processed, List.length_take, Nat.min_eq_left hle]
  exact (Nat.zero_add _).symm

/-- A candidate that fails without ending the run needs the index. -/
theorem needsIndex_of_fault (hforms : .pullRequests ∈ forms) (hquiet : ∀ f ∈ forms, f.Quiet)
    (hyields : loader.Yields outcome) {file : String} {x : History.Candidate} {fault : CheckFault}
    (hfault : (worth outcome forms file x).fault = some fault)
    (hpass : halting (some fault) = none) : x.needsIndex = true := by
  have howes := Memo.start_owes hyields
  have htallies := lintBlock_tallies hforms hquiet file x howes
  rw [(lintBlock_forms forms file x howes).1, hfault] at htallies
  rcases htallies with ⟨halt, hhalt⟩ | ⟨_, hnone⟩
  · cases hhalt
    cases hpass
  · cases hx : x.needsIndex with
    | true => rfl
    | false => cases hnone hx

/-- Among the candidates that a run gets to there is one that needs the index, if there is one
    at all: a run that stops before the end of a document and goes on with the next one has
    stopped at a candidate that needs it. -/
theorem processed_needsIndex (hforms : .pullRequests ∈ forms) (hquiet : ∀ f ∈ forms, f.Quiet)
    (hyields : loader.Yields outcome) {d : Document} (hpass : haltOf outcome forms d = none) :
    (processed outcome forms d).any (·.needsIndex)
      = (History.candidates d.text).any (·.needsIndex) := by
  unfold haltOf worths at hpass
  unfold processed worths
  generalize History.candidates d.text = cs at hpass ⊢
  induction cs with
  | nil => rfl
  | cons x rest ih =>
      rw [List.map_cons] at hpass ⊢
      rw [reached_cons]
      unfold stopped at hpass
      rw [List.findSome?_cons] at hpass
      cases hf : (worth outcome forms d.name x).fault with
      | none =>
          rw [hf] at hpass
          simp only [Option.isSome_none, Bool.false_eq_true, if_false, List.take_succ_cons,
            List.any_cons, ih hpass]
      | some fault =>
          rw [hf] at hpass
          -- What stops the candidates here is the want of an index, which the candidate has asked
          -- for.
          have hneeds := needsIndex_of_fault hforms hquiet hyields hf hpass
          simp only [Option.isSome_some, if_true, List.take_succ_cons, List.take_zero,
            List.any_cons, hneeds, Bool.true_or]

/-- A document that does not end the run asks for the index if one of its candidates needs
    it. -/
theorem lintDocument_after (hforms : .pullRequests ∈ forms) (hquiet : ∀ f ∈ forms, f.Quiet)
    (l : Listener ρ) (d : Document) {r : Run Memo ρ} (h : r.shared.Owes loader outcome)
    (hreturns : (lintDocument l (forms.map (·.on loader)) d r).2 = none) :
    (lintDocument l (forms.map (·.on loader)) d r).1.shared
      = r.shared.after loader ((History.candidates d.text).any (·.needsIndex)) := by
  have hcount : r.countDocument.shared.Owes loader outcome := h
  have hblocks := lintBlocks_tallies hforms hquiet l d.name (History.candidates d.text) hcount
  rw [lintDocument_closing] at hreturns ⊢
  rw [emitAll_shared]
  rcases hblocks with ⟨halt, hhalt⟩ | ⟨hafter, _⟩
  · simp only [hhalt, halting] at hreturns
    cases hreturns
  · exact hafter

/-- Documents that do not end the run ask for the index if a candidate in one of them needs
    it. -/
theorem lintDocuments_after (hforms : .pullRequests ∈ forms) (hquiet : ∀ f ∈ forms, f.Quiet)
    (l : Listener ρ) (ds : List Document) {r : Run Memo ρ} (h : r.shared.Owes loader outcome)
    (hreturns : (lintDocuments l (forms.map (·.on loader)) ds r).2 = none) :
    (lintDocuments l (forms.map (·.on loader)) ds r).1.shared
      = r.shared.after loader
          (ds.any fun d => (History.candidates d.text).any (·.needsIndex)) := by
  induction ds generalizing r with
  | nil => rfl
  | cons d rest ih =>
      have hone := lintDocument_after hforms hquiet l d h
      rcases hrun : lintDocument l (forms.map (·.on loader)) d r with ⟨r', halted⟩
      rw [hrun] at hone
      simp only [lintDocuments, hrun] at hreturns ⊢
      cases halted with
      | some halt => cases hreturns
      | none =>
          -- The document did not end the run, so it has asked if one of its candidates needs the
          -- index.
          have hshared := hone rfl
          have howes : r'.shared.Owes loader outcome := hshared ▸ Memo.after_owes h _
          simp only [] at hshared hreturns ⊢
          rw [ih howes hreturns, hshared, Memo.after_after h, List.any_cons]

/-- Runs over lists of documents, one after another. Each is a run of its own, but the checks
    are the same, and so is what they share. -/
def inSuccession {σ : Type} (l : Listener ρ) (checks : List (Check σ)) (told : ρ) :
    List (List Document) → σ → List (Run σ ρ × Option Halt) × σ
  | [], s => ([], s)
  | ds :: rest, s =>
    let run := lintDocuments l checks ds (start s told)
    let others := inSuccession l checks told rest run.1.shared
    (run :: others.1, others.2)

/-- Runs that return ask for the index if a candidate in one of them needs it. -/
theorem inSuccession_after (hforms : .pullRequests ∈ forms) (hquiet : ∀ f ∈ forms, f.Quiet)
    (l : Listener ρ) (told : ρ) (runs : List (List Document)) (h : m.Owes loader outcome)
    (hreturns : ∀ run ∈ (inSuccession l (forms.map (·.on loader)) told runs m).1,
      run.2 = none) :
    (inSuccession l (forms.map (·.on loader)) told runs m).2
      = m.after loader (runs.any fun ds =>
          ds.any fun d => (History.candidates d.text).any (·.needsIndex)) := by
  induction runs generalizing m with
  | nil => rfl
  | cons ds rest ih =>
      simp only [inSuccession, List.mem_cons, forall_eq_or_imp] at hreturns ⊢
      have hbegun : (start m told : Run Memo ρ).shared.Owes loader outcome := h
      have hone := lintDocuments_after hforms hquiet l ds hbegun hreturns.1
      have howes : (lintDocuments l (forms.map (·.on loader)) ds
          (start m told)).1.shared.Owes loader outcome :=
        (lintDocuments_forms l forms ds hbegun).2.1
      rw [ih howes hreturns.2, hone, List.any_cons]
      exact Memo.after_after h _ _

/-- No document of runs that return ends its run. -/
theorem haltOf_inSuccession (l : Listener ρ) (told : ρ) (runs : List (List Document))
    (h : m.Owes loader outcome)
    (hreturns : ∀ run ∈ (inSuccession l (forms.map (·.on loader)) told runs m).1,
      run.2 = none) :
    ∀ ds ∈ runs, ∀ d ∈ ds, haltOf outcome forms d = none := by
  induction runs generalizing m with
  | nil => exact fun ds hds => absurd hds List.not_mem_nil
  | cons ds rest ih =>
      simp only [inSuccession, List.mem_cons, forall_eq_or_imp] at hreturns ⊢
      have hbegun : (start m told : Run Memo ρ).shared.Owes loader outcome := h
      rcases lintDocuments_forms l forms ds hbegun with ⟨hhalt, howes, _⟩
      exact ⟨List.findSome?_eq_none_iff.mp (hhalt.symm.trans hreturns.1), ih howes hreturns.2⟩

/-- The loader is asked exactly once if a candidate that is processed in one of the runs needs
    the index, and otherwise not at all. This holds for any number of runs with the same
    checks, the one of pull requests among them, as long as the runs return: for an index
    and for data that is not at hand alike. -/
theorem loads_inSuccession (l : Listener ρ) (told : ρ) (hyields : loader.Yields outcome)
    (hforms : .pullRequests ∈ forms) (hquiet : ∀ f ∈ forms, f.Quiet)
    (runs : List (List Document))
    (hreturns : ∀ run ∈ (inSuccession l (forms.map (·.on loader)) told runs Memo.start).1,
      run.2 = none) :
    let after := (inSuccession l (forms.map (·.on loader)) told runs Memo.start).2
    let needed := ∃ ds ∈ runs, ∃ d ∈ ds, ∃ x ∈ processed outcome forms d, x.needsIndex = true
    (needed → after.loads = 1 ∧ after.requests = (loader 0).requests) ∧
      (¬ needed → after.loads = 0 ∧ after.requests = []) := by
  intro after needed
  have howes := Memo.start_owes hyields
  let asked := runs.any fun ds =>
    ds.any fun d => (History.candidates d.text).any (·.needsIndex)
  have hafter : after = Memo.start.after loader asked :=
    inSuccession_after hforms hquiet l told runs howes hreturns
  -- It makes no difference that some documents are not processed to their end.
  have hneeded : needed ↔ asked = true := by
    have hpass := haltOf_inSuccession l told runs howes hreturns
    simp only [asked, needed, List.any_eq_true]
    refine exists_congr (fun ds => and_congr_right (fun hds => ?_))
    refine exists_congr (fun d => and_congr_right (fun hd => ?_))
    have hsame := processed_needsIndex hforms hquiet hyields (hpass ds hds d hd)
    rw [Bool.eq_iff_iff, List.any_eq_true, List.any_eq_true] at hsame
    exact hsame
  rcases Memo.after_start loader asked with ⟨hloads, hrequests⟩
  rw [hafter, hloads, hrequests]
  refine ⟨fun h => ?_, fun h => ?_⟩
  · rw [hneeded.mp h]
    exact ⟨rfl, rfl⟩
  · rw [Bool.eq_false_iff.mpr (mt hneeded.mpr h)]
    exact ⟨rfl, rfl⟩

/-- Of three runs the second one comes to a record with a number, and finds that there is no
    index. The third one does not ask for it again. -/
theorem loads_inSuccession_failing :
    let plain := Document.ofText
      "<!--\n```yaml history\nadded:\n  - pr-url: none\n```\n-->\n" "a.md"
    let numbered := Document.ofText
      "<!--\n```yaml history\nchanges:\n  - pr-url: /1\n```\n-->\n" "b.md"
    let loader := Loader.failing "offline"
    let c : Context := ⟨Options.default, [], none, none, some loader⟩
    let forms := c.forms.map Prod.snd
    let runs := [[plain], [plain, numbered], [numbered, plain]]
    let all := inSuccession (Listener.silent : Listener Unit) (forms.map (·.on loader)) () runs
      Memo.start
    loader.Yields (.error "offline") ∧ .pullRequests ∈ forms ∧ (∀ f ∈ forms, f.Quiet) ∧
      (∀ run ∈ all.1, run.2 = none) ∧ all.2.loads = 1 := by
  intro plain numbered loader c forms runs all
  have hyields : loader.Yields (.error "offline") := rfl
  have hforms : .pullRequests ∈ forms := by simp [forms, c, Context.forms, Kind.all, Context.form?]
  have hquiet : ∀ f ∈ forms, f.Quiet := c.quiet_forms
  have hreturns : ∀ run ∈ all.1, run.2 = none := by decide +kernel
  -- The second document is the only one with a number, and it comes up in the second run.
  have hneeded : ∃ ds ∈ runs, ∃ d ∈ ds, ∃ x ∈ processed (.error "offline") forms d,
      x.needsIndex = true := by
    refine ⟨[plain, numbered], by simp [runs], numbered, by simp, ?_⟩
    exact List.any_eq_true.mp (by decide +kernel)
  exact ⟨hyields, hforms, hquiet, hreturns,
    ((loads_inSuccession Listener.silent () hyields hforms hquiet runs hreturns).1 hneeded).1⟩

end Run

end Annals
