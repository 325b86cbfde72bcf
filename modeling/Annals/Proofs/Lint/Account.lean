import Annals.Lint.Run

/-!
# The Account of a Run

What a run over one document adds to its results, and what it tells its
listener, wherever it is cut short.

A run works through candidates one after another and stops in the middle of a
document as soon as a check fails. What was found until then has been recorded
and told already, so there are three accounts that have to agree at every such
point: the counts, the list of issues and what the listener heard. They are
compared here with a description in which nothing stops. `answers` and
`outcomes` let every check and every candidate have its turn; the run is then
the part of them that ends with the first failure.

`Gives` says what one candidate is worth, by the form of its text alone: one
issue if it is no block, one issue if it cannot be decoded, and otherwise the
issues of the checks in their order up to one that fails. `lintDocument_account`
puts the candidates together.

## Main definitions

* `Run.answers`: The answers of all checks, one after another.
* `Run.foundIn`, `Run.failureIn`: The issues before the first failure, and it.
* `Run.Gives`: What a candidate is worth.
* `Run.outcomes`: What all candidates are worth, one after another.
* `Run.upTo`, `Run.reached`: How many candidates a run gets to.
* `Run.closing`: The issue with which a document ends, if there is one.
* `Results.Balanced`: The counts are those of the issues.
* `Results.grown`: Results after more blocks and more issues.

## Theorems

* `lintBlock_gives`: What a candidate is worth.
* `emitAll_results`: Recording issues moves the counts by them.
* `lintBlocks_account`: The candidates of a document, up to the first failure.
* `lintDocument_account`: One document.
-/

namespace Annals

namespace Issue

/-- Whether an issue counts as an error. -/
def isError (i : Issue) : Bool := i.severity == .error

end Issue

namespace Results

/-- The counts are those of the issues: of the errors, and of all others. -/
structure Balanced (r : Results) : Prop where
  errors : r.errors = r.issues.countP Issue.isError
  warnings : r.warnings = r.issues.countP fun i => !i.isError

/-- The results after more blocks in which more issues were found. -/
def grown (r : Results) (blocks : Nat) (found : List Issue) : Results :=
  { documents := r.documents
    blocks := r.blocks + blocks
    errors := r.errors + found.countP Issue.isError
    warnings := r.warnings + found.countP fun i => !i.isError
    issues := r.issues ++ found }

theorem add_eq_grown (r : Results) (i : Issue) : r.add i = r.grown 0 [i] := by
  unfold add grown Issue.isError
  cases hs : i.severity with
  | error => simp [hs]
  | warning => simp [hs]
  | other name => simp [hs]

theorem grown_grown (r : Results) (m n : Nat) (found more : List Issue) :
    (r.grown m found).grown n more = r.grown (m + n) (found ++ more) := by
  unfold grown
  simp only [List.countP_append, List.append_assoc, Nat.add_assoc]

theorem grown_nil (r : Results) : r.grown 0 [] = r := by
  unfold grown
  simp only [List.countP_nil, List.append_nil, Nat.add_zero]

theorem Balanced.grown {r : Results} (hr : r.Balanced) (blocks : Nat) (found : List Issue) :
    (r.grown blocks found).Balanced := by
  constructor
  · simp only [Results.grown, List.countP_append, hr.errors]
  · simp only [Results.grown, List.countP_append, hr.warnings]

/-- Where all issues are of the two severities, the warnings are those by that name. The
    hypothesis is needed, since what is no error counts as a warning whatever its name. -/
theorem Balanced.warnings_eq {r : Results} (hr : r.Balanced)
    (h : ∀ i ∈ r.issues, i.severity = .error ∨ i.severity = .warning) :
    r.warnings = r.issues.countP fun i => i.severity == .warning := by
  rw [hr.warnings]
  refine List.countP_congr (fun i hi => ?_)
  rcases h i hi with hs | hs
  · simp [Issue.isError, hs]
  · simp [Issue.isError, hs]

end Results

namespace Run

variable {σ ρ : Type}

/-- The answers of checks to an entry, one after another, each on the state that the
    one before it left. -/
def answers (e : Entry) : List (Check σ) → σ → List (Except CheckFault (List Issue))
  | [], _ => []
  | check :: rest, s => (check.run e s).1 :: answers e rest (check.run e s).2

/-- The issues in answers before the first that is a failure. -/
def foundIn (answers : List (Except CheckFault (List Issue))) : List Issue :=
  (answers.takeWhile (·.isOk)).flatMap fun a => a.toOption.getD []

/-- The first failure among answers. -/
def failureIn (answers : List (Except CheckFault (List Issue))) : Option CheckFault :=
  answers.findSome? fun a => match a with
    | .error f => some f
    | .ok _ => none

/-- What a candidate is worth, in the five ways in which its text can turn out: it has
    not the form of a block; it cannot be decoded; the checks look at it; it cannot be
    read as HTML at all; and a value in it fails apart from the form of the text. -/
inductive Gives (checks : List (Check σ)) (file : String) (c : History.Candidate) (s : σ) :
    BlockOutcome → Prop where
  | misformed {f : History.FormatFault} :
      History.block c = .error (.format f) →
      Gives checks file c s ⟨[formatError file c f], none⟩
  | undecoded {b : History.Block} {f : Yaml.Fault} {message : String} {line : Option Nat} :
      History.block c = .ok b → Yaml.decode true b.yaml = .error f →
      f.named? b.yaml.toList.toArray = some (message, line) →
      Gives checks file c s ⟨[parseError file b message line], none⟩
  | checked {b : History.Block} {history : Value} :
      History.block c = .ok b → Yaml.decode true b.yaml = .ok history →
      Gives checks file c s
        ⟨foundIn (answers ⟨file, b, history⟩ checks s),
          failureIn (answers ⟨file, b, history⟩ checks s)⟩
  | unreadable {f : Html.Fault} :
      History.block c = .error (.html f) →
      Gives checks file c s ⟨[], some (.halt (.html f))⟩
  | defective {b : History.Block} {d : Yaml.Defect} :
      History.block c = .ok b → Yaml.decode true b.yaml = .error (.defect d) →
      Gives checks file c s ⟨[], some (.halt (.decoding d))⟩

/-- What candidates are worth, one after another, each on the state that the one before
    it left, whether or not that one failed. -/
def outcomes (checks : List (Check σ)) (file : String) :
    List History.Candidate → σ → List BlockOutcome
  | [], _ => []
  | c :: rest, s =>
    (lintBlock checks file c s).1 :: outcomes checks file rest (lintBlock checks file c s).2

/-- How many entries of a list there are up to the first of a kind, and with it. -/
def upTo {α : Type} (ends : α → Bool) (l : List α) : Nat := (l.findIdx? ends).elim l.length (· + 1)

/-- How many candidates a run gets to: all up to the first that fails, and with it. -/
def reached (outcomes : List BlockOutcome) : Nat := upTo (·.fault.isSome) outcomes

/-- The failure at which a run over candidates stops. -/
def stopped (outcomes : List BlockOutcome) : Option CheckFault := outcomes.findSome? (·.fault)

/-- The issue with which a document ends: data that is not at hand is one, and no other
    failure is. -/
def closing (file : String) : Option CheckFault → List Issue
  | some (.reference message) => [.documentFailure file message]
  | _ => []

/-- The failure that ends a run and not only its document. -/
def halting : Option CheckFault → Option Halt
  | some (.halt h) => some h
  | _ => none

/-- The checks of an entry stop at the first failure, and what was found before stays. -/
theorem runChecks_outcome (e : Entry) (checks : List (Check σ)) (s : σ) :
    (runChecks e checks s).1 = ⟨foundIn (answers e checks s), failureIn (answers e checks s)⟩ := by
  induction checks generalizing s with
  | nil => rfl
  | cons check rest ih =>
      rcases hrun : check.run e s with ⟨answer, s'⟩
      cases answer with
      -- The checks behind a failure are not asked, and so do not count.
      | error f => simp [runChecks, answers, foundIn, failureIn, hrun, Except.isOk, Except.toBool]
      | ok found =>
          have hrest := ih s'
          simp only [runChecks, answers, hrun]
          rw [hrest]
          simp [foundIn, failureIn, Except.isOk, Except.toBool, Except.toOption]

/-- A fault that is not the defect of a value has a wording under its name. -/
theorem named_of_not_defect (text : Array Char) (f : Yaml.Fault)
    (hf : ∀ d, f ≠ .defect d) : ∃ message line, f.named? text = some (message, line) := by
  cases f with
  | character position code => exact ⟨_, _, rfl⟩
  | problem p => exact ⟨_, _, rfl⟩
  | defect d => exact absurd rfl (hf d)

theorem lintHistory_gives (checks : List (Check σ)) (file : String) (c : History.Candidate)
    (b : History.Block) (s : σ) (hb : History.block c = .ok b) :
    Gives checks file c s (lintHistory checks file b s).1 := by
  unfold lintHistory
  cases hd : Yaml.decode true b.yaml with
  | ok history =>
      simp only []
      rw [runChecks_outcome]
      exact Gives.checked hb hd
  | error f =>
      -- Only a defect of the parser breaks off; the other faults have a message and a line.
      cases f with
      | defect d => exact Gives.defective hb hd
      | character position code =>
          rcases named_of_not_defect b.yaml.toList.toArray (.character position code)
            (fun _ h => by cases h) with ⟨message, line, hn⟩
          simp only [hn]
          exact Gives.undecoded hb hd hn
      | problem p =>
          rcases named_of_not_defect b.yaml.toList.toArray (.problem p)
            (fun _ h => by cases h) with ⟨message, line, hn⟩
          simp only [hn]
          exact Gives.undecoded hb hd hn

/-- What a candidate is worth follows from its text. -/
theorem lintBlock_gives (checks : List (Check σ)) (file : String) (c : History.Candidate)
    (s : σ) : Gives checks file c s (lintBlock checks file c s).1 := by
  unfold lintBlock
  cases hb : History.block c with
  | ok b => exact lintHistory_gives checks file c b s hb
  | error f =>
      cases f with
      | format f => exact Gives.misformed hb
      | html f => exact Gives.unreadable hb

theorem emitAll_results (l : Listener ρ) (found : List Issue) (r : Run σ ρ) :
    (emitAll l found r).results = r.results.grown 0 found := by
  induction found generalizing r with
  | nil => rw [Results.grown_nil]; rfl
  | cons i rest ih =>
      have hstep : emitAll l (i :: rest) r = emitAll l rest (r.emit l i) := rfl
      rw [hstep, ih, emit, Results.add_eq_grown, Results.grown_grown]
      rfl

theorem emitAll_told (l : Listener ρ) (found : List Issue) (r : Run σ ρ) :
    (emitAll l found r).told = found.foldl (fun told i => l.issue i told) r.told := by
  induction found generalizing r with
  | nil => rfl
  | cons i rest ih =>
      have hstep : emitAll l (i :: rest) r = emitAll l rest (r.emit l i) := rfl
      rw [hstep, ih]
      rfl

theorem emitAll_shared (l : Listener ρ) (found : List Issue) (r : Run σ ρ) :
    (emitAll l found r).shared = r.shared := by
  induction found generalizing r with
  | nil => rfl
  | cons i rest ih =>
      have hstep : emitAll l (i :: rest) r = emitAll l rest (r.emit l i) := rfl
      rw [hstep, ih]
      rfl

theorem upTo_cons {α : Type} (ends : α → Bool) (a : α) (rest : List α) :
    upTo ends (a :: rest) = if ends a then 1 else upTo ends rest + 1 := by
  unfold upTo
  rw [List.findIdx?_cons]
  by_cases ha : ends a
  · simp [ha]
  · cases hr : rest.findIdx? ends with
    | none => simp [ha]
    | some n => simp [ha]

theorem reached_cons (o : BlockOutcome) (rest : List BlockOutcome) :
    reached (o :: rest) = if o.fault.isSome then 1 else reached rest + 1 :=
  upTo_cons _ o rest

/-- Where a run stops among candidates, it stops among more of them. -/
theorem reached_append (some more : List BlockOutcome) :
    reached (some ++ more)
      = if (stopped some).isSome then reached some else some.length + reached more := by
  induction some with
  | nil => simp [stopped]
  | cons o rest ih =>
      rw [List.cons_append, reached_cons, reached_cons, ih]
      cases ho : o.fault with
      | some f => simp [stopped, ho]
      | none =>
          have hskip : stopped (o :: rest) = stopped rest := by simp [stopped, ho]
          rw [hskip, List.length_cons]
          -- This candidate does not stop the run, so the others decide.
          by_cases hrest : (stopped rest).isSome
          · simp [hrest]
          · simp only [hrest, Option.isSome_none, Bool.false_eq_true, if_false]
            omega

theorem reached_of_not_stopped {all : List BlockOutcome} (h : stopped all = none) :
    reached all = all.length := by
  have happend := reached_append all []
  rw [List.append_nil, h] at happend
  rw [happend]
  rfl

theorem reached_le (all : List BlockOutcome) : reached all ≤ all.length := by
  induction all with
  | nil => exact Nat.le_refl _
  | cons o rest ih =>
      rw [reached_cons, List.length_cons]
      split <;> omega

/-- The candidates of a document are counted, and their issues recorded and told, up to
    the first that fails. The induction is on the candidates; what the checks share
    passes from each to the next. -/
theorem lintBlocks_account (l : Listener ρ) (checks : List (Check σ)) (file : String)
    (cs : List History.Candidate) (r : Run σ ρ) :
    let all := outcomes checks file cs r.shared
    let found := (all.take (reached all)).flatMap (·.issues)
    (lintBlocks l checks file cs r).1.results = r.results.grown (reached all) found ∧
      (lintBlocks l checks file cs r).1.told
        = found.foldl (fun told i => l.issue i told) r.told ∧
      (lintBlocks l checks file cs r).2 = stopped all := by
  induction cs generalizing r with
  | nil => exact ⟨(Results.grown_nil _).symm, rfl, rfl⟩
  | cons c rest ih =>
      rcases ho : lintBlock checks file c r.shared with ⟨o, s⟩
      -- The run after this candidate alone, and what it has counted.
      let r' : Run σ ρ := emitAll l o.issues { r.countBlock with shared := s }
      have hshared : r'.shared = s := emitAll_shared l _ _
      have hresults : r'.results = r.results.grown 1 o.issues := by
        rw [emitAll_results]
        unfold countBlock Results.grown
        simp only [Nat.add_zero]
      have htold : r'.told = o.issues.foldl (fun told i => l.issue i told) r.told :=
        emitAll_told l _ _
      have hall : outcomes checks file (c :: rest) r.shared = o :: outcomes checks file rest s := by
        simp only [outcomes, ho]
      simp only [hall, reached_cons]
      cases hf : o.fault with
      | some f =>
          -- The run stops here, with the issues that this candidate still gave.
          have hrun : lintBlocks l checks file (c :: rest) r = (r', some f) := by
            simp only [lintBlocks, countBlock, ho, hf]
            rfl
          simp only [hrun, Option.isSome_some, if_true, List.take_succ_cons, List.take_zero,
            List.flatMap_cons, List.flatMap_nil, List.append_nil]
          exact ⟨hresults, htold, by simp [stopped, hf]⟩
      | none =>
          rcases ih r' with ⟨ihr, iht, ihf⟩
          rw [hshared] at ihr iht ihf
          have hrun : lintBlocks l checks file (c :: rest) r = lintBlocks l checks file rest r' := by
            simp only [lintBlocks, countBlock, ho, hf]
            rfl
          simp only [hrun, Option.isSome_none, Bool.false_eq_true, if_false, List.take_succ_cons,
            List.flatMap_cons]
          refine ⟨?_, ?_, ?_⟩
          · rw [ihr, hresults, Results.grown_grown, Nat.add_comm]
          · rw [iht, htold, List.foldl_append]
          · rw [ihf]
            simp [stopped, hf]

/-- A document ends with its candidates, the issue that closes it, and what halts it. -/
theorem lintDocument_closing (l : Listener ρ) (checks : List (Check σ)) (d : Document)
    (r : Run σ ρ) :
    lintDocument l checks d r =
      (emitAll l (closing d.name
          (lintBlocks l checks d.name (History.candidates d.text) r.countDocument).2)
        (lintBlocks l checks d.name (History.candidates d.text) r.countDocument).1,
       halting (lintBlocks l checks d.name (History.candidates d.text) r.countDocument).2) := by
  unfold lintDocument
  rcases lintBlocks l checks d.name (History.candidates d.text) r.countDocument with ⟨r', fault⟩
  cases fault with
  | none => rfl
  | some f => cases f <;> rfl

/-- One document: its candidates up to the first that fails are counted, exactly their
    issues are recorded and told, in order, and one more issue closes the document if
    and only if data was not at hand. A failure of any other kind ends the run from the
    same point, without that issue. -/
theorem lintDocument_account (l : Listener ρ) (checks : List (Check σ)) (d : Document)
    (r : Run σ ρ) :
    let all := outcomes checks d.name (History.candidates d.text) r.shared
    let found := (all.take (reached all)).flatMap (·.issues) ++ closing d.name (stopped all)
    let after := (lintDocument l checks d r).1
    after.results.documents = r.results.documents + 1 ∧
      after.results.blocks = r.results.blocks + reached all ∧
      after.results.issues = r.results.issues ++ found ∧
      after.results.errors = r.results.errors + found.countP Issue.isError ∧
      after.results.warnings = r.results.warnings + found.countP (fun i => !i.isError) ∧
      after.told = found.foldl (fun told i => l.issue i told) r.told ∧
      (lintDocument l checks d r).2 = halting (stopped all) ∧
      (r.results.Balanced → after.results.Balanced ∧
        ((∀ i ∈ after.results.issues, i.severity = .error ∨ i.severity = .warning) →
          after.results.warnings
            = after.results.issues.countP fun i => i.severity == .warning)) ∧
      ∀ c s, Gives checks d.name c s (lintBlock checks d.name c s).1 := by
  intro all found after
  have hblocks := lintBlocks_account l checks d.name (History.candidates d.text) r.countDocument
  rcases hblocks with ⟨hresults, htold, hstop⟩
  -- All that is said of the counts is one equation between results.
  have hgrown : after.results = (r.countDocument).results.grown (reached all) found := by
    change (lintDocument l checks d r).1.results = _
    rw [lintDocument_closing, emitAll_results, hresults, hstop, Results.grown_grown]
    rfl
  have hheard : after.told = found.foldl (fun told i => l.issue i told) r.told := by
    change (lintDocument l checks d r).1.told = _
    rw [lintDocument_closing, emitAll_told, htold, hstop, List.foldl_append]
    rfl
  have hhalt : (lintDocument l checks d r).2 = halting (stopped all) := by
    rw [lintDocument_closing, hstop]
    rfl
  have hcounted (hr : r.results.Balanced) : r.countDocument.results.Balanced :=
    ⟨hr.errors, hr.warnings⟩
  refine ⟨?_, ?_, ?_, ?_, ?_, hheard, hhalt, ?_, lintBlock_gives checks d.name⟩
  · rw [hgrown]; rfl
  · rw [hgrown]; rfl
  · rw [hgrown]; rfl
  · rw [hgrown]; rfl
  · rw [hgrown]; rfl
  · intro hr
    have hbalanced : after.results.Balanced := by
      rw [hgrown]
      exact (hcounted hr).grown _ _
    exact ⟨hbalanced, hbalanced.warnings_eq⟩

end Run

end Annals
