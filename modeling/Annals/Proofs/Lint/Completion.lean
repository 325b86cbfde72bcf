import Annals.Options.Context
import Annals.Proofs.Html.Readable
import Annals.Proofs.Lint.Account
import Annals.Proofs.Yaml.Defects

/-!
# The Completion of a Run

When a run with the checks that are made by default goes through all documents.

Neither of these checks can fail, so all depends on the texts of the candidates.
Most of what can be wrong with one is an issue. Two things are not, and end the
run with all that was still before it: a text that cannot be read as HTML at
all, and a value that is refused apart from the form of the text, such as a day
that does not exist. `History.breakage` says of a candidate which of them it
is, and the run as a whole halts for the first one in the order of the
documents, and completes exactly if there is none. `Fragile` says what there has
to be in a candidate for that: the mark of a marked section or a number with too
many digits, or a node of its history with a defect.

The checks do not look at the state they share, so what a candidate is worth
depends on the candidate alone. That makes a list of documents one list of
candidates, and it is this list by which `lintDocuments_default` counts.

## Main definitions

* `Run.defaultChecks`: The checks that are made by default.
* `History.breakage`: Why a candidate ends a run, if it does.
* `History.Fragile`: What there is in a candidate that ends a run.
* `Run.defaultIssues`: The issues of a candidate.
* `Run.places`: The candidates of documents, with the names of these.
* `Run.entered`: How many documents a run gets to.

## Theorems

* `fragile_of_breakage`: A candidate that ends a run has what it takes.
* `checks_of_default`: Which checks the options ask for by default.
* `lintBlock_default`: What a candidate is worth.
* `lintDocument_default`: One document.
* `lintDocuments_default`: Several documents.
-/

namespace Annals

namespace History

/-- Why a candidate ends a run, if it does: it cannot be read as HTML, or a value in it
    is refused apart from the form of the text. -/
def breakage (c : Candidate) : Option Halt :=
  match block c with
  | .error (.html f) => some (.html f)
  | .error (.format _) => none
  | .ok b =>
    match Yaml.decode true b.yaml with
    | .error (.defect d) => some (.decoding d)
    | _ => none

/-- What there is in a candidate that ends a run: a text that cannot be read as HTML for
    one of two reasons, or a history that ends with a defect, which a node of it has. -/
inductive Fragile (c : Candidate) : Prop where
  | html : ¬ Html.Readable c.raw.toList → Fragile c
  | decoding {b : Block} {d : Yaml.Defect} :
      block c = .ok b → Yaml.decode true b.yaml = .error (.defect d) →
      (∀ root g, Yaml.compose b.yaml.toList = .ok (some (root, g)) → g.PlainKeys →
        ∃ id, Yaml.Defective g id d) →
      Fragile c

theorem fragile_of_breakage {c : Candidate} (h : breakage c ≠ none) : Fragile c := by
  unfold breakage at h
  cases hb : block c with
  | error f =>
      cases f with
      | format f => rw [hb] at h; exact absurd rfl h
      | html f =>
          refine Fragile.html (fun hreadable => ?_)
          rcases Html.parseFragment_readable hreadable with ⟨nodes, hnodes⟩
          unfold block at hb
          rw [hnodes] at hb
          -- A text that was read can only have another form than that of a block.
          simp only [] at hb
          cases ho : (onlyComment nodes).bind (ofComment c) with
          | error f' => rw [ho] at hb; cases hb
          | ok b => rw [ho] at hb; cases hb
  | ok b =>
      rw [hb] at h
      cases hd : Yaml.decode true b.yaml with
      | ok history => simp [hd] at h
      | error f =>
          cases f with
          | defect d =>
              exact Fragile.decoding hb hd (fun root g hg hplain =>
                Yaml.decode_defect hg hplain hd)
          | character position code => simp [hd] at h
          | problem p => simp [hd] at h

end History

namespace Run

variable {σ ρ : Type}

/-- The checks that are made by default. -/
def defaultChecks : List (Check σ) := [Check.strings, Check.placement]

/-- The options ask for these checks if nothing is chosen. -/
theorem checks_of_default {fs : FileSystem} {e : Environment} {remote : Remote}
    {given : Option Loader} {c : Context}
    (h : Options.default.prepare fs e remote given = .ok c) : c.checks = defaultChecks := by
  unfold Options.prepare at h
  simp only [Options.default, Options.loaded, Options.chooseLoader, bind, Except.bind] at h
  split at h
  · cases h
  · split at h
    · cases h
    · cases h
      rfl

/-- The issues of a candidate by the checks that are made by default. -/
def defaultIssues (file : String) (c : History.Candidate) : List Issue :=
  match History.block c with
  | .error (.format f) => [formatError file c f]
  | .error (.html _) => []
  | .ok b =>
    match Yaml.decode true b.yaml with
    | .ok history =>
      Wording.stringIssues ⟨file, b, history⟩ ++ Structure.placementIssues ⟨file, b, history⟩
    | .error f =>
      match f.named? b.yaml.toList.toArray with
      | some (message, line) => [parseError file b message line]
      | none => []

/-- What a candidate is worth by the checks that are made by default. -/
def defaultOutcome (file : String) (c : History.Candidate) : BlockOutcome :=
  ⟨defaultIssues file c, (History.breakage c).map .halt⟩

/-- The candidates of documents in order, each with the name of its document. -/
def places (ds : List Document) : List (String × History.Candidate) :=
  ds.flatMap fun d => (History.candidates d.text).map fun c => (d.name, c)

/-- Why a document ends a run, if it does: the first of its candidates that does. -/
def documentBreakage (d : Document) : Option Halt :=
  (History.candidates d.text).findSome? History.breakage

/-- How many documents a run gets to: all up to the first that ends it, and with it. -/
def entered (ds : List Document) : Nat := upTo (fun d => (documentBreakage d).isSome) ds

/-- What a candidate is worth does not depend on the state and leaves it alone. -/
theorem lintBlock_default (file : String) (c : History.Candidate) (s : σ) :
    lintBlock defaultChecks file c s = (defaultOutcome file c, s) := by
  unfold lintBlock defaultOutcome defaultIssues History.breakage
  cases hb : History.block c with
  | error f => cases f <;> rfl
  | ok b =>
      simp only [lintHistory]
      cases hd : Yaml.decode true b.yaml with
      | ok history =>
          simp [runChecks, defaultChecks, Check.strings, Check.placement, Check.pure]
      | error f => cases f <;> rfl

theorem outcomes_default (file : String) (cs : List History.Candidate) (s : σ) :
    outcomes defaultChecks file cs s = cs.map (defaultOutcome file) := by
  induction cs generalizing s with
  | nil => rfl
  | cons c rest ih =>
      rw [outcomes, lintBlock_default, ih]
      rfl

/-- A candidate that does not end a run is a block with a decoded history, or it is one
    issue. -/
theorem block_or_issue (file : String) (c : History.Candidate)
    (h : History.breakage c = none) :
    (∃ b history, History.block c = .ok b ∧ Yaml.decode true b.yaml = .ok history) ∨
      ∃ i, defaultIssues file c = [i] := by
  unfold History.breakage at h
  unfold defaultIssues
  cases hb : History.block c with
  | error f =>
      cases f with
      | format f => exact Or.inr ⟨_, rfl⟩
      | html f => rw [hb] at h; cases h
  | ok b =>
      rw [hb] at h
      cases hd : Yaml.decode true b.yaml with
      | ok history => exact Or.inl ⟨b, history, rfl, hd⟩
      | error f =>
          cases f with
          -- The reader of YAML breaks here, and so the run ends.
          | defect d =>
              simp only [hd] at h
              cases h
          | character position code => exact Or.inr ⟨_, by simp only [hd]; rfl⟩
          | problem p => exact Or.inr ⟨_, by simp only [hd]; rfl⟩

/-- Results after candidates, up to the first that ends a run. -/
def through (r : Results) (all : List BlockOutcome) : Results :=
  r.grown (reached all) ((all.take (reached all)).flatMap (·.issues))

theorem through_stopped {own : List BlockOutcome} (h : (stopped own).isSome) (r : Results)
    (others : List BlockOutcome) : through r (own ++ others) = through r own := by
  unfold through
  rw [reached_append, if_pos h, List.take_append_of_le_length (reached_le own)]

theorem through_append {own : List BlockOutcome} (h : stopped own = none) (r : Results)
    (others : List BlockOutcome) : through r (own ++ others) = through (through r own) others := by
  have hfull := reached_of_not_stopped h
  have hown : own.take (reached own) = own := List.take_of_length_le (by omega)
  have hboth : (own ++ others).take (own.length + reached others)
      = own ++ others.take (reached others) := by
    rw [List.take_append, Nat.add_sub_cancel_left, List.take_of_length_le (by omega)]
  unfold through
  rw [Results.grown_grown, reached_append, h, hown, hfull]
  simp only [Option.isSome_none, Bool.false_eq_true, if_false, hboth, List.flatMap_append]

theorem stopped_default (ps : List (String × History.Candidate)) :
    stopped (ps.map fun p => defaultOutcome p.1 p.2)
      = (ps.findSome? fun p => History.breakage p.2).map .halt := by
  induction ps with
  | nil => rfl
  | cons p rest ih =>
      rw [List.map_cons, List.findSome?_cons]
      cases hp : History.breakage p.2 with
      | some h => simp [stopped, defaultOutcome, hp]
      | none =>
          rw [← ih]
          simp [stopped, defaultOutcome, hp]

/-- The candidates of one document stop where the first of them breaks. -/
theorem stopped_document (d : Document) :
    stopped ((History.candidates d.text).map (defaultOutcome d.name))
      = (documentBreakage d).map .halt := by
  have h := stopped_default ((History.candidates d.text).map fun c => (d.name, c))
  rw [List.map_map, List.findSome?_map] at h
  exact h

/-- One document, with the checks that are made by default. -/
theorem lintDocument_default (l : Listener ρ) (d : Document) (r : Run σ ρ) :
    let all := (History.candidates d.text).map (defaultOutcome d.name)
    (lintDocument l defaultChecks d r).1.results
        = { through r.results all with documents := r.results.documents + 1 } ∧
      (lintDocument l defaultChecks d r).2 = documentBreakage d := by
  intro all
  have hblocks := lintBlocks_account l defaultChecks d.name (History.candidates d.text)
    r.countDocument
  rw [outcomes_default] at hblocks
  rcases hblocks with ⟨hresults, _, hstop⟩
  have hhalt := stopped_document d
  rw [lintDocument_closing, emitAll_results, hresults, hstop, hhalt]
  -- A break is no want of data, so no issue closes the document.
  cases documentBreakage d with
  | none =>
      refine ⟨?_, rfl⟩
      simp only [Option.map_none, closing, Results.grown_grown, List.append_nil]
      rfl
  | some h =>
      refine ⟨?_, rfl⟩
      simp only [Option.map_some, closing, Results.grown_grown, List.append_nil]
      rfl

/-- What there is in no candidate of documents is in none of the first document and in none
    of the rest. -/
theorem findSome?_places (d : Document) (rest : List Document) :
    (places (d :: rest)).findSome? (fun p => History.breakage p.2)
      = (documentBreakage d).or ((places rest).findSome? fun p => History.breakage p.2) := by
  unfold places documentBreakage
  rw [List.flatMap_cons, List.findSome?_append, List.findSome?_map]
  rfl

theorem map_places (d : Document) (rest : List Document) :
    (places (d :: rest)).map (fun p => defaultOutcome p.1 p.2)
      = (History.candidates d.text).map (defaultOutcome d.name)
        ++ (places rest).map fun p => defaultOutcome p.1 p.2 := by
  unfold places
  rw [List.flatMap_cons, List.map_append, List.map_map]
  rfl

theorem entered_of_not_broken {ds : List Document}
    (h : (places ds).findSome? (fun p => History.breakage p.2) = none) :
    entered ds = ds.length := by
  induction ds with
  | nil => rfl
  | cons d rest ih =>
      rw [findSome?_places, Option.or_eq_none_iff] at h
      unfold entered at ih ⊢
      rw [upTo_cons, h.1, ih h.2]
      rfl

/-- The results of a run over documents, and what halts it. The induction is on the
    documents; what is to come after one of them is as it would be in a run of its own. -/
theorem lintDocuments_results (l : Listener ρ) (ds : List Document) (r : Run σ ρ) :
    let all := (places ds).map fun p => defaultOutcome p.1 p.2
    (lintDocuments l defaultChecks ds r).2
        = (places ds).findSome? (fun p => History.breakage p.2) ∧
      (lintDocuments l defaultChecks ds r).1.results
        = { through r.results all with documents := r.results.documents + entered ds } := by
  induction ds generalizing r with
  | nil => exact ⟨rfl, (Results.grown_nil r.results).symm⟩
  | cons d rest ih =>
      intro all
      let own := (History.candidates d.text).map (defaultOutcome d.name)
      let others := (places rest).map fun p => defaultOutcome p.1 p.2
      rcases lintDocument_default l d r with ⟨hresults, hhalt⟩
      have hall : all = own ++ others := map_places d rest
      have hstopped : stopped own = (documentBreakage d).map .halt := stopped_document d
      have hentered : entered (d :: rest)
          = if (documentBreakage d).isSome then 1 else entered rest + 1 := upTo_cons _ d rest
      rcases hrun : lintDocument l defaultChecks d r with ⟨r', halted⟩
      simp only [hrun] at hresults hhalt
      rw [findSome?_places, hall, hentered, ← hhalt]
      rw [← hhalt] at hstopped
      cases halted with
      | some h =>
          -- The documents behind this one are not looked at.
          have hstop : lintDocuments l defaultChecks (d :: rest) r = (r', some h) := by
            simp only [lintDocuments, hrun]
          have hends : (stopped own).isSome := by
            rw [hstopped]
            rfl
          rw [hstop, through_stopped hends]
          exact ⟨rfl, hresults⟩
      | none =>
          have hgo : lintDocuments l defaultChecks (d :: rest) r
              = lintDocuments l defaultChecks rest r' := by
            simp only [lintDocuments, hrun]
          rcases ih r' with ⟨ihhalt, ihresults⟩
          rw [hgo, through_append hstopped]
          refine ⟨ihhalt, ?_⟩
          rw [ihresults, hresults]
          simp only [through, Results.grown, Nat.add_assoc, Nat.add_comm 1]
          rfl

end Run

end Annals
