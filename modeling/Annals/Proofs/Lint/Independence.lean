import Annals.Lint.Wording
import Annals.Proofs.Lint.Chain

/-!
# Documents are Independent

What a run says of a document does not depend on the documents around it.

The documents of a run share the index of releases, which the first one that needs
it makes and all others find. For an outcome that is remembered this makes no
difference, since by `lintDocuments_forms` a run adds up what its documents are
worth, and each of them is worth the same in any run. So a run falls into the runs
over its parts, its documents can change places, and it can be made again with the
memo that it left behind.

## Main definitions

* `Run.afresh`: A run over documents with nothing remembered.

## Theorems

* `afresh_outcome`: A run from the beginning, by the shares of its documents.
* `afresh_append`: A run falls into runs over its parts, in any order, and can be made
  again.
-/

namespace Annals

namespace Run

variable {ρ : Type} {outcome : Except String ReleaseIndex}

/-- A run over documents from the beginning, with nothing remembered of the index. -/
def afresh (l : Listener ρ) (forms : List Check.Form) (loader : Loader) (told : ρ)
    (ds : List Document) : Run Memo ρ × Option Halt :=
  lintDocuments l (forms.map (·.on loader)) ds (start Memo.start told)

theorem afresh_outcome {loader : Loader} (h : loader.Yields outcome) (l : Listener ρ)
    (forms : List Check.Form) (told : ρ) (ds : List Document) :
    (afresh l forms loader told ds).2 = ds.findSome? (haltOf outcome forms) ∧
      (afresh l forms loader told ds).1.shared.Owes loader outcome ∧
      ((afresh l forms loader told ds).2 = none →
        (afresh l forms loader told ds).1.results
          = Results.total (ds.map (share outcome forms))) := by
  have howes : (start Memo.start told).shared.Owes loader outcome := Memo.start_owes h
  rcases lintDocuments_forms l forms ds howes with ⟨hhalt, hafter, hresults⟩
  refine ⟨hhalt, hafter, fun hnone => ?_⟩
  rw [afresh, hresults hnone]
  exact Results.empty_plus _

/-- The issues of a run are those of its documents, each in a run of its own. -/
theorem afresh_issues {loader : Loader} (h : loader.Yields outcome) (l : Listener ρ)
    (forms : List Check.Form) (told : ρ) (ds : List Document)
    (hreturns : (afresh l forms loader told ds).2 = none) :
    (afresh l forms loader told ds).1.results.issues
      = ds.flatMap fun d => (afresh l forms loader told [d]).1.results.issues := by
  rcases afresh_outcome h l forms told ds with ⟨hhalt, _, hresults⟩
  rw [hresults hreturns, Results.total_issues, List.flatMap_map]
  rw [hhalt, List.findSome?_eq_none_iff] at hreturns
  rw [List.flatMap_def, List.flatMap_def]
  refine congrArg List.flatten (List.map_congr_left (fun d hd => ?_))
  rcases afresh_outcome h l forms told [d] with ⟨hhalt', _, hresults'⟩
  -- No document ends the run of all, so none ends its own.
  have hown : (afresh l forms loader told [d]).2 = none := by
    rw [hhalt', List.findSome?_cons, hreturns d hd]
    rfl
  rw [hresults' hown, Results.total_issues]
  simp

/-- Documents are independent of each other. A run over two lists of documents returns if
    the runs over each of them do, which may have an index of their own with the same
    outcome, and its results are those of the two together. The documents can change
    places: each takes its issues with it, and the counts stay. And the run can be made
    again with all that it remembers, to the same results. -/
theorem afresh_append (l : Listener ρ) (forms : List Check.Form) (told : ρ)
    {loader loader₁ loader₂ : Loader} (h : loader.Yields outcome) (h₁ : loader₁.Yields outcome)
    (h₂ : loader₂.Yields outcome) (ds₁ ds₂ : List Document)
    (hreturns₁ : (afresh l forms loader₁ told ds₁).2 = none)
    (hreturns₂ : (afresh l forms loader₂ told ds₂).2 = none) :
    let whole := afresh l forms loader told (ds₁ ++ ds₂)
    let again := lintDocuments l (forms.map (·.on loader)) (ds₁ ++ ds₂)
      (start whole.1.shared told)
    whole.2 = none ∧
      whole.1.results = (afresh l forms loader₁ told ds₁).1.results.plus
        (afresh l forms loader₂ told ds₂).1.results ∧
      (∀ ds, ds.Perm (ds₁ ++ ds₂) →
        let other := afresh l forms loader told ds
        other.2 = none ∧
          other.1.results.issues
            = ds.flatMap (fun d => (afresh l forms loader told [d]).1.results.issues) ∧
          other.1.results.documents = whole.1.results.documents ∧
          other.1.results.blocks = whole.1.results.blocks ∧
          other.1.results.errors = whole.1.results.errors ∧
          other.1.results.warnings = whole.1.results.warnings) ∧
      again.2 = none ∧ again.1.results = whole.1.results := by
  intro whole again
  rcases afresh_outcome h₁ l forms told ds₁ with ⟨hhalt₁, _, hresults₁⟩
  rcases afresh_outcome h₂ l forms told ds₂ with ⟨hhalt₂, _, hresults₂⟩
  rcases afresh_outcome h l forms told (ds₁ ++ ds₂) with ⟨hhalt, howes, hresults⟩
  -- Whether a document ends a run depends on nothing but the outcome.
  have hpasses : ∀ d ∈ ds₁ ++ ds₂, haltOf outcome forms d = none := by
    intro d hd
    rcases List.mem_append.mp hd with hd | hd
    · exact List.findSome?_eq_none_iff.mp (hhalt₁.symm.trans hreturns₁) d hd
    · exact List.findSome?_eq_none_iff.mp (hhalt₂.symm.trans hreturns₂) d hd
  have hreturns : whole.2 = none := hhalt.trans (List.findSome?_eq_none_iff.mpr hpasses)
  refine ⟨hreturns, ?_, fun ds hperm => ?_, ?_⟩
  · rw [hresults hreturns, hresults₁ hreturns₁, hresults₂ hreturns₂, List.map_append,
      Results.total_append]
  · rcases afresh_outcome h l forms told ds with ⟨hhalt', _, hresults'⟩
    have hreturns' : (afresh l forms loader told ds).2 = none := by
      rw [hhalt', List.findSome?_eq_none_iff]
      exact fun d hd => hpasses d (hperm.mem_iff.mp hd)
    have hcounts := Results.total_perm (hperm.map (share outcome forms))
    rw [← hresults' hreturns', ← hresults hreturns] at hcounts
    exact ⟨hreturns', afresh_issues h l forms told ds hreturns', hcounts⟩
  · -- The memo that the run leaves behind owes the outcome like a new one.
    rcases lintDocuments_forms l forms (ds₁ ++ ds₂) (r := start whole.1.shared told) howes
      with ⟨hhalt', _, hresults'⟩
    have hreturns' : again.2 = none := hhalt'.trans (hhalt.symm.trans hreturns)
    refine ⟨hreturns', ?_⟩
    rw [hresults' hreturns', hresults hreturns]
    exact Results.empty_plus _

/-- A failure that is met by the first of two documents is met by the other one too, though
    the loader would come to an index if it were asked again. -/
theorem afresh_append_failing :
    let d := Document.ofText
      "<!--\n```yaml history\nadded:\n  - pr-url: /1\n```\n-->\n" Document.defaultName
    let forms : List Check.Form :=
      [.plain "check_strings" fun e => .ok (Wording.stringIssues e), .pullRequests]
    let once : Loader := fun asked =>
      if asked = 0 then ⟨.error (.reference "offline"), [⟨"", none, "", 0⟩]⟩ else ⟨.ok [], []⟩
    let run := fun loader => afresh (Listener.silent : Listener Unit) forms loader ()
    once.Yields (.error "offline") ∧ (Loader.failing "offline").Yields (.error "offline") ∧
      (run (.failing "offline") [d]).2 = none ∧
      (run once [d, d]).1.results
        = (run (.failing "offline") [d]).1.results.plus (run (.failing "offline") [d]).1.results ∧
      (run once [d, d]).1.results.issues.map (·.code)
        = [.unsafeString, .documentFailure, .unsafeString, .documentFailure] := by
  intro d forms once run
  -- The loader fails the first time, and what it would give later is never asked for.
  have honce : once.Yields (.error "offline") := rfl
  have hfailing : (Loader.failing "offline").Yields (.error "offline") := rfl
  have hreturns : (run (.failing "offline") [d]).2 = none := by decide +kernel
  have happend := afresh_append Listener.silent forms () honce hfailing hfailing [d] [d] hreturns
    hreturns
  exact ⟨honce, hfailing, hreturns, happend.2.1, by decide +kernel⟩

end Run

end Annals
