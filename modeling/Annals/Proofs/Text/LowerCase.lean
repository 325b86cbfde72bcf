import Mathlib.Data.List.Basic
import Annals.Proofs.Text.Words

/-!
# Lower Case Is Lower Case Already

A text that is put in lower case twice is as it was after the first time. The two rules that
look further than a letter give no trouble. The dotted capital I becomes two letters, and
both of them stay. A capital sigma takes one of two forms, depending on where its word ends;
but both forms are small, so there is no sigma left for which the end of its word matters.

All other letters move along the runs of a table. In such a table letters could move on: what
one run leads to could be in another run. That it never is is read off the runs by their ends,
or by their steps where they lie in each other.

## Main definitions

* `CaseRun.misses`: A run leads to no letter of another one.
* `Text.IsLow`: A letter that stays when it is put in lower case.

## Theorems

* `isLow_of_mem_lower`: The letters of a text in lower case stay.
* `lower_of_isLow`, `lower_lower`: A text in lower case.
-/

namespace Annals

/-- Whether a run leads to no letter of another one: it leads to one side of it, or into
    its gaps. -/
def CaseRun.misses (run other : CaseRun) : Bool :=
  -- The runs are compared in pairs, and all of these are evaluated.
  let first := (run.low + run.shift).toNat
  let last := (run.high + run.shift).toNat
  Nat.blt last other.low || Nat.blt other.high first ||
    ((run.low == run.high || run.step == 2) && other.step == 2 && (first + other.low) % 2 == 1)

namespace Text

/-- A letter that stays when it is put in lower case, wherever it stands. -/
structure IsLow (c : Char) : Prop where
  sigma : isSigma c = false
  own : lowerChar c = [c]

/-- What a letter moves to does not move on. -/
theorem image?_image {n m : Nat} (h : CaseRun.image? lowerRuns n = some m) :
    m ≠ 304 ∧ CaseRun.image? lowerRuns m = none := by
  have hmisses : (lowerRuns.all fun run => lowerRuns.all run.misses) = true := by decide +kernel
  have hdot : ∀ run ∈ lowerRuns, run.misses ⟨304, 304, 2, 0⟩ = true := by decide +kernel
  have hpositive : ∀ run ∈ lowerRuns, 0 < run.low + run.shift := by decide +kernel
  rcases image?_range h with ⟨run, hrun, hlow, hhigh, hstep, rfl⟩
  -- Inside of the run and of another one, the steps would have to fit.
  have hout (other : CaseRun) (hother : run.misses other = true)
      (hin : other.low ≤ (n + run.shift).toNat) (hend : (n + run.shift).toNat ≤ other.high) :
      ((n + run.shift).toNat - other.low) % other.step ≠ 0 := by
    have hpos := hpositive run hrun
    simp only [CaseRun.misses, Bool.or_eq_true, Bool.and_eq_true, Nat.blt_eq, beq_iff_eq] at hother
    rcases hother with (hside | hside) | ⟨⟨hown, hgap⟩, hodd⟩
    · omega
    · omega
    · rw [hgap]
      rcases hown with hone | htwo
      · omega
      · rw [htwo] at hstep
        omega
  constructor
  · intro heq
    refine hout ⟨304, 304, 2, 0⟩ (hdot run hrun) heq.ge heq.le ?_
    rw [heq]
    rfl
  · cases himage : CaseRun.image? lowerRuns (n + run.shift).toNat with
    | none => rfl
    | some next =>
        rcases image?_range himage with ⟨other, hother, hin, hend, hfits, _⟩
        have hapart := List.all_eq_true.mp (List.all_eq_true.mp hmisses run hrun) other hother
        exact absurd hfits (hout other hapart hin hend)

/-- A letter that no run moves stays, the dotted capital I aside. -/
theorem isLow_of_image? {c : Char} (hdot : c.toNat ≠ 304)
    (h : CaseRun.image? lowerRuns c.toNat = none) : IsLow c where
  sigma := by
    have hsigma : CaseRun.image? lowerRuns 931 ≠ none := by decide +kernel
    exact beq_eq_false_iff_ne.mpr fun heq => hsigma (heq ▸ h)
  own := by
    unfold lowerChar
    rw [if_neg (by simpa using hdot), h]
    rfl

theorem isLow_of_mem_lowerChar {c d : Char} (h : d ∈ lowerChar c) : IsLow d := by
  unfold lowerChar at h
  split at h
  · have hparts : IsLow (Char.ofNat 105) ∧ IsLow (Char.ofNat 775) :=
      ⟨isLow_of_image? (by decide) (by decide +kernel),
        isLow_of_image? (by decide) (by decide +kernel)⟩
    simp only [List.mem_cons, List.not_mem_nil, or_false] at h
    rcases h with rfl | rfl
    · exact hparts.1
    · exact hparts.2
  · next hdot =>
      rw [List.mem_singleton] at h
      cases himage : CaseRun.image? lowerRuns c.toNat with
      | none =>
          rw [himage] at h
          subst h
          exact isLow_of_image? (by simpa using hdot) himage
      | some m =>
          rw [himage, Option.map_some, Option.getD_some] at h
          subst h
          -- The letter has the code that the run leads to, or there is no letter with this code.
          rcases toNat_ofNat m with hcode | hcode
          · have himages := image?_image himage
            rw [← hcode] at himages
            exact isLow_of_image? himages.1 himages.2
          · exact isLow_of_image? (by rw [hcode]; decide) (by rw [hcode]; rfl)

/-- The letters of a text in lower case stay when they are put in lower case. -/
theorem isLow_of_mem_lowerFrom {d : Char} (before cs : List Char) (h : d ∈ lowerFrom before cs) :
    IsLow d := by
  induction cs generalizing before with
  | nil => cases h
  | cons c rest ih =>
      rw [lowerFrom] at h
      rcases List.mem_append.mp h with h | h
      · split at h
        · rw [List.mem_singleton] at h
          subst h
          split
          · exact isLow_of_image? (by decide) (by decide +kernel)
          · exact isLow_of_image? (by decide) (by decide +kernel)
        · exact isLow_of_mem_lowerChar h
      · exact ih _ h

theorem isLow_of_mem_lower {d : Char} {cs : List Char} (h : d ∈ lower cs) : IsLow d :=
  isLow_of_mem_lowerFrom [] cs h

/-- A text of letters that stay is in lower case. -/
theorem lower_of_isLow {cs : List Char} (h : ∀ c ∈ cs, IsLow c) : lower cs = cs := by
  have hparts := lowerFrom_append (fun c hc => (h c hc).sigma) [] []
  rw [List.append_nil] at hparts
  rw [lower, hparts, lowerFrom, List.append_nil]
  have hown : cs.flatMap lowerChar = cs.flatMap ([·]) := List.flatMap_congr fun c hc => (h c hc).own
  rw [hown, List.flatMap_singleton']

/-- A text in lower case is in lower case. -/
theorem lower_lower (cs : List Char) : lower (lower cs) = lower cs :=
  lower_of_isLow fun _ => isLow_of_mem_lower

/-- The last sigma of a word is final, and stays so if the word goes on. -/
example : lowered "ΟΔΟΣ" = "οδος" ∧ lowered "İΣA" = "i̇σa" := by decide +kernel

end Text

end Annals
