import Annals.Text.Blank
import Annals.Text.Line

/-!
# Writing Lines and Reading Them

What is written line by line falls into the same lines again, as long as no line has
a line end in it; and how a part of a text is found in it.

Three readings of lines are used. The one of a document joins all kinds of line ends
first, which does nothing to a text that has only line feeds. What it leaves is cut
at the line feeds, and the last piece is empty if the last line was ended. The lines of
a text in general end at more marks than these, and a last one that is empty is none.

## Main definitions

* `Text.unlines`: Lines, each with a line feed after it.

## Theorems

* `splitOn_intercalate`: Pieces that are joined by a mark.
* `splitOn_unlines`: The pieces of written lines.
* `lines_unlines`: The lines of written lines.
* `isLineMark_of_mem_lines`, `mem_of_mem_lines_joinWith`: The lines of any text, and of lines
  that are joined.
* `joinLineEnds_eq`: Joining line ends leaves a text with line feeds alone as it is.
* `contains_iff`: A part occurs in a text.
-/

namespace Annals

namespace Text

/-- Lines, each with a line feed after it. -/
def unlines (ls : List (List Char)) : List Char := ls.flatMap (· ++ ['\n'])

@[simp] theorem unlines_nil : unlines [] = [] := rfl

@[simp] theorem unlines_cons (l : List Char) (ls : List (List Char)) :
    unlines (l :: ls) = l ++ '\n' :: unlines ls := by
  simp only [unlines, List.flatMap_cons, List.append_assoc, List.singleton_append]

theorem unlines_append (ls more : List (List Char)) :
    unlines (ls ++ more) = unlines ls ++ unlines more := by
  unfold unlines
  rw [List.flatMap_append]

theorem mem_unlines {c : Char} {ls : List (List Char)} :
    c ∈ unlines ls ↔ ∃ l ∈ ls, c ∈ l ∨ c = '\n' := by
  simp only [unlines, List.mem_flatMap, List.mem_append, List.mem_singleton]

theorem splitOnFrom_append {mark : Char} {l : List Char} (h : mark ∉ l)
    (piece rest : List Char) :
    splitOnFrom mark piece (l ++ mark :: rest)
      = (piece.reverse ++ l) :: splitOnFrom mark [] rest := by
  induction l generalizing piece with
  | nil =>
      rw [List.nil_append, splitOnFrom]
      simp
  | cons c l ih =>
      have hc : (c == mark) = false := beq_eq_false_iff_ne.mpr (fun hc => h (by simp [hc]))
      rw [List.cons_append, splitOnFrom, hc]
      rw [if_neg Bool.false_ne_true, ih (fun hmem => h (List.mem_cons_of_mem _ hmem))]
      simp

/-- A text without the mark is one piece. -/
theorem splitOnFrom_of_not_mem {mark : Char} {l : List Char} (h : mark ∉ l) (piece : List Char) :
    splitOnFrom mark piece l = [piece.reverse ++ l] := by
  induction l generalizing piece with
  | nil => rw [splitOnFrom, List.append_nil]
  | cons c rest ih =>
      have hc : (c == mark) = false := beq_eq_false_iff_ne.mpr (fun hc => h (by simp [hc]))
      rw [splitOnFrom, hc, if_neg Bool.false_ne_true,
        ih (fun hmem => h (List.mem_cons_of_mem _ hmem))]
      simp

theorem splitOnFrom_ne_nil (mark : Char) (piece cs : List Char) :
    splitOnFrom mark piece cs ≠ [] := by
  induction cs generalizing piece with
  | nil => simp [splitOnFrom]
  | cons c rest ih =>
      rw [splitOnFrom]
      split
      · exact List.cons_ne_nil _ _
      · exact ih _

/-- Only a text without characters is a single empty piece. -/
theorem splitOn_eq_singleton {mark : Char} {cs : List Char} (h : splitOn mark cs = [[]]) :
    cs = [] := by
  have hpiece (piece cs : List Char) (h : splitOnFrom mark piece cs = [[]]) :
      piece = [] ∧ cs = [] := by
    induction cs generalizing piece with
    | nil => simpa [splitOnFrom] using h
    | cons c rest ih =>
        rw [splitOnFrom] at h
        split at h
        · exact absurd (List.cons.inj h).2 (splitOnFrom_ne_nil _ _ _)
        · exact absurd (ih _ h).1 (List.cons_ne_nil _ _)
  exact (hpiece [] cs h).2

/-- Every piece stands in the text. -/
theorem infix_of_mem_splitOnFrom {mark : Char} {piece cs l : List Char}
    (h : l ∈ splitOnFrom mark piece cs) : l <:+: piece.reverse ++ cs := by
  induction cs generalizing piece with
  | nil =>
      rw [splitOnFrom] at h
      rw [List.mem_singleton.mp h]
      exact (List.prefix_append _ _).isInfix
  | cons c rest ih =>
      rw [splitOnFrom] at h
      split at h
      · rcases List.mem_cons.mp h with rfl | h
        · exact (List.prefix_append _ _).isInfix
        · exact (ih h).trans
            ((List.suffix_cons _ _).trans (List.suffix_append _ _)).isInfix
      · -- The character is put to the piece, which is given backwards.
        have hrest := ih h
        rw [List.reverse_cons, List.append_assoc] at hrest
        exact hrest

/-- Pieces that are joined by a mark are found again. -/
theorem splitOn_intercalate {mark : Char} {pieces : List (List Char)}
    (h : ∀ piece ∈ pieces, mark ∉ piece) (hsome : pieces ≠ []) :
    splitOn mark ([mark].intercalate pieces) = pieces := by
  induction pieces with
  | nil => exact absurd rfl hsome
  | cons piece rest ih =>
      have hpiece := h piece (List.mem_cons_self ..)
      -- A mark stands between two pieces, so a single one is a case of its own.
      cases rest with
      | nil =>
          rw [List.intercalate_singleton]
          exact splitOnFrom_of_not_mem hpiece []
      | cons next others =>
          have hrest := ih (fun x hx => h x (List.mem_cons_of_mem _ hx)) (List.cons_ne_nil _ _)
          unfold splitOn at hrest ⊢
          rw [List.intercalate_cons_cons, List.append_assoc, List.singleton_append,
            splitOnFrom_append hpiece, hrest]
          rfl

/-- Written lines fall into the same lines, and nothing after the last. -/
theorem splitOn_unlines {ls : List (List Char)} (h : ∀ l ∈ ls, '\n' ∉ l) :
    splitOn '\n' (unlines ls) = ls ++ [[]] := by
  induction ls with
  | nil => rfl
  | cons l rest ih =>
      have hl := h l (List.mem_cons_self ..)
      have hrest := ih (fun x hx => h x (List.mem_cons_of_mem _ hx))
      unfold splitOn at hrest ⊢
      rw [unlines_cons, splitOnFrom_append hl, hrest]
      rfl

theorem linesFrom_append {l : List Char} (h : ∀ c ∈ l, isLineMark c = false)
    (line rest : List Char) :
    linesFrom line (l ++ '\n' :: rest) = (line.reverse ++ l) :: linesFrom [] rest := by
  induction l generalizing line with
  | nil =>
      rw [List.nil_append, linesFrom]
      · simp [isLineMark]
      · intro _ heq _
        cases heq
  | cons c l ih =>
      have hc := h c (List.mem_cons_self ..)
      rw [List.cons_append, linesFrom, hc]
      · simp [ih (fun x hx => h x (List.mem_cons_of_mem _ hx))]
      · rintro _ rfl _
        cases hc

/-- Written lines are the lines of the text, if no line has a mark of any kind in it. -/
theorem lines_unlines {ls : List (List Char)} (h : ∀ l ∈ ls, ∀ c ∈ l, isLineMark c = false) :
    lines (unlines ls) = ls := by
  induction ls with
  | nil => rfl
  | cons l rest ih =>
      have hrest := ih (fun x hx => h x (List.mem_cons_of_mem _ hx))
      unfold lines at hrest ⊢
      rw [unlines_cons, linesFrom_append (h l (List.mem_cons_self ..)), hrest]
      rfl

/-- The lines of a text behind the start of a line, which is given backwards. -/
theorem isLineMark_of_mem_linesFrom {line cs l : List Char} (hline : ∀ c ∈ line, isLineMark c = false)
    (h : l ∈ linesFrom line cs) : ∀ c ∈ l, isLineMark c = false := by
  have hnone : ∀ c ∈ ([] : List Char), isLineMark c = false :=
    fun _ hc => absurd hc List.not_mem_nil
  induction line, cs using linesFrom.induct with
  | case1 line hempty =>
      rw [linesFrom, if_pos hempty] at h
      cases h
  | case2 line hempty =>
      rw [linesFrom, if_neg hempty, List.mem_singleton] at h
      exact fun c hc => hline c (List.mem_reverse.mp (h ▸ hc))
  | case3 line rest ih =>
      -- The two marks of a line end are taken together.
      rw [linesFrom] at h
      rcases List.mem_cons.mp h with rfl | h
      · exact fun c hc => hline c (List.mem_reverse.mp hc)
      · exact ih hnone h
  | case4 line c rest hother hmark ih =>
      rw [linesFrom, if_pos hmark] at h
      · rcases List.mem_cons.mp h with rfl | h
        · exact fun c hc => hline c (List.mem_reverse.mp hc)
        · exact ih hnone h
      · exact hother
  | case5 line c rest hother hmark ih =>
      rw [linesFrom, if_neg hmark] at h
      · exact ih (List.forall_mem_cons.mpr ⟨Bool.eq_false_iff.mpr hmark, hline⟩) h
      · exact hother

/-- The lines of a text have no marks in them. -/
theorem isLineMark_of_mem_lines {cs l : List Char} (h : l ∈ lines cs) :
    ∀ c ∈ l, isLineMark c = false :=
  isLineMark_of_mem_linesFrom (fun _ hc => absurd hc List.not_mem_nil) h

theorem linesFrom_of_plain {l : List Char} (h : ∀ c ∈ l, isLineMark c = false)
    (line : List Char) :
    linesFrom line l = if (line.reverse ++ l).isEmpty then [] else [line.reverse ++ l] := by
  induction l generalizing line with
  | nil => simp [linesFrom]
  | cons c l ih =>
      rw [List.forall_mem_cons] at h
      rw [linesFrom, h.1, if_neg Bool.false_ne_true, ih h.2]
      · simp
      · rintro _ rfl _
        exact absurd h.1 (by decide)

/-- What is joined of lines without marks has no other lines than these. If the last one is
    empty, it is none. -/
theorem mem_of_mem_lines_joinWith {ls : List (List Char)}
    (h : ∀ l ∈ ls, ∀ c ∈ l, isLineMark c = false) {l : List Char}
    (hl : l ∈ lines (joinWith ['\n'] ls)) : l ∈ ls := by
  induction ls with
  | nil => cases hl
  | cons first rest ih =>
      rw [List.forall_mem_cons] at h
      cases rest with
      | nil =>
          rw [joinWith, lines, linesFrom_of_plain h.1] at hl
          -- An empty last line has nothing behind the mark before it, and so it is none.
          split at hl
          · cases hl
          · exact hl
      | cons next others =>
          rw [joinWith, List.append_assoc, List.singleton_append, lines,
            linesFrom_append h.1] at hl
          · rcases List.mem_cons.mp hl with rfl | hl
            · exact List.mem_cons_self ..
            · exact List.mem_cons_of_mem _ (ih h.2 hl)
          · exact List.cons_ne_nil _ _

theorem joinLineEnds_eq {cs : List Char} (h : '\r' ∉ cs) : joinLineEnds cs = cs := by
  induction cs with
  | nil => rfl
  | cons c rest ih =>
      have hc : c ≠ '\r' := fun hc => h (by simp [hc])
      have hrest := ih (fun hmem => h (List.mem_cons_of_mem _ hmem))
      rw [joinLineEnds, hrest]
      · simp [hc]
      · intro _ heq _
        exact absurd heq hc

theorem contains_iff {part cs : List Char} : contains part cs = true ↔ part <:+: cs := by
  induction cs with
  | nil =>
      rw [contains, List.isEmpty_iff, List.infix_nil]
  | cons c rest ih =>
      rw [contains, Bool.or_eq_true, ih, List.isPrefixOf_iff_prefix, List.infix_cons_iff]

/-- What does not occur in a text does not occur in the end of it. -/
theorem contains_drop {part cs : List Char} (h : contains part cs = false) (n : Nat) :
    contains part (cs.drop n) = false := by
  cases hd : contains part (cs.drop n) with
  | false => rfl
  | true =>
      have hinfix := (contains_iff.mp hd).trans (List.drop_suffix n cs).isInfix
      rw [contains_iff.mpr hinfix] at h
      exact h.symm ▸ rfl

end Text

end Annals
