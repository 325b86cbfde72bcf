import Annals.Proofs.Text.Lines
import Annals.Text.Blank

/-!
# Where a Part of a Text Stands

A text that begins with a word, and the pieces into which a text falls, if the text is a
part of a longer one.

A part that holds a mark is cut at it like the text around it. So its pieces are pieces of
the whole text, counted from the piece in which the part begins, except that the first one
and the last one may go on beyond the part.

The lines of a text are its pieces between line feeds, but nothing stands behind a line
feed at the end.

## Main definitions

* `feedLines`: The lines of a text that end at line feeds.

## Theorems

* `after?_iff`, `splitAt?_of_not_mem`: What follows a word, and its first occurrence.
* `piece_append`: A piece of a part of a text.
* `feedLines_append`: The first line of a text.
* `line_of_infix`: The line in which a part of a text begins.
-/

namespace Annals

namespace Text

/-- What follows a word at the start of a text. -/
theorem after?_iff {start cs rest : List Char} : after? start cs = some rest ↔ cs = start ++ rest := by
  induction start generalizing cs with
  | nil => exact ⟨fun h => Option.some.inj h, fun h => congrArg some h⟩
  | cons a start ih =>
      cases cs with
      | nil => exact ⟨fun h => (by cases h), fun h => (by cases h)⟩
      | cons c cs =>
          rw [after?, List.cons_append, List.cons.injEq]
          by_cases hc : a = c
          · rw [if_pos (beq_iff_eq.mpr hc), ih]
            exact ⟨fun h => ⟨hc.symm, h⟩, And.right⟩
          · rw [if_neg (by simpa using hc)]
            exact ⟨fun h => (by cases h), fun h => absurd h.1.symm hc⟩

/-- The first occurrence of a word is behind a text that lacks its first character. -/
theorem splitAt?_of_not_mem {a : Char} {word before : List Char} (h : a ∉ before)
    (after : List Char) :
    splitAt? (a :: word) (before ++ (a :: word ++ after)) = some (before, after) := by
  induction before with
  | nil =>
      have hword : after? (a :: word) (a :: (word ++ after)) = some after := after?_iff.mpr rfl
      rw [List.nil_append, List.cons_append, splitAt?, hword]
  | cons c before ih =>
      have hc : after? (a :: word) (c :: (before ++ (a :: word ++ after))) = none := by
        rw [after?, if_neg]
        intro heq
        exact h (beq_iff_eq.mp heq ▸ List.mem_cons_self ..)
      rw [List.cons_append, splitAt?, hc, ih fun hmem => h (List.mem_cons_of_mem _ hmem)]
      rfl

theorem prefix_of_dropEndWhile (p : Char → Bool) (cs : List Char) : dropEndWhile p cs <+: cs := by
  have h := List.reverse_prefix.mpr (List.dropWhile_suffix p (l := cs.reverse))
  rwa [List.reverse_reverse] at h

theorem infix_of_trim (cs : List Char) : trim cs <:+: cs :=
  (prefix_of_dropEndWhile isBlank _).isInfix.trans (List.dropWhile_suffix isBlank).isInfix

variable {mark : Char}

/-- The piece that has begun stands before the first piece. -/
theorem splitOnFrom_eq (mark : Char) (piece cs : List Char) :
    splitOnFrom mark piece cs = (splitOn mark cs).modifyHead (piece.reverse ++ ·) := by
  unfold splitOn
  induction cs generalizing piece with
  | nil => simp [splitOnFrom]
  | cons c rest ih =>
      rw [splitOnFrom, splitOnFrom]
      by_cases hc : c = mark
      · rw [if_pos (beq_iff_eq.mpr hc), if_pos (beq_iff_eq.mpr hc)]
        simp
      · rw [if_neg (by simpa using hc), if_neg (by simpa using hc), ih, ih [c],
          List.modifyHead_modifyHead]
        simp [Function.comp_def]

theorem splitOn_nil (mark : Char) : splitOn mark [] = [[]] := rfl

theorem splitOn_mark (mark : Char) (cs : List Char) :
    splitOn mark (mark :: cs) = [] :: splitOn mark cs := by
  unfold splitOn
  rw [splitOnFrom, if_pos (beq_self_eq_true mark)]
  rfl

theorem splitOn_cons {c : Char} (h : c ≠ mark) (cs : List Char) :
    splitOn mark (c :: cs) = (splitOn mark cs).modifyHead (c :: ·) := by
  have hsplit := splitOnFrom_eq mark [c] cs
  rw [splitOn, splitOnFrom, if_neg (by simpa using h), hsplit]
  rfl

/-- Every text has a first piece. -/
theorem splitOn_first (mark : Char) (cs : List Char) : ∃ first rest, splitOn mark cs = first :: rest :=
  List.exists_cons_of_ne_nil (splitOnFrom_ne_nil mark [] cs)

/-- No mark is in a piece. -/
theorem not_mem_piece {cs piece : List Char} {k : Nat} (h : (splitOn mark cs)[k]? = some piece) :
    mark ∉ piece := by
  induction cs generalizing k piece with
  | nil =>
      cases List.mem_singleton.mp (List.mem_of_getElem? h)
      exact List.not_mem_nil
  | cons c cs ih =>
      by_cases hc : c = mark
      · rw [hc, splitOn_mark] at h
        cases k with
        | zero =>
            cases h
            exact List.not_mem_nil
        | succ k => exact ih h
      · -- A character that is no mark belongs to the first piece of the rest.
        rcases splitOn_first mark cs with ⟨first, rest, hsplit⟩
        rw [splitOn_cons hc, hsplit] at h
        rw [hsplit] at ih
        cases k with
        | zero =>
            cases h
            intro hmem
            rcases List.mem_cons.mp hmem with hmem | hmem
            · exact hc hmem.symm
            · exact ih (k := 0) rfl hmem
        | succ k => exact ih (k := k + 1) h

/-- A piece of the start of a text goes on in the text. -/
theorem piece_left {cs piece : List Char} {k : Nat} (h : (splitOn mark cs)[k]? = some piece)
    (after : List Char) :
    ∃ whole, (splitOn mark (cs ++ after))[k]? = some whole ∧ piece <+: whole := by
  induction cs generalizing k piece with
  | nil =>
      rcases splitOn_first mark after with ⟨first, rest, hsplit⟩
      rw [splitOn_nil] at h
      rw [List.nil_append, hsplit]
      cases k with
      | zero =>
          cases h
          exact ⟨first, rfl, List.nil_prefix⟩
      | succ k => cases h
  | cons c cs ih =>
      rw [List.cons_append]
      by_cases hc : c = mark
      · rw [hc, splitOn_mark] at h ⊢
        -- The mark ends the first piece, which stays as it is.
        cases k with
        | zero =>
            cases h
            exact ⟨[], rfl, List.nil_prefix⟩
        | succ k => exact ih h
      · rw [splitOn_cons hc] at h ⊢
        rcases splitOn_first mark cs with ⟨first, rest, hsplit⟩
        rcases splitOn_first mark (cs ++ after) with ⟨first', rest', hsplit'⟩
        rw [hsplit] at h ih
        rw [hsplit'] at ih ⊢
        cases k with
        | zero =>
            cases h
            rcases ih (k := 0) rfl with ⟨whole, hwhole, hbegins⟩
            cases hwhole
            exact ⟨_, rfl, (List.prefix_cons_inj c).mpr hbegins⟩
        | succ k => exact ih (k := k + 1) h

/-- A piece of the end of a text may have begun before. -/
theorem piece_right {cs piece : List Char} {k : Nat} (h : (splitOn mark cs)[k]? = some piece)
    (before : List Char) :
    ∃ whole, (splitOn mark (before ++ cs))[before.count mark + k]? = some whole ∧
      piece <:+ whole := by
  induction before with
  | nil =>
      rw [List.count_nil, Nat.zero_add]
      exact ⟨piece, h, List.suffix_refl _⟩
  | cons c before ih =>
      rcases ih with ⟨whole, hwhole, hends⟩
      rw [List.cons_append]
      by_cases hc : c = mark
      · rw [hc, splitOn_mark, List.count_cons_self, Nat.add_right_comm]
        exact ⟨whole, hwhole, hends⟩
      · rw [splitOn_cons hc, List.count_cons_of_ne hc]
        rcases splitOn_first mark (before ++ cs) with ⟨first, rest, hsplit⟩
        rw [hsplit] at hwhole ⊢
        -- The character is put in front of the first piece, and only there.
        generalize before.count mark + k = n at hwhole
        cases n with
        | zero =>
            cases hwhole
            exact ⟨_, rfl, hends.trans (List.suffix_cons c _)⟩
        | succ n => exact ⟨whole, hwhole, hends⟩

/-- A piece of a part of a text is a part of a piece of the text. -/
theorem piece_append {cs piece : List Char} {k : Nat} (h : (splitOn mark cs)[k]? = some piece)
    (before after : List Char) :
    ∃ whole, (splitOn mark (before ++ (cs ++ after)))[before.count mark + k]? = some whole ∧
      piece <:+: whole := by
  rcases piece_left h after with ⟨middle, hmiddle, hbegins⟩
  rcases piece_right hmiddle before with ⟨whole, hwhole, hends⟩
  exact ⟨whole, hwhole, hbegins.isInfix.trans hends.isInfix⟩

/-- The lines of a text, each of which ends at a line feed. What stands behind the last line
    feed is a line only if it is not empty. -/
def feedLines (cs : List Char) : List (List Char) :=
  if (splitOn '\n' cs).getLast? = some [] then (splitOn '\n' cs).dropLast else splitOn '\n' cs

/-- A line is a piece between line feeds. -/
theorem piece_of_feedLines {cs line : List Char} {k : Nat} (h : (feedLines cs)[k]? = some line) :
    (splitOn '\n' cs)[k]? = some line := by
  unfold feedLines at h
  split at h
  · rw [List.getElem?_dropLast] at h
    split at h
    · exact h
    · cases h
  · exact h

/-- A text that begins with a line. -/
theorem feedLines_append {l : List Char} (h : '\n' ∉ l) (rest : List Char) :
    feedLines (l ++ '\n' :: rest) = l :: feedLines rest := by
  have hsplit : splitOn '\n' (l ++ '\n' :: rest) = l :: splitOn '\n' rest :=
    splitOnFrom_append h [] rest
  rcases splitOn_first '\n' rest with ⟨first, others, hrest⟩
  unfold feedLines
  rw [hsplit, hrest, List.getLast?_cons_cons, List.dropLast_cons_cons]
  split <;> rfl

theorem feedLines_of_not_mem {l : List Char} (h : '\n' ∉ l) :
    feedLines l = if l = [] then [] else [l] := by
  have hsplit : splitOn '\n' l = [l] := splitOnFrom_of_not_mem h []
  unfold feedLines
  rw [hsplit, List.getLast?_singleton]
  by_cases hl : l = []
  · rw [hl, if_pos rfl, if_pos rfl, List.dropLast_singleton]
  · rw [if_neg hl, if_neg fun heq => hl (Option.some.inj heq)]

/-- A piece that is not empty is a line. -/
theorem feedLines_of_piece {cs piece : List Char} {k : Nat}
    (h : (splitOn '\n' cs)[k]? = some piece) (hsome : piece ≠ []) :
    (feedLines cs)[k]? = some piece := by
  unfold feedLines
  split
  · next hlast =>
      rw [List.getElem?_dropLast, if_pos, h]
      have hk := (List.getElem?_eq_some_iff.mp h).1
      rcases Nat.lt_or_ge k ((splitOn '\n' cs).length - 1) with hlt | hge
      · exact hlt
      · have hlength : k = (splitOn '\n' cs).length - 1 := by omega
        rw [List.getLast?_eq_getElem?, ← hlength, h] at hlast
        exact absurd (Option.some.inj hlast) hsome
  · exact h

/-- Only an empty text has no lines. -/
theorem feedLines_first {cs : List Char} (h : cs ≠ []) : ∃ first rest, feedLines cs = first :: rest := by
  refine List.exists_cons_of_ne_nil fun hnone => ?_
  rcases splitOn_first '\n' cs with ⟨first, rest, hsplit⟩
  unfold feedLines at hnone
  split at hnone
  · next hlast =>
      rw [hsplit] at hnone hlast
      cases rest with
      | nil =>
          cases hlast
          exact h (splitOn_eq_singleton hsplit)
      | cons second rest => cases hnone
  · rw [hsplit] at hnone
    cases hnone

/-- The first line of a text. -/
def firstLine (cs : List Char) : List Char := cs.takeWhile (· != '\n')

theorem splitOn_firstLine (cs : List Char) : (splitOn '\n' cs)[0]? = some (firstLine cs) := by
  unfold firstLine
  induction cs with
  | nil => rfl
  | cons c cs ih =>
      by_cases hc : c = '\n'
      · rw [hc, splitOn_mark]
        rfl
      · rcases splitOn_first '\n' cs with ⟨first, rest, hsplit⟩
        rw [hsplit] at ih
        rw [splitOn_cons hc, hsplit, List.takeWhile_cons, if_pos (by simpa using hc)]
        cases ih
        rfl

/-- The first line of a part of a text is a part of a line. -/
theorem line_of_infix {part cs : List Char} (h : part <:+: cs) (hsome : part ≠ []) :
    ∃ (k : Nat) (line : List Char), (feedLines cs)[k]? = some line ∧ firstLine part <:+: line := by
  rcases h with ⟨before, after, rfl⟩
  rcases piece_append (splitOn_firstLine part) before after with ⟨whole, hwhole, hin⟩
  rw [← List.append_assoc] at hwhole
  by_cases hempty : whole = []
  · -- The part begins at the end of the text, with a line feed.
    have hcs : before ++ part ++ after ≠ [] := fun hnil =>
      hsome (List.append_eq_nil_iff.mp (List.append_eq_nil_iff.mp hnil).1).2
    rcases feedLines_first hcs with ⟨first, rest, hlines⟩
    refine ⟨0, first, by rw [hlines]; rfl, ?_⟩
    rw [hempty, List.infix_nil] at hin
    rw [hin]
    exact List.nil_infix
  · exact ⟨_, whole, feedLines_of_piece hwhole hempty, hin⟩

end Text

end Annals
