import Annals.Markdown.Blocks
import Annals.Proofs.Text.Lines

/-!
# Lines Outside of Containers

What is known of a line that lies in no quote and no list, and of the place where
such lines are read.

Nothing is taken off such a line, so it is its text with the blanks at its start
counted. As long as these are less than four columns there is no tab among them, and
so many blanks they are. The margin is zero, and no line is left of it.

The text of a document is written line by line here, and `blocksOf_unlines` says
that it is read in one place, which knows these lines and no others.

## Main definitions

* `Markdown.Place.ofLines`: The place where the lines of a document are read.
* `Markdown.Place.Holds`: A place has some lines from a line on.
* `Markdown.IsWritable`: A line that is read as it is written.

## Theorems

* `plain_content`: A line that begins with no blank is its content.
* `plain_cut`: Nothing is taken off a line.
* `plain_narrow`: A line that is not indented by four columns.
* `ofSource_unlines`: The lines of a text that is written line by line.
* `holds_ofLines`, `cut_of_holds`: The lines at the place.
* `blocksOf_unlines`: Where the blocks of a text are read.
-/

namespace Annals

namespace Markdown

theorem leading_ge (base column : Nat) (text : List Char) :
    column ≤ (leading base column text).2 := by
  induction text generalizing column with
  | nil => exact Nat.le_refl _
  | cons c rest ih =>
      rw [leading.eq_def]
      split
      · next rest' heq =>
          cases heq
          have h := ih (column + 4 - (column + base) % 4)
          simp only []
          omega
      · next rest' heq =>
          cases heq
          have h := ih (column + 1)
          simp only []
          omega
      · exact Nat.le_refl _

/-- Less than four columns of blanks are so many blanks, since a tab goes on to the
    fourth column. -/
theorem leading_narrow {column : Nat} {text : List Char} (h : (leading 0 column text).2 < 4) :
    text.take (leading 0 column text).1 = List.replicate (leading 0 column text).1 ' ' ∧
      (leading 0 column text).2 = column + (leading 0 column text).1 := by
  induction text generalizing column with
  | nil => exact ⟨rfl, rfl⟩
  | cons c rest ih =>
      rw [leading.eq_def] at h ⊢
      split at h
      · next rest' heq =>
          -- Behind a tab the fourth column is reached.
          have hge := leading_ge 0 (column + 4 - (column + 0) % 4) rest'
          simp only [] at h
          omega
      · next rest' heq =>
          cases heq
          simp only [] at h ⊢
          rcases ih h with ⟨htake, hcolumn⟩
          refine ⟨?_, by omega⟩
          rw [List.take_succ_cons, htake]
          rfl
      · exact ⟨rfl, rfl⟩

theorem leading_of_head {c : Char} (base column : Nat) (rest : List Char)
    (h : isSpace c = false) : leading base column (c :: rest) = (0, column) := by
  unfold isSpace at h
  rw [leading.eq_def]
  split
  · next heq =>
      cases heq
      simp at h
  · next heq =>
      cases heq
      simp at h
  · rfl

theorem leading_replicate (base column n : Nat) (text : List Char) :
    leading base column (List.replicate n ' ' ++ text)
      = ((leading base (column + n) text).1 + n, (leading base (column + n) text).2) := by
  induction n generalizing column with
  | zero => rfl
  | succ n ih =>
      rw [List.replicate_succ, List.cons_append, leading, ih (column + 1)]
      have hsum : column + 1 + n = column + (n + 1) := by omega
      rw [hsum]
      rfl

/-- A text has a character besides its blanks, or is blanks throughout. -/
theorem leading_isBlank (base column : Nat) (text : List Char) :
    text.length ≤ (leading base column text).1 ↔ text.all isSpace = true := by
  induction text generalizing column with
  | nil => simp [leading]
  | cons c rest ih =>
      cases hc : isSpace c with
      | false =>
          rw [leading_of_head base column rest hc]
          simp [hc]
      | true =>
          -- A blank is a tab or a space, which only differ in the columns they take.
          have hstep : ∃ column', (leading base column (c :: rest)).1
              = (leading base column' rest).1 + 1 := by
            unfold isSpace at hc
            rcases Bool.or_eq_true_iff.mp hc with h | h
            · rw [eq_of_beq h, leading]
              exact ⟨_, rfl⟩
            · rw [eq_of_beq h, leading]
              exact ⟨_, rfl⟩
          rcases hstep with ⟨column', hstep⟩
          rw [hstep, List.all_cons, hc, Bool.true_and, ← ih column', List.length_cons]
          exact Nat.add_le_add_iff_right

namespace Line

variable (text : List Char) (ended : Bool)

@[simp] theorem plain_text : (plain text ended).text = text := rfl

@[simp] theorem plain_base : (plain text ended).base = 0 := rfl

@[simp] theorem plain_ended : (plain text ended).ended = ended := rfl

theorem plain_indent : (plain text ended).indent = ((leading 0 0 text).2 : Int) := rfl

theorem plain_indent_nonneg : 0 ≤ (plain text ended).indent := Int.natCast_nonneg _

theorem plain_isEmpty : (plain text ended).isEmpty = text.all isSpace := by
  have h := leading_isBlank 0 0 text
  unfold isEmpty
  cases hall : text.all isSpace with
  | true => exact decide_eq_true (h.mpr hall)
  | false =>
      refine decide_eq_false (fun hle => ?_)
      rw [h.mp hle] at hall
      cases hall

/-- The content of a line is some end of its text. -/
theorem plain_content_drop : ∃ n, (plain text ended).content = text.drop n := ⟨_, rfl⟩

/-- A line that begins with no blank is its content, and is not indented. -/
theorem plain_content {c : Char} (rest : List Char) (h : isSpace c = false) :
    (plain (c :: rest) ended).content = c :: rest ∧ (plain (c :: rest) ended).indent = 0 := by
  have hlead := leading_of_head 0 0 rest h
  constructor
  · unfold content plain
    rw [hlead]
    rfl
  · rw [plain_indent, hlead]
    rfl

/-- A line behind some blanks. -/
theorem plain_content_replicate {c : Char} (n : Nat) (rest : List Char) (h : isSpace c = false) :
    (plain (List.replicate n ' ' ++ c :: rest) ended).content = c :: rest ∧
      (plain (List.replicate n ' ' ++ c :: rest) ended).indent = n := by
  have hlead : leading 0 0 (List.replicate n ' ' ++ c :: rest) = (n, n) := by
    rw [leading_replicate, leading_of_head 0 (0 + n) rest h]
    simp
  constructor
  · unfold content plain
    rw [hlead]
    simp
  · rw [plain_indent, hlead]

/-- A line that is indented by less than four columns is as many blanks and its content. -/
theorem plain_narrow (h : (plain text ended).indent < 4) :
    ∃ n < 4, text = List.replicate n ' ' ++ (plain text ended).content := by
  have hlt : (leading 0 0 text).2 < 4 := by
    rw [plain_indent] at h
    omega
  rcases leading_narrow hlt with ⟨htake, hcolumn⟩
  refine ⟨(leading 0 0 text).1, by omega, ?_⟩
  rw [← htake]
  exact (List.take_append_drop _ text).symm

/-- Nothing is taken off a line. -/
theorem plain_cut : (plain text ended).cut 0 = text := by
  unfold cut
  cases text with
  | nil => rfl
  | cons c rest =>
      have htake : takeColumns 0 0 (plain (c :: rest) ended).shift 0 (c :: rest)
          = (0, c :: rest) := by
        rw [takeColumns, if_pos (Nat.le_refl 0)]
      simp only [plain_base, plain_text, htake]
      rfl

theorem cutAll_plain (ls : List (List Char)) :
    cutAll 0 true (ls.map (plain · true)) = Text.unlines ls := by
  induction ls with
  | nil => rfl
  | cons l rest ih =>
      rw [List.map_cons, cutAll, plain_cut, ih, Text.unlines_cons]
      simp

/-- The lines of a text that is written line by line. -/
theorem ofSource_unlines {ls : List (List Char)} (h : ∀ l ∈ ls, '\n' ∉ l) :
    ofSource (Text.unlines ls) = ls.map (plain · true) := by
  unfold ofSource
  rw [Text.splitOn_unlines h]
  simp

end Line

/-- The place where the lines of a document are read. -/
def Place.ofLines (ls : List (List Char)) : Place :=
  ⟨(ls.map (Line.plain · true)).toArray, ls.length, 0, none, 0⟩

namespace Place

/-- From line `n` on, a place has these lines. -/
def Holds (p : Place) : (n : Nat) → List (List Char) → Prop
  | _, [] => True
  | n, l :: rest => p.line n = Line.plain l true ∧ p.Holds (n + 1) rest

theorem holds_append {p : Place} {n : Nat} {ls more : List (List Char)} :
    p.Holds n (ls ++ more) ↔ p.Holds n ls ∧ p.Holds (n + ls.length) more := by
  induction ls generalizing n with
  | nil => simp [Holds]
  | cons l rest ih =>
      have hsum : n + 1 + rest.length = n + (rest.length + 1) := by omega
      rw [List.cons_append, Holds, Holds, ih, List.length_cons, hsum, and_assoc]

theorem holds_ofLines (before ls : List (List Char)) :
    (ofLines (before ++ ls)).Holds before.length ls := by
  induction ls generalizing before with
  | nil => exact trivial
  | cons l rest ih =>
      constructor
      · unfold line ofLines
        simp [Array.getD_eq_getD_getElem?]
      · have h := ih (before ++ [l])
        rw [List.append_assoc, List.length_append] at h
        exact h

/-- The lines from some place on, as they are written. -/
theorem cut_of_holds {p : Place} {n : Nat} {ls : List (List Char)} (h : p.Holds n ls) :
    p.cut n (n + ls.length) 0 true = Text.unlines ls := by
  have hslice : p.slice n (n + ls.length) = ls.map (Line.plain · true) := by
    unfold slice
    rw [Nat.add_sub_cancel_left]
    induction ls generalizing n with
    | nil => rfl
    | cons l rest ih =>
        rw [List.length_cons, List.range'_succ, List.map_cons, List.map_cons, h.1, ih h.2]
  unfold cut
  rw [hslice, Line.cutAll_plain]

end Place

theorem normalizedSource_eq {cs : List Char} (h : ∀ c ∈ cs, c ≠ '\r' ∧ c.toNat ≠ 0) :
    normalizedSource cs = cs := by
  unfold normalizedSource
  rw [Text.joinLineEnds_eq (fun hmem => (h _ hmem).1 rfl)]
  refine (List.map_congr_left (fun c hc => ?_)).trans (List.map_id cs)
  rw [if_neg (by simpa using (h c hc).2)]
  rfl

/-- No character of a line ends it or is replaced when it is read. -/
def IsWritable (l : List Char) : Prop := ∀ c ∈ l, c ≠ '\n' ∧ c ≠ '\r' ∧ c.toNat ≠ 0

instance (l : List Char) : Decidable (IsWritable l) :=
  List.decidableBAll (fun c => c ≠ '\n' ∧ c ≠ '\r' ∧ c.toNat ≠ 0) l

/-- Where the blocks of a text are read that is written line by line. -/
theorem blocksOf_unlines {ls : List (List Char)} (h : ∀ l ∈ ls, IsWritable l) :
    blocksOf (Text.unlines ls) =
      ((readBlocks ((ls.length + 2) * (3 * maxDepth)) (.ofLines ls) 0 ls.length).blocks,
        (readBlocks ((ls.length + 2) * (3 * maxDepth)) (.ofLines ls) 0 ls.length).labels) := by
  -- No character is replaced before the text is cut into lines.
  have hsource : normalizedSource (Text.unlines ls) = Text.unlines ls := by
    refine normalizedSource_eq (fun c hc => ?_)
    rcases Text.mem_unlines.mp hc with ⟨l, hl, hmem | rfl⟩
    · exact (h l hl c hmem).2
    · decide
  have hlines : Line.ofSource (Text.unlines ls) = ls.map (Line.plain · true) :=
    Line.ofSource_unlines (fun l hl hmem => (h l hl _ hmem).1 rfl)
  unfold blocksOf
  rw [hsource, hlines]
  simp only [List.size_toArray, List.length_map]
  rfl

end Markdown

end Annals
