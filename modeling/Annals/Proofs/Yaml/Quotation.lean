import Annals.Proofs.Yaml.Cursor
import Annals.Yaml.Scan
import Mathlib.Data.List.TakeWhile

/-!
# Scalars on One Line

Two ways to write a scalar on one line, read back.

A word can be written as it is. It ends where a gap begins, or a colon before a gap,
so it is told from a key by nothing but what follows. As the last thing on its line it
takes the end of the line along, and the blanks of the next line with it, to see
whether it goes on there; it does not, if that line is not indented far enough.

A text of letters, blanks and the like can be written between double quotes. Between
them it is read in runs of blanks and runs of all else.

## Main definitions

* `IsWord`: A text that can be written plainly.
* `StartsLine`: What may follow the blanks of a line.
* `isQuotable`: Whether a character stands for itself between quotes.

## Theorems

* `plainScalar_key`: A word before a colon.
* `plainScalar_last`: A word at the end of its line.
* `quotedScalar_quotable`: A text between quotes.
-/

namespace Annals

namespace Text

/-- No character has the number of half a pair. -/
theorem half_toNat (c : Char) : isFirstHalf c.toNat = false ∧ isSecondHalf c.toNat = false := by
  have hvalid : c.toNat < 0xD800 ∨ (0xDFFF < c.toNat ∧ c.toNat < 0x110000) := c.valid
  unfold isFirstHalf isSecondHalf
  constructor
  · simp only [Bool.and_eq_false_iff, decide_eq_false_iff_not]
    omega
  · simp only [Bool.and_eq_false_iff, decide_eq_false_iff_not]
    omega

theorem charOrReplacement_toNat (c : Char) : charOrReplacement c.toNat = c := by
  rcases half_toNat c with ⟨hfirst, hsecond⟩
  unfold charOrReplacement
  rw [hfirst, hsecond]
  exact Char.ofNat_toNat c

/-- No character has the number of half a pair, so the numbers of characters are these
    characters. -/
theorem joinHalves_toNat (cs : List Char) : joinHalves (cs.map Char.toNat) = cs := by
  induction cs with
  | nil => rfl
  | cons x cs ih =>
      cases cs with
      | nil => simp [joinHalves, charOrReplacement_toNat]
      | cons y cs =>
          simp only [List.map_cons] at ih ⊢
          rw [joinHalves, (half_toNat x).1, ih, charOrReplacement_toNat]
          simp

end Text

namespace Yaml

/-- A text that can be written plainly, as one word: it has no gaps, does not begin with a
    mark that means something, and does not end with a colon. A hyphen only means something
    if it stands alone. -/
structure IsWord (cs : List Char) : Prop where
  nonempty : cs ≠ []
  inked : ∀ x ∈ cs, isGap x = false ∧ isInline x = true
  begins : ∀ x ∈ cs.head?, Scanner.isIndicator x = false ∨ x = '-'
  notHyphen : cs ≠ ['-']
  ends : cs.getLast? ≠ some ':'

/-- Where a word ends: at a gap, at a colon before a gap, or at the end. -/
def StopsWord (xs : List Char) : Prop :=
  ∀ x ∈ xs.head?, isGap x = true ∨ (x = ':' ∧ isGap (xs.getD 1 endChar) = true)

/-- What may follow the blanks at the start of a line: anything on it but a comment. -/
def StartsLine (xs : List Char) : Prop :=
  ∀ x ∈ xs.head?, x ≠ ' ' ∧ x ≠ '#' ∧ isInline x = true

variable {c : Cursor} {x : Char} {cs xs : List Char}

/-- A word ends where it ends. The induction is on the word; a colon in it is not followed
    by a gap, since it is not the last character. -/
theorem wordEnd_word (hinked : ∀ x ∈ cs, isGap x = false ∧ isInline x = true)
    (hends : cs.getLast? ≠ some ':') (hstops : StopsWord xs) (h : c.rest = cs ++ xs) :
    wordEnd false c = c.along cs.length := by
  induction cs generalizing c with
  | nil =>
      unfold wordEnd
      cases xs with
      | nil => rw [dif_neg (Cursor.outside_of_rest h)]; rfl
      | cons x xs =>
          rw [dif_pos (Cursor.inside_of_rest h)]
          have hpeek : c.peek 1 = (x :: xs).getD 1 endChar := by rw [Cursor.peek_eq, h]; rfl
          -- Behind the word there is a gap, or a colon before a gap.
          rcases hstops x rfl with hx | ⟨rfl, hgap⟩
          · simp [Cursor.peek_of_rest h, hx]
          · simp only [Cursor.peek_of_rest h, hpeek, hgap]
            simp
  | cons x cs ih =>
      rcases hinked x (List.mem_cons_self ..) with ⟨hgap, hinline⟩
      have hrest : (c.along 1).rest = cs ++ xs := Cursor.rest_along_one h
      have hcolon : (x == ':' && isGap (c.peek 1)) = false := by
        cases cs with
        | nil =>
            have hx : x ≠ ':' := fun hx => hends (by rw [hx]; rfl)
            simp [hx]
        | cons y cs =>
            have hy : c.peek 1 = y := by rw [Cursor.peek_eq, h]; rfl
            rw [hy, (hinked y (by simp)).1, Bool.and_false]
      have hends' : cs.getLast? ≠ some ':' := by
        cases cs with
        | nil => simp
        | cons y cs => rwa [List.getLast?_cons_cons] at hends
      unfold wordEnd
      rw [dif_pos (Cursor.inside_of_rest h)]
      simp only [Cursor.peek_of_rest h, hgap, Bool.false_and, Bool.or_false, hcolon,
        Bool.false_eq_true, if_false]
      rw [Cursor.next_inline h hinline,
        ih (fun x hx => hinked x (List.mem_cons_of_mem _ hx)) hends' hrest, Cursor.along_along,
        List.length_cons, Nat.add_comm]

/-- Blanks at the start of a line, and no empty line. -/
theorem emptyLines_blanks {n fuel : Nat} (hxs : StartsLine xs)
    (h : c.rest = List.replicate n ' ' ++ xs) (hfuel : n < fuel) :
    emptyLines fuel c = (some [], c.along n) := by
  induction n generalizing c fuel with
  | zero =>
      obtain ⟨fuel, rfl⟩ : ∃ left, fuel = left + 1 := ⟨fuel - 1, by omega⟩
      -- The line begins with something, which is neither a blank nor a line end.
      have hpeek : (c.peek == ' ') = false ∧ isBreak c.peek = false := by
        cases xs with
        | nil =>
            rw [Cursor.peek_of_end h]
            decide
        | cons x xs =>
            rw [Cursor.peek_of_rest h]
            exact ⟨beq_eq_false_iff_ne.mpr (hxs x rfl).1, not_break_of_inline (hxs x rfl).2.2⟩
      simp [emptyLines, hpeek]
  | succ n ih =>
      obtain ⟨fuel, rfl⟩ : ∃ left, fuel = left + 1 := ⟨fuel - 1, by omega⟩
      have h' : c.rest = ' ' :: (List.replicate n ' ' ++ xs) := h
      have hnext := Cursor.next_inline h' (by decide)
      rw [emptyLines, Cursor.peek_of_rest h', hnext]
      simp only [beq_self_eq_true, if_true]
      rw [ih (Cursor.rest_along_one h') (by omega), Cursor.along_along, Nat.add_comm]

/-- What follows the end of a line and the blanks of the next one. -/
theorem plainGap_break {n : Nat} (hxs : StartsLine xs)
    (hmark : n = 0 → ∀ x ∈ xs.head?, x ≠ '-' ∧ x ≠ '.')
    (h : c.rest = '\n' :: (List.replicate n ' ' ++ xs)) :
    plainGap c = ([' '], c.below.along n, true) := by
  have hbelow : c.below.rest = List.replicate n ' ' ++ xs := Cursor.rest_below h
  have hblanks : c.takeWhile (· == ' ') = ([], c) := by
    have hnone : c.rest = [] ++ '\n' :: (List.replicate n ' ' ++ xs) := h
    exact Cursor.takeWhile_inline hnone (by simp) (fun x hx => by cases hx; rfl)
  -- With a blank before it, nothing separates documents.
  have hseparator : c.below.atSeparator = false := by
    refine Cursor.atSeparator_of_rest (fun x hx => ?_)
    rw [hbelow] at hx
    cases n with
    | zero => exact hmark rfl x hx
    | succ n =>
        cases hx
        decide
  have hfuel : n < c.below.left + 1 := by
    rw [Cursor.left_eq, hbelow, List.length_append, List.length_replicate]
    omega
  have hempty := emptyLines_blanks hxs hbelow hfuel
  unfold plainGap
  simp only [hblanks, Cursor.peek_of_rest h, Cursor.lineEnd_of_rest h, hseparator, hempty]
  rfl

theorem IsWord.peek (hw : IsWord cs) (h : c.rest = cs ++ xs) : (c.peek == '#') = false := by
  cases hcs : cs with
  | nil => exact absurd hcs hw.nonempty
  | cons x cs' =>
      rw [hcs] at h
      rw [Cursor.peek_of_rest h, beq_eq_false_iff_ne]
      rintro rfl
      have hmark := hw.begins '#' (by rw [hcs]; rfl)
      revert hmark
      decide

/-- The first word of a plain scalar, after which it does not go on. -/
theorem plainScalar_word {gap : List Char} {after : Cursor} {broke : Bool} {indent : Int}
    (hw : IsWord cs) (hstops : StopsWord xs) (h : c.rest = cs ++ xs)
    (hgap : plainGap (c.along cs.length) = (gap, after, broke))
    (hstays : (gap.isEmpty || after.peek == '#' || after.column < indent) = true) :
    plainScalar false indent c
      = (⟨.scalar (String.ofList cs) true, c.mark, (c.along cs.length).mark⟩, after, broke) := by
  have hlength : cs.length ≠ 0 := fun hzero => hw.nonempty (List.length_eq_zero_iff.mp hzero)
  have hmoves : ((c.along cs.length).mark.index == c.mark.index) = false := by
    rw [beq_eq_false_iff_ne]
    simp only [Cursor.along]
    omega
  have hend := wordEnd_word hw.inked hw.ends hstops h
  -- The text is this word alone, and what is behind the gap does not belong to it.
  have hread : plainFrom false indent (c.left + 1) [] ⟨[], c.mark, c, false⟩
      = ⟨cs, (c.along cs.length).mark, after, broke⟩ := by
    unfold plainFrom
    simp only [hw.peek h, Bool.false_eq_true, if_false, hend, hmoves, Cursor.upTo_along h, hgap,
      Bool.not_false, Bool.true_and, hstays, if_true, List.nil_append]
  unfold plainScalar
  rw [hread]

/-- A word before a colon, as a key is written. -/
theorem plainScalar_key {indent : Int} (hw : IsWord cs) (hx : isGap x = true)
    (h : c.rest = cs ++ ':' :: x :: xs) :
    plainScalar false indent c = (⟨.scalar (String.ofList cs) true, c.mark,
      (c.along cs.length).mark⟩, c.along cs.length, false) := by
  have hrest : (c.along cs.length).rest = ':' :: x :: xs := Cursor.rest_along h
  -- The colon ends the word, since there is a gap behind it.
  have hstops : StopsWord (':' :: x :: xs) := by
    intro y hy
    cases hy
    exact Or.inr ⟨rfl, hx⟩
  have hblanks : (c.along cs.length).takeWhile (· == ' ') = ([], c.along cs.length) := by
    have hnone : (c.along cs.length).rest = [] ++ ':' :: x :: xs := hrest
    exact Cursor.takeWhile_inline hnone (by simp) (fun x hx => by cases hx; rfl)
  have hgap : plainGap (c.along cs.length) = ([], c.along cs.length, false) := by
    unfold plainGap
    simp only [hblanks, Cursor.peek_of_rest hrest]
    rfl
  exact plainScalar_word hw hstops h hgap rfl

/-- A word at the end of its line, where the next line is indented less than the scalar
    would have to be. -/
theorem plainScalar_last {n : Nat} {indent : Int} (hw : IsWord cs) (hxs : StartsLine xs)
    (hmark : n = 0 → ∀ x ∈ xs.head?, x ≠ '-' ∧ x ≠ '.') (hn : (n : Int) < indent)
    (h : c.rest = cs ++ '\n' :: (List.replicate n ' ' ++ xs)) :
    plainScalar false indent c = (⟨.scalar (String.ofList cs) true, c.mark,
      (c.along cs.length).mark⟩, (c.along cs.length).below.along n, true) := by
  have hrest : (c.along cs.length).rest = '\n' :: (List.replicate n ' ' ++ xs) :=
    Cursor.rest_along h
  have hstops : StopsWord ('\n' :: (List.replicate n ' ' ++ xs)) := by
    intro y hy
    cases hy
    exact Or.inl (by decide)
  refine plainScalar_word hw hstops h (plainGap_break hxs hmark hrest) ?_
  -- The next line is indented less, so it does not go on with the scalar.
  have hcolumn : ((c.along cs.length).below.along n).column = n := by
    simp [Cursor.column, Cursor.along, Cursor.below]
  rw [hcolumn]
  simp [hn]

/-- Whether a character stands for itself between double quotes: a blank, or what is no gap
    and no quote and does not begin an escape. -/
def isQuotable (x : Char) : Bool :=
  x == ' ' || (!isGap x && isInline x && x != '\'' && x != '"' && x != '\\')

/-- A run of blanks between quotes. -/
theorem quotedGap_blanks (start : Mark) (hcs : ∀ x ∈ cs, x = ' ')
    (hxs : ∃ y ys, xs = y :: ys ∧ isGap y = false) (h : c.rest = cs ++ xs) :
    quotedGap start c = .ok (cs, c.along cs.length) := by
  rcases hxs with ⟨y, ys, rfl, hy⟩
  have hrest := Cursor.rest_along h
  have hblank : (y == ' ' || y == '\t') = false ∧ (y == endChar) = false ∧ isBreak y = false := by
    simp only [isGap, isWordEnd, isLineEnd, Bool.or_eq_false_iff] at hy
    exact ⟨by rw [hy.2.1, hy.1]; rfl, hy.2.2.1, hy.2.2.2⟩
  have htake : c.takeWhile (fun d => d == ' ' || d == '\t') = (cs, c.along cs.length) := by
    refine Cursor.takeWhile_inline h (fun x hx => ?_) (fun x hx => by cases hx; exact hblank.1)
    rw [hcs x hx]
    decide
  unfold quotedGap
  simp only [htake, Cursor.peek_of_rest hrest, hblank.2.1, hblank.2.2, Bool.false_eq_true, if_false]
  rfl

/-- A text begins with a run of characters of one kind. -/
theorem exists_run (p : Char → Bool) (hx : p x = true) (cs : List Char) :
    ∃ run tail, run ++ tail = x :: cs ∧ 0 < run.length ∧ (∀ y ∈ run, p y = true) ∧
      ∀ y ∈ tail.head?, p y = false := by
  refine ⟨(x :: cs).takeWhile p, (x :: cs).dropWhile p, List.takeWhile_append_dropWhile, ?_,
    fun y hy => List.mem_takeWhile_imp hy, fun y hy => ?_⟩
  · rw [List.takeWhile_cons_of_pos hx]
    exact Nat.succ_pos _
  · have hhead := List.head?_dropWhile_not p (x :: cs)
    rw [hy] at hhead
    exact hhead

/-- Whether a character goes on a run of what is no gap, no quote and no escape. -/
def isQuotedInk (x : Char) : Bool := !isGap x && x != '\'' && x != '"' && x != '\\'

/-- A quotable character is a blank, or goes on a run of what is neither blank nor mark. -/
theorem isQuotable_cases (h : isQuotable x = true) :
    x = ' ' ∨ (isQuotedInk x = true ∧ isInline x = true) := by
  unfold isQuotable at h
  simp only [Bool.or_eq_true, beq_iff_eq, Bool.and_eq_true, Bool.not_eq_true', bne_iff_ne,
    ne_eq] at h
  rcases h with h | ⟨⟨⟨⟨hgap, hinline⟩, hsingle⟩, hdouble⟩, hescape⟩
  · exact Or.inl h
  · exact Or.inr ⟨by simp [isQuotedInk, hgap, hsingle, hdouble, hescape], hinline⟩

section Runs

variable {run : List Char} {fuel : Nat} {ns : List Nat} {c' : Cursor}

/-- A run of blanks between quotes, and what is read behind it. -/
theorem quotedFrom_blanks (start : Mark) (hne : run ≠ []) (hrun : ∀ y ∈ run, y = ' ')
    (hxs : ∃ y ys, xs = y :: ys ∧ isGap y = false) (h : c.rest = run ++ xs)
    (hmore : quotedFrom true start fuel (c.along run.length) = .ok (ns, c')) :
    quotedFrom true start (fuel + 1) c = .ok (run.map Char.toNat ++ ns, c') := by
  have hblanks := quotedGap_blanks start hrun hxs h
  have hspace : isGap ' ' = true := by decide
  obtain ⟨y, run, rfl⟩ := List.exists_cons_of_ne_nil hne
  have hy := hrun y (List.mem_cons_self ..)
  subst hy
  unfold quotedFrom
  simp only [Cursor.peek_of_rest h, hspace, if_true, hblanks, Except.bind, numbersOf, hmore]
  rfl

/-- A run of other characters between quotes, and what is read behind it. -/
theorem quotedFrom_inked (start : Mark) (hne : run ≠ [])
    (hrun : ∀ y ∈ run, isQuotedInk y = true ∧ isInline y = true)
    (hxs : ∀ y ∈ xs.head?, isQuotedInk y = false) (h : c.rest = run ++ xs)
    (hmore : quotedFrom true start fuel (c.along run.length) = .ok (ns, c')) :
    quotedFrom true start (fuel + 1) c = .ok (run.map Char.toNat ++ ns, c') := by
  have htake := Cursor.takeWhile_inline h hrun hxs
  obtain ⟨y, run, rfl⟩ := List.exists_cons_of_ne_nil hne
  have hink := (hrun y (List.mem_cons_self ..)).1
  unfold isQuotedInk at hink htake
  simp only [Bool.and_eq_true, Bool.not_eq_true', bne_iff_ne, ne_eq] at hink
  -- The first character of the run is none of those that have a meaning between quotes.
  rcases hink with ⟨⟨⟨hgap, hsingle⟩, hdouble⟩, hescape⟩
  have hquote : (y == '"') = false := beq_eq_false_iff_ne.mpr hdouble
  have hslash : (y == '\\') = false := beq_eq_false_iff_ne.mpr hescape
  have hplain : (y != '\'' && y != '"' && y != '\\') = true := by
    simp [hsingle, hdouble, hescape]
  unfold quotedFrom
  simp only [Cursor.peek_of_rest h, hgap, hquote, hslash, Bool.not_false, Bool.true_and, hplain,
    Bool.false_eq_true, if_false, if_true, Bool.and_false, htake, numbersOf, hmore]
  rfl

end Runs

/-- A text between quotes, run by run, up to the closing quote. The induction is on the fuel,
    of which each run takes one. -/
theorem quotedFrom_quotable (start : Mark) {fuel : Nat} (hcs : ∀ x ∈ cs, isQuotable x = true)
    (h : c.rest = cs ++ '"' :: xs) (hfuel : cs.length < fuel) :
    quotedFrom true start fuel c = .ok (cs.map Char.toNat, c.along cs.length) := by
  induction fuel generalizing c cs with
  | zero => omega
  | succ fuel ih =>
      cases cs with
      | nil =>
          unfold quotedFrom
          simp only [Cursor.peek_of_rest h]
          rfl
      | cons x cs' =>
          -- The first character begins a run of one of the two kinds.
          let p := if x = ' ' then (· == ' ') else isQuotedInk
          have hbegins : p x = true := by
            rcases isQuotable_cases (hcs x (List.mem_cons_self ..)) with rfl | ⟨hink, _⟩
            · rfl
            · have hx : x ≠ ' ' := by
                rintro rfl
                revert hink
                decide
              simpa only [p, if_neg hx] using hink
          rcases exists_run p hbegins cs' with ⟨run, tail, hsplit, hpositive, hrun, htail⟩
          have hrest : c.rest = run ++ (tail ++ '"' :: xs) := by
            rw [← List.append_assoc, hsplit]
            exact h
          have hlength : run.length + tail.length = (x :: cs').length := by
            rw [← List.length_append, hsplit]
          have hmore := ih (fun y hy => hcs y (hsplit ▸ List.mem_append_right run hy))
            (Cursor.rest_along hrest) (by omega)
          rw [Cursor.along_along, hlength] at hmore
          have hne : run ≠ [] := List.ne_nil_of_length_pos hpositive
          rw [← hsplit, List.map_append, hsplit]
          by_cases hx : x = ' '
          · simp only [p, if_pos hx] at hrun htail
            refine quotedFrom_blanks start hne (fun y hy => eq_of_beq (hrun y hy)) ?_ hrest hmore
            cases tail with
            | nil => exact ⟨'"', xs, rfl, by decide⟩
            | cons y tail =>
                have hblank := htail y rfl
                have hy := hcs y (hsplit ▸ List.mem_append_right run (List.mem_cons_self ..))
                rcases isQuotable_cases hy with rfl | ⟨hink, _⟩
                · cases hblank
                · have hgap : isGap y = false := by
                    unfold isQuotedInk at hink
                    simp only [Bool.and_eq_true, Bool.not_eq_true'] at hink
                    exact hink.1.1.1
                  exact ⟨y, tail ++ '"' :: xs, rfl, hgap⟩
          · simp only [p, if_neg hx] at hrun htail
            refine quotedFrom_inked start hne (fun y hy => ⟨hrun y hy, ?_⟩) (fun y hy => ?_) hrest
              hmore
            · have hq := hcs y (hsplit ▸ List.mem_append_left tail hy)
              rcases isQuotable_cases hq with rfl | ⟨_, hinline⟩
              · decide
              · exact hinline
            · cases tail with
              | nil =>
                  cases hy
                  decide
              | cons z tail => exact htail y hy

/-- A text between double quotes is read as it stands. -/
theorem quotedScalar_quotable (hcs : ∀ x ∈ cs, isQuotable x = true)
    (h : c.rest = '"' :: (cs ++ '"' :: xs)) :
    quotedScalar c = .ok (⟨.scalar (String.ofList cs) false, c.mark,
      (c.along (cs.length + 2)).mark⟩, c.along (cs.length + 2)) := by
  have hquote : isInline '"' = true := by decide
  have hnext := Cursor.next_inline h hquote
  have hrest : (c.along 1).rest = cs ++ '"' :: xs := Cursor.rest_along_one h
  have hfuel : cs.length < c.left + 2 := by
    rw [Cursor.left_eq, h, List.length_cons, List.length_append]
    omega
  have hread := quotedFrom_quotable c.mark hcs hrest hfuel
  -- The cursor passes both quotes and all that is between them.
  have hclosing : ((c.along 1).along cs.length).next = c.along (cs.length + 2) := by
    rw [Cursor.next_inline (Cursor.rest_along hrest) hquote, Cursor.along_along,
      Cursor.along_along]
    congr 1
    omega
  unfold quotedScalar
  simp only [Cursor.peek_of_rest h, beq_self_eq_true, hnext, hread]
  change Except.ok _ = _
  rw [hclosing, Text.joinHalves_toNat]

end Yaml

end Annals
