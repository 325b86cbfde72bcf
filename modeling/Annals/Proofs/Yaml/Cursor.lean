import Annals.Yaml.Mark

/-!
# Cursors by What is Left

A cursor as the characters that it has before it.

A cursor is a text and a place in it, and moves by arithmetic on the place. All that
reading asks of it is what comes next, so here a cursor is known by its `rest`: the
characters from the place on. A run of characters that end no line moves it `along`
the line; the end of a line moves it to the start of the next one.

## Main definitions

* `Cursor.rest`: The characters from a place on.
* `isInline`: Whether a character moves a cursor along its line.
* `Cursor.along`, `Cursor.below`: The place further along a line, and the start of the
  next line.

## Theorems

* `peek_of_rest`: What comes next, by the rest.
* `next_inline`, `next_break`: One character further.
* `skipWhile_inline`, `takeWhile_inline`: A run of characters of one kind.
* `lineEnd_of_rest`: The end of a line.
-/

namespace Annals

namespace Yaml

/-- Whether a character moves a cursor by one column along its line. -/
def isInline (c : Char) : Bool := !isBreak c && c.toNat != 0xFEFF

theorem not_break_of_inline {x : Char} (h : isInline x = true) : isBreak x = false := by
  unfold isInline at h
  simp only [Bool.and_eq_true, Bool.not_eq_true'] at h
  exact h.1

theorem not_mark_of_inline {x : Char} (h : isInline x = true) : (x.toNat == 0xFEFF) = false := by
  unfold isInline at h
  simp only [Bool.and_eq_true, bne_iff_ne, ne_eq] at h
  exact beq_eq_false_iff_ne.mpr h.2

namespace Cursor

/-- The characters from the place on. -/
def rest (c : Cursor) : List Char := c.text.toList.drop c.mark.index

/-- The place so many characters further along the line. -/
def along (c : Cursor) (count : Nat) : Cursor :=
  ⟨c.text, ⟨c.mark.index + count, c.mark.line, c.mark.column + count⟩⟩

/-- The start of the next line, if the current one ends here. -/
def below (c : Cursor) : Cursor := ⟨c.text, ⟨c.mark.index + 1, c.mark.line + 1, 0⟩⟩

variable {c : Cursor} {x : Char} {cs xs : List Char}

@[simp] theorem along_zero (c : Cursor) : c.along 0 = c := rfl

theorem along_along (c : Cursor) (m n : Nat) : (c.along m).along n = c.along (m + n) := by
  simp only [along, Nat.add_assoc]

theorem rest_start (text : List Char) : (start text).rest = text := by
  simp [rest, start]

theorem left_eq (c : Cursor) : c.left = c.rest.length := by
  simp [left, rest]

theorem inside_of_rest (h : c.rest = x :: xs) : c.mark.index < c.text.size := by
  have hlength := congrArg List.length h
  simp only [rest, List.length_drop, Array.length_toList, List.length_cons] at hlength
  omega

theorem outside_of_rest (h : c.rest = []) : ¬c.mark.index < c.text.size := by
  have hlength := congrArg List.length h
  simp only [rest, List.length_drop, Array.length_toList, List.length_nil] at hlength
  omega

theorem peek_eq (c : Cursor) (ahead : Nat) : c.peek ahead = c.rest.getD ahead endChar := by
  simp [peek, rest, List.getElem?_drop]

theorem peek_of_rest (h : c.rest = x :: xs) : c.peek = x := by
  rw [peek_eq, h]
  rfl

theorem peek_of_end (h : c.rest = []) : c.peek = endChar := by
  rw [peek_eq, h]
  rfl

theorem rest_along (h : c.rest = cs ++ xs) : (c.along cs.length).rest = xs := by
  have hdrop : (c.along cs.length).rest = c.rest.drop cs.length := by
    simp [along, rest, List.drop_drop]
  rw [hdrop, h, List.drop_left]

theorem rest_along_one (h : c.rest = x :: xs) : (c.along 1).rest = xs := by
  have hdrop : (c.along 1).rest = c.rest.drop 1 := by
    simp [along, rest, List.drop_drop]
  rw [hdrop, h]
  rfl

theorem rest_below (h : c.rest = x :: xs) : c.below.rest = xs := by
  have hdrop : c.below.rest = c.rest.drop 1 := by
    simp [below, rest, List.drop_drop]
  rw [hdrop, h]
  rfl

theorem next_inline (h : c.rest = x :: xs) (hx : isInline x = true) : c.next = c.along 1 := by
  unfold next
  simp only [inside_of_rest h, if_true, peek_of_rest h, not_break_of_inline hx,
    not_mark_of_inline hx, Bool.false_and, Bool.false_eq_true, if_false, along]

theorem next_break (h : c.rest = '\n' :: xs) : c.next = c.below := by
  have hbreak : isBreak '\n' = true := by decide
  have hreturn : ('\n' == '\r') = false := by decide
  unfold next
  simp only [inside_of_rest h, if_true, peek_of_rest h, hbreak, hreturn, Bool.false_and,
    Bool.not_false, Bool.and_self, below]

/-- A run of characters that satisfy a predicate, and then one that does not, or the end.
    The induction is on the run. -/
theorem skipWhile_inline {p : Char → Bool} (h : c.rest = cs ++ xs)
    (hcs : ∀ x ∈ cs, p x = true ∧ isInline x = true) (hxs : ∀ x ∈ xs.head?, p x = false) :
    c.skipWhile p = c.along cs.length := by
  induction cs generalizing c with
  | nil =>
      rw [List.nil_append] at h
      unfold skipWhile
      cases xs with
      | nil => rw [dif_neg (outside_of_rest h)]; rfl
      | cons x xs =>
          rw [dif_pos (inside_of_rest h), peek_of_rest h, hxs x rfl]
          rfl
  | cons x cs ih =>
      rcases hcs x (List.mem_cons_self ..) with ⟨hp, hinline⟩
      have hrest : (c.along 1).rest = cs ++ xs := rest_along_one h
      unfold skipWhile
      rw [dif_pos (inside_of_rest h), peek_of_rest h, if_pos hp, next_inline h hinline,
        ih hrest (fun x hx => hcs x (List.mem_cons_of_mem _ hx)), along_along, List.length_cons,
        Nat.add_comm]

theorem skip_inline (h : c.rest = cs ++ xs) (hcs : ∀ x ∈ cs, isInline x = true) :
    c.skip cs.length = c.along cs.length := by
  induction cs generalizing c with
  | nil => rfl
  | cons x cs ih =>
      have hrest : (c.along 1).rest = cs ++ xs := rest_along_one h
      rw [List.length_cons, skip, next_inline h (hcs x (List.mem_cons_self ..)),
        ih hrest (fun x hx => hcs x (List.mem_cons_of_mem _ hx)), along_along, Nat.add_comm]

theorem upTo_along (h : c.rest = cs ++ xs) : c.upTo (c.along cs.length) = cs := by
  have htake : c.upTo (c.along cs.length) = c.rest.take cs.length := by
    simp [upTo, along, rest, Array.toList_extract, List.extract_eq_take_drop]
  rw [htake, h, List.take_left]

theorem takeWhile_inline {p : Char → Bool} (h : c.rest = cs ++ xs)
    (hcs : ∀ x ∈ cs, p x = true ∧ isInline x = true) (hxs : ∀ x ∈ xs.head?, p x = false) :
    c.takeWhile p = (cs, c.along cs.length) := by
  simp only [takeWhile, skipWhile_inline h hcs hxs, upTo_along h]

theorem lineEnd_of_rest (h : c.rest = '\n' :: xs) : c.lineEnd = (['\n'], c.below) := by
  have hreturn : ('\n' == '\r') = false := by decide
  unfold lineEnd
  simp only [peek_of_rest h, hreturn, Bool.false_and, Bool.false_eq_true, if_false,
    beq_self_eq_true, Bool.true_or, if_true, next_break h]

/-- No mark that separates documents stands here, if the line begins otherwise. -/
theorem atSeparator_of_rest (h : ∀ x ∈ c.rest.head?, x ≠ '-' ∧ x ≠ '.') :
    c.atSeparator = false := by
  -- A separator is the same character three times, so it begins with it.
  have hword (word : Char) (hne : ∀ x ∈ c.rest.head?, x ≠ word) :
      c.goesOn [word, word, word] = false := by
    have htake : (c.text.extract c.mark.index (c.mark.index + 3)).toList = c.rest.take 3 := by
      simp [rest, Array.toList_extract, List.extract_eq_take_drop]
    unfold goesOn
    rw [List.length_cons, List.length_cons, List.length_singleton, htake, beq_eq_false_iff_ne]
    intro heq
    cases hr : c.rest with
    | nil => simp [hr] at heq
    | cons x xs =>
        rw [hr, List.take_succ_cons] at heq
        exact hne x (by rw [hr]; rfl) (List.cons.inj heq).1
  unfold atSeparator
  rw [hword '-' (fun x hx => (h x hx).1), hword '.' (fun x hx => (h x hx).2)]
  rfl

end Cursor

end Yaml

end Annals
