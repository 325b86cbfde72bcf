import Annals.Proofs.Yaml.Cursor
import Annals.Yaml.Scan

/-!
# Places of a Text

Which marks are places of a text, and which line such a place is on.

Reading moves its cursor forward, one character at a time, and no mark is ever made in
another way. So every mark that a cursor leaves behind is a place of the text, and its line
is the number of line ends before it. These are the line ends of YAML: apart from the line
feed, three more characters end a line, and a carriage return, which is left out here since
it counts only if no line feed follows.

`Points` says where a step of the reading fails, together with what is known once it
succeeds, so steps can be put together without looking into them again.

## Main definitions

* `Cursor.Within`: A cursor that was moved forward from the start of a text.
* `IsPlace`: A mark of such a cursor.
* `Points`: A step whose problems are at places.

## Theorems

* `Within.skipWhile`, `Within.lineEnd`: Cursors that are moved on.
* `IsPlace.index`, `IsPlace.line`: The place of a mark in the text, and its line.
* `Points.bind`, `Points.map`, `Points.ite`: Steps put together.
-/

namespace Annals

namespace Yaml

namespace Cursor

/-- A cursor that was moved forward from the start of a text. -/
inductive Within (text : List Char) : Cursor → Prop where
  | start : Within text (start text)
  | next {c : Cursor} : Within text c → Within text c.next

namespace Within

variable {text : List Char} {c : Cursor}

theorem skip (h : c.Within text) (count : Nat) : (c.skip count).Within text := by
  induction count generalizing c with
  | zero => exact h
  | succ n ih => exact ih h.next

theorem skipWhile (h : c.Within text) (p : Char → Bool) : (c.skipWhile p).Within text := by
  fun_induction Cursor.skipWhile p c with
  | case1 c hinside hp ih => exact ih h.next
  | case2 => exact h
  | case3 => exact h

theorem ite {q : Prop} {_ : Decidable q} {d : Cursor} (h : c.Within text) (hd : d.Within text) :
    (if q then c else d).Within text := by
  split
  · exact h
  · exact hd

theorem takeWhile (h : c.Within text) (p : Char → Bool) : (c.takeWhile p).2.Within text :=
  h.skipWhile p

theorem lineEnd (h : c.Within text) : c.lineEnd.2.Within text := by
  unfold Cursor.lineEnd
  simp only []
  split
  · exact h.skip 2
  split
  · exact h.next
  split
  · exact h.next
  · exact h

theorem text_eq (h : c.Within text) : c.text = text.toArray := by
  induction h with
  | start => rfl
  | next _ ih =>
      rw [← ih]
      unfold Cursor.next
      split <;> rfl

end Within

theorem next_of_end {c : Cursor} (h : ¬ c.mark.index < c.text.size) : c.next = c := by
  unfold next
  rw [if_neg h]

theorem index_next {c : Cursor} (h : c.mark.index < c.text.size) :
    c.next.mark.index = c.mark.index + 1 := by
  unfold next
  simp only [h, if_true]
  split
  · rfl
  split <;> rfl

/-- Every line end moves a cursor to the next line, if it is not the first half of one. -/
theorem line_next {c : Cursor} (h : c.mark.index < c.text.size) (hreturn : c.peek ≠ '\r') :
    c.next.mark.line = c.mark.line + if isBreak c.peek then 1 else 0 := by
  have hwhole : (c.peek == '\r') = false := beq_eq_false_iff_ne.mpr hreturn
  unfold next
  simp only [h, if_true, hwhole, Bool.false_and, Bool.not_false, Bool.and_true]
  split
  · rfl
  split <;> rfl

end Cursor

/-- A place of a text: the mark of a cursor that was moved forward from its start. -/
def IsPlace (text : List Char) (m : Mark) : Prop := ∃ c : Cursor, c.Within text ∧ c.mark = m

section

variable {text : List Char} {c : Cursor} {m : Mark}

theorem Cursor.Within.isPlace (h : c.Within text) : IsPlace text c.mark := ⟨c, h, rfl⟩

theorem isPlace_default : IsPlace text default := ⟨.start text, .start, rfl⟩

/-- No place is behind the end of its text. -/
theorem IsPlace.index (h : IsPlace text m) : m.index ≤ text.length := by
  rcases h with ⟨c, hc, rfl⟩
  induction hc with
  | start => exact Nat.zero_le _
  | @next c hc ih =>
      by_cases hinside : c.mark.index < c.text.size
      · rw [Cursor.index_next hinside]
        rw [hc.text_eq, List.size_toArray] at hinside
        exact hinside
      · rw [Cursor.next_of_end hinside]
        exact ih

/-- The line of a place is the number of line ends before it. -/
theorem IsPlace.line (h : IsPlace text m) (hreturn : '\r' ∉ text) :
    m.line = (text.take m.index).countP isBreak := by
  rcases h with ⟨c, hc, rfl⟩
  induction hc with
  | start => rfl
  | @next c hc ih =>
      by_cases hinside : c.mark.index < c.text.size
      · have hlength : c.mark.index < text.length := by
          rw [hc.text_eq, List.size_toArray] at hinside
          exact hinside
        have hpeek : c.peek = text[c.mark.index] := by
          rw [Cursor.peek_eq, Cursor.rest, hc.text_eq]
          simp [List.getElem?_drop, List.getElem?_eq_getElem hlength]
        -- Without carriage returns, no line end is put off to the next character.
        have hne : c.peek ≠ '\r' := fun heq =>
          hreturn (heq ▸ hpeek ▸ List.getElem_mem hlength)
        rw [Cursor.line_next hinside hne, Cursor.index_next hinside, List.take_add_one,
          List.countP_append, ← ih, List.getElem?_eq_getElem hlength, hpeek]
        rw [Option.toList_some, List.countP_singleton]
      · rw [Cursor.next_of_end hinside]
        exact ih

end

/-- A step fails with a problem only at a mark that satisfies `P`, and where it succeeds, its
    outcome satisfies `Q`. -/
structure Points {α : Type} (P : Mark → Prop) (x : Except Fault α) (Q : α → Prop) : Prop where
  fails : ∀ p, x = .error (.problem p) → P p.mark
  gives : ∀ a, x = .ok a → Q a

namespace Points

variable {α β : Type} {P : Mark → Prop} {x y : Except Fault α} {Q : α → Prop} {R : β → Prop}

theorem ok {a : α} (h : Q a) : Points P (.ok a) Q :=
  ⟨fun p hp => (by cases hp), fun a' ha => (by cases ha; exact h)⟩

theorem problem {p : Problem} (h : P p.mark) : Points P (.error (.problem p)) Q :=
  ⟨fun p' hp => (by cases hp; exact h), fun a ha => (by cases ha)⟩

/-- A defect of a value has no place. -/
theorem defect (d : Defect) : Points P (.error (.defect d)) Q :=
  ⟨fun p hp => (by cases hp), fun a ha => (by cases ha)⟩

theorem bind {next : α → Except Fault β} (h : Points P x Q)
    (hnext : ∀ a, Q a → Points P (next a) R) : Points P (x >>= next) R := by
  cases hx : x with
  | error f => exact ⟨fun p hp => h.fails p (by cases hp; exact hx), fun b hb => (by cases hb)⟩
  | ok a => exact hnext a (h.gives a hx)

theorem map {f : α → β} (h : Points P x Q) (hf : ∀ a, Q a → R (f a)) : Points P (x.map f) R := by
  cases hx : x with
  | error fault => exact ⟨fun p hp => h.fails p (by cases hp; exact hx), fun b hb => (by cases hb)⟩
  | ok a => exact ok (hf a (h.gives a hx))

theorem ite {q : Prop} {_ : Decidable q} (hx : Points P x Q) (hy : Points P y Q) :
    Points P (if q then x else y) Q := by
  split
  · exact hx
  · exact hy

end Points

end Yaml

end Annals
