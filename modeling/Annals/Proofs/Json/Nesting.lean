import Annals.Json.Reader

/-!
# Lists within Lists

The reader goes down into containers only so far. A text that opens more lists than
that, one within the other, is refused as soon as they are open, whatever comes after
them.

## Theorems

* `readValue_nested`: Too many lists at the start of a value.
* `parse_nested`: Too many lists at the start of a text.
-/

namespace Annals

namespace Json

/-- Too many lists one within the other, counted with those that are open already. The
    induction is on the lists; each of them takes two steps. -/
theorem readValue_nested (n fuel depth : Nat) (rest : List Char) (hdepth : depth ≤ maxNesting)
    (hdeep : maxNesting < depth + n) (hfuel : 2 * n ≤ fuel) :
    readValue fuel depth (List.replicate n '[' ++ rest) = .error .nested := by
  induction n generalizing fuel depth with
  | zero => omega
  | succ n ih =>
      obtain ⟨fuel, rfl⟩ : ∃ left, fuel = left + 2 := ⟨fuel - 2, by omega⟩
      rw [List.replicate_succ, List.cons_append]
      by_cases hfull : maxNesting ≤ depth
      · simp only [readValue, if_pos hfull]
      · -- The list is opened, and what comes first in it is the next one.
        have hinner := ih fuel (depth + 1) (by omega) (by omega) (by omega)
        obtain ⟨n, rfl⟩ : ∃ left, n = left + 1 := ⟨n - 1, by omega⟩
        rw [List.replicate_succ, List.cons_append] at hinner ⊢
        have hspace (cs : List Char) : skipSpace ('[' :: cs) = '[' :: cs := rfl
        have hitems : readItems (fuel + 1) (depth + 1) ('[' :: (List.replicate n '[' ++ rest))
            = .error .nested := by
          rw [readItems, hinner]
          rfl
        simp only [readValue, if_neg hfull, hspace]
        change (readItems (fuel + 1) (depth + 1) _ >>= _) = _
        rw [hitems]
        rfl

/-- A text that opens too many lists is refused. -/
theorem parse_nested {n : Nat} (h : maxNesting < n) (rest : List Char) :
    parse (String.ofList (List.replicate n '[' ++ rest)) = .error .nested := by
  obtain ⟨n, rfl⟩ : ∃ left, n = left + 1 := ⟨n - 1, by omega⟩
  have hvalue := readValue_nested (n + 1) (2 * (List.replicate (n + 1) '[' ++ rest).length + 2) 0
    rest (Nat.zero_le _) (by omega) (by simp; omega)
  have hdocument : readDocument (List.replicate (n + 1) '[' ++ rest) = .error .nested := by
    have hspace (cs : List Char) : skipSpace ('[' :: cs) = '[' :: cs := rfl
    unfold readDocument readDocument.go
    rw [List.replicate_succ, List.cons_append] at hvalue ⊢
    rw [hspace, hvalue]
    rfl
  simp only [parse, String.toList_ofList, hdocument]

end Json

end Annals
