import Annals.Html.Fragment

/-!
# A Fragment That Is One Comment

A fragment that begins with the mark of a comment and ends with the line on which
the comment ends is that comment and nothing else, provided that its body holds no
mark that ends it before.

The mark that ends a comment may have blanks in it, and so could begin in the body
and go on behind it. It does not, since the hyphens that stand behind the body are no
closing bracket; all that has to be asked for is that the body does not end with a
hyphen.

## Main definitions

* `Html.EndsComment`: A text holds a mark that ends a comment.

## Theorems

* `commentBody?_append`: The body of a comment.
* `parseFragment_comment`: A fragment that is one comment.
-/

namespace Annals

namespace Html

/-- A text holds a mark that ends a comment: two hyphens, blanks, and a closing
    bracket. -/
def EndsComment (cs : List Char) : Prop :=
  ∃ before blanks after, cs = before ++ '-' :: '-' :: (blanks ++ '>' :: after) ∧
    ∀ c ∈ blanks, Text.isBlank c = true

theorem endsComment_cons {c : Char} {cs : List Char} (h : EndsComment cs) :
    EndsComment (c :: cs) := by
  rcases h with ⟨before, blanks, after, rfl, hblanks⟩
  exact ⟨c :: before, blanks, after, rfl, hblanks⟩

/-- A closing bracket that is found behind blanks stands before the next hyphen. -/
theorem bracket_of_trimStart {tail rest after : List Char}
    (h : Text.trimStart (tail ++ '-' :: rest) = '>' :: after) :
    ∃ blanks after', tail = blanks ++ '>' :: after' ∧ ∀ c ∈ blanks, Text.isBlank c = true := by
  have hhyphen : Text.isBlank '-' = false := by decide
  unfold Text.trimStart at h
  induction tail with
  | nil =>
      -- The hyphen is no blank, so it is what the text begins with.
      rw [List.nil_append, List.dropWhile_cons, hhyphen] at h
      simp at h
  | cons c tail ih =>
      rw [List.cons_append, List.dropWhile_cons] at h
      cases hc : Text.isBlank c with
      | false =>
          rw [hc] at h
          simp only [Bool.false_eq_true, if_false, List.cons.injEq] at h
          rw [h.1]
          exact ⟨[], tail, rfl, fun _ hmem => absurd hmem (List.not_mem_nil)⟩
      | true =>
          rw [hc, if_pos rfl] at h
          rcases ih h with ⟨blanks, after', rfl, hblanks⟩
          refine ⟨c :: blanks, after', rfl, fun d hd => ?_⟩
          rcases List.mem_cons.mp hd with rfl | hd
          · exact hc
          · exact hblanks d hd

/-- Where a comment may end at the start of a text. -/
def closed? (c : Char) (rest : List Char) : Option (List Char) :=
  match c, rest with
  | '-', '-' :: tail =>
    match Text.trimStart tail with
    | '>' :: after => some after
    | _ => none
  | _, _ => none

theorem commentBody?_cons (c : Char) (rest : List Char) :
    commentBody? (c :: rest) = match closed? c rest with
      | some after => some ([], after)
      | none => (commentBody? rest).map fun (body, after) => (c :: body, after) := rfl

/-- A comment does not end inside of a body without a mark that ends it. -/
theorem closed?_none {c : Char} {body : List Char} (hopen : ¬ EndsComment (c :: body))
    (hlast : (c :: body).getLast? ≠ some '-') (after : List Char) :
    closed? c (body ++ '-' :: '-' :: '>' :: after) = none := by
  unfold closed?
  split
  · next tail heq =>
      cases body with
      | nil => exact absurd rfl hlast
      | cons d body =>
          -- Both hyphens lie in the body, so the bracket would have to as well.
          rw [List.cons_append, List.cons.injEq] at heq
          rcases heq with ⟨rfl, rfl⟩
          split
          · next after' htrim =>
              rcases bracket_of_trimStart htrim with ⟨blanks, rest, rfl, hblanks⟩
              exact absurd ⟨[], blanks, rest, rfl, hblanks⟩ hopen
          · rfl
  · rfl

/-- The body of a comment without a mark that ends it. -/
theorem commentBody?_append {body : List Char} (hopen : ¬ EndsComment body)
    (hlast : body.getLast? ≠ some '-') (after : List Char) :
    commentBody? (body ++ '-' :: '-' :: '>' :: after) = some (body, after) := by
  induction body with
  | nil => rfl
  | cons c body ih =>
      have hlast' : body.getLast? ≠ some '-' := by
        cases body with
        | nil => exact fun h => by cases h
        | cons d body => simpa using hlast
      have hrest := ih (fun h => hopen (endsComment_cons h)) hlast'
      rw [List.cons_append, commentBody?_cons, closed?_none hopen hlast after, hrest]
      rfl

/-- A comment at the start of a fragment, and the events behind it. -/
theorem eventsFrom_comment (fuel : Nat) {cs body after : List Char}
    (h : commentBody? cs = some (body, after)) :
    eventsFrom (fuel + 1) none ('<' :: '!' :: '-' :: '-' :: cs)
      = (eventsFrom fuel none after).map fun others => .comment (String.ofList body) :: others := by
  have hempty : (resolved []).map textEvent = .ok [] := rfl
  rw [eventsFrom]
  · simp only [List.takeWhile_cons, List.dropWhile_cons, bne_self_eq_false, Bool.false_eq_true,
      if_false, Option.isSome_none, hempty, h, Option.map_some, bind, Except.bind, pure,
      Except.pure]
    cases eventsFrom fuel none after with
    | error f => rfl
    | ok others => rfl
  · exact fun heq => by cases heq

/-- A fragment that is one comment and the end of its last line. -/
theorem parseFragment_comment {body : List Char} (hopen : ¬ EndsComment body)
    (hlast : body.getLast? ≠ some '-') :
    parseFragment (String.ofList ('<' :: '!' :: '-' :: '-' :: (body ++ ['-', '-', '>', '\n'])))
      = .ok [.comment (String.ofList body)] := by
  have hbody := commentBody?_append hopen hlast ['\n']
  have hend : ∀ fuel, eventsFrom (fuel + 1) none ['\n'] = .ok [.text "\n"] := fun _ => rfl
  have hfuel : ∃ fuel, ('<' :: '!' :: '-' :: '-' :: (body ++ ['-', '-', '>', '\n'])).length
      = fuel + 1 := ⟨_, rfl⟩
  rcases hfuel with ⟨fuel, hfuel⟩
  unfold parseFragment events
  rw [String.toList_ofList]
  simp only [hfuel, eventsFrom_comment (fuel + 1) hbody, hend]
  rfl

end Html

end Annals
