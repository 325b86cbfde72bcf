import Annals.Markdown.Slug
import Annals.Proofs.Text.Words
import Mathlib.Data.List.Basic

/-!
# Slugs Word by Word

The slug of several words is made of the slugs of the words, with a hyphen for every blank
between them. Of the four steps that make a slug, three are no obstacle. Trimming takes blanks
off the outer ends alone, where phrases have none, so it does nothing to the whole or to the
parts; and putting hyphens for blanks and dropping what may not stand in a slug go letter by
letter. What is left is the lower case, in which a capital sigma looks at the letters on both
sides of it, and through any number of marks and signs between them.

A blank bounds this view. It is no character that is looked through, and it has no case, so
what is found at a blank is what would be found at the end of the text. This is all that is
needed of it, and it holds in both directions: of the letters behind a blank when it is seen
from the front, and of those in front of it when it is seen from behind.

## Main definitions

* `Text.EndsContext`: A character that bounds what a letter sees of its neighbours.
* `Text.IsPhrase`: A text that has no blanks at its ends.
* `Text.spaced`: Phrases with something between them.

## Theorems

* `lower_append_blanks`: The lower case of what stands around blanks.
* `ofChars_append_blanks`: The slug of two phrases with blanks between them.
* `ofChars_spaced`: The slug of any number of phrases.
* `ofText_append_blank`: The slug of two phrases with one blank between them.
-/

namespace Annals

namespace Text

/-- A character that is seen when the end of a word is looked for, and that ends it. -/
structure EndsContext (c : Char) : Prop where
  seen : caseIgnorableRanges.has c.toNat = false
  uncased : casedRanges.has c.toNat = false

theorem endsContext_of_blank {c : Char} (h : isBlank c = true) : EndsContext c := by
  have hcode := @code_of_blank (fun n => !caseIgnorableRanges.has n && !casedRanges.has n)
    (by decide +kernel) c h
  simp only [Bool.and_eq_true, Bool.not_eq_true'] at hcode
  exact ⟨hcode.1, hcode.2⟩

section Context

variable {c : Char} (h : EndsContext c)

include h

/-- No letter is met behind such a character. -/
theorem meetsCased_append (cs rest : List Char) : meetsCased (cs ++ c :: rest) = meetsCased cs := by
  induction cs with
  | nil =>
      have hseen := h.seen
      have huncased := h.uncased
      rw [List.nil_append]
      conv => lhs; rw [meetsCased]
      rw [hseen, if_neg Bool.false_ne_true, huncased]
      rfl
  | cons d cs ih => rw [List.cons_append, meetsCased, meetsCased, ih]

/-- What stands in front of such a character is put in lower case as if nothing followed. -/
theorem lowerFrom_append_cons (before cs rest : List Char) :
    lowerFrom before (cs ++ c :: rest)
      = lowerFrom before cs ++ lowerFrom (cs.reverse ++ before) (c :: rest) := by
  induction cs generalizing before with
  | nil => rfl
  | cons d cs ih =>
      have hword : endsWord before (cs ++ c :: rest) = endsWord before cs := by
        unfold endsWord
        rw [meetsCased_append h]
      rw [List.cons_append, lowerFrom, lowerFrom, hword, ih, List.reverse_cons, List.append_assoc,
        List.append_assoc, List.singleton_append]

/-- What stands behind such a character is put in lower case as if it began there. -/
theorem lowerFrom_behind (first before cs : List Char) :
    lowerFrom (first ++ c :: before) cs = lowerFrom first cs := by
  induction cs generalizing first with
  | nil => rfl
  | cons d cs ih =>
      have hword : endsWord (first ++ c :: before) cs = endsWord first cs := by
        unfold endsWord
        rw [meetsCased_append h]
      rw [lowerFrom, lowerFrom, hword, ← List.cons_append, ih]

end Context

/-- A blank stays, and the texts around it are put in lower case on their own. -/
theorem lower_append_blank {w : Char} (h : isBlank w = true) (cs rest : List Char) :
    lower (cs ++ w :: rest) = lower cs ++ w :: lower rest := by
  have hbound := endsContext_of_blank h
  have hsigma : (w.toNat == 931) = false := (lowerChar_blank h).1
  have hrest : lowerFrom (w :: (cs.reverse ++ [])) rest = lower rest :=
    lowerFrom_behind hbound [] _ rest
  unfold lower
  rw [lowerFrom_append_cons hbound, lowerFrom, hsigma, if_neg Bool.false_ne_true,
    (lowerChar_blank h).2, hrest]
  rfl

/-- Blanks stay, and the texts around them are put in lower case on their own. -/
theorem lower_append_blanks {gap : List Char} (hne : gap ≠ []) (h : ∀ w ∈ gap, isBlank w = true)
    (cs rest : List Char) : lower (cs ++ (gap ++ rest)) = lower cs ++ (gap ++ lower rest) := by
  induction gap generalizing cs with
  | nil => exact absurd rfl hne
  | cons w gap ih =>
      rw [List.cons_append, lower_append_blank (h w (List.mem_cons_self ..)), List.cons_append]
      cases gap with
      | nil => rfl
      | cons v gap =>
          have hothers := ih (List.cons_ne_nil v gap)
            (fun x hx => h x (List.mem_cons_of_mem _ hx)) []
          rw [List.nil_append] at hothers
          rw [hothers]
          rfl

/-- A text that is not empty and has no blanks at its ends. -/
structure IsPhrase (cs : List Char) : Prop where
  nonempty : cs ≠ []
  head : ∀ c ∈ cs.head?, isBlank c = false
  last : ∀ c ∈ cs.getLast?, isBlank c = false

theorem IsPhrase.trim_eq {cs : List Char} (h : IsPhrase cs) : trim cs = cs :=
  trim_of_ends h.head h.last

/-- Two phrases are the ends of a phrase, whatever is between them. -/
theorem IsPhrase.append {a b : List Char} (ha : IsPhrase a) (hb : IsPhrase b)
    (between : List Char) : IsPhrase (a ++ (between ++ b)) where
  nonempty := List.append_ne_nil_of_left_ne_nil ha.nonempty _
  head := by
    rw [List.head?_append_of_ne_nil _ ha.nonempty]
    exact ha.head
  last := by
    rw [← List.append_assoc, List.getLast?_append_of_ne_nil _ hb.nonempty]
    exact hb.last

/-- A text, and others behind it with something in front of each. -/
def spaced (first : List Char) (rest : List (List Char × List Char)) : List Char :=
  first ++ rest.flatMap fun part => part.1 ++ part.2

theorem spaced_nil (first : List Char) : spaced first [] = first := List.append_nil first

theorem spaced_cons (first : List Char) (part : List Char × List Char)
    (rest : List (List Char × List Char)) :
    spaced first (part :: rest) = first ++ (part.1 ++ spaced part.2 rest) := by
  unfold spaced
  rw [List.flatMap_cons, List.append_assoc]

/-- Phrases one after the other are a phrase. -/
theorem isPhrase_spaced {first : List Char} {rest : List (List Char × List Char)}
    (hfirst : IsPhrase first) (hrest : ∀ part ∈ rest, IsPhrase part.2) :
    IsPhrase (spaced first rest) := by
  induction rest generalizing first with
  | nil =>
      rw [spaced_nil]
      exact hfirst
  | cons part rest ih =>
      rw [spaced_cons]
      have hothers := ih (hrest part (List.mem_cons_self ..))
        (fun own hown => hrest own (List.mem_cons_of_mem _ hown))
      exact hfirst.append hothers part.1

end Text

namespace Slug

open Text

/-- The slug of two phrases has a hyphen for every blank between them. -/
theorem ofChars_append_blanks {a gap b : List Char} (ha : IsPhrase a) (hb : IsPhrase b)
    (hne : gap ≠ []) (hgap : ∀ w ∈ gap, isBlank w = true) :
    ofChars (a ++ (gap ++ b)) = ofChars a ++ (List.replicate gap.length '-' ++ ofChars b) := by
  let hyphened := fun c => if isBlank c then '-' else c
  -- A blank becomes a hyphen, and hyphens are kept.
  have hhyphens : (gap.map hyphened).filter isSlugChar = List.replicate gap.length '-' := by
    have hmap : gap.map hyphened = List.replicate gap.length '-' :=
      List.map_eq_replicate_iff.mpr fun w hw => if_pos (hgap w hw)
    rw [hmap, List.filter_replicate_of_pos (by decide)]
  calc ofChars (a ++ (gap ++ b))
      = ((lower (trim (a ++ (gap ++ b)))).map hyphened).filter isSlugChar := rfl
    _ = ((lower a ++ (gap ++ lower b)).map hyphened).filter isSlugChar := by
        rw [(ha.append hb gap).trim_eq, lower_append_blanks hne hgap]
    _ = ((lower a).map hyphened).filter isSlugChar ++
          (List.replicate gap.length '-' ++ ((lower b).map hyphened).filter isSlugChar) := by
        rw [List.map_append, List.map_append, List.filter_append, List.filter_append, hhyphens]
    _ = ((lower (trim a)).map hyphened).filter isSlugChar ++
          (List.replicate gap.length '-' ++ ((lower (trim b)).map hyphened).filter isSlugChar) := by
        rw [ha.trim_eq, hb.trim_eq]

/-- The slug of any number of phrases, each behind some blanks, is made of their slugs. -/
theorem ofChars_spaced {first : List Char} {rest : List (List Char × List Char)}
    (hfirst : IsPhrase first)
    (hrest : ∀ part ∈ rest, part.1 ≠ [] ∧ (∀ w ∈ part.1, isBlank w = true) ∧ IsPhrase part.2) :
    ofChars (spaced first rest) = spaced (ofChars first)
      (rest.map fun part => (List.replicate part.1.length '-', ofChars part.2)) := by
  induction rest generalizing first with
  | nil =>
      rw [spaced_nil, List.map_nil, spaced_nil]
  | cons part rest ih =>
      rcases hrest part (List.mem_cons_self ..) with ⟨hne, hgap, hphrase⟩
      have hbehind : ∀ own ∈ rest, own.1 ≠ [] ∧ (∀ w ∈ own.1, isBlank w = true) ∧ IsPhrase own.2 :=
        fun own hown => hrest own (List.mem_cons_of_mem _ hown)
      rw [spaced_cons, ofChars_append_blanks hfirst (isPhrase_spaced hphrase fun own hown =>
        (hbehind own hown).2.2) hne hgap, ih hphrase hbehind, List.map_cons, spaced_cons]

/-- The slug of two phrases with a blank between them is made of their slugs, with a hyphen
    between them. -/
theorem ofText_append_blank {a b : String} {w : Char} (hw : isBlank w = true)
    (ha : IsPhrase a.toList) (hb : IsPhrase b.toList) :
    ofText (a ++ String.singleton w ++ b) = ofText a ++ "-" ++ ofText b := by
  have hslug := ofChars_append_blanks ha hb (List.cons_ne_nil w [])
    (fun v hv => List.mem_singleton.mp hv ▸ hw)
  have htext : (a ++ String.singleton w ++ b).toList = a.toList ++ ([w] ++ b.toList) := by
    rw [String.toList_append, String.toList_append, String.toList_singleton, List.append_assoc]
  rw [← String.toList_inj, String.toList_append, String.toList_append]
  unfold ofText
  rw [htext, hslug]
  simp only [String.toList_ofList, List.append_assoc]
  rfl

/-- The sigma in front of the blank is final, and that behind it does not see that it has
    letters in front of it. -/
theorem ofText_append_blank_sigma :
    isBlank '\u3000' = true ∧ IsPhrase "ΟΔΟΣ".toList ∧ IsPhrase "ΣΑΣ".toList ∧
      ofText ("ΟΔΟΣ" ++ String.singleton '\u3000' ++ "ΣΑΣ") = "οδος-σας" := by
  have hblank : isBlank '\u3000' = true := by decide
  have hfirst : IsPhrase "ΟΔΟΣ".toList :=
    ⟨by decide, by rintro c ⟨⟩; decide, by rintro c ⟨⟩; decide⟩
  have hsecond : IsPhrase "ΣΑΣ".toList :=
    ⟨by decide, by rintro c ⟨⟩; decide, by rintro c ⟨⟩; decide⟩
  refine ⟨hblank, hfirst, hsecond, ?_⟩
  rw [ofText_append_blank hblank hfirst hsecond]
  decide +kernel

end Slug

end Annals
