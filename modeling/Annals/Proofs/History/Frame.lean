import Annals.Proofs.History.Chronicle
import Annals.Proofs.History.WireFormat

/-!
# A History in a Document

A history in a comment below a heading is found in the document, and what is found is
the text that was written.

A history is tame, so it has no mark that ends the comment or the fence, and what is
asked for is asked of its surroundings alone. The info is the language and the label,
whatever their case and whatever blanks are around them. That it has none of these marks
either follows from this, since they would show in lower case.

## Main definitions

* `History.Frame`: What stands around a history in a document.
* `Frame.around`: A history with its surroundings.
* `Frame.document`: The document that holds a history and nothing else.

## Theorems

* `not_mem_of_isHistory`: What is not in the info of a history.
* `Frame.candidates_around`: The one candidate of the document.
* `Frame.block_around`: It is a block with the text of the history.
-/

namespace Annals

namespace History

open Markdown

/-- A character without a case that is in neither word of the info is not in the info. -/
theorem not_mem_of_isHistory {info : List Char} (h : IsHistory info) {c : Char}
    (hcase : Text.isSigma c = false ∧ Text.lowerChar c = [c]) (hink : Text.isBlank c = false)
    (hnone : c ∉ language.toList ∧ c ∉ labelWord.toList) : c ∉ info := by
  intro hc
  rcases Text.mem_words hink hc with ⟨w, hw, hcw⟩
  have hlower := Text.mem_lower_of_caseless hcase.1 hcase.2 hcw
  have hmem : Text.lower w ∈ (Text.words info).map Text.lower := List.mem_map_of_mem hw
  rw [h] at hmem
  rcases List.mem_cons.mp hmem with heq | hmem
  · exact hnone.1 (heq ▸ hlower)
  · exact hnone.2 (List.mem_singleton.mp hmem ▸ hlower)

theorem tick_of_closesFence {l : List Char} (h : ClosesFence l) : Inlines.tick ∈ l := by
  rcases h with ⟨indent, length, tail, _, hlength, rfl, _⟩
  obtain ⟨length, rfl⟩ : ∃ n, length = n + 1 := ⟨length - 1, by omega⟩
  simp [List.replicate_succ]

theorem bracket_of_endsComment {cs : List Char} (h : Html.EndsComment cs) : '>' ∈ cs := by
  rcases h with ⟨before, blanks, after, rfl, _⟩
  simp

/-- A character that is in no line of a fence, nor ends a line, is not in the comment. -/
theorem not_mem_commentBody {info : List Char} {yaml : List (List Char)} {c : Char}
    (hend : c ≠ '\n') (hfence : c ∉ fenceLine) (hinfo : c ∉ info) (hyaml : ∀ l ∈ yaml, c ∉ l) :
    c ∉ commentBody info yaml := by
  intro hc
  rcases Text.mem_unlines.mp hc with ⟨l, hl, hmem | hmem⟩
  · simp only [fencedLines, List.mem_cons, List.mem_append, List.not_mem_nil, or_false] at hl
    rcases hl with rfl | rfl | hl | rfl
    · cases hmem
    · exact (List.mem_append.mp hmem).elim hfence hinfo
    · exact hyaml l hl hmem
    · exact hfence hmem
  · exact hend hmem

/-- A history has no character that is not tame. -/
theorem Chronicle.not_mem_line (h : Chronicle) {c : Char} (hc : isTame c = false) :
    ∀ l ∈ h.lines, c ∉ l := by
  intro l hl hmem
  rw [h.tame l hl c hmem] at hc
  cases hc

theorem Chronicle.writable_line (h : Chronicle) : ∀ l ∈ h.lines, IsWritable l := by
  intro l hl c hc
  have hwritable := of_isTame (p := fun c => c != '\n' && c != '\r' && c.toNat != 0)
    (by decide +kernel) (h.tame l hl c hc)
  simpa [and_assoc] using hwritable

/-- What stands around a history in a document: the heading, the lines between the heading
    and the comment, the info of the fence, and the line behind the comment. -/
structure Frame where
  heading : List Char
  blanks : List (List Char)
  info : List Char
  last : List Char
  isHeading : IsHeading heading
  isBlank : ∀ l ∈ blanks, l.all isSpace = true
  lastBlank : last.all isSpace = true
  isHistory : IsHistory info
  writable : ∀ l ∈ heading :: info :: last :: blanks, IsWritable l

instance : Inhabited Frame where
  default :=
    { heading := "## Events".toList
      blanks := [[]]
      info := "YAML history".toList
      last := []
      isHeading := (default : Section).isHeading
      isBlank := (default : Section).isBlank
      lastBlank := (default : Section).lastBlank
      isHistory := by
        unfold IsHistory
        decide +kernel
      writable := by decide +kernel }

namespace Frame

/-- A history with its surroundings. -/
def around (f : Frame) (h : Chronicle) : Section where
  heading := f.heading
  blanks := f.blanks
  info := f.info
  yaml := h.lines
  last := f.last
  isHeading := f.isHeading
  isBlank := f.isBlank
  lastBlank := f.lastBlank
  infoOpen := not_mem_of_isHistory f.isHistory (by decide +kernel) (by decide) (by decide)
  yamlOpen := fun l hl hcloses =>
    h.not_mem_line (by decide) l hl (tick_of_closesFence hcloses)
  bodyOpen := fun hends =>
    not_mem_commentBody (by decide) (by decide)
      (not_mem_of_isHistory f.isHistory (by decide +kernel) (by decide) (by decide))
      (h.not_mem_line (by decide)) (bracket_of_endsComment hends)
  writable := by
    intro l hl
    have hsplit : l ∈ f.heading :: f.info :: f.last :: f.blanks ∨ l ∈ h.lines := by
      simp only [List.mem_cons, List.mem_append] at hl ⊢
      tauto
    exact hsplit.elim (f.writable l) (h.writable_line l)

/-- The document that holds a history in its surroundings and nothing else. -/
def document (f : Frame) (h : Chronicle) : String := History.document [f.around h]

/-- The line on which the comment around a history begins. -/
def line (f : Frame) : Nat := f.blanks.length + 2

/-- The comment around a history is the one candidate of the document. -/
theorem candidates_around (f : Frame) (h : Chronicle) :
    candidates (f.document h) = [(f.around h).candidate f.line] := by
  have hall : ∀ s ∈ [f.around h], IsHistory s.info := by
    intro s hs
    rw [List.mem_singleton.mp hs]
    exact f.isHistory
  rw [document, candidates_histories hall]
  simp [placed, around, line]

/-- The comment around a history is a block with the text of the history. -/
theorem block_around (f : Frame) (h : Chronicle) :
    block ((f.around h).candidate f.line)
      = .ok ⟨(f.around h).candidate f.line, h.text, (splitInfo (String.ofList f.info)).1,
          (splitInfo (String.ofList f.info)).2, f.line + 2⟩ :=
  ((f.around h).block_section f.line).1 f.isHistory

end Frame

end History

end Annals
