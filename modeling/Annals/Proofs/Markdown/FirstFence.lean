import Annals.Markdown.Document
import Annals.Proofs.Text.Lines

/-!
# Fences at the Top of a Document

The mark that opens a fence stands in the document as it was written, if the fence lies
in no container.

Nothing is taken off a line outside of quotes and lists, so a fence there begins on a
line of the document (`opens_of_readBlocks`). The text in which lines are looked for is
not quite the one that was written, since line ends are made alike in it and the null
character is replaced; a word in which neither can have come about is in the one if it
is in the other (`infix_of_normalizedSource`).

## Main definitions

* `Markdown.lineOf`: A line of a document.

## Theorems

* `opens_of_parse`: The line on which a fence begins.
* `infix_of_lineOf`: What stands in a line stands in the document.
-/

namespace Annals

namespace Markdown

/-- The line of a place on which a fence begins, with the info of the fence. -/
def Place.Opens (p : Place) (n : Nat) (info : String) : Prop :=
  ∃ mark, fenceMark? (p.line n).content = some mark ∧ info = String.ofList mark.info

theorem not_fence_of_plainBlock {p : Place} {n stop : Nat} {span : Span} {info body : String} :
    .fence span info body ∉ (p.plainBlock n stop).blocks := by
  unfold Place.plainBlock
  simp only []
  split
  · exact List.not_mem_nil
  split
  · exact fun h => by cases List.mem_singleton.mp h
  split
  · exact fun h => by cases List.mem_singleton.mp h
  split
  · exact fun h => by cases List.mem_singleton.mp h
  · exact fun h => by cases List.mem_singleton.mp h

theorem opens_of_readBlock {fuel : Nat} {p : Place} {n stop : Nat} {span : Span}
    {info body : String} (h : .fence span info body ∈ (readBlock fuel p n stop).blocks) :
    p.Opens span.first info := by
  cases fuel with
  | zero =>
      rw [readBlock] at h
      exact absurd h List.not_mem_nil
  | succ fuel =>
      unfold readBlock at h
      simp only [] at h
      split at h
      · cases List.mem_singleton.mp h
      split at h
      · -- Of the blocks that a line can begin, only this one is a fence.
        next mark hmark =>
          cases List.mem_singleton.mp h
          exact ⟨mark, hmark, rfl⟩
      · cases List.mem_singleton.mp h
      split at h
      · cases List.mem_singleton.mp h
      split at h
      · split at h <;> cases List.mem_singleton.mp h
      · exact absurd h not_fence_of_plainBlock

/-- A fence among blocks that lies in none of them begins on a line of the place. The induction
    is on the fuel. -/
theorem opens_of_readBlocks {fuel : Nat} {p : Place} {n stop : Nat} {span : Span}
    {info body : String} (h : .fence span info body ∈ (readBlocks fuel p n stop).blocks) :
    p.Opens span.first info := by
  induction fuel generalizing n with
  | zero =>
      rw [readBlocks] at h
      exact absurd h List.not_mem_nil
  | succ fuel ih =>
      unfold readBlocks at h
      simp only [] at h
      split at h
      · exact absurd h List.not_mem_nil
      split at h
      · exact absurd h List.not_mem_nil
      split at h
      · exact absurd h List.not_mem_nil
      rcases List.mem_append.mp h with h | h
      · exact opens_of_readBlock h
      · exact ih h

theorem fence_of_mapAll {α β : Type} {f : α → β} {blocks : List (Block α)} {span : Span}
    {info body : String} (h : .fence span info body ∈ Block.mapAll f blocks) :
    .fence span info body ∈ blocks := by
  induction blocks with
  | nil => exact absurd h List.not_mem_nil
  | cons block rest ih =>
      rw [Block.mapAll] at h
      rcases List.mem_cons.mp h with h | h
      · cases block with
        | fence span' info' body' =>
            cases h
            exact List.mem_cons_self ..
        | _ => cases h
      · exact List.mem_cons_of_mem _ (ih h)

/-! What stands in a line stands in the text. -/

/-- The content of every line of a text is a part of the text. -/
theorem infix_of_mem_ofSource {source : List Char} {l : Line} (h : l ∈ Line.ofSource source) :
    l.content <:+: source := by
  -- A line is a piece between line ends, whether or not an end comes behind it.
  have hplain (piece : List Char) (ended : Bool) (hpiece : piece ∈ Text.splitOn '\n' source) :
      (Line.plain piece ended).content <:+: source :=
    (List.drop_suffix _ _).isInfix.trans (Text.infix_of_mem_splitOnFrom hpiece)
  unfold Line.ofSource at h
  simp only [] at h
  rcases List.mem_append.mp h with h | h
  · rcases List.mem_map.mp h with ⟨piece, hpiece, rfl⟩
    exact hplain piece true (List.dropLast_subset _ hpiece)
  · split at h
    · exact absurd h List.not_mem_nil
    · rw [List.mem_singleton.mp h]
      cases hlast : (Text.splitOn '\n' source).getLast? with
      | none => exact List.nil_infix
      | some piece => exact hplain piece false (List.mem_of_getLast? hlast)

/-- A character that stands for itself in the lines of a document. -/
def isKept (c : Char) : Bool := c != '\n' && c != Char.ofNat 0xFFFD

theorem normalizedSource_nil : normalizedSource [] = [] := rfl

theorem normalizedSource_crlf (rest : List Char) :
    normalizedSource ('\r' :: '\n' :: rest) = '\n' :: normalizedSource rest := rfl

/-- A character that is kept in a line comes from this character. -/
theorem normalizedSource_cons {c : Char} {rest : List Char}
    (hne : ∀ tail, c = '\r' → rest = '\n' :: tail → False) :
    ∃ d, normalizedSource (c :: rest) = d :: normalizedSource rest ∧ (isKept d = true → d = c) := by
  let e := if c == '\r' then '\n' else c
  refine ⟨if e.toNat == 0 then Char.ofNat 0xFFFD else e, ?_, fun hkept => ?_⟩
  · unfold normalizedSource
    rw [Text.joinLineEnds.eq_3 c rest hne]
    rfl
  · split at hkept
    · exact absurd hkept (by decide)
    · next hnull =>
        rw [if_neg hnull]
        by_cases hc : c == '\r'
        · exact absurd hkept (by simp [e, hc, isKept])
        · simp [e, hc]

theorem prefix_of_normalizedSource {w cs : List Char} (h : w <+: normalizedSource cs)
    (hw : ∀ c ∈ w, isKept c = true) : w <+: cs := by
  induction w generalizing cs with
  | nil => exact List.nil_prefix
  | cons a w ih =>
      have ha := hw a (List.mem_cons_self ..)
      have hrest : ∀ {cs}, w <+: normalizedSource cs → w <+: cs := fun h =>
        ih h fun c hc => hw c (List.mem_cons_of_mem _ hc)
      -- The source changes where two marks end a line, and at characters that the text does not
      -- have.
      fun_cases Text.joinLineEnds cs with
      | case1 =>
          rw [normalizedSource_nil, List.prefix_nil] at h
          cases h
      | case2 rest =>
          rw [normalizedSource_crlf, List.cons_prefix_cons] at h
          rw [h.1] at ha
          exact absurd ha (by decide)
      | case3 c rest hne =>
          rcases normalizedSource_cons hne with ⟨d, hsource, hsame⟩
          rw [hsource, List.cons_prefix_cons] at h
          rw [h.1, hsame (h.1 ▸ ha), List.cons_prefix_cons]
          exact ⟨rfl, hrest h.2⟩

/-- A word of such characters stands in a text if it stands in its lines. -/
theorem infix_of_normalizedSource {w cs : List Char} (h : w <:+: normalizedSource cs)
    (hw : ∀ c ∈ w, isKept c = true) : w <:+: cs := by
  fun_induction Text.joinLineEnds cs with
  | case1 => exact h
  | case2 rest ih =>
      rw [normalizedSource_crlf] at h
      rcases List.infix_cons_iff.mp h with h | h
      · exact (prefix_of_normalizedSource (normalizedSource_crlf rest ▸ h) hw).isInfix
      · exact (ih h).trans ((List.suffix_cons _ _).trans (List.suffix_cons _ _)).isInfix
  | case3 c rest hne ih =>
      rcases normalizedSource_cons hne with ⟨d, hsource, _⟩
      rw [hsource] at h
      rcases List.infix_cons_iff.mp h with h | h
      · exact (prefix_of_normalizedSource (hsource ▸ h) hw).isInfix
      · exact (ih h).trans (List.suffix_cons _ _).isInfix

/-- The line of a document on which a block begins. -/
def lineOf (source : String) (n : Nat) : Line :=
  (Line.ofSource (normalizedSource source.toList)).toArray.getD n .beyond

theorem opens_of_blocksOf {source : String} {span : Span} {info : String} {body : String}
    (h : .fence span info body ∈ (blocksOf source.toList).1) :
    ∃ mark, fenceMark? (lineOf source span.first).content = some mark ∧
      info = String.ofList mark.info := by
  unfold blocksOf at h
  simp only [] at h
  rcases opens_of_readBlocks h with ⟨mark, hmark, hinfo⟩
  exact ⟨mark, hmark, hinfo⟩

/-- A fence of a document that lies in no container is opened by the mark on its line, and its
    info stands behind the mark. -/
theorem opens_of_parse {source : String} {span : Span} {info body : String}
    (h : .fence span info body ∈ parse source) :
    ∃ mark, fenceMark? (lineOf source span.first).content = some mark ∧
      info = String.ofList mark.info := by
  unfold parse at h
  exact opens_of_blocksOf (fence_of_mapAll h)

theorem infix_of_lineOf {source : String} {n : Nat} {w : List Char}
    (h : w <:+: (lineOf source n).content) (hw : ∀ c ∈ w, isKept c = true) :
    w <:+: source.toList := by
  refine infix_of_normalizedSource (h.trans ?_) hw
  unfold lineOf
  rw [Array.getD_eq_getD_getElem?, List.getElem?_toArray]
  cases hl : (Line.ofSource (normalizedSource source.toList))[n]? with
  | none => exact List.nil_infix
  | some l => exact infix_of_mem_ofSource (List.mem_of_getElem? hl)

end Markdown

end Annals
