import Annals.Proofs.History.Mention
import Annals.Proofs.Markdown.Placement

/-!
# Where Candidates and Blocks Stand

Which lines of a document the numbers of candidates and history blocks mean.

A candidate has the number of the line on which its block begins. If it is a block of raw
HTML, that is its own line. If it stands in the text of a paragraph or a heading, it is the
first line of this text, and the candidate may begin on a later one.

The number of a history block is put together of three: the line of the candidate, the
lines before the comment in it, and the line of the fence in the comment. Each is counted
in a text of its own, and each of these texts is a part of the one before. So a line of
the history is found in the candidate as many lines behind the number.

## Main definitions

* `Markdown.RawPart.StandsIn`: The block in which a piece of raw HTML stands.

## Theorems

* `standsAmong_of_blocks`: Every piece of raw HTML stands in a block.
* `candidates_located`: The lines of candidates.
* `block_located`: The lines of a history block.
* `block_of_parts`: A block by its numbers and its text.
-/

namespace Annals

namespace Markdown

theorem mem_mapAll {α β : Type} {f : α → β} {blocks : List (Block α)} {b : Block β}
    (h : b ∈ Block.mapAll f blocks) : ∃ a ∈ blocks, b = a.map f := by
  induction blocks with
  | nil => exact absurd h List.not_mem_nil
  | cons a rest ih =>
      rw [Block.mapAll] at h
      rcases List.mem_cons.mp h with rfl | h
      · exact ⟨a, List.mem_cons_self .., rfl⟩
      · rcases ih h with ⟨a, ha, hb⟩
        exact ⟨a, List.mem_cons_of_mem _ ha, hb⟩

theorem inner_map {α β : Type} (f : α → β) (b : Block α) :
    (b.map f).inner = Block.mapAll f b.inner := by
  cases b <;> rfl

/-- What is done to the texts of blocks is done to each of them wherever it lies. -/
theorem within_mapAll {α β : Type} {f : α → β} {blocks : List (Block α)} {b : Block β}
    (h : b.Within (Block.mapAll f blocks)) : ∃ a : Block α, a.Within blocks ∧ b = a.map f := by
  generalize hmap : Block.mapAll f blocks = mapped at h
  induction h generalizing blocks with
  | here hmem =>
      rcases mem_mapAll (hmap ▸ hmem) with ⟨a, ha, hb⟩
      exact ⟨a, .here ha, hb⟩
  | inside hmem _ ih =>
      rcases mem_mapAll (hmap ▸ hmem) with ⟨outer, houter, rfl⟩
      rcases ih (inner_map f outer).symm with ⟨a, ha, hb⟩
      exact ⟨a, .inside houter ha, hb⟩

/-- The block in which a piece of raw HTML stands: itself, or a paragraph or a heading with it in
    its text. -/
inductive RawPart.StandsIn (c : RawPart) : Block (List Inline) → Prop where
  | html {span : Span} : c.line = span.first + 1 → StandsIn c (.html span c.raw)
  | paragraph {span : Span} {parts : List Inline} :
      c ∈ rawInParts (span.first + 1) none parts → StandsIn c (.paragraph span parts)
  | heading {span : Span} {level : Nat} {parts : List Inline} :
      c ∈ rawInParts (span.first + 1) none parts → StandsIn c (.heading span level parts)

/-- A piece of raw HTML stands in one of some blocks or inside of one. -/
def RawPart.StandsAmong (c : RawPart) (blocks : List (Block (List Inline))) : Prop :=
  ∃ b : Block (List Inline), b.Within blocks ∧ c.StandsIn b

theorem RawPart.StandsAmong.around {c : RawPart} {b : Block (List Inline)}
    (h : c.StandsAmong b.inner) : c.StandsAmong [b] := by
  rcases h with ⟨own, hown, hc⟩
  exact ⟨own, .inside (List.mem_singleton_self _) hown, hc⟩

mutual

/-- The raw HTML in a block stands in it. -/
theorem standsAmong_of_block {c : RawPart} : ∀ {previous : Option Kind} (b : Block (List Inline)),
    c ∈ rawInBlock previous b → c.StandsAmong [b]
  | _, .html span raw, h => by
      cases List.mem_singleton.mp h
      exact ⟨_, .here (List.mem_singleton_self _), .html rfl⟩
  | _, .paragraph span parts, h => ⟨_, .here (List.mem_singleton_self _), .paragraph h⟩
  | _, .heading span level parts, h => ⟨_, .here (List.mem_singleton_self _), .heading h⟩
  | _, .quote span blocks, h => (standsAmong_of_blocks blocks h).around
  | _, .bulletList span items, h => (standsAmong_of_blocks items h).around
  | _, .orderedList span items, h => (standsAmong_of_blocks items h).around
  | _, .item span blocks, h => (standsAmong_of_blocks blocks h).around
  | _, .code .., h => by cases h
  | _, .fence .., h => by cases h
  | _, .rule .., h => by cases h

/-- The raw HTML in blocks stands among them. -/
theorem standsAmong_of_blocks {c : RawPart} :
    ∀ {previous : Option Kind} (blocks : List (Block (List Inline))),
      c ∈ rawInBlocks previous blocks → c.StandsAmong blocks
  | _, [], h => absurd h List.not_mem_nil
  | _, b :: rest, h => by
      rw [rawInBlocks] at h
      rcases List.mem_append.mp h with h | h
      · rcases standsAmong_of_block b h with ⟨own, hown, hc⟩
        exact ⟨own, hown.mono (List.cons_subset_cons b (List.nil_subset _)), hc⟩
      · rcases standsAmong_of_blocks rest h with ⟨own, hown, hc⟩
        exact ⟨own, hown.mono (List.subset_cons_self b rest), hc⟩

end

end Markdown

namespace History

open Markdown

variable {source : List Char} {first stop : Nat} {cs part : List Char}

/-- A part of a text in the lines of a document begins in one of these lines. -/
theorem located_of_infix (h : IsPlaced source first stop cs) (hpart : part <:+: cs)
    (hsome : part ≠ []) : ∃ k l, (Text.splitOn '\n' source)[k]? = some l ∧
      Text.trim (Text.firstLine part) <:+: l ∧ first ≤ k ∧ k < stop := by
  rcases Text.line_of_infix hpart hsome with ⟨k, line, hline, hfirst⟩
  rcases h k line hline with ⟨hk, l, hl, hin⟩
  refine ⟨first + k, l, hl, ?_, Nat.le_add_right _ _, hk⟩
  exact hin _ ((Text.infix_of_trim _).trans hfirst) (Text.trim_head _)

/-- A text in the lines of a document begins in the first of these lines. -/
theorem located_first (h : IsPlaced source first stop cs) (hsome : cs ≠ []) :
    ∃ l, (Text.splitOn '\n' source)[first]? = some l ∧
      Text.trim (Text.firstLine cs) <:+: l ∧ first < stop := by
  rcases Text.feedLines_first hsome with ⟨line, rest, hlines⟩
  have hline : (Text.feedLines cs)[0]? = some line := by
    rw [hlines]
    rfl
  have hpiece := Text.piece_of_feedLines hline
  rw [Text.splitOn_firstLine] at hpiece
  rcases h 0 line hline with ⟨hstop, l, hl, hin⟩
  rw [← Option.some.inj hpiece] at hin
  exact ⟨l, hl, hin _ (Text.infix_of_trim _) (Text.trim_head _), hstop⟩

theorem raw_ne_nil {c : Candidate} (h : mentionsHistory c.raw = true) : c.raw.toList ≠ [] := by
  intro hnil
  have hempty : mentionsHistory (String.ofList []) = false := by decide +kernel
  rw [← hnil, String.ofList_toList, h] at hempty
  cases hempty

/-- Every candidate has the number of the line on which its block begins. If it is a block of
    its own, its first line is found there, but for blanks at the ends; otherwise it is found
    in one of the lines of the paragraph or the heading in which the candidate stands. -/
theorem candidates_located {source : String}
    (h : ∀ x ∈ source.toList, x ≠ '\r' ∧ x.toNat ≠ 0) {c : Candidate}
    (hc : c ∈ candidates source) :
    ∃ b : Markdown.Block (List Inline), b.Within (parse source) ∧ c.StandsIn b ∧
      c.line = b.span.first + 1 ∧
      ∃ k l, (Text.splitOn '\n' source.toList)[k]? = some l ∧
        Text.trim (Text.firstLine c.raw.toList) <:+: l ∧ b.span.first ≤ k ∧ k < b.span.stop ∧
        (b.kind = .html → c.line = k + 1) := by
  rcases List.mem_filter.mp hc with ⟨hraw, hmentions⟩
  have hsome := raw_ne_nil hmentions
  rcases standsAmong_of_blocks _ hraw with ⟨b, hb, hstands⟩
  refine ⟨b, hb, hstands, ?_⟩
  rcases within_mapAll hb with ⟨a, ha, rfl⟩
  have hplaced := isPlaced_of_blocksOf h a ha
  -- All raw HTML in a text is a part of it.
  have htext {span : Span} {text : List Char}
      (hin : c ∈ rawInParts (span.first + 1) none (Inlines.read (blocksOf source.toList).2 text))
      (hplaced : ∃ cs, text <:+: cs ∧ IsPlaced source.toList span.first span.stop cs) :
      c.line = span.first + 1 ∧ ∃ k l, (Text.splitOn '\n' source.toList)[k]? = some l ∧
        Text.trim (Text.firstLine c.raw.toList) <:+: l ∧ span.first ≤ k ∧ k < span.stop := by
    rcases rawInParts_of (Inlines.infix_of_read _ text) hin with ⟨hwithin, hline⟩
    rcases hplaced with ⟨cs, hcs, hplaced⟩
    exact ⟨hline, located_of_infix hplaced (hwithin.trans hcs) hsome⟩
  cases a with
  | html span raw =>
      cases hstands with
      | html hline =>
          rcases located_first hplaced hsome with ⟨l, hl, hin, hstop⟩
          exact ⟨hline, span.first, l, hl, hin, Nat.le_refl _, hstop, fun _ => hline⟩
  | paragraph span text =>
      cases hstands with
      | paragraph hin =>
          rcases htext hin hplaced with ⟨hline, k, l, hl, htrim, hk, hstop⟩
          exact ⟨hline, k, l, hl, htrim, hk, hstop, fun hkind => by cases hkind⟩
  | heading span level text =>
      cases hstands with
      | heading hin =>
          rcases htext hin hplaced with ⟨hline, k, l, hl, htrim, hk, hstop⟩
          exact ⟨hline, k, l, hl, htrim, hk, hstop, fun hkind => by cases hkind⟩
  | _ => cases hstands

/-- A comment that is a block of its own. -/
theorem candidates_located_block :
    let source := "\n <!--\n```yaml history\n```\n-->\n"
    ∃ c ∈ candidates source, ∃ b : Markdown.Block (List Inline), b.Within (parse source) ∧
      c.line = b.span.first + 1 := by
  intro source
  have hplain : ∀ x ∈ source.toList, x ≠ '\r' ∧ x.toNat ≠ 0 := plain_of_all (by decide +kernel)
  have hsome : (candidates source).length ≠ 0 := by decide +kernel
  rcases List.exists_mem_of_length_pos (Nat.pos_of_ne_zero hsome) with ⟨c, hc⟩
  rcases candidates_located hplain hc with ⟨b, hb, _, hline, _⟩
  exact ⟨c, hc, b, hb, hline⟩

/-- A paragraph of two lines with a comment in the second one. No marks of emphasis are in its
    text, so the pieces that are found are put together as they are. -/
theorem read_inline : Inlines.read [] "a\nb <!--```yaml history-->".toList
    = [.text "a", .softBreak, .text "b ", .html "<!--```yaml history-->"] := by
  have hpieces : (Inlines.pieces 53 ⟨"a\nb <!--```yaml history-->".toList.toArray, []⟩ 0 26 0 ⟨[], []⟩
      (.fresh ⟨"a\nb <!--```yaml history-->".toList.toArray, []⟩)).1
        = [.part (.text "a"), .part .softBreak, .part (.text "b "),
          .part (.html "<!--```yaml history-->")] := by
    with_unfolding_all rfl
  change Inlines.unescapedAll false (Emphasis.resolve (Inlines.pieces 53 _ 0 26 0 _ _).1) = _
  rw [hpieces]
  change Inlines.unescapedAll false (Emphasis.assemble [] []
    [(.part (.text "a"), .literal), (.part .softBreak, .literal), (.part (.text "b "), .literal),
      (.part (.html "<!--```yaml history-->"), .literal)]) = _
  simp only [Emphasis.assemble]
  rfl

/-- A comment in the second line of a paragraph has the number of the first one. -/
theorem candidates_located_inline :
    let source := "a\nb <!--```yaml history-->\n"
    let c : Candidate := ⟨"<!--```yaml history-->", 1, some .text⟩
    (∀ x ∈ source.toList, x ≠ '\r' ∧ x.toNat ≠ 0) ∧ c ∈ candidates source ∧
      ∃ l, (Text.splitOn '\n' source.toList)[c.line - 1]? = some l ∧
        ¬ Text.trim (Text.firstLine c.raw.toList) <:+: l := by
  -- The blocks come out by evaluation; the inline text is read by its lemma.
  have hblocks : blocksOf "a\nb <!--```yaml history-->\n".toList
      = ([.paragraph ⟨0, 2⟩ "a\nb <!--```yaml history-->".toList], []) := by
    with_unfolding_all rfl
  have hraw : rawParts "a\nb <!--```yaml history-->\n"
      = [⟨"<!--```yaml history-->", 1, some .text⟩] := by
    unfold rawParts parse
    rw [hblocks]
    simp only [Block.mapAll, Block.map, read_inline]
    rfl
  refine ⟨plain_of_all (by decide +kernel), List.mem_filter.mpr ⟨?_, by decide +kernel⟩, "a".toList,
    by decide +kernel, by decide +kernel⟩
  rw [hraw]
  exact List.mem_singleton_self _

/-- What a history block is put together of: the comment of the candidate, the fence with which
    it begins, and the lines before each of them. -/
theorem block_fence {c : Candidate} {b : Block} (h : block c = .ok b) :
    ∃ body span info, Html.parseFragment c.raw = .ok [.comment body] ∧
      .fence span info b.yaml ∈ parse body ∧
      b.yamlLine = c.line + linesBeforeComment c.raw.toList + span.first + 1 := by
  unfold block at h
  cases hparse : Html.parseFragment c.raw with
  | error fault =>
      rw [hparse] at h
      cases h
  | ok nodes =>
      rw [hparse] at h
      rcases bind_eq_ok.mp (mapError_eq_ok.mp h) with ⟨body, hbody, hblock⟩
      rw [onlyComment_eq hbody]
      unfold ofComment at hblock
      -- A fence with the two words makes the block, and everything else fails.
      split at hblock
      · next span info yaml hfirst =>
          simp only [] at hblock
          split at hblock
          · cases hblock
          split at hblock
          · cases hblock
          · cases hblock
            exact ⟨body, span, info, rfl, List.mem_of_head? hfirst, rfl⟩
      · cases hblock

/-- A line of a history block without the blanks in front of it stands in the candidate, as many
    lines behind the first one as the numbers say. -/
theorem block_located {c : Candidate} {b : Block}
    (hraw : ∀ x ∈ c.raw.toList, x ≠ '\r' ∧ x.toNat ≠ 0)
    (hstart : Text.startsWith "<!--".toList (Text.trimStart c.raw.toList) = true)
    (h : block c = .ok b) :
    c.line ≤ b.yamlLine ∧ ∀ j line, (Text.feedLines b.yaml.toList)[j]? = some line →
      ∃ l, (Text.splitOn '\n' c.raw.toList)[b.yamlLine - c.line + j]? = some l ∧
        line.dropWhile isSpace <:+: l := by
  rcases block_fence h with ⟨body, span, info, hparse, hfence, hline⟩
  refine ⟨by omega, fun j line hj => ?_⟩
  -- The candidate is blanks, the mark of a comment, its body, and what follows.
  rcases List.isPrefixOf_iff_prefix.mp hstart with ⟨tail, htail⟩
  have hblanks : '<' ∉ c.raw.toList.takeWhile Text.isBlank := fun hmem =>
    absurd (List.all_eq_true.mp List.all_takeWhile _ hmem) (by decide)
  have hsplit : c.raw.toList
      = c.raw.toList.takeWhile Text.isBlank ++ '<' :: '!' :: '-' :: '-' :: tail := by
    have hall := List.takeWhile_append_dropWhile (p := Text.isBlank) (l := c.raw.toList)
    rw [← Text.trimStart, ← htail] at hall
    exact hall.symm
  generalize c.raw.toList.takeWhile Text.isBlank = blanks at hblanks hsplit
  rcases Html.body_of_start hsplit hblanks hparse with ⟨rest, hrest⟩
  have hbefore : linesBeforeComment c.raw.toList = blanks.count '\n' := by
    unfold linesBeforeComment
    rw [hsplit]
    have hfound : Text.splitAt? ['<', '!', '-', '-'] (blanks ++ '<' :: '!' :: '-' :: '-' :: tail)
        = some (blanks, tail) := Text.splitAt?_of_not_mem hblanks tail
    rw [hfound]
  have hplain : ∀ x ∈ body.toList, x ≠ '\r' ∧ x.toNat ≠ 0 := by
    intro x hx
    refine hraw x ?_
    rw [hsplit, ← hrest]
    simp [hx]
  have hplaced := isPlaced_of_blocksOf hplain _ (.here (fence_of_mapAll hfence))
  rcases hplaced j line hj with ⟨_, l, hl, hin⟩
  have hhead : (line.dropWhile isSpace).head? ≠ some ' ' := by
    intro hhead
    have hnot := List.head?_dropWhile_not isSpace line
    rw [hhead] at hnot
    exact absurd hnot (by decide)
  rcases Text.piece_append hl (blanks ++ ['<', '!', '-', '-']) rest with ⟨whole, hwhole, hwithin⟩
  rw [hrest, List.append_assoc, List.cons_append, List.cons_append, List.cons_append,
    List.cons_append, List.nil_append, ← hsplit, List.count_append] at hwhole
  have hmark : ['<', '!', '-', '-'].count '\n' = 0 := by decide
  have hsum : blanks.count '\n' + ['<', '!', '-', '-'].count '\n' + (span.first + 1 + j)
      = b.yamlLine - c.line + j := by omega
  rw [hsum] at hwhole
  exact ⟨whole, hwhole, (hin _ (List.dropWhile_suffix _).isInfix hhead).trans hwithin⟩

/-- A block by its numbers and its text. -/
theorem block_of_parts {c : Candidate} {n : Nat} {yaml : String}
    (h : (block c).toOption.map (fun b => (b.yamlLine, b.yaml)) = some (n, yaml)) :
    ∃ b, block c = .ok b ∧ b.yamlLine = n ∧ b.yaml = yaml := by
  cases hb : block c with
  | error fault =>
      rw [hb] at h
      cases h
  | ok b =>
      rw [hb] at h
      rcases Prod.mk.inj (Option.some.inj h) with ⟨hline, hyaml⟩
      exact ⟨b, rfl, hline, hyaml⟩

/-- A comment that does not begin on the first line of its candidate, with a fence that does not
    begin on the first line of the comment. -/
theorem block_located_indented :
    let c : Candidate := ⟨"\n <!--\n\n ```yaml history\n  a: 1\n ```\n-->\n", 3, none⟩
    ∃ b, block c = .ok b ∧ b.yamlLine = 7 ∧ b.yaml = " a: 1\n" ∧
      ∃ l, (Text.splitOn '\n' c.raw.toList)[4]? = some l ∧ "a: 1".toList <:+: l := by
  intro c
  have hraw : ∀ x ∈ c.raw.toList, x ≠ '\r' ∧ x.toNat ≠ 0 := plain_of_all (by decide +kernel)
  have hstart : Text.startsWith "<!--".toList (Text.trimStart c.raw.toList) = true := by
    decide +kernel
  have hparts : (block c).toOption.map (fun b => (b.yamlLine, b.yaml)) = some (7, " a: 1\n") := by
    decide +kernel
  rcases block_of_parts hparts with ⟨b, hb, hline, hyaml⟩
  rcases (block_located hraw hstart hb).2 0 " a: 1".toList (by rw [hyaml]; decide +kernel)
    with ⟨l, hl, hin⟩
  rw [hline] at hl
  exact ⟨b, hb, hline, hyaml, l, hl, hin⟩

end History

end Annals
