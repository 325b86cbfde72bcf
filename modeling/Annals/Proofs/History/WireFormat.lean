import Annals.History.Block
import Annals.Proofs.Html.Comment
import Annals.Proofs.Markdown.RawParts
import Annals.Proofs.Markdown.Reading
import Annals.Proofs.Text.Words

/-!
# The Form of History Blocks in a Document

What is written in the form of a history block is read back as it was written.

Three readings in a row have to agree on where a block ends. The document is read
first, and the comment is raw HTML in it up to the first line with the mark that
ends a comment. That text is read as HTML, where the same mark may have blanks in
it. The body of the comment is a document once more, whose first block is the
fence. So the conditions on a section come from three sides, and what follows from
each is proved where it is read; here they are put together.

`Section` has the conditions as fields, and a document is a list of sections. The
sections lie one behind the other, and the reading gets from each to the next
whatever stands in it, so the theorem is an induction on the list with the number
of lines before it.

## Main definitions

* `History.Section`: A heading and the comment below it.
* `History.document`: The text of some sections.
* `History.placed`: The sections with the lines on which their comments begin.
* `History.IsHistory`: An info is the language and the label, whatever their case.

## Theorems

* `isHistory_iff`: The info, by its words and by its first word.
* `block_section`: What the comment of a section holds.
* `readBlocks_section`: The two blocks of a section.
* `rawInBlocks_sections`: The raw HTML of a document.
* `rawParts_document`: The same of a document as text.
* `candidates_document`: The candidates of a document, and the blocks they are.
-/

namespace Annals

namespace History

open Markdown

/-- The lines inside of a comment: a fence with some info around lines of YAML. -/
def fencedLines (info : List Char) (yaml : List (List Char)) : List (List Char) :=
  (fenceLine ++ info) :: (yaml ++ [fenceLine])

/-- The lines of a comment around a fence. -/
def commentLines (info : List Char) (yaml : List (List Char)) : List (List Char) :=
  commentStart :: (fencedLines info yaml ++ [commentEnd])

/-- The body of a comment around a fence. -/
def commentBody (info : List Char) (yaml : List (List Char)) : List Char :=
  Text.unlines ([] :: fencedLines info yaml)

/-- A heading and the comment below it. The lines are given without their ends. -/
structure Section where
  heading : List Char
  /-- The lines between the heading and the comment. -/
  blanks : List (List Char)
  /-- What stands behind the mark of the fence. -/
  info : List Char
  yaml : List (List Char)
  /-- The line behind the comment. -/
  last : List Char
  isHeading : IsHeading heading
  isBlank : ∀ l ∈ blanks, l.all isSpace = true
  lastBlank : last.all isSpace = true
  infoOpen : Inlines.tick ∉ info
  yamlOpen : ∀ l ∈ yaml, ¬ ClosesFence l
  bodyOpen : ¬ Html.EndsComment (commentBody info yaml)
  writable : ∀ l ∈ heading :: info :: last :: (blanks ++ yaml), IsWritable l

instance : Inhabited Section where
  default :=
    { heading := "## Events".toList
      blanks := [[]]
      info := "YAML history".toList
      yaml := ["added: 1".toList]
      last := []
      isHeading := ⟨0, 2, " Events".toList, by decide, by decide, by decide, rfl,
        fun _ h => (by cases h; rfl), by decide +kernel⟩
      isBlank := by decide
      lastBlank := rfl
      infoOpen := by decide
      yamlOpen := by
        rintro l hl ⟨indent, length, tail, _, hlength, heq, _⟩
        have hnone : Inlines.tick ∉ l := by
          rw [List.mem_singleton.mp hl]
          decide
        refine hnone ?_
        rw [heq, ← Nat.sub_add_cancel hlength]
        simp [List.replicate_succ]
      bodyOpen := by
        rintro ⟨before, blanks, after, heq, _⟩
        have hnone : '>' ∉ commentBody "YAML history".toList ["added: 1".toList] := by decide
        rw [heq] at hnone
        simp at hnone
      writable := by decide +kernel }

/-- An info is the language and the label, whatever their case. -/
def IsHistory (info : List Char) : Prop :=
  (Text.words info).map Text.lower = [language.toList, labelWord.toList]

theorem isHistory_iff (info : List Char) :
    IsHistory info ↔ Text.lower (Text.firstWord (Text.trim info)).1 = language.toList ∧
      Text.lower (Text.trim (Text.firstWord (Text.trim info)).2) = labelWord.toList := by
  -- Neither word is empty or has a blank in it, since that would show in lower case.
  have hne : ∀ w target : List Char, target ≠ [] → Text.lower w = target → w ≠ [] := by
    rintro w target htarget h rfl
    exact htarget h.symm
  have hink : ∀ w, Text.lower w = labelWord.toList → ∀ c ∈ w, Text.isBlank c = false := by
    intro w h c hc
    cases hblank : Text.isBlank c with
    | false => rfl
    | true =>
        have hmem := Text.mem_lower_of_blank hblank hc
        have hnone : labelWord.toList.all (!Text.isBlank ·) = true := by decide +kernel
        rw [h] at hmem
        have hc := List.all_eq_true.mp hnone c hmem
        rw [hblank] at hc
        cases hc
  have hlanguage : language.toList ≠ [] := by decide
  have hlabel : labelWord.toList ≠ [] := by decide
  unfold IsHistory
  constructor
  · intro h
    rcases List.map_eq_cons_iff.mp h with ⟨v, rest, hwords, hv, hrest⟩
    rcases List.map_eq_cons_iff.mp hrest with ⟨w, rest', rfl, hw, hnil⟩
    rw [List.map_eq_nil_iff.mp hnil] at hwords
    rcases (Text.words_eq_pair (hne w _ hlabel hw) (hink w hw)).mp hwords with ⟨_, h1, h2⟩
    rw [h1, h2]
    exact ⟨hv, hw⟩
  · rintro ⟨hv, hw⟩
    have hwords := (Text.words_eq_pair (hne _ _ hlabel hw) (hink _ hw)).mpr
      ⟨hne _ _ hlanguage hv, rfl, rfl⟩
    rw [hwords, List.map_cons, List.map_cons, List.map_nil, hv, hw]

namespace Section

/-- The lines of a section. -/
def lines (s : Section) : List (List Char) :=
  s.heading :: (s.blanks ++ (commentLines s.info s.yaml ++ [s.last]))

/-- The comment of a section as a candidate on some line. -/
def candidate (s : Section) (line : Nat) : Candidate :=
  ⟨String.ofList (Text.unlines (commentLines s.info s.yaml)), line, some .heading⟩

theorem writable_fenced (s : Section) : ∀ l ∈ fencedLines s.info s.yaml, IsWritable l := by
  have hfence : IsWritable fenceLine := by
    intro c hc
    rw [List.eq_of_mem_replicate hc]
    decide
  have hinfo := s.writable s.info (by simp)
  have hyaml : ∀ l ∈ s.yaml, IsWritable l := fun l hl => s.writable l (by simp [hl])
  intro l hl
  rcases List.mem_cons.mp hl with rfl | hl
  · intro c hc
    rcases List.mem_append.mp hc with hc | hc
    · exact hfence c hc
    · exact hinfo c hc
  · rcases List.mem_append.mp hl with hl | hl
    · exact hyaml l hl
    · rw [List.mem_singleton.mp hl]
      exact hfence

theorem writable_lines (s : Section) : ∀ l ∈ s.lines, IsWritable l := by
  have hstart : IsWritable commentStart := by decide +kernel
  have hend : IsWritable commentEnd := by decide +kernel
  intro l hl
  simp only [lines, commentLines, List.mem_cons, List.mem_append,
    List.not_mem_nil, or_false] at hl
  rcases hl with rfl | hl | (rfl | hl | rfl) | rfl
  · exact s.writable _ (by simp)
  · exact s.writable l (by simp [hl])
  · exact hstart
  · exact s.writable_fenced l hl
  · exact hend
  · exact s.writable _ (by simp)

/-- No line of the fence has the mark that ends the comment. -/
theorem fenced_open (s : Section) :
    ∀ l ∈ fencedLines s.info s.yaml, Text.contains commentEnd l = false := by
  intro l hl
  cases hc : Text.contains commentEnd l with
  | false => rfl
  | true =>
      refine absurd ?_ s.bodyOpen
      -- A line of the fence is a part of the body, which has no such mark in it.
      have hline : l <:+: commentBody s.info s.yaml := by
        unfold commentBody Text.unlines
        have hmem : l ++ ['\n'] ∈ ([] :: fencedLines s.info s.yaml).map (· ++ ['\n']) :=
          List.mem_map.mpr ⟨l, List.mem_cons_of_mem _ hl, rfl⟩
        rw [List.flatMap_def]
        exact (List.prefix_append l ['\n']).isInfix.trans (List.infix_of_mem_flatten hmem)
      rcases (Text.contains_iff.mp hc).trans hline with ⟨before, after, heq⟩
      refine ⟨before, [], after, ?_, fun _ hmem => absurd hmem (List.not_mem_nil)⟩
      rw [← heq]
      simp [commentEnd]

/-- The first block in the body of the comment is the fence. -/
theorem firstBlock_body (s : Section) :
    firstBlock? (String.ofList (commentBody s.info s.yaml))
      = some (.fence ⟨1, s.yaml.length + 3⟩ (String.ofList s.info)
          (String.ofList (Text.unlines s.yaml))) := by
  let ls := [] :: fencedLines s.info s.yaml
  have hlength : ls.length = s.yaml.length + 3 := by simp [ls, fencedLines]
  have hwritable : ∀ l ∈ ls, IsWritable l := by
    intro l hl
    rcases List.mem_cons.mp hl with rfl | hl
    · exact fun c hc => absurd hc (List.not_mem_nil)
    · exact s.writable_fenced l hl
  have hp := Place.isTop_ofLines ls
  have hholds : (Place.ofLines ls).Holds 0 ls := Place.holds_ofLines [] ls
  have hfuel : ∃ fuel, (ls.length + 2) * (3 * maxDepth) = fuel + 2 := by
    refine ⟨(ls.length + 2) * (3 * maxDepth) - 2, ?_⟩
    simp only [maxDepth]
    omega
  rcases hfuel with ⟨fuel, hfuel⟩
  -- The first line of the body is empty, and the fence begins on the second one.
  have hfence := readBlock_fence hp hholds.2 s.infoOpen s.yamlOpen (by omega) fuel
  have hfilled : (fenceLine ++ s.info).all isSpace = false := rfl
  have hblock := readBlocks_block hp hholds.2.1 hfilled (by omega) hfence
    (fun h => by omega)
  have hempty := readBlocks_empty hp hholds.1 rfl (by omega : 0 < ls.length) (fuel + 1)
  unfold firstBlock? parse commentBody
  rw [String.toList_ofList, blocksOf_unlines hwritable, hfuel, hempty, hblock]
  simp only [Block.mapAll, Block.map, List.head?_cons]
  have hspan : 0 + 1 + s.yaml.length + 2 = s.yaml.length + 3 := by omega
  rw [hspan]

theorem raw_eq (s : Section) : Text.unlines (commentLines s.info s.yaml)
    = '<' :: '!' :: '-' :: '-' :: (commentBody s.info s.yaml ++ ['-', '-', '>', '\n']) := by
  unfold commentLines commentBody
  rw [Text.unlines_cons, Text.unlines_append, Text.unlines_cons]
  rfl

/-- The body of the comment ends with the end of a line. -/
theorem body_last (s : Section) : (commentBody s.info s.yaml).getLast? = some '\n' := by
  have hsplit : [] :: fencedLines s.info s.yaml
      = ([] :: (fenceLine ++ s.info) :: s.yaml) ++ [fenceLine] := rfl
  unfold commentBody
  rw [hsplit, Text.unlines_append, Text.unlines_cons, List.getLast?_append,
    List.getLast?_append]
  rfl

/-- The text of the comment is one comment, and nothing stands before it. -/
theorem onlyComment_raw (s : Section) :
    Html.parseFragment (String.ofList (Text.unlines (commentLines s.info s.yaml)))
        = .ok [.comment (String.ofList (commentBody s.info s.yaml))] ∧
      linesBeforeComment (Text.unlines (commentLines s.info s.yaml)) = 0 := by
  rw [raw_eq]
  constructor
  · refine Html.parseFragment_comment s.bodyOpen ?_
    rw [body_last]
    exact fun h => by cases h
  · rfl

theorem lowered_ofList (cs target : List Char) :
    (Text.lowered (String.ofList cs) != String.ofList target) = false ↔ Text.lower cs = target := by
  unfold Text.lowered
  rw [String.toList_ofList, bne_eq_false_iff_eq, String.ofList_inj]

/-- What the comment of a section holds: the lines of YAML, if the info is the language
    and the label; and else no block, for want of one of them. -/
theorem block_section (s : Section) (line : Nat) :
    (IsHistory s.info → block (s.candidate line)
      = .ok ⟨s.candidate line, String.ofList (Text.unlines s.yaml),
          (splitInfo (String.ofList s.info)).1, (splitInfo (String.ofList s.info)).2,
          line + 2⟩) ∧
    (¬ IsHistory s.info → ∃ found,
      block (s.candidate line) = .error (.format (.language found)) ∨
      block (s.candidate line) = .error (.format (.label found))) := by
  rcases s.onlyComment_raw with ⟨hparse, hbefore⟩
  have hblock : block (s.candidate line)
      = (ofComment (s.candidate line) (String.ofList (commentBody s.info s.yaml))).mapError
          .format := by
    unfold block candidate
    rw [hparse]
    rfl
  let word := (Text.firstWord (Text.trim s.info)).1
  let rest := (Text.firstWord (Text.trim s.info)).2
  have hinfo : splitInfo (String.ofList s.info) = (String.ofList word, String.ofList rest) := by
    unfold splitInfo
    rw [String.toList_ofList]
  have hlabel : Text.trimmed (String.ofList rest) = String.ofList (Text.trim rest) := by
    unfold Text.trimmed
    rw [String.toList_ofList]
  -- The check looks at texts in lower case, the property at words; both say the same.
  have hlanguage := lowered_ofList word language.toList
  have hlabelled := lowered_ofList (Text.trim rest) labelWord.toList
  rw [String.ofList_toList] at hlanguage hlabelled
  rw [hblock, isHistory_iff, hinfo]
  unfold ofComment
  simp only [firstBlock_body, hinfo, hlabel]
  constructor
  · rintro ⟨h1, h2⟩
    rw [hlanguage.mpr h1, hlabelled.mpr h2]
    simp only [Bool.false_eq_true, if_false, candidate, String.toList_ofList, hbefore]
    rfl
  · intro hnot
    cases h1 : Text.lowered (String.ofList word) != language with
    | true => exact ⟨_, Or.inl rfl⟩
    | false =>
        cases h2 : Text.lowered (String.ofList (Text.trim rest)) != labelWord with
        | true => exact ⟨_, Or.inr rfl⟩
        | false => exact absurd ⟨hlanguage.mp h1, hlabelled.mp h2⟩ hnot

/-- The text of a comment mentions all that a history block consists of, if the info
    does. -/
theorem mentionsHistory_raw (s : Section) (h : IsHistory s.info) :
    mentionsHistory (String.ofList (Text.unlines (commentLines s.info s.yaml))) = true := by
  let raw := Text.unlines (commentLines s.info s.yaml)
  have hline : fenceLine ++ s.info <:+: raw := by
    have hmem : (fenceLine ++ s.info) ++ ['\n']
        ∈ (commentLines s.info s.yaml).map (· ++ ['\n']) :=
      List.mem_map.mpr ⟨fenceLine ++ s.info, by simp [commentLines, fencedLines], rfl⟩
    have hflat : raw = ((commentLines s.info s.yaml).map (· ++ ['\n'])).flatten :=
      List.flatMap_def
    rw [hflat]
    exact (List.prefix_append _ ['\n']).isInfix.trans (List.infix_of_mem_flatten hmem)
  -- The two words stand in the info, and the mark of the fence before it.
  have hinfo : s.info <:+: raw := (List.suffix_append _ _).isInfix.trans hline
  rcases List.map_eq_cons_iff.mp h with ⟨v, rest, hwords, hv, hrest⟩
  rcases List.map_eq_cons_iff.mp hrest with ⟨w, rest', rfl, hw, _⟩
  have hvin : v <:+: raw := (Text.infix_of_mem_words (hwords ▸ by simp)).trans hinfo
  have hwin : w <:+: raw := (Text.infix_of_mem_words (hwords ▸ by simp)).trans hinfo
  have hticks : Text.lower fenceLine = fenceLine := by decide +kernel
  have hfence : fenceLine <:+: Text.lower raw :=
    Text.lower_infix hticks (by decide +kernel) ((List.prefix_append _ _).isInfix.trans hline)
  have hlanguage : language.toList <:+: Text.lower raw :=
    Text.lower_infix hv (by decide +kernel) hvin
  have hlabel : labelWord.toList <:+: Text.lower raw :=
    Text.lower_infix hw (by decide +kernel) hwin
  unfold mentionsHistory
  rw [String.toList_ofList]
  simp only [Bool.and_eq_true]
  exact ⟨⟨Text.contains_iff.mpr hfence, Text.contains_iff.mpr hlanguage⟩,
    Text.contains_iff.mpr hlabel⟩

end Section

/-- The text of some sections. -/
def document (ss : List Section) : String :=
  String.ofList (Text.unlines (ss.flatMap Section.lines))

/-- The sections that follow so many lines, with the lines on which their comments begin,
    counted from one. -/
def placed : (before : Nat) → List Section → List (Nat × Section)
  | _, [] => []
  | before, s :: rest =>
    (before + s.blanks.length + 2, s) :: placed (before + s.lines.length) rest

theorem heading_filled {l : List Char} (h : IsHeading l) : l.all isSpace = false := by
  rcases h with ⟨indent, level, rest, _, hmin, _, rfl, _, _⟩
  rcases level with _ | level
  · omega
  · have hmark : isSpace '#' = false := by decide
    simp [List.replicate_succ, hmark]

/-- A section is two blocks, its heading and its comment, and the reading goes on behind
    its last line. -/
theorem readBlocks_section {p : Place} {stop n : Nat} (hp : p.IsTop stop) (s : Section)
    (h : p.Holds n s.lines) (hn : n + s.lines.length ≤ stop) (fuel : Nat) :
    ∃ level text stop', '<' ∉ text ∧
      (readBlocks (fuel + 3) p n stop).blocks
        = .heading ⟨n, n + 1⟩ level text
          :: .html ⟨n + s.blanks.length + 1, stop'⟩
              (String.ofList (Text.unlines (commentLines s.info s.yaml)))
          :: (readBlocks (fuel + 1) p (n + s.lines.length) stop).blocks := by
  have hmid : (fencedLines s.info s.yaml).length = s.yaml.length + 2 := by
    simp [fencedLines]
  have hlength : (commentLines s.info s.yaml).length = s.yaml.length + 4 := by
    simp only [commentLines, List.length_cons, List.length_append, hmid, List.length_nil]
  have hlines : s.lines.length = s.blanks.length + s.yaml.length + 6 := by
    simp only [Section.lines, List.length_cons, List.length_append, hlength, List.length_nil]
    omega
  -- The lines of the section, part by part.
  rcases h with ⟨hheading, hafter⟩
  rcases Place.holds_append.mp hafter with ⟨hblanks, hafter⟩
  rcases Place.holds_append.mp hafter with ⟨hcomment, hlast⟩
  rw [hlength] at hlast
  have hfirst : ∃ l, p.line (n + 1) = Line.plain l true := by
    cases hb : s.blanks with
    | nil =>
        rw [hb] at hcomment
        exact ⟨_, hcomment.1⟩
    | cons l more =>
        rw [hb] at hblanks
        exact ⟨l, hblanks.1⟩
  rcases readBlock_heading hp hheading s.isHeading (fuel + 1) with ⟨level, text, hblock, hopen⟩
  have h1 := readBlocks_block hp hheading (heading_filled s.isHeading) (by omega) hblock
    (fun _ => hfirst)
  have h2 := readBlocks_blanks hp hblanks s.isBlank (by omega) (fuel + 1)
  have hraw := readBlock_comment hp hcomment s.fenced_open (by omega) fuel
  rw [hmid] at hraw
  have h3 := readBlocks_block hp hcomment.1 rfl (by omega) hraw (fun _ => ⟨s.last, hlast.1⟩)
  have h4 := readBlocks_empty hp hlast.1 s.lastBlank (by omega) fuel
  have hstart : n + 1 + s.blanks.length = n + s.blanks.length + 1 := by omega
  have hstop : n + 1 + s.blanks.length + (s.yaml.length + 2) + 2
      = n + 1 + s.blanks.length + (s.yaml.length + 4) := by omega
  have hnext : n + 1 + s.blanks.length + (s.yaml.length + 4) + 1 = n + s.lines.length := by
    omega
  refine ⟨level, text, n + 1 + s.blanks.length + (s.yaml.length + 4), hopen, ?_⟩
  rw [h1, h2, h3, hstop, h4, hnext, ← hstart]
  rfl

/-- The raw HTML of a document is the comments of its sections. The induction is on the
    sections, each of which takes two blocks. -/
theorem rawInBlocks_sections {read : List Char → List Inline}
    (hread : ∀ text, '<' ∉ text → RawFreeAll (read text)) {p : Place} {stop : Nat}
    (hp : p.IsTop stop) {ss : List Section} {n : Nat} (h : p.Holds n (ss.flatMap Section.lines))
    (hn : n + (ss.flatMap Section.lines).length = stop) {fuel : Nat}
    (hfuel : 2 * ss.length ≤ fuel) (previous : Option Kind) :
    rawInBlocks previous (Block.mapAll read (readBlocks (fuel + 1) p n stop).blocks)
      = (placed n ss).map fun e => e.2.candidate e.1 := by
  induction ss generalizing n fuel previous with
  | nil =>
      have hend : stop ≤ n := by
        rw [← hn]
        exact Nat.le_refl _
      rw [readBlocks, if_pos hend]
      rfl
  | cons s rest ih =>
      obtain ⟨fuel, rfl⟩ : ∃ f, fuel = f + 2 := ⟨fuel - 2, by simp at hfuel; omega⟩
      rw [List.length_cons] at hfuel
      rw [List.flatMap_cons] at h hn
      rw [List.length_append] at hn
      rcases Place.holds_append.mp h with ⟨hown, hrest⟩
      rcases readBlocks_section hp s hown (by omega) fuel with ⟨level, text, stop', hopen, hread2⟩
      -- The heading has no raw HTML in it, and the comment is all of its block.
      have hbare : rawInParts (n + 1) none (read text) = [] :=
        rawInParts_eq_nil (hread text hopen) (n + 1) none
      have hfuel' : 2 * rest.length ≤ fuel := by omega
      have hmore := ih hrest (by omega) hfuel' (some .html)
      rw [hread2]
      simp only [Block.mapAll, Block.map, rawInBlocks, rawInBlock, Block.kind, hbare, hmore]
      rfl

/-- The comment of each section begins on the line that is given for it. -/
theorem placed_line {ss : List Section} {before : Nat} {e : Nat × Section}
    (he : e ∈ placed before ss) :
    ∃ k, e.1 = before + k + 1 ∧ (ss.flatMap Section.lines)[k]? = some commentStart := by
  induction ss generalizing before with
  | nil => exact absurd he (List.not_mem_nil)
  | cons s rest ih =>
      rw [List.flatMap_cons]
      rcases List.mem_cons.mp he with rfl | he
      · refine ⟨s.blanks.length + 1, rfl, ?_⟩
        simp [Section.lines, commentLines]
      · rcases ih he with ⟨k, hk, hline⟩
        refine ⟨s.lines.length + k, by omega, ?_⟩
        rw [List.getElem?_append_right (Nat.le_add_right _ _), Nat.add_sub_cancel_left]
        exact hline

theorem placed_mem {ss : List Section} {before : Nat} {e : Nat × Section}
    (he : e ∈ placed before ss) : e.2 ∈ ss := by
  induction ss generalizing before with
  | nil => exact absurd he (List.not_mem_nil)
  | cons s rest ih =>
      rcases List.mem_cons.mp he with rfl | he
      · exact List.mem_cons_self ..
      · exact List.mem_cons_of_mem _ (ih he)

theorem length_le_lines (ss : List Section) :
    ss.length ≤ (ss.flatMap Section.lines).length := by
  induction ss with
  | nil => exact Nat.le_refl _
  | cons s rest ih =>
      rw [List.flatMap_cons, List.length_append, List.length_cons]
      have hpos : 0 < s.lines.length := Nat.succ_pos _
      omega

/-- The raw HTML of a document in the form of history blocks. -/
theorem rawParts_document (ss : List Section) :
    Markdown.rawParts (document ss) = (placed 0 ss).map fun e => e.2.candidate e.1 := by
  let ls := ss.flatMap Section.lines
  have hwritable : ∀ l ∈ ls, IsWritable l := by
    intro l hl
    rcases List.mem_flatMap.mp hl with ⟨s, _, hs⟩
    exact s.writable_lines l hs
  have hcount : ss.length ≤ ls.length := length_le_lines ss
  -- The reader has more fuel than there are lines, and there are more lines than sections.
  obtain ⟨fuel, hfuel⟩ : ∃ fuel, (ls.length + 2) * (3 * maxDepth) = fuel + 1 :=
    ⟨(ls.length + 2) * (3 * maxDepth) - 1, by simp only [maxDepth]; omega⟩
  unfold rawParts parse document
  rw [String.toList_ofList, blocksOf_unlines hwritable, hfuel]
  have hholds := Place.holds_ofLines [] ls
  refine rawInBlocks_sections (fun text h => Inlines.read_rawFree _ h) (Place.isTop_ofLines ls)
    hholds (Nat.zero_add _) ?_ none
  simp only [maxDepth] at hfuel
  omega

/-- The candidates of a document whose infos are all the language and the label. -/
theorem candidates_histories {ss : List Section} (hall : ∀ s ∈ ss, IsHistory s.info) :
    candidates (document ss) = (placed 0 ss).map fun e => e.2.candidate e.1 := by
  unfold candidates
  rw [rawParts_document]
  refine List.filter_eq_self.mpr (fun c hc => ?_)
  rcases List.mem_map.mp hc with ⟨e, he, rfl⟩
  exact e.2.mentionsHistory_raw (hall e.2 (placed_mem he))

end History

end Annals
