import Annals.Proofs.Markdown.FirstFence
import Annals.Proofs.Markdown.PlainLines
import Annals.Proofs.Text.Pieces
import Mathlib.Data.List.Infix

/-!
# Where the Text of a Block Stands

The text of a block stands in the document line by line, and its lines are numbered as the
span of the block says.

Containers take something off the front of a line, the marks of quotes and items and some
indentation, but they neither join lines nor leave any out. So each line inside of a
container is the end of a line of the document (`Place.Shows`), and a block that takes
lines one by one has them in its text in this order. Only blanks may be put in front of
one, for a tab that was taken off in part. The lines of raw HTML and of fenced code are
just so, and the text of a paragraph lies in lines of this kind.

## Main definitions

* `Block.Within`: A block is one of some blocks, or lies inside of one.
* `Place.Shows`: The lines of a place are ends of the lines of a document.
* `IsPlaced`: The lines of a text stand in lines of the document.
* `Block.IsPlaced`: The text of a block stands in the lines of the block.

## Theorems

* `line_of_cut`: The lines of a text that is cut out of a place.
* `isPlaced_read`: The blocks between two lines.
* `isPlaced_of_blocksOf`: The blocks of a document.
* `not_mem_fence`: No carriage return is left in fenced code.
-/

namespace Annals

namespace Markdown

namespace Block

variable {α : Type}

/-- The blocks directly inside of a block. -/
def inner : Block α → List (Block α)
  | quote _ blocks => blocks
  | bulletList _ items => items
  | orderedList _ items => items
  | item _ blocks => blocks
  | _ => []

/-- A block is one of some blocks, or lies inside of one of them. -/
inductive Within (b : Block α) : List (Block α) → Prop where
  | here {blocks : List (Block α)} : b ∈ blocks → Within b blocks
  | inside {blocks : List (Block α)} {outer : Block α} :
      outer ∈ blocks → Within b outer.inner → Within b blocks

theorem Within.mono {b : Block α} {blocks more : List (Block α)} (h : b.Within blocks)
    (hmore : blocks ⊆ more) : b.Within more := by
  cases h with
  | here hmem => exact .here (hmore hmem)
  | inside hmem hinside => exact .inside (hmore hmem) hinside

theorem not_within_nil {b : Block α} : ¬ b.Within [] := by
  intro h
  cases h with
  | here hmem => cases hmem
  | inside hmem _ => cases hmem

theorem within_append {b : Block α} {blocks more : List (Block α)} :
    b.Within (blocks ++ more) ↔ b.Within blocks ∨ b.Within more := by
  constructor
  · intro h
    cases h with
    | here hmem => exact (List.mem_append.mp hmem).imp .here .here
    | inside hmem hinside =>
        exact (List.mem_append.mp hmem).imp (.inside · hinside) (.inside · hinside)
  · rintro (h | h)
    · exact h.mono (List.subset_append_left _ _)
    · exact h.mono (List.subset_append_right _ _)

theorem within_singleton {b outer : Block α} :
    b.Within [outer] ↔ b = outer ∨ b.Within outer.inner := by
  constructor
  · intro h
    cases h with
    | here hmem => exact Or.inl (List.mem_singleton.mp hmem)
    | inside hmem hinside => exact Or.inr (List.mem_singleton.mp hmem ▸ hinside)
  · rintro (rfl | h)
    · exact .here (List.mem_singleton_self _)
    · exact .inside (List.mem_singleton_self _) h

end Block

/-- A line of a document. -/
def sourceLine (source : List Char) (n : Nat) : List Char := (Text.splitOn '\n' source).getD n []

theorem not_mem_sourceLine (source : List Char) (n : Nat) : '\n' ∉ sourceLine source n := by
  unfold sourceLine
  rw [List.getD_eq_getElem?_getD]
  cases h : (Text.splitOn '\n' source)[n]? with
  | none => exact List.not_mem_nil
  | some piece => exact Text.not_mem_piece h

/-- The lines of a place are the lines of a document, each without what was taken off its
    front. All but the last one have an end. -/
structure Place.Shows (p : Place) (source : List Char) : Prop where
  text : ∀ n, (p.line n).text <:+ sourceLine source n
  ended : ∀ n, (p.line n).ended = decide (n + 1 < (Text.splitOn '\n' source).length)

namespace Line

/-- What is left when columns are taken off a text is its end. -/
theorem takeColumns_suffix (base columns shift taken : Nat) (cs : List Char) :
    (takeColumns base columns shift taken cs).2 <:+ cs := by
  induction cs generalizing shift taken with
  | nil => exact List.suffix_refl _
  | cons c rest ih =>
      rw [takeColumns]
      split
      · exact List.suffix_refl _
      split
      · exact (ih _ _).trans (List.suffix_cons c rest)
      split
      · exact (ih _ _).trans (List.suffix_cons c rest)
      · exact List.suffix_refl _

/-- A line without some columns is its end, perhaps behind blanks. -/
theorem cut_eq (l : Line) (columns : Nat) :
    ∃ n rest, l.cut columns = List.replicate n ' ' ++ rest ∧ rest <:+ l.text :=
  ⟨_, _, rfl, takeColumns_suffix ..⟩

theorem not_mem_cut {l : Line} (h : '\n' ∉ l.text) (columns : Nat) : '\n' ∉ l.cut columns := by
  rcases l.cut_eq columns with ⟨n, rest, hcut, hrest⟩
  rw [hcut]
  intro hmem
  rcases List.mem_append.mp hmem with hmem | hmem
  · exact absurd (List.eq_of_mem_replicate hmem) (by decide)
  · exact h (hrest.subset hmem)

theorem cut_empty {l : Line} (h : l.text = []) (columns : Nat) : l.cut columns = [] := by
  unfold cut
  rw [h, takeColumns]
  simp

/-- What begins with no blank stands behind the blanks. -/
theorem infix_of_replicate {w rest : List Char} (n : Nat) (h : w <:+: List.replicate n ' ' ++ rest)
    (hhead : w.head? ≠ some ' ') : w <:+: rest := by
  induction n with
  | zero => exact h
  | succ n ih =>
      rw [List.replicate_succ, List.cons_append] at h
      rcases List.infix_cons_iff.mp h with h | h
      · cases w with
        | nil => exact List.nil_infix
        | cons c w => exact absurd (congrArg some (List.cons_prefix_cons.mp h).1) hhead
      · exact ih h

/-- What begins with no blank stands in the line from which columns are taken off. -/
theorem infix_of_cut {l : Line} {columns : Nat} {w : List Char} (h : w <:+: l.cut columns)
    (hhead : w.head? ≠ some ' ') : w <:+: l.text := by
  rcases l.cut_eq columns with ⟨n, rest, hcut, hrest⟩
  rw [hcut] at h
  exact (infix_of_replicate n h hhead).trans hrest.isInfix

/-- Behind the mark of a quote there is the end of the line. -/
theorem unquoted?_suffix {l bare : Line} (h : l.unquoted? = some bare) :
    bare.text <:+ l.text ∧ bare.ended = l.ended := by
  unfold unquoted? at h
  split at h
  · next rest hcontent =>
      have hrest : '>' :: rest <:+ l.text := hcontent ▸ List.drop_suffix _ _
      -- At most one blank behind the mark is taken off with it.
      have hbehind : rest <:+ l.text := (List.suffix_cons _ _).trans hrest
      split at h
      · cases h
        exact ⟨(List.suffix_cons _ _).trans hbehind, rfl⟩
      · simp only [] at h
        split at h
        · cases h
          exact ⟨(List.suffix_cons _ _).trans hbehind, rfl⟩
        · cases h
          exact ⟨hbehind, rfl⟩
      · cases h
        exact ⟨hbehind, rfl⟩
  · cases h

end Line

/-- The text of lines `first`, ... , below `stop` of a document, where blanks in front of a
    line do not count. -/
def IsPlaced (source : List Char) (first stop : Nat) (cs : List Char) : Prop :=
  ∀ k line, (Text.feedLines cs)[k]? = some line → first + k < stop ∧
    ∃ l, (Text.splitOn '\n' source)[first + k]? = some l ∧
      ∀ w, w <:+: line → w.head? ≠ some ' ' → w <:+: l

variable {source : List Char} {p : Place}

namespace Place

theorem line_setLine (p : Place) (n m : Nat) (l : Line) :
    (p.setLine n l).line m = p.line m ∨ m = n ∧ (p.setLine n l).line m = l := by
  unfold setLine line
  simp only [Array.getD_eq_getD_getElem?, Array.getElem?_setIfInBounds]
  by_cases hm : n = m
  · subst hm
    by_cases hn : n < p.lines.size
    · simp [hn]
    · simp [hn]
  · simp [hm]

/-- A line may be replaced by its end. -/
theorem Shows.setLine (h : p.Shows source) {n : Nat} {l : Line} (htext : l.text <:+ (p.line n).text)
    (hended : l.ended = (p.line n).ended) : (p.setLine n l).Shows source where
  text := by
    intro m
    rcases p.line_setLine n m l with heq | ⟨rfl, heq⟩
    · rw [heq]
      exact h.text m
    · rw [heq]
      exact htext.trans (h.text m)
  ended := by
    intro m
    rcases p.line_setLine n m l with heq | ⟨rfl, heq⟩
    · rw [heq]
      exact h.ended m
    · rw [heq, hended]
      exact h.ended m

/-- Behind the marks of a quote there are the ends of its lines. -/
theorem Shows.quoted (h : p.Shows source) (fuel n : Nat) (lastEmpty : Bool) :
    (p.quoted fuel n lastEmpty).1.Shows source := by
  induction fuel generalizing p n lastEmpty with
  | zero => exact h
  | succ fuel ih =>
      unfold Place.quoted
      simp only []
      split
      · exact h
      split
      · next bare hbare =>
          split at hbare
          · cases hbare
          · rcases Line.unquoted?_suffix hbare with ⟨htext, hended⟩
            exact ih (h.setLine htext hended) ..
      split
      · exact h
      split
      · exact ⟨h.text, h.ended⟩
      · -- A line that goes on without a mark keeps its text; only its column is forgotten.
        have hlazy : (p.setLine n { p.line n with indent := -1 }).Shows source :=
          h.setLine (List.suffix_refl _) rfl
        exact ih hlazy ..

/-- Nothing is taken off the text of an item. -/
theorem Shows.inItem (h : p.Shows source) (mark : ItemMark) (n : Nat) :
    (p.inItem mark n).1.Shows source := by
  have hinner : ∀ (shift : Nat) (indent : Int),
      (p.setLine n { p.line n with shift := shift, indent := indent }).Shows source :=
    fun _ _ => h.setLine (List.suffix_refl _) rfl
  exact ⟨(hinner _ _).text, (hinner _ _).ended⟩

theorem not_mem_text (h : p.Shows source) (n : Nat) : '\n' ∉ (p.line n).text :=
  fun hmem => not_mem_sourceLine source n ((h.text n).subset hmem)

/-- A line that is not empty is a line of the document. -/
theorem Shows.getElem? (h : p.Shows source) {n : Nat} (hsome : (p.line n).text ≠ []) :
    (Text.splitOn '\n' source)[n]? = some (sourceLine source n) := by
  have htext := h.text n
  unfold sourceLine at htext ⊢
  rw [List.getD_eq_getElem?_getD] at htext ⊢
  cases hn : (Text.splitOn '\n' source)[n]? with
  | none =>
      rw [hn] at htext
      exact absurd (List.suffix_nil.mp htext) hsome
  | some l => rfl

/-- Nothing stands behind a line without an end. -/
theorem cutAll_beyond (h : p.Shows source) {first : Nat}
    (hlast : (Text.splitOn '\n' source).length ≤ first) (columns : Nat) (withLast : Bool)
    (count : Nat) : Line.cutAll columns withLast ((List.range' first count).map p.line) = [] := by
  induction count generalizing first with
  | zero => rfl
  | succ count ih =>
      -- A line with a text would be a line of the source.
      have htext : (p.line first).text = [] := Classical.byContradiction fun hsome => by
        have hget := h.getElem? hsome
        rw [List.getElem?_eq_none hlast] at hget
        cases hget
      have hended : (p.line first).ended = false := by
        rw [h.ended, decide_eq_false]
        omega
      rw [List.range'_succ, List.map_cons, Line.cutAll, ih (by omega), Line.cut_empty htext,
        hended]
      rfl

/-- The lines of a text that is cut out of a place are its lines without some columns. The
    induction is on the number of lines. Only behind the last line of the document there is
    no line end, and then nothing follows. -/
theorem line_of_cut (h : p.Shows source) {first count columns : Nat} {withLast : Bool}
    {k : Nat} {line : List Char}
    (hline : (Text.feedLines
      (Line.cutAll columns withLast ((List.range' first count).map p.line)))[k]? = some line) :
    k < count ∧ first + k < (Text.splitOn '\n' source).length ∧
      line = (p.line (first + k)).cut columns := by
  induction count generalizing first k with
  | zero =>
      cases k <;> cases hline
  | succ count ih =>
      have hfirst := Line.not_mem_cut (not_mem_text h first) columns
      rw [List.range'_succ, List.map_cons, Line.cutAll] at hline
      have hone : ∀ {k : Nat}, (Text.feedLines ((p.line first).cut columns))[k]? = some line →
          k < count + 1 ∧ first + k < (Text.splitOn '\n' source).length ∧
            line = (p.line (first + k)).cut columns := by
        intro k hk
        rw [Text.feedLines_of_not_mem hfirst] at hk
        split at hk
        · cases hk
        · next hsome =>
            cases k with
            | zero =>
                cases hk
                have htext : (p.line first).text ≠ [] := fun hnil => hsome (Line.cut_empty hnil _)
                exact ⟨Nat.succ_pos _, (List.getElem?_eq_some_iff.mp (h.getElem? htext)).1, rfl⟩
            | succ k => cases hk
      by_cases hmore : first + 1 < (Text.splitOn '\n' source).length
      · rw [h.ended, decide_eq_true hmore, Bool.true_and] at hline
        split at hline
        · rw [List.append_assoc, List.singleton_append, Text.feedLines_append hfirst] at hline
          cases k with
          | zero =>
              cases hline
              exact ⟨Nat.succ_pos _, Nat.lt_of_succ_lt hmore, rfl⟩
          | succ k =>
              rcases ih hline with ⟨hk, hlength, hcut⟩
              have hsum : first + 1 + k = first + (k + 1) := by omega
              rw [hsum] at hlength hcut
              exact ⟨Nat.succ_lt_succ hk, hlength, hcut⟩
        · next hlast =>
            -- No line follows.
            have hcount : count = 0 := by
              cases count with
              | zero => rfl
              | succ count => simp [List.range'_succ] at hlast
            rw [hcount] at hline
            exact hone (by simpa [Line.cutAll] using hline)
      · rw [h.ended, decide_eq_false hmore, cutAll_beyond h (Nat.not_lt.mp hmore)] at hline
        exact hone (by simpa using hline)

/-- The lines of a text that is cut out of a place stand in the lines of the document. -/
theorem Shows.isPlaced_cut (h : p.Shows source) (first stop columns : Nat) (withLast : Bool) :
    IsPlaced source first stop (p.cut first stop columns withLast) := by
  intro k line hline
  rcases line_of_cut h hline with ⟨hk, hlength, rfl⟩
  have hget : (Text.splitOn '\n' source)[first + k]? = some (sourceLine source (first + k)) := by
    rw [sourceLine, List.getD_eq_getElem?_getD, List.getElem?_eq_getElem hlength]
    rfl
  refine ⟨by omega, _, hget, fun w hw hhead => ?_⟩
  exact (Line.infix_of_cut hw hhead).trans (h.text _).isInfix

/-- A part of one line. -/
theorem Shows.isPlaced_line (h : p.Shows source) {n : Nat} {cs : List Char}
    (hcs : cs <:+: (p.line n).text) : IsPlaced source n (n + 1) cs := by
  intro k line hline
  rw [Text.feedLines_of_not_mem fun hmem => not_mem_text h n (hcs.subset hmem)] at hline
  split at hline
  · cases hline
  · next hsome =>
      cases k with
      | zero =>
          cases hline
          have htext : (p.line n).text ≠ [] := fun hnil => hsome (List.infix_nil.mp (hnil ▸ hcs))
          exact ⟨Nat.lt_succ_self n, _, h.getElem? htext, fun w hw _ =>
            (hw.trans hcs).trans (h.text n).isInfix⟩
      | succ k => cases hline

end Place

theorem IsPlaced.mono {first stop later : Nat} {cs : List Char} (h : IsPlaced source first stop cs)
    (hstop : stop ≤ later) : IsPlaced source first later cs := by
  intro k line hline
  rcases h k line hline with ⟨hk, hplaced⟩
  exact ⟨Nat.lt_of_lt_of_le hk hstop, hplaced⟩

/-- The text of a block stands in its lines. Raw HTML begins on the first line and fenced code
    on the second one; the text of a paragraph or a heading is a part of what stands there. -/
def Block.IsPlaced (source : List Char) : Block (List Char) → Prop
  | .paragraph span text => ∃ cs, text <:+: cs ∧ Markdown.IsPlaced source span.first span.stop cs
  | .heading span _ text => ∃ cs, text <:+: cs ∧ Markdown.IsPlaced source span.first span.stop cs
  | .html span body => Markdown.IsPlaced source span.first span.stop body.toList
  | .fence span _ body => Markdown.IsPlaced source (span.first + 1) span.stop body.toList
  | _ => True

/-- The text of every block among some blocks and inside of them stands in its lines. -/
def AllPlaced (source : List Char) (blocks : List (Block (List Char))) : Prop :=
  ∀ b : Block (List Char), b.Within blocks → b.IsPlaced source

theorem allPlaced_nil : AllPlaced source [] := fun _ h => absurd h Block.not_within_nil

theorem allPlaced_append {blocks more : List (Block (List Char))} (h : AllPlaced source blocks)
    (hmore : AllPlaced source more) : AllPlaced source (blocks ++ more) :=
  fun b hb => (Block.within_append.mp hb).elim (h b) (hmore b)

/-- A block without blocks inside. -/
theorem allPlaced_leaf {b : Block (List Char)} (h : b.IsPlaced source) (hinner : b.inner = []) :
    AllPlaced source [b] := by
  intro c hc
  rcases Block.within_singleton.mp hc with rfl | hc
  · exact h
  · rw [hinner] at hc
    exact absurd hc Block.not_within_nil

/-- A container. -/
theorem allPlaced_around {b : Block (List Char)} (h : b.IsPlaced source)
    (hinner : AllPlaced source b.inner) : AllPlaced source [b] := by
  intro c hc
  rcases Block.within_singleton.mp hc with rfl | hc
  · exact h
  · exact hinner c hc

namespace Place

theorem isPlaced_textOf (h : p.Shows source) (first stop : Nat) :
    ∃ cs, p.textOf first stop <:+: cs ∧ IsPlaced source first stop cs :=
  ⟨_, Text.infix_of_trim _, h.isPlaced_cut first stop p.margin false⟩

/-- Code between fences begins on the line after the opening fence. -/
theorem isPlaced_fence (h : p.Shows source) (mark : FenceMark) (n stop : Nat) :
    AllPlaced source (p.fence mark n stop).blocks := by
  refine allPlaced_leaf ?_ rfl
  have hplaced := h.isPlaced_cut (n + 1) (p.fenceEnd mark (stop - (n + 1)) (n + 1)).1
    (p.line n).indent.toNat true
  change Markdown.IsPlaced source (n + 1) _ (String.toList (String.ofList _))
  rw [String.toList_ofList]
  refine hplaced.mono ?_
  split
  · exact Nat.le_succ _
  · exact Nat.le_refl _

theorem isPlaced_html (h : p.Shows source) (opener : RawHtml.Opener) (n stop : Nat) :
    AllPlaced source (p.html opener n stop).blocks := by
  refine allPlaced_leaf ?_ rfl
  change Markdown.IsPlaced source n _ (String.toList (String.ofList _))
  rw [String.toList_ofList]
  exact h.isPlaced_cut n _ p.margin true

end Place

theorem infix_of_heading? {content text : List Char} {level : Nat}
    (h : heading? content = some (level, text)) : text <:+: content := by
  unfold heading? at h
  simp only [] at h
  split at h
  · rcases Prod.mk.inj (Option.some.inj h) with ⟨_, rfl⟩
    have hbody := (Text.prefix_of_dropEndWhile isSpace
      (content.drop (content.takeWhile (· == '#')).length)).isInfix.trans
        (List.drop_suffix _ _).isInfix
    split
    · exact (Text.prefix_of_dropEndWhile _ _).isInfix.trans hbody
    · exact hbody
  · cases h

/-- The block that begins on a line outside of containers. -/
theorem isPlaced_plainBlock (h : p.Shows source) (n stop : Nat) :
    AllPlaced source (p.plainBlock n stop).blocks := by
  unfold Place.plainBlock
  simp only []
  split
  · exact allPlaced_nil
  split
  · exact Place.isPlaced_html h _ n stop
  split
  · -- A heading has a part of its own line, and the other texts are those of several lines.
    next level text hheading =>
      refine allPlaced_leaf ⟨_, List.infix_refl _, ?_⟩ rfl
      exact h.isPlaced_line ((Text.infix_of_trim _).trans
        ((infix_of_heading? hheading).trans (List.drop_suffix _ _).isInfix))
  split
  · next last level _ =>
      refine allPlaced_leaf ?_ rfl
      rcases Place.isPlaced_textOf h n last with ⟨cs, htext, hplaced⟩
      exact ⟨cs, htext, hplaced.mono (Nat.le_succ last)⟩
  · exact allPlaced_leaf (Place.isPlaced_textOf h _ _) rfl

/-- The blocks between two lines, the block that begins on a line, and the items of a list. The
    induction is on the fuel, since containers hand their lines on to be read again. -/
theorem isPlaced_read (source : List Char) (fuel : Nat) :
    (∀ (p : Place) (n stop : Nat), p.Shows source →
      AllPlaced source (readBlocks fuel p n stop).blocks) ∧
    (∀ (p : Place) (n stop : Nat), p.Shows source →
      AllPlaced source (readBlock fuel p n stop).blocks) ∧
    ∀ (p : Place) (mark : ItemMark) (n stop : Nat), p.Shows source →
      AllPlaced source (readItems fuel p mark n stop).blocks := by
  induction fuel with
  | zero =>
      refine ⟨fun p n stop _ => ?_, fun p n stop _ => ?_, fun p mark n stop _ => ?_⟩
      · rw [readBlocks]
        exact allPlaced_nil
      · rw [readBlock]
        exact allPlaced_nil
      · rw [readItems]
        exact allPlaced_nil
  | succ fuel ih =>
      rcases ih with ⟨ihblocks, ihblock, ihitems⟩
      refine ⟨fun p n stop h => ?_, fun p n stop h => ?_, fun p mark n stop h => ?_⟩
      · -- The blocks between two lines: the first one, and those behind it.
        rw [readBlocks]
        simp only []
        split
        · exact allPlaced_nil
        split
        · exact allPlaced_nil
        split
        · exact allPlaced_nil
        · exact allPlaced_append (ihblock p _ stop h) (ihblocks p _ stop h)
      · -- The block that begins on a line. What is quoted is read from the lines without their
        -- marks.
        rw [readBlock]
        simp only []
        split
        · exact allPlaced_leaf trivial rfl
        split
        · exact Place.isPlaced_fence h _ n stop
        · next bare _ hbare =>
            rcases Line.unquoted?_suffix hbare with ⟨htext, hended⟩
            have hquoted := (h.setLine htext hended).quoted (stop - (n + 1)) (n + 1) bare.isEmpty
            exact allPlaced_around trivial (ihblocks _ _ _ ⟨hquoted.text, hquoted.ended⟩)
        split
        · exact allPlaced_leaf trivial rfl
        split
        · next mark _ =>
            have hitems := ihitems p mark n stop h
            split
            · exact allPlaced_around trivial hitems
            · exact allPlaced_around trivial hitems
        · exact isPlaced_plainBlock h n stop
      · -- The items of a list: the lines of the first one, moved to its column, and the items
        -- behind it.
        have hitem : AllPlaced source
            (if !(p.inItem mark n).2 && p.isEmpty (n + 1) then Reading.none (min (n + 2) stop)
              else readBlocks fuel (p.inItem mark n).1 n stop).blocks := by
          split
          · exact allPlaced_nil
          · exact ihblocks _ _ _ (h.inItem mark n)
        rw [readItems]
        simp only []
        have haround (span : Span) := allPlaced_around (b := .item span _) trivial hitem
        split
        · exact allPlaced_append (haround _) (ihitems p _ _ stop h)
        · exact haround _

/-- A line of a document as it is read at first. Beyond the end, and for a blank text after the
    last line end, there is none. -/
theorem ofSource_getD (source : List Char) (n : Nat) :
    (Line.ofSource source)[n]?.getD .beyond
        = Line.plain (sourceLine source n) (decide (n + 1 < (Text.splitOn '\n' source).length)) ∨
      (Line.ofSource source)[n]?.getD .beyond = .beyond ∧
        ¬ n + 1 < (Text.splitOn '\n' source).length := by
  rcases List.eq_nil_or_concat (Text.splitOn '\n' source) with hnil | ⟨init, last, hpieces⟩
  · exact absurd hnil (Text.splitOnFrom_ne_nil _ _ _)
  rw [List.concat_eq_append] at hpieces
  unfold Line.ofSource sourceLine
  simp only [hpieces, List.getLast?_concat, List.dropLast_concat, Option.getD_some,
    List.length_append, List.length_singleton, List.getD_eq_getElem?_getD]
  -- A line before the last one, the last one, and none at all.
  rcases Nat.lt_trichotomy n init.length with hn | rfl | hn
  · refine Or.inl ?_
    rw [List.getElem?_append_left (by simpa using hn), List.getElem?_append_left hn,
      List.getElem?_map, List.getElem?_eq_getElem hn]
    simp [hn]
  · rw [List.getElem?_append_right (by simp)]
    by_cases hlast : last.all isSpace
    · exact Or.inr (by simp [hlast])
    · exact Or.inl (by simp [hlast])
  · refine Or.inr ⟨?_, by omega⟩
    rw [List.getElem?_eq_none]
    · rfl
    · rw [List.length_append, List.length_map]
      split <;> simp <;> omega

/-- At first nothing is taken off the lines of a document. -/
theorem shows_ofSource (source : List Char) (limit margin : Nat) (outer : Option Nat) (depth : Nat) :
    Place.Shows ⟨(Line.ofSource source).toArray, limit, margin, outer, depth⟩ source := by
  have hline (n : Nat) : (Line.ofSource source).toArray.getD n .beyond
      = (Line.ofSource source)[n]?.getD .beyond := by
    rw [Array.getD_eq_getD_getElem?, List.getElem?_toArray]
  constructor
  · intro n
    change ((Line.ofSource source).toArray.getD n .beyond).text <:+ _
    rw [hline]
    -- Behind the last line there are only empty ones.
    rcases ofSource_getD source n with h | ⟨h, _⟩
    · rw [h]
      exact List.suffix_refl _
    · rw [h]
      exact List.nil_suffix
  · intro n
    change ((Line.ofSource source).toArray.getD n .beyond).ended = _
    rw [hline]
    rcases ofSource_getD source n with h | ⟨h, hlast⟩
    · rw [h]
      rfl
    · rw [h, decide_eq_false hlast]
      rfl

/-- That no character is replaced when a document is read, as a test. -/
theorem plain_of_all {source : List Char}
    (h : (source.all fun c => c != '\r' && c.toNat != 0) = true) :
    ∀ c ∈ source, c ≠ '\r' ∧ c.toNat ≠ 0 := by
  intro c hc
  have hplain := List.all_eq_true.mp h c hc
  simp only [Bool.and_eq_true, bne_iff_ne] at hplain
  exact hplain

/-- The text of every block of a document stands in the lines of the block, if no character is
    replaced when the document is read. -/
theorem isPlaced_of_blocksOf {source : List Char} (h : ∀ c ∈ source, c ≠ '\r' ∧ c.toNat ≠ 0) :
    AllPlaced source (blocksOf source).1 := by
  unfold blocksOf
  rw [normalizedSource_eq h]
  exact (isPlaced_read source _).1 _ _ _ (shows_ofSource source _ _ _ _)

theorem not_mem_joinLineEnds (cs : List Char) : '\r' ∉ Text.joinLineEnds cs := by
  fun_induction Text.joinLineEnds cs with
  | case1 => exact List.not_mem_nil
  | case2 rest ih => exact fun h => (List.mem_cons.mp h).elim (fun h => by cases h) ih
  | case3 c rest hne ih =>
      intro h
      rcases List.mem_cons.mp h with h | h
      · by_cases hc : c == '\r'
        · rw [if_pos hc] at h
          cases h
        · rw [if_neg hc] at h
          exact hc (beq_iff_eq.mpr h.symm)
      · exact ih h

/-- What is replaced when a document is read does not come up again. -/
theorem plain_normalizedSource (source : List Char) :
    ∀ c ∈ normalizedSource source, c ≠ '\r' ∧ c.toNat ≠ 0 := by
  intro c hc
  unfold normalizedSource at hc
  rcases List.mem_map.mp hc with ⟨d, hd, rfl⟩
  split
  · exact ⟨by decide, by decide⟩
  · next hnull =>
      refine ⟨fun heq => not_mem_joinLineEnds source (heq ▸ hd), ?_⟩
      simpa using hnull

/-- Reading a document is reading what it is replaced with. -/
theorem blocksOf_normalizedSource (source : List Char) :
    blocksOf (normalizedSource source) = blocksOf source := by
  unfold blocksOf
  rw [normalizedSource_eq (plain_normalizedSource source)]

/-- No carriage return is left in fenced code. -/
theorem not_mem_fence {source : List Char} {span : Span} {info body : String}
    (h : .fence span info body ∈ (blocksOf source).1) : '\r' ∉ body.toList := by
  intro hreturn
  rw [← blocksOf_normalizedSource] at h
  have hplaced := isPlaced_of_blocksOf (plain_normalizedSource source) _ (.here h)
  rcases Text.line_of_infix ((List.singleton_infix_iff _ _).mpr hreturn) (List.cons_ne_nil _ _)
    with ⟨k, line, hline, hin⟩
  rcases hplaced k line hline with ⟨_, l, hl, hpart⟩
  have hmem : '\r' ∈ l := (List.singleton_infix_iff _ _).mp (hpart ['\r'] hin (by decide))
  have hinside := Text.infix_of_mem_splitOnFrom (List.mem_of_getElem? hl)
  exact (plain_normalizedSource source '\r' (hinside.subset hmem)).1 rfl

end Markdown

end Annals
