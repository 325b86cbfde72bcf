import Annals.Markdown.Inlines
import Annals.Proofs.Markdown.PlainLines

/-!
# Reading Blocks One After Another

What the reading of blocks does outside of containers, as far as headings on one
line, comments and fences go.

Three steps are all there is to it. An empty line is passed over. A line that begins
a block gives this block, and the reading goes on behind it, past one more line if
that is empty, which makes no difference. And a comment or a fence goes on up to the
first line that closes it, so it is enough to know that no line before does.

## Theorems

* `htmlEnd_of_holds`, `fenceEnd_of_holds`: Where raw HTML and a fence end.
* `readBlocks_blanks`: Empty lines are passed over.
* `readBlocks_block`: A block, and what is behind it.
* `readBlock_heading`: A line that is a heading.
* `readBlock_comment`: Lines that are a comment.
* `readBlock_fence`: Lines between fences.
-/

namespace Annals

namespace Markdown

/-- A place outside of all containers, whose last line is before line `stop`. -/
structure Place.IsTop (p : Place) (stop : Nat) : Prop where
  margin : p.margin = 0
  outer : p.outer = none
  depth : p.depth = 0
  limit : p.limit = stop

theorem Place.isTop_ofLines (ls : List (List Char)) : (ofLines ls).IsTop ls.length :=
  ⟨rfl, rfl, rfl, rfl⟩

namespace Place

variable {p : Place} {n stop : Nat}

theorem not_left (hp : p.IsTop stop) (l : List Char) :
    ((Line.plain l true).indent < p.margin) = False := by
  have h := Line.plain_indent_nonneg l true
  rw [hp.margin, eq_iff_iff, iff_false]
  omega

theorem isCode_plain (hp : p.IsTop stop) (l : List Char) :
    p.isCode (Line.plain l true) = decide (4 ≤ (Line.plain l true).indent) := by
  unfold isCode
  rw [hp.margin]
  simp

/-- Raw HTML ends behind the first line with its mark. -/
theorem htmlEnd_of_holds (hp : p.IsTop stop) (opener : RawHtml.Opener)
    {mid : List (List Char)} {close : List Char} (h : p.Holds n (mid ++ [close]))
    (hmid : ∀ l ∈ mid, opener.closedBy (Line.plain l true).content = false)
    (hclose : opener.closedBy (Line.plain close true).content = true)
    (hfilled : close.all isSpace = false) {fuel : Nat} (hfuel : mid.length < fuel) :
    p.htmlEnd opener fuel n = n + mid.length + 1 := by
  induction mid generalizing n fuel with
  | nil =>
      rcases fuel with _ | fuel
      · omega
      · rw [htmlEnd]
        simp only [h.1, not_left hp, Line.plain_isEmpty, hclose, hfilled]
        simp
  | cons l rest ih =>
      rcases fuel with _ | fuel
      · omega
      · -- The line has not the mark, so the search goes on behind it.
        have hl := hmid l (List.mem_cons_self ..)
        have hrest := ih h.2 (fun x hx => hmid x (List.mem_cons_of_mem _ hx))
          (by simpa using hfuel)
        rw [htmlEnd]
        simp only [h.1, not_left hp, hl, hrest, List.length_cons]
        simp
        omega

/-- A fence is closed on the first line that closes it. -/
theorem fenceEnd_of_holds (hp : p.IsTop stop) (mark : FenceMark)
    {mid : List (List Char)} {close : List Char} (h : p.Holds n (mid ++ [close]))
    (hmid : ∀ l ∈ mid, (Line.plain l true).indent < 4 →
      mark.closedBy (Line.plain l true).content = false)
    (hnarrow : (Line.plain close true).indent < 4)
    (hclose : mark.closedBy (Line.plain close true).content = true)
    {fuel : Nat} (hfuel : mid.length < fuel) :
    p.fenceEnd mark fuel n = (n + mid.length, true) := by
  induction mid generalizing n fuel with
  | nil =>
      rcases fuel with _ | fuel
      · omega
      · have hcode : p.isCode (Line.plain close true) = false := by
          rw [isCode_plain hp]
          exact decide_eq_false (by omega)
        rw [fenceEnd]
        simp only [h.1, not_left hp, hclose, hcode, Line.plain_ended]
        simp
  | cons l rest ih =>
      rcases fuel with _ | fuel
      · omega
      · have hrest := ih h.2 (fun x hx => hmid x (List.mem_cons_of_mem _ hx))
          (by simpa using hfuel)
        have hopen : (!p.isCode (Line.plain l true) && mark.closedBy (Line.plain l true).content)
            = false := by
          rw [isCode_plain hp]
          by_cases hcode : 4 ≤ (Line.plain l true).indent
          · -- A line that is indented this far closes nothing, whatever is on it.
            simp [hcode]
          · rw [hmid l (List.mem_cons_self ..) (by omega)]
            simp
        rw [fenceEnd]
        simp only [h.1, not_left hp, hopen, hrest, Line.plain_ended, List.length_cons]
        simp
        omega

end Place

variable {p : Place} {n stop : Nat}

/-- An empty line before blocks makes no difference. -/
theorem readBlocks_empty (hp : p.IsTop stop) {l : List Char} (h : p.line n = Line.plain l true)
    (hl : l.all isSpace = true) (hn : n < stop) (fuel : Nat) :
    readBlocks (fuel + 1) p n stop = readBlocks (fuel + 1) p (n + 1) stop := by
  have hempty : p.isEmpty n = true := by
    unfold Place.isEmpty
    rw [h, Line.plain_isEmpty, hl]
  have hskip : p.skipEmpty (p.limit - n) n = p.skipEmpty (p.limit - (n + 1)) (n + 1) := by
    have hfuel : p.limit - n = (p.limit - (n + 1)) + 1 := by
      rw [hp.limit]
      omega
    rw [hfuel, Place.skipEmpty]
    simp [hp.limit, hn, hempty]
  rw [readBlocks, readBlocks, hskip, if_neg (by omega)]
  by_cases hend : stop ≤ n + 1
  · -- The empty line was the last one, and the search ends where it begins.
    have hzero : p.limit - (n + 1) = 0 := by
      rw [hp.limit]
      omega
    rw [if_pos hend, hzero, Place.skipEmpty, if_pos]
    simp [hend]
  · rw [if_neg hend]

/-- Empty lines before blocks make no difference. -/
theorem readBlocks_blanks (hp : p.IsTop stop) {blanks : List (List Char)} (h : p.Holds n blanks)
    (hblank : ∀ l ∈ blanks, l.all isSpace = true) (hn : n + blanks.length ≤ stop) (fuel : Nat) :
    readBlocks (fuel + 1) p n stop = readBlocks (fuel + 1) p (n + blanks.length) stop := by
  induction blanks generalizing n with
  | nil => rfl
  | cons l rest ih =>
      rw [List.length_cons] at hn ⊢
      rw [readBlocks_empty hp h.1 (hblank l (List.mem_cons_self ..)) (by omega)]
      rw [ih h.2 (fun x hx => hblank x (List.mem_cons_of_mem _ hx)) (by omega)]
      congr 1
      omega

/-- A block that ends before the last line, and the blocks behind it. -/
theorem readBlocks_block (hp : p.IsTop stop) {l : List Char} (h : p.line n = Line.plain l true)
    (hl : l.all isSpace = false) (hn : n < stop) {fuel next : Nat}
    {block : Block (List Char)} (hblock : readBlock (fuel + 1) p n stop = .one block next)
    (hlines : next < stop → ∃ l, p.line next = Line.plain l true) :
    (readBlocks (fuel + 2) p n stop).blocks
      = block :: (readBlocks (fuel + 1) p next stop).blocks := by
  have hfilled : p.isEmpty n = false := by
    unfold Place.isEmpty
    rw [h, Line.plain_isEmpty, hl]
  have hskip : p.skipEmpty (p.limit - n) n = n := by
    have hfuel : p.limit - n = (p.limit - n - 1) + 1 := by
      rw [hp.limit]
      omega
    rw [hfuel, Place.skipEmpty]
    simp [hfilled]
  -- One empty line behind a block is passed over together with it.
  have hrest : readBlocks (fuel + 1) p
      (if next < stop && p.isEmpty next then next + 1 else next) stop
        = readBlocks (fuel + 1) p next stop := by
    by_cases hempty : next < stop ∧ p.isEmpty next = true
    · rcases hlines hempty.1 with ⟨l', hl'⟩
      have hblank : l'.all isSpace = true := by
        have hline := hempty.2
        unfold Place.isEmpty at hline
        rwa [hl', Line.plain_isEmpty] at hline
      rw [if_pos (by simp [hempty])]
      exact (readBlocks_empty hp hl' hblank hempty.1 fuel).symm
    · rw [if_neg (by simpa using hempty)]
  have hread : readBlocks (fuel + 2) p n stop
      = ⟨block :: (readBlocks (fuel + 1) p next stop).blocks,
          (readBlocks (fuel + 1) p next stop).next,
          (readBlocks (fuel + 1) p next stop).labels⟩ := by
    rw [readBlocks, if_neg (by omega), hskip]
    simp only [h, Place.not_left hp, hp.depth, maxDepth, hblock, Reading.one]
    rw [hrest]
    simp
    omega
  rw [hread]

/-- A line that begins no code, no fence, no container and no rule. -/
theorem readBlock_plain (hp : p.IsTop stop) {l : List Char} (h : p.line n = Line.plain l true)
    (hnarrow : (Line.plain l true).indent < 4)
    (hfence : fenceMark? (Line.plain l true).content = none)
    (hquote : (Line.plain l true).content.head? ≠ some '>')
    (hrule : isRule (Line.plain l true).content = false)
    (hitem : itemMark? (Line.plain l true).content = none) (fuel : Nat) :
    readBlock (fuel + 1) p n stop = p.plainBlock n stop := by
  have hcode : p.isCode (Line.plain l true) = false := by
    rw [Place.isCode_plain hp]
    exact decide_eq_false (by omega)
  -- The line begins none of what is looked for before a plain block.
  have hbare : (Line.plain l true).unquoted? = none := by
    unfold Line.unquoted?
    split
    · next rest hc =>
        rw [hc] at hquote
        exact absurd rfl hquote
    · rfl
  have hmark : p.itemMark? (Line.plain l true) = none := by
    unfold Place.itemMark?
    rw [hitem]
    simp
  rw [readBlock]
  simp only [h, hcode, hfence, hbare, hrule, hmark]
  simp

/-- A heading on one line, in which no angle bracket opens: marks, behind less than four
    blanks, and nothing or a blank and some text. -/
def IsHeading (l : List Char) : Prop :=
  ∃ indent level rest, indent < 4 ∧ 1 ≤ level ∧ level ≤ 6 ∧
    l = List.replicate indent ' ' ++ (List.replicate level '#' ++ rest) ∧
    (∀ c ∈ rest.head?, isSpace c = true) ∧ '<' ∉ rest

theorem mem_dropEndWhile {c : Char} {f : Char → Bool} {cs : List Char}
    (h : c ∈ Text.dropEndWhile f cs) : c ∈ cs := by
  unfold Text.dropEndWhile at h
  exact List.mem_reverse.mp ((List.dropWhile_suffix f).mem (List.mem_reverse.mp h))

theorem mem_trim {c : Char} {cs : List Char} (h : c ∈ Text.trim cs) : c ∈ cs :=
  (List.dropWhile_suffix Text.isBlank).mem (mem_dropEndWhile h)

theorem heading?_replicate {level : Nat} {rest : List Char} (hmin : 1 ≤ level)
    (hmax : level ≤ 6) (hrest : ∀ c ∈ rest.head?, isSpace c = true) :
    ∃ text, heading? (List.replicate level '#' ++ rest) = some (level, text) ∧
      ∀ c ∈ text, c ∈ rest := by
  have htake : (List.replicate level '#' ++ rest).takeWhile (· == '#')
      = List.replicate level '#' := by
    rw [List.takeWhile_append_of_pos (fun c hc => by simp [List.eq_of_mem_replicate hc])]
    -- The run of number signs is as long as it is written, since what follows is a space or
    -- nothing.
    cases rest with
    | nil => simp
    | cons c rest =>
        have hc := hrest c rfl
        have hne : (c == '#') = false := by
          refine beq_eq_false_iff_ne.mpr (fun heq => ?_)
          rw [heq] at hc
          exact absurd hc (by decide)
        rw [List.takeWhile_cons, hne]
        simp
  have hends : markEnds rest = true := by
    unfold markEnds
    cases rest with
    | nil => rfl
    | cons c rest => exact hrest c rfl
  unfold heading?
  simp only [htake, List.length_replicate, List.drop_left', hends, hmin, hmax]
  refine ⟨_, rfl, fun c hc => ?_⟩
  split at hc
  · exact mem_dropEndWhile (mem_dropEndWhile hc)
  · exact mem_dropEndWhile hc

/-- A line that is a heading. -/
theorem readBlock_heading (hp : p.IsTop stop) {l : List Char}
    (h : p.line n = Line.plain l true) (hl : IsHeading l) (fuel : Nat) :
    ∃ level text, readBlock (fuel + 1) p n stop
        = .one (.heading ⟨n, n + 1⟩ level text) (n + 1) ∧ '<' ∉ text := by
  rcases hl with ⟨indent, level, rest, hindent, hmin, hmax, rfl, hrest, hopen⟩
  rcases heading?_replicate hmin hmax hrest with ⟨text, hheading, hsub⟩
  obtain ⟨more, hmarks⟩ : ∃ more, List.replicate level '#' ++ rest = '#' :: more := by
    cases level with
    | zero => omega
    | succ k => exact ⟨List.replicate k '#' ++ rest, rfl⟩
  -- The content begins with a mark, and no other block does.
  rw [hmarks] at hheading h
  rcases Line.plain_content_replicate true indent more (by decide : isSpace '#' = false) with
    ⟨hcontent, hcolumn⟩
  refine ⟨level, Text.trim text, ?_, fun hmem => hopen (hsub _ (mem_trim hmem))⟩
  rw [readBlock_plain hp h (by omega)]
  · unfold Place.plainBlock
    have hbracket : Text.startsWith ['['] ('#' :: more) = false := rfl
    have hopener : RawHtml.opener? ('#' :: more) = none := rfl
    simp only [h, hcontent, hbracket, hopener, hheading]
    rfl
  · rw [hcontent]
    rfl
  · rw [hcontent]
    exact fun heq => by cases heq
  · rw [hcontent]
    rfl
  · rw [hcontent]
    rfl

/-- The line that opens a comment. -/
def commentStart : List Char := ['<', '!', '-', '-']

/-- The line that ends a comment. -/
def commentEnd : List Char := ['-', '-', '>']

/-- Lines that are a comment: no line but the last has the mark that ends it. -/
theorem readBlock_comment (hp : p.IsTop stop) {mid : List (List Char)}
    (h : p.Holds n (commentStart :: (mid ++ [commentEnd])))
    (hmid : ∀ l ∈ mid, Text.contains commentEnd l = false) (hn : n + mid.length + 2 ≤ stop)
    (fuel : Nat) :
    readBlock (fuel + 1) p n stop = .one
      (.html ⟨n, n + mid.length + 2⟩
        (String.ofList (Text.unlines (commentStart :: (mid ++ [commentEnd])))))
      (n + mid.length + 2) := by
  have hstart : (Line.plain commentStart true).content = commentStart := rfl
  have hopener : RawHtml.opener? commentStart = some .comment := by decide
  -- What has no mark in it has none behind the blanks at its start.
  have hend : p.htmlEnd .comment (stop - (n + 1)) (n + 1) = n + mid.length + 2 := by
    rw [Place.htmlEnd_of_holds hp .comment h.2 (fun l hl => ?_) rfl rfl (by omega)]
    · omega
    · rcases Line.plain_content_drop l true with ⟨k, hk⟩
      rw [hk]
      exact Text.contains_drop (hmid l hl) k
  have hcut := Place.cut_of_holds h
  have hlength : n + (commentStart :: (mid ++ [commentEnd])).length = n + mid.length + 2 := by
    simp
    omega
  rw [hlength] at hcut
  rw [readBlock_plain hp h.1 (by decide) rfl (by decide) rfl rfl]
  unfold Place.plainBlock
  have hbracket : Text.startsWith ['['] commentStart = false := rfl
  have hopen : RawHtml.Opener.comment.closedBy commentStart = false := rfl
  simp only [h.1, hstart, hbracket, hopener]
  simp only [Place.html, h.1, hstart, hopen, hend, hp.margin, Bool.false_eq_true, if_false]
  rw [hcut]

/-- The line that closes a fence of three backquotes. -/
def fenceLine : List Char := List.replicate 3 Inlines.tick

/-- A line that closes a fence of three backquotes: as many or more, behind less than
    four blanks and before nothing but blanks and tabs. A tab before them would take a
    line to the fourth column. -/
def ClosesFence (l : List Char) : Prop :=
  ∃ indent length tail, indent < 4 ∧ 3 ≤ length ∧
    l = List.replicate indent ' ' ++ (List.replicate length Inlines.tick ++ tail) ∧
    tail.all isSpace = true

theorem takeWhile_eq_replicate (c : Char) (cs : List Char) :
    cs.takeWhile (· == c) = List.replicate (cs.takeWhile (· == c)).length c := by
  refine List.eq_replicate_iff.mpr ⟨rfl, fun d hd => ?_⟩
  exact eq_of_beq (List.all_eq_true.mp List.all_takeWhile d hd)

theorem closesFence_of_closedBy {l info : List Char}
    (hnarrow : (Line.plain l true).indent < 4)
    (h : FenceMark.closedBy ⟨Inlines.tick, 3, info⟩ (Line.plain l true).content = true) :
    ClosesFence l := by
  rcases Line.plain_narrow l true hnarrow with ⟨indent, hindent, hl⟩
  let content := (Line.plain l true).content
  let run := content.takeWhile (· == Inlines.tick)
  unfold FenceMark.closedBy at h
  simp only [Bool.and_eq_true, decide_eq_true_eq] at h
  refine ⟨indent, run.length, content.drop run.length, hindent, h.1, ?_, h.2⟩
  -- The run of backquotes from the start is the fence, and the rest is blank.
  have hrun : List.replicate run.length Inlines.tick = run :=
    (takeWhile_eq_replicate Inlines.tick content).symm
  have hdrop : content.drop run.length = content.dropWhile (· == Inlines.tick) := by
    have hsplit := List.takeWhile_append_dropWhile (p := (· == Inlines.tick)) (l := content)
    calc content.drop run.length
        = (run ++ content.dropWhile (· == Inlines.tick)).drop run.length := by rw [hsplit]
      _ = content.dropWhile (· == Inlines.tick) := List.drop_left
  rw [hrun, hdrop, List.takeWhile_append_dropWhile]
  exact hl

theorem fenceMark?_info {info : List Char} (h : Inlines.tick ∉ info) :
    fenceMark? (fenceLine ++ info) = some ⟨Inlines.tick, 3, info⟩ := by
  -- The run ends with the fence, since the info has no backquote.
  have htake : (fenceLine ++ info).takeWhile (· == Inlines.tick) = fenceLine := by
    rw [List.takeWhile_append_of_pos (fun c hc => by simp [List.eq_of_mem_replicate hc])]
    cases info with
    | nil => rfl
    | cons c rest =>
        have hne : (c == Inlines.tick) = false :=
          beq_eq_false_iff_ne.mpr (fun heq => h (by simp [heq]))
        rw [List.takeWhile_cons, hne]
        simp
  have hhead : fenceLine ++ info = Inlines.tick :: (List.replicate 2 Inlines.tick ++ info) := rfl
  have hnot : info.contains Inlines.tick = false := by simpa using h
  rw [hhead] at htake ⊢
  unfold fenceMark?
  simp only [htake]
  simp only [fenceLine, List.length_replicate, ← hhead]
  have hdrop : (List.replicate 3 Inlines.tick ++ info).drop 3 = info := rfl
  rw [hdrop, hnot]
  rfl

/-- Lines between fences: no line but the last closes the one that the first opens. -/
theorem readBlock_fence (hp : p.IsTop stop) {info : List Char} {mid : List (List Char)}
    (h : p.Holds n ((fenceLine ++ info) :: (mid ++ [fenceLine]))) (hinfo : Inlines.tick ∉ info)
    (hmid : ∀ l ∈ mid, ¬ ClosesFence l) (hn : n + mid.length + 2 ≤ stop) (fuel : Nat) :
    readBlock (fuel + 1) p n stop = .one
      (.fence ⟨n, n + mid.length + 2⟩ (String.ofList info) (String.ofList (Text.unlines mid)))
      (n + mid.length + 2) := by
  rcases Line.plain_content true (List.replicate 2 Inlines.tick ++ info)
    (by decide : isSpace Inlines.tick = false) with ⟨hcontent, hcolumn⟩
  have hhead : fenceLine ++ info = Inlines.tick :: (List.replicate 2 Inlines.tick ++ info) := rfl
  rw [← hhead] at hcontent hcolumn
  have hcode : p.isCode (Line.plain (fenceLine ++ info) true) = false := by
    rw [Place.isCode_plain hp, hcolumn]
    decide
  -- The first line that closes the fence is the last of the lines.
  have hend : p.fenceEnd ⟨Inlines.tick, 3, info⟩ (stop - (n + 1)) (n + 1)
      = (n + 1 + mid.length, true) := by
    refine Place.fenceEnd_of_holds hp _ h.2 (fun l hl hnarrow => ?_) (by decide) rfl (by omega)
    cases hclosed : FenceMark.closedBy ⟨Inlines.tick, 3, info⟩ (Line.plain l true).content with
    | false => rfl
    | true => exact absurd (closesFence_of_closedBy hnarrow hclosed) (hmid l hl)
  have hcut : p.cut (n + 1) (n + 1 + mid.length) 0 true = Text.unlines mid :=
    Place.cut_of_holds (Place.holds_append.mp h.2).1
  have hnext : n + 1 + mid.length + 1 = n + mid.length + 2 := by omega
  rw [readBlock]
  simp only [h.1, hcode, hcontent, fenceMark?_info hinfo, Bool.false_eq_true, if_false]
  simp only [Place.fence, hend, h.1, hcolumn, Int.toNat_zero, hcut, if_true, hnext]

end Markdown

end Annals
