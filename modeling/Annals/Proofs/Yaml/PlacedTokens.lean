import Annals.Proofs.Yaml.Places

/-!
# Places of Tokens

Every token that is read begins and ends at a place of the text, and where one cannot be
read, the problem is at such a place.

There is a lemma for each function that reads a part of a token. It says that the cursor it
leaves was moved forward from the start of the text, if the one it was given was, and that
its problems are at marks of such cursors. The lemmas go through the functions from the
front to the back, a `Points.ite` for each test and a `Points.bind` for each part that is
read before, and what is read in between does not matter.

## Main definitions

* `Token.Placed`: The ends of a token.
* `IsRead`: A token that was read, and the cursor behind it.
* `Leaves`: A place where something stops, and the cursor from which reading goes on.

## Theorems

* `directive_points`, `anchor_points`, `tag_points`: Tokens of names.
* `blockScalar_points`: Scalars of several lines.
* `plainScalar_read`, `quotedScalar_points`: Scalars within a line.
-/

namespace Annals

namespace Yaml

/-- A token that begins and ends at marks that satisfy `P`. -/
structure Token.Placed (P : Mark → Prop) (t : Token) : Prop where
  start : P t.start
  stop : P t.stop

/-- A token of a text that was read, and the cursor behind it. -/
structure IsRead (text : List Char) (r : Read) : Prop where
  placed : r.1.Placed (IsPlace text)
  within : r.2.Within text

/-- The place where something stops, and the cursor from which reading goes on. -/
structure Leaves (text : List Char) (stop : Mark) (after : Cursor) : Prop where
  stop : IsPlace text stop
  after : after.Within text

variable {text : List Char} {c : Cursor} {stop : Mark}

theorem Cursor.Within.leaves (h : c.Within text) : Leaves text c.mark c := ⟨h.isPlace, h⟩

theorem Leaves.isRead {kind : TokenKind} {after : Cursor} (h : Leaves text stop after)
    (hc : c.Within text) : IsRead text (⟨kind, c.mark, stop⟩, after) :=
  ⟨⟨hc.isPlace, h.stop⟩, h.after⟩

theorem restOfLine_points (context : String) (start : Mark) (hc : c.Within text) :
    Points (IsPlace text) (restOfLine context start c) (·.Within text) := by
  have hblanks := hc.skipWhile (· == ' ')
  have hcomment : Cursor.Within text (if (c.skipWhile (· == ' ')).peek == '#' then
      (c.skipWhile (· == ' ')).skipWhile (!isLineEnd ·) else c.skipWhile (· == ' ')) :=
    (hblanks.skipWhile _).ite hblanks
  exact Points.ite (Points.ok hcomment.lineEnd) (Points.problem hcomment.isPlace)

theorem anchor_points (hc : c.Within text) :
    Points (IsPlace text) (anchor c) (IsRead text) := by
  have hstop := hc.next.skipWhile isNameChar
  exact Points.ite (Points.problem hc.next.isPlace)
    (Points.ite (Points.problem hstop.isPlace) (Points.ok (hstop.leaves.isRead hc)))

theorem spelled_points (context : String) (start : Mark) (fuel : Nat) (hc : c.Within text) :
    Points (IsPlace text) (spelled context start fuel c) (·.2.Within text) := by
  induction fuel generalizing c with
  | zero => exact Points.ok hc
  | succ n ih =>
      unfold spelled
      refine Points.ite ?_ (Points.ok hc)
      simp only []
      split
      · exact (ih (hc.next.skip 2)).bind fun r hr => Points.ok hr
      · exact Points.problem hc.next.isPlace

theorem addressFrom_points (context : String) (start : Mark) (fuel : Nat) (hc : c.Within text) :
    Points (IsPlace text) (addressFrom context start fuel c) (·.2.Within text) := by
  induction fuel generalizing c with
  | zero => exact Points.ok hc
  | succ n ih =>
      have hstop := hc.skipWhile isAddressChar
      unfold addressFrom
      refine Points.ite ?_ (Points.ok hstop)
      refine (spelled_points context start _ hstop).bind fun r hr => ?_
      simp only []
      split
      · exact (ih hr).bind fun r hr => Points.ok hr
      · exact Points.problem hstop.isPlace

theorem address_points (what : String) (start : Mark) (hc : c.Within text) :
    Points (IsPlace text) (address what start c) (·.2.Within text) :=
  (addressFrom_points _ _ _ hc).bind fun _ hr =>
    Points.ite (Points.problem hc.isPlace) (Points.ok hr)

theorem tagHandle_points (what : String) (start : Mark) (hc : c.Within text) :
    Points (IsPlace text) (tagHandle what start c) (·.2.Within text) := by
  have hstop := hc.next.skipWhile isNameChar
  exact Points.ite (Points.problem hc.isPlace) (Points.ite (Points.ok hc.next)
    (Points.ite (Points.problem hstop.isPlace) (Points.ok hstop.next)))

/-- What is to come after a tag, and the token for it. -/
theorem endOfTag_points {stop : Cursor} (kind : TokenKind) (hc : c.Within text)
    (hstop : stop.Within text) :
    Points (IsPlace text)
      (if isWordEnd stop.peek then .ok (⟨kind, c.mark, stop.mark⟩, stop)
        else .error (scanFault "while scanning a tag" c.mark
          ("expected ' ', but found " ++ quotedChar stop.peek) stop.mark))
      (IsRead text) :=
  Points.ite (Points.ok (hstop.leaves.isRead hc)) (Points.problem hstop.isPlace)

theorem tag_points (hc : c.Within text) : Points (IsPlace text) (tag c) (IsRead text) := by
  refine Points.ite ?_ (Points.ite (endOfTag_points _ hc hc.next) (Points.ite ?_ ?_))
  · refine (address_points _ _ (hc.skip 2)).bind fun r hr => ?_
    exact Points.ite (endOfTag_points _ hc hr.next) (Points.problem hr.isPlace)
  · refine (tagHandle_points _ _ hc).bind fun handle hhandle => ?_
    exact (address_points _ _ hhandle).bind fun r hr => endOfTag_points _ hc hr
  · exact (address_points _ _ hc.next).bind fun r hr => endOfTag_points _ hc hr

theorem versionNumber_points (start : Mark) (hc : c.Within text) :
    Points (IsPlace text) (versionNumber start c) (·.2.Within text) :=
  Points.ite (Points.problem hc.isPlace)
    (Points.ite (Points.defect _) (Points.ok (hc.skipWhile _)))

theorem version_points (start : Mark) (hc : c.Within text) :
    Points (IsPlace text) (version start c) (·.2.Within text) := by
  refine (versionNumber_points start (hc.skipWhile _)).bind fun major hmajor => ?_
  refine Points.ite (Points.problem hmajor.isPlace) ?_
  exact (versionNumber_points start hmajor.next).bind fun minor hminor =>
    Points.ite (Points.ok hminor) (Points.problem hminor.isPlace)

theorem handleMeaning_points (start : Mark) (hc : c.Within text) :
    Points (IsPlace text) (handleMeaning start c) (·.2.Within text) := by
  refine (tagHandle_points _ start (hc.skipWhile _)).bind fun handle hhandle => ?_
  refine Points.ite (Points.problem hhandle.isPlace) ?_
  exact (address_points _ start (hhandle.skipWhile _)).bind fun meaning hmeaning =>
    Points.ite (Points.ok hmeaning) (Points.problem hmeaning.isPlace)

/-- The rest of the line behind a directive, and the token for it. -/
theorem endOfDirective_points {stop : Cursor} (meaning : Directive) (hc : c.Within text)
    (hstop : stop.Within text) :
    Points (IsPlace text)
      (restOfLine directiveContext c.mark
          (if meaning == .other then stop.skipWhile (!isLineEnd ·) else stop)
        >>= fun after => .ok (⟨.directive meaning, c.mark, stop.mark⟩, after))
      (IsRead text) :=
  (restOfLine_points _ _ ((hstop.skipWhile _).ite hstop)).bind fun _ hafter =>
    Points.ok (Leaves.isRead ⟨hstop.isPlace, hafter⟩ hc)

theorem directive_points (hc : c.Within text) :
    Points (IsPlace text) (directive c) (IsRead text) := by
  have hname := hc.next.skipWhile isNameChar
  have hother : Points (IsPlace text)
      (.ok (Directive.other, c.next.skipWhile isNameChar)) (·.2.Within text) := Points.ok hname
  refine Points.ite (Points.problem hname.isPlace) (Points.ite ?_ (Points.ite ?_ ?_))
  · exact (version_points _ hname).bind fun r hr => endOfDirective_points _ hc hr
  · exact (handleMeaning_points _ hname).bind fun r hr => endOfDirective_points _ hc hr
  · exact hother.bind fun r hr => endOfDirective_points _ hc hr

theorem blockIndent?_points (start : Mark) (hc : c.Within text) :
    Points (IsPlace text) (blockIndent? start c) (·.2.Within text) :=
  Points.ite (Points.ite (Points.problem hc.isPlace) (Points.ok hc.next)) (Points.ok hc)

theorem endOfHeader_points (start : Mark) (header : BlockHeader) (hc : c.Within text) :
    Points (IsPlace text)
      (if isWordEnd c.peek then .ok (header, c)
        else .error (scanFault blockContext start
          ("expected chomping or indentation indicators, but found " ++ quotedChar c.peek) c.mark))
      (·.2.Within text) :=
  Points.ite (Points.ok hc) (Points.problem hc.isPlace)

theorem blockHeader_points (start : Mark) (hc : c.Within text) :
    Points (IsPlace text) (blockHeader start c) (·.2.Within text) := by
  unfold blockHeader
  cases chomping? c.peek with
  | some chomping =>
      exact (blockIndent?_points start hc.next).bind fun r hr => endOfHeader_points start _ hr
  | none =>
      refine (blockIndent?_points start hc).bind fun r hr => ?_
      simp only []
      split
      · exact endOfHeader_points start _ hr.next
      · exact endOfHeader_points start _ hr

theorem measuredLines_leaves (fuel widest : Nat) (h : Leaves text stop c) :
    Leaves text (measuredLines fuel widest stop c).2.2.1
      (measuredLines fuel widest stop c).2.2.2 := by
  induction fuel generalizing widest stop c with
  | zero => exact h
  | succ n ih =>
      unfold measuredLines
      split
      · exact ih _ ⟨h.stop, h.after.next⟩
      split
      · exact ih _ h.after.lineEnd.leaves
      · exact h

theorem skipIndent_within (indent : Int) (hc : c.Within text) :
    (skipIndent indent c).Within text := by
  fun_induction skipIndent indent c with
  | case1 c hinside hmore ih => exact ih hc.next
  | case2 => exact hc
  | case3 => exact hc

theorem indentedLines_leaves (indent : Int) (fuel : Nat) (h : Leaves text stop c) :
    Leaves text (indentedLines indent fuel stop c).2.1 (indentedLines indent fuel stop c).2.2 := by
  induction fuel generalizing stop c with
  | zero => exact h
  | succ n ih =>
      have hindent := skipIndent_within indent h.after
      unfold indentedLines
      simp only []
      split
      · exact ih hindent.lineEnd.leaves
      · exact ⟨h.stop, hindent⟩

theorem blockLines_leaves (isFolded : Bool) (chomping : Chomping) (indent : Int) (fuel : Nat)
    (lineEnd empty : List Char) (h : Leaves text stop c) :
    Leaves text (blockLines isFolded chomping indent fuel lineEnd empty stop c).2.1
      (blockLines isFolded chomping indent fuel lineEnd empty stop c).2.2 := by
  induction fuel generalizing lineEnd empty stop c with
  | zero => exact h
  | succ n ih =>
      unfold blockLines
      split
      · -- The place is behind the line end, and the cursor behind the indentation after it.
        have hline := (h.after.skipWhile (!isLineEnd ·)).lineEnd
        exact ih _ _ (indentedLines_leaves indent _ hline.leaves)
      · exact h

theorem blockScalar_points (around : Int) (hc : c.Within text) :
    Points (IsPlace text) (blockScalar around c) (IsRead text) := by
  refine (blockHeader_points c.mark hc.next).bind fun r hr => ?_
  refine (restOfLine_points blockContext c.mark hr).bind fun body hbody => ?_
  simp only []
  cases r.1.indent with
  | some more =>
      have hempty := indentedLines_leaves (max (around + 1) 1 + more - 1) (body.left + 1) hbody.leaves
      simp only []
      exact Points.ok ((blockLines_leaves _ _ _ _ _ _ hempty).isRead hc)
  | none =>
      have hempty := measuredLines_leaves (body.left + 1) 0 hbody.leaves
      simp only []
      exact Points.ok ((blockLines_leaves _ _ _ _ _ _ hempty).isRead hc)

theorem wordEnd_within (inFlow : Bool) (hc : c.Within text) : (wordEnd inFlow c).Within text := by
  fun_induction wordEnd inFlow c with
  | case1 => exact hc
  | case2 c hinside _ _ _ _ ih => exact ih hc.next
  | case3 => exact hc

theorem emptyLines_within (fuel : Nat) (hc : c.Within text) :
    (emptyLines fuel c).2.Within text := by
  induction fuel generalizing c with
  | zero => exact hc
  | succ n ih =>
      unfold emptyLines
      split
      · exact ih hc.next
      split
      · simp only []
        split
        · exact hc.lineEnd
        · exact ih hc.lineEnd
      · exact hc

theorem plainGap_within (hc : c.Within text) : (plainGap c).2.1.Within text := by
  have hblanks := hc.takeWhile (· == ' ')
  unfold plainGap
  simp only []
  split
  · split
    · exact hblanks.lineEnd
    · have hempty := emptyLines_within
        ((c.takeWhile (· == ' ')).2.lineEnd.2.left + 1) hblanks.lineEnd
      split
      · next heq => rw [heq] at hempty; exact hempty
      · next heq => rw [heq] at hempty; exact hempty
  · exact hblanks

theorem plainFrom_leaves (inFlow : Bool) (indent : Int) (fuel : Nat) (gap : List Char)
    {read : PlainText} (h : Leaves text read.stop read.after) :
    Leaves text (plainFrom inFlow indent fuel gap read).stop
      (plainFrom inFlow indent fuel gap read).after := by
  induction fuel generalizing gap read with
  | zero => exact h
  | succ n ih =>
      unfold plainFrom
      simp only []
      -- A word ends here, or none begins because of a comment.
      generalize hstop : (if read.after.peek == '#' then read.after else wordEnd inFlow read.after)
        = stop
      have hwithin : stop.Within text := by
        rw [← hstop]
        exact h.after.ite (wordEnd_within inFlow h.after)
      have hleaves : Leaves text stop.mark (plainGap stop).2.1 :=
        ⟨hwithin.isPlace, plainGap_within hwithin⟩
      split
      · exact h
      split
      · exact hleaves
      · exact ih _ hleaves

theorem plainScalar_read (inFlow : Bool) (indent : Int) (hc : c.Within text) :
    IsRead text ((plainScalar inFlow indent c).1, (plainScalar inFlow indent c).2.1) :=
  (plainFrom_leaves inFlow indent (c.left + 1) [] hc.leaves).isRead hc

theorem spelledNumber_points (start : Mark) (count : Nat) (hc : c.Within text) :
    Points (IsPlace text) (spelledNumber start count c) (fun _ => True) := by
  unfold spelledNumber
  simp only []
  split
  · exact Points.problem hc.isPlace
  · exact Points.ite (Points.defect _) (Points.ite (Points.defect _) (Points.ok trivial))

theorem quotedLines_points (start : Mark) (fuel : Nat) (hc : c.Within text) :
    Points (IsPlace text) (quotedLines start fuel c) (·.2.Within text) := by
  induction fuel generalizing c with
  | zero => exact Points.ok hc
  | succ n ih =>
      have hblanks := hc.skipWhile fun d => d == ' ' || d == '\t'
      refine Points.ite (Points.problem hc.isPlace) (Points.ite ?_ (Points.ok hblanks))
      exact (ih hblanks.lineEnd).bind fun r hr => Points.ok hr

theorem quotedEscape_points (start : Mark) (hc : c.Within text) :
    Points (IsPlace text) (quotedEscape start c) (·.2.Within text) := by
  unfold quotedEscape
  simp only []
  split
  · exact Points.ok hc.next.next
  · refine (spelledNumber_points start _ hc.next.next).bind fun number _ => ?_
    exact Points.ok (hc.next.next.skip _)
  · refine Points.ite ?_ (Points.problem hc.next.isPlace)
    exact (quotedLines_points start _ hc.next.lineEnd).bind fun r hr => Points.ok hr

theorem quotedGap_points (start : Mark) (hc : c.Within text) :
    Points (IsPlace text) (quotedGap start c) (·.2.Within text) := by
  have hblanks := hc.skipWhile fun d => d == ' ' || d == '\t'
  refine Points.ite (Points.problem hblanks.isPlace) (Points.ite ?_ (Points.ok hblanks))
  exact (quotedLines_points start _ hblanks.lineEnd).bind fun r hr => Points.ok hr

theorem quotedFrom_points (double : Bool) (start : Mark) (fuel : Nat) (hc : c.Within text) :
    Points (IsPlace text) (quotedFrom double start fuel c) (·.2.Within text) := by
  induction fuel generalizing c with
  | zero => exact Points.ok hc
  | succ n ih =>
      have hrest (numbers : List Nat) {c : Cursor} (hc : c.Within text) :
          Points (IsPlace text)
            (quotedFrom double start n c >>= fun r => .ok (numbers ++ r.1, r.2))
            (·.2.Within text) :=
        (ih hc).bind fun r hr => Points.ok hr
      refine Points.ite ((quotedGap_points start hc).bind fun r hr => hrest _ hr) ?_
      refine Points.ite (hrest _ (hc.skip 2)) (Points.ite (Points.ok hc) ?_)
      refine Points.ite ((quotedEscape_points start hc).bind fun r hr => hrest _ hr) ?_
      exact Points.ite (hrest _ (hc.takeWhile _)) (hrest _ hc.next)

theorem quotedScalar_points (hc : c.Within text) :
    Points (IsPlace text) (quotedScalar c) (IsRead text) :=
  (quotedFrom_points _ _ _ hc.next).bind fun _ hr => Points.ok (hr.next.leaves.isRead hc)

end Yaml

end Annals
