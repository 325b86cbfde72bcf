import Annals.Proofs.Html.Comment
import Annals.Proofs.Text.Lists

/-!
# Fragments That Can Be Read

Reading an HTML fragment is forgiving and fails for two reasons only: a marked
section whose name is not known, and a character written by a number with too many
digits. So a text with neither a mark that opens such a section nor such a number is
read to its end, whatever else is wrong with it.

Both are parts of a text, and all that is ever looked at while it is read is a part
of it too. What every step takes off is shown to leave the end of the text, and what
it looks into to be a part.

## Main definitions

* `Html.Readable`: A text without a marked section and without a number that is too
  long.
* `Html.piece?`, `Html.shown`: The text up to a bracket, and its events.
* `Html.construct`: What is read behind a bracket.

## Theorems

* `resolved_readable`: The references of such a text can be resolved.
* `eventsFrom_cons`: One step through a text.
* `eventsFrom_readable`: Such a text falls into events.
* `parseFragment_readable`: And so it has nodes.
-/

namespace Annals

namespace Html

/-- A text without what makes it unreadable: the mark of a marked section, and a reference
    by a number with too many digits. -/
structure Readable (cs : List Char) : Prop where
  sections : ¬ ['<', '!', '['] <:+: cs
  numbers : ∀ digits, '&' :: '#' :: digits <:+: cs →
    (∀ d ∈ digits, Text.isAsciiDigit d = true) → digits.length ≤ maxDigits

theorem Readable.part {part cs : List Char} (h : Readable cs) (hpart : part <:+: cs) :
    Readable part :=
  ⟨fun hmark => h.sections (hmark.trans hpart),
    fun digits hin hdigits => h.numbers digits (hin.trans hpart) hdigits⟩

theorem longReference?_readable {cs : List Char} (h : Readable cs) : longReference? cs = none := by
  fun_induction longReference? cs with
  | case1 => rfl
  | case2 rest count hlong =>
      -- The digits that are counted are a part of the text.
      have hpart : '&' :: '#' :: rest.takeWhile Text.isAsciiDigit <:+: '&' :: '#' :: rest :=
        (List.prefix_append _ (rest.dropWhile Text.isAsciiDigit)).isInfix.trans
          (by simp [List.takeWhile_append_dropWhile])
      have hshort := h.numbers _ hpart (List.all_eq_true.mp List.all_takeWhile)
      exact absurd hlong (Nat.not_lt.mpr hshort)
  | case3 rest count hlong ih =>
      exact ih (h.part ((List.suffix_cons _ _).trans (List.suffix_cons _ _)).isInfix)
  | case4 c rest hne ih => exact ih (h.part (List.suffix_cons _ _).isInfix)

theorem resolved_readable {cs : List Char} (h : Readable cs) : resolved cs = .ok (unescape cs) := by
  unfold resolved
  rw [longReference?_readable h]

theorem mapM_resolved {values : List (List Char)} (h : ∀ v ∈ values, Readable v) :
    ∃ found, values.mapM resolved = .ok found := by
  induction values with
  | nil => exact ⟨[], rfl⟩
  | cons v rest ih =>
      rcases ih (fun w hw => h w (List.mem_cons_of_mem _ hw)) with ⟨found, hfound⟩
      rw [List.mapM_cons, resolved_readable (h v (List.mem_cons_self ..)), hfound]
      exact ⟨_, rfl⟩

/-! What is left after a step is the end of the text. -/

theorem trimStart_suffix (cs : List Char) : Text.trimStart cs <:+ cs := List.dropWhile_suffix _

theorem upToBracket?_eq {cs before after : List Char} (h : upToBracket? cs = some (before, after)) :
    cs = before ++ '>' :: after := by
  unfold upToBracket? at h
  induction cs generalizing before with
  | nil => cases h
  | cons c rest ih =>
      by_cases hc : c = '>'
      · subst hc
        cases h
        rfl
      · have hne : ('>' == c) = false := beq_eq_false_iff_ne.mpr (fun heq => hc heq.symm)
        simp only [Text.splitAt?, Text.after?, hne, Bool.false_eq_true, if_false,
          Option.map_eq_some_iff] at h
        rcases h with ⟨⟨head, tail⟩, hrest, heq⟩
        cases heq
        rw [ih hrest]
        rfl

theorem upToBracket?_suffix {cs before after : List Char}
    (h : upToBracket? cs = some (before, after)) : after <:+ cs := by
  rw [upToBracket?_eq h]
  exact (List.suffix_cons _ _).trans (List.suffix_append _ _)

theorem closed?_suffix {c : Char} {rest after : List Char} (h : closed? c rest = some after) :
    after <:+ rest := by
  unfold closed? at h
  split at h
  · next tail =>
      split at h
      · next after' htrim =>
          cases h
          have htail : '>' :: after <:+ tail := htrim ▸ trimStart_suffix tail
          exact (List.suffix_cons _ _).trans (htail.trans (List.suffix_cons _ _))
      · cases h
  · cases h

theorem commentBody?_suffix {cs body after : List Char} (h : commentBody? cs = some (body, after)) :
    after <:+ cs := by
  induction cs generalizing body with
  | nil => cases h
  | cons c rest ih =>
      rw [commentBody?_cons] at h
      cases hc : closed? c rest with
      | some found =>
          rw [hc] at h
          cases h
          exact (closed?_suffix hc).trans (List.suffix_cons _ _)
      | none =>
          rw [hc] at h
          simp only [Option.map_eq_some_iff] at h
          rcases h with ⟨⟨inner, after'⟩, hrest, heq⟩
          cases heq
          exact (ih hrest).trans (List.suffix_cons _ _)

theorem skipBetween_suffix (cs : List Char) : skipBetween cs <:+ cs := by
  fun_induction skipBetween cs with
  | case1 => exact List.suffix_refl _
  | case2 rest => exact List.suffix_refl _
  | case3 c rest hne hskip ih => exact ih.trans (List.suffix_cons _ _)
  | case4 c rest hne hstop => exact List.suffix_refl _

theorem bareValue_parts {cs value after : List Char} (h : bareValue cs = (value, after)) :
    value <:+: cs ∧ after <:+ cs := by
  cases h
  exact ⟨(List.takeWhile_prefix _).isInfix, List.dropWhile_suffix _⟩

/-- The value of an attribute is a part of the text, and what follows it is the end. -/
theorem value?_parts {cs value after : List Char} (h : value? cs = some (value, after)) :
    value <:+: cs ∧ after <:+ cs := by
  unfold value? at h
  simp only [] at h
  generalize hmarks : (Text.trimStart cs).takeWhile (· == '=') = marks at h
  have hblanks : Text.trimStart cs <:+ cs := trimStart_suffix cs
  have hvalue : Text.trimStart ((Text.trimStart cs).drop marks.length) <:+ cs :=
    (trimStart_suffix _).trans ((List.drop_suffix _ _).trans hblanks)
  split at h
  · cases h
  split at h
  · next quote rest hstart =>
      rw [hstart] at hvalue h
      have hrest : rest <:+ cs := (List.suffix_cons _ _).trans hvalue
      split at h
      · split at h
        · next mark tail hclose =>
            -- The value stands between two quotes.
            cases h
            have htail : mark :: after <:+ rest := hclose ▸ List.dropWhile_suffix _
            exact ⟨(List.takeWhile_prefix _).isInfix.trans hrest.isInfix,
              (List.suffix_cons _ _).trans (htail.trans hrest)⟩
        · split at h
          · cases h
            exact ⟨List.nil_infix, hvalue⟩
          · split at h
            · rcases bareValue_parts (Option.some.inj h) with ⟨hin, hend⟩
              have hdrop := (List.drop_suffix (marks.length - 1) (Text.trimStart cs)).trans hblanks
              exact ⟨hin.trans hdrop.isInfix, hend.trans hdrop⟩
            · cases h
      · rcases bareValue_parts (Option.some.inj h) with ⟨hin, hend⟩
        exact ⟨hin.trans hvalue.isInfix, hend.trans hvalue⟩
  · cases h
    exact ⟨List.nil_infix, List.nil_suffix⟩

theorem attribute?_parts {before : Char} {cs value after : List Char}
    (h : attribute? before cs = some (value, after)) : value <:+: cs ∧ after <:+ cs := by
  unfold attribute? at h
  split at h
  · cases h
  · next c rest =>
      split at h
      · cases h
      simp only [Option.some.injEq, Prod.mk.injEq] at h
      rcases h with ⟨hv, ha⟩
      generalize hname : (rest.dropWhile fun d =>
        !(Text.isBlank d || d == '/' || d == '=' || d == '>')) = afterName at hv ha
      have hend : afterName <:+ c :: rest :=
        (hname ▸ List.dropWhile_suffix _).trans (List.suffix_cons _ _)
      -- Without a value the name is followed by the next attribute.
      cases hvalue : value? afterName with
      | none =>
          rw [hvalue] at hv ha
          cases hv
          cases ha
          exact ⟨List.nil_infix, (skipBetween_suffix _).trans hend⟩
      | some found =>
          rw [hvalue] at hv ha
          rcases value?_parts hvalue with ⟨hin, hafter⟩
          rw [← hv, ← ha]
          exact ⟨hin.trans hend.isInfix, (skipBetween_suffix _).trans (hafter.trans hend)⟩

theorem attributes_parts {fuel : Nat} {before : Char} {cs after : List Char}
    {values : List (List Char)} (h : attributes fuel before cs = (values, after)) :
    (∀ v ∈ values, v <:+: cs) ∧ after <:+ cs := by
  induction fuel generalizing before cs values with
  | zero =>
      cases h
      exact ⟨fun v hv => absurd hv (List.not_mem_nil), List.suffix_refl _⟩
  | succ n ih =>
      unfold attributes at h
      split at h
      · next value rest hone =>
          rcases hmore : attributes n (lastTaken cs rest before) rest with ⟨more, after'⟩
          rw [hmore] at h
          cases h
          -- The first value stands before the rest, and the others stand in it.
          rcases attribute?_parts hone with ⟨hin, hrest⟩
          rcases ih hmore with ⟨hall, hend⟩
          refine ⟨fun v hv => ?_, hend.trans hrest⟩
          rcases List.mem_cons.mp hv with rfl | hv
          · exact hin
          · exact (hall v hv).trans hrest.isInfix
      · cases h
        exact ⟨fun v hv => absurd hv (List.not_mem_nil), List.suffix_refl _⟩

/-- What follows a tag in a text, if the tag is complete. -/
def TagEnd.after? : TagEnd → Option (List Char)
  | .whole after => some after
  | .opening after => some after
  | .broken after => some after
  | .incomplete => none

theorem tagEnd_parts (last : Char) (cs : List Char) :
    (∀ v ∈ (tagEnd last cs).1, v <:+: cs) ∧
      ∀ after, (tagEnd last cs).2.after? = some after → after <:+ cs := by
  have hskip := skipBetween_suffix cs
  unfold tagEnd
  simp only []
  generalize lastTaken cs (skipBetween cs) last = before
  rcases hall : attributes (cs.length + 1) before (skipBetween cs) with ⟨values, rest⟩
  rcases attributes_parts hall with ⟨hin, hrest⟩
  refine ⟨fun v hv => (hin v hv).trans hskip.isInfix, fun after h => ?_⟩
  have hend := hrest.trans hskip
  simp only [] at h
  -- A tag ends with a bracket, with a slash before it, or not at all; what is behind its end is the
  -- end of the text.
  split at h
  · cases h
    exact (List.suffix_cons _ _).trans hend
  · cases h
    exact (List.suffix_cons _ _).trans ((List.suffix_cons _ _).trans hend)
  · cases h
  · split at h
    · cases h
    · cases h
      exact hend

/-- A tag is read without a fault, since its values are parts of the text. -/
theorem openingTag?_readable {cs : List Char} (h : Readable cs) :
    ∃ found, openingTag? cs = .ok found ∧ ∀ e after, found = some (e, after) → after <:+ cs := by
  unfold openingTag?
  simp only []
  generalize hrest : cs.drop (cs.takeWhile (!endsTagName ·)).length = rest
  have hsuffix : rest <:+ cs := hrest ▸ List.drop_suffix _ _
  generalize (cs.takeWhile (!endsTagName ·)).getLast?.getD '<' = last
  have hparts := tagEnd_parts last rest
  rcases hend : tagEnd last rest with ⟨values, stop⟩
  rw [hend] at hparts
  rcases hparts with ⟨hin, hafter⟩
  -- The only thing that can fail is to resolve the references in the values.
  have hvalues : ∀ v ∈ values, Readable v := fun v hv =>
    h.part ((hin v hv).trans hsuffix.isInfix)
  rcases mapM_resolved hvalues with ⟨done, hdone⟩
  cases stop with
  | incomplete => exact ⟨none, rfl, fun e after heq => by cases heq⟩
  | opening tail | whole tail | broken tail =>
      simp only [Option.isSome_some, if_true, hdone]
      refine ⟨_, rfl, fun e after heq => ?_⟩
      cases heq
      exact (hafter _ rfl).trans hsuffix

theorem plainClosing?_suffix {cs name after : List Char}
    (h : plainClosing? cs = some (name, after)) : after <:+ cs := by
  unfold plainClosing? at h
  simp only [] at h
  split at h
  · split at h
    · next tail htrim =>
        cases h
        have htail : '>' :: after <:+ cs := htrim ▸ (trimStart_suffix _).trans
          ((List.drop_suffix _ _).trans (trimStart_suffix _))
        exact (List.suffix_cons _ _).trans htail
    · cases h
  · cases h

theorem closingTag_suffix {raw : Option (List Char)} {cs after : List Char} {e : Option Event}
    {ends : Bool} (h : closingTag raw cs = some (e, ends, after)) : after <:+ cs := by
  unfold closingTag at h
  split at h
  · cases h
  · next inside beyond hbracket =>
      -- Whatever stands in the tag, the rest begins behind its bracket or behind its name.
      have hbeyond := upToBracket?_suffix hbracket
      simp only [] at h
      split at h
      · next name tail hplain =>
          split at h
          · cases h
            exact hbeyond
          · cases h
            exact plainClosing?_suffix hplain
      · split at h
        · cases h
          exact hbeyond
        split at h
        · cases h
          exact hbeyond
        split at h
        · cases h
          exact hbeyond
        · cases h
          exact hbeyond

theorem declaration?_suffix {cs after : List Char} {e : Event}
    (h : declaration? cs = some (e, after)) : after <:+ cs := by
  unfold declaration? at h
  simp only [Option.map_eq_some_iff] at h
  rcases h with ⟨⟨body, tail⟩, hbracket, heq⟩
  have htail := upToBracket?_suffix hbracket
  split at htail
  · next hdoctype =>
      simp only [hdoctype, if_true, Prod.mk.injEq] at heq
      rw [← heq.2]
      exact htail.trans (List.drop_suffix _ _)
  · next hother =>
      simp only [hother, Bool.false_eq_true, if_false, Prod.mk.injEq] at heq
      rw [← heq.2]
      exact htail

/-- Markup that is not complete is a part of the text, its bracket included. -/
theorem incomplete_parts (cs : List Char) :
    (incomplete cs).1 <:+: '<' :: cs ∧ (incomplete cs).2 <:+ cs := by
  unfold incomplete
  cases h : upToBracket? cs with
  | some found =>
      rcases found with ⟨body, after⟩
      refine ⟨?_, upToBracket?_suffix h⟩
      rw [upToBracket?_eq h]
      exact ⟨[], after, by simp⟩
  | none =>
      simp only []
      split
      · refine ⟨?_, List.drop_suffix _ _⟩
        exact ((List.prefix_cons_inj '<').mpr (List.takeWhile_prefix _)).isInfix
      · exact ⟨⟨[], cs, rfl⟩, List.suffix_refl _⟩

theorem rawContent?_eq {name cs body rest : List Char}
    (h : rawContent? name cs = some (body, rest)) :
    cs = body ++ rest ∧ ∃ inside, rest = '<' :: inside := by
  induction cs generalizing body with
  | nil => cases h
  | cons c tail ih =>
      unfold rawContent? at h
      split at h
      · next hcloses =>
          cases h
          refine ⟨rfl, ?_⟩
          -- The tag that closes the element begins with a bracket.
          unfold closes at hcloses
          split at hcloses
          · next after heq => exact ⟨_, heq⟩
          · cases hcloses
      · simp only [Option.map_eq_some_iff] at h
        rcases h with ⟨⟨inner, rest'⟩, hrest, heq⟩
        cases heq
        rcases ih hrest with ⟨htail, hinside⟩
        exact ⟨by rw [htail]; rfl, hinside⟩

/-! A text is read in steps: a piece of text up to a bracket, and what the bracket opens. -/

/-- The text up to the next bracket that is looked at, and what follows from this bracket on. -/
def piece? (raw : Option (List Char)) (cs : List Char) : Option (List Char × List Char) :=
  match raw with
  | none => some (cs.takeWhile (· != '<'), cs.dropWhile (· != '<'))
  | some name => rawContent? name cs

/-- The events of a piece of text, which is looked into unless an element is open whose
    content is not. -/
def shown (raw : Option (List Char)) (cs : List Char) : Except Fault (List Event) :=
  if raw.isSome then .ok (textEvent cs) else (resolved cs).map textEvent

/-- Markup that is not complete is left as text. -/
def leftAsText (raw : Option (List Char)) (inside : List Char) :
    Except Fault (List Event × Option (List Char) × List Char) :=
  (shown raw (incomplete inside).1).map fun events => (events, raw, (incomplete inside).2)

/-- A construct is read if it is complete, and left as text if it is not. -/
def orText (raw : Option (List Char)) (inside : List Char) : Option (Option Event × List Char) →
    Except Fault (List Event × Option (List Char) × List Char)
  | some (event, after) => .ok (event.toList, raw, after)
  | none => leftAsText raw inside

/-- An opening tag is read if it is complete, and may open an element whose content is not
    looked into. -/
def tagOrText (raw : Option (List Char)) (inside : List Char) : Option (Event × List Char) →
    Except Fault (List Event × Option (List Char) × List Char)
  | some (.opening name whole, after) =>
    .ok ([.opening name whole],
      if !whole && rawElements.contains name then some name.toList else raw, after)
  | some (event, after) => .ok ([event], raw, after)
  | none => leftAsText raw inside

/-- What is read behind a bracket: its events, the element that is open then if its content is
    not looked into, and the rest of the text. -/
def construct (raw : Option (List Char)) (inside : List Char) :
    Except Fault (List Event × Option (List Char) × List Char) :=
  match inside with
  | '/' :: body =>
    match closingTag raw body with
    | some (event, ends, after) => .ok (event.toList, if ends then none else raw, after)
    | none => leftAsText raw inside
  | '!' :: '-' :: '-' :: body =>
    orText raw inside
      ((commentBody? body).map fun r => (some (.comment (String.ofList r.1)), r.2))
  | '?' :: body =>
    orText raw inside
      ((upToBracket? body).map fun r => (some (.declaration (String.ofList r.1)), r.2))
  | '!' :: '[' :: body => markedSection body >>= orText raw inside
  | '!' :: body => orText raw inside ((declaration? body).map fun r => (some r.1, r.2))
  | c :: _ =>
    if isAsciiLetter c then openingTag? inside >>= tagOrText raw inside
    else .ok ([.text "<"], raw, inside)
  | [] => .ok ([.text "<"], raw, [])

/-- The events of a text whose first piece is found: that piece, the construct behind it, and
    what the rest falls into. -/
def eventsAfter (fuel : Nat) (raw : Option (List Char)) :
    Option (List Char × List Char) → Except Fault (List Event)
  | none => .ok []
  | some (body, []) => shown raw body
  | some (body, _ :: inside) => do
    let before ← shown raw body
    let r ← construct raw inside
    let others ← eventsFrom fuel r.2.1 r.2.2
    return before ++ r.1 ++ others

/-- One step through a text. What is proved of a text that falls into events is proved of a
    piece of text and of a construct, and carried on by induction on the fuel. -/
theorem eventsFrom_cons (fuel : Nat) (raw : Option (List Char)) (c : Char) (tail : List Char) :
    eventsFrom (fuel + 1) raw (c :: tail) = eventsAfter fuel raw (piece? raw (c :: tail)) := by
  conv =>
    lhs
    unfold eventsFrom
  simp only []
  split
  · next hpiece =>
      rw [show piece? raw (c :: tail) = none from hpiece]
      rfl
  · next body rest hpiece =>
      rw [show piece? raw (c :: tail) = some (body, rest) from hpiece]
      clear hpiece
      cases rest with
      | nil => exact bind_pure (shown raw body)
      | cons d inside =>
          simp only []
          change (shown raw body >>= fun before => _) = _
          refine congrArg _ (funext fun before => ?_)
          -- The program goes on behind each construct by itself; here it does so behind them all.
          unfold construct
          split <;> try simp only []
          · next behind => rcases closingTag raw behind with _ | ⟨event, ends, after⟩ <;> rfl
          · rfl
          · rfl
          · rw [bind_assoc]
            rfl
          · rfl
          · split
            · rw [bind_assoc]
              refine congrArg _ (funext fun found => ?_)
              rcases found with _ | ⟨event, after⟩
              · rfl
              · cases event <;> rfl
            · rfl
          · rfl

theorem piece?_parts {raw : Option (List Char)} {cs body rest : List Char}
    (h : piece? raw cs = some (body, rest)) :
    cs = body ++ rest ∧ ∀ c inside, rest = c :: inside → c = '<' := by
  -- Raw content goes on up to the tag of its element, other text up to the next bracket.
  cases raw with
  | some name =>
      rcases rawContent?_eq h with ⟨heq, inside, hinside⟩
      refine ⟨heq, fun c tail htail => ?_⟩
      rw [hinside] at htail
      cases htail
      rfl
  | none =>
      cases h
      refine ⟨(List.takeWhile_append_dropWhile).symm, fun c tail htail => ?_⟩
      have hhead := List.head?_dropWhile_not (· != '<') cs
      rw [htail] at hhead
      simpa using hhead

theorem shown_readable {cs : List Char} (h : Readable cs) (raw : Option (List Char)) :
    ∃ found, shown raw cs = .ok found := by
  unfold shown
  rw [resolved_readable h]
  split
  · exact ⟨_, rfl⟩
  · exact ⟨_, rfl⟩

/-- A construct is read without a fault, and what follows it is the end of the text. -/
def Leaves (cs : List Char) (x : Except Fault (List Event × Option (List Char) × List Char)) :
    Prop :=
  ∃ r, x = .ok r ∧ r.2.2 <:+ cs

theorem leaves_leftAsText {inside : List Char} (h : Readable ('<' :: inside))
    (raw : Option (List Char)) : Leaves inside (leftAsText raw inside) := by
  rcases incomplete_parts inside with ⟨hin, hend⟩
  rcases shown_readable (h.part hin) raw with ⟨found, hfound⟩
  unfold leftAsText
  rw [hfound]
  exact ⟨_, rfl, hend⟩

/-- A construct whose event is made of what is found. -/
theorem leaves_mapped {α : Type} {inside : List Char} {raw : Option (List Char)}
    {found : Option (α × List Char)} (event : α × List Char → Option Event)
    (htext : Leaves inside (leftAsText raw inside))
    (h : ∀ x after, found = some (x, after) → after <:+ inside) :
    Leaves inside (orText raw inside (found.map fun r => (event r, r.2))) := by
  cases found with
  | none => exact htext
  | some r => exact ⟨_, rfl, h r.1 r.2 rfl⟩

theorem leaves_tagOrText {inside : List Char} {raw : Option (List Char)}
    {found : Option (Event × List Char)} (htext : Leaves inside (leftAsText raw inside))
    (h : ∀ e after, found = some (e, after) → after <:+ inside) :
    Leaves inside (tagOrText raw inside found) := by
  unfold tagOrText
  split
  · exact ⟨_, rfl, h _ _ rfl⟩
  · exact ⟨_, rfl, h _ _ rfl⟩
  · exact htext

/-- Every construct of a text that can be read is read without a fault. -/
theorem leaves_construct {inside : List Char} (h : Readable ('<' :: inside))
    (raw : Option (List Char)) : Leaves inside (construct raw inside) := by
  have htext := leaves_leftAsText h raw
  unfold construct
  split
  · next body =>
      split
      · next e ends after hclosing =>
          exact ⟨_, rfl, (closingTag_suffix hclosing).trans (List.suffix_cons _ _)⟩
      · exact htext
  · next body =>
      refine leaves_mapped _ htext fun inner after hbody => ?_
      exact (commentBody?_suffix hbody).trans (List.suffix_append ['!', '-', '-'] _)
  · next body =>
      refine leaves_mapped _ htext fun inner after hbody => ?_
      exact (upToBracket?_suffix hbody).trans (List.suffix_cons _ _)
  · next body =>
      -- A marked section is what a text that can be read has none of.
      exact absurd (List.prefix_append ['<', '!', '['] body).isInfix h.sections
  · next body _ _ =>
      refine leaves_mapped _ htext fun e after hbody => ?_
      exact (declaration?_suffix hbody).trans (List.suffix_cons _ _)
  · split
    · rcases openingTag?_readable (h.part (List.suffix_cons _ _).isInfix) with
        ⟨found, htag, hafter⟩
      rw [htag]
      exact leaves_tagOrText htext hafter
    · exact ⟨_, rfl, List.suffix_refl _⟩
  · exact ⟨_, rfl, List.suffix_refl _⟩

/-- A text that can be read falls into events. The induction is on the fuel, and what
    follows one construct is the end of the text, which can be read as well. -/
theorem eventsFrom_readable (fuel : Nat) (raw : Option (List Char)) {cs : List Char}
    (h : Readable cs) : ∃ found, eventsFrom fuel raw cs = .ok found := by
  induction fuel generalizing raw cs with
  | zero => exact ⟨[], rfl⟩
  | succ n ih =>
      cases cs with
      | nil => exact ⟨[], by unfold eventsFrom; rfl⟩
      | cons c tail =>
          rw [eventsFrom_cons]
          rcases hpiece : piece? raw (c :: tail) with _ | ⟨body, rest⟩
          · exact ⟨[], rfl⟩
          rcases piece?_parts hpiece with ⟨hcs, hmark⟩
          rw [hcs] at h
          have hrest : Readable rest := h.part (List.suffix_append _ _).isInfix
          rcases shown_readable (h.part (List.prefix_append _ _).isInfix) raw with
            ⟨before, hbefore⟩
          cases rest with
          | nil => exact ⟨before, hbefore⟩
          | cons first inside =>
              cases hmark first inside rfl
              rcases leaves_construct hrest raw with ⟨r, hr, hafter⟩
              -- What a construct leaves is the end of the text, and can be read as well.
              have hbehind : Readable r.2.2 :=
                hrest.part (hafter.trans (List.suffix_cons _ _)).isInfix
              rcases ih r.2.1 hbehind with ⟨others, hothers⟩
              exact ⟨before ++ r.1 ++ others, bind_eq_ok.mpr ⟨before, hbefore,
                bind_eq_ok.mpr ⟨r, hr, bind_eq_ok.mpr ⟨others, hothers, rfl⟩⟩⟩⟩

/-- A text that can be read has nodes. -/
theorem parseFragment_readable {html : String} (h : Readable html.toList) :
    ∃ nodes, parseFragment html = .ok nodes := by
  rcases eventsFrom_readable (html.toList.length + 1) none h with ⟨found, hfound⟩
  unfold parseFragment events
  rw [hfound]
  exact ⟨_, rfl⟩

end Html

end Annals
