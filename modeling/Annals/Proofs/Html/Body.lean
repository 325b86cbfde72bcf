import Annals.Proofs.Html.Readable
import Annals.Proofs.Text.Lists

/-!
# The Body of a Comment is Part of its Text

Whatever a fragment is like, a comment that is read in it stands in it, letter by
letter. References are not resolved in a comment, and no letter of it is changed; this
holds of comments with their own marks, and of what is taken for one because it is no
markup of another kind.

Only what lies in comments is followed here. Each construct is read off the front of
the text (`Quotes`), so what is left is the end of the text, and a comment that is read
later is a part of that end.

## Main definitions

* `Html.Quotes`: What is read of a text, if it is a comment, and what it leaves.

## Theorems

* `eventsFrom_quotes`: A comment among the events of a text.
* `parseFragment_quotes`: A comment among the nodes of a text.
* `body_of_start`: The comment with which a text begins.
-/

namespace Annals

namespace Html

theorem prefix_of_commentBody? {cs body after : List Char} (h : commentBody? cs = some (body, after)) :
    body <+: cs := by
  induction cs generalizing body with
  | nil => cases h
  | cons c rest ih =>
      rw [commentBody?_cons] at h
      cases hc : closed? c rest with
      | some found =>
          rw [hc] at h
          cases h
          exact List.nil_prefix
      | none =>
          rw [hc] at h
          rcases Option.map_eq_some_iff.mp h with ⟨⟨inner, after'⟩, hrest, heq⟩
          cases heq
          exact (List.prefix_cons_inj c).mpr (ih hrest)

theorem prefix_of_upToBracket? {cs body after : List Char}
    (h : upToBracket? cs = some (body, after)) : body <+: cs :=
  upToBracket?_eq h ▸ List.prefix_append _ _

/-- Where a marked section may end at the start of a text. -/
def sectionClosed? (brackets : Nat) (c : Char) (rest : List Char) : Option (List Char) :=
  let second := if brackets == 2 then
      match Text.trimStart rest with
      | ']' :: tail => some tail
      | _ => none
    else some rest
  if c == ']' then
    match second.map Text.trimStart with
    | some ('>' :: after) => some after
    | _ => none
  else none

theorem sectionBody?_cons (brackets : Nat) (c : Char) (rest : List Char) :
    sectionBody? brackets (c :: rest) = match sectionClosed? brackets c rest with
      | some after => some ([], after)
      | none => (sectionBody? brackets rest).map fun (body, after) => (c :: body, after) := rfl

theorem sectionClosed?_suffix {brackets : Nat} {c : Char} {rest after : List Char}
    (h : sectionClosed? brackets c rest = some after) : after <:+ rest := by
  unfold sectionClosed? at h
  generalize hsecond : (if brackets == 2 then
      match Text.trimStart rest with
      | ']' :: tail => some tail
      | _ => none
    else some rest) = second at h
  -- A second bracket is only asked for where the section began with two.
  have hend : ∀ tail, second = some tail → tail <:+ rest := by
    rintro tail rfl
    split at hsecond
    · split at hsecond
      · next tail' htrim =>
          cases hsecond
          exact (List.suffix_cons _ _).trans (htrim ▸ trimStart_suffix rest)
      · cases hsecond
    · cases hsecond
      exact List.suffix_refl _
  simp only [] at h
  split at h
  · split at h
    · next after' htrim =>
        cases h
        rcases Option.map_eq_some_iff.mp htrim with ⟨tail, htail, hstart⟩
        exact (List.suffix_cons _ _).trans
          ((hstart ▸ trimStart_suffix tail).trans (hend tail htail))
    · cases h
  · cases h

theorem sectionBody?_suffix {brackets : Nat} {cs body after : List Char}
    (h : sectionBody? brackets cs = some (body, after)) : after <:+ cs := by
  induction cs generalizing body with
  | nil => cases h
  | cons c rest ih =>
      rw [sectionBody?_cons] at h
      cases hc : sectionClosed? brackets c rest with
      | some found =>
          rw [hc] at h
          cases h
          exact (sectionClosed?_suffix hc).trans (List.suffix_cons _ _)
      | none =>
          rw [hc] at h
          rcases Option.map_eq_some_iff.mp h with ⟨⟨inner, after'⟩, hrest, heq⟩
          cases heq
          exact (ih hrest).trans (List.suffix_cons _ _)

/-- What is read at some place of a text: its event, if it is a comment, has a part of the text
    for its body, and what is left is the end of the text. -/
structure Quotes (cs : List Char) (event : Option Event) (after : List Char) : Prop where
  rest : after <:+ cs
  comment : ∀ body, event = some (.comment body) → body.toList <:+: cs

theorem Quotes.trans {cs part after : List Char} {event : Option Event}
    (h : Quotes part event after) (hpart : part <:+ cs) : Quotes cs event after where
  rest := h.rest.trans hpart
  comment := fun body hbody => (h.comment body hbody).trans hpart.isInfix

/-- A construct that is no comment. -/
theorem Quotes.of_other {cs after : List Char} {event : Option Event} (h : after <:+ cs)
    (hother : ∀ body, event ≠ some (.comment body)) : Quotes cs event after :=
  ⟨h, fun body hbody => absurd hbody (hother body)⟩

/-- A comment with its body in the text. -/
theorem Quotes.of_comment {cs body after : List Char} (h : after <:+ cs) (hbody : body <:+: cs) :
    Quotes cs (some (.comment (String.ofList body))) after where
  rest := h
  comment := by
    rintro _ heq
    cases heq
    rw [String.toList_ofList]
    exact hbody

theorem markedSection_quotes {cs after : List Char} {event : Option Event}
    (h : markedSection cs = .ok (some (event, after))) : Quotes cs event after := by
  unfold markedSection at h
  -- The two kinds of sections differ in the number of brackets at their end.
  have hsection (brackets : Nat) (h : (sectionBody? brackets cs).map
      (fun (body, rest) => (some (Event.declaration (String.ofList body)), rest))
        = some (event, after)) : Quotes cs event after := by
    rcases Option.map_eq_some_iff.mp h with ⟨⟨body, rest⟩, hbody, heq⟩
    cases heq
    exact .of_other (sectionBody?_suffix hbody) fun _ hne => by cases hne
  simp only [] at h
  split at h
  · cases h
  split at h
  · cases h
  split at h
  · cases h
  split at h
  · exact hsection 2 (Except.ok.inj h)
  split at h
  · exact hsection 1 (Except.ok.inj h)
  · cases h

theorem closingTag_quotes {raw : Option (List Char)} {cs after : List Char} {event : Option Event}
    {ends : Bool} (h : closingTag raw cs = some (event, ends, after)) : Quotes cs event after := by
  have hrest := closingTag_suffix h
  unfold closingTag at h
  split at h
  · cases h
  · next inside beyond hbracket =>
      simp only [] at h
      split at h
      · -- A tag whose name is read is none of the comments, and of the others the last kind is one.
        split at h
        · cases h
          exact .of_other hrest fun _ hne => by cases hne
        · cases h
          exact .of_other hrest fun _ hne => by cases hne
      · split at h
        · cases h
          exact .of_other hrest fun _ hne => by cases hne
        split at h
        · cases h
          exact .of_other hrest fun _ hne => by cases hne
        split at h
        · cases h
          exact .of_other hrest fun _ hne => by cases hne
        · cases h
          exact .of_comment hrest (prefix_of_upToBracket? hbracket).isInfix

theorem declaration?_quotes {cs after : List Char} {event : Event}
    (h : declaration? cs = some (event, after)) : Quotes cs (some event) after := by
  have hrest := declaration?_suffix h
  unfold declaration? at h
  rcases Option.map_eq_some_iff.mp h with ⟨⟨body, tail⟩, hbracket, heq⟩
  by_cases hdoctype : Text.lower (cs.take 7) == "doctype".toList
  · simp only [hdoctype, if_true, Prod.mk.injEq] at heq
    rw [← heq.1]
    exact .of_other hrest fun _ hne => by cases hne
  · simp only [hdoctype, Bool.false_eq_true, if_false, Prod.mk.injEq] at heq hbracket
    rw [← heq.1]
    exact .of_comment hrest (prefix_of_upToBracket? hbracket).isInfix

theorem openingTag?_quotes {cs after : List Char} {event : Event}
    (h : openingTag? cs = .ok (some (event, after))) : Quotes cs (some event) after := by
  unfold openingTag? at h
  simp only [] at h
  generalize hrest : cs.drop (cs.takeWhile (!endsTagName ·)).length = rest at h
  have hsuffix : rest <:+ cs := hrest ▸ List.drop_suffix _ _
  generalize (cs.takeWhile (!endsTagName ·)).getLast?.getD '<' = last at h
  have hparts := (tagEnd_parts last rest).2
  rcases hend : tagEnd last rest with ⟨values, stop⟩
  rw [hend] at hparts h
  simp only [] at hparts h
  -- If the values can be resolved, the tag is as it was found.
  have hfound {e : Event} {tail : List Char}
      (h : (values.mapM resolved >>= fun _ => pure (some (e, tail))) = .ok (some (event, after))) :
      e = event ∧ tail = after := by
    cases hvalues : values.mapM resolved with
    | error fault =>
        rw [hvalues] at h
        cases h
    | ok _ =>
        rw [hvalues] at h
        cases h
        exact ⟨rfl, rfl⟩
  cases stop with
  | incomplete => cases h
  | opening tail | whole tail | broken tail =>
      rcases hfound h with ⟨rfl, rfl⟩
      exact .of_other ((hparts _ rfl).trans hsuffix) fun _ hne => by cases hne

/-- Events that are read off the front of a text: what is left is its end, and the body of any
    comment among them is a part of it. -/
def Reads (cs : List Char) (r : List Event × Option (List Char) × List Char) : Prop :=
  r.2.2 <:+ cs ∧ ∀ body, .comment body ∈ r.1 → body.toList <:+: cs

theorem Quotes.reads {cs after : List Char} {event : Option Event} (h : Quotes cs event after)
    (raw : Option (List Char)) : Reads cs (event.toList, raw, after) :=
  ⟨h.rest, fun body hbody => h.comment body (Option.mem_toList.mp hbody)⟩

/-- A piece of text is shown as the text that it stands for. -/
theorem textEvent_of_shown {raw : Option (List Char)} {cs : List Char} {found : List Event}
    (h : shown raw cs = .ok found) : ∃ text, found = textEvent text := by
  unfold shown at h
  split at h
  · cases h
    exact ⟨cs, rfl⟩
  · cases hcs : resolved cs with
    | error fault =>
        rw [hcs] at h
        cases h
    | ok text =>
        rw [hcs] at h
        cases h
        exact ⟨text, rfl⟩

theorem shown_uncommented {raw : Option (List Char)} {cs : List Char} {found : List Event}
    (h : shown raw cs = .ok found) (body : String) : .comment body ∉ found := by
  rcases textEvent_of_shown h with ⟨text, rfl⟩
  unfold textEvent
  split
  · exact List.not_mem_nil
  · exact fun hbody => by cases List.mem_singleton.mp hbody

/-- Whatever a computation comes to is read off the front of a text. -/
def Reading (cs : List Char) (x : Except Fault (List Event × Option (List Char) × List Char)) :
    Prop :=
  ∀ r, x = .ok r → Reads cs r

theorem Reading.ok {cs : List Char} {r : List Event × Option (List Char) × List Char}
    (h : Reads cs r) : Reading cs (.ok r) := by
  rintro _ heq
  cases heq
  exact h

theorem Reading.bind {α : Type} {cs : List Char} {x : Except Fault α}
    {f : α → Except Fault (List Event × Option (List Char) × List Char)}
    (h : ∀ a, x = .ok a → Reading cs (f a)) : Reading cs (x >>= f) := by
  intro r hr
  rcases bind_eq_ok.mp hr with ⟨a, ha, hf⟩
  exact h a ha r hf

theorem reading_leftAsText (inside : List Char) (raw : Option (List Char)) :
    Reading inside (leftAsText raw inside) := by
  intro r hr
  unfold leftAsText at hr
  cases htext : shown raw (incomplete inside).1 with
  | error fault =>
      rw [htext] at hr
      cases hr
  | ok events =>
      rw [htext] at hr
      cases hr
      exact ⟨(incomplete_parts inside).2,
        fun body hbody => absurd hbody (shown_uncommented htext body)⟩

theorem reading_orText {inside : List Char} {raw : Option (List Char)}
    {found : Option (Option Event × List Char)}
    (h : ∀ event after, found = some (event, after) → Quotes inside event after) :
    Reading inside (orText raw inside found) := by
  cases found with
  | none => exact reading_leftAsText inside raw
  | some r => exact .ok ((h r.1 r.2 rfl).reads raw)

/-- A construct whose event is made of what is found. -/
theorem reading_mapped {α : Type} {inside : List Char} {raw : Option (List Char)}
    {found : Option (α × List Char)} (event : α × List Char → Option Event)
    (h : ∀ x after, found = some (x, after) → Quotes inside (event (x, after)) after) :
    Reading inside (orText raw inside (found.map fun r => (event r, r.2))) := by
  refine reading_orText fun e after heq => ?_
  rcases Option.map_eq_some_iff.mp heq with ⟨r, hr, hr'⟩
  cases hr'
  exact h r.1 r.2 hr

theorem reading_tagOrText {inside : List Char} {raw : Option (List Char)}
    {found : Option (Event × List Char)}
    (h : ∀ event after, found = some (event, after) → Quotes inside (some event) after) :
    Reading inside (tagOrText raw inside found) := by
  unfold tagOrText
  split
  · exact .ok ((h _ _ rfl).reads _)
  · exact .ok ((h _ _ rfl).reads raw)
  · exact reading_leftAsText inside raw

/-- Every construct is read off the front of the text behind its bracket. -/
theorem reading_construct (raw : Option (List Char)) (inside : List Char) :
    Reading inside (construct raw inside) := by
  -- A bracket that opens nothing is text.
  have hmark (cs : List Char) : Reading cs (.ok ([.text "<"], raw, cs)) :=
    .ok ⟨List.suffix_refl _, fun body hbody => by cases List.mem_singleton.mp hbody⟩
  unfold construct
  split
  · next behind =>
      split
      · next event ends after hclosing =>
          exact .ok (((closingTag_quotes hclosing).trans (List.suffix_cons _ _)).reads _)
      · exact reading_leftAsText _ raw
  · next behind =>
      refine reading_mapped _ fun body after hbody => ?_
      exact (Quotes.of_comment (commentBody?_suffix hbody)
        (prefix_of_commentBody? hbody).isInfix).trans (List.suffix_append ['!', '-', '-'] _)
  · next behind =>
      refine reading_mapped _ fun body after hbody => ?_
      exact .of_other ((upToBracket?_suffix hbody).trans (List.suffix_cons _ _))
        fun _ hne => by cases hne
  · next behind =>
      refine .bind fun found hsection => reading_orText fun event after hfound => ?_
      rw [hfound] at hsection
      exact (markedSection_quotes hsection).trans (List.suffix_append ['!', '['] _)
  · next behind _ _ =>
      refine reading_mapped _ fun event after hbody => ?_
      exact (declaration?_quotes hbody).trans (List.suffix_cons _ _)
  · split
    · refine .bind fun found htag => reading_tagOrText fun event after hfound => ?_
      rw [hfound] at htag
      exact openingTag?_quotes htag
    · exact hmark _
  · exact hmark []

/-- A comment among the events of a text is a part of it. The induction is on the fuel, and what
    follows one construct is the end of the text. -/
theorem eventsFrom_quotes {fuel : Nat} {raw : Option (List Char)} {cs : List Char}
    {found : List Event} (h : eventsFrom fuel raw cs = .ok found) (body : String)
    (hbody : .comment body ∈ found) : body.toList <:+: cs := by
  induction fuel generalizing raw cs found with
  | zero =>
      cases h
      exact absurd hbody List.not_mem_nil
  | succ n ih =>
      cases cs with
      | nil =>
          unfold eventsFrom at h
          cases h
          exact absurd hbody List.not_mem_nil
      | cons c tail =>
          rw [eventsFrom_cons] at h
          rcases hpiece : piece? raw (c :: tail) with _ | ⟨piece, rest⟩
          · rw [hpiece] at h
            cases h
            exact absurd hbody List.not_mem_nil
          rw [hpiece] at h
          rw [(piece?_parts hpiece).1]
          cases rest with
          | nil => exact absurd hbody (shown_uncommented h body)
          | cons mark inside =>
              rcases bind_eq_ok.mp h with ⟨before, hbefore, h⟩
              rcases bind_eq_ok.mp h with ⟨r, hr, h⟩
              rcases bind_eq_ok.mp h with ⟨others, hothers, h⟩
              cases h
              rcases reading_construct raw inside r hr with ⟨hafter, hcomments⟩
              have hinside : inside <:+ piece ++ mark :: inside :=
                (List.suffix_cons _ _).trans (List.suffix_append _ _)
              -- No comment is in the text before the bracket; so it is in the construct, or later.
              rcases List.mem_append.mp hbody with hmem | hmem
              · have hin := (List.mem_append.mp hmem).resolve_left (shown_uncommented hbefore body)
                exact (hcomments body hin).trans hinside.isInfix
              · exact (ih hothers hmem).trans (hafter.trans hinside).isInfix

theorem Outline.mem_record {o : Outline} {node : Node} {body : String}
    (h : .comment body ∈ (o.record node).nodes) : .comment body ∈ o.nodes ∨ node = .comment body := by
  unfold record at h
  split at h
  · rcases List.mem_append.mp h with h | h
    · exact Or.inl h
    · exact Or.inr (List.mem_singleton.mp h).symm
  · exact Or.inl h

/-- Only comments are recorded as comments. -/
theorem Outline.mem_step {o : Outline} {event : Event} {body : String}
    (h : .comment body ∈ (o.step event).nodes) : .comment body ∈ o.nodes ∨ event = .comment body := by
  cases event with
  | opening name whole =>
      -- An element is recorded whether or not it is opened.
      have hnode : .comment body ∈ (o.record (.element name)).nodes := by
        unfold step at h
        simp only [] at h
        split at h <;> exact h
      exact Or.inl ((mem_record hnode).resolve_right fun hne => by cases hne)
  | closing name => exact Or.inl h
  | comment found =>
      rcases mem_record h with h | h
      · exact Or.inl h
      · cases h
        exact Or.inr rfl
  | declaration found => exact Or.inl ((mem_record h).resolve_right fun hne => by cases hne)
  | text found =>
      unfold step at h
      simp only [] at h
      split at h
      · exact Or.inl h
      · exact Or.inl ((mem_record h).resolve_right fun hne => by cases hne)

theorem Outline.mem_run {o : Outline} {events : List Event} {body : String}
    (h : .comment body ∈ (o.run events).nodes) :
    .comment body ∈ o.nodes ∨ .comment body ∈ events := by
  induction events generalizing o with
  | nil => exact Or.inl h
  | cons event rest ih =>
      rcases ih h with h | h
      · rcases mem_step h with h | h
        · exact Or.inl h
        · exact Or.inr (h ▸ List.mem_cons_self ..)
      · exact Or.inr (List.mem_cons_of_mem _ h)

/-- A comment among the nodes of a text is a part of it. -/
theorem parseFragment_quotes {html : String} {nodes : List Node}
    (h : parseFragment html = .ok nodes) {body : String} (hbody : .comment body ∈ nodes) :
    body.toList <:+: html.toList := by
  unfold parseFragment events at h
  cases hevents : eventsFrom (html.toList.length + 1) none html.toList with
  | error fault =>
      simp only [hevents] at h
      cases h
  | ok found =>
      simp only [hevents] at h
      cases h
      exact eventsFrom_quotes hevents body ((Outline.mem_run hbody).resolve_left List.not_mem_nil)

/-! A text that begins with a comment. -/

theorem Outline.run_append (o : Outline) (events more : List Event) :
    o.run (events ++ more) = (o.run events).run more := List.foldl_append

theorem Outline.nodes_record (o : Outline) (node : Node) : o.nodes <+: (o.record node).nodes := by
  unfold record
  split
  · exact List.prefix_append _ _
  · exact List.prefix_refl _

theorem Outline.nodes_step (o : Outline) (event : Event) : o.nodes <+: (o.step event).nodes := by
  cases event with
  | opening name whole =>
      unfold step
      simp only []
      split
      · exact o.nodes_record _
      · exact o.nodes_record _
  | closing name => exact List.prefix_refl _
  | comment body | declaration body => exact o.nodes_record _
  | text body =>
      unfold step
      simp only []
      split
      · exact List.prefix_refl _
      · exact o.nodes_record _

/-- Nodes that were recorded stay the first ones. -/
theorem Outline.nodes_run (o : Outline) (events : List Event) : o.nodes <+: (o.run events).nodes := by
  induction events generalizing o with
  | nil => exact List.prefix_refl _
  | cons event rest ih => exact (o.nodes_step event).trans (ih (o.step event))

/-- The text of a bracket that opens nothing begins with it. -/
theorem resolved_incomplete {inside cs : List Char} (h : resolved (incomplete inside).1 = .ok cs) :
    ∃ rest, cs = '<' :: rest := by
  have hfirst : ∃ rest, (incomplete inside).1 = '<' :: rest := by
    unfold incomplete
    split
    · exact ⟨_, rfl⟩
    · simp only []
      split
      · exact ⟨_, rfl⟩
      · exact ⟨_, rfl⟩
  rcases hfirst with ⟨rest, hrest⟩
  unfold resolved at h
  split at h
  · cases h
  · cases h
    -- A bracket begins no reference, so it stays as it is.
    refine ⟨unescapeFrom 0 rest, ?_⟩
    rw [hrest, unescape, unescapeFrom]
    exact fun heq => by cases heq

/-- What is read first of a text that begins with a comment behind blanks: perhaps the blanks, and
    then the comment, unless it is never closed. -/
theorem eventsFrom_start {n : Nat} {blanks tail : List Char} {found : List Event}
    (hblanks : '<' ∉ blanks)
    (h : eventsFrom (n + 1) none (blanks ++ '<' :: '!' :: '-' :: '-' :: tail) = .ok found) :
    ∃ text event others, found = textEvent text ++ event :: others ∧
      ((∃ body after, commentBody? tail = some (body, after) ∧
          event = .comment (String.ofList body)) ∨
        ∃ rest, event = .text (String.ofList ('<' :: rest))) := by
  have hpass : ∀ c ∈ blanks, (c != '<') = true := fun c hc =>
    bne_iff_ne.mpr fun heq => hblanks (heq ▸ hc)
  have htake : (blanks ++ '<' :: '!' :: '-' :: '-' :: tail).takeWhile (· != '<') = blanks := by
    rw [List.takeWhile_append_of_pos hpass, List.takeWhile_cons, if_neg (by decide), List.append_nil]
  have hdrop : (blanks ++ '<' :: '!' :: '-' :: '-' :: tail).dropWhile (· != '<')
      = '<' :: '!' :: '-' :: '-' :: tail := by
    rw [List.dropWhile_append_of_pos hpass, List.dropWhile_cons, if_neg (by decide)]
  have hpiece : piece? none (blanks ++ '<' :: '!' :: '-' :: '-' :: tail)
      = some (blanks, '<' :: '!' :: '-' :: '-' :: tail) := by
    simp only [piece?, htake, hdrop]
  rcases List.exists_cons_of_ne_nil (List.append_ne_nil_of_right_ne_nil blanks
    (List.cons_ne_nil '<' ('!' :: '-' :: '-' :: tail))) with ⟨c, rest, hcs⟩
  rw [hcs, eventsFrom_cons, ← hcs, hpiece] at h
  rcases bind_eq_ok.mp h with ⟨before, hbefore, h⟩
  rcases bind_eq_ok.mp h with ⟨r, hr, h⟩
  rcases bind_eq_ok.mp h with ⟨others, _, h⟩
  cases h
  rcases textEvent_of_shown hbefore with ⟨text, rfl⟩
  simp only [construct] at hr
  -- A comment that is closed is read as one, and else its bracket begins a text.
  cases hcomment : commentBody? tail with
  | some found =>
      rw [hcomment] at hr
      cases hr
      exact ⟨text, _, others, by simp, Or.inl ⟨found.1, found.2, rfl, rfl⟩⟩
  | none =>
      rw [hcomment] at hr
      cases hresolved : resolved (incomplete ('!' :: '-' :: '-' :: tail)).1 with
      | error fault =>
          simp only [Option.map_none, orText, leftAsText, shown, hresolved] at hr
          cases hr
      | ok cs =>
          rcases resolved_incomplete hresolved with ⟨rest, rfl⟩
          simp only [Option.map_none, orText, leftAsText, shown, hresolved] at hr
          cases hr
          exact ⟨text, _, others, by simp [textEvent], Or.inr ⟨rest, rfl⟩⟩

/-- The only comment of a text is the one with which the text begins behind blanks, if it begins
    with one. -/
theorem body_of_start {html : String} {blanks tail : List Char} {body : String}
    (hhtml : html.toList = blanks ++ '<' :: '!' :: '-' :: '-' :: tail) (hblanks : '<' ∉ blanks)
    (h : parseFragment html = .ok [.comment body]) : body.toList <+: tail := by
  unfold parseFragment events at h
  rw [hhtml] at h
  rcases bind_eq_ok.mp h with ⟨found, hfound, h⟩
  rcases eventsFrom_start hblanks hfound with ⟨shown, event, others, rfl, hevent⟩
  have hnodes : (Outline.empty.run (textEvent shown ++ event :: others)).nodes
      = [.comment body] := Except.ok.inj h
  have hfirst := Outline.nodes_run (Outline.empty.run (textEvent shown)) (event :: others)
  rw [← Outline.run_append, hnodes] at hfirst
  -- Nothing but blanks stands before the comment, and blanks are not recorded.
  have hshown : Outline.empty.run (textEvent shown) = .empty := by
    unfold textEvent at hfirst ⊢
    split
    · rfl
    · next hsome =>
        rw [if_neg hsome] at hfirst
        by_cases hblank : (String.ofList shown).toList.all Text.isBlank
        · exact if_pos hblank
        · have hrecorded : Outline.empty.run [.text (String.ofList shown)]
              = ⟨[.text (String.ofList shown)], 0⟩ := if_neg hblank
          rw [hrecorded] at hfirst
          cases (List.cons_prefix_cons.mp hfirst).1
  have hnext := Outline.nodes_run (Outline.empty.step event) others
  have hrun : Outline.empty.run (textEvent shown ++ event :: others)
      = (Outline.empty.step event).run others := by
    rw [Outline.run_append, hshown]
    rfl
  rw [← hrun, hnodes] at hnext
  rcases hevent with ⟨cs, after, hcomment, rfl⟩ | ⟨rest, rfl⟩
  · cases (List.cons_prefix_cons.mp hnext).1
    rw [String.toList_ofList]
    exact prefix_of_commentBody? hcomment
  · have hopen : ¬ (String.ofList ('<' :: rest)).toList.all Text.isBlank := by
      rw [String.toList_ofList, List.all_cons]
      simp [show Text.isBlank '<' = false from by decide]
    have hrecorded : Outline.empty.step (.text (String.ofList ('<' :: rest)))
        = ⟨[.text (String.ofList ('<' :: rest))], 0⟩ := if_neg hopen
    rw [hrecorded] at hnext
    cases (List.cons_prefix_cons.mp hnext).1

end Html

end Annals
