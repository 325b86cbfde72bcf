import Annals.Proofs.Yaml.PlacedScan

/-!
# Places of Events

The events that are made of tokens are at marks of tokens, and so are the problems that the
grammar finds.

From here on it does not matter what a place is. The marks are those that satisfy `P`, and
only one is not taken from a token that was read: behind the last token there is a default
one, whose mark has to satisfy `P` too.

What is expected holds marks as well, those at which collections began. They are shown in
the course of what a problem was found, and are never the place of the problem itself, so
nothing is asked of them.

## Main definitions

* `Grammar.Placed`: A grammar whose tokens are at marks of a kind.
* `Grammar.Makes`: An event at such a mark, and what is left after it.
* `Events.Placed`: Events, and the problem that ends them, at such marks.

## Theorems

* `Grammar.react_points`: What one event keeps, with a lemma for each thing expected.
* `placed_eventsOf`: The events of tokens.
-/

namespace Annals

namespace Yaml

namespace Grammar

/-- A grammar whose tokens are at marks that satisfy `P`, and the problem that ends them. -/
def Placed (P : Mark → Prop) (g : Grammar) : Prop := Tokens.Placed P ⟨g.tokens, g.fault⟩

/-- An event at a mark that satisfies `P`, and what is left after it. -/
structure Makes (P : Mark → Prop) (r : Event × Grammar) : Prop where
  mark : P r.1.mark
  rest : r.2.Placed P

variable {P : Mark → Prop} {g : Grammar}

theorem Placed.drop (h : g.Placed P) : g.drop.Placed P :=
  ⟨fun t ht => h.tokens t (List.mem_of_mem_drop ht), h.fault⟩

theorem Placed.push (h : g.Placed P) (e : Expect) : (g.push e).Placed P := h

/-- The mark of the default token, which stands behind the last one, satisfies `P` too. -/
theorem peek_points (hP : P default) (h : g.Placed P) : Points P g.peek (Token.Placed P) := by
  unfold peek
  split
  · next token rest htokens => exact Points.ok (h.tokens token (htokens ▸ List.mem_cons_self ..))
  · next fault hfault =>
      refine ⟨fun p hp => ?_, fun a ha => (by cases ha)⟩
      cases hp
      exact h.fault p hfault
  · exact Points.ok ⟨hP, hP⟩

theorem directives_points (hP : P default) (fuel : Nat) (versioned : Bool)
    (handles : List (String × String)) (h : g.Placed P) :
    Points P (directives fuel versioned handles g) (Placed P) := by
  induction fuel generalizing versioned handles g with
  | zero => exact Points.ok h
  | succ n ih =>
      unfold directives
      refine (peek_points hP h).bind fun token ht => ?_
      split
      · exact Points.ite (Points.problem ht.start)
          (Points.ite (Points.problem ht.start) (ih _ _ h.drop))
      · exact Points.ite (Points.problem ht.start) (ih _ _ h.drop)
      · exact ih _ _ h.drop
      · exact Points.ok h

/-- The properties of a node at marks that satisfy `P`. -/
structure Properties.Placed (P : Mark → Prop) (p : Properties) : Prop where
  start : ∀ m, p.start = some m → P m
  tagMark : P p.tagMark

theorem properties_points (hP : P default) (h : g.Placed P) :
    Points P g.properties (fun r => r.1.Placed P ∧ r.2.Placed P) := by
  unfold properties
  refine (peek_points hP h).bind fun first hfirst => ?_
  have hstart : ∀ m, some first.start = some m → P m := by
    intro m hm
    cases hm
    exact hfirst.start
  split
  · -- An anchor, and perhaps a tag behind it.
    refine (peek_points hP h.drop).bind fun second hsecond => ?_
    split
    · exact Points.ok ⟨⟨hstart, hsecond.start⟩, h.drop.drop⟩
    · exact Points.ok ⟨⟨hstart, hfirst.start⟩, h.drop⟩
  · refine (peek_points hP h.drop).bind fun second hsecond => ?_
    split
    · exact Points.ok ⟨⟨hstart, hfirst.start⟩, h.drop.drop⟩
    · exact Points.ok ⟨⟨hstart, hfirst.start⟩, h.drop⟩
  · exact Points.ok ⟨⟨fun m hm => (by cases hm), hfirst.start⟩, h⟩

theorem fullTag_points {p : Properties} (hp : p.Placed P) :
    Points P (g.fullTag p) (fun _ => True) := by
  unfold fullTag
  split
  · exact Points.ok trivial
  · exact Points.ok trivial
  · split
    · exact Points.ok trivial
    · exact Points.problem hp.tagMark

theorem node_points (hP : P default) (isBlock mayBeBare : Bool) (h : g.Placed P) :
    Points P (g.node isBlock mayBeBare) (Makes P) := by
  unfold node
  refine (peek_points hP h).bind fun first hfirst => ?_
  split
  · exact Points.ok ⟨hfirst.start, h.drop⟩
  · refine (properties_points hP h).bind fun r hr => ?_
    refine (fullTag_points hr.1).bind fun written _ => ?_
    refine (peek_points hP hr.2).bind fun token ht => ?_
    -- A node begins at its properties, or at its own token if it has none.
    have hstart : P (r.1.start.getD first.start) := by
      cases hs : r.1.start with
      | none => exact hfirst.start
      | some m => exact hr.1.start m hs
    split
    · exact Points.ok ⟨hstart, hr.2.drop⟩
    · exact Points.ok ⟨hstart, hr.2.drop⟩
    · exact Points.ok ⟨hstart, hr.2.drop⟩
    · refine Points.ite (Points.ok ⟨hstart, hr.2⟩) (Points.ite (Points.ok ⟨hstart, hr.2.drop⟩) ?_)
      refine Points.ite (Points.ok ⟨hstart, hr.2.drop⟩) (Points.ite (Points.ok ⟨hstart, hr.2⟩) ?_)
      exact Points.problem ht.start

theorem nodeUnless_points (hP : P default) (ends : List TokenKind) (isBlock mayBeBare : Bool)
    {stop : Mark} (hstop : P stop) (h : g.Placed P) :
    Points P (g.nodeUnless ends isBlock mayBeBare stop) (Makes P) :=
  ((peek_points hP h).map (R := fun _ => True) fun _ _ => trivial).bind fun _ _ =>
    Points.ite (Points.ok ⟨hstop, h⟩) (node_points hP isBlock mayBeBare h)

theorem valueUnless_points (hP : P default) (ends : List TokenKind) (isBlock : Bool)
    (h : g.Placed P) : Points P (g.valueUnless ends isBlock) (Makes P) :=
  (peek_points hP h).bind fun _ ht =>
    Points.ite (nodeUnless_points hP ends isBlock isBlock ht.stop h.drop) (Points.ok ⟨ht.start, h⟩)

theorem document_points (hP : P default) (h : g.Placed P) : Points P g.document (Makes P) := by
  have hopen : Placed P { g with tokens := g.tokens.dropWhile (·.kind == .documentEnd) } :=
    ⟨fun t ht => h.tokens t ((List.dropWhile_sublist _).mem ht), h.fault⟩
  refine (peek_points hP hopen).bind fun token ht => ?_
  refine Points.ite (Points.ok ⟨ht.start, hopen.drop⟩) ?_
  refine (directives_points hP _ _ _ hopen).bind fun g' hg' => ?_
  refine (peek_points hP hg').bind fun opening hopening => ?_
  exact Points.ite (Points.ok ⟨ht.start, hg'.drop⟩) (Points.problem hopening.start)

theorem firstDocument_points (hP : P default) (h : g.Placed P) :
    Points P g.firstDocument (Makes P) := by
  refine (peek_points hP h).bind fun token ht => ?_
  split
  · exact document_points hP h
  · exact document_points hP h
  · exact document_points hP h
  · exact Points.ok ⟨ht.start, h⟩

theorem content_points (hP : P default) (h : g.Placed P) : Points P g.content (Makes P) := by
  refine (peek_points hP h).bind fun token ht => ?_
  split
  · exact Points.ok ⟨ht.start, h⟩
  · exact Points.ok ⟨ht.start, h⟩
  · exact Points.ok ⟨ht.start, h⟩
  · exact Points.ok ⟨ht.start, h⟩
  · exact node_points hP true false h

theorem endDocument_points (hP : P default) (h : g.Placed P) :
    Points P g.endDocument (Makes P) := by
  refine (peek_points hP h).bind fun token ht => Points.ok ⟨ht.start, ?_⟩
  simp only []
  split
  · exact (h.push .document).drop
  · exact h.push .document

theorem blockEntry_points (hP : P default) (start : Mark) (h : g.Placed P) :
    Points P (g.blockEntry start) (Makes P) := by
  refine (peek_points hP h).bind fun token ht => ?_
  split
  · exact nodeUnless_points hP _ _ _ ht.stop (h.drop.push _)
  · exact Points.ok ⟨ht.start, h.drop⟩
  · exact Points.problem ht.start

theorem bareEntry_points (hP : P default) (h : g.Placed P) : Points P g.bareEntry (Makes P) :=
  (peek_points hP h).bind fun _ ht =>
    Points.ite (nodeUnless_points hP _ _ _ ht.stop (h.drop.push _)) (Points.ok ⟨ht.start, h⟩)

theorem blockKey_points (hP : P default) (start : Mark) (h : g.Placed P) :
    Points P (g.blockKey start) (Makes P) := by
  refine (peek_points hP h).bind fun token ht => ?_
  split
  · exact nodeUnless_points hP _ _ _ ht.stop ((h.drop.push _).push _)
  · exact Points.ok ⟨ht.start, h.drop⟩
  · exact Points.problem ht.start

theorem comma_points (hP : P default) (context closing : String) (start : Mark) (first : Bool)
    (h : g.Placed P) : Points P (g.comma context closing start first) (Placed P) :=
  Points.ite (Points.ok h) ((peek_points hP h).bind fun _ ht =>
    Points.ite (Points.ok h.drop) (Points.problem ht.start))

theorem flowEntry_points (hP : P default) (start : Mark) (first : Bool) (h : g.Placed P) :
    Points P (g.flowEntry start first) (Makes P) := by
  refine (peek_points hP h).bind fun token ht => ?_
  refine Points.ite (Points.ok ⟨ht.start, h.drop⟩) ?_
  refine (comma_points hP _ _ start first h).bind fun g' hg' => ?_
  refine (peek_points hP hg').bind fun token' ht' => ?_
  split
  · exact Points.ok ⟨ht'.start, hg'.drop⟩
  · exact Points.ok ⟨ht'.start, hg'⟩
  · exact node_points hP false false (hg'.push _)

theorem pairKey_points (hP : P default) (h : g.Placed P) : Points P g.pairKey (Makes P) :=
  (peek_points hP h).bind fun _ ht => nodeUnless_points hP _ _ _ ht.stop (h.drop.push _)

theorem flowKey_points (hP : P default) (start : Mark) (first : Bool) (h : g.Placed P) :
    Points P (g.flowKey start first) (Makes P) := by
  refine (peek_points hP h).bind fun token ht => ?_
  refine Points.ite (Points.ok ⟨ht.start, h.drop⟩) ?_
  refine (comma_points hP _ _ start first h).bind fun g' hg' => ?_
  refine (peek_points hP hg').bind fun token' ht' => ?_
  split
  · exact Points.ok ⟨ht'.start, hg'.drop⟩
  · exact nodeUnless_points hP _ _ _ ht'.stop ((hg'.drop.push _).push _)
  · exact node_points hP false false ((hg'.push _).push _)

/-- An event at the next token, of which none is taken. -/
theorem peeked_points (hP : P default) (kind : EventKind) (h : g.Placed P) :
    Points P (g.peek >>= fun token => .ok (⟨kind, token.start⟩, g)) (Makes P) :=
  (peek_points hP h).bind fun _ ht => Points.ok ⟨ht.start, h⟩

theorem react_points (hP : P default) (e : Expect) (h : g.Placed P) :
    Points P (g.react e) (Makes P) := by
  cases e with
  | stream => exact (peek_points hP h).bind fun token ht => Points.ok ⟨ht.start, h.drop.push _⟩
  | firstDocument => exact firstDocument_points hP h
  | document => exact document_points hP h
  | content => exact content_points hP h
  | documentEnd => exact endDocument_points hP h
  | blockEntry start => exact blockEntry_points hP start h
  | bareEntry => exact bareEntry_points hP h
  | blockKey start => exact blockKey_points hP start h
  | blockValue => exact valueUnless_points hP _ true h
  | flowEntry start first => exact flowEntry_points hP start first h
  | pairKey => exact pairKey_points hP h
  | pairValue => exact valueUnless_points hP _ false (h.push .pairEnd)
  | pairEnd => exact peeked_points hP _ h
  | flowKey start first => exact flowKey_points hP start first h
  | flowValue => exact valueUnless_points hP _ false h
  | flowNoValue => exact peeked_points hP _ h
  | blockNode => exact node_points hP true false h

theorem step_points (hP : P default) (h : g.Placed P) :
    Points P g.step (fun r => ∀ made, r = some made → Makes P made) := by
  unfold step
  split
  · exact Points.ok fun made hmade => (by cases hmade)
  · refine Points.map (f := some) (react_points hP _ h) fun made hmade made' hsome => ?_
    cases hsome
    exact hmade

end Grammar

/-- Events at marks that satisfy `P`, which end with a problem at such a mark, if at one. -/
structure Events.Placed (P : Mark → Prop) (es : Events) : Prop where
  events : ∀ e ∈ es.events, P e.mark
  fault : ∀ p, es.fault = some (.problem p) → P p.mark

variable {P : Mark → Prop}

theorem placed_eventsFrom (hP : P default) {g : Grammar} (fuel : Nat) (h : g.Placed P) :
    (eventsFrom fuel g).Placed P := by
  induction fuel generalizing g with
  | zero => exact ⟨fun e he => absurd he List.not_mem_nil, fun p hp => (by cases hp)⟩
  | succ n ih =>
      have hstep := Grammar.step_points hP h
      unfold eventsFrom
      split
      · next fault hfault =>
          refine ⟨fun e he => absurd he List.not_mem_nil, fun p hp => ?_⟩
          cases hp
          exact hstep.fails p hfault
      · exact ⟨fun e he => absurd he List.not_mem_nil, fun p hp => (by cases hp)⟩
      · -- The event has its place from the step, the others have theirs from the grammar behind it.
        next event g' hmade =>
          have hmakes := hstep.gives _ hmade _ rfl
          have hrest := ih hmakes.rest
          refine ⟨fun e he => ?_, hrest.fault⟩
          rcases List.mem_cons.mp he with rfl | he
          · exact hmakes.mark
          · exact hrest.events e he

theorem placed_eventsOf (hP : P default) {ts : Tokens} (h : ts.Placed P) :
    (eventsOf ts).Placed P :=
  placed_eventsFrom hP _ h

end Yaml

end Annals
