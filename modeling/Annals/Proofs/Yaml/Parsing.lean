import Annals.Proofs.Yaml.Tree
import Annals.Yaml.Event

/-!
# From Trees to Events

The events of a text that is a tree in block style.

What comes next is told by the innermost expectation and the next token alone, so the
tokens of a tree make its events wherever it stands: nothing behind them is looked at,
and the expectations around it are there again when it is over. The tokens of a tree
never begin with one before which a node could be left out.

## Main definitions

* `Tree.events`: The events of a tree.
* `Grammar.Yields`: Some events are made one after another.
* `Tree.Reads`: The tokens of a tree make its events.

## Theorems

* `Fits.reads`: A tree is read.
* `eventsOf_tree`: The events of a text that is a tree.
-/

namespace Annals

namespace Yaml

namespace Tree

mutual

/-- The events of a tree. -/
def events : Tree → List EventKind
  | .text cs isPlain => [.scalar none none (String.ofList cs) isPlain]
  | .list items => .sequenceStart none none :: (itemEvents items ++ [.sequenceEnd])
  | .entries es => .mappingStart none none :: (entryEvents es ++ [.mappingEnd])

/-- The events of the items of a list. -/
def itemEvents : List Tree → List EventKind
  | [] => []
  | t :: rest => t.events ++ itemEvents rest

/-- The events of the entries of a mapping. -/
def entryEvents : List (List Char × Tree) → List EventKind
  | [] => []
  | (key, t) :: rest =>
    .scalar none none (String.ofList key) true :: (t.events ++ entryEvents rest)

end

end Tree

namespace Grammar

/-- Some events are made one after another. -/
inductive Yields : Grammar → List EventKind → Grammar → Prop where
  | nil {g : Grammar} : Yields g [] g
  | cons {g g1 g2 : Grammar} {kinds : List EventKind} (event : Event) :
      g.step = .ok (some (event, g1)) → Yields g1 kinds g2 → Yields g (event.kind :: kinds) g2

variable {g g1 g2 : Grammar} {kinds more : List EventKind} {token : Token} {tokens : List Token}

theorem Yields.append (h : Yields g kinds g1) (h' : Yields g1 more g2) :
    Yields g (kinds ++ more) g2 := by
  induction h with
  | nil => exact h'
  | cons event hstep _ ih => exact .cons event hstep (ih h')

theorem eventsFrom_yields (fuel : Nat) (h : Yields g kinds g1) :
    ∃ events, events.map (·.kind) = kinds ∧ eventsFrom (fuel + kinds.length) g
      = ⟨events ++ (eventsFrom fuel g1).events, (eventsFrom fuel g1).fault⟩ := by
  induction h with
  | nil => exact ⟨[], rfl, rfl⟩
  | cons event hstep _ ih =>
      rcases ih with ⟨events, hkinds, hevents⟩
      refine ⟨event :: events, by rw [List.map_cons, hkinds], ?_⟩
      rw [List.length_cons, ← Nat.add_assoc, eventsFrom, hstep]
      simp only [hevents, List.cons_append]

theorem peek_of_tokens (h : g.tokens = token :: tokens) : g.peek = .ok token := by
  unfold peek
  rw [h]

/-- A node is not left out before a token that does not end anything. -/
theorem nodeUnless_of_head {ends : List TokenKind} {isBlock mayBeBare : Bool} {stop : Mark}
    (h : g.tokens = token :: tokens) (hends : token.kind ∉ ends) :
    g.nodeUnless ends isBlock mayBeBare stop = g.node isBlock mayBeBare := by
  have hcontains : ends.contains token.kind = false := by
    rw [Bool.eq_false_iff, ne_eq, List.contains_iff_mem]
    exact hends
  have hkind : g.peekKind = .ok token.kind := by
    unfold peekKind
    rw [peek_of_tokens h]
    rfl
  unfold nodeUnless
  rw [hkind, ok_bind, hcontains]
  rfl

theorem step_of_react {e : Expect} {stack : List Expect} {event : Event} (hstack : g.stack = e :: stack)
    (h : ({ g with stack := stack } : Grammar).react e = .ok (event, g1)) :
    g.step = .ok (some (event, g1)) := by
  unfold step
  rw [hstack]
  simp only [h]
  rfl

/-- The properties of a node that has none. -/
theorem properties_of_none (h : g.tokens = token :: tokens)
    (hanchor : ∀ name, token.kind ≠ .anchor name)
    (htag : ∀ handle suffix, token.kind ≠ .tag handle suffix) :
    g.properties = .ok (⟨none, none, none, token.start, token.start⟩, g) := by
  unfold properties
  rw [peek_of_tokens h, ok_bind]
  cases hk : token.kind with
  | anchor name => exact absurd hk (hanchor name)
  | tag handle suffix => exact absurd hk (htag handle suffix)
  | _ => rfl

theorem node_scalar {text : String} {isPlain mayBeBare : Bool} (h : g.tokens = token :: tokens)
    (hkind : token.kind = .scalar text isPlain) :
    g.node true mayBeBare = .ok (⟨.scalar none none text isPlain, token.start⟩, g.drop) := by
  have hprops := properties_of_none h (by simp [hkind]) (by simp [hkind])
  have hresolved : (isPlain && (none : Option String).isNone || (none : Option String) == some "!")
      = isPlain := by simp
  unfold node
  simp only [peek_of_tokens h, ok_bind, hkind, hprops, fullTag, hresolved]
  rfl

theorem node_sequence {mayBeBare : Bool} (h : g.tokens = token :: tokens)
    (hkind : token.kind = .blockSequenceStart) : g.node true mayBeBare
      = .ok (⟨.sequenceStart none none, token.start⟩, g.drop.push (.blockEntry token.start)) := by
  have hprops := properties_of_none h (by simp [hkind]) (by simp [hkind])
  have hbare : (mayBeBare && TokenKind.blockSequenceStart == .blockEntry) = false := by simp
  unfold node
  simp only [peek_of_tokens h, ok_bind, hkind, hprops, fullTag, hbare]
  rfl

theorem node_mapping {mayBeBare : Bool} (h : g.tokens = token :: tokens)
    (hkind : token.kind = .blockMappingStart) : g.node true mayBeBare
      = .ok (⟨.mappingStart none none, token.start⟩, g.drop.push (.blockKey token.start)) := by
  have hprops := properties_of_none h (by simp [hkind]) (by simp [hkind])
  have hbare : (mayBeBare && TokenKind.blockMappingStart == .blockEntry) = false := by simp
  unfold node
  simp only [peek_of_tokens h, ok_bind, hkind, hprops, fullTag, hbare]
  rfl

theorem react_blockEntry {start : Mark} {mark : Token} (h : g.tokens = mark :: token :: tokens)
    (hmark : mark.kind = .blockEntry) (hnode : token.kind ∉ [.blockEntry, .blockEnd]) :
    g.react (.blockEntry start) = (g.drop.push (.blockEntry start)).node true false := by
  have htokens : (g.drop.push (.blockEntry start)).tokens = token :: tokens := by
    simp [drop, push, h]
  unfold react blockEntry
  simp only [peek_of_tokens h, ok_bind, hmark, nodeUnless_of_head htokens hnode]

theorem react_sequenceEnd {start : Mark} (h : g.tokens = token :: tokens)
    (hend : token.kind = .blockEnd) :
    g.react (.blockEntry start) = .ok (⟨.sequenceEnd, token.start⟩, g.drop) := by
  unfold react blockEntry
  simp only [peek_of_tokens h, ok_bind, hend]
  rfl

theorem react_blockKey {start : Mark} {mark : Token} (h : g.tokens = mark :: token :: tokens)
    (hmark : mark.kind = .key) (hnode : token.kind ∉ [.key, .value, .blockEnd]) :
    g.react (.blockKey start)
      = ((g.drop.push (.blockKey start)).push .blockValue).node true true := by
  have htokens : ((g.drop.push (.blockKey start)).push .blockValue).tokens = token :: tokens := by
    simp [drop, push, h]
  unfold react blockKey
  simp only [peek_of_tokens h, ok_bind, hmark, nodeUnless_of_head htokens hnode]

theorem react_mappingEnd {start : Mark} (h : g.tokens = token :: tokens)
    (hend : token.kind = .blockEnd) :
    g.react (.blockKey start) = .ok (⟨.mappingEnd, token.start⟩, g.drop) := by
  unfold react blockKey
  simp only [peek_of_tokens h, ok_bind, hend]
  rfl

theorem react_blockValue {mark : Token} (h : g.tokens = mark :: token :: tokens)
    (hmark : mark.kind = .value) (hnode : token.kind ∉ [.key, .value, .blockEnd]) :
    g.react .blockValue = g.drop.node true true := by
  have htokens : g.drop.tokens = token :: tokens := by simp [drop, h]
  unfold react valueUnless
  simp only [peek_of_tokens h, ok_bind, hmark, beq_self_eq_true, if_true,
    nodeUnless_of_head htokens hnode]

end Grammar

namespace Tree

open Grammar

variable {t : Tree} {items : List Tree} {es : List (List Char × Tree)} {tokens more : List Token}
  {last : Token} {stack : List Expect} {handles : List (String × String)} {start : Mark}

/-- The tokens of a tree make its events, wherever a node may stand. -/
def Reads (t : Tree) : Prop :=
  ∀ {tokens more : List Token} {stack : List Expect} {handles : List (String × String)}
    {mayBeBare : Bool}, tokens.map (·.kind) = t.kinds →
    ∃ event g kinds, (⟨tokens ++ more, none, stack, handles⟩ : Grammar).node true mayBeBare
      = .ok (event, g) ∧ t.events = event.kind :: kinds ∧ g.Yields kinds ⟨more, none, stack, handles⟩

/-- A tree begins with a token before which no node is left out. -/
theorem kinds_head (t : Tree) : ∃ kind kinds, t.kinds = kind :: kinds ∧
    kind ∉ [.blockEntry, .blockEnd] ∧ kind ∉ [.key, .value, .blockEnd] := by
  cases t with
  | text cs isPlain => exact ⟨_, _, rfl, by simp, by simp⟩
  | list items => exact ⟨_, _, rfl, by decide, by decide⟩
  | entries es => exact ⟨_, _, rfl, by decide, by decide⟩

theorem tokens_head (h : tokens.map (·.kind) = t.kinds) : ∃ token rest, tokens = token :: rest ∧
    token.kind ∉ [.blockEntry, .blockEnd] ∧ token.kind ∉ [.key, .value, .blockEnd] := by
  rcases t.kinds_head with ⟨kind, kinds, hkinds, hentry, hkey⟩
  rw [hkinds] at h
  rcases List.map_eq_cons_iff.mp h with ⟨token, rest, rfl, rfl, _⟩
  exact ⟨token, rest, rfl, hentry, hkey⟩

/-- A tree is read where what is expected comes to a node. -/
theorem Reads.yields (h : t.Reads) (mayBeBare : Bool) (htokens : tokens.map (·.kind) = t.kinds)
    {g : Grammar} {e : Expect} {around : List Expect} (hstack : g.stack = e :: around)
    (hreact : ({ g with stack := around } : Grammar).react e
      = (⟨tokens ++ more, none, stack, handles⟩ : Grammar).node true mayBeBare) :
    g.Yields t.events ⟨more, none, stack, handles⟩ := by
  rcases h htokens with ⟨event, g1, kinds, hnode, hevents, hyields⟩
  rw [hevents]
  exact .cons event (step_of_react hstack (hreact.trans hnode)) hyields

theorem yields_items (ih : ∀ t ∈ items, t.Reads) (htokens : tokens.map (·.kind) = itemKinds items)
    (hlast : last.kind = .blockEnd) :
    (⟨tokens ++ last :: more, none, .blockEntry start :: stack, handles⟩ : Grammar).Yields
      (itemEvents items ++ [.sequenceEnd]) ⟨more, none, stack, handles⟩ := by
  induction items generalizing tokens with
  | nil =>
      rw [List.map_eq_nil_iff.mp htokens]
      exact .cons ⟨.sequenceEnd, last.start⟩ (step_of_react rfl (react_sequenceEnd rfl hlast)) .nil
  | cons t rest ihrest =>
      rw [itemKinds] at htokens
      rcases List.map_eq_cons_iff.mp htokens with ⟨mark, tokens', rfl, hmark, htokens'⟩
      rcases List.map_eq_append_iff.mp htokens' with ⟨own, others, rfl, hown, hothers⟩
      rcases tokens_head hown with ⟨token, own', hsplit, hhead, _⟩
      -- An item has a mark and then its own tokens, and the state behind it is the one before it.
      have hitem : (⟨mark :: (own ++ (others ++ last :: more)), none, .blockEntry start :: stack,
          handles⟩ : Grammar).Yields t.events
          ⟨others ++ last :: more, none, .blockEntry start :: stack, handles⟩ :=
        Reads.yields (ih t (List.mem_cons_self ..)) false hown rfl
          (react_blockEntry (by rw [hsplit]; rfl) hmark hhead)
      have hrest := ihrest (fun t' ht => ih t' (List.mem_cons_of_mem _ ht)) hothers
      have hall := hitem.append hrest
      rwa [← List.append_assoc, ← List.append_assoc, ← List.cons_append] at hall

/-- A key makes one event, and then its value is expected. -/
theorem yields_key {mark key value : Token} {text : String} (hmark : mark.kind = .key)
    (hkey : key.kind = .scalar text true) :
    (⟨mark :: key :: value :: tokens, none, .blockKey start :: stack, handles⟩ : Grammar).Yields
      [.scalar none none text true]
      ⟨value :: tokens, none, .blockValue :: .blockKey start :: stack, handles⟩ := by
  refine .cons ⟨.scalar none none text true, key.start⟩ (step_of_react rfl ?_) .nil
  rw [react_blockKey rfl hmark (by simp [hkey]), node_scalar rfl hkey]
  rfl

theorem yields_entries (ih : ∀ e ∈ es, e.2.Reads) (htokens : tokens.map (·.kind) = entryKinds es)
    (hlast : last.kind = .blockEnd) :
    (⟨tokens ++ last :: more, none, .blockKey start :: stack, handles⟩ : Grammar).Yields
      (entryEvents es ++ [.mappingEnd]) ⟨more, none, stack, handles⟩ := by
  induction es generalizing tokens with
  | nil =>
      rw [List.map_eq_nil_iff.mp htokens]
      exact .cons ⟨.mappingEnd, last.start⟩ (step_of_react rfl (react_mappingEnd rfl hlast)) .nil
  | cons e rest ihrest =>
      rcases e with ⟨key, t⟩
      rw [entryKinds] at htokens
      rcases List.map_eq_cons_iff.mp htokens with ⟨mark, tokens, rfl, hmark, htokens⟩
      rcases List.map_eq_cons_iff.mp htokens with ⟨name, tokens, rfl, hname, htokens⟩
      rcases List.map_eq_cons_iff.mp htokens with ⟨colon, tokens, rfl, hcolon, htokens⟩
      rcases List.map_eq_append_iff.mp htokens with ⟨own, others, rfl, hown, hothers⟩
      rcases tokens_head hown with ⟨token, own', hsplit, _, hhead⟩
      -- The value is read up to the next key or to the end of the mapping.
      have hvalue : (⟨colon :: (own ++ (others ++ last :: more)), none,
          .blockValue :: .blockKey start :: stack, handles⟩ : Grammar).Yields t.events
          ⟨others ++ last :: more, none, .blockKey start :: stack, handles⟩ :=
        Reads.yields (ih (key, t) (List.mem_cons_self ..)) true hown rfl
          (react_blockValue (by rw [hsplit]; rfl) hcolon hhead)
      have hrest := ihrest (fun e he => ih e (List.mem_cons_of_mem _ he)) hothers
      have hall := (yields_key hmark hname).append (hvalue.append hrest)
      simpa only [entryEvents, List.append_assoc, List.cons_append, List.nil_append] using hall

/-- A text is read. -/
theorem reads_text (cs : List Char) (isPlain : Bool) : (Tree.text cs isPlain).Reads := by
  intro tokens more stack handles mayBeBare h
  rcases List.map_eq_singleton_iff.mp h with ⟨token, rfl, hkind⟩
  exact ⟨_, _, [], node_scalar rfl hkind, rfl, .nil⟩

/-- A tree is read. -/
theorem Fits.reads (h : t.Fits) : t.Reads := by
  induction h with
  | word _ => exact reads_text _ _
  | quoted _ => exact reads_text _ _
  | list _ _ _ ih =>
      intro tokens more stack handles mayBeBare h
      rcases List.map_eq_cons_iff.mp h with ⟨first, tokens, rfl, hfirst, h⟩
      rcases List.map_eq_append_iff.mp h with ⟨own, ends, rfl, hown, hends⟩
      rcases List.map_eq_singleton_iff.mp hends with ⟨last, rfl, hlast⟩
      refine ⟨_, _, _, node_sequence rfl hfirst, rfl, ?_⟩
      simpa [drop, push] using yields_items ih hown hlast
  | entries _ _ _ _ ih =>
      intro tokens more stack handles mayBeBare h
      rcases List.map_eq_cons_iff.mp h with ⟨first, tokens, rfl, hfirst, h⟩
      rcases List.map_eq_append_iff.mp h with ⟨own, ends, rfl, hown, hends⟩
      rcases List.map_eq_singleton_iff.mp hends with ⟨last, rfl, hlast⟩
      refine ⟨_, _, _, node_mapping rfl hfirst, rfl, ?_⟩
      simpa [drop, push] using yields_entries ih hown hlast

theorem length_itemEvents_le (h : ∀ t ∈ items, t.events.length ≤ t.kinds.length) :
    (itemEvents items).length ≤ (itemKinds items).length := by
  induction items with
  | nil => exact Nat.le_refl _
  | cons t rest ih =>
      have hhead := h t (List.mem_cons_self ..)
      have hrest := ih (fun t' ht => h t' (List.mem_cons_of_mem _ ht))
      simp only [itemEvents, itemKinds, List.length_append, List.length_cons]
      omega

theorem length_entryEvents_le (h : ∀ e ∈ es, e.2.events.length ≤ e.2.kinds.length) :
    (entryEvents es).length ≤ (entryKinds es).length := by
  induction es with
  | nil => exact Nat.le_refl _
  | cons e rest ih =>
      rcases e with ⟨key, t⟩
      have hhead := h (key, t) (List.mem_cons_self ..)
      have hrest := ih (fun e he => h e (List.mem_cons_of_mem _ he))
      simp only [entryEvents, entryKinds, List.length_append, List.length_cons] at hhead ⊢
      omega

/-- A tree has no more events than tokens. -/
theorem Fits.length_events_le (h : t.Fits) : t.events.length ≤ t.kinds.length := by
  induction h with
  | word _ => exact Nat.le_refl _
  | quoted _ => exact Nat.le_refl _
  | list _ _ _ ih =>
      have hitems := length_itemEvents_le ih
      simp only [events, kinds, List.length_cons, List.length_append]
      omega
  | entries _ _ _ _ ih =>
      have hentries := length_entryEvents_le ih
      simp only [events, kinds, List.length_cons, List.length_append]
      omega

/-- What the tokens of a whole text make of a mapping. -/
theorem yields_document (first : Token) (h : t.Fits) (hmapping : t.isMapping = true)
    (htokens : tokens.map (·.kind) = t.kinds)
    (hlast : last.kind = .streamEnd) :
    (⟨first :: (tokens ++ [last]), none, [.stream], []⟩ : Grammar).Yields
      (.streamStart :: .documentStart :: (t.events ++ [.documentEnd, .streamEnd]))
      ⟨[], none, [], commonHandles⟩ := by
  obtain ⟨token, rest, rfl, hkind⟩ : ∃ token rest, tokens = token :: rest ∧
      token.kind = .blockMappingStart := by
    cases t with
    | text _ _ => cases hmapping
    | list _ => cases hmapping
    | entries es =>
        rcases List.map_eq_cons_iff.mp htokens with ⟨token, rest, rfl, hkind, _⟩
        exact ⟨token, rest, rfl, hkind⟩
  have hstart : (⟨token :: rest ++ [last], none, [], []⟩ : Grammar).react .firstDocument
      = .ok (⟨.documentStart, token.start⟩,
          ⟨token :: rest ++ [last], none, [.blockNode, .documentEnd], commonHandles⟩) := by
    unfold react firstDocument
    simp only [peek_of_tokens (g := ⟨token :: rest ++ [last], none, [], []⟩) rfl, ok_bind, hkind]
    rfl
  have hend : (⟨[last], none, [], commonHandles⟩ : Grammar).react .documentEnd
      = .ok (⟨.documentEnd, last.start⟩, ⟨[last], none, [.document], commonHandles⟩) := by
    unfold react endDocument
    simp only [peek_of_tokens (g := ⟨[last], none, [], commonHandles⟩) rfl, ok_bind, hlast]
    rfl
  -- Behind the document there is nothing but the end of the stream.
  have hover : (⟨[last], none, [], commonHandles⟩ : Grammar).react .document
      = .ok (⟨.streamEnd, last.start⟩, ⟨[], none, [], commonHandles⟩) := by
    have hdrop : [last].dropWhile (fun token => token.kind == .documentEnd) = [last] := by
      simp [hlast]
    unfold react document
    simp only [hdrop, peek_of_tokens (g := ⟨[last], none, [], commonHandles⟩) rfl, ok_bind, hlast]
    rfl
  have htree : (⟨token :: rest ++ [last], none, [.blockNode, .documentEnd], commonHandles⟩ :
      Grammar).Yields t.events ⟨[last], none, [.documentEnd], commonHandles⟩ :=
    Reads.yields h.reads false htokens rfl rfl
  have hbehind : (⟨[last], none, [.documentEnd], commonHandles⟩ : Grammar).Yields
      [.documentEnd, .streamEnd] ⟨[], none, [], commonHandles⟩ :=
    .cons ⟨.documentEnd, last.start⟩ (step_of_react rfl hend)
      (.cons ⟨.streamEnd, last.start⟩ (step_of_react rfl hover) .nil)
  have hfront : (⟨first :: (token :: rest ++ [last]), none, [.stream], []⟩ : Grammar).Yields
      [.streamStart, .documentStart]
      ⟨token :: rest ++ [last], none, [.blockNode, .documentEnd], commonHandles⟩ :=
    .cons ⟨.streamStart, first.start⟩ (step_of_react rfl rfl)
      (.cons ⟨.documentStart, token.start⟩ (step_of_react rfl hstart) .nil)
  exact hfront.append (htree.append hbehind)

/-- The events of tokens that are those of a mapping. -/
theorem eventsOf_tree (h : t.Fits) (hmapping : t.isMapping = true)
    (htokens : tokens.map (·.kind) = .streamStart :: (t.kinds ++ [.streamEnd])) :
    ∃ events, eventsOf ⟨tokens, none⟩ = ⟨events, none⟩ ∧ events.map (·.kind)
      = .streamStart :: .documentStart :: (t.events ++ [.documentEnd, .streamEnd]) := by
  have hlength := congrArg List.length htokens
  rcases List.map_eq_cons_iff.mp htokens with ⟨first, tokens, rfl, _, htokens⟩
  rcases List.map_eq_append_iff.mp htokens with ⟨own, ends, rfl, hown, hends⟩
  rcases List.map_eq_singleton_iff.mp hends with ⟨last, rfl, hlast⟩
  have hyields := yields_document first h hmapping hown hlast
  have hfew := h.length_events_le
  generalize hkinds : EventKind.streamStart :: .documentStart ::
    (t.events ++ [.documentEnd, .streamEnd]) = kinds at hyields
  -- There are fewer events than the fuel, which is measured by the tokens.
  obtain ⟨fuel, hfuel⟩ : ∃ fuel, 6 * (first :: (own ++ [last])).length + 6 = fuel + 1 + kinds.length := by
    refine ⟨6 * (first :: (own ++ [last])).length + 5 - kinds.length, ?_⟩
    rw [← hkinds]
    simp only [List.length_map, List.length_cons, List.length_append] at hlength ⊢
    omega
  rcases eventsFrom_yields (fuel + 1) hyields with ⟨events, hevents, hfrom⟩
  refine ⟨events, ?_, hevents⟩
  unfold eventsOf
  rw [hfuel, hfrom]
  simp [eventsFrom, step]

end Tree

end Yaml

end Annals
