import Annals.Proofs.Yaml.Layout
import Annals.Proofs.Yaml.PlacedTokens

/-!
# Places of a Scanned Text

The tokens of a text are at places of the text, and so is the problem that ends them.

A scanner keeps three kinds of marks: that of its cursor, those of its tokens, and those of
tokens that may begin keys, which become marks of tokens when a key finds its colon. All of
them are places (`Scanner.Placed`), and each way to take a token keeps this.

## Main definitions

* `Scanner.Placed`: A scanner that keeps nothing but places of a text.
* `Tokens.Placed`: Tokens, and the problem that ends them, at marks of a kind.

## Theorems

* `Scanner.takeToken_points`: What taking one token keeps.
* `placed_scanFrom`: What a whole run keeps.
* `placed_scan`: The tokens of a text.
-/

namespace Annals

namespace Yaml

/-- A scanner of a text: its cursor was moved forward from the start, and its tokens and those
    that may begin keys are at places of the text. -/
structure Scanner.Placed (text : List Char) (s : Scanner) : Prop where
  cursor : s.cursor.Within text
  tokens : ∀ t ∈ s.tokens, t.Placed (IsPlace text)
  keys : ∀ k ∈ s.keys, IsPlace text k.2.mark

namespace Scanner

variable {text : List Char} {s : Scanner}

theorem placed_push {tokens : Array Token} {t : Token} {P : Mark → Prop}
    (h : ∀ t ∈ tokens, t.Placed P) (ht : t.Placed P) : ∀ t' ∈ tokens.push t, t'.Placed P := by
  intro t' ht'
  rcases Array.mem_push.mp ht' with hmem | rfl
  · exact h t' hmem
  · exact ht

theorem placed_insert {tokens : Array Token} {t : Token} {P : Mark → Prop} (index : Nat)
    (h : ∀ t ∈ tokens, t.Placed P) (ht : t.Placed P) :
    ∀ t' ∈ tokens.insertIdxIfInBounds index t, t'.Placed P := by
  intro t' ht'
  unfold Array.insertIdxIfInBounds at ht'
  split at ht'
  · rcases Array.mem_insertIdx.mp ht' with rfl | hmem
    · exact ht
    · exact h t' hmem
  · exact h t' ht'

theorem placed_start (text : List Char) : Placed text (Scanner.start text) where
  cursor := .start
  tokens := fun t ht => by
    cases Array.mem_singleton.mp ht
    exact ⟨Cursor.Within.start.isPlace, Cursor.Within.start.isPlace⟩
  keys := fun k hk => absurd hk List.not_mem_nil

/-- Some of the tokens that may begin keys are forgotten. -/
theorem Placed.keep (h : s.Placed text) (p : Int × KeyStart → Bool) :
    Placed text { s with keys := s.keys.filter p } :=
  ⟨h.cursor, h.tokens, fun k hk => h.keys k (List.mem_filter.mp hk).1⟩

theorem keyFault_points {α : Type} {Q : α → Prop} (h : s.Placed text) (key : KeyStart) :
    Points (IsPlace text) (.error (s.keyFault key)) Q :=
  Points.problem h.cursor.isPlace

theorem dropStale_points (h : s.Placed text) :
    Points (IsPlace text) s.dropStale (Placed text) := by
  unfold dropStale
  split
  · exact keyFault_points h _
  · exact Points.ok (h.keep _)

theorem dropKey_points (h : s.Placed text) : Points (IsPlace text) s.dropKey (Placed text) := by
  unfold dropKey
  split
  · exact Points.ite (keyFault_points h _) (Points.ok (h.keep _))
  · exact Points.ok h

namespace Placed

theorem allowKeys (h : s.Placed text) (allowed : Bool) : (s.allowKeys allowed).Placed text :=
  ⟨h.cursor, h.tokens, h.keys⟩

theorem relevel (h : s.Placed text) (level : Int) : Placed text { s with level := level } :=
  ⟨h.cursor, h.tokens, h.keys⟩

theorem reindent (h : s.Placed text) (indent : Int) (indents : List Int) :
    Placed text { s with indent := indent, indents := indents } :=
  ⟨h.cursor, h.tokens, h.keys⟩

theorem addMark (h : s.Placed text) (kind : TokenKind) : (s.addMark kind).Placed text :=
  ⟨h.cursor, placed_push h.tokens ⟨h.cursor.isPlace, h.cursor.isPlace⟩, h.keys⟩

theorem take (h : s.Placed text) (kind : TokenKind) (count : Nat) :
    (s.take kind count).Placed text :=
  have hstop := h.cursor.skip count
  ⟨hstop, placed_push h.tokens ⟨h.cursor.isPlace, hstop.isPlace⟩, h.keys⟩

theorem add (h : s.Placed text) {r : Read} (hr : IsRead text r) : (s.add r).Placed text :=
  ⟨hr.within, placed_push h.tokens hr.placed, h.keys⟩

theorem unwindTo (h : s.Placed text) (column : Int) (indents : List Int) :
    (unwindTo column indents s).Placed text := by
  induction indents generalizing s with
  | nil => exact h
  | cons outer rest ih =>
      unfold Scanner.unwindTo
      split
      · exact ih ((h.reindent outer rest).addMark .blockEnd)
      · exact h

theorem unwind (h : s.Placed text) (column : Int) : (s.unwind column).Placed text := by
  unfold Scanner.unwind
  split
  · exact h
  · exact h.unwindTo column _

theorem addIndent {s' : Scanner} {column : Int} (h : s.Placed text)
    (hs : s.addIndent column = some s') : s'.Placed text := by
  unfold Scanner.addIndent at hs
  split at hs
  · cases hs
    exact ⟨h.cursor, h.tokens, h.keys⟩
  · cases hs

theorem beginBlock (h : s.Placed text) (kind : TokenKind) : (s.beginBlock kind).Placed text := by
  unfold Scanner.beginBlock
  split
  · next hs => exact (h.addIndent hs).addMark kind
  · exact h

theorem ite {q : Prop} {_ : Decidable q} {s' : Scanner} (h : s.Placed text)
    (h' : s'.Placed text) : (if q then s else s').Placed text := by
  split
  · exact h
  · exact h'

theorem move (h : s.Placed text) {c : Cursor} (hc : c.Within text) :
    Placed text { s with cursor := c } :=
  ⟨hc, h.tokens, h.keys⟩

theorem skipToToken (h : s.Placed text) (fuel : Nat) : (skipToToken fuel s).Placed text := by
  induction fuel generalizing s with
  | zero => exact h
  | succ n ih =>
      have hblanks := h.cursor.skipWhile (· == ' ')
      unfold Scanner.skipToToken
      simp only []
      -- The place behind the blanks, and behind a comment if there is one.
      generalize hc : (if (s.cursor.skipWhile (· == ' ')).peek == '#' then
        (s.cursor.skipWhile (· == ' ')).skipWhile (!isLineEnd ·)
          else s.cursor.skipWhile (· == ' ')) = c
      have hwithin : c.Within text := by
        rw [← hc]
        exact (hblanks.skipWhile _).ite hblanks
      split
      · exact ih ((h.move hwithin.lineEnd).ite ((h.move hwithin.lineEnd).allowKeys true))
      · exact h.move hwithin

theorem skipByteOrderMark (h : s.Placed text) : s.skipByteOrderMark.Placed text :=
  (h.move h.cursor.next).ite h

theorem settleKey (h : s.Placed text) {key : KeyStart} (hkey : IsPlace text key.mark) :
    (s.settleKey key).Placed text := by
  have hsettled : Placed text { s with
      keys := s.keys.filter (·.1 != s.level)
      tokens := s.tokens.insertIdxIfInBounds key.number ⟨.key, key.mark, key.mark⟩ } :=
    ⟨h.cursor, placed_insert _ h.tokens ⟨hkey, hkey⟩, (h.keep _).keys⟩
  unfold Scanner.settleKey
  simp only []
  split
  · exact hsettled
  split
  · next hs =>
      have hindent := hsettled.addIndent hs
      exact ⟨hindent.cursor, placed_insert _ hindent.tokens ⟨hkey, hkey⟩, hindent.keys⟩
  · exact hsettled

end Placed

theorem saveKey_points (h : s.Placed text) : Points (IsPlace text) s.saveKey (Placed text) := by
  refine Points.ite ((dropKey_points h).bind fun s' hs' => Points.ok ?_) (Points.ok h)
  refine ⟨hs'.cursor, hs'.tokens, fun k hk => ?_⟩
  rcases List.mem_append.mp hk with hk | hk
  · exact hs'.keys k hk
  · cases List.mem_singleton.mp hk
    exact hs'.cursor.isPlace

theorem endStream_points (h : s.Placed text) : Points (IsPlace text) s.endStream (Placed text) := by
  refine (dropKey_points (h.unwind (-1))).bind fun s' hs => ?_
  have hended : Placed text { s' with keysAllowed := false, keys := [] } :=
    ⟨hs.cursor, hs.tokens, fun k hk => absurd hk List.not_mem_nil⟩
  exact Points.ok (hended.addMark .streamEnd)

theorem takeDirective_points (h : s.Placed text) :
    Points (IsPlace text) s.takeDirective (Placed text) :=
  (dropKey_points (h.unwind (-1))).bind fun _ hs => (directive_points hs.cursor).bind fun _ hr =>
    Points.ok ((hs.allowKeys false).add hr)

theorem takeSeparator_points (h : s.Placed text) (kind : TokenKind) :
    Points (IsPlace text) (s.takeSeparator kind) (Placed text) :=
  (dropKey_points (h.unwind (-1))).bind fun _ hs => Points.ok ((hs.allowKeys false).take kind 3)

theorem openBracket_points (h : s.Placed text) (kind : TokenKind) :
    Points (IsPlace text) (s.openBracket kind) (Placed text) :=
  (saveKey_points h).bind fun _ hs => Points.ok (((hs.relevel _).allowKeys true).take kind 1)

theorem closeBracket_points (h : s.Placed text) (kind : TokenKind) :
    Points (IsPlace text) (s.closeBracket kind) (Placed text) :=
  (dropKey_points h).bind fun _ hs => Points.ok (((hs.relevel _).allowKeys false).take kind 1)

/-- A mark of one character, before which no key may be left without its colon. -/
theorem takeMark_points (h : s.Placed text) (kind : TokenKind) :
    Points (IsPlace text) (s.dropKey >>= fun s => .ok (s.take kind 1)) (Placed text) :=
  (dropKey_points h).bind fun _ hs => Points.ok (hs.take kind 1)

theorem takeComma_points (h : s.Placed text) : Points (IsPlace text) s.takeComma (Placed text) :=
  takeMark_points (h.allowKeys true) .flowEntry

theorem takeEntry_points (h : s.Placed text) : Points (IsPlace text) s.takeEntry (Placed text) :=
  Points.ite (Points.problem h.cursor.isPlace)
    (takeMark_points ((h.ite (h.beginBlock _)).allowKeys true) .blockEntry)

theorem takeKey_points (h : s.Placed text) : Points (IsPlace text) s.takeKey (Placed text) :=
  Points.ite (Points.problem h.cursor.isPlace)
    (takeMark_points ((h.ite (h.beginBlock _)).allowKeys _) .key)

theorem takeValue_points (h : s.Placed text) : Points (IsPlace text) s.takeValue (Placed text) := by
  unfold takeValue
  cases hkey : s.keys.lookup s.level with
  | some key =>
      -- The tokens that are put in for the key stand where it was remembered.
      rcases List.lookup_eq_some_iff.mp hkey with ⟨before, after, hkeys, _⟩
      have hplace : IsPlace text key.mark := h.keys (s.level, key) (by rw [hkeys]; simp)
      exact Points.ok (((h.settleKey hplace).allowKeys false).take .value 1)
  | none =>
      exact Points.ite (Points.problem h.cursor.isPlace)
        (takeMark_points ((h.ite (h.beginBlock _)).allowKeys _) .value)

theorem takeNamed_points (h : s.Placed text) {read : Cursor → Except Fault Read}
    (hread : ∀ c : Cursor, c.Within text → Points (IsPlace text) (read c) (IsRead text)) :
    Points (IsPlace text) (s.takeNamed read) (Placed text) :=
  (saveKey_points h).bind fun _ hs => (hread _ hs.cursor).bind fun _ hr =>
    Points.ok ((hs.allowKeys false).add hr)

theorem takeBlockScalar_points (h : s.Placed text) :
    Points (IsPlace text) s.takeBlockScalar (Placed text) :=
  (dropKey_points (h.allowKeys true)).bind fun s' hs =>
    (blockScalar_points s'.indent hs.cursor).bind fun _ hr => Points.ok (hs.add hr)

theorem takePlain_points (h : s.Placed text) : Points (IsPlace text) s.takePlain (Placed text) :=
  (saveKey_points h).bind fun _ hs =>
    Points.ok ((hs.allowKeys _).add (plainScalar_read _ _ hs.cursor))

theorem takeToken_points (h : s.Placed text) : Points (IsPlace text) s.takeToken (Placed text) := by
  unfold takeToken
  simp only []
  refine Points.ite (endStream_points h) (Points.ite (takeDirective_points h) ?_)
  refine Points.ite (takeSeparator_points h _) (Points.ite (takeSeparator_points h _) ?_)
  refine Points.ite (openBracket_points h _) (Points.ite (openBracket_points h _) ?_)
  refine Points.ite (closeBracket_points h _) (Points.ite (closeBracket_points h _) ?_)
  refine Points.ite (takeComma_points h) (Points.ite (takeEntry_points h) ?_)
  refine Points.ite (takeKey_points h) (Points.ite (takeValue_points h) ?_)
  refine Points.ite (takeNamed_points h fun _ => anchor_points) ?_
  refine Points.ite (takeNamed_points h fun _ => tag_points) ?_
  refine Points.ite (takeBlockScalar_points h) ?_
  refine Points.ite (takeNamed_points h fun _ => quotedScalar_points) ?_
  exact Points.ite (takePlain_points h) (Points.problem h.cursor.isPlace)

theorem fetch_points (h : s.Placed text) : Points (IsPlace text) s.fetch (Placed text) :=
  (dropStale_points (h.skipByteOrderMark.skipToToken _)).bind fun _ hs =>
    takeToken_points (hs.unwind _)

end Scanner

/-- Tokens at marks that satisfy `P`, which end with a problem at such a mark, if at one. -/
structure Tokens.Placed (P : Mark → Prop) (ts : Tokens) : Prop where
  tokens : ∀ t ∈ ts.tokens, t.Placed P
  fault : ∀ p, ts.fault = some (.problem p) → P p.mark

/-- What taking a token keeps holds for a run, by induction on the fuel. The problem that ends it
    is one of dropping keys or of taking a token. -/
theorem placed_scanFrom {text : List Char} {s : Scanner} (fuel ready : Nat) (h : s.Placed text) :
    (scanFrom fuel ready s).Placed (IsPlace text) := by
  have htokens {s : Scanner} (h : s.Placed text) :
      ∀ t ∈ s.tokens.toList, t.Placed (IsPlace text) :=
    fun t ht => h.tokens t (Array.mem_toList_iff.mp ht)
  induction fuel generalizing ready s with
  | zero => exact ⟨htokens h, fun p hp => (by cases hp)⟩
  | succ n ih =>
      rw [Scanner.scanFrom_succ]
      split
      · exact ⟨htokens h, fun p hp => (by cases hp)⟩
      split
      · -- Tokens may be held back, but none is made up.
        next fault hfault =>
          refine ⟨fun t ht => htokens h t (List.mem_of_mem_take ht), fun p hp => ?_⟩
          cases hp
          exact (Scanner.dropStale_points h).fails p hfault
      · next s' hs' =>
          have hplaced := (Scanner.dropStale_points h).gives s' hs'
          split
          · next fault hfault =>
              refine ⟨fun t ht => htokens hplaced t (List.mem_of_mem_take ht), fun p hp => ?_⟩
              cases hp
              exact (Scanner.fetch_points hplaced).fails p hfault
          · next next hnext => exact ih _ ((Scanner.fetch_points hplaced).gives next hnext)

/-- The tokens of a text are at places of the text, and so is the problem that ends them. -/
theorem placed_scan (text : List Char) : (scan text).Placed (IsPlace text) :=
  placed_scanFrom _ _ (Scanner.placed_start text)

end Yaml

end Annals
