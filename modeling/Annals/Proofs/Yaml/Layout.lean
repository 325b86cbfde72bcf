import Annals.Proofs.Yaml.Construction
import Annals.Proofs.Yaml.Quotation

/-!
# Scanning by Indentation

How a scanner goes through a text in block style, token by token.

What a scanner does next depends on the characters that are left, on the column, on
the columns of the collections it is in, and on whether a key may begin; this is its
`View`. A token is taken in two steps. First the scanner `Comes` to a place, over the
end of a line and blanks, and then the collections end that are indented further than
this place. So a collection that is to end there may as well have ended before, and
the view is the same as if it had.

## Main definitions

* `View`: What a scanner has before it, without the places.
* `View.unwound`: The view when collections have ended.
* `Scanner.Stands`: A scanner has a view, and no key is pending.
* `Scanner.Leads`: Scanning from one scanner goes on as from another one.
* `Scanner.Comes`: The next token of a scanner is taken at a place with a view.

## Theorems

* `comes_blanks`, `comes_break`: The place of the next token.
* `key_leads`, `entry_leads`, `plain_leads`, `quoted_leads`: One token after another.
* `scan_of_leads`: The tokens of a text that is scanned up to its end.
-/

namespace Annals

namespace Yaml

/-- What a scanner has before it and behind it, without the places: the characters that
    are left and the column, the columns of the collections it is in, whether a key may
    begin, and what its tokens are. -/
structure View where
  rest : List Char
  column : Nat
  stack : List Int
  allowed : Bool
  kinds : List TokenKind

/-- The tokens for the ends of the collections that are indented further than a column. -/
def closings (column : Int) (stack : List Int) : List TokenKind :=
  (stack.takeWhile (column < ·)).map fun _ => .blockEnd

/-- The collections that are left when those indented further than a column have ended. -/
def remaining (column : Int) (stack : List Int) : List Int := stack.dropWhile (column < ·)

variable {column : Int} {top : Int} {stack : List Int}

theorem closings_cons (h : column < top) :
    closings column (top :: stack) = .blockEnd :: closings column stack := by
  unfold closings
  rw [List.takeWhile_cons_of_pos (by simpa using h), List.map_cons]

theorem closings_of_le (h : top ≤ column) : closings column (top :: stack) = [] := by
  unfold closings
  rw [List.takeWhile_cons_of_neg (by simpa using h), List.map_nil]

theorem remaining_cons (h : column < top) :
    remaining column (top :: stack) = remaining column stack := by
  unfold remaining
  rw [List.dropWhile_cons_of_pos (by simpa using h)]

theorem remaining_of_le (h : top ≤ column) : remaining column (top :: stack) = top :: stack := by
  unfold remaining
  rw [List.dropWhile_cons_of_neg (by simpa using h)]

namespace View

/-- The view when the collections have ended that are indented further than its column. -/
def unwound (v : View) : View :=
  { v with
    stack := remaining v.column v.stack
    kinds := v.kinds ++ closings v.column v.stack }

/-- The view when a collection has begun at its column, if it is indented further than the
    one around it. -/
def opened (kind : TokenKind) (v : View) : View :=
  match v.stack with
  | top :: stack =>
    if top < v.column then
      { v with stack := v.column :: top :: stack, kinds := v.kinds ++ [kind] }
    else v
  | [] => v

@[simp] theorem opened_rest (kind : TokenKind) (v : View) : (v.opened kind).rest = v.rest := by
  unfold opened
  split
  · split
    · rfl
    · rfl
  · rfl

@[simp] theorem unwound_allowed (v : View) : v.unwound.allowed = v.allowed := rfl

/-- The view from further along the line, after some tokens. -/
def after (v : View) (rest : List Char) (count : Nat) (allowed : Bool) (kinds : List TokenKind) :
    View :=
  ⟨rest, v.column + count, v.stack, allowed, v.kinds ++ kinds⟩

end View

namespace Scanner

variable {s s' : Scanner} {v w : View} {x : Char} {cs xs : List Char}

/-- A scanner outside of brackets, with no key pending and before the end, has a view. -/
structure Stands (s : Scanner) (v : View) : Prop where
  rest : s.cursor.rest = v.rest
  column : s.cursor.mark.column = v.column
  level : s.level = 0
  stack : s.indent :: s.indents = v.stack
  bottom : -1 ∈ v.stack
  allowed : s.keysAllowed = v.allowed
  keys : s.keys = []
  kinds : s.tokens.toList.map (·.kind) = v.kinds
  isOpen : .streamEnd ∉ v.kinds

/-- Scanning from a scanner goes on as from another one, and each token takes at least one
    character. -/
def Leads (s s' : Scanner) : Prop :=
  ∃ count, count + s'.cursor.rest.length ≤ s.cursor.rest.length ∧
    ∀ fuel ready, ∃ ready', scanFrom (fuel + count) ready s = scanFrom fuel ready' s'

/-- The next token of a scanner is taken at a place that has a view. -/
def Comes (s : Scanner) (v : View) : Prop :=
  s.isDone = false ∧ v.rest.length ≤ s.cursor.rest.length ∧
    ∃ s' : Scanner, (s.dropStale >>= fetch) = s'.takeToken ∧ s'.Stands v.unwound

theorem Leads.trans {s'' : Scanner} (h : s.Leads s') (h' : s'.Leads s'') : s.Leads s'' := by
  rcases h with ⟨m, hm, h⟩
  rcases h' with ⟨n, hn, h'⟩
  refine ⟨n + m, by omega, fun fuel ready => ?_⟩
  rcases h (fuel + n) ready with ⟨ready', hfirst⟩
  rcases h' fuel ready' with ⟨ready'', hsecond⟩
  exact ⟨ready'', by rw [← hsecond, ← hfirst, Nat.add_assoc]⟩

-- The equations that Lean derives for `scanFrom` and `fetch` take the reading of a token
-- apart; these leave it whole.
theorem scanFrom_succ (fuel ready : Nat) (s : Scanner) : scanFrom (fuel + 1) ready s =
    if s.isDone then ⟨s.tokens.toList, none⟩
    else
      match s.dropStale with
      | .error fault => ⟨s.tokens.toList.take ready, some fault⟩
      | .ok s =>
        match s.fetch with
        | .error fault => ⟨s.tokens.toList.take s.settled, some fault⟩
        | .ok next => scanFrom fuel s.settled next := by
  delta scanFrom
  rfl

theorem fetch_eq (h : s.skipByteOrderMark = s) (hs : skipToToken (s.cursor.left + 1) s = s')
    (hkeys : s'.dropStale = .ok s') : s.fetch = (s'.unwind s'.cursor.column).takeToken := by
  have hfetch : s.fetch = (skipToToken (s.skipByteOrderMark.cursor.left + 1)
      s.skipByteOrderMark).dropStale >>= fun s => (s.unwind s.cursor.column).takeToken := rfl
  rw [hfetch, h, hs, hkeys, ok_bind]

/-- One token further. -/
theorem leads_one (hdone : s.isDone = false) (h : (s.dropStale >>= fetch) = .ok s')
    (hless : s'.cursor.rest.length < s.cursor.rest.length) : s.Leads s' := by
  rcases bind_eq_ok.mp h with ⟨s1, hstale, hfetch⟩
  refine ⟨1, by omega, fun fuel ready => ⟨s1.settled, ?_⟩⟩
  rw [scanFrom_succ, hdone, hstale]
  simp only [Bool.false_eq_true, if_false, hfetch]

/-- One token further, from where it is taken. -/
theorem leads_of_take {s1 : Scanner} (hdone : s.isDone = false)
    (hless : v.rest.length ≤ s.cursor.rest.length)
    (hstep : (s.dropStale >>= fetch) = s1.takeToken) (htake : s1.takeToken = .ok s')
    (hs : s'.Stands w) (hshort : w.rest.length < v.rest.length) : s.Leads s' :=
  leads_one hdone (hstep.trans htake) (by rw [hs.rest]; omega)

theorem Stands.inFlow (hs : s.Stands v) : s.inFlow = false := by
  unfold Scanner.inFlow
  rw [hs.level]
  rfl

theorem isDone_of_kinds (h : .streamEnd ∉ s.tokens.toList.map (·.kind)) : s.isDone = false := by
  unfold Scanner.isDone
  cases hb : s.tokens.back? with
  | none => rfl
  | some token =>
      have hmem : token ∈ s.tokens.toList := by
        rw [← Array.getLast?_toList] at hb
        exact List.mem_of_getLast? hb
      rw [beq_eq_false_iff_ne]
      exact fun heq => h (List.mem_map.mpr ⟨token, hmem, heq⟩)

theorem Stands.isDone (hs : s.Stands v) : s.isDone = false :=
  isDone_of_kinds (by rw [hs.kinds]; exact hs.isOpen)

/-- Tokens that may still be keys are not forgotten. -/
theorem dropStale_of_fresh (h : ∀ entry ∈ s.keys, s.isStale entry.2 = false) :
    s.dropStale = .ok s := by
  unfold dropStale
  rw [List.find?_eq_none.mpr ?none, List.filter_eq_self.mpr ?all]
  case none =>
    intro entry hentry
    simp [h entry hentry]
  case all =>
    intro entry hentry
    simp [h entry hentry]

theorem dropStale_of_keys (h : s.keys = []) : s.dropStale = .ok s :=
  dropStale_of_fresh (by rw [h]; simp)

theorem dropKey_of_keys (h : s.keys = []) : s.dropKey = .ok s := by
  unfold dropKey
  rw [h]
  rfl

theorem skipByteOrderMark_of_inline (h : ∀ x ∈ s.cursor.rest.head?, (x.toNat == 0xFEFF) = false) :
    s.skipByteOrderMark = s := by
  have hpeek : (s.cursor.peek.toNat == 0xFEFF) = false := by
    cases hr : s.cursor.rest with
    | nil =>
        rw [Cursor.peek_of_end hr]
        decide
    | cons x xs =>
        rw [Cursor.peek_of_rest hr]
        exact h x (by rw [hr]; rfl)
  unfold skipByteOrderMark
  rw [hpeek, Bool.and_false]
  rfl

/-- Collections end one after another. The induction is on those around the innermost. -/
theorem unwindTo_stands {column : Int} (hcolumn : -1 ≤ column) (hs : s.Stands v) :
    (unwindTo column s.indents s).Stands { v with
      stack := remaining column v.stack
      kinds := v.kinds ++ closings column v.stack } := by
  generalize hi : s.indents = indents
  induction indents generalizing s v with
  | nil =>
      have hstack : v.stack = [s.indent] := by rw [← hs.stack, hi]
      have hbottom := hs.bottom
      rw [hstack, List.mem_singleton] at hbottom
      have hle : s.indent ≤ column := by omega
      rw [unwindTo, hstack, closings_of_le hle, remaining_of_le hle, List.append_nil, ← hstack]
      exact hs
  | cons outer indents ih =>
      have hstack : v.stack = s.indent :: outer :: indents := by rw [← hs.stack, hi]
      rw [unwindTo]
      by_cases hless : column < s.indent
      · rw [if_pos hless, hstack, closings_cons hless, remaining_cons hless]
        -- The innermost collection ends, and the one around it is next.
        have hbottom := hs.bottom
        rw [hstack, List.mem_cons] at hbottom
        have hnext : (({ s with indent := outer, indents := indents } : Scanner).addMark
            .blockEnd).Stands
            { v with stack := outer :: indents, kinds := v.kinds ++ [.blockEnd] } :=
          { rest := hs.rest
            column := hs.column
            level := hs.level
            stack := rfl
            bottom := hbottom.resolve_left (by omega)
            allowed := hs.allowed
            keys := hs.keys
            kinds := by simp [addMark, hs.kinds]
            isOpen := by simp [hs.isOpen] }
        have hrest := ih hnext rfl
        simp only [List.append_assoc, List.singleton_append] at hrest
        exact hrest
      · have hle : s.indent ≤ column := by omega
        rw [if_neg hless, hstack, closings_of_le hle, remaining_of_le hle, List.append_nil, ← hstack]
        exact hs

theorem unwind_stands {column : Int} (hcolumn : -1 ≤ column) (hs : s.Stands v) :
    (s.unwind column).Stands { v with
      stack := remaining column v.stack
      kinds := v.kinds ++ closings column v.stack } := by
  unfold unwind
  rw [hs.inFlow]
  exact unwindTo_stands hcolumn hs

/-- Blanks are passed over. -/
theorem skipToToken_blanks {n fuel : Nat} (hxs : StartsLine xs)
    (h : s.cursor.rest = List.replicate n ' ' ++ xs) :
    skipToToken (fuel + 1) s = { s with cursor := s.cursor.along n } := by
  have hrest : (s.cursor.along n).rest = xs := by
    have hn := Cursor.rest_along h
    rwa [List.length_replicate] at hn
  have hskip : s.cursor.skipWhile (· == ' ') = s.cursor.along n := by
    have hn := Cursor.skipWhile_inline (p := (· == ' ')) h
      (fun x hx => by rw [List.eq_of_mem_replicate hx]; decide)
      (fun x hx => beq_eq_false_iff_ne.mpr (hxs x hx).1)
    rwa [List.length_replicate] at hn
  -- What stands behind the blanks is neither a comment nor the end of the line.
  have hpeek : ((s.cursor.along n).peek == '#') = false ∧ isBreak (s.cursor.along n).peek = false := by
    cases xs with
    | nil =>
        rw [Cursor.peek_of_end hrest]
        decide
    | cons x xs =>
        rw [Cursor.peek_of_rest hrest]
        exact ⟨beq_eq_false_iff_ne.mpr (hxs x rfl).2.1, not_break_of_inline (hxs x rfl).2.2⟩
  rw [skipToToken, hskip]
  simp only [hpeek, Bool.false_eq_true, if_false]

/-- The place of the next token, when blanks and comments are passed over. -/
theorem comes_of_skip (hs : s.Stands v) (hmark : ∀ x ∈ s.cursor.rest.head?, (x.toNat == 0xFEFF) = false)
    (hw : (skipToToken (s.cursor.left + 1) s).Stands w) (hless : w.rest.length ≤ v.rest.length) :
    s.Comes w := by
  refine ⟨hs.isDone, by rw [hs.rest]; exact hless,
    (skipToToken (s.cursor.left + 1) s).unwind w.column, ?_, ?_⟩
  · have hcolumn : ((skipToToken (s.cursor.left + 1) s).cursor.column : Int) = w.column := by
      unfold Cursor.column
      rw [hw.column]
    have hstale : (s.dropStale >>= fetch) = s.fetch := by
      rw [dropStale_of_keys hs.keys, ok_bind]
    rw [hstale, ← hcolumn]
    exact fetch_eq (skipByteOrderMark_of_inline hmark) rfl (dropStale_of_keys hw.keys)
  · exact unwind_stands (by omega) hw

/-- The next token, behind blanks on the same line. -/
theorem comes_blanks {n : Nat} (hs : s.Stands v) (hxs : StartsLine xs)
    (h : v.rest = List.replicate n ' ' ++ xs) :
    s.Comes ⟨xs, v.column + n, v.stack, v.allowed, v.kinds⟩ := by
  have hrest : s.cursor.rest = List.replicate n ' ' ++ xs := hs.rest.trans h
  refine comes_of_skip hs (fun x hx => ?_) ?_ (by rw [h]; simp)
  · rw [hrest] at hx
    -- Whether there are blanks or not, no mark of a document stands there.
    cases n with
    | zero => exact not_mark_of_inline (hxs x hx).2.2
    | succ n =>
        cases hx
        decide
  · rw [skipToToken_blanks hxs hrest]
    have hn := Cursor.rest_along hrest
    rw [List.length_replicate] at hn
    exact
      { rest := hn
        column := by simp [Cursor.along, hs.column]
        level := hs.level
        stack := hs.stack
        bottom := hs.bottom
        allowed := hs.allowed
        keys := hs.keys
        kinds := hs.kinds
        isOpen := hs.isOpen }

/-- The next token, on the next line. -/
theorem comes_break {n : Nat} (hs : s.Stands v) (hxs : StartsLine xs)
    (h : v.rest = '\n' :: (List.replicate n ' ' ++ xs)) :
    s.Comes ⟨xs, n, v.stack, true, v.kinds⟩ := by
  have hrest : s.cursor.rest = '\n' :: (List.replicate n ' ' ++ xs) := hs.rest.trans h
  refine comes_of_skip hs (fun x hx => ?_) ?_ (by rw [h]; simp; omega)
  · rw [hrest] at hx
    cases hx
    decide
  · -- Behind the break the blanks of the next line are skipped, as on any line.
    have hbelow : s.cursor.below.rest = List.replicate n ' ' ++ xs := Cursor.rest_below hrest
    have hskip : s.cursor.skipWhile (· == ' ') = s.cursor := by
      have hnone : s.cursor.rest = [] ++ '\n' :: (List.replicate n ' ' ++ xs) := hrest
      exact Cursor.skipWhile_inline hnone (by simp) (fun x hx => by cases hx; rfl)
    have hbreak : isBreak '\n' = true := by decide
    have hcomment : ('\n' == '#') = false := by decide
    obtain ⟨fuel, hfuel⟩ : ∃ fuel, s.cursor.left = fuel + 1 := by
      rw [Cursor.left_eq, hrest]
      exact ⟨_, List.length_cons⟩
    rw [skipToToken, hskip]
    simp only [Cursor.peek_of_rest hrest, hcomment, Bool.false_eq_true, if_false, hbreak, if_true,
      Cursor.lineEnd_of_rest hrest]
    have hflow : ({ s with cursor := s.cursor.below } : Scanner).inFlow = false := hs.inFlow
    rw [hflow, hfuel]
    simp only [Bool.false_eq_true, if_false]
    have hstart : (({ s with cursor := s.cursor.below } : Scanner).allowKeys true).cursor.rest
        = List.replicate n ' ' ++ xs := hbelow
    rw [skipToToken_blanks hxs hstart]
    have hn := Cursor.rest_along hbelow
    rw [List.length_replicate] at hn
    exact
      { rest := hn
        column := by simp [Cursor.along, Cursor.below, allowKeys]
        level := hs.level
        stack := hs.stack
        bottom := hs.bottom
        allowed := rfl
        keys := hs.keys
        kinds := hs.kinds
        isOpen := hs.isOpen }

/-- What begins with no mark is taken as a plain scalar. -/
theorem takeToken_unmarked (h : s.cursor.rest = x :: xs) (hgap : isGap x = false)
    (hmark : isIndicator x = false) (hdot : x = '.' → s.cursor.mark.column ≠ 0) :
    s.takeToken = s.takePlain := by
  have hpeek := Cursor.peek_of_rest h
  have hne (y : Char) (hy : isIndicator y = true) : (x == y) = false := by
    rw [beq_eq_false_iff_ne]
    rintro rfl
    rw [hy] at hmark
    cases hmark
  have hcode (n : Nat) (hn : n = 123 ∨ n = 125) : (x.toNat == n) = false := by
    rw [beq_eq_false_iff_ne]
    rintro heq
    unfold isIndicator at hmark
    simp only [Bool.or_eq_false_iff, heq, beq_eq_false_iff_ne] at hmark
    rcases hn with rfl | rfl
    · exact hmark.1.2 rfl
    · exact hmark.2 rfl
  have hend : (x == endChar) = false := by
    rw [beq_eq_false_iff_ne]
    rintro rfl
    revert hgap
    decide
  have hseparator : (x == '.' && s.cursor.mark.column == 0) = false := by
    rw [Bool.and_eq_false_iff, beq_eq_false_iff_ne, beq_eq_false_iff_ne]
    by_cases hx : x = '.'
    · exact Or.inr (hdot hx)
    · exact Or.inl hx
  -- One after the other, nothing that is asked for is what the text begins with.
  unfold takeToken
  simp only [hpeek, hend, hne _ (by decide : isIndicator '%' = true),
    hne _ (by decide : isIndicator '-' = true), hseparator,
    hne _ (by decide : isIndicator '[' = true), hcode 123 (Or.inl rfl),
    hne _ (by decide : isIndicator ']' = true), hcode 125 (Or.inr rfl),
    hne _ (by decide : isIndicator ',' = true), hne _ (by decide : isIndicator '?' = true),
    hne _ (by decide : isIndicator ':' = true), hne _ (by decide : isIndicator '*' = true),
    hne _ (by decide : isIndicator '&' = true), hne _ (by decide : isIndicator '!' = true),
    hne _ (by decide : isIndicator '|' = true), hne _ (by decide : isIndicator '>' = true),
    hne _ (by decide : isIndicator '\'' = true), hne _ (by decide : isIndicator '"' = true),
    Bool.false_and, Bool.or_false, Bool.false_eq_true, if_false]
  have hstarts : s.startsPlain = true := by
    unfold startsPlain
    simp only [hpeek, hgap, hmark]
    rfl
  rw [hstarts, if_pos rfl]

/-- What begins with a hyphen and goes on is taken as a plain scalar, but at the start of
    a line, where it could separate documents. -/
theorem takeToken_hyphen (h : s.cursor.rest = '-' :: x :: xs) (hgap : isGap x = false)
    (hcolumn : s.cursor.mark.column ≠ 0) : s.takeToken = s.takePlain := by
  have hpeek := Cursor.peek_of_rest h
  have hahead : s.cursor.peek 1 = x := by
    rw [Cursor.peek_eq, h]
    rfl
  have hstart : (s.cursor.mark.column == 0) = false := beq_eq_false_iff_ne.mpr hcolumn
  unfold takeToken startsPlain
  simp only [hpeek, hahead, hgap, hstart]
  rfl

/-- A word is taken as a plain scalar. -/
theorem takeToken_word (hw : IsWord cs) (h : s.cursor.rest = cs ++ xs)
    (hcolumn : cs.head? = some '.' ∨ cs.head? = some '-' → s.cursor.mark.column ≠ 0) :
    s.takeToken = s.takePlain := by
  obtain ⟨y, ys, rfl⟩ := List.exists_cons_of_ne_nil hw.nonempty
  rcases hw.begins y rfl with hmark | rfl
  · exact takeToken_unmarked h (hw.inked y (List.mem_cons_self ..)).1 hmark
      (fun hy => hcolumn (Or.inl (congrArg some hy)))
  · have hmore : ys ≠ [] := fun hnil => hw.notHyphen (by rw [hnil])
    obtain ⟨z, zs, rfl⟩ := List.exists_cons_of_ne_nil hmore
    exact takeToken_hyphen h (hw.inked z (by simp)).1 (hcolumn (Or.inr rfl))

theorem beginBlock_stands {kind : TokenKind} (hkind : kind ≠ .streamEnd) (hs : s.Stands v) :
    (s.beginBlock kind).Stands (v.opened kind) := by
  have hcolumn : s.cursor.column = v.column := congrArg Int.ofNat hs.column
  unfold beginBlock addIndent View.opened
  rw [← hs.stack, hcolumn]
  simp only
  -- A block begins only if the line is indented more than those around it.
  by_cases hless : s.indent < v.column
  · rw [if_pos hless, if_pos hless]
    exact
      { rest := hs.rest
        column := hs.column
        level := hs.level
        stack := rfl
        bottom := List.mem_cons_of_mem _ (by rw [hs.stack]; exact hs.bottom)
        allowed := hs.allowed
        keys := hs.keys
        kinds := by simp [addMark, hs.kinds]
        isOpen := by simp [hs.isOpen, hkind.symm] }
  · rw [if_neg hless, if_neg hless]
    exact hs

/-- A token is added, and the scanner goes to the place after it. -/
theorem add_stands (token : Token) (stop : Cursor) (allowed : Bool) (hs : s.Stands v)
    (hkind : token.kind ≠ .streamEnd) :
    ((s.allowKeys allowed).add (token, stop)).Stands
      ⟨stop.rest, stop.mark.column, v.stack, allowed, v.kinds ++ [token.kind]⟩ :=
  { rest := rfl
    column := rfl
    level := hs.level
    stack := hs.stack
    bottom := hs.bottom
    allowed := rfl
    keys := hs.keys
    kinds := by simp [add, allowKeys, hs.kinds]
    isOpen := by simp [hs.isOpen, hkind.symm] }

/-- A mark of one character is taken. -/
theorem take_stands {kind : TokenKind} (allowed : Bool) (hs : s.Stands v) (hrest : v.rest = x :: xs)
    (hx : isInline x = true) (hkind : kind ≠ .streamEnd) :
    ((s.allowKeys allowed).take kind 1).Stands (v.after xs 1 allowed [kind]) := by
  have hr : s.cursor.rest = [x] ++ xs := hs.rest.trans hrest
  have hskip : s.cursor.skip 1 = s.cursor.along 1 :=
    Cursor.skip_inline hr (fun y hy => by rw [List.mem_singleton.mp hy]; exact hx)
  have hbehind : (s.cursor.skip 1).rest = xs := by
    rw [hskip]
    exact Cursor.rest_along hr
  have hcolumn : (s.cursor.skip 1).mark.column = v.column + 1 := by
    rw [hskip]
    exact congrArg (· + 1) hs.column
  -- The token is put behind those that are there, and the cursor moves by one.
  have hadded : ((s.allowKeys allowed).take kind 1).Stands
      ⟨(s.cursor.skip 1).rest, (s.cursor.skip 1).mark.column, v.stack, allowed, v.kinds ++ [kind]⟩ :=
    add_stands ⟨kind, s.cursor.mark, (s.cursor.skip 1).mark⟩ (s.cursor.skip 1) allowed hs hkind
  rw [hbehind, hcolumn] at hadded
  exact hadded

/-- The mark of an entry, behind which a key may begin. -/
theorem entry_leads (h : s.Comes v) (hrest : v.rest = '-' :: x :: xs) (hx : isGap x = true)
    (hcolumn : v.column ≠ 0) (hallowed : v.allowed = true) :
    ∃ s', s.Leads s' ∧ s'.Stands ((v.unwound.opened .blockSequenceStart).after (x :: xs) 1 true
      [.blockEntry]) := by
  rcases h with ⟨hdone, hless, s1, hstep, hs1⟩
  have hr : s1.cursor.rest = '-' :: x :: xs := hs1.rest.trans hrest
  have hpeek : s1.cursor.peek 1 = x := by rw [Cursor.peek_eq, hr]; rfl
  have hzero : (s1.cursor.mark.column == 0) = false := by
    rw [hs1.column, beq_eq_false_iff_ne]
    exact hcolumn
  -- A hyphen before a gap is the mark of an entry; in the first column it could be that of a
  -- document.
  have htake : s1.takeToken = s1.takeEntry := by
    unfold takeToken
    simp only [Cursor.peek_of_rest hr, hzero, hpeek, hx]
    rfl
  have hopened := beginBlock_stands (by decide : TokenKind.blockSequenceStart ≠ .streamEnd) hs1
  have hkeys : ((s1.beginBlock .blockSequenceStart).allowKeys true).keys = [] := hopened.keys
  have hentry : s1.takeEntry
      = .ok (((s1.beginBlock .blockSequenceStart).allowKeys true).take .blockEntry 1) := by
    unfold takeEntry
    simp only [hs1.inFlow, hs1.allowed, View.unwound_allowed, hallowed, Bool.not_true,
      Bool.and_false, Bool.false_eq_true, if_false, dropKey_of_keys hkeys]
    rfl
  have hstands := take_stands true hopened ((View.opened_rest ..).trans hrest)
    (by decide : isInline '-' = true) (by decide : TokenKind.blockEntry ≠ .streamEnd)
  refine ⟨_, leads_of_take hdone hless hstep (htake.trans hentry) hstands ?_, hstands⟩
  rw [hrest]
  exact Nat.lt_succ_self _

/-- The scanner behind a word that was taken as a scalar and may be a key. -/
def withWord (s : Scanner) (text : String) (count : Nat) (key : KeyStart) : Scanner :=
  { s with
    cursor := s.cursor.along count
    keysAllowed := false
    keys := [(0, key)]
    tokens := s.tokens.push ⟨.scalar text true, s.cursor.mark, (s.cursor.along count).mark⟩ }

theorem takePlain_key (hs : s.Stands v) (hallowed : v.allowed = true) (hw : IsWord cs)
    (hx : isGap x = true) (hrest : v.rest = cs ++ ':' :: x :: xs) :
    s.takePlain = .ok (s.withWord (String.ofList cs) cs.length
      ⟨s.tokens.size, s.indent == s.cursor.column, s.cursor.mark⟩) := by
  have hr : s.cursor.rest = cs ++ ':' :: x :: xs := hs.rest.trans hrest
  -- A key may begin here, and the place of its first token is kept.
  have hsave : s.saveKey = .ok { s with
      keys := [(0, ⟨s.tokens.size, s.indent == s.cursor.column, s.cursor.mark⟩)] } := by
    unfold saveKey
    simp only [hs.allowed, hallowed, if_true, dropKey_of_keys hs.keys, ok_bind, hs.keys, hs.level,
      hs.inFlow, List.nil_append, Bool.not_false, Bool.true_and]
    rfl
  have hflow (keys : List (Int × KeyStart)) : ({ s with keys := keys } : Scanner).inFlow = false :=
    hs.inFlow
  unfold takePlain
  rw [hsave, ok_bind]
  simp only [hflow, plainScalar_key hw hx hr]
  rfl

/-- A token is inserted behind as many tokens as there were. -/
theorem insert_size {before after : Array Token} {more : List Token} (token : Token)
    (h : after.toList = before.toList ++ more) :
    (after.insertIdxIfInBounds before.size token).toList = before.toList ++ token :: more := by
  have hinsert (l : List Token) : (l ++ more).insertIdx l.length token = l ++ token :: more := by
    induction l with
    | nil => exact List.insertIdx_zero
    | cons y l ih => simp [ih]
  have hsize : before.size ≤ after.size := by
    have hlength := congrArg List.length h
    simp only [Array.length_toList, List.length_append] at hlength
    omega
  unfold Array.insertIdxIfInBounds
  rw [dif_pos hsize, Array.toList_insertIdx, h, ← Array.length_toList, hinsert]

/-- A word becomes a key, and a mapping begins with it if need be. -/
theorem settleKey_stands (required : Bool) (hs : s.Stands v) (hrest : v.rest = cs ++ xs) :
    let key : KeyStart := ⟨s.tokens.size, required, s.cursor.mark⟩
    ((s.withWord (String.ofList cs) cs.length key).settleKey key).Stands
      ((v.opened .blockMappingStart).after xs cs.length false
        [.key, .scalar (String.ofList cs) true]) := by
  intro key
  have hr : s.cursor.rest = cs ++ xs := hs.rest.trans hrest
  have hcolumn : (s.cursor.mark.column : Int) = v.column := congrArg Int.ofNat hs.column
  -- The word and the key before it, and then the beginning of a mapping before both.
  have hpush (token : Token) : (s.tokens.push token).toList = s.tokens.toList ++ [token] :=
    Array.toList_push
  have hkinds := insert_size ⟨.key, s.cursor.mark, s.cursor.mark⟩ (hpush
    ⟨.scalar (String.ofList cs) true, s.cursor.mark, (s.cursor.along cs.length).mark⟩)
  have hopened := insert_size ⟨.blockMappingStart, s.cursor.mark, s.cursor.mark⟩ hkinds
  have hflow : s.inFlow = false := hs.inFlow
  unfold inFlow at hflow
  unfold settleKey withWord addIndent View.opened inFlow
  rw [← hs.stack]
  simp only [hflow, Bool.false_eq_true, if_false, hcolumn, key]
  by_cases hless : s.indent < v.column
  · simp only [if_pos hless]
    exact
      { rest := Cursor.rest_along hr
        column := by simp [Cursor.along, View.after, hs.column]
        level := hs.level
        stack := rfl
        bottom := List.mem_cons_of_mem _ (by rw [hs.stack]; exact hs.bottom)
        allowed := rfl
        keys := by simp [hs.level]
        kinds := by simp [hopened, View.after, ← hs.kinds]
        isOpen := by simp [View.after, hs.isOpen] }
  · simp only [if_neg hless]
    exact
      { rest := Cursor.rest_along hr
        column := by simp [Cursor.along, View.after, hs.column]
        level := hs.level
        stack := hs.stack
        bottom := hs.bottom
        allowed := rfl
        keys := by simp [hs.level]
        kinds := by simp [hkinds, View.after, ← hs.kinds]
        isOpen := by simp [View.after, hs.isOpen] }

theorem unwind_of_le (h : s.indent ≤ s.cursor.column) : s.unwind s.cursor.column = s := by
  have hnone : ¬s.cursor.column < s.indent := by omega
  unfold unwind
  split
  · rfl
  · cases hi : s.indents with
    | nil => rfl
    | cons outer indents => rw [unwindTo, if_neg hnone]

/-- No collection is indented further than where the next token is. -/
theorem indent_le_of_unwound (hs : s.Stands v.unwound) : s.indent ≤ v.column := by
  have hhead : (remaining v.column v.stack).head? = some s.indent := by
    have hstack : s.indent :: s.indents = remaining v.column v.stack := hs.stack
    rw [← hstack]
    rfl
  have hnot := List.head?_dropWhile_not (fun i : Int => decide ((v.column : Int) < i)) v.stack
  unfold remaining at hhead
  rw [hhead] at hnot
  simpa using hnot

section Colon

variable {text : String} {count : Nat} {key : KeyStart}

/-- A word that is not too long may still be a key at the colon behind it. -/
theorem withWord_dropStale (hlong : count ≤ longestKey) (hkey : key.mark = s.cursor.mark) :
    (s.withWord text count key).dropStale = .ok (s.withWord text count key) := by
  refine dropStale_of_fresh (fun entry hentry => ?_)
  rw [List.mem_singleton.mp hentry]
  unfold isStale withWord
  simp only [hkey, Cursor.along, bne_self_eq_false, Bool.false_or, decide_eq_false_iff_not]
  omega

theorem withWord_fetch (hlong : count ≤ longestKey) (hkey : key.mark = s.cursor.mark)
    (hrest : (s.cursor.along count).rest = ':' :: xs) (hindent : s.indent ≤ s.cursor.column) :
    (s.withWord text count key).fetch = (s.withWord text count key).takeToken := by
  have hblanks : StartsLine (':' :: xs) := by
    intro y hy
    cases hy
    decide
  have hmark : (s.withWord text count key).skipByteOrderMark = s.withWord text count key := by
    refine skipByteOrderMark_of_inline (fun y hy => ?_)
    have hhead : (s.withWord text count key).cursor.rest = ':' :: xs := hrest
    rw [hhead] at hy
    exact not_mark_of_inline (hblanks y hy).2.2
  have hskip : skipToToken ((s.withWord text count key).cursor.left + 1) (s.withWord text count key)
      = s.withWord text count key := by
    have hnone : (s.withWord text count key).cursor.rest = List.replicate 0 ' ' ++ ':' :: xs := hrest
    exact skipToToken_blanks hblanks hnone
  -- The word stands where the block expects it, so no block is closed before it.
  have hle : (s.withWord text count key).indent ≤ (s.withWord text count key).cursor.column := by
    have hcolumn : (s.withWord text count key).cursor.column = s.cursor.column + count := rfl
    rw [hcolumn]
    exact Int.le_trans hindent (by omega)
  rw [fetch_eq hmark hskip (withWord_dropStale hlong hkey), unwind_of_le hle]

theorem withWord_takeToken (hs : s.Stands v) (hx : isGap x = true)
    (hrest : (s.cursor.along count).rest = ':' :: x :: xs) :
    (s.withWord text count key).takeToken
      = .ok ((((s.withWord text count key).settleKey key).allowKeys false).take .value 1) := by
  -- The place that was kept for the word is the key that this colon belongs to.
  have hlookup : (s.withWord text count key).keys.lookup (s.withWord text count key).level
      = some key := by
    change [((0 : Int), key)].lookup s.level = some key
    rw [hs.level]
    rfl
  have hpeek : (s.withWord text count key).cursor.peek = ':' := Cursor.peek_of_rest hrest
  have hahead : (s.withWord text count key).cursor.peek 1 = x := by
    rw [Cursor.peek_eq]
    exact congrArg (fun rest => List.getD rest 1 endChar) hrest
  have htoken : (s.withWord text count key).takeToken = (s.withWord text count key).takeValue := by
    unfold takeToken
    simp only [hpeek, hahead, hx, Bool.or_true]
    rfl
  rw [htoken]
  unfold takeValue
  rw [hlookup]
  rfl

end Colon

/-- A key with its colon. -/
theorem key_leads (h : s.Comes v) (hrest : v.rest = cs ++ ':' :: x :: xs) (hw : IsWord cs)
    (hlong : cs.length ≤ longestKey) (hx : isGap x = true) (hallowed : v.allowed = true)
    (hcolumn : cs.head? = some '.' ∨ cs.head? = some '-' → v.column ≠ 0) :
    ∃ s', s.Leads s' ∧ s'.Stands ((v.unwound.opened .blockMappingStart).after (x :: xs)
      (cs.length + 1) false [.key, .scalar (String.ofList cs) true, .value]) := by
  rcases h with ⟨hdone, hless, s1, hstep, hs1⟩
  have hr : s1.cursor.rest = cs ++ ':' :: x :: xs := hs1.rest.trans hrest
  have hbehind : (s1.cursor.along cs.length).rest = ':' :: x :: xs := Cursor.rest_along hr
  -- First the word, which may be a key.
  have htake : s1.takeToken = s1.takePlain := takeToken_word hw hr (by rwa [hs1.column])
  have hword := takePlain_key hs1 hallowed hw hx hrest
  generalize (s1.indent == s1.cursor.column) = required at hword
  have hshort : (s1.cursor.along cs.length).rest.length < s.cursor.rest.length := by
    have hpositive := List.length_pos_iff.mpr hw.nonempty
    rw [hrest] at hless
    rw [hbehind]
    simp only [List.length_append] at hless
    omega
  have hlead := leads_one hdone (by rw [hstep, htake, hword]) hshort
  -- Then the colon, which makes it one.
  have hindent : s1.indent ≤ s1.cursor.column := by
    have hcolumn : s1.cursor.column = v.column := congrArg Int.ofNat hs1.column
    rw [hcolumn]
    exact indent_le_of_unwound hs1
  have hopen : .streamEnd ∉ (s1.withWord (String.ofList cs) cs.length
      ⟨s1.tokens.size, required, s1.cursor.mark⟩).tokens.toList.map (·.kind) := by
    have hnone := hs1.isOpen
    unfold withWord
    simp [hs1.kinds, hnone]
  have hstands := take_stands false (settleKey_stands required hs1 hrest) rfl
    (by decide : isInline ':' = true)
    (by decide : TokenKind.value ≠ .streamEnd)
  have hcolon := leads_one (isDone_of_kinds hopen) (by
    rw [withWord_dropStale hlong rfl, ok_bind, withWord_fetch hlong rfl hbehind hindent,
      withWord_takeToken hs1 hx hbehind]) (by
    rw [hstands.rest]
    change _ < (s1.cursor.along cs.length).rest.length
    rw [hbehind]
    exact Nat.lt_succ_self _)
  refine ⟨_, hlead.trans hcolon, ?_⟩
  simpa only [View.after, Nat.add_assoc, List.append_assoc, List.cons_append, List.nil_append]
    using hstands

/-- Where no key may begin, none is remembered. -/
theorem saveKey_of_not_allowed (h : s.keysAllowed = false) : s.saveKey = .ok s := by
  unfold saveKey
  rw [h]
  rfl

/-- A word as the last thing on its line, where no key may begin, before a line that is
    indented no further than the innermost collection. -/
theorem plain_leads {n : Nat} (h : s.Comes v) (hw : IsWord cs) (hxs : StartsLine xs)
    (hmark : n = 0 → ∀ x ∈ xs.head?, x ≠ '-' ∧ x ≠ '.')
    (hrest : v.rest = cs ++ '\n' :: (List.replicate n ' ' ++ xs)) (hallowed : v.allowed = false)
    (hcolumn : cs.head? = some '.' ∨ cs.head? = some '-' → v.column ≠ 0)
    (hn : ∀ i ∈ v.unwound.stack.head?, (n : Int) ≤ i) :
    ∃ s', s.Leads s' ∧ s'.Stands ⟨xs, n, v.unwound.stack, true,
      v.unwound.kinds ++ [.scalar (String.ofList cs) true]⟩ := by
  rcases h with ⟨hdone, hless, s1, hstep, hs1⟩
  have hr : s1.cursor.rest = cs ++ '\n' :: (List.replicate n ' ' ++ xs) := hs1.rest.trans hrest
  have htake : s1.takeToken = s1.takePlain := takeToken_word hw hr (by rwa [hs1.column])
  -- The next line is not indented enough for the scalar to go on there.
  have hindent : (n : Int) < s1.indent + 1 := by
    have hle := hn s1.indent (by rw [← hs1.stack]; rfl)
    omega
  have hplain : s1.takePlain = .ok ((s1.allowKeys true).add (⟨.scalar (String.ofList cs) true,
      s1.cursor.mark, (s1.cursor.along cs.length).mark⟩,
        (s1.cursor.along cs.length).below.along n)) := by
    unfold takePlain
    rw [saveKey_of_not_allowed (hs1.allowed.trans hallowed), ok_bind]
    simp only [hs1.inFlow, plainScalar_last hw hxs hmark hindent hr]
    rfl
  have hbelow := Cursor.rest_along (Cursor.rest_below (Cursor.rest_along hr))
  rw [List.length_replicate] at hbelow
  have hcolumn : ((s1.cursor.along cs.length).below.along n).mark.column = n := Nat.zero_add n
  have hstands := add_stands ⟨.scalar (String.ofList cs) true, s1.cursor.mark,
    (s1.cursor.along cs.length).mark⟩ ((s1.cursor.along cs.length).below.along n) true hs1 (by simp)
  rw [hbelow, hcolumn] at hstands
  refine ⟨_, leads_of_take hdone hless hstep (htake.trans hplain) hstands ?_, hstands⟩
  rw [hrest]
  simp
  omega

/-- A text between quotes, where no key may begin. -/
theorem quoted_leads (h : s.Comes v) (hcs : ∀ x ∈ cs, isQuotable x = true)
    (hrest : v.rest = '"' :: (cs ++ '"' :: xs)) (hallowed : v.allowed = false) :
    ∃ s', s.Leads s' ∧ s'.Stands (v.unwound.after xs (cs.length + 2) false
      [.scalar (String.ofList cs) false]) := by
  rcases h with ⟨hdone, hless, s1, hstep, hs1⟩
  have hr : s1.cursor.rest = '"' :: (cs ++ '"' :: xs) := hs1.rest.trans hrest
  have htake : s1.takeToken = s1.takeNamed quotedScalar := by
    unfold takeToken
    simp only [Cursor.peek_of_rest hr]
    rfl
  have hnamed : s1.takeNamed quotedScalar = .ok ((s1.allowKeys false).add
      (⟨.scalar (String.ofList cs) false, s1.cursor.mark, (s1.cursor.along (cs.length + 2)).mark⟩,
        s1.cursor.along (cs.length + 2))) := by
    unfold takeNamed
    rw [saveKey_of_not_allowed (hs1.allowed.trans hallowed), ok_bind,
      quotedScalar_quotable hcs hr]
    rfl
  -- The scanner stands behind the closing quote.
  have hbehind : (s1.cursor.along (cs.length + 2)).rest = xs := by
    have hsplit : s1.cursor.rest = ('"' :: (cs ++ ['"'])) ++ xs := by
      rw [hr]
      simp
    have hn := Cursor.rest_along hsplit
    simpa using hn
  have hcolumn : (s1.cursor.along (cs.length + 2)).mark.column = v.column + (cs.length + 2) :=
    congrArg (· + (cs.length + 2)) hs1.column
  have hstands := add_stands ⟨.scalar (String.ofList cs) false, s1.cursor.mark,
    (s1.cursor.along (cs.length + 2)).mark⟩ (s1.cursor.along (cs.length + 2)) false hs1 (by simp)
  rw [hbehind, hcolumn] at hstands
  refine ⟨_, leads_of_take hdone hless hstep (htake.trans hnamed) hstands ?_, hstands⟩
  rw [hrest]
  simp
  omega

theorem start_stands (text : List Char) :
    (start text).Stands ⟨text, 0, [-1], true, [.streamStart]⟩ :=
  { rest := Cursor.rest_start text
    column := rfl
    level := rfl
    stack := rfl
    bottom := List.mem_singleton_self _
    allowed := rfl
    keys := rfl
    kinds := rfl
    isOpen := by simp }

/-- At the end of the text all collections end, and the scanning is over. -/
theorem scan_of_leads {text : List Char} (hlead : (start text).Leads s) (h : s.Comes v)
    (hrest : v.rest = []) : ∃ tokens, scan text = ⟨tokens, none⟩ ∧
      tokens.map (·.kind) = v.unwound.kinds ++ closings (-1) v.unwound.stack ++ [.streamEnd] := by
  rcases h with ⟨hdone, _, s1, hstep, hs1⟩
  -- At the end of the text all collections end.
  have hclosed := unwind_stands (Int.le_refl (-1)) hs1
  have htake : s1.takeToken = .ok ({ s1.unwind (-1) with keysAllowed := false, keys := [] }.addMark
      .streamEnd) := by
    have hend : s1.takeToken = s1.endStream := by
      unfold takeToken
      simp only [Cursor.peek_of_end (hs1.rest.trans hrest), beq_self_eq_true, if_true]
    rw [hend]
    unfold endStream
    rw [dropKey_of_keys hclosed.keys]
    rfl
  have hfetch := hstep.trans htake
  generalize hlast : ({ s1.unwind (-1) with keysAllowed := false, keys := [] } : Scanner).addMark
    .streamEnd = s2 at hfetch
  have htokens : s2.tokens.toList.map (·.kind)
      = v.unwound.kinds ++ closings (-1) v.unwound.stack ++ [.streamEnd] := by
    have hkinds := hclosed.kinds
    rw [← hlast]
    simp only [addMark, Array.toList_push, List.map_append, hkinds, List.map_cons, List.map_nil]
  have hover : s2.isDone = true := by
    rw [← hlast]
    simp [Scanner.isDone, addMark]
  refine ⟨s2.tokens.toList, ?_, htokens⟩
  rcases hlead with ⟨count, hcount, hscan⟩
  rw [show (start text).cursor.rest = text from Cursor.rest_start text] at hcount
  -- The steps up to here have used no more fuel than the text is long.
  obtain ⟨fuel, hfuel⟩ : ∃ fuel, text.length + 2 = fuel + 2 + count :=
    ⟨text.length - count, by omega⟩
  rcases hscan (fuel + 2) 0 with ⟨ready, hscan⟩
  unfold scan
  rw [hfuel, hscan]
  rcases bind_eq_ok.mp hfetch with ⟨s3, hstale, hfetch⟩
  rw [scanFrom_succ, hdone, hstale]
  simp only [Bool.false_eq_true, if_false, hfetch]
  rw [scanFrom_succ, hover]
  rfl

end Scanner

end Yaml

end Annals
