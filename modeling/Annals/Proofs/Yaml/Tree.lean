import Annals.Proofs.Text.Lines
import Annals.Proofs.Yaml.Layout

/-!
# Trees in Block Style

Texts, lists and mappings inside of each other, and how they are written line by line.

A collection stands on lines of its own. What lies in it is indented by two columns
more than the mark or the key that it belongs to, and its first line may share the line
with the mark of an entry. So the lines are built with what leads the first of them
and the column of the others.

A tree is scanned from its first character to the first character of what follows it,
wherever it stands in a text, and its collection ends where what follows is indented
less. The proof is an induction on the tree, and inside of a collection on its entries,
where the first entry begins the collection and the others find it begun.

## Main definitions

* `Tree`: A text, a list or a mapping.
* `Tree.lines`: How a tree is written.
* `Tree.kinds`: What the tokens of a tree are.
* `Tree.Fits`: A tree can be written in this way.

## Theorems

* `unlines_lines`: What leads the first line.
* `Fits.scans`: A tree is scanned, with its collection still going on.
* `scan_tree`: The tokens of a text that is a tree.
-/

namespace Annals

namespace Yaml

/-- Texts, plain or quoted, and lists and mappings of trees. -/
inductive Tree where
  | text (cs : List Char) (isPlain : Bool)
  | list (items : List Tree)
  | entries (es : List (List Char × Tree))
  deriving Inhabited

namespace Tree

/-- A tree without parts. -/
def isText : Tree → Bool
  | .text .. => true
  | _ => false

/-- A tree that is a mapping. -/
def isMapping : Tree → Bool
  | .entries _ => true
  | _ => false

/-- A text as it is written. -/
def written (cs : List Char) (isPlain : Bool) : List Char :=
  if isPlain then cs else '"' :: (cs ++ ['"'])

mutual

/-- The lines of a tree that stands behind some characters, at a column. -/
def lines (lead : List Char) (column : Nat) : Tree → List (List Char)
  | .text cs isPlain => [lead ++ written cs isPlain]
  | .list items => itemLines lead column items
  | .entries es => entryLines lead column es

/-- The lines of the items of a list. -/
def itemLines (lead : List Char) (column : Nat) : List Tree → List (List Char)
  | [] => []
  | t :: rest =>
    t.lines (lead ++ ['-', ' ']) (column + 2) ++
      itemLines (List.replicate column ' ') column rest

/-- The lines of the entries of a mapping. A text stands behind its key, and a collection
    below it. -/
def entryLines (lead : List Char) (column : Nat) : List (List Char × Tree) → List (List Char)
  | [] => []
  | (key, t) :: rest =>
    (if t.isText then t.lines (lead ++ (key ++ [':', ' '])) column
      else (lead ++ (key ++ [':'])) ::
        t.lines (List.replicate (column + 2) ' ') (column + 2)) ++
      entryLines (List.replicate column ' ') column rest

end

mutual

/-- What the tokens of a tree are. -/
def kinds : Tree → List TokenKind
  | .text cs isPlain => [.scalar (String.ofList cs) isPlain]
  | .list items => .blockSequenceStart :: (itemKinds items ++ [.blockEnd])
  | .entries es => .blockMappingStart :: (entryKinds es ++ [.blockEnd])

/-- What the tokens of the items of a list are. -/
def itemKinds : List Tree → List TokenKind
  | [] => []
  | t :: rest => .blockEntry :: (t.kinds ++ itemKinds rest)

/-- What the tokens of the entries of a mapping are. -/
def entryKinds : List (List Char × Tree) → List TokenKind
  | [] => []
  | (key, t) :: rest =>
    .key :: .scalar (String.ofList key) true :: .value :: (t.kinds ++ entryKinds rest)

end

/-- What the tokens of a tree are, up to the end of its collection. -/
def begun : Tree → List TokenKind
  | .text cs isPlain => [.scalar (String.ofList cs) isPlain]
  | .list items => .blockSequenceStart :: itemKinds items
  | .entries es => .blockMappingStart :: entryKinds es

theorem kinds_eq_begun {t : Tree} (h : t.isText = false) : t.kinds = t.begun ++ [.blockEnd] := by
  cases t with
  | text _ _ => cases h
  | list items => rfl
  | entries es => rfl

/-- A word that can be a key: it is a string, and not too long, and does not look like a
    mark between documents. -/
structure IsKey (key : List Char) : Prop where
  isWord : IsWord key
  isShort : key.length ≤ Scanner.longestKey
  isString : Tag.ofPlain (String.ofList key) = Tag.str
  noDot : key.head? ≠ some '.'
  noHyphen : key.head? ≠ some '-'

/-- A tree that can be written in block style: its collections are not empty, the items of
    its lists are collections, and the keys of a mapping differ. A plain word need not be a
    string. -/
inductive Fits : Tree → Prop where
  | word {cs : List Char} : IsWord cs → Fits (.text cs true)
  | quoted {cs : List Char} : (∀ x ∈ cs, isQuotable x = true) → Fits (.text cs false)
  | list {items : List Tree} :
      items ≠ [] → (∀ t ∈ items, t.isText = false) → (∀ t ∈ items, Fits t) → Fits (.list items)
  | entries {es : List (List Char × Tree)} :
      es ≠ [] → (es.map Prod.fst).Nodup → (∀ e ∈ es, IsKey e.1) → (∀ e ∈ es, Fits e.2) →
      Fits (.entries es)

variable {t : Tree} {items : List Tree} {es : List (List Char × Tree)}

theorem unlines_itemLines (hne : items ≠ [])
    (h : ∀ t ∈ items, ∀ lead column,
      Text.unlines (t.lines lead column) = lead ++ Text.unlines (t.lines [] column))
    (lead : List Char) (column : Nat) : Text.unlines (itemLines lead column items)
      = lead ++ Text.unlines (itemLines [] column items) := by
  cases items with
  | nil => exact absurd rfl hne
  | cons t rest =>
      have ht := h t (List.mem_cons_self ..)
      simp only [itemLines, Text.unlines_append]
      rw [ht (lead ++ ['-', ' ']), ht ([] ++ ['-', ' '])]
      simp only [List.nil_append, List.append_assoc]

theorem unlines_entryLines (hne : es ≠ [])
    (h : ∀ e ∈ es, ∀ lead column,
      Text.unlines (e.2.lines lead column) = lead ++ Text.unlines (e.2.lines [] column))
    (lead : List Char) (column : Nat) : Text.unlines (entryLines lead column es)
      = lead ++ Text.unlines (entryLines [] column es) := by
  cases es with
  | nil => exact absurd rfl hne
  | cons e rest =>
      rcases e with ⟨key, t⟩
      have ht := h (key, t) (List.mem_cons_self ..)
      simp only [entryLines, Text.unlines_append]
      -- A text stands on the line of its key, other values on lines of their own.
      cases t.isText with
      | true =>
          simp only [if_true]
          rw [ht (lead ++ (key ++ [':', ' '])), ht ([] ++ (key ++ [':', ' ']))]
          simp only [List.nil_append, List.append_assoc]
      | false =>
          simp only [Bool.false_eq_true, if_false, Text.unlines_cons, List.nil_append,
            List.append_assoc, List.cons_append]

/-- What leads the first line of a tree leads the text of all its lines. -/
theorem Fits.unlines_lines (h : t.Fits) (lead : List Char) (column : Nat) :
    Text.unlines (t.lines lead column) = lead ++ Text.unlines (t.lines [] column) := by
  induction h generalizing lead column with
  | word _ => simp only [lines, Text.unlines_cons, List.nil_append, List.append_assoc]
  | quoted _ => simp only [lines, Text.unlines_cons, List.nil_append, List.append_assoc]
  | list hne _ _ ih =>
      simp only [lines]
      exact unlines_itemLines hne ih lead column
  | entries hne _ _ _ ih =>
      simp only [lines]
      exact unlines_entryLines hne ih lead column

/-- What stands behind the colon of a key. -/
def behindKey (t : Tree) (column : Nat) : List Char :=
  if t.isText then ' ' :: Text.unlines (t.lines [] column)
  else '\n' :: (List.replicate (column + 2) ' ' ++ Text.unlines (t.lines [] (column + 2)))

theorem unlines_entryLines_cons {key : List Char} {column : Nat} (h : t.Fits) :
    Text.unlines (entryLines [] column ((key, t) :: es))
      = key ++ ':' :: (t.behindKey column ++
          Text.unlines (entryLines (List.replicate column ' ') column es)) := by
  unfold behindKey
  rw [entryLines, Text.unlines_append]
  cases t.isText with
  | true =>
      simp only [if_true]
      rw [h.unlines_lines ([] ++ (key ++ [':', ' ']))]
      simp only [List.nil_append, List.append_assoc, List.cons_append]
  | false =>
      simp only [Bool.false_eq_true, if_false, Text.unlines_cons]
      rw [h.unlines_lines (List.replicate (column + 2) ' ')]
      simp only [List.nil_append, List.append_assoc, List.cons_append]

theorem unlines_itemLines_cons {column : Nat} (h : t.Fits) :
    Text.unlines (itemLines [] column (t :: items))
      = '-' :: ' ' :: (Text.unlines (t.lines [] (column + 2)) ++
          Text.unlines (itemLines (List.replicate column ' ') column items)) := by
  rw [itemLines, Text.unlines_append, h.unlines_lines ([] ++ ['-', ' '])]
  simp only [List.nil_append, List.cons_append]

/-- The line behind a tree: it is indented by some columns, and holds more or is the end. -/
structure NextLine (column : Nat) (xs : List Char) : Prop where
  starts : StartsLine xs
  noMark : column = 0 → ∀ x ∈ xs.head?, x ≠ '-' ∧ x ≠ '.'

theorem startsLine_word {cs : List Char} (hw : IsWord cs) (xs : List Char) :
    StartsLine (cs ++ xs) := by
  obtain ⟨y, ys, rfl⟩ := List.exists_cons_of_ne_nil hw.nonempty
  rcases hw.inked y (List.mem_cons_self ..) with ⟨hgap, hinline⟩
  have hmark := hw.begins y rfl
  intro x hx
  cases hx
  refine ⟨?_, ?_, hinline⟩
  · rintro rfl
    revert hgap
    decide
  · rintro rfl
    revert hmark
    decide

theorem IsKey.nextLine {key : List Char} (h : IsKey key) (column : Nat) (xs : List Char) :
    NextLine column (key ++ xs) := by
  refine ⟨startsLine_word h.isWord xs, fun _ x hx => ?_⟩
  obtain ⟨y, ys, rfl⟩ := List.exists_cons_of_ne_nil h.isWord.nonempty
  cases hx
  exact ⟨fun hhyphen => h.noHyphen (congrArg some hhyphen),
    fun hdot => h.noDot (congrArg some hdot)⟩

/-- What a tree begins with. -/
theorem Fits.startsLine (h : t.Fits) (column : Nat) (xs : List Char) :
    StartsLine (Text.unlines (t.lines [] column) ++ xs) := by
  cases h with
  | word hw =>
      simp only [lines, Text.unlines_cons, List.nil_append, List.append_assoc]
      exact startsLine_word hw _
  | quoted _ =>
      intro x hx
      cases hx
      decide
  | list hne _ hfit =>
      obtain ⟨t, items, rfl⟩ := List.exists_cons_of_ne_nil hne
      simp only [lines]
      rw [unlines_itemLines_cons (hfit _ (List.mem_cons_self ..))]
      intro x hx
      cases hx
      decide
  | entries hne _ hkey hfit =>
      obtain ⟨⟨key, t⟩, es, rfl⟩ := List.exists_cons_of_ne_nil hne
      simp only [lines]
      rw [unlines_entryLines_cons (hfit _ (List.mem_cons_self ..)), List.append_assoc]
      exact ((hkey _ (List.mem_cons_self ..)).nextLine 0 _).starts

section Scanning

open Scanner

variable {s : Scanner} {n m : Nat} {xs : List Char} {stack stack' : List Int} {ks opening : List TokenKind}

/-- A collection that is indented further than the next token may as well have ended. -/
theorem comes_closed {i : Int} {allowed : Bool} (hi : (m : Int) < i)
    (h : s.Comes ⟨xs, m, i :: stack, allowed, ks⟩) :
    s.Comes ⟨xs, m, stack, allowed, ks ++ [.blockEnd]⟩ := by
  have hview : (⟨xs, m, i :: stack, allowed, ks⟩ : View).unwound
      = (⟨xs, m, stack, allowed, ks ++ [.blockEnd]⟩ : View).unwound := by
    simp only [View.unwound, remaining_cons hi, closings_cons hi, List.append_assoc,
      List.singleton_append]
  exact ⟨h.1, h.2.1, by rw [← hview]; exact h.2.2⟩

/-- No collection ends at a column that the innermost one does not exceed. -/
theorem unwound_of_le {v : View} {top : Int} (hstack : v.stack = top :: stack)
    (hle : top ≤ v.column) : v.unwound = v := by
  unfold View.unwound
  rw [hstack, remaining_of_le hle, closings_of_le hle, List.append_nil, ← hstack]

/-- A collection begins where the one around it is indented less. -/
theorem opened_first {top : Int} (kind : TokenKind) (allowed : Bool) (h : top < n) :
    (⟨xs, n, top :: stack, allowed, ks⟩ : View).unwound.opened kind
      = ⟨xs, n, n :: top :: stack, allowed, ks ++ [kind]⟩ := by
  rw [unwound_of_le rfl (Int.le_of_lt h)]
  simp only [View.opened, if_pos h]

/-- A collection that has begun at the column goes on. -/
theorem opened_again (kind : TokenKind) (allowed : Bool) :
    (⟨xs, n, n :: stack, allowed, ks⟩ : View).unwound.opened kind
      = ⟨xs, n, n :: stack, allowed, ks ++ []⟩ := by
  rw [unwound_of_le rfl (Int.le_refl _)]
  simp only [View.opened, Int.lt_irrefl, if_false, List.append_nil]

/-- A collection is scanned, and goes on where what follows it begins. -/
def Scans (t : Tree) : Prop :=
  ∀ {s : Scanner} {n m : Nat} {xs : List Char} {top : Int} {stack : List Int}
    {ks : List TokenKind}, t.isText = false → (n = 0 → t.isMapping = true) → top < n →
    NextLine m xs → m ≤ n →
    s.Comes ⟨Text.unlines (t.lines [] n) ++ (List.replicate m ' ' ++ xs), n, top :: stack, true, ks⟩ →
    ∃ s', s.Leads s' ∧ s'.Comes ⟨xs, m, n :: top :: stack, true, ks ++ t.begun⟩

/-- A collection is scanned, and has ended where what follows it begins. -/
theorem Scans.closed {t : Tree} {top : Int} (h : t.Scans) (hcol : t.isText = false) (hn : n ≠ 0)
    (htop : top < n) (hnext : NextLine m xs) (hm : m < n)
    (hcomes : s.Comes ⟨Text.unlines (t.lines [] n) ++ (List.replicate m ' ' ++ xs), n,
      top :: stack, true, ks⟩) :
    ∃ s', s.Leads s' ∧ s'.Comes ⟨xs, m, top :: stack, true, ks ++ t.kinds⟩ := by
  rcases h hcol (fun hzero => absurd hzero hn) htop hnext (Nat.le_of_lt hm) hcomes
    with ⟨s', hlead, hs'⟩
  refine ⟨s', hlead, ?_⟩
  rw [kinds_eq_begun hcol, ← List.append_assoc]
  exact comes_closed (by omega) hs'

/-- What stands behind a key is scanned. -/
theorem Fits.scans_behindKey (h : t.Fits) (ih : t.Scans) {column : Nat} (hcolumn : n < column)
    (hnext : NextLine m xs) (hm : m ≤ n)
    (hs : s.Stands ⟨t.behindKey n ++ (List.replicate m ' ' ++ xs), column, n :: stack, false, ks⟩) :
    ∃ s', s.Leads s' ∧ s'.Comes ⟨xs, m, n :: stack, true, ks ++ t.kinds⟩ := by
  cases hcol : t.isText with
  | false =>
      have hrest : t.behindKey n ++ (List.replicate m ' ' ++ xs) = '\n' ::
          (List.replicate (n + 2) ' ' ++
            (Text.unlines (t.lines [] (n + 2)) ++ (List.replicate m ' ' ++ xs))) := by
        unfold behindKey
        rw [hcol]
        simp
      -- A collection begins on the next line, two columns further in.
      have hcomes := comes_break hs (h.startsLine (n + 2) _) hrest
      exact ih.closed hcol (by omega) (by omega) hnext (by omega) hcomes
  | true =>
      have hrest : t.behindKey n ++ (List.replicate m ' ' ++ xs) = List.replicate 1 ' ' ++
          (Text.unlines (t.lines [] n) ++ (List.replicate m ' ' ++ xs)) := by
        unfold behindKey
        rw [hcol]
        simp
      have hcomes := comes_blanks hs (h.startsLine n _) hrest
      -- A text stands on the line of the key, where no collection ends.
      have hle : (n : Int) ≤ ((column + 1 : Nat) : Int) := by omega
      have hview := unwound_of_le (v := ⟨Text.unlines (t.lines [] n) ++
        (List.replicate m ' ' ++ xs), column + 1, n :: stack, false, ks⟩) rfl hle
      cases h with
      | @word cs hw =>
          have hwritten : Text.unlines ((Tree.text cs true).lines [] n) ++ (List.replicate m ' ' ++ xs)
              = cs ++ '\n' :: (List.replicate m ' ' ++ xs) := by
            simp [lines, written]
          rcases plain_leads hcomes hw hnext.starts hnext.noMark hwritten rfl (by simp)
            (by rw [hview]; simpa using hm) with ⟨s', hlead, hs'⟩
          rw [hview] at hs'
          exact ⟨s', hlead, comes_blanks hs' hnext.starts (by simp : xs = List.replicate 0 ' ' ++ xs)⟩
      | @quoted cs hcs =>
          have hwritten : Text.unlines ((Tree.text cs false).lines [] n) ++ (List.replicate m ' ' ++ xs)
              = '"' :: (cs ++ '"' :: '\n' :: (List.replicate m ' ' ++ xs)) := by
            simp [lines, written]
          rcases quoted_leads hcomes hcs hwritten rfl with ⟨s', hlead, hs'⟩
          rw [hview] at hs'
          exact ⟨s', hlead, comes_break hs' hnext.starts rfl⟩
      | list _ _ _ => cases hcol
      | entries _ _ _ _ => cases hcol

/-- An item of a list is scanned, which opens the list if it is the first one. -/
theorem scans_item (hcol : t.isText = false) (hfit : t.Fits) (ih : t.Scans) (hn : n ≠ 0)
    (hnext : NextLine m xs) (hm : m ≤ n)
    (hopened : ∀ rest, (⟨rest, n, stack', true, ks⟩ : View).unwound.opened .blockSequenceStart
      = ⟨rest, n, n :: stack, true, ks ++ opening⟩)
    (hcomes : s.Comes ⟨'-' :: ' ' :: (Text.unlines (t.lines [] (n + 2)) ++
      (List.replicate m ' ' ++ xs)), n, stack', true, ks⟩) :
    ∃ s', s.Leads s' ∧
      s'.Comes ⟨xs, m, n :: stack, true, ks ++ (opening ++ .blockEntry :: t.kinds)⟩ := by
  rcases entry_leads hcomes rfl (by decide) hn rfl with ⟨s1, hlead, hs1⟩
  rw [hopened] at hs1
  -- The hyphen and the blank behind it put the item two columns further.
  have hblank : ' ' :: (Text.unlines (t.lines [] (n + 2)) ++ (List.replicate m ' ' ++ xs))
      = List.replicate 1 ' ' ++ (Text.unlines (t.lines [] (n + 2)) ++
        (List.replicate m ' ' ++ xs)) := rfl
  have hitem := comes_blanks hs1 (hfit.startsLine (n + 2) _) hblank
  rcases ih.closed hcol (by omega) (by omega) hnext (by omega) hitem with ⟨s', hlead', hs'⟩
  refine ⟨s', hlead.trans hlead', ?_⟩
  simpa only [View.after, List.append_assoc, List.singleton_append] using hs'

/-- The items of a list are scanned. -/
theorem scans_items (hne : items ≠ []) (hcol : ∀ t ∈ items, t.isText = false)
    (hfit : ∀ t ∈ items, t.Fits) (ih : ∀ t ∈ items, t.Scans) (hn : n ≠ 0) (hnext : NextLine m xs)
    (hm : m ≤ n)
    (hopened : ∀ rest, (⟨rest, n, stack', true, ks⟩ : View).unwound.opened .blockSequenceStart
      = ⟨rest, n, n :: stack, true, ks ++ opening⟩)
    (hcomes : s.Comes ⟨Text.unlines (itemLines [] n items) ++ (List.replicate m ' ' ++ xs), n,
      stack', true, ks⟩) :
    ∃ s', s.Leads s' ∧ s'.Comes ⟨xs, m, n :: stack, true, ks ++ (opening ++ itemKinds items)⟩ := by
  induction items generalizing s stack' ks opening with
  | nil => exact absurd rfl hne
  | cons t rest ihrest =>
      have hhead : t ∈ t :: rest := List.mem_cons_self ..
      rw [unlines_itemLines_cons (hfit t hhead), List.cons_append, List.cons_append,
        List.append_assoc] at hcomes
      by_cases hrest : rest = []
      · subst hrest
        simp only [itemKinds, List.append_nil]
        exact scans_item (hcol t hhead) (hfit t hhead) (ih t hhead) hn hnext hm hopened hcomes
      · have hfits : ∀ t' ∈ rest, t'.Fits := fun t' ht => hfit t' (List.mem_cons_of_mem t ht)
        have hcols : ∀ t' ∈ rest, t'.isText = false := fun t' ht =>
          hcol t' (List.mem_cons_of_mem t ht)
        have hlist : (Tree.list rest).Fits := .list hrest hcols hfits
        -- The next item is what follows, on a line at the column of the list.
        have hitem : NextLine n (Text.unlines (itemLines [] n rest) ++ (List.replicate m ' ' ++ xs)) :=
          ⟨hlist.startsLine n _, fun hzero => absurd hzero hn⟩
        rw [unlines_itemLines hrest (fun t' ht => (hfits t' ht).unlines_lines),
          List.append_assoc] at hcomes
        rcases scans_item (hcol t hhead) (hfit t hhead) (ih t hhead) hn hitem (Nat.le_refl n) hopened
          hcomes with ⟨s1, hlead, hs1⟩
        rcases ihrest hrest hcols hfits (fun t' ht => ih t' (List.mem_cons_of_mem t ht))
          (fun _ => opened_again _ _) hs1 with ⟨s', hlead', hs'⟩
        refine ⟨s', hlead.trans hlead', ?_⟩
        simpa only [itemKinds, List.append_assoc, List.cons_append, List.nil_append] using hs'

/-- An entry of a mapping is scanned, which opens the mapping if it is the first one. -/
theorem scans_entry {key : List Char} (hkey : IsKey key) (hfit : t.Fits) (ih : t.Scans)
    (hnext : NextLine m xs) (hm : m ≤ n)
    (hopened : ∀ rest, (⟨rest, n, stack', true, ks⟩ : View).unwound.opened .blockMappingStart
      = ⟨rest, n, n :: stack, true, ks ++ opening⟩)
    (hcomes : s.Comes ⟨key ++ ':' :: (t.behindKey n ++ (List.replicate m ' ' ++ xs)), n, stack', true,
      ks⟩) :
    ∃ s', s.Leads s' ∧ s'.Comes ⟨xs, m, n :: stack, true,
      ks ++ (opening ++ .key :: .scalar (String.ofList key) true :: .value :: t.kinds)⟩ := by
  -- Behind the colon there is a blank or the end of the line, whatever the value is.
  obtain ⟨x, tail, hx, hgap⟩ : ∃ x tail, t.behindKey n ++ (List.replicate m ' ' ++ xs) = x :: tail ∧
      isGap x = true := by
    unfold behindKey
    cases t.isText with
    | true => exact ⟨' ', _, rfl, by decide⟩
    | false => exact ⟨'\n', _, rfl, by decide⟩
  have hrest : key ++ ':' :: (t.behindKey n ++ (List.replicate m ' ' ++ xs))
      = key ++ ':' :: x :: tail := by rw [hx]
  rcases key_leads hcomes hrest hkey.isWord hkey.isShort hgap rfl
    (fun hmark => (hmark.elim hkey.noDot hkey.noHyphen).elim) with ⟨s1, hlead, hs1⟩
  rw [hopened, ← hx] at hs1
  have hcolumn : n < n + (key.length + 1) := by omega
  rcases hfit.scans_behindKey ih hcolumn hnext hm hs1 with ⟨s', hlead', hs'⟩
  refine ⟨s', hlead.trans hlead', ?_⟩
  simpa only [View.after, List.append_assoc, List.cons_append, List.nil_append] using hs'

/-- The entries of a mapping are scanned. -/
theorem scans_entries (hne : es ≠ []) (hkey : ∀ e ∈ es, IsKey e.1) (hfit : ∀ e ∈ es, e.2.Fits)
    (ih : ∀ e ∈ es, e.2.Scans) (hnext : NextLine m xs) (hm : m ≤ n)
    (hopened : ∀ rest, (⟨rest, n, stack', true, ks⟩ : View).unwound.opened .blockMappingStart
      = ⟨rest, n, n :: stack, true, ks ++ opening⟩)
    (hcomes : s.Comes ⟨Text.unlines (entryLines [] n es) ++ (List.replicate m ' ' ++ xs), n, stack',
      true, ks⟩) :
    ∃ s', s.Leads s' ∧ s'.Comes ⟨xs, m, n :: stack, true, ks ++ (opening ++ entryKinds es)⟩ := by
  induction es generalizing s stack' ks opening with
  | nil => exact absurd rfl hne
  | cons e rest ihrest =>
      rcases e with ⟨key, t⟩
      have hhead : (key, t) ∈ (key, t) :: rest := List.mem_cons_self ..
      have htail {e : List Char × Tree} (he : e ∈ rest) : e ∈ (key, t) :: rest :=
        List.mem_cons_of_mem _ he
      rw [unlines_entryLines_cons (hfit _ hhead), List.append_assoc, List.cons_append,
        List.append_assoc] at hcomes
      by_cases hrest : rest = []
      · subst hrest
        simp only [entryKinds, List.append_nil]
        exact scans_entry (hkey _ hhead) (hfit _ hhead) (ih _ hhead) hnext hm hopened hcomes
      · have hfits : ∀ e ∈ rest, e.2.Fits := fun e he => hfit e (htail he)
        have hkeys : ∀ e ∈ rest, IsKey e.1 := fun e he => hkey e (htail he)
        -- The next entry is what follows, on a line at the column of the mapping.
        have hentry : NextLine n
            (Text.unlines (entryLines [] n rest) ++ (List.replicate m ' ' ++ xs)) := by
          obtain ⟨e, rest', rfl⟩ := List.exists_cons_of_ne_nil hrest
          have he : e ∈ e :: rest' := List.mem_cons_self ..
          rw [unlines_entryLines_cons (hfits e he), List.append_assoc]
          exact (hkeys e he).nextLine n _
        rw [unlines_entryLines hrest (fun e he => (hfits e he).unlines_lines),
          List.append_assoc] at hcomes
        rcases scans_entry (hkey _ hhead) (hfit _ hhead) (ih _ hhead) hentry (Nat.le_refl n) hopened
          hcomes with ⟨s1, hlead, hs1⟩
        rcases ihrest hrest hkeys hfits (fun e he => ih e (htail he)) (fun _ => opened_again _ _) hs1
          with ⟨s', hlead', hs'⟩
        refine ⟨s', hlead.trans hlead', ?_⟩
        simpa only [entryKinds, List.append_assoc, List.cons_append, List.nil_append] using hs'

/-- A tree is scanned, with its collection still going on. -/
theorem Fits.scans (h : t.Fits) : t.Scans := by
  induction h with
  | word _ => exact fun hcol => by cases hcol
  | quoted _ => exact fun hcol => by cases hcol
  | list hne hcol hfit ih =>
      intro s n m xs top stack ks _ hzero htop hnext hm hcomes
      have hn : n ≠ 0 := fun hn => by cases hzero hn
      exact scans_items hne hcol hfit ih hn hnext hm (fun _ => opened_first _ _ htop) hcomes
  | entries hne _ hkey hfit ih =>
      intro s n m xs top stack ks _ _ htop hnext hm hcomes
      exact scans_entries hne hkey hfit ih hnext hm (fun _ => opened_first _ _ htop) hcomes

/-- The tokens of a text that is a mapping in block style. -/
theorem scan_tree (h : t.Fits) (hmapping : t.isMapping = true) :
    ∃ tokens, scan (Text.unlines (t.lines [] 0)) = ⟨tokens, none⟩ ∧
      tokens.map (·.kind) = .streamStart :: (t.kinds ++ [.streamEnd]) := by
  have hcol : t.isText = false := by
    cases t with
    | text _ _ => cases hmapping
    | list _ => rfl
    | entries _ => rfl
  have hstart := comes_blanks (start_stands (Text.unlines (t.lines [] 0)))
    (by simpa using h.startsLine 0 []) (by simp : Text.unlines (t.lines [] 0)
      = List.replicate 0 ' ' ++ Text.unlines (t.lines [] 0))
  -- The end of the text ends the mapping as a line without indentation would.
  have hend : NextLine 0 [] := ⟨by simp [StartsLine], by simp⟩
  rcases h.scans hcol (fun _ => hmapping) (by decide : (-1 : Int) < (0 : Nat)) hend (Nat.le_refl 0)
    (by simpa using hstart) with ⟨s', hlead, hs'⟩
  rcases scan_of_leads hlead hs' rfl with ⟨tokens, hscan, hkinds⟩
  refine ⟨tokens, hscan, ?_⟩
  rw [hkinds, unwound_of_le rfl (by decide : ((0 : Nat) : Int) ≤ (0 : Nat)), kinds_eq_begun hcol]
  rfl

end Scanning

end Tree

end Yaml

end Annals
