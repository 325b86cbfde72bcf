import Annals.Lint.Wording
import Annals.Proofs.Pattern.Ways
import Annals.Proofs.Text.Lists
import Annals.Proofs.Text.Words

/-!
# How Lines Split

A line with a key and a value has three more parts: what stands before the key, the colon, and
the spaces or tabs behind it. As the dash of an item is also a character of keys, and a value
may begin with a colon, it is not obvious that a line splits in one way only. It does, since
blanks must follow the dash of an item, and no blank is part of a key.

The same is written as a pattern. A pattern has many ways to be tried, but since a line splits
in one way only, what its groups match are the key and the value of this split
(`groups?_linePattern`). The pattern for descriptions is the one for keys, with an end that the
key must have.

## Main definitions

* `Wording.Splits`: The five parts of a line.
* `Wording.keyText`, `Wording.descriptionText`: The patterns of lines as they are written.
* `Wording.keyPattern`, `Wording.descriptionPattern`: The patterns themselves.

## Theorems

* `exists_splits_iff`, `Splits.unique`: A line splits in at most one way.
* `read_keyText`, `read_descriptionText`: The written patterns are these patterns.
* `groups?_keyPattern`, `groups?_descriptionPattern`: What the groups of the patterns match.
-/

namespace Annals

namespace Wording

open Pattern (Expr Spans Matches Passes)

/-- What stands before a key: blanks, and the dash of an item with blanks behind it. -/
def IsFront (front : List Char) : Prop :=
  ∃ before item, front = before ++ item ∧ (∀ c ∈ before, Text.isBlank c = true) ∧
    (item = [] ∨ ∃ after, item = '-' :: after ∧ after ≠ [] ∧ ∀ c ∈ after, Text.isBlank c = true)

/-- The five parts of a line: what stands before the key, the key, the colon, spaces or tabs,
    and the value. -/
structure Splits (line front key gap value : List Char) : Prop where
  line : line = front ++ (key ++ ':' :: (gap ++ value))
  front : IsFront front
  key : key ≠ [] ∧ ∀ c ∈ key, isKeyChar c = true
  gap : gap ≠ [] ∧ ∀ c ∈ gap, isGap c = true
  value : ∃ c, value.head? = some c ∧ Text.isBlank c = false

theorem isBlank_of_isKeyChar {c : Char} (h : isKeyChar c = true) : Text.isBlank c = false := by
  cases hblank : Text.isBlank c with
  | false => rfl
  | true =>
      have hnot := @Text.code_of_blank (fun n => !isKeyChar (Char.ofNat n)) (by decide +kernel)
        c hblank
      rw [Char.ofNat_toNat, h] at hnot
      cases hnot

theorem isBlank_of_isGap {c : Char} (h : isGap c = true) : Text.isBlank c = true := by
  unfold isGap at h
  rcases Bool.or_eq_true_iff.mp h with h | h
  · rw [eq_of_beq h]
    decide
  · rw [eq_of_beq h]
    decide

theorem isGap_of_ink {c : Char} (h : Text.isBlank c = false) : isGap c = false := by
  cases hgap : isGap c with
  | false => rfl
  | true =>
      rw [isBlank_of_isGap hgap] at h
      cases h

section Lines

variable {line front key gap value : List Char}

/-- A value stands behind a colon and spaces or tabs, and does not begin with a blank. -/
theorem valueAfter?_eq_some_iff {cs : List Char} : valueAfter? cs = some value ↔
    ∃ gap, cs = ':' :: (gap ++ value) ∧ (gap ≠ [] ∧ ∀ c ∈ gap, isGap c = true) ∧
      ∃ c, value.head? = some c ∧ Text.isBlank c = false := by
  constructor
  · intro h
    unfold valueAfter? at h
    split at h
    · next c rest =>
        split at h
        · next hgap =>
            simp only [] at h
            split at h
            · next first others hvalue =>
                split at h
                · cases h
                · next hink =>
                    cases h
                    refine ⟨c :: rest.takeWhile isGap, ?_, ⟨List.cons_ne_nil _ _, ?_⟩, first, ?_,
                      Bool.not_eq_true _ ▸ hink⟩
                    · rw [List.cons_append, List.takeWhile_append_dropWhile]
                    · exact List.forall_mem_cons.mpr
                        ⟨hgap, fun x hx => List.all_eq_true.mp List.all_takeWhile x hx⟩
                    · rw [hvalue]
                      rfl
            · cases h
        · cases h
    · cases h
  · rintro ⟨gap, rfl, ⟨hne, hgap⟩, first, hfirst, hink⟩
    obtain ⟨c, gap, rfl⟩ := List.exists_cons_of_ne_nil hne
    rw [List.forall_mem_cons] at hgap
    -- The value does not begin with a blank, so the gap before it ends where it begins.
    have hends : ∀ x ∈ value.head?, isGap x = false := by
      intro x hx
      rw [hfirst] at hx
      cases hx
      exact isGap_of_ink hink
    cases value with
    | nil => cases hfirst
    | cons x value =>
        cases hfirst
        simp [valueAfter?, hgap.1, (span_append hgap.2 hends).2, hink]

/-- A line is what stands before its key, and the rest from there. -/
theorem exists_front (line : List Char) : ∃ front, line = front ++ fromKey line ∧ IsFront front := by
  have hblanks (cs : List Char) : ∀ c ∈ cs.takeWhile Text.isBlank, Text.isBlank c = true :=
    fun c hc => List.all_eq_true.mp List.all_takeWhile c hc
  have hsplit := (List.takeWhile_append_dropWhile (p := Text.isBlank) (l := line)).symm
  unfold fromKey
  split
  · next c rest hrest =>
      rw [hrest] at hsplit
      split
      · -- A dash and a blank behind it begin an item; its blanks are taken off with it.
        next hc =>
          have hafter := (List.takeWhile_append_dropWhile (p := Text.isBlank) (l := rest)).symm
          refine ⟨line.takeWhile Text.isBlank ++ '-' :: c :: rest.takeWhile Text.isBlank, ?_, _, _,
            rfl, hblanks line, Or.inr ⟨_, rfl, List.cons_ne_nil _ _, ?_⟩⟩
          · rw [List.append_assoc, List.cons_append, List.cons_append, ← hafter]
            exact hsplit
          · exact List.forall_mem_cons.mpr ⟨hc, hblanks rest⟩
      · exact ⟨_, hsplit, _, [], (List.append_nil _).symm, hblanks line, Or.inl rfl⟩
  · exact ⟨_, hsplit, _, [], (List.append_nil _).symm, hblanks line, Or.inl rfl⟩

/-- What stands before a key is taken off, and nothing else: behind a dash that begins the rest
    there is no blank. -/
theorem fromKey_append {front rest : List Char} (hfront : IsFront front)
    (hink : ∀ c ∈ rest.head?, Text.isBlank c = false)
    (hdash : ∀ c others, rest = '-' :: c :: others → Text.isBlank c = false) :
    fromKey (front ++ rest) = rest := by
  have hkept : ([] ++ rest).dropWhile Text.isBlank = rest :=
    (span_append (fun _ hc => absurd hc List.not_mem_nil) hink).2
  rw [List.nil_append] at hkept
  rcases hfront with ⟨before, item, rfl, hbefore, hitem⟩
  rw [List.append_assoc]
  unfold fromKey
  rw [List.dropWhile_append_of_pos hbefore]
  -- With no item before the key, a dash may come first if no blank follows it.
  rcases hitem with rfl | ⟨after, rfl, hne, hafter⟩
  · rw [List.nil_append, hkept]
    split
    · next c others =>
        rw [hdash c others rfl, if_neg Bool.false_ne_true]
    · rfl
  · obtain ⟨c, after, rfl⟩ := List.exists_cons_of_ne_nil hne
    rw [List.forall_mem_cons] at hafter
    have hmark : Text.isBlank '-' = false := by decide
    simp [hmark, hafter.1, List.dropWhile_append_of_pos hafter.2, hkept]

namespace Splits

/-- From its key on, a line has the other parts. -/
theorem fromKey_eq (h : Splits line front key gap value) :
    fromKey line = key ++ ':' :: (gap ++ value) := by
  obtain ⟨k, key, rfl⟩ := List.exists_cons_of_ne_nil h.key.1
  have hkey := List.forall_mem_cons.mp h.key.2
  rw [h.line]
  refine fromKey_append h.front (fun c hc => ?_) (fun c others hrest => ?_)
  · cases hc
    exact isBlank_of_isKeyChar hkey.1
  -- Behind the first character of a key there is another one, or the colon.
  · cases key with
    | nil =>
        cases hrest
        decide
    | cons x key =>
        cases hrest
        exact isBlank_of_isKeyChar (hkey.2 c (List.mem_cons_self ..))

theorem parts (h : Splits line front key gap value) :
    (fromKey line).takeWhile isKeyChar = key ∧
      (fromKey line).dropWhile isKeyChar = ':' :: (gap ++ value) := by
  have hcolon : isKeyChar ':' = false := by decide +kernel
  rw [h.fromKey_eq]
  refine span_append h.key.2 fun c hc => ?_
  cases hc
  exact hcolon

end Splits

/-- A line splits where its key ends, if there is a key and a value behind it. -/
theorem exists_splits_iff : (∃ front gap, Splits line front key gap value) ↔
    (fromKey line).takeWhile isKeyChar = key ∧ key ≠ [] ∧
      valueAfter? ((fromKey line).dropWhile isKeyChar) = some value := by
  constructor
  · rintro ⟨front, gap, h⟩
    refine ⟨h.parts.1, h.key.1, ?_⟩
    rw [h.parts.2]
    exact valueAfter?_eq_some_iff.mpr ⟨gap, rfl, h.gap, h.value⟩
  · rintro ⟨hkey, hne, hvalue⟩
    rcases exists_front line with ⟨front, hline, hfront⟩
    rcases valueAfter?_eq_some_iff.mp hvalue with ⟨gap, hrest, hgap, hink⟩
    -- The key is as long as its characters go on, and the value is behind it.
    have hsplit := (List.takeWhile_append_dropWhile (p := isKeyChar) (l := fromKey line)).symm
    rw [hkey, hrest] at hsplit
    refine ⟨front, gap, ?_, hfront, ⟨hne, ?_⟩, hgap, hink⟩
    · rw [← hsplit]
      exact hline
    · rw [← hkey]
      exact fun c hc => List.all_eq_true.mp List.all_takeWhile c hc

/-- A line splits in one way only. -/
theorem Splits.unique {front' key' gap' value' : List Char} (h : Splits line front key gap value)
    (h' : Splits line front' key' gap' value') :
    front = front' ∧ key = key' ∧ gap = gap' ∧ value = value' := by
  rcases exists_splits_iff.mp ⟨front, gap, h⟩ with ⟨hkey, _, hvalue⟩
  rcases exists_splits_iff.mp ⟨front', gap', h'⟩ with ⟨hkey', _, hvalue'⟩
  have hsame : value = value' := Option.some.inj (hvalue.symm.trans hvalue')
  have hrest := h.parts.2.symm.trans h'.parts.2
  have hline := h.line.symm.trans h'.line
  rw [← h.fromKey_eq, ← h'.fromKey_eq] at hline
  rw [hsame] at hrest
  exact ⟨List.append_cancel_right hline, hkey.symm.trans hkey',
    List.append_cancel_right (List.cons.inj hrest).2, hsame⟩

/-- The key and the value of a line are those of its split. -/
theorem keyLine?_eq_some_iff {found : List Char × List Char} : keyLine? line = some found ↔
    ∃ front key gap value, Splits line front key gap value ∧ found = (key, Text.trim value) := by
  -- What the function looks at is what a split is characterised by.
  have hparts (key value : List Char) : (∃ front gap, Splits line front key gap value) ↔ _ :=
    exists_splits_iff
  unfold keyLine?
  simp only []
  constructor
  · intro h
    split at h
    · cases h
    · next hne =>
        rcases Option.map_eq_some_iff.mp h with ⟨value, hvalue, rfl⟩
        rcases (hparts _ value).mpr ⟨rfl, by simpa using hne, hvalue⟩ with ⟨front, gap, hsplits⟩
        exact ⟨front, _, gap, value, hsplits, rfl⟩
  · rintro ⟨front, key, gap, value, hsplits, rfl⟩
    rcases (hparts key value).mp ⟨front, gap, hsplits⟩ with ⟨hkey, hne, hvalue⟩
    rw [hkey, hvalue, if_neg (by simpa using hne)]
    rfl

/-- The key and the value of a description are those of the line, if the key ends as the key
    of a description does. -/
theorem descriptionLine?_eq_some_iff {found : List Char × List Char} :
    descriptionLine? line = some found ↔
      keyLine? line = some found ∧ descriptionEnd <:+ found.1 := by
  unfold descriptionLine? keyLine?
  simp only []
  cases hvalue : valueAfter? ((fromKey line).dropWhile isKeyChar) with
  | none => simp
  | some value =>
      by_cases hkey : descriptionEnd <:+ (fromKey line).takeWhile isKeyChar
      · -- A key that ends as that of a description is not empty, which is all that the other form
        -- asks for.
        have hne : ((fromKey line).takeWhile isKeyChar).isEmpty = false :=
          List.isEmpty_eq_false_iff.mpr fun hnil => by
            rw [hnil, List.suffix_nil] at hkey
            cases hkey
        rw [if_pos (List.isSuffixOf_iff_suffix.mpr hkey), if_neg (by simp [hne])]
        exact ⟨fun h => ⟨h, by cases h; exact hkey⟩, And.left⟩
      · rw [if_neg (by rwa [List.isSuffixOf_iff_suffix])]
        refine ⟨fun h => (by cases h), fun h => ?_⟩
        split at h
        · cases h.1
        · rcases h with ⟨h, hends⟩
          cases h
          exact absurd hends hkey

end Lines

/-- The pattern of a line with a key and a value, as it is written. -/
def keyText : String := "^\\s*(?:-\\s+)?([\\w-]+):[ \\t]+(\\S.*)$"

/-- The pattern of a line with a description, as it is written. -/
def descriptionText : String := "^\\s*(?:-\\s+)?([\\w-]*description):[ \\t]+(\\S.*)$"

/-- The patterns of a blank, of another character, of a character of keys, and of a space or
    a tab. -/
def blankPattern : Expr := .set false [.class ⟨.space, false, false⟩] .exact

@[inherit_doc blankPattern]
def inkPattern : Expr := .set false [.class ⟨.space, true, false⟩] .exact

@[inherit_doc blankPattern]
def keyCharPattern : Expr := .set false [.class ⟨.word, false, false⟩, .char 45] .exact

@[inherit_doc blankPattern]
def gapPattern : Expr := .set false [.char 32, .char 9] .exact

/-- The pattern of the parts of a line, with a pattern for its key. -/
def partsPattern (key : Expr) : Expr :=
  .seq (.repeat blankPattern 0 none .most)
    (.seq (.repeat (.seq (.char 45) (.repeat blankPattern 1 none .most)) 0 (some 1) .most)
      (.seq (.group 1 key) (.seq (.char 58) (.seq (.repeat gapPattern 1 none .most)
        (.seq (.group 2 (.seq inkPattern (.repeat (.any false) 0 none .most)))
          (.place (.stop true)))))))

/-- The pattern of a line, from its start on. -/
def linePattern (key : Expr) : Expr := .seq (.place .start) (partsPattern key)

/-- The pattern of a line with a key and a value. -/
def keyPattern : Expr := linePattern (.repeat keyCharPattern 1 none .most)

/-- The pattern of a line with a description. -/
def descriptionPattern : Expr :=
  linePattern (.seq (.repeat keyCharPattern 0 none .most) (.spelled 'd' "escription".toList))

theorem read_keyText : Pattern.read keyText = .ok keyPattern := by
  cbv

theorem read_descriptionText : Pattern.read descriptionText = .ok descriptionPattern := by
  cbv

section Patterns

/-- A set of characters in which the case of letters counts. -/
theorem takes?_set (negated : Bool) (members : List Pattern.Member) :
    (Expr.set negated members .exact).takes?
      = some fun c => (members.any fun m => m.has c) != negated := by
  refine congrArg some (funext fun c => ?_)
  unfold Pattern.setHas
  simp only [Pattern.CaseRule.lower, Char.ofNat_toNat]

theorem takes?_blank : blankPattern.takes? = some Text.isBlank := by
  refine (takes?_set _ _).trans (congrArg some (funext fun c => ?_))
  simp [Pattern.Member.has, Pattern.CharClass.has]

theorem takes?_ink : inkPattern.takes? = some fun c => !Text.isBlank c := by
  refine (takes?_set _ _).trans (congrArg some (funext fun c => ?_))
  simp [Pattern.Member.has, Pattern.CharClass.has]

/-- A character is given by its code. -/
theorem code_eq (c x : Char) : (c.toNat == x.toNat) = (c == x) := by
  rw [Bool.eq_iff_iff, beq_iff_eq, beq_iff_eq, Char.toNat_inj]

theorem takes?_keyChar : keyCharPattern.takes? = some isKeyChar := by
  refine (takes?_set _ _).trans (congrArg some (funext fun c => ?_))
  have hdash : (c.toNat == 45) = (c == '-') := code_eq c '-'
  simp [Pattern.Member.has, Pattern.CharClass.has, isKeyChar, hdash]

theorem takes?_gap : gapPattern.takes? = some isGap := by
  refine (takes?_set _ _).trans (congrArg some (funext fun c => ?_))
  have hspace : (c.toNat == 32) = (c == ' ') := code_eq c ' '
  have htab : (c.toNat == 9) = (c == '\t') := code_eq c '\t'
  simp [Pattern.Member.has, isGap, hspace, htab]

variable {key : Expr} {extra : Nat} {ofKind : List Char → Prop} {line : List Char}

/-- What the two groups of a pattern match in a line that splits. -/
def groupsOf (front key gap value : List Char) : Pattern.Captures :=
  let start := front.length + key.length + 1 + gap.length
  [(2, (start, start + value.length)), (1, (front.length, front.length + key.length))]

/-- A line ends at its end alone, since it has no line end in it. -/
theorem drop_of_stop {p : Nat} (hline : '\n' ∉ line)
    (h : Pattern.Place.holds (.stop true) line.toArray p = true) : line.drop p = [] := by
  simp only [Pattern.Place.holds, List.size_toArray, List.getElem?_toArray, Bool.or_eq_true,
    Bool.and_eq_true, beq_iff_eq, Bool.true_and] at h
  rcases h with rfl | ⟨_, hend⟩
  · exact List.drop_length
  · exact absurd (List.mem_of_getElem? hend) hline

theorem one_le_length_iff {part : List Char} : 1 ≤ part.length ↔ part ≠ [] :=
  List.length_pos_iff

theorem spans_dash : Spans
    (.repeat (.seq (.char 45) (.repeat blankPattern 1 none .most)) 0 (some 1) .most) 5
    fun part => part = [] ∨ ∃ after, part = '-' :: after ∧ after ≠ [] ∧
      ∀ c ∈ after, Text.isBlank c = true := by
  have hdash : Spans (.char 45) 0 (· = ['-']) := Pattern.spans_char '-'
  refine ((hdash.seq (.repeat takes?_blank 1 .most)).optional .most).congr fun part => ?_
  refine or_congr_right ⟨?_, ?_⟩
  · rintro ⟨_, after, rfl, rfl, hleast, hblank⟩
    exact ⟨after, rfl, one_le_length_iff.mp hleast, hblank⟩
  · rintro ⟨after, rfl, hne, hblank⟩
    exact ⟨_, after, rfl, rfl, one_le_length_iff.mpr hne, hblank⟩

theorem spans_gap : Spans (.repeat gapPattern 1 none .most) 1
    fun part => part ≠ [] ∧ ∀ c ∈ part, isGap c = true :=
  (Spans.repeat takes?_gap 1 .most).congr fun _ => and_congr_left fun _ => one_le_length_iff

theorem spans_value : Spans (.seq inkPattern (.repeat (.any false) 0 none .most)) 2
    fun part => (∃ c, part.head? = some c ∧ Text.isBlank c = false) ∧ '\n' ∉ part := by
  have hany : (Expr.any false).takes? = some fun c => c != '\n' := rfl
  -- One character that is no blank, and then all up to the end of the line.
  refine ((Spans.take takes?_ink).seq (.repeat hany 0 .most)).congr fun part => ⟨?_, ?_⟩
  · rintro ⟨_, rest, rfl, ⟨c, rfl, hink⟩, _, hrest⟩
    rw [Bool.not_eq_true'] at hink
    refine ⟨⟨c, rfl, hink⟩, fun hmem => ?_⟩
    rcases List.mem_cons.mp hmem with rfl | hmem
    · revert hink
      decide
    · simpa using hrest '\n' hmem
  · rintro ⟨⟨c, hc, hink⟩, hnot⟩
    cases part with
    | nil => cases hc
    | cons x rest =>
        cases hc
        refine ⟨[c], rest, rfl, ⟨c, rfl, by rw [hink]; rfl⟩, Nat.zero_le _, fun x hx => ?_⟩
        exact bne_iff_ne.mpr fun heq => hnot (heq ▸ List.mem_cons_of_mem _ hx)

/-- A way in which a line is matched is a way in which it splits. -/
theorem splits_of_matches (hkey : Spans key extra ofKind)
    (hkind : ∀ k, ofKind k → k ≠ [] ∧ ∀ c ∈ k, isKeyChar c = true) (hline : '\n' ∉ line)
    {n q : Nat} {d : Pattern.Captures} (h : Matches line n (linePattern key) 0 [] q d) :
    ∃ front k gap value, Splits line front k gap value ∧ ofKind k ∧
      d = groupsOf front k gap value ∧ n ≤ 3 * line.length + (extra + 22) := by
  rcases Pattern.matches_seq_iff.mp h with ⟨_, _, _, _, hstart, hrest, hcost⟩
  rcases Pattern.matches_place_iff.mp hstart with ⟨_, rfl, rfl, rfl⟩
  rcases (Spans.repeat takes?_blank 0 .most).split_seq hrest
    with ⟨before, _, _, hbefore, ⟨_, hblank⟩, hrest, hcost₁⟩
  rcases spans_dash.split_seq hrest with ⟨item, _, _, hitem, hdash, hrest, hcost₂⟩
  rcases hkey.split_group hrest with ⟨k, _, _, hk, hof, hrest, hcost₃⟩
  rcases (Pattern.spans_char ':').split_seq hrest with ⟨_, _, _, hcolon, rfl, hrest, hcost₄⟩
  rcases spans_gap.split_seq hrest with ⟨gap, _, _, hgap, hgaps, hrest, hcost₅⟩
  rcases spans_value.split_group hrest with ⟨value, _, _, hvalue, ⟨hink, _⟩, hstop, hcost₆⟩
  rcases Pattern.matches_place_iff.mp hstop with ⟨hholds, rfl, rfl, rfl⟩
  have hdrop := drop_of_stop hline hholds
  -- The parts stand one behind the other, from the start of the line to its end.
  have hwhole := (hbefore.append hitem).append (hk.append (hcolon.append (hgap.append hvalue)))
  have hparts : line = (before ++ item) ++ (k ++ ':' :: (gap ++ value)) := by
    have hall := hwhole.drop
    rw [hdrop, List.append_nil, List.drop_zero] at hall
    exact hall
  refine ⟨before ++ item, k, gap, value,
    ⟨hparts, ⟨before, item, rfl, hblank, hdash⟩, hkind k hof, hgaps, hink⟩, hof, ?_, ?_⟩
  · simp only [groupsOf, hvalue.length, hgap.length, hcolon.length, hk.length, hitem.length,
      hbefore.length, List.length_append, List.length_singleton, Nat.zero_add]
  · -- The cost of a match is in the lengths of its parts, and these add up to that of the line.
    have hlength := congrArg List.length hparts
    simp only [List.length_append, List.length_cons, List.length_nil] at hlength hcost₄
    omega

/-- A line that splits is matched. -/
theorem matches_of_splits (hkey : Spans key extra ofKind) (hline : '\n' ∉ line)
    {front k gap value : List Char} (h : Splits line front k gap value) (hof : ofKind k) :
    ∃ n, Matches line n (linePattern key) 0 [] line.length (groupsOf front k gap value) := by
  rcases h.front with ⟨before, item, rfl, hblank, hdash⟩
  have hlast : '\n' ∉ value := fun hmem => hline (by rw [h.line]; simp [hmem])
  have hparts : line = before ++ (item ++ (k ++ ([':'] ++ (gap ++ value)))) := by
    rw [h.line, List.append_assoc]
    rfl
  -- The parts of the line stand in it one after another.
  rcases (Passes.all hparts).split with ⟨hbefore, hrest⟩
  rcases hrest.split with ⟨hitem, hrest⟩
  rcases hrest.split with ⟨hk, hrest⟩
  rcases hrest.split with ⟨hcolon, hrest⟩
  rcases hrest.split with ⟨hgap, hvalue⟩
  have hstop : Pattern.Place.holds (.stop true) line.toArray line.length = true := by
    simp [Pattern.Place.holds]
  have hgroups : groupsOf (before ++ item) k gap value
      = [(2, (0 + before.length + item.length + k.length + [':'].length + gap.length, line.length)),
        (1, (0 + before.length + item.length, 0 + before.length + item.length + k.length))] := by
    simp only [groupsOf, hvalue.length, List.length_append, List.length_singleton, Nat.zero_add]
  have hways : ∃ n, Matches line n (partsPattern key) 0 [] line.length
      (groupsOf (before ++ item) k gap value) := by
    rw [hgroups]
    refine (Spans.repeat takes?_blank 0 .most).seq_of_passes hbefore ⟨Nat.zero_le _, hblank⟩ ?_
    refine spans_dash.seq_of_passes hitem hdash (hkey.group_of_passes hk hof ?_)
    refine (Pattern.spans_char ':').seq_of_passes hcolon rfl (spans_gap.seq_of_passes hgap h.gap ?_)
    exact spans_value.group_of_passes hvalue ⟨h.value, hlast⟩ ⟨1, .place _ hstop⟩
  rcases hways with ⟨n, hways⟩
  exact ⟨_, .seq (.place _ rfl) hways⟩

/-- What the groups of a pattern for lines match are the key and the value of the split. -/
theorem groups?_linePattern (hkey : Spans key extra ofKind)
    (hkind : ∀ k, ofKind k → k ≠ [] ∧ ∀ c ∈ k, isKeyChar c = true) (hline : '\n' ∉ line)
    (hplain : (linePattern key).isPlain = true)
    (hroom : ∀ n, 3 * n + (extra + 22) < (linePattern key).bound n) {k value : List Char} :
    (linePattern key).groups? 2 line = some [some k, some value] ↔
      ofKind k ∧ ∃ front gap, Splits line front k gap value := by
  have hmatch {d : Pattern.Captures} : (linePattern key).match? line = some d ↔
      ∃ n q, Matches line n (linePattern key) 0 [] q d := by
    refine Pattern.match?_eq_some_iff hplain (fun m n q r f g hf hg => ?_) (fun n q f hf => ?_)
    · rcases splits_of_matches hkey hkind hline hf with ⟨_, _, _, _, hsplits, _, rfl, _⟩
      rcases splits_of_matches hkey hkind hline hg with ⟨_, _, _, _, hsplits', _, rfl, _⟩
      rcases hsplits.unique hsplits' with ⟨rfl, rfl, rfl, rfl⟩
      rfl
    · rcases splits_of_matches hkey hkind hline hf with ⟨_, _, _, _, _, _, _, hcost⟩
      exact Nat.lt_of_le_of_lt hcost (hroom line.length)
  -- What a split puts into the groups is cut out of the line again.
  have hgroups {front k gap value : List Char} (h : Splits line front k gap value) :
      (List.range' 1 2).map (fun number => ((groupsOf front k gap value).lookup number).map
        fun place => (line.drop place.1).take (place.2 - place.1)) = [some k, some value] := by
    have hk : (line.drop front.length).take k.length = k := by
      rw [h.line, List.drop_left, List.take_left]
    have hvalue : line.drop (front.length + k.length + 1 + gap.length) = value := by
      have hparts : line = (front ++ k ++ [':'] ++ gap) ++ value := by simp [h.line]
      rw [hparts]
      refine List.drop_left' ?_
      simp only [List.length_append, List.length_singleton]
    simp [groupsOf, List.range', List.lookup_cons, hk, hvalue]
  unfold Expr.groups?
  rw [Option.map_eq_some_iff]
  constructor
  · rintro ⟨d, hd, hfound⟩
    rcases hmatch.mp hd with ⟨n, q, hways⟩
    rcases splits_of_matches hkey hkind hline hways with ⟨front, k', gap, value', h, hof, rfl, _⟩
    have hsame := (hgroups h).symm.trans hfound
    simp only [List.cons.injEq, Option.some.injEq, and_true] at hsame
    rcases hsame with ⟨rfl, rfl⟩
    exact ⟨hof, front, gap, h⟩
  · rintro ⟨hof, front, gap, h⟩
    rcases matches_of_splits hkey hline h hof with ⟨n, hways⟩
    exact ⟨_, hmatch.mpr ⟨n, _, hways⟩, hgroups h⟩

/-- What the groups of the pattern for lines with a key match. -/
theorem groups?_keyPattern (hline : '\n' ∉ line) {k value : List Char} :
    keyPattern.groups? 2 line = some [some k, some value] ↔
      ∃ front gap, Splits line front k gap value := by
  have hkey : Spans (.repeat keyCharPattern 1 none .most) 1
      fun k => k ≠ [] ∧ ∀ c ∈ k, isKeyChar c = true :=
    (Spans.repeat takes?_keyChar 1 .most).congr fun _ => and_congr_left fun _ => one_le_length_iff
  have hroom (n : Nat) : 3 * n + (1 + 22) < keyPattern.bound n := by
    have hsize : keyPattern.size = 41 := rfl
    unfold Expr.bound
    rw [hsize]
    omega
  refine (groups?_linePattern hkey (fun _ h => h) hline rfl hroom).trans (and_iff_right_of_imp ?_)
  rintro ⟨front, gap, h⟩
  exact h.key

theorem isKeyChar_descriptionEnd : ∀ c ∈ descriptionEnd, isKeyChar c = true := by
  have hall : descriptionEnd.all isKeyChar = true := by decide +kernel
  exact List.all_eq_true.mp hall

/-- What the groups of the pattern for descriptions match: it is the pattern for keys with an
    end that the key must have. -/
theorem groups?_descriptionPattern (hline : '\n' ∉ line) {k value : List Char} :
    descriptionPattern.groups? 2 line = some [some k, some value] ↔
      (∃ front gap, Splits line front k gap value) ∧ descriptionEnd <:+ k := by
  have hkey := (Spans.repeat takes?_keyChar 0 .most).seq
    (Pattern.spans_spelled 'd' "escription".toList)
  have hkind : ∀ k, (∃ u v, k = u ++ v ∧ (0 ≤ u.length ∧ ∀ x ∈ u, isKeyChar x = true) ∧
      v = 'd' :: "escription".toList) → k ≠ [] ∧ ∀ c ∈ k, isKeyChar c = true := by
    rintro _ ⟨u, _, rfl, ⟨_, hu⟩, rfl⟩
    refine ⟨List.append_ne_nil_of_right_ne_nil _ (List.cons_ne_nil _ _), fun c hc => ?_⟩
    exact (List.mem_append.mp hc).elim (hu c) (isKeyChar_descriptionEnd c)
  -- The bound on the steps is above what any match of this pattern costs.
  have hroom (n : Nat) : 3 * n + (1 + 10 + 1 + 22) < descriptionPattern.bound n := by
    have hsize : descriptionPattern.size = 63 := rfl
    unfold Expr.bound
    rw [hsize]
    omega
  refine (groups?_linePattern hkey hkind hline rfl hroom).trans ?_
  rw [and_comm]
  refine and_congr_right ?_
  rintro ⟨front, gap, h⟩
  constructor
  · rintro ⟨u, _, rfl, _, rfl⟩
    exact ⟨u, rfl⟩
  · rintro ⟨u, rfl⟩
    exact ⟨u, _, rfl, ⟨Nat.zero_le _, fun x hx => h.key.2 x (List.mem_append_left _ hx)⟩, rfl⟩

end Patterns

end Wording

end Annals
