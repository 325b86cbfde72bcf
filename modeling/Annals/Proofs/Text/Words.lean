import Annals.Proofs.Text.Lines
import Annals.Text.Case
import Mathlib.Data.List.TakeWhile

/-!
# Words and Lower Case

How a text falls into words, and that words keep their places when the case of the
text around them is changed.

A text can be taken apart in two ways: all words at once, or the first word and what
follows it. `words_eq` says that they agree, and `words_eq_pair` what that comes to
for texts of two words. Blanks at the ends do not matter for either.

The lower case of a letter depends on the letters around it for the capital sigma
alone. Its forms are no letters of ASCII, so a word whose lower case is a word of
ASCII has none, and is found in lower case wherever it stands. In the other direction
this can be said of characters without a case: a row of them in the lower case of a text
was there before.

## Main definitions

* `Caseless`: A character without a case.

## Theorems

* `words_eq`: The words of a text, one by one.
* `words_eq_singleton`: A text of one word.
* `words_eq_pair`: A text of two words.
* `lower_infix`: A word in lower case within a text in lower case.
* `infix_of_lower`: Characters without a case within a text in lower case.
-/

namespace Annals

namespace Text

/-- The characters of words. -/
def isInk (c : Char) : Bool := !isBlank c

theorem wordsFrom_eq {word : List Char} (hword : word ≠ []) (cs : List Char) :
    wordsFrom word cs = (word.reverse ++ cs.takeWhile isInk) :: words (cs.dropWhile isInk) := by
  induction cs generalizing word with
  | nil =>
      rw [wordsFrom, if_neg (by simpa using hword)]
      simp [words, wordsFrom]
  | cons c rest ih =>
      rw [wordsFrom, List.takeWhile_cons, List.dropWhile_cons]
      cases hc : isBlank c with
      | true =>
          -- The current word ends here, and the blank belongs to none.
          have hne : word.isEmpty = false := by simpa using hword
          have hrest : words (c :: rest) = wordsFrom [] rest := by
            rw [words, wordsFrom, hc]
            rfl
          simp [isInk, hc, hne, hrest]
      | false =>
          rw [if_neg Bool.false_ne_true, ih (List.cons_ne_nil c word)]
          simp [isInk, hc]

theorem words_cons_blank {c : Char} (h : isBlank c = true) (rest : List Char) :
    words (c :: rest) = words rest := by
  unfold words
  rw [wordsFrom, h]
  rfl

theorem words_cons_ink {c : Char} (h : isBlank c = false) (rest : List Char) :
    words (c :: rest) = (c :: rest.takeWhile isInk) :: words (rest.dropWhile isInk) := by
  have hstep : words (c :: rest) = wordsFrom [c] rest := by
    unfold words
    rw [wordsFrom, h]
    rfl
  rw [hstep, wordsFrom_eq (List.cons_ne_nil c [])]
  rfl

theorem words_trimStart (cs : List Char) : words (trimStart cs) = words cs := by
  unfold trimStart
  induction cs with
  | nil => rfl
  | cons c rest ih =>
      rw [List.dropWhile_cons]
      cases hc : isBlank c with
      | true => rw [if_pos rfl, ih, words_cons_blank hc]
      | false => rw [if_neg Bool.false_ne_true]

theorem trimStart_cons {cs rest : List Char} {c : Char} (h : trimStart cs = c :: rest) :
    isBlank c = false := by
  have hhead := List.head?_dropWhile_not isBlank cs
  unfold trimStart at h
  rw [h] at hhead
  simpa using hhead

theorem firstWord_ne_nil {cs : List Char} (h : trimStart cs ≠ []) : (firstWord cs).1 ≠ [] := by
  unfold firstWord
  cases hs : trimStart cs with
  | nil => exact absurd hs h
  | cons c rest => simp [trimStart_cons hs]

/-- The words of a text are its first word, if it has one, and those of what follows. -/
theorem words_eq (cs : List Char) :
    words cs = if trimStart cs = [] then [] else (firstWord cs).1 :: words (firstWord cs).2 := by
  have hstart := words_trimStart cs
  unfold firstWord
  simp only [words_trimStart]
  cases h : trimStart cs with
  | nil =>
      rw [if_pos rfl, ← hstart, h]
      rfl
  | cons c rest =>
      have hc := trimStart_cons h
      rw [if_neg (List.cons_ne_nil c rest), ← hstart, h, words_cons_ink hc]
      have hink : (fun c => !isBlank c) = isInk := rfl
      simp only [hink]
      rw [List.takeWhile_cons, List.dropWhile_cons]
      simp [isInk, hc]

theorem words_eq_nil {cs : List Char} (h : ∀ c ∈ cs, isBlank c = true) : words cs = [] := by
  induction cs with
  | nil => rfl
  | cons c rest ih =>
      rw [words_cons_blank (h c (List.mem_cons_self ..))]
      exact ih (fun x hx => h x (List.mem_cons_of_mem _ hx))

theorem blank_of_words_eq_nil {cs : List Char} (h : words cs = []) :
    ∀ c ∈ cs, isBlank c = true := by
  induction cs with
  | nil => exact fun c hc => absurd hc (List.not_mem_nil)
  | cons c rest ih =>
      cases hc : isBlank c with
      | false =>
          rw [words_cons_ink hc] at h
          cases h
      | true =>
          rw [words_cons_blank hc] at h
          intro d hd
          rcases List.mem_cons.mp hd with rfl | hd
          · exact hc
          · exact ih h d hd

/-- A text without blanks is one word. -/
theorem words_of_ink {cs : List Char} (hne : cs ≠ []) (h : ∀ c ∈ cs, isBlank c = false) :
    words cs = [cs] := by
  cases cs with
  | nil => exact absurd rfl hne
  | cons c rest =>
      have hink : ∀ d ∈ rest, isInk d = true := by
        intro d hd
        unfold isInk
        rw [h d (List.mem_cons_of_mem _ hd)]
        rfl
      rw [words_cons_ink (h c (List.mem_cons_self ..)), List.takeWhile_eq_self_iff.mpr hink,
        List.dropWhile_eq_nil_iff.mpr hink]
      rfl

/-- A text is what is left without the blanks at its ends, with blanks around. -/
theorem trim_eq (cs : List Char) :
    ∃ before after, cs = before ++ (trim cs ++ after) ∧ (∀ c ∈ before, isBlank c = true) ∧
      ∀ c ∈ after, isBlank c = true := by
  have hstart : cs = cs.takeWhile isBlank ++ trimStart cs :=
    (List.takeWhile_append_dropWhile).symm
  have hend : trimStart cs
      = trim cs ++ ((trimStart cs).reverse.takeWhile isBlank).reverse := by
    unfold trim trimEnd dropEndWhile
    rw [← List.reverse_append, List.takeWhile_append_dropWhile, List.reverse_reverse]
  refine ⟨cs.takeWhile isBlank, ((trimStart cs).reverse.takeWhile isBlank).reverse, ?_, ?_, ?_⟩
  · rw [← hend]
    exact hstart
  · exact fun c hc => List.all_eq_true.mp List.all_takeWhile c hc
  · exact fun c hc => List.all_eq_true.mp List.all_takeWhile c (List.mem_reverse.mp hc)

/-- A text without the blanks at its ends does not begin or end with one. -/
theorem trim_ends (cs : List Char) :
    (∀ c ∈ (trim cs).head?, isBlank c = false) ∧ ∀ c ∈ (trim cs).getLast?, isBlank c = false := by
  constructor
  · intro c hc
    -- Blanks are taken off the end alone, so the text begins as it did.
    have hprefix : trim cs <+: trimStart cs := by
      unfold trim trimEnd dropEndWhile
      have hsuffix := List.dropWhile_suffix isBlank (l := (trimStart cs).reverse)
      have hreverse := List.reverse_prefix.mpr hsuffix
      rwa [List.reverse_reverse] at hreverse
    have hhead : (trimStart cs).head? = some c := by
      rcases hprefix with ⟨rest, hrest⟩
      rw [← hrest, List.head?_append, hc]
      rfl
    have hnot := List.head?_dropWhile_not isBlank cs
    unfold trimStart at hhead
    rw [hhead] at hnot
    simpa using hnot
  · intro c hc
    unfold trim trimEnd dropEndWhile at hc
    rw [List.getLast?_reverse] at hc
    have hnot := List.head?_dropWhile_not isBlank (trimStart cs).reverse
    rw [hc] at hnot
    simpa using hnot

theorem trim_head (cs : List Char) : (trim cs).head? ≠ some ' ' := fun h =>
  absurd ((trim_ends cs).1 ' ' h) (by decide)

/-- A text that neither begins nor ends with a blank stays as it is when it is trimmed. -/
theorem trim_of_ends {cs : List Char} (hhead : ∀ c ∈ cs.head?, isBlank c = false)
    (hlast : ∀ c ∈ cs.getLast?, isBlank c = false) : trim cs = cs := by
  have hkept (l : List Char) (h : ∀ c ∈ l.head?, isBlank c = false) :
      l.dropWhile isBlank = l := by
    cases l with
    | nil => rfl
    | cons c l =>
        rw [List.dropWhile_cons, h c rfl]
        rfl
  have hreverse : cs.reverse.dropWhile isBlank = cs.reverse :=
    hkept _ (fun c hc => hlast c (by rwa [List.head?_reverse] at hc))
  unfold trim trimStart trimEnd dropEndWhile
  rw [hkept cs hhead, hreverse, List.reverse_reverse]

theorem words_blank_append {before : List Char} (h : ∀ c ∈ before, isBlank c = true)
    (cs : List Char) : words (before ++ cs) = words cs := by
  induction before with
  | nil => rfl
  | cons c rest ih =>
      rw [List.cons_append, words_cons_blank (h c (List.mem_cons_self ..))]
      exact ih (fun x hx => h x (List.mem_cons_of_mem _ hx))

theorem words_append_blank (cs : List Char) {after : List Char}
    (h : ∀ c ∈ after, isBlank c = true) : words (cs ++ after) = words cs := by
  -- Blanks end the current word in the same way as the end of the text.
  have hafter : ∀ word, wordsFrom word after = wordsFrom word [] := by
    intro word
    cases after with
    | nil => rfl
    | cons c rest =>
        have hrest : wordsFrom [] rest = [] :=
          words_eq_nil (fun x hx => h x (List.mem_cons_of_mem _ hx))
        simp only [wordsFrom, h c (List.mem_cons_self ..), hrest, if_true]
  have hfrom : ∀ word, wordsFrom word (cs ++ after) = wordsFrom word cs := by
    induction cs with
    | nil => exact hafter
    | cons c rest ih =>
        intro word
        rw [List.cons_append, wordsFrom, wordsFrom, ih, ih]
  exact hfrom []

theorem words_trim (cs : List Char) : words (trim cs) = words cs := by
  rcases trim_eq cs with ⟨before, after, hcs, hbefore, hafter⟩
  calc words (trim cs) = words (trim cs ++ after) := (words_append_blank _ hafter).symm
    _ = words (before ++ (trim cs ++ after)) := (words_blank_append hbefore _).symm
    _ = words cs := by rw [← hcs]

/-- A text of one word is this word and blanks. -/
theorem words_eq_singleton {cs w : List Char} (h : words cs = [w]) : trim cs = w := by
  rw [← words_trim] at h
  rcases trim_ends cs with ⟨hhead, hlast⟩
  cases ht : trim cs with
  | nil =>
      rw [ht] at h
      cases h
  | cons c rest =>
      rw [ht] at h hhead hlast
      rw [words_cons_ink (hhead c rfl)] at h
      simp only [List.cons.injEq] at h
      have hblank := blank_of_words_eq_nil h.2
      have hsplit := List.takeWhile_append_dropWhile (p := isInk) (l := rest)
      -- A blank behind the word would be the end of the text.
      have hnone : rest.dropWhile isInk = [] := by
        cases hd : (rest.dropWhile isInk).getLast? with
        | none => exact List.getLast?_eq_none_iff.mp hd
        | some d =>
            have hend : (c :: rest).getLast? = some d := by
              rw [← hsplit, ← List.cons_append, List.getLast?_append, hd]
              rfl
            have hmem : d ∈ rest.dropWhile isInk := List.mem_of_getLast? hd
            exact Bool.noConfusion ((hblank d hmem).symm.trans (hlast d hend))
      rw [hnone, List.append_nil] at hsplit
      rw [← h.1, hsplit]

/-- A text of two words: its first word, and what is left of the rest without blanks at
    its ends, are these two. Nothing is said of a rest of several words but that it has
    a blank inside. -/
theorem words_eq_pair {cs v w : List Char} (hw : w ≠ []) (hink : ∀ c ∈ w, isBlank c = false) :
    words cs = [v, w] ↔
      v ≠ [] ∧ (firstWord (trim cs)).1 = v ∧ trim (firstWord (trim cs)).2 = w := by
  rw [← words_trim, words_eq]
  constructor
  · intro h
    split at h
    · cases h
    · next hne =>
        simp only [List.cons.injEq] at h
        refine ⟨?_, h.1, words_eq_singleton h.2⟩
        rw [← h.1]
        exact firstWord_ne_nil hne
  · rintro ⟨hv, hfirst, hrest⟩
    -- Without a first word there would be no word at all.
    have hne : trimStart (trim cs) ≠ [] := by
      intro hnil
      unfold firstWord at hfirst
      simp only [hnil] at hfirst
      exact hv hfirst.symm
    rw [if_neg hne, hfirst, ← words_trim (firstWord (trim cs)).2, hrest, words_of_ink hw hink]

theorem infix_of_mem_wordsFrom {w word cs : List Char} (h : w ∈ wordsFrom word cs) :
    w <:+: word.reverse ++ cs := by
  induction cs generalizing word with
  | nil =>
      rw [wordsFrom] at h
      split at h
      · exact absurd h (List.not_mem_nil)
      · exact ⟨[], [], by simp [List.mem_singleton.mp h]⟩
  | cons c rest ih =>
      have hrest : w ∈ wordsFrom [] rest → w <:+: word.reverse ++ c :: rest := by
        intro hw
        have hsuffix : rest <:+ word.reverse ++ c :: rest :=
          (List.suffix_cons c rest).trans (List.suffix_append _ _)
        exact (ih hw).trans hsuffix.isInfix
      rw [wordsFrom] at h
      split at h
      · -- A blank ends the word that was begun, if there is one.
        split at h
        · exact hrest h
        · rcases List.mem_cons.mp h with rfl | h
          · exact (List.prefix_append _ _).isInfix
          · exact hrest h
      · have hgo := ih h
        rw [List.reverse_cons, List.append_assoc] at hgo
        exact hgo

theorem mem_wordsFrom {c : Char} {cs : List Char} (h : isBlank c = false) (word : List Char)
    (hc : c ∈ word ∨ c ∈ cs) : ∃ w ∈ wordsFrom word cs, c ∈ w := by
  induction cs generalizing word with
  | nil =>
      have hmem : c ∈ word := hc.resolve_right List.not_mem_nil
      have hne : word.isEmpty = false := by
        rw [List.isEmpty_eq_false_iff]
        exact List.ne_nil_of_mem hmem
      rw [wordsFrom, hne]
      exact ⟨word.reverse, List.mem_singleton.mpr rfl, List.mem_reverse.mpr hmem⟩
  | cons x rest ih =>
      rw [wordsFrom]
      cases hx : isBlank x with
      | false => exact ih (x :: word) (by simpa [or_assoc, or_comm, or_left_comm] using hc)
      | true =>
          -- The character is no blank, so it is not the one that ends the word.
          have hrest : c ∈ word ∨ c ∈ rest := by
            rcases hc with hc | hc
            · exact Or.inl hc
            · rcases List.mem_cons.mp hc with rfl | hc
              · rw [h] at hx
                cases hx
              · exact Or.inr hc
          rw [if_pos rfl]
          cases word with
          | nil => exact ih [] hrest
          | cons y word =>
              rcases hrest with hmem | hmem
              · exact ⟨_, List.mem_cons_self .., List.mem_reverse.mpr hmem⟩
              · rcases ih [] (Or.inr hmem) with ⟨w, hw, hcw⟩
                exact ⟨w, List.mem_cons_of_mem _ hw, hcw⟩

/-- What is no blank stands in a word. -/
theorem mem_words {c : Char} {cs : List Char} (h : isBlank c = false) (hc : c ∈ cs) :
    ∃ w ∈ words cs, c ∈ w :=
  mem_wordsFrom h [] (Or.inr hc)

/-- A word stands in the text. -/
theorem infix_of_mem_words {w cs : List Char} (h : w ∈ words cs) : w <:+: cs :=
  infix_of_mem_wordsFrom h

/-- The capital sigma, whose lower case depends on the letters around it. -/
def isSigma (c : Char) : Bool := c.toNat == 931

/-- Letters without a capital sigma are put in lower case one by one. -/
theorem lowerFrom_append {w : List Char} (h : ∀ c ∈ w, isSigma c = false)
    (before rest : List Char) :
    lowerFrom before (w ++ rest) = w.flatMap lowerChar ++ lowerFrom (w.reverse ++ before) rest := by
  induction w generalizing before with
  | nil => rfl
  | cons c w ih =>
      have hc : (c.toNat == 931) = false := h c (List.mem_cons_self ..)
      rw [List.cons_append, lowerFrom, hc, ih (fun x hx => h x (List.mem_cons_of_mem _ hx))]
      simp

/-- The lower case of the end of a text is the end of its lower case. -/
theorem lowerFrom_suffix (before first rest : List Char) :
    lowerFrom (first.reverse ++ before) rest <:+ lowerFrom before (first ++ rest) := by
  induction first generalizing before with
  | nil => exact List.suffix_refl _
  | cons c first ih =>
      have h := ih (c :: before)
      rw [List.reverse_cons, List.append_assoc]
      refine h.trans ?_
      rw [List.cons_append]
      conv => rhs; rw [lowerFrom]
      exact List.suffix_append _ _

/-- A capital sigma becomes one of the two small ones. -/
theorem mem_lowerFrom_of_sigma {w : List Char} {c : Char} (hc : c ∈ w) (h : isSigma c = true)
    (before : List Char) : ∃ d ∈ lowerFrom before w, 128 ≤ d.toNat := by
  induction w generalizing before with
  | nil => exact absurd hc (List.not_mem_nil)
  | cons x w ih =>
      rw [lowerFrom]
      rcases List.mem_cons.mp hc with rfl | hc
      · have hsigma : (c.toNat == 931) = true := h
        refine ⟨Char.ofNat (if endsWord before w then 962 else 963), ?_, ?_⟩
        · rw [hsigma]
          simp
        · split <;> decide
      · rcases ih hc (x :: before) with ⟨d, hd, hge⟩
        exact ⟨d, List.mem_append.mpr (Or.inr hd), hge⟩

theorem exists_range {r : Ranges} {n : Nat} (h : r.has n = true) :
    ∃ p ∈ r, p.1 ≤ n ∧ n ≤ p.2 := by
  induction r with
  | nil => cases h
  | cons p rest ih =>
      rw [Ranges.has] at h
      split at h
      · cases h
      · next hlow =>
          rcases Bool.or_eq_true_iff.mp h with hhigh | hrest
          · exact ⟨p, List.mem_cons_self .., Nat.le_of_not_lt hlow, of_decide_eq_true hhigh⟩
          · rcases ih hrest with ⟨q, hq, hn⟩
            exact ⟨q, List.mem_cons_of_mem _ hq, hn⟩

/-- There are 29 blanks: what each of their codes has, every blank has. -/
theorem code_of_blank {has : Nat → Bool}
    (hall : ∀ r ∈ blankRanges, ∀ k < r.2 - r.1 + 1, has (r.1 + k) = true) {c : Char}
    (h : isBlank c = true) : has c.toNat = true := by
  rcases exists_range h with ⟨r, hr, hlow, hhigh⟩
  have hcode := hall r hr (c.toNat - r.1) (by omega)
  have hsum : r.1 + (c.toNat - r.1) = c.toNat := by omega
  rwa [hsum] at hcode

/-- Blanks have no case. -/
theorem lowerChar_blank {c : Char} (h : isBlank c = true) :
    isSigma c = false ∧ lowerChar c = [c] := by
  have hcode := @code_of_blank (fun n => !(n == 931) && !(n == 304) &&
    (CaseRun.image? lowerRuns n).isNone) (by decide +kernel) c h
  simp only [Bool.and_eq_true, Bool.not_eq_true', Option.isNone_iff_eq_none] at hcode
  refine ⟨hcode.1.1, ?_⟩
  unfold lowerChar
  rw [hcode.1.2, hcode.2]
  rfl

/-- A character without a case stays in a text that is put in lower case. -/
theorem mem_lower_of_caseless {c : Char} {cs : List Char} (hsigma : isSigma c = false)
    (hlower : lowerChar c = [c]) (hc : c ∈ cs) : c ∈ lower cs := by
  rcases List.append_of_mem hc with ⟨first, rest, rfl⟩
  have hsuffix := lowerFrom_suffix [] first (c :: rest)
  have hsplit : lowerFrom (first.reverse ++ []) (c :: rest)
      = c :: lowerFrom (c :: (first.reverse ++ [])) rest := by
    have hcode : (c.toNat == 931) = false := hsigma
    rw [lowerFrom, hcode, if_neg Bool.false_ne_true, hlower]
    rfl
  rw [hsplit] at hsuffix
  exact hsuffix.mem (List.mem_cons_self ..)

/-- Blanks stay in a text when it is put in lower case. -/
theorem mem_lower_of_blank {c : Char} {cs : List Char} (h : isBlank c = true) (hc : c ∈ cs) :
    c ∈ lower cs :=
  mem_lower_of_caseless (lowerChar_blank h).1 (lowerChar_blank h).2 hc

/-- A word whose lower case is one of ASCII is found in lower case wherever it stands. -/
theorem lower_infix {w target cs : List Char} (h : lower w = target)
    (hascii : target.all (·.toNat < 128) = true) (hw : w <:+: cs) : target <:+: lower cs := by
  -- A capital sigma would show in lower case as a letter outside of ASCII.
  have hplain : ∀ c ∈ w, isSigma c = false := by
    intro c hc
    cases hsigma : isSigma c with
    | false => rfl
    | true =>
        rcases mem_lowerFrom_of_sigma hc hsigma [] with ⟨d, hd, hge⟩
        have hlt := of_decide_eq_true (List.all_eq_true.mp hascii d (h ▸ hd))
        omega
  have htarget : w.flatMap lowerChar = target := by
    have hall := lowerFrom_append hplain [] []
    rw [List.append_nil] at hall
    rw [← h, lower, hall, lowerFrom, List.append_nil]
  rcases hw with ⟨first, last, rfl⟩
  have hsuffix := lowerFrom_suffix [] first (w ++ last)
  rw [lowerFrom_append hplain, htarget] at hsuffix
  rw [List.append_assoc]
  exact (List.prefix_append _ _).isInfix.trans hsuffix.isInfix

/-- A character without a case, which is not the lower case of any other. -/
structure Caseless (c : Char) : Prop where
  own : lowerChar c = [c]
  only : ∀ d, c ∈ lowerChar d → d = c
  sigma : c.toNat ≠ 962 ∧ c.toNat ≠ 963
  capital : c.toNat ≠ 931

/-- What a character of a text is put in lower case to. -/
theorem lowerFrom_cons (before : List Char) (d : Char) (rest : List Char) :
    ∃ piece, piece ≠ [] ∧ lowerFrom before (d :: rest) = piece ++ lowerFrom (d :: before) rest ∧
      ∀ c, Caseless c → (c ∈ piece → d = c) ∧ (d = c → piece = [c]) := by
  cases hd : d.toNat == 931 with
  | true =>
      -- A capital sigma becomes one of the two small ones.
      refine ⟨[Char.ofNat (if endsWord before rest then 962 else 963)], List.cons_ne_nil _ _, ?_,
        fun c hc => ⟨fun hmem => ?_, fun heq => ?_⟩⟩
      · rw [lowerFrom, hd]
        rfl
      · rw [List.mem_singleton] at hmem
        split at hmem
        · exact absurd (congrArg Char.toNat hmem) hc.sigma.1
        · exact absurd (congrArg Char.toNat hmem) hc.sigma.2
      · subst heq
        exact absurd hd (by simpa using hc.capital)
  | false =>
      refine ⟨lowerChar d, ?_, ?_, fun c hc => ⟨hc.only d, fun heq => heq ▸ hc.own⟩⟩
      · unfold lowerChar
        split <;> exact List.cons_ne_nil _ _
      · rw [lowerFrom, hd]
        rfl

theorem infix_of_append {c : Char} {piece rest : List Char} {n : Nat} (h : c ∉ piece)
    (hin : List.replicate n c <:+: piece ++ rest) : List.replicate n c <:+: rest := by
  cases n with
  | zero => exact List.nil_infix
  | succ n =>
      induction piece with
      | nil => exact hin
      | cons x piece ih =>
          rw [List.mem_cons, not_or] at h
          rw [List.cons_append] at hin
          rcases List.infix_cons_iff.mp hin with hin | hin
          · rw [List.replicate_succ, List.cons_prefix_cons] at hin
            exact absurd hin.1 h.1
          · exact ih h.2 hin

/-- A row of such a character at the beginning of a text in lower case is at the beginning of
    the text. -/
theorem prefix_of_lowerFrom {c : Char} (hc : Caseless c) (n : Nat) (before : List Char)
    {cs : List Char} (h : List.replicate n c <+: lowerFrom before cs) :
    List.replicate n c <+: cs := by
  induction n generalizing before cs with
  | zero => exact List.nil_prefix
  | succ n ih =>
      cases cs with
      | nil => exact h
      | cons d rest =>
          rcases lowerFrom_cons before d rest with ⟨piece, hne, hpiece, hmem⟩
          rw [hpiece, List.replicate_succ] at h
          -- A character that lower case yields only for itself was there already.
          have hd : d = c := by
            cases piece with
            | nil => exact absurd rfl hne
            | cons x piece =>
                rw [List.cons_append, List.cons_prefix_cons] at h
                exact (hmem c hc).1 (h.1 ▸ List.mem_cons_self ..)
          rw [(hmem c hc).2 hd, List.singleton_append, List.cons_prefix_cons] at h
          rw [List.replicate_succ, hd, List.cons_prefix_cons]
          exact ⟨rfl, ih _ h.2⟩

/-- A row of such a character in the lower case of a text stands in the text. -/
theorem infix_of_lower {c : Char} (hc : Caseless c) {n : Nat} {cs : List Char}
    (h : List.replicate n c <:+: lower cs) : List.replicate n c <:+: cs := by
  unfold lower at h
  generalize [] = before at h
  induction cs generalizing before with
  | nil => exact h
  | cons d rest ih =>
      rcases lowerFrom_cons before d rest with ⟨piece, _, hpiece, hmem⟩
      have hcons := h
      rw [hpiece] at hcons
      -- The row begins with this character, or lies behind all that is made of it.
      by_cases hd : d = c
      · rw [(hmem c hc).2 hd, List.singleton_append] at hcons
        rcases List.infix_cons_iff.mp hcons with hstart | hrest
        · refine (prefix_of_lowerFrom hc n before ?_).isInfix
          rw [hpiece, (hmem c hc).2 hd]
          exact hstart
        · exact (ih _ hrest).trans (List.suffix_cons _ _).isInfix
      · have hnot : c ∉ piece := fun hin => hd ((hmem c hc).1 hin)
        exact (ih _ (infix_of_append hnot hcons)).trans (List.suffix_cons _ _).isInfix

theorem image?_range {runs : List CaseRun} {n m : Nat} (h : CaseRun.image? runs n = some m) :
    ∃ run ∈ runs, run.low ≤ n ∧ n ≤ run.high ∧ (n - run.low) % run.step = 0 ∧
      m = (n + run.shift).toNat := by
  induction runs with
  | nil => cases h
  | cons run rest ih =>
      rw [CaseRun.image?] at h
      split at h
      · cases h
      · next hlow =>
          split at h
          · next hin =>
              cases h
              rcases Bool.and_eq_true_iff.mp hin with ⟨hhigh, hstep⟩
              exact ⟨run, List.mem_cons_self .., Nat.le_of_not_lt hlow, of_decide_eq_true hhigh,
                eq_of_beq hstep, rfl⟩
          · rcases ih h with ⟨other, hother, hrange⟩
            exact ⟨other, List.mem_cons_of_mem _ hother, hrange⟩

/-- The code of the character with some code, which is none if there is no such character. -/
theorem toNat_ofNat (n : Nat) : (Char.ofNat n).toNat = n ∨ (Char.ofNat n).toNat = 0 := by
  by_cases hvalid : n.isValidChar
  · have hn : Char.ofNat n = Char.ofNatAux n hvalid := dif_pos hvalid
    rw [hn]
    exact Or.inl rfl
  · have hn : Char.ofNat n = Char.ofNat 0 := dif_neg hvalid
    rw [hn]
    exact Or.inr rfl

theorem ofNat_eq_backquote {m : Nat} (h : Char.ofNat m = Char.ofNat 96) : m = 96 := by
  have hcode : (Char.ofNat m).toNat = 96 := congrArg Char.toNat h
  rcases toNat_ofNat m with hm | hm <;> omega

/-- The backquote has no case. -/
theorem caseless_backquote : Caseless (Char.ofNat 96) where
  own := by decide +kernel
  only := by
    intro d hd
    unfold lowerChar at hd
    split at hd
    · exact absurd hd (by decide)
    · rw [List.mem_singleton] at hd
      cases himage : CaseRun.image? lowerRuns d.toNat with
      | none =>
          rw [himage] at hd
          exact hd.symm
      | some m =>
          -- No run of letters has the backquote among their small letters.
          have hnone : ∀ run ∈ lowerRuns, (96 : Int) < run.low + run.shift ∨
              run.high + run.shift < 96 := by decide +kernel
          rcases image?_range himage with ⟨run, hrun, hlow, hhigh, _, hm⟩
          have hcode := hnone run hrun
          rw [himage, Option.map_some, Option.getD_some] at hd
          have hvalue : m = 96 := ofNat_eq_backquote hd.symm
          omega
  sigma := by decide
  capital := by decide

end Text

end Annals
