import Annals.Lint.References
import Annals.Proofs.Text.Words
import Annals.Proofs.Yaml.Cursor
import Annals.Yaml.Scan
import Annals.Yaml.Tag

/-!
# Slugs as Plain Scalars

The slug of a heading is made of letters and numbers of any script and of hyphens, in
lower case. So all of it can be written as one word of a plain scalar. But not every word
is a string: some slugs are written like a truth value, like no value, like a whole number
or like a day, and a plain scalar is read as what it looks like.

There are more ways to write such values than there are slugs of this kind. Without a
point there are no fractions, without colons neither times nor numbers in base sixty, and
in lower case each word has only one form. What is left is `Slug.isOther`, and each slug
is a string or one of these.

## Main definitions

* `Slug.IsSlug`: What the slugs of headings consist of.
* `Slug.isOther`: A slug that a plain scalar reads as something other than a string.

## Theorems

* `isSlug_of_mem`: The slugs of the headings of a document are such slugs.
* `IsSlug.ofPlain`: A slug is a string as a plain scalar, or is one of the others.
-/

namespace Annals

namespace Text

/-- Whether `c` is a capital letter of ASCII. -/
def isAsciiUpper (c : Char) : Bool := 'A' ≤ c && c ≤ 'Z'

theorem not_upper_iff {c : Char} : isAsciiUpper c = false ↔ c.toNat < 65 ∨ 90 < c.toNat := by
  have hcode : c.toNat = c.val.toNat := rfl
  have hends : 'A'.val.toNat = 65 ∧ 'Z'.val.toNat = 90 := ⟨rfl, rfl⟩
  unfold isAsciiUpper
  simp only [Bool.and_eq_false_iff, decide_eq_false_iff_not, Char.le_def, UInt32.le_iff_toNat_le]
  omega

/-- The lower case of a letter is no capital letter of ASCII. -/
theorem not_upper_lowerChar {c d : Char} (h : d ∈ lowerChar c) : isAsciiUpper d = false := by
  -- No run leads into the capitals, and the first run leads all of them out.
  have houtside : ∀ run ∈ lowerRuns, 90 < run.low + run.shift ∨ run.high + run.shift < 65 := by
    decide +kernel
  have hcapitals : ∀ k < 26, (CaseRun.image? lowerRuns (65 + k)).isSome = true := by decide +kernel
  rw [not_upper_iff]
  unfold lowerChar at h
  split at h
  · simp only [List.mem_cons, List.not_mem_nil, or_false] at h
    rcases h with rfl | rfl <;> decide
  · rw [List.mem_singleton] at h
    cases himage : CaseRun.image? lowerRuns c.toNat with
    | none =>
        rw [himage] at h
        subst h
        by_contra hcapital
        have hsome := hcapitals (d.toNat - 65) (by omega)
        have hsum : 65 + (d.toNat - 65) = d.toNat := by omega
        rw [hsum, himage] at hsome
        cases hsome
    | some m =>
        rw [himage] at h
        subst h
        rcases image?_range himage with ⟨run, hrun, hlow, hhigh, _, rfl⟩
        have hshift := houtside run hrun
        rcases toNat_ofNat (c.toNat + run.shift).toNat with hcode | hcode
        · rw [Option.map_some, Option.getD_some, hcode]
          omega
        · rw [Option.map_some, Option.getD_some, hcode]
          exact Or.inl (by decide)

/-- A text in lower case has no capital letters of ASCII. -/
theorem not_upper_lowerFrom {d : Char} (before cs : List Char) (h : d ∈ lowerFrom before cs) :
    isAsciiUpper d = false := by
  induction cs generalizing before with
  | nil => exact absurd h List.not_mem_nil
  | cons c rest ih =>
      rw [lowerFrom] at h
      rcases List.mem_append.mp h with h | h
      · split at h
        · rw [List.mem_singleton] at h
          subst h
          split <;> decide
        · exact not_upper_lowerChar h
      · exact ih _ h

end Text

namespace Slug

open Yaml

/-- What the slugs of headings consist of: letters and numbers but capital letters of ASCII,
    and hyphens. -/
structure IsSlug (cs : List Char) : Prop where
  nonempty : cs ≠ []
  isChar : ∀ x ∈ cs, isSlugChar x = true
  isLower : ∀ x ∈ cs, Text.isAsciiUpper x = false

/-- The slug of a text. -/
theorem isSlug_ofChars {cs : List Char} (hne : ofChars cs ≠ []) : IsSlug (ofChars cs) := by
  refine ⟨hne, fun x hx => (List.mem_filter.mp hx).2, fun x hx => ?_⟩
  rcases List.mem_map.mp (List.mem_filter.mp hx).1 with ⟨c, hc, rfl⟩
  split
  · decide
  · exact Text.not_upper_lowerFrom [] _ hc

/-- The slugs of the headings of a document. -/
theorem isSlug_of_mem {source s : String} (h : s ∈ BreakingChanges.ofText source) (hne : s ≠ "") :
    IsSlug s.toList := by
  rcases List.mem_map.mp h with ⟨heading, _, rfl⟩
  have hslug : heading.slug.toList = ofChars heading.text.toList := String.toList_ofList
  rw [hslug]
  refine isSlug_ofChars (fun hnil => hne ?_)
  rw [← String.toList_inj, hslug, hnil]
  rfl

/-- Where the characters of slugs stand: the ranges of letters and numbers leave out the
    controls, the line ends and the mark of byte order. -/
theorem bounds {x : Char} (h : isSlugChar x = true) :
    x.toNat = 45 ∨ (48 ≤ x.toNat ∧ x.toNat ≤ 57) ∨ (65 ≤ x.toNat ∧ x.toNat ≤ 90) ∨
      (97 ≤ x.toNat ∧ x.toNat ≤ 122) ∨ (0xA1 ≤ x.toNat ∧ x.toNat < 0x2028) ∨
      (0x2029 < x.toNat ∧ x.toNat < 0xFEFF) ∨ (0xFEFF < x.toNat ∧ x.toNat < 0xFFFE) ∨
      0xFFFF < x.toNat := by
  have hall : ∀ p ∈ Text.alnumRanges, (48 ≤ p.1 ∧ p.2 ≤ 57) ∨ (65 ≤ p.1 ∧ p.2 ≤ 90) ∨
      (97 ≤ p.1 ∧ p.2 ≤ 122) ∨ (0xA1 ≤ p.1 ∧ p.2 < 0x2028) ∨ (0x2029 < p.1 ∧ p.2 < 0xFEFF) ∨
      (0xFEFF < p.1 ∧ p.2 < 0xFFFE) ∨ 0xFFFF < p.1 := by decide +kernel
  rcases Bool.or_eq_true_iff.mp h with hletter | hhyphen
  · rcases Text.exists_range hletter with ⟨p, hp, hlow, hhigh⟩
    have hrange := hall p hp
    omega
  · rw [eq_of_beq hhyphen]
    exact Or.inl rfl

/-- A slug can be written as a part of one word. -/
theorem inked {x : Char} (h : isSlugChar x = true) :
    isGap x = false ∧ isInline x = true ∧ isTextChar x = true := by
  have hbounds := bounds h
  have hne (c : Char) (hc : x.toNat ≠ c.toNat) : (x == c) = false :=
    beq_eq_false_iff_ne.mpr fun heq => hc (congrArg Char.toNat heq)
  have hcode (n : Nat) (hn : x.toNat ≠ n) : (x.toNat == n) = false := beq_eq_false_iff_ne.mpr hn
  -- The marks are told from the characters of a slug by their code points.
  have hcodes : '\n'.toNat = 10 ∧ '\r'.toNat = 13 ∧ '\t'.toNat = 9 ∧ ' '.toNat = 32 ∧
      endChar.toNat = 0 := by decide
  have hbreak : isBreak x = false := by
    unfold isBreak
    rw [hne '\n' (by omega), hne '\r' (by omega), hcode 0x85 (by omega), hcode 0x2028 (by omega),
      hcode 0x2029 (by omega)]
    rfl
  refine ⟨?_, ?_, ?_⟩
  · unfold isGap isWordEnd isLineEnd
    rw [hne '\t' (by omega), hne ' ' (by omega), hne endChar (by omega), hbreak]
    rfl
  · unfold isInline
    rw [hbreak, bne_iff_ne.mpr (by omega : x.toNat ≠ 0xFEFF)]
    rfl
  · unfold isTextChar
    simp only [Bool.or_eq_true, Bool.and_eq_true, decide_eq_true_eq, beq_iff_eq]
    omega

/-- The words that a plain scalar writes for truth values and for no value. -/
def reserved : List (List Char) :=
  ["yes", "no", "true", "false", "on", "off", "null"].map String.toList

/-- A text without a hyphen in front. -/
def withoutHyphen : List Char → List Char
  | '-' :: rest => rest
  | cs => cs

/-- Whether a text is a whole number, maybe behind a hyphen: in base ten without a zero in
    front, in base eight behind a zero, in base two or sixteen behind `0b` or `0x`. -/
def isNumeral (cs : List Char) : Bool :=
  match withoutHyphen cs with
  | '0' :: 'b' :: rest => !rest.isEmpty && rest.all fun c => c == '0' || c == '1'
  | '0' :: 'x' :: rest => !rest.isEmpty && rest.all Text.isHexDigit
  | '0' :: rest => rest.all fun c => '0' ≤ c && c ≤ '7'
  | rest => !rest.isEmpty && rest.all Text.isAsciiDigit

/-- Whether a text is a day: four digits, two digits and two digits with hyphens between. -/
def isDay : List Char → Bool
  | [y1, y2, y3, y4, '-', m1, m2, '-', d1, d2] =>
    [y1, y2, y3, y4, m1, m2, d1, d2].all Text.isAsciiDigit
  | _ => false

/-- Whether a plain scalar reads a slug as something other than a string. -/
def isOther (cs : List Char) : Bool := reserved.contains cs || isNumeral cs || isDay cs

variable {cs rest : List Char}

/-- What is no character of slugs, or a capital letter, is in no slug. -/
theorem IsSlug.not_mem (h : IsSlug cs) {x : Char}
    (hx : isSlugChar x = false ∨ Text.isAsciiUpper x = true) : x ∉ cs := by
  intro hmem
  rcases hx with hx | hx
  · rw [h.isChar x hmem] at hx
    cases hx
  · rw [h.isLower x hmem] at hx
    cases hx

section Words

/-- All ways to write truth values. -/
def boolTexts : List (List Char) :=
  boolNames.flatMap fun (name, _) =>
    let small := name.toList
    [small, (small.take 1).map Char.toUpper ++ small.drop 1, small.map Char.toUpper]

/-- All ways to write no value. -/
def nullTexts : List (List Char) := [[], "~".toList, "null".toList, "Null".toList, "NULL".toList]

theorem isBoolText_iff : isBoolText cs = true ↔ cs ∈ boolTexts := by
  unfold isBoolText boolTexts
  simp only [List.any_eq_true, List.mem_flatMap, Bool.or_eq_true, beq_iff_eq, List.mem_cons,
    List.not_mem_nil, or_false, or_assoc]

/-- In lower case there is one way to write each word. -/
theorem IsSlug.words (h : IsSlug cs) :
    (isBoolText cs || isNullText cs) = reserved.contains cs := by
  let fits := fun w : List Char =>
    !w.isEmpty && w.all fun x => isSlugChar x && !Text.isAsciiUpper x
  have hfits : fits cs = true := by
    simp only [fits, Bool.and_eq_true, Bool.not_eq_true', List.isEmpty_eq_false_iff, ne_eq,
      List.all_eq_true]
    exact ⟨h.nonempty, fun x hx => ⟨h.isChar x hx, h.isLower x hx⟩⟩
  -- Of all ways to write these words, those that fit are in lower case and not a tilde.
  have hreserved : (boolTexts ++ nullTexts).filter fits = reserved := by decide +kernel
  have hnull : isNullText cs = true ↔ cs ∈ nullTexts := List.contains_iff_mem
  rw [Bool.eq_iff_iff, Bool.or_eq_true, isBoolText_iff, hnull, List.contains_iff_mem, ← hreserved,
    List.mem_filter, List.mem_append]
  exact ⟨fun hmem => ⟨hmem, hfits⟩, fun hmem => hmem.1⟩

end Words

section Numbers

/-- Without a colon there are no parts in base sixty. -/
theorem afterSixtieths?_none (fuel : Nat) (h : ':' ∉ cs) :
    afterSixtieths? fuel false cs = none := by
  cases fuel with
  | zero => rfl
  | succ fuel =>
      cases cs with
      | nil => rfl
      | cons c rest =>
          have hc : c ≠ ':' := fun heq => h (by rw [heq]; exact List.mem_cons_self ..)
          rw [afterSixtieths?]
          · rfl
          · exact fun rest heq => hc (List.cons.inj heq).1

/-- What a number is without its sign. -/
theorem IsSlug.unsigned_eq (h : IsSlug cs) : unsigned cs = withoutHyphen cs := by
  cases cs with
  | nil => rfl
  | cons c rest =>
      have hplus : c ≠ '+' := by
        rintro rfl
        exact h.not_mem (Or.inl (by decide +kernel)) (List.mem_cons_self ..)
      by_cases hc : c = '-'
      · subst hc
        rfl
      · rw [withoutHyphen]
        · simp [unsigned, hc, hplus]
        · exact fun rest heq => hc (List.cons.inj heq).1

theorem withoutHyphen_suffix (cs : List Char) : withoutHyphen cs <:+ cs := by
  unfold withoutHyphen
  split
  · exact List.suffix_cons _ _
  · exact List.suffix_refl _

/-- A slug has no point, so it is no fraction. -/
theorem IsSlug.not_float (h : IsSlug cs) : isFloatText cs = false := by
  have hpoint : '.' ∉ withoutHyphen cs := fun hmem =>
    h.not_mem (Or.inl (by decide +kernel)) ((withoutHyphen_suffix cs).mem hmem)
  have hcolon : ':' ∉ withoutHyphen cs := fun hmem =>
    h.not_mem (Or.inl (by decide +kernel)) ((withoutHyphen_suffix cs).mem hmem)
  unfold isFloatText
  rw [h.unsigned_eq]
  generalize withoutHyphen cs = body at hpoint hcolon
  have hrest : body.dropWhile isDigitOrLine <:+ body := List.dropWhile_suffix _
  simp only
  -- A point in front, one behind the digits, or parts in base sixty: none of them is there.
  split
  · exact absurd (List.mem_cons_self ..) hpoint
  · split
    · next heq =>
        rw [heq] at hrest
        exact absurd (hrest.mem (List.mem_cons_self ..)) hpoint
    · rw [afterSixtieths?_none _ fun hmem => hcolon (hrest.mem hmem)]
      exact Bool.and_false _
  · rfl

theorem all_line {p : Char → Bool} (h : ∀ x ∈ cs, (x == '_') = false) :
    (cs.all fun c => p c || c == '_') = cs.all p := by
  rw [Bool.eq_iff_iff, List.all_eq_true, List.all_eq_true]
  exact forall₂_congr fun x hx => by rw [h x hx, Bool.or_false]

/-- A slug has neither the mark that makes a number easier to read nor parts in base sixty. -/
theorem IsSlug.numeral (h : IsSlug cs) : isIntText cs = isNumeral cs := by
  have hline : ∀ x ∈ withoutHyphen cs, (x == '_') = false := by
    rintro x hx
    rw [beq_eq_false_iff_ne]
    rintro rfl
    exact h.not_mem (Or.inl (by decide +kernel)) ((withoutHyphen_suffix cs).mem hx)
  have hcolon : ':' ∉ withoutHyphen cs := fun hmem =>
    h.not_mem (Or.inl (by decide +kernel)) ((withoutHyphen_suffix cs).mem hmem)
  unfold isIntText isNumeral
  rw [h.unsigned_eq]
  generalize withoutHyphen cs = body at hline hcolon
  -- The cases are those of the number, and each has one counterpart.
  split
  · rfl
  · next rest =>
      rw [all_line fun x hx => hline x (List.mem_cons_of_mem _ (List.mem_cons_of_mem _ hx))]
      rfl
  · next rest =>
      rw [all_line fun x hx => hline x (List.mem_cons_of_mem _ (List.mem_cons_of_mem _ hx))]
      rfl
  · next rest _ hbinary hhex =>
      rw [all_line fun x hx => hline x (List.mem_cons_of_mem _ hx)]
      split
      · next heq => exact (hbinary _ (List.cons.inj heq).2).elim
      · next heq => exact (hhex _ (List.cons.inj heq).2).elim
      · next heq => rw [(List.cons.inj heq).2]
      · next hother => exact (hother _ rfl).elim
  · next c rest _ hbinary hhex hzero =>
      have hnone : (rest.dropWhile isDigitOrLine).isEmpty = rest.all Text.isAsciiDigit := by
        rw [← all_line fun x hx => hline x (List.mem_cons_of_mem _ hx), Bool.eq_iff_iff,
          List.isEmpty_iff, List.dropWhile_eq_nil_iff, List.all_eq_true]
        rfl
      have hnoColon : ':' ∉ rest.dropWhile isDigitOrLine := fun hmem =>
        hcolon (List.mem_cons_of_mem c ((List.dropWhile_suffix _).mem hmem))
      have hsixty := afterSixtieths?_none ((rest.dropWhile isDigitOrLine).length + 1) hnoColon
      simp only [hsixty, hnone]
      split
      · next heq => exact (hzero (List.cons.inj heq).1).elim
      · next heq => exact (hzero (List.cons.inj heq).1).elim
      · next heq => exact (hzero (List.cons.inj heq).1).elim
      · simp
  · rfl

end Numbers

section Days

theorem fixedNumber?_eq {n v : Nat} (h : fixedNumber? n cs = some (v, rest)) :
    ∃ ds, cs = ds ++ rest ∧ ds.length = n ∧ ∀ d ∈ ds, Text.isAsciiDigit d = true := by
  unfold fixedNumber? at h
  simp only [Option.ite_none_right_eq_some, beq_iff_eq] at h
  rcases h with ⟨hlength, hsome⟩
  cases hsome
  -- All of the first characters are digits, since there are as many digits in front.
  have hall : (cs.take n).takeWhile Text.isAsciiDigit = cs.take n := by
    refine (List.takeWhile_prefix _).eq_of_length ?_
    have hle := (List.takeWhile_prefix (p := Text.isAsciiDigit) (l := cs.take n)).length_le
    have htake := List.length_take_le n cs
    omega
  refine ⟨cs.take n, (List.take_append_drop n cs).symm, by rw [← hall]; exact hlength, ?_⟩
  rw [← hall]
  exact fun d hd => List.mem_takeWhile_imp hd

/-- So many digits in front of a rest are read, and the rest is left. -/
theorem fixedNumber?_append {ds : List Char} (h : ∀ d ∈ ds, Text.isAsciiDigit d = true) :
    fixedNumber? ds.length (ds ++ rest) = some (Text.decimalValue ds, rest) := by
  have hall : ds.takeWhile Text.isAsciiDigit = ds := List.takeWhile_eq_self_iff.mpr h
  simp only [fixedNumber?, List.take_left, List.drop_left, hall, beq_self_eq_true, if_true]

theorem shortNumber?_eq {ds : List Char} (h : shortNumber? cs = some (ds, rest)) :
    cs = ds ++ rest ∧ ∀ d ∈ ds, Text.isAsciiDigit d = true := by
  unfold shortNumber? at h
  simp only [Option.ite_none_left_eq_some] at h
  cases h.2
  have hprefix : (cs.take 2).takeWhile Text.isAsciiDigit <+: cs :=
    (List.takeWhile_prefix _).trans (List.take_prefix 2 cs)
  exact ⟨(List.prefix_iff_eq_append.mp hprefix).symm, fun d hd => List.mem_takeWhile_imp hd⟩

/-- Two digits in front of a rest are read, since a third one would not be. -/
theorem shortNumber?_append {ds : List Char} (h : ∀ d ∈ ds, Text.isAsciiDigit d = true)
    (htwo : ds.length = 2) : shortNumber? (ds ++ rest) = some (ds, rest) := by
  have hsome : ds.isEmpty = false := List.isEmpty_eq_false_iff.mpr fun hnil => by
    rw [hnil] at htwo
    cases htwo
  have hall : ds.takeWhile Text.isAsciiDigit = ds := List.takeWhile_eq_self_iff.mpr h
  simp only [shortNumber?, ← htwo, List.take_left, List.drop_left, hall, hsome,
    Bool.false_eq_true, if_false]

theorem behind?_eq {c : Char} (h : behind? c cs = some rest) : cs = c :: rest := by
  cases cs with
  | nil => cases h
  | cons d rest' =>
      rw [behind?] at h
      split at h
      · next heq =>
          cases h
          rw [eq_of_beq heq]
      · cases h

theorem timeStart?_suffix (h : timeStart? cs = some rest) : rest <:+ cs := by
  cases cs with
  | nil => cases h
  | cons c own =>
      rw [timeStart?] at h
      split at h
      · cases h
        exact List.suffix_cons _ _
      · split at h
        · cases h
          exact (List.dropWhile_suffix _).trans (List.suffix_cons _ _)
        · cases h

/-- Without a colon there is no time behind a day. -/
theorem moment?_eq {m : MomentText} (hcolon : ':' ∉ cs) (h : moment? cs = some m) :
    ∃ y mo d, cs = y ++ '-' :: (mo ++ '-' :: d) ∧ y.length = 4 ∧
      (∀ x ∈ y ++ (mo ++ d), Text.isAsciiDigit x = true) ∧
      m.time = none ∧ m.isFull = (mo.length == 2 && d.length == 2) := by
  unfold moment? at h
  rcases Option.bind_eq_some_iff.mp h with ⟨⟨_, rest1⟩, hyear, h⟩
  rcases Option.bind_eq_some_iff.mp h with ⟨rest2, hfirst, h⟩
  rcases Option.bind_eq_some_iff.mp h with ⟨⟨mo, rest3⟩, hmonth, h⟩
  rcases Option.bind_eq_some_iff.mp h with ⟨rest4, hsecond, h⟩
  rcases Option.bind_eq_some_iff.mp h with ⟨⟨d, rest5⟩, hday, hend⟩
  -- Each of the parts stands in front of the rest that the next one is read from.
  rcases fixedNumber?_eq hyear with ⟨y, rfl, hy, hyears⟩
  obtain rfl := behind?_eq hfirst
  rcases shortNumber?_eq hmonth with ⟨rfl, hmonths⟩
  obtain rfl := behind?_eq hsecond
  rcases shortNumber?_eq hday with ⟨rfl, hdays⟩
  dsimp only at hend
  split at hend
  · next hempty =>
      cases hend
      rw [List.isEmpty_iff.mp hempty, List.append_nil]
      refine ⟨y, mo, d, rfl, hy, fun x hx => ?_, rfl, rfl⟩
      rcases List.mem_append.mp hx with hx | hx
      · exact hyears x hx
      · rcases List.mem_append.mp hx with hx | hx
        · exact hmonths x hx
        · exact hdays x hx
  · -- A time would have a colon behind its hour.
    rcases Option.bind_eq_some_iff.mp hend with ⟨rest6, htime, hend⟩
    rcases Option.bind_eq_some_iff.mp hend with ⟨⟨_, rest7⟩, hhour, hend⟩
    rcases Option.bind_eq_some_iff.mp hend with ⟨rest8, hminute, _⟩
    have hsuffix := timeStart?_suffix htime
    have hcolon7 : rest7 = ':' :: rest8 := behind?_eq hminute
    rw [(shortNumber?_eq hhour).1, hcolon7] at hsuffix
    have hmem := hsuffix.mem (List.mem_append_right _ (List.mem_cons_self ..))
    exact absurd (by simp [hmem]) hcolon

theorem isDay_append {y mo d : List Char} (hy : y.length = 4) (hm : mo.length = 2)
    (hd : d.length = 2) (h : ∀ x ∈ y ++ (mo ++ d), Text.isAsciiDigit x = true) :
    isDay (y ++ '-' :: (mo ++ '-' :: d)) = true := by
  match y, mo, d, hy, hm, hd, h with
  | [_, _, _, _], [_, _], [_, _], _, _, _, h => exact List.all_eq_true.mpr h

/-- Two parts of two digits each, behind four digits, are a day in full. -/
theorem isMomentText_of_digits {y mo d : List Char} (hy : y.length = 4) (hm : mo.length = 2)
    (hd : d.length = 2) (h : ∀ x ∈ y ++ (mo ++ d), Text.isAsciiDigit x = true) :
    isMomentText (y ++ '-' :: (mo ++ '-' :: d)) = true := by
  rw [List.forall_mem_append, List.forall_mem_append] at h
  rcases h with ⟨hyears, hmonths, hdays⟩
  have hdate : shortNumber? (d ++ []) = some (d, []) := shortNumber?_append hdays hd
  rw [List.append_nil] at hdate
  -- Read from the front, the day is its three parts, and nothing is left for a time.
  have hmoment : moment? (y ++ '-' :: (mo ++ '-' :: d)) = some ⟨Text.decimalValue y,
      Text.decimalValue mo, Text.decimalValue d, none, [], false, none, true⟩ := by
    refine Option.bind_eq_some_iff.mpr ⟨_, hy ▸ fixedNumber?_append hyears, ?_⟩
    refine Option.bind_eq_some_iff.mpr ⟨_, rfl, ?_⟩
    refine Option.bind_eq_some_iff.mpr ⟨_, shortNumber?_append hmonths hm, ?_⟩
    refine Option.bind_eq_some_iff.mpr ⟨_, rfl, ?_⟩
    refine Option.bind_eq_some_iff.mpr ⟨_, hdate, ?_⟩
    simp only [List.isEmpty_nil, if_true, hm, hd]
    rfl
  unfold isMomentText
  rw [hmoment]
  rfl

/-- What is left is a day in full. -/
theorem isMomentText_eq (h : ':' ∉ cs) : isMomentText cs = isDay cs := by
  rw [Bool.eq_iff_iff]
  constructor
  · intro hmoment
    unfold isMomentText at hmoment
    cases hm : moment? cs with
    | none =>
        rw [hm] at hmoment
        cases hmoment
    | some m =>
        rcases moment?_eq h hm with ⟨y, mo, d, rfl, hy, hdigits, htime, hfull⟩
        rw [hm] at hmoment
        simp only [htime, hfull, Option.isSome_none, Bool.false_or, Bool.and_eq_true,
          beq_iff_eq] at hmoment
        exact isDay_append hy hmoment.1 hmoment.2 hdigits
  · intro hday
    unfold isDay at hday
    split at hday
    · next y1 y2 y3 y4 m1 m2 d1 d2 =>
        exact @isMomentText_of_digits [y1, y2, y3, y4] [m1, m2] [d1, d2] rfl rfl rfl
          (List.all_eq_true.mp hday)
    · cases hday

end Days

/-- A slug is a string as a plain scalar, unless it is written like a truth value, like no
    value, like a whole number or like a day. -/
theorem IsSlug.ofPlain (h : IsSlug cs) :
    Tag.ofPlain (String.ofList cs) = Tag.str ↔ isOther cs = false := by
  have hnot {x : Char} (hx : isSlugChar x = false) : x ∉ cs := h.not_mem (Or.inl hx)
  have hbare : withoutLineEnd cs = cs := by
    unfold withoutLineEnd
    rw [if_neg]
    rw [beq_iff_eq]
    exact fun hlast => hnot (by decide +kernel) (List.mem_of_getLast? hlast)
  have hempty : cs.isEmpty = false := List.isEmpty_eq_false_iff.mpr h.nonempty
  have hmerge : (cs == ['<', '<']) = false := by
    rw [beq_eq_false_iff_ne]
    exact fun heq => hnot (x := '<') (by decide +kernel) (by simp [heq])
  have hvalue : (cs == ['=']) = false := by
    rw [beq_eq_false_iff_ne]
    exact fun heq => hnot (x := '=') (by decide +kernel) (by simp [heq])
  have htags : Tag.bool ≠ Tag.str ∧ Tag.int ≠ Tag.str ∧ Tag.null ≠ Tag.str ∧
      Tag.timestamp ≠ Tag.str := by decide
  have hwords := h.words
  unfold Tag.ofPlain isOther
  simp only [String.toList_ofList, hbare, hempty, h.not_float, h.numeral, hmerge, hvalue,
    isMomentText_eq (hnot (by decide +kernel)), Bool.false_eq_true, if_false, ← hwords]
  -- What is left are the forms that a slug can have, tried in the order in which tags are.
  cases isBoolText cs with
  | true => simp [htags]
  | false =>
      cases isNumeral cs with
      | true => simp [htags]
      | false =>
          cases isNullText cs with
          | true => simp [htags]
          | false => cases isDay cs <;> simp [htags]

end Slug

end Annals
