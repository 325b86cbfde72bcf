import Annals.Json.Reader
import Annals.Json.Writer
import Annals.Proofs.Release.Address
import Annals.Proofs.Yaml.Quotation

/-!
# Texts and Numbers in JSON

A text or an integer that is written is read back, in front of anything.

A text is written character by character, and each character on its own gives back one
or two numbers (`readUnits_writeChar`): the number of the character, or, for a character
outside the first plane of which only ASCII may remain, the halves of its surrogate pair.
Since the number of a character is never a half, halves that are read together belong
together, and the characters are found again (`joinHalves_units`).

A number has no mark at its end, so what comes behind it has to be no part of a number.
This is all that is asked of it (`EndsNumber`).

## Main definitions

* `Json.units`: The numbers that a character is read as.
* `Json.WrittenAs`: How a character is written.
* `Json.EndsNumber`: What may follow a number.

## Theorems

* `readText_writeText`: A text that is written is read back.
* `readNumber_writeInteger`: An integer that is written is read back.
-/

namespace Annals

namespace Text

theorem hexValue_hexDigit {k : Nat} (h : k < 16) : hexValue? (hexDigit k) = some k := by
  revert k
  decide

/-- Four digits of base sixteen give back a number that has no more. -/
theorem hexNumber_toHex {n : Nat} (h : n < 0x10000) : hexNumber (toHex 4 n) = n := by
  have hvalue (k : Nat) : (hexValue? (hexDigit (k % 16))).getD 0 = k % 16 := by
    rw [hexValue_hexDigit (Nat.mod_lt _ (by omega))]
    rfl
  simp only [hexNumber, toHex, ofDigits, List.nil_append, List.cons_append, List.map_cons,
    List.map_nil, List.foldl_cons, List.foldl_nil, hvalue]
  omega

theorem isHexDigit_hexDigit (k : Nat) : isHexDigit (hexDigit (k % 16)) = true := by
  unfold isHexDigit
  rw [hexValue_hexDigit (Nat.mod_lt _ (by omega))]
  rfl

end Text

namespace Json

/-- The numbers that a character is read as once it is written: its own, or the halves of its
    surrogate pair. -/
def units (ascii : Bool) (c : Char) : List Nat :=
  if ascii && decide (0x10000 ≤ c.toNat) then
    [0xD800 + (c.toNat - 0x10000) / 0x400, 0xDC00 + (c.toNat - 0x10000) % 0x400]
  else [c.toNat]

theorem units_single {ascii : Bool} {c : Char} (h : ascii = false ∨ c.toNat < 0x10000) :
    units ascii c = [c.toNat] := by
  refine if_neg fun hpair => ?_
  simp only [Bool.and_eq_true, decide_eq_true_eq] at hpair
  rcases h with hno | hlow
  · exact Bool.false_ne_true (hno ▸ hpair.1)
  · omega

theorem units_pair {c : Char} (h : 0x10000 ≤ c.toNat) : units true c
    = [0xD800 + (c.toNat - 0x10000) / 0x400, 0xDC00 + (c.toNat - 0x10000) % 0x400] := by
  simp [units, h]

/-- The first number of a character is never a first half, so a character of its own leaves
    the numbers behind it alone. -/
theorem joinHalves_cons_toNat (c : Char) (rest : List Nat) :
    Text.joinHalves (c.toNat :: rest) = c :: Text.joinHalves rest := by
  cases rest with
  | nil => simp [Text.joinHalves, Text.charOrReplacement_toNat]
  | cons m rest =>
      rw [Text.joinHalves, (Text.half_toNat c).1, Text.charOrReplacement_toNat]
      simp

/-- The halves of a surrogate pair are joined to the character that they are made of. -/
theorem joinHalves_pair {c : Char} (h : 0x10000 ≤ c.toNat) (rest : List Nat) :
    Text.joinHalves ((0xD800 + (c.toNat - 0x10000) / 0x400) ::
        (0xDC00 + (c.toNat - 0x10000) % 0x400) :: rest) = c :: Text.joinHalves rest := by
  have hvalid : c.toNat < 0xD800 ∨ (0xDFFF < c.toNat ∧ c.toNat < 0x110000) := c.valid
  have hfirst : Text.isFirstHalf (0xD800 + (c.toNat - 0x10000) / 0x400) = true := by
    simp only [Text.isFirstHalf, Bool.and_eq_true, decide_eq_true_eq]
    omega
  have hsecond : Text.isSecondHalf (0xDC00 + (c.toNat - 0x10000) % 0x400) = true := by
    simp only [Text.isSecondHalf, Bool.and_eq_true, decide_eq_true_eq]
    omega
  have hjoined : 0x10000 + (0xD800 + (c.toNat - 0x10000) / 0x400 - 0xD800) * 0x400
      + (0xDC00 + (c.toNat - 0x10000) % 0x400 - 0xDC00) = c.toNat := by omega
  rw [Text.joinHalves, hfirst, hsecond, hjoined, Char.ofNat_toNat]
  rfl

theorem joinHalves_units (ascii : Bool) (cs : List Char) :
    Text.joinHalves (cs.flatMap (units ascii)) = cs := by
  induction cs with
  | nil => rfl
  | cons c rest ih =>
      rw [List.flatMap_cons]
      unfold units
      split
      · rename_i hpair
        simp only [Bool.and_eq_true, decide_eq_true_eq] at hpair
        rw [List.cons_append, List.cons_append, List.nil_append, joinHalves_pair hpair.2]
        exact congrArg _ ih
      · rw [List.cons_append, List.nil_append, joinHalves_cons_toNat]
        exact congrArg _ ih

/-- An escaped number is read back, if there is anything behind it. -/
theorem readUnits_unicodeEscape (start : Nat) {n : Nat} (h : n < 0x10000) {rest : List Char}
    (hrest : rest ≠ []) :
    readUnits start (unicodeEscape n ++ rest)
      = (readUnits start rest).map fun r => (n :: r.1, r.2) := by
  have hdigits : ∃ a b c d, Text.toHex 4 n = [a, b, c, d] ∧ hex4? a b c d = some n := by
    refine ⟨_, _, _, _, rfl, ?_⟩
    unfold hex4?
    simp only [List.all_cons, List.all_nil, Text.isHexDigit_hexDigit, Bool.and_true, if_true]
    exact congrArg some (Text.hexNumber_toHex h)
  rcases hdigits with ⟨a, b, c, d, htext, hnumber⟩
  have hempty : rest.isEmpty = false := by simpa using hrest
  rw [unicodeEscape, htext]
  simp only [List.cons_append, List.nil_append, readUnits, hnumber, hempty, Bool.false_eq_true,
    if_false]
  cases readUnits start rest <;> rfl

/-- A letter behind a backslash is read as what it stands for. -/
theorem readUnits_escaped (start : Nat) {c plain : Char} (hc : c ≠ 'u')
    (h : escaped? c = some plain) (rest : List Char) :
    readUnits start ('\\' :: c :: rest)
      = (readUnits start rest).map fun r => (plain.toNat :: r.1, r.2) := by
  rw [readUnits.eq_6 start c rest (fun _ _ _ _ _ hu _ => hc hu) hc, h]
  cases readUnits start rest <;> rfl

/-- A character that means nothing else is read as itself. -/
theorem readUnits_plain (start : Nat) {c : Char} (hquote : c ≠ '"') (hmark : c ≠ '\\')
    (hseen : 32 ≤ c.toNat) (rest : List Char) :
    readUnits start (c :: rest)
      = (readUnits start rest).map fun r => (c.toNat :: r.1, r.2) := by
  rw [readUnits.eq_7 start c rest hquote (fun _ _ _ _ _ h _ => hmark h) (fun _ h _ => hmark h)
    (fun h _ => hmark h) (fun _ _ h _ => hmark h), if_neg (by omega)]
  cases readUnits start rest <;> rfl

/-- How a character is written: by an escape of its own, by its number, as itself, or by the
    halves of its surrogate pair. -/
inductive WrittenAs (ascii : Bool) (c : Char) : List Char → Prop where
  | escape {mark : Char} (hmark : mark ≠ 'u') (hmeans : escaped? mark = some c)
      (hplane : c.toNat < 0x10000) : WrittenAs ascii c ['\\', mark]
  | number (hplane : c.toNat < 0x10000) : WrittenAs ascii c (unicodeEscape c.toNat)
  | itself (hquote : c ≠ '"') (hmark : c ≠ '\\') (hseen : 32 ≤ c.toNat)
      (hsingle : ascii = false ∨ c.toNat < 0x10000) : WrittenAs ascii c [c]
  | halves (hascii : ascii = true) (hbeyond : 0x10000 ≤ c.toNat) : WrittenAs ascii c
      (unicodeEscape (0xD800 + (c.toNat - 0x10000) / 0x400)
        ++ unicodeEscape (0xDC00 + (c.toNat - 0x10000) % 0x400))

/-- A character that has an escape is looked for before the others. -/
theorem WrittenAs.of_escape {ascii : Bool} {c mark plain : Char} {others : List Char} {p : Prop}
    [Decidable p] (hmark : mark ≠ 'u') (hmeans : escaped? mark = some plain)
    (hplane : plain.toNat < 0x10000) (hc : p → c = plain)
    (hothers : ¬ p → WrittenAs ascii c others) :
    WrittenAs ascii c (if p then ['\\', mark] else others) := by
  by_cases h : p
  · rw [if_pos h]
    exact .escape hmark (hc h ▸ hmeans) (hc h ▸ hplane)
  · rw [if_neg h]
    exact hothers h

theorem writtenAs_writeChar (ascii : Bool) (c : Char) : WrittenAs ascii c (writeChar ascii c) := by
  have hnumber {n : Nat} (h : (c.toNat == n) = true) : c = Char.ofNat n := by
    rw [← eq_of_beq h, Char.ofNat_toNat]
  unfold writeChar
  -- First the characters that have an escape of their own, in the order of the definition.
  refine .of_escape (by decide) rfl (by decide) eq_of_beq fun hquote => ?_
  refine .of_escape (by decide) rfl (by decide) eq_of_beq fun hmark => ?_
  refine .of_escape (by decide) rfl (by decide) eq_of_beq fun _ => ?_
  refine .of_escape (by decide) rfl (by decide) eq_of_beq fun _ => ?_
  refine .of_escape (by decide) rfl (by decide) eq_of_beq fun _ => ?_
  refine .of_escape (by decide) rfl (by decide) hnumber fun _ => ?_
  refine .of_escape (by decide) rfl (by decide) hnumber fun _ => ?_
  -- Then those that are escaped by their number, and those that stand for themselves.
  split
  · next hlow => exact .number (by omega)
  next hseen =>
  split
  · next hplain =>
      simp only [Bool.or_eq_true, Bool.not_eq_true', decide_eq_true_eq] at hplain
      exact .itself (by simpa using hquote) (by simpa using hmark) (by omega)
        (hplain.imp_right fun hlow => by omega)
  next hascii =>
  split
  · next hplane => exact .number hplane
  · next hplane =>
      simp only [Bool.or_eq_true, Bool.not_eq_true', not_or, Bool.not_eq_false] at hascii
      exact .halves hascii.1 (by omega)

/-- A character that is written gives back its numbers, if there is anything behind it. -/
theorem readUnits_writeChar (start : Nat) (ascii : Bool) (c : Char) {rest : List Char}
    (hrest : rest ≠ []) :
    readUnits start (writeChar ascii c ++ rest)
      = (readUnits start rest).map fun r => (units ascii c ++ r.1, r.2) := by
  have hwritten := writtenAs_writeChar ascii c
  generalize writeChar ascii c = text at hwritten ⊢
  cases hwritten with
  | escape hmark hmeans hplane =>
      rw [units_single (Or.inr hplane)]
      exact readUnits_escaped start hmark hmeans rest
  | number hplane =>
      rw [units_single (Or.inr hplane)]
      exact readUnits_unicodeEscape start hplane hrest
  | itself hquote hmark hseen hsingle =>
      rw [units_single hsingle]
      exact readUnits_plain start hquote hmark hseen rest
  | halves hascii hbeyond =>
      -- Both halves are numbers of four digits.
      subst hascii
      have hvalid : c.toNat < 0xD800 ∨ (0xDFFF < c.toNat ∧ c.toNat < 0x110000) := c.valid
      rw [units_pair hbeyond, List.append_assoc,
        readUnits_unicodeEscape start (by omega) (by simp [unicodeEscape]),
        readUnits_unicodeEscape start (by omega) hrest]
      cases readUnits start rest <;> rfl

/-- A text that is written is read back. -/
theorem readText_writeText (start : Nat) (ascii : Bool) (s : String) (after : List Char) :
    readText start (s.toList.flatMap (writeChar ascii) ++ '"' :: after) = .ok (s, after) := by
  have hunits (cs : List Char) :
      readUnits start (cs.flatMap (writeChar ascii) ++ '"' :: after)
        = .ok (cs.flatMap (units ascii), after) := by
    induction cs with
    | nil => rfl
    | cons c rest ih =>
        rw [List.flatMap_cons, List.append_assoc, readUnits_writeChar start ascii c (by simp), ih]
        rfl
  unfold readText
  rw [hunits]
  change Except.ok (String.ofList (Text.joinHalves _), after) = _
  rw [joinHalves_units, String.ofList_toList]

/-- What may follow a number: nothing with which the number would go on. -/
def EndsNumber (after : List Char) : Prop :=
  ∀ c ∈ after.head?, Text.isAsciiDigit c = false ∧ c ≠ '.' ∧ c ≠ 'e' ∧ c ≠ 'E'

theorem readFraction_of_endsNumber {after : List Char} (h : EndsNumber after) :
    readFraction after = none := by
  cases after with
  | nil => rfl
  | cons c rest =>
      have hpoint := (h c rfl).2.1
      unfold readFraction
      split
      · rename_i hc
        cases hc
        exact absurd rfl hpoint
      · rfl

theorem readExponent_of_endsNumber {after : List Char} (h : EndsNumber after) :
    readExponent after = none := by
  cases after with
  | nil => rfl
  | cons c rest =>
      rcases h c rfl with ⟨_, _, he, hE⟩
      have hno : (c != 'e' && c != 'E') = true := by simp [he, hE]
      simp only [readExponent, hno, if_true]

/-- An integer has more digits than can be read if it is long, and only then. -/
theorem length_toDigits_le_maxDigits_iff {n : Int} :
    (Nat.toDigits 10 n.natAbs).length ≤ maxDigits ↔ isLong n = false := by
  have hpower : leastLong = 10 ^ maxDigits := by
    unfold leastLong
    generalize maxDigits = k
    rfl
  have hbound : isLong n = false ↔ n.natAbs < 10 ^ maxDigits := by
    rw [← hpower]
    exact decide_eq_false_iff_not.trans Nat.not_le
  rw [hbound]
  exact Nat.length_toDigits_le_iff (by decide) (by decide)

/-- The digits of a number other than zero do not begin with a zero. -/
theorem head?_toDigits {n : Nat} (h : 0 < n) : (Nat.toDigits 10 n).head? ≠ some '0' := by
  induction n using Nat.strongRecOn with
  | ind n ih =>
      rcases Nat.lt_or_ge n 10 with hn | hn
      · rw [Nat.toDigits_of_lt_base hn]
        intro hzero
        have hdigit : ∀ k < 10, 0 < k → Nat.digitChar k ≠ '0' := by decide
        exact hdigit n hn h (by simpa using hzero)
      · have hrest := ih (n / 10) (Nat.div_lt_self h (by omega)) (by omega)
        rw [Nat.toDigits_of_base_le (by omega) hn]
        cases hd : Nat.toDigits 10 (n / 10) with
        | nil => exact absurd hd Nat.toDigits_ne_nil
        | cons d ds =>
            rw [hd] at hrest
            exact hrest

/-- Digits that are those of a number, after a sign if there is one, are read up to their
    end. -/
theorem readNumber_digits (left : Nat) (negative : Bool) {d : Char} {ds after : List Char}
    (hall : ∀ c ∈ d :: ds, Text.isAsciiDigit c = true) (hzero : d = '0' → ds = [])
    (hshort : (d :: ds).length ≤ maxDigits) (hafter : EndsNumber after) :
    readNumber left ((if negative then ['-'] else []) ++ (d :: ds ++ after))
      = .ok (.int (if negative then -(Text.decimalValue (d :: ds) : Int)
          else Text.decimalValue (d :: ds)), after) := by
  have hsign : d ≠ '-' := by
    intro h
    have hd := hall d (List.mem_cons_self ..)
    rw [h] at hd
    cases hd
  have htake : (d :: (ds ++ after)).takeWhile Text.isAsciiDigit = d :: ds := by
    rw [← List.cons_append, List.takeWhile_append_of_pos hall]
    cases after with
    | nil => exact List.append_nil _
    | cons c rest => rw [List.takeWhile_cons, (hafter c rfl).1]; simp
  have hlong : ¬ maxDigits < ds.length + 1 := by
    rw [List.length_cons] at hshort
    omega
  have hfraction := readFraction_of_endsNumber hafter
  have hexponent := readExponent_of_endsNumber hafter
  -- A zero at the front is the whole number; other digits are taken as far as they go.
  by_cases hd : d = '0'
  · cases hzero hd
    subst hd
    rw [List.length_nil, Nat.zero_add] at hlong
    cases negative <;> simp only [readNumber] <;> simp [hfraction, hexponent, hlong]
  · cases negative <;> simp [readNumber, hd, hsign, htake, hfraction, hexponent, hlong]

/-- The text of an integer: its sign, if it has one, and digits. -/
theorem toList_toString (n : Int) :
    (toString n).toList = (if decide (n < 0) then ['-'] else []) ++ Nat.toDigits 10 n.natAbs := by
  cases n with
  | ofNat k =>
      have hno : decide (Int.ofNat k < 0) = false := by simp
      rw [hno]
      exact String.toList_ofList
  | negSucc k =>
      have hyes : decide (Int.negSucc k < 0) = true := by simp
      rw [hyes]
      change ("-" ++ Nat.repr (k + 1)).toList = ['-'] ++ Nat.toDigits 10 (k + 1)
      rw [String.toList_append, Nat.repr_eq_ofList_toDigits, String.toList_ofList,
        String.toList_ofList]

/-- An integer that is written is read back. -/
theorem readNumber_writeInteger (left : Nat) {n : Int} (h : isLong n = false) {after : List Char}
    (hafter : EndsNumber after) :
    readNumber left ((toString n).toList ++ after) = .ok (.int n, after) := by
  have hdigits : ∀ c ∈ Nat.toDigits 10 n.natAbs, Text.isAsciiDigit c = true :=
    Text.forall_toDigits (by decide) n.natAbs
  have hshort : (Nat.toDigits 10 n.natAbs).length ≤ maxDigits :=
    length_toDigits_le_maxDigits_iff.mpr h
  have hvalue := Text.decimalValue_toDigits n.natAbs
  have hzero : (Nat.toDigits 10 n.natAbs).head? = some '0' → Nat.toDigits 10 n.natAbs = ['0'] := by
    intro hhead
    by_cases hn : 0 < n.natAbs
    · exact absurd hhead (head?_toDigits hn)
    · rw [Nat.eq_zero_of_not_pos hn]
      rfl
  -- The number is its magnitude with its sign.
  have hsigned : (if decide (n < 0) then -(n.natAbs : Int) else n.natAbs) = n := by
    split
    · rename_i hneg
      have := of_decide_eq_true hneg
      omega
    · rename_i hpos
      have := of_decide_eq_false (Bool.eq_false_iff.mpr hpos)
      omega
  rw [toList_toString, List.append_assoc]
  cases hd : Nat.toDigits 10 n.natAbs with
  | nil => exact absurd hd Nat.toDigits_ne_nil
  | cons d ds =>
      rw [hd] at hdigits hshort hvalue hzero
      rw [readNumber_digits left _ hdigits (fun h => by simpa [h] using hzero) hshort hafter,
        hvalue, hsigned]

end Json

end Annals
