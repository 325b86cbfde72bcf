import Mathlib.Data.List.Basic
import Annals.Proofs.Text.Words
import Annals.Release.PullRequest

/-!
# The Number at the End of an Address

A number that is written in decimal digits behind the last slash of an address is read
back from it.

The digits of an address can be those of any script, and those of ASCII are among them:
each of the ten is a digit, has its own value, and is neither a blank nor a slash. So
nothing is cut off the end of the address, and the digits reach back to the slash.

## Main definitions

* `PullRequest.EndsIn`: An address with digits at its end.

## Theorems

* `forall_toDigits`: What holds of the ten digits.
* `decimalValue_toDigits`: The value of the digits of a number.
* `digitsOfUrl?_eq_some_iff`: The digits that are read in an address.
* `ofUrl_toDigits`: The number at the end of an address.
-/

namespace Annals

namespace Text

/-- What holds of the ten digits holds of all digits of a number. -/
theorem forall_toDigits {p : Char → Bool} (h : ∀ k < 10, p (Nat.digitChar k) = true) (n : Nat) :
    ∀ c ∈ Nat.toDigits 10 n, p c = true := by
  intro c hc
  induction n using Nat.strongRecOn with
  | ind n ih =>
      rcases Nat.lt_or_ge n 10 with hn | hn
      · rw [Nat.toDigits_of_lt_base hn, List.mem_singleton] at hc
        exact hc ▸ h n hn
      · rw [Nat.toDigits_of_base_le (by omega) hn, List.mem_append, List.mem_singleton] at hc
        rcases hc with hc | rfl
        · exact ih (n / 10) (Nat.div_lt_self (by omega) (by omega)) hc
        · exact h _ (Nat.mod_lt _ (by omega))

theorem foldl_digitValue {cs : List Char}
    (h : ∀ c ∈ cs, (digitValue? c).getD 0 = c.toNat - '0'.toNat) (total : Nat) :
    (cs.map fun c => (digitValue? c).getD 0).foldl (fun total digit => total * 10 + digit) total
      = Nat.ofDigitChars 10 cs total := by
  induction cs generalizing total with
  | nil => rfl
  | cons c cs ih =>
      rw [List.map_cons, List.foldl_cons, ih (fun x hx => h x (List.mem_cons_of_mem _ hx)),
        h c (List.mem_cons_self ..), Nat.mul_comm total 10]
      rfl

/-- The digits of a number have its value. -/
theorem decimalValue_toDigits (n : Nat) : decimalValue (Nat.toDigits 10 n) = n := by
  have hvalue := forall_toDigits (n := n)
    (p := fun c => (digitValue? c).getD 0 == c.toNat - '0'.toNat) (by decide)
  unfold decimalValue ofDigits
  rw [foldl_digitValue (fun c hc => eq_of_beq (hvalue c hc)),
    Nat.ofDigitChars_toDigits (by omega) (by omega)]

end Text

namespace PullRequest

variable {n : Nat} {before digits : List Char} {url : String}

/-- An address that ends in a number, but for blanks around it and one slash behind it: the
    digits of the number reach back to a slash. -/
structure EndsIn (url : String) (digits : List Char) : Prop where
  nonempty : digits ≠ []
  isDigit : ∀ c ∈ digits, Text.isDigit c = true
  behind : ∃ front, Text.trim url.toList = front ++ '/' :: digits ∨
    Text.trim url.toList = front ++ '/' :: digits ++ ['/']

theorem withoutSlash_append (cs : List Char) : withoutSlash (cs ++ ['/']) = cs := by
  unfold withoutSlash
  rw [List.getLast?_concat, if_pos (beq_self_eq_true _), List.dropLast_concat]

theorem withoutSlash_of_last {cs : List Char} (h : cs.getLast? ≠ some '/') :
    withoutSlash cs = cs := if_neg fun hlast => h (eq_of_beq hlast)

/-- At most one slash is taken off the end of a text. -/
theorem withoutSlash_cases (cs : List Char) :
    cs = withoutSlash cs ∨ cs = withoutSlash cs ++ ['/'] := by
  by_cases h : cs.getLast? = some '/'
  · obtain ⟨front, rfl⟩ : ∃ front, cs = front ++ ['/'] := List.getLast?_eq_some_iff.mp h
    exact Or.inr (by rw [withoutSlash_append])
  · exact Or.inl (withoutSlash_of_last h).symm

theorem isDigit_slash : Text.isDigit '/' = false := by decide

/-- Without a slash behind it, an address that ends in a number ends in a digit. -/
theorem EndsIn.withoutSlash (h : EndsIn url digits) :
    ∃ front, PullRequest.withoutSlash (Text.trim url.toList) = front ++ '/' :: digits := by
  rcases h.behind with ⟨front, hfront | hfront⟩
  · refine ⟨front, ?_⟩
    rw [hfront]
    obtain ⟨first, last, rfl⟩ : ∃ first last, digits = first ++ [last] :=
      ⟨_, _, (List.dropLast_concat_getLast h.nonempty).symm⟩
    refine withoutSlash_of_last fun hlast => ?_
    rw [← List.cons_append, ← List.append_assoc, List.getLast?_concat] at hlast
    have hdigit := h.isDigit last (List.mem_append_right _ (List.mem_singleton_self last))
    rw [Option.some.inj hlast, isDigit_slash] at hdigit
    cases hdigit
  · exact ⟨front, by rw [hfront, withoutSlash_append]⟩

/-- The digits that are read are those in which the address ends. -/
theorem digitsOfUrl?_eq_some_iff : digitsOfUrl? url = some digits ↔ EndsIn url digits := by
  constructor
  · intro h
    unfold digitsOfUrl? at h
    simp only [Option.ite_none_right_eq_some, Bool.and_eq_true, Bool.not_eq_true',
      beq_iff_eq, Option.some.injEq] at h
    rcases h with ⟨⟨hfilled, hslash⟩, rfl⟩
    obtain ⟨front, hfront⟩ := List.head?_eq_some_iff.mp hslash
    refine ⟨fun hnil => by simp [hnil] at hfilled, fun c hc => ?_, front.reverse, ?_⟩
    · exact List.mem_takeWhile_imp (List.mem_reverse.mp hc)
    · -- From its end, the text is the digits, the slash, and what comes before it.
      have hsplit : PullRequest.withoutSlash (Text.trim url.toList) = front.reverse ++ '/' ::
          ((PullRequest.withoutSlash (Text.trim url.toList)).reverse.takeWhile
            Text.isDigit).reverse := by
        refine List.reverse_injective ?_
        rw [List.reverse_append, List.reverse_cons, List.reverse_reverse, List.reverse_reverse,
          List.append_assoc, List.singleton_append, ← hfront, List.takeWhile_append_dropWhile]
      rw [← hsplit]
      exact withoutSlash_cases _
  · intro h
    rcases h.withoutSlash with ⟨front, hfront⟩
    have hreverse : (front ++ '/' :: digits).reverse = digits.reverse ++ '/' :: front.reverse := by
      simp
    have hall : ∀ c ∈ digits.reverse, Text.isDigit c = true :=
      fun c hc => h.isDigit c (List.mem_reverse.mp hc)
    have hfilled : digits.isEmpty = false := List.isEmpty_eq_false_iff.mpr h.nonempty
    unfold digitsOfUrl?
    rw [hfront, hreverse]
    simp [List.takeWhile_append_of_pos hall, List.dropWhile_append_of_pos hall, isDigit_slash,
      hfilled]

/-- The digits behind the last slash of an address. -/
theorem digitsOfUrl?_toDigits (n : Nat) (hhead : ∀ c ∈ before.head?, Text.isBlank c = false) :
    digitsOfUrl? (String.ofList (before ++ '/' :: Nat.toDigits 10 n))
      = some (Nat.toDigits 10 n) := by
  have hdigit : ∀ c ∈ Nat.toDigits 10 n, (Text.isDigit c && !Text.isBlank c) = true :=
    Text.forall_toDigits (by decide) n
  simp only [Bool.and_eq_true, Bool.not_eq_true'] at hdigit
  -- No blank is at either end: the address ends with a digit.
  have htrim : Text.trim (before ++ '/' :: Nat.toDigits 10 n) = before ++ '/' :: Nat.toDigits 10 n := by
    refine Text.trim_of_ends (fun c hc => ?_) (fun c hc => ?_)
    · cases before with
      | nil =>
          cases hc
          decide
      | cons b before => exact hhead c hc
    · rw [List.getLast?_append_cons, List.getLast?_cons_of_ne_nil Nat.toDigits_ne_nil] at hc
      exact (hdigit c (List.mem_of_mem_getLast? hc)).2
  refine digitsOfUrl?_eq_some_iff.mpr
    ⟨Nat.toDigits_ne_nil, fun c hc => (hdigit c hc).1, before, Or.inl ?_⟩
  rw [String.toList_ofList, htrim]

/-- The number behind the last slash of an address, if it has not too many digits. -/
theorem ofUrl_toDigits (h : (Nat.toDigits 10 n).length ≤ maxDigits)
    (hhead : ∀ c ∈ before.head?, Text.isBlank c = false) :
    ofUrl (String.ofList (before ++ '/' :: Nat.toDigits 10 n)) = .ok (some n) := by
  unfold ofUrl
  rw [digitsOfUrl?_toDigits n hhead]
  simp only [number, if_pos h, Text.decimalValue_toDigits]
  rfl

end PullRequest

end Annals
