import Mathlib.Tactic.SplitIfs
import Annals.Files.Tree
import Annals.Proofs.Text.Lines
import Annals.Proofs.Text.Lists

/-!
# Addresses of Files

The address of a file tells which file it is: different paths have different
addresses.

An address is made in three steps, and none of them forgets anything. The names of a
path are joined by slashes, which do not stand in names, so they can be found again
(`namesOf_intercalate`). The characters of the text are turned into bytes, and the first
byte of a character tells how many belong to it. The bytes are written down one by one,
some as a character and all others as a percent sign with two digits, and since the
percent sign is none of those characters, it can be seen which is which. The last two
steps are codes in which no word begins another one, so what is written with them is
read in one way only (`flatMap_inj`).

## Main definitions

* `Path.IsName`: A text that can be a name in a path.
* `Path.quotedByte`: A byte in an address.

## Theorems

* `encode_injective`: The bytes of a text.
* `quotedPath_injective`: A text in an address.
* `text_injective`, `uri_injective`: The text of a path, and the address of a file.
-/

namespace Annals

namespace Utf8

theorem encodeChar_ne_nil (c : Char) : encodeChar c ≠ [] := by
  unfold encodeChar
  simp only []
  split
  · exact List.cons_ne_nil _ _
  · split
    · exact List.cons_ne_nil _ _
    · split <;> exact List.cons_ne_nil _ _

/-- The bytes of a character do not begin those of another one. -/
theorem encodeChar_append {c d : Char} {u v : List Nat}
    (h : encodeChar c ++ u = encodeChar d ++ v) : c = d ∧ u = v := by
  -- Both are code points, so each of them has one of the four lengths.
  have hc : c.toNat < 0x110000 := by
    have hvalid : c.toNat < 0xD800 ∨ (0xDFFF < c.toNat ∧ c.toNat < 0x110000) := c.valid
    omega
  have hd : d.toNat < 0x110000 := by
    have hvalid : d.toNat < 0xD800 ∨ (0xDFFF < d.toNat ∧ d.toNat < 0x110000) := d.valid
    omega
  have hboth : c.toNat = d.toNat ∧ u = v := by
    unfold encodeChar at h
    simp only [] at h
    -- Different lengths differ in the first byte; bytes of one length tell the number.
    split_ifs at h <;>
      simp only [List.cons_append, List.nil_append, List.cons.injEq] at h <;>
      first
      | exfalso; omega
      | exact ⟨by omega, by simp only [h]⟩
  exact ⟨Char.toNat_inj.mp hboth.1, hboth.2⟩

theorem encode_injective {cs ds : List Char} (h : encode cs = encode ds) : cs = ds :=
  flatMap_inj (p := fun _ => True) encodeChar_ne_nil
    (fun _ _ _ _ _ _ => encodeChar_append) (fun _ _ => trivial) (fun _ _ => trivial) h

theorem lt_of_mem_encode {cs : List Char} {b : Nat} (h : b ∈ encode cs) : b < 256 := by
  rcases List.mem_flatMap.mp h with ⟨c, _, hb⟩
  have hc : c.toNat < 0x110000 := by
    have hvalid : c.toNat < 0xD800 ∨ (0xDFFF < c.toNat ∧ c.toNat < 0x110000) := c.valid
    omega
  unfold encodeChar at hb
  simp only [] at hb
  split_ifs at hb <;> simp only [List.mem_cons, List.not_mem_nil, or_false] at hb <;> omega

end Utf8

namespace Path

/-- A byte in an address: the character that it is, if this stands for itself, and otherwise
    a percent sign and two digits. -/
def quotedByte (b : Nat) : List Char :=
  if b < 128 && isPlain (Char.ofNat b) then [Char.ofNat b]
  else '%' :: (Text.toHex 2 b).map Char.toUpper

theorem toNat_of_isPlain {c : Char} (h : isPlain c = true) : c.toNat < 128 := by
  -- A letter or a digit is a character between two others.
  change (((((((decide (c.val ≥ 65 ∧ c.val ≤ 90) || (c.val ≥ 97 && c.val ≤ 122)) ||
    (c.val ≥ 48 && c.val ≤ 57)) || c == '_') || c == '.') || c == '-') || c == '~') || c == '/')
      = true at h
  simp only [Bool.or_eq_true, Bool.and_eq_true, decide_eq_true_eq, beq_iff_eq,
    UInt32.le_iff_toNat_le] at h
  have hvalue : c.val.toNat = c.toNat := rfl
  rcases h with ((((((⟨_, hle⟩ | ⟨_, hle⟩) | ⟨_, hle⟩) | rfl) | rfl) | rfl) | rfl) | rfl
  all_goals first | decide | (simp at hle; omega)

theorem toNat_ofNat_of_lt {n : Nat} (h : n < 128) : (Char.ofNat n).toNat = n := by
  have hvalid : n.isValidChar := Or.inl (by omega)
  rw [Char.ofNat, dif_pos hvalid]
  rfl

theorem quotedByte_ne_nil (b : Nat) : quotedByte b ≠ [] := by
  unfold quotedByte
  split <;> exact List.cons_ne_nil _ _

/-- The value of a digit of an address. -/
theorem hexValue_toUpper_hexDigit {k : Nat} (h : k < 16) :
    Text.hexValue? (Text.hexDigit k).toUpper = some k := by
  revert k
  decide

/-- What stands for a byte does not begin what stands for another one. -/
theorem quotedByte_append {a b : Nat} (ha : a < 256) (hb : b < 256) {u v : List Char}
    (h : quotedByte a ++ u = quotedByte b ++ v) : a = b ∧ u = v := by
  have hpercent : isPlain '%' = false := by decide
  unfold quotedByte at h
  split_ifs at h with hplain hplain' hplain'
  · simp only [Bool.and_eq_true, decide_eq_true_eq] at hplain hplain'
    simp only [List.cons_append, List.nil_append, List.cons.injEq] at h
    have hnumber := congrArg Char.toNat h.1
    rw [toNat_ofNat_of_lt hplain.1, toNat_ofNat_of_lt hplain'.1] at hnumber
    exact ⟨hnumber, h.2⟩
  · simp only [Bool.and_eq_true, decide_eq_true_eq] at hplain
    simp only [List.cons_append, List.nil_append, List.cons.injEq] at h
    rw [h.1, hpercent] at hplain
    cases hplain.2
  · simp only [Bool.and_eq_true, decide_eq_true_eq] at hplain'
    simp only [List.cons_append, List.nil_append, List.cons.injEq] at h
    rw [← h.1, hpercent] at hplain'
    cases hplain'.2
  · -- Two digits are as many as it takes for a byte.
    simp only [Text.toHex, List.nil_append, List.cons_append, List.map_cons, List.map_nil,
      List.cons.injEq] at h
    rcases h with ⟨_, hhigh, hlow, hrest⟩
    have hvalue (k : Nat) : Text.hexValue? (Text.hexDigit (k % 16)).toUpper = some (k % 16) :=
      hexValue_toUpper_hexDigit (Nat.mod_lt _ (by omega))
    have hhigh' := congrArg Text.hexValue? hhigh
    have hlow' := congrArg Text.hexValue? hlow
    rw [hvalue, hvalue, Option.some.injEq] at hhigh' hlow'
    exact ⟨by omega, hrest⟩

/-- A text in an address is written byte by byte. -/
theorem quotedPath_eq (s : String) :
    quotedPath s = String.ofList ((Utf8.encode s.toList).flatMap quotedByte) := by
  unfold quotedPath Utf8.encode
  rw [List.flatMap_assoc]
  refine congrArg String.ofList (congrArg (List.flatMap · s.toList) (funext (fun c => ?_)))
  split
  · rename_i hplain
    have hlow := toNat_of_isPlain hplain
    simp only [Utf8.encodeChar, List.flatMap_cons, List.flatMap_nil, quotedByte,
      Char.ofNat_toNat, hplain, hlow, decide_true, Bool.and_self, if_true, List.append_nil]
  · rename_i hother
    rw [List.flatMap_def, List.flatMap_def]
    refine congrArg List.flatten (List.map_congr_left (fun b hb => ?_))
    -- A byte of such a character is the character, or it is no character of its own.
    have hcode : (b < 128 && isPlain (Char.ofNat b)) = false := by
      unfold Utf8.encodeChar at hb
      simp only [] at hb
      split_ifs at hb <;> simp only [List.mem_cons, List.not_mem_nil, or_false] at hb
      · rw [hb, Char.ofNat_toNat, Bool.eq_false_iff.mpr hother, Bool.and_false]
      all_goals
        rw [Bool.and_eq_false_iff]
        exact Or.inl (decide_eq_false (by omega))
    rw [quotedByte, hcode, if_neg Bool.false_ne_true]

theorem quotedPath_injective {s t : String} (h : quotedPath s = quotedPath t) : s = t := by
  rw [quotedPath_eq, quotedPath_eq] at h
  have hbytes := flatMap_inj quotedByte_ne_nil (fun a b ha hb u v => quotedByte_append ha hb)
    (fun a => Utf8.lt_of_mem_encode) (fun a => Utf8.lt_of_mem_encode)
    (String.ofList_injective h)
  exact String.toList_inj.mp (Utf8.encode_injective hbytes)

/-- A text that can be a name in a path. -/
def IsName (n : String) : Prop := n ≠ "" ∧ n ≠ "." ∧ '/' ∉ n.toList

instance (n : String) : Decidable (IsName n) := inferInstanceAs (Decidable (_ ∧ _ ∧ _))

/-- The names of a path are found again in its text. -/
theorem namesOf_intercalate {names : List String} (h : ∀ n ∈ names, IsName n) :
    namesOf ("/".intercalate names).toList = names := by
  cases names with
  | nil => rfl
  | cons first rest =>
      have hpieces : ∀ piece ∈ (first :: rest).map String.toList, '/' ∉ piece := by
        intro piece hpiece
        rcases List.mem_map.mp hpiece with ⟨n, hn, rfl⟩
        exact (h n hn).2.2
      -- None of the pieces is left out as empty or as a single dot.
      have hkeep : ∀ n ∈ first :: rest, (!n.isEmpty && n != ".") = true := by
        intro n hn
        simp [(h n hn).1, (h n hn).2.1]
      rw [namesOf, String.toList_intercalate]
      change List.filter _ ((Text.splitOn '/' (['/'].intercalate _)).map String.ofList) = _
      rw [Text.splitOn_intercalate hpieces (by simp), List.map_map]
      have hsame : (first :: rest).map (String.ofList ∘ String.toList) = first :: rest := by simp
      rw [hsame, List.filter_eq_self.mpr hkeep]

/-- Two paths from the same place have the same text only if they are the same. -/
theorem text_injective {p q : Path} (hroot : p.root = q.root) (habsolute : p.isAbsolute = true)
    (hp : ∀ n ∈ p.names, IsName n) (hq : ∀ n ∈ q.names, IsName n) (h : p.text = q.text) :
    p = q := by
  rcases p with ⟨root, names⟩
  rcases q with ⟨root', names'⟩
  cases hroot
  have hsome : root.isEmpty = false := by
    unfold isAbsolute at habsolute
    exact Bool.not_eq_true' _ ▸ habsolute
  simp only [text, hsome, Bool.false_and, Bool.false_eq_true, if_false] at h
  have hjoined : "/".intercalate names = "/".intercalate names' := String.append_right_inj _ |>.mp h
  have hnames := congrArg (fun s : String => namesOf s.toList) hjoined
  simp only [namesOf_intercalate hp, namesOf_intercalate hq] at hnames
  rw [hnames]

/-- Different files have different addresses. -/
theorem uri_injective {p q : Path} (hroot : p.root = q.root) (habsolute : p.isAbsolute = true)
    (hp : ∀ n ∈ p.names, IsName n) (hq : ∀ n ∈ q.names, IsName n) (h : p.uri = q.uri) :
    p = q := by
  have hquoted : quotedPath p.text = quotedPath q.text := String.append_right_inj _ |>.mp h
  exact text_injective hroot habsolute hp hq (quotedPath_injective hquoted)

end Path

end Annals
