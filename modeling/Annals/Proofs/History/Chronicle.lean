import Annals.Lint.Check
import Annals.Proofs.Release.Address
import Annals.Proofs.Yaml.BlockStyle

/-!
# Histories as They Are Written

A history has sections, and in each of them records. A record has the address of a pull
request and may have a description and the slug of a heading. `Chronicle` is such a
history before it is written: it holds that no section is empty and none comes twice, so
what is written of it is always a history.

It is written in block style, the addresses plain and the other texts between double
quotes. These are the lines of a tree, and this tree is one that fits; so the text is
decoded to the values of the tree, and the records that are found in these values are
the records that were written.

All of it is printable ASCII without the marks that could end the comment or the fence
around it, and this is all that the surroundings have to know.

## Main definitions

* `History.Topic`, `History.Record`, `History.Chronicle`: A history before it is written.
* `Chronicle.lines`: The lines of a history.
* `Chronicle.value`: The value of a history.
* `History.isTame`: A character that nothing around a history takes notice of.

## Theorems

* `Chronicle.lines_eq`, `Chronicle.fits`: The lines are those of a tree in block style.
* `Chronicle.decode_text`: A history is decoded to its value.
* `Chronicle.mem_records`: The records of the value are those of the history.
* `Chronicle.tame`: What the lines consist of.
-/

namespace Annals

namespace History

open Yaml

/-- The sections of a history. -/
inductive Topic where
  | added
  | deprecated
  | changes
  | removed
  deriving DecidableEq, Repr

/-- The key of a section. -/
def Topic.name : Topic → List Char
  | added => "added".toList
  | deprecated => "deprecated".toList
  | changes => "changes".toList
  | removed => "removed".toList

theorem Topic.name_injective {s t : Topic} (h : s.name = t.name) : s = t := by
  cases s <;> cases t <;> revert h <;> decide

/-- The key of the address of a record. -/
def urlKey : List Char := "pr-url".toList

/-- The key of the description of a record. -/
def descriptionKey : List Char := "description".toList

/-- The key of the heading to which a record refers. -/
def headerKey : List Char := "breaking-changes-header".toList

/-- The keys of records. -/
def recordKeys : List (List Char) := [urlKey, descriptionKey, headerKey]

/-- The keys of sections. -/
def sectionKeys : List (List Char) :=
  [Topic.added.name, Topic.deprecated.name, Topic.changes.name, Topic.removed.name]

theorem Topic.mem_sectionKeys (t : Topic) : t.name ∈ sectionKeys := by
  cases t <;> decide

/-- All keys of a history can be keys in block style. -/
theorem isKey {key : List Char} (h : key ∈ recordKeys ++ sectionKeys) : Yaml.Tree.IsKey key := by
  have hword : ∀ key ∈ recordKeys ++ sectionKeys, key ≠ [] ∧
      key.all (fun c => !isGap c && isInline c) = true ∧
      key.head?.all (fun c => !Scanner.isIndicator c) = true ∧ key ≠ ['-'] ∧
      key.getLast? ≠ some ':' := by decide
  have hkey : ∀ key ∈ recordKeys ++ sectionKeys, key.length ≤ Scanner.longestKey ∧
      Tag.ofPlain (String.ofList key) = Tag.str ∧ key.head? ≠ some '.' ∧ key.head? ≠ some '-' := by
    decide +kernel
  rcases hword key h with ⟨hne, hinked, hbegins, hhyphen, hends⟩
  rcases hkey key h with ⟨hshort, hstring, hdot, hnoHyphen⟩
  refine ⟨⟨hne, fun c hc => ?_, fun c hc => Or.inl ?_, hhyphen, hends⟩, hshort, hstring, hdot,
    hnoHyphen⟩
  · simpa using List.all_eq_true.mp hinked c hc
  · simpa using (Option.all_eq_true _ _).mp hbegins c hc

/-- What the address of a pull request begins with. -/
def urlStart : List Char := "https://github.com/electron/electron/pull".toList

/-- Whether a character can be in a description. -/
def isDescriptionChar (c : Char) : Bool := c.isAlphanum || c == ' '

/-- Whether a character can be in the slug of a heading. -/
def isHeaderChar (c : Char) : Bool := c.isLower || c.isDigit || c == '-'

/-- A record: the number of its pull request, and its description and the heading to which
    it refers, as far as it has them. Nothing is asked of the texts but what they consist of,
    and of the number that it can be read. -/
structure Record where
  number : Nat
  description : Option (List Char)
  header : Option (List Char)
  isShort : (Nat.toDigits 10 number).length ≤ maxDigits
  isDescription : description.all (·.all isDescriptionChar) = true
  isHeader : header.all (·.all isHeaderChar) = true

/-- A history: its sections in the order in which they are written, each with its
    records. -/
structure Chronicle where
  sections : List (Topic × List Record)
  isFilled : sections ≠ []
  isNodup : (sections.map Prod.fst).Nodup
  eachFilled : ∀ s ∈ sections, s.2 ≠ []

/-- A character of printable ASCII that ends neither a comment nor a fence. -/
def isTame (c : Char) : Bool := 32 ≤ c.toNat && c.toNat < 127 && c != '>' && c.toNat != 96

/-- What holds of the characters of ASCII, one by one. -/
theorem of_ascii {p : Char → Bool} (h : ∀ n < 128, p (Char.ofNat n) = true) {c : Char}
    (hc : c.toNat < 128) : p c = true := by
  have hown := h c.toNat hc
  rwa [Char.ofNat_toNat] at hown

/-- What holds of the tame characters, one by one. -/
theorem of_isTame {p : Char → Bool}
    (h : ∀ n < 128, (!isTame (Char.ofNat n) || p (Char.ofNat n)) = true) {c : Char}
    (hc : isTame c = true) : p c = true := by
  have hlow : c.toNat < 128 := by
    unfold isTame at hc
    simp only [Bool.and_eq_true, decide_eq_true_eq] at hc
    omega
  have hown := of_ascii (p := fun c => !isTame c || p c) h hlow
  simpa [hc] using hown

/-- The characters of descriptions and of slugs are tame, and stand for themselves between
    quotes. -/
theorem tame_quotable {c : Char} (h : isDescriptionChar c = true ∨ isHeaderChar c = true) :
    isTame c = true ∧ isQuotable c = true := by
  -- They all are ASCII, so both properties can be checked one by one.
  have hlow : c.toNat < 128 := by
    have hz : 'z'.val.toNat = 122 ∧ 'Z'.val.toNat = 90 ∧ '9'.val.toNat = 57 := ⟨rfl, rfl, rfl⟩
    have hcode : c.toNat = c.val.toNat := rfl
    unfold isDescriptionChar isHeaderChar Char.isAlphanum Char.isAlpha Char.isUpper Char.isLower
      Char.isDigit at h
    simp only [Bool.or_eq_true, Bool.and_eq_true, decide_eq_true_eq, ge_iff_le,
      UInt32.le_iff_toNat_le, beq_iff_eq] at h
    rcases h with ((h | h) | rfl) | ((h | h) | rfl)
    · omega
    · omega
    · decide
    · omega
    · omega
    · decide
  have hall := of_ascii (p := fun c => !(isDescriptionChar c || isHeaderChar c) ||
    (isTame c && isQuotable c)) (by decide +kernel) hlow
  rw [Bool.or_eq_true_iff.mpr h] at hall
  simpa using hall

/-- What begins like an address is a string: no other kind of scalar begins with such a
    letter. -/
theorem ofPlain_https {cs rest : List Char} (hcs : cs = "https://".toList ++ rest)
    (hlast : cs.getLast? ≠ some '\n') : Tag.ofPlain (String.ofList cs) = Tag.str := by
  have hbare : withoutLineEnd cs = cs := by
    unfold withoutLineEnd
    rw [if_neg]
    simpa using hlast
  unfold Tag.ofPlain
  simp only [String.toList_ofList, hbare]
  rw [hcs]
  rfl

/-- What holds of the address of a pull request holds of its beginning, of the slash, and of
    all digits. -/
theorem forall_address {p : Char → Bool} (hstart : (urlStart ++ ['/']).all p = true)
    (hdigit : ∀ k < 10, p (Nat.digitChar k) = true) (n : Nat) :
    ∀ c ∈ urlStart ++ '/' :: Nat.toDigits 10 n, p c = true := by
  intro c hc
  rw [List.append_cons] at hc
  rcases List.mem_append.mp hc with hc | hc
  · exact List.all_eq_true.mp hstart c hc
  · exact Text.forall_toDigits hdigit _ c hc

/-- The address of a pull request ends with a digit. -/
theorem last_address (n : Nat) : ∃ c ∈ Nat.toDigits 10 n,
    (urlStart ++ '/' :: Nat.toDigits 10 n).getLast? = some c := by
  have hdigits := Nat.toDigits_ne_nil (n := n) (b := 10)
  refine ⟨_, List.getLast_mem hdigits, ?_⟩
  rw [List.append_cons, List.getLast?_append, List.getLast?_eq_some_getLast hdigits]
  rfl

namespace Record

/-- The address of the pull request of a record. -/
def url (r : Record) : List Char := urlStart ++ '/' :: Nat.toDigits 10 r.number

/-- The texts of a record with their keys, besides the address. -/
def quoted (r : Record) : List (List Char × List Char) :=
  (r.description.map (descriptionKey, ·)).toList ++ (r.header.map (headerKey, ·)).toList

/-- The lines of a record. -/
def lines (r : Record) : List (List Char) :=
  ("  - ".toList ++ (urlKey ++ ':' :: ' ' :: r.url)) ::
    r.quoted.map fun e => "    ".toList ++ (e.1 ++ ':' :: ' ' :: '"' :: (e.2 ++ ['"']))

/-- The entries of a record as trees. -/
def entries (r : Record) : List (List Char × Yaml.Tree) :=
  (urlKey, .text r.url true) :: r.quoted.map fun e => (e.1, .text e.2 false)

/-- A record as a tree. -/
def tree (r : Record) : Yaml.Tree := .entries r.entries

theorem entryLines_quoted (l : List (List Char × List Char)) :
    Yaml.Tree.entryLines "    ".toList 4 (l.map fun e => (e.1, .text e.2 false))
      = l.map fun e => "    ".toList ++ (e.1 ++ ':' :: ' ' :: '"' :: (e.2 ++ ['"'])) := by
  induction l with
  | nil => rfl
  | cons e rest ih =>
      have hspaces : List.replicate 4 ' ' = "    ".toList := rfl
      rw [List.map_cons, Yaml.Tree.entryLines, hspaces, ih]
      simp [Yaml.Tree.isText, Yaml.Tree.lines, Yaml.Tree.written]

theorem lines_eq (r : Record) : r.tree.lines "  - ".toList 4 = r.lines := by
  have hspaces : List.replicate 4 ' ' = "    ".toList := rfl
  rw [tree, Yaml.Tree.lines, entries, Yaml.Tree.entryLines, hspaces, entryLines_quoted]
  simp [Yaml.Tree.isText, Yaml.Tree.lines, Yaml.Tree.written, lines]

theorem last_url (r : Record) : ∃ c ∈ Nat.toDigits 10 r.number, r.url.getLast? = some c :=
  last_address r.number

theorem isWord_url (r : Record) : IsWord r.url := by
  refine ⟨List.append_ne_nil_of_left_ne_nil (by decide) _, fun c hc => ?_, fun c hc => ?_,
    fun hhyphen => ?_, ?_⟩
  · have hall := forall_address (p := fun c => !isGap c && isInline c) (by decide) (by decide)
      r.number c hc
    simpa using hall
  · cases hc
    decide
  · cases congrArg List.head? hhyphen
  · rcases r.last_url with ⟨c, hc, hlast⟩
    have hcolon := Text.forall_toDigits (p := (· != ':')) (by decide) _ c hc
    rw [hlast]
    rintro ⟨⟩
    cases hcolon

theorem ofPlain_url (r : Record) : Tag.ofPlain (String.ofList r.url) = Tag.str := by
  refine ofPlain_https rfl ?_
  rcases r.last_url with ⟨c, hc, hlast⟩
  have hbreak := Text.forall_toDigits (p := (· != '\n')) (by decide) _ c hc
  rw [hlast]
  rintro ⟨⟩
  cases hbreak

/-- What is written between quotes is a description or the slug of a heading. -/
theorem isChar_quoted {r : Record} {e : List Char × List Char} (he : e ∈ r.quoted) :
    ∀ c ∈ e.2, isDescriptionChar c = true ∨ isHeaderChar c = true := by
  rcases List.mem_append.mp he with he | he
  · rcases Option.map_eq_some_iff.mp (Option.mem_toList.mp he) with ⟨cs, hcs, rfl⟩
    have hall := (Option.all_eq_true _ _).mp r.isDescription cs hcs
    exact fun c hc => Or.inl (List.all_eq_true.mp hall c hc)
  · rcases Option.map_eq_some_iff.mp (Option.mem_toList.mp he) with ⟨cs, hcs, rfl⟩
    have hall := (Option.all_eq_true _ _).mp r.isHeader cs hcs
    exact fun c hc => Or.inr (List.all_eq_true.mp hall c hc)

theorem keys_sublist (r : Record) : (r.entries.map Prod.fst).Sublist recordKeys := by
  unfold entries quoted recordKeys
  cases r.description <;> cases r.header <;> simp

theorem fits_entries (r : Record) : ∀ e ∈ r.entries, e.2.Fits := by
  intro e he
  rcases List.mem_cons.mp he with rfl | he
  · exact .word r.isWord_url
  · rcases List.mem_map.mp he with ⟨q, hq, rfl⟩
    exact .quoted (fun c hc => (tame_quotable (isChar_quoted hq c hc)).2)

theorem fits (r : Record) : r.tree.Fits := by
  refine .entries (List.cons_ne_nil _ _) (r.keys_sublist.nodup (by decide)) (fun e he => ?_)
    r.fits_entries
  exact isKey (List.mem_append_left _ (r.keys_sublist.mem (List.mem_map_of_mem he)))

/-- Only the address is written plain, and it is a string. -/
theorem strings (r : Record) : r.tree.Strings := by
  refine .entries (fun e he => ?_)
  rcases List.mem_cons.mp he with rfl | he
  · exact .text r.ofPlain_url
  · rcases List.mem_map.mp he with ⟨q, hq, rfl⟩
    exact .text rfl

/-- A record is one mapping with nothing but texts in it. -/
theorem height_tree (r : Record) : r.tree.height = 1 := by
  unfold tree entries quoted
  cases r.description <;> cases r.header <;> rfl

theorem key_quoted {r : Record} {e : List Char × List Char} (he : e ∈ r.quoted) :
    e.1 ∈ recordKeys := by
  refine r.keys_sublist.mem (List.mem_map.mpr ⟨(e.1, .text e.2 false), ?_, rfl⟩)
  exact List.mem_cons_of_mem _ (List.mem_map.mpr ⟨e, he, rfl⟩)

theorem tame_line {lead key value : List Char} (hlead : lead.all isTame = true)
    (hkey : key ∈ recordKeys) (hvalue : ∀ c ∈ value, isTame c = true) :
    ∀ c ∈ lead ++ (key ++ ':' :: ' ' :: value), isTame c = true := by
  have hkeys : ∀ key ∈ recordKeys, key.all isTame = true := by decide
  intro c hc
  simp only [List.mem_append, List.mem_cons] at hc
  rcases hc with hc | hc | rfl | rfl | hc
  · exact List.all_eq_true.mp hlead c hc
  · exact List.all_eq_true.mp (hkeys key hkey) c hc
  · decide
  · decide
  · exact hvalue c hc

/-- All characters of a record are tame. -/
theorem tame (r : Record) : ∀ l ∈ r.lines, ∀ c ∈ l, isTame c = true := by
  intro l hl
  rcases List.mem_cons.mp hl with rfl | hl
  · exact tame_line (by decide) (by decide) (forall_address (by decide) (by decide) r.number)
  · rcases List.mem_map.mp hl with ⟨e, he, rfl⟩
    refine tame_line (by decide) (key_quoted he) (fun c hc => ?_)
    rw [List.mem_cons, List.mem_append, List.mem_singleton] at hc
    rcases hc with rfl | hc | rfl
    · decide
    · exact (tame_quotable (isChar_quoted he c hc)).1
    · decide

end Record

namespace Chronicle

/-- The records of a history. -/
def records (h : Chronicle) : List Record := h.sections.flatMap Prod.snd

/-- The lines of a history. -/
def lines (h : Chronicle) : List (List Char) :=
  h.sections.flatMap fun s => (s.1.name ++ [':']) :: s.2.flatMap Record.lines

/-- The text of a history. -/
def text (h : Chronicle) : String := String.ofList (Text.unlines h.lines)

/-- The records of a section as a tree. -/
def sectionTree (rs : List Record) : Yaml.Tree := .list (rs.map Record.tree)

/-- The sections of a history with their keys as trees. -/
def entries (h : Chronicle) : List (List Char × Yaml.Tree) :=
  h.sections.map fun s => (s.1.name, sectionTree s.2)

/-- A history as a tree. -/
def tree (h : Chronicle) : Yaml.Tree := .entries h.entries

/-- The value of a history. -/
def value (h : Chronicle) : Value := h.tree.value 0

/-- A small history for tests. -/
def sample : Chronicle where
  sections :=
    [(.added, [⟨22533, none, none, by decide, by decide, by decide⟩]),
      (.changes, [⟨26789, some "Made it work".toList, some "behavior-changed-foo".toList,
        by decide, by decide, by decide⟩])]
  isFilled := List.cons_ne_nil _ _
  isNodup := by decide
  eachFilled := by decide

example : sample.lines.map String.ofList
    = ["added:",
      "  - pr-url: https://github.com/electron/electron/pull/22533",
      "changes:",
      "  - pr-url: https://github.com/electron/electron/pull/26789",
      "    description: \"Made it work\"",
      "    breaking-changes-header: \"behavior-changed-foo\""] := by
  decide +kernel

theorem lines_records (rs : List Record) :
    (sectionTree rs).lines "  ".toList 2 = rs.flatMap Record.lines := by
  have hspaces : List.replicate 2 ' ' = "  ".toList := rfl
  unfold sectionTree
  rw [Yaml.Tree.lines]
  induction rs with
  | nil => rfl
  | cons r rest ih =>
      rw [List.map_cons, Yaml.Tree.itemLines, hspaces, ih, List.flatMap_cons, ← r.lines_eq]
      rfl

/-- The lines of a history are those of its tree. -/
theorem lines_eq (h : Chronicle) : h.tree.lines [] 0 = h.lines := by
  have hspaces : List.replicate 2 ' ' = "  ".toList := rfl
  unfold tree entries lines
  rw [Yaml.Tree.lines]
  induction h.sections with
  | nil => rfl
  | cons s rest ih =>
      have hnone : List.replicate 0 ' ' = [] := rfl
      have hlist : (sectionTree s.2).isText = false := rfl
      rw [List.map_cons, Yaml.Tree.entryLines, hlist, hnone, ih, Nat.zero_add, hspaces, lines_records]
      rfl

theorem fits_section {rs : List Record} (hne : rs ≠ []) : (sectionTree rs).Fits := by
  refine .list (fun h => hne (List.map_eq_nil_iff.mp h)) (fun t ht => ?_) (fun t ht => ?_)
  · rcases List.mem_map.mp ht with ⟨r, _, rfl⟩
    rfl
  · rcases List.mem_map.mp ht with ⟨r, _, rfl⟩
    exact r.fits

theorem fits_entries (h : Chronicle) : ∀ e ∈ h.entries, e.2.Fits := by
  intro e he
  rcases List.mem_map.mp he with ⟨s, hs, rfl⟩
  exact fits_section (h.eachFilled s hs)

theorem fits (h : Chronicle) : h.tree.Fits := by
  have hkeys : h.entries.map Prod.fst = (h.sections.map Prod.fst).map Topic.name := by
    simp [entries]
  have hnodup : (h.entries.map Prod.fst).Nodup := by
    rw [hkeys]
    exact h.isNodup.map (fun _ _ => Topic.name_injective)
  refine .entries (fun hnil => h.isFilled (List.map_eq_nil_iff.mp hnil)) hnodup (fun e he => ?_)
    h.fits_entries
  rcases List.mem_map.mp he with ⟨s, _, rfl⟩
  exact isKey (List.mem_append_right _ s.1.mem_sectionKeys)

theorem strings (h : Chronicle) : h.tree.Strings := by
  refine .entries (fun e he => ?_)
  rcases List.mem_map.mp he with ⟨s, _, rfl⟩
  refine .list (fun t ht => ?_)
  rcases List.mem_map.mp ht with ⟨r, _, rfl⟩
  exact r.strings

theorem height_section (rs : List Record) : (sectionTree rs).height ≤ 2 := by
  unfold sectionTree
  rw [Yaml.Tree.height]
  induction rs with
  | nil => exact Nat.le_succ _
  | cons r rest ih =>
      rw [List.map_cons, Yaml.Tree.itemHeight, r.height_tree]
      omega

theorem height_tree (h : Chronicle) : h.tree.height ≤ 3 := by
  unfold tree entries
  rw [Yaml.Tree.height]
  induction h.sections with
  | nil => exact Nat.le_of_ble_eq_true rfl
  | cons s rest ih =>
      have hown := height_section s.2
      rw [List.map_cons, Yaml.Tree.entryHeight]
      omega

/-- All characters of a history are tame. -/
theorem tame (h : Chronicle) : ∀ l ∈ h.lines, ∀ c ∈ l, isTame c = true := by
  have hkeys : ∀ key ∈ sectionKeys, (key ++ [':']).all isTame = true := by decide
  intro l hl
  rcases List.mem_flatMap.mp hl with ⟨s, _, hl⟩
  rcases List.mem_cons.mp hl with rfl | hl
  · exact List.all_eq_true.mp (hkeys s.1.name s.1.mem_sectionKeys)
  · rcases List.mem_flatMap.mp hl with ⟨r, _, hl⟩
    exact r.tame l hl

/-- A history is decoded to its value. -/
theorem decode_text (h : Chronicle) (uniqueKeys : Bool) :
    decode uniqueKeys h.text = .ok h.value := by
  have hheight : h.tree.height ≤ maxNesting := Nat.le_trans h.height_tree (by decide)
  have htext : ∀ l ∈ h.tree.lines [] 0, ∀ c ∈ l, isTextChar c = true := by
    rw [h.lines_eq]
    exact fun l hl c hc => of_isTame (by decide +kernel) (h.tame l hl c hc)
  have hdecode := Yaml.Tree.decode_tree h.fits h.strings rfl hheight htext uniqueKeys
  rwa [h.lines_eq] at hdecode

/-- The records that are found in the value of a history under some keys are records of the
    history. -/
theorem mem_records {h : Chronicle} {names : List String} {e : String × Value}
    (he : e ∈ Entry.records h.value names) : ∃ r ∈ h.records, ∃ base, e.2 = r.tree.value base := by
  rcases List.mem_flatMap.mp he with ⟨name, _, he⟩
  split at he
  · next id items hfield =>
      -- The value of a key is that of an entry of the tree, which is a list of records.
      rcases Yaml.Tree.field?_entries h.fits_entries hfield with ⟨entry, hentry, _, base, hvalue⟩
      rcases List.mem_map.mp hentry with ⟨s, hs, rfl⟩
      rw [hvalue] at he
      rcases List.mem_map.mp he with ⟨v, hv, rfl⟩
      have hrecords : ∀ t ∈ s.2.map Record.tree, t.Fits := by
        intro t ht
        rcases List.mem_map.mp ht with ⟨r, _, rfl⟩
        exact r.fits
      rcases Yaml.Tree.mem_parts_list hrecords (List.mem_filter.mp hv).1 with ⟨t, ht, b, rfl⟩
      rcases List.mem_map.mp ht with ⟨r, hr, rfl⟩
      exact ⟨r, List.mem_flatMap.mpr ⟨s, hs, hr⟩, b, rfl⟩
  · exact absurd he List.not_mem_nil

end Chronicle

end History

end Annals
