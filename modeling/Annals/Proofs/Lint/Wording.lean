import Annals.Proofs.Lint.Splitting
import Annals.Proofs.Text.Lines

/-!
# Keys and Values in Lines

What the checks of the wording see of lines that are written with a key and a value.

The two checks read lines as they stand and know nothing of the structure of a history.
A line falls into its key and its value where a colon and a space stand between them,
whatever leads the key: blanks, and the mark of an item. So of a line that is written in
this way the checks see exactly its key and its value, and of a line that ends with the
colon they see nothing.

## Main definitions

* `Wording.IsLead`: What may stand before a key.
* `Wording.IsKey`, `Wording.IsValue`: What a key and a value may be.
* `Wording.IsSafe`: Neither check has an issue with a line.
* `Wording.stringIssue?`, `Wording.descriptionIssue?`: The issues of a line.

## Theorems

* `keyLine?_written`, `descriptionLine?_written`: A line with a key and a value.
* `isSafe_quoted`, `isSafe_plain`, `isSafe_bare`: Lines without issues.
* `isSafe_iff`, `issues_of_isSafe`: A history without issues, line by line.
-/

namespace Annals

namespace Wording

/-- What may stand before a key: blanks, and the mark of an item. -/
def IsLead (lead : List Char) : Prop :=
  ∃ n, lead = List.replicate n ' ' ∨ lead = List.replicate n ' ' ++ ['-', ' ']

/-- What a key may be. It does not begin with a hyphen, so that the mark of an item can be
    told from it. -/
structure IsKey (key : List Char) : Prop where
  nonempty : key ≠ []
  isKeyChar : ∀ c ∈ key, isKeyChar c = true
  begins : ∀ c ∈ key.head?, Text.isBlank c = false ∧ c ≠ '-'

/-- What a value may be: it has no blanks at its ends. -/
structure IsValue (value : List Char) : Prop where
  nonempty : value ≠ []
  begins : ∀ c ∈ value.head?, Text.isBlank c = false
  ends : ∀ c ∈ value.getLast?, Text.isBlank c = false

/-- Neither check has an issue with a line. -/
structure IsSafe (line : List Char) : Prop where
  string : ∀ e ∈ keyLine? line, isQuoted e.2 = true ∨ hasSafeEdges e.2 = true
  description : ∀ e ∈ descriptionLine? line, isQuoted e.2 = true

variable {lead key value : List Char}

theorem isFront_lead (hlead : IsLead lead) : IsFront lead := by
  have hblanks (n : Nat) : ∀ x ∈ List.replicate n ' ', Text.isBlank x = true := by
    intro x hx
    rw [List.eq_of_mem_replicate hx]
    decide
  rcases hlead with ⟨n, rfl | rfl⟩
  · exact ⟨_, [], (List.append_nil _).symm, hblanks n, Or.inl rfl⟩
  · exact ⟨_, _, rfl, hblanks n, Or.inr ⟨[' '], rfl, List.cons_ne_nil _ _, hblanks 1⟩⟩

/-- A written line splits into what it is written from. -/
theorem splits_written (hlead : IsLead lead) (hkey : IsKey key) (hvalue : IsValue value) :
    Splits (lead ++ (key ++ ':' :: ' ' :: value)) lead key [' '] value where
  line := rfl
  front := isFront_lead hlead
  key := ⟨hkey.nonempty, hkey.isKeyChar⟩
  gap := ⟨List.cons_ne_nil _ _, List.forall_mem_singleton.mpr rfl⟩
  value := by
    obtain ⟨c, value, rfl⟩ := List.exists_cons_of_ne_nil hvalue.nonempty
    exact ⟨c, rfl, hvalue.begins c rfl⟩

theorem keyLine?_written (hlead : IsLead lead) (hkey : IsKey key) (hvalue : IsValue value) :
    keyLine? (lead ++ (key ++ ':' :: ' ' :: value)) = some (key, value) := by
  refine keyLine?_eq_some_iff.mpr ⟨_, _, _, _, splits_written hlead hkey hvalue, ?_⟩
  rw [Text.trim_of_ends hvalue.begins hvalue.ends]

theorem descriptionLine?_written (hlead : IsLead lead) (hkey : IsKey key)
    (hvalue : IsValue value) : descriptionLine? (lead ++ (key ++ ':' :: ' ' :: value))
      = if descriptionEnd.isSuffixOf key then some (key, value) else none := by
  have hline := keyLine?_written hlead hkey hvalue
  split
  · next hend =>
      exact descriptionLine?_eq_some_iff.mpr ⟨hline, List.isSuffixOf_iff_suffix.mp hend⟩
  · next hend =>
      rw [Option.eq_none_iff_forall_ne_some]
      intro found hfound
      rcases descriptionLine?_eq_some_iff.mp hfound with ⟨hfound, hends⟩
      cases hline.symm.trans hfound
      exact hend (List.isSuffixOf_iff_suffix.mpr hends)

theorem isQuoted_written (cs : List Char) : isQuoted ('"' :: (cs ++ ['"'])) = true := by
  simp [isQuoted]

theorem isValue_quoted (cs : List Char) : IsValue ('"' :: (cs ++ ['"'])) := by
  have hquote : Text.isBlank '"' = false := by decide
  refine ⟨List.cons_ne_nil _ _, fun c hc => ?_, fun c hc => ?_⟩
  · cases hc
    exact hquote
  · rw [← List.cons_append, List.getLast?_concat] at hc
    cases hc
    exact hquote

/-- A line that splits with a value between quotes is safe. -/
theorem Splits.isSafe_of_quoted {line front gap cs : List Char}
    (h : Splits line front key gap ('"' :: (cs ++ ['"']))) : IsSafe line := by
  have hvalue := isValue_quoted cs
  have hquoted : ∀ found ∈ keyLine? line, isQuoted found.2 = true := by
    intro found hfound
    rcases keyLine?_eq_some_iff.mp hfound with ⟨_, _, _, _, h', rfl⟩
    rcases h.unique h' with ⟨_, _, _, rfl⟩
    rw [Text.trim_of_ends hvalue.begins hvalue.ends]
    exact isQuoted_written cs
  exact ⟨fun found hfound => Or.inl (hquoted found hfound),
    fun found hfound => hquoted found (descriptionLine?_eq_some_iff.mp hfound).1⟩

/-- A value between quotes is safe behind any key. -/
theorem isSafe_quoted (hlead : IsLead lead) (hkey : IsKey key) (cs : List Char) :
    IsSafe (lead ++ (key ++ ':' :: ' ' :: '"' :: (cs ++ ['"']))) :=
  (splits_written hlead hkey (isValue_quoted cs)).isSafe_of_quoted

/-- A value with safe ends is safe behind a key that is not the one of a description. -/
theorem isSafe_plain (hlead : IsLead lead) (hkey : IsKey key)
    (hother : descriptionEnd.isSuffixOf key = false) (hvalue : IsValue value)
    (hedges : hasSafeEdges value = true) : IsSafe (lead ++ (key ++ ':' :: ' ' :: value)) := by
  constructor
  · rw [keyLine?_written hlead hkey hvalue]
    intro e he
    cases he
    exact Or.inr hedges
  · rw [descriptionLine?_written hlead hkey hvalue, hother]
    intro e he
    cases he

/-- A key without a value is safe. -/
theorem isSafe_bare (hkey : IsKey key) : IsSafe (key ++ [':']) := by
  have hcolon : isKeyChar ':' = false := by decide +kernel
  have hfrom : fromKey (key ++ [':']) = key ++ [':'] := by
    obtain ⟨c, key, rfl⟩ := List.exists_cons_of_ne_nil hkey.nonempty
    rcases hkey.begins c rfl with ⟨hink, hmark⟩
    refine fromKey_append ⟨[], [], rfl, by simp, Or.inl rfl⟩ (fun x hx => ?_)
      (fun x others hrest => absurd (List.cons.inj hrest).1 hmark)
    cases hx
    exact hink
  -- Behind the colon there is no value, so this is no key line.
  have hnone : keyLine? (key ++ [':']) = none := by
    have hrest : (key ++ [':']).dropWhile isKeyChar = [':'] :=
      (span_append hkey.isKeyChar (by simp [hcolon])).2
    simp [keyLine?, hfrom, hrest, valueAfter?]
  constructor
  · intro e he
    rw [hnone] at he
    cases he
  · intro e he
    rw [(descriptionLine?_eq_some_iff.mp he).1] at hnone
    cases hnone

section Histories

variable {e : Entry} {ls : List (List Char)}

/-- The issue of a line that has a value without quotes and with unsafe ends. -/
def stringIssue? (e : Entry) (line : List Char) : Option Issue :=
  match keyLine? line with
  | some (key, value) =>
    if isQuoted value || hasSafeEdges value then none else some (unsafeString e key value)
  | none => none

/-- The issue of a line with a description without quotes. -/
def descriptionIssue? (e : Entry) (line : List Char) : Option Issue :=
  match descriptionLine? line with
  | some (key, value) => if isQuoted value then none else some (unquotedDescription e key value)
  | none => none

/-- The issues of a history are those of its lines. -/
theorem stringIssues_eq (e : Entry) :
    stringIssues e = (Text.lines e.block.yaml.toList).filterMap (stringIssue? e) := rfl

@[inherit_doc stringIssues_eq]
theorem descriptionIssues_eq (e : Entry) :
    descriptionIssues e = (Text.lines e.block.yaml.toList).filterMap (descriptionIssue? e) := rfl

/-- A line is safe if neither check has an issue with it. -/
theorem isSafe_iff (e : Entry) {line : List Char} :
    IsSafe line ↔ stringIssue? e line = none ∧ descriptionIssue? e line = none := by
  -- Each check is silent if what it looks for is not there or in order.
  have hstring : stringIssue? e line = none ↔
      ∀ found ∈ keyLine? line, isQuoted found.2 = true ∨ hasSafeEdges found.2 = true := by
    unfold stringIssue?
    cases keyLine? line with
    | none => simp
    | some found => simp [or_iff_not_imp_left]
  have hdescription : descriptionIssue? e line = none ↔
      ∀ found ∈ descriptionLine? line, isQuoted found.2 = true := by
    unfold descriptionIssue?
    cases descriptionLine? line with
    | none => simp
    | some found => simp
  rw [hstring, hdescription]
  exact ⟨fun h => ⟨h.string, h.description⟩, fun h => ⟨h.1, h.2⟩⟩

/-- Neither check has an issue with a history whose lines are safe. -/
theorem issues_of_isSafe (h : ∀ l ∈ Text.lines e.block.yaml.toList, IsSafe l) :
    stringIssues e = [] ∧ descriptionIssues e = [] := by
  rw [stringIssues_eq, descriptionIssues_eq, List.filterMap_eq_nil_iff, List.filterMap_eq_nil_iff]
  exact ⟨fun l hl => ((isSafe_iff e).mp (h l hl)).1, fun l hl => ((isSafe_iff e).mp (h l hl)).2⟩

/-- Neither check has an issue with a history of written lines that are safe. -/
theorem issues_safe (hyaml : e.block.yaml = String.ofList (Text.unlines ls))
    (hmark : ∀ l ∈ ls, ∀ c ∈ l, Text.isLineMark c = false) (hsafe : ∀ l ∈ ls, IsSafe l) :
    stringIssues e = [] ∧ descriptionIssues e = [] := by
  refine issues_of_isSafe ?_
  rw [hyaml, String.toList_ofList, Text.lines_unlines hmark]
  exact hsafe

end Histories

end Wording

end Annals
