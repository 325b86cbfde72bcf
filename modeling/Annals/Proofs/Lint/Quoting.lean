import Annals.Proofs.Lint.Wording

/-!
# Following the Checks of the Wording

Both checks of the wording read a line by a pattern of its own. A line with a description is a
line with a key of a certain end, and has the same key and the same value by either pattern. So
where a description has unsafe ends, both checks have an issue with it.

What they suggest is to put the value between quotes. The line splits in the same way then, only
with another value, and no check has an issue with a value between quotes. So a history in which
all suggestions are followed has no issues left.

## Main definitions

* `Wording.quotedLine`: A line with its value between double quotes.
* `Entry.quoted`: A history with the values between quotes that an issue was made of.

## Theorems

* `description_agrees`: The two checks agree on what a description is.
* `quoted_silent`: A history whose values are put between quotes as suggested has no issues.
-/

namespace Annals

namespace Wording

variable {line : List Char}

/-- The lines of a text have no line feeds in them. -/
theorem not_mem_of_mem_lines {cs : List Char} (h : line ∈ Text.lines cs) : '\n' ∉ line := by
  intro hmem
  have hmark := Text.isLineMark_of_mem_lines h '\n' hmem
  revert hmark
  decide

/-- The key and the value of a line are what the groups of its pattern match. -/
theorem keyLine?_eq_groups (hline : '\n' ∉ line) {found : List Char × List Char} :
    keyLine? line = some found ↔ ∃ key value,
      keyPattern.groups? 2 line = some [some key, some value] ∧ found = (key, Text.trim value) := by
  rw [keyLine?_eq_some_iff]
  constructor
  · rintro ⟨front, key, gap, value, h, rfl⟩
    exact ⟨key, value, (groups?_keyPattern hline).mpr ⟨front, gap, h⟩, rfl⟩
  · rintro ⟨key, value, h, rfl⟩
    rcases (groups?_keyPattern hline).mp h with ⟨front, gap, h⟩
    exact ⟨front, key, gap, value, h, rfl⟩

/-- The two patterns and the two checks agree on what a description is: the pattern for
    descriptions matches where the one for keys does and the key has the end for it, with the
    same key and value, and a description with an unsafe value is an issue of both checks. -/
theorem description_agrees (e : Entry) :
    Pattern.read keyText = .ok keyPattern ∧
    Pattern.read descriptionText = .ok descriptionPattern ∧
    stringIssues e = (Text.lines e.block.yaml.toList).filterMap (stringIssue? e) ∧
    descriptionIssues e = (Text.lines e.block.yaml.toList).filterMap (descriptionIssue? e) ∧
    ∀ line ∈ Text.lines e.block.yaml.toList,
      (∀ key value, descriptionPattern.groups? 2 line = some [some key, some value] ↔
        keyPattern.groups? 2 line = some [some key, some value] ∧ descriptionEnd <:+ key) ∧
      ∀ issue ∈ stringIssue? e line, ∃ key value,
        keyPattern.groups? 2 line = some [some key, some value] ∧
        issue = unsafeString e key (Text.trim value) ∧
        (descriptionEnd <:+ key →
          descriptionIssue? e line = some (unquotedDescription e key (Text.trim value))) := by
  refine ⟨read_keyText, read_descriptionText, stringIssues_eq e, descriptionIssues_eq e,
    fun line hline => ⟨fun key value => ?_, fun issue hissue => ?_⟩⟩
  · have hfeed := not_mem_of_mem_lines hline
    rw [groups?_descriptionPattern hfeed, groups?_keyPattern hfeed]
  · have hfeed := not_mem_of_mem_lines hline
    unfold stringIssue? at hissue
    split at hissue
    · next key value hfound =>
        rcases (keyLine?_eq_groups hfeed).mp hfound with ⟨key', raw, hgroups, hpair⟩
        cases hpair
        split at hissue
        · cases hissue
        · next hunsafe =>
            refine ⟨key, raw, hgroups, (Option.some.inj hissue).symm, fun hend => ?_⟩
            -- What is unsafe for the one check is not quoted, which is all that the other one looks
            -- at.
            have hquoted : ¬ isQuoted (Text.trim raw) = true := fun h =>
              hunsafe (Bool.or_eq_true_iff.mpr (Or.inl h))
            unfold descriptionIssue?
            rw [descriptionLine?_eq_some_iff.mpr ⟨hfound, hend⟩]
            exact if_neg hquoted
    · cases hissue

/-- A line with its value between double quotes, without the blanks at its ends. -/
def quotedLine (line : List Char) : List Char :=
  match keyPattern.groups? 2 line with
  | some [some _, some value] =>
    line.take (line.length - value.length) ++ '"' :: (Text.trim value ++ ['"'])
  | _ => line

/-- A line as it is after the suggestions of the checks. -/
def followed (e : Entry) (line : List Char) : List Char :=
  if (stringIssue? e line).isSome || (descriptionIssue? e line).isSome then quotedLine line
  else line

end Wording

/-- A history in which every value that a check of the wording has an issue with is put between
    quotes. -/
def Entry.quoted (e : Entry) : Entry :=
  let lines := (Text.lines e.block.yaml.toList).map (Wording.followed e)
  { e with block := { e.block with yaml := String.ofList (Text.joinWith ['\n'] lines) } }

namespace Wording

variable {line front key gap value : List Char}

/-- Between quotes a value has the same key, and all else before it. -/
theorem Splits.quotedLine (h : Splits line front key gap value) (hline : '\n' ∉ line) :
    Splits (quotedLine line) front key gap ('"' :: (Text.trim value ++ ['"'])) := by
  have hgroups := (groups?_keyPattern hline).mpr ⟨front, gap, h⟩
  have hparts : line = (front ++ (key ++ ':' :: gap)) ++ value := by simp [h.line]
  have htake : line.take (line.length - value.length) = front ++ (key ++ ':' :: gap) := by
    rw [hparts, List.length_append, Nat.add_sub_cancel, List.take_left]
  refine ⟨?_, h.front, h.key, h.gap, '"', rfl, (by decide)⟩
  unfold Wording.quotedLine
  rw [hgroups]
  simp only [htake, List.append_assoc, List.cons_append]

/-- A line is safe after the suggestions. -/
theorem isSafe_followed (e : Entry) (hline : '\n' ∉ line) : IsSafe (followed e line) := by
  unfold followed
  split
  · next hflagged =>
      -- A line with an issue has a key: a description line is a key line too.
      have hkey : ∃ found, keyLine? line = some found := by
        cases hfound : keyLine? line with
        | some found => exact ⟨found, rfl⟩
        | none =>
            have hdescription : descriptionLine? line = none := by
              rw [Option.eq_none_iff_forall_ne_some]
              intro found h
              rw [(descriptionLine?_eq_some_iff.mp h).1] at hfound
              cases hfound
            simp [stringIssue?, descriptionIssue?, hfound, hdescription] at hflagged
      rcases hkey with ⟨found, hfound⟩
      rcases keyLine?_eq_some_iff.mp hfound with ⟨front, key, gap, value, h, _⟩
      exact (h.quotedLine hline).isSafe_of_quoted
  · next hplain =>
      rw [isSafe_iff e]
      simpa using hplain

/-- No suggestion puts a line mark into a line. -/
theorem isLineMark_followed (e : Entry) (hline : ∀ c ∈ line, Text.isLineMark c = false) :
    ∀ c ∈ followed e line, Text.isLineMark c = false := by
  have hfeed : '\n' ∉ line := fun hmem => absurd (hline _ hmem) (by decide)
  unfold followed
  split
  · unfold quotedLine
    split
    · next key value hgroups =>
        rcases (groups?_keyPattern hfeed).mp hgroups with ⟨front, gap, h⟩
        rcases Text.trim_eq value with ⟨before, after, hvalue, _⟩
        -- What is put into the line is a part of it, between two quotes.
        have htrim : ∀ c ∈ Text.trim value, c ∈ line := by
          intro c hc
          have hmem : c ∈ value := by
            rw [hvalue]
            exact List.mem_append_right _ (List.mem_append_left _ hc)
          rw [h.line]
          simp [hmem]
        have hquote : Text.isLineMark '"' = false := by decide
        intro c hc
        rcases List.mem_append.mp hc with hc | hc
        · exact hline c (List.mem_of_mem_take hc)
        · rcases List.mem_cons.mp hc with rfl | hc
          · exact hquote
          · rcases List.mem_append.mp hc with hc | hc
            · exact hline c (htrim c hc)
            · exact List.mem_singleton.mp hc ▸ hquote
    · exact hline
  · exact hline

/-- The value of a line has a character at either end. -/
theorem value_ne_nil {found : List Char × List Char} (h : keyLine? line = some found) :
    found.2 ≠ [] := by
  rcases keyLine?_eq_some_iff.mp h with ⟨_, _, _, value, hsplits, rfl⟩
  rcases hsplits.value with ⟨c, hfirst, hink⟩
  rcases Text.trim_eq value with ⟨before, after, hvalue, hbefore, hafter⟩
  intro hnil
  change Text.trim value = [] at hnil
  rw [hnil, List.nil_append] at hvalue
  have hblank : Text.isBlank c = true := by
    have hmem : c ∈ before ++ after := hvalue ▸ List.mem_of_head? hfirst
    exact (List.mem_append.mp hmem).elim (hbefore c) (hafter c)
  rw [hblank] at hink
  cases hink

/-- What is left of a history after all suggestions has no issues. Both checks come to an answer
    on either history: every value that they look at has a first and a last character. -/
theorem quoted_silent (e : Entry) :
    stringIssues e.quoted = [] ∧ descriptionIssues e.quoted = [] ∧
    ∀ x ∈ [e, e.quoted],
      (∀ line ∈ Text.lines x.block.yaml.toList, ∀ key value,
        (keyPattern.groups? 2 line = some [some key, some value] ∨
          descriptionPattern.groups? 2 line = some [some key, some value]) →
        ∃ first last, (Text.trim value).head? = some first ∧
          (Text.trim value).getLast? = some last) ∧
      ∀ (σ : Type) (s : σ), Check.strings.run x s = (.ok (stringIssues x), s) ∧
        Check.descriptions.run x s = (.ok (descriptionIssues x), s) := by
  have hsafe : ∀ l ∈ Text.lines e.quoted.block.yaml.toList, IsSafe l := by
    intro l hl
    -- The suggestions keep the lines apart, so the lines of the new text are the old ones with
    -- their suggestions.
    have hmarks : ∀ x ∈ (Text.lines e.block.yaml.toList).map (followed e),
        ∀ c ∈ x, Text.isLineMark c = false := by
      intro x hx
      rcases List.mem_map.mp hx with ⟨line, hline, rfl⟩
      exact isLineMark_followed e (Text.isLineMark_of_mem_lines hline)
    change l ∈ Text.lines (String.ofList _).toList at hl
    rw [String.toList_ofList] at hl
    rcases List.mem_map.mp (Text.mem_of_mem_lines_joinWith hmarks hl) with ⟨line, hline, rfl⟩
    exact isSafe_followed e (not_mem_of_mem_lines hline)
  rcases issues_of_isSafe hsafe with ⟨hstrings, hdescriptions⟩
  refine ⟨hstrings, hdescriptions, fun x _ => ⟨fun line hline key value h => ?_,
    fun σ s => ⟨rfl, rfl⟩⟩⟩
  have hfeed := not_mem_of_mem_lines hline
  have hgroups : keyPattern.groups? 2 line = some [some key, some value] := by
    refine h.elim id fun h => ?_
    rw [groups?_descriptionPattern hfeed] at h
    exact (groups?_keyPattern hfeed).mpr h.1
  have hne := value_ne_nil ((keyLine?_eq_groups hfeed).mpr ⟨key, value, hgroups, rfl⟩)
  exact ⟨_, _, List.head?_eq_some_head hne, List.getLast?_eq_some_getLast hne⟩

end Wording

end Annals
