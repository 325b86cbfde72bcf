import Mathlib
import Annals.Lint.References
import Annals.Proofs.Text.Lists
import Annals.Proofs.Text.LowerCase

/-!
# Only Slugs Are Known

The check of headings compares what a record refers to with the slugs of a document as it
stands, so what is not a slug itself cannot be found, however close it comes to the text of
a heading. A text is a slug if it is its own slug: making a slug of a slug changes nothing,
since its letters are small already and it has no blanks.

The check goes from record to record, and the issue of a record depends on nothing but the
record. So what it says of a history is put together from what it says of the records in
front of some record, of this record, and of those behind it.

## Main definitions

* `Entry.recordsIn`: The records of one list.
* `References.headerIssuesOf`: The issues of some of the records of a history.

## Theorems

* `Slug.ofText_ofText`: The slug of a slug.
* `Entry.records_eq`: Where a record stands among those of a history.
* `headerIssues_unslugged`: What is not a slug is not known.
-/

namespace Annals

namespace Slug

/-- The characters of a slug are neither blank nor changed by making a slug of them. -/
theorem mem_ofChars {cs : List Char} {x : Char} (h : x ∈ ofChars cs) :
    isSlugChar x = true ∧ Text.isBlank x = false ∧ Text.IsLow x := by
  rcases List.mem_filter.mp h with ⟨hmem, hslug⟩
  refine ⟨hslug, ?_⟩
  rcases List.mem_map.mp hmem with ⟨c, hc, rfl⟩
  -- It is a hyphen in place of a blank, or a letter in lower case that is no blank.
  split
  · exact ⟨by decide, Text.isLow_of_image? (by decide) (by decide +kernel)⟩
  · next hink => exact ⟨Bool.eq_false_iff.mpr hink, Text.isLow_of_mem_lower hc⟩

/-- Making a slug of a slug changes nothing. -/
theorem ofChars_ofChars (cs : List Char) : ofChars (ofChars cs) = ofChars cs := by
  have hink : ∀ x ∈ ofChars cs, Text.isBlank x = false := fun x hx => (mem_ofChars hx).2.1
  have htrim : Text.trim (ofChars cs) = ofChars cs :=
    Text.trim_of_ends (fun x hx => hink x (List.mem_of_mem_head? hx))
      (fun x hx => hink x (List.mem_of_mem_getLast? hx))
  -- What a slug consists of was put in lower case before, and stays as it is.
  have hlower : Text.lower (ofChars cs) = ofChars cs :=
    Text.lower_of_isLow fun x hx => (mem_ofChars hx).2.2
  have hhyphens : (ofChars cs).map (fun c => if Text.isBlank c then '-' else c) = ofChars cs := by
    have hsame : ∀ x ∈ ofChars cs, (if Text.isBlank x then '-' else x) = id x := fun x hx => by
      rw [hink x hx]
      rfl
    rw [List.map_congr_left hsame, List.map_id]
  have hkept : (ofChars cs).filter isSlugChar = ofChars cs :=
    List.filter_eq_self.mpr fun x hx => (mem_ofChars hx).1
  calc ofChars (ofChars cs)
      = ((Text.lower (Text.trim (ofChars cs))).map fun c =>
          if Text.isBlank c then '-' else c).filter isSlugChar := rfl
    _ = ofChars cs := by rw [htrim, hlower, hhyphens, hkept]

/-- The slug of a slug is this slug. -/
theorem ofText_ofText (text : String) : ofText (ofText text) = ofText text := by
  unfold ofText
  rw [String.toList_ofList, ofChars_ofChars]

/-- What the headings of a document are known by are slugs. -/
theorem ofText_of_mem {source s : String} (h : s ∈ BreakingChanges.ofText source) :
    ofText s = s := by
  rcases List.mem_map.mp h with ⟨heading, _, rfl⟩
  exact ofText_ofText heading.text

end Slug

namespace Entry

variable {v record : Value} {name : String}

/-- The records of one list, each with the key of the list. -/
def recordsIn (name : String) (items : List Value) : List (String × Value) :=
  (items.filter Value.isObject).map fun r => (name, r)

theorem records_append (v : Value) (first rest : List String) :
    records v (first ++ rest) = records v first ++ records v rest := List.flatMap_append

/-- A record of a list under one of the keys stands behind those under the keys before and those
    before it in the list, and the others stand behind it. -/
theorem records_eq {sections first rest : List String} {id : Nat} {items front back : List Value}
    (hsections : sections = first ++ name :: rest) (hfield : v.field? name = some (.seq id items))
    (hparts : (Value.seq id items).parts = front ++ record :: back)
    (hrecord : record.isObject = true) :
    records v sections = (records v first ++ recordsIn name front)
      ++ (name, record) :: (recordsIn name back ++ records v rest) := by
  -- The key has one list, of which the mappings are the records.
  have hone : records v [name] = recordsIn name (front ++ record :: back) := by
    unfold records recordsIn
    rw [List.flatMap_singleton, hfield, ← hparts]
    refine congrArg (List.map _) (List.filter_congr fun r _ => ?_)
    cases r <;> rfl
  have hsplit : recordsIn name (front ++ record :: back)
      = recordsIn name front ++ (name, record) :: recordsIn name back := by
    unfold recordsIn
    rw [List.filter_append, List.filter_cons_of_pos hrecord, List.map_append, List.map_cons]
  rw [hsections, records_append, ← List.singleton_append, records_append, hone, hsplit]
  simp only [List.append_assoc, List.cons_append]

end Entry

namespace References

variable {changes : BreakingChanges} {e : Entry}

/-- The issues of some records of a history. -/
def headerIssuesOf (changes : BreakingChanges) (e : Entry) (records : List (String × Value)) :
    Except CheckFault (List Issue) := do
  let found ← records.mapM fun (name, record) => headerIssue? changes e name record
  return found.filterMap id

theorem headerIssues_eq : headerIssues changes e
    = headerIssuesOf changes e (Entry.records e.history headerSections) := rfl

/-- The first record has its own issue or none, and then come those of the others. -/
theorem headerIssuesOf_cons {name : String} {record : Value} {rest : List (String × Value)}
    {issues : List Issue} : headerIssuesOf changes e ((name, record) :: rest) = .ok issues ↔
      ∃ own others, headerIssue? changes e name record = .ok own ∧
        headerIssuesOf changes e rest = .ok others ∧ issues = own.toList ++ others := by
  unfold headerIssuesOf
  rw [List.mapM_cons]
  simp only [bind_eq_ok, pure, Except.pure, Except.ok.injEq]
  constructor
  · rintro ⟨_, ⟨own, hown, found, hfound, rfl⟩, rfl⟩
    exact ⟨own, found.filterMap id, hown, ⟨found, hfound, rfl⟩, by cases own <;> rfl⟩
  · rintro ⟨own, _, hown, ⟨found, hfound, rfl⟩, rfl⟩
    exact ⟨own :: found, ⟨own, hown, found, hfound, rfl⟩, by cases own <;> rfl⟩

/-- The issues of records are those of the first ones and those of the others. -/
theorem headerIssuesOf_append {before after : List (String × Value)} {issues : List Issue} :
    headerIssuesOf changes e (before ++ after) = .ok issues ↔
      ∃ earlier later, headerIssuesOf changes e before = .ok earlier ∧
        headerIssuesOf changes e after = .ok later ∧ issues = earlier ++ later := by
  induction before generalizing issues with
  | nil =>
      constructor
      · exact fun h => ⟨[], issues, rfl, h, rfl⟩
      · rintro ⟨_, _, hnone, h, rfl⟩
        cases hnone
        exact h
  | cons r before ih =>
      rcases r with ⟨name, record⟩
      rw [List.cons_append, headerIssuesOf_cons]
      -- The issues of the first record come before those of the others on both sides.
      simp only [ih, headerIssuesOf_cons]
      constructor
      · rintro ⟨own, _, hown, ⟨earlier, later, hbefore, hafter, rfl⟩, rfl⟩
        exact ⟨_, later, ⟨own, earlier, hown, hbefore, rfl⟩, hafter, (List.append_assoc ..).symm⟩
      · rintro ⟨_, later, ⟨own, earlier, hown, hbefore, rfl⟩, hafter, rfl⟩
        exact ⟨own, _, hown, ⟨earlier, later, hbefore, hafter, rfl⟩, List.append_assoc ..⟩

/-- A text that is not known is an issue of its record. -/
theorem headerIssue?_unknown {record : Value} {header : String} (name : String)
    (hfield : record.field? "breaking-changes-header" = some (.text header))
    (hunknown : header ∉ changes) :
    headerIssue? changes e name record = .ok (some (unknownHeader e name (.text header))) := by
  have hknown : isKnownHeader changes (.text header) = false := by
    simpa [isKnownHeader] using hunknown
  simp only [headerIssue?, hfield, hknown]
  rfl

/-- Making a slug of a slug changes nothing. So if a record of a list under one of the keys
    refers to a text that is not its own slug, the check against the headings of a document
    has one issue of this record, whatever the document is: the issues are those of the
    records before it, this one, and those of the records behind it. -/
theorem headerIssues_unslugged :
    (∀ text, Slug.ofText (Slug.ofText text) = Slug.ofText text) ∧
      ∀ (source : String) (e : Entry) (issues : List Issue),
        headerIssues (BreakingChanges.ofText source) e = .ok issues →
        ∀ (first rest : List String) (name : String), headerSections = first ++ name :: rest →
        ∀ (id : Nat) (items front back : List Value) (record : Value),
          e.history.field? name = some (.seq id items) →
          (Value.seq id items).parts = front ++ record :: back →
          record.isObject = true →
        ∀ header, record.field? "breaking-changes-header" = some (.text header) →
          Slug.ofText header ≠ header →
          ∃ earlier later,
            headerIssuesOf (BreakingChanges.ofText source) e
              (Entry.records e.history first ++ Entry.recordsIn name front) = .ok earlier ∧
            headerIssuesOf (BreakingChanges.ofText source) e
              (Entry.recordsIn name back ++ Entry.records e.history rest) = .ok later ∧
            issues = earlier ++ unknownHeader e name (.text header) :: later := by
  refine ⟨Slug.ofText_ofText, ?_⟩
  intro source e issues h first rest name hsections id items front back record hlist hparts hrecord
    header hfield hslug
  have hunknown : header ∉ BreakingChanges.ofText source := fun hmem =>
    hslug (Slug.ofText_of_mem hmem)
  -- The record stands between others, and its own issue between theirs.
  rw [headerIssues_eq, Entry.records_eq hsections hlist hparts hrecord, headerIssuesOf_append] at h
  rcases h with ⟨earlier, _, hearlier, hrest, rfl⟩
  rcases headerIssuesOf_cons.mp hrest with ⟨own, later, hown, hlater, rfl⟩
  rw [headerIssue?_unknown name hfield hunknown] at hown
  cases hown
  exact ⟨earlier, later, hearlier, hlater, rfl⟩

/-- The text of a heading is not known, although its slug is. -/
theorem headerIssues_unslugged_capital :
    let record (header : String) := Value.object [("breaking-changes-header", .text header)]
    let items := [record "foo", record "Foo", .text "Foo"]
    let e : Entry := ⟨"a.md", ⟨⟨"", 1, none⟩, "", "", "", 1⟩, .object [("changes", .seq 0 items)]⟩
    ∃ issues, headerIssues (BreakingChanges.ofText "### Foo\n") e = .ok issues ∧
      unknownHeader e "changes" (.text "Foo") ∈ issues := by
  intro record items e
  -- The heading is known by its slug, which is in lower case.
  have hslugs : BreakingChanges.ofText "### Foo\n" = ["foo"] := by cbv
  have hissues : headerIssues (BreakingChanges.ofText "### Foo\n") e
      = .ok [unknownHeader e "changes" (.text "Foo")] := by
    rw [hslugs]
    rfl
  rcases headerIssues_unslugged.2 _ e _ hissues [] ["deprecated"] "changes" rfl 0 items
    [record "foo"] [.text "Foo"] (record "Foo") rfl rfl rfl "Foo" rfl (by decide +kernel)
    with ⟨earlier, later, _, _, heq⟩
  refine ⟨_, hissues, ?_⟩
  rw [heq]
  exact List.mem_append_right _ (List.mem_cons_self ..)

end References

end Annals
