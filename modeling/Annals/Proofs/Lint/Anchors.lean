import Mathlib
import Annals.Proofs.History.Citation

/-!
# Anchors Written as They Are

A record can refer to a heading by its slug without quotes. The check of references looks
for texts and nothing else, so it finds the slug if YAML reads it as a string. A slug that
looks like a truth value, like no value, like a whole number or like a day is read as that,
and there is always an issue with it, although the heading is there.

A hyphen alone begins an entry of a list, and is no scalar at all. It is the one slug that
cannot be written in this way.

## Theorems

* `headerIssues_citation`: When the check has no issue with a section.
* `accepts_verbatim`: A slug that is not quoted is accepted if it is a string, and only
  then.
-/

namespace Annals

namespace References

open History

variable {changes : BreakingChanges} {t : Topic} {url file : String} {block : History.Block}
  {w : Value}

/-- The record of a section, and the heading to which it refers. -/
theorem records_citation (url : String) (ht : t = .changes ∨ t = .deprecated)
    (hw : w.isLeaf = true) : ∃ record,
    Entry.records (citationValue t url w) headerSections = [(String.ofList t.name, record)] ∧
      record.field? "breaking-changes-header" = some w := by
  have hnames : String.ofList Topic.changes.name = "changes" ∧
      String.ofList Topic.deprecated.name = "deprecated" ∧ String.ofList urlKey = "pr-url" ∧
      String.ofList headerKey = "breaking-changes-header" := by decide
  refine ⟨.map 4 [(.text "pr-url", .text url), (.text "breaking-changes-header", w)], ?_, ?_⟩
  · rcases ht with rfl | rfl
    all_goals simp [Entry.records, headerSections, citationValue, hnames, Value.field?, Value.get?,
      Value.lookup?, Value.part, Value.parts, Value.id?, Value.filled, Value.filledItems,
      Value.filledEntries, Value.filled_leaf _ _ hw]
  · simp [Value.field?, Value.get?, Value.lookup?, Value.part, Value.id?, Value.filled_leaf _ _ hw]

/-- The check has no issue with a section if the heading to which the record refers is known,
    and only then. -/
theorem headerIssues_citation (ht : t = .changes ∨ t = .deprecated) (hw : w.isLeaf = true) :
    headerIssues changes ⟨file, block, citationValue t url w⟩ = .ok []
      ↔ isKnownHeader changes w = true := by
  rcases records_citation url ht hw with ⟨record, hrecords, hfield⟩
  unfold headerIssues headerIssue?
  simp only [hrecords, List.mapM_cons, List.mapM_nil, hfield]
  cases isKnownHeader changes w with
  | true => simp
  | false =>
      -- There is an issue, or a failure if the heading is too long to be shown.
      cases hlong : w.holdsLong with
      | true => simp [about, hlong, Functor.map, Except.map, bind, Except.bind]
      | false => simp [about, hlong, Functor.map, Except.map, bind, Except.bind, pure, Except.pure]

/-- A text is decoded, and the check has no issue with its value, wherever it stands. -/
def Accepts (changes : BreakingChanges) (text : String) : Prop :=
  ∃ v, Yaml.decode true text = .ok v ∧ ∀ file block, headerIssues changes ⟨file, block, v⟩ = .ok []

/-- What is no string as a plain scalar is no text, and is not looked up at all. -/
theorem not_accepts_other {slug : String} (ht : t = .changes ∨ t = .deprecated)
    (hurl : IsPlainUrl url.toList) (hslug : Slug.IsSlug slug.toList) (hhyphen : slug.toList ≠ ['-'])
    (hother : Slug.isOther slug.toList = true) : ¬ Accepts changes (citation t url slug) := by
  rintro ⟨v, hdecode, hsilent⟩
  rcases decode_citation_other hurl hslug hhyphen hother hdecode with ⟨w, rfl, hleaf, htext⟩
  have hknown := (headerIssues_citation ht hleaf).mp (hsilent "" ⟨⟨"", 1, none⟩, "", "", "", 1⟩)
  cases w with
  | text s => cases htext
  | _ => cases hknown

/-- The slug of a heading is accepted without quotes, in a section with an address that can be
    written plainly, if it is not written like a truth value, like no value, like a whole
    number or like a day, and only then. -/
theorem accepts_verbatim {source slug : String} (hslug : slug ∈ BreakingChanges.ofText source)
    (hne : slug ≠ "") (hhyphen : slug ≠ "-") (hurl : IsPlainUrl url.toList)
    (ht : t = .changes ∨ t = .deprecated) :
    Accepts (BreakingChanges.ofText source) (citation t url slug)
      ↔ Slug.isOther slug.toList = false := by
  have hslugs := Slug.isSlug_of_mem hslug hne
  have hword : slug.toList ≠ ['-'] := fun heq => hhyphen (String.toList_inj.mp heq)
  constructor
  · intro haccepts
    by_contra hother
    exact not_accepts_other ht hurl hslugs hword (Bool.not_eq_false _ ▸ hother) haccepts
  · intro hstring
    refine ⟨_, decode_citation_string hurl hslugs hword hstring true, fun file block => ?_⟩
    exact (headerIssues_citation ht rfl).mpr (List.contains_iff_mem.mpr hslug)

/-- An address for tests. -/
def sampleUrl : String := "https://github.com/electron/electron/pull/26789"

theorem isPlainUrl_sample : IsPlainUrl sampleUrl.toList := by
  refine ⟨by decide, List.forall_iff_forall_mem.mp ?_, by decide⟩
  decide

theorem accepts_verbatim_sample :
    "foo" ∈ BreakingChanges.ofText "### Foo\n" ∧ IsPlainUrl sampleUrl.toList ∧
      Accepts (BreakingChanges.ofText "### Foo\n") (citation .changes sampleUrl "foo") := by
  have hslugs : BreakingChanges.ofText "### Foo\n" = ["foo"] := by cbv
  have hmem : "foo" ∈ BreakingChanges.ofText "### Foo\n" := by
    rw [hslugs]
    exact List.mem_singleton_self _
  exact ⟨hmem, isPlainUrl_sample, (accepts_verbatim hmem (by decide) (by decide) isPlainUrl_sample
    (.inl rfl)).mpr (by decide)⟩

/-- Not each slug of a heading is accepted: a year is read as a number. -/
theorem not_accepts_year :
    ¬ ∀ source slug url t, slug ∈ BreakingChanges.ofText source → slug ≠ "" →
      IsPlainUrl url.toList → (t = .changes ∨ t = .deprecated) →
      Accepts (BreakingChanges.ofText source) (citation t url slug) := by
  intro hall
  have hslugs : BreakingChanges.ofText "### 2024\n" = ["2024"] := by cbv
  have hmem : "2024" ∈ BreakingChanges.ofText "### 2024\n" := by
    rw [hslugs]
    exact List.mem_singleton_self _
  have haccepts := hall "### 2024\n" "2024" sampleUrl .changes hmem (by decide) isPlainUrl_sample
    (.inl rfl)
  exact not_accepts_other (.inl rfl) isPlainUrl_sample (Slug.isSlug_of_mem hmem (by decide))
    (by decide) (by decide) haccepts

/-- A hyphen alone is no scalar at all. -/
example : (Yaml.decode true (citation .changes sampleUrl "-")).toOption.isNone = true := by
  decide +kernel

end References

end Annals
