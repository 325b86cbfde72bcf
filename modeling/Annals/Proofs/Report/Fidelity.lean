import Mathlib.Data.List.Forall2
import Annals.Proofs.Json.RoundTrip
import Annals.Proofs.Lint.Regularity
import Annals.Report.Basic

/-!
# The Report for Programs

The document that is printed for programs says what the run found.

A run keeps two lists of issues, one in its results and one with its listener, and the
report takes the issues from the one and the counts from the other. They agree because
both are read off from the same events. The counts are those of the issues, and since each
issue is as bad as its code says, what a run ends with can be told from the codes alone.

The document itself is a value that JSON has a form for, so it is read back whatever
characters are in it. The only thing that keeps it from being written is a count or a line
with more digits than an integer in a text can have.

## Main definitions

* `Issue.Told`: An entry of the report that says what an issue says.
* `Results.IsPrintable`: Results in which no number is too long.
* `Report.Tells`: A document that says what a run found.

## Theorems

* `Told.unique`, `Told.unique_list`: Entries say what one issue says, and one list of them.
* `tells_document`: What a report says.
* `lintWorkspace_reported`: The report of a run over a workspace.
-/

namespace Annals

namespace Issue

/-- An entry of the report that says what an issue says, field by field. -/
structure Told (i : Issue) (v : Value) : Prop where
  severity : v.get? "severity" = some (.text i.severity.name)
  code : v.get? "code" = some (.text i.code.name)
  message : v.get? "message" = some (.text i.message)
  file : v.get? "file_path" = some (.text i.file)
  line : v.get? "line_number" = some (.int i.line)
  details : v.get? "details" = some (i.details.elim .null .text)
  suggestion : v.get? "suggestion" = some (i.suggestion.elim .null .text)

theorem told_toValue (i : Issue) : i.Told i.toValue := by
  constructor <;> rfl

/-- An entry says what one issue says. The issues have to be as bad as their codes say, since
    a severity could also have the name of another one. -/
theorem Told.unique {i j : Issue} {v : Value} (hi : i.Told v) (hj : j.Told v) (hri : i.IsRegular)
    (hrj : j.IsRegular) : i = j := by
  have hoption {a b : Option String} (h : a.elim Value.null .text = b.elim Value.null .text) :
      a = b := by
    cases a <;> cases b <;> cases h <;> rfl
  have htext {a b : String} {o : Option Value} (ha : o = some (.text a)) (hb : o = some (.text b)) :
      a = b := by
    rw [ha] at hb
    exact Value.text.inj (Option.some.inj hb)
  -- The name of a code says which code it is, and the code which severity.
  have hcode : i.code = j.code := by
    have hback (c : IssueCode) : IssueCode.ofName? c.name = some c := by
      cases c <;> rfl
    have hsame := hback i.code
    rw [htext hi.code hj.code, hback] at hsame
    exact (Option.some.inj hsame).symm
  have hseverity : i.severity = j.severity := by rw [hri, hrj, hcode]
  have hdetails := hoption (Option.some.inj (hi.details.symm.trans hj.details))
  have hsuggestion := hoption (Option.some.inj (hi.suggestion.symm.trans hj.suggestion))
  have hmessage := htext hi.message hj.message
  have hfile := htext hi.file hj.file
  have hline := Value.int.inj (Option.some.inj (hi.line.symm.trans hj.line))
  cases i
  cases j
  simp only at hseverity hcode hmessage hfile hline hdetails hsuggestion
  rw [hseverity, hcode, hmessage, hfile, hline, hdetails, hsuggestion]

/-- So a list of entries says what one list of issues says. -/
theorem Told.unique_list {issues others : List Issue} {entries : List Value}
    (hissues : List.Forall₂ Issue.Told issues entries)
    (hothers : List.Forall₂ Issue.Told others entries) (hregular : ∀ i ∈ issues, i.IsRegular)
    (hregular' : ∀ i ∈ others, i.IsRegular) : others = issues := by
  induction hissues generalizing others with
  | nil =>
      cases hothers
      rfl
  | cons htold _ ih =>
      cases hothers with
      | cons htold' hrest =>
          rw [List.forall_mem_cons] at hregular hregular'
          rw [htold'.unique htold hregular'.1 hregular.1, ih hrest hregular.2 hregular'.2]

end Issue

namespace Results

/-- Results in which no count and no line is too long to be written. -/
structure IsPrintable (r : Results) : Prop where
  documents : isLong r.documents = false
  blocks : isLong r.blocks = false
  errors : isLong r.errors = false
  warnings : isLong r.warnings = false
  lines : ∀ i ∈ r.issues, isLong i.line = false

end Results

namespace Report

/-- Whether an entry has a text under a key. -/
def hasText (key text : String) (v : Value) : Bool :=
  match v.get? key with
  | some (.text s) => s == text
  | _ => false

/-- A document that says what a run found, with its entries and its summary. -/
structure Tells (r : Results) (v : Value) (entries : List Value) (summary : Value) : Prop where
  listed : (v.get? "issues").bind Value.items? = some entries
  summed : v.get? "summary" = some summary
  issues : List.Forall₂ Issue.Told r.issues entries
  errors : summary.get? "errors" = some (.int (entries.countP (hasText "severity" "error")))
  warnings : summary.get? "warnings" = some (.int (entries.countP (hasText "severity" "warning")))
  documents : summary.get? "documents" = some (.int r.documents)
  blocks : summary.get? "blocks" = some (.int r.blocks)
  message : summary.get? "message" = some (.text r.summary)
  passed : summary.get? "passed" = some (.bool (r.exitCode == 0))
  exitCode : r.exitCode = 0 ↔
    ∀ e ∈ entries, hasText "code" "UNSAFE_STRING" e ∨ hasText "code" "UNKNOWN_PULL_REQUEST" e

theorem formed_toValue (i : Issue) : Json.Formed 1 i.toValue := by
  have hoption (o : Option String) : Json.Formed 0 (o.elim .null .text) := by
    cases o with
    | none => exact .null
    | some s => exact .text s
  refine .object (by simp) ?_
  simp only [List.forall_mem_cons]
  exact ⟨.text _, .text _, .text _, .text _, .int _, hoption _, hoption _,
    fun _ h => absurd h List.not_mem_nil⟩

theorem formed_document (issues : List Issue) (r : Results) :
    Json.Formed 3 (document issues r) := by
  refine .object (by simp) ?_
  simp only [List.forall_mem_cons]
  refine ⟨.list ?_, .object (by simp) ?_, fun _ h => absurd h List.not_mem_nil⟩
  · intro v hv
    rcases List.mem_map.mp hv with ⟨i, _, rfl⟩
    exact formed_toValue i
  · simp only [List.forall_mem_cons]
    exact ⟨.int _, .int _, .int _, .int _, .bool _, .text _, fun _ h => absurd h List.not_mem_nil⟩

theorem holdsLong_toValue (i : Issue) : i.toValue.holdsLong = isLong i.line := by
  have hoption (o : Option String) : (o.elim Value.null .text).holdsLong = false := by
    cases o <;> rfl
  simp [Issue.toValue, Value.object, Value.holdsLong, Value.entryHoldsLong, hoption]

theorem holdsLong_document (r : Results) :
    (document r.issues r).holdsLong = false ↔ r.IsPrintable := by
  have hlines (issues : List Issue) : Value.anyHoldsLong (issues.map Issue.toValue) = false ↔
      ∀ i ∈ issues, isLong i.line = false := by
    induction issues with
    | nil => simp [Value.anyHoldsLong]
    | cons i rest ih => simp [Value.anyHoldsLong, holdsLong_toValue, ih]
  -- Of all that the document holds, only the lines and the counts are integers.
  have hparts : (document r.issues r).holdsLong = false ↔
      (∀ i ∈ r.issues, isLong i.line = false) ∧ isLong r.documents = false ∧
        isLong r.blocks = false ∧ isLong r.errors = false ∧ isLong r.warnings = false := by
    simp [document, Value.object, Value.holdsLong, Value.entryHoldsLong, hlines]
  rw [hparts]
  constructor
  · rintro ⟨hlines, hdocuments, hblocks, herrors, hwarnings⟩
    exact ⟨hdocuments, hblocks, herrors, hwarnings, hlines⟩
  · rintro ⟨hdocuments, hblocks, herrors, hwarnings, hlines⟩
    exact ⟨hlines, hdocuments, hblocks, herrors, hwarnings⟩

/-- The entries with a text under a key are those of the issues that have it there. -/
theorem countP_hasText {issues : List Issue} {key text : String} {p : Issue → Bool}
    (h : ∀ i ∈ issues, hasText key text i.toValue = p i) :
    (issues.map Issue.toValue).countP (hasText key text) = issues.countP p := by
  rw [List.countP_map]
  exact List.countP_congr fun i hi => by rw [Function.comp_apply, h i hi]

/-- What a report says of results whose counts are those of their issues, each as bad as its
    code says. -/
theorem tells_document {r : Results} (hbalanced : r.Balanced)
    (hregular : ∀ i ∈ r.issues, i.IsRegular) :
    ∃ entries summary, Tells r (document r.issues r) entries summary := by
  have hseverity (i : Issue) (hi : i ∈ r.issues) :
      hasText "severity" "error" i.toValue = i.isError ∧
        hasText "severity" "warning" i.toValue = !i.isError ∧
        (i.isError = false ↔ hasText "code" "UNSAFE_STRING" i.toValue ∨
          hasText "code" "UNKNOWN_PULL_REQUEST" i.toValue) := by
    have hnames : hasText "severity" "error" i.toValue = (i.severity.name == "error") ∧
        hasText "severity" "warning" i.toValue = (i.severity.name == "warning") ∧
        hasText "code" "UNSAFE_STRING" i.toValue = (i.code.name == "UNSAFE_STRING") ∧
        hasText "code" "UNKNOWN_PULL_REQUEST" i.toValue
          = (i.code.name == "UNKNOWN_PULL_REQUEST") := ⟨rfl, rfl, rfl, rfl⟩
    -- The severity follows from the code, so the codes are all the cases there are.
    rw [hnames.1, hnames.2.1, hnames.2.2.1, hnames.2.2.2, Issue.isError, hregular i hi]
    cases i.code <;> decide
  have herrors := countP_hasText fun i hi => (hseverity i hi).1
  have hwarnings := countP_hasText fun i hi => (hseverity i hi).2.1
  refine ⟨r.issues.map Issue.toValue, _, rfl, rfl, ?_, ?_, ?_, rfl, rfl, rfl, ?_, ?_⟩
  · rw [List.forall₂_map_right_iff]
    exact List.forall₂_same.mpr fun i _ => i.told_toValue
  · rw [herrors, ← hbalanced.errors]
    rfl
  · rw [hwarnings, ← hbalanced.warnings]
    rfl
  · have hpassed : (r.exitCode == 0) = r.passed := by
      unfold Results.exitCode
      cases r.passed <;> rfl
    rw [hpassed]
    rfl
  · have hexit : r.exitCode = 0 ↔ r.errors = 0 := by
      unfold Results.exitCode Results.passed
      by_cases h : r.errors = 0 <;> simp [h]
    rw [hexit, hbalanced.errors, List.countP_eq_zero, List.forall_mem_map]
    refine forall₂_congr fun i hi => ?_
    rw [Bool.not_eq_true]
    exact (hseverity i hi).2.2

end Report

namespace Run

/-- The listener for programs keeps the issues, and nothing is written before the end. -/
theorem hear_json (events : List Event) (r : Report) :
    events.foldl ReportFormat.json.listener.hear r
      = { r with issues := r.issues ++ events.filterMap Event.issue? } := by
  induction events generalizing r with
  | nil => simp
  | cons e rest ih =>
      rw [List.foldl_cons, ih]
      cases e with
      | progress message => rfl
      | issue i =>
          simp only [Listener.hear, ReportFormat.listener, Event.issue?, List.filterMap_cons,
            List.append_assoc, List.cons_append, List.nil_append]

/-- The report of a run over a workspace that returns. The issues that its listener has are
    those of the results. If no number in the results is too long, what is printed is read as
    a document that says what the run found, and from which the issues can be told; otherwise
    there is nothing to print. -/
theorem lintWorkspace_reported (c : Context) (fs : FileSystem) (w : Workspace)
    (hreturns : (lintWorkspace ReportFormat.json.listener c.checks fs w
      (start Memo.start Report.empty)).2 = none) :
    let run := (lintWorkspace ReportFormat.json.listener c.checks fs w
      (start Memo.start Report.empty)).1
    let printed := (ReportFormat.json.finish run.results run.told).written
    run.told.issues = run.results.issues ∧
      (∀ i ∈ run.results.issues, i.IsRegular) ∧
      (run.results.IsPrintable → ∃ v entries summary,
        Json.parse printed.out = .ok v ∧ Report.Tells run.results v entries summary ∧
          ∀ issues, (∀ i ∈ issues, i.IsRegular) → List.Forall₂ Issue.Told issues entries →
            issues = run.results.issues) ∧
      (¬ run.results.IsPrintable →
        Json.write .report (Report.document run.told.issues run.results)
          = .error .longInteger) := by
  intro run printed
  rcases (lintWorkspace_parts ReportFormat.json.listener c fs w Report.empty).2 hreturns
    with ⟨hresults, htold⟩
  have hissues := issues_total c fs w (w.selection fs).paths
  rw [hear_json] at htold
  -- The listener starts without issues, and all that it is told of are those of the paths.
  have hkept : run.told.issues = run.results.issues := by
    have hown : run.told.issues = _ := congrArg Report.issues htold
    rw [hown, ← hissues, ← hresults]
    exact List.nil_append _
  obtain ⟨hbalanced, hregular⟩ : run.results.Balanced ∧ ∀ i ∈ run.results.issues, i.IsRegular := by
    have hown : run.results = _ := hresults
    rw [hown]
    exact total_contributions c fs w _
  have hformed := Report.formed_document run.results.issues run.results
  refine ⟨hkept, hregular, fun hprintable => ?_, fun hlong => ?_⟩
  · -- What is printed is the text of the document and a line feed.
    rcases Json.parse_write hformed (by decide)
      ((Report.holdsLong_document run.results).mpr hprintable) .report with ⟨text, htext, hparse⟩
    rcases Report.tells_document hbalanced hregular with ⟨entries, summary, htells⟩
    have hprinted : printed.out = text ++ "\n" := by
      have hdocument : Report.documentText run.told.issues run.results = text := by
        unfold Report.documentText
        rw [hkept, htext]
      have hwritten : run.told.written = .nothing := congrArg Report.written htold
      change run.told.written.out ++ (Report.documentText run.told.issues run.results ++ "\n") = _
      rw [hwritten, hdocument]
      exact String.empty_append
    have hlineFeed : ∀ c ∈ "\n".toList, Json.isSpace c = true := List.all_eq_true.mp (by decide)
    exact ⟨_, entries, summary, hprinted ▸ hparse "\n" hlineFeed, htells,
      fun issues hown htold => Issue.Told.unique_list htells.issues htold hregular hown⟩
  · have hholds : (Report.document run.results.issues run.results).holdsLong = true := by
      rw [← Bool.not_eq_false]
      exact fun h => hlong ((Report.holdsLong_document run.results).mp h)
    unfold Json.write
    rw [hkept, Json.write_long hformed hholds]
    rfl

/-- One of two files is no text, and the name of the other, in the progress, is not told. -/
theorem lintWorkspace_reported_unreadable :
    let fs : FileSystem := ⟨.directory [("a.md", .file []), ("b.md", .file [255])], []⟩
    let w : Workspace := ⟨⟨"/", []⟩, ["a.md", "b.md"], [], []⟩
    let c : Context := ⟨Options.default, [], none, none, none⟩
    let run := lintWorkspace ReportFormat.json.listener c.checks fs w
      (start Memo.start Report.empty)
    run.2 = none ∧ run.1.told.issues.map (·.file) = ["b.md"] ∧
      run.1.told.issues = run.1.results.issues ∧
      ∃ v entries summary,
        Json.parse (ReportFormat.json.finish run.1.results run.1.told).written.out = .ok v ∧
          Report.Tells run.1.results v entries summary := by
  intro fs w c run
  have hreturns : run.2 = none := by decide +kernel
  rcases lintWorkspace_reported c fs w hreturns with ⟨hissues, _, hprinted, _⟩
  have hprintable : run.1.results.IsPrintable := by
    constructor <;> decide +kernel
  rcases hprinted hprintable with ⟨v, entries, summary, hparse, htells, _⟩
  exact ⟨hreturns, by decide +kernel, hissues, v, entries, summary, hparse, htells⟩

end Run

end Annals
