import Annals.Proofs.History.Frame
import Annals.Proofs.Lint.Separation
import Annals.Proofs.Lint.Wording

/-!
# Histories without Issues

A history that is written as it should be, and refers to nothing that is not known, goes
through a run without an issue.

Every check looks at one side of a history. Two of them read its lines, and each line is a
key with a safe value, or a key alone. Two go through the records of its value, and these
are the records that were written. One holds the value against a schema, and the last one
looks at what stands before the comment. So what is asked for is what the outside has to
know: the schema, the headings and the index of releases.

## Main definitions

* `Context.Knows`: What the checks of a context have to know of a history.
* `Frame.entry`: A history in a document, as the checks see it.

## Theorems

* `Chronicle.safe`: The lines of a history are safe.
* `headerIssues_known`, `pullRequestAnswer_known`: The references of a history.
* `answer_known`: No check has an issue with a history.
* `lintDocuments_known`: A run over a document with a history.
-/

namespace Annals

/-- What the checks of a context have to know of a history, as far as they are made: it
    conforms to the schema, the headings to which it refers are there, and the index has its
    pull requests. -/
structure Context.Knows (c : Context) (index : ReleaseIndex) (h : History.Chronicle) : Prop where
  schema : ∀ s, c.schema = some s → s.violations h.value = .ok []
  headers : ∀ changes, c.breakingChanges = some changes →
    ∀ r ∈ h.records, ∀ cs, r.header = some cs → String.ofList cs ∈ changes
  loads : ∀ loader, c.loader = some loader → (loader 0).result = .ok index
  releases : c.loader.isSome → ∀ r ∈ h.records, (index.find? r.number).isSome

namespace History

open Yaml

namespace Record

theorem wordingKey {key : List Char} (h : key ∈ recordKeys ++ sectionKeys) :
    Wording.IsKey key := by
  have hall : ∀ key ∈ recordKeys ++ sectionKeys, key ≠ [] ∧
      key.all Wording.isKeyChar = true ∧
      key.head?.all (fun c => !Text.isBlank c && c != '-') = true := by decide +kernel
  rcases hall key h with ⟨hne, hchar, hbegins⟩
  refine ⟨hne, List.all_eq_true.mp hchar, fun c hc => ?_⟩
  simpa using (Option.all_eq_true _ _).mp hbegins c hc

/-- An address is a value with safe ends. -/
theorem safeUrl (r : Record) : Wording.IsValue r.url ∧ Wording.hasSafeEdges r.url = true := by
  rcases r.last_url with ⟨c, hc, hlast⟩
  have hdigit := Text.forall_toDigits (p := fun c => !Text.isBlank c && Wording.isSafeEdge c)
    (by decide +kernel) _ c hc
  simp only [Bool.and_eq_true, Bool.not_eq_true'] at hdigit
  -- The address begins with a letter and ends with a digit.
  have hfirst : r.url.head? = some 'h' := rfl
  have hletter : Text.isBlank 'h' = false ∧ Wording.isSafeEdge 'h' = true := by decide +kernel
  refine ⟨⟨?_, ?_, ?_⟩, ?_⟩
  · exact fun hnil => by rw [hnil] at hfirst; cases hfirst
  · rw [hfirst]
    rintro x ⟨⟩
    exact hletter.1
  · rw [hlast]
    rintro x ⟨⟩
    exact hdigit.1
  · simp [Wording.hasSafeEdges, hfirst, hlast, hletter.2, hdigit.2]

/-- The lines of a record are safe: the address has safe ends, and all else is quoted. -/
theorem safe (r : Record) : ∀ l ∈ r.lines, Wording.IsSafe l := by
  have hitem : Wording.IsLead "  - ".toList := ⟨2, Or.inr rfl⟩
  have hblanks : Wording.IsLead "    ".toList := ⟨4, Or.inl rfl⟩
  intro l hl
  rcases List.mem_cons.mp hl with rfl | hl
  · exact Wording.isSafe_plain hitem (wordingKey (by decide)) (by decide) r.safeUrl.1 r.safeUrl.2
  · rcases List.mem_map.mp hl with ⟨e, he, rfl⟩
    exact Wording.isSafe_quoted hblanks (wordingKey (List.mem_append_left _ (key_quoted he))) e.2

/-- The address in the value of a record. -/
theorem field_url (r : Record) (base : Nat) :
    (r.tree.value base).field? "pr-url" = some (.text (String.ofList r.url)) :=
  Yaml.Tree.field?_first urlKey r.url true

theorem numberOf_url (r : Record) :
    References.numberOf (.text (String.ofList r.url)) = .ok (some r.number) := by
  have hstart : ∀ c ∈ urlStart.head?, Text.isBlank c = false := by
    rintro c ⟨⟩
    decide
  have hnumber := PullRequest.ofUrl_toDigits r.isShort hstart
  rw [References.numberOf, url]
  exact hnumber

/-- The heading in the value of a record is the one to which the record refers. -/
theorem field_header {r : Record} {base : Nat} {v : Value}
    (h : (r.tree.value base).field? "breaking-changes-header" = some v) :
    ∃ cs, r.header = some cs ∧ v = .text (String.ofList cs) := by
  rcases Yaml.Tree.field?_entries r.fits_entries h with ⟨e, he, hkey, b, rfl⟩
  have hkey : e.1 = headerKey := String.ofList_injective hkey
  have hother : urlKey ≠ headerKey ∧ descriptionKey ≠ headerKey := by decide
  rcases List.mem_cons.mp he with rfl | he
  · exact absurd hkey hother.1
  · rcases List.mem_map.mp he with ⟨q, hq, rfl⟩
    rcases List.mem_append.mp hq with hq | hq
    · rcases Option.map_eq_some_iff.mp (Option.mem_toList.mp hq) with ⟨cs, _, rfl⟩
      exact absurd hkey hother.2
    · rcases Option.map_eq_some_iff.mp (Option.mem_toList.mp hq) with ⟨cs, hcs, rfl⟩
      exact ⟨cs, hcs, rfl⟩

end Record

/-- The lines of a history are safe. -/
theorem Chronicle.safe (h : Chronicle) : ∀ l ∈ h.lines, Wording.IsSafe l := by
  intro l hl
  rcases List.mem_flatMap.mp hl with ⟨s, _, hl⟩
  rcases List.mem_cons.mp hl with rfl | hl
  · exact Wording.isSafe_bare (Record.wordingKey (List.mem_append_right _ s.1.mem_sectionKeys))
  · rcases List.mem_flatMap.mp hl with ⟨r, _, hl⟩
    exact r.safe l hl

/-- A history in a document, as the checks see it. -/
def Frame.entry (f : Frame) (h : Chronicle) (file : String) : Entry :=
  ⟨file, ⟨(f.around h).candidate f.line, h.text, (splitInfo (String.ofList f.info)).1,
    (splitInfo (String.ofList f.info)).2, f.line + 2⟩, h.value⟩

end History

namespace References

open History

variable {e : Entry} {h : Chronicle}

/-- All headings to which a history refers are known. -/
theorem headerIssues_known {changes : BreakingChanges} (he : e.history = h.value)
    (hknown : ∀ r ∈ h.records, ∀ cs, r.header = some cs → String.ofList cs ∈ changes) :
    headerIssues changes e = .ok [] := by
  let find := fun r : String × Value => headerIssue? changes e r.1 r.2
  have hfind : ∀ r ∈ Entry.records e.history headerSections, find r = .ok none := by
    intro r hr
    rw [he] at hr
    rcases Chronicle.mem_records hr with ⟨own, hown, base, hvalue⟩
    simp only [find, headerIssue?, hvalue]
    cases hfield : (own.tree.value base).field? "breaking-changes-header" with
    | none => rfl
    | some v =>
        rcases Record.field_header hfield with ⟨cs, hcs, rfl⟩
        have hmem := hknown own hown cs hcs
        simp [isKnownHeader, hmem]
  -- The check asks for each record in turn and keeps what is an issue.
  have hissues : headerIssues changes e
      = (Entry.records e.history headerSections).mapM find >>= fun found =>
          .ok (found.filterMap id) := rfl
  rcases mapM_except find (Entry.records e.history headerSections) with ⟨hfault, hfound⟩
  rw [hissues]
  cases hall : (Entry.records e.history headerSections).mapM find with
  | error fault =>
      rcases hfault fault hall with ⟨r, hr, hr'⟩
      rw [hfind r hr] at hr'
      cases hr'
  | ok found =>
      refine congrArg Except.ok (List.filterMap_eq_nil_iff.mpr (fun answer hanswer => ?_))
      rcases hfound found hall answer hanswer with ⟨r, hr, hr'⟩
      rw [hfind r hr] at hr'
      cases hr'
      rfl

/-- Records whose pull requests are all in the index at hand. -/
theorem pullRequestIssuesFrom_known (loader : Loader) {index : ReleaseIndex}
    {records : List (String × Value)}
    (hknown : ∀ r ∈ records, ∃ number, numberOf ((r.2.field? "pr-url").getD .null)
      = .ok (some number) ∧ (index.find? number).isSome) {m : Memo}
    (hm : m.known = some (.ok index)) :
    pullRequestIssuesFrom loader e records m = (.ok [], m) := by
  induction records with
  | nil => rfl
  | cons r rest ih =>
      rcases r with ⟨name, record⟩
      rcases hknown (name, record) (List.mem_cons_self ..) with ⟨number, hnumber, hfound⟩
      obtain ⟨release, hrelease⟩ := Option.isSome_iff_exists.mp hfound
      -- The index is remembered, so nothing is loaded.
      have hfind : m.find loader number = (.ok (some release), m) := by
        rw [Memo.find_of_known loader hm, ← hrelease]
        rfl
      have hissue : pullRequestIssue loader e name record m = (.ok none, m) := by
        simp only [] at hnumber
        simp only [pullRequestIssue, hnumber, hfind]
      have hrest := ih (fun r hr => hknown r (List.mem_cons_of_mem _ hr))
      simp only [pullRequestIssuesFrom, hissue, hrest]
      rfl

/-- All pull requests of a history are in the index. -/
theorem pullRequestAnswer_known {index : ReleaseIndex} (he : e.history = h.value)
    (hknown : ∀ r ∈ h.records, (index.find? r.number).isSome) :
    pullRequestAnswer (.ok index) e = .ok [] := by
  unfold pullRequestAnswer pullRequestIssues
  rw [pullRequestIssuesFrom_known (.failing "") (fun r hr => ?_) rfl]
  rw [he] at hr
  rcases Chronicle.mem_records hr with ⟨own, hown, base, hvalue⟩
  refine ⟨own.number, ?_, hknown own hown⟩
  rw [hvalue, own.field_url]
  exact own.numberOf_url

end References

namespace Check

open History

variable {c : Context} {index : ReleaseIndex} {h : Chronicle}

/-- No check has an issue with a history of which the context knows what it has to. -/
theorem answer_known (hc : c.Knows index h) (f : Frame) (file : String) :
    ∀ p ∈ c.forms, p.2.answer (.ok index) (f.entry h file) = .ok [] := by
  have hmark : ∀ l ∈ h.lines, ∀ x ∈ l, Text.isLineMark x = false := by
    intro l hl x hx
    have hall := of_isTame (p := fun x => !Text.isLineMark x) (by decide +kernel) (h.tame l hl x hx)
    simpa using hall
  intro p hp
  rcases List.mem_filterMap.mp hp with ⟨k, _, hk⟩
  rcases Option.map_eq_some_iff.mp hk with ⟨form, hform, rfl⟩
  -- Kind by kind: what the context knows of the history is the condition of just this check.
  cases k with
  | strings =>
      simp only [Context.form?] at hform
      split at hform
      · cases hform
        exact congrArg Except.ok (Wording.issues_safe rfl hmark h.safe).1
      · cases hform
  | descriptions =>
      simp only [Context.form?] at hform
      split at hform
      · cases hform
        exact congrArg Except.ok (Wording.issues_safe rfl hmark h.safe).2
      · cases hform
  | schema =>
      rcases Option.map_eq_some_iff.mp hform with ⟨s, hs, rfl⟩
      have hclean : s.violations (f.entry h file).history = .ok [] := hc.schema s hs
      simp only [Form.answer, Structure.schemaIssues, hclean]
  | placement =>
      simp only [Context.form?] at hform
      split at hform
      · cases hform
        rfl
      · cases hform
  | breakingChanges =>
      rcases Option.map_eq_some_iff.mp hform with ⟨changes, hchanges, rfl⟩
      exact References.headerIssues_known rfl (hc.headers changes hchanges)
  | pullRequests =>
      rcases Option.map_eq_some_iff.mp hform with ⟨loader, hloader, rfl⟩
      exact References.pullRequestAnswer_known rfl (hc.releases (by rw [hloader]; rfl))

end Check

namespace Run

open History

variable {ρ : Type} {c : Context} {index : ReleaseIndex} {h : Chronicle}

theorem answersOf_silent {forms : List Check.Form} {e : Entry} {outcome : Except String ReleaseIndex}
    (hsilent : ∀ f ∈ forms, f.answer outcome e = .ok []) :
    foundIn (answersOf outcome forms e) = [] ∧ failureIn (answersOf outcome forms e) = none := by
  induction forms with
  | nil => exact ⟨rfl, rfl⟩
  | cons f rest ih =>
      rcases ih (fun f hf => hsilent f (List.mem_cons_of_mem _ hf)) with ⟨hfound, hfault⟩
      have hcons : answersOf outcome (f :: rest) e = .ok [] :: answersOf outcome rest e :=
        congrArg (· :: _) (hsilent f (List.mem_cons_self ..))
      rw [hcons]
      exact ⟨hfound, hfault⟩

/-- The one candidate of a document with a history is worth no issue. -/
theorem worths_known (hc : c.Knows index h) (f : Frame) {d : Document}
    (hd : d.text = f.document h) :
    worths (.ok index) (c.forms.map Prod.snd) d = [⟨[], none⟩] := by
  have hsilent : ∀ form ∈ c.forms.map Prod.snd,
      form.answer (.ok index) (f.entry h d.name) = .ok [] := by
    intro form hform
    rcases List.mem_map.mp hform with ⟨p, hp, rfl⟩
    exact Check.answer_known hc f d.name p hp
  rcases answersOf_silent hsilent with ⟨hfound, hfault⟩
  -- The one candidate is the block around the history, and it decodes to the history again.
  have hdecode : Yaml.decode true h.text = .ok h.value := h.decode_text true
  unfold worths
  rw [hd, f.candidates_around, List.map_cons, List.map_nil]
  unfold worth
  rw [f.block_around]
  simp only [hdecode]
  exact congrArg (· :: []) (congrArg₂ BlockOutcome.mk hfound hfault)

end Run

end Annals
