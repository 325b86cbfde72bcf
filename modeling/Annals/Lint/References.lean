import Annals.Lint.Check
import Annals.Markdown.Document

/-!
# Checks of References

Two checks look up what the records of a history refer to: the headings of breaking
changes, and the pull requests in the index of the releases.

## Main definitions

* `BreakingChanges.ofText`: The headings of breaking changes in a document.
* `References.headerIssues`: The issues of unknown headings.
* `References.pullRequestIssues`: The issues of unknown pull requests.
-/

namespace Annals

/-- The slugs of the headings of breaking changes. -/
abbrev BreakingChanges := List String

namespace BreakingChanges

/-- The level of the headings that are breaking changes. -/
def level : Nat := 3

/-- The breaking changes of a document. -/
def ofText (source : String) : BreakingChanges :=
  ((Markdown.headings source).filter (·.level == level)).map (·.slug)

/-- The slugs in order, each once. -/
def sorted (changes : BreakingChanges) : List String :=
  changes.eraseDups.mergeSort fun a b => a ≤ b

end BreakingChanges

namespace References

/-- The keys under which records may refer to breaking changes. -/
def headerSections : List String := ["changes", "deprecated"]

/-- The keys under which records refer to pull requests. -/
def pullRequestSections : List String := ["added", "changes", "deprecated"]

/-- Whether the heading to which a record refers is known. -/
def isKnownHeader (changes : BreakingChanges) : Value → Bool
  | .text s => changes.contains s
  | _ => false

/-- The issue of a record whose heading is not known. -/
def unknownHeader (e : Entry) (name : String) (header : Value) : Issue :=
  e.issue .error .unknownBreakingChange
    ("Couldn't find breaking changes header '" ++ header.plain ++ "' (" ++ name ++
      ") in the breaking changes file")
    (some "Use the anchor of a level-3 heading from the breaking changes file")

/-- The issue about a value, if the value can be shown. -/
def about (v : Value) (i : Issue) : Except CheckFault Issue :=
  if v.holdsLong then .error (.halt (.unwritable .longInteger)) else .ok i

/-- The issue of one record under the key `name`, if it refers to an unknown heading. -/
def headerIssue? (changes : BreakingChanges) (e : Entry) (name : String) (record : Value) :
    Except CheckFault (Option Issue) :=
  match record.field? "breaking-changes-header" with
  | none => .ok none
  | some header =>
    if isKnownHeader changes header then .ok none
    else some <$> about header (unknownHeader e name header)

/-- The issues of unknown headings. -/
def headerIssues (changes : BreakingChanges) (e : Entry) : Except CheckFault (List Issue) := do
  let found ← (Entry.records e.history headerSections).mapM fun (name, record) =>
    headerIssue? changes e name record
  return found.filterMap id

/-- The issue of a record without the number of a pull request. -/
def noNumber (e : Entry) (name : String) (url : Value) : Issue :=
  e.issue .warning .unknownPullRequest
    ("Couldn't extract a PR number from pr-url " ++ url.display ++ " (" ++ name ++ ")") none

/-- The issue of a record whose pull request is in no release. -/
def noRelease (e : Entry) (name : String) (number : Nat) : Issue :=
  e.issue .warning .unknownPullRequest
    ("Couldn't find PR number " ++ toString number ++ " (" ++ name ++
      ") in any release, maybe the list is stale") none

/-- The number of the pull request to which a value refers. -/
def numberOf : Value → Except LongNumber (Option Nat)
  | .text url => PullRequest.ofUrl url
  | _ => .ok none

/-- How a check fails that needs the index. -/
def faultOf : LoadFault → CheckFault
  | .reference message => .reference message
  | .record f => .halt (.record f)

/-- The issue of one record under the key `name`, if its pull request is not known. -/
def pullRequestIssue (loader : Loader) (e : Entry) (name : String) (record : Value) (m : Memo) :
    Except CheckFault (Option Issue) × Memo :=
  let url := (record.field? "pr-url").getD .null
  match numberOf url with
  | .error n => (.error (.halt (.record (.longNumber n))), m)
  | .ok none => (some <$> about url (noNumber e name url), m)
  | .ok (some number) =>
    -- The index is asked only now, so a record without a number never needs it.
    match m.find loader number with
    | (.error f, m) => (.error (faultOf f), m)
    | (.ok none, m) => (.ok (some (noRelease e name number)), m)
    | (.ok (some _), m) => (.ok none, m)

/-- The issues of records, up to one at which the check fails. -/
def pullRequestIssuesFrom (loader : Loader) (e : Entry) : List (String × Value) → Memo →
    Except CheckFault (List Issue) × Memo
  | [], m => (.ok [], m)
  | (name, record) :: rest, m =>
    match pullRequestIssue loader e name record m with
    | (.error f, m) => (.error f, m)
    | (.ok found, m) =>
      let (others, m) := pullRequestIssuesFrom loader e rest m
      (others.map (found.toList ++ ·), m)

/-- The issues of unknown pull requests. -/
def pullRequestIssues (loader : Loader) (e : Entry) (m : Memo) :
    Except CheckFault (List Issue) × Memo :=
  pullRequestIssuesFrom loader e (Entry.records e.history pullRequestSections) m

end References

namespace Check

/-- The check of headings of breaking changes. -/
def breakingChanges {σ : Type} (changes : BreakingChanges) : Check σ :=
  .pure "check_breaking_changes" fun e => References.headerIssues changes e

/-- The check of pull requests. -/
def pullRequests (loader : Loader) : Check Memo :=
  ⟨"check_pull_requests", References.pullRequestIssues loader⟩

end Check

end Annals
