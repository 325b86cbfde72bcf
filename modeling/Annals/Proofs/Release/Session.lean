import Annals.Proofs.Json.Nesting
import Annals.Proofs.Release.Memo
import Annals.Proofs.Release.Paging

/-!
# A Session with an Index

What an index of releases answers over its whole life, and what it asks for.

Whoever holds an index loads it or looks pull requests up in it, in any order and as
often as they like. By `Paged` the first use asks for pages along a chain of links,
and by `Memo.Owes` all others answer from what it came to: the index of all pages
together, or the one failure. Pages that were read before a failure do not show.

Two things are needed for this. Records must be such that an index can be made of
them: `Release.IsSound` says it of one record, and `ofRecords_sound` that it is enough.
And no page may be nested too deep to be read at all, since that is a fault which
nothing is prepared for, and so it is not remembered: `perform_nested` and
`performAll_nested` say what happens instead.

## Main definitions

* `Memo.Use`, `Memo.Answer`: Uses of an index, and what they answer.
* `Memo.performAll`: The answers to several uses, with the requests made for each.
* `Release.IsSound`: A record of which a release can be made.

## Theorems

* `ofRecords_sound`: Sound records have an index.
* `performAll_owes`: The uses of an index that comes to an outcome.
* `performAll_fetched`: The uses of an index of the releases of a repository.
* `performAll_nested`: A page that is nested too deep is asked for again.
-/

namespace Annals

namespace Release

/-- A time of publication that has a place in order: a text, or none. -/
def IsDated : Value → Prop
  | .null | .text _ => True
  | _ => False

/-- The text of a release, or none, that refers to no number with too many digits. -/
def IsReadable : Value → Prop
  | .null => True
  | .text s => ∀ digits ∈ PullRequest.mentionedDigits s.toList, digits.length ≤ maxDigits
  | _ => False

instance : DecidablePred IsDated := fun v => by
  cases v <;> first | exact isTrue trivial | exact isFalse id

instance : DecidablePred IsReadable := fun v =>
  match v with
  | .null => isTrue trivial
  | .text s =>
    inferInstanceAs (Decidable
      (∀ digits ∈ PullRequest.mentionedDigits s.toList, digits.length ≤ maxDigits))
  | .bool _ | .int _ | .float _ | .bytes _ | .date _ | .moment _ | .seq .. | .map .. | .set ..
  | .pair .. | .back _ => isFalse id

/-- A record of which a release can be made, if it has a text and a time of publication at
    all. -/
def IsSound (record : Value) : Prop :=
  (∀ v ∈ record.get? "body", IsReadable v) ∧ ∀ v ∈ record.get? "published_at", IsDated v

instance : DecidablePred IsSound := fun record =>
  inferInstanceAs (Decidable ((∀ v ∈ record.get? "body", IsReadable v) ∧ _))

theorem isEarlier_dated {r current : Release} (h : IsDated r.published)
    (hcurrent : IsDated current.published) : ∃ answer, r.isEarlier current = .ok answer := by
  unfold isEarlier
  cases hr : r.published with
  | null => exact ⟨_, rfl⟩
  | text s =>
      cases hc : current.published with
      | null => exact ⟨_, rfl⟩
      | text t => exact ⟨_, rfl⟩
      | _ => rw [hc] at hcurrent; exact hcurrent.elim
  | _ => rw [hr] at h; exact h.elim

/-- The time of publication of a release is the one of its record, if it has one. -/
theorem published_eq {record : Value} {r : Release} (hr : ofRecord? record = some r) :
    r.published = (record.get? "published_at").getD .null := by
  unfold ofRecord? at hr
  split at hr
  · split at hr
    · cases hr
      rfl
    · cases hr
  · cases hr

theorem ofRecord?_dated {record : Value} (h : IsSound record) {r : Release}
    (hr : ofRecord? record = some r) : IsDated r.published := by
  rw [published_eq hr]
  cases hp : record.get? "published_at" with
  | none => exact trivial
  | some v => exact h.2 v hp

theorem textOf_sound {record : Value} (h : IsSound record) :
    ∃ s, textOf record = .ok s ∧
      ∀ digits ∈ PullRequest.mentionedDigits s.toList, digits.length ≤ maxDigits := by
  have hempty : ∀ digits ∈ PullRequest.mentionedDigits "".toList, digits.length ≤ maxDigits :=
    fun digits hd => absurd hd List.not_mem_nil
  unfold textOf
  cases hb : record.get? "body" with
  | none => exact ⟨"", rfl, hempty⟩
  | some v =>
      have hv : IsReadable v := h.1 v hb
      cases v with
      | null => exact ⟨"", rfl, hempty⟩
      | text s => exact ⟨s, rfl, hv⟩
      | _ => exact hv.elim

end Release

namespace ReleaseIndex

/-- All releases of an index have a place in order. -/
def IsDated (index : ReleaseIndex) : Prop := ∀ entry ∈ index, Release.IsDated entry.2.published

theorem add_dated {index : ReleaseIndex} (h : index.IsDated) (number : Nat) {r : Release}
    (hr : Release.IsDated r.published) :
    ∃ after, add number r index = .ok after ∧ IsDated after := by
  induction index with
  | nil =>
      refine ⟨[(number, r)], rfl, fun entry he => ?_⟩
      rw [List.mem_singleton.mp he]
      exact hr
  | cons entry rest ih =>
      rcases entry with ⟨n, current⟩
      have hcurrent := h (n, current) (List.mem_cons_self ..)
      have hrest : IsDated rest := fun entry he => h entry (List.mem_cons_of_mem _ he)
      unfold add
      by_cases hn : (n == number) = true
      · -- Whichever of the two releases stays, it has the time of a record.
        rcases Release.isEarlier_dated hr hcurrent with ⟨answer, hanswer⟩
        rw [if_pos hn, hanswer]
        refine ⟨(n, if answer then r else current) :: rest, rfl, fun entry he => ?_⟩
        rcases List.mem_cons.mp he with rfl | he
        · cases answer
          · exact hcurrent
          · exact hr
        · exact hrest entry he
      · rcases ih hrest with ⟨after, hafter, hdated⟩
        rw [if_neg hn, hafter]
        refine ⟨(n, current) :: after, rfl, fun entry he => ?_⟩
        rcases List.mem_cons.mp he with rfl | he
        · exact hcurrent
        · exact hdated entry he

theorem addAll_dated {index : ReleaseIndex} (h : index.IsDated) {r : Release}
    (hr : Release.IsDated r.published) (digits : List (List Char))
    (hshort : ∀ ds ∈ digits, ds.length ≤ maxDigits) :
    ∃ after, index.addAll r digits = .ok after ∧ IsDated after := by
  unfold addAll
  induction digits generalizing index with
  | nil => exact ⟨index, rfl, h⟩
  | cons ds rest ih =>
      have hnumber : PullRequest.number ds = .ok (Text.decimalValue ds) :=
        if_pos (hshort ds (List.mem_cons_self ..))
      rcases add_dated h (Text.decimalValue ds) hr with ⟨after, hafter, hdated⟩
      rcases ih hdated (fun ds hd => hshort ds (List.mem_cons_of_mem _ hd))
        with ⟨last, hlast, hlastDated⟩
      refine ⟨last, ?_, hlastDated⟩
      rw [List.foldlM_cons, hnumber]
      change add (Text.decimalValue ds) r index >>= _ = _
      rw [hafter]
      exact hlast

theorem addRecord_dated {index : ReleaseIndex} (h : index.IsDated) {record : Value}
    (hrecord : Release.IsSound record) :
    ∃ after, index.addRecord record = .ok after ∧ IsDated after := by
  unfold addRecord
  cases hr : Release.ofRecord? record with
  | none => exact ⟨index, rfl, h⟩
  | some r =>
      rcases Release.textOf_sound hrecord with ⟨s, hs, hshort⟩
      simp only [hs]
      exact addAll_dated h (Release.ofRecord?_dated hrecord hr) _ hshort

/-- Sound records can be put into an index. The induction is on the records; each release has
    a place in order, so the next one can be compared with it. -/
theorem foldlM_addRecord {records : List Value} {index : ReleaseIndex} (hindex : index.IsDated)
    (h : ∀ record ∈ records, Release.IsSound record) :
    ∃ after, records.foldlM addRecord index = .ok after := by
  induction records generalizing index with
  | nil => exact ⟨index, rfl⟩
  | cons record rest ih =>
      rcases addRecord_dated hindex (h record (List.mem_cons_self ..)) with ⟨after, hafter, hdated⟩
      rw [List.foldlM_cons, hafter]
      exact ih hdated fun record hr => h record (List.mem_cons_of_mem _ hr)

/-- Sound records have an index. -/
theorem ofRecords_sound {records : List Value} (h : ∀ record ∈ records, Release.IsSound record) :
    ∃ index, ofRecords records = .ok index :=
  foldlM_addRecord (fun _ he => absurd he List.not_mem_nil) h

end ReleaseIndex

namespace Memo

/-- A use of an index: to load it, or to look a pull request up. -/
inductive Use where
  | load
  | lookup (number : Nat)
  deriving DecidableEq, Repr

/-- What a use of an index answers. -/
inductive Answer where
  | index (index : ReleaseIndex)
  | release (found : Option Release)

/-- What a use of an index answers from the index. -/
def Use.answer (index : ReleaseIndex) : Use → Answer
  | load => .index index
  | lookup number => .release (index.find? number)

/-- The answer to a use of an index, and the memo after it. -/
def perform (loader : Loader) (m : Memo) : Use → Except LoadFault Answer × Memo
  | .load => ((m.load loader).1.map .index, (m.load loader).2)
  | .lookup number => ((m.find loader number).1.map .release, (m.find loader number).2)

/-- The answers to several uses of an index, each with the requests made for it. -/
def performAll (loader : Loader) : List Use → Memo → List (Except LoadFault Answer × List Request)
  | [], _ => []
  | use :: rest, m =>
    let (answer, after) := m.perform loader use
    (answer, after.requests.drop m.requests.length) :: performAll loader rest after

variable {loader : Loader} {outcome : Except String ReleaseIndex} {m : Memo}

/-- Every use loads the index and answers from it. -/
theorem perform_eq (loader : Loader) (m : Memo) (use : Use) :
    m.perform loader use = ((m.load loader).1.map use.answer, (m.load loader).2) := by
  cases use with
  | load => rfl
  | lookup number =>
      unfold perform find Use.answer
      rcases m.load loader with ⟨result, after⟩
      cases result <;> rfl

/-- Once the index or a failure is remembered, every use answers from it, and no request is
    made any more. -/
theorem performAll_known (h : m.known = some outcome) (uses : List Use) :
    performAll loader uses m
      = uses.map fun use => ((outcome.mapError .reference).map use.answer, []) := by
  induction uses with
  | nil => rfl
  | cons use rest ih =>
      have hstays : m.perform loader use = ((outcome.mapError .reference).map use.answer, m) := by
        rw [perform_eq, load_of_known loader h]
      simp only [performAll, hstays, ih, List.drop_length, List.map_cons]

/-- The uses of an index that comes to an outcome: all of them answer from it, and only the
    first makes requests. -/
theorem performAll_yields (h : loader.Yields outcome) (first : Use) (later : List Use) :
    performAll loader (first :: later) start
      = ((outcome.mapError .reference).map first.answer, (loader 0).requests) ::
        later.map fun use => ((outcome.mapError .reference).map use.answer, []) := by
  rcases load_of_owes (start_owes h) with ⟨hresult, hknown⟩
  have hrequests : (start.load loader).2.requests = (loader 0).requests := rfl
  simp only [performAll, perform_eq, hresult, performAll_known hknown]
  rw [hrequests]
  rfl

/-- Where fetching fails in a way that is prepared for, that is what the loader comes to. -/
theorem ofRepository_fails {r : Repository} {remote : Remote} {f : FetchFault}
    (h : (r.fetch remote 0).result = .error f) (hf : f ≠ .nested) :
    (Loader.ofRepository r remote).Yields (.error (f.message r.name)) := by
  unfold Loader.Yields Loader.ofRepository
  cases f with
  | nested => exact absurd rfl hf
  | broken reason => simp only [h]; rfl
  | status code body => simp only [h]; rfl
  | noJson message => simp only [h]; rfl

theorem ofRepository_reads {r : Repository} {remote : Remote} {records : List Value}
    {index : ReleaseIndex} (h : (r.fetch remote 0).result = .ok records)
    (hindex : ReleaseIndex.ofRecords records = .ok index) :
    (Loader.ofRepository r remote).Yields (.ok index) := by
  unfold Loader.Yields Loader.ofRepository
  simp only [h, hindex]
  rfl

theorem ofRepository_requests (r : Repository) (remote : Remote) (asked : Nat) :
    (Loader.ofRepository r remote asked).requests = (r.fetch remote asked).requests := by
  unfold Loader.ofRepository
  simp only []
  split <;> rfl

section Repositories

variable {r : Repository} {remote : Remote}

/-- A request that fails, in a way that is prepared for, is what the loader comes to. -/
theorem ofRepository_broken
    (hread : ∀ i < (r.fetch remote 0).requests.length, (remote i).value ≠ .error .nested)
    {i : Nat} (hi : i < (r.fetch remote 0).requests.length) {f : FetchFault}
    (hf : (remote i).value = .error f) :
    (Loader.ofRepository r remote).Yields (.error (f.message r.name)) := by
  refine ofRepository_fails ((r.fetch_paged remote).fails i hi f (by rwa [Nat.zero_add])) ?_
  rintro rfl
  exact hread i hi hf

/-- If no request fails, the loader comes to the index of the records on all pages. -/
theorem ofRepository_pages
    (hsound : ∀ i < (r.fetch remote 0).requests.length, ∀ record ∈ (remote i).page,
      Release.IsSound record)
    (hall : ∀ i < (r.fetch remote 0).requests.length, ∃ v, (remote i).value = .ok v) :
    ∃ index, ReleaseIndex.ofRecords ((List.range (r.fetch remote 0).requests.length).flatMap
        fun i => (remote i).page) = .ok index ∧
      (Loader.ofRepository r remote).Yields (.ok index) := by
  have hresult := (r.fetch_paged remote).reads (by simpa only [Nat.zero_add] using hall)
  simp only [Nat.zero_add] at hresult
  have hrecords : ∀ record ∈ (List.range (r.fetch remote 0).requests.length).flatMap
      fun i => (remote i).page, Release.IsSound record := by
    intro record hr
    rcases List.mem_flatMap.mp hr with ⟨i, hi, hr⟩
    exact hsound i (List.mem_range.mp hi) record hr
  rcases ReleaseIndex.ofRecords_sound hrecords with ⟨index, hindex⟩
  exact ⟨index, hindex, ofRepository_reads hresult hindex⟩

/-- Some request fails or none does; either way the loader comes to an outcome. -/
theorem ofRepository_yields
    (hread : ∀ i < (r.fetch remote 0).requests.length, (remote i).value ≠ .error .nested)
    (hsound : ∀ i < (r.fetch remote 0).requests.length, ∀ record ∈ (remote i).page,
      Release.IsSound record) :
    ∃ outcome, (Loader.ofRepository r remote).Yields outcome := by
  by_cases hall : ∀ i < (r.fetch remote 0).requests.length, ∃ v, (remote i).value = .ok v
  · rcases ofRepository_pages hsound hall with ⟨index, _, hyields⟩
    exact ⟨_, hyields⟩
  · rcases Classical.not_forall.mp hall with ⟨i, hi⟩
    rcases Classical.not_imp.mp hi with ⟨hi, hnone⟩
    cases hv : (remote i).value with
    | error f => exact ⟨_, ofRepository_broken hread hi hv⟩
    | ok v => exact absurd ⟨v, hv⟩ hnone

/-- The answers and the requests of all uses, by what the loader comes to. -/
theorem performAll_ofRepository {outcome : Except String ReleaseIndex}
    (h : (Loader.ofRepository r remote).Yields outcome) (first : Use) (later : List Use) :
    (performAll (.ofRepository r remote) (first :: later) start).map Prod.snd
        = (r.fetch remote 0).requests :: later.map (fun _ => []) ∧
      (performAll (.ofRepository r remote) (first :: later) start).map Prod.fst
        = (first :: later).map fun use => (outcome.mapError .reference).map use.answer := by
  simp only [performAll_yields h, ofRepository_requests, List.map_cons, List.map_map]
  exact ⟨rfl, rfl⟩

end Repositories

/-- The uses of an index of the releases of a repository, as long as no page is nested too
    deep. All requests are made for the first use, along a chain of links that ends with a
    page without records, a page without a next one, a failure, or with as many requests as
    are allowed. If one of them fails, every use fails for the same reason; otherwise every
    use answers from the index of the records on all pages together. -/
theorem performAll_fetched (r : Repository) (remote : Remote) (first : Use) (later : List Use)
    (hread : ∀ i < (r.fetch remote 0).requests.length, (remote i).value ≠ .error .nested)
    (hsound : ∀ i < (r.fetch remote 0).requests.length, ∀ record ∈ (remote i).page,
      Release.IsSound record) :
    let requests := (r.fetch remote 0).requests
    let session := performAll (.ofRepository r remote) (first :: later) start
    session.map Prod.snd = requests :: later.map (fun _ => []) ∧
      requests.length ≤ r.maxPages ∧
      (0 < r.maxPages → requests.head?
        = some ⟨r.releasesUrl, some Repository.pageSize, r.token, r.timeout⟩) ∧
      (∀ i request, requests[i + 1]? = some request → ∃ next,
        (remote i).onward? = some next ∧ request = ⟨next, none, r.token, r.timeout⟩) ∧
      (∀ i < requests.length,
        (i + 1 < requests.length ↔ i + 1 < r.maxPages ∧ (remote i).onward?.isSome)) ∧
      (∀ i < requests.length, ∀ f, (remote i).value = .error f →
        session.map Prod.fst
          = (first :: later).map fun _ => .error (.reference (f.message r.name))) ∧
      ((∀ i < requests.length, ∃ v, (remote i).value = .ok v) →
        ∃ index, ReleaseIndex.ofRecords
            ((List.range requests.length).flatMap fun i => (remote i).page) = .ok index ∧
          session.map Prod.fst = (first :: later).map fun use => .ok (use.answer index)) := by
  intro requests session
  have hpaged := r.fetch_paged remote
  have hchain (i : Nat) (request : Request) (hi : requests[i + 1]? = some request) :
      ∃ next, (remote i).onward? = some next ∧ request = ⟨next, none, r.token, r.timeout⟩ := by
    simpa only [Nat.zero_add] using hpaged.follows i request hi
  refine ⟨?_, hpaged.bounded, fun hpages => hpaged.begins hpages r.releasesUrl_nonempty, hchain,
    fun i hi => ⟨fun hmore => ?_, fun hmore => ?_⟩, fun i hi f hf => ?_, fun hall => ?_⟩
  · rcases ofRepository_yields hread hsound with ⟨outcome, hyields⟩
    exact (performAll_ofRepository hyields first later).1
  · -- A further request was made for the address that the reply before it gave.
    rcases hchain i requests[i + 1] (List.getElem?_eq_getElem hmore) with ⟨next, hnext, _⟩
    exact ⟨Nat.lt_of_lt_of_le hmore hpaged.bounded, by rw [hnext]; rfl⟩
  · exact hpaged.goesOn i hi hmore.1 (by rw [Nat.zero_add]; exact hmore.2)
  · exact (performAll_ofRepository (ofRepository_broken hread hi hf) first later).2
  · rcases ofRepository_pages hsound hall with ⟨index, hindex, hyields⟩
    exact ⟨index, hindex, (performAll_ofRepository hyields first later).2⟩

/-- A page that is nested too deep is a fault that nothing remembers: the use fails, and the
    memo is as if nothing had been asked for. -/
theorem perform_nested {r : Repository} {remote : Remote} (hknown : m.known = none)
    (h : (r.fetch remote m.requests.length).result = .error .nested) (use : Use) :
    m.perform (.ofRepository r remote) use
      = (.error (.record .nested), ⟨none, m.loads + 1,
          m.requests ++ (r.fetch remote m.requests.length).requests⟩) := by
  have hload : m.load (.ofRepository r remote)
      = (.error (.record .nested), ⟨none, m.loads + 1,
          m.requests ++ (r.fetch remote m.requests.length).requests⟩) := by
    unfold load
    simp only [hknown, Loader.ofRepository, h]
    rfl
  rw [perform_eq, hload]
  rfl

/-- A second page that is not to be had: the index of the first one does not show. -/
theorem performAll_fetched_broken :
    let r : Repository := ⟨"o/n", "t", 50, 30⟩
    let remote : Remote := fun n =>
      if n = 0 then .response 200 "[\x7b\"tag_name\": \"v1\", \"body\": \"#1\"\x7d]"
        (some "<next>; rel=\"next\"")
      else .response 500 "down" none
    let session := performAll (.ofRepository r remote) [.lookup 1, .load] start
    (r.fetch remote 0).requests.length = 2 ∧
      session.map Prod.snd = [(r.fetch remote 0).requests, []] ∧
      session.map Prod.fst = [.error (.reference ((FetchFault.status 500 "down").message "o/n")),
        .error (.reference ((FetchFault.status 500 "down").message "o/n"))] := by
  intro r remote session
  have hlength : (r.fetch remote 0).requests.length = 2 := by decide +kernel
  have hfirst : (remote 0).value.isOk = true := by decide +kernel
  have hsecond : (remote 1).value = .error (.status 500 "down") := rfl
  -- Neither of the two pages is nested too deep: the first can be read, and the second fails by its
  -- status.
  have hread : ∀ i < (r.fetch remote 0).requests.length, (remote i).value ≠ .error .nested := by
    rw [hlength]
    intro i hi h
    rcases Nat.lt_succ_iff_lt_or_eq.mp hi with hi | rfl
    · obtain rfl : i = 0 := by omega
      rw [h] at hfirst
      cases hfirst
    · rw [hsecond] at h
      cases h
  have hsound : ∀ i < (r.fetch remote 0).requests.length, ∀ record ∈ (remote i).page,
      Release.IsSound record := by decide +kernel
  rcases performAll_fetched r remote (.lookup 1) [.load] hread hsound
    with ⟨hrequests, _, _, _, _, hfails, _⟩
  exact ⟨hlength, hrequests, hfails 1 (by rw [hlength]; decide) _ hsecond⟩

theorem value_nested {status : Nat} {body : String} (hstatus : status < 400)
    (h : Json.parse body = .error .nested) (link : Option String) :
    (Reply.response status body link).value = .error .nested := by
  simp only [Reply.value, if_neg (Nat.not_le.mpr hstatus), h]

/-- If every page is nested too deep, every use asks for the first page again. The induction
    is on the uses; nothing is ever remembered. -/
theorem performAll_forgets {r : Repository} {remote : Remote} (hpages : 0 < r.maxPages)
    (h : ∀ i, (remote i).value = .error .nested) (hknown : m.known = none) (uses : List Use) :
    performAll (.ofRepository r remote) uses m
      = uses.map fun _ => (.error (.record .nested),
          [⟨r.releasesUrl, some Repository.pageSize, r.token, r.timeout⟩]) := by
  -- The first page already fails, whichever request it is.
  have hfetch (asked : Nat) : r.fetch remote asked
      = ⟨.error .nested, [⟨r.releasesUrl, some Repository.pageSize, r.token, r.timeout⟩]⟩ := by
    obtain ⟨left, hleft⟩ : ∃ left, r.maxPages = left + 1 := ⟨r.maxPages - 1, by omega⟩
    have hurl : ¬r.releasesUrl.isEmpty = true := by
      rw [r.releasesUrl_nonempty]
      exact Bool.false_ne_true
    simp only [Repository.fetch, hleft, Repository.fetchFrom, if_neg hurl, h]
  induction uses generalizing m with
  | nil => rfl
  | cons use rest ih =>
      have hresult : (r.fetch remote m.requests.length).result = .error .nested := by rw [hfetch]
      simp only [performAll, perform_nested hknown hresult use, List.drop_left, List.map_cons]
      rw [ih rfl, hfetch]

/-- Lists within lists: what one use found out the next one asks for again. -/
theorem performAll_nested :
    let remote : Remote := fun _ =>
      .response 200 (String.ofList (List.replicate 3000 '[' ++ List.replicate 3000 ']')) none
    performAll (.ofRepository ⟨"o/n", "t", 50, 30⟩ remote) [.load, .load] start
      = List.replicate 2 (.error (.record .nested),
          [⟨"https://api.github.com/repos/o/n/releases", some 100, "t", 30⟩]) := by
  have hdeep : Json.maxNesting < 3000 := by decide
  have hvalue := value_nested (by decide : 200 < 400)
    (Json.parse_nested hdeep (List.replicate 3000 ']')) none
  exact performAll_forgets (by decide) (fun _ => hvalue) rfl [.load, .load]

end Memo

end Annals
