import Annals.Proofs.Release.Earliest

/-!
# Records of Which No Index Can Be Made

What happens if the data that the other side delivers is not what it should be.

A failure to fetch is remembered, but a fault of what was fetched is not. The use of the
index that meets it fails with the fault, and the next use makes the index again, with
requests of its own, until once there is an outcome that is remembered
(`performAll_attempts`). So whether all uses are served from one attempt depends on what the
first attempt is given, and `Repository.IsOrderly` says what this has to be: no page is nested
too deep, each record of a release can be read, and for every pull request the releases
that refer to it can be compared.

The last of these is a condition on each pull request alone, although all of them are in one
index: `addReferences_iff` takes the index apart. For one pull request the releases are gone
through in their order, and each is compared with the one that is kept so far. What there
is to be compared are the times of publication, and these can be of any kind. As long as
no lists are among them, it is enough to look at pairs: texts go with texts, numbers with
numbers, and a mapping with nothing but a missing time (`areOrderly_iff`).

## Main definitions

* `Release.IsLegible`: A record that can be read.
* `Release.HasEarliest`: Releases of which one can be kept.
* `ReleaseIndex.AreOrderly`: Records of which an index can be made.
* `Repository.IsOrderly`: What the first attempt has to be given.
* `Memo.performed`: The memo after several uses.

## Theorems

* `addReferences_iff`: The index taken apart.
* `ofRecords_ok_iff`, `areOrderly_iff`: When records have an index.
* `performAll_attempts`: The uses of an index, whatever its loader comes to.
* `performAll_orderly_iff`: When all uses are served from one attempt.
-/

namespace Annals

namespace Release

section Legible

variable {record : Value} {n : Nat} {r : Release}

/-- A record that can be read: it is about no release, or its text, if it has one, is a text and
    refers to no number with too many digits. -/
def IsLegible (record : Value) : Prop :=
  (ofRecord? record).isSome = true → ∀ v ∈ record.get? "body", v.isTrue = true →
    ∃ s, v = .text s ∧ ∀ digits ∈ PullRequest.mentionedDigits s.toList, digits.length ≤ maxDigits

/-- The references of a record to pull requests, in the order of its text. -/
def references (record : Value) : List (Nat × Release) :=
  match ofRecord? record, textOf record with
  | some r, .ok s =>
    (PullRequest.mentionedDigits s.toList).map fun digits => (Text.decimalValue digits, r)
  | _, _ => []

theorem mem_references : (n, r) ∈ references record ↔ Ships record n r := by
  unfold references Ships
  cases ofRecord? record with
  | none => simp
  | some own =>
      cases textOf record with
      | error f => simp
      | ok s =>
          simp only [List.mem_map, Prod.mk.injEq, Option.some.injEq, Except.ok.injEq,
            exists_eq_left', PullRequest.mentions_iff]
          constructor
          · rintro ⟨digits, hdigits, hn, rfl⟩
            exact ⟨rfl, digits, hdigits, hn⟩
          · rintro ⟨rfl, digits, hdigits, hn⟩
            exact ⟨digits, hdigits, hn, rfl⟩

/-- What is no text counts as an empty one if it counts as false, and otherwise cannot be there. -/
theorem textOf_other {v : Value} (hbody : record.get? "body" = some v) (h : ∀ s, v ≠ .text s) :
    textOf record = if v.isTrue then .error .unsuited else .ok "" := by
  unfold textOf
  rw [hbody]
  cases v with
  | text s => exact absurd rfl (h s)
  | _ => rfl

/-- A record of a release can be read if it has a text in which no number has too many digits. -/
theorem isLegible_iff (hr : ofRecord? record = some r) :
    IsLegible record ↔ ∃ s, textOf record = .ok s ∧
      ∀ digits ∈ PullRequest.mentionedDigits s.toList, digits.length ≤ maxDigits := by
  have hempty : ∀ digits ∈ PullRequest.mentionedDigits "".toList, digits.length ≤ maxDigits :=
    fun digits hd => absurd hd List.not_mem_nil
  unfold IsLegible
  simp only [hr, Option.isSome_some, forall_const]
  cases hbody : record.get? "body" with
  | none =>
      have htext : textOf record = .ok "" := by
        unfold textOf
        rw [hbody]
      exact ⟨fun _ => ⟨"", htext, hempty⟩, fun _ v hv => (by cases hv)⟩
  | some v =>
      -- A body that is no text is read as the empty one if it counts as false, and else it has no
      -- text.
      by_cases hkind : ∃ s, v = .text s
      · rcases hkind with ⟨s, rfl⟩
        have htext : textOf record = .ok s := by
          unfold textOf
          rw [hbody]
        constructor
        · intro h
          refine ⟨s, htext, ?_⟩
          by_cases hs : s = ""
          · rw [hs]
            exact hempty
          · rcases h _ rfl (by simpa [Value.isTrue] using hs) with ⟨t, ht, hshort⟩
            cases ht
            exact hshort
        · rintro ⟨t, ht, hshort⟩ w hw _
          cases htext.symm.trans ht
          cases hw
          exact ⟨s, rfl, hshort⟩
      · rw [textOf_other hbody (not_exists.mp hkind)]
        cases hv : v.isTrue with
        | true =>
            refine ⟨fun h => ?_, fun ⟨s, hs, _⟩ => (by cases hs)⟩
            rcases h v rfl hv with ⟨s, rfl, _⟩
            exact absurd ⟨s, rfl⟩ hkind
        | false =>
            refine ⟨fun _ => ⟨"", rfl, hempty⟩, fun _ w hw htrue => ?_⟩
            cases hw
            rw [hv] at htrue
            cases htrue

end Legible

section Contest

variable {r current best : Release} {releases : List Release} {v w : Value}

/-- The release that is kept of several, which are gone through in their order. -/
def keepAll (o : Option Release) (releases : List Release) : Except RecordFault (Option Release) :=
  releases.foldlM (fun o r => some <$> keep r o) o

/-- One of several releases can be kept, as long as those that are compared have times that can
    be compared. -/
def HasEarliest (releases : List Release) : Prop := ∃ o, keepAll none releases = .ok o

theorem keepAll_cons_ok {o : Option Release} (h : keep r o = .ok best) :
    keepAll o (r :: releases) = keepAll (some best) releases := by
  unfold keepAll
  rw [List.foldlM_cons, h]
  rfl

theorem keepAll_cons_error {o : Option Release} {f : RecordFault} (h : keep r o = .error f) :
    keepAll o (r :: releases) = .error f := by
  unfold keepAll
  rw [List.foldlM_cons, h]
  rfl

/-- A time of publication that is no list: it is missing, or a text, a number, a truth value or a
    mapping. -/
def IsPlain (v : Value) : Prop :=
  v = .null ∨ v.isText = true ∨ v.isNumeric = true ∨ v.isObject = true

/-- Two times of publication of which one may be missing, and which are of one kind that has an
    order. -/
def AreAlike (v w : Value) : Prop :=
  v = .null ∨ w = .null ∨ (v.isText = true ∧ w.isText = true) ∨
    (v.isNumeric = true ∧ w.isNumeric = true)

theorem AreAlike.symm (h : AreAlike v w) : AreAlike w v := by
  rcases h with h | h | ⟨hv, hw⟩ | ⟨hv, hw⟩
  · exact Or.inr (Or.inl h)
  · exact Or.inl h
  · exact Or.inr (Or.inr (Or.inl ⟨hw, hv⟩))
  · exact Or.inr (Or.inr (Or.inr ⟨hw, hv⟩))

/-- Numbers come before or after numbers, and have no place among other values. -/
theorem isSome_isBefore?_numeric (hv : v.isNumeric = true) (w : Value) :
    (v.isBefore? w).isSome = w.isNumeric := by
  have hscalar : v.isBefore? w = v.scalarIsBefore? w := by
    cases v <;> first | rfl | cases hv
  rw [hscalar]
  unfold Value.scalarIsBefore?
  split
  case h_6 =>
    rw [hv]
    cases w.isNumeric with
    | false => rfl
    | true =>
        simp only [Bool.not_true, Bool.or_self, Bool.false_eq_true, if_false]
        split <;> rfl
  all_goals cases hv

/-- A plain time that is not missing can be compared with what it is alike. -/
theorem isSome_isBefore? (hv : IsPlain v) (hsome : v ≠ .null) (w : Value) :
    (v.isBefore? w).isSome = (v.isText && w.isText || v.isNumeric && w.isNumeric) := by
  rcases hv with rfl | hv | hv | hv
  · exact absurd rfl hsome
  · cases v with
    | text s => cases w <;> rfl
    | _ => cases hv
  · have htext : v.isText = false := by cases v <;> first | rfl | cases hv
    rw [isSome_isBefore?_numeric hv, hv, htext]
    rfl
  · cases v with
    | map id entries => cases w <;> rfl
    | _ => cases hv

/-- Two releases that both have a time are told apart by it. -/
theorem isEarlier_timed (hr : r.published ≠ .null) (hcurrent : current.published ≠ .null) :
    r.isEarlier current = match r.published.isBefore? current.published with
      | some answer => .ok answer
      | none => .error .unsuited := by
  unfold isEarlier
  split
  · next heq => exact absurd heq hr
  · next heq _ => exact absurd heq hcurrent
  · rfl

theorem isEarlier_null (hr : r.published = .null) : r.isEarlier current = .ok false := by
  unfold isEarlier
  rw [hr]

theorem isEarlier_of_null (hr : r.published ≠ .null) (hcurrent : current.published = .null) :
    r.isEarlier current = .ok true := by
  unfold isEarlier
  rw [hcurrent]
  split
  · next heq => exact absurd heq hr
  · rfl
  · next _ hother => exact absurd rfl hother

/-- Of two releases with plain times one can be told to be earlier if the times are alike, and
    only then. -/
theorem isEarlier_iff (hr : IsPlain r.published) :
    (∃ answer, r.isEarlier current = .ok answer) ↔ AreAlike r.published current.published := by
  by_cases hown : r.published = .null
  · exact ⟨fun _ => Or.inl hown, fun _ => ⟨_, isEarlier_null hown⟩⟩
  · by_cases hother : current.published = .null
    · exact ⟨fun _ => Or.inr (Or.inl hother), fun _ => ⟨_, isEarlier_of_null hown hother⟩⟩
    · have hsome := isSome_isBefore? hr hown current.published
      rw [isEarlier_timed hown hother]
      unfold AreAlike
      simp only [hown, hother, false_or, ← Bool.and_eq_true, ← Bool.or_eq_true, ← hsome]
      cases r.published.isBefore? current.published <;> simp

/-- What is alike to a time that is not missing is alike to each other. -/
theorem AreAlike.trans {u : Value} (h : AreAlike u v) (hv : v ≠ .null) (h' : AreAlike v w) :
    AreAlike u w := by
  have hkinds : ¬ (v.isText = true ∧ v.isNumeric = true) := by
    cases v <;> simp [Value.isText, Value.isNumeric]
  unfold AreAlike at *
  tauto

/-- Of two releases with plain times one can be kept if the times are alike. -/
theorem keep_iff (hr : IsPlain r.published) :
    (∃ best, keep r (some current) = .ok best) ↔ AreAlike r.published current.published := by
  rw [← isEarlier_iff hr]
  cases h : r.isEarlier current with
  | error f => simp [keep_error h]
  | ok answer => simp [keep_ok h]

/-- The release that is kept of two with plain times: it is one of them, and what its time is
    alike to, both times are alike to. -/
theorem keep_alike (hr : IsPlain r.published) (h : keep r (some current) = .ok best) :
    (best = r ∨ best = current) ∧ ∀ v, AreAlike best.published v →
      AreAlike r.published v ∧ AreAlike current.published v := by
  have halike := (keep_iff hr).mp ⟨best, h⟩
  rcases (isEarlier_iff hr).mpr halike with ⟨answer, hanswer⟩
  cases (keep_ok hanswer).symm.trans h
  -- Between two times that are not missing it does not matter which one is kept: they are of
  -- one kind.
  by_cases hown : r.published = .null
  · -- A release without a time is not taken, and is no hindrance.
    cases (isEarlier_null hown).symm.trans hanswer
    exact ⟨Or.inr rfl, fun v hv => ⟨Or.inl hown, hv⟩⟩
  · by_cases hother : current.published = .null
    · cases (isEarlier_of_null hown hother).symm.trans hanswer
      exact ⟨Or.inl rfl, fun v hv => ⟨hv, Or.inl hother⟩⟩
    · cases answer with
      | true => exact ⟨Or.inl rfl, fun v hv => ⟨hv, halike.symm.trans hown hv⟩⟩
      | false => exact ⟨Or.inr rfl, fun v hv => ⟨halike.trans hother hv, hv⟩⟩

/-- The times of two releases and of those behind them are alike if it is so for the one that
    is kept of the two. -/
theorem pairwise_keep (hr : IsPlain r.published) (h : keep r (some current) = .ok best) :
    ((best :: releases).Pairwise fun r q => AreAlike r.published q.published) ↔
      (current :: r :: releases).Pairwise fun r q => AreAlike r.published q.published := by
  -- What is kept is one of the two, and alike to the same releases as the other.
  rcases keep_alike hr h with ⟨hbest, hothers⟩
  simp only [List.pairwise_cons]
  constructor
  · rintro ⟨hfirst, hrest⟩
    refine ⟨fun q hq => ?_, fun q hq => (hothers _ (hfirst q hq)).1, hrest⟩
    rcases List.mem_cons.mp hq with rfl | hq
    · exact ((keep_iff hr).mp ⟨best, h⟩).symm
    · exact (hothers _ (hfirst q hq)).2
  · rintro ⟨hcurrent, hown, hrest⟩
    refine ⟨fun q hq => ?_, hrest⟩
    rcases hbest with rfl | rfl
    · exact hown q hq
    · exact hcurrent q (List.mem_cons_of_mem _ hq)

/-- Going on from a release that is there, one release can be kept if all times are alike. The
    induction is on the releases that are left. -/
theorem keepAll_iff {o : Option Release}
    (hplain : ∀ r ∈ o.toList ++ releases, IsPlain r.published) :
    (∃ kept, keepAll o releases = .ok kept) ↔
      (o.toList ++ releases).Pairwise fun r q => AreAlike r.published q.published := by
  induction releases generalizing o with
  | nil => cases o <;> simp [keepAll, pure, Except.pure]
  | cons r rest ih =>
      cases o with
      | none =>
          rw [keepAll_cons_ok rfl]
          exact ih hplain
      | some current =>
          have hr : IsPlain r.published := hplain r (by simp)
          cases hkeep : keep r (some current) with
          | error f =>
              rw [keepAll_cons_error hkeep]
              refine ⟨fun ⟨_, h⟩ => (by cases h), fun h => ?_⟩
              have halike := (List.pairwise_cons.mp h).1 r (List.mem_cons_self ..)
              rcases (keep_iff hr).mpr halike.symm with ⟨best, hbest⟩
              cases hkeep.symm.trans hbest
          | ok best =>
              -- The release that is kept is one of the two, and its time is like both of theirs.
              have hplain' : ∀ q ∈ best :: rest, IsPlain q.published := by
                intro q hq
                rcases List.mem_cons.mp hq with rfl | hq
                · rcases (keep_alike hr hkeep).1 with rfl | rfl
                  · exact hr
                  · exact hplain _ (List.mem_cons_self ..)
                · exact hplain q (by simp [hq])
              rw [keepAll_cons_ok hkeep, ih (o := some best) hplain']
              exact pairwise_keep hr hkeep

/-- One of several releases with plain times can be kept if all times are alike. -/
theorem hasEarliest_iff (hplain : ∀ r ∈ releases, IsPlain r.published) :
    HasEarliest releases ↔ releases.Pairwise fun r q => AreAlike r.published q.published :=
  keepAll_iff hplain

/-- A mapping cannot even be compared with itself, but a single release needs no comparison. -/
example : HasEarliest [⟨"v1", .object []⟩] ∧
    ¬ HasEarliest [⟨"v1", .object []⟩, ⟨"v1", .object []⟩] :=
  ⟨⟨_, rfl⟩, fun ⟨_, h⟩ => by cases h⟩

end Contest

end Release

namespace ReleaseIndex

open Release

variable {index : ReleaseIndex} {records : List Value} {refs : List (Nat × Release)}

/-- The index with the releases of several references, one after another. -/
def addReferences (index : ReleaseIndex) (refs : List (Nat × Release)) :
    Except RecordFault ReleaseIndex :=
  refs.foldlM (fun index ref => index.add ref.1 ref.2) index

/-- The releases of those references that are to one pull request. -/
def ofNumber (refs : List (Nat × Release)) (n : Nat) : List Release :=
  (refs.filter (·.1 == n)).map (·.2)

/-- References can be put into an index if it is so for each pull request by itself. The
    induction is on the references; one of them changes what is there for its own pull
    request, and for no other. -/
theorem addReferences_iff : (∃ after, index.addReferences refs = .ok after) ↔
    ∀ n, ∃ o, keepAll (index.find? n) (ofNumber refs n) = .ok o := by
  induction refs generalizing index with
  | nil => exact ⟨fun _ n => ⟨_, rfl⟩, fun _ => ⟨_, rfl⟩⟩
  | cons ref rest ih =>
      rcases ref with ⟨k, r⟩
      have hown : ofNumber ((k, r) :: rest) k = r :: ofNumber rest k := by
        simp [ofNumber]
      have hother {n : Nat} (hn : n ≠ k) : ofNumber ((k, r) :: rest) n = ofNumber rest n := by
        simp [ofNumber, Ne.symm hn]
      rcases add_keep index k r with ⟨hfails, hkeeps⟩
      -- Only the releases of `k` have one more, and only what is there for `k` changes.
      unfold addReferences
      rw [List.foldlM_cons]
      cases hkeep : keep r (index.find? k) with
      | error f =>
          rw [hfails f hkeep]
          refine ⟨fun ⟨_, h⟩ => (by cases h), fun h => ?_⟩
          rcases h k with ⟨o, ho⟩
          rw [hown, keepAll_cons_error hkeep] at ho
          cases ho
      | ok best =>
          rcases hkeeps best hkeep with ⟨after, hafter, hfound⟩
          rw [hafter, ok_bind]
          refine ih.trans (forall_congr' fun n => ?_)
          rw [hfound]
          by_cases hn : n = k
          · rw [if_pos hn, hn, hown, keepAll_cons_ok hkeep]
          · rw [if_neg hn, hother hn]

/-- Digits that are not too many are put in by the number that they make. -/
theorem addAll_short {r : Release} {digits : List (List Char)}
    (h : ∀ ds ∈ digits, ds.length ≤ maxDigits) : index.addAll r digits
      = index.addReferences (digits.map fun ds => (Text.decimalValue ds, r)) := by
  unfold addAll addReferences
  induction digits generalizing index with
  | nil => rfl
  | cons ds rest ih =>
      rw [List.map_cons, List.foldlM_cons, List.foldlM_cons,
        PullRequest.number_short (h ds (List.mem_cons_self ..))]
      change index.add (Text.decimalValue ds) r >>= _ = _
      exact congrArg _ (funext fun next => ih fun ds hds => h ds (List.mem_cons_of_mem _ hds))

/-- A record that can be read is put in by its references. -/
theorem addRecord_legible {record : Value} (h : IsLegible record) :
    index.addRecord record = index.addReferences (references record) := by
  unfold addRecord references
  cases hr : ofRecord? record with
  | none => rfl
  | some r =>
      rcases (isLegible_iff hr).mp h with ⟨s, hs, hshort⟩
      simp only [hs]
      exact addAll_short hshort

/-- A record that cannot be read is put into no index. -/
theorem addRecord_illegible {record : Value} (h : ¬ IsLegible record) (index : ReleaseIndex) :
    ∃ f, index.addRecord record = .error f := by
  unfold addRecord
  cases hr : ofRecord? record with
  | none => exact absurd (fun hsome => by rw [hr] at hsome; cases hsome) h
  | some r =>
      cases hs : textOf record with
      | error f => exact ⟨f, rfl⟩
      | ok s =>
          -- The text can be read, so a number in it is what cannot.
          have hlong : ∃ ds ∈ PullRequest.mentionedDigits s.toList, ¬ ds.length ≤ maxDigits := by
            by_contra hnone
            push Not at hnone
            exact h ((isLegible_iff hr).mpr ⟨s, hs, hnone⟩)
          rcases hlong with ⟨ds, hds, hlong⟩
          refine foldlM_fails hds (fun index => ⟨.longNumber ⟨ds.length⟩, ?_⟩) index
          rw [PullRequest.number, if_neg hlong]
          rfl

/-- Records that can be read make an index by all of their references. -/
theorem foldlM_addRecord_legible (h : ∀ record ∈ records, IsLegible record) :
    records.foldlM addRecord index = index.addReferences (records.flatMap references) := by
  induction records generalizing index with
  | nil => rfl
  | cons record rest ih =>
      rw [List.foldlM_cons, addRecord_legible (h record (List.mem_cons_self ..)),
        List.flatMap_cons]
      unfold addReferences
      rw [List.foldlM_append]
      exact congrArg _ (funext fun next => ih fun other ho => h other (List.mem_cons_of_mem _ ho))

/-- Records of which an index can be made: each of them can be read, and for every pull request
    one of the releases that refer to it can be kept. -/
structure AreOrderly (records : List Value) : Prop where
  legible : ∀ record ∈ records, IsLegible record
  earliest : ∀ n, HasEarliest (ofNumber (records.flatMap references) n)

/-- Records have an index if they are orderly, and only then. -/
theorem ofRecords_ok_iff : (∃ index, ofRecords records = .ok index) ↔ AreOrderly records := by
  by_cases h : ∀ record ∈ records, IsLegible record
  · rw [ofRecords, foldlM_addRecord_legible h, addReferences_iff]
    exact ⟨fun hall => ⟨h, hall⟩, fun horderly => horderly.earliest⟩
  · -- One record that cannot be read is enough, whatever was put in before it.
    refine ⟨?_, fun horderly => absurd horderly.legible h⟩
    rintro ⟨index, hindex⟩
    push Not at h
    rcases h with ⟨record, hrecord, hillegible⟩
    rcases foldlM_fails hrecord (addRecord_illegible hillegible) [] with ⟨f, hf⟩
    cases hf.symm.trans hindex

/-- Records whose times of publication are no lists are orderly if they can be read and the times
    of the releases that refer to one pull request are all alike. -/
theorem areOrderly_iff
    (hplain : ∀ record ∈ records, ∀ v ∈ record.get? "published_at", IsPlain v) :
    AreOrderly records ↔ (∀ record ∈ records, IsLegible record) ∧
      ∀ n, (ofNumber (records.flatMap references) n).Pairwise fun r q =>
        AreAlike r.published q.published := by
  -- The times of the releases are those of their records, or there is none.
  have htimes (n : Nat) : ∀ r ∈ ofNumber (records.flatMap references) n, IsPlain r.published := by
    intro r hr
    rcases List.mem_map.mp hr with ⟨⟨k, _⟩, href, rfl⟩
    rcases List.mem_flatMap.mp (List.mem_filter.mp href).1 with ⟨record, hrecord, hmem⟩
    rw [published_eq (mem_references.mp hmem).1]
    cases hp : record.get? "published_at" with
    | none => exact Or.inl rfl
    | some v => exact hplain record hrecord v hp
  constructor
  · exact fun h => ⟨h.legible, fun n => (hasEarliest_iff (htimes n)).mp (h.earliest n)⟩
  · exact fun h => ⟨h.1, fun n => (hasEarliest_iff (htimes n)).mpr (h.2 n)⟩

end ReleaseIndex

/-- What the replies to the requests for the first use have to be like: no page is nested too
    deep, and if all pages can be read, the records on them are orderly. -/
structure Repository.IsOrderly (r : Repository) (remote : Remote) : Prop where
  shallow : ∀ i < (r.fetch remote 0).requests.length, (remote i).value ≠ .error .nested
  records : (∀ i < (r.fetch remote 0).requests.length, ∃ v, (remote i).value = .ok v) →
    ReleaseIndex.AreOrderly ((List.range (r.fetch remote 0).requests.length).flatMap
      fun i => (remote i).page)

namespace Memo

variable {loader : Loader} {m : Memo} {r : Repository} {remote : Remote}

/-- The memo after several uses of an index. -/
def performed (loader : Loader) (uses : List Use) (m : Memo) : Memo :=
  uses.foldl (fun m use => (m.perform loader use).2) m

/-- What making an index comes to is either remembered or a fault of the records. -/
theorem result_cases (result : Except LoadFault ReleaseIndex) :
    (∃ outcome : Except String ReleaseIndex, result = outcome.mapError .reference) ∨
      ∃ f, result = .error (.record f) := by
  match result with
  | .ok index => exact Or.inl ⟨.ok index, rfl⟩
  | .error (.reference message) => exact Or.inl ⟨.error message, rfl⟩
  | .error (.record f) => exact Or.inr ⟨f, rfl⟩

/-- A fault of the records leaves nothing behind but the requests that were made. -/
theorem perform_fault {f : RecordFault} (hknown : m.known = none)
    (h : (loader m.requests.length).result = .error (.record f)) (use : Use) :
    m.perform loader use = (.error (.record f),
      ⟨none, m.loads + 1, m.requests ++ (loader m.requests.length).requests⟩) := by
  have hload : m.load loader = (.error (.record f),
      ⟨none, m.loads + 1, m.requests ++ (loader m.requests.length).requests⟩) := by
    unfold load
    rw [hknown]
    simp only [h]
    rfl
  rw [perform_eq, hload]
  rfl

theorem performed_known {outcome : Except String ReleaseIndex} (h : m.known = some outcome)
    (uses : List Use) : performed loader uses m = m := by
  induction uses with
  | nil => rfl
  | cons use rest ih =>
      have hstays : (m.perform loader use).2 = m := by
        rw [perform_eq, load_of_known loader h]
      unfold performed at ih ⊢
      rw [List.foldl_cons, hstays, ih]

/-- With an outcome that is remembered there is no attempt after the first one. -/
theorem loads_of_outcome {outcome : Except String ReleaseIndex} (hknown : m.known = none)
    (h : (loader m.requests.length).result = outcome.mapError .reference) (use : Use)
    (rest : List Use) : (performed loader (use :: rest) m).loads = m.loads + 1 := by
  have hafter := (load_of_owes (Or.inr ⟨hknown, h⟩)).2
  have hloads : (m.load loader).2.loads = m.loads + 1 := by
    unfold load
    rw [hknown]
  have hfirst : performed loader (use :: rest) m = performed loader rest (m.load loader).2 := by
    unfold performed
    rw [List.foldl_cons, perform_eq]
  rw [hfirst, performed_known hafter, hloads]

/-- The uses of an index of which nothing is remembered yet. The first ones may fail for
    faults of the records, each of them with an attempt of its own; all others answer from
    what one more attempt comes to. The induction is on the uses. -/
theorem performAll_attempts (loader : Loader) (uses : List Use) (hknown : m.known = none) :
    ∃ (failed others : List Use) (faults : List RecordFault)
      (outcome : Except String ReleaseIndex),
      uses = failed ++ others ∧ faults.length = failed.length ∧
      (performAll loader uses m).map Prod.fst
        = (faults.map fun f => .error (.record f)) ++
          others.map (fun use => (outcome.mapError .reference).map use.answer) ∧
      (performed loader uses m).loads = m.loads + failed.length + min 1 others.length := by
  induction uses generalizing m with
  | nil => exact ⟨[], [], [], .error "", rfl, rfl, rfl, rfl⟩
  | cons use rest ih =>
      rcases result_cases (loader m.requests.length).result with ⟨outcome, hresult⟩ | ⟨f, hresult⟩
      · -- The outcome is remembered, so this is the last attempt.
        rcases load_of_owes (Or.inr ⟨hknown, hresult⟩) with ⟨hload, hafter⟩
        refine ⟨[], use :: rest, [], outcome, rfl, rfl, ?_, ?_⟩
        · simp only [performAll, perform_eq, hload, performAll_known hafter, List.map_cons,
            List.map_map]
          rfl
        · rw [loads_of_outcome hknown hresult, List.length_nil, List.length_cons]
          omega
      · -- The memo remembers nothing still, so the other uses are as good as the first ones.
        have hstep := perform_fault hknown hresult use
        have hnext := ih (m := ⟨none, m.loads + 1,
          m.requests ++ (loader m.requests.length).requests⟩) rfl
        rcases hnext with ⟨failed, others, faults, outcome, rfl, hlength, hanswers, hloads⟩
        refine ⟨use :: failed, others, f :: faults, outcome, rfl, ?_, ?_, ?_⟩
        · exact congrArg (· + 1) hlength
        · simp only [performAll, hstep, List.map_cons, hanswers, List.cons_append]
        · unfold performed at hloads ⊢
          rw [List.foldl_cons, hstep, hloads]
          change m.loads + 1 + failed.length + _ = m.loads + (failed.length + 1) + _
          omega

/-- The first attempt comes to an outcome that is remembered if the replies are orderly, and only
    then. -/
theorem ofRepository_yields_iff :
    (∃ outcome, (Loader.ofRepository r remote).Yields outcome) ↔ r.IsOrderly remote := by
  constructor
  · rintro ⟨outcome, hyields⟩
    unfold Loader.Yields Loader.ofRepository at hyields
    refine ⟨fun i hi hnested => ?_, fun hall => ?_⟩
    · have hresult := (r.fetch_paged remote).fails i hi .nested (by rwa [Nat.zero_add])
      simp only [hresult] at hyields
      cases outcome <;> cases hyields
    · have hresult := (r.fetch_paged remote).reads (by simpa only [Nat.zero_add] using hall)
      simp only [Nat.zero_add] at hresult
      simp only [hresult] at hyields
      rw [← ReleaseIndex.ofRecords_ok_iff]
      cases hrecords : ReleaseIndex.ofRecords
          ((List.range (r.fetch remote 0).requests.length).flatMap fun i => (remote i).page) with
      | ok index => exact ⟨index, rfl⟩
      | error f =>
          rw [hrecords] at hyields
          cases outcome <;> cases hyields
  · intro horderly
    by_cases hall : ∀ i < (r.fetch remote 0).requests.length, ∃ v, (remote i).value = .ok v
    · rcases ReleaseIndex.ofRecords_ok_iff.mpr (horderly.records hall) with ⟨index, hindex⟩
      have hresult := (r.fetch_paged remote).reads (by simpa only [Nat.zero_add] using hall)
      simp only [Nat.zero_add] at hresult
      exact ⟨_, ofRepository_reads hresult hindex⟩
    · -- A request failed, and not for a page that is nested too deep.
      push Not at hall
      rcases hall with ⟨i, hi, hnone⟩
      cases hv : (remote i).value with
      | error f => exact ⟨_, ofRepository_broken horderly.shallow hi hv⟩
      | ok v => exact absurd hv (hnone v)

/-- All uses of an index of the releases of a repository answer, or fail for want of the data, with
    a single attempt to make the index, if the replies are orderly, and only then. Whatever
    the replies are, the uses that fail otherwise come first, with an attempt for each of
    them, and all others answer from one attempt. -/
theorem performAll_orderly_iff (r : Repository) (remote : Remote) (first : Use)
    (later : List Use) :
    let loader := Loader.ofRepository r remote
    let session := performAll loader (first :: later) start
    ((∀ use ∈ session, ∀ f, use.1 ≠ .error (.record f)) ∧
        (performed loader (first :: later) start).loads = 1 ↔ r.IsOrderly remote) ∧
      ∃ (failed others : List Use) (faults : List RecordFault)
        (outcome : Except String ReleaseIndex),
        first :: later = failed ++ others ∧ faults.length = failed.length ∧
        session.map Prod.fst = (faults.map fun f => .error (.record f)) ++
          others.map (fun use => (outcome.mapError .reference).map use.answer) ∧
        (performed loader (first :: later) start).loads = failed.length + min 1 others.length := by
  intro loader session
  refine ⟨⟨fun ⟨hregular, _⟩ => ?_, fun horderly => ?_⟩, ?_⟩
  · rw [← ofRepository_yields_iff]
    rcases result_cases (loader 0).result with ⟨outcome, hresult⟩ | ⟨f, hresult⟩
    · exact ⟨outcome, hresult⟩
    · -- The first attempt would fail on a record, which no use does by assumption.
      have hfirst := perform_fault (m := start) rfl hresult first
      refine absurd ?_ (hregular (.error (.record f), (loader 0).requests) ?_ f)
      · rfl
      · simp only [session, performAll, hfirst]
        exact List.mem_cons_self ..
  · rcases ofRepository_yields_iff.mpr horderly with ⟨outcome, hyields⟩
    refine ⟨fun use huse f => ?_, loads_of_outcome (m := start) rfl hyields first later⟩
    have hanswer : ∃ own : Use, use.1 = (outcome.mapError .reference).map own.answer := by
      simp only [session, loader, performAll_yields hyields] at huse
      rcases List.mem_cons.mp huse with rfl | huse
      · exact ⟨first, rfl⟩
      · rcases List.mem_map.mp huse with ⟨own, _, rfl⟩
        exact ⟨own, rfl⟩
    rcases hanswer with ⟨own, hown⟩
    rw [hown]
    cases outcome <;> exact fun h => (by cases h)
  · rcases performAll_attempts (m := start) loader (first :: later) rfl
      with ⟨failed, others, faults, outcome, hsplit, hlength, hanswers, hloads⟩
    exact ⟨failed, others, faults, outcome, hsplit, hlength, hanswers,
      hloads.trans (by rw [show start.loads = 0 from rfl, Nat.zero_add])⟩

/-- A record whose text is a number: both uses fail for it, each with an attempt of its own. -/
theorem performAll_unsuited :
    let remote : Remote := fun _ =>
      .response 200 "[\x7b\"tag_name\": \"v1\", \"body\": 5\x7d]" none
    let loader := Loader.ofRepository ⟨"o/n", "t", 50, 30⟩ remote
    let session := performAll loader [.load, .load] start
    (∀ use ∈ session, use.1 = .error (.record .unsuited)) ∧ session.length = 2 ∧
      (performed loader [.load, .load] start).loads = 2 := by
  intro remote loader session
  have hfaults : (session.all fun use => use.1 matches .error (.record .unsuited)) = true := by
    decide +kernel
  refine ⟨fun use huse => ?_, by decide +kernel, by decide +kernel⟩
  have hfault := List.all_eq_true.mp hfaults use huse
  split at hfault
  · assumption
  · cases hfault

end Memo

end Annals
