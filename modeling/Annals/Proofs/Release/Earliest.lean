import Mathlib.Data.List.Forall2
import Mathlib.Data.String.Basic
import Mathlib.Order.WithBot
import Annals.Proofs.Release.Session
import Annals.Proofs.Text.Lists
import Annals.Proofs.Text.Pieces

/-!
# The Earliest Release Wins

Which release an index has for a pull request, in terms of the records alone.

The index is filled by going through the records, and for each record through the
references in its text. A release is put in if there is none yet, or if it was published
before the one that is there. Said without the order in which this happens: the release
is that of the first among the records with the earliest time of publication, of all
those that refer to the pull request. `Tells` is the invariant, and `tells_addRecord` is
one record.

Times are compared as the texts that they are. A release without a time comes after all
others (`Release.time`), so it is only taken where no other release has a time.

The records are as they come from JSON, in which no integer has more digits than are
read, so every tag has a text.

## Main definitions

* `PullRequest.Mentions`: A text refers to a pull request.
* `Release.keep`: The one of two releases that is kept.
* `Release.Ships`: The text of a release refers to a pull request.
* `Release.Earliest`: The release of the first record among the earliest.
* `ReleaseIndex.Tells`: An index tells the earliest releases.

## Theorems

* `mentions_iff`: The references that are found in a text.
* `add_keep`: One more release for a pull request.
* `tells_addRecord`: One more record.
* `addRecord_again`: A record that was there before.
* `ofRecords_earliest`: The index of a list of records.
-/

namespace Annals

namespace PullRequest

/-- What stands before the number in a reference. -/
def marks : List (List Char) := ["/pull/".toList, ['#']]

/-- A text refers to a pull request: behind a mark there is its number, with all the digits
    that stand there, and no part of a word goes on behind them. -/
def Mentions (cs : List Char) (n : Nat) : Prop :=
  ∃ before mark digits after, cs = before ++ (mark ++ (digits ++ after)) ∧ mark ∈ marks ∧
    digits ≠ [] ∧ (∀ c ∈ digits, Text.isDigit c = true) ∧
    (∀ c ∈ after.head?, Text.isDigit c = false ∧ Text.isWordChar c = false) ∧
    Text.decimalValue digits = n

/-- Digits in front of something else are found again. -/
theorem takeWhile_digits {digits after : List Char} (h : ∀ c ∈ digits, Text.isDigit c = true)
    (hafter : ∀ c ∈ after.head?, Text.isDigit c = false) :
    (digits ++ after).takeWhile Text.isDigit = digits ∧
      (digits ++ after).dropWhile Text.isDigit = after := by
  have hnone : after.takeWhile Text.isDigit = [] ∧ after.dropWhile Text.isDigit = after := by
    cases after with
    | nil => exact ⟨rfl, rfl⟩
    | cons c after => simp [hafter c rfl]
  rw [List.takeWhile_append_of_pos h, List.dropWhile_append_of_pos h, hnone.1, hnone.2,
    List.append_nil]
  exact ⟨rfl, rfl⟩

/-- The text behind a mark. -/
theorem behind_iff {cs rest : List Char} :
    (Text.after? "/pull/".toList cs).or (Text.after? ['#'] cs) = some rest ↔
      ∃ mark ∈ marks, cs = mark ++ rest := by
  rw [Option.or_eq_some_iff, Text.after?_iff, Text.after?_iff]
  constructor
  · rintro (h | ⟨_, h⟩)
    · exact ⟨_, by simp [marks], h⟩
    · exact ⟨_, by simp [marks], h⟩
  · rintro ⟨mark, hmark, rfl⟩
    rcases List.mem_cons.mp hmark with rfl | hmark
    · exact Or.inl rfl
    · rw [List.mem_singleton.mp hmark]
      exact Or.inr ⟨rfl, rfl⟩

/-- The reference with which a text begins. -/
theorem mention?_iff {cs digits : List Char} :
    mention? cs = some digits ↔ ∃ mark ∈ marks, ∃ after, cs = mark ++ (digits ++ after) ∧
      digits ≠ [] ∧ (∀ c ∈ digits, Text.isDigit c = true) ∧
      ∀ c ∈ after.head?, Text.isDigit c = false ∧ Text.isWordChar c = false := by
  unfold mention?
  constructor
  · intro h
    split at h
    · cases h
    · next rest hbehind =>
        rcases behind_iff.mp hbehind with ⟨mark, hmark, hcs⟩
        simp only [] at h
        -- The digits end where something else begins, which must be no part of a word.
        split at h
        · cases h
        · next hfit =>
            cases h
            rw [Bool.or_eq_true, not_or, List.isEmpty_iff, Option.any_eq_true] at hfit
            refine ⟨mark, hmark, rest.dropWhile Text.isDigit, ?_, hfit.1,
              List.all_eq_true.mp List.all_takeWhile, fun c hc => ⟨?_, ?_⟩⟩
            · rw [List.takeWhile_append_dropWhile, hcs]
            · have hhead := List.head?_dropWhile_not Text.isDigit rest
              rw [Option.mem_def.mp hc] at hhead
              simpa using hhead
            · exact Bool.eq_false_iff.mpr fun hword => hfit.2 ⟨c, hc, hword⟩
  · rintro ⟨mark, hmark, after, hcs, hsome, hdigits, hafter⟩
    rcases takeWhile_digits hdigits (fun c hc => (hafter c hc).1) with ⟨htake, hdrop⟩
    have hend : after.head?.any Text.isWordChar = false := by
      cases hc : after.head? with
      | none => rfl
      | some c => exact (hafter c hc).2
    rw [behind_iff.mpr ⟨mark, hmark, hcs⟩]
    simp only [htake, hdrop, hend, Bool.or_false]
    rw [if_neg (by simpa using hsome)]

theorem mem_mentionedDigits {cs digits : List Char} :
    digits ∈ mentionedDigits cs ↔ ∃ before rest, cs = before ++ rest ∧ mention? rest = some digits := by
  induction cs with
  | nil =>
      refine ⟨fun h => absurd h List.not_mem_nil, ?_⟩
      rintro ⟨before, rest, hcs, hrest⟩
      rw [(List.append_eq_nil_iff.mp hcs.symm).2] at hrest
      cases hrest
  | cons c cs ih =>
      rw [mentionedDigits, List.mem_append, Option.mem_toList, ih]
      constructor
      · rintro (h | ⟨before, rest, rfl, h⟩)
        · exact ⟨[], c :: cs, rfl, h⟩
        · exact ⟨c :: before, rest, rfl, h⟩
      · rintro ⟨before, rest, hcs, h⟩
        cases before with
        | nil =>
            rw [List.nil_append] at hcs
            exact Or.inl (hcs ▸ h)
        | cons d before =>
            exact Or.inr ⟨before, rest, (List.cons.inj hcs).2, h⟩

theorem number_short {ds : List Char} (h : ds.length ≤ maxDigits) :
    number ds = .ok (Text.decimalValue ds) := if_pos h

theorem number_value {ds : List Char} {n : Nat} (h : number ds = .ok n) :
    n = Text.decimalValue ds := by
  unfold number at h
  split at h
  · cases h
    rfl
  · cases h

/-- The references that are found in a text are those that it has. -/
theorem mentions_iff {cs : List Char} {n : Nat} :
    Mentions cs n ↔ ∃ digits ∈ mentionedDigits cs, Text.decimalValue digits = n := by
  constructor
  · rintro ⟨before, mark, digits, after, hcs, hmark, hsome, hdigits, hafter, hn⟩
    refine ⟨digits, mem_mentionedDigits.mpr ⟨before, _, hcs, ?_⟩, hn⟩
    exact mention?_iff.mpr ⟨mark, hmark, after, rfl, hsome, hdigits, hafter⟩
  · rintro ⟨digits, hmem, hn⟩
    rcases mem_mentionedDigits.mp hmem with ⟨before, rest, hcs, hrest⟩
    rcases mention?_iff.mp hrest with ⟨mark, hmark, after, rfl, hsome, hdigits, hafter⟩
    exact ⟨before, mark, digits, after, hcs, hmark, hsome, hdigits, hafter, hn⟩

end PullRequest

namespace Release

/-- The time of publication of a release. No time is later than all times. -/
def time (r : Release) : WithTop String :=
  match r.published with
  | .text s => (s : WithTop String)
  | _ => ⊤

theorem isEarlier_time {r current : Release} (h : IsDated r.published)
    (hcurrent : IsDated current.published) :
    r.isEarlier current = .ok (decide (r.time < current.time)) := by
  unfold isEarlier time
  cases hr : r.published with
  -- A release that is not published is no earlier than any other.
  | null =>
      have hnot : ¬ (⊤ : WithTop String) < match current.published with
        | .text s => (s : WithTop String)
        | _ => ⊤ := not_top_lt
      simp [hnot]
  | text s =>
      cases hc : current.published with
      | null => simp [WithTop.coe_lt_top]
      | text t => simp [Value.isBefore?, Value.scalarIsBefore?, WithTop.coe_lt_coe]
      | _ => rw [hc] at hcurrent; exact hcurrent.elim
  | _ => rw [hr] at h; exact h.elim

/-- The one of two releases that is kept, if there are two. -/
def keep (r : Release) : Option Release → Except RecordFault Release
  | none => .ok r
  | some current => do return if ← r.isEarlier current then r else current

theorem keep_ok {r current : Release} {answer : Bool} (h : r.isEarlier current = .ok answer) :
    keep r (some current) = .ok (if answer then r else current) := by
  simp only [keep, h]
  rfl

theorem keep_error {r current : Release} {f : RecordFault} (h : r.isEarlier current = .error f) :
    keep r (some current) = .error f := by
  simp only [keep, h]
  rfl

/-- A record of a release whose text refers to a pull request. -/
def Ships (record : Value) (n : Nat) (r : Release) : Prop :=
  ofRecord? record = some r ∧ ∃ s, textOf record = .ok s ∧ PullRequest.Mentions s.toList n

/-- The release of the first record among those that refer to a pull request and have the
    earliest time of publication of them. -/
def Earliest (records : List Value) (n : Nat) (r : Release) : Prop :=
  ∃ before record after, records = before ++ record :: after ∧ Ships record n r ∧
    (∀ other ∈ before, ∀ q, Ships other n q → r.time < q.time) ∧
    ∀ other ∈ after, ∀ q, Ships other n q → r.time ≤ q.time

/-- The release of a record that was published before all others that refer to a pull
    request. -/
def Alone (records : List Value) (n : Nat) (r : Release) : Prop :=
  ∃ before record after, records = before ++ record :: after ∧ Ships record n r ∧
    ∀ other ∈ before ++ after, ∀ q, Ships other n q → r.time < q.time

theorem Ships.unique {record : Value} {n m : Nat} {r q : Release} (h : Ships record n r)
    (hq : Ships record m q) : r = q :=
  Option.some.inj (h.1.symm.trans hq.1)

theorem Earliest.ships {records : List Value} {n : Nat} {r : Release}
    (h : Earliest records n r) : ∃ record ∈ records, Ships record n r := by
  rcases h with ⟨before, record, after, rfl, hown, _, _⟩
  exact ⟨record, by simp, hown⟩

/-- No release is earlier than the earliest one. -/
theorem Earliest.least {records : List Value} {n : Nat} {r : Release}
    (h : Earliest records n r) {record : Value} (hrecord : record ∈ records) {q : Release}
    (hq : Ships record n q) : r.time ≤ q.time := by
  rcases h with ⟨before, own, after, rfl, hown, hbefore, hafter⟩
  rcases List.mem_append.mp hrecord with hmem | hmem
  · exact (hbefore record hmem q hq).le
  · rcases List.mem_cons.mp hmem with rfl | hmem
    · rw [hown.unique hq]
    · exact hafter record hmem q hq

/-- The earliest release after one more record is the one of this record, if it is earlier
    than all before, or the one from before. -/
theorem earliest_append {records : List Value} {record : Value} {n : Nat} {r : Release} :
    Earliest (records ++ [record]) n r ↔
      (Ships record n r ∧ ∀ other ∈ records, ∀ q, Ships other n q → r.time < q.time) ∨
        (Earliest records n r ∧ ∀ q, Ships record n q → r.time ≤ q.time) := by
  constructor
  · rintro ⟨before, own, after, hrecords, hown, hbefore, hafter⟩
    -- The earliest record is the new one if nothing is behind it, and one of those before else.
    rcases List.eq_nil_or_concat after with rfl | ⟨after, last, rfl⟩
    · rcases List.append_inj' hrecords rfl with ⟨rfl, hlast⟩
      cases hlast
      exact Or.inl ⟨hown, hbefore⟩
    · rw [List.concat_eq_append, ← List.cons_append, ← List.append_assoc] at hrecords
      rw [List.concat_eq_append] at hafter
      rcases List.append_inj' hrecords rfl with ⟨rfl, hlast⟩
      cases hlast
      refine Or.inr ⟨⟨before, own, after, rfl, hown, hbefore, fun other hother => ?_⟩, ?_⟩
      · exact hafter other (List.mem_append_left _ hother)
      · exact hafter record (List.mem_append_right _ (List.mem_singleton_self _))
  · rintro (⟨hown, hall⟩ | ⟨⟨before, own, after, rfl, hown, hbefore, hafter⟩, hlast⟩)
    · exact ⟨records, record, [], rfl, hown, hall, fun other h => absurd h List.not_mem_nil⟩
    · refine ⟨before, own, after ++ [record], by simp, hown, hbefore, fun other hother q hq => ?_⟩
      rcases List.mem_append.mp hother with hother | hother
      · exact hafter other hother q hq
      · rw [List.mem_singleton.mp hother] at hq
        exact hlast q hq

/-- A pull request has one earliest release at most. The induction is on the records from the
    last one on, which is the only one that decides between it and those before. -/
theorem Earliest.unique {records : List Value} {n : Nat} {r q : Release}
    (hr : Earliest records n r) (hq : Earliest records n q) : r = q := by
  induction records using List.reverseRecOn with
  | nil =>
      rcases hr.ships with ⟨record, hrecord, _⟩
      exact absurd hrecord List.not_mem_nil
  | append_singleton records record ih =>
      -- The last record has the earliest release, or those before it have one that is as early.
      rcases earliest_append.mp hr with ⟨hown, hall⟩ | ⟨hr, hle⟩
      · rcases earliest_append.mp hq with ⟨hother, _⟩ | ⟨hq, hle⟩
        · exact hown.unique hother
        · rcases hq.ships with ⟨other, hother, hships⟩
          exact absurd (hall other hother q hships) (hle r hown).not_gt
      · rcases earliest_append.mp hq with ⟨hown, hall⟩ | ⟨hq, _⟩
        · rcases hr.ships with ⟨other, hother, hships⟩
          exact absurd (hall other hother r hships) (hle q hown).not_gt
        · exact ih hr hq

theorem Alone.earliest {records : List Value} {n : Nat} {r : Release} (h : Alone records n r) :
    Earliest records n r := by
  rcases h with ⟨before, record, after, hrecords, hown, hall⟩
  refine ⟨before, record, after, hrecords, hown, fun other hother => ?_, fun other hother q hq => ?_⟩
  · exact hall other (List.mem_append_left _ hother)
  · exact (hall other (List.mem_append_right _ hother) q hq).le

/-- What is earlier than all others is so in any order. -/
theorem Alone.perm {records others : List Value} {n : Nat} {r : Release} (h : Alone records n r)
    (hperm : records.Perm others) : Alone others n r := by
  rcases h with ⟨before, record, after, rfl, hown, hall⟩
  have hmem : record ∈ others := hperm.subset (by simp)
  rcases List.append_of_mem hmem with ⟨front, back, rfl⟩
  have hrest : (before ++ after).Perm (front ++ back) :=
    (List.perm_middle.symm.trans (hperm.trans List.perm_middle)).cons_inv
  exact ⟨front, record, back, rfl, hown, fun other hother => hall other (hrest.symm.subset hother)⟩

/-- Records of the same releases that refer to the same pull requests, however often. -/
def SaysSame (record other : Value) : Prop := ∀ n r, Ships record n r ↔ Ships other n r

/-- What a record says, one of those with which it stands says too. -/
theorem ships_of_saysSame {records others : List Value} (h : List.Forall₂ SaysSame records others)
    {other : Value} (hother : other ∈ others) {n : Nat} {r : Release} (hr : Ships other n r) :
    ∃ record ∈ records, Ships record n r := by
  rcases List.forall₂_iff_get.mp h with ⟨hlength, hget⟩
  rcases List.mem_iff_get.mp hother with ⟨i, rfl⟩
  have hi : i.1 < records.length := by
    rw [hlength]
    exact i.2
  exact ⟨_, List.get_mem records ⟨i.1, hi⟩, (hget i.1 hi i.2 n r).mpr hr⟩

/-- What says the same has the same earliest release. -/
theorem Earliest.saysSame {records others : List Value} {n : Nat} {r : Release}
    (h : Earliest records n r) (hsame : List.Forall₂ SaysSame records others) :
    Earliest others n r := by
  rcases h with ⟨before, record, after, rfl, hown, hbefore, hafter⟩
  have hback : List.Forall₂ SaysSame others (before ++ record :: after) :=
    (hsame.imp fun a b h n r => (h n r).symm).flip
  -- The other list is cut where the first one has the record of the release.
  have hfront := List.forall₂_take_append others before (record :: after) hback
  have hrest := List.forall₂_drop_append others before (record :: after) hback
  rcases List.forall₂_cons_right_iff.mp hrest with ⟨own, rest, hsameOwn, hsameRest, heq⟩
  refine ⟨others.take before.length, own, rest, ?_, (hsameOwn n r).mpr hown,
    fun other hother q hq => ?_, fun other hother q hq => ?_⟩
  · rw [← heq, List.take_append_drop]
  · rcases ships_of_saysSame (hfront.imp fun a b h n r => (h n r).symm).flip hother hq
      with ⟨same, hsame, hq⟩
    exact hbefore same hsame q hq
  · rcases ships_of_saysSame (hsameRest.imp fun a b h n r => (h n r).symm).flip hother hq
      with ⟨same, hsame, hq⟩
    exact hafter same hsame q hq

end Release

namespace ReleaseIndex

open Release

/-- The release that is kept, if there may be one already. -/
def kept (r : Release) : Option Release → Release
  | none => r
  | some current => if r.time < current.time then r else current

theorem kept_some (r current : Release) :
    kept r (some current) = if r.time < current.time then r else current := rfl

theorem kept_kept (r : Release) (o : Option Release) : kept r (some (kept r o)) = kept r o := by
  cases o with
  | none => exact if_neg (lt_irrefl _)
  | some current =>
      rw [kept_some, kept_some]
      by_cases h : r.time < current.time
      · rw [if_pos h, if_neg (lt_irrefl _)]
      · rw [if_neg h, if_neg h]

/-- Releases that have a place in order can always be compared. -/
theorem keep_dated {r : Release} {o : Option Release} (hr : Release.IsDated r.published)
    (ho : ∀ current ∈ o, Release.IsDated current.published) : keep r o = .ok (kept r o) := by
  cases o with
  | none => rfl
  | some current =>
      rw [keep_ok (isEarlier_time hr (ho current rfl)), kept_some]
      by_cases h : r.time < current.time <;> simp [h]

/-- A release is put in if one of it and the one that is there can be kept; and this is what
    is found then. -/
theorem add_keep (index : ReleaseIndex) (n : Nat) (r : Release) :
    (∀ f, keep r (index.find? n) = .error f → index.add n r = .error f) ∧
      ∀ best, keep r (index.find? n) = .ok best → ∃ after, index.add n r = .ok after ∧
        ∀ m, after.find? m = if m = n then some best else index.find? m := by
  unfold find?
  induction index with
  | nil =>
      refine ⟨fun f h => (by cases h), fun best h => ⟨_, rfl, fun m => ?_⟩⟩
      cases h
      by_cases hm : m = n
      · simp [hm]
      · simp only [List.lookup_cons, beq_eq_false_iff_ne.mpr hm, List.lookup_nil, if_neg hm]
  | cons entry rest ih =>
      rcases entry with ⟨k, current⟩
      unfold add
      -- The entry is that of the pull request, or the release is put in behind it.
      by_cases hk : k = n
      · subst hk
        rw [List.lookup_cons_self, if_pos (beq_self_eq_true k)]
        cases hanswer : r.isEarlier current with
        | error f =>
            rw [keep_error hanswer]
            exact ⟨fun g h => (by cases h; rfl), fun best h => (by cases h)⟩
        | ok answer =>
            rw [keep_ok hanswer]
            refine ⟨fun f h => (by cases h), fun best h => ⟨_, rfl, fun m => ?_⟩⟩
            cases h
            by_cases hm : m = k
            · simp [hm]
            · simp only [List.lookup_cons, beq_eq_false_iff_ne.mpr hm, if_neg hm]
      · have hlookup : List.lookup n ((k, current) :: rest) = rest.lookup n := by
          simp only [List.lookup_cons, beq_eq_false_iff_ne.mpr (Ne.symm hk)]
        rw [hlookup, if_neg (by simpa using hk)]
        refine ⟨fun f h => ?_, fun best h => ?_⟩
        · rw [ih.1 f h]
          rfl
        · rcases ih.2 best h with ⟨after, hafter, hfound⟩
          refine ⟨(k, current) :: after, by rw [hafter]; rfl, fun m => ?_⟩
          by_cases hm : m = k
          · subst hm
            simp [hk]
          · simp only [List.lookup_cons, beq_eq_false_iff_ne.mpr hm, hfound]

/-- One more release for a pull request. -/
theorem find?_add {index after : ReleaseIndex} {n : Nat} {r : Release} (hindex : index.IsDated)
    (hr : Release.IsDated r.published) (h : add n r index = .ok after) (m : Nat) :
    after.find? m = if m = n then some (kept r (index.find? n)) else index.find? m := by
  have hcurrent : ∀ current ∈ index.find? n, Release.IsDated current.published := by
    intro current hmem
    rcases List.lookup_eq_some_iff.mp hmem with ⟨front, back, hsplit, _⟩
    exact hindex (n, current) (by rw [hsplit]; simp)
  rcases (add_keep index n r).2 _ (keep_dated hr hcurrent) with ⟨same, hsame, hfound⟩
  cases h.symm.trans hsame
  exact hfound m

/-- One more release for each of several pull requests. -/
theorem find?_addAll {index after : ReleaseIndex} {r : Release} {digits : List (List Char)}
    (hindex : index.IsDated) (hr : Release.IsDated r.published)
    (h : index.addAll r digits = .ok after) (m : Nat) :
    after.find? m = if m ∈ digits.map Text.decimalValue then some (kept r (index.find? m))
      else index.find? m := by
  unfold addAll at h
  induction digits generalizing index with
  | nil =>
      cases h
      rfl
  | cons ds rest ih =>
      rw [List.foldlM_cons] at h
      rcases bind_eq_ok.mp h with ⟨next, hnext, hafter⟩
      rcases bind_eq_ok.mp hnext with ⟨n, hn, hadd⟩
      have hvalue : n = Text.decimalValue ds := PullRequest.number_value (mapError_eq_ok.mp hn)
      rcases add_dated hindex n hr with ⟨same, hsame, hdated⟩
      rw [hadd] at hsame
      cases hsame
      rw [ih hdated hafter, find?_add hindex hr hadd, List.map_cons, hvalue]
      -- A number may come again among the others; keeping a release twice changes nothing.
      by_cases hm : m = Text.decimalValue ds
      · simp [hm, kept_kept]
      · simp [hm]

/-- One more record: where it refers to a pull request, its release may be put in, and for
    all others nothing changes. -/
theorem find?_addRecord {index after : ReleaseIndex} {record : Value} (hindex : index.IsDated)
    (hrecord : IsSound record) (h : index.addRecord record = .ok after) (n : Nat) :
    (∀ r, Ships record n r → after.find? n = some (kept r (index.find? n))) ∧
      ((∀ r, ¬ Ships record n r) → after.find? n = index.find? n) := by
  unfold addRecord at h
  cases hr : ofRecord? record with
  | none =>
      rw [hr] at h
      cases h
      refine ⟨fun r hships => ?_, fun _ => rfl⟩
      rw [hships.1] at hr
      cases hr
  | some r =>
      simp only [hr] at h
      rcases bind_eq_ok.mp h with ⟨s, hs, hall⟩
      have hfound := find?_addAll hindex (ofRecord?_dated hrecord hr) hall n
      -- The numbers for which the release is put in are those to which the text refers.
      have hmentions : n ∈ (PullRequest.mentionedDigits s.toList).map Text.decimalValue ↔
          PullRequest.Mentions s.toList n := by
        rw [PullRequest.mentions_iff, List.mem_map]
      constructor
      · rintro q ⟨hq, t, ht, hmention⟩
        cases hr.symm.trans hq
        cases hs.symm.trans ht
        rw [hfound, if_pos (hmentions.mpr hmention)]
      · intro hnone
        rw [hfound, if_neg fun hmem => hnone r ⟨hr, s, hs, hmentions.mp hmem⟩]

/-- Of the release of one more record and the earliest one before it, the one that is kept is
    the earliest. -/
theorem earliest_kept {records : List Value} {record : Value} {n : Nat} {own current : Release}
    (hown : Ships record n own) (hcurrent : Earliest records n current) :
    Earliest (records ++ [record]) n (kept own (some current)) := by
  rw [kept_some]
  by_cases hless : own.time < current.time
  · rw [if_pos hless]
    exact earliest_append.mpr (Or.inl ⟨hown, fun other hother q hq =>
      hless.trans_le (hcurrent.least hother hq)⟩)
  · rw [if_neg hless]
    refine earliest_append.mpr (Or.inr ⟨hcurrent, fun q hq => ?_⟩)
    rw [hq.unique hown]
    exact le_of_not_gt hless

/-- An index tells for every pull request the earliest release of some records that refer to
    it, and has none only if no record refers to it. -/
structure Tells (index : ReleaseIndex) (records : List Value) : Prop where
  dated : index.IsDated
  found : ∀ n r, index.find? n = some r ↔ Earliest records n r
  missing : ∀ n, index.find? n = none → ∀ record ∈ records, ∀ r, ¬ Ships record n r

theorem tells_nil : Tells [] [] where
  dated := fun _ h => absurd h List.not_mem_nil
  found := by
    intro n r
    refine ⟨fun h => (by cases h), ?_⟩
    rintro ⟨before, record, after, h, _⟩
    exact absurd h (by simp)
  missing := fun _ _ _ h => absurd h List.not_mem_nil

/-- After one more record an index tells the earliest releases of one more record. If the
    record refers to the pull request, then its release is compared with the one that is
    there, which was the earliest up to now. -/
theorem tells_addRecord {index after : ReleaseIndex} {records : List Value} {record : Value}
    (htells : index.Tells records) (hrecord : IsSound record)
    (h : index.addRecord record = .ok after) : after.Tells (records ++ [record]) where
  dated := by
    rcases addRecord_dated htells.dated hrecord with ⟨same, hsame, hdated⟩
    cases h.symm.trans hsame
    exact hdated
  found := by
    intro n r
    rcases find?_addRecord htells.dated hrecord h n with ⟨hships, hnone⟩
    by_cases hr : ∃ r, Ships record n r
    · rcases hr with ⟨own, hown⟩
      have hearliest : Earliest (records ++ [record]) n (kept own (index.find? n)) := by
        cases hfind : index.find? n with
        | none =>
            have hall := htells.missing n hfind
            exact earliest_append.mpr (Or.inl ⟨hown, fun other hother q hq =>
              absurd hq (hall other hother q)⟩)
        | some current => exact earliest_kept hown ((htells.found n current).mp hfind)
      rw [hships own hown, Option.some.injEq]
      exact ⟨fun heq => heq ▸ hearliest, hearliest.unique⟩
    · have hno : ∀ r, ¬ Ships record n r := not_exists.mp hr
      rw [hnone hno, htells.found, earliest_append]
      constructor
      · exact fun hr => Or.inr ⟨hr, fun q hq => absurd hq (hno q)⟩
      · rintro (⟨hr, _⟩ | ⟨hr, _⟩)
        · exact absurd hr (hno r)
        · exact hr
  missing := by
    intro n hnot other hother r hr
    rcases find?_addRecord htells.dated hrecord h n with ⟨hships, hnone⟩
    rcases List.mem_append.mp hother with hother | hother
    · by_cases hown : ∃ q, Ships record n q
      · rcases hown with ⟨q, hq⟩
        rw [hships q hq] at hnot
        cases hnot
      · rw [hnone (not_exists.mp hown)] at hnot
        exact htells.missing n hnot other hother r hr
    · rw [List.mem_singleton.mp hother] at hr
      rw [hships r hr] at hnot
      cases hnot

/-- The index of further records tells the earliest releases of all. The induction is on the
    further records. -/
theorem tells_foldlM {index after : ReleaseIndex} {front back : List Value}
    (htells : index.Tells front) (hback : ∀ record ∈ back, IsSound record)
    (h : back.foldlM addRecord index = .ok after) : after.Tells (front ++ back) := by
  induction back generalizing index front with
  | nil =>
      cases h
      rw [List.append_nil]
      exact htells
  | cons record rest ih =>
      rw [List.foldlM_cons] at h
      rcases bind_eq_ok.mp h with ⟨next, hnext, hafter⟩
      have hstep := tells_addRecord htells (hback record (List.mem_cons_self ..)) hnext
      rw [List.append_cons]
      exact ih hstep (fun other hother => hback other (List.mem_cons_of_mem _ hother)) hafter

/-- The index of records tells their earliest releases. -/
theorem tells_ofRecords {index : ReleaseIndex} {records : List Value}
    (hsound : ∀ record ∈ records, IsSound record) (h : ofRecords records = .ok index) :
    index.Tells records :=
  tells_foldlM tells_nil hsound h

/-- What two indexes tell of records with the same earliest releases is the same. -/
theorem Tells.find?_eq {index after : ReleaseIndex} {records others : List Value}
    (h : index.Tells records) (hafter : after.Tells others) {n : Nat}
    (hsame : ∀ r, Earliest records n r → Earliest others n r)
    (hsome : ∀ record ∈ others, ∀ r, Ships record n r → ∃ record ∈ records, ∃ r, Ships record n r) :
    after.find? n = index.find? n := by
  cases hfind : index.find? n with
  | some r => exact (hafter.found n r).mpr (hsame r ((h.found n r).mp hfind))
  | none =>
      cases hother : after.find? n with
      | none => rfl
      | some r =>
          rcases ((hafter.found n r).mp hother).ships with ⟨record, hrecord, hr⟩
          rcases hsome record hrecord r hr with ⟨other, hother, q, hq⟩
          exact absurd hq (h.missing n hfind other hother q)

/-- A release that is no earlier than the one that is there changes nothing. -/
theorem add_known {index : ReleaseIndex} {n : Nat} {r current : Release} (hindex : index.IsDated)
    (hr : Release.IsDated r.published) (hfind : index.find? n = some current)
    (hle : current.time ≤ r.time) : add n r index = .ok index := by
  unfold find? at hfind
  induction index with
  | nil => cases hfind
  | cons entry rest ih =>
      rcases entry with ⟨k, own⟩
      have hown := hindex (k, own) (List.mem_cons_self ..)
      have hrest : IsDated rest := fun entry he => hindex entry (List.mem_cons_of_mem _ he)
      unfold add
      -- The entry of the pull request comes here or later; others are passed over.
      by_cases hk : k = n
      · subst hk
        rw [List.lookup_cons_self] at hfind
        cases hfind
        rw [if_pos (beq_self_eq_true k), isEarlier_time hr hown, decide_eq_false hle.not_gt]
        rfl
      · simp only [List.lookup_cons, beq_eq_false_iff_ne.mpr (Ne.symm hk)] at hfind
        rw [if_neg (by simpa using hk), ih hrest hfind]
        rfl

/-- References to pull requests that all have a release as early change nothing. -/
theorem addAll_known {index : ReleaseIndex} {r : Release} {digits : List (List Char)}
    (hindex : index.IsDated) (hr : Release.IsDated r.published)
    (hshort : ∀ ds ∈ digits, ds.length ≤ maxDigits)
    (h : ∀ ds ∈ digits, ∃ current, index.find? (Text.decimalValue ds) = some current ∧
      current.time ≤ r.time) : index.addAll r digits = .ok index := by
  unfold addAll
  induction digits with
  | nil => rfl
  | cons ds rest ih =>
      rcases h ds (List.mem_cons_self ..) with ⟨current, hfind, hle⟩
      rw [List.foldlM_cons, PullRequest.number_short (hshort ds (List.mem_cons_self ..))]
      change add (Text.decimalValue ds) r index >>= _ = _
      rw [add_known hindex hr hfind hle]
      exact ih (fun ds hd => hshort ds (List.mem_cons_of_mem _ hd))
        fun ds hd => h ds (List.mem_cons_of_mem _ hd)

/-- A record that was there before changes nothing. For every pull request to which it refers
    there is a release that is as early. -/
theorem addRecord_again {index : ReleaseIndex} {records : List Value} {record : Value}
    (htells : index.Tells records) (hrecord : IsSound record) (hmem : record ∈ records) :
    index.addRecord record = .ok index := by
  unfold addRecord
  cases hr : ofRecord? record with
  | none => rfl
  | some r =>
      rcases textOf_sound hrecord with ⟨s, hs, hshort⟩
      simp only [hs]
      refine addAll_known htells.dated (ofRecord?_dated hrecord hr) hshort fun ds hds => ?_
      have hships : Ships record (Text.decimalValue ds) r :=
        ⟨hr, s, hs, PullRequest.mentions_iff.mpr ⟨ds, hds, rfl⟩⟩
      -- The index knows all pull requests to which its records refer.
      cases hfind : index.find? (Text.decimalValue ds) with
      | none => exact absurd hships (htells.missing _ hfind record hmem r)
      | some current =>
          exact ⟨current, rfl, ((htells.found _ current).mp hfind).least hmem hships⟩

/-- Records that were all there before change nothing. -/
theorem foldlM_again {index : ReleaseIndex} {records page : List Value}
    (htells : index.Tells records) (hsound : ∀ record ∈ records, IsSound record)
    (hpage : page ⊆ records) : page.foldlM addRecord index = .ok index := by
  induction page with
  | nil => rfl
  | cons record rest ih =>
      have hmem := hpage (List.mem_cons_self ..)
      rw [List.foldlM_cons, addRecord_again htells (hsound record hmem) hmem]
      exact ih fun other hother => hpage (List.mem_cons_of_mem _ hother)

theorem mem_numbers {index : ReleaseIndex} {n : Nat} :
    n ∈ index.map Prod.fst ↔ ∃ r, index.find? n = some r := by
  rw [← Option.isSome_iff_exists, find?, List.lookup_isSome_iff, List.mem_map]
  constructor
  · rintro ⟨entry, he, rfl⟩
    exact ⟨entry, he, beq_self_eq_true _⟩
  · rintro ⟨entry, he, h⟩
    exact ⟨entry, he, (beq_iff_eq.mp h).symm⟩

/-- The index of a list of records. It has the pull requests to which the records refer, each
    with the earliest release. What comes again changes nothing, be it a record or a
    reference, and where there is only one earliest release, the order of the records does
    not matter. -/
theorem ofRecords_earliest {records : List Value}
    (hsound : ∀ record ∈ records, Release.IsSound record) :
    ∃ index, ofRecords records = .ok index ∧
      (∀ n, n ∈ index.map Prod.fst ↔ ∃ record ∈ records, ∃ r, Ships record n r) ∧
      (∀ n r, index.find? n = some r ↔ Earliest records n r) ∧
      (∀ front page back, records = front ++ back → page ⊆ front →
        ofRecords (front ++ page ++ back) = .ok index) ∧
      (∀ others, (∀ record ∈ others, Release.IsSound record) →
        List.Forall₂ SaysSame records others →
        ∃ after, ofRecords others = .ok after ∧ ∀ n, after.find? n = index.find? n) ∧
      ∀ others, records.Perm others →
        (∀ record ∈ records, ∀ n r, Ships record n r → ∃ r, Alone records n r) →
        ∃ after, ofRecords others = .ok after ∧ ∀ n, after.find? n = index.find? n := by
  rcases ofRecords_sound hsound with ⟨index, hindex⟩
  have htells := tells_ofRecords hsound hindex
  refine ⟨index, hindex, fun n => ?_, htells.found, ?_, ?_, ?_⟩
  · rw [mem_numbers]
    constructor
    · rintro ⟨r, hr⟩
      rcases ((htells.found n r).mp hr).ships with ⟨record, hrecord, hships⟩
      exact ⟨record, hrecord, r, hships⟩
    · rintro ⟨record, hrecord, r, hships⟩
      refine Option.ne_none_iff_exists'.mp fun hnone => ?_
      exact htells.missing n hnone record hrecord r hships
  · rintro front page back rfl hpage
    rw [ofRecords, List.foldlM_append] at hindex ⊢
    rw [List.foldlM_append]
    rcases bind_eq_ok.mp hindex with ⟨middle, hmiddle, hback⟩
    have hfront : ∀ record ∈ front, Release.IsSound record := fun record hr =>
      hsound record (List.mem_append_left _ hr)
    -- The index knows all of the records that come again, and the others find it as they would
    -- have.
    rw [hmiddle, ok_bind, foldlM_again (tells_ofRecords hfront hmiddle) hfront hpage]
    exact hback
  · intro others hothers hsame
    rcases ofRecords_sound hothers with ⟨after, hafter⟩
    refine ⟨after, hafter, fun n => ?_⟩
    refine htells.find?_eq (tells_ofRecords hothers hafter) (fun r hr => ?_) ?_
    · exact hr.saysSame hsame
    · intro record hrecord r hr
      rcases ships_of_saysSame hsame hrecord hr with ⟨other, hother, hships⟩
      exact ⟨other, hother, r, hships⟩
  · intro others hperm halone
    have hothers : ∀ record ∈ others, Release.IsSound record := fun record hr =>
      hsound record (hperm.symm.subset hr)
    rcases ofRecords_sound hothers with ⟨after, hafter⟩
    refine ⟨after, hafter, fun n => ?_⟩
    refine htells.find?_eq (tells_ofRecords hothers hafter) (fun r hr => ?_)
      fun record hrecord r hships => ⟨record, hperm.symm.subset hrecord, r, hships⟩
    rcases hr.ships with ⟨record, hrecord, hships⟩
    -- The release that is alone is the earliest in both orders.
    rcases halone record hrecord n r hships with ⟨q, hq⟩
    rw [Option.some.inj (((htells.found n r).mpr hr).symm.trans ((htells.found n q).mpr hq.earliest))]
    exact (hq.perm hperm).earliest

/-- Of two releases the one that stands second is the earlier one, and it counts for the pull
    request to which both refer. -/
theorem ofRecords_earliest_second :
    let late : Value := .object
      [("tag_name", .text "v2"), ("published_at", .text "2021"), ("body", .text "#7 /pull/8")]
    let early : Value := .object
      [("tag_name", .text "v1"), ("published_at", .text "2020"), ("body", .text "#7, #7")]
    (∀ record ∈ [late, early], Release.IsSound record) ∧
      Earliest [late, early] 7 ⟨"v1", .text "2020"⟩ ∧
      Earliest [late, early] 8 ⟨"v2", .text "2021"⟩ ∧
      ∀ r, ¬ Earliest [late, early] 9 r := by
  intro late early
  have hsound : ∀ record ∈ [late, early], Release.IsSound record := by decide +kernel
  have hall : ofRecords [late, early]
      = .ok [(7, ⟨"v1", .text "2020"⟩), (8, ⟨"v2", .text "2021"⟩)] := rfl
  rcases ofRecords_earliest hsound with ⟨index, hindex, _, hfound, _⟩
  cases hall.symm.trans hindex
  refine ⟨hsound, (hfound 7 _).mp rfl, (hfound 8 _).mp rfl, fun r hr => ?_⟩
  cases (hfound 9 r).mpr hr

end ReleaseIndex

end Annals
