import Annals.Release.PullRequest
import Annals.Value.Display
import Annals.Value.Order
import Annals.Value.Part

/-!
# The Release Index

For every pull request the release in which it first came out. A release is known
from a list of records; its text refers to the pull requests that are in it. If
several releases refer to a pull request, the one that was published first counts,
and of several such releases the first one in the list. A release without a time of
publication counts as later than every other.

## Main definitions

* `Release`: A release.
* `ReleaseIndex`: For every pull request a release.
* `ReleaseIndex.ofRecords`: The index of a list of records.
* `ReleaseIndex.sample`: A small index for tests.
-/

namespace Annals

/-- A release: its tag, and when it was published as far as that is known. -/
structure Release where
  tag : String
  published : Value
  deriving Inhabited

/-- For every pull request the release in which it came out. -/
abbrev ReleaseIndex := List (Nat × Release)

/-- Why there is no index of a list of records: a number has too many digits, a
    record has a value of a kind that cannot be there, or records are nested too
    deep. -/
inductive RecordFault where
  | longNumber (n : LongNumber)
  | unsuited
  | nested
  deriving DecidableEq, Repr

/-- The wording of a fault. -/
def RecordFault.message : RecordFault → String
  | longNumber n => n.message
  | unsuited => "A record has a value of a kind that cannot be there"
  | nested => "The records are nested too deep"

namespace Release

/-- Whether a release was published before another one. -/
def isEarlier (r current : Release) : Except RecordFault Bool :=
  match r.published, current.published with
  | .null, _ => .ok false
  | _, .null => .ok true
  | a, b =>
    match a.isBefore? b with
    | some answer => .ok answer
    | none => .error .unsuited

/-- The release that a record is about. A record without a tag is about none. -/
def ofRecord? (r : Value) : Option Release :=
  match r.get? "tag_name" with
  | some tag => if tag.isTrue then some ⟨tag.plain, (r.get? "published_at").getD .null⟩ else none
  | none => none

/-- The text of a record. -/
def textOf (r : Value) : Except RecordFault String :=
  match r.get? "body" with
  | some (.text s) => .ok s
  | some v => if v.isTrue then .error .unsuited else .ok ""
  | none => .ok ""

end Release

namespace ReleaseIndex

/-- The release of a pull request. -/
def find? (index : ReleaseIndex) (number : Nat) : Option Release := index.lookup number

/-- The index with a release for a pull request, unless an earlier one is there. -/
def add (number : Nat) (r : Release) : ReleaseIndex → Except RecordFault ReleaseIndex
  | [] => .ok [(number, r)]
  | (n, current) :: rest => do
    if n == number then
      return (n, if ← r.isEarlier current then r else current) :: rest
    else
      return (n, current) :: (← add number r rest)

/-- The index with a release for each of several pull requests. -/
def addAll (r : Release) (index : ReleaseIndex) (digits : List (List Char)) :
    Except RecordFault ReleaseIndex :=
  digits.foldlM (fun index ds => do
    let number ← (PullRequest.number ds).mapError RecordFault.longNumber
    index.add number r) index

/-- The index with a record added. What is no record of a release is passed over. -/
def addRecord (index : ReleaseIndex) (record : Value) : Except RecordFault ReleaseIndex :=
  match Release.ofRecord? record with
  | none => .ok index
  | some r => do
    let text ← Release.textOf record
    index.addAll r (PullRequest.mentionedDigits text.toList)

/-- The index of a list of records. -/
def ofRecords (records : List Value) : Except RecordFault ReleaseIndex :=
  records.foldlM addRecord []

/-- The index in the order of the pull requests. -/
def sorted (index : ReleaseIndex) : ReleaseIndex := index.mergeSort fun a b => a.1 ≤ b.1

/-- A small index for tests. -/
def sample : ReleaseIndex :=
  [(15216, ⟨"v4.0.0", .text "2018-12-20T18:44:48Z"⟩),
   (22533, ⟨"v9.0.0", .text "2020-05-18T23:46:39Z"⟩),
   (26789, ⟨"v12.0.0", .text "2021-03-01T23:21:34Z"⟩),
   (37094, ⟨"v25.0.0", .text "2023-05-30T18:03:35Z"⟩),
   (42396, ⟨"v31.0.0", .text "2024-06-11T16:18:58Z"⟩)]

end ReleaseIndex

end Annals
