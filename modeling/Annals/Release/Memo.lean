import Annals.Release.Fetch
import Annals.Release.Index
import Annals.Text.Case

/-!
# The Index as It Is Used

The index is made when it is first needed, and remembered; so is a failure to get
at what it is made of. Other faults of the records are not remembered: the next one
who needs the index finds them anew.

## Main definitions

* `Loader`: How an index is made.
* `Memo`: What is remembered, and what was done for it.
* `Memo.load`, `Memo.find`: The index, or one of its entries.
* `Loader.ofEnvironment`: The loader that the environment asks for.
-/

namespace Annals

/-- Why there is no index: what it is made of is not at hand, or is not what it
    should be. -/
inductive LoadFault where
  | reference (message : String)
  | record (f : RecordFault)
  deriving DecidableEq, Repr

/-- What making an index came to, and the requests that were made for it. -/
structure Loaded where
  result : Except LoadFault ReleaseIndex
  requests : List Request

/-- How an index is made after so many requests. -/
abbrev Loader := (asked : Nat) → Loaded

namespace Loader

/-- An index that is at hand. -/
def ofIndex (index : ReleaseIndex) : Loader := fun _ => ⟨.ok index, []⟩

/-- An index that is not to be had. -/
def failing (message : String) : Loader := fun _ => ⟨.error (.reference message), []⟩

/-- The index of the releases of a repository. -/
def ofRepository (r : Repository) (remote : Remote) : Loader := fun asked =>
  let fetched := r.fetch remote asked
  match fetched.result with
  | .error .nested => ⟨.error (.record .nested), fetched.requests⟩
  | .error f => ⟨.error (.reference (f.message r.name)), fetched.requests⟩
  | .ok records => ⟨(ReleaseIndex.ofRecords records).mapError .record, fetched.requests⟩

end Loader

/-- What is remembered of an index, if anything, how often it was made, and all
    requests so far. -/
structure Memo where
  known : Option (Except String ReleaseIndex)
  loads : Nat
  requests : List Request

namespace Memo

/-- Nothing done yet. -/
def start : Memo := ⟨none, 0, []⟩

/-- What is remembered of making an index. -/
def remembered : Except LoadFault ReleaseIndex → Option (Except String ReleaseIndex)
  | .ok index => some (.ok index)
  | .error (.reference message) => some (.error message)
  | .error (.record _) => none

/-- The index: the one that is remembered, or one made now. -/
def load (loader : Loader) (m : Memo) : Except LoadFault ReleaseIndex × Memo :=
  match m.known with
  | some known => (known.mapError .reference, m)
  | none =>
    let made := loader m.requests.length
    (made.result, ⟨remembered made.result, m.loads + 1, m.requests ++ made.requests⟩)

/-- The release of a pull request. -/
def find (loader : Loader) (number : Nat) (m : Memo) :
    Except LoadFault (Option Release) × Memo :=
  let (index, m) := m.load loader
  (index.map (·.find? number), m)

end Memo

/-- The variables of the environment. -/
abbrev Environment := List (String × String)

namespace Environment

/-- The value of a variable, empty if it is not set. -/
def value (e : Environment) (name : String) : String := (e.lookup name).getD ""

/-- The variable that holds the token for requests. -/
def tokenName : String := "GITHUB_TOKEN"

/-- The variable that asks for the index for tests. -/
def testModeName : String := "API_HISTORY_LINT_TEST_MODE"

/-- Whether the index for tests is asked for. -/
def isTestMode (e : Environment) : Bool :=
  ["1", "true", "yes"].contains (Text.lowered (Text.trimmed (e.value testModeName)))

end Environment

namespace Loader

/-- The most pages that are fetched. -/
def maxPages : Nat := 50

/-- The most seconds that a request takes. -/
def timeout : Nat := 30

/-- The repository whose releases are meant if no other is given. -/
def defaultRepository : String := "electron/electron"

/-- The loader that the environment asks for: the index for tests, or the releases of
    the repository called `name`. Without a token there is none. -/
def ofEnvironment (name : String) (e : Environment) (remote : Remote) : Option Loader :=
  if e.isTestMode then some (ofIndex ReleaseIndex.sample)
  else
    let token := e.value Environment.tokenName
    if token.isEmpty then none
    else some (ofRepository ⟨name, token, maxPages, timeout⟩ remote)

end Loader

end Annals
