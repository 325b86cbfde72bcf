import Annals.Json.Reader
import Annals.Release.Link
import Annals.Value.Basic

/-!
# Fetching Releases

The records of the releases of a repository come page by page. Each page says
where the next one is. There are no more pages after one that is empty or no list,
and no more than a given number of them are fetched.

What the other side answers is a parameter: the reply to every request in turn.

## Main definitions

* `Request`, `Reply`, `Remote`: Requests, replies, and the other side.
* `Repository`: What is fetched, and how.
* `Repository.fetch`: The records of all releases.
-/

namespace Annals

/-- A request for a page. Only the first one says how long pages are. -/
structure Request where
  url : String
  pageSize : Option Nat
  token : String
  timeout : Nat
  deriving DecidableEq, Repr

/-- What comes back: nothing, for a reason, or a response with the header for links. -/
inductive Reply where
  | broken (reason : String)
  | response (status : Nat) (body : String) (link : Option String)
  deriving Repr

/-- The other side: the reply to the request before which so many were made. -/
abbrev Remote := Nat → Reply

/-- Why releases could not be fetched. -/
inductive FetchFault where
  | broken (reason : String)
  | status (code : Nat) (body : String)
  | noJson (message : String)
  | nested
  deriving DecidableEq, Repr

/-- What fetching came to, and the requests that were made for it. -/
structure Fetched (α : Type) where
  result : Except FetchFault α
  requests : List Request

/-- A repository whose releases are fetched. -/
structure Repository where
  name : String
  token : String
  maxPages : Nat
  timeout : Nat

/-- The wording of a fault. -/
def FetchFault.message (repository : String) (f : FetchFault) : String :=
  "release fetch failed for " ++ repository ++ ": " ++
    match f with
    | broken reason => reason
    | status code body => toString code ++ " " ++ body
    | noJson message => "response is not JSON: " ++ message
    | nested => "response is nested too deep"

/-- The body of a reply as a value. -/
def Reply.value : Reply → Except FetchFault Value
  | broken reason => .error (.broken reason)
  | response status body _ =>
    if 400 ≤ status then .error (.status status body)
    else match Json.parse body with
      | .ok v => .ok v
      | .error (.fault f) => .error (.noJson f.message)
      | .error (.longNumber digits) => .error (.noJson (longNumberMessage digits))
      | .error .nested => .error .nested

/-- Where the page after a reply is. -/
def Reply.next? : Reply → Option String
  | broken _ => none
  | response _ _ link => link.bind Link.nextUrl?

namespace Repository

/-- Where the first page is. -/
def releasesUrl (r : Repository) : String :=
  "https://api.github.com/repos/" ++ r.name ++ "/releases"

/-- The most records that a page is asked to have. -/
def pageSize : Nat := 100

/-- The records of the pages from an address on, at most `left` of them. So many
    requests were `asked` before. -/
def fetchFrom (r : Repository) (remote : Remote) :
    (left asked : Nat) → (url : String) → (size : Option Nat) → Fetched (List Value)
  | 0, _, _, _ => ⟨.ok [], []⟩
  | left + 1, asked, url, size =>
    if url.isEmpty then ⟨.ok [], []⟩ else
    let request : Request := ⟨url, size, r.token, r.timeout⟩
    let reply := remote asked
    match reply.value with
    | .error f => ⟨.error f, [request]⟩
    | .ok (.seq _ (record :: records)) =>
      -- The address of the next page has the size in it already.
      let rest := fetchFrom r remote left (asked + 1) (reply.next?.getD "") none
      ⟨rest.result.map (record :: records ++ ·), request :: rest.requests⟩
    | .ok _ => ⟨.ok [], [request]⟩

/-- The records of all releases. -/
def fetch (r : Repository) (remote : Remote) (asked : Nat) : Fetched (List Value) :=
  fetchFrom r remote r.maxPages asked r.releasesUrl (some pageSize)

end Repository

end Annals
