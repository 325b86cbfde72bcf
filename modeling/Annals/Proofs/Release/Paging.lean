import Annals.Release.Fetch

/-!
# Fetching Page by Page

What a loop asks for whose course the other side decides.

Each reply either names an address to go on to, `Reply.onward?`, or it is the last
one: because it fails, because its page is no list or an empty one, or because it
names no next page. So the requests form a chain, each of them determined by the reply
to the one before it, and the chain ends with the first reply that is the last one, or
with as many requests as are allowed. A chain of links that runs in a circle is no
exception.

`Paged` collects what is known of the requests and the result of such a loop, and
`fetchFrom_paged` proves it by induction on the number of requests that are left. A
failure can only be in the last reply, and it takes the place of all records before
it; without one, the records are those of all pages in order.

## Main definitions

* `Reply.page`: The records on the page of a reply.
* `Reply.onward?`: The address to go on to after a reply.
* `Repository.Paged`: The requests and the result of fetching.

## Theorems

* `fetchFrom_paged`: Fetching from an address on.
* `fetch_paged`: Fetching the releases of a repository.
-/

namespace Annals

namespace Reply

/-- The records on the page of a reply; what is no list has none. -/
def page (reply : Reply) : List Value :=
  match reply.value with
  | .ok (.seq _ records) => records
  | _ => []

/-- The address to go on to after a reply: its page has records, and it names the next one.
    A next page without an address is none. -/
def onward? (reply : Reply) : Option String :=
  if reply.page.isEmpty then none else reply.next?.filter (!·.isEmpty)

/-- After a page with records there is a place to go on to, unless the next address is
    empty. -/
theorem onward?_of_page {reply : Reply} (hpage : reply.page.isEmpty = false) :
    reply.onward?
      = if (reply.next?.getD "").isEmpty then none else some (reply.next?.getD "") := by
  unfold onward?
  rw [hpage]
  cases reply.next? with
  | none => rfl
  | some next => cases hn : next.isEmpty <;> simp [Option.filter, hn]

end Reply

namespace Repository

/-- The requests and the result of fetching at most `left` pages from an address on, after
    `asked` requests. -/
structure Paged (r : Repository) (remote : Remote) (left asked : Nat) (url : String)
    (size : Option Nat) (fetched : Fetched (List Value)) : Prop where
  bounded : fetched.requests.length ≤ left
  begins : 0 < left → url.isEmpty = false →
    fetched.requests.head? = some ⟨url, size, r.token, r.timeout⟩
  follows : ∀ i request, fetched.requests[i + 1]? = some request →
    ∃ next, (remote (asked + i)).onward? = some next ∧
      request = ⟨next, none, r.token, r.timeout⟩
  goesOn : ∀ i < fetched.requests.length, i + 1 < left →
    (remote (asked + i)).onward?.isSome → i + 1 < fetched.requests.length
  fails : ∀ i < fetched.requests.length, ∀ f, (remote (asked + i)).value = .error f →
    fetched.result = .error f
  reads : (∀ i < fetched.requests.length, ∃ v, (remote (asked + i)).value = .ok v) →
    fetched.result
      = .ok ((List.range fetched.requests.length).flatMap fun i => (remote (asked + i)).page)

variable {r : Repository} {remote : Remote} {left asked : Nat} {url : String}
  {size : Option Nat}

/-- Nothing is asked for. -/
theorem paged_none (h : left = 0 ∨ url.isEmpty) :
    r.Paged remote left asked url size ⟨.ok [], []⟩ where
  bounded := Nat.zero_le _
  begins := by
    intro hleft hurl
    rcases h with h | h
    · omega
    · rw [hurl] at h
      cases h
  follows := fun i request h => (by cases h)
  goesOn := fun i hi => absurd hi (Nat.not_lt_zero i)
  fails := fun i hi => absurd hi (Nat.not_lt_zero i)
  reads := fun _ => rfl

/-- The one reply is the last one. -/
theorem paged_last {result : Except FetchFault (List Value)}
    (honward : (remote asked).onward? = none)
    (hfails : ∀ f, (remote asked).value = .error f → result = .error f)
    (hreads : ∀ v, (remote asked).value = .ok v → result = .ok (remote asked).page) :
    r.Paged remote (left + 1) asked url size ⟨result, [⟨url, size, r.token, r.timeout⟩]⟩ where
  bounded := Nat.succ_le_succ (Nat.zero_le left)
  begins := fun _ _ => rfl
  -- With a single request nothing is said of a second one.
  follows := fun i request h => (by simp at h)
  goesOn := by
    intro i hi _ hsome
    have hi : i = 0 := by simpa using hi
    rw [hi, Nat.add_zero, honward] at hsome
    cases hsome
  fails := by
    intro i hi f hf
    have hi : i = 0 := by simpa using hi
    exact hfails f (by simpa [hi] using hf)
  reads := by
    intro hall
    rcases hall 0 Nat.one_pos with ⟨v, hv⟩
    simpa using hreads v hv

/-- A reply with records, and what is fetched after it. -/
theorem paged_next {rest : Fetched (List Value)} {v : Value}
    (hv : (remote asked).value = .ok v) (hpage : (remote asked).page.isEmpty = false)
    (hrest : r.Paged remote left (asked + 1) ((remote asked).next?.getD "") none rest)
    (hstop : ((remote asked).next?.getD "").isEmpty → rest.requests = []) :
    r.Paged remote (left + 1) asked url size
      ⟨rest.result.map ((remote asked).page ++ ·), ⟨url, size, r.token, r.timeout⟩ ::
        rest.requests⟩ := by
  have honward := Reply.onward?_of_page hpage
  have hshift (i : Nat) : asked + (i + 1) = asked + 1 + i := by omega
  -- The rest begins with the next address, if there is one.
  have hsecond (hurl : ¬ ((remote asked).next?.getD "").isEmpty) (hleft : 0 < left) :
      rest.requests[0]? = some ⟨(remote asked).next?.getD "", none, r.token, r.timeout⟩ := by
    rw [← List.head?_eq_getElem?]
    exact hrest.begins hleft (by simpa using hurl)
  refine
    { bounded := Nat.succ_le_succ hrest.bounded
      begins := fun _ _ => rfl
      follows := ?follows
      goesOn := ?goesOn
      fails := ?fails
      reads := ?reads }
  case follows =>
    intro i request hi
    cases i with
    | zero =>
        have hi : rest.requests[0]? = some request := hi
        have hleft : 0 < left :=
          Nat.lt_of_lt_of_le (List.getElem?_eq_some_iff.mp hi).1 hrest.bounded
        by_cases hurl : ((remote asked).next?.getD "").isEmpty
        · rw [hstop hurl] at hi
          cases hi
        · rw [hsecond hurl hleft] at hi
          exact ⟨(remote asked).next?.getD "", by simp [honward, hurl], (Option.some.inj hi).symm⟩
    | succ i =>
        rw [hshift]
        exact hrest.follows i request hi
  case goesOn =>
    intro i hi hleft hsome
    cases i with
    | zero =>
        rw [Nat.add_zero, honward] at hsome
        by_cases hurl : ((remote asked).next?.getD "").isEmpty
        · simp [hurl] at hsome
        · have hfirst := hsecond hurl (Nat.lt_of_succ_lt_succ hleft)
          exact Nat.succ_lt_succ (List.getElem?_eq_some_iff.mp hfirst).1
    | succ i =>
        rw [hshift] at hsome
        exact Nat.succ_lt_succ (hrest.goesOn i (Nat.lt_of_succ_lt_succ hi) (by omega) hsome)
  case fails =>
    intro i hi f hf
    cases i with
    | zero =>
        rw [Nat.add_zero, hv] at hf
        cases hf
    | succ i =>
        rw [hshift] at hf
        have hresult := hrest.fails i (Nat.lt_of_succ_lt_succ hi) f hf
        simp only [hresult]
        rfl
  case reads =>
    intro hall
    have hresult := hrest.reads (fun i hi => hshift i ▸ hall (i + 1) (Nat.succ_lt_succ hi))
    simp only [← hshift] at hresult
    simp only [hresult, List.length_cons, List.range_succ_eq_map, List.flatMap_cons,
      List.flatMap_map, Nat.add_zero]
    rfl

/-- Fetching from an address on. The induction is on the requests that are left, and each
    step is one of the three ways in which the loop can take it. -/
theorem fetchFrom_paged (r : Repository) (remote : Remote) (left asked : Nat) (url : String)
    (size : Option Nat) :
    r.Paged remote left asked url size (r.fetchFrom remote left asked url size) := by
  induction left generalizing asked url size with
  | zero => exact paged_none (Or.inl rfl)
  | succ left ih =>
      unfold fetchFrom
      by_cases hurl : url.isEmpty
      · rw [if_pos hurl]
        exact paged_none (Or.inr hurl)
      · rw [if_neg hurl]
        simp only []
        cases hv : (remote asked).value with
        | error f =>
            refine paged_last ?_ (fun g hg => ?_) (fun v hv' => ?_)
            · simp [Reply.onward?, Reply.page, hv]
            · exact congrArg Except.error (Except.error.inj (hv.symm.trans hg))
            · rw [hv] at hv'
              cases hv'
        | ok v =>
            -- A reply that is no list with records is the last one, and adds nothing.
            have hend (hpage : (remote asked).page = []) :
                r.Paged remote (left + 1) asked url size
                  ⟨.ok [], [⟨url, size, r.token, r.timeout⟩]⟩ := by
              refine paged_last ?_ (fun f hf => ?_) (fun _ _ => ?_)
              · simp [Reply.onward?, hpage]
              · rw [hv] at hf
                cases hf
              · rw [hpage]
            split
            · rename_i heq
              cases heq
            · rename_i id record records heq
              cases heq
              have hpage : (remote asked).page = record :: records := by
                simp only [Reply.page, hv]
              rw [← hpage]
              refine paged_next hv (by rw [hpage]; rfl) (ih _ _ none) (fun hnext => ?_)
              -- Without an address nothing more is fetched, be there requests left or not.
              cases left with
              | zero => rfl
              | succ left =>
                  rw [fetchFrom, if_pos hnext]
            · rename_i hother heq
              cases heq
              refine hend ?_
              unfold Reply.page
              rw [hv]
              cases v with
              | seq id items =>
                  cases items with
                  | nil => rfl
                  | cons record records => exact absurd rfl (hother id record records)
              | _ => rfl

theorem releasesUrl_nonempty (r : Repository) : r.releasesUrl.isEmpty = false := by
  cases hempty : r.releasesUrl.isEmpty with
  | false => rfl
  | true =>
      have hnil := congrArg String.toList (String.isEmpty_iff.mp hempty)
      unfold releasesUrl at hnil
      rw [String.toList_append, String.toList_empty, List.append_eq_nil_iff] at hnil
      exact absurd hnil.2 (by decide)

/-- Fetching the releases of a repository. -/
theorem fetch_paged (r : Repository) (remote : Remote) :
    r.Paged remote r.maxPages 0 r.releasesUrl (some pageSize) (r.fetch remote 0) :=
  r.fetchFrom_paged remote r.maxPages 0 r.releasesUrl (some pageSize)

end Repository

end Annals
