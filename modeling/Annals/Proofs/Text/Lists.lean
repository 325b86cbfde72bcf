import Mathlib.Data.List.Induction

/-!
# Lists and Computations

What is said here of lists is not about any of the things that they are lists of, and what
is said of computations not about what they compute.

A computation of two steps comes to its end if both steps do. A computation on every entry
of a list is as good as its entries: it comes to its end if it does on each of them, it
fails where it fails on one, and what it comes to are their results. A list of words is
read back from what they make together, if no word begins another one. And what is kept of
a list once is there once, in the order in which it was first met.

## Theorems

* `ok_bind`, `bind_eq_ok`, `bind_eq_error`, `mapError_eq_ok`: A computation of two steps, or
  with other faults.
* `exists_of_any_toOption`: A computation that comes to something.
* `mapM_except`, `mapM_ok_iff`, `length_of_mapM`, `forM_ok_iff`: A computation on every entry.
* `foldlM_fails`, `subset_of_filterM`: A computation along a list.
* `span_append`: The first part of a list.
* `flatMap_inj`: Words of a code, one after another.
* `pairwise_eraseDups`, `nodup_eraseDups`: A list without repetitions.
-/

namespace Annals

theorem ok_bind {ε α β : Type} (a : α) (f : α → Except ε β) : (Except.ok a >>= f) = f a := rfl

/-- A step that succeeds after another one: both did. -/
theorem bind_eq_ok {ε α β : Type} {x : Except ε α} {f : α → Except ε β} {r : β} :
    x >>= f = .ok r ↔ ∃ a, x = .ok a ∧ f a = .ok r := by
  cases x with
  | error e => simp [bind, Except.bind]
  | ok a => simp [bind, Except.bind]

/-- A step that fails, or one that succeeds and another one that fails. -/
theorem bind_eq_error {ε α β : Type} {x : Except ε α} {f : α → Except ε β} {e : ε} :
    x >>= f = .error e ↔ x = .error e ∨ ∃ a, x = .ok a ∧ f a = .error e := by
  cases x with
  | error e' => simp [bind, Except.bind]
  | ok a => simp [bind, Except.bind]

/-- A computation on every entry of a list fails only where it fails on one of them, and
    what it comes to are the results for its entries. -/
theorem mapM_except {ε α β : Type} (f : α → Except ε β) (l : List α) :
    (∀ fault, l.mapM f = .error fault → ∃ a ∈ l, f a = .error fault) ∧
      ∀ found, l.mapM f = .ok found → ∀ b ∈ found, ∃ a ∈ l, f a = .ok b := by
  induction l with
  | nil =>
      refine ⟨fun fault h => (by cases h), fun found h => ?_⟩
      cases h
      exact fun b hb => absurd hb List.not_mem_nil
  | cons a rest ih =>
      rw [List.mapM_cons]
      cases ha : f a with
      | error e =>
          refine ⟨fun fault h => ?_, fun found h => (by cases h)⟩
          cases h
          exact ⟨a, List.mem_cons_self .., ha⟩
      | ok b =>
          -- The first entry is done, so it is one of the others that fails.
          cases hrest : rest.mapM f with
          | error e =>
              refine ⟨fun fault h => ?_, fun found h => (by cases h)⟩
              cases h
              rcases ih.1 e hrest with ⟨x, hx, hfault⟩
              exact ⟨x, List.mem_cons_of_mem _ hx, hfault⟩
          | ok more =>
              refine ⟨fun fault h => (by cases h), fun found h => ?_⟩
              cases h
              intro y hy
              rcases List.mem_cons.mp hy with rfl | hy
              · exact ⟨a, List.mem_cons_self .., ha⟩
              · rcases ih.2 more hrest y hy with ⟨x, hx, hok⟩
                exact ⟨x, List.mem_cons_of_mem _ hx, hok⟩

/-- Faults in other words are faults still. -/
theorem mapError_eq_ok {ε ε' α : Type} {f : ε → ε'} {x : Except ε α} {a : α} :
    x.mapError f = .ok a ↔ x = .ok a := by
  cases x with
  | error e => exact ⟨fun h => (by cases h), fun h => (by cases h)⟩
  | ok b => exact ⟨fun h => (by cases h; rfl), fun h => (by cases h; rfl)⟩

/-- What a computation that comes to something with a property comes to. -/
theorem exists_of_any_toOption {ε α : Type} {x : Except ε α} {p : α → Bool}
    (h : x.toOption.any p = true) : ∃ a, x = .ok a ∧ p a = true := by
  cases x with
  | error e => cases h
  | ok a => exact ⟨a, rfl, h⟩

/-- A computation on every entry of a list comes to its end if it does on each of them. -/
theorem mapM_ok_iff {ε α β : Type} (f : α → Except ε β) (l : List α) :
    (∃ found, l.mapM f = .ok found) ↔ ∀ a ∈ l, ∃ b, f a = .ok b := by
  induction l with
  | nil => simp [pure, Except.pure]
  | cons a rest ih =>
      rw [List.forall_mem_cons, ← ih, List.mapM_cons]
      cases f a with
      | error e => simp [bind, Except.bind]
      | ok b => cases rest.mapM f <;> simp [bind, Except.bind, pure, Except.pure]

/-- A computation along a list fails if there is an entry at which it fails in any case. -/
theorem foldlM_fails {ε α β : Type} {f : β → α → Except ε β} {l : List α} {a : α} (ha : a ∈ l)
    (hfails : ∀ b, ∃ fault, f b a = .error fault) (b : β) :
    ∃ fault, l.foldlM f b = .error fault := by
  induction l generalizing b with
  | nil => cases ha
  | cons first rest ih =>
      rw [List.foldlM_cons]
      cases hfirst : f b first with
      | error fault => exact ⟨fault, rfl⟩
      | ok next =>
          rcases List.mem_cons.mp ha with rfl | ha
          · rcases hfails b with ⟨fault, hfault⟩
            cases hfirst.symm.trans hfault
          · exact ih ha next

/-- Steps taken for every entry of a list come to their end if they do for each of them. -/
theorem forM_ok_iff {ε α : Type} (f : α → Except ε Unit) (l : List α) :
    l.forM f = .ok () ↔ ∀ a ∈ l, f a = .ok () := by
  induction l with
  | nil => simp [List.forM, pure, Except.pure]
  | cons a rest ih =>
      rw [List.forall_mem_cons, ← ih]
      change (f a >>= fun _ => rest.forM f) = _ ↔ _
      cases f a <;> simp [bind, Except.bind]

/-- A computation on every entry of a list comes to as many results. -/
theorem length_of_mapM {ε α β : Type} {f : α → Except ε β} {l : List α} {found : List β}
    (h : l.mapM f = .ok found) : found.length = l.length := by
  induction l generalizing found with
  | nil =>
      cases h
      rfl
  | cons a rest ih =>
      rw [List.mapM_cons] at h
      rcases bind_eq_ok.mp h with ⟨b, _, h⟩
      rcases bind_eq_ok.mp h with ⟨more, hmore, h⟩
      cases h
      exact congrArg (· + 1) (ih hmore)

theorem subset_of_filterAuxM {ε α : Type} {p : α → Except ε Bool} {l acc found : List α}
    (h : l.filterAuxM p acc = .ok found) : found ⊆ l ++ acc := by
  induction l generalizing acc with
  | nil =>
      cases h
      exact List.Subset.refl _
  | cons a rest ih =>
      rcases bind_eq_ok.mp h with ⟨b, _, h⟩
      cases b with
      | false => exact List.subset_cons_of_subset a (ih h)
      | true => exact List.Subset.trans (ih h) List.perm_middle.subset

/-- What a computation keeps of a list was in it. -/
theorem subset_of_filterM {ε α : Type} {p : α → Except ε Bool} {l kept : List α}
    (h : l.filterM p = .ok kept) : kept ⊆ l := by
  rcases bind_eq_ok.mp h with ⟨found, hfound, h⟩
  cases h
  intro x hx
  simpa using subset_of_filterAuxM hfound (List.mem_reverse.mp hx)

/-- What is of a kind ends where something of another kind begins the rest. -/
theorem span_append {α : Type} {p : α → Bool} {part rest : List α}
    (hpart : ∀ a ∈ part, p a = true) (hrest : ∀ a ∈ rest.head?, p a = false) :
    (part ++ rest).takeWhile p = part ∧ (part ++ rest).dropWhile p = rest := by
  rw [List.takeWhile_append_of_pos hpart, List.dropWhile_append_of_pos hpart]
  cases rest with
  | nil => simp
  | cons a rest =>
      have ha := hrest a rfl
      simp [ha]

/-- What is written in a code in which no word begins another one can be read in one way
    only. The condition `p` is for letters without a word of their own. -/
theorem flatMap_inj {α β : Type} {p : α → Prop} {f : α → List β} (hsome : ∀ a, f a ≠ [])
    (hcode : ∀ a b, p a → p b → ∀ u v, f a ++ u = f b ++ v → a = b ∧ u = v) {l l' : List α}
    (hl : ∀ a ∈ l, p a) (hl' : ∀ a ∈ l', p a) (h : l.flatMap f = l'.flatMap f) : l = l' := by
  induction l generalizing l' with
  | nil =>
      cases l' with
      | nil => rfl
      | cons b rest' =>
          rw [List.flatMap_nil, List.flatMap_cons] at h
          exact absurd (List.append_eq_nil_iff.mp h.symm).1 (hsome b)
  | cons a rest ih =>
      cases l' with
      | nil =>
          rw [List.flatMap_nil, List.flatMap_cons] at h
          exact absurd (List.append_eq_nil_iff.mp h).1 (hsome a)
      | cons b rest' =>
          rw [List.flatMap_cons, List.flatMap_cons] at h
          -- Neither word begins the other, so the first letters are the same, and so on.
          rcases hcode a b (hl a (List.mem_cons_self ..)) (hl' b (List.mem_cons_self ..)) _ _ h
            with ⟨rfl, hrest⟩
          rw [ih (fun x hx => hl x (List.mem_cons_of_mem _ hx))
            (fun x hx => hl' x (List.mem_cons_of_mem _ hx)) hrest]

/-- What is kept of a list stands in the order in which it first occurs there. -/
theorem pairwise_eraseDups {α : Type} [DecidableEq α] (l : List α) :
    l.eraseDups.Pairwise fun a b => l.idxOf a < l.idxOf b := by
  induction l using List.reverseRecOn with
  | nil => exact List.Pairwise.nil
  | append_singleton l a ih =>
      have hfirst {b : α} (hb : b ∈ l.eraseDups) : (l ++ [a]).idxOf b = l.idxOf b := by
        rw [List.idxOf_append, if_pos (List.mem_eraseDups.mp hb)]
      have hkept : l.eraseDups.Pairwise fun b c => (l ++ [a]).idxOf b < (l ++ [a]).idxOf c := by
        refine ih.imp_of_mem fun hb hc hless => ?_
        rwa [hfirst hb, hfirst hc]
      rw [List.eraseDups_append]
      -- The last one is kept if it is new; then it stands behind all others.
      by_cases ha : a ∈ l
      · have hnone : [a].removeAll l = [] := by simp [List.removeAll, ha]
        rw [hnone, List.eraseDups_nil, List.append_nil]
        exact hkept
      · have hlast : [a].removeAll l = [a] := by simp [List.removeAll, ha]
        rw [hlast, List.pairwise_append]
        refine ⟨hkept, List.pairwise_singleton _ _, fun b hb c hc => ?_⟩
        rw [List.mem_singleton.mp (List.mem_eraseDups.mp hc), hfirst hb, List.idxOf_append,
          if_neg ha]
        exact Nat.lt_add_left _ (List.idxOf_lt_length_of_mem (List.mem_eraseDups.mp hb))

/-- What is kept of a list once is there once. -/
theorem nodup_eraseDups {α : Type} [DecidableEq α] (l : List α) : l.eraseDups.Nodup := by
  refine (pairwise_eraseDups l).imp fun {a b} hless heq => ?_
  rw [heq] at hless
  exact Nat.lt_irrefl _ hless

end Annals
