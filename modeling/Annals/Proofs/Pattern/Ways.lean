import Annals.Pattern.Search

/-!
# The Ways in which a Pattern Matches

A search takes the first way in which a pattern matches and leaves all others aside. To say
what is matched it is often enough to know the ways: where there is one and no other, the
order in which they are tried does not matter.

`Matches` says that there is a way from one place to another, without an order between the
ways, and counts the tasks on it. A run finds nothing but ways (`leads_of_run`), and if there is
one, it finds one as soon as there is room for its tasks (`isSome_run`). This is for plain
patterns, which neither look around nor refer back nor give up ways.

A repetition of a single character is the usual part of a pattern. Its ways are the stretches
of the text that have only such characters (`matches_repeat_iff`). Of a pattern that sets no
group it is enough to know which texts it matches: `Spans` is kept by the forms of patterns.

## Main definitions

* `Pattern.Expr.isPlain`: A pattern that is matched by its parts alone.
* `Pattern.Matches`: A way in which a pattern matches, and its number of tasks.
* `Pattern.Expr.match?`: What groups match at the start of a text.
* `Pattern.Passes`: A stretch of a text.
* `Pattern.Spans`: The texts that a pattern matches.
* `Pattern.Expr.spelled`: The pattern of a word.

## Theorems

* `leads_of_run`, `isSome_run`: Runs and ways.
* `match?_eq_some_iff`: The first way of a pattern that has no two.
* `matches_seq_iff`, `matches_group_iff`, `matches_repeat_iff`: The ways of patterns by their form.
* `Spans.seq`, `Spans.repeat`, `Spans.optional`, `spans_spelled`: The texts of patterns by their
  form.
-/

namespace Annals

namespace Pattern

namespace Expr

/-- The characters that a pattern for a single character takes. -/
def takes? : Expr → Option (Char → Bool)
  | char n => some fun c => c.toNat == n
  | any lineEnds => some fun c => lineEnds || c != '\n'
  | set negated members r => some (setHas negated members r)
  | _ => none

/-- A pattern that neither looks around nor refers back nor gives up ways to match. -/
def isPlain : Expr → Bool
  | empty | fail | char _ | any _ | set .. | place _ => true
  | seq a b => a.isPlain && b.isPlain
  | alt a b => a.isPlain && b.isPlain
  | group _ e => e.isPlain
  | .repeat e _ _ greed => e.isPlain && greed != .only
  | _ => false

end Expr

/-- A task in which all patterns are plain. -/
def Task.isPlain : Task → Bool
  | expr e => e.isPlain
  | close .. => true
  | turn e .. => e.isPlain

/-- A way in which a pattern matches from one place to another, with what groups matched
    before and after it. The number counts the tasks on the way. -/
inductive Matches (cs : List Char) : Nat → Expr → Nat → Captures → Nat → Captures → Prop where
  | empty (p : Nat) (c : Captures) : Matches cs 1 .empty p c p c
  | take {e : Expr} {accepts : Char → Bool} {x : Char} {p : Nat} (c : Captures)
      (htakes : e.takes? = some accepts) (hat : cs[p]? = some x) (hx : accepts x = true) :
      Matches cs 1 e p c (p + 1) c
  | place {at_ : Place} {p : Nat} (c : Captures) (h : at_.holds cs.toArray p = true) :
      Matches cs 1 (.place at_) p c p c
  | seq {a b : Expr} {m n p q r : Nat} {c d f : Captures} (ha : Matches cs m a p c q d)
      (hb : Matches cs n b q d r f) : Matches cs (m + n + 1) (.seq a b) p c r f
  | first {a : Expr} (b : Expr) {n p q : Nat} {c d : Captures} (h : Matches cs n a p c q d) :
      Matches cs (n + 1) (.alt a b) p c q d
  | second (a : Expr) {b : Expr} {n p q : Nat} {c d : Captures} (h : Matches cs n b p c q d) :
      Matches cs (n + 1) (.alt a b) p c q d
  | group (number : Nat) {e : Expr} {n p q : Nat} {c d : Captures} (h : Matches cs n e p c q d) :
      Matches cs (n + 2) (.group number e) p c q ((number, (p, q)) :: d)
  | enough (e : Expr) (most : Option Nat) (greed : Greed) (p : Nat) (c : Captures) :
      Matches cs 1 (.repeat e 0 most greed) p c p c
  /-- A turn that takes nothing is the last one. -/
  | last {e : Expr} {least n p : Nat} {most : Option Nat} (greed : Greed) {c d : Captures}
      (hturn : 0 < least ∨ most ≠ some 0) (h : Matches cs n e p c p d) :
      Matches cs (n + 2) (.repeat e least most greed) p c p d
  | more {e : Expr} {least m n p q r : Nat} {most : Option Nat} {greed : Greed}
      {c d f : Captures} (hturn : 0 < least ∨ most ≠ some 0) (hmoved : p ≠ q)
      (h : Matches cs m e p c q d)
      (hrest : Matches cs n (.repeat e (least - 1) (most.map (· - 1)) greed) q d r f) :
      Matches cs (m + n + 2) (.repeat e least most greed) p c r f

/-- The tasks lead from a place to a result. -/
def Leads (cs : List Char) : List Task → Nat → Captures → Nat × Captures → Prop
  | [], p, c, result => result = (p, c)
  | .expr e :: tasks, p, c, result => ∃ n q d, Matches cs n e p c q d ∧ Leads cs tasks q d result
  | .close number start :: tasks, p, c, result =>
    Leads cs tasks p ((number, (start, p)) :: c) result
  | .turn e least most lazily start :: tasks, p, c, result =>
    if p = start then Leads cs tasks p c result
    else ∃ n q d, Matches cs n (.repeat e least most (if lazily then .least else .most)) p c q d ∧
      Leads cs tasks q d result

section Runs

variable {cs : List Char} {e : Expr} {tasks : List Task} {fuel p : Nat} {c : Captures}

theorem run_take {accepts : Char → Bool} (h : e.takes? = some accepts) :
    run cs.toArray (fuel + 1) (.expr e :: tasks) p c
      = match cs[p]? with
        | some x => if accepts x then run cs.toArray fuel tasks (p + 1) c else none
        | none => none := by
  cases e with
  | char _ | any _ | set _ _ _ =>
      cases h
      cases hat : cs[p]? with
      | none | some x => simp only [run, List.getElem?_toArray, hat]
  | _ => cases h

/-- A repetition takes another turn, or has enough of them; which of the two is tried first
    its greed says. -/
theorem run_repeat {least : Nat} {most : Option Nat} {greed : Greed} (h : greed ≠ .only) :
    run cs.toArray (fuel + 1) (.expr (.repeat e least most greed) :: tasks) p c
      = let more := run cs.toArray fuel (.expr e ::
          .turn e (least - 1) (most.map (· - 1)) (greed == .least) p :: tasks) p c
        let enough := run cs.toArray fuel tasks p c
        if 0 < least then more
        else if most = some 0 then enough
        else if greed = .least then enough.or more else more.or enough := by
  rw [run]
  · cases greed with
    | only => exact absurd rfl h
    | most | least =>
        simp only [beq_iff_eq, reduceCtorEq, if_false, if_true]
        split
        · rfl
        · split
          · rfl
          · -- What comes second is only run if the first one fails, which does not change what is
            -- found.
            cases run cs.toArray fuel tasks p c <;>
              cases run cs.toArray fuel (_ :: _ :: tasks) p c <;> rfl
  · exact h

/-- A turn keeps the greed of its repetition. -/
theorem turn_greed {greed : Greed} (h : greed ≠ .only) :
    (if (greed == .least) = true then Greed.least else .most) = greed := by
  cases greed with
  | only => exact absurd rfl h
  | most | least => rfl

/-- The next turn of a repetition, and what comes behind it. -/
theorem leads_of_turn {least : Nat} {most : Option Nat} {greed : Greed}
    {result : Nat × Captures} (hgreed : greed ≠ .only) (hturn : 0 < least ∨ most ≠ some 0)
    (h : Leads cs (.expr e :: .turn e (least - 1) (most.map (· - 1)) (greed == .least) p :: tasks)
      p c result) : Leads cs (.expr (.repeat e least most greed) :: tasks) p c result := by
  rcases h with ⟨n, q, d, hmatches, hrest⟩
  rw [Leads] at hrest
  by_cases hq : q = p
  · rw [if_pos hq] at hrest
    subst hq
    exact ⟨_, q, d, .last greed hturn hmatches, hrest⟩
  · rw [if_neg hq] at hrest
    rcases hrest with ⟨m, r, f, hothers, hrest⟩
    rw [turn_greed hgreed] at hothers
    exact ⟨_, r, f, .more hturn (Ne.symm hq) hmatches hothers, hrest⟩

/-- What a run with less room finds for plain tasks is a way. -/
abbrev Sound (cs : List Char) (fuel : Nat) (result : Nat × Captures) : Prop :=
  ∀ tasks p c, (∀ t ∈ tasks, Task.isPlain t = true) → run cs.toArray fuel tasks p c = some result →
    Leads cs tasks p c result

variable {result : Nat × Captures}

theorem leads_of_take {accepts : Char → Bool} (ih : Sound cs fuel result)
    (htasks : ∀ t ∈ tasks, t.isPlain = true) (htakes : e.takes? = some accepts)
    (h : run cs.toArray (fuel + 1) (.expr e :: tasks) p c = some result) :
    Leads cs (.expr e :: tasks) p c result := by
  rw [run_take htakes] at h
  split at h
  · next x hat =>
      split at h
      · next hx => exact ⟨1, p + 1, c, .take c htakes hat hx, ih _ _ _ htasks h⟩
      · cases h
  · cases h

theorem leads_of_repeat {least : Nat} {most : Option Nat} {greed : Greed}
    (ih : Sound cs fuel result) (htasks : ∀ t ∈ tasks, t.isPlain = true)
    (he : e.isPlain = true) (hgreed : greed ≠ .only)
    (h : run cs.toArray (fuel + 1) (.expr (.repeat e least most greed) :: tasks) p c
      = some result) : Leads cs (.expr (.repeat e least most greed) :: tasks) p c result := by
  -- A repetition takes another turn or has had enough. Which of them comes first is no matter here,
  -- since either gives a way.
  have hmore (hturn : 0 < least ∨ most ≠ some 0)
      (h : run cs.toArray fuel (.expr e ::
        .turn e (least - 1) (most.map (· - 1)) (greed == .least) p :: tasks) p c = some result) :
      Leads cs (.expr (.repeat e least most greed) :: tasks) p c result :=
    leads_of_turn hgreed hturn (ih _ _ _
      (List.forall_mem_cons.mpr ⟨he, List.forall_mem_cons.mpr ⟨he, htasks⟩⟩) h)
  have henough (hleast : least = 0) (h : run cs.toArray fuel tasks p c = some result) :
      Leads cs (.expr (.repeat e least most greed) :: tasks) p c result :=
    ⟨1, p, c, hleast ▸ .enough e most greed p c, ih _ _ _ htasks h⟩
  rw [run_repeat hgreed] at h
  simp only [] at h
  split at h
  · next hleast => exact hmore (Or.inl hleast) h
  · next hleast =>
      have hzero : least = 0 := Nat.eq_zero_of_not_pos hleast
      split at h
      · exact henough hzero h
      · next hmost =>
          split at h
          · rcases Option.or_eq_some_iff.mp h with h | ⟨_, h⟩
            · exact henough hzero h
            · exact hmore (Or.inr hmost) h
          · rcases Option.or_eq_some_iff.mp h with h | ⟨_, h⟩
            · exact hmore (Or.inr hmost) h
            · exact henough hzero h

/-- The first task of a run is a pattern. -/
theorem leads_of_expr (ih : Sound cs fuel result) (htasks : ∀ t ∈ tasks, t.isPlain = true)
    (he : e.isPlain = true) (h : run cs.toArray (fuel + 1) (.expr e :: tasks) p c = some result) :
    Leads cs (.expr e :: tasks) p c result := by
  cases e with
  | empty => exact ⟨1, p, c, .empty p c, ih _ _ _ htasks h⟩
  | fail => cases h
  | char _ | any _ | set _ _ _ => exact leads_of_take ih htasks rfl h
  | place at_ =>
      rw [run] at h
      split at h
      · next hholds => exact ⟨1, p, c, .place c hholds, ih _ _ _ htasks h⟩
      · cases h
  | seq a b =>
      rw [Expr.isPlain, Bool.and_eq_true] at he
      have hinner : ∀ t ∈ Task.expr a :: .expr b :: tasks, t.isPlain = true :=
        List.forall_mem_cons.mpr ⟨he.1, List.forall_mem_cons.mpr ⟨he.2, htasks⟩⟩
      -- The run goes on with both parts as tasks, so its way is one of the first and then one of
      -- the second.
      rcases ih _ _ _ hinner h with ⟨m, q, d, ha, n, r, f, hb, hrest⟩
      exact ⟨_, r, f, .seq ha hb, hrest⟩
  | alt a b =>
      rw [Expr.isPlain, Bool.and_eq_true] at he
      have hinner {x : Expr} (hx : x.isPlain = true) : ∀ t ∈ Task.expr x :: tasks, t.isPlain = true :=
        List.forall_mem_cons.mpr ⟨hx, htasks⟩
      rw [run] at h
      split at h
      · next found hfound =>
          rcases ih _ _ _ (hinner he.1) (hfound.trans h) with ⟨n, q, d, ha, hrest⟩
          exact ⟨_, q, d, .first b ha, hrest⟩
      · rcases ih _ _ _ (hinner he.2) h with ⟨n, q, d, hb, hrest⟩
        exact ⟨_, q, d, .second a hb, hrest⟩
  | group number e =>
      have hinner : ∀ t ∈ Task.expr e :: .close number p :: tasks, t.isPlain = true :=
        List.forall_mem_cons.mpr ⟨he, List.forall_mem_cons.mpr ⟨rfl, htasks⟩⟩
      rcases ih _ _ _ hinner h with ⟨n, q, d, hmatches, hrest⟩
      exact ⟨_, q, _, .group number hmatches, hrest⟩
  | «repeat» e least most greed =>
      rw [Expr.isPlain, Bool.and_eq_true, bne_iff_ne] at he
      exact leads_of_repeat ih htasks he.1 he.2 h
  | _ => cases he

/-- A run finds nothing but ways. -/
theorem leads_of_run (fuel : Nat) : Sound cs fuel result := by
  induction fuel with
  | zero => exact fun _ _ _ _ h => (by cases h)
  | succ fuel ih =>
      intro tasks p c hplain h
      cases tasks with
      | nil => exact (Option.some.inj h).symm
      | cons t tasks =>
          rw [List.forall_mem_cons] at hplain
          rcases hplain with ⟨hown, htasks⟩
          cases t with
          | expr e => exact leads_of_expr ih htasks hown h
          | close number start => exact ih tasks p _ htasks h
          | turn e least most lazily start =>
              rw [run] at h
              rw [Leads]
              -- A turn that has taken nothing is the last one.
              by_cases hp : p = start
              · rw [if_pos (beq_iff_eq.mpr hp)] at h
                rw [if_pos hp]
                exact ih _ _ _ htasks h
              · rw [if_neg (by simpa using hp)] at h
                rw [if_neg hp]
                refine ih _ _ _ (List.forall_mem_cons.mpr ⟨?_, htasks⟩) h
                rw [Task.isPlain] at hown
                rw [Task.isPlain, Expr.isPlain, hown]
                cases lazily <;> rfl

/-- A repetition that takes another turn. -/
theorem isSome_run_turn {least : Nat} {most : Option Nat} {greed : Greed} (hgreed : greed ≠ .only)
    (hturn : 0 < least ∨ most ≠ some 0)
    (h : (run cs.toArray fuel (.expr e ::
      .turn e (least - 1) (most.map (· - 1)) (greed == .least) p :: tasks) p c).isSome = true) :
    (run cs.toArray (fuel + 1) (.expr (.repeat e least most greed) :: tasks) p c).isSome = true := by
  rw [run_repeat hgreed]
  simp only []
  split
  · exact h
  · next hleast =>
      rw [if_neg (hturn.resolve_left hleast)]
      split
      · rw [Option.isSome_or, h, Bool.or_true]
      · rw [Option.isSome_or, h, Bool.true_or]

/-- If there is a way, a run with room for its tasks finds one. -/
theorem isSome_run {n q : Nat} {d : Captures} (h : Matches cs n e p c q d)
    (hplain : e.isPlain = true) (fuel : Nat) (tasks : List Task)
    (hrest : (run cs.toArray fuel tasks q d).isSome = true) :
    (run cs.toArray (fuel + n) (.expr e :: tasks) p c).isSome = true := by
  induction h generalizing fuel tasks with
  | empty p c => exact hrest
  | take c htakes hat hx =>
      rw [run_take htakes, hat]
      simp only [hx, if_true]
      exact hrest
  | place c hholds =>
      rw [run, if_pos hholds]
      exact hrest
  | @seq a b m n _ _ _ _ _ _ ha hb iha ihb =>
      rw [Expr.isPlain, Bool.and_eq_true] at hplain
      -- What the second part costs is left to the tasks behind the first.
      have hsplit : fuel + (m + n + 1) = fuel + n + m + 1 := by omega
      -- The first alternative may lead to another way; then there is one all the same.
      rw [hsplit]
      exact iha hplain.1 _ _ (ihb hplain.2 _ _ hrest)
  | @first a b n _ _ _ _ ha ih =>
      rw [Expr.isPlain, Bool.and_eq_true] at hplain
      -- Something is found with the first alternative, so the second one is not tried.
      have hfirst := ih hplain.1 fuel tasks hrest
      rw [← Nat.add_assoc, run]
      split
      · rfl
      · next hnone =>
          rw [hnone] at hfirst
          cases hfirst
  | @second a b n _ _ _ _ hb ih =>
      rw [Expr.isPlain, Bool.and_eq_true] at hplain
      rw [← Nat.add_assoc, run]
      split
      · rfl
      · exact ih hplain.2 fuel tasks hrest
  | @group number e n _ _ _ _ he ih =>
      have hclosed : (run cs.toArray (fuel + 1) (.close number _ :: tasks) _ _).isSome = true := hrest
      have hinner := ih hplain _ _ hclosed
      have hsplit : fuel + (n + 2) = fuel + 1 + n + 1 := by omega
      rw [hsplit]
      exact hinner
  | enough e most greed p c =>
      rw [Expr.isPlain, Bool.and_eq_true, bne_iff_ne] at hplain
      rw [run_repeat hplain.2, if_neg (Nat.lt_irrefl 0)]
      split
      · exact hrest
      · split
        · rw [Option.isSome_or, hrest, Bool.true_or]
        · rw [Option.isSome_or, hrest, Bool.or_true]
  | @last e least n p most greed _ _ hturn he ih =>
      rw [Expr.isPlain, Bool.and_eq_true, bne_iff_ne] at hplain
      have hsplit : fuel + (n + 2) = fuel + 1 + n + 1 := by omega
      rw [hsplit]
      refine isSome_run_turn hplain.2 hturn (ih hplain.1 _ _ ?_)
      -- A turn that takes nothing ends the repetition, with the unit of fuel that is left for it.
      rw [run, if_pos (beq_self_eq_true p)]
      exact hrest
  | @more e least m n p q _ most greed _ _ _ hturn hmoved he hothers ihe ihothers =>
      have hown := hplain
      rw [Expr.isPlain, Bool.and_eq_true, bne_iff_ne] at hown
      have hsplit : fuel + (m + n + 2) = fuel + n + 1 + m + 1 := by omega
      rw [hsplit]
      refine isSome_run_turn hown.2 hturn (ihe hown.1 _ _ ?_)
      rw [run, if_neg (by simpa using Ne.symm hmoved), turn_greed hown.2]
      exact ihothers hplain _ _ hrest

end Runs

/-- The first way in which a pattern matches at the start of a text, as what its groups match. -/
def Expr.match? (e : Expr) (cs : List Char) : Option Captures :=
  (run cs.toArray (e.bound cs.length) [.expr e] 0 []).map (·.2)

/-- The texts that the first groups of a pattern match at the start of a text. -/
def Expr.groups? (e : Expr) (count : Nat) (cs : List Char) :
    Option (List (Option (List Char))) :=
  (e.match? cs).map fun found => (List.range' 1 count).map fun number =>
    (found.lookup number).map fun (start, stop) => (cs.drop start).take (stop - start)

/-- A pattern that has no two ways matches in the one that it has, if there is room for it. -/
theorem match?_eq_some_iff {e : Expr} {cs : List Char} {d : Captures} (hplain : e.isPlain = true)
    (hunique : ∀ m n q r f g, Matches cs m e 0 [] q f → Matches cs n e 0 [] r g → f = g)
    (hroom : ∀ n q f, Matches cs n e 0 [] q f → n < e.bound cs.length) :
    e.match? cs = some d ↔ ∃ n q, Matches cs n e 0 [] q d := by
  have hsound {result : Nat × Captures}
      (h : run cs.toArray (e.bound cs.length) [.expr e] 0 [] = some result) :
      ∃ n q, Matches cs n e 0 [] q result.2 := by
    rcases leads_of_run _ [.expr e] 0 [] (List.forall_mem_singleton.mpr hplain) h
      with ⟨n, q, d, hmatches, hend⟩
    rw [Leads] at hend
    exact ⟨n, q, hend ▸ hmatches⟩
  unfold Expr.match?
  constructor
  · intro h
    rcases Option.map_eq_some_iff.mp h with ⟨result, hrun, rfl⟩
    exact hsound hrun
  · rintro ⟨n, q, h⟩
    obtain ⟨fuel, hfuel⟩ := Nat.exists_eq_add_of_lt (hroom n q d h)
    -- The fuel of a run is above the cost of any way.
    have hsome : (run cs.toArray (e.bound cs.length) [.expr e] 0 []).isSome = true := by
      rw [hfuel, show n + fuel + 1 = fuel + 1 + n by omega]
      exact isSome_run h hplain _ _ rfl
    rcases Option.isSome_iff_exists.mp hsome with ⟨result, hrun⟩
    rcases hsound hrun with ⟨m, r, hfound⟩
    rw [hrun, Option.map_some, hunique m n r q _ _ hfound h]

section Forms

variable {cs : List Char} {e a b : Expr} {n p q : Nat} {c d : Captures}

/-- A stretch of a text, between two places. -/
structure Passes (cs : List Char) (p : Nat) (part : List Char) (q : Nat) : Prop where
  drop : cs.drop p = part ++ cs.drop q
  length : q = p + part.length

theorem Passes.nil (cs : List Char) (p : Nat) : Passes cs p [] p := ⟨rfl, rfl⟩

theorem Passes.append {r : Nat} {part more : List Char} (h : Passes cs p part q)
    (hmore : Passes cs q more r) : Passes cs p (part ++ more) r :=
  ⟨by rw [h.drop, hmore.drop, List.append_assoc],
    by rw [hmore.length, h.length, List.length_append, Nat.add_assoc]⟩

/-- Every start of what is left of a text is a stretch. -/
theorem passes_of_drop {part rest : List Char} (h : cs.drop p = part ++ rest) :
    Passes cs p part (p + part.length) :=
  ⟨by rw [← List.drop_drop, h, List.drop_left], rfl⟩

theorem Passes.all {part : List Char} (h : cs = part) : Passes cs 0 part cs.length :=
  ⟨by rw [List.drop_length, List.append_nil, List.drop_zero, h], by rw [h, Nat.zero_add]⟩

theorem Passes.split {u v : List Char} (h : Passes cs p (u ++ v) q) :
    Passes cs p u (p + u.length) ∧ Passes cs (p + u.length) v q := by
  have hdrop : cs.drop p = u ++ (v ++ cs.drop q) := by rw [h.drop, List.append_assoc]
  refine ⟨passes_of_drop hdrop, ?_, ?_⟩
  · rw [← List.drop_drop, hdrop, List.drop_left]
  · rw [h.length, List.length_append, Nat.add_assoc]

/-- A stretch as it is cut out of the text. -/
theorem Passes.take {part : List Char} (h : Passes cs p part q) :
    (cs.drop p).take (q - p) = part := by
  rw [h.drop, h.length, Nat.add_sub_cancel_left, List.take_left]

theorem passes_singleton_iff {x : Char} : Passes cs p [x] q ↔ cs[p]? = some x ∧ q = p + 1 := by
  constructor
  · intro h
    have hlength : q = p + 1 := h.length
    have hdrop := congrArg List.head? h.drop
    rw [List.head?_drop] at hdrop
    exact ⟨hdrop, hlength⟩
  · rintro ⟨hat, rfl⟩
    rcases List.getElem?_eq_some_iff.mp hat with ⟨hp, rfl⟩
    exact ⟨List.drop_eq_getElem_cons hp, rfl⟩

theorem matches_seq_iff : Matches cs n (.seq a b) p c q d ↔
    ∃ m k r f, Matches cs m a p c r f ∧ Matches cs k b r f q d ∧ n = m + k + 1 := by
  constructor
  · intro h
    cases h with
    | take _ htakes => cases htakes
    | seq ha hb => exact ⟨_, _, _, _, ha, hb, rfl⟩
  · rintro ⟨m, k, r, f, ha, hb, rfl⟩
    exact .seq ha hb

theorem matches_group_iff {number : Nat} : Matches cs n (.group number e) p c q d ↔
    ∃ m f, Matches cs m e p c q f ∧ d = (number, (p, q)) :: f ∧ n = m + 2 := by
  constructor
  · intro h
    cases h with
    | take _ htakes => cases htakes
    | group _ he => exact ⟨_, _, he, rfl, rfl⟩
  · rintro ⟨m, f, he, rfl, rfl⟩
    exact .group number he

theorem matches_place_iff {at_ : Place} : Matches cs n (.place at_) p c q d ↔
    at_.holds cs.toArray p = true ∧ q = p ∧ d = c ∧ n = 1 := by
  constructor
  · intro h
    cases h with
    | take _ htakes => cases htakes
    | place _ hholds => exact ⟨hholds, rfl, rfl, rfl⟩
  · rintro ⟨hholds, rfl, rfl, rfl⟩
    exact .place _ hholds

/-- The way of a pattern for a single character. -/
theorem matches_take_iff {accepts : Char → Bool} (he : e.takes? = some accepts) :
    Matches cs n e p c q d ↔ ∃ x, Passes cs p [x] q ∧ accepts x = true ∧ d = c ∧ n = 1 := by
  constructor
  · intro h
    cases h with
    | take _ htakes hat hx =>
        rw [he] at htakes
        cases htakes
        exact ⟨_, passes_singleton_iff.mpr ⟨hat, rfl⟩, hx, rfl, rfl⟩
    | _ => cases he
  · rintro ⟨x, hx, haccepts, rfl, rfl⟩
    rcases passes_singleton_iff.mp hx with ⟨hat, rfl⟩
    exact .take _ he hat haccepts

/-- The ways of a repetition of a single character are the stretches of such characters. -/
theorem matches_repeat_iff {accepts : Char → Bool} {least : Nat} {greed : Greed}
    (he : e.takes? = some accepts) : Matches cs n (.repeat e least none greed) p c q d ↔
      ∃ part, Passes cs p part q ∧ (∀ x ∈ part, accepts x = true) ∧ least ≤ part.length ∧
        d = c ∧ n = 3 * part.length + 1 := by
  constructor
  · intro h
    generalize hr : Expr.repeat e least none greed = whole at h
    induction h generalizing least with
    | take _ htakes => subst hr; cases htakes
    | enough _ _ _ p c =>
        cases hr
        exact ⟨[], Passes.nil cs p, fun _ hx => absurd hx List.not_mem_nil, Nat.le_refl 0, rfl, rfl⟩
    | last _ _ hturn =>
        cases hr
        -- A single character is always taken, so no turn is without one.
        rcases (matches_take_iff he).mp hturn with ⟨x, hx, _⟩
        have hlength := hx.length
        simp at hlength
    | more _ _ hturn _ _ ih =>
        cases hr
        rcases (matches_take_iff he).mp hturn with ⟨x, hx, haccepts, rfl, rfl⟩
        rcases ih rfl with ⟨part, hpart, hall, hleast, rfl, rfl⟩
        refine ⟨x :: part, hx.append hpart, List.forall_mem_cons.mpr ⟨haccepts, hall⟩, ?_, rfl, ?_⟩
        · rw [List.length_cons]
          omega
        · rw [List.length_cons]
          omega
    | _ => cases hr
  · rintro ⟨part, hpart, hall, hleast, rfl, rfl⟩
    -- On the characters that are taken, one turn for each.
    induction part generalizing p least with
    | nil =>
        cases hpart.length
        rw [Nat.le_zero.mp hleast]
        exact .enough e none greed p d
    | cons x part ih =>
        rw [List.forall_mem_cons] at hall
        have hdrop : cs.drop p = [x] ++ (part ++ cs.drop q) := hpart.drop
        have hx : Passes cs p [x] (p + 1) := passes_of_drop hdrop
        have hrest : Passes cs (p + 1) part q :=
          ⟨by rw [← List.drop_drop, hdrop]; rfl,
            by rw [hpart.length, List.length_cons]; omega⟩
        have hturn : Matches cs 1 e p d (p + 1) d :=
          (matches_take_iff he).mpr ⟨x, hx, hall.1, rfl, rfl⟩
        rw [List.length_cons] at hleast
        have hothers : Matches cs (3 * part.length + 1) (.repeat e (least - 1) none greed)
            (p + 1) d q d := ih hrest hall.2 (by omega)
        have hcost : 3 * (x :: part).length + 1 = 1 + (3 * part.length + 1) + 2 := by
          rw [List.length_cons]
          omega
        rw [hcost]
        exact .more (Or.inr (by simp)) (by omega) hturn hothers

end Forms

/-- A pattern matches the texts of a kind, wherever they stand, and sets no group. The tasks on
    a way are bounded by what it matches. -/
structure Spans (e : Expr) (extra : Nat) (ofKind : List Char → Prop) : Prop where
  sound : ∀ {cs n p c q d}, Matches cs n e p c q d →
    ∃ part, Passes cs p part q ∧ ofKind part ∧ d = c ∧ n ≤ 3 * part.length + extra
  complete : ∀ {cs p q part} (c), Passes cs p part q → ofKind part → ∃ n, Matches cs n e p c q c

namespace Spans

variable {e a b : Expr} {j k : Nat} {ofKind ofOther : List Char → Prop} {accepts : Char → Bool}

theorem congr (h : Spans e k ofKind) (hkind : ∀ part, ofKind part ↔ ofOther part) :
    Spans e k ofOther where
  sound := by
    intro cs n p c q d hmatches
    rcases h.sound hmatches with ⟨part, hpart, hof, hcost⟩
    exact ⟨part, hpart, (hkind part).mp hof, hcost⟩
  complete c hpart hof := h.complete c hpart ((hkind _).mpr hof)

theorem take (he : e.takes? = some accepts) :
    Spans e 0 fun part => ∃ x, part = [x] ∧ accepts x = true where
  sound := by
    intro cs n p c q d hmatches
    rcases (matches_take_iff he).mp hmatches with ⟨x, hx, haccepts, rfl, rfl⟩
    exact ⟨[x], hx, ⟨x, rfl, haccepts⟩, rfl, (by simp)⟩
  complete := by
    rintro cs p q part c hpart ⟨x, rfl, haccepts⟩
    exact ⟨1, (matches_take_iff he).mpr ⟨x, hpart, haccepts, rfl, rfl⟩⟩

theorem «repeat» (he : e.takes? = some accepts) (least : Nat) (greed : Greed) :
    Spans (.repeat e least none greed) 1 fun part =>
      least ≤ part.length ∧ ∀ x ∈ part, accepts x = true where
  sound := by
    intro cs n p c q d hmatches
    rcases (matches_repeat_iff he).mp hmatches with ⟨part, hpart, hall, hleast, hd, hn⟩
    exact ⟨part, hpart, ⟨hleast, hall⟩, hd, Nat.le_of_eq hn⟩
  complete := by
    rintro cs p q part c hpart ⟨hleast, hall⟩
    exact ⟨_, (matches_repeat_iff he).mpr ⟨part, hpart, hall, hleast, rfl, rfl⟩⟩

theorem seq (ha : Spans a j ofKind) (hb : Spans b k ofOther) :
    Spans (.seq a b) (j + k + 1) fun part => ∃ u v, part = u ++ v ∧ ofKind u ∧ ofOther v where
  sound := by
    intro cs n p c q d hmatches
    rcases matches_seq_iff.mp hmatches with ⟨m, l, r, f, hfirst, hsecond, rfl⟩
    rcases ha.sound hfirst with ⟨u, hu, hof, rfl, hm⟩
    rcases hb.sound hsecond with ⟨v, hv, hother, rfl, hl⟩
    refine ⟨u ++ v, hu.append hv, ⟨u, v, rfl, hof, hother⟩, rfl, ?_⟩
    rw [List.length_append]
    omega
  complete := by
    rintro cs p q _ c hpart ⟨u, v, rfl, hof, hother⟩
    rcases hpart.split with ⟨hu, hv⟩
    rcases ha.complete c hu hof with ⟨m, hfirst⟩
    rcases hb.complete c hv hother with ⟨n, hsecond⟩
    exact ⟨_, .seq hfirst hsecond⟩

/-- A part that may be missing. -/
theorem optional (h : Spans e k ofKind) (greed : Greed) :
    Spans (.repeat e 0 (some 1) greed) (k + 3) fun part => part = [] ∨ ofKind part where
  sound := by
    intro cs n p c q d hmatches
    cases hmatches with
    | take _ htakes => cases htakes
    | enough =>
        exact ⟨[], Passes.nil cs p, Or.inl rfl, rfl, (by omega)⟩
    | last _ _ hturn =>
        rcases h.sound hturn with ⟨part, hpart, hof, hd, hn⟩
        exact ⟨part, hpart, Or.inr hof, hd, (by omega)⟩
    | more _ _ hturn hothers =>
        rcases h.sound hturn with ⟨part, hpart, hof, rfl, hn⟩
        -- One turn is all that there may be.
        have hnone : ¬ (0 < 0 - 1 ∨ (some 1).map (· - 1) ≠ some 0) := by simp
        cases hothers with
        | take _ htakes => cases htakes
        | enough => exact ⟨part, hpart, Or.inr hof, rfl, (by omega)⟩
        | last _ hagain => exact absurd hagain hnone
        | more hagain => exact absurd hagain hnone
  complete := by
    intro cs p q part c hpart hof
    by_cases hmoved : p = q
    · subst hmoved
      exact ⟨_, .enough e (some 1) greed p c⟩
    · have hkind : ofKind part := by
        refine hof.resolve_left fun hnil => hmoved ?_
        rw [hpart.length, hnil]
        rfl
      rcases h.complete c hpart hkind with ⟨n, hturn⟩
      exact ⟨_, .more (Or.inr (by simp)) hmoved hturn (.enough e (some 0) greed q c)⟩

variable {cs part : List Char} {n p q r number : Nat} {c d : Captures}

/-- What the first of two patterns matches is taken off. -/
theorem split_seq (h : Spans a k ofKind) (hmatches : Matches cs n (.seq a b) p c q d) :
    ∃ part m r, Passes cs p part r ∧ ofKind part ∧ Matches cs m b r c q d ∧
      n ≤ 3 * part.length + k + m + 1 := by
  rcases matches_seq_iff.mp hmatches with ⟨m, l, r, f, hfirst, hsecond, rfl⟩
  rcases h.sound hfirst with ⟨part, hpart, hof, rfl, hcost⟩
  exact ⟨part, l, r, hpart, hof, hsecond, (by omega)⟩

theorem seq_of_passes (h : Spans a k ofKind) (hpart : Passes cs p part r) (hof : ofKind part)
    (hrest : ∃ m, Matches cs m b r c q d) : ∃ n, Matches cs n (.seq a b) p c q d := by
  rcases h.complete c hpart hof with ⟨m, hfirst⟩
  rcases hrest with ⟨n, hsecond⟩
  exact ⟨_, .seq hfirst hsecond⟩

/-- What a group before another pattern matches is taken off, and kept. -/
theorem split_group (h : Spans a k ofKind)
    (hmatches : Matches cs n (.seq (.group number a) b) p c q d) :
    ∃ part m r, Passes cs p part r ∧ ofKind part ∧
      Matches cs m b r ((number, (p, r)) :: c) q d ∧ n ≤ 3 * part.length + k + m + 3 := by
  rcases matches_seq_iff.mp hmatches with ⟨m, l, r, f, hgroup, hsecond, rfl⟩
  rcases matches_group_iff.mp hgroup with ⟨_, _, hfirst, rfl, rfl⟩
  rcases h.sound hfirst with ⟨part, hpart, hof, rfl, hcost⟩
  exact ⟨part, l, r, hpart, hof, hsecond, (by omega)⟩

theorem group_of_passes (h : Spans a k ofKind) (hpart : Passes cs p part r) (hof : ofKind part)
    (hrest : ∃ m, Matches cs m b r ((number, (p, r)) :: c) q d) :
    ∃ n, Matches cs n (.seq (.group number a) b) p c q d := by
  rcases h.complete c hpart hof with ⟨m, hfirst⟩
  rcases hrest with ⟨n, hsecond⟩
  exact ⟨_, .seq (.group number hfirst) hsecond⟩

end Spans

/-- The pattern of a word, from its first character on. -/
def Expr.spelled (first : Char) : List Char → Expr
  | [] => .char first.toNat
  | next :: rest => .seq (.char first.toNat) (spelled next rest)

theorem spans_char (x : Char) : Spans (.char x.toNat) 0 (· = [x]) := by
  have htakes : (Expr.char x.toNat).takes? = some fun c => c.toNat == x.toNat := rfl
  refine (Spans.take htakes).congr fun part => ?_
  constructor
  · rintro ⟨c, rfl, hc⟩
    rw [Char.toNat_inj.mp (beq_iff_eq.mp hc)]
  · rintro rfl
    exact ⟨x, rfl, beq_self_eq_true _⟩

theorem spans_spelled (first : Char) (rest : List Char) :
    Spans (.spelled first rest) rest.length (· = first :: rest) := by
  induction rest generalizing first with
  | nil => exact spans_char first
  | cons next rest ih =>
      have hword := (spans_char first).seq (ih next)
      rw [Nat.zero_add] at hword
      refine hword.congr fun part => ⟨?_, ?_⟩
      · rintro ⟨u, v, rfl, rfl, rfl⟩
        rfl
      · rintro rfl
        exact ⟨[first], next :: rest, rfl, rfl, rfl⟩

end Pattern

end Annals
