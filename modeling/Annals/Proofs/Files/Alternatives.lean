import Mathlib.Data.List.Basic
import Mathlib.Data.List.TakeWhile
import Annals.Files.Brace
import Annals.Proofs.Text.Lines

/-!
# The Language of a Pattern with Alternatives

What a pattern stands for is meant as a tree: characters that stand for themselves, and
groups of at least two alternatives, each of them a pattern again. `Tree.choices` are the
texts that come of it if one alternative is chosen in every group.

A pattern is not read into such a tree when it is expanded. What happens is rewriting of
the text: the first pair of braces with a comma and no other brace between them is replaced
by each of its alternatives, and everything is looked through again. In a pattern with
groups inside of groups this is an inner group, so a group is only replaced when all of its
alternatives have become plain texts. `Tree.mem_expansions` follows this order. A part of a
pattern, behind a text without closing braces, may be replaced by its choices, one after
another from left to right, and at the closing brace of a group the group is the first one.

An alternative that is not chosen is expanded all the same, so with groups inside of groups
a text may come several times, and only the set of texts is that of the tree. Without them
it is the list of choices as it is, the leftmost group being the slowest.

Each step takes one opening brace away. So rewriting comes to an end for every text, whether
its braces match or not, and what comes out has no group left.

## Main definitions

* `Brace.Tree`, `Brace.Group`: Patterns as they are meant.
* `Brace.Tree.choices`: The texts that come of choosing in every group.
* `Brace.Rewrites`: One group is replaced by one of its alternatives.

## Theorems

* `findGroup?_eq_some`, `findGroup?_eq_none_iff`: The first group of a text.
* `expansions_eq`: Expanding is replacing the first group and expanding again.
* `wellFounded_rewrites`: There is no end to no rewriting.
* `Tree.mem_expansions`, `Tree.expansions_flat`: A part of a pattern and its choices.
* `expand_choices`: What a pattern stands for.
-/

namespace Annals

namespace Brace

section Groups

variable {cs before body after : List Char}

theorem brace_open : isBrace '\x7b' = true := rfl

theorem brace_close : isBrace '\x7d' = true := rfl

/-- The text between an opening brace and the next brace. -/
theorem takeWhile_body (h : ∀ c ∈ body, isBrace c = false) (after : List Char) :
    (body ++ '\x7d' :: after).takeWhile (!isBrace ·) = body ∧
      (body ++ '\x7d' :: after).dropWhile (!isBrace ·) = '\x7d' :: after := by
  have hbody : ∀ c ∈ body, (!isBrace c) = true := fun c hc => by rw [h c hc]; rfl
  rw [List.takeWhile_append_of_pos hbody, List.dropWhile_append_of_pos hbody]
  simp [brace_close]

/-- What is found of a text is its first group: there is a body without braces and with a
    comma between its braces. -/
theorem findGroup?_eq_some {options : List (List Char)}
    (h : findGroup? cs = some (before, options, after)) :
    ∃ body, cs = before ++ '\x7b' :: (body ++ '\x7d' :: after) ∧
      options = Text.splitOn ',' body ∧ ',' ∈ body ∧ ∀ c ∈ body, isBrace c = false := by
  induction cs generalizing before with
  | nil => cases h
  | cons c rest ih =>
      rw [findGroup?] at h
      simp only [] at h
      split at h
      · next hgroup =>
          cases h
          simp only [Bool.and_eq_true, beq_iff_eq, List.contains_iff_mem] at hgroup
          rcases hgroup with ⟨⟨rfl, hcomma⟩, hclose⟩
          -- The group begins here: a comma and the closing brace have been looked for.
          refine ⟨rest.takeWhile (!isBrace ·), ?_, rfl, hcomma, fun c hc => ?_⟩
          · rw [List.nil_append, List.drop_one, ← List.eq_cons_of_mem_head? hclose,
              List.takeWhile_append_dropWhile]
          · simpa using List.mem_takeWhile_imp hc
      · -- It begins later, and this character stands before it.
        rcases Option.map_eq_some_iff.mp h with ⟨⟨front, others, back⟩, hrest, heq⟩
        cases heq
        rcases ih hrest with ⟨body, rfl, hbody⟩
        exact ⟨body, rfl, hbody⟩

/-- A group that stands first is found. -/
theorem findGroup?_group (hbody : ∀ c ∈ body, isBrace c = false) (hcomma : ',' ∈ body) :
    findGroup? ('\x7b' :: (body ++ '\x7d' :: after)) = some ([], Text.splitOn ',' body, after) := by
  rcases takeWhile_body hbody after with ⟨htake, hdrop⟩
  rw [findGroup?]
  simp [htake, hdrop, hcomma]

/-- In front of a group nothing is found that is no group by itself: without a closing brace
    there is no group, and one that is open cannot reach over the next opening brace. -/
theorem findGroup?_append (hbefore : '\x7d' ∉ before) (hbody : ∀ c ∈ body, isBrace c = false)
    (hcomma : ',' ∈ body) :
    findGroup? (before ++ '\x7b' :: (body ++ '\x7d' :: after))
      = some (before, Text.splitOn ',' body, after) := by
  induction before with
  | nil => exact findGroup?_group hbody hcomma
  | cons c before ih =>
      have hrest := ih fun hmem => hbefore (List.mem_cons_of_mem _ hmem)
      -- The first brace behind the opening one decides whether a group closes. It opens another
      -- group, or is the one that opens the group looked for.
      have hhead (cs : List Char) (hcs : '\x7d' ∉ cs) (own : List Char) :
          ((cs ++ '\x7b' :: own).dropWhile (!isBrace ·)).head? ≠ some '\x7d' := by
        induction cs with
        | nil => simp [brace_open]
        | cons d cs ih =>
            rw [List.cons_append, List.dropWhile_cons]
            split
            · exact ih fun hmem => hcs (List.mem_cons_of_mem _ hmem)
            · rintro heq
              exact hcs (Option.some.inj heq ▸ List.mem_cons_self ..)
      have hopen := hhead before (fun hmem => hbefore (List.mem_cons_of_mem _ hmem))
        (body ++ '\x7d' :: after)
      rw [List.cons_append, findGroup?]
      simp only [beq_eq_false_iff_ne.mpr hopen, Bool.and_false, Bool.false_eq_true, if_false, hrest]
      rfl

/-- Nothing is found of a text only if no pair of braces in it has a comma and no other
    brace inside. -/
theorem findGroup?_eq_none_iff :
    findGroup? cs = none ↔ ∀ before body after, cs = before ++ '\x7b' :: (body ++ '\x7d' :: after) →
      (∀ c ∈ body, isBrace c = false) → ',' ∉ body := by
  constructor
  · intro h before body after hcs hbody hcomma
    -- The brace may stand behind others, and nothing is found from any of these on.
    induction before generalizing cs with
    | nil =>
        rw [hcs, List.nil_append, findGroup?_group hbody hcomma] at h
        cases h
    | cons c before ih =>
        rw [hcs, List.cons_append, findGroup?] at h
        simp only [] at h
        split at h
        · cases h
        · exact ih (Option.map_eq_none_iff.mp h) rfl
  · intro h
    cases hfound : findGroup? cs with
    | none => rfl
    | some found =>
        rcases findGroup?_eq_some hfound with ⟨body, hcs, _, hcomma, hbody⟩
        exact absurd hcomma (h _ _ _ hcs hbody)

end Groups

section Rewriting

variable {cs : List Char}

/-- The first group of a text is replaced by one of its alternatives. -/
def Rewrites (cs next : List Char) : Prop :=
  ∃ before options after, findGroup? cs = some (before, options, after) ∧
    ∃ option ∈ options, next = before ++ option ++ after

/-- An alternative has no braces, so with the group one opening brace goes. -/
theorem Rewrites.count {next : List Char} (h : Rewrites cs next) :
    cs.count '\x7b' = next.count '\x7b' + 1 := by
  rcases h with ⟨before, options, after, hfound, option, hoption, rfl⟩
  rcases findGroup?_eq_some hfound with ⟨body, rfl, rfl, _, hbody⟩
  have hnone (part : List Char) (hpart : part <:+: body) : part.count '\x7b' = 0 := by
    rw [List.count_eq_zero]
    intro hmem
    have hbrace := hbody _ (hpart.mem hmem)
    rw [brace_open] at hbrace
    cases hbrace
  have hclose : '\x7d' ≠ '\x7b' := by decide
  have hinfix : option <:+: body := Text.infix_of_mem_splitOnFrom hoption
  simp only [List.count_append, List.count_cons_self, List.count_cons_of_ne hclose,
    hnone body List.infix_rfl, hnone option hinfix]
  omega

/-- Rewriting comes to an end, whatever the text is. -/
theorem wellFounded_rewrites : WellFounded fun next cs => Rewrites cs next :=
  Subrelation.wf (fun {next cs} (h : Rewrites cs next) =>
    (by rw [h.count]; exact Nat.lt_succ_self _ : next.count '\x7b' < cs.count '\x7b'))
    (measure (List.count '\x7b')).wf

/-- The texts that come of a text. -/
def expansions (cs : List Char) : List (List Char) := expandFor (cs.count '\x7b') cs

/-- As many steps are enough as there are opening braces. The induction is on the number of
    steps that are allowed; each of them takes a brace away. -/
theorem expandFor_eq {fuel : Nat} (h : cs.count '\x7b' ≤ fuel) :
    expandFor fuel cs = match findGroup? cs with
      | none => [cs]
      | some (before, options, after) =>
        options.flatMap fun option => expansions (before ++ option ++ after) := by
  induction fuel using Nat.strongRecOn generalizing cs with
  | _ fuel ih =>
      cases hfound : findGroup? cs with
      | none => cases fuel <;> simp [expandFor, hfound]
      | some found =>
          rcases found with ⟨before, options, after⟩
          cases fuel with
          | zero =>
              rcases findGroup?_eq_some hfound with ⟨body, rfl, _⟩
              exact absurd (List.count_eq_zero.mp (Nat.le_zero.mp h)) (by simp)
          | succ fuel =>
              rw [expandFor, hfound]
              refine List.flatMap_congr fun option hoption => ?_
              -- The rest of the steps is enough for each text that the first group leads to.
              have hcount : cs.count '\x7b' = (before ++ option ++ after).count '\x7b' + 1 :=
                Rewrites.count ⟨before, options, after, hfound, option, hoption, rfl⟩
              rw [ih fuel (Nat.lt_succ_self _) (by omega), expansions,
                ih ((before ++ option ++ after).count '\x7b') (by omega) le_rfl]

/-- Expanding is replacing the first group and expanding again. -/
theorem expansions_eq (cs : List Char) :
    expansions cs = match findGroup? cs with
      | none => [cs]
      | some (before, options, after) =>
        options.flatMap fun option => expansions (before ++ option ++ after) :=
  expandFor_eq le_rfl

/-- What comes out has no group. The induction is on rewriting, which comes to an end. -/
theorem findGroup?_of_mem_expansions {s : List Char} (h : s ∈ expansions cs) :
    findGroup? s = none := by
  induction cs using wellFounded_rewrites.induction with
  | _ cs ih =>
      rw [expansions_eq] at h
      cases hfound : findGroup? cs with
      | none =>
          rw [hfound] at h
          rwa [List.mem_singleton.mp h]
      | some found =>
          rw [hfound] at h
          rcases List.mem_flatMap.mp h with ⟨option, hoption, h⟩
          exact ih _ ⟨_, _, _, hfound, option, hoption, rfl⟩ h

end Rewriting

/-- Whether a character stands for itself. A brace does not, nor a comma inside of a group. -/
def isLiteral (inside : Bool) (c : Char) : Bool := !isBrace c && !(inside && c == ',')

mutual

/-- A pattern as it is meant, inside of a group or not: characters that stand for themselves,
    and groups. -/
inductive Tree : (inside : Bool) → Type where
  | nil {inside : Bool} : Tree inside
  | char {inside : Bool} (c : Char) (literal : isLiteral inside c = true) (rest : Tree inside) :
      Tree inside
  | group {inside : Bool} (g : Group) (rest : Tree inside) : Tree inside

/-- At least two alternatives. -/
inductive Group : Type where
  | two (first second : Tree true) : Group
  | more (first : Tree true) (rest : Group) : Group

end

mutual

/-- How a pattern is written. -/
def Tree.text {inside : Bool} : Tree inside → List Char
  | .nil => []
  | .char c _ rest => c :: rest.text
  | .group g rest => '\x7b' :: (g.text ++ '\x7d' :: rest.text)

/-- How alternatives are written. -/
def Group.text : Group → List Char
  | .two first second => first.text ++ ',' :: second.text
  | .more first rest => first.text ++ ',' :: rest.text

end

/-- A pattern as it is written. -/
def Tree.pattern {inside : Bool} (t : Tree inside) : String := String.ofList t.text

mutual

/-- The texts that come of choosing one alternative in every group, in the order of the
    alternatives, the leftmost group being the slowest. -/
def Tree.choices {inside : Bool} : Tree inside → List (List Char)
  | .nil => [[]]
  | .char c _ rest => rest.choices.map (c :: ·)
  | .group g rest => g.choices.flatMap fun own => rest.choices.map (own ++ ·)

/-- The texts that come of choosing one of several alternatives. -/
def Group.choices : Group → List (List Char)
  | .two first second => first.choices ++ second.choices
  | .more first rest => first.choices ++ rest.choices

end

/-- The ways to choose in all alternatives at once, each with a text for every alternative. -/
def Group.picks : Group → List (List (List Char))
  | .two first second =>
    first.choices.flatMap fun own => (second.choices.map ([·])).map (own :: ·)
  | .more first rest => first.choices.flatMap fun own => rest.picks.map (own :: ·)

/-- Whether a pattern has no group. -/
def Tree.isPlain {inside : Bool} : Tree inside → Bool
  | .nil => true
  | .char _ _ rest => rest.isPlain
  | .group .. => false

/-- Whether no alternative has a group. -/
def Group.isPlain : Group → Bool
  | .two first second => first.isPlain && second.isPlain
  | .more first rest => first.isPlain && rest.isPlain

/-- Whether a pattern has no group inside of a group. -/
def Tree.isFlat {inside : Bool} : Tree inside → Bool
  | .nil => true
  | .char _ _ rest => rest.isFlat
  | .group g rest => g.isPlain && rest.isFlat

section Choices

/-- What is literal inside of groups is literal. -/
theorem isLiteral_inside {inside : Bool} {c : Char} (h : isLiteral true c = true) :
    isLiteral inside c = true := by
  cases inside with
  | true => exact h
  | false =>
      unfold isLiteral at h ⊢
      rw [Bool.and_eq_true] at h
      rw [h.1]
      rfl

theorem brace_of_isLiteral {inside : Bool} {c : Char} (h : isLiteral inside c = true) :
    isBrace c = false := by
  unfold isLiteral at h
  rw [Bool.and_eq_true, Bool.not_eq_true'] at h
  exact h.1

theorem comma_of_isLiteral {c : Char} (h : isLiteral true c = true) : c ≠ ',' := by
  unfold isLiteral at h
  rw [Bool.and_eq_true, Bool.true_and] at h
  simpa using h.2

mutual

/-- The choices of a pattern have only literal characters. -/
theorem Tree.literal_of_mem {inside : Bool} (t : Tree inside) {s : List Char} (h : s ∈ t.choices) :
    ∀ c ∈ s, isLiteral inside c = true := by
  intro c hc
  match t with
  | .nil =>
      rw [Tree.choices, List.mem_singleton] at h
      rw [h] at hc
      cases hc
  | .char d hd rest =>
      rw [Tree.choices] at h
      rcases List.mem_map.mp h with ⟨own, hown, rfl⟩
      rcases List.mem_cons.mp hc with rfl | hc
      · exact hd
      · exact rest.literal_of_mem hown c hc
  | .group g rest =>
      rw [Tree.choices] at h
      rcases List.mem_flatMap.mp h with ⟨own, hown, h⟩
      rcases List.mem_map.mp h with ⟨other, hother, rfl⟩
      -- What may stand inside of a group may stand outside of groups too.
      rcases List.mem_append.mp hc with hc | hc
      · exact isLiteral_inside (g.literal_of_mem hown c hc)
      · exact rest.literal_of_mem hother c hc

theorem Group.literal_of_mem (g : Group) {s : List Char} (h : s ∈ g.choices) :
    ∀ c ∈ s, isLiteral true c = true := by
  match g with
  | .two first second =>
      rw [Group.choices] at h
      rcases List.mem_append.mp h with h | h
      · exact first.literal_of_mem h
      · exact second.literal_of_mem h
  | .more first rest =>
      rw [Group.choices] at h
      rcases List.mem_append.mp h with h | h
      · exact first.literal_of_mem h
      · exact rest.literal_of_mem h

end

mutual

/-- There is always something to choose. -/
theorem Tree.choices_ne_nil {inside : Bool} (t : Tree inside) : t.choices ≠ [] := by
  match t with
  | .nil => exact List.cons_ne_nil _ _
  | .char c _ rest =>
      rw [Tree.choices, ne_eq, List.map_eq_nil_iff]
      exact rest.choices_ne_nil
  | .group g rest =>
      rcases List.exists_mem_of_ne_nil _ g.choices_ne_nil with ⟨own, hown⟩
      rcases List.exists_mem_of_ne_nil _ rest.choices_ne_nil with ⟨other, hother⟩
      rw [Tree.choices]
      exact List.ne_nil_of_mem
        (List.mem_flatMap.mpr ⟨own, hown, List.mem_map.mpr ⟨other, hother, rfl⟩⟩)

theorem Group.choices_ne_nil (g : Group) : g.choices ≠ [] := by
  match g with
  | .two first second =>
      rw [Group.choices]
      exact List.append_ne_nil_of_left_ne_nil first.choices_ne_nil _
  | .more first rest =>
      rw [Group.choices]
      exact List.append_ne_nil_of_left_ne_nil first.choices_ne_nil _

end

/-- What is chosen of one alternative is chosen together with something of all others. -/
theorem Group.mem_choices_iff (g : Group) {s : List Char} :
    s ∈ g.choices ↔ ∃ picked ∈ g.picks, s ∈ picked := by
  -- The first alternative is one of several, whether there are more than two or not.
  have hmore (first : Tree true) {choices : List (List Char)} {picks : List (List (List Char))}
      (hsome : picks ≠ []) (h : s ∈ choices ↔ ∃ picked ∈ picks, s ∈ picked) :
      s ∈ first.choices ++ choices ↔
        ∃ picked ∈ first.choices.flatMap fun own => picks.map (own :: ·), s ∈ picked := by
    rcases List.exists_mem_of_ne_nil _ first.choices_ne_nil with ⟨own, hown⟩
    rcases List.exists_mem_of_ne_nil _ hsome with ⟨others, hothers⟩
    simp only [List.mem_append, List.mem_flatMap, List.mem_map, h]
    constructor
    · rintro (hs | ⟨picked, hpicked, hs⟩)
      · exact ⟨s :: others, ⟨s, hs, others, hothers, rfl⟩, List.mem_cons_self ..⟩
      · exact ⟨own :: picked, ⟨own, hown, picked, hpicked, rfl⟩, List.mem_cons_of_mem _ hs⟩
    · rintro ⟨_, ⟨a, ha, picked, hpicked, rfl⟩, hs⟩
      rcases List.mem_cons.mp hs with rfl | hs
      · exact Or.inl ha
      · exact Or.inr ⟨picked, hpicked, hs⟩
  match g with
  | .two first second =>
      refine hmore first ?_ ?_
      · rw [ne_eq, List.map_eq_nil_iff]
        exact second.choices_ne_nil
      · simp only [List.mem_map, exists_exists_and_eq_and, List.mem_singleton, exists_eq_right']
  | .more first rest =>
      refine hmore first ?_ rest.mem_choices_iff
      rcases List.exists_mem_of_ne_nil _ rest.choices_ne_nil with ⟨other, hother⟩
      rcases rest.mem_choices_iff.mp hother with ⟨picked, hpicked, _⟩
      exact List.ne_nil_of_mem hpicked

theorem Group.length_of_mem_picks (g : Group) {picked : List (List Char)} (h : picked ∈ g.picks) :
    2 ≤ picked.length := by
  match g with
  | .two first second =>
      simp only [Group.picks, List.mem_flatMap, List.mem_map] at h
      rcases h with ⟨a, _, _, ⟨b, _, rfl⟩, rfl⟩
      exact le_rfl
  | .more first rest =>
      simp only [Group.picks, List.mem_flatMap, List.mem_map] at h
      rcases h with ⟨a, _, others, hothers, rfl⟩
      exact Nat.le_succ_of_le (rest.length_of_mem_picks hothers)

end Choices

section Expanding

variable {before after : List Char}

/-- Texts that are joined by commas have the characters of the texts and commas. -/
theorem mem_joined {texts : List (List Char)} {c : Char} (h : c ∈ [','].intercalate texts) :
    c = ',' ∨ ∃ s ∈ texts, c ∈ s := by
  induction texts with
  | nil => cases h
  | cons first rest ih =>
      -- A comma stands between two texts, so a single one is a case of its own.
      cases rest with
      | nil =>
          rw [List.intercalate_singleton] at h
          exact Or.inr ⟨first, List.mem_cons_self .., h⟩
      | cons second others =>
          rw [List.intercalate_cons_cons] at h
          rcases List.mem_append.mp h with h | h
          · rcases List.mem_append.mp h with h | h
            · exact Or.inr ⟨first, List.mem_cons_self .., h⟩
            · exact Or.inl (List.mem_singleton.mp h)
          · rcases ih h with rfl | ⟨s, hs, hc⟩
            · exact Or.inl rfl
            · exact Or.inr ⟨s, List.mem_cons_of_mem _ hs, hc⟩

/-- A group of plain alternatives behind a text without closing braces is the first group. -/
theorem expansions_group {texts : List (List Char)} (hbefore : '\x7d' ∉ before)
    (htexts : ∀ s ∈ texts, ∀ c ∈ s, isLiteral true c = true) (hlength : 2 ≤ texts.length) :
    expansions (before ++ '\x7b' :: ([','].intercalate texts ++ '\x7d' :: after))
      = texts.flatMap fun own => expansions (before ++ (own ++ after)) := by
  have hbody : ∀ c ∈ [','].intercalate texts, isBrace c = false := by
    intro c hc
    rcases mem_joined hc with rfl | ⟨s, hs, hc⟩
    · rfl
    · exact brace_of_isLiteral (htexts s hs c hc)
  have hcomma : ',' ∈ [','].intercalate texts := by
    match texts, hlength with
    | first :: second :: others, _ =>
        rw [List.intercalate_cons_cons]
        simp
  -- The alternatives have no comma, so they are cut where they were put together.
  have hsplit : Text.splitOn ',' ([','].intercalate texts) = texts := by
    refine Text.splitOn_intercalate (fun s hs hmem => ?_) ?_
    · exact comma_of_isLiteral (htexts s hs ',' hmem) rfl
    · rintro rfl
      cases hlength
  rw [expansions_eq, findGroup?_append hbefore hbody hcomma, hsplit]
  simp only [List.append_assoc]

theorem not_mem_append {s : List Char} {inside : Bool} (hbefore : '\x7d' ∉ before)
    (hs : ∀ c ∈ s, isLiteral inside c = true) : '\x7d' ∉ before ++ s := by
  intro hmem
  rcases List.mem_append.mp hmem with hmem | hmem
  · exact hbefore hmem
  · have hbrace := brace_of_isLiteral (hs _ hmem)
    rw [brace_close] at hbrace
    cases hbrace

/-- One more alternative in front of others: it becomes one of its choices, and behind that
    the others become theirs. -/
theorem mem_expansions_more {first others s : List Char} {choices : List (List Char)}
    {picks : List (List (List Char))} (hsome : ∀ picked ∈ picks, picked ≠ [])
    (hfirst : s ∈ expansions (before ++ (first ++ ',' :: (others ++ after))) ↔
      ∃ own ∈ choices, s ∈ expansions (before ++ (own ++ ',' :: (others ++ after))))
    (hothers : ∀ own ∈ choices, s ∈ expansions (before ++ (own ++ [',']) ++ (others ++ after)) ↔
      ∃ picked ∈ picks,
        s ∈ expansions (before ++ (own ++ [',']) ++ ([','].intercalate picked ++ after))) :
    s ∈ expansions (before ++ (first ++ ',' :: others ++ after)) ↔
      ∃ picked ∈ choices.flatMap fun own => picks.map (own :: ·),
        s ∈ expansions (before ++ ([','].intercalate picked ++ after)) := by
  -- The chosen alternative and the comma behind it become a part of what stands before the others.
  have hjoined (own : List Char) {picked : List (List Char)} (hpicked : picked ∈ picks) :
      before ++ ([','].intercalate (own :: picked) ++ after)
        = before ++ (own ++ [',']) ++ ([','].intercalate picked ++ after) := by
    rcases List.exists_cons_of_ne_nil (hsome picked hpicked) with ⟨a, rest, rfl⟩
    rw [List.intercalate_cons_cons]
    simp only [List.append_assoc]
  simp only [List.append_assoc, List.cons_append, List.nil_append] at hfirst hothers hjoined ⊢
  rw [hfirst]
  simp only [List.mem_flatMap, List.mem_map]
  constructor
  · rintro ⟨own, hown, h⟩
    rcases (hothers own hown).mp h with ⟨picked, hpicked, h⟩
    exact ⟨own :: picked, ⟨own, hown, picked, hpicked, rfl⟩, by rwa [hjoined own hpicked]⟩
  · rintro ⟨_, ⟨own, hown, picked, hpicked, rfl⟩, h⟩
    rw [hjoined own hpicked] at h
    exact ⟨own, hown, (hothers own hown).mpr ⟨picked, hpicked, h⟩⟩

mutual

/-- A part of a pattern behind a text without closing braces stands for its choices. A group
    is expanded from the inside: first each of its alternatives becomes one of its choices,
    then the group is the first one, and what follows it is expanded behind its choice. -/
theorem Tree.mem_expansions {inside : Bool} (t : Tree inside) {before : List Char}
    (hbefore : '\x7d' ∉ before) (after s : List Char) :
    s ∈ expansions (before ++ (t.text ++ after)) ↔
      ∃ own ∈ t.choices, s ∈ expansions (before ++ (own ++ after)) := by
  match t with
  | .nil => simp [Tree.text, Tree.choices]
  | .char c literal rest =>
      have hliteral : ∀ d ∈ [c], isLiteral inside d = true := fun d hd => by
        rwa [List.mem_singleton.mp hd]
      have hrest := rest.mem_expansions (not_mem_append hbefore hliteral) after s
      simp only [List.append_assoc, List.singleton_append] at hrest
      simp only [Tree.text, Tree.choices, List.cons_append, hrest, List.mem_map,
        exists_exists_and_eq_and]
  | .group g rest =>
      have hopen : '\x7d' ∉ before ++ ['\x7b'] := by
        intro hmem
        rcases List.mem_append.mp hmem with hmem | hmem
        · exact hbefore hmem
        · exact absurd (List.mem_singleton.mp hmem) (by decide)
      have hinner := g.mem_expansions hopen ('\x7d' :: (rest.text ++ after)) s
      simp only [List.append_assoc, List.singleton_append] at hinner
      simp only [Tree.text, List.cons_append, List.append_assoc, hinner]
      -- Each way to pick has one text for every alternative, and all of them are taken.
      have hclosed : ∀ picked ∈ g.picks,
          s ∈ expansions (before ++ '\x7b' :: ([','].intercalate picked ++
            '\x7d' :: (rest.text ++ after))) ↔
          ∃ own ∈ picked, ∃ other ∈ rest.choices,
            s ∈ expansions (before ++ (own ++ (other ++ after))) := by
        intro picked hpicked
        have hliteral : ∀ own ∈ picked, ∀ c ∈ own, isLiteral true c = true := fun own hown =>
          g.literal_of_mem (g.mem_choices_iff.mpr ⟨picked, hpicked, hown⟩)
        rw [expansions_group hbefore hliteral (g.length_of_mem_picks hpicked), List.mem_flatMap]
        refine exists_congr fun own => and_congr_right fun hown => ?_
        have hrest := rest.mem_expansions (not_mem_append hbefore (hliteral own hown)) after s
        simpa only [List.append_assoc] using hrest
      simp only [Tree.choices, List.mem_flatMap, List.mem_map]
      constructor
      · rintro ⟨picked, hpicked, h⟩
        rcases (hclosed picked hpicked).mp h with ⟨own, hown, other, hother, h⟩
        refine ⟨own ++ other, ⟨own, g.mem_choices_iff.mpr ⟨picked, hpicked, hown⟩, other, hother,
          rfl⟩, ?_⟩
        rwa [List.append_assoc]
      · rintro ⟨_, ⟨own, hown, other, hother, rfl⟩, h⟩
        rcases g.mem_choices_iff.mp hown with ⟨picked, hpicked, hown⟩
        rw [List.append_assoc] at h
        exact ⟨picked, hpicked, (hclosed picked hpicked).mpr ⟨own, hown, other, hother, h⟩⟩

/-- Alternatives behind a text without closing braces become choices, one for each, from the
    left to the right. -/
theorem Group.mem_expansions (g : Group) {before : List Char} (hbefore : '\x7d' ∉ before)
    (after s : List Char) :
    s ∈ expansions (before ++ (g.text ++ after)) ↔
      ∃ picked ∈ g.picks, s ∈ expansions (before ++ ([','].intercalate picked ++ after)) := by
  have hcomma {first : Tree true} {own : List Char} (hown : own ∈ first.choices) :
      '\x7d' ∉ before ++ (own ++ [',']) := by
    rw [← List.append_assoc, List.mem_append, not_or]
    exact ⟨not_mem_append hbefore (first.literal_of_mem hown), by decide⟩
  -- What is chosen has no closing brace, so the others stand behind a text without one as well.
  match g with
  | .two first second =>
      refine mem_expansions_more ?_ (first.mem_expansions hbefore _ s) fun own hown => ?_
      · intro picked hpicked
        rcases List.mem_map.mp hpicked with ⟨other, _, rfl⟩
        exact List.cons_ne_nil _ _
      · rw [second.mem_expansions (hcomma hown) after s]
        simp only [List.mem_map, exists_exists_and_eq_and, List.intercalate_singleton]
  | .more first rest =>
      refine mem_expansions_more ?_ (first.mem_expansions hbefore _ s) fun own hown =>
        rest.mem_expansions (hcomma hown) after s
      rintro picked hpicked rfl
      exact absurd (rest.length_of_mem_picks hpicked) (by decide)

end

end Expanding

section Flat

/-- Without groups there is nothing to choose. -/
theorem Tree.choices_of_isPlain {inside : Bool} (t : Tree inside) (h : t.isPlain = true) :
    t.choices = [t.text] := by
  match t with
  | .nil => rfl
  | .char c _ rest =>
      rw [Tree.choices, rest.choices_of_isPlain h]
      rfl
  | .group .. => cases h

/-- Alternatives without groups are written as what can be chosen, with commas between. -/
theorem Group.text_of_isPlain (g : Group) (h : g.isPlain = true) :
    g.text = [','].intercalate g.choices ∧ 2 ≤ g.choices.length := by
  match g with
  | .two first second =>
      rcases Bool.and_eq_true_iff.mp h with ⟨hfirst, hsecond⟩
      rw [Group.text, Group.choices, first.choices_of_isPlain hfirst,
        second.choices_of_isPlain hsecond]
      exact ⟨by simp [List.intercalate_cons_cons], le_rfl⟩
  | .more first rest =>
      rcases Bool.and_eq_true_iff.mp h with ⟨hfirst, hrest⟩
      rcases rest.text_of_isPlain hrest with ⟨htext, hlength⟩
      rw [Group.text, Group.choices, first.choices_of_isPlain hfirst, htext]
      -- The others have a first one, with the comma before it.
      rcases List.exists_cons_of_ne_nil rest.choices_ne_nil with ⟨a, others, hchoices⟩
      rw [hchoices] at hlength ⊢
      refine ⟨?_, Nat.le_succ_of_le hlength⟩
      rw [List.singleton_append, List.intercalate_cons_cons, List.append_assoc]
      rfl

/-- Without groups inside of groups the choices come in their order, and each once for every
    way to choose it. -/
theorem Tree.expansions_flat {inside : Bool} (t : Tree inside) (h : t.isFlat = true)
    {before : List Char} (hbefore : '\x7d' ∉ before) (after : List Char) :
    expansions (before ++ (t.text ++ after))
      = t.choices.flatMap fun own => expansions (before ++ (own ++ after)) := by
  match t with
  | .nil => simp [Tree.text, Tree.choices]
  | .char c literal rest =>
      have hliteral : ∀ d ∈ [c], isLiteral inside d = true := fun d hd => by
        rwa [List.mem_singleton.mp hd]
      have hrest := rest.expansions_flat h (not_mem_append hbefore hliteral) after
      simp only [List.append_assoc, List.singleton_append] at hrest
      simp only [Tree.text, Tree.choices, List.cons_append, hrest, List.flatMap_map]
  | .group g rest =>
      rcases Bool.and_eq_true_iff.mp h with ⟨hg, hrest⟩
      rcases g.text_of_isPlain hg with ⟨htext, hlength⟩
      -- The alternatives are plain, so that they are the options of the first group as they stand.
      have hliteral : ∀ own ∈ g.choices, ∀ c ∈ own, isLiteral true c = true := fun own hown =>
        g.literal_of_mem hown
      simp only [Tree.text, List.cons_append, List.append_assoc, htext]
      rw [expansions_group hbefore hliteral hlength, Tree.choices, List.flatMap_assoc]
      refine List.flatMap_congr fun own hown => ?_
      have hnext := rest.expansions_flat hrest (not_mem_append hbefore (hliteral own hown)) after
      rw [List.append_assoc] at hnext
      rw [hnext, List.flatMap_map]
      simp only [List.append_assoc]

end Flat

/-- A text of literal characters stands for itself. -/
theorem expansions_literal {inside : Bool} {s : List Char}
    (h : ∀ c ∈ s, isLiteral inside c = true) : expansions s = [s] := by
  have hnone : findGroup? s = none := by
    rw [findGroup?_eq_none_iff]
    rintro before body after rfl
    have hbrace := brace_of_isLiteral (h '\x7b' (by simp))
    rw [brace_open] at hbrace
    cases hbrace
  rw [expansions_eq, hnone]

/-- What a pattern stands for. It is the texts that come of choosing one alternative in every
    group, in the order of the alternatives if no group is inside of another one. For any
    text at all, replacing the first group by its alternatives comes to an end, what it comes
    to is the expansion, and no pair of braces in it has a comma and no other brace inside. -/
theorem expand_choices :
    (∀ (t : Tree false) (s : String), s ∈ expand t.pattern ↔ s.toList ∈ t.choices) ∧
      (∀ t : Tree false, t.isFlat = true → expand t.pattern = t.choices.map String.ofList) ∧
      (WellFounded fun next cs => Rewrites cs next) ∧
      (∀ pattern, expand pattern = match findGroup? pattern.toList with
        | none => [pattern]
        | some (before, options, after) =>
          options.flatMap fun option => expand (String.ofList (before ++ option ++ after))) ∧
      ∀ pattern, ∀ s ∈ expand pattern, ∀ before body after,
        s.toList = before ++ '\x7b' :: (body ++ '\x7d' :: after) →
        (∀ c ∈ body, isBrace c = false) → ',' ∉ body := by
  -- Both texts and lists of characters are spoken of; the expansion of one is that of the other.
  have hexpand (cs : List Char) :
      expand (String.ofList cs) = (expansions cs).map String.ofList := by
    unfold expand
    rw [String.toList_ofList]
    rfl
  have hpattern (pattern : String) :
      expand pattern = (expansions pattern.toList).map String.ofList := rfl
  have hfront : '\x7d' ∉ ([] : List Char) := List.not_mem_nil
  refine ⟨fun t s => ?_, fun t hflat => ?_, wellFounded_rewrites, fun pattern => ?_, ?_⟩
  · have ht := t.mem_expansions hfront [] s.toList
    simp only [List.nil_append, List.append_nil] at ht
    have hs : s ∈ (expansions t.text).map String.ofList ↔ s.toList ∈ expansions t.text := by
      rw [List.mem_map]
      exact ⟨by rintro ⟨own, hown, rfl⟩; rwa [String.toList_ofList],
        fun h => ⟨s.toList, h, String.ofList_toList⟩⟩
    rw [Tree.pattern, hexpand, hs, ht]
    -- A choice has no group left in it, so it stands for nothing but itself.
    constructor
    · rintro ⟨own, hown, h⟩
      rw [expansions_literal (t.literal_of_mem hown), List.mem_singleton] at h
      rwa [h]
    · intro h
      refine ⟨s.toList, h, ?_⟩
      rw [expansions_literal (t.literal_of_mem h)]
      exact List.mem_singleton_self _
  · have ht := t.expansions_flat hflat hfront []
    simp only [List.nil_append, List.append_nil] at ht
    rw [Tree.pattern, hexpand, ht]
    have hown : ∀ own ∈ t.choices, expansions own = [own] := fun own h =>
      expansions_literal (t.literal_of_mem h)
    rw [List.flatMap_congr hown, List.flatMap_singleton']
  · rw [hpattern, expansions_eq]
    cases hfound : findGroup? pattern.toList with
    | none => simp
    | some found => simp only [List.map_flatMap, hexpand]
  · intro pattern s hs before body after
    rw [hpattern] at hs
    rcases List.mem_map.mp hs with ⟨cs, hcs, rfl⟩
    rw [String.toList_ofList]
    exact findGroup?_eq_none_iff.mp (findGroup?_of_mem_expansions hcs) before body after

/-- Two groups side by side. -/
theorem expand_choices_beside :
    let t : Tree false := .group (.two (.char 'a' rfl .nil) (.char 'b' rfl .nil))
      (.char '/' rfl (.group (.two (.char 'c' rfl .nil) .nil) .nil))
    t.pattern = "\x7ba,b\x7d/\x7bc,\x7d" ∧ t.isFlat = true ∧
      expand t.pattern = ["a/c", "a/", "b/c", "b/"] := by
  intro t
  exact ⟨rfl, rfl, expand_choices.2.1 t rfl⟩

end Brace

end Annals
