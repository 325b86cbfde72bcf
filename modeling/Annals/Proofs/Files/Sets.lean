import Mathlib.Data.List.Basic
import Annals.Files.Wildcard

/-!
# Sets in Globs

Every name of a glob can be read, whatever stands between its brackets.

A set in a glob is not read as it stands. It is cut into pieces at the hyphens that make
ranges, ranges that go backwards are taken away, and what is left is written down again
with a backslash before each character that would mean something else; and this is what
is read. Two things could go wrong there. A range could go backwards still, since a piece
that loses its last character gets another one; and the set could be closed too early, by a
bracket that is not the last.

Neither happens. A piece between two ranges has an end for each of them, so it keeps one
when it loses the other, and pieces can be mended one after another from the last to the
first: `Rising` is kept. And a bracket in a set comes first, or first after an exclamation
mark, where it does not close the set (`ClosesLate`); losing characters brings no bracket
further to the front than that.

## Main definitions

* `Wildcard.written`, `Wildcard.joined`: Pieces of a set in their written form.
* `Wildcard.Wide`, `Wildcard.Rising`: Pieces with an end for each range, and with ranges
  that go forward.
* `Wildcard.ClosesLate`: A set with a bracket at its start at most.

## Theorems

* `setMembers_joined`: Rising pieces are read.
* `withoutEmptyRanges_rising`: What is left when backward ranges are taken away.
* `setText_eq`: The written form of a set.
* `isSome_name`: Every name can be read.
-/

namespace Annals

namespace Wildcard

open Pattern (Member)

/-- A character of a set in its written form. -/
def written (c : Char) : List Char :=
  if c == '\\' || c == '-' || c == '&' || c == '~' || c == '|' then ['\\', c] else [c]

/-- A piece of a set and the pieces behind it in their written form, with a hyphen before
    each of these. -/
def joined (piece : List Char) (rest : List (List Char)) : List Char :=
  piece.flatMap written ++ rest.flatMap fun p => '-' :: p.flatMap written

@[simp] theorem joined_cons (c : Char) (piece : List Char) (rest : List (List Char)) :
    joined (c :: piece) rest = written c ++ joined piece rest := by
  rw [joined, joined, List.flatMap_cons, List.append_assoc]

theorem joined_nil_cons (piece : List Char) (rest : List (List Char)) :
    joined [] (piece :: rest) = '-' :: joined piece rest := by
  simp [joined]

/-- Pieces that have an end for each range: all of them are there, and all but the last have
    two characters at least. -/
def Wide : List (List Char) → Prop
  | [] => True
  | p :: rest => p ≠ [] ∧ (rest ≠ [] → p.tail ≠ []) ∧ Wide rest

/-- Pieces whose ranges go forward, from the last character of each to the first one of the
    next. -/
def Rising : List (List Char) → Prop
  | p :: q :: rest => (∀ a ∈ p.getLast?, ∀ b ∈ q.head?, a ≤ b) ∧ Rising (q :: rest)
  | _ => True

/-- Whether the ranges go forward depends on no more than the end of the first piece. -/
theorem Rising.imp {p q : List Char} {rest : List (List Char)}
    (hlast : rest ≠ [] → ∀ a ∈ q.getLast?, a ∈ p.getLast?) (h : Rising (p :: rest)) :
    Rising (q :: rest) := by
  cases rest with
  | nil => trivial
  | cons next others => exact ⟨fun a ha => h.1 a (hlast (List.cons_ne_nil _ _) a ha), h.2⟩

/-- The characters of a set that have been read begin with those of some sign. -/
structure Spells (o : Pattern.Options) (sign : List Char) (c : Char) : Prop where
  start : ∀ rest, Pattern.setStart o (sign ++ rest) = .ok (.char c.toNat, rest)
  nonempty : sign ≠ []
  closes : sign.head? = some ']' → c = ']'
  hyphen : sign.head? ≠ some '-'

theorem spells_escaped {o : Pattern.Options} {c : Char}
    (h : c ∈ ['\\', '-', '&', '~', '|', '^', '[']) : Spells o ['\\', c] c where
  start := by
    intro rest
    simp only [List.mem_cons, List.not_mem_nil, or_false] at h
    rcases h with rfl | rfl | rfl | rfl | rfl | rfl | rfl <;> rfl
  nonempty := by simp
  closes := by simp
  hyphen := by simp

theorem spells_written (o : Pattern.Options) (c : Char) : Spells o (written c) c := by
  unfold written
  split
  · rename_i hspecial
    refine spells_escaped ?_
    simp only [Bool.or_eq_true, beq_iff_eq] at hspecial
    simp only [List.mem_cons, List.not_mem_nil, or_false]
    tauto
  · rename_i hplain
    simp only [Bool.or_eq_true, beq_iff_eq, not_or] at hplain
    refine ⟨fun rest => ?_, by simp, by simp, by simp [hplain.1.1.1.2]⟩
    rw [List.singleton_append, Pattern.setStart]
    · exact fun _ heq => absurd heq hplain.1.1.1.1
    · exact fun _ _ heq => absurd heq hplain.1.1.1.1
    · exact fun heq => absurd heq hplain.1.1.1.1

/-- A bracket at the start of a set does not close it. -/
theorem not_closed {members : List Member} {c : Char} (h : c = ']' → members = []) :
    (c == ']' && !members.isEmpty) = false := by
  by_cases hc : c = ']'
  · rw [h hc]
    simp
  · rw [beq_eq_false_iff_ne.mpr hc, Bool.false_and]

section Members

variable {o : Pattern.Options} {left fuel : Nat} {members : List Member}

/-- A character that no hyphen follows is a member of its own. -/
theorem setMembers_single {c : Char} {cs rest : List Char} {m : Member}
    (hclose : c = ']' → members = []) (hstart : Pattern.setStart o (c :: cs) = .ok (m, rest))
    (hrest : rest.head? ≠ some '-') :
    Pattern.setMembers o left (fuel + 1) members (c :: cs)
      = Pattern.setMembers o left fuel (m :: members) rest := by
  rw [Pattern.setMembers, not_closed hclose]
  simp only [Bool.false_eq_true, if_false, hstart, bind, Except.bind]
  split
  · exact absurd rfl hrest
  · exact absurd rfl hrest
  · exact absurd rfl hrest
  · rfl

/-- A character, a hyphen and another character that does not come before the first one are
    a range. -/
theorem setMembers_range {a b c d : Char} {cs ds after : List Char}
    (hclose : c = ']' → members = [])
    (hstart : Pattern.setStart o (c :: cs) = .ok (.char a.toNat, '-' :: d :: ds)) (hd : d ≠ ']')
    (hend : Pattern.setStart o (d :: ds) = .ok (.char b.toNat, after)) (hle : a ≤ b) :
    Pattern.setMembers o left (fuel + 1) members (c :: cs)
      = Pattern.setMembers o left fuel (.range a.toNat b.toNat :: members) after := by
  have hnumbers : a.toNat ≤ b.toNat := hle
  rw [Pattern.setMembers, not_closed hclose]
  simp only [Bool.false_eq_true, if_false, hstart, bind, Except.bind]
  -- A hyphen stands behind the first character, and then no bracket: only the case of ranges is
  -- left.
  split
  · rename_i heq
    cases heq
  · rename_i heq
    cases heq
    exact absurd rfl hd
  · rename_i heq
    cases heq
    simp only [hend, Pattern.rangeOf, if_pos hnumbers]
  · rename_i hother
    exact absurd rfl (hother _)

/-- What begins with a sign begins with its first character, which is no hyphen. -/
theorem Spells.head {sign : List Char} {c : Char} (h : Spells o sign c) (rest : List Char) :
    ∃ d ds, sign ++ rest = d :: ds ∧ d ≠ '-' ∧ (d = ']' → c = ']') := by
  cases sign with
  | nil => exact absurd rfl h.nonempty
  | cons d ds =>
      refine ⟨d, ds ++ rest, rfl, fun hd => h.hyphen ?_, fun hd => h.closes ?_⟩
      · rw [hd, List.head?_cons]
      · rw [hd, List.head?_cons]

/-- A piece without its first character still ends where it ended, if there is one behind
    it. -/
theorem Rising.tail {c : Char} {q : List Char} {rest : List (List Char)}
    (hq : rest ≠ [] → q ≠ []) (h : Rising ((c :: q) :: rest)) : Rising (q :: rest) := by
  refine h.imp fun hrest a ha => ?_
  rw [List.getLast?_cons_of_ne_nil (hq hrest)]
  exact ha

/-- The first character of a piece is read, however it is spelled, and then the rest. It is a
    range with what is behind the piece if there is no other character in it. -/
theorem setMembers_first {sign q : List Char} {rest : List (List Char)} {c : Char}
    (hsign : Spells o sign c) (hclose : c = ']' → members = []) (hq : ']' ∉ q)
    (hrest : ∀ p ∈ rest, ']' ∉ p) (hwide : Wide rest) (hrising : Rising ((c :: q) :: rest))
    (hfuel : (joined q rest).length < fuel)
    (ih : ∀ members q rest, members ≠ [] → ']' ∉ q → (∀ p ∈ rest, ']' ∉ p) → Wide rest →
      Rising (q :: rest) → (joined q rest).length < fuel →
      ∃ found, Pattern.setMembers o left fuel members (joined q rest ++ [']']) = .ok (found, [])) :
    ∃ found, Pattern.setMembers o left (fuel + 1) members (sign ++ (joined q rest ++ [']']))
      = .ok (found, []) := by
  rcases hsign.head (joined q rest ++ [']']) with ⟨d, ds, hsplit, _, hd⟩
  have hstart := hsign.start (joined q rest ++ [']'])
  rw [hsplit] at hstart ⊢
  have hopen : d = ']' → members = [] := fun h => hclose (hd h)
  -- Whether a hyphen comes next: not before another character of the piece, nor at the end of the
  -- set, but before a further piece.
  cases q with
  | cons b t =>
      have hhead : (joined (b :: t) rest ++ [']']).head? ≠ some '-' := by
        rcases (spells_written o b).head (joined t rest ++ [']']) with ⟨e, es, hb, he, _⟩
        rw [joined_cons, List.append_assoc, hb, List.head?_cons, ne_eq, Option.some.injEq]
        exact he
      rw [setMembers_single hopen hstart hhead]
      exact ih _ _ _ (List.cons_ne_nil _ _) hq hrest hwide
        (hrising.tail fun _ => List.cons_ne_nil _ _) hfuel
  | nil =>
      cases rest with
      | nil =>
          rw [setMembers_single hopen hstart (by decide)]
          exact ih _ _ _ (List.cons_ne_nil _ _) hq hrest hwide trivial hfuel
      | cons p others =>
          rcases hwide with ⟨hp, htail, hothers⟩
          rcases hrising with ⟨hle, hrising⟩
          cases p with
          | nil => exact absurd rfl hp
          | cons b t =>
              have hb : ']' ∉ b :: t := hrest _ (List.mem_cons_self ..)
              have hend := (spells_written o b).start (joined t others ++ [']'])
              rcases (spells_written o b).head (joined t others ++ [']'])
                with ⟨e, es, he, _, hclose⟩
              have hbracket : e ≠ ']' := fun h => hb (by rw [hclose h]; exact List.mem_cons_self ..)
              rw [he] at hend
              -- The hyphen and the first character of the next piece, as they are written.
              have hwritten : joined [] ((b :: t) :: others) ++ [']'] = '-' :: e :: es := by
                rw [joined_nil_cons, joined_cons, List.cons_append, List.append_assoc, he]
              rw [hwritten] at hstart
              rw [setMembers_range hopen hstart hbracket hend (hle c rfl b rfl)]
              refine ih _ _ _ (List.cons_ne_nil _ _) (fun h => hb (List.mem_cons_of_mem _ h))
                (fun p hp => hrest p (List.mem_cons_of_mem _ hp)) hothers (hrising.tail htail) ?_
              rw [joined_nil_cons, joined_cons, List.length_cons, List.length_append] at hfuel
              omega

/-- Pieces whose ranges go forward are read to their end, if no bracket closes the set before
    it. The induction is on the fuel, of which each member takes a part and at least one
    character of the written form. -/
theorem setMembers_joined {q : List Char} {rest : List (List Char)}
    (hsome : members = [] → q ≠ [] ∨ rest ≠ []) (hclose : members ≠ [] → ']' ∉ q)
    (hq : ']' ∉ q.tail) (hrest : ∀ p ∈ rest, ']' ∉ p) (hwide : Wide rest)
    (hrising : Rising (q :: rest)) (hfuel : (joined q rest).length < fuel) :
    ∃ found, Pattern.setMembers o left fuel members (joined q rest ++ [']']) = .ok (found, []) := by
  induction fuel generalizing members q rest with
  | zero => exact absurd hfuel (Nat.not_lt_zero _)
  | succ fuel ih =>
      have hlater : ∀ members q rest, members ≠ [] → ']' ∉ q → (∀ p ∈ rest, ']' ∉ p) →
          Wide rest → Rising (q :: rest) → (joined q rest).length < fuel →
          ∃ found, Pattern.setMembers o left fuel members (joined q rest ++ [']'])
            = .ok (found, []) :=
        fun members q rest hmembers hq hrest hwide hrising hfuel =>
          ih (fun h => absurd h hmembers) (fun _ => hq) (fun h => hq (List.mem_of_mem_tail h))
            hrest hwide hrising hfuel
      cases q with
      | cons c t =>
          have hbracket : c = ']' → members = [] := by
            intro hc
            by_contra hmembers
            exact hclose hmembers (by rw [hc]; exact List.mem_cons_self ..)
          rw [joined_cons, List.length_append] at hfuel
          have hsign := spells_written o c
          have hpositive : 0 < (written c).length := List.length_pos_iff.mpr hsign.nonempty
          rw [joined_cons, List.append_assoc]
          exact setMembers_first hsign hbracket hq hrest hwide hrising (by omega) hlater
      | nil =>
          cases rest with
          | nil =>
              cases members with
              | nil => rcases hsome rfl with h | h <;> exact absurd rfl h
              | cons m others => exact ⟨_, rfl⟩
          | cons p others =>
              -- A hyphen that nothing comes before stands for itself.
              cases p with
              | nil => exact absurd rfl hwide.1
              | cons b t =>
                  rcases (spells_written o b).head (joined t others ++ [']'])
                    with ⟨e, es, hb, he, _⟩
                  have hhead : (joined (b :: t) others ++ [']']).head? ≠ some '-' := by
                    rw [joined_cons, List.append_assoc, hb, List.head?_cons, ne_eq,
                      Option.some.injEq]
                    exact he
                  have hopen : '-' = ']' → members = [] := fun h => absurd h (by decide)
                  rw [joined_nil_cons, List.length_cons] at hfuel
                  rw [joined_nil_cons, List.cons_append, setMembers_single hopen rfl hhead]
                  exact hlater _ _ _ (List.cons_ne_nil _ _) (hrest _ (List.mem_cons_self ..))
                    (fun p hp => hrest p (List.mem_cons_of_mem _ hp)) hwide.2.2 hrising.2
                    (by omega)

end Members

/-- All pieces but the last have two characters at least; the last one can be empty. -/
def Long : List (List Char) → Prop
  | [] => True
  | p :: rest => (rest ≠ [] → 2 ≤ p.length) ∧ Long rest

/-- A text is cut into a first piece, which is as long as it has to be, and long pieces behind
    it. -/
theorem rangePieces_eq (piece : List Char) (skip : Nat) (cs : List Char) :
    ∃ first rest, rangePieces piece skip cs = (piece.reverse ++ first) :: rest ∧ first <+: cs ∧
      (rest ≠ [] → skip ≤ first.length) ∧ Long rest ∧ ∀ p ∈ rest, ∀ c ∈ p, c ∈ cs.drop skip := by
  induction cs generalizing piece skip with
  | nil =>
      refine ⟨[], [], by rw [rangePieces, List.append_nil], List.prefix_rfl, fun h => absurd rfl h,
        trivial, fun p hp => absurd hp List.not_mem_nil⟩
  | cons c cs ih =>
      rw [rangePieces]
      -- A hyphen cuts the text if enough has been passed since the last cut; both of its neighbours
      -- are passed then.
      by_cases hcut : (c == '-' && skip == 0) = true
      · rcases ih [] 2 with ⟨first, rest, hpieces, hfirst, hlength, hlong, hchars⟩
        simp only [Bool.and_eq_true, beq_iff_eq] at hcut
        rw [List.reverse_nil, List.nil_append] at hpieces
        have hall : Long (first :: rest) := ⟨hlength, hlong⟩
        rw [if_pos (by simp [hcut]), hpieces]
        refine ⟨[], first :: rest, by rw [List.append_nil], List.nil_prefix,
          fun _ => by simp [hcut.2], hall, ?_⟩
        rw [hcut.2, List.drop_zero]
        intro p hp d hd
        rcases List.mem_cons.mp hp with rfl | hp
        · exact List.mem_cons_of_mem _ (hfirst.subset hd)
        · exact List.mem_cons_of_mem _ (List.mem_of_mem_drop (hchars p hp d hd))
      · rcases ih (c :: piece) (skip - 1)
          with ⟨first, rest, hpieces, hfirst, hlength, hlong, hchars⟩
        rw [if_neg hcut, hpieces]
        refine ⟨c :: first, rest, ?_, List.cons_prefix_cons.mpr ⟨rfl, hfirst⟩, fun h => ?_, hlong,
          fun p hp d hd => ?_⟩
        · rw [List.reverse_cons, List.append_assoc, List.singleton_append]
        · have := hlength h
          rw [List.length_cons]
          omega
        · have hin := hchars p hp d hd
          cases skip with
          | zero => exact List.mem_cons_of_mem _ hin
          | succ n => exact hin

/-- Pieces of which the last one is not empty: an empty one is taken away, and the piece before
    it gets a hyphen of its own. -/
def filled (pieces : List (List Char)) : List (List Char) :=
  match pieces.getLast? with
  | some [] =>
    match pieces.dropLast with
    | [] => pieces
    | init => init.dropLast ++ [(init.getLast?.getD []) ++ ['-']]
  | _ => pieces

theorem filled_cons_cons (p q : List Char) (rest : List (List Char)) :
    filled (p :: q :: rest)
      = if q = [] ∧ rest = [] then [p ++ ['-']] else p :: filled (q :: rest) := by
  cases rest with
  | nil => cases q <;> simp [filled]
  | cons r rest =>
      have hlast : (p :: q :: r :: rest).getLast? = (q :: r :: rest).getLast? := by simp
      rw [if_neg (by simp), filled, filled, hlast]
      cases (q :: r :: rest).getLast? with
      | none => rfl
      | some last => cases last <;> simp [List.dropLast]

/-- Behind the first piece, long pieces that are filled have an end for each range. -/
theorem filled_wide (good : Char → Prop) (hhyphen : good '-') {rest : List (List Char)}
    (hlong : Long rest) (hgood : ∀ r ∈ rest, ∀ c ∈ r, good c) (p : List Char) :
    ∃ q others, filled (p :: rest) = q :: others ∧ (q = p ∨ q = p ++ ['-']) ∧ Wide others ∧
      (∀ r ∈ others, ∀ c ∈ r, good c) ∧ (others ≠ [] → rest ≠ []) := by
  induction rest generalizing p with
  | nil =>
      refine ⟨p, [], ?_, Or.inl rfl, trivial, fun r hr => absurd hr List.not_mem_nil, id⟩
      cases p <;> rfl
  | cons r rest ih =>
      rw [filled_cons_cons]
      -- An empty last piece is not kept: its hyphen becomes the last character of the one before.
      by_cases hempty : r = [] ∧ rest = []
      · rw [if_pos hempty]
        exact ⟨_, [], rfl, Or.inr rfl, trivial, fun r hr => absurd hr List.not_mem_nil,
          fun h => absurd rfl h⟩
      · rw [if_neg hempty]
        rcases ih hlong.2 (fun r hr => hgood r (List.mem_cons_of_mem _ hr)) r
          with ⟨q, others, hfilled, hq, hwide, hothers, hmore⟩
        rw [hfilled]
        have hown : ∀ c ∈ r, good c := hgood r (List.mem_cons_self ..)
        have hlength : r.length ≤ q.length := by
          rcases hq with rfl | rfl
          · exact Nat.le_refl _
          · rw [List.length_append]
            exact Nat.le_add_right _ _
        refine ⟨p, q :: others, rfl, Or.inl rfl, ⟨?_, fun h => ?_, hwide⟩, ?_,
          fun _ => List.cons_ne_nil _ _⟩
        · rintro rfl
          rw [List.length_nil, Nat.le_zero, List.length_eq_zero_iff] at hlength
          refine hempty ⟨hlength, ?_⟩
          by_contra hrest
          have := hlong.1 hrest
          rw [hlength] at this
          cases this
        · have htwo := hlong.1 (hmore h)
          intro htail
          have hone := congrArg List.length htail
          rw [List.length_tail, List.length_nil] at hone
          omega
        · refine List.forall_mem_cons.mpr ⟨fun c hc => ?_, hothers⟩
          rcases hq with rfl | rfl
          · exact hown c hc
          · rcases List.mem_append.mp hc with hc | hc
            · exact hown c hc
            · rw [List.mem_singleton.mp hc]
              exact hhyphen

/-- A piece with two ends keeps one if its last character is taken, and both if something
    stands in its place. -/
theorem ends_of_dropLast {r : List Char} (h : r.tail ≠ []) (t : List Char) :
    r.dropLast ++ t ≠ [] ∧ (t ≠ [] → (r.dropLast ++ t).tail ≠ []) := by
  match r, h with
  | _ :: _ :: _, _ =>
      exact ⟨List.cons_ne_nil _ _, fun ht => List.append_ne_nil_of_right_ne_nil _ ht⟩

/-- Pieces whose backward ranges are taken away are rising. Each of them but the first keeps
    an end for the range before it and one for the range behind it; the first one can lose its
    last character, and gets what is left of the next one. The induction goes from the last
    piece to the first, as the ranges are taken away. -/
theorem withoutEmptyRanges_rising {good : Char → Prop} {rest : List (List Char)}
    (hwide : Wide rest) (hgood : ∀ r ∈ rest, ∀ c ∈ r, good c) (p : List Char) :
    ∃ q others, withoutEmptyRanges (p :: rest) = q :: others ∧ Wide others ∧
      Rising (q :: others) ∧ (∀ r ∈ others, ∀ c ∈ r, good c) ∧ (others ≠ [] → rest ≠ []) ∧
      (q = p ∨ ∃ t, q = p.dropLast ++ t ∧ (∀ c ∈ t, good c) ∧ rest ≠ [] ∧
        (others ≠ [] → t ≠ [])) := by
  induction rest generalizing p with
  | nil =>
      exact ⟨p, [], rfl, trivial, trivial, fun r hr => absurd hr List.not_mem_nil, id, Or.inl rfl⟩
  | cons r rest ih =>
      rcases hwide with ⟨hsome, htwo, hwide⟩
      rcases ih hwide (fun r hr => hgood r (List.mem_cons_of_mem _ hr)) r
        with ⟨q, others, hcut, hothers, hrising, hchars, hmore, hq⟩
      have hown : ∀ c ∈ q, good c := by
        have hr : ∀ c ∈ r, good c := hgood r (List.mem_cons_self ..)
        rcases hq with rfl | ⟨t, rfl, ht, _⟩
        · exact hr
        · intro c hc
          rcases List.mem_append.mp hc with hc | hc
          · exact hr c (List.dropLast_subset _ hc)
          · exact ht c hc
      -- The next piece has an end for each of its ranges.
      have hends : q ≠ [] ∧ (others ≠ [] → q.tail ≠ []) := by
        rcases hq with rfl | ⟨t, rfl, _, hrest, ht⟩
        · exact ⟨hsome, fun h => htwo (hmore h)⟩
        · have hkept := ends_of_dropLast (htwo hrest) t
          exact ⟨hkept.1, fun h => hkept.2 (ht h)⟩
      have hall : Wide (q :: others) := ⟨hends.1, hends.2, hothers⟩
      have hgoodAll : ∀ r ∈ q :: others, ∀ c ∈ r, good c := List.forall_mem_cons.mpr ⟨hown, hchars⟩
      rw [withoutEmptyRanges, hcut]
      simp only []
      cases hlast : p.getLast? with
      | none =>
          refine ⟨p, q :: others, rfl, hall, ⟨fun a ha => ?_, hrising⟩, hgoodAll,
            fun _ => List.cons_ne_nil _ _, Or.inl rfl⟩
          rw [hlast] at ha
          cases ha
      | some a =>
          cases q with
          | nil => exact absurd rfl hends.1
          | cons b tail =>
              simp only []
              by_cases hlt : b < a
              · rw [if_pos hlt]
                refine ⟨_, others, rfl, hothers, ?_, hchars, fun _ => List.cons_ne_nil _ _,
                  Or.inr ⟨tail, rfl, fun c hc => hown c (List.mem_cons_of_mem _ hc),
                    List.cons_ne_nil _ _, hends.2⟩⟩
                refine hrising.imp fun h d hd => ?_
                have htail : tail ≠ [] := hends.2 h
                rw [List.getLast?_append_of_ne_nil _ htail] at hd
                rw [List.getLast?_cons_of_ne_nil htail]
                exact hd
              · rw [if_neg hlt]
                refine ⟨p, _, rfl, hall, ⟨fun c hc d hd => ?_, hrising⟩, hgoodAll,
                  fun _ => List.cons_ne_nil _ _, Or.inl rfl⟩
                rw [hlast] at hc
                cases hc
                cases hd
                exact Char.not_lt.mp hlt

/-- A set with a bracket at its start at most, which may stand behind an exclamation mark. -/
def ClosesLate : List Char → Prop
  | '!' :: rest => ']' ∉ rest.tail
  | cs => ']' ∉ cs.tail

theorem closesLate_cons {c : Char} {cs : List Char} :
    ClosesLate (c :: cs) ↔ ']' ∉ if c = '!' then cs.tail else cs := by
  by_cases hc : c = '!'
  · subst hc
    exact Iff.rfl
  · rw [if_neg hc, ClosesLate]
    · rfl
    · rintro rest heq
      exact hc (List.cons.inj heq).1

theorem ClosesLate.cut {cs ds : List Char} (hcut : ds <+: cs) (h : ClosesLate cs) :
    ClosesLate ds := by
  rcases hcut with ⟨more, rfl⟩
  -- A bracket may only come first, and a cut text begins as the whole one does.
  cases ds with
  | nil => exact List.not_mem_nil
  | cons d ds =>
      rw [List.cons_append, closesLate_cons] at h
      rw [closesLate_cons]
      split at h
      · rename_i hd
        rw [if_pos hd]
        cases ds with
        | nil => exact List.not_mem_nil
        | cons e ds => exact fun hmem => h (List.mem_append_left _ hmem)
      · rename_i hd
        rw [if_neg hd]
        exact fun hmem => h (List.mem_append_left _ hmem)

theorem ClosesLate.append {cs t : List Char} (h : ClosesLate cs) (ht : ']' ∉ t) :
    ClosesLate (cs ++ t) := by
  have htail : ∀ {t : List Char}, ']' ∉ t → ']' ∉ t.tail :=
    fun ht hmem => ht (List.mem_of_mem_tail hmem)
  -- If there was nothing before, the mark may come from what is added.
  cases cs with
  | nil =>
      cases t with
      | nil => exact List.not_mem_nil
      | cons c t =>
          rw [List.nil_append, closesLate_cons]
          split
          · exact htail (htail ht)
          · exact htail ht
  | cons c cs =>
      rw [closesLate_cons] at h
      rw [List.cons_append, closesLate_cons]
      split at h
      · rename_i hc
        rw [if_pos hc]
        cases cs with
        | nil => exact htail ht
        | cons d cs =>
            intro hmem
            rcases List.mem_append.mp hmem with hmem | hmem
            · exact h hmem
            · exact ht hmem
      · rename_i hc
        rw [if_neg hc]
        intro hmem
        rcases List.mem_append.mp hmem with hmem | hmem
        · exact h hmem
        · exact ht hmem

/-- No bracket stands behind the characters that belong to no range. -/
theorem ClosesLate.drop {cs : List Char} (h : ClosesLate cs) :
    ']' ∉ cs.drop (if cs.head? == some '!' then 2 else 1) := by
  cases cs with
  | nil => exact List.not_mem_nil
  | cons c cs =>
      rw [closesLate_cons] at h
      by_cases hc : c = '!'
      · rw [if_pos hc] at h
        simpa [hc] using h
      · rw [if_neg hc] at h
        simpa [hc] using h

theorem flatMap_escaped (cs : List Char) :
    escaped (fun c => c == '&' || c == '~' || c == '|')
      (escaped (fun c => c == '\\' || c == '-') cs) = cs.flatMap written := by
  unfold escaped
  rw [List.flatMap_assoc]
  refine congrArg (List.flatMap · cs) (funext (fun c => ?_))
  unfold written
  by_cases hslash : c = '\\'
  · subst hslash
    rfl
  · by_cases hhyphen : c = '-'
    · subst hhyphen
      rfl
    · simp [hslash, hhyphen]

/-- The written form of pieces, with a hyphen between them. -/
theorem escaped_joinWith (q : List Char) (rest : List (List Char)) :
    escaped (fun c => c == '&' || c == '~' || c == '|')
      (Text.joinWith ['-'] ((q :: rest).map (escaped fun c => c == '\\' || c == '-')))
        = joined q rest := by
  induction rest generalizing q with
  | nil =>
      rw [List.map_cons, List.map_nil, Text.joinWith, flatMap_escaped]
      exact (List.append_nil _).symm
  | cons r rest ih =>
      rw [List.map_cons, List.map_cons, Text.joinWith]
      · rw [← List.map_cons, escaped, List.flatMap_append, List.flatMap_append]
        change escaped _ _ ++ ['-'] ++ escaped _ _ = _
        rw [flatMap_escaped, ih, joined, joined, List.flatMap_cons, List.append_assoc]
        rfl
      · intro heq
        cases heq

/-- The written form of a set is that of rising pieces. -/
theorem setText_eq {cs : List Char} (h : ClosesLate cs) :
    ∃ q rest, setText cs = joined q rest ∧ Wide rest ∧ Rising (q :: rest) ∧
      (∀ p ∈ rest, ']' ∉ p) ∧ ClosesLate q := by
  unfold setText
  split
  · let skip := if cs.head? == some '!' then 2 else 1
    rcases rangePieces_eq [] skip cs with ⟨first, rest, hpieces, hfirst, _, hlong, hchars⟩
    rw [List.reverse_nil, List.nil_append] at hpieces
    -- Only the first piece can hold a bracket, since the others begin behind the first character.
    have hgood : ∀ r ∈ rest, ∀ c ∈ r, c ≠ ']' := by
      rintro r hr c hc rfl
      exact h.drop (hchars r hr _ hc)
    rcases filled_wide (· ≠ ']') (by decide) hlong hgood first
      with ⟨p, middle, hfilled, hp, hwide, hmiddle, _⟩
    rcases withoutEmptyRanges_rising hwide hmiddle p
      with ⟨q, others, hcut, hothers, hrising, hchars', _, hq⟩
    have hlate : ClosesLate p := by
      have hown := h.cut hfirst
      rcases hp with rfl | rfl
      · exact hown
      · exact hown.append (by decide)
    refine ⟨q, others, ?_, hothers, hrising, fun r hr hmem => hchars' r hr _ hmem rfl, ?_⟩
    · have hmended : withoutEmptyRanges (filled (rangePieces [] skip cs)) = q :: others := by
        rw [hpieces, hfilled, hcut]
      rw [← escaped_joinWith, ← hmended]
      rfl
    · rcases hq with rfl | ⟨t, rfl, ht, _⟩
      · exact hlate
      · exact (hlate.cut (List.dropLast_prefix _)).append fun hmem => ht _ hmem rfl
  · -- Without a hyphen there is one piece, and the hyphens that would be marked are none.
    rename_i hplain
    refine ⟨cs, [], ?_, trivial, trivial, fun p hp => absurd hp List.not_mem_nil, h⟩
    have hnone : ∀ c ∈ cs, c ≠ '-' := by
      rintro c hc rfl
      exact hplain (List.contains_iff_mem.mpr hc)
    have hsame : escaped (· == '\\') cs = escaped (fun c => c == '\\' || c == '-') cs := by
      unfold escaped
      rw [List.flatMap_def, List.flatMap_def]
      refine congrArg List.flatten (List.map_congr_left fun c hc => ?_)
      simp [hnone c hc]
    simp only [hsame, flatMap_escaped, joined, List.flatMap_nil, List.append_nil]

/-- A set is read if the members of its written form are. -/
theorem isSome_readSet {negated : Bool} {cs : List Char}
    (h : ∃ found, Pattern.setMembers (.start 0) 0 (cs.length + 2) [] (cs ++ [']'])
      = .ok (found, [])) : (readSet negated cs).isSome = true := by
  rcases h with ⟨found, hfound⟩
  simp only [readSet, hfound, Option.isSome_some]

/-- A set is read in front of its closing bracket if it begins with the sign of a character, and
    goes on with the written form of rising pieces. -/
theorem isSome_readSet_sign {sign q : List Char} {rest : List (List Char)} {c : Char}
    (hsign : Spells (.start 0) sign c) (hq : ']' ∉ q) (hrest : ∀ p ∈ rest, ']' ∉ p)
    (hwide : Wide rest) (hrising : Rising ((c :: q) :: rest)) (negated : Bool) :
    (readSet negated (sign ++ joined q rest)).isSome = true := by
  have hpositive := List.length_pos_iff.mpr hsign.nonempty
  refine isSome_readSet ?_
  rw [List.append_assoc]
  refine setMembers_first hsign (fun _ => rfl) hq hrest hwide hrising ?_ ?_
  · rw [List.length_append]
    omega
  · intro members q rest hmembers hq hrest hwide hrising hfuel
    exact setMembers_joined (fun h => absurd h hmembers) (fun _ => hq)
      (fun h => hq (List.mem_of_mem_tail h)) hrest hwide hrising hfuel

/-- A set that does not begin with an exclamation mark. -/
theorem isSome_globSet_positive {cs q : List Char} {rest : List (List Char)} {c : Char}
    (htext : setText cs = joined (c :: q) rest) (hc : c ≠ '!') (hq : ']' ∉ q)
    (hrest : ∀ p ∈ rest, ']' ∉ p) (hwide : Wide rest) (hrising : Rising ((c :: q) :: rest)) :
    (globSet cs).isSome = true := by
  have hwritten := isSome_readSet_sign (spells_written _ c) hq hrest hwide hrising false
  rw [globSet, htext, joined_cons]
  by_cases hspecial : (c == '\\' || c == '-' || c == '&' || c == '~' || c == '|') = true
  · -- A backslash comes first, which means nothing here.
    rw [written, if_pos hspecial] at hwritten ⊢
    exact hwritten
  · rw [written, if_neg hspecial] at hwritten ⊢
    by_cases hmark : (c == '^' || c == '[') = true
    · have hsign : Spells (.start 0) ['\\', c] c := by
        refine spells_escaped ?_
        simp only [Bool.or_eq_true, beq_iff_eq] at hmark
        rcases hmark with rfl | rfl <;> simp
      have hread := isSome_readSet_sign hsign hq hrest hwide hrising false
      split
      · rfl
      · rfl
      · rename_i heq
        exact absurd (List.cons.inj heq).1 hc
      · rename_i heq
        rcases List.cons.inj heq with ⟨rfl, rfl⟩
        rw [if_pos hmark]
        exact hread
    · split
      · rfl
      · rfl
      · rename_i heq
        exact absurd (List.cons.inj heq).1 hc
      · rename_i heq
        rcases List.cons.inj heq with ⟨rfl, rfl⟩
        rw [if_neg hmark]
        exact hwritten

/-- A set that begins with an exclamation mark. -/
theorem isSome_globSet_negative {cs q : List Char} {rest : List (List Char)}
    (htext : setText cs = joined ('!' :: q) rest) (hq : ']' ∉ q.tail)
    (hrest : ∀ p ∈ rest, ']' ∉ p) (hwide : Wide rest) (hrising : Rising (('!' :: q) :: rest)) :
    (globSet cs).isSome = true := by
  have hmark : joined ('!' :: q) rest = '!' :: joined q rest := by
    rw [joined_cons]
    rfl
  rw [globSet, htext, hmark]
  cases hjoined : joined q rest with
  | nil => rfl
  | cons d ds =>
      have hsome : q ≠ [] ∨ rest ≠ [] := by
        by_contra hboth
        rw [not_or, not_not, not_not] at hboth
        rw [hboth.1, hboth.2] at hjoined
        cases hjoined
      -- What the mark leaves of the first piece ends as the piece did.
      have hrising' : Rising (q :: rest) := by
        refine hrising.imp fun _ a ha => ?_
        have hq : q ≠ [] := by
          rintro rfl
          cases ha
        rw [List.getLast?_cons_of_ne_nil hq]
        exact ha
      have hread : ∃ found, Pattern.setMembers (.start 0) 0 ((joined q rest).length + 2) []
          (joined q rest ++ [']']) = .ok (found, []) :=
        setMembers_joined (fun _ => hsome) (fun h => absurd rfl h) hq hrest hwide hrising'
          (by omega)
      rw [hjoined] at hread
      exact isSome_readSet hread

/-- What stands between brackets is a set. -/
theorem isSome_globSet {cs : List Char} (h : ClosesLate cs) : (globSet cs).isSome = true := by
  rcases setText_eq h with ⟨q, rest, htext, hwide, hrising, hrest, hlate⟩
  -- An exclamation mark at the start is no member of the set.
  cases q with
  | nil =>
      rw [globSet, htext]
      cases rest with
      | nil => rfl
      | cons p others =>
          have hread : ∃ found, Pattern.setMembers (.start 0) 0
              ((joined [] (p :: others)).length + 2) [] (joined [] (p :: others) ++ [']'])
                = .ok (found, []) :=
            setMembers_joined (fun _ => Or.inr (List.cons_ne_nil _ _)) (fun h => absurd rfl h)
              List.not_mem_nil hrest hwide hrising (by omega)
          rw [joined_nil_cons] at hread ⊢
          exact isSome_readSet hread
  | cons c q =>
      rw [closesLate_cons] at hlate
      by_cases hc : c = '!'
      · subst hc
        rw [if_pos rfl] at hlate
        exact isSome_globSet_negative htext hlate hrest hwide hrising
      · rw [if_neg hc] at hlate
        exact isSome_globSet_positive htext hc hlate hrest hwide hrising

/-- A set goes on to the next bracket behind what stands in front of it. -/
theorem closesLate_behind {front rest inside after : List Char} (hfront : ClosesLate front)
    (h : (match rest.dropWhile (· != ']') with
      | [] => none
      | _ :: after => some (front ++ rest.takeWhile (· != ']'), after)) = some (inside, after)) :
    ClosesLate inside ∧ after.length < rest.length := by
  -- The bracket that closes is the first one behind the front.
  have hnone : ']' ∉ rest.takeWhile (· != ']') := by
    intro hmem
    have hkept := List.all_eq_true.mp (List.all_takeWhile (l := rest)) _ hmem
    simp at hkept
  cases hbehind : rest.dropWhile (· != ']') with
  | nil =>
      rw [hbehind] at h
      cases h
  | cons b behind =>
      have hlength := (List.dropWhile_suffix (l := rest) (· != ']')).length_le
      rw [hbehind] at h hlength
      cases h
      exact ⟨hfront.append hnone, hlength⟩

/-- A bracket at the start is a member of the set. -/
theorem closesLate_start (front cs : List Char) (hfront : front = [] ∨ front = ['!']) :
    let cut := match cs with
      | ']' :: rest => ([']'], rest)
      | rest => ([], rest)
    ClosesLate (front ++ cut.1) ∧ cut.2.length ≤ cs.length := by
  simp only []
  split
  · exact ⟨by rcases hfront with rfl | rfl <;> simp [ClosesLate], Nat.le_succ _⟩
  · exact ⟨by rcases hfront with rfl | rfl <;> simp [ClosesLate], Nat.le_refl _⟩

/-- What stands between brackets in a name has a bracket at its start at most, and the name
    goes on behind it. -/
theorem bracket?_closesLate {cs inside after : List Char}
    (h : bracket? (· == '!') cs = some (inside, after)) :
    ClosesLate inside ∧ after.length < cs.length := by
  unfold bracket? at h
  cases cs with
  | nil => cases h
  | cons c cs =>
      -- The mark of a complement may stand before the bracket that is a member.
      by_cases hc : c = '!'
      · subst hc
        simp only [beq_self_eq_true, if_true] at h
        rcases closesLate_start _ cs (Or.inr rfl) with ⟨hfront, hlength⟩
        rcases closesLate_behind hfront h with ⟨hlate, hafter⟩
        exact ⟨hlate, Nat.lt_succ_of_lt (Nat.lt_of_lt_of_le hafter hlength)⟩
      · simp only [beq_eq_false_iff_ne.mpr hc, Bool.false_eq_true, if_false] at h
        rcases closesLate_start _ (c :: cs) (Or.inl rfl) with ⟨hfront, hlength⟩
        rcases closesLate_behind hfront h with ⟨hlate, hafter⟩
        exact ⟨hlate, Nat.lt_of_lt_of_le hafter hlength⟩

theorem isSome_nameFrom {fuel : Nat} {cs : List Char} (h : cs.length < fuel) :
    (nameFrom fuel cs).isSome = true := by
  induction fuel generalizing cs with
  | zero => exact absurd h (Nat.not_lt_zero _)
  | succ fuel ih =>
      cases cs with
      | nil => rfl
      | cons c rest =>
          have hrest := ih (Nat.lt_of_succ_lt_succ h)
          rw [nameFrom.eq_def]
          · simp only []
            split
            · rw [Option.isSome_map]
              exact hrest
            · rw [Option.isSome_map]
              exact hrest
            · -- A bracket opens a set if there is one that closes it, and is a plain character
              -- else.
              cases hbracket : bracket? (· == '!') rest with
              | none =>
                  simp only [Option.isSome_map]
                  exact hrest
              | some found =>
                  rcases found with ⟨inside, after⟩
                  rcases bracket?_closesLate hbracket with ⟨hlate, hafter⟩
                  have hset := isSome_globSet hlate
                  have hmore : (nameFrom fuel after).isSome = true :=
                    ih (Nat.lt_trans hafter (Nat.lt_of_succ_lt_succ h))
                  rcases Option.isSome_iff_exists.mp hset with ⟨e, he⟩
                  rcases Option.isSome_iff_exists.mp hmore with ⟨e', he'⟩
                  simp [he, he', bind, Option.bind]
            · rw [Option.isSome_map]
              exact hrest

/-- Every name of a glob can be read. -/
theorem isSome_name (s : String) : (name s).isSome = true := by
  rw [name, Option.isSome_map]
  exact isSome_nameFrom (Nat.lt_succ_of_le (Nat.le_of_eq String.length_toList))

end Wildcard

end Annals
