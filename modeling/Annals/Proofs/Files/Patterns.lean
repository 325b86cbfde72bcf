import Annals.Proofs.Files.Globs
import Annals.Proofs.Files.Sets

/-!
# Patterns that cannot be Read

What can be wrong with a pattern of a glob, and with a pattern that says what is left out.

A glob that is relative can be wrong in two ways only: it has no name, or one of its names has
two stars in it and is more than these. Sets in its names can always be read
(`Wildcard.isSome_name`). What is left are paths: a glob can spell a path that is too long to
be looked up, and then the fault comes from the tree and not from the glob (`select_fault`).

A pattern that says what is left out is read name by name. What is done to its names before
adds or takes away nothing but empty names and double stars, which can be read, so the
pattern can be read exactly if each of its names can (`readRule_iff`). A name without a
backslash and without a bracket always can.

## Main definitions

* `Path.IsLong`: A path that cannot be looked up.
* `Glob.IsSound`: A glob that can be read.
* `Ignore.IsReadable`: A pattern of what is left out that can be read.

## Theorems

* `select_unsound`, `select_fault`: What is wrong with a glob.
* `readRule_iff`, `readRules_iff`: When patterns of what is left out can be read.
* `isReadable_of_plain`: A pattern without backslashes and brackets.
* `allHits_fault_iff`, `mem_of_allHits_fault`: Which patterns of a workspace are at fault.
-/

namespace Annals

namespace Path

/-- A path that cannot be looked up: it is longer than paths can be, or one of its names is
    longer than names can be. -/
def IsLong (p : Path) : Prop :=
  maxLength < p.text.utf8ByteSize ∨ ∃ n ∈ p.names, maxName < n.utf8ByteSize

end Path

namespace FileSystem

variable {fs : FileSystem} {p : Path}

theorem walk_tooLong {around : List FileTree} {here : FileTree} {names : List String}
    (h : walk around here names = .error .tooLong) :
    ∃ n ∈ names, Path.maxName < n.utf8ByteSize := by
  induction names generalizing around here with
  | nil => cases h
  | cons name rest ih =>
      -- Wherever the walk goes on, the name is among the later ones.
      have hlater {around : List FileTree} {here : FileTree}
          (h : walk around here rest = .error .tooLong) :
          ∃ n ∈ name :: rest, Path.maxName < n.utf8ByteSize := by
        rcases ih h with ⟨n, hn, hlong⟩
        exact ⟨n, List.mem_cons_of_mem _ hn, hlong⟩
      cases here with
      | file bytes => cases h
      | directory entries =>
          simp only [walk] at h
          split at h
          · cases around with
            | nil => exact hlater h
            | cons parent outer => exact hlater h
          · split at h
            · rename_i hlong
              exact ⟨name, List.mem_cons_self .., hlong⟩
            · cases hnext : entries.lookup name with
              | none =>
                  rw [hnext] at h
                  cases h
              | some next =>
                  rw [hnext] at h
                  exact hlater h

/-- What cannot be looked up from the root is a long path. -/
theorem isLong_of_look {f : PathFault} (habsolute : p.isAbsolute = true)
    (h : fs.look p = .error f) : f = .tooLong p ∧ p.IsLong := by
  unfold look at h
  cases hfind : fs.find p with
  | ok t =>
      rw [hfind] at h
      cases h
  | error own =>
      rw [hfind] at h
      -- The search passes on only one of the faults; from the others it learns that there is
      -- nothing.
      cases own <;> cases h
      refine ⟨rfl, ?_⟩
      unfold find at hfind
      split at hfind
      · rename_i hlong
        exact Or.inl hlong
      · rw [absolute, Path.join, if_pos habsolute] at hfind
        exact Or.inr (walk_tooLong hfind)

theorem isLong_of_isDirectory {f : PathFault} (habsolute : p.isAbsolute = true)
    (h : fs.isDirectory p = .error f) : f = .tooLong p ∧ p.IsLong := by
  unfold isDirectory at h
  cases hlook : fs.look p with
  | ok there =>
      rw [hlook] at h
      cases h
  | error own =>
      rw [hlook] at h
      cases h
      exact isLong_of_look habsolute hlook

end FileSystem

namespace Glob

variable {fs : FileSystem} {p : Path}

/-- A name of a glob that can be read: two stars, or a name without them. -/
def IsSoundName (n : String) : Prop := n = "**" ∨ Text.contains ['*', '*'] n.toList = false

instance (n : String) : Decidable (IsSoundName n) := inferInstanceAs (Decidable (_ ∨ _))

/-- A glob that can be read if it is relative: it has names, and each of them can be read. -/
def IsSound (text : String) : Prop :=
  (Path.parse text).names ≠ [] ∧ ∀ n ∈ (Path.parse text).names, IsSoundName n

instance (text : String) : Decidable (IsSound text) := inferInstanceAs (Decidable (_ ∧ _))

/-- The faults that can be seen in a relative glob itself. -/
def Fault.IsWritten (f : Fault) : Prop := f = .noName ∨ f = .onlyDirectory ∨ f = .stars

/-- Only stars are wrong with a name. -/
theorem part_cases (n : String) :
    (IsSoundName n ∧ ∃ one, part n = .ok one) ∨ (¬ IsSoundName n ∧ part n = .error .stars) := by
  unfold part IsSoundName
  by_cases hstars : n = "**"
  · exact Or.inl ⟨Or.inl hstars, .below, by simp [hstars]⟩
  · cases hpart : Text.contains ['*', '*'] n.toList with
    | true => exact Or.inr ⟨by simp [hstars], by simp [hstars]⟩
    | false =>
        refine Or.inl ⟨Or.inr rfl, ?_⟩
        rcases Option.isSome_iff_exists.mp (Wildcard.isSome_name n) with ⟨e, he⟩
        cases hwild : Wildcard.isWild n with
        | true => exact ⟨.wild e, by simp [hstars, he]⟩
        | false => exact ⟨.exact n, by simp [hstars]⟩

/-- The names of a glob are read if each of them can be. -/
theorem mapM_part (names : List String) :
    ((∃ parts, names.mapM part = .ok parts) ↔ ∀ n ∈ names, IsSoundName n) ∧
      ∀ f, names.mapM part = .error f → f = .stars := by
  refine ⟨?_, fun f hf => ?_⟩
  · rw [mapM_ok_iff]
    refine forall₂_congr fun n _ => ?_
    rcases part_cases n with ⟨hsound, hpart⟩ | ⟨hsound, hpart⟩
    · exact iff_of_true hpart hsound
    · refine iff_of_false ?_ hsound
      rintro ⟨one, hone⟩
      cases hpart.symm.trans hone
  · rcases (mapM_except part names).1 f hf with ⟨n, _, hn⟩
    rcases part_cases n with ⟨_, one, hone⟩ | ⟨_, hstars⟩
    · cases hone.symm.trans hn
    · cases hstars.symm.trans hn
      rfl

/-- A relative glob is read exactly if it is sound, and otherwise it can be seen what is wrong
    with it. -/
theorem parse_cases {text : String} (hsome : text ≠ "")
    (hrelative : (Path.parse text).isAbsolute = false) :
    (IsSound text ∧ ∃ parts, parse text = .ok parts) ∨
      (¬ IsSound text ∧ ∃ f, parse text = .error f ∧ f.IsWritten) := by
  have hok : (∃ parts, parse text = .ok parts) ↔ IsSound text := by
    unfold IsSound
    rw [← (mapM_part _).1]
    constructor
    · rintro ⟨parts, hparts⟩
      rcases parse_eq_ok.mp hparts with ⟨_, _, hnames, own, hown, _⟩
      exact ⟨hnames, own, hown⟩
    · rintro ⟨hnames, own, hown⟩
      exact ⟨_, parse_eq_ok.mpr ⟨hsome, hrelative, hnames, own, hown, rfl⟩⟩
  cases hparse : parse text with
  | ok parts => exact Or.inl ⟨hok.mp ⟨parts, hparse⟩, parts, rfl⟩
  | error f =>
      refine Or.inr ⟨fun h => ?_, f, rfl, ?_⟩
      · rcases hok.mpr h with ⟨parts, hparts⟩
        cases hparse.symm.trans hparts
      · -- The faults of a glob that is neither empty nor absolute: a name that cannot be read, or
        -- none.
        have hempty : text.isEmpty = false := by simpa using hsome
        unfold parse at hparse
        simp only [hempty, hrelative, Bool.false_eq_true, if_false] at hparse
        cases hown : (Path.parse text).names.mapM part with
        | error own =>
            rw [hown] at hparse
            cases hparse
            exact Or.inr (Or.inr ((mapM_part _).2 _ hown))
        | ok own =>
            rw [hown] at hparse
            simp only [bind, Except.bind] at hparse
            split at hparse
            · cases hparse
              exact Or.inl rfl
            · cases hparse
              exact Or.inr (Or.inl rfl)
            · cases hparse

/-- From a path from the root, the names of a glob fail on long paths only. -/
theorem isLong_of_selectFrom {parts : List Part} {f : PathFault}
    (hnamed : fs.root.isNamed = true) (habsolute : p.isAbsolute = true)
    (h : selectFrom fs parts p = .error f) : ∃ q, f = .tooLong q ∧ q.IsLong := by
  induction parts generalizing p f with
  | nil => cases h
  | cons part rest ih =>
      -- The names behind the first one are followed from a path that begins at the root too.
      have hrest {l : List Path} {f : PathFault} (hl : ∀ q ∈ l, q.isAbsolute = true)
          (h : l.mapM (selectFrom fs rest) = .error f) : ∃ q, f = .tooLong q ∧ q.IsLong := by
        rcases (mapM_except _ _).1 f h with ⟨q, hq, hfault⟩
        exact ih (hl q hq) hfault
      cases part with
      | done => cases h
      | below =>
          simp only [selectFrom] at h
          rcases bind_eq_error.mp h with hall | ⟨all, _, h⟩
          · refine hrest (fun q hq => ?_) hall
            rcases mem_directoriesBelow hnamed hq with ⟨more, rfl, _⟩
            exact habsolute
          · cases h
      | wild e =>
          simp only [selectFrom] at h
          rcases bind_eq_error.mp h with hall | ⟨all, _, h⟩
          · rcases (mapM_except _ _).1 f hall with ⟨⟨name, t⟩, _, hfault⟩
            exact ih (p := p.child name) habsolute hfault
          · cases h
      | exact name =>
          simp only [selectFrom] at h
          cases hlook : fs.look (p.child name) with
          | error own =>
              rw [hlook] at h
              cases h
              rcases FileSystem.isLong_of_look (p := p.child name) habsolute hlook with ⟨rfl, hlong⟩
              exact ⟨_, rfl, hlong⟩
          | ok there =>
              rw [hlook] at h
              cases there with
              | none => cases h
              | some t =>
                  simp only [bind, Except.bind] at h
                  split at h
                  · exact ih (p := p.child name) habsolute h
                  · cases h

/-- A relative glob that is not sound is refused wherever it is followed. -/
theorem select_unsound {text : String} (hsome : text ≠ "")
    (hrelative : (Path.parse text).isAbsolute = false) (h : ¬ IsSound text) :
    ∃ f, select fs p text = .error f ∧ f.IsWritten := by
  rcases parse_cases hsome hrelative with ⟨hsound, _⟩ | ⟨_, f, hparse, hf⟩
  · exact absurd hsound h
  · refine ⟨f, ?_, hf⟩
    rw [select, hparse]
    rfl

/-- A sound glob fails on long paths only. -/
theorem select_fault {text : String} {f : Fault} (hnamed : fs.root.isNamed = true)
    (habsolute : p.isAbsolute = true) (hsome : text ≠ "")
    (hrelative : (Path.parse text).isAbsolute = false) (hsound : IsSound text)
    (h : select fs p text = .error f) : ∃ q, f = .path (.tooLong q) ∧ q.IsLong := by
  rcases parse_cases hsome hrelative with ⟨_, parts, hparse⟩ | ⟨hunsound, _⟩
  · rw [select, hparse] at h
    cases hdirectory : fs.isDirectory p with
    | error own =>
        simp only [hdirectory, bind, Except.bind, Except.mapError] at h
        cases h
        rcases FileSystem.isLong_of_isDirectory habsolute hdirectory with ⟨rfl, hlong⟩
        exact ⟨_, rfl, hlong⟩
    | ok found =>
        simp only [hdirectory, bind, Except.bind, Except.mapError] at h
        split at h
        · cases hselected : selectFrom fs parts p with
          | ok all =>
              rw [hselected] at h
              cases h
          | error own =>
              rw [hselected] at h
              cases h
              rcases isLong_of_selectFrom hnamed habsolute hselected with ⟨q, rfl, hlong⟩
              exact ⟨q, rfl, hlong⟩
        · cases h
  · exact absurd hsound hunsound

end Glob

namespace Ignore

open Wildcard (Piece pieces? piecesFrom)

/-- Parts that are there and have a meaning. -/
def Reads (parts : Option (List Piece)) : Prop :=
  ∃ found, parts = some found ∧ ∀ p ∈ found, ∃ e, p.meaning = .ok e

theorem reads_some {found : List Piece} :
    Reads (some found) ↔ ∀ p ∈ found, ∃ e, p.meaning = .ok e := by
  constructor
  · rintro ⟨own, hown, h⟩
    cases hown
    exact h
  · exact fun h => ⟨found, rfl, h⟩

theorem not_reads_none : ¬ Reads none := by
  rintro ⟨found, hfound, _⟩
  cases hfound

theorem reads_empty : Reads (pieces? "") := ⟨[], rfl, by simp⟩

theorem reads_star : Reads (pieces? "*") := ⟨_, rfl, by simp [Piece.of]⟩

theorem reads_stars : Reads (pieces? "**") := ⟨_, rfl, by simp [Piece.of]⟩

/-- A part with a meaning in front of others. -/
theorem reads_cons {p : Piece} (h : ∃ e, p.meaning = .ok e) {parts : Option (List Piece)} :
    (Reads do return p :: (← parts)) ↔ Reads parts := by
  cases parts with
  | none => exact Iff.rfl
  | some found =>
      have hall : (∀ q ∈ p :: found, ∃ e, q.meaning = .ok e) ↔
          ∀ q ∈ found, ∃ e, q.meaning = .ok e :=
        List.forall_mem_cons.trans (and_iff_right h)
      exact (reads_some.trans hall).trans reads_some.symm

/-- The parts of a name with those of the names behind it, or with the end of a name if there
    are none. -/
theorem reads_segment (needsSlash : Bool) (name : Option (List Piece)) (names : List String) :
    (Reads do
      let name ← name
      let name := if needsSlash then Wildcard.slash :: name else name
      if names.isEmpty then return name ++ [nameEnd]
      return name ++ (← ofSegments false true names))
      ↔ Reads name ∧ Reads (ofSegments false true names) := by
  have hslash : ∃ e, Wildcard.slash.meaning = .ok e := ⟨_, rfl⟩
  have hend : ∃ e, nameEnd.meaning = .ok e := ⟨_, rfl⟩
  cases name with
  | none => exact iff_of_false not_reads_none fun h => not_reads_none h.1
  | some found =>
      have hfound : (∀ p ∈ (if needsSlash then Wildcard.slash :: found else found),
          ∃ e, p.meaning = .ok e) ↔ ∀ p ∈ found, ∃ e, p.meaning = .ok e := by
        cases needsSlash with
        | false => exact Iff.rfl
        | true => exact List.forall_mem_cons.trans (and_iff_right hslash)
      cases names with
      | nil =>
          have hnone : Reads (ofSegments false true []) := ⟨[], rfl, by simp⟩
          refine Iff.trans ?_ (and_iff_left hnone).symm
          refine reads_some.trans (List.forall_mem_append.trans ?_)
          rw [hfound, reads_some]
          exact and_iff_left (by simpa using hend)
      | cons n rest =>
          cases hlater : ofSegments false true (n :: rest) with
          | none =>
              -- The names behind this one cannot be read, and so it is with all of them.
              refine iff_of_false (fun h => ?_) fun h => not_reads_none h.2
              simp [bind, Option.bind] at h
              exact not_reads_none h
          | some later =>
              rw [reads_some, reads_some, ← hfound, ← List.forall_mem_append, ← reads_some]
              simp [bind, Option.bind]

/-- The names of a pattern can be read one by one. -/
theorem reads_ofSegments (isFirst needsSlash : Bool) (names : List String) :
    Reads (ofSegments isFirst needsSlash names) ↔ ∀ n ∈ names, Reads (pieces? n) := by
  induction names generalizing isFirst needsSlash with
  | nil => exact iff_of_true ⟨[], rfl, by simp⟩ fun n hn => absurd hn List.not_mem_nil
  | cons n rest ih =>
      rw [List.forall_mem_cons]
      unfold ofSegments
      -- Double stars at the end, at the start, and between other names; then any other name.
      split
      · rename_i heq
        cases heq
      · rename_i heq
        cases heq
        exact iff_of_true ⟨_, rfl, by simp [Wildcard.slash, Piece.of]⟩
          ⟨reads_stars, fun n hn => absurd hn List.not_mem_nil⟩
      · rename_i heq
        cases heq
        rw [and_iff_right reads_stars]
        exact (reads_cons ⟨_, rfl⟩).trans (ih false false)
      · rename_i heq
        cases heq
        rw [and_iff_right reads_stars]
        exact (reads_cons ⟨_, rfl⟩).trans (ih false true)
      · rename_i heq
        cases heq
        simp only []
        split
        · -- A star alone is not read by its characters, but both ways of reading it succeed.
          rename_i hn
          rw [beq_iff_eq.mp hn]
          have hany : Reads (some [Piece.of "[^/]+" (some1 Wildcard.notSlash)]) :=
            ⟨_, rfl, by simp [Piece.of]⟩
          refine (reads_segment _ _ _).trans (and_congr (iff_of_true hany reads_star) (ih false true))
        · exact (reads_segment _ _ _).trans (and_congr_right fun _ => ih false true)

/-- Parts are read one after another if each of them has a meaning. -/
theorem meaning_ok_iff {text before : List Char} {parts : List Piece} :
    (∃ e, meaning text before parts = .ok e) ↔ ∀ p ∈ parts, ∃ e, p.meaning = .ok e := by
  induction parts generalizing before with
  | nil => exact iff_of_true ⟨_, rfl⟩ fun p hp => absurd hp List.not_mem_nil
  | cons p rest ih =>
      rw [List.forall_mem_cons, ← @ih (before ++ p.text), meaning]
      cases hp : p.meaning with
      | error r => simp
      | ok e =>
          cases meaning text (before ++ p.text) rest <;>
            simp [bind, Except.bind, pure, Except.pure]

section Names

variable {R : String → Prop} (hstars : R "**") (hempty : R "")

include hstars in
/-- Making double stars one leaves no other names than there were. -/
theorem forall_collapseStars (names : List String) :
    (∀ n ∈ collapseStars names, R n) ↔ ∀ n ∈ names, R n := by
  induction names using collapseStars.induct with
  | case1 rest ih =>
      rw [collapseStars, ih, List.forall_mem_cons (a := "**") (l := "**" :: rest)]
      exact (and_iff_right hstars).symm
  | case2 s rest h ih =>
      rw [collapseStars, List.forall_mem_cons, List.forall_mem_cons, ih]
      exact h
  | case3 => rfl

include hstars hempty in
/-- Beginning at the root adds double stars at most, and leaves out an empty name. -/
theorem forall_fromRoot (names : List String) :
    (∀ n ∈ fromRoot names, R n) ↔ ∀ n ∈ names, R n := by
  unfold fromRoot
  split
  · rw [List.forall_mem_cons]
    exact (and_iff_right hempty).symm
  · split
    · rfl
    · rw [List.forall_mem_cons]
      exact and_iff_right hstars
  · split
    · rfl
    · rw [List.forall_mem_cons]
      exact and_iff_right hstars
  · rfl

include hstars hempty in
/-- Double stars are written for an empty name at the end. -/
theorem forall_withoutSlash (names : List String) :
    (∀ n ∈ withoutSlash names, R n) ↔ ∀ n ∈ names, R n := by
  unfold withoutSlash
  split
  · rename_i hlast
    rw [← List.dropLast_append_getLast? _ (beq_iff_eq.mp hlast), List.dropLast_concat,
      List.forall_mem_append, List.forall_mem_append, List.forall_mem_singleton,
      List.forall_mem_singleton]
    exact and_congr_right fun _ => iff_of_true hstars hempty
  · rfl

end Names

/-- The names of a pattern from the root are read if each of them can be. -/
theorem ofRoot_ok_iff (line : String) (forDirectories : Bool) {names : List String} :
    (∃ e, ofRoot line forDirectories names = .ok e) ↔ ∀ n ∈ names, Reads (pieces? n) := by
  unfold ofRoot
  split
  · exact iff_of_true ⟨_, rfl⟩ (by simpa using reads_stars)
  · exact iff_of_true ⟨_, rfl⟩ (by simpa using ⟨reads_stars, reads_star⟩)
  · exact iff_of_true ⟨_, rfl⟩ (by simpa using ⟨reads_stars, reads_star, reads_stars⟩)
  · rw [← reads_ofSegments true false]
    cases ofSegments true false names with
    | none => exact iff_of_false (by simp) not_reads_none
    | some parts =>
        rw [reads_some]
        refine meaning_ok_iff.trans (List.forall_mem_cons.trans (and_iff_right ⟨_, rfl⟩))

/-- What counts of a line: without the blanks at its end, unless there is a backslash before
    them. -/
def shown (line : String) : List Char :=
  if line.endsWith "\\ " then line.toList else Text.trimEnd line.toList

/-- A comment, a single slash, or nothing. -/
def SaysNothing (text : List Char) : Prop := text.head? = some '#' ∨ text = ['/'] ∨ text = []

/-- What a pattern names: what comes behind an exclamation mark, if it begins with one. -/
def named : List Char → List Char
  | '!' :: rest => rest
  | text => text

/-- A pattern of what is named. -/
def readNames (line : String) (ignores : Bool) (text : List Char) : Except Fault (Option Rule) := do
  let names := (Text.splitOn '/' text).map String.ofList
  if (fromRoot names).isEmpty then throw (.invalid line)
  let e ← ofRoot line (names.getLast? == some "") (collapseStars (withoutSlash (fromRoot names)))
  return some ⟨e, ignores⟩

/-- A line is read by what it names, unless it says nothing. -/
theorem readRule_eq (line : String) : ∃ ignores, readRule line =
    if (shown line).head? == some '#' || shown line == ['/'] || (shown line).isEmpty then .ok none
    else readNames line ignores (named (shown line)) := by
  unfold readRule shown
  simp only []
  generalize (if line.endsWith "\\ " then line.toList else Text.trimEnd line.toList) = text
  cases text with
  | nil => exact ⟨true, rfl⟩
  | cons c rest =>
      by_cases hc : c = '!'
      · subst hc
        exact ⟨false, rfl⟩
      · -- Without an exclamation mark all of the text names something.
        refine ⟨true, ?_⟩
        have hnamed : named (c :: rest) = c :: rest := by
          rw [named]
          exact fun _ heq => hc (List.cons.inj heq).1
        rw [hnamed]
        split
        · rfl
        · split
          · rename_i heq
            exact absurd (List.cons.inj heq).1 hc
          · rfl

/-- Nothing is left of names from the root only if there is nothing but an empty one. -/
theorem fromRoot_eq_nil {names : List String} (h : fromRoot names = []) :
    names = [] ∨ names = [""] := by
  unfold fromRoot at h
  split at h
  · exact Or.inr (by rw [h])
  · split at h <;> cases h
  · split at h <;> cases h
  · exact Or.inl h

/-- What is named is read if there is something, and each of its names can be read. -/
theorem readNames_ok_iff {line : String} {ignores : Bool} {text : List Char} :
    (∃ r, readNames line ignores text = .ok r) ↔
      text ≠ [] ∧ ∀ name ∈ Text.splitOn '/' text, Reads (pieces? (String.ofList name)) := by
  have hnames : (∀ name ∈ Text.splitOn '/' text, Reads (pieces? (String.ofList name))) ↔
      ∀ n ∈ collapseStars (withoutSlash (fromRoot ((Text.splitOn '/' text).map String.ofList))),
        Reads (pieces? n) := by
    rw [forall_collapseStars reads_stars, forall_withoutSlash reads_stars reads_empty,
      forall_fromRoot reads_stars reads_empty, List.forall_mem_map]
  rw [hnames, readNames,
    ← ofRoot_ok_iff line (((Text.splitOn '/' text).map String.ofList).getLast? == some "")]
  simp only []
  cases hroot : fromRoot ((Text.splitOn '/' text).map String.ofList) with
  | nil =>
      -- Nothing is left of the names, so there was no character.
      refine iff_of_false (by rintro ⟨r, hr⟩; cases hr) fun h => h.1 ?_
      rcases fromRoot_eq_nil hroot with hsplit | hsplit
      · exact absurd (List.map_eq_nil_iff.mp hsplit) (Text.splitOnFrom_ne_nil _ _ _)
      · rcases List.map_eq_singleton_iff.mp hsplit with ⟨piece, hpiece, hown⟩
        rw [String.ofList_eq_empty_iff.mp hown] at hpiece
        exact Text.splitOn_eq_singleton hpiece
  | cons n rest =>
      have htext : text ≠ [] := by
        rintro rfl
        cases hroot
      rw [and_iff_right htext]
      cases ofRoot line _ (collapseStars (withoutSlash (n :: rest))) with
      | error f => simp [bind, Except.bind]
      | ok e => simp [bind, Except.bind, pure, Except.pure]

/-- A pattern that can be read: it says nothing, or it names something, and each of its names
    can be read. -/
def IsReadable (line : String) : Prop :=
  SaysNothing (shown line) ∨ named (shown line) ≠ [] ∧
    ∀ name ∈ Text.splitOn '/' (named (shown line)), Reads (pieces? (String.ofList name))

/-- A pattern is read exactly if it can be. -/
theorem readRule_iff {line : String} : (∃ r, readRule line = .ok r) ↔ IsReadable line := by
  have hnothing : ((shown line).head? == some '#' || shown line == ['/'] ||
      (shown line).isEmpty) = true ↔ SaysNothing (shown line) := by
    simp [SaysNothing, or_assoc]
  rcases readRule_eq line with ⟨ignores, heq⟩
  rw [heq, IsReadable]
  by_cases h : SaysNothing (shown line)
  · rw [if_pos (hnothing.mpr h)]
    exact iff_of_true ⟨_, rfl⟩ (Or.inl h)
  · rw [if_neg (mt hnothing.mp h), or_iff_right h]
    exact readNames_ok_iff

/-- Patterns are read exactly if each of them can be. -/
theorem readRules_iff {lines : List String} :
    (∃ rules, readRules lines = .ok rules) ↔ ∀ line ∈ lines, IsReadable line := by
  have hlines := mapM_ok_iff readRule lines
  simp only [readRule_iff] at hlines
  rw [← hlines, readRules]
  cases lines.mapM readRule with
  | error f => simp [bind, Except.bind]
  | ok found => simp [bind, Except.bind, pure, Except.pure]

/-- A name without backslashes and brackets can be read. -/
theorem reads_of_plain {name : String} (h : ∀ c ∈ name.toList, c ≠ '\\' ∧ c ≠ '[') :
    Reads (pieces? name) := by
  have hfrom (fuel : Nat) (cs : List Char) (h : ∀ c ∈ cs, c ≠ '\\' ∧ c ≠ '[') :
      Reads (piecesFrom fuel cs) := by
    induction fuel generalizing cs with
    | zero => exact ⟨[], rfl, by simp⟩
    | succ fuel ih =>
        cases cs with
        | nil => exact ⟨[], rfl, by simp⟩
        | cons c rest =>
            rcases List.forall_mem_cons.mp h with ⟨hc, hrest⟩
            -- Each character that is left is a piece by itself, and every such piece has a meaning.
            have hcons {p : Piece} (hp : ∃ e, p.meaning = .ok e) :
                Reads ((piecesFrom fuel rest).map (p :: ·)) := by
              rcases ih rest hrest with ⟨found, hfound, hall⟩
              exact ⟨_, congrArg _ hfound, List.forall_mem_cons.mpr ⟨hp, hall⟩⟩
            unfold piecesFrom
            split
            · exact absurd rfl hc.1
            · exact absurd rfl hc.1
            · exact hcons ⟨_, rfl⟩
            · exact hcons ⟨_, rfl⟩
            · exact absurd rfl hc.2
            · exact hcons ⟨_, rfl⟩
  exact hfrom _ _ h

/-- A pattern without backslashes and brackets can be read, an exclamation mark alone apart. -/
theorem isReadable_of_plain {line : String} (h : ∀ c ∈ line.toList, c ≠ '\\' ∧ c ≠ '[')
    (hmark : shown line ≠ ['!']) : IsReadable line := by
  have hshown : shown line <:+: line.toList := by
    unfold shown
    split
    · exact List.infix_refl _
    · unfold Text.trimEnd Text.dropEndWhile
      rw [← List.reverse_infix, List.reverse_reverse]
      exact (List.dropWhile_suffix _).isInfix
  have hnamed : named (shown line) <:+ shown line := by
    unfold named
    split
    · rename_i heq
      rw [heq]
      exact List.suffix_cons _ _
    · exact List.suffix_refl _
  by_cases hnothing : SaysNothing (shown line)
  · exact Or.inl hnothing
  · -- What is named is empty only behind an exclamation mark, and its names are parts of the line.
    refine Or.inr ⟨fun hnil => ?_, fun name hname => reads_of_plain fun c hc => ?_⟩
    · cases htext : shown line with
      | nil => exact hnothing (Or.inr (Or.inr htext))
      | cons c rest =>
          rw [htext] at hnil hmark
          unfold named at hnil
          split at hnil
          · rename_i heq
            rw [hnil] at heq
            exact hmark heq
          · cases hnil
    · rw [String.toList_ofList] at hc
      have hpiece := Text.infix_of_mem_splitOnFrom hname
      exact h c (((hpiece.trans hnamed.isInfix).trans hshown).subset hc)

end Ignore

namespace Workspace

variable {w : Workspace} {fs : FileSystem}

/-- A pattern fails as its glob does. -/
theorem hits_error {pattern : String} {f : Glob.Fault} :
    w.hits fs pattern = .error f ↔ Glob.select fs w.root pattern = .error f := by
  unfold hits
  cases Glob.select fs w.root pattern <;> simp [bind, Except.bind, pure, Except.pure]

/-- The patterns of a workspace are followed to their end if each of them is. -/
theorem allHits_fault_iff {patterns : List String} :
    (w.allHits fs patterns).fault = none ↔
      ∀ pattern ∈ patterns, ∀ f, Glob.select fs w.root pattern ≠ .error f := by
  induction patterns with
  | nil => simp [allHits]
  | cons pattern rest ih =>
      rw [allHits, List.forall_mem_cons, ← ih]
      simp only [ne_eq, ← hits_error]
      cases w.hits fs pattern <;> simp

/-- A fault of the patterns is that of one of them. -/
theorem mem_of_allHits_fault {patterns : List String} {f : Glob.Fault}
    (h : (w.allHits fs patterns).fault = some f) :
    ∃ pattern ∈ patterns, Glob.select fs w.root pattern = .error f := by
  induction patterns with
  | nil => cases h
  | cons pattern rest ih =>
      rw [allHits] at h
      cases hhits : w.hits fs pattern with
      | error own =>
          rw [hhits] at h
          cases h
          exact ⟨pattern, List.mem_cons_self .., hits_error.mp hhits⟩
      | ok found =>
          rw [hhits] at h
          rcases ih h with ⟨other, hother, hfault⟩
          exact ⟨other, List.mem_cons_of_mem _ hother, hfault⟩

end Workspace

end Annals
