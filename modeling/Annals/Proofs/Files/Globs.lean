import Mathlib.Tactic.SplitIfs
import Annals.Proofs.Files.Address
import Annals.Proofs.Files.Outline

/-!
# What a Glob Brings into a Path

The paths that a glob selects go on from a directory, by names of entries and by names that
stand in the glob.

In a tree whose entries have proper names the first kind of names is harmless: such a name
is not empty, has no slash in it, and is not one of the names that mean a directory as seen
from another one. So whatever is strange about a selected path was written in the glob,
and there as a name without wildcards (`mem_selectFrom`). The induction is on the names of
the glob, with an inner one for two stars, which go on by entries alone.

What is found in the tree at all has proper names on the way to it, since each of them was
looked up (`names_of_find`), and so has the path that it was found at, two dots apart
(`names_of_walk`).

## Main definitions

* `FileTree.IsEntryName`, `FileTree.isNamed`: A tree whose entries have proper names.
* `Path.Extends`: A path that goes on from another one.

## Theorems

* `names_of_find`, `names_of_walk`: The names that lead to what is in a tree.
* `parse_eq_ok`: When a text is a glob.
* `mem_selectFrom`, `mem_select`: What a glob can bring into a path.
* `open?_eq_ok`: When a workspace can be opened.
* `mem_allHits`: The paths of a workspace come from its patterns.
-/

namespace Annals

namespace FileTree

/-- A text that can be the name of an entry of a directory. -/
def IsEntryName (n : String) : Prop := Path.IsName n ∧ n ≠ ".." ∧ '\x00' ∉ n.toList

instance (n : String) : Decidable (IsEntryName n) := inferInstanceAs (Decidable (_ ∧ _ ∧ _))

mutual

/-- Whether the entries of a tree have proper names, in all its directories. -/
def isNamed : FileTree → Bool
  | file _ => true
  | directory entries => areNamed entries

/-- The same for the entries of a directory. -/
def areNamed : List (String × FileTree) → Bool
  | [] => true
  | (name, t) :: rest => decide (IsEntryName name) && t.isNamed && areNamed rest

end

theorem areNamed_iff {entries : List (String × FileTree)} :
    areNamed entries = true ↔ ∀ e ∈ entries, IsEntryName e.1 ∧ e.2.isNamed = true := by
  induction entries with
  | nil => simp [areNamed]
  | cons e rest ih => simp [areNamed, ih, and_assoc]

theorem isNamed_entries {t : FileTree} (h : t.isNamed = true) :
    ∀ e ∈ t.entries, IsEntryName e.1 ∧ e.2.isNamed = true := by
  cases t with
  | file bytes => exact fun e he => absurd he List.not_mem_nil
  | directory entries => exact areNamed_iff.mp h

/-- What is at a place has a name at every step on the way to it. -/
theorem isNamed_at? {root t : FileTree} (h : root.isNamed = true) {place : List String}
    (hat : root.at? place = some t) : (∀ n ∈ place, IsEntryName n) ∧ t.isNamed = true := by
  induction place generalizing root with
  | nil =>
      cases hat
      exact ⟨fun n hn => absurd hn List.not_mem_nil, h⟩
  | cons name rest ih =>
      rcases Option.bind_eq_some_iff.mp hat with ⟨next, hnext, hrest⟩
      rcases List.lookup_eq_some_iff.mp hnext with ⟨before, after, hentries, _⟩
      have hentry : (name, next) ∈ root.entries := by
        rw [hentries]
        exact List.mem_append_right _ (List.mem_cons_self ..)
      rcases isNamed_entries h _ hentry with ⟨hname, hnamed⟩
      rcases ih hnamed hrest with ⟨hnames, ht⟩
      exact ⟨List.forall_mem_cons.mpr ⟨hname, hnames⟩, ht⟩

end FileTree

open FileTree (IsEntryName)

namespace FileSystem

variable {fs : FileSystem}

/-- The place of what is in a tree has proper names. -/
theorem names_of_find (h : fs.root.isNamed = true) {p : Path} {t : FileTree}
    (hfind : fs.find p = .ok t) :
    (∀ n ∈ (fs.resolve p).names, IsEntryName n) ∧ t.isNamed = true :=
  FileTree.isNamed_at? h (find_at hfind)

/-- Every name on the way to what is in a tree leads out of a directory, or to one of its
    entries. -/
theorem names_of_walk {around : List FileTree} {here t : FileTree} {names : List String}
    (haround : ∀ d ∈ around, d.isNamed = true) (hhere : here.isNamed = true)
    (h : walk around here names = .ok t) : ∀ n ∈ names, n = ".." ∨ IsEntryName n := by
  induction names generalizing around here with
  | nil => exact fun n hn => absurd hn List.not_mem_nil
  | cons name rest ih =>
      rw [List.forall_mem_cons]
      cases here with
      | file bytes => cases h
      | directory entries =>
          simp only [walk] at h
          split at h
          · rename_i hdots
            refine ⟨Or.inl (beq_iff_eq.mp hdots), ?_⟩
            cases around with
            | nil => exact ih haround hhere h
            | cons parent outer =>
                rcases List.forall_mem_cons.mp haround with ⟨hparent, houter⟩
                exact ih houter hparent h
          · split at h
            · cases h
            · cases hnext : entries.lookup name with
              | none =>
                  rw [hnext] at h
                  cases h
              | some next =>
                  rw [hnext] at h
                  -- The entry is where its name says, and all entries of a named tree are named.
                  have hat : (FileTree.directory entries).at? [name] = some next := by
                    simp [FileTree.at?, FileTree.entries, hnext]
                  have hentry := FileTree.isNamed_at? hhere hat
                  refine ⟨Or.inr (hentry.1 name (List.mem_singleton_self _)), ?_⟩
                  exact ih (List.forall_mem_cons.mpr ⟨hhere, haround⟩) hentry.2 h

/-- A path with the null character leads to nothing. -/
theorem hasNull_of_find (h : fs.root.isNamed = true) {p : Path} {t : FileTree}
    (hfind : fs.find p = .ok t) : p.hasNull = false := by
  unfold find at hfind
  split at hfind
  · cases hfind
  · have hnames := names_of_walk (fun d hd => absurd hd List.not_mem_nil) h hfind
    -- A path keeps its names, whether or not it is put behind that of the root.
    have hown : ∀ n ∈ p.names, n ∈ (fs.absolute p).names := by
      intro n hn
      unfold absolute Path.join
      split
      · exact hn
      · exact List.mem_append_right _ hn
    unfold Path.hasNull
    rw [List.any_eq_false]
    intro n hn
    rcases hnames n (hown n hn) with rfl | hname
    · decide
    · rw [List.contains_iff_mem]
      exact hname.2.2

/-- Where there is a directory, something is found. -/
theorem find_of_isDirectory {p : Path} (h : fs.isDirectory p = .ok true) :
    ∃ t, fs.find p = .ok t := by
  unfold isDirectory look at h
  cases hfind : fs.find p with
  | ok t => exact ⟨t, rfl⟩
  | error f =>
      rw [hfind] at h
      cases f <;> cases h

theorem mem_entriesAt (h : fs.root.isNamed = true) {p : Path} {e : String × FileTree}
    (he : e ∈ fs.entriesAt p) : IsEntryName e.1 := by
  unfold entriesAt at he
  cases hfind : fs.find p with
  | error f =>
      rw [hfind] at he
      cases he
  | ok t =>
      rw [hfind] at he
      exact (FileTree.isNamed_entries (names_of_find h hfind).2 e he).1

end FileSystem

namespace Path

/-- A path that goes on from another one by names of a kind. -/
def Extends (allowed : String → Prop) (p q : Path) : Prop :=
  ∃ more, q = { p with names := p.names ++ more } ∧ ∀ n ∈ more, allowed n

variable {allowed : String → Prop} {p q : Path}

theorem Extends.refl (allowed : String → Prop) (p : Path) : Extends allowed p p :=
  ⟨[], by rw [List.append_nil], fun n hn => absurd hn List.not_mem_nil⟩

theorem Extends.child {name : String} (hname : allowed name)
    (h : Extends allowed (p.child name) q) : Extends allowed p q := by
  rcases h with ⟨more, rfl, hmore⟩
  refine ⟨name :: more, ?_, List.forall_mem_cons.mpr ⟨hname, hmore⟩⟩
  simp only [Path.child, List.append_assoc, List.singleton_append]

theorem Extends.trans {r : Path} (h : Extends allowed p q) (h' : Extends allowed q r) :
    Extends allowed p r := by
  rcases h with ⟨more, rfl, hmore⟩
  rcases h' with ⟨more', rfl, hmore'⟩
  refine ⟨more ++ more', by simp only [List.append_assoc], fun n hn => ?_⟩
  rcases List.mem_append.mp hn with hn | hn
  · exact hmore n hn
  · exact hmore' n hn

theorem Extends.imp {wider : String → Prop} (himp : ∀ n, allowed n → wider n)
    (h : Extends allowed p q) : Extends wider p q := by
  rcases h with ⟨more, hq, hmore⟩
  exact ⟨more, hq, fun n hn => himp n (hmore n hn)⟩

end Path

namespace Glob

open Annals.Path (Extends)

variable {fs : FileSystem} {p q : Path}

theorem mem_directoriesBelow (h : fs.root.isNamed = true) {fuel : Nat}
    (hq : q ∈ directoriesBelow fs fuel p) : Extends IsEntryName p q := by
  induction fuel generalizing p with
  | zero =>
      cases List.mem_singleton.mp hq
      exact Extends.refl _ _
  | succ fuel ih =>
      rcases List.mem_cons.mp hq with rfl | hbelow
      · exact Extends.refl _ _
      · rcases List.mem_flatMap.mp hbelow with ⟨⟨name, t⟩, he, hq⟩
        simp only [] at hq
        split at hq
        · exact Extends.child (FileSystem.mem_entriesAt h he) (ih hq)
        · cases hq

/-- What a glob can bring into a path: names of entries, and its own names without
    wildcards. -/
theorem mem_selectFrom (h : fs.root.isNamed = true) {parts : List Part} {found : List Path}
    (hfound : selectFrom fs parts p = .ok found) (hq : q ∈ found) :
    Extends (fun n => IsEntryName n ∨ .exact n ∈ parts) p q := by
  induction parts generalizing p q found with
  | nil =>
      cases hfound
      cases List.mem_singleton.mp hq
      exact Extends.refl _ _
  | cons part rest ih =>
      -- The names of the later parts are among those of all parts.
      have hrest {p q : Path} {found : List Path} (hfound : selectFrom fs rest p = .ok found)
          (hq : q ∈ found) : Extends (fun n => IsEntryName n ∨ .exact n ∈ part :: rest) p q := by
        refine (ih hfound hq).imp fun n hn => ?_
        rcases hn with hn | hn
        · exact Or.inl hn
        · exact Or.inr (List.mem_cons_of_mem _ hn)
      cases part with
      | done =>
          cases hfound
          cases List.mem_singleton.mp hq
          exact Extends.refl _ _
      | below =>
          simp only [selectFrom] at hfound
          rcases bind_eq_ok.mp hfound with ⟨all, hall, hkept⟩
          cases hkept
          rcases List.mem_flatten.mp (List.mem_eraseDups.mp hq) with ⟨own, hown, hq⟩
          rcases (mapM_except _ _).2 all hall own hown with ⟨directory, hdirectory, hselected⟩
          -- From the path to a directory below it there are only names of entries.
          have hbelow : Extends (fun n => IsEntryName n ∨ .exact n ∈ .below :: rest) p directory :=
            (mem_directoriesBelow h hdirectory).imp fun n hn => Or.inl hn
          exact hbelow.trans (hrest hselected hq)
      | wild e =>
          simp only [selectFrom] at hfound
          rcases bind_eq_ok.mp hfound with ⟨all, hall, hkept⟩
          cases hkept
          rcases List.mem_flatten.mp hq with ⟨own, hown, hq⟩
          rcases (mapM_except _ _).2 all hall own hown with ⟨entry, hentry, hselected⟩
          have hname := FileSystem.mem_entriesAt h (List.mem_filter.mp hentry).1
          exact Extends.child (Or.inl hname) (hrest hselected hq)
      | exact name =>
          simp only [selectFrom] at hfound
          rcases bind_eq_ok.mp hfound with ⟨there, _, hkept⟩
          cases there with
          | none =>
              cases hkept
              cases hq
          | some t =>
              simp only [] at hkept
              split at hkept
              · exact Extends.child (Or.inr (List.mem_cons_self ..)) (hrest hkept hq)
              · cases hkept
                cases hq

/-- A name without wildcards is a name of the text. -/
theorem exact_of_part {name n : String} (h : part name = .ok (.exact n)) : n = name := by
  unfold part at h
  split_ifs at h
  · cases h
  · cases hname : Wildcard.name name with
    | none =>
        rw [hname] at h
        cases h
    | some e =>
        rw [hname] at h
        cases h
  · cases h
    rfl

/-- The names of a glob are never a slash at its end. -/
theorem part_ne_done {name : String} : part name ≠ .ok .done := by
  unfold part
  split_ifs
  · intro h; cases h
  · intro h; cases h
  · cases Wildcard.name name <;> (intro h; cases h)
  · intro h; cases h

/-- A text is a glob if it is relative, has a name, and each of its names can be read. -/
theorem parse_eq_ok {text : String} {parts : List Part} : parse text = .ok parts ↔
    text ≠ "" ∧ (Path.parse text).isAbsolute = false ∧ (Path.parse text).names ≠ [] ∧
      ∃ own, (Path.parse text).names.mapM part = .ok own ∧
        parts = if text.endsWith "/" then own ++ [.done] else own := by
  unfold parse
  by_cases hempty : text = ""
  · subst hempty
    simp [bind, Except.bind, throw, throwThe, MonadExceptOf.throw]
  · have hsome : text.isEmpty = false := by simpa using hempty
    cases habsolute : (Path.parse text).isAbsolute with
    | true => simp [hsome, habsolute, bind, Except.bind, throw, throwThe, MonadExceptOf.throw]
    | false =>
        simp only [hsome, habsolute, Bool.false_eq_true, if_false]
        cases hown : (Path.parse text).names.mapM part with
        | error f => simp [bind, Except.bind]
        | ok own =>
            have hnames := length_of_mapM hown
            cases own with
            | nil =>
                have hnone : (Path.parse text).names = [] := List.length_eq_zero_iff.mp hnames.symm
                cases text.endsWith "/" <;>
                  simp [hnone, bind, Except.bind, throw, throwThe, MonadExceptOf.throw]
            | cons first rest =>
                have hsome : (Path.parse text).names ≠ [] := by
                  intro hnone
                  rw [hnone] at hnames
                  cases hnames
                -- No name is read as the mark of the end, so it is not all that there is.
                have hfirst : first ≠ .done := by
                  rintro rfl
                  rcases (mapM_except _ _).2 _ hown .done (List.mem_cons_self ..) with ⟨n, _, hn⟩
                  exact part_ne_done hn
                have hall : ∀ all, all = (if text.endsWith "/" then first :: rest ++ [.done]
                    else first :: rest) → all ≠ [] ∧ all ≠ [.done] := by
                  rintro all rfl
                  split <;> exact ⟨List.cons_ne_nil _ _, fun h => hfirst (List.cons.inj h).1⟩
                simp only [bind, Except.bind, ne_eq, hempty, not_false_eq_true, hsome, true_and,
                  Except.ok.injEq, exists_eq_left']
                generalize hparts : (if text.endsWith "/" then first :: rest ++ [.done]
                    else first :: rest) = all
                rcases hall all hparts.symm with ⟨hcons, hdone⟩
                split
                · exact absurd rfl hcons
                · exact absurd rfl hdone
                · simp [pure, Except.pure, eq_comm]

theorem exact_of_parse {text n : String} {parts : List Part} (h : parse text = .ok parts)
    (hn : .exact n ∈ parts) : n ∈ (Path.parse text).names := by
  rcases parse_eq_ok.mp h with ⟨_, _, _, own, hown, hparts⟩
  have hmem : .exact n ∈ own := by
    rw [hparts] at hn
    split at hn
    · rcases List.mem_append.mp hn with hn | hn
      · exact hn
      · cases List.mem_singleton.mp hn
    · exact hn
  rcases (mapM_except _ _).2 own hown _ hmem with ⟨name, hname, hpart⟩
  rw [exact_of_part hpart]
  exact hname

/-- What a glob can bring into a path are names of entries, and names that stand in it. -/
theorem mem_select (h : fs.root.isNamed = true) {text : String} {found : List Path}
    (hfound : select fs p text = .ok found) (hq : q ∈ found) :
    Extends (fun n => IsEntryName n ∨ n ∈ (Path.parse text).names) p q := by
  rcases bind_eq_ok.mp hfound with ⟨parts, hparts, hfound⟩
  rcases bind_eq_ok.mp hfound with ⟨isDirectory, _, hfound⟩
  cases isDirectory with
  | false =>
      cases hfound
      cases hq
  | true =>
      rw [if_pos rfl] at hfound
      cases hselected : selectFrom fs parts p with
      | error f =>
          rw [hselected] at hfound
          cases hfound
      | ok own =>
          rw [hselected] at hfound
          cases hfound
          -- A part that is no pattern is a name that stands in the glob.
          refine (mem_selectFrom h hselected hq).imp fun n hn => ?_
          rcases hn with hn | hn
          · exact Or.inl hn
          · exact Or.inr (exact_of_parse hparts hn)

end Glob

namespace Workspace

variable {w : Workspace} {fs : FileSystem} {p : Path}

/-- The patterns that say something. -/
def saying (ignoreGlobs : List String) : List String :=
  ignoreGlobs.filter fun g => !(Text.trim g.toList).isEmpty

/-- A workspace can be opened if its path can be looked up at all, and what it leaves out can
    be read. -/
theorem open?_eq_ok {root : Path} {globs ignoreGlobs : List String} :
    open? fs root globs ignoreGlobs = .ok w ↔ root.hasNull = false ∧
      ∃ rules, Ignore.readRules (saying ignoreGlobs) = .ok rules ∧
        w = ⟨fs.resolve root, globs, saying ignoreGlobs, rules⟩ := by
  unfold open? saying
  cases root.hasNull with
  | true => simp [bind, Except.bind, throw, throwThe, MonadExceptOf.throw]
  | false =>
      cases hrules : Ignore.readRules
          (ignoreGlobs.filter fun g => !(Text.trim g.toList).isEmpty) with
      | error f => simp [hrules, bind, Except.bind, Except.mapError]
      | ok rules => simp [hrules, bind, Except.bind, Except.mapError, pure, Except.pure, eq_comm]

/-- The paths of a workspace are selected by its patterns. -/
theorem mem_allHits {patterns : List String} (h : p ∈ (w.allHits fs patterns).paths) :
    ∃ pattern ∈ patterns, ∃ found, Glob.select fs w.root pattern = .ok found ∧ p ∈ found := by
  induction patterns with
  | nil => cases h
  | cons pattern rest ih =>
      rw [allHits] at h
      cases hhits : w.hits fs pattern with
      | error f =>
          rw [hhits] at h
          cases h
      | ok found =>
          rw [hhits] at h
          rcases List.mem_append.mp h with hown | hrest
          · rcases bind_eq_ok.mp hhits with ⟨selected, hselect, hkept⟩
            cases hkept
            -- The hits are sorted, and some are left out, but none is added.
            have hmem := List.mem_mergeSort.mp (List.mem_filter.mp hown).1
            exact ⟨pattern, List.mem_cons_self .., selected, hselect, hmem⟩
          · rcases ih hrest with ⟨other, hother, hselected⟩
            exact ⟨other, List.mem_cons_of_mem _ hother, hselected⟩

end Workspace

end Annals
