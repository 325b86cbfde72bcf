import Mathlib.Data.List.Basic
import Annals.Files.Workspace

/-!
# The Outline of a File Tree

Which documents a workspace has does not depend on what is in its files.

The outline of a tree is the tree with all its files empty. Everything that selects paths
looks at names, and at whether there is a file or a directory, and so comes to the same
on the outline. Each function on the way has a lemma that says so; `selection_outline` is
the last of them.

Changing what is in one file changes nothing in the outline. It changes what is read at a
path only if the path leads to this file, and where a path leads can be told from the path
alone, for what is there: two dots take back the name before them, and at the root they
do nothing. `walk_at` says this of a walk through the tree, by the directories that are
around the place where it stands (`Stands`).

## Main definitions

* `FileTree.outline`: A tree with all its files empty.
* `FileTree.at?`: What is at a place, with the names that lead to it from the root.
* `FileTree.Stands`: The directories around a place in a tree.
* `FileSystem.rewrite`: A file system with other bytes in a file.

## Theorems

* `selection_outline`: The paths that a workspace selects, by the outline.
* `find_at`: A path leads to the place that it means.
* `outline_rewrite`, `find_rewrite`: A file system with other bytes in a file.
-/

namespace Annals

namespace FileTree

mutual

/-- A tree with all its files empty. -/
def outline : FileTree → FileTree
  | file _ => file []
  | directory entries => directory (outlines entries)

/-- The same for the entries of a directory. -/
def outlines : List (String × FileTree) → List (String × FileTree)
  | [] => []
  | (name, t) :: rest => (name, t.outline) :: outlines rest

end

theorem outlines_eq_map (entries : List (String × FileTree)) :
    outlines entries = entries.map fun e => (e.1, e.2.outline) := by
  induction entries with
  | nil => rfl
  | cons e rest ih => rw [outlines, ih, List.map_cons]

@[simp] theorem isDirectory_outline (t : FileTree) : t.outline.isDirectory = t.isDirectory := by
  cases t <;> rfl

theorem entries_outline (t : FileTree) :
    t.outline.entries = t.entries.map fun e => (e.1, e.2.outline) := by
  cases t with
  | file bytes => rfl
  | directory entries => exact outlines_eq_map entries

theorem lookup_outlines (name : String) (entries : List (String × FileTree)) :
    (outlines entries).lookup name = (entries.lookup name).map outline := by
  induction entries with
  | nil => rfl
  | cons e rest ih =>
      rw [outlines, List.lookup_cons, List.lookup_cons, ih]
      cases name == e.1 <;> rfl

/-- What is at a place, with the names that lead to it from the root. -/
def at? (t : FileTree) : List String → Option FileTree
  | [] => some t
  | name :: rest => (t.entries.lookup name).bind (·.at? rest)

theorem at?_append (t : FileTree) (names more : List String) :
    t.at? (names ++ more) = (t.at? names).bind (·.at? more) := by
  induction names generalizing t with
  | nil => rfl
  | cons name rest ih =>
      simp only [List.cons_append, at?]
      cases t.entries.lookup name with
      | none => rfl
      | some next => exact ih next

/-- A place in a tree, with the directories that are around it, the nearest first. The names
    that lead to it stand in reverse. -/
inductive Stands (root : FileTree) : List String → List FileTree → FileTree → Prop where
  | root : Stands root [] [] root
  | child {names : List String} {around : List FileTree} {entries : List (String × FileTree)}
      {name : String} {next : FileTree} :
      Stands root names around (.directory entries) → entries.lookup name = some next →
      Stands root (name :: names) (.directory entries :: around) next

theorem Stands.at? {root here : FileTree} {names : List String} {around : List FileTree}
    (h : Stands root names around here) : root.at? names.reverse = some here := by
  induction h with
  | root => rfl
  | child hparent hnext ih =>
      rw [List.reverse_cons, at?_append, ih]
      simp only [Option.bind_some, FileTree.at?, entries, hnext]

/-- A walk that comes to an end ends where the names lead that are left when two dots have
    taken back the names before them. The induction is on the names of the walk. -/
theorem walk_stands {root here there : FileTree} {before : List String} {around : List FileTree}
    {names : List String} (h : Stands root before around here)
    (hwalk : FileSystem.walk around here names = .ok there) :
    root.at? (Path.withoutDotsFrom before names) = some there := by
  induction names generalizing before around here with
  | nil =>
      cases hwalk
      exact h.at?
  | cons name rest ih =>
      cases here with
      | file bytes => cases hwalk
      | directory entries =>
          simp only [FileSystem.walk] at hwalk
          simp only [Path.withoutDotsFrom]
          split at hwalk
          · rename_i hdots
            rw [if_pos hdots]
            cases h with
            -- Above the root is the root.
            | root => exact ih .root hwalk
            | child hparent hnext => exact ih hparent hwalk
          · -- Any other name has to be one of an entry, and short enough to be looked for.
            rename_i hdots
            rw [if_neg hdots]
            split at hwalk
            · cases hwalk
            · cases hnext : entries.lookup name with
              | none =>
                  rw [hnext] at hwalk
                  cases hwalk
              | some next =>
                  rw [hnext] at hwalk
                  exact ih (h.child hnext) hwalk

theorem lookup_change (name other : String) (f : Option FileTree → FileTree)
    (entries : List (String × FileTree)) :
    (change name f entries).lookup other
      = if other = name then some (f (entries.lookup name)) else entries.lookup other := by
  induction entries with
  | nil =>
      rw [change, List.lookup_cons]
      by_cases ho : other = name
      · simp [ho]
      · simp [ho, beq_eq_false_iff_ne.mpr ho]
  | cons e rest ih =>
      -- The change is made in the first entry with the name, which is the one looked up.
      rcases e with ⟨first, t⟩
      rw [change, List.lookup_cons]
      by_cases hfirst : first = name
      · subst hfirst
        rw [if_pos (beq_self_eq_true first), List.lookup_cons, beq_self_eq_true]
        by_cases ho : other = first
        · simp [ho]
        · simp [ho, beq_eq_false_iff_ne.mpr ho, List.lookup_cons]
      · rw [if_neg (by simpa using hfirst), List.lookup_cons, ih]
        have hname : (name == first) = false := beq_eq_false_iff_ne.mpr (Ne.symm hfirst)
        by_cases ho : other = first
        · simp [ho, hfirst]
        · simp [beq_eq_false_iff_ne.mpr ho, hname, List.lookup_cons]

/-- A place that leads to a file is the file itself, or it goes on in one of the entries of a
    directory. -/
theorem file_at?_cases {root : FileTree} {place : List String} {old : List UInt8}
    (h : root.at? place = some (.file old)) :
    (place = [] ∧ root = .file old) ∨
      ∃ name rest entries next, place = name :: rest ∧ root = .directory entries ∧
        entries.lookup name = some next ∧ next.at? rest = some (.file old) := by
  cases place with
  | nil =>
      cases h
      exact Or.inl ⟨rfl, rfl⟩
  | cons name rest =>
      cases root with
      | file bytes => cases h
      | directory entries =>
          rcases Option.bind_eq_some_iff.mp h with ⟨next, hnext, hrest⟩
          exact Or.inr ⟨name, rest, entries, next, rfl, rfl, hnext, hrest⟩

/-- Other bytes in a file: at its place is the file with the new bytes, and all other files
    are as they were. -/
theorem at?_put {root : FileTree} {place : List String} {old : List UInt8}
    (h : root.at? place = some (.file old)) (new : List UInt8) {other : List String}
    {bytes : List UInt8} (hother : root.at? other = some (.file bytes)) :
    (put (.file new) place (some root)).at? other
      = some (.file (if other = place then new else bytes)) := by
  induction place generalizing root other with
  | nil =>
      rcases file_at?_cases h with ⟨_, rfl⟩ | ⟨name, rest, entries, next, hplace, _⟩
      · rcases file_at?_cases hother with ⟨rfl, _⟩ | ⟨name, rest, entries, next, _, hroot, _⟩
        · rfl
        · cases hroot
      · cases hplace
  | cons first rest ih =>
      rcases file_at?_cases h with ⟨hplace, _⟩ | ⟨name, _, entries, next, hplace, rfl, hnext, hin⟩
      · cases hplace
      · cases hplace
        rcases file_at?_cases hother
          with ⟨_, hroot⟩ | ⟨name, rest', entries', next', rfl, hroot, hnext', hother⟩
        · cases hroot
        · cases hroot
          simp only [put, at?, FileTree.entries, lookup_change, hnext]
          by_cases hname : name = first
          · -- Both places go on in the same entry.
            subst hname
            cases hnext.symm.trans hnext'
            rw [if_pos rfl, Option.bind_some, ih hin hother]
            simp
          · rw [if_neg hname, hnext', Option.bind_some, hother]
            simp [hname]

theorem outlines_change {name : String} {f : Option FileTree → FileTree} {t : FileTree}
    {entries : List (String × FileTree)} (h : entries.lookup name = some t)
    (hsame : (f (some t)).outline = t.outline) :
    outlines (change name f entries) = outlines entries := by
  induction entries with
  | nil => cases h
  | cons e rest ih =>
      rcases e with ⟨first, there⟩
      rw [List.lookup_cons] at h
      rw [change]
      by_cases hfirst : first = name
      · subst hfirst
        rw [beq_self_eq_true] at h
        cases h
        rw [if_pos (beq_self_eq_true first), outlines, outlines, hsame]
      · rw [beq_eq_false_iff_ne.mpr (Ne.symm hfirst)] at h
        rw [if_neg (by simpa using hfirst), outlines, outlines, ih h]

/-- Other bytes in a file do not change the outline. -/
theorem outline_put {root : FileTree} {place : List String} {old : List UInt8}
    (h : root.at? place = some (.file old)) (new : List UInt8) :
    (put (.file new) place (some root)).outline = root.outline := by
  induction place generalizing root with
  | nil =>
      rcases file_at?_cases h with ⟨_, rfl⟩ | ⟨name, rest, entries, next, hplace, _⟩
      · rfl
      · cases hplace
  | cons first rest ih =>
      rcases file_at?_cases h with ⟨hplace, _⟩ | ⟨name, _, entries, next, hplace, rfl, hnext, hin⟩
      · cases hplace
      · cases hplace
        exact congrArg directory (outlines_change hnext (ih hin))

end FileTree

namespace FileSystem

/-- A file system with all its files empty. -/
def outline (fs : FileSystem) : FileSystem := { fs with root := fs.root.outline }

theorem walk_outline (names : List String) (around : List FileTree) (here : FileTree) :
    walk (around.map FileTree.outline) here.outline names
      = (walk around here names).map FileTree.outline := by
  induction names generalizing around here with
  | nil => rfl
  | cons name rest ih =>
      cases here with
      | file bytes => rfl
      | directory entries =>
          simp only [FileTree.outline, walk]
          split
          · -- Two dots lead to the directory around, and from the root to itself.
            cases around with
            | nil => exact ih [] (.directory entries)
            | cons parent outer => exact ih outer parent
          · split
            · rfl
            · rw [FileTree.lookup_outlines]
              cases entries.lookup name with
              | none => rfl
              | some next => exact ih (.directory entries :: around) next

theorem find_outline (fs : FileSystem) (p : Path) :
    fs.outline.find p = (fs.find p).map FileTree.outline := by
  unfold find
  split
  · rfl
  · exact walk_outline _ [] fs.root

theorem look_outline (fs : FileSystem) (p : Path) :
    fs.outline.look p = (fs.look p).map (Option.map FileTree.outline) := by
  unfold look
  rw [find_outline]
  cases fs.find p with
  | ok t => rfl
  | error f => cases f <;> rfl

theorem isDirectory_outline (fs : FileSystem) (p : Path) :
    fs.outline.isDirectory p = fs.isDirectory p := by
  unfold isDirectory
  rw [look_outline]
  cases fs.look p with
  | error f => rfl
  | ok there =>
      cases there with
      | none => rfl
      | some t => exact congrArg Except.ok t.isDirectory_outline

theorem isFile_outline (fs : FileSystem) (p : Path) : fs.outline.isFile p = fs.isFile p := by
  unfold isFile
  rw [find_outline]
  cases fs.find p with
  | error f => rfl
  | ok t => exact congrArg (!·) t.isDirectory_outline

theorem entriesAt_outline (fs : FileSystem) (p : Path) :
    fs.outline.entriesAt p = (fs.entriesAt p).map fun e => (e.1, e.2.outline) := by
  unfold entriesAt
  rw [find_outline]
  cases fs.find p with
  | error f => rfl
  | ok t => exact t.entries_outline

end FileSystem

namespace Glob

mutual

theorem depth_outline : ∀ t : FileTree, depth t.outline = depth t
  | .file _ => rfl
  | .directory entries => congrArg (1 + ·) (depthOf_outlines entries)

theorem depthOf_outlines : ∀ entries : List (String × FileTree),
    depth.depthOf (FileTree.outlines entries) = depth.depthOf entries
  | [] => rfl
  | (_, t) :: rest => congrArg₂ max (depth_outline t) (depthOf_outlines rest)

end

theorem directoriesBelow_outline (fs : FileSystem) (fuel : Nat) (p : Path) :
    directoriesBelow fs.outline fuel p = directoriesBelow fs fuel p := by
  induction fuel generalizing p with
  | zero => rfl
  | succ fuel ih =>
      simp only [directoriesBelow, fs.entriesAt_outline, List.flatMap_map,
        FileTree.isDirectory_outline, ih]

theorem selectFrom_outline (fs : FileSystem) (parts : List Part) (p : Path) :
    selectFrom fs.outline parts p = selectFrom fs parts p := by
  induction parts generalizing p with
  | nil => rfl
  | cons part rest ih =>
      -- The parts behind this one are looked for in the same way from wherever it leads.
      have hrest : selectFrom fs.outline rest = selectFrom fs rest := funext ih
      cases part with
      | done => rfl
      | below =>
          have hdepth : depth fs.outline.root = depth fs.root := depth_outline fs.root
          simp only [selectFrom, hdepth, directoriesBelow_outline, hrest]
      | wild e =>
          simp only [selectFrom, fs.entriesAt_outline, List.filter_map, List.mapM_map, hrest,
            Function.comp_def, FileTree.isDirectory_outline]
      | exact name =>
          simp only [selectFrom, fs.look_outline, hrest]
          cases fs.look (p.child name) with
          | error f => rfl
          | ok there =>
              cases there with
              | none => rfl
              | some t =>
                  change (if _ || t.outline.isDirectory then _ else _) = _
                  rw [FileTree.isDirectory_outline]
                  rfl

theorem select_outline (fs : FileSystem) (directory : Path) (text : String) :
    select fs.outline directory text = select fs directory text := by
  simp only [select, fs.isDirectory_outline, selectFrom_outline]

end Glob

namespace FileSystem

/-- A file system with other bytes in the file at a place. -/
def rewrite (fs : FileSystem) (place : List String) (bytes : List UInt8) : FileSystem :=
  { fs with root := FileTree.put (.file bytes) place (some fs.root) }

/-- A path leads to the place that it means, if it leads anywhere. -/
theorem find_at {fs : FileSystem} {p : Path} {t : FileTree} (h : fs.find p = .ok t) :
    fs.root.at? (fs.resolve p).names = some t := by
  unfold find at h
  split at h
  · cases h
  · exact FileTree.walk_stands .root h

variable {fs : FileSystem} {place : List String} {old : List UInt8}

theorem outline_rewrite (h : fs.root.at? place = some (.file old)) (new : List UInt8) :
    (fs.rewrite place new).outline = fs.outline := by
  unfold outline rewrite
  rw [FileTree.outline_put h]

/-- A path that leads to a file leads to a file with the new bytes if the place of the path
    is that of the new bytes, and otherwise to the same bytes as before. -/
theorem find_rewrite (h : fs.root.at? place = some (.file old)) (new : List UInt8) {p : Path}
    {bytes : List UInt8} (hp : fs.find p = .ok (.file bytes)) :
    (fs.rewrite place new).find p
      = .ok (.file (if (fs.resolve p).names = place then new else bytes)) := by
  have houtline := (fs.rewrite place new).find_outline p
  -- There is a file afterwards too, since the outline is the same; which one, the place says.
  rw [outline_rewrite h, find_outline, hp] at houtline
  cases hfind : (fs.rewrite place new).find p with
  | error f =>
      rw [hfind] at houtline
      cases houtline
  | ok t =>
      cases t with
      | directory entries =>
          rw [hfind] at houtline
          cases houtline
      | file there =>
          have hput := FileTree.at?_put h new (find_at hp)
          cases hput.symm.trans (find_at hfind)
          rfl

end FileSystem

namespace Workspace

variable (w : Workspace) (fs : FileSystem)

theorem allHits_outline (patterns : List String) :
    w.allHits fs.outline patterns = w.allHits fs patterns := by
  have hfile : fs.outline.isFile = fs.isFile := funext fs.isFile_outline
  have hhits (pattern : String) : w.hits fs.outline pattern = w.hits fs pattern := by
    simp only [hits, Glob.select_outline, hfile]
  induction patterns with
  | nil => rfl
  | cons pattern rest ih => simp only [allHits, hhits, ih]

/-- The paths that a workspace selects do not depend on what is in the files. -/
theorem selection_outline : w.selection fs.outline = w.selection fs := by
  have hignored : w.isIgnored fs.outline = w.isIgnored fs := rfl
  simp only [selection, allHits_outline, hignored]

end Workspace

end Annals
