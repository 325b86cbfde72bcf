import Mathlib.Data.List.Lex
import Mathlib.Data.Prod.Lex
import Mathlib.Data.String.Basic
import Annals.Files.Workspace
import Annals.Proofs.Text.Lists

/-!
# What a Workspace Selects, and in Which Order

The paths of a workspace come pattern by pattern, and of what one pattern selects they come
in the order of paths. A path that a second pattern selects has come already. So the place
of a path is told by two things, the first pattern that selects it and the path itself
(`Workspace.PrecedesIn`), and nothing depends on how often patterns select a path, or in which
order they find what they select.

What is left out is left out at the end and not before paths are told apart. This makes no
difference, since it only depends on the path. Nor does it that directories are passed over
before.

The order of paths is the one of their names, name by name, so any two paths have one.

## Main definitions

* `Workspace.selects`: A pattern selects a path.
* `Workspace.PrecedesIn`: A path comes before another one.

## Theorems

* `Path.le_iff`: The order of paths.
* `mem_allHits_iff`, `precedes_of_idxOf`: The files that patterns select, and their order.
* `selection_precedes`: What a workspace selects.
-/

namespace Annals

namespace Path

/-- Names are ordered like words, the names being their letters. -/
theorem namesLe_iff {names others : List String} :
    namesLe names others = true ↔ names ≤ others := by
  rw [← not_lt]
  induction names generalizing others with
  | nil => simp [namesLe]
  | cons name rest ih =>
      cases others with
      | nil => simp [namesLe]
      | cons other others =>
          rw [namesLe, List.cons_lt_cons_iff]
          by_cases heq : name = other
          · simp [heq, ih]
          · -- The first two names that differ decide, as they do between words.
            rw [if_neg (by simpa using heq), decide_eq_true_eq]
            constructor
            · rintro hless (hgreater | ⟨rfl, _⟩)
              · exact hless.asymm hgreater
              · exact heq rfl
            · exact fun hnot => lt_of_le_of_ne (not_lt.mp fun h => hnot (Or.inl h)) heq

/-- Paths are ordered by what stands before their names, and then by their names. -/
theorem le_iff {p q : Path} :
    p.le q = true ↔ toLex (p.root, p.names) ≤ toLex (q.root, q.names) := by
  rw [Prod.Lex.toLex_le_toLex, le]
  by_cases heq : p.root = q.root
  · simp [heq, namesLe_iff]
  · simp [heq]

theorem le_trans (p q r : Path) (hpq : p.le q = true) (hqr : q.le r = true) : p.le r = true :=
  le_iff.mpr ((le_iff.mp hpq).trans (le_iff.mp hqr))

theorem le_total (p q : Path) : (p.le q || q.le p) = true := by
  rw [Bool.or_eq_true, le_iff, le_iff]
  exact Std.Total.total _ _

end Path

namespace Workspace

variable {w : Workspace} {fs : FileSystem} {p q : Path}

/-- Whether a pattern selects a path. -/
def selects (w : Workspace) (fs : FileSystem) (pattern : String) (p : Path) : Bool :=
  match Glob.select fs w.root pattern with
  | .ok found => found.contains p
  | .error _ => false

/-- The place of the first of several patterns that selects a path. -/
def placeIn (w : Workspace) (fs : FileSystem) (patterns : List String) (p : Path) : Nat :=
  patterns.findIdx fun pattern => w.selects fs pattern p

/-- Whether a path comes before another one: a pattern before selects it, or its own order
    puts it in front. -/
def PrecedesIn (w : Workspace) (fs : FileSystem) (patterns : List String) (p q : Path) : Prop :=
  w.placeIn fs patterns p < w.placeIn fs patterns q ∨
    (w.placeIn fs patterns p = w.placeIn fs patterns q ∧ p.le q = true ∧ p ≠ q)

theorem placeIn_cons {pattern : String} {rest : List String} :
    w.placeIn fs (pattern :: rest) p
      = if w.selects fs pattern p = true then 0 else w.placeIn fs rest p + 1 := by
  unfold placeIn
  rw [List.findIdx_cons]
  cases w.selects fs pattern p <;> rfl

/-- What a pattern selects are the files among the paths that match it, in their order. -/
theorem hits_eq_ok {pattern : String} {found : List Path} (h : w.hits fs pattern = .ok found) :
    (∀ p, p ∈ found ↔ fs.isFile p = true ∧ w.selects fs pattern p = true) ∧
      found.Pairwise fun p q => p.le q = true := by
  rcases bind_eq_ok.mp h with ⟨selected, hselect, hkept⟩
  cases hkept
  refine ⟨fun p => ?_, ?_⟩
  · unfold selects
    rw [hselect, List.mem_filter, List.mem_mergeSort, List.contains_iff_mem]
    exact and_comm
  · exact (List.pairwise_mergeSort Path.le_trans Path.le_total selected).filter _

/-- The files that patterns select, if all of them can be followed. -/
theorem mem_allHits_iff {patterns : List String} (h : (w.allHits fs patterns).fault = none) :
    p ∈ (w.allHits fs patterns).paths ↔
      fs.isFile p = true ∧ ∃ pattern ∈ patterns, w.selects fs pattern p = true := by
  induction patterns with
  | nil => simp [allHits]
  | cons pattern rest ih =>
      rw [allHits] at h ⊢
      cases hhits : w.hits fs pattern with
      | error f =>
          rw [hhits] at h
          cases h
      | ok found =>
          rw [hhits] at h
          simp only [List.mem_append, (hits_eq_ok hhits).1, ih h, List.exists_mem_cons_iff,
            and_or_left]

/-- The order in which files are first met is the one of the patterns, and for one pattern the
    one of paths. The induction is on the patterns: what the first one selects is met before
    everything else, and no other file has the first place. -/
theorem precedes_of_idxOf {patterns : List String} (h : (w.allHits fs patterns).fault = none)
    (hp : p ∈ (w.allHits fs patterns).paths) (hq : q ∈ (w.allHits fs patterns).paths)
    (hless : (w.allHits fs patterns).paths.idxOf p < (w.allHits fs patterns).paths.idxOf q) :
    w.PrecedesIn fs patterns p q := by
  have hfiles : fs.isFile p = true ∧ fs.isFile q = true :=
    ⟨((mem_allHits_iff h).mp hp).1, ((mem_allHits_iff h).mp hq).1⟩
  induction patterns with
  | nil => cases hp
  | cons pattern rest ih =>
      rw [allHits] at h hp hq hless
      cases hhits : w.hits fs pattern with
      | error f =>
          rw [hhits] at h
          cases h
      | ok found =>
          rw [hhits] at h hp hq hless
          rcases hits_eq_ok hhits with ⟨hmem, hsorted⟩
          have hfound {r : Path} (hr : fs.isFile r = true) :
              r ∈ found ↔ w.selects fs pattern r = true := by
            rw [hmem, hr]
            simp
          simp only [List.mem_append, List.idxOf_append, hfound hfiles.1, hfound hfiles.2]
            at hp hq hless
          unfold PrecedesIn
          rw [placeIn_cons, placeIn_cons]
          by_cases hpfirst : w.selects fs pattern p = true
          · rw [if_pos hpfirst] at hless ⊢
            by_cases hqfirst : w.selects fs pattern q = true
            · rw [if_pos hqfirst] at hless ⊢
              refine Or.inr ⟨rfl, ?_, fun heq => ?_⟩
              · have hplace := List.idxOf_lt_length_of_mem ((hfound hfiles.1).mpr hpfirst)
                have hafter := List.idxOf_lt_length_of_mem ((hfound hfiles.2).mpr hqfirst)
                have hle := List.pairwise_iff_getElem.mp hsorted _ _ hplace hafter hless
                rwa [List.getElem_idxOf, List.getElem_idxOf] at hle
              · rw [heq] at hless
                exact Nat.lt_irrefl _ hless
            · rw [if_neg hqfirst]
              exact Or.inl (Nat.succ_pos _)
          · rw [if_neg hpfirst] at hless ⊢
            by_cases hqfirst : w.selects fs pattern q = true
            · -- What the pattern selects is met before what it does not select.
              rw [if_pos hqfirst] at hless
              have hlast := List.idxOf_lt_length_of_mem ((hfound hfiles.2).mpr hqfirst)
              omega
            · rw [if_neg hqfirst] at hless ⊢
              rcases ih h (hp.resolve_left hpfirst) (hq.resolve_left hqfirst) (by omega)
                with hplace | ⟨hplace, hle⟩
              · exact Or.inl (Nat.succ_lt_succ hplace)
              · exact Or.inr ⟨congrArg (· + 1) hplace, hle⟩

/-- What a workspace selects, if all of its patterns can be followed. The paths are those of the
    files that a pattern of a glob selects and that are not left out. No path comes twice, and
    they come in the order of the first patterns that select them, for the same pattern in
    the order of paths. -/
theorem selection_precedes (h : (w.selection fs).fault = none) :
    (∀ p, p ∈ (w.selection fs).paths ↔ fs.isFile p = true ∧
      (∃ glob ∈ w.globs, ∃ pattern ∈ Brace.expand glob, w.selects fs pattern p = true) ∧
      w.isIgnored fs p = false) ∧
    (w.selection fs).paths.Nodup ∧
    (w.selection fs).paths.Pairwise (w.PrecedesIn fs w.patterns) := by
  have hfault : (w.allHits fs w.patterns).fault = none := h
  refine ⟨fun p => ?_, (nodup_eraseDups _).filter _, List.Pairwise.filter _ ?_⟩
  · -- The patterns are what the globs expand to.
    have hpattern : (∃ pattern ∈ w.patterns, w.selects fs pattern p = true) ↔
        ∃ glob ∈ w.globs, ∃ pattern ∈ Brace.expand glob, w.selects fs pattern p = true := by
      simp only [patterns, List.mem_flatMap]
      constructor
      · rintro ⟨pattern, ⟨glob, hglob, hexpand⟩, hselects⟩
        exact ⟨glob, hglob, pattern, hexpand, hselects⟩
      · rintro ⟨glob, hglob, pattern, hexpand, hselects⟩
        exact ⟨pattern, ⟨glob, hglob, hexpand⟩, hselects⟩
    simp only [selection, List.mem_filter, List.mem_eraseDups, mem_allHits_iff hfault, hpattern,
      Bool.not_eq_true', and_assoc]
  · refine (pairwise_eraseDups _).imp_of_mem fun hp hq hless => ?_
    exact precedes_of_idxOf hfault (List.mem_eraseDups.mp hp) (List.mem_eraseDups.mp hq) hless

/-- Patterns that overlap: the first one puts its files in front, and the second one finds them
    again, beside a file of its own, a directory and a file that is left out. -/
theorem selection_precedes_overlapping :
    let fs : FileSystem := ⟨.directory [("c.md", .file []), ("b.md", .file []),
      ("x.md", .directory []), ("a.md", .file []), ("d.md", .file [])], []⟩
    let rules := (Ignore.readRules ["b.md"]).toOption.getD []
    let w : Workspace := ⟨⟨"/", []⟩, ["\x7bd,c\x7d.md", "*.md"], ["b.md"], rules⟩
    (w.selection fs).fault = none ∧
      (∀ name ∈ ["a.md", "c.md", "d.md"], ⟨"/", [name]⟩ ∈ (w.selection fs).paths) ∧
      (∀ name ∈ ["b.md", "x.md"], ⟨"/", [name]⟩ ∉ (w.selection fs).paths) ∧
      (w.selection fs).paths.Nodup ∧
      (w.selection fs).paths.Pairwise (w.PrecedesIn fs w.patterns) := by
  intro fs rules w
  have hfault : (w.selection fs).fault = none := by
    have hnone : (w.selection fs).fault.isNone = true := by decide +kernel
    exact Option.isNone_iff_eq_none.mp hnone
  rcases selection_precedes hfault with ⟨hmem, hnodup, hordered⟩
  refine ⟨hfault, ?_, ?_, hnodup, hordered⟩
  · simp only [hmem]
    decide +kernel
  · simp only [hmem]
    decide +kernel

end Workspace

end Annals
