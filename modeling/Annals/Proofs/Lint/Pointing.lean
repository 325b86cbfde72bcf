import Annals.Lint.Run
import Annals.Proofs.History.Location
import Annals.Proofs.Yaml.PlacedProblems

/-!
# Where Parse Errors Point

Which line of a document the number of a parse error means.

A parse error is reported on the line of its problem, counted from the line on which the
history begins. So it is never before that line, and as many lines behind it as there are
line ends of YAML before the problem. But the lines of a document end with a line feed and
nothing else, and three more characters end a line of YAML. If one of these is in the
history, the number may mean a line behind the block.

## Main definitions

* `Yaml.problemPlace?`: The place of the problem with which a reading ends.
* `Run.problemIssue`: The issue of a history that has a problem.

## Theorems

* `not_mem_yaml`: A history has no carriage return.
* `lintBlock_problem`: A history that has a problem.
* `lintBlock_pointed`: The line of a parse error.
-/

namespace Annals

namespace History

/-- A history has no carriage return, even if its candidate has one. -/
theorem not_mem_yaml {c : Candidate} {b : Block} (h : block c = .ok b) : '\r' ∉ b.yaml.toList := by
  rcases block_fence h with ⟨body, span, info, _, hfence, _⟩
  exact Markdown.not_mem_fence (Markdown.fence_of_mapAll hfence)

end History

namespace Yaml

/-- The place of the problem with which a reading ends. -/
def problemPlace? : Except Fault Value → Option Mark
  | .error (.problem p) => some p.mark
  | _ => none

theorem problem_of_place {x : Except Fault Value} {m : Mark} (h : problemPlace? x = some m) :
    ∃ p, x = .error (.problem p) ∧ p.mark = m := by
  unfold problemPlace? at h
  split at h
  · next p => exact ⟨p, rfl, Option.some.inj h⟩
  · cases h

end Yaml

namespace Run

variable {σ : Type} {c : History.Candidate} {b : History.Block} {p : Yaml.Problem}

/-- The issue of a history that has a problem. -/
def problemIssue (file : String) (b : History.Block) (p : Yaml.Problem) : Issue :=
  parseError file b (p.finder.name ++ ": " ++ p.message b.yaml.toList.toArray) (some (p.mark.line + 1))

theorem lintBlock_problem (checks : List (Check σ)) (file : String) (s : σ)
    (hb : History.block c = .ok b) (h : Yaml.decode true b.yaml = .error (.problem p)) :
    lintBlock checks file c s = (⟨[problemIssue file b p], none⟩, s) := by
  unfold lintBlock lintHistory
  rw [hb]
  simp only [h, Yaml.Fault.named?, problemIssue]

theorem problemIssue_line (file : String) (b : History.Block) (p : Yaml.Problem) :
    (problemIssue file b p).line = b.yamlLine + p.mark.line := by
  simp only [problemIssue, parseError, Option.elim_some]
  omega

/-- A candidate whose history has a problem at a place is worth one issue. Its line is the one on
    which the history begins, and one more for each line end of YAML before the place. So it is
    at most the line behind the history, if only line feeds end a line there. -/
theorem lintBlock_pointed (checks : List (Check σ)) (file : String) (s : σ)
    (hb : History.block c = .ok b) (h : Yaml.decode true b.yaml = .error (.problem p)) :
    ∃ i : Issue, lintBlock checks file c s = (⟨[i], none⟩, s) ∧ i.code = .parseError ∧
      p.mark.index ≤ b.yaml.toList.length ∧
      i.line = b.yamlLine + (b.yaml.toList.take p.mark.index).countP Yaml.isBreak ∧
      b.yamlLine ≤ i.line ∧
      ((∀ x ∈ b.yaml.toList, Yaml.isBreak x = true → x = '\n') →
        i.line ≤ b.yamlLine + b.yaml.toList.count '\n') := by
  have hplace := (Yaml.decode_points true b.yaml).fails p h
  have hline := problemIssue_line file b p
  have hbreaks := hplace.line (History.not_mem_yaml hb)
  refine ⟨_, lintBlock_problem checks file s hb h, rfl, hplace.index, by rw [hline, hbreaks],
    by omega, fun hends => ?_⟩
  -- The counts agree on each line end that is passed, and those behind the place are left over.
  have hcount : p.mark.line ≤ b.yaml.toList.count '\n' := by
    rw [hbreaks]
    refine ((List.take_sublist _ _).countP_le).trans (List.countP_mono_left fun x hx hbreak => ?_)
    exact beq_iff_eq.mpr (hends x hx hbreak)
  omega

/-- A colon too many on the second line of a history. -/
theorem lintBlock_pointed_colon :
    let c : History.Candidate := ⟨"<!--\n```yaml history\na: 1\nb: c: 2\n```\n-->\n", 7, none⟩
    ∃ b p i, History.block c = .ok b ∧ Yaml.decode true b.yaml = .error (.problem p) ∧
      lintBlock [] "document.md" c () = (⟨[i], none⟩, ()) ∧ i.line = 10 := by
  intro c
  have hparts : (History.block c).toOption.map (fun b => (b.yamlLine, b.yaml))
      = some (9, "a: 1\nb: c: 2\n") := by
    decide +kernel
  rcases History.block_of_parts hparts with ⟨b, hb, hline, hyaml⟩
  -- The reader points at the second colon, behind the first line of the history.
  have hmark : Yaml.problemPlace? (Yaml.decode true "a: 1\nb: c: 2\n") = some ⟨9, 1, 4⟩ := by
    decide +kernel
  rcases Yaml.problem_of_place hmark with ⟨p, hp, hplace⟩
  rw [← hyaml] at hp
  rcases lintBlock_pointed [] "document.md" () hb hp with ⟨i, hi, _, _, hnumber, _⟩
  refine ⟨b, p, i, hb, hp, hi, ?_⟩
  rw [hnumber, hline, hyaml, hplace]
  decide +kernel

/-- A line separator in a history ends no line of the document, but one of YAML. So the parse
    error of a history of one line is reported two lines further down, behind the fence. -/
theorem lintBlock_pointed_separator :
    let source := "<!--\n```yaml history\n[\u2028\n```\n-->\n"
    let c : History.Candidate := ⟨source, 1, none⟩
    History.candidates source = [c] ∧ '\r' ∉ c.raw.toList ∧
      ∃ b i, History.block c = .ok b ∧
        lintBlock [] "document.md" c () = (⟨[i], none⟩, ()) ∧ i.code = .parseError ∧
        ¬ i.line ≤ b.yamlLine + b.yaml.toList.count '\n' := by
  intro source c
  have hfields : (History.candidates source).map (fun c => (c.raw, c.line, c.previous.isSome))
      = [(source, 1, false)] := by
    decide +kernel
  -- Candidates cannot be compared as they are, so the only one is put together of its fields.
  rcases List.map_eq_singleton_iff.mp hfields with ⟨⟨raw, line, previous⟩, hfound, hraw⟩
  simp only [Prod.mk.injEq, Option.isSome_eq_false_iff, Option.isNone_iff_eq_none] at hraw
  rcases hraw with ⟨rfl, rfl, rfl⟩
  refine ⟨hfound, by decide +kernel, ?_⟩
  have hparts : (History.block c).toOption.map (fun b => (b.yamlLine, b.yaml))
      = some (3, "[\u2028\n") := by
    decide +kernel
  rcases History.block_of_parts hparts with ⟨b, hb, hline, hyaml⟩
  have hmark : Yaml.problemPlace? (Yaml.decode true "[\u2028\n") = some ⟨3, 2, 0⟩ := by
    decide +kernel
  rcases Yaml.problem_of_place hmark with ⟨p, hp, hplace⟩
  rw [← hyaml] at hp
  refine ⟨b, _, hb, lintBlock_problem [] "document.md" () hb hp, rfl, ?_⟩
  rw [problemIssue_line, hplace, hline, hyaml]
  decide +kernel

end Run

end Annals
