import Annals.Proofs.Html.Body
import Annals.Proofs.History.WireFormat
import Annals.Proofs.Markdown.FirstFence

/-!
# What a Block Mentions

Two tests decide whether a history block is checked. The first is loose: it looks for
three words anywhere in a piece of raw HTML. The second takes the piece apart. They are
written independently of each other, and the first should let through whatever the
second accepts.

It does for two of the words. The language and the label are what the second test asks
for, whatever their case, and all that it looks at stands in the raw text: the body of
a comment is a part of it, a line of the body is a part of that, and the info is the
end of the line. The third word are three backquotes, which is one way to open a fence;
the second test accepts tildes as well. So a block that is fenced with tildes is passed
over, unless it has three backquotes somewhere else.

## Main definitions

* `History.fence?`: The mark that opens the fence in a candidate.

## Theorems

* `block_parts`: What a block is made of.
* `mentionsHistory_block`: When a block is found to look like one.
* `mentionsHistory_tildes`: A block that does not look like one.
-/

namespace Annals

namespace History

open Markdown

/-- The mark that opens the fence with which the comment of a candidate begins. -/
def fence? (c : Candidate) : Option FenceMark :=
  match Html.parseFragment c.raw with
  | .ok [.comment body] =>
    match firstBlock? body with
    | some (.fence span _ _) => fenceMark? (lineOf body span.first).content
    | _ => none
  | _ => none

theorem onlyComment_eq {nodes : List Html.Node} {body : String}
    (h : onlyComment nodes = .ok body) : nodes = [.comment body] := by
  unfold onlyComment at h
  split at h
  · cases h
    rfl
  · cases h
  · cases h

/-- A comment is a history if it begins with a fence whose info is the language and the
    label. -/
theorem ofComment_fence {c : Candidate} {body : String} {b : Block}
    (h : ofComment c body = .ok b) :
    ∃ span info yaml, firstBlock? body = some (.fence span info yaml) ∧
      IsHistory info.toList := by
  unfold ofComment at h
  split at h
  · next span info yaml hfirst =>
      let word := (Text.firstWord (Text.trim info.toList)).1
      let rest := (Text.firstWord (Text.trim info.toList)).2
      -- The two words of the info, in lower case, are what the comment is accepted for.
      have hlanguage := Section.lowered_ofList word language.toList
      have hlabel := Section.lowered_ofList (Text.trim rest) labelWord.toList
      rw [String.ofList_toList] at hlanguage hlabel
      have hrest : Text.trimmed (String.ofList rest) = String.ofList (Text.trim rest) := by
        rw [Text.trimmed, String.toList_ofList]
      rw [← hrest] at hlabel
      have hinfo : splitInfo info = (String.ofList word, String.ofList rest) := rfl
      simp only [hinfo] at h
      cases h1 : Text.lowered (String.ofList word) != language with
      | true =>
          rw [if_pos h1] at h
          cases h
      | false =>
          cases h2 : Text.lowered (Text.trimmed (String.ofList rest)) != labelWord with
          | true =>
              rw [if_neg (Bool.eq_false_iff.mp h1), if_pos h2] at h
              cases h
          | false =>
              exact ⟨span, info, yaml, hfirst,
                (isHistory_iff _).mpr ⟨hlanguage.mp h1, hlabel.mp h2⟩⟩
  · cases h

/-- What a block is made of: a comment that is all of the candidate, and at the front of the
    comment the line of a fence with the language and the label behind its mark. -/
theorem block_parts {c : Candidate} {b : Block} (h : block c = .ok b) :
    ∃ body n mark, Html.parseFragment c.raw = .ok [.comment body] ∧ fence? c = some mark ∧
      fenceMark? (lineOf body n).content = some mark ∧ IsHistory mark.info := by
  unfold block at h
  cases hparse : Html.parseFragment c.raw with
  | error fault =>
      rw [hparse] at h
      cases h
  | ok nodes =>
      rw [hparse] at h
      simp only [] at h
      cases hbody : onlyComment nodes with
      | error fault =>
          rw [hbody] at h
          cases h
      | ok body =>
          have hnodes := onlyComment_eq hbody
          subst hnodes
          rw [hbody] at h
          cases hblock : ofComment c body with
          | error fault =>
              simp only [Except.bind, hblock] at h
              cases h
          | ok found =>
              -- The first block was opened by a line of the comment, and its info is what stands
              -- behind the mark there.
              rcases ofComment_fence hblock with ⟨span, info, yaml, hfirst, hinfo⟩
              rcases opens_of_parse (List.mem_of_head? hfirst) with ⟨mark, hmark, rfl⟩
              rw [String.toList_ofList] at hinfo
              refine ⟨body, span.first, mark, rfl, ?_, hmark, hinfo⟩
              simp only [fence?, hparse, hfirst]
              exact hmark

/-- The mark of a fence: at least three backquotes or tildes, and behind them the info. -/
theorem fenceMark?_eq {content : List Char} {mark : FenceMark}
    (h : fenceMark? content = some mark) :
    (mark.char = Inlines.tick ∨ mark.char = '~') ∧ 3 ≤ mark.length ∧
      content = List.replicate mark.length mark.char ++ mark.info := by
  unfold fenceMark? at h
  split at h
  · next c rest =>
      simp only [] at h
      split at h
      · next hmark =>
          cases h
          simp only [Bool.and_eq_true, Bool.or_eq_true, decide_eq_true_eq, beq_iff_eq] at hmark
          refine ⟨?_, hmark.1.2, ?_⟩
          · rcases hmark.1.1 with hchar | hchar
            · exact Or.inl (Char.toNat_inj.mp hchar)
            · exact Or.inr hchar
          · -- The run takes all characters of its kind from the start, and the info is what is
            -- left.
            have hsplit := List.prefix_iff_eq_append.mp (List.takeWhile_prefix (l := c :: rest) (· == c))
            exact hsplit.symm.trans (congrArg (· ++ _) (takeWhile_eq_replicate c _))
      · cases h
  · cases h

/-- A word whose lower case is a word of ASCII has only characters that are kept in the lines
    of a document. -/
theorem kept_of_lower {w target : List Char} (h : Text.lower w = target)
    (hascii : target.all (fun c => c.toNat < 128 && c != '\n') = true) :
    ∀ c ∈ w, isKept c = true := by
  intro c hc
  cases hkept : isKept c with
  | true => rfl
  | false =>
      -- A character that is not kept is no letter, so it would be left in the lower case, and so be
      -- one of ASCII.
      have hlower : c ∈ target := by
        unfold isKept at hkept
        rcases Bool.and_eq_false_iff.mp hkept with hchar | hchar
        · have heq : c = '\n' := by simpa using hchar
          subst heq
          exact h ▸ Text.mem_lower_of_blank (by decide) hc
        · have heq : c = Char.ofNat 0xFFFD := by simpa using hchar
          subst heq
          exact h ▸ Text.mem_lower_of_caseless (by decide) (by decide +kernel) hc
      have hplain := List.all_eq_true.mp hascii c hlower
      simp only [Bool.and_eq_true, decide_eq_true_eq, bne_iff_ne] at hplain
      simp only [isKept, Bool.and_eq_false_iff, bne_eq_false_iff_eq] at hkept
      rcases hkept with rfl | rfl
      · exact absurd rfl hplain.2
      · exact absurd hplain.1 (by decide)

/-- What stands in the line of a comment stands in the candidate. -/
theorem infix_of_line {c : Candidate} {body : String} {n : Nat} {w : List Char}
    (hbody : Html.parseFragment c.raw = .ok [.comment body]) (hw : w <:+: (lineOf body n).content)
    (hkept : ∀ x ∈ w, isKept x = true) : w <:+: c.raw.toList :=
  (infix_of_lineOf hw hkept).trans (Html.parseFragment_quotes hbody (List.mem_cons_self ..))

/-- A block is found to look like one if and only if there are three backquotes in it, as
    there are if its fence is made of them. -/
theorem mentionsHistory_block {c : Candidate} {b : Block} (h : block c = .ok b) :
    ∃ mark, fence? c = some mark ∧ (mark.char = Inlines.tick ∨ mark.char = '~') ∧
      (mentionsHistory c.raw = true ↔ Text.contains fenceLine c.raw.toList = true) ∧
      (mark.char = Inlines.tick → mentionsHistory c.raw = true) ∧
      ∀ source, c ∈ rawParts source →
        (c ∈ candidates source ↔ Text.contains fenceLine c.raw.toList = true) := by
  rcases block_parts h with ⟨body, n, mark, hbody, hfence, hmark, hinfo⟩
  rcases fenceMark?_eq hmark with ⟨hchar, hlength, hcontent⟩
  -- The language and the label stand behind the mark, and so in the candidate.
  have hword {v target : List Char} (hv : v ∈ Text.words mark.info) (hlower : Text.lower v = target)
      (hascii : target.all (fun c => c.toNat < 128 && c != '\n') = true) :
      Text.contains target (Text.lower c.raw.toList) = true := by
    have hline : v <:+: (lineOf body n).content :=
      hcontent ▸ (Text.infix_of_mem_words hv).trans (List.suffix_append _ _).isInfix
    have hraw : v <:+: c.raw.toList := infix_of_line hbody hline (kept_of_lower hlower hascii)
    refine Text.contains_iff.mpr (Text.lower_infix hlower ?_ hraw)
    exact List.all_eq_true.mpr fun x hx =>
      (Bool.and_eq_true_iff.mp (List.all_eq_true.mp hascii x hx)).1
  rcases List.map_eq_cons_iff.mp hinfo with ⟨v, rest, hwords, hv, hrest⟩
  rcases List.map_eq_cons_iff.mp hrest with ⟨w, rest', rfl, hw, _⟩
  have hlanguage := hword (hwords ▸ by simp) hv (by decide +kernel)
  have hlabel := hword (hwords ▸ by simp) hw (by decide +kernel)
  have hticks : Text.lower fenceLine = fenceLine := by decide +kernel
  have hmentions : mentionsHistory c.raw = true ↔ Text.contains fenceLine c.raw.toList = true := by
    change (Text.contains fenceLine (Text.lower c.raw.toList) &&
      Text.contains language.toList (Text.lower c.raw.toList) &&
      Text.contains labelWord.toList (Text.lower c.raw.toList)) = true ↔ _
    rw [hlanguage, hlabel, Bool.and_true, Bool.and_true, Text.contains_iff, Text.contains_iff]
    exact ⟨Text.infix_of_lower Text.caseless_backquote,
      Text.lower_infix hticks (by decide +kernel)⟩
  refine ⟨mark, hfence, hchar, hmentions, fun htick => hmentions.mpr ?_, fun source hraw => ?_⟩
  · have hline : fenceLine <:+: (lineOf body n).content := by
      rw [hcontent, htick, ← Nat.add_sub_cancel' hlength, ← List.replicate_append_replicate,
        List.append_assoc]
      exact (List.prefix_append _ _).isInfix
    exact Text.contains_iff.mpr (infix_of_line hbody hline (List.all_eq_true.mp (by decide)))
  · rw [← hmentions]
    unfold candidates
    rw [List.mem_filter]
    exact ⟨And.right, fun hmentioned => ⟨hraw, hmentioned⟩⟩

theorem block_of_isOk {c : Candidate} (h : (block c).isOk = true) : ∃ b, block c = .ok b := by
  cases hb : block c with
  | ok b => exact ⟨b, rfl⟩
  | error fault =>
      rw [hb] at h
      cases h

/-- A block between backquotes. -/
theorem mentionsHistory_block_backquotes :
    let c : Candidate := ⟨"<!--\n```YAML History\nadded: []\n```\n-->\n", 1, none⟩
    (∃ b, block c = .ok b) ∧ mentionsHistory c.raw = true := by
  intro c
  have hok : (block c).isOk = true := by decide +kernel
  have hchar : (fence? c).map (·.char) = some Inlines.tick := by decide +kernel
  rcases block_of_isOk hok with ⟨b, hb⟩
  rcases mentionsHistory_block hb with ⟨mark, hmark, _, _, hticks, _⟩
  rw [hmark] at hchar
  exact ⟨⟨b, hb⟩, hticks (Option.some.inj hchar)⟩

/-- A block between tildes, which is passed over in its document. -/
theorem mentionsHistory_tildes :
    let source := "<!--\n~~~yaml history\nadded: []\n~~~\n-->\n"
    let c : Candidate := ⟨source, 1, none⟩
    (rawParts source).map (·.raw) = [source] ∧ (∃ b, block c = .ok b) ∧
      mentionsHistory c.raw = false ∧ candidates source = [] := by
  intro source c
  have hok : (block c).isOk = true := by decide +kernel
  have hnone : (candidates source).length = 0 := by decide +kernel
  exact ⟨by decide +kernel, block_of_isOk hok, by decide +kernel, List.length_eq_zero_iff.mp hnone⟩

end History

end Annals
