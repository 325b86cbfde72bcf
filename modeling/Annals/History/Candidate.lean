import Annals.Markdown.Document

/-!
# Candidates

Places in a document that may hold a history block: raw HTML in which a code
fence, the language and the word for the block are mentioned, whatever their
case. More than well-formed blocks is found on purpose, so that one with a
misspelled mark is reported and not passed over.

## Main definitions

* `History.mentionsHistory`: Whether a text looks like a history block.
* `History.Candidate`, `History.candidates`: The candidates of a document.
-/

namespace Annals

namespace History

/-- Whether a text mentions all that a history block consists of. -/
def mentionsHistory (text : String) : Bool :=
  let cs := Text.lower text.toList
  Text.contains (List.replicate 3 (Char.ofNat 96)) cs && Text.contains "yaml".toList cs &&
    Text.contains "history".toList cs

/-- Raw HTML that may hold a history block, its line, counted from one, and what
    stands before it. -/
abbrev Candidate := Markdown.RawPart

/-- The candidates of a document in order. -/
def candidates (source : String) : List Candidate :=
  (Markdown.rawParts source).filter (mentionsHistory ·.raw)

end History

end Annals
