import Annals.History.Candidate
import Annals.Html.Fragment

/-!
# History Blocks

A history block is one comment with nothing beside it, and the first thing in the
comment is fenced code whose info names the language and marks it as a history.
The text of a candidate is read anew to find out whether it is one: first as
HTML, to separate the comment, then the body of the comment as a document.

## Main definitions

* `History.FormatFault`: Why a candidate is no history block.
* `History.splitInfo`: The language and the label of an info.
* `History.Block`, `History.block`: The block that a candidate holds.
-/

namespace Annals

namespace History

/-- Why a candidate is no history block. -/
inductive FormatFault where
  | notComment
  | manyNodes (count : Nat)
  | notFence
  | language (found : String)
  | label (found : String)
  deriving DecidableEq, Repr

/-- The language of history blocks. -/
def language : String := "yaml"

/-- The label of history blocks. -/
def labelWord : String := "history"

/-- What is reported of a candidate that is no history block. -/
def FormatFault.message : FormatFault → String
  | notComment => "expected an HTML comment"
  | manyNodes count => "expected a single HTML comment, found " ++ toString count ++
      " top-level nodes"
  | notFence => "expected a fenced code block inside the comment"
  | language found => "expected code block language '" ++ History.language ++ "', found '" ++
      found ++ "'"
  | label found => "expected code block meta '" ++ labelWord ++ "', found '" ++ found ++ "'"

/-- Why a candidate holds no block: it has not the form of one, or it cannot be
    read as HTML at all. -/
inductive Fault where
  | format (fault : FormatFault)
  | html (fault : Html.Fault)
  deriving Repr

/-- A history block: the candidate, the text of the history, the language and the
    label as written, and the line of the document on which the text begins. -/
structure Block where
  candidate : Candidate
  yaml : String
  language : String
  label : String
  yamlLine : Nat
  deriving Repr

/-- The first word of an info, and what follows it. -/
def splitInfo (info : String) : String × String :=
  let (word, rest) := Text.firstWord (Text.trim info.toList)
  (String.ofList word, String.ofList rest)

/-- The number of line ends before the comment in a text; without the mark of a
    comment, those before the last character. -/
def linesBeforeComment (raw : List Char) : Nat :=
  match Text.splitAt? ['<', '!', '-', '-'] raw with
  | some (before, _) => before.count '\n'
  | none => raw.dropLast.count '\n'

/-- The first block of a document. -/
def firstBlock? (source : String) : Option (Markdown.Block (List Markdown.Inline)) :=
  (Markdown.parse source).head?

/-- The body of the only comment that a fragment consists of. -/
def onlyComment : List Html.Node → Except FormatFault String
  | [.comment body] => .ok body
  | .comment _ :: rest => .error (.manyNodes (rest.length + 1))
  | _ => .error .notComment

/-- The block of fenced code in the body of a comment, if it is a history. -/
def ofComment (candidate : Candidate) (body : String) : Except FormatFault Block :=
  match firstBlock? body with
  | some (.fence span info yaml) =>
    let (word, rest) := splitInfo info
    if Text.lowered word != language then .error (.language word)
    else if Text.lowered (Text.trimmed rest) != labelWord then .error (.label (Text.trimmed rest))
    else
      -- The place in the document, from that of the candidate and that of the fence in the comment.
      let commentLine := candidate.line + linesBeforeComment candidate.raw.toList
      .ok ⟨candidate, yaml, word, rest, commentLine + span.first + 1⟩
  | _ => .error .notFence

/-- The history block that a candidate holds. -/
def block (candidate : Candidate) : Except Fault Block :=
  match Html.parseFragment candidate.raw with
  | .error fault => .error (.html fault)
  | .ok nodes => ((onlyComment nodes).bind (ofComment candidate)).mapError .format

end History

end Annals
