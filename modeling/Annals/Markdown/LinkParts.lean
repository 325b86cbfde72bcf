import Annals.Html.CharacterReference
import Annals.Text.Blank
import Annals.Text.Case
import Annals.Text.Line
import Annals.Text.Punctuation

/-!
# Parts of Links

A link is made of a label, a destination and a title. Of the label it matters
which other labels it equals; of the destination, where it ends and whether its
scheme is one that is allowed; of the title, only where it ends.

## Main definitions

* `LinkParts.normalized`: A label as it is compared.
* `LinkParts.destination?`: The destination at the start of a text.
* `LinkParts.title?`: The title at the start of a text.
* `LinkParts.isAllowed`: Whether a destination may be linked to.
-/

namespace Annals

namespace LinkParts

/-- The code points of the blanks in labels: the tab and the line controls, the
    space, the spaces and line marks outside ASCII, and the byte order mark. -/
def labelBlankRanges : Ranges :=
  [(9, 13), (32, 32), (160, 160), (5760, 5760), (8192, 8202), (8232, 8233), (8239, 8239),
   (8287, 8287), (12288, 12288), (65279, 65279)]

/-- Whether `c` is blank in a label. The separators of information and the next
    line control are not. -/
def isLabelBlank (c : Char) : Bool := labelBlankRanges.has c.toNat

/-- A text with every run of blanks written as one. -/
def collapse : List Char → List Char
  | [] => []
  | c :: rest =>
    if isLabelBlank c then
      if (rest.head?.map isLabelBlank).getD false then collapse rest else ' ' :: collapse rest
    else c :: collapse rest

/-- A label as it is compared: blanks collapsed, and differences of case
    removed by going to lower and then to upper case. -/
def normalized (label : List Char) : List Char :=
  let bare := Text.dropEndWhile isLabelBlank (label.dropWhile isLabelBlank)
  Text.upper (Text.lower (collapse bare))

/-- A destination in angle brackets, after the opening one, with what was taken
    so far in reverse: its text, and what follows. -/
def bracketed : (taken : List Char) → List Char → Option (List Char × List Char)
  | _, [] => none
  | taken, '>' :: rest => some (taken.reverse, rest)
  | _, '\n' :: _ => none
  | _, '<' :: _ => none
  | taken, '\\' :: c :: rest => bracketed (c :: '\\' :: taken) rest
  | taken, c :: rest => bracketed (c :: taken) rest

/-- Whether `c` is a control character of ASCII. -/
def isControl (c : Char) : Bool := c.toNat < 32 || c.toNat == 127

/-- A destination without brackets, with the parentheses open in it and what
    was taken so far in reverse: its text, and what follows. It ends at a blank,
    a control character or a parenthesis that closes none. -/
def bare : (open_ : Nat) → (taken : List Char) → List Char → Option (List Char × List Char)
  | depth, taken, [] => if depth == 0 then some (taken.reverse, []) else none
  | depth, taken, '\\' :: c :: rest =>
    if c == ' ' then if depth == 0 then some (taken.reverse, '\\' :: c :: rest) else none
    else if isControl c then bare depth ('\\' :: taken) (c :: rest)
    else bare depth (c :: '\\' :: taken) rest
  | depth, taken, c :: rest =>
    let ended := if depth == 0 then some (taken.reverse, c :: rest) else none
    if c == ' ' || isControl c then ended
    else if c == '(' then if 32 ≤ depth then none else bare (depth + 1) (c :: taken) rest
    else if c == ')' then if depth == 0 then ended else bare (depth - 1) (c :: taken) rest
    else bare depth (c :: taken) rest

/-- The destination at the start of a text, and what follows it. -/
def destination? (cs : List Char) : Option (List Char × List Char) :=
  match cs with
  | '<' :: rest => bracketed [] rest
  | _ =>
    match bare 0 [] cs with
    | some (taken, rest) => if taken.isEmpty then none else some (taken, rest)
    | none => none

/-- What follows a title, after its opening mark; `closing` ends it. -/
def afterTitle? (closing : Char) : List Char → Option (List Char)
  | [] => none
  | c :: rest =>
    if c == closing then some rest
    else if c == '(' && closing == ')' then none
    else if c == '\\' then
      match rest with
      | _ :: rest' => afterTitle? closing rest'
      | [] => none
    else afterTitle? closing rest

/-- A title at the start of a text: whether it has any characters, and what
    follows it. -/
def title? (cs : List Char) : Option (Bool × List Char) :=
  match cs with
  | c :: rest =>
    if c == '"' || c == '\'' || c == '(' then
      (afterTitle? (if c == '(' then ')' else c) rest).map fun after =>
        (after.length + 1 < rest.length, after)
    else none
  | [] => none

/-- A text with escapes and references resolved, where the next `skipped`
    characters are resolved already. -/
def resolvedFrom : (skipped : Nat) → List Char → List Char
  | _, [] => []
  | skipped + 1, _ :: rest => resolvedFrom skipped rest
  | 0, c :: rest =>
    if c == '\\' && (rest.head?.map Text.isAsciiPunctuation).getD false then
      (rest.head?.getD c) :: resolvedFrom 1 rest
    else if c == '&' then
      match Html.reference? 8 8 (c :: rest) with
      | some (cs, length) => cs ++ resolvedFrom (length - 1) rest
      | none => c :: resolvedFrom 0 rest
    else c :: resolvedFrom 0 rest

/-- The schemes that may not be linked to. -/
def forbiddenSchemes : List (List Char) :=
  ["vbscript:".toList, "javascript:".toList, "file:".toList, "data:".toList]

/-- The kinds of embedded data that may be linked to all the same. -/
def allowedData : List (List Char) :=
  ["data:image/gif;".toList, "data:image/png;".toList, "data:image/jpeg;".toList,
   "data:image/webp;".toList]

/-- Whether a destination, with all in it resolved, may be linked to. -/
def isAllowed (target : List Char) : Bool :=
  let cs := Text.lower (Text.trim target)
  !(forbiddenSchemes.any (·.isPrefixOf cs)) || allowedData.any (·.isPrefixOf cs)

/-- Whether a destination as written may be linked to. -/
def isAllowedAsWritten (target : List Char) : Bool := isAllowed (resolvedFrom 0 target)

end LinkParts

end Annals
