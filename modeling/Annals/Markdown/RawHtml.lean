import Annals.Html.CharacterReference
import Annals.Text.Blank
import Annals.Text.Line

/-!
# Raw HTML in a Document

Where raw HTML begins and ends. Inside a paragraph it is one tag, comment,
instruction or declaration. As a block it begins on a line by one of seven
marks. For the first five the block goes on to the line that holds the closing
mark; for the other two it goes on to the next empty line. All but the last may
follow a paragraph directly.

## Main definitions

* `RawHtml.inlineLength?`: The length of raw HTML at the start of a text.
* `RawHtml.Opener`: The marks with which a block begins.
* `RawHtml.opener?`: The mark on a line.
* `RawHtml.Opener.closedBy`: Whether a line ends the block.
-/

namespace Annals

namespace RawHtml

/-- Whether `c` may be in an attribute value without quotes. -/
def isBareChar (c : Char) : Bool :=
  32 < c.toNat && !(c == '"' || c == '\'' || c == '=' || c == '<' || c == '>' || c.toNat == 96)

/-- What can follow an attribute value without quotes at the start of the text,
    after a longest one first. It ends before a blank or where it must. -/
def afterBare : List Char → List (List Char)
  | [] => []
  | c :: rest =>
    if isBareChar c then
      match rest with
      | [] => [rest]
      | d :: _ =>
        afterBare rest ++ (if Text.isBlank d || !isBareChar d then [rest] else [])
    else []

/-- What can follow an attribute value at the start of the text. -/
def afterValue (cs : List Char) : List (List Char) :=
  match cs with
  | [] => []
  | c :: rest =>
    if c == '"' || c == '\'' then
      match rest.dropWhile (· != c) with
      | _ :: after => [after]
      | [] => []
    else afterBare cs

/-- The text from every place up to its first character that is not blank, the
    last place first. -/
def pastBlanks : List Char → List (List Char)
  | [] => [[]]
  | c :: rest => if Text.isBlank c then pastBlanks rest ++ [c :: rest] else [c :: rest]

/-- Whether `c` may begin the name of an attribute. -/
def isNameStart (c : Char) : Bool := Html.isAsciiLetter c || c == '_' || c == ':'

/-- Whether `c` may be in the name of an attribute. -/
def isNameChar (c : Char) : Bool :=
  Html.isAsciiAlnum c || c == '_' || c == ':' || c == '.' || c == '-'

/-- What follows the end of a tag. -/
def tagEnd? (cs : List Char) : Option (List Char) :=
  match Text.trimStart cs with
  | '/' :: '>' :: rest => some rest
  | '>' :: rest => some rest
  | _ => none

/-- What follows the attributes of a tag and its end. Some blanks may also be in
    a value without quotes, so a value can end at more than one place; the tag
    ends in the same place whichever is taken. -/
def afterAttributes? : (fuel : Nat) → List Char → Option (List Char)
  | 0, cs => tagEnd? cs
  | fuel + 1, cs =>
    let start := Text.trimStart cs
    match start with
    | c :: rest =>
      if start.length < cs.length && isNameStart c then
        let afterName := rest.dropWhile isNameChar
        match Text.trimStart afterName with
        | '=' :: tail => ((pastBlanks tail).flatMap afterValue).findSome? (afterAttributes? fuel)
        | _ => afterAttributes? fuel afterName
      else tagEnd? cs
    | [] => none

/-- What follows an opening or a closing tag at the start of the text. -/
def afterTag? (cs : List Char) : Option (List Char) :=
  let isTagChar := fun c => Html.isAsciiAlnum c || c == '-'
  match cs with
  | '<' :: '/' :: c :: rest =>
    if Html.isAsciiLetter c then
      match Text.trimStart (rest.dropWhile isTagChar) with
      | '>' :: after => some after
      | _ => none
    else none
  | '<' :: c :: rest =>
    if Html.isAsciiLetter c then
      let afterName := rest.dropWhile isTagChar
      afterAttributes? (afterName.length + 1) afterName
    else none
  | _ => none

/-- What follows the body of a comment: the first two hyphens that stand
    together must be followed by a closing bracket, apart from a third
    character that may stand after each such pair. -/
def afterComment? : List Char → Option (List Char)
  | '-' :: '-' :: '>' :: rest => some rest
  | '-' :: '-' :: _ :: rest => afterComment? rest
  | ['-', '-'] => none
  | ['-'] => none
  | '-' :: _ :: rest => afterComment? rest
  | _ :: rest => afterComment? rest
  | [] => none

/-- What follows raw HTML at the start of the text. -/
def afterInline? (cs : List Char) : Option (List Char) :=
  match cs with
  | '<' :: '!' :: '-' :: '-' :: '>' :: rest => some rest
  | '<' :: '!' :: '-' :: '-' :: '-' :: '>' :: rest => some rest
  | '<' :: '!' :: '-' :: '-' :: rest => afterComment? rest
  | '<' :: '?' :: rest => (Text.splitAt? ['?', '>'] rest).map (·.2)
  | '<' :: '!' :: '[' :: rest =>
    match Text.after? "CDATA[".toList rest with
    | some body => (Text.splitAt? [']', ']', '>'] body).map (·.2)
    | none => none
  | '<' :: '!' :: c :: rest =>
    if Html.isAsciiLetter c then (Text.splitAt? ['>'] rest).map (·.2) else none
  | _ => afterTag? cs

/-- The length of raw HTML at the start of the text. -/
def inlineLength? (cs : List Char) : Option Nat :=
  (afterInline? cs).map fun rest => cs.length - rest.length

/-- The marks with which a block of raw HTML begins. -/
inductive Opener where
  | verbatim
  | comment
  | instruction
  | declaration
  | characterData
  | blockTag
  | anyTag
  deriving DecidableEq, Repr

/-- The elements whose content is kept as it is. -/
def verbatimNames : List String := ["script", "pre", "style", "textarea"]

/-- The elements that make a block of their own. -/
def blockNames : List String :=
  ["address", "article", "aside", "base", "basefont", "blockquote", "body", "caption", "center",
   "col", "colgroup", "dd", "details", "dialog", "dir", "div", "dl", "dt", "fieldset",
   "figcaption", "figure", "footer", "form", "frame", "frameset", "h1", "h2", "h3", "h4", "h5",
   "h6", "head", "header", "hr", "html", "iframe", "legend", "li", "link", "main", "menu",
   "menuitem", "nav", "noframes", "ol", "optgroup", "option", "p", "param", "search", "section",
   "summary", "table", "tbody", "td", "tfoot", "th", "thead", "title", "tr", "track", "ul"]

/-- Whether one of the names, in capital or small letters of ASCII, begins a
    text, where what follows is accepted. -/
def namedBy (names : List String) (accepts : List Char → Bool) (cs : List Char) : Bool :=
  names.any fun name =>
    (cs.take name.length).map Char.toLower == name.toList && accepts (cs.drop name.length)

/-- Whether a name is over: a blank, a closing bracket or the end of the line
    follows. -/
def endsName (cs : List Char) : Bool :=
  match cs with
  | [] => true
  | c :: _ => c == '>' || Text.isBlank c

/-- Whether a name is over, where a slash before the bracket counts too. -/
def endsTag (cs : List Char) : Bool :=
  match cs with
  | '/' :: '>' :: _ => true
  | _ => endsName cs

/-- The mark with which the content of a line begins a block. -/
def opener? (line : List Char) : Option Opener :=
  match line with
  | '<' :: rest =>
    let lettered := ((rest.drop 1).head?.map Html.isAsciiLetter).getD false
    if namedBy verbatimNames endsName rest then some .verbatim
    else if Text.startsWith ['!', '-', '-'] rest then some .comment
    else if Text.startsWith ['?'] rest then some .instruction
    else if Text.startsWith ['!'] rest && lettered then some .declaration
    else if Text.startsWith "![CDATA[".toList rest then some .characterData
    else
      -- A block may begin with either tag of its element.
      let name := if Text.startsWith ['/'] rest then rest.drop 1 else rest
      if namedBy blockNames endsTag name then some .blockTag
      else
        match afterTag? line with
        | some after => if after.all Text.isBlank then some .anyTag else none
        | none => none
  | _ => none

namespace Opener

/-- Whether a block that begins so may follow a paragraph directly. -/
def interrupts (o : Opener) : Bool := o != .anyTag

/-- Whether the block goes up to an empty line, and not up to a mark. -/
def untilEmpty (o : Opener) : Bool := o == .blockTag || o == .anyTag

/-- Whether the closing tag of a verbatim element stands anywhere in a line. -/
def hasVerbatimEnd : List Char → Bool
  | [] => false
  | '<' :: '/' :: rest =>
    namedBy verbatimNames (Text.startsWith ['>']) rest || hasVerbatimEnd ('/' :: rest)
  | _ :: rest => hasVerbatimEnd rest

/-- Whether a line ends the block. -/
def closedBy (o : Opener) (line : List Char) : Bool :=
  match o with
  | verbatim => hasVerbatimEnd line
  | comment => Text.contains ['-', '-', '>'] line
  | instruction => Text.contains ['?', '>'] line
  | declaration => Text.contains ['>'] line
  | characterData => Text.contains [']', ']', '>'] line
  | blockTag => line.isEmpty
  | anyTag => line.isEmpty

end Opener

end RawHtml

end Annals
