import Annals.Html.CharacterReference
import Annals.Text.Blank
import Annals.Text.Case
import Annals.Text.Line
import Annals.Text.Quoted

/-!
# Events of an HTML Fragment

A fragment is read as a sequence of events: tags that open or close an element,
comments, declarations and text. Reading is forgiving. What looks like markup
but is not complete is text up to the next closing bracket; a mark that opens
no known construct is a comment of its own kind; the content of a script or a
style sheet is not looked into.

Two rules are worth knowing. A comment ends at two hyphens and a closing
bracket, with blanks allowed between them. And an attribute value that opens a
quote which is never closed is no value: the quote starts the next attribute.

## Main definitions

* `Html.Event`: The events.
* `Html.Fault`: Why a fragment cannot be read.
* `Html.events`: The events of a fragment.
-/

namespace Annals

namespace Html

/-- What is met while a fragment is read. -/
inductive Event where
  /-- A tag that opens an element, or stands for a whole one. -/
  | opening (name : String) (whole : Bool)
  | closing (name : String)
  | comment (body : String)
  | declaration (body : String)
  | text (body : String)
  deriving DecidableEq, Repr

/-- Why a fragment cannot be read: the name of a marked section is missing or
    unknown, or a character is written by a number with too many digits. -/
inductive Fault where
  | noName (around : List Char)
  | unknownName (name : List Char)
  | longNumber (digits : Nat)
  deriving Repr

/-- The wording of a fault. -/
def Fault.message : Fault → String
  | noName around => "expected name token at " ++ Text.quoted (String.ofList around)
  | unknownName name =>
    "unknown status keyword " ++ Text.quoted (String.ofList name) ++ " in marked section"
  | longNumber digits => longNumberMessage digits

/-- A text with its references resolved, if all of them can be read. -/
def resolved (cs : List Char) : Except Fault (List Char) :=
  match longReference? cs with
  | some digits => .error (.longNumber digits)
  | none => .ok (unescape cs)

/-- Whether `c` ends the name of a tag. -/
def endsTagName (c : Char) : Bool :=
  c == '\t' || c == '\n' || c == '\r' || c.toNat == 12 || c == ' ' || c == '/' || c == '>' ||
    c.toNat == 0

/-- Blanks, and slashes that do not stand before a closing bracket, are
    skipped. -/
def skipBetween : List Char → List Char
  | [] => []
  | '/' :: '>' :: rest => '/' :: '>' :: rest
  | c :: rest => if Text.isBlank c || c == '/' then skipBetween rest else c :: rest

/-- Whether an attribute may begin after `c`. -/
def precedesAttribute (c : Char) : Bool := c == '\'' || c == '"' || c == '/' || Text.isBlank c

/-- Whether `c` goes on with an unquoted value. -/
def isBareValueChar (c : Char) : Bool := c != '>' && !Text.isBlank c

/-- An unquoted value at the start of the text, and what follows it. -/
def bareValue (cs : List Char) : List Char × List Char :=
  (cs.takeWhile isBareValueChar, cs.dropWhile isBareValueChar)

/-- The value of an attribute, and what follows it: the text begins after the
    name. None if there is no value. -/
def value? (cs : List Char) : Option (List Char × List Char) :=
  let afterBlanks := Text.trimStart cs
  let marks := afterBlanks.takeWhile (· == '=')
  let afterMarks := afterBlanks.drop marks.length
  let value := Text.trimStart afterMarks
  if marks.isEmpty then none
  else
    match value with
    | quote :: rest =>
      if quote == '\'' || quote == '"' then
        match rest.dropWhile (· != quote) with
        | _ :: after => some (rest.takeWhile (· != quote), after)
        | [] =>
          -- the quote is never closed: a blank or a mark before it is given back
          if value.length < afterMarks.length then some ([], value)
          else if 2 ≤ marks.length then some (bareValue (afterBlanks.drop (marks.length - 1)))
          else none
      else some (bareValue value)
    | [] => some ([], [])

/-- The value of an attribute at the start of the text, which stands after
    `before`, and what follows it and the blanks and slashes after it. None if no
    attribute begins here. -/
def attribute? (before : Char) (cs : List Char) : Option (List Char × List Char) :=
  match cs with
  | [] => none
  | c :: rest =>
    if !precedesAttribute before || Text.isBlank c || c == '/' || c == '>' then none
    else
      let afterName := rest.dropWhile fun d => !(Text.isBlank d || d == '/' || d == '=' || d == '>')
      let (value, after) := (value? afterName).getD ([], afterName)
      some (value, skipBetween after)

/-- The last character that was taken to get from `cs` to `rest`. -/
def lastTaken (cs rest : List Char) (before : Char) : Char :=
  ((cs.take (cs.length - rest.length)).getLast?).getD before

/-- The values of the attributes at the start of the text, and what follows
    them. -/
def attributes : (fuel : Nat) → (before : Char) → List Char → List (List Char) × List Char
  | 0, _, cs => ([], cs)
  | fuel + 1, before, cs =>
    match attribute? before cs with
    | some (value, rest) =>
      let (values, after) := attributes fuel (lastTaken cs rest before) rest
      (value :: values, after)
    | none => ([], cs)

/-- How a tag that opens an element ends. -/
inductive TagEnd where
  | whole (after : List Char)
  | opening (after : List Char)
  /-- The tag is broken off; what was taken is text. -/
  | broken (after : List Char)
  | incomplete

/-- The values of the attributes of a tag whose name has been taken, with `last`
    its last character, and the end of the tag. -/
def tagEnd (last : Char) (cs : List Char) : List (List Char) × TagEnd :=
  let between := skipBetween cs
  let (values, rest) := attributes (cs.length + 1) (lastTaken cs between last) between
  -- a slash straight before the bracket may have been taken with the blanks
  (values, match rest with
  | '>' :: after => .opening after
  | '/' :: '>' :: after => .whole after
  | [] => .incomplete
  | c :: _ => if isAsciiLetter c || c == '=' || c == '/' then .incomplete else .broken rest)

/-- A tag that opens an element, after its opening bracket: the event and what
    follows. None if the tag is not complete. -/
def openingTag? (cs : List Char) : Except Fault (Option (Event × List Char)) := do
  let name := cs.takeWhile (!endsTagName ·)
  let rest := cs.drop name.length
  let lowered := String.ofList (Text.lower name)
  let (values, stop) := tagEnd (name.getLast?.getD '<') rest
  let found := match stop with
    | .incomplete => none
    | .opening after => some (.opening lowered false, after)
    | .whole after => some (.opening lowered true, after)
    | .broken after =>
      let taken := cs.take (cs.length - after.length)
      some (.text (String.ofList ('<' :: taken)), after)
  if found.isSome then
    let _ ← values.mapM resolved
  return found

/-- The characters before the first closing bracket, and what follows it. -/
def upToBracket? (cs : List Char) : Option (List Char × List Char) := Text.splitAt? ['>'] cs

/-- The name at the start of a closing tag that has nothing but blanks beside
    it, and what follows the tag. -/
def plainClosing? (cs : List Char) : Option (List Char × List Char) :=
  let start := Text.trimStart cs
  let name := start.takeWhile fun c => isAsciiAlnum c || c == '-' || c == '.' || c == ':' || c == '_'
  if (name.head?.map isAsciiLetter).getD false then
    match Text.trimStart (start.drop name.length) with
    | '>' :: after => some (name, after)
    | _ => none
  else none

/-- The body of a comment, after its opening mark, and what follows. -/
def commentBody? : List Char → Option (List Char × List Char)
  | [] => none
  | c :: rest =>
    let closed := match c, rest with
      | '-', '-' :: tail =>
        match Text.trimStart tail with
        | '>' :: after => some after
        | _ => none
      | _, _ => none
    match closed with
    | some after => some ([], after)
    | none => (commentBody? rest).map fun (body, after) => (c :: body, after)

/-- The body of a marked section whose end is made of `brackets` closing square
    brackets and a closing bracket, with blanks between them, and what
    follows. -/
def sectionBody? (brackets : Nat) : List Char → Option (List Char × List Char)
  | [] => none
  | c :: rest =>
    -- Blanks may stand between the two square brackets, and before the last one.
    let second := if brackets == 2 then
        match Text.trimStart rest with
        | ']' :: tail => some tail
        | _ => none
      else some rest
    let closed := if c == ']' then
        match second.map Text.trimStart with
        | some ('>' :: after) => some after
        | _ => none
      else none
    match closed with
    | some after => some ([], after)
    | none => (sectionBody? brackets rest).map fun (body, after) => (c :: body, after)

/-- What a construct after an opening bracket is read as: an event and what
    follows, or nothing where it is not complete. -/
abbrev Read := Except Fault (Option (Option Event × List Char))

/-- A marked section, after its opening mark. -/
def markedSection (cs : List Char) : Read :=
  let name := cs.takeWhile fun c => isAsciiAlnum c || c == '-' || c == '_' || c == '.'
  let after := Text.trimStart (cs.drop name.length)
  let body := fun brackets : Nat =>
    (sectionBody? brackets cs).map fun (body, rest) =>
      (some (Event.declaration (String.ofList body)), rest)
  if cs.isEmpty then .ok none
  else if !(name.head?.map isAsciiLetter).getD false then
    .error (.noName (("<![".toList ++ cs).take 20))
  else if after.isEmpty then .ok none
  else
    let keyword := String.ofList (Text.lower name)
    if ["temp", "cdata", "ignore", "include", "rcdata"].contains keyword then .ok (body 2)
    else if ["if", "else", "endif"].contains keyword then .ok (body 1)
    else .error (.unknownName (cs.take (cs.length - after.length)))

/-- A closing tag, after its opening mark; `raw` is the element whose content is
    not looked into, if one is open. With the event comes whether the content
    of such an element ends. -/
def closingTag (raw : Option (List Char)) (cs : List Char) :
    Option (Option Event × Bool × List Char) :=
  match upToBracket? cs with
  | none => none
  | some (inside, beyond) =>
    let asText := (some (Event.text (String.ofList ('<' :: '/' :: inside ++ ['>']))), false, beyond)
    match plainClosing? cs with
    | some (name, after) =>
      let name := Text.lower name
      -- Inside of such content only the tag of its own element closes anything.
      if (raw.map (· != name)).getD false then some asText
      else some (some (.closing (String.ofList name)), true, after)
    | none =>
      if raw.isSome then some asText
      -- What begins with a name closes an element, however it goes on up to the bracket.
      else if (cs.head?.map isAsciiLetter).getD false then
        let name := cs.takeWhile (!endsTagName ·)
        some (some (.closing (String.ofList (Text.lower name))), false, beyond)
      -- Two marks with nothing between them leave no event; anything else is a comment.
      else if inside.isEmpty then some (none, false, beyond)
      else some (some (.comment (String.ofList inside)), false, beyond)

/-- A declaration, after its opening mark, that is neither a comment nor a
    marked section. -/
def declaration? (cs : List Char) : Option (Event × List Char) :=
  let isDoctype := Text.lower (cs.take 7) == "doctype".toList
  (upToBracket? (if isDoctype then cs.drop 7 else cs)).map fun (body, after) =>
    if isDoctype then (.declaration (String.ofList (cs.take 7 ++ body)), after)
    else (.comment (String.ofList body), after)

/-- Markup that is not complete: it is text up to the next closing bracket, or
    else up to the next opening one, or else only its first character. -/
def incomplete (cs : List Char) : List Char × List Char :=
  match upToBracket? cs with
  | some (body, after) => ('<' :: body ++ ['>'], after)
  | none =>
    let body := cs.takeWhile (· != '<')
    if body.length < cs.length then ('<' :: body, cs.drop body.length) else (['<'], cs)

/-- Whether the closing tag of `name` stands at the start of the text. -/
def closes (name cs : List Char) : Bool :=
  match cs with
  | '<' :: '/' :: rest =>
    match Text.after? name ((Text.trimStart rest).take name.length |> Text.lower) with
    | some [] =>
      match Text.trimStart ((Text.trimStart rest).drop name.length) with
      | '>' :: _ => true
      | _ => false
    | _ => false
  | _ => false

/-- The content of an element that is not looked into, up to its closing tag;
    none if it is never closed. -/
def rawContent? (name : List Char) : List Char → Option (List Char × List Char)
  | [] => none
  | c :: rest =>
    if closes name (c :: rest) then some ([], c :: rest)
    else (rawContent? name rest).map fun (body, after) => (c :: body, after)

/-- An event for a piece of text, if it has any characters. -/
def textEvent (cs : List Char) : List Event :=
  if cs.isEmpty then [] else [.text (String.ofList cs)]

/-- The elements whose content is not looked into. -/
def rawElements : List String := ["script", "style"]

/-- The events of a fragment; `raw` is the open element whose content is not
    looked into. Every step takes a character off, so `fuel` of more than
    their number never runs out. -/
def eventsFrom : (fuel : Nat) → (raw : Option (List Char)) → List Char →
    Except Fault (List Event)
  | 0, _, _ => .ok []
  | _, _, [] => .ok []
  | fuel + 1, raw, cs =>
    let piece := match raw with
      | none => some (cs.takeWhile (· != '<'), cs.dropWhile (· != '<'))
      | some name => rawContent? name cs
    match piece with
    | none => .ok []
    | some (body, rest) => do
      -- References are resolved in text, but not in content that is not looked into.
      let read := fun cs : List Char =>
        if raw.isSome then Except.ok (textEvent cs) else (resolved cs).map textEvent
      let before ← read body
      match rest with
      | [] => return before
      | _ :: inside =>
        -- A bracket whose construct is not complete is text, up to where that ends.
        let broken := incomplete inside
        let asText := (read broken.1).map fun events => (events, raw, broken.2)
        let plain := fun found : Option (Option Event × List Char) =>
          match found with
          | some (event, after) => .ok (event.toList, raw, after)
          | none => asText
        let (events, raw, after) ← match inside with
          | '/' :: body =>
            match closingTag raw body with
            | some (event, ends, after) => pure (event.toList, if ends then none else raw, after)
            | none => asText
          | '!' :: '-' :: '-' :: body =>
            plain ((commentBody? body).map fun (b, after) =>
              (some (.comment (String.ofList b)), after))
          | '?' :: body =>
            plain ((upToBracket? body).map fun (b, after) =>
              (some (.declaration (String.ofList b)), after))
          | '!' :: '[' :: body => do plain (← markedSection body)
          | '!' :: body => plain ((declaration? body).map fun (e, after) => (some e, after))
          | c :: _ =>
            if isAsciiLetter c then
              match ← openingTag? inside with
              | some (.opening name whole, after) =>
                -- From here on the content is not looked into, until the element is closed.
                let raw := if !whole && rawElements.contains name then some name.toList else raw
                pure ([.opening name whole], raw, after)
              | some (event, after) => pure ([event], raw, after)
              | none => asText
            else pure ([.text "<"], raw, inside)
          | [] => pure ([.text "<"], raw, [])
        let others ← eventsFrom fuel raw after
        return before ++ events ++ others

/-- The events of a fragment, in order. -/
def events (html : String) : Except Fault (List Event) :=
  let cs := html.toList
  eventsFrom (cs.length + 1) none cs

end Html

end Annals
