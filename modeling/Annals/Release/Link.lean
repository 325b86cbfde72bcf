import Annals.Text.Blank
import Annals.Text.Line

/-!
# Links between Pages

A page of a long list says in a header where the next page is. The header holds
links, each an address in angle brackets with parameters after it. Of the links of
one relation the last counts; a link without a relation goes by its address.

## Main definitions

* `Link`: A link, as its fields.
* `Link.ofHeader`: The links of a header.
* `Link.nextUrl?`: The address of the next page.
-/

namespace Annals

/-- A link: its fields, the address among them. Of two fields of one name the later
    counts. -/
abbrev Link := List (String × String)

namespace Link

/-- Whether a character stands around a field without being a part of it. -/
def isMargin (c : Char) : Bool := c == ' ' || c == '\'' || c == '"'

/-- A text without the characters `p` at its ends. -/
def strip (p : Char → Bool) (cs : List Char) : List Char := Text.dropEndWhile p (cs.dropWhile p)

/-- The links in a text, still as texts. A comma with an angle bracket after it is
    between two links, and there may be spaces between the comma and the bracket;
    `skipped` characters are left that belong to such a place. -/
def split (skipped : Nat) (link : List Char) : List Char → List (List Char)
  | [] => [link.reverse]
  | c :: rest =>
    match skipped with
    | n + 1 => split n link rest
    | 0 =>
      let spaces := rest.takeWhile (· == ' ')
      if c == ',' && (rest.dropWhile (· == ' ')).head? == some '<' then
        link.reverse :: split (spaces.length + 1) [] rest
      else split 0 (c :: link) rest

/-- The fields that parameters give, up to one that is no name with a value. -/
def fields : List (List Char) → Link
  | [] => []
  | parameter :: rest =>
    match Text.splitOn '=' parameter with
    | [name, value] =>
      (String.ofList (strip isMargin name), String.ofList (strip isMargin value)) :: fields rest
    | _ => []

/-- The link that a text means. -/
def ofText (cs : List Char) : Link :=
  let (address, parameters) := (Text.splitAt? [';'] cs).getD (cs, [])
  let margin := fun c => c == '<' || c == '>' || isMargin c
  ("url", String.ofList (strip margin address)) :: fields (Text.splitOn ';' parameters)

/-- A field of a link. -/
def field? (l : Link) (name : String) : Option String := l.reverse.lookup name

/-- What a link is known by: its relation, and without one its address. -/
def key (l : Link) : Option String :=
  match l.field? "rel" with
  | some "" | none => l.field? "url"
  | some relation => some relation

/-- The links of a header. -/
def ofHeader (header : String) : List Link :=
  let cs := strip isMargin header.toList
  if cs.isEmpty then [] else (split 0 [] cs).map ofText

/-- The address of the next page. -/
def nextUrl? (header : String) : Option String :=
  ((ofHeader header).reverse.find? (·.key == some "next")).bind (·.field? "url")

end Link

end Annals
