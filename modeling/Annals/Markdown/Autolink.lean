import Annals.Html.CharacterReference
import Annals.Markdown.LinkParts
import Annals.Text.Blank
import Annals.Text.Case
import Annals.Text.Line
import Annals.Text.Punycode
import Annals.Text.Utf8

/-!
# Addresses in Angle Brackets

An address in angle brackets is a link that shows its own text. It has a scheme,
or it is a mail address. What is shown is the address as it is meant for readers:
the labels of its host are decoded, and the bytes that it spells out are put
together to characters. To find the host, the address is taken apart; put
together again, it misses what is empty, such as the name of a user before an
at sign.

## Main definitions

* `Autolink.Target`: An address in its parts.
* `Autolink.Target.ofText`, `Autolink.Target.text`: Between addresses and their
  parts.
* `Autolink.shown`: The text that an address shows.
* `Autolink.address?`: An address in angle brackets.
-/

namespace Annals

namespace Autolink

/-- Whether a text is an address with a scheme. -/
def hasScheme (cs : List Char) : Bool :=
  let scheme := cs.takeWhile fun c => Html.isAsciiAlnum c || c == '+' || c == '.' || c == '-'
  (scheme.head?.map Html.isAsciiLetter).getD false && 2 ≤ scheme.length && scheme.length ≤ 32 &&
    (match cs.drop scheme.length with
     | ':' :: rest => rest.all fun c => 32 < c.toNat && c != '<' && c != '>'
     | _ => false)

/-- Whether a text is one part of the name of a mail host. -/
def isMailHostPart (cs : List Char) : Bool :=
  1 ≤ cs.length && cs.length ≤ 63 && cs.all (fun c => Html.isAsciiAlnum c || c == '-') &&
    (cs.head?.map Html.isAsciiAlnum).getD false && (cs.getLast?.map Html.isAsciiAlnum).getD false

/-- Whether `c` may be in the name of a mailbox. -/
def isMailboxChar (c : Char) : Bool :=
  Html.isAsciiAlnum c || (".!#$%&'*+/=?^_|~-".toList.contains c) || c.toNat == 96 ||
    c.toNat == 123 || c.toNat == 125

/-- Whether a text is a mail address. -/
def isMail (cs : List Char) : Bool :=
  match Text.splitAt? ['@'] cs with
  | some (box, host) =>
    !box.isEmpty && box.all isMailboxChar && (Text.splitOn '.' host).all isMailHostPart
  | none => false

/-- An address in its parts: the scheme with its colon, whether two slashes come
    after it, the name of the user, the host, the port, and all that follows. -/
structure Target where
  scheme : List Char
  hasSlashes : Bool
  user : List Char
  host : List Char
  port : List Char
  rest : List Char
  deriving DecidableEq, Repr

/-- The scheme at the start of an address with its colon, and what follows. -/
def schemeOf (cs : List Char) : List Char × List Char :=
  let name := cs.takeWhile fun c => Html.isAsciiAlnum c || c == '+' || c == '.' || c == '-'
  match name, cs.drop name.length with
  | _ :: _, ':' :: rest => (name ++ [':'], rest)
  | _, _ => ([], cs)

/-- The schemes that have a host only after two slashes. -/
def slashedSchemes : List (List Char) :=
  ["http:".toList, "https:".toList, "ftp:".toList, "gopher:".toList, "file:".toList]

/-- The characters that end a host, those that end the name of a user aside. -/
def hostStops : List Char :=
  "%/?;#'|\\^<>\" ".toList ++ ['\r', '\n', '\t', Char.ofNat 96, Char.ofNat 123, Char.ofNat 125]

/-- The name of the user, up to the last at sign before a path, and what follows
    it. -/
def userOf (cs : List Char) : List Char × List Char :=
  let front := cs.takeWhile fun c => !(c == '/' || c == '?' || c == '#')
  let host := (front.reverse.takeWhile (· != '@')).reverse
  if front.contains '@' then
    let user := front.take (front.length - host.length - 1)
    (user, cs.drop (user.length + 1))
  else ([], cs)

/-- A host without its port, and the port. -/
def portOf (cs : List Char) : List Char × List Char :=
  let digits := (cs.reverse.takeWhile fun c => '0' ≤ c && c ≤ '9').reverse
  let front := cs.take (cs.length - digits.length)
  if front.getLast? == some ':' then (front.dropLast, digits) else (cs, [])

/-- Whether `c` may be in a part of a host as it is written in ASCII. -/
def isHostChar (c : Char) : Bool := Html.isAsciiAlnum c || c == '+' || c == '_' || c == '-'

/-- Whether a text can be a part of a host: it has up to 63 characters, each of
    which is outside of ASCII or may be in a host. -/
def isHostPart (cs : List Char) : Bool :=
  cs.length ≤ 63 && cs.all fun c => isHostChar c || 128 ≤ c.toNat

/-- The parts of a host up to a part that can be none; of that, the characters
    that can be in a host still belong to it. What is left over comes second. -/
def hostParts : List (List Char) → List (List Char) × List Char
  | [] => ([], [])
  | part :: rest =>
    if isHostPart part then
      let (parts, left) := hostParts rest
      (part :: parts, left)
    else
      let start := (part.takeWhile isHostChar).take 63
      ([start], ['.'].intercalate (part.drop start.length :: rest))

/-- The parts of an address. -/
def Target.ofText (cs : List Char) : Target :=
  let (scheme, cs) := schemeOf (Text.trim cs)
  let hasSlashes := Text.startsWith ['/', '/'] cs
  let cs := if hasSlashes then cs.drop 2 else cs
  -- A host is read behind slashes, and behind a scheme that does not ask for them.
  if hasSlashes || (!scheme.isEmpty && !slashedSchemes.contains scheme) then
    let (user, cs) := userOf cs
    let written := cs.takeWhile (!hostStops.contains ·)
    -- A colon without a port is left to what follows the host.
    let written := if written.getLast? == some ':' then written.dropLast else written
    let rest := cs.drop written.length
    let (host, port) := portOf written
    let isNumeric := host.head? == some '[' && host.getLast? == some ']'
    let (host, rest) :=
      if isNumeric then (host, rest)
      else
        -- Labels that no host can have end it; they are left to what follows, too.
        let (parts, left) := hostParts (Text.splitOn '.' host)
        (['.'].intercalate parts, left ++ rest)
    let host := if 255 < host.length then [] else host
    let host := if isNumeric then (host.drop 1).dropLast else host
    ⟨scheme, hasSlashes, user, host, port, rest⟩
  else ⟨scheme, hasSlashes, [], [], [], cs⟩

/-- An address put together from its parts. A host with a colon is written in
    brackets. -/
def Target.text (t : Target) : List Char :=
  t.scheme ++ (if t.hasSlashes then ['/', '/'] else []) ++
    (if t.user.isEmpty then [] else t.user ++ ['@']) ++
    (if t.host.contains ':' then ['['] ++ t.host ++ [']'] else t.host) ++
    (if t.port.isEmpty then [] else ':' :: t.port) ++ t.rest

/-- Whether `c` is written between the labels of a host: a full stop, also an
    ideographic, wide or narrow one. -/
def isLabelEnd (c : Char) : Bool :=
  c == '.' || c.toNat == 0x3002 || c.toNat == 0xFF0E || c.toNat == 0xFF61

/-- The labels of a host, from a text whose current label, reversed, is
    `label`. -/
def labelsFrom (label : List Char) : List Char → List (List Char)
  | [] => [label.reverse]
  | c :: rest =>
    if isLabelEnd c then label.reverse :: labelsFrom [] rest else labelsFrom (c :: label) rest

/-- A label of a host as it is meant for readers, if it can be decoded. -/
def label? (cs : List Char) : Option (List Char) :=
  match Text.after? "xn--".toList cs with
  | some encoded => Punycode.decode? (Text.lower encoded)
  | none => some cs

/-- A host as it is meant for readers; where a label cannot be decoded, all of
    it stays as it is. -/
def shownHost (host : List Char) : List Char :=
  (((labelsFrom [] host).mapM label?).map (['.'].intercalate ·)).getD host

/-- An address with its host as it is meant for readers, in the schemes of the
    web and of mail. -/
def Target.forReaders (t : Target) : Target :=
  let decodes := t.scheme.isEmpty || t.scheme == "http:".toList || t.scheme == "https:".toList ||
    t.scheme == "mailto:".toList
  if decodes && !t.host.isEmpty then { t with host := shownHost t.host } else t

/-- The bytes that are spelled out at the start of a text. -/
def spelledBytes : List Char → List Nat
  | '%' :: a :: b :: rest =>
    match Text.hexValue? a, Text.hexValue? b with
    | some m, some n => (m * 16 + n) :: spelledBytes rest
    | _, _ => []
  | _ => []

/-- The characters that bytes make. A byte that begins no character is replaced,
    and so is every byte of a sequence that is no character; what has a meaning
    in addresses stays spelled out. -/
def joinBytes : List Nat → List Char
  | [] => []
  | b :: rest =>
    let replaced := fun n : Nat => List.replicate n (Char.ofNat 0xFFFD)
    let joined := fun bs : List Nat => (Utf8.single? bs).getD (replaced bs.length)
    -- What keeps the parts of an address apart is spelled out again.
    if b < 128 then
      (if (";/?:@&=+$,#%".toList.map Char.toNat).contains b then
        ['%', (Text.hexDigit (b / 16)).toUpper, (Text.hexDigit (b % 16)).toUpper]
       else [Char.ofNat b]) ++ joinBytes rest
    -- A first byte tells how many belong to it. Without them it is replaced alone, and the bytes
    -- behind it are looked at anew.
    else if b / 32 == 6 then
      match rest with
      | c :: rest' =>
        if c / 64 == 2 then joined [b, c] ++ joinBytes rest'
        else replaced 1 ++ joinBytes (c :: rest')
      | [] => replaced 1
    else if b / 16 == 14 then
      match rest with
      | c :: d :: rest' =>
        if c / 64 == 2 && d / 64 == 2 then joined [b, c, d] ++ joinBytes rest'
        else replaced 1 ++ joinBytes (c :: d :: rest')
      | [c] => replaced 1 ++ joinBytes [c]
      | [] => replaced 1
    else if b / 8 == 30 then
      match rest with
      | c :: d :: e :: rest' =>
        if c / 64 == 2 && d / 64 == 2 && e / 64 == 2 then joined [b, c, d, e] ++ joinBytes rest'
        else replaced 1 ++ joinBytes (c :: d :: e :: rest')
      | [c, d] => replaced 1 ++ joinBytes [c, d]
      | [c] => replaced 1 ++ joinBytes [c]
      | [] => replaced 1
    else replaced 1 ++ joinBytes rest
termination_by bytes => bytes.length
decreasing_by all_goals simp_wf; all_goals omega

/-- The text that an address shows, where the next `skipped` characters are
    shown already. -/
def shownFrom : (skipped : Nat) → List Char → List Char
  | _, [] => []
  | skipped + 1, _ :: rest => shownFrom skipped rest
  | 0, c :: rest =>
    let bytes := spelledBytes (c :: rest)
    if bytes.isEmpty then c :: shownFrom 0 rest
    else joinBytes bytes ++ shownFrom (bytes.length * 3 - 1) rest

/-- The text that an address shows. -/
def shown (target : List Char) : List Char :=
  shownFrom 0 (Target.ofText target).forReaders.text

/-- An address in angle brackets, after the opening one: the text that it shows,
    and its length with both brackets. -/
def address? (cs : List Char) : Option (String × Nat) :=
  match cs.dropWhile (fun c => c != '<' && c != '>') with
  | '>' :: rest =>
    let target := cs.take (cs.length - rest.length - 1)
    if (hasScheme target && LinkParts.isAllowed target) || (!hasScheme target && isMail target)
    then some (String.ofList (shown target), target.length + 2)
    else none
  | _ => none

end Autolink

end Annals
