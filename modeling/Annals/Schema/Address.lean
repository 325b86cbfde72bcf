import Annals.Text.Case
import Annals.Text.Line
import Annals.Text.Utf8
import Annals.Text.Digit

/-!
# Addresses of Schemas

Schemas are known by addresses, and refer to each other by addresses that are
relative to their own. An address has a scheme, an authority, a path, a query
and a fragment, each of which can be absent.

## Main definitions

* `Address`: An address in its parts.
* `Address.parse`, `Address.text`: Between addresses and their parts.
* `Address.join`: An address relative to another.
* `Address.unquoted`: A text with its escapes of bytes undone.
-/

namespace Annals

/-- An address in its parts. -/
structure Address where
  scheme : List Char
  authority : List Char
  path : List Char
  query : List Char
  fragment : List Char
  deriving DecidableEq, Repr

namespace Address

/-- A text up to a mark, and what follows the mark, if it is there. -/
def cut (mark : Char) (cs : List Char) : List Char × List Char :=
  (cs.takeWhile (· != mark), (cs.dropWhile (· != mark)).drop 1)

/-- Whether a character can be in a scheme. -/
def inScheme (c : Char) : Bool := c.isAlphanum || c == '+' || c == '-' || c == '.'

/-- An address without its scheme: the scheme in small letters, and the rest. -/
def scheme? (cs : List Char) : Option (List Char × List Char) :=
  match cs.takeWhile (· != ':'), cs.dropWhile (· != ':') with
  | c :: before, _ :: rest =>
    if c.isAlpha && before.all inScheme then some ((c :: before).map Char.toLower, rest) else none
  | _, _ => none

/-- Why a text is no address: it has one of two brackets around the authority, or the
    authority has a character that stands for a mark between the parts of an address. -/
inductive Fault where
  | bracket
  | hiddenMark (authority : List Char)
  deriving DecidableEq, Repr

/-- The wording of a fault. -/
def Fault.message : Fault → String
  | bracket => "Invalid IPv6 URL"
  | hiddenMark authority =>
    "netloc '" ++ String.ofList authority ++ "' contains invalid characters under NFKC normalization"

/-- The characters that stand for several characters with a mark among them. -/
def hidesMark (c : Char) : Bool :=
  [0x2047, 0x2048, 0x2049, 0x2100, 0x2101, 0x2105, 0x2106, 0x2A74, 0xFE13, 0xFE16, 0xFE55, 0xFE56,
    0xFE5F, 0xFE6B, 0xFF03, 0xFF0F, 0xFF1A, 0xFF1F, 0xFF20].contains c.toNat

/-- An authority, if it can be one. -/
def checked (authority : List Char) : Except Fault (List Char) :=
  if authority.contains '[' != authority.contains ']' then .error .bracket
  else if authority.any hidesMark then .error (.hiddenMark authority)
  else .ok authority

/-- The parts of an address. Control characters and blanks before it, and line
    ends and tabs in it, do not count. -/
def parse (text : String) : Except Fault Address := do
  let cs := (text.toList.dropWhile fun c => c.toNat ≤ 32).filter fun c =>
    c != '\t' && c != '\n' && c != '\r'
  let (scheme, cs) := (scheme? cs).getD ([], cs)
  let (authority, cs) := match cs with
    | '/' :: '/' :: rest =>
      let isEnd (c : Char) : Bool := c == '/' || c == '?' || c == '#'
      (rest.takeWhile (!isEnd ·), rest.dropWhile (!isEnd ·))
    | _ => ([], cs)
  let authority ← checked authority
  let (cs, fragment) := cut '#' cs
  let (path, query) := cut '?' cs
  return ⟨scheme, authority, path, query, fragment⟩

/-- Whether addresses with a scheme can be joined. -/
def isHierarchic (scheme : List Char) : Bool :=
  ["", "ftp", "http", "gopher", "nntp", "imap", "wais", "file", "https", "shttp", "mms", "prospero",
    "rtsp", "rtspu", "sftp", "svn", "svn+ssh", "ws", "wss"].contains (String.ofList scheme)

/-- Whether addresses with a scheme have an authority, even if it is empty. -/
def hasAuthority (scheme : List Char) : Bool :=
  (!scheme.isEmpty && isHierarchic scheme) ||
    ["telnet", "snews", "rsync", "nfs", "git", "git+ssh"].contains (String.ofList scheme)

/-- An address from its parts; a part that is empty is left out. -/
def text (a : Address) : String :=
  let marked := !a.authority.isEmpty || (hasAuthority a.scheme && a.path.take 2 != ['/', '/'])
  let path := if marked && !a.path.isEmpty && a.path.head? != some '/' then '/' :: a.path else a.path
  String.ofList <|
    (if a.scheme.isEmpty then [] else a.scheme ++ [':']) ++
    (if marked then '/' :: '/' :: a.authority else []) ++
    path ++
    (if a.query.isEmpty then [] else '?' :: a.query) ++
    (if a.fragment.isEmpty then [] else '#' :: a.fragment)

/-- An address in the form in which it is looked up. -/
def normalized (text : String) : Except Fault String := (parse text).map Address.text

/-- Path segments with those removed that are a dot, or are taken back by two
    dots; `kept` is in reverse. -/
def withoutDots (kept : List (List Char)) : List (List Char) → List (List Char)
  | [] => kept.reverse
  | seg :: rest =>
    if seg == ['.', '.'] then withoutDots (kept.drop 1) rest
    else if seg == ['.'] then withoutDots kept rest
    else withoutDots (seg :: kept) rest

/-- Segments without the empty ones that are neither first nor last. -/
def withoutGaps : List (List Char) → List (List Char)
  | [] => []
  | first :: rest =>
    match rest.getLast? with
    | none => [first]
    | some last => first :: (rest.dropLast.filter (!·.isEmpty) ++ [last])

/-- A path relative to another one. -/
def joinPath (base path : List Char) : List Char :=
  let segments := if path.head? == some '/' then Text.splitOn '/' path
    else
      let before := Text.splitOn '/' base
      withoutGaps ((if before.getLast? == some [] then before else before.dropLast) ++
        Text.splitOn '/' path)
  let ending := match segments.getLast? with
    | some last => if last == ['.'] || last == ['.', '.'] then [[]] else []
    | none => []
  let joined := Text.joinWith ['/'] (withoutDots [] segments ++ ending)
  if joined.isEmpty then ['/'] else joined

/-- Whether paths of addresses with a scheme can have parameters. -/
def hasParameters (scheme : List Char) : Bool :=
  ["", "ftp", "hdl", "prospero", "http", "imap", "https", "shttp", "rtsp", "rtspu", "sip", "sips",
    "mms", "sftp", "tel"].contains (String.ofList scheme)

/-- The path of an address without the parameters of its last segment, and the parameters. -/
def withoutParameters (a : Address) : List Char × List Char :=
  if hasParameters a.scheme then
    let last := (a.path.reverse.takeWhile (· != '/')).reverse
    let (name, parameters) := cut ';' last
    (a.path.take (a.path.length - last.length) ++ name, parameters)
  else (a.path, [])

/-- An address with a path and parameters. -/
def withParameters (a : Address) (path parameters : List Char) : Address :=
  { a with path := if parameters.isEmpty then path else path ++ ';' :: parameters }

/-- An address without its fragment, and the fragment. -/
def split (text : String) : Except Fault (String × List Char) :=
  if text.toList.contains '#' then
    (parse text).map fun a =>
      let (path, parameters) := a.withoutParameters
      ((({ a with fragment := [] } : Address).withParameters path parameters).text, a.fragment)
  else .ok (text, [])

/-- An address relative to another. -/
def join (base relative : String) : Except Fault String := do
  if base.isEmpty then return relative
  if relative.isEmpty then return base
  let b ← parse base
  let r ← parse relative
  let r := if r.scheme.isEmpty then { r with scheme := b.scheme } else r
  -- Only addresses of one scheme are joined, and only where the scheme knows relative ones.
  if r.scheme != b.scheme || !isHierarchic r.scheme then return relative
  let (path, parameters) := r.withoutParameters
  if !r.authority.isEmpty then return (r.withParameters path parameters).text
  let r := { r with authority := b.authority }
  -- What has no path stays where the base is.
  if path.isEmpty && parameters.isEmpty then
    let query := if r.query.isEmpty then b.query else r.query
    let (path, parameters) := b.withoutParameters
    return ({ r with query := query } : Address).withParameters path parameters |>.text
  let (before, _) := b.withoutParameters
  return (r.withParameters (joinPath before path) parameters).text

/-- The bytes of a text in which a byte can be written as a percent sign and two
    hexadecimal digits. -/
def unquotedBytes : List Char → List Nat
  | '%' :: a :: b :: rest =>
    match Text.hexValue? a, Text.hexValue? b with
    | some x, some y => (x * 16 + y) :: unquotedBytes rest
    | _, _ => 37 :: unquotedBytes (a :: b :: rest)
  | c :: rest => Utf8.encodeChar c ++ unquotedBytes rest
  | [] => []

/-- A text with its escapes of bytes undone. -/
def unquoted (cs : List Char) : List Char := Utf8.decodeLossy (unquotedBytes cs)

end Address

end Annals
