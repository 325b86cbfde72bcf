import Annals.Number.Notation
import Annals.Pattern.Fault
import Annals.Pattern.LetterCase
import Annals.Text.Identifier
import Annals.Text.Quoted

/-!
# Reading Patterns

The written form of patterns, with groups, names for groups, options that hold
for a part, and comments. A text that is no pattern is refused: an escape that
means nothing, a repetition of nothing, a group that is not closed, a reference
to a group that is not there or is still open, a part without fixed width where
it looks behind.

A text is read sign by sign, where a backslash and the character after it are one
sign. The next sign is always known, so a backslash that ends the text is found
before anything else that is wrong with the sign before it.

Options for the whole pattern can stand at its start only, so they are taken
off first; inside, an option group changes what the characters in it mean.

## Main definitions

* `Pattern.Options`: What holds for a part of a pattern.
* `Pattern.read`: The pattern that a text is.
-/

namespace Annals

namespace Pattern

/-- What holds for a part of a pattern: letters match in any case, line marks
    match at every line, the dot matches line ends, blanks and comments are
    skipped, classes hold ASCII only; the number of groups around it, and the length
    of the whole text. -/
structure Options where
  anyCase : Bool
  lines : Bool
  lineEnds : Bool
  spaced : Bool
  ascii : Bool
  depth : Nat
  length : Nat
  deriving DecidableEq, Repr

/-- How many groups can be inside each other. -/
def maxDepth : Nat := 485

namespace Options

/-- The options at the start of a text of some length. -/
def start (length : Nat) : Options := ⟨false, false, false, false, false, 0, length⟩

/-- The options in one more group. -/
def deeper (o : Options) : Except Fault Options :=
  if maxDepth ≤ o.depth then .error .nested else .ok { o with depth := o.depth + 1 }

/-- How letters are compared. -/
def caseRule (o : Options) : CaseRule :=
  if !o.anyCase then .exact else if o.ascii then .ascii else .every

/-- Something is wrong at the place that `left` characters follow, which is found where
    `rest` follows. -/
def flaw {α : Type} (o : Options) (what : String) (rest : List Char) (left : Nat) : Except Fault α :=
  .error (if rest == ['\\'] then .malformed "bad escape (end of pattern)" (o.length - 1)
    else .malformed what (o.length - left))

end Options

/-- The groups that were met: how many, their names, the widths of the closed ones, the
    number of groups that there were where the part that looks behind began, the groups
    that conditions ask for, each with the number of characters that follow there, and
    whether a part that looks behind has no fixed width. -/
structure Groups where
  count : Nat
  names : List (String × Nat)
  widths : List (Nat × Nat × Nat)
  behind : Option Nat
  conditions : List (Nat × Nat)
  isUneven : Bool
  deriving Repr

namespace Groups

/-- No groups. -/
def start : Groups := ⟨1, [], [], none, [], false⟩

/-- Whether a group is closed. -/
def isClosed (g : Groups) (number : Nat) : Bool := g.widths.any fun w => w.1 == number

/-- Nothing, if a part that looks behind can refer to a group: one that was closed
    before it. -/
def allows (g : Groups) (o : Options) (number : Nat) (rest : List Char) : Except Fault Unit :=
  match g.behind with
  | none => .ok ()
  | some first =>
    if !g.isClosed number then o.flaw "cannot refer to an open group" rest rest.length
    else if first ≤ number then
      o.flaw "cannot refer to group defined in the same lookbehind subpattern" rest rest.length
    else .ok ()

end Groups

/-- What a repetition may not follow: a place, or another repetition. -/
inductive Shape where
  | place
  | repeated
  | plain
  deriving DecidableEq, Repr

/-- The first sign of a text, and what follows. -/
def sign : List Char → List Char × List Char
  | '\\' :: c :: rest => (['\\', c], rest)
  | c :: rest => ([c], rest)
  | [] => ([], [])

/-- Whether a text ends with a backslash that no character goes with. -/
def endsOpen : List Char → Bool
  | [] => false
  | ['\\'] => true
  | '\\' :: _ :: rest => endsOpen rest
  | _ :: rest => endsOpen rest

/-- The signs up to a closing mark, and what follows it. -/
def until? (closing : Char) : List Char → Option (List Char × List Char)
  | [] => none
  | '\\' :: c :: rest => (until? closing rest).map fun (found, after) => ('\\' :: c :: found, after)
  | c :: rest =>
    if c == closing then some ([], rest)
    else (until? closing rest).map fun (found, after) => (c :: found, after)

/-- A name up to a closing mark, and what follows it; `kind` is what it is a name of. -/
def name (o : Options) (closing : Char) (kind : String) (cs : List Char) :
    Except Fault (List Char × List Char) :=
  match until? closing cs with
  | none =>
    if endsOpen cs then o.flaw "" ['\\'] 0
    else if cs.isEmpty then o.flaw ("missing " ++ kind) [] 0
    else o.flaw ("missing " ++ closing.toString ++ ", unterminated name") [] cs.length
  | some ([], rest) => o.flaw ("missing " ++ kind) rest (rest.length + 1)
  | some found => .ok found

/-- A name in messages. -/
def shown (name : List Char) : String := Text.quoted (String.ofList name)

/-- Whether a character is a digit below eight. -/
def isOctal (c : Char) : Bool := '0' ≤ c && c ≤ '7'

/-- The value of octal digits. -/
def octalValue (cs : List Char) : Nat := cs.foldl (fun v c => v * 8 + (c.toNat - 48)) 0

/-- The class that a letter after a backslash stands for. -/
def classOf? (o : Options) (c : Char) : Option CharClass :=
  match c with
  | 'd' => some ⟨.digit, false, o.ascii⟩
  | 'D' => some ⟨.digit, true, o.ascii⟩
  | 's' => some ⟨.space, false, o.ascii⟩
  | 'S' => some ⟨.space, true, o.ascii⟩
  | 'w' => some ⟨.word, false, o.ascii⟩
  | 'W' => some ⟨.word, true, o.ascii⟩
  | _ => none

/-- The control character that a letter after a backslash stands for. -/
def controlOf? (c : Char) : Option Char :=
  match c with
  | 'a' => some '\x07'
  | 'f' => some '\x0c'
  | 'n' => some '\n'
  | 'r' => some '\r'
  | 't' => some '\t'
  | 'v' => some '\x0b'
  | '\\' => some '\\'
  | _ => none

/-- The last code point. -/
def lastCode : Nat := 0x10ffff

/-- An escape that means nothing; `escape` is what of it was read after the backslash. -/
def badEscape {α : Type} (o : Options) (what : String) (escape rest : List Char) : Except Fault α :=
  o.flaw (what ++ String.ofList ('\\' :: escape)) rest (rest.length + escape.length + 1)

/-- A code point that is given by its number, from the letter after the backslash on. It
    need not be that of a character. -/
def numberedCode (o : Options) (letter : Char) (digits : Nat) (rest : List Char) :
    Except Fault (Nat × List Char) :=
  let found := (rest.take digits).takeWhile Text.isHexDigit
  let after := rest.drop found.length
  let n := Text.hexNumber found
  if found.length < digits then badEscape o "incomplete escape " (letter :: found) after
  else if lastCode < n then badEscape o "bad escape " (letter :: found) after
  else .ok (n, after)

/-- A character that is given by its name, from the brace on. No name is known. -/
def namedCode (o : Options) (rest : List Char) : Except Fault (Nat × List Char) :=
  match rest with
  | '\x7b' :: rest => do
    let (found, after) ← name o '\x7d' "character name" rest
    o.flaw ("undefined character name " ++ shown found) after (rest.length + 3)
  | rest => o.flaw "missing \x7b" rest rest.length

/-- The code point that an escape stands for, after the backslash, where it is neither a
    class nor a reference. -/
def escapedCode (o : Options) (cs : List Char) : Except Fault (Nat × List Char) :=
  match cs with
  | [] => o.flaw "" ['\\'] 0
  | c :: rest =>
    match controlOf? c, c with
    | some d, _ => .ok (d.toNat, rest)
    | none, 'x' => numberedCode o c 2 rest
    | none, 'u' => numberedCode o c 4 rest
    | none, 'U' => numberedCode o c 8 rest
    | none, 'N' => namedCode o rest
    | none, c =>
      if isOctal c then
        let digits := c :: (rest.take 2).takeWhile isOctal
        let after := rest.drop (digits.length - 1)
        if octalValue digits ≤ 255 then .ok (octalValue digits, after)
        else octalFlaw o digits after
      -- Letters and digits are kept for escapes that have a meaning; other characters stand for
      -- themselves.
      else if c.isAlphanum then badEscape o "bad escape " [c] rest
      else .ok (c.toNat, rest)
where
  /-- An octal number that is too large. -/
  octalFlaw (o : Options) (digits after : List Char) : Except Fault (Nat × List Char) :=
    o.flaw ("octal escape value " ++ String.ofList ('\\' :: digits) ++ " outside of range 0-0o377")
      after (after.length + digits.length + 1)

/-- One member of a set, before a range is looked for. -/
def setStart (o : Options) (cs : List Char) : Except Fault (Member × List Char) :=
  match cs with
  | '\\' :: 'b' :: rest => .ok (.char 8, rest)
  | '\\' :: c :: rest =>
    match classOf? o c with
    | some k => .ok (.class k, rest)
    | none => do
      let (n, rest) ← escapedCode o (c :: rest)
      return (.char n, rest)
  | ['\\'] => o.flaw "" ['\\'] 0
  | c :: rest => .ok (.char c.toNat, rest)
  | [] => o.flaw "" [] 0

/-- The wording for a range that is none; its ends are the signs that begin them. -/
def badRange (low high : List Char) : String :=
  "bad character range " ++ String.ofList (low ++ ['-'] ++ high)

/-- The range between two members, which begin with the signs `low` and `high`. -/
def rangeOf (o : Options) (low high : List Char) (m n : Member) (rest : List Char) :
    Except Fault Member :=
  let flaw := o.flaw (badRange low high) rest (rest.length + low.length + 1 + high.length)
  match m, n with
  | .char a, .char b => if a ≤ b then .ok (.range a b) else flaw
  | _, _ => flaw

/-- The members of a set up to its closing bracket, with those before it in
    reverse, and what follows. A bracket that would leave the set empty is a
    member. From the opening bracket on there are `left` characters. -/
def setMembers (o : Options) (left : Nat) : (fuel : Nat) → List Member → List Char →
    Except Fault (List Member × List Char)
  | 0, _, _ => unterminated
  | fuel + 1, members, cs =>
    match cs with
    | [] => unterminated
    | c :: rest =>
      if c == ']' && !members.isEmpty then .ok (members.reverse, rest)
      else do
        let (m, rest) ← setStart o cs
        match rest with
        | ['-'] => unterminated
        -- A hyphen at the end is a member, since no range can follow it.
        | '-' :: ']' :: rest => return ((.char '-'.toNat :: m :: members).reverse, rest)
        | '-' :: rest =>
          let (n, after) ← setStart o rest
          let range ← rangeOf o (sign cs).1 (sign rest).1 m n after
          setMembers o left fuel (range :: members) after
        | rest => setMembers o left fuel (m :: members) rest
where
  /-- A set that is not closed. -/
  unterminated : Except Fault (List Member × List Char) := o.flaw "unterminated character set" [] left

/-- The bounds in braces after the opening one, and what follows. -/
def bounds? (cs : List Char) : Option ((List Char × List Char) × List Char) :=
  let low := cs.takeWhile Text.isAsciiDigit
  let rest := cs.drop low.length
  let (high, rest) := match rest with
    | ',' :: rest =>
      let high := rest.takeWhile Text.isAsciiDigit
      (high, rest.drop high.length)
    | _ => (low, rest)
  match rest with
  | '\x7d' :: rest => some ((low, high), rest)
  | _ => none

/-- The number of repetitions that digits write. -/
def count (digits : List Char) : Except Fault Nat :=
  if maxDigits < digits.length then .error (.longCount digits.length)
  else
    let n := Text.decimalValue digits
    if Expr.unbounded ≤ n then .error .largeCount else .ok n

/-- The least and the greatest number of repetitions that bounds write, which begin where
    `left` characters follow. -/
def countsOf (o : Options) (left : Nat) (low high rest : List Char) :
    Except Fault (Nat × Option Nat) := do
  if rest == ['\\'] then o.flaw "" rest 0
  let least ← count low
  if high.isEmpty then return (least, none)
  let most ← count high
  if most < least then o.flaw "min repeat greater than max repeat" rest left
  return (least, some most)

/-- How often a repetition mark asks for what is before it, and what follows the mark;
    none if the text starts with no such mark. -/
def quantifier? (o : Options) (cs : List Char) :
    Option (Except Fault (Nat × Option Nat) × List Char) :=
  match cs with
  | '?' :: rest => some (.ok (0, some 1), rest)
  | '*' :: rest => some (.ok (0, none), rest)
  | '+' :: rest => some (.ok (1, none), rest)
  | '\x7b' :: '\x7d' :: _ => none
  | '\x7b' :: rest =>
    (bounds? rest).map fun ((low, high), after) => (countsOf o rest.length low high after, after)
  | _ => none

/-- Whether a character is the letter of an option. -/
def isOption (c : Char) : Bool := ['i', 'L', 'm', 's', 'x', 'a', 't', 'u'].contains c

/-- Whether letters ask for ASCII only and for all scripts. -/
def asksForBoth (letters : List Char) : Bool := letters.contains 'a' && letters.contains 'u'

/-- Options with those of some letters on or off. -/
def Options.set (o : Options) (letters : List Char) (on : Bool) : Options :=
  letters.foldl (fun o c => match c with
    | 'i' => { o with anyCase := on }
    | 'm' => { o with lines := on }
    | 's' => { o with lineEnds := on }
    | 'x' => { o with spaced := on }
    | 'a' => { o with ascii := on }
    | 'u' => { o with ascii := false }
    | _ => o) o

/-- A sign that stands where an option or one of some marks was expected. -/
def wrongOption {α : Type} (o : Options) (missing : String) (cs : List Char) : Except Fault α :=
  match cs with
  | [] => o.flaw missing [] 0
  | c :: _ =>
    let isLetter := c != '_' && Text.startsIdentifier c
    o.flaw (if isLetter then "unknown flag" else missing) (if cs == ['\\'] then cs else (sign cs).2)
      cs.length

/-- The letters that turn options on, after those before, the mark that follows them, and
    what follows the mark. -/
def onLetters (o : Options) (before : List Char) :
    List Char → Except Fault (List Char × Char × List Char)
  | [] => wrongOption o missing []
  | c :: rest =>
    if [')', '-', ':'].contains c && !before.isEmpty then .ok (before, c, rest)
    else if !isOption c then wrongOption o missing (c :: rest)
    else if c == 'L' then
      o.flaw "bad inline flags: cannot use 'L' flag with a str pattern" rest rest.length
    else if asksForBoth (before ++ [c]) then
      o.flaw "bad inline flags: flags 'a', 'u' and 'L' are incompatible" rest rest.length
    else onLetters o (before ++ [c]) rest
where
  /-- The wording if no letter and no mark follows. -/
  missing : String := "missing -, : or )"

/-- The letters that turn options off, after those before, and what follows the colon. -/
def offLetters (o : Options) (before : List Char) :
    List Char → Except Fault (List Char × List Char)
  | [] => wrongOption o (missing before) []
  | c :: rest =>
    if c == ':' && !before.isEmpty then .ok (before, rest)
    else if !isOption c then wrongOption o (missing before) (c :: rest)
    else if ['a', 'u', 'L'].contains c then
      o.flaw "bad inline flags: cannot turn off flags 'a', 'u' and 'L'" rest rest.length
    else offLetters o (before ++ [c]) rest
where
  /-- The wording if no letter and no colon follows. -/
  missing (before : List Char) : String := if before.isEmpty then "missing flag" else "missing :"

/-- Options for a part, after the question mark of its group: the options, and what
    follows the colon. The group begins where `left` characters follow. -/
def localOptions (o : Options) (left : Nat) (cs : List Char) : Except Fault (Options × List Char) := do
  let (on, mark, rest) ← if cs.head? == some '-' then .ok ([], '-', cs.drop 1) else onLetters o [] cs
  if mark == ')' then o.flaw "global flags not at the start of the expression" rest left
  if on.contains 't' then
    o.flaw "bad inline flags: cannot turn on global flag" rest (rest.length + 1)
  if mark == ':' then return (o.set on true, rest)
  let (off, rest) ← offLetters o [] rest
  if off.contains 't' then
    o.flaw "bad inline flags: cannot turn off global flag" rest (rest.length + 1)
  if on.any off.contains then
    o.flaw "bad inline flags: flag turned on and off" rest (rest.length + 1)
  return ((o.set on true).set off false, rest)

/-- Text without the blanks and comments at its start. A comment goes on to a line end
    that is behind no backslash, and a backslash that ends the text stays. -/
def skipSpaces : (inComment : Bool) → List Char → List Char
  | _, [] => []
  | true, ['\\'] => ['\\']
  | true, '\\' :: _ :: rest => skipSpaces true rest
  | true, c :: rest => skipSpaces (c != '\n') rest
  | false, c :: rest =>
    if c == '#' then skipSpaces true rest
    else if [' ', '\t', '\n', '\r', '\x0b', '\x0c'].contains c then skipSpaces false rest
    else c :: rest

/-- The letters of options for the whole pattern, after those before, and what follows
    them. Where something is wrong, they end. -/
def globalLetters : (fuel : Nat) → List Char → List Char → List Char × List Char
  | 0, letters, cs => (letters, cs)
  | fuel + 1, letters, cs =>
    match if letters.contains 'x' then skipSpaces false cs else cs with
    | '(' :: '?' :: '#' :: rest =>
      match until? ')' rest with
      | some (_, rest) => globalLetters fuel letters rest
      | none => (letters, cs)
    | '(' :: '?' :: rest =>
      match onLetters (.start 0) [] rest with
      | .ok (on, ')', rest) => globalLetters fuel (letters ++ on) rest
      | _ => (letters, cs)
    | _ => (letters, cs)

/-- The set that a class is. -/
def ofClass (k : CharClass) : Expr := .set false [.class k] .exact

/-- A part and what follows it. -/
abbrev Part := Expr × Shape × List Char

/-- A reference to the group with the number that digits after a backslash write. -/
def reference (o : Options) (g : Groups) (digits rest : List Char) : Except Fault Part := do
  let n := Text.decimalValue digits
  let left := rest.length + digits.length
  if g.count ≤ n then o.flaw ("invalid group reference " ++ toString n) rest left
  if !g.isClosed n then o.flaw "cannot refer to an open group" rest (left + 1)
  g.allows o n rest
  return (.backReference n o.caseRule, .plain, rest)

/-- What digits after a backslash stand for: three octal ones for a character, others for
    a group. -/
def numeric (o : Options) (g : Groups) (c : Char) (rest : List Char) : Except Fault Part :=
  match rest with
  | d :: e :: rest' =>
    if isOctal c && isOctal d && isOctal e then do
      let (n, rest) ← escapedCode o (c :: d :: e :: rest')
      return (literal o.caseRule n, .plain, rest)
    else if Text.isAsciiDigit d then reference o g [c, d] (e :: rest')
    else reference o g [c] rest
  | [d] => if Text.isAsciiDigit d then reference o g [c, d] [] else reference o g [c] rest
  | [] => reference o g [c] []

/-- What an escape outside of sets stands for, after the backslash. -/
def escape (o : Options) (g : Groups) (cs : List Char) : Except Fault Part :=
  match cs with
  | 'A' :: rest => .ok (.place .start, .place, rest)
  | 'Z' :: rest => .ok (.place (.stop false), .place, rest)
  | 'b' :: rest => .ok (.place (.wordEdge false o.ascii), .place, rest)
  | 'B' :: rest => .ok (.place (.wordEdge true o.ascii), .place, rest)
  | '0' :: rest =>
    let digits := (rest.take 2).takeWhile isOctal
    .ok (literal o.caseRule (octalValue digits), .plain, rest.drop digits.length)
  | c :: rest =>
    match classOf? o c with
    | some k => .ok (ofClass k, .plain, rest)
    | none =>
      if Text.isAsciiDigit c then numeric o g c rest
      else do
        let (n, rest) ← escapedCode o (c :: rest)
        return (literal o.caseRule n, .plain, rest)
  | [] => o.flaw "" ['\\'] 0

/-- The opening of a group without a name. -/
def Groups.opened (g : Groups) : Nat × Groups := (g.count, { g with count := g.count + 1 })

/-- The opening of a group with a name that no group has. -/
def Groups.openedAs (g : Groups) (o : Options) (name rest : List Char) :
    Except Fault (Nat × Groups) :=
  let s := String.ofList name
  match g.names.lookup s with
  | some n =>
    o.flaw ("redefinition of group name " ++ shown name ++ " as group " ++ toString g.count ++
      "; was group " ++ toString n) rest (rest.length + name.length + 1)
  | none => .ok (g.count, { g with count := g.count + 1, names := (s, g.count) :: g.names })

/-- Parts one after another. -/
def sequenceOf (items : List (Expr × Shape)) : Expr :=
  items.foldl (fun e item => match e with
    | .empty => item.1
    | e => .seq item.1 e) .empty

/-- A pattern that is read, the groups that were met by then, and what follows. -/
abbrev Reading := Except Fault (Expr × Groups × List Char)

/-- A group that is not closed. It begins where `left` characters follow. -/
def unclosed {α : Type} (o : Options) (left : Nat) (rest : List Char) : Except Fault α :=
  o.flaw "missing ), unterminated subpattern" rest left

/-- What was read, with the closing parenthesis after it. -/
def closed (o : Options) (left : Nat) (parsed : Reading) : Reading := do
  let (e, g, rest) ← parsed
  match rest with
  | ')' :: rest => return (e, g, rest)
  | _ => unclosed o left rest

/-- A group with a number. -/
def numbered (n : Nat) (parsed : Reading) : Reading := do
  let (e, g, rest) ← parsed
  return (.group n e, { g with widths := (n, e.widths g.widths) :: g.widths }, rest)

/-- Groups inside a part that looks behind. -/
def Groups.lookingBehind (g : Groups) : Groups :=
  { g with behind := some (g.behind.getD g.count) }

/-- A part that looks behind; `outer` says whether it stands in another one. -/
def behind (negated : Bool) (outer : Option Nat) (parsed : Reading) : Reading := do
  let (e, g, rest) ← parsed
  let (least, most) := e.widths g.widths
  let g := { g with behind := outer, isUneven := g.isUneven || least != most }
  return (.lookBehind negated least e, g, rest)

/-- A name of a group, if it is an identifier. -/
def checkName (o : Options) (name rest : List Char) : Except Fault Unit :=
  if Text.isIdentifier name then .ok ()
  else o.flaw ("bad character in group name " ++ shown name) rest (rest.length + name.length + 1)

/-- The number of the group with a name. -/
def named (o : Options) (g : Groups) (name rest : List Char) : Except Fault Nat :=
  match g.names.lookup (String.ofList name) with
  | some n => .ok n
  | none => o.flaw ("unknown group name " ++ shown name) rest (rest.length + name.length + 1)

/-- No group has a number as large as this. -/
def maxGroups : Nat := 1073741823

/-- The number of the group that a condition asks for: by its name, or by a number that
    can be written like any integer. -/
def conditionOf (o : Options) (g : Groups) (name rest : List Char) : Except Fault Nat :=
  let left := rest.length + name.length + 1
  if Text.isIdentifier name then named o g name rest
  else
    let n := if maxDigits < Notation.digitCount name then none else Notation.grouped? name
    match n with
    | some (.ofNat 0) => o.flaw "bad group number" rest left
    | some (.ofNat n) =>
      if maxGroups ≤ n then o.flaw ("invalid group reference " ++ toString n) rest left else .ok n
    | _ => o.flaw ("bad character in group name " ++ shown name) rest left

/-- What no group can begin with; the sign that is wrong comes after `before`. -/
def unknownExtension {α : Type} (o : Options) (before : String) (cs : List Char) : Except Fault α :=
  let (c, rest) := sign cs
  if cs.isEmpty then o.flaw "unexpected end of pattern" [] 0
  else if cs == ['\\'] then o.flaw "" cs 0
  else o.flaw ("unknown extension " ++ before ++ String.ofList c) rest (cs.length + before.length)

mutual

/-- Alternatives up to the end or a closing parenthesis, and what follows. -/
def alternatives (o : Options) : (fuel : Nat) → Groups → List Char → Reading
  | 0, _, _ => .error .nested
  | fuel + 1, g, cs => do
    let (e, g, rest) ← sequence o fuel g [] cs
    match rest with
    | '|' :: rest =>
      let (f, g, rest) ← alternatives o fuel g rest
      return (.alt e f, g, rest)
    | _ => return (e, g, rest)

/-- Parts up to the end, a bar or a closing parenthesis, with those before in
    reverse, and what follows. -/
def sequence (o : Options) : (fuel : Nat) → Groups → List (Expr × Shape) → List Char → Reading
  | 0, _, _, _ => .error .nested
  | fuel + 1, g, items, cs =>
    let cs := if o.spaced then skipSpaces false cs else cs
    match quantifier? o cs with
    | some (counts, rest) => do
      let (least, most) ← counts
      -- A place cannot be repeated, nor what is a repetition already.
      match items with
      | (e, .plain) :: items =>
        let (greed, rest) : Greed × List Char := match rest with
          | '?' :: rest => (.least, rest)
          | '+' :: rest => (.only, rest)
          | _ => (.most, rest)
        sequence o fuel g ((.repeat e least most greed, .repeated) :: items) rest
      | (_, .repeated) :: _ => o.flaw "multiple repeat" rest cs.length
      | _ => o.flaw "nothing to repeat" rest cs.length
    | none =>
      match cs with
      | [] => .ok (sequenceOf items, g, [])
      | ')' :: _ => .ok (sequenceOf items, g, cs)
      | '|' :: _ => .ok (sequenceOf items, g, cs)
      | '\\' :: rest => do
        let (e, shape, rest) ← escape o g rest
        sequence o fuel g ((e, shape) :: items) rest
      | '.' :: rest => sequence o fuel g ((.any o.lineEnds, .plain) :: items) rest
      | '^' :: rest =>
        sequence o fuel g ((.place (if o.lines then .lineStart else .start), .place) :: items) rest
      | '$' :: rest =>
        sequence o fuel g
          ((.place (if o.lines then .lineEnd else .stop true), .place) :: items) rest
      | '[' :: rest => do
        let (negated, rest) := match rest with
          | '^' :: rest => (true, rest)
          | _ => (false, rest)
        let (members, rest) ← setMembers o cs.length (rest.length + 1) [] rest
        sequence o fuel g ((setOf o.caseRule negated members, .plain) :: items) rest
      -- A comment leaves no part.
      | '(' :: '?' :: '#' :: rest =>
        match until? ')' rest with
        | some (_, rest) => sequence o fuel g items rest
        | none =>
          o.flaw "missing ), unterminated comment" (if endsOpen rest then ['\\'] else []) cs.length
      | '(' :: rest => do
        let (e, g, rest) ← group o cs.length fuel g rest
        sequence o fuel g ((e, .plain) :: items) rest
      | c :: rest => sequence o fuel g ((literal o.caseRule c.toNat, .plain) :: items) rest

/-- A group, after its opening parenthesis, from which on there are `left` characters, and
    what follows its closing one. -/
def group (o : Options) (left : Nat) : (fuel : Nat) → Groups → List Char → Reading
  | 0, _, _ => .error .nested
  | fuel + 1, g, cs => do
    let inner ← o.deeper
    match cs with
    | '?' :: 'P' :: '<' :: rest =>
      let (name, rest) ← name o '>' "group name" rest
      checkName o name rest
      let (n, g) ← g.openedAs o name rest
      numbered n (closed o left (alternatives inner fuel g rest))
    | '?' :: 'P' :: '=' :: rest =>
      let (name, rest) ← name o ')' "group name" rest
      checkName o name rest
      let n ← named o g name rest
      if !g.isClosed n then
        o.flaw "cannot refer to an open group" rest (rest.length + name.length + 1)
      g.allows o n rest
      return (.backReference n o.caseRule, g, rest)
    | '?' :: 'P' :: rest => unknownExtension o "?P" rest
    | '?' :: ':' :: rest => closed o left (alternatives inner fuel g rest)
    | '?' :: '>' :: rest =>
      let (e, g, rest) ← closed o left (alternatives inner fuel g rest)
      return (.atomic e, g, rest)
    | '?' :: '=' :: rest =>
      let (e, g, rest) ← closed o left (alternatives inner fuel g rest)
      return (.look false e, g, rest)
    | '?' :: '!' :: rest =>
      let (e, g, rest) ← closed o left (alternatives inner fuel g rest)
      return (.look true e, g, rest)
    | '?' :: '<' :: '=' :: rest =>
      behind false g.behind (closed o left (alternatives inner fuel g.lookingBehind rest))
    | '?' :: '<' :: '!' :: rest =>
      behind true g.behind (closed o left (alternatives inner fuel g.lookingBehind rest))
    | '?' :: '<' :: rest => unknownExtension o "?<" rest
    | '?' :: '(' :: rest =>
      let (name, rest) ← name o ')' "group name" rest
      let n ← conditionOf o g name rest
      let place := rest.length + name.length + 1
      -- A number may belong to a group that is opened later, so it is looked into at the end.
      let g := if Text.isIdentifier name then g
        else { g with conditions := g.conditions ++ [(n, place)] }
      g.allows o n rest
      let (yes, g, rest) ← sequence inner fuel g [] rest
      match rest with
      | ')' :: rest => return (.conditional n yes .empty, g, rest)
      | '|' :: rest =>
        let (no, g, rest) ← sequence inner fuel g [] rest
        match rest with
        | ')' :: rest => return (.conditional n yes no, g, rest)
        | '|' :: _ =>
          o.flaw "conditional backref with more than two branches" rest rest.length
        | _ => unclosed o left rest
      | _ => unclosed o left rest
    | '?' :: rest =>
      if (rest.head?.map fun c => isOption c || c == '-').getD false then
        let (inner, rest) ← localOptions inner left rest
        closed o left (alternatives inner fuel g rest)
      else unknownExtension o "?" rest
    | _ =>
      let (n, g) := g.opened
      numbered n (closed o left (alternatives inner fuel g cs))

end

/-- Nothing, if conditions ask for groups that are there. -/
def checkConditions (o : Options) (g : Groups) : Except Fault Unit :=
  match g.conditions.find? fun c => g.count ≤ c.1 with
  | some (n, left) => o.flaw ("invalid group reference " ++ toString n) [] left
  | none => .ok ()

/-- The wording for a repetition that options do not admit. -/
def Greed.refusal (greed : Greed) : String :=
  "internal: unsupported template operator " ++
    match greed with
    | .most => "MAX_REPEAT"
    | .least => "MIN_REPEAT"
    | .only => "POSSESSIVE_REPEAT"

/-- The pattern that a text is. -/
def read (text : String) : Except Fault Expr := do
  let cs := text.toList
  let (letters, rest) := globalLetters (cs.length + 1) [] cs
  let o := (Options.start cs.length).set letters true
  let (e, g, rest) ← alternatives o (3 * rest.length + 3) .start rest
  if asksForBoth letters then .error .twoScripts
  if !rest.isEmpty then o.flaw "unbalanced parenthesis" rest rest.length
  checkConditions o g
  if g.isUneven then .error (.unfit "look-behind requires fixed-width pattern")
  match if letters.contains 't' then e.firstRepeat? else none with
  | some greed => .error (.unfit greed.refusal)
  | none => return e

end Pattern

end Annals
