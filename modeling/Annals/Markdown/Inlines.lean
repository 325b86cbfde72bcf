import Annals.Markdown.Autolink
import Annals.Markdown.Emphasis
import Annals.Markdown.LinkParts
import Annals.Markdown.Line
import Annals.Markdown.RawHtml

/-!
# Text of a Paragraph

How the text of a paragraph or a heading is read from left to right. At every
place one of some kinds of parts may begin; where none does, the character stands
for itself. A link begins at a bracket only if the label that follows is closed
and a destination or a known label comes after it. Where a label is closed
depends on the parts inside of it, so they are looked at, without being kept,
before the link is known to be one.

Looking ahead again and again would take very long in a text with many brackets,
so what was seen is remembered: for each place where the part that begins there
ends. What is remembered is part of the outcome, for it is not forgotten at the
end of a label, although less of the text was looked at then.

## Main definitions

* `Inlines.Memory`: What is remembered.
* `Inlines.Found`: What was found at a place.
* `Inlines.found?`: The part that begins at a place, and where it ends.
* `Inlines.pieces`: The pieces of a text.
* `Inlines.read`: The parts of a text.
-/

namespace Annals

namespace Inlines

open Markdown

/-- A text, and the labels that are defined. -/
structure Source where
  chars : Array Char
  labels : List (List Char)

namespace Source

/-- The character at a place; beyond the end, a null character. -/
def char (s : Source) (pos : Nat) : Char := s.chars.getD pos (Char.ofNat 0)

/-- The text from one place up to another. -/
def slice (s : Source) (first stop : Nat) : List Char := (s.chars.extract first stop).toList

/-- The first place from `pos` on, below `stop`, whose character does not satisfy
    `p`. -/
def skip (s : Source) (p : Char → Bool) (pos stop : Nat) : Nat :=
  if pos < stop then if p (s.char pos) then s.skip p (pos + 1) stop else pos else pos
termination_by stop - pos

/-- Whether the label between two places is defined. -/
def defines (s : Source) (first stop : Nat) : Bool :=
  s.labels.contains (LinkParts.normalized (s.slice first stop))

end Source

/-- What is remembered: for places that were looked at, the place after the part
    there, or zero. -/
structure Memory where
  ends : Array Nat

/-- Nothing remembered of a text. -/
def Memory.fresh (s : Source) : Memory := ⟨Array.replicate (s.chars.size + 1) 0⟩

/-- What was found at a place. The text of a link or an image is given by its
    places. -/
inductive Found where
  | chars (cs : List Char)
  | lineEnd
  | part (part : Inline)
  | marks (count : Nat) (mark : Emphasis.Mark)
  | link (first stop : Nat)
  | image (first stop : Nat)

/-- A backquote. -/
def tick : Char := Char.ofNat 96

/-- The characters at which something other than plain text may begin. -/
def isSign (c : Char) : Bool :=
  "!#$%&*+-:<=>@[\\]^_~\n".toList.contains c || c == tick || c.toNat == 123 || c.toNat == 125

/-- Whether `c` is a blank, a tab or a line end. -/
def isGap (c : Char) : Bool := isSpace c || c == '\n'

/-- How deep labels are looked into. -/
def maxLabels : Nat := 20

/-- A run of plain text. -/
def plain? (s : Source) (pos stop : Nat) : Option (Found × Nat) :=
  let next := s.skip (!isSign ·) pos stop
  if next == pos then none else some (.chars (s.slice pos next), next)

/-- A line end, with the blanks at the start of the next line. -/
def lineEnd? (s : Source) (pos stop : Nat) : Option (Found × Nat) :=
  if s.char pos == '\n' then some (.lineEnd, s.skip isSpace (pos + 1) stop) else none

/-- A backslash and what it stands before. -/
def escape? (s : Source) (pos stop : Nat) : Option (Found × Nat) :=
  if s.char pos == '\\' && pos + 1 < stop then
    let c := s.char (pos + 1)
    if c == '\n' then some (.part .hardBreak, s.skip isSpace (pos + 2) stop)
    else if Text.isAsciiPunctuation c then some (.part (.special (String.singleton c)), pos + 2)
    else some (.part (.special (String.ofList ['\\', c])), pos + 2)
  else none

/-- A code span without its marks: line ends are blanks, and one blank at each
    end does not count where there is anything else. -/
def codeText (cs : List Char) : List Char :=
  let cs := cs.map fun c => if c == '\n' then ' ' else c
  if cs.head? == some ' ' && cs.getLast? == some ' ' && !cs.all (· == ' ') then
    (cs.drop 1).dropLast
  else cs

/-- The next run of `length` backquotes from `pos` on: where it begins and ends. -/
def closingTicks? (s : Source) (length stop : Nat) : (fuel : Nat) → (pos : Nat) →
    Option (Nat × Nat)
  | 0, _ => none
  | fuel + 1, pos =>
    let first := s.skip (· != tick) pos s.chars.size
    if s.chars.size ≤ first then none
    else
      let last := s.skip (· == tick) (first + 1) stop
      if last - first == length then some (first, last)
      else closingTicks? s length stop fuel last

/-- A code span, or the backquotes that begin none. -/
def code? (s : Source) (pos stop : Nat) : Option (Found × Nat) :=
  if s.char pos == tick then
    let start := s.skip (· == tick) (pos + 1) stop
    let length := start - pos
    match closingTicks? s length stop (s.chars.size + 1) start with
    | some (first, next) =>
      some (.part (.code (String.ofList (codeText (s.slice start first)))), next)
    | none => some (.chars (List.replicate length tick), start)
  else none

/-- A run of marks for emphasis. -/
def marks? (s : Source) (pos stop : Nat) : Option (Found × Nat) :=
  let c := s.char pos
  if c == '*' || c == '_' then
    let next := s.skip (· == c) pos stop
    let before := if pos == 0 then ' ' else s.char (pos - 1)
    let after := if next < stop then s.char next else ' '
    some (.marks (next - pos) (.between c (next - pos) before after), next)
  else none

/-- An address in angle brackets. -/
def address? (s : Source) (pos stop : Nat) : Option (Found × Nat) :=
  if s.char pos == '<' then
    (Autolink.address? (s.slice (pos + 1) stop)).map fun (shown, length) =>
      (.part (.link [.text shown]), pos + length)
  else none

/-- Raw HTML. -/
def html? (s : Source) (pos stop : Nat) : Option (Found × Nat) :=
  let c := s.char (pos + 1)
  if s.char pos == '<' && pos + 2 < stop &&
      (c == '!' || c == '?' || c == '/' || Html.isAsciiLetter c) then
    (RawHtml.inlineLength? (s.slice pos s.chars.size)).map fun length =>
      (.part (.html (String.ofList (s.slice pos (pos + length)))), pos + length)
  else none

/-- A character that is written as a reference. -/
def reference? (s : Source) (pos stop : Nat) : Option (Found × Nat) :=
  if s.char pos == '&' && pos + 1 < stop then
    (Html.reference? 7 6 (s.slice pos s.chars.size)).map fun (cs, length) =>
      (.part (.special (String.ofList cs)), pos + length)
  else none

/-- How the destination of a link in parentheses was read. -/
inductive Target where
  | closed (next : Nat)
  | unclosed (stopped : Nat)
  | missing

/-- The place after a destination, if it is one and may be linked to; else the
    same place. -/
def afterDestination (s : Source) (pos stop : Nat) : Option Nat :=
  (LinkParts.destination? (s.slice pos stop)).map fun (target, rest) =>
    if LinkParts.isAllowedAsWritten target then stop - rest.length else pos

/-- The place after a title and the blanks around it, where a destination ends at
    `pos`. A title must stand apart from the destination. -/
def afterTitle (s : Source) (pos stop : Nat) : Nat :=
  let start := s.skip isGap pos stop
  if start < stop && pos != start then
    match LinkParts.title? (s.slice start stop) with
    | some (_, rest) => s.skip isGap (stop - rest.length) stop
    | none => start
  else start

/-- The destination in parentheses from `pos` on, the place of the opening one.
    There is no title without a destination. -/
def target (s : Source) (pos stop : Nat) : Target :=
  let start := s.skip isGap (pos + 1) stop
  if stop ≤ start then .missing
  else
    let stopped := match afterDestination s start stop with
      | some next => afterTitle s next stop
      | none => start
    if stopped < stop && s.char stopped == ')' then .closed (stopped + 1) else .unclosed stopped

mutual

/-- The part that begins at a place, where labels are looked into from `level`
    on. Marks for emphasis are parts only where `keeps`. -/
def found? : (fuel : Nat) → (s : Source) → (keeps : Bool) → (pos stop level : Nat) → Memory →
    Option (Found × Nat) × Memory
  | 0, _, _, _, _, _, m => (none, m)
  | fuel + 1, s, keeps, pos, stop, level, m =>
    let simple := plain? s pos stop <|> lineEnd? s pos stop <|> escape? s pos stop <|>
      code? s pos stop <|> (if keeps then marks? s pos stop else none)
    match simple with
    | some found => (some found, m)
    | none =>
      match link? fuel s pos stop level m with
      | (some found, m) => (some found, m)
      | (none, m) =>
        match image? fuel s pos stop level m with
        | (some found, m) => (some found, m)
        | (none, m) => (address? s pos stop <|> html? s pos stop <|> reference? s pos stop, m)

/-- The place after the part that begins at a place. Too deep inside of labels,
    all the rest of the text is passed over. -/
def passOver : (fuel : Nat) → (s : Source) → (pos stop level : Nat) → Memory → Nat × Memory
  | 0, _, pos, _, _, m => (pos + 1, m)
  | fuel + 1, s, pos, stop, level, m =>
    let known := m.ends.getD pos 0
    if 0 < known then (known, m)
    else
      let (next, m) :=
        if level < maxLabels then
          match found? fuel s false pos stop (level + 1) m with
          | (some (_, next), m) => (next, m)
          | (none, m) => (pos + 1, m)
        else (stop + 1, m)
      (next, { m with ends := m.ends.setIfInBounds pos next })

/-- The place of the bracket that closes a label, where `depth` brackets are open
    at `pos`. There are no links inside a label if `alone`. -/
def labelEnd? : (fuel : Nat) → (s : Source) → (alone : Bool) → (depth pos stop level : Nat) →
    Memory → Option Nat × Memory
  | 0, _, _, _, _, _, _, m => (none, m)
  | fuel + 1, s, alone, depth, pos, stop, level, m =>
    if stop ≤ pos then (none, m)
    else
      let c := s.char pos
      if c == ']' && depth == 1 then (some pos, m)
      else
        let depth := if c == ']' then depth - 1 else depth
        let (next, m) := passOver fuel s pos stop level m
        if c == '[' then
          -- A bracket that begins nothing has to be closed; a link is passed over as a whole.
          if next == pos + 1 then labelEnd? fuel s alone (depth + 1) next stop level m
          else if alone then (none, m)
          else labelEnd? fuel s alone depth next stop level m
        else labelEnd? fuel s alone depth next stop level m

/-- The place after a link or an image whose label, between `first` and `last`,
    is defined, or is followed at `pos` by one in brackets that is. -/
def labelled? : (fuel : Nat) → (s : Source) → (first last pos stop level : Nat) → Memory →
    Option Nat × Memory
  | 0, _, _, _, _, _, _, m => (none, m)
  | fuel + 1, s, first, last, pos, stop, level, m =>
    if s.labels.isEmpty then (none, m)
    else if pos < stop && s.char pos == '[' then
      match labelEnd? fuel s false 1 (pos + 1) stop level m with
      | (some close, m) =>
        let known := if close == pos + 1 then s.defines first last else s.defines (pos + 1) close
        (if known then some (close + 1) else none, m)
      | (none, m) => (if s.defines first last then some (last + 1) else none, m)
    else (if s.defines first last then some (last + 1) else none, m)

/-- A link. -/
def link? : (fuel : Nat) → (s : Source) → (pos stop level : Nat) → Memory →
    Option (Found × Nat) × Memory
  | 0, _, _, _, _, m => (none, m)
  | fuel + 1, s, pos, stop, level, m =>
    if s.char pos != '[' then (none, m)
    else
      match labelEnd? fuel s true 1 (pos + 1) stop level m with
      | (none, m) => (none, m)
      | (some last, m) =>
        let following (after : Nat) (m : Memory) :=
          match labelled? fuel s (pos + 1) last after stop level m with
          | (some next, m) => (some (Found.link (pos + 1) last, next), m)
          | (none, m) => (none, m)
        if last + 1 < stop && s.char (last + 1) == '(' then
          match target s (last + 1) stop with
          | .closed next => (some (.link (pos + 1) last, next), m)
          -- Parentheses that are not closed are no address; a label is looked for behind what was
          -- read of them.
          | .unclosed stopped => following (stopped + 1) m
          | .missing => (none, m)
        else following (last + 1) m

/-- An image. -/
def image? : (fuel : Nat) → (s : Source) → (pos stop level : Nat) → Memory →
    Option (Found × Nat) × Memory
  | 0, _, _, _, _, m => (none, m)
  | fuel + 1, s, pos, stop, level, m =>
    if s.char pos != '!' || (pos + 1 < stop && s.char (pos + 1) != '[') then (none, m)
    else
      match labelEnd? fuel s false 1 (pos + 2) stop level m with
      | (none, m) => (none, m)
      | (some last, m) =>
        if last + 1 < stop && s.char (last + 1) == '(' then
          match target s (last + 1) stop with
          | .closed next => (some (.image (pos + 2) last, next), m)
          | _ => (none, m)
        else
          match labelled? fuel s (pos + 2) last (last + 1) stop level m with
          | (some next, m) => (some (.image (pos + 2) last, next), m)
          | (none, m) => (none, m)

end

/-- Pieces that were read, reversed, and the plain text after them, reversed. -/
structure Draft where
  pieces : List Emphasis.Piece
  pending : List Char

namespace Draft

/-- The pieces with the plain text as the last one. -/
def flush (d : Draft) : List Emphasis.Piece :=
  if d.pending.isEmpty then d.pieces
  else .part (.text (String.ofList d.pending.reverse)) :: d.pieces

/-- A draft with one more piece. -/
def put (d : Draft) (piece : Emphasis.Piece) : Draft := ⟨piece :: d.flush, []⟩

/-- A draft with a line end: two blanks before it make it a hard one, and no
    blank before it is kept. -/
def lineEnd (d : Draft) : Draft :=
  let bare := d.pending.dropWhile (· == ' ')
  let part := if bare.length + 2 ≤ d.pending.length then Inline.hardBreak else .softBreak
  { d with pending := bare }.put (.part part)

end Draft

mutual

/-- The pieces of the text from `pos` up to `stop`. -/
def pieces : (fuel : Nat) → (s : Source) → (pos stop level : Nat) → Draft → Memory →
    List Emphasis.Piece × Memory
  | 0, _, _, _, _, d, m => (d.flush.reverse, m)
  | fuel + 1, s, pos, stop, level, d, m =>
    if stop ≤ pos then (d.flush.reverse, m)
    else
      match found? (64 * (s.chars.size + 2)) s true pos stop level m with
      | (none, m) =>
        pieces fuel s (pos + 1) stop level { d with pending := s.char pos :: d.pending } m
      | (some (.chars cs, next), m) =>
        pieces fuel s next stop level { d with pending := cs.reverse ++ d.pending } m
      | (some (.lineEnd, next), m) => pieces fuel s next stop level d.lineEnd m
      | (some (.part part, next), m) => pieces fuel s next stop level (d.put (.part part)) m
      | (some (.marks count mark, next), m) =>
        let d := (List.replicate count (Emphasis.Piece.mark mark)).foldl Draft.put d
        pieces fuel s next stop level d m
      | (some (.link first last, next), m) =>
        let (inner, m) := pieces fuel s first last (level + 1) ⟨[], []⟩ m
        let part := Inline.link (Emphasis.resolve inner)
        pieces fuel s next stop level (d.put (.part part)) m
      | (some (.image first last, next), m) =>
        -- The text of an image is read by itself, without what is remembered of this one.
        let part := Inline.image (parts fuel ⟨s.chars.extract first last, s.labels⟩)
        pieces fuel s next stop level (d.put (.part part)) m

/-- The parts of a text, with escaped characters kept apart. -/
def parts : (fuel : Nat) → (s : Source) → List Inline
  | 0, _ => []
  | fuel + 1, s => Emphasis.resolve (pieces fuel s 0 s.chars.size 0 ⟨[], []⟩ (.fresh s)).1

end

mutual

/-- A part with escaped characters as text, except inside an image that is in
    another image. -/
def unescaped (inImage : Bool) : Inline → Inline
  | .special s => .text s
  | .link parts => .link (unescapedAll inImage parts)
  | .emphasis parts => .emphasis (unescapedAll inImage parts)
  | .strong parts => .strong (unescapedAll inImage parts)
  | .image parts => if inImage then .image parts else .image (unescapedAll true parts)
  | part => part
termination_by structural part => part

/-- Parts with escaped characters as text, joined to the texts around them. -/
def unescapedAll (inImage : Bool) : List Inline → List Inline
  | [] => []
  | part :: rest =>
    match unescaped inImage part, unescapedAll inImage rest with
    | .text s, .text t :: others => .text (s ++ t) :: others
    | part, others => part :: others
termination_by structural parts => parts

end

/-- The parts of a text, when these labels are defined. -/
def read (labels : List (List Char)) (text : List Char) : List Inline :=
  let s : Source := ⟨text.toArray, labels⟩
  unescapedAll false (parts (2 * s.chars.size + 2) s)

end Inlines

end Annals
