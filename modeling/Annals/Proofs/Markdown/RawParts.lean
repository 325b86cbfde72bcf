import Annals.Markdown.Document

/-!
# Raw HTML in a Text

Where the raw HTML in a text comes from.

The reading of a text looks ahead, goes back and descends into labels, but a part
that is raw HTML comes from one place alone, where the character at hand is an
opening bracket, and it is what stands there. So nothing needs to be known of the
rest: whatever it finds and wherever it goes on, all raw HTML is a part of the text,
and putting pieces together and taking escapes away never makes any. In particular a
text in which no angle bracket opens has no raw HTML in it.

What is said of raw HTML is a parameter, `fits`. It must hold of every part of the
text that begins with an opening bracket (`Inlines.Source.Opens`).

## Main definitions

* `Markdown.Inline.RawOf`: A part in which all raw HTML fits.
* `Markdown.RawFreeAll`: Parts without raw HTML in them.
* `Emphasis.Piece.RawOf`: The same for a piece.
* `Inlines.Source.Opens`: What an angle bracket opens in a text fits.

## Theorems

* `rawInParts_of`: The raw HTML in parts of a text.
* `assemble_rawOf`, `resolve_rawOf`: Pieces put together.
* `found?_rawOf`: What is found at a place.
* `pieces_rawOf`: All pieces of a text.
* `infix_of_read`: All raw HTML of a text is a part of it.
* `read_rawFree`: A text in which no angle bracket opens.
-/

namespace Annals

namespace Markdown

/-- A part in which all raw HTML fits. -/
inductive Inline.RawOf (fits : String → Prop) : Inline → Prop where
  | html {s : String} : fits s → RawOf fits (.html s)
  | text (s : String) : RawOf fits (.text s)
  | special (s : String) : RawOf fits (.special s)
  | code (s : String) : RawOf fits (.code s)
  | softBreak : RawOf fits .softBreak
  | hardBreak : RawOf fits .hardBreak
  | link {parts : List Inline} : (∀ part ∈ parts, RawOf fits part) → RawOf fits (.link parts)
  | image {parts : List Inline} : (∀ part ∈ parts, RawOf fits part) → RawOf fits (.image parts)
  | emphasis {parts : List Inline} :
      (∀ part ∈ parts, RawOf fits part) → RawOf fits (.emphasis parts)
  | strong {parts : List Inline} : (∀ part ∈ parts, RawOf fits part) → RawOf fits (.strong parts)

/-- Parts in which all raw HTML fits. -/
def RawOfAll (fits : String → Prop) (parts : List Inline) : Prop := ∀ part ∈ parts, part.RawOf fits

/-- Parts without raw HTML in them. -/
def RawFreeAll (parts : List Inline) : Prop := RawOfAll (fun _ => False) parts

variable {fits : String → Prop}

/-- The raw HTML in parts of a text is in one of them. -/
theorem mem_rawInParts {parts : List Inline} {line : Nat} {previous : Option Kind} {c : RawPart}
    (h : c ∈ rawInParts line previous parts) :
    ∃ part ∈ parts, ∃ previous, c ∈ rawInPart line previous part := by
  induction parts generalizing previous with
  | nil => exact absurd h List.not_mem_nil
  | cons part rest ih =>
      rw [rawInParts] at h
      rcases List.mem_append.mp h with h | h
      · exact ⟨part, List.mem_cons_self .., previous, h⟩
      · rcases ih h with ⟨own, hown, previous, hc⟩
        exact ⟨own, List.mem_cons_of_mem _ hown, previous, hc⟩

/-- The raw HTML in a part of a text fits, and has the line that the text has. -/
theorem rawInPart_of {part : Inline} (h : part.RawOf fits) {line : Nat} {previous : Option Kind}
    {c : RawPart} (hc : c ∈ rawInPart line previous part) : fits c.raw ∧ c.line = line := by
  induction h generalizing previous with
  | html hs =>
      cases List.mem_singleton.mp hc
      exact ⟨hs, rfl⟩
  | link _ ih | image _ ih | emphasis _ ih | strong _ ih =>
      rcases mem_rawInParts hc with ⟨part, hpart, previous, hc⟩
      exact ih part hpart hc
  | text s => cases hc
  | special s => cases hc
  | code s => cases hc
  | softBreak => cases hc
  | hardBreak => cases hc

theorem rawInParts_of {parts : List Inline} (h : RawOfAll fits parts) {line : Nat}
    {previous : Option Kind} {c : RawPart} (hc : c ∈ rawInParts line previous parts) :
    fits c.raw ∧ c.line = line := by
  rcases mem_rawInParts hc with ⟨part, hpart, previous, hc⟩
  exact rawInPart_of (h part hpart) hc

theorem rawInParts_eq_nil {parts : List Inline} (h : RawFreeAll parts) (line : Nat)
    (previous : Option Kind) : rawInParts line previous parts = [] :=
  List.eq_nil_iff_forall_not_mem.mpr fun _ hc => (rawInParts_of h hc).1

theorem rawOfAll_nil : RawOfAll fits [] := fun _ h => absurd h (List.not_mem_nil)

theorem rawOfAll_cons {part : Inline} {rest : List Inline} (h : part.RawOf fits)
    (hrest : RawOfAll fits rest) : RawOfAll fits (part :: rest) := by
  intro x hx
  rcases List.mem_cons.mp hx with rfl | hx
  · exact h
  · exact hrest x hx

theorem rawOfAll_reverse {parts : List Inline} (h : RawOfAll fits parts) :
    RawOfAll fits parts.reverse :=
  fun x hx => h x (List.mem_reverse.mp hx)

end Markdown

namespace Emphasis

open Markdown

variable {fits : String → Prop}

/-- A piece in which all raw HTML fits. -/
def Piece.RawOf (fits : String → Prop) : Piece → Prop
  | .part inline => inline.RawOf fits
  | .mark _ => True

theorem joinPart_rawOf {part : Inline} {parts : List Inline} (h : part.RawOf fits)
    (hparts : RawOfAll fits parts) : RawOfAll fits (joinPart part parts) := by
  unfold joinPart
  split
  · next before rest =>
      split
      · exact rawOfAll_cons (.text _)
          (fun x hx => hparts x (List.mem_cons_of_mem _ hx))
      · exact rawOfAll_cons h hparts
  · exact rawOfAll_cons h hparts

/-- Emphasis around parts in which all raw HTML fits. -/
theorem closed_rawOf (strong : Bool) {parts : List Inline} (h : RawOfAll fits parts) :
    (if strong then Inline.strong parts.reverse else .emphasis parts.reverse).RawOf fits := by
  cases strong with
  | true => exact .strong (rawOfAll_reverse h)
  | false => exact .emphasis (rawOfAll_reverse h)

/-- Pieces put together. The induction is on the pieces that are left, and on the emphasis
    that is still open when there are none. -/
theorem assemble_rawOf {stack : List Open} {parts : List Inline} {pieces : List (Piece × Role)}
    (hstack : ∀ o ∈ stack, RawOfAll fits o.before) (hparts : RawOfAll fits parts)
    (hpieces : ∀ p ∈ pieces, p.1.RawOf fits) : RawOfAll fits (assemble stack parts pieces) := by
  induction pieces generalizing stack parts with
  | nil =>
      -- What is still open at the end is closed there.
      induction stack generalizing parts with
      | nil =>
          rw [assemble]
          exact rawOfAll_reverse hparts
      | cons o stack ih =>
          rw [assemble]
          refine ih (fun x hx => hstack x (List.mem_cons_of_mem _ hx)) ?_
          exact joinPart_rawOf (closed_rawOf o.strong hparts)
            (hstack o (List.mem_cons_self ..))
  | cons p rest ih =>
      have hrest : ∀ x ∈ rest, x.1.RawOf fits := fun x hx => hpieces x (List.mem_cons_of_mem _ hx)
      rcases p with ⟨piece, role⟩
      cases piece with
      | part part =>
          have hpart : part.RawOf fits := hpieces (.part part, role) (List.mem_cons_self ..)
          rw [assemble]
          exact ih hstack (joinPart_rawOf hpart hparts) hrest
      | mark mark =>
          cases role with
          | literal =>
              rw [assemble]
              exact ih hstack (joinPart_rawOf (.text _) hparts) hrest
          | empty =>
              rw [assemble]
              exact ih hstack (joinPart_rawOf (.text _) hparts) hrest
          | open_ strong =>
              rw [assemble]
              refine ih (fun o ho => ?_) rawOfAll_nil hrest
              rcases List.mem_cons.mp ho with rfl | ho
              · exact hparts
              · exact hstack o ho
          | close =>
              cases stack with
              | nil =>
                  rw [assemble]
                  exact ih hstack hparts hrest
              | cons o stack =>
                  rw [assemble]
                  refine ih (fun x hx => hstack x (List.mem_cons_of_mem _ hx)) ?_ hrest
                  exact rawOfAll_cons (closed_rawOf o.strong hparts)
                    (hstack o (List.mem_cons_self ..))

theorem withRoles_rawOf {roles : List Role} {pieces : List Piece}
    (h : ∀ p ∈ pieces, p.RawOf fits) : ∀ p ∈ withRoles roles pieces, p.1.RawOf fits := by
  induction pieces generalizing roles with
  | nil =>
      intro p hp
      rw [withRoles] at hp
      exact absurd hp (List.not_mem_nil)
  | cons piece rest ih =>
      have hhead := h piece (List.mem_cons_self ..)
      have hrest : ∀ x ∈ rest, x.RawOf fits := fun x hx => h x (List.mem_cons_of_mem _ hx)
      -- Whichever role the piece is given, it stays the same piece.
      have hform : ∃ role roles', withRoles roles (piece :: rest)
          = (piece, role) :: withRoles roles' rest := by
        cases piece with
        | part part => exact ⟨.literal, roles, by rw [withRoles]; exact nofun⟩
        | mark mark =>
            cases roles with
            | nil => exact ⟨.literal, [], by rw [withRoles]; exact nofun⟩
            | cons role roles => exact ⟨role, roles, by rw [withRoles]⟩
      rcases hform with ⟨role, roles', hform⟩
      intro p hp
      rw [hform] at hp
      rcases List.mem_cons.mp hp with rfl | hp
      · exact hhead
      · exact ih hrest p hp

theorem resolve_rawOf {pieces : List Piece} (h : ∀ p ∈ pieces, p.RawOf fits) :
    RawOfAll fits (resolve pieces) :=
  assemble_rawOf (fun _ ho => absurd ho (List.not_mem_nil)) rawOfAll_nil
    (withRoles_rawOf h)

end Emphasis

namespace Inlines

open Markdown

variable {fits : String → Prop}

/-- What an angle bracket opens in a text fits, up to wherever it is read. -/
def Source.Opens (fits : String → Prop) (s : Source) : Prop :=
  ∀ first stop, s.char first = '<' → fits (String.ofList (s.slice first stop))

/-- An angle bracket at a place is one of the characters. -/
theorem Source.getElem?_of_char {s : Source} {pos : Nat} (h : s.char pos = '<') :
    s.chars[pos]? = some '<' := by
  unfold Source.char at h
  rw [Array.getD_eq_getD_getElem?] at h
  cases hc : s.chars[pos]? with
  | none =>
      rw [hc] at h
      exact absurd h (by decide)
  | some c =>
      rw [hc] at h
      exact congrArg some h

/-- A part of a text in which all raw HTML fits. -/
theorem Source.Opens.extract {s : Source} (h : s.Opens fits) (first last : Nat) :
    Source.Opens fits ⟨s.chars.extract first last, s.labels⟩ := by
  intro start stop hopen
  have hget := getElem?_of_char hopen
  rw [Array.getElem?_extract] at hget
  split at hget
  · have hchar : s.char (first + start) = '<' := by
      unfold Source.char
      rw [Array.getD_eq_getD_getElem?, hget]
      rfl
    have hslice := h (first + start) (min (first + stop) last) hchar
    rwa [slice, ← Array.extract_extract] at hslice
  · cases hget

/-- What is found without looking into labels fits, if it is raw HTML. -/
def Found.RawOf (fits : String → Prop) : Found → Prop
  | .part inline => inline.RawOf fits
  | _ => True

theorem plain?_rawOf {s : Source} {pos stop next : Nat} {f : Found}
    (h : plain? s pos stop = some (f, next)) : f.RawOf fits := by
  unfold plain? at h
  simp only [] at h
  split at h
  · cases h
  · cases h
    exact trivial

theorem lineEnd?_rawOf {s : Source} {pos stop next : Nat} {f : Found}
    (h : lineEnd? s pos stop = some (f, next)) : f.RawOf fits := by
  unfold lineEnd? at h
  split at h
  · cases h
    exact trivial
  · cases h

theorem escape?_rawOf {s : Source} {pos stop next : Nat} {f : Found}
    (h : escape? s pos stop = some (f, next)) : f.RawOf fits := by
  unfold escape? at h
  split at h
  · simp only [] at h
    split at h
    · cases h
      exact .hardBreak
    · split at h
      · cases h
        exact .special _
      · cases h
        exact .special _
  · cases h

theorem code?_rawOf {s : Source} {pos stop next : Nat} {f : Found}
    (h : code? s pos stop = some (f, next)) : f.RawOf fits := by
  unfold code? at h
  split at h
  · simp only [] at h
    split at h
    · cases h
      exact .code _
    · cases h
      exact trivial
  · cases h

theorem marks?_rawOf {s : Source} {pos stop next : Nat} {f : Found}
    (h : marks? s pos stop = some (f, next)) : f.RawOf fits := by
  unfold marks? at h
  simp only [] at h
  split at h
  · cases h
    exact trivial
  · cases h

theorem reference?_rawOf {s : Source} {pos stop next : Nat} {f : Found}
    (h : reference? s pos stop = some (f, next)) : f.RawOf fits := by
  unfold reference? at h
  split at h
  · rcases Option.map_eq_some_iff.mp h with ⟨⟨cs, length⟩, _, hf⟩
    cases hf
    exact .special _
  · cases h

/-- A link is found by its places, and what is between them is read later. -/
theorem link?_rawOf {fuel : Nat} {s : Source} {pos stop level next : Nat} {m m' : Memory}
    {f : Found} (h : link? fuel s pos stop level m = (some (f, next), m')) : f.RawOf fits := by
  cases fuel with
  | zero =>
      rw [link?] at h
      cases h
  | succ fuel =>
      -- No link is raw HTML, whichever of its forms it has.
      rw [link?] at h
      split at h
      · cases h
      · split at h
        · cases h
        · next last m1 _ =>
            simp only [] at h
            split at h
            · split at h
              · cases h
                exact trivial
              · split at h
                · cases h
                  exact trivial
                · cases h
              · cases h
            · split at h
              · cases h
                exact trivial
              · cases h

theorem image?_rawOf {fuel : Nat} {s : Source} {pos stop level next : Nat} {m m' : Memory}
    {f : Found} (h : image? fuel s pos stop level m = (some (f, next), m')) : f.RawOf fits := by
  cases fuel with
  | zero =>
      rw [image?] at h
      cases h
  | succ fuel =>
      rw [image?] at h
      split at h
      · cases h
      · split at h
        · cases h
        · split at h
          · split at h
            · cases h
              exact trivial
            · cases h
          · split at h
            · cases h
              exact trivial
            · cases h

/-- An address in angle brackets is a link with a text. -/
theorem address?_rawOf {s : Source} {pos stop next : Nat} {f : Found}
    (h : address? s pos stop = some (f, next)) : f.RawOf fits := by
  unfold address? at h
  split at h
  · rcases Option.map_eq_some_iff.mp h with ⟨⟨shown, length⟩, _, hf⟩
    cases hf
    refine .link fun part hpart => ?_
    rw [List.mem_singleton.mp hpart]
    exact .text shown
  · cases h

/-- Raw HTML is what stands behind an opening bracket. -/
theorem html?_rawOf {s : Source} {pos stop next : Nat} {f : Found} (hs : s.Opens fits)
    (h : html? s pos stop = some (f, next)) : f.RawOf fits := by
  unfold html? at h
  simp only [] at h
  split at h
  · next hopen =>
      rcases Option.map_eq_some_iff.mp h with ⟨length, _, hf⟩
      cases hf
      simp only [Bool.and_eq_true, beq_iff_eq] at hopen
      exact .html (hs pos _ hopen.1.1)
  · cases h

/-- What is found at a place fits, if it is raw HTML. -/
theorem found?_rawOf {fuel : Nat} {s : Source} {keeps : Bool} {pos stop level next : Nat}
    {m m' : Memory} {f : Found} (hs : s.Opens fits)
    (h : found? fuel s keeps pos stop level m = (some (f, next), m')) : f.RawOf fits := by
  cases fuel with
  | zero =>
      rw [found?] at h
      cases h
  | succ fuel =>
      rw [found?] at h
      split at h
      · next found hsimple =>
          cases h
          simp only [Option.orElse_eq_orElse, Option.orElse_eq_or, Option.or_eq_some_iff] at hsimple
          -- What is tried in turn; only the tag and the address in angle brackets can be raw HTML.
          rcases hsimple with h | ⟨_, h | ⟨_, h | ⟨_, h | ⟨_, h⟩⟩⟩⟩
          · exact plain?_rawOf h
          · exact lineEnd?_rawOf h
          · exact escape?_rawOf h
          · exact code?_rawOf h
          · split at h
            · exact marks?_rawOf h
            · cases h
      · split at h
        · next found m1 hlink =>
            cases h
            exact link?_rawOf hlink
        · split at h
          · next found m2 himage =>
              cases h
              exact image?_rawOf himage
          · have hlast := congrArg Prod.fst h
            simp only [Option.orElse_eq_orElse, Option.orElse_eq_or, Option.or_eq_some_iff] at hlast
            rcases hlast with h | ⟨_, h | ⟨_, h⟩⟩
            · exact address?_rawOf h
            · exact html?_rawOf hs h
            · exact reference?_rawOf h

/-- All raw HTML in the pieces of a draft fits. -/
def Draft.RawOf (fits : String → Prop) (d : Draft) : Prop := ∀ p ∈ d.pieces, p.RawOf fits

theorem flush_rawOf {d : Draft} (h : d.RawOf fits) : ∀ p ∈ d.flush, p.RawOf fits := by
  unfold Draft.flush
  split
  · exact h
  · intro p hp
    rcases List.mem_cons.mp hp with rfl | hp
    · exact .text _
    · exact h p hp

theorem put_rawOf {d : Draft} {piece : Emphasis.Piece} (h : d.RawOf fits) (hp : piece.RawOf fits) :
    (d.put piece).RawOf fits := by
  intro p hmem
  rcases List.mem_cons.mp hmem with rfl | hmem
  · exact hp
  · exact flush_rawOf h p hmem

theorem pending_rawOf {d : Draft} (h : d.RawOf fits) (cs : List Char) :
    Draft.RawOf fits { d with pending := cs } := h

theorem putPart_rawOf {d : Draft} {part : Inline} (h : d.RawOf fits) (hp : part.RawOf fits) :
    (d.put (.part part)).RawOf fits :=
  put_rawOf h hp

theorem lineEnd_rawOf {d : Draft} (h : d.RawOf fits) : d.lineEnd.RawOf fits := by
  have hbare : Draft.RawOf fits { d with pending := d.pending.dropWhile (· == ' ') } := h
  unfold Draft.lineEnd
  refine putPart_rawOf hbare ?_
  split
  · exact .hardBreak
  · exact .softBreak

theorem putMarks_rawOf {d : Draft} (h : d.RawOf fits) (count : Nat) (mark : Emphasis.Mark) :
    ((List.replicate count (Emphasis.Piece.mark mark)).foldl Draft.put d).RawOf fits := by
  induction count generalizing d with
  | zero => exact h
  | succ n ih => exact ih (put_rawOf h trivial)

/-- All pieces of a text, and the parts they make. The induction is on the fuel, and goes into
    the labels of links and images as well. -/
theorem pieces_rawOf (fuel : Nat) :
    (∀ (s : Source) (pos stop level : Nat) (d : Draft) (m : Memory), s.Opens fits → d.RawOf fits →
      ∀ p ∈ (pieces fuel s pos stop level d m).1, p.RawOf fits) ∧
    ∀ s : Source, s.Opens fits → RawOfAll fits (parts fuel s) := by
  induction fuel with
  | zero =>
      constructor
      · intro s pos stop level d m _ hd p hp
        rw [pieces] at hp
        exact flush_rawOf hd p (List.mem_reverse.mp hp)
      · intro s _
        rw [parts]
        exact rawOfAll_nil
  | succ n ih =>
      rcases ih with ⟨ihpieces, ihparts⟩
      constructor
      · intro s pos stop level d m hs hd p hp
        have hrest := fun pos level d m hd => ihpieces s pos stop level d m hs hd
        rw [pieces] at hp
        split at hp
        · exact flush_rawOf hd p (List.mem_reverse.mp hp)
        · split at hp
          · exact hrest _ _ _ _ (pending_rawOf hd _) p hp
          · exact hrest _ _ _ _ (pending_rawOf hd _) p hp
          · exact hrest _ _ _ _ (lineEnd_rawOf hd) p hp
          · next part next m' hfound =>
              have hpart : part.RawOf fits := found?_rawOf hs hfound
              exact hrest _ _ _ _ (putPart_rawOf hd hpart) p hp
          · exact hrest _ _ _ _ (putMarks_rawOf hd _ _) p hp
          · next first last next m' hfound =>
              have hinner := ihpieces s first last (level + 1) ⟨[], []⟩ m' hs
                (fun p hp => absurd hp (List.not_mem_nil))
              have hlink := Inline.RawOf.link (Emphasis.resolve_rawOf hinner)
              exact hrest _ _ _ _ (putPart_rawOf hd hlink) p hp
          · next first last next m' hfound =>
              -- The label of an image is read as a text of its own.
              have himage := Inline.RawOf.image (ihparts _ (hs.extract first last))
              exact hrest _ _ _ _ (putPart_rawOf hd himage) p hp
      · intro s hs
        rw [parts]
        exact Emphasis.resolve_rawOf
          (ihpieces s 0 s.chars.size 0 ⟨[], []⟩ (.fresh s) hs
            (fun p hp => absurd hp (List.not_mem_nil)))

theorem unescapedAll_rawOf {inImage : Bool} {parts : List Inline}
    (h : ∀ part ∈ parts, (unescaped inImage part).RawOf fits) :
    RawOfAll fits (unescapedAll inImage parts) := by
  induction parts with
  | nil => exact rawOfAll_nil
  | cons part rest ih =>
      have hpart := h part (List.mem_cons_self ..)
      have hrest := ih (fun x hx => h x (List.mem_cons_of_mem _ hx))
      rw [unescapedAll]
      split
      · next s t others _ heq =>
          rw [heq] at hrest
          exact rawOfAll_cons (.text _) (fun x hx => hrest x (List.mem_cons_of_mem _ hx))
      · exact rawOfAll_cons hpart hrest

/-- Taking escapes away makes no raw HTML. -/
theorem unescaped_rawOf {part : Inline} (h : part.RawOf fits) (inImage : Bool) :
    (unescaped inImage part).RawOf fits := by
  induction h generalizing inImage with
  | html hs => exact .html hs
  | text s => exact .text s
  | special s => exact .text s
  | code s => exact .code s
  | softBreak => exact .softBreak
  | hardBreak => exact .hardBreak
  | link _ ih => exact .link (unescapedAll_rawOf (fun x hx => ih x hx inImage))
  | emphasis _ ih => exact .emphasis (unescapedAll_rawOf (fun x hx => ih x hx inImage))
  | strong _ ih => exact .strong (unescapedAll_rawOf (fun x hx => ih x hx inImage))
  -- An image inside of another one is left as it is.
  | image hparts ih =>
      rw [unescaped]
      split
      · exact .image hparts
      · exact .image (unescapedAll_rawOf (fun x hx => ih x hx true))

theorem read_rawOf (labels : List (List Char)) {text : List Char}
    (h : Source.Opens fits ⟨text.toArray, labels⟩) : RawOfAll fits (read labels text) :=
  unescapedAll_rawOf (fun x hx => unescaped_rawOf ((pieces_rawOf _).2 _ h x hx) false)

/-- All raw HTML of a text is a part of it. -/
theorem infix_of_read (labels : List (List Char)) (text : List Char) :
    RawOfAll (fun raw => raw.toList <:+: text) (read labels text) := by
  refine read_rawOf labels fun first stop _ => ?_
  rw [String.toList_ofList, Source.slice, Array.toList_extract, List.extract]
  exact (List.take_prefix _ _).isInfix.trans (List.drop_suffix _ _).isInfix

/-- A text in which no angle bracket opens has no raw HTML in it. -/
theorem read_rawFree (labels : List (List Char)) {text : List Char} (h : '<' ∉ text) :
    RawFreeAll (read labels text) :=
  read_rawOf labels fun _ _ hopen =>
    h (List.mem_toArray.mp (Array.mem_of_getElem? (Source.getElem?_of_char hopen)))

end Inlines

end Annals
