import Mathlib.Data.List.Basic
import Annals.Proofs.Json.Scalars
import Annals.Proofs.Value.Modest

/-!
# Written and Read Back

A value that JSON has a form for is the value that its text is read as.

This is meant of values made of null, truth values, integers, texts, lists, and objects
with each name once, which belong to no larger document and go down no deeper than the
reader does: `Formed` says so. The reader has to be told by the next character where a
number ends and that nothing else begins, so for the induction the text of a value is
taken with whatever stands behind it (`Spells`). Between the members of a container there
are a comma and blanks, and around them only blanks, in every style of writing.

The one thing that can go wrong is an integer with too many digits. If there is one, there
is no text at all (`write_long`).

## Main definitions

* `Json.Formed`: The values that JSON has a form for.
* `Json.Spells`: A text as which a value is read back.

## Theorems

* `write_formed`: A value with a form is written, in a text that spells it.
* `parse_write`: What is written is read back, with blanks behind it.
* `write_long`: A value with an integer that is too long is not written.
-/

namespace Annals

namespace Json

/-- Values that JSON has a form for, with their containers at most so many levels deep. -/
inductive Formed : (levels : Nat) → Value → Prop where
  | null {levels : Nat} : Formed levels .null
  | bool {levels : Nat} (b : Bool) : Formed levels (.bool b)
  | int {levels : Nat} (n : Int) : Formed levels (.int n)
  | text {levels : Nat} (s : String) : Formed levels (.text s)
  | list {levels : Nat} {items : List Value} :
      (∀ v ∈ items, Formed levels v) → Formed (levels + 1) (.seq 0 items)
  | object {levels : Nat} {entries : List (String × Value)} :
      (entries.map Prod.fst).Nodup → (∀ e ∈ entries, Formed levels e.2) →
      Formed (levels + 1) (.object entries)

/-- The first characters of values. -/
def isOpening (c : Char) : Bool :=
  Text.isAsciiDigit c || ['"', '-', '[', '\x7b', 'n', 't', 'f'].contains c

theorem isOpening_spec {c : Char} (h : isOpening c = true) :
    isSpace c = false ∧ c ≠ ']' ∧ c ≠ '\x7d' ∧ c.toNat ≠ 0xFEFF := by
  let others : List Char := [' ', '\t', '\n', '\r', ']', '\x7d', Char.ofNat 0xFEFF]
  have hnone : ∀ x ∈ others, isOpening x = false := List.forall_iff_forall_mem.mp (by decide)
  have hne {x : Char} (hx : x ∈ others) : c ≠ x := by
    rintro rfl
    rw [hnone c hx] at h
    cases h
  refine ⟨?_, hne (by simp [others]), hne (by simp [others]), fun hmark => ?_⟩
  · unfold isSpace
    simp [hne (x := ' ') (by simp [others]), hne (x := '\t') (by simp [others]),
      hne (x := '\n') (by simp [others]), hne (x := '\r') (by simp [others])]
  · exact hne (x := Char.ofNat 0xFEFF) (by simp [others]) (by rw [← hmark, Char.ofNat_toNat])

/-- A text that begins like a value. -/
def Opens (cs : List Char) : Prop := ∃ c rest, cs = c :: rest ∧ isOpening c = true

/-- A text as which a value is read back, wherever there are enough levels left and nothing
    goes on with it as with a number. -/
structure Spells (levels : Nat) (cs : List Char) (v : Value) : Prop where
  opens : Opens cs
  reads : ∀ fuel depth after, cs.length ≤ fuel → depth + levels ≤ maxNesting →
    EndsNumber after → readValue fuel depth (cs ++ after) = .ok (v, after)

theorem skipSpace_append {blanks : List Char} (h : ∀ c ∈ blanks, isSpace c = true)
    (cs : List Char) : skipSpace (blanks ++ cs) = skipSpace cs :=
  List.dropWhile_append_of_pos h

theorem Opens.append {cs : List Char} (h : Opens cs) (rest : List Char) : Opens (cs ++ rest) := by
  rcases h with ⟨c, more, rfl, hopens⟩
  exact ⟨c, more ++ rest, rfl, hopens⟩

theorem skipSpace_opens {cs : List Char} (h : Opens cs) (rest : List Char) :
    skipSpace (cs ++ rest) = cs ++ rest := by
  rcases h with ⟨c, more, rfl, hopens⟩
  unfold skipSpace
  rw [List.cons_append, List.dropWhile_cons, (isOpening_spec hopens).1]
  rfl

theorem isSpace_lineBreak (style : Style) (level : Nat) :
    ∀ c ∈ lineBreak style level, isSpace c = true := by
  intro c hc
  unfold lineBreak at hc
  cases hi : style.indent with
  | none =>
      rw [hi] at hc
      cases hc
  | some width =>
      rw [hi] at hc
      rcases List.mem_cons.mp hc with rfl | hc
      · rfl
      · rw [List.eq_of_mem_replicate hc]
        rfl

/-- Between two members there are a comma and blanks. -/
theorem separator_eq (style : Style) (level : Nat) :
    ∃ blanks, separator style level = ',' :: blanks ∧ ∀ c ∈ blanks, isSpace c = true := by
  unfold separator
  cases style.indent with
  | none => exact ⟨[' '], rfl, by simp [isSpace]⟩
  | some width => exact ⟨_, rfl, isSpace_lineBreak style level⟩

/-- A blank ends a number, and so does what stands behind a member. -/
theorem endsNumber_cons {c : Char} (h : isSpace c = true ∨ c = ',' ∨ c = ']' ∨ c = '\x7d')
    (rest : List Char) : EndsNumber (c :: rest) := by
  have hends : ∀ x ∈ [' ', '\t', '\n', '\r', ',', ']', '\x7d'],
      Text.isAsciiDigit x = false ∧ x ≠ '.' ∧ x ≠ 'e' ∧ x ≠ 'E' :=
    List.forall_iff_forall_mem.mp (by decide)
  intro x hx
  cases hx
  refine hends c ?_
  simp only [isSpace, Bool.or_eq_true, beq_iff_eq] at h
  simpa [or_assoc] using h

theorem endsNumber_blanks {blanks rest : List Char} (h : ∀ c ∈ blanks, isSpace c = true)
    (hrest : EndsNumber rest) : EndsNumber (blanks ++ rest) := by
  cases blanks with
  | nil => exact hrest
  | cons b more => exact endsNumber_cons (Or.inl (h b (List.mem_cons_self ..))) _

/-- A name or a text in quotes. -/
theorem spells_text (levels : Nat) (style : Style) (s : String) :
    Spells levels (writeText style.ascii s) (.text s) := by
  constructor
  · exact ⟨'"', _, rfl, by decide⟩
  · intro fuel depth after hfuel _ _
    obtain ⟨fuel, rfl⟩ : ∃ left, fuel = left + 1 := ⟨fuel - 1, by simp [writeText] at hfuel; omega⟩
    simp only [writeText, List.cons_append, List.append_assoc, List.nil_append, readValue]
    rw [readText_writeText]
    rfl

/-- What begins with a digit, or with a sign and a digit, is read as a number. -/
theorem readValue_number (fuel depth : Nat) {negative : Bool} {d : Char}
    (hd : Text.isAsciiDigit d = true) (rest : List Char) :
    let cs := (if negative then ['-'] else []) ++ d :: rest
    readValue (fuel + 1) depth cs = readNumber cs.length cs := by
  intro cs
  have hnone : ∀ x ∈ ['"', '[', '\x7b', 'n', 't', 'f', 'N', 'I', '-'],
      Text.isAsciiDigit x = false := List.forall_iff_forall_mem.mp (by decide)
  have hne {x : Char} (hx : x ∈ ['"', '[', '\x7b', 'n', 't', 'f', 'N', 'I', '-']) : d ≠ x := by
    rintro rfl
    rw [hnone d hx] at hd
    cases hd
  -- Names are tried before numbers, and one of them begins with the sign.
  have hname : readName names cs = none := by
    cases negative <;>
      simp [cs, readName, names, (hne (x := 'n') (by simp)).symm, (hne (x := 't') (by simp)).symm,
        (hne (x := 'f') (by simp)).symm, (hne (x := 'N') (by simp)).symm,
        (hne (x := 'I') (by simp)).symm, (hne (x := '-') (by simp)).symm]
  cases negative with
  | true =>
      simp only [cs, if_true, List.cons_append, List.nil_append] at hname ⊢
      simp [readValue, hname]
  | false =>
      simp only [cs, Bool.false_eq_true, if_false, List.nil_append] at hname ⊢
      simp [readValue, hne (x := '"') (by simp), hne (x := '[') (by simp),
        hne (x := '\x7b') (by simp), hname]

theorem spells_integer (levels : Nat) {n : Int} (h : isLong n = false) :
    Spells levels (toString n).toList (.int n) := by
  have hdigits : ∀ c ∈ Nat.toDigits 10 n.natAbs, Text.isAsciiDigit c = true :=
    Text.forall_toDigits (by decide) n.natAbs
  cases hd : Nat.toDigits 10 n.natAbs with
  | nil => exact absurd hd Nat.toDigits_ne_nil
  | cons d ds =>
      rw [hd] at hdigits
      have hfirst := hdigits d (List.mem_cons_self ..)
      have htext : (toString n).toList = (if decide (n < 0) then ['-'] else []) ++ d :: ds := by
        rw [toList_toString, hd]
      constructor
      · rw [htext]
        cases decide (n < 0) with
        | true => exact ⟨'-', _, rfl, by decide⟩
        | false => exact ⟨d, _, rfl, by simp [isOpening, hfirst]⟩
      · intro fuel depth after hfuel _ hafter
        have hlength : 0 < (toString n).toList.length := by
          rw [htext, List.length_append, List.length_cons]
          omega
        obtain ⟨fuel, rfl⟩ : ∃ left, fuel = left + 1 := ⟨fuel - 1, by omega⟩
        -- From here on the first digit is needed only to know what kind of value it is.
        have hnumber := readNumber_writeInteger ((toString n).toList ++ after).length h hafter
        rw [← hnumber, htext, List.append_assoc]
        exact readValue_number fuel depth hfirst (ds ++ after)

theorem spells_name (levels : Nat) {name : List Char} {v : Value}
    (h : (name, v) ∈ [("null".toList, Value.null), ("true".toList, .bool true),
      ("false".toList, .bool false)]) : Spells levels name v := by
  simp only [List.mem_cons, Prod.mk.injEq, List.not_mem_nil, or_false] at h
  rcases h with ⟨rfl, rfl⟩ | ⟨rfl, rfl⟩ | ⟨rfl, rfl⟩
  all_goals
    constructor
    · exact ⟨_, _, rfl, by decide⟩
    · intro fuel depth after hfuel _ _
      obtain ⟨fuel, rfl⟩ : ∃ left, fuel = left + 1 := ⟨fuel - 1, by simp at hfuel; omega⟩
      rfl

theorem spells_empty_list (levels : Nat) : Spells (levels + 1) ['[', ']'] (.seq 0 []) := by
  refine ⟨⟨'[', _, rfl, by decide⟩, fun fuel depth after hfuel hdepth _ => ?_⟩
  obtain ⟨fuel, rfl⟩ : ∃ left, fuel = left + 1 := ⟨fuel - 1, by simp at hfuel; omega⟩
  have hlevel : ¬ maxNesting ≤ depth := by omega
  have hspace : skipSpace (']' :: after) = ']' :: after := rfl
  simp only [List.cons_append, List.nil_append, readValue, if_neg hlevel, hspace]

theorem spells_empty_object (levels : Nat) :
    Spells (levels + 1) ['\x7b', '\x7d'] (.object []) := by
  refine ⟨⟨'\x7b', _, rfl, by decide⟩, fun fuel depth after hfuel hdepth _ => ?_⟩
  obtain ⟨fuel, rfl⟩ : ∃ left, fuel = left + 1 := ⟨fuel - 1, by simp at hfuel; omega⟩
  have hlevel : ¬ maxNesting ≤ depth := by omega
  have hspace : skipSpace ('\x7d' :: after) = '\x7d' :: after := rfl
  simp only [List.cons_append, List.nil_append, readValue, if_neg hlevel, hspace]
  rfl

variable {fuel depth : Nat} {cs blanks rest after : List Char} {v : Value}

/-- The last member of a list, and the bracket behind it. -/
theorem readItems_last (h : readValue fuel depth cs = .ok (v, blanks ++ ']' :: after))
    (hblanks : ∀ c ∈ blanks, isSpace c = true) :
    readItems (fuel + 1) depth cs = .ok ([v], after) := by
  have hspace : skipSpace (blanks ++ ']' :: after) = ']' :: after := skipSpace_append hblanks _
  simp only [readItems, h, bind, Except.bind, hspace]
  rfl

/-- A member of a list with a comma behind it, and the members that follow. -/
theorem readItems_more (h : readValue fuel depth cs = .ok (v, ',' :: (blanks ++ rest)))
    (hblanks : ∀ c ∈ blanks, isSpace c = true) :
    readItems (fuel + 1) depth cs
      = (readItems fuel depth (skipSpace rest)).map fun r => (v :: r.1, r.2) := by
  have hcomma : skipSpace (',' :: (blanks ++ rest)) = ',' :: (blanks ++ rest) := rfl
  simp only [readItems, h, bind, Except.bind, hcomma, skipSpace_append hblanks]
  cases readItems fuel depth (skipSpace rest) <;> rfl

/-- The name of an entry and its colon, before its value. -/
def entryText (style : Style) (name : String) (cs : List Char) : List Char :=
  writeText style.ascii name ++ ':' :: ' ' :: cs

/-- The last entry of an object, and the brace behind it. -/
theorem readEntries_last (style : Style) (name : String) (before : List (Value × Value))
    (h : readValue fuel depth (cs ++ rest) = .ok (v, blanks ++ '\x7d' :: after)) (hcs : Opens cs)
    (hblanks : ∀ c ∈ blanks, isSpace c = true) :
    readEntries (fuel + 1) depth before (entryText style name cs ++ rest)
      = .ok (Value.insert (.text name) v before, after) := by
  have hspace : skipSpace (blanks ++ '\x7d' :: after) = '\x7d' :: after :=
    skipSpace_append hblanks _
  have hvalue : skipSpace (' ' :: (cs ++ rest)) = cs ++ rest := skipSpace_opens hcs rest
  have hcolon (more : List Char) : skipSpace (':' :: more) = ':' :: more := rfl
  simp only [entryText, writeText, List.cons_append, List.append_assoc, List.nil_append,
    readEntries, readText_writeText, bind, Except.bind, hcolon, hvalue, h, hspace]
  rfl

/-- An entry of an object with a comma behind it, and the entries that follow. -/
theorem readEntries_more (style : Style) (name : String) (before : List (Value × Value))
    (h : readValue fuel depth (cs ++ rest) = .ok (v, ',' :: (blanks ++ after))) (hcs : Opens cs)
    (hblanks : ∀ c ∈ blanks, isSpace c = true) :
    readEntries (fuel + 1) depth before (entryText style name cs ++ rest)
      = readEntries fuel depth (Value.insert (.text name) v before) (skipSpace after) := by
  have hcomma (more : List Char) : skipSpace (',' :: more) = ',' :: more := rfl
  have hvalue : skipSpace (' ' :: (cs ++ rest)) = cs ++ rest := skipSpace_opens hcs rest
  have hcolon (more : List Char) : skipSpace (':' :: more) = ':' :: more := rfl
  simp only [entryText, writeText, List.cons_append, List.append_assoc, List.nil_append,
    readEntries, readText_writeText, bind, Except.bind, hcolon, hvalue, h, hcomma,
    skipSpace_append hblanks]

/-- A list is opened, and its members are read behind blanks. -/
theorem readValue_list {items : List Value} (hdepth : depth < maxNesting) (hcs : Opens cs)
    (hblanks : ∀ c ∈ blanks, isSpace c = true)
    (h : readItems fuel (depth + 1) (cs ++ rest) = .ok (items, after)) :
    readValue (fuel + 1) depth ('[' :: (blanks ++ (cs ++ rest))) = .ok (.seq 0 items, after) := by
  have hlevel : ¬ maxNesting ≤ depth := by omega
  have hspace : skipSpace (blanks ++ (cs ++ rest)) = cs ++ rest := by
    rw [skipSpace_append hblanks, skipSpace_opens hcs]
  rcases hcs with ⟨c, more, rfl, hopens⟩
  simp only [readValue, if_neg hlevel, hspace]
  split
  · -- What is first is a value and not the bracket of an empty list.
    rename_i hclose
    cases hclose
    exact absurd rfl (isOpening_spec hopens).2.1
  · rw [h]
    rfl

/-- An object is opened, and its entries are read behind blanks. -/
theorem readValue_object {entries : List (Value × Value)} (hdepth : depth < maxNesting)
    (hcs : Opens cs) (hblanks : ∀ c ∈ blanks, isSpace c = true)
    (h : readEntries fuel (depth + 1) [] (cs ++ rest) = .ok (entries, after)) :
    readValue (fuel + 1) depth ('\x7b' :: (blanks ++ (cs ++ rest)))
      = .ok (.map 0 entries, after) := by
  have hlevel : ¬ maxNesting ≤ depth := by omega
  have hspace : skipSpace (blanks ++ (cs ++ rest)) = cs ++ rest := by
    rw [skipSpace_append hblanks, skipSpace_opens hcs]
  rcases hcs with ⟨c, more, rfl, hopens⟩
  simp only [readValue, if_neg hlevel, hspace]
  -- The entries begin with a name, so no closing brace comes first.
  split
  · rename_i hclose
    cases hclose
    exact absurd rfl (isOpening_spec hopens).2.2.1
  · rw [h]
    rfl

/-- What is written of a value at any level spells it. -/
def Writes (style : Style) (levels : Nat) (v : Value) : Prop :=
  ∀ level, ∃ cs, writeAt style level v = .ok cs ∧ Spells levels cs v

/-- The members of a list are read back up to its closing bracket. The induction is on the
    members; behind each there is a comma or, in the end, the bracket. -/
theorem readItems_writeItems (style : Style) {levels : Nat} (level : Nat) {v : Value}
    {items : List Value} (h : ∀ w ∈ v :: items, Writes style levels w) :
    ∃ ms, writeItems style level (v :: items) = .ok ms ∧ Opens ms ∧
      ∀ fuel depth blanks after, ms.length + 1 ≤ fuel → depth + levels ≤ maxNesting →
        (∀ b ∈ blanks, isSpace b = true) →
        readItems fuel depth (ms ++ (blanks ++ ']' :: after)) = .ok (v :: items, after) := by
  induction items generalizing v with
  | nil =>
      rcases h v (List.mem_cons_self ..) level with ⟨cs, hwrite, hopens, hreads⟩
      refine ⟨cs, ?_, hopens, ?_⟩
      · rw [writeItems, hwrite]
        rfl
      · intro fuel depth blanks after hfuel hdepth hblanks
        obtain ⟨fuel, rfl⟩ : ∃ left, fuel = left + 1 := ⟨fuel - 1, by omega⟩
        exact readItems_last (hreads fuel depth _ (by omega) hdepth
          (endsNumber_blanks hblanks (endsNumber_cons (by simp) after))) hblanks
  | cons w rest ih =>
      rcases h v (List.mem_cons_self ..) level with ⟨cs, hwrite, hopens, hreads⟩
      rcases ih fun u hu => h u (List.mem_cons_of_mem _ hu) with ⟨ms, hmore, hopens', hrest⟩
      rcases separator_eq style level with ⟨gap, hgap, hspaces⟩
      refine ⟨cs ++ (',' :: (gap ++ ms)), ?_, hopens.append _, ?_⟩
      · rw [writeItems, hwrite, hmore, hgap]
        change Except.ok (cs ++ (',' :: gap) ++ ms) = _
        rw [List.append_assoc, List.cons_append]
      · intro fuel depth blanks after hfuel hdepth hblanks
        simp only [List.length_cons, List.length_append] at hfuel
        obtain ⟨fuel, rfl⟩ : ∃ left, fuel = left + 1 := ⟨fuel - 1, by omega⟩
        -- A member takes one unit of fuel, and its comma makes up for it.
        have hvalue := hreads fuel depth (',' :: (gap ++ (ms ++ (blanks ++ ']' :: after))))
          (by omega) hdepth (endsNumber_cons (by simp) _)
        have hstep := readItems_more hvalue hspaces
        rw [skipSpace_opens hopens', hrest fuel depth blanks after (by omega) hdepth hblanks]
          at hstep
        simp only [List.append_assoc, List.cons_append]
        exact hstep

/-- Names that an object does not have yet are put at its end. -/
theorem insert_new {name : String} (v : Value) {before : List (String × Value)}
    (h : name ∉ before.map Prod.fst) :
    Value.insert (.text name) v (before.map fun e => (.text e.1, e.2))
      = (before ++ [(name, v)]).map fun e => (.text e.1, e.2) := by
  induction before with
  | nil => rfl
  | cons e rest ih =>
      rw [List.map_cons, List.mem_cons, not_or] at h
      have hother : (Value.text e.1).sameKey (.text name) = false :=
        beq_eq_false_iff_ne.mpr (Ne.symm h.1)
      rw [List.map_cons, Value.insert, hother, ih h.2]
      rfl

theorem not_mem_of_nodup {e : String × Value} {before entries : List (String × Value)}
    (h : ((before ++ e :: entries).map Prod.fst).Nodup) : e.1 ∉ before.map Prod.fst := by
  rw [List.map_append, List.map_cons, List.nodup_append] at h
  exact fun hmem => h.2.2 e.1 hmem e.1 (List.mem_cons_self ..) rfl

/-- The entries of an object are read back up to its closing brace, behind those that were
    read before. The induction is on the entries. -/
theorem readEntries_writeEntries (style : Style) {levels : Nat} (level : Nat)
    {e : String × Value} (before : List (String × Value)) {entries : List (String × Value)}
    (h : ∀ x ∈ e :: entries, Writes style levels x.2)
    (hnames : ((before ++ e :: entries).map Prod.fst).Nodup) :
    ∃ ms, writeEntries style level ((e :: entries).map fun x => (.text x.1, x.2)) = .ok ms ∧
      Opens ms ∧
      ∀ fuel depth blanks after, ms.length + 1 ≤ fuel → depth + levels ≤ maxNesting →
        (∀ b ∈ blanks, isSpace b = true) →
        readEntries fuel depth (before.map fun x => (.text x.1, x.2))
            (ms ++ (blanks ++ '\x7d' :: after))
          = .ok ((before ++ e :: entries).map fun x => (.text x.1, x.2), after) := by
  have hfresh := not_mem_of_nodup hnames
  rcases h e (List.mem_cons_self ..) level with ⟨cs, hwrite, hopens, hreads⟩
  induction entries generalizing e before cs with
  | nil =>
      refine ⟨entryText style e.1 cs, ?_, ⟨'"', _, rfl, by decide⟩, ?_⟩
      · rw [List.map_cons, writeEntries, hwrite]
        rfl
      · intro fuel depth blanks after hfuel hdepth hblanks
        simp only [entryText, List.length_append, List.length_cons] at hfuel
        obtain ⟨fuel, rfl⟩ : ∃ left, fuel = left + 1 := ⟨fuel - 1, by omega⟩
        rw [readEntries_last style _ _ (hreads fuel depth _ (by omega) hdepth
          (endsNumber_blanks hblanks (endsNumber_cons (by simp) after))) hopens hblanks,
          insert_new e.2 hfresh]
  | cons w rest ih =>
      -- The entry joins those that were read before the others.
      have hnames' : ((before ++ [e] ++ w :: rest).map Prod.fst).Nodup := by
        rw [List.append_assoc]
        exact hnames
      have hrest' : ∀ x ∈ w :: rest, Writes style levels x.2 :=
        fun x hx => h x (List.mem_cons_of_mem _ hx)
      rcases hrest' w (List.mem_cons_self ..) level with ⟨cs', hwrite', hopens', hreads'⟩
      rcases ih (before ++ [e]) hrest' hnames' (not_mem_of_nodup hnames') cs' hwrite' hopens'
        hreads' with ⟨ms, hmore, hfirst, hrest⟩
      rcases separator_eq style level with ⟨gap, hgap, hspaces⟩
      refine ⟨entryText style e.1 cs ++ (',' :: (gap ++ ms)), ?_, ⟨'"', _, rfl, by decide⟩, ?_⟩
      · rw [List.map_cons, writeEntries, hwrite, hmore, hgap]
        change Except.ok (entryText style e.1 cs ++ (',' :: gap) ++ ms) = _
        rw [List.append_assoc, List.cons_append]
      · intro fuel depth blanks after hfuel hdepth hblanks
        simp only [entryText, List.length_append, List.length_cons] at hfuel
        obtain ⟨fuel, rfl⟩ : ∃ left, fuel = left + 1 := ⟨fuel - 1, by omega⟩
        have hvalue := hreads fuel depth (',' :: (gap ++ (ms ++ (blanks ++ '\x7d' :: after))))
          (by omega) hdepth (endsNumber_cons (by simp) _)
        have hstep := readEntries_more style e.1 (before.map fun x => (.text x.1, x.2)) hvalue
          hopens hspaces
        rw [insert_new e.2 hfresh, skipSpace_opens hfirst,
          hrest fuel depth blanks after (by omega) hdepth hblanks, List.append_assoc] at hstep
        simp only [List.append_assoc, List.cons_append]
        exact hstep

theorem holdsLong_of_mem_entries {entries : List (String × Value)}
    (h : (Value.object entries).holdsLong = false) : ∀ e ∈ entries, e.2.holdsLong = false :=
  fun e he => (Value.entryHoldsLong_iff.mp h (.text e.1, e.2) (List.mem_map.mpr ⟨e, he, rfl⟩)).2

/-- A value with a form, and no integer in it that is too long, is written in a text that
    spells it. The induction is on the form. -/
theorem write_formed {levels : Nat} {v : Value} (h : Formed levels v)
    (hshort : v.holdsLong = false) (style : Style) : Writes style levels v := by
  induction h with
  | null => exact fun level => ⟨_, rfl, spells_name _ (by simp)⟩
  | bool b =>
      intro level
      refine ⟨_, rfl, spells_name _ ?_⟩
      cases b <;> simp
  | int n =>
      intro level
      refine ⟨(toString n).toList, ?_, spells_integer _ hshort⟩
      have hn : isLong n = false := hshort
      simp only [writeAt, writeInteger, hn, Bool.false_eq_true, if_false]
  | text s => exact fun level => ⟨_, rfl, spells_text _ style s⟩
  | @list levels items _ ih =>
      intro level
      have hitems := Value.anyHoldsLong_iff.mp hshort
      cases items with
      | nil => exact ⟨['[', ']'], rfl, spells_empty_list levels⟩
      | cons w rest =>
          rcases readItems_writeItems style (level + 1) fun u hu => ih u hu (hitems u hu)
            with ⟨ms, hwrite, hopens, hreads⟩
          refine ⟨brackets style level '[' ']' ms, ?_, ⟨'[', _, rfl, by decide⟩, ?_⟩
          · simp only [writeAt, List.isEmpty_cons, hwrite]
            rfl
          · -- Inside the brackets the text is one level deeper and shorter by two.
            intro fuel depth after hfuel hdepth _
            simp only [brackets, List.length_cons, List.length_append, List.length_nil] at hfuel
            obtain ⟨fuel, rfl⟩ : ∃ left, fuel = left + 1 := ⟨fuel - 1, by omega⟩
            have hinner := hreads fuel (depth + 1) (lineBreak style level) after (by omega)
              (by omega) (isSpace_lineBreak style level)
            have hlist := readValue_list (by omega) hopens (isSpace_lineBreak style (level + 1))
              hinner
            simp only [brackets, List.append_assoc, List.cons_append, List.nil_append]
            exact hlist
  | @object levels entries hnames _ ih =>
      intro level
      have hentries := holdsLong_of_mem_entries hshort
      cases entries with
      | nil => exact ⟨['\x7b', '\x7d'], rfl, spells_empty_object levels⟩
      | cons e rest =>
          rcases readEntries_writeEntries style (level + 1) []
            (fun x hx => ih x hx (hentries x hx)) hnames with ⟨ms, hwrite, hopens, hreads⟩
          refine ⟨brackets style level '\x7b' '\x7d' ms, ?_, ⟨'\x7b', _, rfl, by decide⟩, ?_⟩
          · simp only [Value.object, writeAt, List.map_cons, List.isEmpty_cons] at hwrite ⊢
            rw [hwrite]
            rfl
          · intro fuel depth after hfuel hdepth _
            simp only [brackets, List.length_cons, List.length_append, List.length_nil] at hfuel
            obtain ⟨fuel, rfl⟩ : ∃ left, fuel = left + 1 := ⟨fuel - 1, by omega⟩
            have hinner := hreads fuel (depth + 1) (lineBreak style level) after (by omega)
              (by omega) (isSpace_lineBreak style level)
            have hobject := readValue_object (by omega) hopens
              (isSpace_lineBreak style (level + 1)) hinner
            simp only [brackets, List.append_assoc, List.cons_append, List.nil_append]
            exact hobject

/-- What is written is read back, with blanks behind it. -/
theorem parse_write {levels : Nat} {v : Value} (h : Formed levels v) (hdepth : levels ≤ maxNesting)
    (hshort : v.holdsLong = false) (style : Style) :
    ∃ text, write style v = .ok text ∧
      ∀ blanks : String, (∀ c ∈ blanks.toList, isSpace c = true) →
        parse (text ++ blanks) = .ok v := by
  rcases write_formed h hshort style 0 with ⟨cs, hwrite, hopens, hreads⟩
  refine ⟨String.ofList cs, ?_, fun blanks hblanks => ?_⟩
  · unfold write
    rw [hwrite]
    rfl
  · have hends : EndsNumber blanks.toList := by
      have hnone : EndsNumber [] := fun c hc => by cases hc
      have hall := endsNumber_blanks hblanks hnone
      rwa [List.append_nil] at hall
    have hvalue := hreads (2 * (cs ++ blanks.toList).length + 2) 0 blanks.toList
      (by rw [List.length_append]; omega) (by omega) hends
    have hend : skipSpace blanks.toList = [] := by
      have hall := skipSpace_append hblanks []
      rwa [List.append_nil] at hall
    have hdocument : readDocument (cs ++ blanks.toList) = .ok v := by
      have hgo : readDocument.go (cs ++ blanks.toList) = .ok v := by
        unfold readDocument.go
        rw [skipSpace_opens hopens, hvalue]
        simp only [bind, Except.bind, hend]
        rfl
      rcases hopens with ⟨c, more, rfl, hopens⟩
      -- No value begins with the mark of the byte order, so nothing is passed before it.
      have hmark : (c.toNat == 0xFEFF) = false :=
        beq_eq_false_iff_ne.mpr (isOpening_spec hopens).2.2.2
      simp only [List.cons_append, readDocument, hmark]
      exact hgo
    unfold parse
    simp only [String.toList_append, String.toList_ofList, hdocument]

theorem writeItems_long (style : Style) (level : Nat) {items : List Value}
    (hlong : Value.anyHoldsLong items = true)
    (hfails : ∀ v ∈ items, v.holdsLong = true → writeAt style level v = .error .longInteger)
    (hwrites : ∀ v ∈ items, v.holdsLong = false → ∃ cs, writeAt style level v = .ok cs) :
    writeItems style level items = .error .longInteger := by
  induction items with
  | nil => cases hlong
  | cons v rest ih =>
      rw [List.forall_mem_cons] at hfails hwrites
      -- The first item that fails ends the writing; those before it are written.
      cases hv : v.holdsLong with
      | true =>
          rw [writeItems, hfails.1 hv]
          rfl
      | false =>
          rcases hwrites.1 hv with ⟨cs, hcs⟩
          rw [Value.anyHoldsLong, hv, Bool.false_or] at hlong
          rw [writeItems, hcs, ih hlong hfails.2 hwrites.2]
          rfl

theorem writeEntries_long (style : Style) (level : Nat) {entries : List (String × Value)}
    (hlong : (Value.object entries).holdsLong = true)
    (hfails : ∀ e ∈ entries, e.2.holdsLong = true →
      writeAt style level e.2 = .error .longInteger)
    (hwrites : ∀ e ∈ entries, e.2.holdsLong = false → ∃ cs, writeAt style level e.2 = .ok cs) :
    writeEntries style level (entries.map fun e => (.text e.1, e.2)) = .error .longInteger := by
  change Value.entryHoldsLong (entries.map fun e => (.text e.1, e.2)) = true at hlong
  induction entries with
  | nil => cases hlong
  | cons e rest ih =>
      rw [List.forall_mem_cons] at hfails hwrites
      rw [List.map_cons]
      cases hv : e.2.holdsLong with
      | true =>
          rw [writeEntries, hfails.1 hv]
          rfl
      | false =>
          rcases hwrites.1 hv with ⟨cs, hcs⟩
          rw [List.map_cons, Value.entryHoldsLong, hv] at hlong
          rw [writeEntries, hcs, ih hfails.2 hwrites.2 hlong]
          rfl

/-- A value with an integer that is too long is not written, in any style. The induction is on
    the form. -/
theorem write_long {levels : Nat} {v : Value} (h : Formed levels v) (hlong : v.holdsLong = true)
    (style : Style) (level : Nat) : writeAt style level v = .error .longInteger := by
  -- The parts before the one that is too long are written, and it is the first to fail.
  have hwrites {levels : Nat} {v : Value} (h : Formed levels v) (level : Nat)
      (hshort : v.holdsLong = false) : ∃ cs, writeAt style level v = .ok cs := by
    rcases write_formed h hshort style level with ⟨cs, hcs, _⟩
    exact ⟨cs, hcs⟩
  induction h generalizing level with
  | null | bool | text => cases hlong
  | int n =>
      have hn : isLong n = true := hlong
      simp only [writeAt, writeInteger, hn, if_true]
  | @list levels items hitems ih =>
      cases items with
      | nil => cases hlong
      | cons v rest =>
          have hmembers := writeItems_long style (level + 1) hlong
            (fun v hv h => ih v hv h (level + 1)) fun v hv => hwrites (hitems v hv) (level + 1)
          simp only [writeAt, List.isEmpty_cons, hmembers]
          rfl
  | @object levels entries hnames hentries ih =>
      cases entries with
      | nil => cases hlong
      | cons e rest =>
          have hmembers := writeEntries_long style (level + 1) hlong
            (fun e he h => ih e he h (level + 1)) fun e he => hwrites (hentries e he) (level + 1)
          simp only [Value.object, writeAt, List.map_cons, List.isEmpty_cons] at hmembers ⊢
          rw [hmembers]
          rfl

end Json

end Annals
