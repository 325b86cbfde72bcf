import Annals.Proofs.Schema.Paths
import Annals.Proofs.Schema.Resources
import Annals.Yaml.Construct
import Mathlib.Data.List.Nodup

/-!
# Places as Texts

The place of a violation is shown as a text: the indices and keys on its path, each after a
slash. The text does not say what kind of key each of them was, and nothing in it is escaped, so
two places can have the same text: where a key has a slash in it (`place_slash`), where two keys
of a mapping are written in the same way, where the schema has another name for a key, or where
a key that is null hides a part of the path.

Where none of this is the case (`ToldApart`), the text says what the path is. There are two
steps to this. Texts without slashes are found again between the slashes (`texts_of_joined`).
And if two paths lead into a value and have the same texts, they are the same path: at each
mapping there is only one entry whose key has the text, so both go on in the same part
(`Leads.same_of_texts`).

## Main definitions

* `Schema.ToldApart`: Keys and names that are told apart by their texts.
* `Schema.names`: The names that a schema can have for keys.

## Theorems

* `texts_of_joined`: Texts without slashes, joined.
* `Leads.same_of_texts`: Two paths with the same texts.
* `toldApart_of_texts`: Keys and names that are texts.
* `path_of_place`: Two violations whose places have the same text.
* `place_slash`: Not all violations whose places have the same text have the same path.
-/

namespace Annals

namespace Schema

/-- Texts without slashes are found again between the slashes. Read from the end, each of them
    is a word that ends in the first slash. -/
theorem texts_of_joined {ks ls : List String} (hks : ∀ k ∈ ks, '/' ∉ k.toList)
    (hls : ∀ l ∈ ls, '/' ∉ l.toList)
    (h : String.join (ks.map ("/" ++ ·)) = String.join (ls.map ("/" ++ ·))) : ks = ls := by
  have hreverse (texts : List String) : (String.join (texts.map ("/" ++ ·))).toList.reverse
      = texts.reverse.flatMap fun k => k.toList.reverse ++ ['/'] := by
    rw [String.toList_join, List.flatMap_map, List.reverse_flatMap]
    exact congrArg (texts.reverse.flatMap ·) (funext fun k => by simp)
  have hflat := congrArg (fun s => s.toList.reverse) h
  simp only [hreverse] at hflat
  have hspan {k : String} (hk : '/' ∉ k.toList) (more : List Char) :
      (k.toList.reverse ++ '/' :: more).takeWhile (· != '/') = k.toList.reverse ∧
        (k.toList.reverse ++ '/' :: more).dropWhile (· != '/') = '/' :: more :=
    span_append (fun c hc => bne_iff_ne.mpr fun heq => hk (heq ▸ List.mem_reverse.mp hc)) (by simp)
  -- Read backwards, no word begins another one, so the whole can be read in one way only.
  refine List.reverse_inj.mp (flatMap_inj (p := fun k => '/' ∉ k.toList) (by simp) ?_
    (by simpa using hks) (by simpa using hls) hflat)
  intro k l hk hl u v huv
  simp only [List.append_assoc, List.singleton_append] at huv
  have htext := (hspan hk u).1.symm.trans (huv ▸ (hspan hl v).1)
  have hrest := (hspan hk u).2.symm.trans (huv ▸ (hspan hl v).2)
  exact ⟨String.toList_inj.mp (List.reverse_inj.mp htext), (List.cons.inj hrest).2⟩

/-- The keys of a mapping, and the names that are known for them, are told apart by their texts,
    and no key that is null hides a part of a path. -/
structure ToldApart (names : List Value) (outline : List (Value × Bool)) : Prop where
  nodup : (outline.map fun e => e.1.plain).Nodup
  plain_eq : ∀ k ∈ outline.map Prod.fst, ∀ a ∈ names ++ outline.map Prod.fst,
    k.sameKey a = true → k.plain = a.plain
  same : ∀ a ∈ names ++ outline.map Prod.fst, ∀ b ∈ names ++ outline.map Prod.fst,
    a.plain = b.plain → a.sameKey b = true
  unhidden : (Value.null, true) ∉ outline

/-- Names and keys that are texts are told apart. -/
theorem toldApart_of_isText {names : List Value} {outline : List (Value × Bool)}
    (hnames : ∀ a ∈ names, a.isText = true) (hkeys : ∀ e ∈ outline, e.1.isText = true)
    (hnodup : (outline.map fun e => e.1.plain).Nodup) : ToldApart names outline := by
  have hall : ∀ a ∈ names ++ outline.map Prod.fst, a.isText = true := by
    refine List.forall_mem_append.mpr ⟨hnames, fun a ha => ?_⟩
    rcases List.mem_map.mp ha with ⟨e, he, rfl⟩
    exact hkeys e he
  -- Texts that are the same key, or look the same, are the same text.
  have htext {a : Value} (ha : a.isText = true) : ∃ t, a = .text t := by
    cases a with
    | text t => exact ⟨t, rfl⟩
    | _ => cases ha
  refine ⟨hnodup, fun k hk a ha hsame => ?_, fun a ha b hb hplain => ?_, fun hnull => ?_⟩
  · rcases htext (hall k (List.mem_append_right _ hk)) with ⟨t, rfl⟩
    rcases htext (hall a ha) with ⟨u, rfl⟩
    exact eq_of_beq hsame
  · rcases htext (hall a ha) with ⟨t, rfl⟩
    rcases htext (hall b hb) with ⟨u, rfl⟩
    exact beq_iff_eq.mpr hplain
  · exact absurd (hkeys _ hnull) (by decide)

/-- An index is known by its text. -/
theorem eq_of_plain_index {i j : Nat} (h : (Value.int i).plain = (Value.int j).plain) : i = j := by
  have htext : Nat.repr i = Nat.repr j := h
  rw [Nat.repr_eq_ofList_toDigits, Nat.repr_eq_ofList_toDigits, String.ofList_inj] at htext
  have hvalue := congrArg (Nat.ofDigitChars 10 · 0) htext
  simpa only [Nat.ofDigitChars_toDigits (b := 10) (by decide) (by decide)] using hvalue

section Ways

variable {names : List Value}

/-- The entry of a mapping whose key has a text. -/
theorem ToldApart.eq_of_plain {entries : List (Value × Value)} {e f : Value × Value}
    (h : ToldApart names (Value.outline entries)) (he : e ∈ entries) (hf : f ∈ entries)
    (htext : e.1.plain = f.1.plain) : e = f := by
  have hnodup := h.nodup
  rw [Value.outline, List.map_map] at hnodup
  exact List.inj_on_of_nodup_map hnodup he hf htext

theorem Leads.of_seq {id : Nat} {items : List Value} {k : Value} {path : List Value}
    (h : Leads names (.seq id items) (k :: path)) :
    ∃ (i : Nat) (v : Value), k = .int i ∧ items[i]? = some v ∧
      Leads names ((Value.seq id items).part v) path := by
  cases h with
  | item hi h => exact ⟨_, _, rfl, hi, h⟩

/-- A path into a mapping begins with a name. It goes no further, or on in the only part whose
    key has the text of the name. -/
theorem Leads.of_map {id : Nat} {entries : List (Value × Value)} {k : Value} {path : List Value}
    (hkeys : ToldApart names (Value.outline entries))
    (h : Leads names (.map id entries) (k :: path)) :
    k ∈ names ++ (Value.outline entries).map Prod.fst ∧
      (path = [] ∨ ∃ e ∈ entries, e.1.plain = k.plain ∧
        Leads names ((Value.map id entries).part e.2) path) := by
  have houtline : (Value.outline entries).map Prod.fst = entries.map Prod.fst :=
    List.map_map
  have hmem {e : Value × Value} (he : e ∈ entries) :
      e.1 ∈ (Value.outline entries).map Prod.fst := by
    rw [houtline]
    exact List.mem_map.mpr ⟨e, he, rfl⟩
  generalize hpath : k :: path = whole at h
  cases h with
  | here => cases hpath
  | entry he hk hsame h =>
      cases hpath
      rw [← houtline] at hk
      refine ⟨hk, Or.inr ⟨_, he, ?_, h⟩⟩
      exact hsame.elim (congrArg Value.plain) (hkeys.plain_eq _ (hmem he) _ hk)
  | absent hk =>
      cases hpath
      rw [← houtline] at hk
      exact ⟨hk, Or.inl rfl⟩
  | @unnamed _ _ e _ he hnull h =>
      -- Nothing leads on below a key that is null.
      have hnone : ((Value.map id entries).part e.2).isContainer = false := by
        rw [Value.isContainer_part rfl]
        refine Bool.eq_false_iff.mpr fun hyes => hkeys.unhidden ?_
        exact List.mem_map.mpr ⟨e, he, by rw [hnull, hyes]⟩
      rw [h.eq_nil hnone] at hpath
      cases hpath
  | @key _ _ e _ he h =>
      -- What is the same as itself is no container.
      have hown := List.mem_append_right names (hmem he)
      have hnone : e.1.isContainer = false := by
        have hsame := hkeys.same _ hown _ hown rfl
        cases hkey : e.1 with
        | seq | map | back =>
            rw [hkey] at hsame
            cases hsame
        | _ => rfl
      rw [h.eq_nil hnone] at hpath
      cases hpath

/-- Two paths into a value that have the same texts are the same path. The induction is on the
    path: both begin with the index of one item or with names for one key, and go on in the same
    part. -/
theorem Leads.same_of_texts {v : Value} {path other : List Value} (hp : Leads names v path)
    (ho : Leads names v other) (hkeys : ∀ o ∈ v.outlines, ToldApart names o)
    (h : path.map Value.plain = other.map Value.plain) :
    List.Forall₂ (fun a b => a.sameKey b = true) path other := by
  induction path generalizing v other with
  | nil =>
      cases other with
      | nil => exact .nil
      | cons l more => cases h
  | cons k rest ih =>
      cases other with
      | nil => cases h
      | cons l more =>
          rcases List.cons.inj h with ⟨hkl, hrest⟩
          cases v with
          | seq id items =>
              rcases hp.of_seq with ⟨i, w, rfl, hi, hp⟩
              rcases ho.of_seq with ⟨j, u, rfl, hj, ho⟩
              obtain rfl := eq_of_plain_index hkl
              obtain rfl : w = u := Option.some.inj (hi.symm.trans hj)
              have hpart : ((Value.seq id items).part w).outlines ⊆ (Value.seq id items).outlines :=
                Value.outlines_part rfl (Value.outlines_item (List.mem_of_getElem? hi))
              refine .cons ?_ (ih hp ho (fun o hmem => hkeys o (hpart hmem)) hrest)
              simp [Value.sameKey, Value.sameNumber, Value.number?, Extended.compare]
          | map id entries =>
              -- The keys of a mapping are told apart by their texts, and so are the names that lead
              -- to none of its entries.
              have htold := hkeys _ (Value.outline_mem id entries)
              rcases hp.of_map htold with ⟨hk, hp⟩
              rcases ho.of_map htold with ⟨hl, ho⟩
              refine .cons (htold.same k hk l hl hkl) ?_
              rcases hp with rfl | ⟨e, he, hek, hp⟩
              · rw [List.map_nil, eq_comm, List.map_eq_nil_iff] at hrest
                rw [hrest]
                exact .nil
              · rcases ho with rfl | ⟨f, hf, hfl, ho⟩
                · rw [List.map_nil, List.map_eq_nil_iff] at hrest
                  rw [hrest]
                  exact .nil
                · obtain rfl : e = f := htold.eq_of_plain he hf (by rw [hek, hfl, hkl])
                  have hpart : ((Value.map id entries).part e.2).outlines ⊆
                      (Value.map id entries).outlines :=
                    Value.outlines_part rfl (Value.outlines_entry he)
                  exact ih hp ho (fun o hmem => hkeys o (hpart hmem)) hrest
          | _ => cases hp

end Ways

/-- The names that an accepted schema can have for keys: the keys in it and in the standard
    schemas. -/
def names (root : Value) : List Value := namesOf (root.outlines ++ standardOutlines)

/-- In a mapping whose keys are different texts they are told apart, for a schema in which all keys
    are texts. -/
theorem toldApart_of_texts {root : Value} {outline : List (Value × Bool)}
    (hroot : ∀ o ∈ root.outlines, ∀ e ∈ o, e.1.isText = true)
    (hkeys : ∀ e ∈ outline, e.1.isText = true) (hnodup : (outline.map fun e => e.1.plain).Nodup) :
    ToldApart (names root) outline := by
  refine toldApart_of_isText (fun a ha => ?_) hkeys hnodup
  rcases List.mem_flatMap.mp ha with ⟨o, ho, ha⟩
  rcases List.mem_map.mp ha with ⟨e, he, rfl⟩
  rcases List.mem_append.mp ho with ho | ho
  · exact hroot o ho e he
  · exact isText_standard o ho e he

/-! ### Sample schemas -/

/-- The violations that are reported are those that are found, if all of them can be. -/
theorem violations_of_judge {s : Schema} {value : Value} {found : List Violation}
    (h : (judge s.registry s.dialect false s.root value).violations = .ok found)
    (hreportable : found.all Violation.isReportable = true) :
    ∃ all, s.violations value = .ok all ∧ ∀ v ∈ found, v ∈ all := by
  unfold violations
  rw [h]
  exact ⟨_, if_pos hreportable, fun v hv => List.mem_mergeSort.mpr hv⟩

/-- A schema that only refers to rules which stand in it under a name of their own. It is
    accepted whatever the rules are. -/
def referring (rules : Value) : Value :=
  .object [("$schema", .text "http://json-schema.org/draft-07/schema#"),
    ("$ref", .text "#/rules"), ("rules", rules)]

/-- The schema with what it can refer to. -/
def referringSchema (rules : Value) : Schema :=
  ⟨referring rules, .seventh, ⟨standardSchemas, [⟨"", true, .seventh, referring rules, []⟩],
    crawl .seventh "" (referring rules)⟩⟩

theorem accept_referring (rules : Value) :
    accept (referring rules) = .ok (referringSchema rules) := rfl

/-- Rules for a mapping to mappings of integers. -/
def nestedRules : Value :=
  .object [("additionalProperties", .object [("type", .text "object"), ("minProperties", .int 1),
    ("required", .seq 0 [.text "x"]),
    ("additionalProperties", .object [("type", .text "integer")])])]

/-! ### The text of a place -/

/-- Violations whose places have the same text have the same path, where keys and names are
    told apart by their texts and no key on the paths has a slash in it. -/
theorem path_of_place {root value : Value} {s : Schema} {found : List Violation}
    (hroot : accept root = .ok s) (h : s.violations value = .ok found)
    (hkeys : ∀ o ∈ value.outlines, ToldApart (names root) o) {v w : Violation} (hv : v ∈ found)
    (hw : w ∈ found) (hslash : ∀ k ∈ v.path ++ w.path, '/' ∉ k.plain.toList)
    (hplace : v.place = w.place) :
    List.Forall₂ (fun a b => a.sameKey b = true) v.path w.path := by
  rw [List.forall_mem_append] at hslash
  have hdocuments := outlines_documents hroot
  have htexts : v.key = w.key :=
    texts_of_joined (List.forall_mem_map.mpr hslash.1) (List.forall_mem_map.mpr hslash.2) hplace
  exact (leads_of_mem_violations hdocuments h hv).same_of_texts
    (leads_of_mem_violations hdocuments h hw) hkeys htexts

/-- A mapping that is empty and does not have the key that it should have: two violations of one
    place. -/
theorem path_of_place_empty :
    let root := referring nestedRules
    let value : Value := .object [("a", .object [])]
    ∃ s found v w, accept root = .ok s ∧ s.violations value = .ok found ∧ v ∈ found ∧ w ∈ found ∧
      v.keyword = some "minProperties" ∧ w.keyword = some "required" ∧ v.place = w.place ∧
      List.Forall₂ (fun a b => a.sameKey b = true) v.path w.path := by
  intro root value
  have hchecked : (judge (referringSchema nestedRules).registry .seventh false root
      value).violations.toOption.any (fun found => found.all Violation.isReportable &&
        found.map (fun v => (v.keyword, v.key)) ==
          [(some "minProperties", ["a"]), (some "required", ["a"])]) = true := by
    decide +kernel
  rcases exists_of_any_toOption hchecked with ⟨found, hfound, hchecked⟩
  rcases Bool.and_eq_true_iff.mp hchecked with ⟨hreportable, hshown⟩
  rcases List.map_eq_cons_iff.mp (eq_of_beq hshown) with ⟨v, rest, rfl, hv, hrest⟩
  rcases List.map_eq_cons_iff.mp hrest with ⟨w, none, rfl, hw, -⟩
  rcases Prod.mk.inj hv with ⟨hvkeyword, hvkey⟩
  rcases Prod.mk.inj hw with ⟨hwkeyword, hwkey⟩
  rcases violations_of_judge (s := referringSchema nestedRules) hfound hreportable
    with ⟨all, hall, hmem⟩
  have hvmem := hmem v (List.mem_cons_self ..)
  have hwmem := hmem w (List.mem_cons_of_mem _ (List.mem_cons_self ..))
  have hroot : ∀ o ∈ root.outlines, ∀ e ∈ o, e.1.isText = true := by decide
  have hkeys : ∀ o ∈ value.outlines, (∀ e ∈ o, e.1.isText = true) ∧
      (o.map fun e => e.1.plain).Nodup := by decide
  have htold : ∀ o ∈ value.outlines, ToldApart (names root) o := fun o ho =>
    toldApart_of_texts hroot (hkeys o ho).1 (hkeys o ho).2
  -- No text in the two paths has a slash.
  have hslash : ∀ k ∈ v.path ++ w.path, '/' ∉ k.plain.toList := by
    have htexts : ∀ t ∈ v.key ++ w.key, '/' ∉ t.toList := by
      rw [hvkey, hwkey]
      decide
    exact fun k hk => htexts k.plain (by
      rw [Violation.key, Violation.key, ← List.map_append]
      exact List.mem_map.mpr ⟨k, hk, rfl⟩)
  have hplace : v.place = w.place := by rw [Violation.place, Violation.place, hvkey, hwkey]
  exact ⟨_, all, v, w, accept_referring nestedRules, hall, hvmem, hwmem, hvkeyword, hwkeyword,
    hplace, path_of_place (accept_referring nestedRules) hall htold hvmem hwmem hslash hplace⟩

/-- A key with a slash in it and two keys without one, in a schema that is accepted and a
    value that is decoded: the places have the same text, and the paths are not the same. -/
theorem place_slash :
    ¬ ∀ (root : Value) (s : Schema) (text : String) (value : Value) (found : List Violation),
      accept root = .ok s → Yaml.decode true text = .ok value → s.violations value = .ok found →
      ∀ v ∈ found, ∀ w ∈ found, v.place = w.place →
        List.Forall₂ (fun a b => a.sameKey b = true) v.path w.path := by
  intro h
  have hchecked : (Yaml.decode true "a/b: 1\na:\n  x: 1\n  b: c\n").toOption.any (fun value =>
      (judge (referringSchema nestedRules).registry .seventh false (referring nestedRules)
        value).violations.toOption.any (fun found => found.all Violation.isReportable &&
          found.map Violation.key == [["a/b"], ["a", "b"]])) = true := by
    decide +kernel
  rcases exists_of_any_toOption hchecked with ⟨value, hvalue, hchecked⟩
  rcases exists_of_any_toOption hchecked with ⟨found, hfound, hchecked⟩
  rcases Bool.and_eq_true_iff.mp hchecked with ⟨hreportable, hshown⟩
  rcases List.map_eq_cons_iff.mp (eq_of_beq hshown) with ⟨v, rest, rfl, hv, hrest⟩
  rcases List.map_eq_cons_iff.mp hrest with ⟨w, none, rfl, hw, -⟩
  rcases violations_of_judge (s := referringSchema nestedRules) hfound hreportable
    with ⟨all, hall, hmem⟩
  have hplace : v.place = w.place := by
    rw [Violation.place, Violation.place, hv, hw]
    decide
  have hpaths := h _ _ _ value all (accept_referring nestedRules) hvalue hall
    v (hmem v (List.mem_cons_self ..)) w (hmem w (List.mem_cons_of_mem _ (List.mem_cons_self ..)))
    hplace
  -- Paths that are the same have the same length, and these have not.
  have hlength : v.key.length = w.key.length := by
    rw [Violation.key, Violation.key, List.length_map, List.length_map, hpaths.length_eq]
  rw [hv, hw] at hlength
  cases hlength

end Schema

end Annals
