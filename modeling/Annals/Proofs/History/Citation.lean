import Annals.Proofs.History.Chronicle
import Annals.Proofs.Markdown.Slugs
import Annals.Proofs.Yaml.Readings

/-!
# Headings Referred To Plainly

A section with one record, in which the slug of a heading is not quoted.

Both texts of the record are single words, so the section can be written, and its nodes
are known whatever the slug is read as. What is not known is whether anything can be made
of the slug: it may look like a day that does not exist. If something is made of it, the
section is decoded to the value with this in the place of the heading, and otherwise it is
not decoded at all.

## Main definitions

* `History.IsPlainUrl`: An address that can be written plainly.
* `History.citation`: A section with one record that refers to a heading.
* `History.citationValue`: What it is decoded to.

## Theorems

* `decode_citation_string`: A slug that is a string is decoded to itself.
* `decode_citation_other`: A slug that is not is decoded to no text.
-/

namespace Annals

namespace History

open Yaml

/-- An address that can be written plainly: one word of printable characters behind the name
    of its protocol, without a colon at its end. -/
structure IsPlainUrl (url : List Char) : Prop where
  begins : "https://".toList <+: url
  inked : ∀ x ∈ url, isGap x = false ∧ isInline x = true ∧ isTextChar x = true
  ends : url.getLast? ≠ some ':'

/-- The lines of a section with one record that refers to a heading. -/
def citationLines (t : Topic) (url slug : List Char) : List (List Char) :=
  [t.name ++ [':'], "  - ".toList ++ (urlKey ++ ':' :: ' ' :: url),
    "    ".toList ++ (headerKey ++ ':' :: ' ' :: slug)]

/-- A section with one record that refers to a heading. -/
def citation (t : Topic) (url slug : String) : String :=
  String.ofList (Text.unlines (citationLines t url.toList slug.toList))

/-- What such a section is decoded to, with what its slug is read as. -/
def citationValue (t : Topic) (url : String) (header : Value) : Value :=
  .map 1 [(.text (String.ofList t.name), .seq 3 [.map 4 [(.text (String.ofList urlKey), .text url),
    (.text (String.ofList headerKey), header)]])]

namespace Citation

/-- The record as a tree. -/
def entries (url slug : List Char) : List (List Char × Yaml.Tree) :=
  [(urlKey, .text url true), (headerKey, .text slug true)]

/-- The section as a tree. -/
def tree (t : Topic) (url slug : List Char) : Yaml.Tree :=
  .entries [(t.name, .list [.entries (entries url slug)])]

/-- The nodes of the section. -/
def nodes (t : Topic) (url slug : List Char) : List (String × Content) :=
  [(Tag.map, .mapping [(1, 2)]), (Tag.str, .scalar (String.ofList t.name)),
    (Tag.seq, .sequence [3]), (Tag.map, .mapping [(4, 5), (6, 7)]),
    (Tag.str, .scalar (String.ofList urlKey)), (Tag.str, .scalar (String.ofList url)),
    (Tag.str, .scalar (String.ofList headerKey)),
    (Tag.ofPlain (String.ofList slug), .scalar (String.ofList slug))]

variable {t : Topic} {url slug : List Char}

theorem isWord_url (h : IsPlainUrl url) : IsWord url := by
  rcases h.begins with ⟨rest, hrest⟩
  refine ⟨?_, fun x hx => ⟨(h.inked x hx).1, (h.inked x hx).2.1⟩, ?_, ?_, h.ends⟩
  all_goals rw [← hrest]
  · exact List.append_ne_nil_of_left_ne_nil (by decide) _
  · rintro x ⟨⟩
    decide
  · exact fun hhyphen => by cases congrArg List.head? hhyphen

theorem ofPlain_url (h : IsPlainUrl url) : Tag.ofPlain (String.ofList url) = Tag.str := by
  rcases h.begins with ⟨rest, hrest⟩
  refine ofPlain_https hrest.symm (fun hlast => ?_)
  have hgap := (h.inked '\n' (List.mem_of_getLast? hlast)).1
  revert hgap
  decide

/-- No mark of YAML but the hyphen is a character of slugs. -/
theorem not_indicator {x : Char} (h : Slug.isSlugChar x = true) :
    Scanner.isIndicator x = false ∨ x = '-' := by
  cases hmark : Scanner.isIndicator x with
  | false => exact Or.inl rfl
  | true =>
      -- The marks are ASCII, so they can be checked one by one.
      have hlow : x.toNat < 128 := by
        have hmarks : ∀ y ∈ "-?:,[]#&*!|>'\"%@".toList, y.toNat < 128 :=
          List.forall_iff_forall_mem.mp (by decide)
        unfold Scanner.isIndicator at hmark
        simp only [Bool.or_eq_true, List.contains_iff_mem, beq_iff_eq] at hmark
        rcases hmark with ((hmem | hcode) | hcode) | hcode
        · exact hmarks x hmem
        all_goals omega
      have hall := of_ascii
        (p := fun x => !(Slug.isSlugChar x && Scanner.isIndicator x) || x == '-')
        (by decide +kernel) hlow
      simp only [h, hmark] at hall
      exact Or.inr (eq_of_beq hall)

theorem isWord_slug (h : Slug.IsSlug slug) (hhyphen : slug ≠ ['-']) : IsWord slug := by
  refine ⟨h.nonempty, fun x hx => ?_, fun x hx => ?_, hhyphen, fun hlast => ?_⟩
  · exact ⟨(Slug.inked (h.isChar x hx)).1, (Slug.inked (h.isChar x hx)).2.1⟩
  · exact not_indicator (h.isChar x (List.mem_of_mem_head? hx))
  · exact h.not_mem (Or.inl (by decide +kernel)) (List.mem_of_getLast? hlast)

theorem fits (hurl : IsPlainUrl url) (hslug : Slug.IsSlug slug) (hhyphen : slug ≠ ['-']) :
    (tree t url slug).Fits := by
  -- From the inside out: the record, the list with this one record, and the section.
  have hrecord : (Yaml.Tree.entries (entries url slug)).Fits := by
    have hdiffer : [urlKey, headerKey].Nodup := by decide
    refine .entries (List.cons_ne_nil _ _) hdiffer (fun e he => ?_) (fun e he => ?_)
    all_goals simp only [entries, List.mem_cons, List.not_mem_nil, or_false] at he
    · have hurlKey : urlKey ∈ recordKeys ++ sectionKeys := by decide
      have hheaderKey : headerKey ∈ recordKeys ++ sectionKeys := by decide
      rcases he with rfl | rfl
      · exact isKey hurlKey
      · exact isKey hheaderKey
    · rcases he with rfl | rfl
      · exact .word (isWord_url hurl)
      · exact .word (isWord_slug hslug hhyphen)
  refine .entries (List.cons_ne_nil _ _) (List.nodup_singleton _) (fun e he => ?_) (fun e he => ?_)
  all_goals rw [List.mem_singleton.mp he]
  · exact isKey (List.mem_append_right _ t.mem_sectionKeys)
  · refine .list (List.cons_ne_nil _ _) (fun r hr => ?_) (fun r hr => ?_)
    all_goals rw [List.mem_singleton.mp hr]
    · rfl
    · exact hrecord

theorem lines_eq (t : Topic) (url slug : List Char) :
    (tree t url slug).lines [] 0 = citationLines t url slug := by
  have hfour : List.replicate 4 ' ' = "    ".toList := rfl
  simp [tree, entries, citationLines, Yaml.Tree.lines, Yaml.Tree.entryLines, Yaml.Tree.itemLines,
    Yaml.Tree.isText, Yaml.Tree.written, hfour]

theorem nodes_eq (hurl : IsPlainUrl url) : (tree t url slug).nodes 0 = nodes t url slug := by
  simp [tree, entries, nodes, Yaml.Tree.nodes, Yaml.Tree.entryNodes, Yaml.Tree.itemNodes,
    Yaml.Tree.entryIds, Yaml.Tree.itemIds, Yaml.Tree.size, Yaml.Tree.textTag,
     ofPlain_url hurl]

/-- All characters of a section may be in a text. -/
theorem text_lines (hurl : IsPlainUrl url) (hslug : Slug.IsSlug slug) :
    ∀ l ∈ citationLines t url slug, ∀ x ∈ l, isTextChar x = true := by
  -- What all citations share is checked as it stands; addresses and slugs have their own
  -- characters.
  have htopic : ∀ x ∈ t.name ++ [':'], isTextChar x = true := by
    refine List.all_eq_true.mp ?_
    cases t <;> decide
  have hfirst : ∀ x ∈ "  - ".toList ++ (urlKey ++ [':', ' ']), isTextChar x = true :=
    List.all_eq_true.mp (by decide)
  have hsecond : ∀ x ∈ "    ".toList ++ (headerKey ++ [':', ' ']), isTextChar x = true :=
    List.all_eq_true.mp (by decide)
  intro l hl x hx
  simp only [citationLines, List.mem_cons, List.not_mem_nil, or_false] at hl
  rcases hl with rfl | rfl | rfl
  · exact htopic x hx
  · have hsplit : x ∈ ("  - ".toList ++ (urlKey ++ [':', ' '])) ++ url := by simpa using hx
    exact (List.mem_append.mp hsplit).elim (hfirst x) fun hx => (hurl.inked x hx).2.2
  · have hsplit : x ∈ ("    ".toList ++ (headerKey ++ [':', ' '])) ++ slug := by simpa using hx
    exact (List.mem_append.mp hsplit).elim (hsecond x) fun hx =>
      (Slug.inked (hslug.isChar x hx)).2.2

/-- A section is composed. -/
theorem compose_eq (hurl : IsPlainUrl url) (hslug : Slug.IsSlug slug) (hhyphen : slug ≠ ['-']) :
    ∃ g, compose (Text.unlines (citationLines t url slug)) = .ok (some (0, g)) ∧
      g.shape = nodes t url slug := by
  have hheight : (tree t url slug).height ≤ maxNesting := by
    have hthree : (tree t url slug).height = 3 := rfl
    rw [hthree]
    decide
  have htext : ∀ l ∈ (tree t url slug).lines [] 0, ∀ x ∈ l, isTextChar x = true := by
    rw [lines_eq]
    exact text_lines hurl hslug
  rcases Yaml.Tree.compose_tree (fits hurl hslug hhyphen) rfl hheight htext
    with ⟨g, hcompose, hshape⟩
  rw [lines_eq] at hcompose
  rw [nodes_eq hurl] at hshape
  exact ⟨g, hcompose, hshape⟩

section Construction

variable {g : Graph} {w : Value}

/-- The nodes of a section by their numbers. -/
theorem node_eq (h : g.shape = nodes t url slug) (id : Nat) {tag : String} {content : Content}
    (hid : (nodes t url slug)[id]? = some (tag, content)) :
    (g.node id).tag = tag ∧ (g.node id).content = content := by
  have hnode := g.holds_shape.node id tag content (by rw [h]; exact hid)
  rwa [Nat.zero_add] at hnode

theorem size_eq (h : g.shape = nodes t url slug) : g.size = 8 := by
  rw [← Graph.length_shape, h]
  rfl

/-- The texts of a section whose numbers are known to be strings. -/
theorem strings (h : g.shape = nodes t url slug) :
    g.IsString 1 (String.ofList t.name) ∧ g.IsString 4 (String.ofList urlKey) ∧
      g.IsString 5 (String.ofList url) ∧ g.IsString 6 (String.ofList headerKey) :=
  ⟨node_eq h 1 rfl, node_eq h 4 rfl, node_eq h 5 rfl, node_eq h 6 rfl⟩

theorem keyText_eq {id : Nat} {text : String} (h : g.IsString id text) : g.keyText id = text := by
  unfold Graph.keyText
  rw [h.2]

/-- Only two nodes of a section have entries, and their keys are strings. -/
theorem plainKeys (h : g.shape = nodes t url slug) : g.PlainKeys := by
  rcases strings h with ⟨htopic, hurl, _, hheader⟩
  have hcontent {id : Nat} {tag : String} {content : Content}
      (hid : (nodes t url slug)[id]? = some (tag, content)) {e : Nat × Nat}
      (he : e ∈ g.entries id) : ∃ es, content = .mapping es ∧ e ∈ es := by
    unfold Graph.entries at he
    rw [(node_eq h _ hid).2] at he
    cases content with
    | mapping es => exact ⟨es, rfl, he⟩
    | scalar _ => cases he
    | sequence _ => cases he
  rw [plainKeys_iff]
  intro id hid e he
  suffices hkey : (g.node e.1).tag = Tag.str by
    rw [hkey]
    decide
  rw [size_eq h] at hid
  -- The root and the record have entries, and no other node has.
  obtain rfl | rfl | hother : id = 0 ∨ id = 3 ∨ id ∈ [1, 2, 4, 5, 6, 7] := by
    simp only [List.mem_cons, List.not_mem_nil, or_false]
    omega
  · rcases hcontent rfl he with ⟨_, ⟨⟩, he⟩
    rw [List.mem_singleton.mp he]
    exact htopic.1
  · rcases hcontent rfl he with ⟨_, ⟨⟩, he⟩
    simp only [List.mem_cons, List.not_mem_nil, or_false] at he
    rcases he with rfl | rfl
    · exact hurl.1
    · exact hheader.1
  · simp only [List.mem_cons, List.not_mem_nil, or_false] at hother
    rcases hother with rfl | rfl | rfl | rfl | rfl | rfl
    all_goals rcases hcontent rfl he with ⟨_, ⟨⟩, _⟩

/-- All nodes of a section are plain if something can be made of its slug. -/
theorem plain (h : g.shape = nodes t url slug) (hw : g.initial 7 = .ok (.scalar w)) :
    ∀ id < g.size, PlainNode g id := by
  rcases strings h with ⟨htopic, hurl, htext, hheader⟩
  have hroot := node_eq h 0 rfl
  have hlist := node_eq h 2 rfl
  have hrecord := node_eq h 3 rfl
  have hsize := size_eq h
  have hdiffer : String.ofList urlKey ≠ String.ofList headerKey := by decide
  intro id hid
  rw [hsize] at hid
  -- The collections one by one; all others are scalars, and all but the slug are strings.
  obtain rfl | rfl | rfl | hother : id = 0 ∨ id = 2 ∨ id = 3 ∨ id ∈ [1, 4, 5, 6, 7] := by
    simp only [List.mem_cons, List.not_mem_nil, or_false]
    omega
  · refine .mapping hroot.1 hroot.2 ?_ ?_ (List.nodup_singleton _)
    · simpa [keyText_eq htopic] using htopic
    · simp [hsize]
  · exact .sequence hlist.1 hlist.2 (by simp [hsize])
  · refine .mapping hrecord.1 hrecord.2 ?_ ?_ ?_
    · simpa [keyText_eq hurl, keyText_eq hheader] using ⟨hurl, hheader⟩
    · simp [hsize]
    · simpa [keyText_eq hurl, keyText_eq hheader] using hdiffer
  · simp only [List.mem_cons, List.not_mem_nil, or_false] at hother
    rcases hother with rfl | rfl | rfl | rfl | rfl
    · exact .string htopic
    · exact .string hurl
    · exact .string htext
    · exact .string hheader
    · exact .scalar (node_eq h 7 rfl).2 hw

/-- The two collections, the record and its two texts are reached from the root. -/
theorem reached (h : g.shape = nodes t url slug) :
    Constructed g 0 2 ∧ Constructed g 0 3 ∧ Constructed g 0 5 ∧ Constructed g 0 7 := by
  have hentries {id : Nat} {tag : String} {es : List (Nat × Nat)}
      (hid : (nodes t url slug)[id]? = some (tag, .mapping es)) : g.entries id = es := by
    unfold Graph.entries
    rw [(node_eq h _ hid).2]
  have hlist := node_eq h 2 rfl
  have hrecord : (g.node 3).tag = Tag.map ∧ g.entries 3 = [(4, 5), (6, 7)] :=
    ⟨(node_eq h 3 rfl).1, hentries rfl⟩
  have hfirst : (1, 2) ∈ g.entries 0 := by
    rw [hentries rfl]
    exact List.mem_singleton_self _
  -- Down from the root: the list is its value, the record the item, the texts its values.
  have hreach2 : Constructed g 0 2 := .part .root (.value (.inl (node_eq h 0 rfl).1) hfirst)
  have hreach3 : Constructed g 0 3 :=
    .part hreach2 (.item hlist.1 hlist.2 (List.mem_singleton_self _))
  have hreach5 : Constructed g 0 5 :=
    .part hreach3 (.value (k := 4) (.inl hrecord.1) (by simp [hrecord.2]))
  have hreach7 : Constructed g 0 7 :=
    .part hreach3 (.value (k := 6) (.inl hrecord.1) (by simp [hrecord.2]))
  exact ⟨hreach2, hreach3, hreach5, hreach7⟩

/-- What is made of the parts of a section. -/
theorem whole_eq (h : g.shape = nodes t url slug) (hw : g.initial 7 = .ok (.scalar w)) :
    g.whole 0 = .mapping [(.text (String.ofList t.name), 2)] ∧ g.whole 2 = .sequence [3] ∧
      g.whole 3 = .mapping [(.text (String.ofList urlKey), 5), (.text (String.ofList headerKey), 7)] ∧
      g.whole 5 = .scalar (.text (String.ofList url)) ∧ g.whole 7 = .scalar w := by
  rcases strings h with ⟨htopic, hurl, htext, hheader⟩
  have hroot := (node_eq h 0 rfl).2
  have hlist := (node_eq h 2 rfl).2
  have hrecord := (node_eq h 3 rfl).2
  refine ⟨?_, ?_, ?_, Yaml.Tree.whole_of_string htext, whole_of_scalar (node_eq h 7 rfl).2 hw⟩
  · simp [Graph.whole, hroot, keyText_eq htopic]
  · simp [Graph.whole, hlist]
  · simp [Graph.whole, hrecord, keyText_eq hurl, keyText_eq hheader]

/-- What is made of a section if something can be made of its slug. -/
theorem construct_eq (h : g.shape = nodes t url slug) (hw : g.initial 7 = .ok (.scalar w))
    (uniqueKeys : Bool) :
    construct uniqueKeys 0 g = .ok (citationValue t (String.ofList url) w) := by
  have hsize := size_eq h
  rcases construct_plain (plain h hw) (by omega : 0 < g.size) uniqueKeys
    with ⟨b, rfl, hconstruct, hmade⟩
  rcases reached h with ⟨hreach2, hreach3, hreach5, hreach7⟩
  rcases whole_eq h hw with ⟨hwhole0, hwhole2, hwhole3, hwhole5, hwhole7⟩
  have hmade0 := (hmade 0 .root).trans (congrArg some hwhole0)
  have hmade2 := (hmade 2 hreach2).trans (congrArg some hwhole2)
  have hmade3 := (hmade 3 hreach3).trans (congrArg some hwhole3)
  have hmade5 := (hmade 5 hreach5).trans (congrArg some hwhole5)
  have hmade7 := (hmade 7 hreach7).trans (congrArg some hwhole7)
  -- No node is looked up inside of itself, as the numbers grow from the root on.
  rw [hconstruct, hsize, Yaml.Tree.value_of_mapping hmade0 (by simp), List.map_singleton,
    Yaml.Tree.value_of_sequence hmade2 (by simp), List.map_singleton,
    Yaml.Tree.value_of_mapping hmade3 (by simp), List.map_cons, List.map_singleton,
    Yaml.Tree.value_of_scalar hmade5 (by simp), Yaml.Tree.value_of_scalar hmade7 (by simp)]
  rfl

end Construction

end Citation

section Decoding

variable {t : Topic} {url slug : String}

/-- A slug that is a string is decoded to itself. -/
theorem decode_citation_string (hurl : IsPlainUrl url.toList) (hslug : Slug.IsSlug slug.toList)
    (hhyphen : slug.toList ≠ ['-']) (hstring : Slug.isOther slug.toList = false)
    (uniqueKeys : Bool) :
    decode uniqueKeys (citation t url slug) = .ok (citationValue t url (.text slug)) := by
  rcases Citation.compose_eq (t := t) hurl hslug hhyphen with ⟨g, hcompose, hshape⟩
  have hnode := Citation.node_eq hshape 7 rfl
  rw [hslug.ofPlain.mpr hstring] at hnode
  have hconstruct := Citation.construct_eq hshape (initial_string hnode) uniqueKeys
  unfold decode citation
  rw [String.toList_ofList, hcompose, ok_bind]
  simpa only [String.ofList_toList] using hconstruct

/-- Any other slug is decoded to what is no text and has no parts, if at all. -/
theorem decode_citation_other (hurl : IsPlainUrl url.toList) (hslug : Slug.IsSlug slug.toList)
    (hhyphen : slug.toList ≠ ['-']) (hother : Slug.isOther slug.toList = true) {uniqueKeys : Bool}
    {v : Value} (h : decode uniqueKeys (citation t url slug) = .ok v) :
    ∃ w, v = citationValue t url w ∧ w.isLeaf = true ∧ w.isText = false := by
  rcases Citation.compose_eq (t := t) hurl hslug hhyphen with ⟨g, hcompose, hshape⟩
  have hconstruct : construct uniqueKeys 0 g = .ok v := by
    unfold decode citation at h
    rwa [String.toList_ofList, hcompose, ok_bind] at h
  -- Since there is a value, something was made of the slug.
  rcases Citation.reached hshape with ⟨_, _, _, hreach⟩
  rcases initial_of_construct (Citation.plainKeys hshape) hconstruct hreach with ⟨m, hm⟩
  rcases initial_plain (Citation.node_eq hshape 7 rfl).1 hm with ⟨w, rfl, hleaf, htext⟩
  rw [Citation.construct_eq hshape hm] at hconstruct
  cases hconstruct
  refine ⟨w, by rw [String.ofList_toList], hleaf, Bool.eq_false_iff.mpr fun hw => ?_⟩
  rw [hslug.ofPlain.mp (htext.mp hw)] at hother
  cases hother

end Decoding

end History

end Annals
