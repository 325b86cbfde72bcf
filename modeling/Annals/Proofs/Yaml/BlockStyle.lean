import Annals.Proofs.Yaml.Composition
import Annals.Proofs.Yaml.PlainNodes
import Annals.Value.Part

/-!
# Block Style Read Back

What is written as a tree in block style is decoded to the values of this tree.

Tokens, events and nodes follow the tree, so the nodes of the text are those of the
tree, and all of them are plain if its texts are strings. What is left is to look up in
the finished builder what was made of each node. The look-up goes down from the
outermost node, so it meets no node inside of itself, and each part of a tree is looked
up under the number at which its nodes begin.

No value refers back to what it is a part of. So what is taken out of the values of a
tree are again values of trees, wherever their numbers begin.

## Main definitions

* `Tree.value`: The value of a tree.
* `Tree.Strings`: All texts of a tree are strings.
* `Graph.Holds`: Some nodes are those of a document from a number on.

## Theorems

* `Fits.plain`: The nodes of a tree are plain.
* `Fits.value_eq`: What was made of the nodes of a tree is its value.
* `decode_tree`: A mapping in block style is decoded to its value.
* `mem_parts_list`, `field?_entries`: What is taken out of the values of a tree.
-/

namespace Annals

namespace Yaml

namespace Tree

mutual

/-- The value of a tree whose nodes are numbered from `base` on. -/
def value (base : Nat) : Tree → Value
  | .text cs _ => .text (String.ofList cs)
  | .list items => .seq (base + 1) (itemValues (base + 1) items)
  | .entries es => .map (base + 1) (entryValues (base + 1) es)

/-- The values of the items of a list. -/
def itemValues (base : Nat) : List Tree → List Value
  | [] => []
  | t :: rest => t.value base :: itemValues (base + t.size) rest

/-- The keys and values of a mapping. -/
def entryValues (base : Nat) : List (List Char × Tree) → List (Value × Value)
  | [] => []
  | (key, t) :: rest =>
    (.text (String.ofList key), t.value (base + 1)) :: entryValues (base + 1 + t.size) rest

end

/-- All texts of a tree are strings, as they are written. -/
inductive Strings : Tree → Prop where
  | text {cs : List Char} {isPlain : Bool} :
      textTag cs isPlain = Tag.str → Strings (.text cs isPlain)
  | list {items : List Tree} : (∀ t ∈ items, Strings t) → Strings (.list items)
  | entries {es : List (List Char × Tree)} : (∀ e ∈ es, Strings e.2) → Strings (.entries es)

theorem Strings.of_list {items : List Tree} (h : Strings (.list items)) :
    ∀ t ∈ items, t.Strings := by
  cases h with
  | list hall => exact hall

theorem Strings.of_entries {es : List (List Char × Tree)} (h : Strings (.entries es)) :
    ∀ e ∈ es, e.2.Strings := by
  cases h with
  | entries hall => exact hall

end Tree

/-- Some nodes are those of a document from a number on. -/
structure Graph.Holds (g : Graph) (base : Nat) (nodes : List (String × Content)) : Prop where
  fits : base + nodes.length ≤ g.size
  node : ∀ i tag content, nodes[i]? = some (tag, content) →
    (g.node (base + i)).tag = tag ∧ (g.node (base + i)).content = content

namespace Graph

variable {g : Graph} {base : Nat} {tag : String} {content : Content}
  {first second : List (String × Content)}

theorem holds_shape (g : Graph) : g.Holds 0 g.shape := by
  refine ⟨by rw [length_shape]; omega, fun i tag content h => ?_⟩
  rcases List.getElem?_eq_some_iff.mp h with ⟨hlt, hget⟩
  have hsplit : g.shape = g.shape.take i ++ (tag, content) :: g.shape.drop (i + 1) := by
    rw [← hget, ← List.drop_eq_getElem_cons hlt, List.take_append_drop]
  have hnode := node_of_shape hsplit
  rw [List.length_take, Nat.min_eq_left (Nat.le_of_lt hlt)] at hnode
  rwa [Nat.zero_add]

theorem Holds.head (h : g.Holds base ((tag, content) :: second)) :
    (g.node base).tag = tag ∧ (g.node base).content = content :=
  h.node 0 tag content rfl

theorem Holds.right (h : g.Holds base (first ++ second)) : g.Holds (base + first.length) second := by
  refine ⟨?_, fun i tag content hi => ?_⟩
  · have hfits := h.fits
    rw [List.length_append] at hfits
    omega
  · rw [Nat.add_assoc]
    refine h.node (first.length + i) tag content ?_
    rw [List.getElem?_append_right (by omega)]
    simpa using hi

theorem Holds.left (h : g.Holds base (first ++ second)) : g.Holds base first := by
  refine ⟨?_, fun i tag content hi => h.node i tag content ?_⟩
  · have hfits := h.fits
    rw [List.length_append] at hfits
    omega
  · rw [List.getElem?_append_left (List.getElem?_eq_some_iff.mp hi).1]
    exact hi

theorem Holds.tail (h : g.Holds base ((tag, content) :: second)) : g.Holds (base + 1) second := by
  have hsplit : g.Holds base ([(tag, content)] ++ second) := h
  exact hsplit.right

end Graph

namespace Tree

variable {t : Tree} {items : List Tree} {es : List (List Char × Tree)} {g : Graph} {base : Nat}

theorem size_pos (t : Tree) : 0 < t.size := by
  cases t with
  | text cs isPlain => exact Nat.one_pos
  | list items => exact Nat.succ_pos _
  | entries es => exact Nat.succ_pos _

theorem itemIds_lt {base x : Nat} (h : x ∈ itemIds base items) : x < base + itemSize items := by
  induction items generalizing base with
  | nil => exact absurd h (List.not_mem_nil)
  | cons t rest ih =>
      have hpositive := t.size_pos
      rw [itemSize]
      rcases List.mem_cons.mp h with rfl | h
      · omega
      · have hrest := ih h
        omega

theorem entryIds_lt {base : Nat} {e : Nat × Nat} (h : e ∈ entryIds base es) :
    e.2 < base + entrySize es := by
  induction es generalizing base with
  | nil => exact absurd h (List.not_mem_nil)
  | cons e' rest ih =>
      rcases e' with ⟨key, t⟩
      have hpositive := t.size_pos
      rw [entrySize]
      rcases List.mem_cons.mp h with rfl | h
      · simp only
        omega
      · have hrest := ih h
        omega

theorem plain_items (hfit : ∀ t ∈ items, t.Fits)
    (ih : ∀ t ∈ items, ∀ base, g.Holds base (t.nodes base) →
      ∀ id, base ≤ id → id < base + t.size → PlainNode g id)
    (h : g.Holds base (itemNodes base items)) (id : Nat) (hid : base ≤ id)
    (hlt : id < base + itemSize items) : PlainNode g id := by
  induction items generalizing base with
  | nil =>
      rw [itemSize] at hlt
      omega
  | cons t rest ihrest =>
      have hhead : t ∈ t :: rest := List.mem_cons_self ..
      have hrest := h.right
      rw [(hfit t hhead).length_nodes base] at hrest
      rw [itemSize] at hlt
      -- The node belongs to the first item, or to those behind it.
      by_cases hless : id < base + t.size
      · exact ih t hhead base h.left id hid hless
      · exact ihrest (fun t' ht => hfit t' (List.mem_cons_of_mem _ ht))
          (fun t' ht => ih t' (List.mem_cons_of_mem _ ht)) hrest (by omega) (by omega)

/-- The keys of a mapping are strings, and their texts are those of the tree. -/
theorem strings_entries (hfit : ∀ e ∈ es, e.2.Fits) (h : g.Holds base (entryNodes base es)) :
    (∀ e ∈ entryIds base es, g.IsString e.1 (g.keyText e.1)) ∧
      ((entryIds base es).map fun e => g.keyText e.1) = es.map fun e => String.ofList e.1 := by
  induction es generalizing base with
  | nil => exact ⟨fun e he => absurd he (List.not_mem_nil), rfl⟩
  | cons e rest ih =>
      rcases e with ⟨key, t⟩
      have hhead : (key, t) ∈ (key, t) :: rest := List.mem_cons_self ..
      have hkey := h.head
      have hrest := h.tail.right
      rw [(hfit _ hhead).length_nodes] at hrest
      rcases ih (fun e he => hfit e (List.mem_cons_of_mem _ he)) hrest with ⟨hstrings, htexts⟩
      -- The node of the key comes first, then those of the value.
      have htext : g.keyText base = String.ofList key := by
        unfold Graph.keyText
        rw [hkey.2]
      refine ⟨fun e he => ?_, ?_⟩
      · rcases List.mem_cons.mp he with rfl | he
        · exact ⟨hkey.1, by rw [htext]; exact hkey.2⟩
        · exact hstrings e he
      · rw [entryIds, List.map_cons, List.map_cons, htexts, htext]

theorem plain_entries (hfit : ∀ e ∈ es, e.2.Fits)
    (ih : ∀ e ∈ es, ∀ base, g.Holds base (e.2.nodes base) →
      ∀ id, base ≤ id → id < base + e.2.size → PlainNode g id)
    (h : g.Holds base (entryNodes base es)) (id : Nat) (hid : base ≤ id)
    (hlt : id < base + entrySize es) : PlainNode g id := by
  induction es generalizing base with
  | nil =>
      rw [entrySize] at hlt
      omega
  | cons e rest ihrest =>
      rcases e with ⟨key, t⟩
      have hhead : (key, t) ∈ (key, t) :: rest := List.mem_cons_self ..
      have hlength : (t.nodes (base + 1)).length = t.size := (hfit _ hhead).length_nodes _
      have hrest := h.tail.right
      rw [hlength] at hrest
      rw [entrySize] at hlt
      -- The node is the first key, one of the first value, or one behind them.
      by_cases hkey : id = base
      · exact .string (by rw [hkey]; exact h.head)
      · by_cases hless : id < base + 1 + t.size
        · exact ih _ hhead (base + 1) h.tail.left id (by omega) hless
        · exact ihrest (fun e he => hfit e (List.mem_cons_of_mem _ he))
            (fun e he => ih e (List.mem_cons_of_mem _ he)) hrest (by omega) (by omega)

/-- The node of a text that is a string. -/
theorem isString_text {cs : List Char} {isPlain : Bool} (hs : (text cs isPlain).Strings)
    (hg : g.Holds base ((text cs isPlain).nodes base)) : g.IsString base (String.ofList cs) := by
  cases hs with
  | text hstring => exact ⟨hg.head.1.trans hstring, hg.head.2⟩

/-- The nodes of a tree of strings are plain. -/
theorem Fits.plain (h : t.Fits) (hs : t.Strings) (base : Nat) (hg : g.Holds base (t.nodes base))
    (id : Nat) (hid : base ≤ id) (hlt : id < base + t.size) : PlainNode g id := by
  induction h generalizing base id with
  | word _ | quoted _ =>
      rw [size] at hlt
      obtain rfl : id = base := by omega
      exact .string (isString_text hs hg)
  | @list items _ _ hfit ih =>
      rw [size] at hlt
      by_cases heq : id = base
      · subst heq
        refine .sequence hg.head.1 hg.head.2 (fun x hx => ?_)
        -- The parts of a collection come before the end of the graph.
        have hfits := hg.tail.fits
        rw [length_itemNodes (fun t ht => (hfit t ht).length_nodes)] at hfits
        exact Nat.lt_of_lt_of_le (itemIds_lt hx) hfits
      · exact plain_items hfit (fun t ht => ih t ht (hs.of_list t ht)) hg.tail id (by omega)
          (by omega)
  | @entries es _ hdiffer _ hfit ih =>
      rw [size] at hlt
      by_cases heq : id = base
      · subst heq
        rcases strings_entries hfit hg.tail with ⟨hstrings, htexts⟩
        refine .mapping hg.head.1 hg.head.2 hstrings (fun e he => ?_) ?_
        · have hfits := hg.tail.fits
          rw [length_entryNodes (fun e he => (hfit e he).length_nodes)] at hfits
          exact Nat.lt_of_lt_of_le (entryIds_lt he) hfits
        · rw [htexts]
          -- Keys that are different are different texts.
          have hinjective : Function.Injective String.ofList := fun _ _ => String.ofList_injective
          have hmap := hdiffer.map hinjective
          rwa [List.map_map] at hmap
      · exact plain_entries hfit (fun e he => ih e he (hs.of_entries e he)) hg.tail id (by omega)
          (by omega)

section Values

variable {b : Builder} {fuel root : Nat} {around : List Nat}

/-- A tree whose nodes stand in a finished builder has its value there, if it is looked up
    inside of nodes before it. -/
def Valued (b : Builder) (root : Nat) (t : Tree) : Prop :=
  ∀ base fuel around, b.graph.Holds base (t.nodes base) → Constructed b.graph root base →
    t.height < fuel → (∀ i ∈ around, i < base) → b.value fuel around base = t.value base

theorem values_items (hfit : ∀ t ∈ items, t.Fits) (ih : ∀ t ∈ items, t.Valued b root)
    (hg : b.graph.Holds base (itemNodes base items))
    (hreach : ∀ x ∈ itemIds base items, Constructed b.graph root x)
    (hfuel : itemHeight items < fuel) (haround : ∀ i ∈ around, i < base) :
    (itemIds base items).map (b.value fuel around) = itemValues base items := by
  induction items generalizing base with
  | nil => rfl
  | cons t rest ihrest =>
      have hhead : t ∈ t :: rest := List.mem_cons_self ..
      have hrest := hg.right
      rw [(hfit t hhead).length_nodes base] at hrest
      rw [itemHeight] at hfuel
      have hvalue := ih t hhead base fuel around hg.left (hreach base (List.mem_cons_self ..)) (by omega)
        haround
      -- The nodes of the others come behind those of the first item, as high as they are.
      have hvalues := ihrest (fun t' ht => hfit t' (List.mem_cons_of_mem _ ht))
        (fun t' ht => ih t' (List.mem_cons_of_mem _ ht)) hrest
        (fun x hx => hreach x (List.mem_cons_of_mem _ hx)) (by omega)
        (fun i hi => Nat.lt_of_lt_of_le (haround i hi) (by omega))
      rw [itemIds, itemValues, List.map_cons, hvalue, hvalues]

theorem values_entries (hfit : ∀ e ∈ es, e.2.Fits) (ih : ∀ e ∈ es, e.2.Valued b root)
    (hg : b.graph.Holds base (entryNodes base es))
    (hreach : ∀ e ∈ entryIds base es, Constructed b.graph root e.2)
    (hfuel : entryHeight es < fuel) (haround : ∀ i ∈ around, i < base) :
    ((entryIds base es).map fun e => (Value.text (b.graph.keyText e.1), b.value fuel around e.2))
      = entryValues base es := by
  induction es generalizing base with
  | nil => rfl
  | cons e rest ihrest =>
      rcases e with ⟨key, t⟩
      have hhead : (key, t) ∈ (key, t) :: rest := List.mem_cons_self ..
      have hlength : (t.nodes (base + 1)).length = t.size := (hfit _ hhead).length_nodes _
      have hrest := hg.tail.right
      rw [hlength] at hrest
      rw [entryHeight] at hfuel
      have hkey : b.graph.keyText base = String.ofList key := by
        unfold Graph.keyText
        rw [hg.head.2]
      have hlow : t.height < fuel := by omega
      -- All that is around has smaller numbers, and so none of it comes again in a value.
      have hvalue := ih _ hhead (base + 1) fuel around hg.tail.left
        (hreach _ (List.mem_cons_self ..)) hlow (fun i hi => Nat.lt_succ_of_lt (haround i hi))
      have hvalues := ihrest (fun e he => hfit e (List.mem_cons_of_mem _ he))
        (fun e he => ih e (List.mem_cons_of_mem _ he)) hrest
        (fun e he => hreach e (List.mem_cons_of_mem _ he)) (by omega)
        (fun i hi => Nat.lt_of_lt_of_le (haround i hi) (by omega))
      rw [entryIds, entryValues, List.map_cons, hkey, hvalue, hvalues]

/-- A node is not inside of nodes before it. -/
theorem not_around {id : Nat} (haround : ∀ i ∈ around, i < id) : around.contains id = false := by
  rw [Bool.eq_false_iff, ne_eq, List.contains_iff_mem]
  exact fun h => Nat.lt_irrefl _ (haround id h)

theorem value_of_scalar {id : Nat} {v : Value} (hm : b.made? id = some (.scalar v))
    (haround : ∀ i ∈ around, i < id) : b.value (fuel + 1) around id = v := by
  rw [Builder.value, not_around haround, hm]
  rfl

theorem value_of_sequence {id : Nat} {found : List Nat} (hm : b.made? id = some (.sequence found))
    (haround : ∀ i ∈ around, i < id) :
    b.value (fuel + 1) around id = .seq (id + 1) (found.map (b.value fuel (id :: around))) := by
  rw [Builder.value, not_around haround, hm]
  rfl

theorem value_of_mapping {id : Nat} {found : List (Value × Nat)}
    (hm : b.made? id = some (.mapping found)) (haround : ∀ i ∈ around, i < id) :
    b.value (fuel + 1) around id
      = .map (id + 1) (found.map fun e => (e.1, b.value fuel (id :: around) e.2)) := by
  rw [Builder.value, not_around haround, hm]
  rfl

theorem whole_of_string {id : Nat} {text : String} (h : g.IsString id text) :
    g.whole id = .scalar (.text text) :=
  whole_of_scalar h.2 (initial_string h)

/-- If a node stands behind all that are around it, so does the next one. -/
theorem before_next {base : Nat} {around : List Nat} (h : ∀ i ∈ around, i < base) :
    ∀ i ∈ base :: around, i < base + 1 := by
  intro i hi
  rcases List.mem_cons.mp hi with rfl | hi
  · exact Nat.lt_succ_self _
  · exact Nat.lt_succ_of_lt (h i hi)

/-- What was made of the nodes of a tree of strings is its value. -/
theorem Fits.value_eq (h : t.Fits) (hs : t.Strings)
    (hmade : ∀ id, Constructed b.graph root id → b.made? id = some (b.graph.whole id)) :
    t.Valued b root := by
  induction h with
  | word _ | quoted _ =>
      intro base fuel around hg hreach hfuel haround
      obtain ⟨fuel, rfl⟩ : ∃ less, fuel = less + 1 := ⟨fuel - 1, by omega⟩
      have hwhole := whole_of_string (isString_text hs hg)
      exact value_of_scalar ((hmade base hreach).trans (congrArg some hwhole)) haround
  | @list items _ _ hfit ih =>
      intro base fuel around hg hreach hfuel haround
      obtain ⟨fuel, rfl⟩ : ∃ less, fuel = less + 1 := ⟨fuel - 1, by omega⟩
      rw [height] at hfuel
      have hwhole : b.graph.whole base = .sequence (itemIds (base + 1) items) := by
        unfold Graph.whole
        rw [hg.head.2]
      -- The parts were constructed because the collection was.
      have hparts : ∀ x ∈ itemIds (base + 1) items, Constructed b.graph root x := fun x hx =>
        .part hreach (.item hg.head.1 hg.head.2 hx)
      have hinside := before_next haround
      rw [value_of_sequence ((hmade base hreach).trans (congrArg some hwhole)) haround, value,
        values_items hfit (fun t ht => ih t ht (hs.of_list t ht)) hg.tail hparts (by omega) hinside]
  | @entries es _ _ _ hfit ih =>
      intro base fuel around hg hreach hfuel haround
      obtain ⟨fuel, rfl⟩ : ∃ less, fuel = less + 1 := ⟨fuel - 1, by omega⟩
      rw [height] at hfuel
      have hwhole : b.graph.whole base = .mapping ((entryIds (base + 1) es).map fun e =>
          (.text (b.graph.keyText e.1), e.2)) := by
        unfold Graph.whole
        rw [hg.head.2]
      have hparts : ∀ e ∈ entryIds (base + 1) es, Constructed b.graph root e.2 := by
        intro e he
        have hentries : b.graph.entries base = entryIds (base + 1) es := by
          unfold Graph.entries
          rw [hg.head.2]
        exact .part hreach (.value (.inl hg.head.1) (by rw [hentries]; exact he))
      have hinside := before_next haround
      have hlow : entryHeight es < fuel := by omega
      rw [value_of_mapping ((hmade base hreach).trans (congrArg some hwhole)) haround, value,
        ← values_entries hfit (fun e he => ih e he (hs.of_entries e he)) hg.tail hparts hlow hinside,
        List.map_map]
      rfl

end Values

theorem height_itemHeight_le (h : ∀ t ∈ items, t.height ≤ t.size) :
    itemHeight items ≤ itemSize items := by
  induction items with
  | nil => exact Nat.le_refl _
  | cons t rest ih =>
      have hhead := h t (List.mem_cons_self ..)
      have hrest := ih (fun t' ht => h t' (List.mem_cons_of_mem _ ht))
      rw [itemHeight, itemSize]
      omega

theorem height_entryHeight_le (h : ∀ e ∈ es, e.2.height ≤ e.2.size) :
    entryHeight es ≤ entrySize es := by
  induction es with
  | nil => exact Nat.le_refl _
  | cons e rest ih =>
      rcases e with ⟨key, t⟩
      have hhead : t.height ≤ t.size := h (key, t) (List.mem_cons_self ..)
      have hrest := ih (fun e he => h e (List.mem_cons_of_mem _ he))
      rw [entryHeight, entrySize]
      omega

theorem Fits.height_le_size (h : t.Fits) : t.height ≤ t.size := by
  induction h with
  | word _ => exact Nat.zero_le _
  | quoted _ => exact Nat.zero_le _
  | list _ _ _ ih =>
      rw [height, size]
      exact Nat.succ_le_succ (height_itemHeight_le ih)
  | entries _ _ _ _ ih =>
      rw [height, size]
      exact Nat.succ_le_succ (height_entryHeight_le ih)

theorem strayChar?_of_text {cs : List Char} (position : Nat) (h : ∀ x ∈ cs, isTextChar x = true) :
    strayChar? position cs = none := by
  induction cs generalizing position with
  | nil => rfl
  | cons x cs ih =>
      rw [strayChar?, if_pos (h x (List.mem_cons_self ..))]
      exact ih (position + 1) (fun y hy => h y (List.mem_cons_of_mem _ hy))

/-- The nodes of a mapping in block style. -/
theorem compose_tree (h : t.Fits) (hmapping : t.isMapping = true) (hheight : t.height ≤ maxNesting)
    (htext : ∀ l ∈ t.lines [] 0, ∀ x ∈ l, isTextChar x = true) :
    ∃ g, compose (Text.unlines (t.lines [] 0)) = .ok (some (0, g)) ∧ g.shape = t.nodes 0 := by
  have hstray : strayChar? 0 (Text.unlines (t.lines [] 0)) = none := by
    refine strayChar?_of_text 0 (fun x hx => ?_)
    rcases Text.mem_unlines.mp hx with ⟨l, hl, hx | rfl⟩
    · exact htext l hl x hx
    · decide
  rcases scan_tree h hmapping with ⟨tokens, hscan, htokens⟩
  rcases eventsOf_tree h hmapping htokens with ⟨events, hevents, hkinds⟩
  rcases composeDocument_tree h hheight hkinds with ⟨g, hcompose, hshape⟩
  refine ⟨g, ?_, hshape⟩
  unfold compose
  rw [hstray, hscan, hevents]
  exact hcompose

/-- A mapping in block style whose texts are strings is decoded to its value, whether or not
    keys must be unique. -/
theorem decode_tree (h : t.Fits) (hs : t.Strings) (hmapping : t.isMapping = true)
    (hheight : t.height ≤ maxNesting)
    (htext : ∀ l ∈ t.lines [] 0, ∀ x ∈ l, isTextChar x = true) (uniqueKeys : Bool) :
    decode uniqueKeys (String.ofList (Text.unlines (t.lines [] 0))) = .ok (t.value 0) := by
  rcases compose_tree h hmapping hheight htext with ⟨g, hcompose, hshape⟩
  have hholds := g.holds_shape
  rw [hshape] at hholds
  have hsize : g.size = t.size := by rw [← Graph.length_shape, hshape, h.length_nodes]
  -- All nodes of the graph are those of the tree, which merges nothing and repeats no key.
  have hplain : ∀ id < g.size, PlainNode g id := fun id hid =>
    h.plain hs 0 hholds id (Nat.zero_le _) (by omega)
  have hpositive := t.size_pos
  rcases construct_plain hplain (by omega : 0 < g.size) uniqueKeys with ⟨b, rfl, hconstruct, hmade⟩
  have hlow := h.height_le_size
  have hvalue := h.value_eq hs hmade 0 (b.graph.size + 1) [] hholds .root (by omega) (by simp)
  unfold decode
  rw [String.toList_ofList, hcompose, ok_bind]
  exact hconstruct.trans (congrArg Except.ok hvalue)

section Values

variable {t : Tree} {items : List Tree} {es : List (List Char × Tree)} {base : Nat} {v : Value}

theorem filled_items (id : Nat) (whole : Value)
    (h : ∀ t ∈ items, ∀ base, Value.filled id whole (t.value base) = t.value base) :
    Value.filledItems id whole (itemValues base items) = itemValues base items := by
  induction items generalizing base with
  | nil => rfl
  | cons t rest ih =>
      rw [itemValues, Value.filledItems, h t (List.mem_cons_self ..),
        ih (fun t ht => h t (List.mem_cons_of_mem _ ht))]

theorem filled_entries (id : Nat) (whole : Value)
    (h : ∀ e ∈ es, ∀ base, Value.filled id whole (e.2.value base) = e.2.value base) :
    Value.filledEntries id whole (entryValues base es) = entryValues base es := by
  induction es generalizing base with
  | nil => rfl
  | cons e rest ih =>
      rcases e with ⟨key, t⟩
      have ht := h (key, t) (List.mem_cons_self ..)
      rw [entryValues, Value.filledEntries, ht, ih (fun e he => h e (List.mem_cons_of_mem _ he))]

/-- No part of a tree refers back, so there is nothing to fill in. -/
theorem Fits.filled_value (h : t.Fits) (id : Nat) (whole : Value) (base : Nat) :
    Value.filled id whole (t.value base) = t.value base := by
  induction h generalizing base with
  | word _ => rfl
  | quoted _ => rfl
  | list _ _ _ ih =>
      rw [value, Value.filled, filled_items id whole ih, ite_self]
  | entries _ _ _ _ ih =>
      rw [value, Value.filled, filled_entries id whole ih, ite_self]

/-- A part of a tree is a value of its own. -/
theorem Fits.part_value (h : t.Fits) (whole : Value) : whole.part (t.value base) = t.value base := by
  unfold Value.part
  split
  · rfl
  · rfl
  · exact h.filled_value _ whole base

theorem mem_itemValues (h : v ∈ itemValues base items) : ∃ t ∈ items, ∃ b, v = t.value b := by
  induction items generalizing base with
  | nil => exact absurd h List.not_mem_nil
  | cons t rest ih =>
      rw [itemValues] at h
      rcases List.mem_cons.mp h with rfl | h
      · exact ⟨t, List.mem_cons_self .., base, rfl⟩
      · rcases ih h with ⟨t', ht, hv⟩
        exact ⟨t', List.mem_cons_of_mem _ ht, hv⟩

theorem lookup?_entryValues {key : String} (h : Value.lookup? key (entryValues base es) = some v) :
    ∃ e ∈ es, String.ofList e.1 = key ∧ ∃ b, v = e.2.value b := by
  induction es generalizing base with
  | nil => cases h
  | cons e rest ih =>
      rcases e with ⟨k, t⟩
      rw [entryValues, Value.lookup?] at h
      split at h
      · next heq =>
          cases h
          exact ⟨(k, t), List.mem_cons_self .., eq_of_beq heq, base + 1, rfl⟩
      · rcases ih h with ⟨e, he, hv⟩
        exact ⟨e, List.mem_cons_of_mem _ he, hv⟩

/-- A list in a tree: its items are items of the list. -/
theorem mem_parts_list (hfit : ∀ t ∈ items, t.Fits)
    (h : v ∈ ((Tree.list items).value base).parts) : ∃ t ∈ items, ∃ b, v = t.value b := by
  rcases List.mem_map.mp h with ⟨child, hchild, rfl⟩
  rcases mem_itemValues hchild with ⟨t, ht, b, rfl⟩
  exact ⟨t, ht, b, (hfit t ht).part_value _⟩

/-- The value under a key of a mapping is that of an entry with this key. -/
theorem field?_entries (hfit : ∀ e ∈ es, e.2.Fits) {key : String}
    (h : ((Tree.entries es).value base).field? key = some v) :
    ∃ e ∈ es, String.ofList e.1 = key ∧ ∃ b, v = e.2.value b := by
  rcases Option.map_eq_some_iff.mp h with ⟨child, hchild, rfl⟩
  rcases lookup?_entryValues hchild with ⟨e, he, hkey, b, rfl⟩
  exact ⟨e, he, hkey, b, (hfit e he).part_value _⟩

/-- The text of the first entry of a mapping. -/
theorem field?_first (key cs : List Char) (isPlain : Bool) :
    ((Tree.entries ((key, .text cs isPlain) :: es)).value base).field? (String.ofList key)
      = some (.text (String.ofList cs)) := by
  simp only [value, entryValues, Value.field?, Value.get?, Value.lookup?, beq_self_eq_true, if_true,
    Option.map_some, Value.part, Value.id?, Value.filled]

end Values
end Tree

end Yaml

end Annals
