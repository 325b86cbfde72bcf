import Annals.Proofs.Yaml.Parsing
import Annals.Yaml.Node

/-!
# From Trees to Nodes

The nodes of a text that is a tree in block style.

Nodes are numbered in the order in which they begin, so those of a tree are one run of
numbers, and the numbers of its parts follow from the sizes of the parts before them.
A collection is put in empty and gets its parts when it is over; by then the nodes of
the parts stand behind it. The places of nodes are left out here.

## Main definitions

* `Tree.size`: How many nodes a tree has.
* `Tree.textTag`: The tag of a text as it is written.
* `Tree.nodes`: The nodes of a tree, from some number on.
* `Graph.shape`: The nodes of a document, without their places.

## Theorems

* `Fits.composes`: A tree is composed.
* `composeDocument_tree`: The nodes of a text that is a tree.
-/

namespace Annals

namespace Yaml

/-- The nodes of a document, without their places. -/
def Graph.shape (g : Graph) : List (String × Content) :=
  g.toList.map fun node => (node.tag, node.content)

namespace Tree

mutual

/-- How many nodes a tree has. -/
def size : Tree → Nat
  | .text .. => 1
  | .list items => itemSize items + 1
  | .entries es => entrySize es + 1

/-- How many nodes the items of a list have. -/
def itemSize : List Tree → Nat
  | [] => 0
  | t :: rest => t.size + itemSize rest

/-- How many nodes the entries of a mapping have. -/
def entrySize : List (List Char × Tree) → Nat
  | [] => 0
  | (_, t) :: rest => 1 + t.size + entrySize rest

end

mutual

/-- How many collections of a tree are inside of each other. -/
def height : Tree → Nat
  | .text .. => 0
  | .list items => itemHeight items + 1
  | .entries es => entryHeight es + 1

/-- How many collections of the items of a list are inside of each other. -/
def itemHeight : List Tree → Nat
  | [] => 0
  | t :: rest => max t.height (itemHeight rest)

/-- How many collections of the entries of a mapping are inside of each other. -/
def entryHeight : List (List Char × Tree) → Nat
  | [] => 0
  | (_, t) :: rest => max t.height (entryHeight rest)

end

/-- The numbers of the items of a list, of which the first one begins at `base`. -/
def itemIds (base : Nat) : List Tree → List Nat
  | [] => []
  | t :: rest => base :: itemIds (base + t.size) rest

/-- The numbers of the keys and values of a mapping. -/
def entryIds (base : Nat) : List (List Char × Tree) → List (Nat × Nat)
  | [] => []
  | (_, t) :: rest => (base, base + 1) :: entryIds (base + 1 + t.size) rest

/-- The tag of a text as it is written. A plain one can be more than a string. -/
def textTag (cs : List Char) (isPlain : Bool) : String :=
  if isPlain then Tag.ofPlain (String.ofList cs) else Tag.str

mutual

/-- The nodes of a tree, without their places. -/
def nodes (base : Nat) : Tree → List (String × Content)
  | .text cs isPlain => [(textTag cs isPlain, .scalar (String.ofList cs))]
  | .list items => (Tag.seq, .sequence (itemIds (base + 1) items)) :: itemNodes (base + 1) items
  | .entries es => (Tag.map, .mapping (entryIds (base + 1) es)) :: entryNodes (base + 1) es

/-- The nodes of the items of a list. -/
def itemNodes (base : Nat) : List Tree → List (String × Content)
  | [] => []
  | t :: rest => t.nodes base ++ itemNodes (base + t.size) rest

/-- The nodes of the entries of a mapping. -/
def entryNodes (base : Nat) : List (List Char × Tree) → List (String × Content)
  | [] => []
  | (key, t) :: rest =>
    (Tag.str, .scalar (String.ofList key)) ::
      (t.nodes (base + 1) ++ entryNodes (base + 1 + t.size) rest)

end

variable {t : Tree} {items : List Tree} {es : List (List Char × Tree)}

theorem length_itemNodes (h : ∀ t ∈ items, ∀ base, (t.nodes base).length = t.size) (base : Nat) :
    (itemNodes base items).length = itemSize items := by
  induction items generalizing base with
  | nil => rfl
  | cons t rest ih =>
      rw [itemNodes, itemSize, List.length_append, h t (List.mem_cons_self ..),
        ih (fun t' ht => h t' (List.mem_cons_of_mem _ ht))]

theorem length_entryNodes (h : ∀ e ∈ es, ∀ base, (e.2.nodes base).length = e.2.size) (base : Nat) :
    (entryNodes base es).length = entrySize es := by
  induction es generalizing base with
  | nil => rfl
  | cons e rest ih =>
      have hhead := h e (List.mem_cons_self ..)
      rw [entryNodes, entrySize, List.length_cons, List.length_append, hhead,
        ih (fun e he => h e (List.mem_cons_of_mem _ he))]
      omega

theorem Fits.length_nodes (h : t.Fits) (base : Nat) : (t.nodes base).length = t.size := by
  induction h generalizing base with
  | word _ => rfl
  | quoted _ => rfl
  | list _ _ _ ih => rw [nodes, size, List.length_cons, length_itemNodes ih]
  | entries _ _ _ _ ih => rw [nodes, size, List.length_cons, length_entryNodes ih]

end Tree

namespace Graph

variable {g : Graph} {tag : String} {content : Content} {before after : List (String × Content)}

theorem length_shape (g : Graph) : g.shape.length = g.size := by
  unfold shape
  rw [List.length_map, Array.length_toList]

theorem shape_push (g : Graph) (node : Node) :
    Graph.shape (g.push node) = g.shape ++ [(node.tag, node.content)] := by
  unfold shape
  rw [Array.toList_push, List.map_append]
  rfl

/-- A node, by its place in the shape. -/
theorem node_of_shape (h : g.shape = before ++ (tag, content) :: after) :
    (g.node before.length).tag = tag ∧ (g.node before.length).content = content := by
  have hget : g.shape[before.length]? = some (tag, content) := by
    rw [h]
    simp
  unfold shape at hget
  rw [List.getElem?_map, Array.getElem?_toList] at hget
  rcases Option.map_eq_some_iff.mp hget with ⟨found, hfound, heq⟩
  unfold node
  rw [Array.getD_eq_getD_getElem?, hfound]
  exact ⟨congrArg Prod.fst heq, congrArg Prod.snd heq⟩

/-- What a node holds is replaced. -/
theorem shape_setContent (h : g.shape = before ++ (tag, content) :: after) (other : Content) :
    (g.setContent before.length other).shape = before ++ (tag, other) :: after := by
  have hnode := (node_of_shape h).1
  unfold shape at h ⊢
  unfold setContent
  rw [Array.toList_setIfInBounds, List.map_set, h, hnode]
  simp

end Graph

namespace Tree

open Assembly

variable {t : Tree} {items : List Tree} {es : List (List Char × Tree)} {s : Assembly}
  {own more : List Event} {fuel depth : Nat}

theorem peek_of_events {event : Event} {events : List Event} (h : s.events = event :: events) :
    s.peek = .ok event := by
  unfold peek
  rw [h]

/-- The state behind some events, whose nodes were put in. -/
structure Behind (s : Assembly) (more : List Event) (added : List (String × Content))
    (s' : Assembly) : Prop where
  events : s'.events = more
  fault : s'.fault = s.fault
  shape : s'.graph.shape = s.graph.shape ++ added

theorem Behind.size {added : List (String × Content)} {s' : Assembly} (h : Behind s more added s') :
    s'.graph.size = s.graph.size + added.length := by
  rw [← Graph.length_shape, h.shape, List.length_append, Graph.length_shape]

theorem Behind.trans {first second : List (String × Content)} {more' : List Event} {s' s'' : Assembly}
    (h : Behind s more' first s') (h' : Behind s' more second s'') :
    Behind s more (first ++ second) s'' :=
  { events := h'.events
    fault := h'.fault.trans h.fault
    shape := by rw [h'.shape, h.shape, List.append_assoc] }

/-- A tree is composed from its events, in some fuel and inside of so many collections. -/
def Composes (t : Tree) : Prop :=
  ∀ {s : Assembly} {own more : List Event} {fuel depth : Nat}, s.events = own ++ more →
    own.map (·.kind) = t.events → own.length ≤ fuel → depth + t.height ≤ maxNesting →
    ∃ s', composeNode fuel depth s = .ok (s.graph.size, s') ∧
      Behind s more (t.nodes s.graph.size) s'

theorem composes_text {cs : List Char} {event : Event} {isPlain : Bool} (fuel depth : Nat)
    (hs : s.events = event :: more)
    (hkind : event.kind = .scalar none none (String.ofList cs) isPlain) :
    ∃ s', composeNode (fuel + 1) depth s = .ok (s.graph.size, s') ∧
      Behind s more [(textTag cs isPlain, .scalar (String.ofList cs))] s' := by
  refine ⟨⟨s.graph.push ⟨textTag cs isPlain, event.mark, .scalar (String.ofList cs)⟩, s.anchors,
    more, s.fault⟩, ?_,
    { events := rfl
      fault := rfl
      shape := Graph.shape_push s.graph _ }⟩
  unfold composeNode
  rw [peek_of_events hs, ok_bind, hkind]
  simp only [checkAnchor, ok_bind, Option.getD_none, add, drop, hs]
  rfl

theorem events_head (h : own.map (·.kind) = t.events) : ∃ event rest, own = event :: rest ∧
    event.kind ≠ .sequenceEnd ∧ event.kind ≠ .mappingEnd := by
  cases t with
  | text cs isPlain =>
      rcases List.map_eq_cons_iff.mp h with ⟨event, rest, rfl, hkind, _⟩
      exact ⟨event, rest, rfl, by simp [hkind], by simp [hkind]⟩
  | list items =>
      rcases List.map_eq_cons_iff.mp h with ⟨event, rest, rfl, hkind, _⟩
      exact ⟨event, rest, rfl, by simp [hkind], by simp [hkind]⟩
  | entries es =>
      rcases List.map_eq_cons_iff.mp h with ⟨event, rest, rfl, hkind, _⟩
      exact ⟨event, rest, rfl, by simp [hkind], by simp [hkind]⟩

theorem composes_items {last : Event} (hfit : ∀ t ∈ items, t.Fits) (ih : ∀ t ∈ items, t.Composes)
    (hs : s.events = own ++ last :: more) (hown : own.map (·.kind) = itemEvents items)
    (hlast : last.kind = .sequenceEnd) (hfuel : own.length < fuel)
    (hdepth : depth + itemHeight items ≤ maxNesting) :
    ∃ s', composeItems fuel depth s = .ok (itemIds s.graph.size items, s') ∧
      Behind s more (itemNodes s.graph.size items) s' := by
  obtain ⟨fuel, rfl⟩ : ∃ less, fuel = less + 1 := ⟨fuel - 1, by omega⟩
  induction items generalizing s own fuel with
  | nil =>
      rw [List.map_eq_nil_iff.mp hown, List.nil_append] at hs
      refine ⟨s.drop, ?_,
        { events := by simp [drop, hs]
          fault := rfl
          shape := (List.append_nil _).symm }⟩
      unfold composeItems
      rw [peek_of_events hs, ok_bind, hlast]
      rfl
  | cons t rest ihrest =>
      have hhead : t ∈ t :: rest := List.mem_cons_self ..
      rw [itemHeight] at hdepth
      rcases List.map_eq_append_iff.mp hown with ⟨first, others, rfl, hfirst, hothers⟩
      -- No node begins with the end of a list, so there is another item.
      rcases events_head hfirst with ⟨event, first', hsplit, hend, _⟩
      have hcons : s.events = event :: (first' ++ (others ++ last :: more)) := by
        rw [hs, hsplit]
        simp
      rw [List.length_append] at hfuel
      have hpositive : 0 < first.length := by rw [hsplit]; exact Nat.succ_pos _
      rcases ih t hhead (hs.trans (List.append_assoc ..)) hfirst (by omega : first.length ≤ fuel)
        (by omega : depth + t.height ≤ maxNesting) with ⟨s1, hitem, hs1⟩
      obtain ⟨fuel, rfl⟩ : ∃ less, fuel = less + 1 := ⟨fuel - 1, by omega⟩
      rcases ihrest (fun t' ht => hfit t' (List.mem_cons_of_mem _ ht))
        (fun t' ht => ih t' (List.mem_cons_of_mem _ ht)) hs1.events hothers (by omega) fuel (by omega)
        with ⟨s', hitems, hs'⟩
      -- The next item is put behind the nodes of the first one.
      have hsize := hs1.size
      rw [(hfit t hhead).length_nodes] at hsize
      rw [hsize] at hitems hs'
      refine ⟨s', ?_, hs1.trans hs'⟩
      unfold composeItems
      rw [peek_of_events hcons, ok_bind, beq_eq_false_iff_ne.mpr hend]
      simp only [Bool.false_eq_true, if_false, hitem, ok_bind, hitems]
      rfl

theorem composes_entries {last : Event} (hkey : ∀ e ∈ es, IsKey e.1) (hfit : ∀ e ∈ es, e.2.Fits)
    (ih : ∀ e ∈ es, e.2.Composes) (hs : s.events = own ++ last :: more)
    (hown : own.map (·.kind) = entryEvents es) (hlast : last.kind = .mappingEnd)
    (hfuel : own.length < fuel) (hdepth : depth + entryHeight es ≤ maxNesting) :
    ∃ s', composeEntries fuel depth s = .ok (entryIds s.graph.size es, s') ∧
      Behind s more (entryNodes s.graph.size es) s' := by
  obtain ⟨fuel, rfl⟩ : ∃ less, fuel = less + 1 := ⟨fuel - 1, by omega⟩
  induction es generalizing s own fuel with
  | nil =>
      rw [List.map_eq_nil_iff.mp hown, List.nil_append] at hs
      refine ⟨s.drop, ?_,
        { events := by simp [drop, hs]
          fault := rfl
          shape := (List.append_nil _).symm }⟩
      unfold composeEntries
      rw [peek_of_events hs, ok_bind, hlast]
      rfl
  | cons e rest ihrest =>
      rcases e with ⟨key, t⟩
      have hhead : (key, t) ∈ (key, t) :: rest := List.mem_cons_self ..
      rw [entryHeight] at hdepth
      rcases List.map_eq_cons_iff.mp hown with ⟨name, own, rfl, hname, hown⟩
      rcases List.map_eq_append_iff.mp hown with ⟨value, others, rfl, hvalue, hothers⟩
      have hend : name.kind ≠ .mappingEnd := by simp [hname]
      rw [List.length_cons, List.length_append] at hfuel
      -- A value has at least one event, so each entry takes at least two.
      have hvalued : 0 < value.length := by
        rcases events_head hvalue with ⟨event, rest, rfl, _⟩
        exact Nat.succ_pos _
      obtain ⟨fuel, rfl⟩ : ∃ less, fuel = less + 1 := ⟨fuel - 1, by omega⟩
      rcases composes_text fuel depth hs hname with ⟨s1, hfirst, hs1⟩
      have hstring : textTag key true = Tag.str := (hkey _ hhead).isString
      rw [hstring] at hs1
      rcases ih _ hhead (hs1.events.trans (List.append_assoc ..)) hvalue
        (by omega : value.length ≤ fuel + 1) (by omega : depth + t.height ≤ maxNesting)
        with ⟨s2, hsecond, hs2⟩
      rcases ihrest (fun e he => hkey e (List.mem_cons_of_mem _ he))
        (fun e he => hfit e (List.mem_cons_of_mem _ he))
        (fun e he => ih e (List.mem_cons_of_mem _ he)) hs2.events hothers (by omega) fuel (by omega)
        with ⟨s', hentries, hs'⟩
      -- The key has one node, and the value is put behind it.
      have hsize1 : s1.graph.size = s.graph.size + 1 := hs1.size
      have hsize2 := hs2.size
      rw [(hfit _ hhead).length_nodes, hsize1] at hsize2
      rw [hsize2] at hentries hs'
      rw [hsize1] at hsecond hs2
      refine ⟨s', ?_, ?_⟩
      · unfold composeEntries
        rw [peek_of_events hs, ok_bind, beq_eq_false_iff_ne.mpr hend]
        simp only [Bool.false_eq_true, if_false, hfirst, ok_bind, hsecond, hentries]
        rfl
      · have hall := hs1.trans (hs2.trans hs')
        exact hall

/-- A collection gets its parts when it is over. -/
theorem Behind.filled {s1 s2 : Assembly} {node : Node} {added : List (String × Content)}
    (h : Behind s1 more added s2) (hgraph : s1.graph = s.graph.push node)
    (hfault : s1.fault = s.fault) (content : Content) :
    Behind s more ((node.tag, content) :: added)
      { s2 with graph := s2.graph.setContent s.graph.size content } :=
  { events := h.events
    fault := h.fault.trans hfault
    shape := by
      have hshape := h.shape
      rw [hgraph, Graph.shape_push, List.append_assoc, List.singleton_append] at hshape
      rw [← Graph.length_shape s.graph]
      exact Graph.shape_setContent hshape content }

/-- The events of a collection are those of its parts between two that enclose them. -/
theorem events_enclosed {first last : EventKind} {inside : List EventKind}
    (hs : s.events = own ++ more) (hown : own.map (·.kind) = first :: (inside ++ [last])) :
    ∃ start parts stop, s.events = start :: (parts ++ stop :: more) ∧
      own.length = parts.length + 2 ∧ start.kind = first ∧ parts.map (·.kind) = inside ∧
      stop.kind = last := by
  rcases List.map_eq_cons_iff.mp hown with ⟨start, own, rfl, hstart, hown⟩
  rcases List.map_eq_append_iff.mp hown with ⟨parts, ends, rfl, hparts, hends⟩
  rcases List.map_eq_singleton_iff.mp hends with ⟨stop, rfl, hstop⟩
  exact ⟨start, parts, stop, by simpa using hs, by simp, hstart, hparts, hstop⟩

theorem composes_list (hfit : ∀ t ∈ items, t.Fits) (ih : ∀ t ∈ items, t.Composes) :
    (list items).Composes := by
  intro s own more fuel depth hs hown hfuel hdepth
  rcases events_enclosed hs hown with ⟨start, parts, stop, hs, hlength, hstart, hparts, hstop⟩
  rw [height] at hdepth
  obtain ⟨fuel, rfl⟩ : ∃ less, fuel = less + 1 := ⟨fuel - 1, by omega⟩
  have hrest : (s.drop.add none ⟨Tag.seq, start.mark, .sequence []⟩).2.events
      = parts ++ stop :: more := by simp [add, drop, hs]
  -- The node of the list is there before its items, which have the numbers behind it.
  have hsize : (s.drop.add none ⟨Tag.seq, start.mark, .sequence []⟩).2.graph.size
      = s.graph.size + 1 := Array.size_push _
  rcases composes_items hfit ih hrest hparts hstop (by omega : parts.length < fuel)
    (by omega : depth + 1 + itemHeight items ≤ maxNesting) with ⟨s2, hitems, hs2⟩
  rw [hsize] at hitems hs2
  refine ⟨_, ?_, hs2.filled (s := s) rfl rfl (.sequence (itemIds (s.graph.size + 1) items))⟩
  have hshallow : ¬maxNesting ≤ depth := by omega
  unfold composeNode
  rw [peek_of_events hs, ok_bind, hstart]
  simp only [checkAnchor, ok_bind, if_neg hshallow, Option.getD_none]
  rw [hitems, ok_bind]
  rfl

theorem composes_mapping (hkey : ∀ e ∈ es, IsKey e.1) (hfit : ∀ e ∈ es, e.2.Fits)
    (ih : ∀ e ∈ es, e.2.Composes) : (entries es).Composes := by
  intro s own more fuel depth hs hown hfuel hdepth
  rcases events_enclosed hs hown with ⟨start, parts, stop, hs, hlength, hstart, hparts, hstop⟩
  rw [height] at hdepth
  obtain ⟨fuel, rfl⟩ : ∃ less, fuel = less + 1 := ⟨fuel - 1, by omega⟩
  have hrest : (s.drop.add none ⟨Tag.map, start.mark, .mapping []⟩).2.events
      = parts ++ stop :: more := by simp [add, drop, hs]
  -- The node of the mapping is there before its entries, which have the numbers behind it.
  have hsize : (s.drop.add none ⟨Tag.map, start.mark, .mapping []⟩).2.graph.size
      = s.graph.size + 1 := Array.size_push _
  rcases composes_entries hkey hfit ih hrest hparts hstop (by omega : parts.length < fuel)
    (by omega : depth + 1 + entryHeight es ≤ maxNesting) with ⟨s2, hentries, hs2⟩
  rw [hsize] at hentries hs2
  refine ⟨_, ?_, hs2.filled (s := s) rfl rfl (.mapping (entryIds (s.graph.size + 1) es))⟩
  have hshallow : ¬maxNesting ≤ depth := by omega
  unfold composeNode
  rw [peek_of_events hs, ok_bind, hstart]
  simp only [checkAnchor, ok_bind, if_neg hshallow, Option.getD_none]
  rw [hentries, ok_bind]
  rfl

/-- A tree is composed. -/
theorem Fits.composes (h : t.Fits) : t.Composes := by
  induction h with
  | word _ =>
      intro s own more fuel depth hs hown hfuel _
      rcases List.map_eq_singleton_iff.mp hown with ⟨event, rfl, hkind⟩
      obtain ⟨fuel, rfl⟩ : ∃ less, fuel = less + 1 := ⟨fuel - 1, by simp at hfuel; omega⟩
      exact composes_text fuel depth hs hkind
  | quoted _ =>
      intro s own more fuel depth hs hown hfuel _
      rcases List.map_eq_singleton_iff.mp hown with ⟨event, rfl, hkind⟩
      obtain ⟨fuel, rfl⟩ : ∃ less, fuel = less + 1 := ⟨fuel - 1, by simp at hfuel; omega⟩
      exact composes_text fuel depth hs hkind
  | list _ _ hfit ih => exact composes_list hfit ih
  | entries _ _ hkey hfit ih => exact composes_mapping hkey hfit ih

/-- The nodes of events that are those of a tree. -/
theorem composeDocument_tree {events : List Event} (h : t.Fits) (hheight : t.height ≤ maxNesting)
    (hevents : events.map (·.kind)
      = .streamStart :: .documentStart :: (t.events ++ [.documentEnd, .streamEnd])) :
    ∃ g, composeDocument ⟨events, none⟩ = .ok (some (0, g)) ∧ g.shape = t.nodes 0 := by
  rcases List.map_eq_cons_iff.mp hevents with ⟨first, events, rfl, _, hevents⟩
  rcases List.map_eq_cons_iff.mp hevents with ⟨second, events, rfl, hsecond, hevents⟩
  rcases List.map_eq_append_iff.mp hevents with ⟨own, ends, rfl, hown, hends⟩
  rcases List.map_eq_cons_iff.mp hends with ⟨third, ends, rfl, _, hends⟩
  rcases List.map_eq_singleton_iff.mp hends with ⟨last, rfl, hlast⟩
  have hstart : (second.kind == .streamEnd) = false := by simp [hsecond]
  -- The whole tree begins at the root, with nothing around it.
  rcases h.composes (s := ⟨#[], [], own ++ [third, last], none⟩) rfl hown
    (by simp; omega : own.length ≤ (first :: second :: (own ++ [third, last])).length + 1)
    (by omega : 0 + t.height ≤ maxNesting) with ⟨s', hnode, hs'⟩
  have hthird : s'.events = third :: [last] := hs'.events
  have hover : s'.drop.events = last :: [] := by simp [drop, hthird]
  refine ⟨s'.graph, ?_, hs'.shape⟩
  have hfirst (g : Graph) (rest : List Event) (event : Event) :
      (⟨g, [], event :: rest, none⟩ : Assembly).peek = .ok event := rfl
  have hrest (g : Graph) (rest : List Event) (event : Event) :
      (⟨g, [], event :: rest, none⟩ : Assembly).drop = ⟨g, [], rest, none⟩ := rfl
  unfold composeDocument
  simp only [hfirst, hrest, ok_bind, hstart, Bool.false_eq_true, if_false, hnode,
    peek_of_events hthird, peek_of_events hover, hlast]
  rfl

end Tree

end Yaml

end Annals
