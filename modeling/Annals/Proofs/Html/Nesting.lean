import Annals.Proofs.Html.Body
import Mathlib.Data.Set.Insert
import Mathlib.Order.Bounds.Basic

/-!
# Levels Within a Fragment

Of the elements that are open, an outline keeps only their number. For items that lie within
each other, each closed by a tag of its own, nothing more is needed: their events lead back to
the level at which they began, and only the outermost items are recorded, in order. The
induction is on the items, at all levels at once, since what lies in an element begins one
level further down.

The events of a fragment need not be of this kind. A closing tag can stand where no element is
open, and an element can stay open up to the end. Then the level is no longer the number of
tags that open an element less that of tags that close one: a closing tag at the top is passed
over, and the count begins anew behind it. So the level is the largest of the counts that begin
anywhere and go on to the end. One of them counts nothing, and so the level is never above the
top.

That it is not would be no more than a matter of notation if the level were a natural number
by definition. So it is counted in integers here, and an outline is shown to agree.

## Main definitions

* `Html.Item`: An item of a fragment in which every element is closed.
* `Item.events`, `Item.eventsOf`: The events of items.
* `Item.roots`: The nodes of the outermost items.
* `Event.rise`, `rises`: How many levels events lead down if nothing holds them back.
* `Event.level`, `levelAfter`: The level after events, as an integer.
* `counts`: What is counted from anywhere in some events up to their end.

## Theorems

* `run_eventsOf`: What the events of items do to an outline.
* `isGreatest_levelAfter`: The level after any events.
* `depth_run`: The level of an outline is that of integers.
* `run_nesting`: Items that are closed, and any events at all.
-/

namespace Annals

namespace Html

/-- An item of a fragment in which every element is closed by a tag of its own. -/
inductive Item where
  | comment (body : String)
  | declaration (body : String)
  | text (body : String)
  /-- An element whose only tag says that it is whole. -/
  | whole (name : String)
  /-- An element without content by its nature, which has no closing tag. -/
  | void (name : String) (hvoid : name ∈ voidElements)
  | element (name : String) (hname : name ∉ voidElements) (inner : List Item)

namespace Item

mutual

/-- The events of an item. -/
def events : Item → List Event
  | .comment body => [.comment body]
  | .declaration body => [.declaration body]
  | .text body => [.text body]
  | .whole name => [.opening name true]
  | .void name _ => [.opening name false]
  | .element name _ inner => .opening name false :: (eventsOf inner ++ [.closing name])
termination_by structural item => item

/-- The events of several items. -/
def eventsOf : List Item → List Event
  | [] => []
  | item :: rest => item.events ++ eventsOf rest
termination_by structural items => items

end

/-- The node of an item. A text of nothing but blanks has none. -/
def node? : Item → Option Node
  | .comment body => some (.comment body)
  | .declaration body => some (.declaration body)
  | .text body => if body.toList.all Text.isBlank then none else some (.text body)
  | .whole name | .void name _ | .element name _ _ => some (.element name)

/-- The nodes of several items, without what lies in them. -/
def roots (items : List Item) : List Node := items.filterMap node?

theorem roots_cons (item : Item) (rest : List Item) :
    roots (item :: rest) = item.node?.toList ++ roots rest := by
  unfold roots
  cases h : item.node? with
  | none => rw [List.filterMap_cons_none h, Option.toList_none, List.nil_append]
  | some node => rw [List.filterMap_cons_some h, Option.toList_some, List.singleton_append]

end Item

namespace Outline

/-- Nodes that are met at one level: all of them are recorded, or none. -/
def recordAll (o : Outline) (nodes : List Node) : Outline :=
  ⟨o.nodes ++ (if o.depth = 0 then nodes else []), o.depth⟩

theorem recordAll_nil (o : Outline) : o.recordAll [] = o := by
  unfold recordAll
  rw [ite_self, List.append_nil]

theorem recordAll_append (o : Outline) (nodes more : List Node) :
    o.recordAll (nodes ++ more) = (o.recordAll nodes).recordAll more := by
  unfold recordAll
  by_cases htop : o.depth = 0
  · simp only [if_pos htop, List.append_assoc]
  · simp only [if_neg htop, List.append_nil]

theorem recordAll_singleton (o : Outline) (node : Node) : o.recordAll [node] = o.record node := by
  unfold recordAll record
  by_cases htop : o.depth = 0
  · rw [if_pos htop, if_pos (beq_iff_eq.mpr htop)]
  · rw [if_neg htop, if_neg (fun h => htop (beq_iff_eq.mp h)), List.append_nil]

theorem depth_record (o : Outline) (node : Node) : (o.record node).depth = o.depth := by
  rw [← recordAll_singleton]
  rfl

/-- Below the top nothing is recorded. -/
theorem recordAll_below {o : Outline} (h : o.depth ≠ 0) (nodes : List Node) :
    o.recordAll nodes = o := by
  unfold recordAll
  rw [if_neg h, List.append_nil]

/-- A tag of an element that has no content is recorded, and the level stays. -/
theorem step_opening_flat (o : Outline) {name : String} {whole : Bool}
    (h : whole = true ∨ name ∈ voidElements) :
    o.step (.opening name whole) = o.record (.element name) := by
  have hflat : (whole || voidElements.contains name) = true := by
    rwa [Bool.or_eq_true, List.contains_iff_mem]
  unfold step
  simp only [hflat, if_true]

/-- The tag that opens an element is recorded, and leads one level down. -/
theorem step_opening_deep (o : Outline) {name : String} (h : name ∉ voidElements) :
    o.step (.opening name false) = ⟨(o.record (.element name)).nodes, o.depth + 1⟩ := by
  have hdeep : (false || voidElements.contains name) = false := by
    rw [Bool.false_or, ← Bool.not_eq_true, List.contains_iff_mem]
    exact h
  unfold step
  simp only [hdeep, Bool.false_eq_true, if_false, depth_record]

/-- An element is recorded as a whole, if what lies in it does nothing below the top. -/
theorem run_element (o : Outline) {name : String} (hname : name ∉ voidElements)
    {inner : List Event} (hinner : ∀ below : Outline, below.depth ≠ 0 → below.run inner = below) :
    o.run (.opening name false :: (inner ++ [.closing name])) = o.record (.element name) := by
  have hopened := step_opening_deep o hname
  have hbelow : (o.step (.opening name false)).depth ≠ 0 := by
    rw [hopened]
    exact Nat.succ_ne_zero _
  calc o.run (.opening name false :: (inner ++ [.closing name]))
      = ((o.step (.opening name false)).run inner).step (.closing name) := run_append _ inner _
    _ = (o.step (.opening name false)).step (.closing name) := by rw [hinner _ hbelow]
    _ = ⟨(o.record (.element name)).nodes, o.depth⟩ := by
        rw [hopened]
        rfl
    _ = o.record (.element name) := by rw [← depth_record o (.element name)]

mutual

/-- The events of an item record its node and nothing else, and leave the level as it is. -/
theorem run_itemEvents : ∀ (item : Item) (o : Outline),
    o.run item.events = o.recordAll item.node?.toList
  | .comment _, o | .declaration _, o => (recordAll_singleton o _).symm
  | .text body, o => by
      rw [Item.events, Item.node?]
      change (if body.toList.all Text.isBlank then o else o.record (.text body)) = _
      split
      · exact (recordAll_nil o).symm
      · exact (recordAll_singleton o _).symm
  | .whole _, o => (step_opening_flat o (Or.inl rfl)).trans (recordAll_singleton o _).symm
  | .void _ hvoid, o => (step_opening_flat o (Or.inr hvoid)).trans (recordAll_singleton o _).symm
  | .element _ hname inner, o => by
      -- What is inside of the element is below the level of the outline, which records nothing of
      -- it.
      rw [Item.events, run_element o hname]
      · exact (recordAll_singleton o _).symm
      · intro below hbelow
        rw [run_eventsOf inner below, recordAll_below hbelow]

/-- The events of items record their nodes in order, and leave the level as it is. -/
theorem run_eventsOf : ∀ (items : List Item) (o : Outline),
    o.run (Item.eventsOf items) = o.recordAll (Item.roots items)
  | [], o => (recordAll_nil o).symm
  | item :: rest, o => by
      rw [Item.eventsOf, run_append, run_itemEvents item o, run_eventsOf rest, Item.roots_cons,
        recordAll_append]

end

end Outline

/-- How many levels an event leads down, or up if this is negative. -/
def Event.rise : Event → Int
  | .opening name whole => if whole || voidElements.contains name then 0 else 1
  | .closing _ => -1
  | .comment _ | .declaration _ | .text _ => 0

/-- How many levels events lead down if nothing holds them back. -/
def rises : List Event → Int
  | [] => 0
  | event :: rest => event.rise + rises rest

/-- The level after an event: a closing tag leads up only from below the top. -/
def Event.level (level : Int) : Event → Int
  | .closing _ => if 0 < level then level - 1 else level
  | event => level + event.rise

/-- The level after events. -/
def levelAfter (level : Int) (events : List Event) : Int := events.foldl Event.level level

/-- What the level is counted to if nothing holds the events back: from the level at which they
    begin, or from the top anywhere among them. -/
def counts (level : Int) (events : List Event) : Set Int :=
  insert (level + rises events) {count | ∃ rest, rest <:+ events ∧ count = rises rest}

/-- An event is counted, unless this would lead above the top. -/
theorem Event.level_eq {level : Int} (h : 0 ≤ level) (event : Event) :
    event.level level = max (level + event.rise) 0 := by
  cases event with
  | opening name whole =>
      have hrise : 0 ≤ (Event.opening name whole).rise := by
        change 0 ≤ if whole || voidElements.contains name then (0 : Int) else 1
        split <;> decide
      exact (max_eq_left (Int.add_nonneg h hrise)).symm
  | closing name =>
      change (if 0 < level then level - 1 else level) = max (level + -1) 0
      split <;> omega
  | comment body | declaration body | text body =>
      change level + 0 = max (level + 0) 0
      omega

/-- What events are counted to from the top is counted among more of them. -/
theorem rises_mem_counts (level : Int) {rest events : List Event} (h : rest <:+ events) :
    rises rest ∈ counts level events := Set.mem_insert_of_mem _ ⟨rest, h, rfl⟩

/-- The level after any events, from the top or below: the largest of the counts from anywhere
    in them up to their end. -/
theorem isGreatest_levelAfter {level : Int} (h : 0 ≤ level) (events : List Event) :
    IsGreatest (counts level events) (levelAfter level events) := by
  induction events generalizing level with
  | nil =>
      have hnone : rises [] = 0 := rfl
      have hstay : levelAfter level [] = level := rfl
      rw [hstay]
      constructor
      · refine Set.mem_insert_iff.mpr (Or.inl ?_)
        rw [hnone, Int.add_zero]
      · rintro count (rfl | ⟨rest, hrest, rfl⟩)
        · rw [hnone, Int.add_zero]
        · rw [List.suffix_nil.mp hrest]
          exact h
  | cons event rest ih =>
      have hlevel := Event.level_eq h event
      have hrises : rises (event :: rest) = event.rise + rises rest := rfl
      have hstep : levelAfter level (event :: rest) = levelAfter (event.level level) rest := rfl
      have hstart : 0 ≤ event.level level := by omega
      rcases ih hstart with ⟨hmem, hmost⟩
      rw [hstep]
      constructor
      · rcases hmem with heq | ⟨own, hown, heq⟩
        · -- The event is counted, or the count begins anew behind it.
          rcases le_total 0 (level + event.rise) with hbelow | habove
          · refine Set.mem_insert_iff.mpr (Or.inl ?_)
            omega
          · have hanew : levelAfter (event.level level) rest = rises rest := by omega
            rw [hanew]
            exact rises_mem_counts level (List.suffix_cons event rest)
        · rw [heq]
          exact rises_mem_counts level (hown.trans (List.suffix_cons event rest))
      · have hwhole := hmost (Set.mem_insert _ _)
        rintro count (rfl | ⟨own, hown, rfl⟩)
        · omega
        · rcases List.suffix_cons_iff.mp hown with rfl | hown
          · omega
          · exact hmost (rises_mem_counts _ hown)

namespace Outline

/-- The level of an outline is counted as in integers. -/
theorem depth_step (o : Outline) (event : Event) :
    ((o.step event).depth : Int) = event.level o.depth := by
  cases event with
  | opening name whole =>
      change ((if whole || voidElements.contains name then o.record (.element name)
        else ⟨(o.record (.element name)).nodes, (o.record (.element name)).depth + 1⟩).depth : Int)
          = o.depth + if whole || voidElements.contains name then 0 else 1
      split
      · rw [depth_record, Int.add_zero]
      · change (((o.record (.element name)).depth + 1 : Nat) : Int) = o.depth + 1
        rw [depth_record, Int.natCast_add, Int.natCast_one]
  | closing name =>
      -- At the top the natural number stays where it is, and so does the integer.
      change ((o.depth - 1 : Nat) : Int)
        = if 0 < (o.depth : Int) then (o.depth : Int) - 1 else o.depth
      split <;> omega
  | comment body | declaration body =>
      change ((o.record _).depth : Int) = o.depth + 0
      rw [depth_record, Int.add_zero]
  | text body =>
      change ((if body.toList.all Text.isBlank then o else o.record (.text body)).depth : Int)
        = o.depth + 0
      rw [Int.add_zero]
      split
      · rfl
      · rw [depth_record]

theorem depth_run (o : Outline) (events : List Event) :
    ((o.run events).depth : Int) = levelAfter o.depth events := by
  induction events generalizing o with
  | nil => rfl
  | cons event rest ih =>
      have hstep := ih (o.step event)
      rw [depth_step] at hstep
      exact hstep

/-- The events of items that are closed record the outermost items in order if no element is
    open, except for texts of blanks, and lead back to the level at which they began. After any
    events at all, the level is counted as in integers and is not above the top: it is the
    largest count that begins anywhere among the events. A closing tag at the top does
    nothing. -/
theorem run_nesting :
    (∀ (o : Outline) (items : List Item), o.run (Item.eventsOf items)
      = ⟨o.nodes ++ (if o.depth = 0 then Item.roots items else []), o.depth⟩) ∧
    (∀ (o : Outline) (events : List Event),
      ((o.run events).depth : Int) = levelAfter o.depth events ∧ 0 ≤ levelAfter o.depth events ∧
        IsGreatest (counts o.depth events) (levelAfter o.depth events)) ∧
    ∀ (nodes : List Node) (name : String), step ⟨nodes, 0⟩ (.closing name) = ⟨nodes, 0⟩ := by
  refine ⟨fun o items => run_eventsOf items o, fun o events => ?_, fun nodes name => rfl⟩
  have hgreatest := isGreatest_levelAfter (Int.natCast_nonneg o.depth) events
  -- What is counted from the end on is nothing.
  have hnone := hgreatest.2 (rises_mem_counts o.depth List.nil_suffix)
  exact ⟨depth_run o events, hnone, hgreatest⟩

/-- Closing tags that have nothing to close do no harm, before an element or behind it. -/
example : empty.run [.closing "p", .opening "details" false, .opening "br" false,
    .comment "inside", .closing "details", .closing "p", .text " ", .comment "beside"]
    = ⟨[.element "details", .comment "beside"], 0⟩ := by decide

end Outline

end Html

end Annals
