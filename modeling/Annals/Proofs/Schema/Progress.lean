import Annals.Proofs.Schema.Outcome
import Annals.Proofs.Schema.Tame

/-!
# Tame Schemas Come to Their End

The check of a modest value against a tame schema follows all rules to their end, and all
that it finds can be reported.

There is one lemma for each rule that is put together from more than one part, on the
outcomes of the parts, and `ends_rule` goes through the rules. The rules know nothing of how
the schemas in their settings are followed but that this comes to an end if they are tame
(`Settles`). This is what the induction on the depth puts in: each depth takes at most three
units of the room that there is.

## Main definitions

* `Schema.Settles`: A way to follow schemas that comes to an end with tame ones.

## Theorems

* `ends_rule`: A tame rule.
* `settles_judgeFor`: A tame schema, in enough room.
* `violations_of_isTame`: The violations of a modest value are found.
-/

namespace Annals

namespace Schema

/-- A judge under which every tame schema comes to its end on every modest value. -/
def Settles (tame : Context → Value → Bool) (judge : Judge) : Prop :=
  ∀ step c schema value, tame c schema = true → value.isModest = true →
    (judge step c schema value).Ends

section Inside

variable {tame : Context → Value → Bool} {judge : Judge} {c : Context} {schema value : Value}

/-- A tame schema that is followed. -/
theorem ends_follows (hj : Settles tame judge) {scope : Except Fault Scope}
    (h : tameWhere tame c scope schema = true) (hv : value.isModest = true) :
    (follows judge c scope schema value).Ends := by
  unfold tameWhere at h
  unfold follows
  split at h
  · next b =>
      cases b with
      | true => exact Outcome.ends_none
      | false =>
          refine Outcome.ends_single _ rfl ?_
          exact Piece.shown_words.mpr (Piece.shown_value.mpr
            ⟨Value.holdsLong_of_isModest value hv, Piece.shown_nil⟩)
  · -- A schema of any other form is followed under its own address and dialect.
    next hbool =>
      split at h
      · next own d hd =>
          have hends := hj .into _ schema value h hv
          split
          · exact absurd rfl (hbool true)
          · exact absurd rfl (hbool false)
          · exact Outcome.ends_decide ⟨own, rfl, Outcome.ends_decide ⟨d, hd, hends⟩⟩
      · cases h

/-- A tame schema of which it is only asked whether a value conforms to it. -/
theorem holds_of_tameAsked (hj : Settles tame judge) (h : tameAsked tame c schema = true)
    (hv : value.isModest = true) : ∃ answer, holds judge c schema value = .ok answer := by
  unfold tameAsked at h
  unfold holds
  split at h
  · next d hd =>
      rw [hd]
      exact (hj .test _ schema value h hv).conforms
  · cases h

end Inside

/-! ### Rules -/

section Rules

variable {tame : Context → Value → Bool} {p : Place} {value : Value} {pieces : List Piece}

/-- A schema is tame where a rule follows it. -/
abbrev Place.Tame (tame : Context → Value → Bool) (p : Place) (schema : Value) : Prop :=
  tameWhere tame p.context (p.context.scope.inside p.context.dialect schema) schema = true

theorem Place.ends_descend (hj : Settles tame p.judge) {schema : Value} (h : p.Tame tame schema)
    (hv : value.isModest = true) : (p.descend schema value).Ends :=
  ends_follows hj h hv

theorem Place.ends_descendAt (hj : Settles tame p.judge) {key schema : Value}
    (h : p.Tame tame schema) (hkey : key.holdsLong = false) (hv : value.isModest = true) :
    (p.descendAt key schema value).Ends := by
  have hends := p.ends_descend hj h hv
  unfold Place.descendAt Schema.descendAt
  split
  · exact hends
  · exact hends
  · exact hends.beneath hkey

theorem Place.ends_violated (hs : p.setting.holdsLong = false) (hp : Piece.Shown pieces) :
    (p.violated pieces).Ends :=
  Outcome.ends_single _ hs hp

theorem Place.ends_violatedIf {answer : Except Fault Bool} (hs : p.setting.holdsLong = false)
    (ha : ∃ b, answer = .ok b) (hp : Piece.Shown pieces) : (p.violatedIf answer pieces).Ends := by
  rcases ha with ⟨b, hb⟩
  refine Outcome.ends_decide ⟨b, hb, ?_⟩
  cases b with
  | true => exact p.ends_violated hs hp
  | false => exact Outcome.ends_none

/-- What is said about a value and its setting. -/
theorem shown_both {setting : Value} (hv : value.isModest = true)
    (hs : setting.holdsLong = false) (words : String) :
    Piece.Shown [.shown value, .words words, .shown setting] :=
  Piece.shown_value.mpr ⟨Value.holdsLong_of_isModest value hv,
    Piece.shown_words.mpr (Piece.shown_value.mpr ⟨hs, Piece.shown_nil⟩)⟩

/-- What is said about a value alone. -/
theorem shown_about (hv : value.isModest = true) (words : String) :
    Piece.Shown [.shown value, .words words] :=
  Piece.shown_value.mpr ⟨Value.holdsLong_of_isModest value hv,
    Piece.shown_words.mpr Piece.shown_nil⟩

/-- Numbers have an order or none, and either is an answer. -/
theorem ordered_of_isNumeric {a b : Value} (ha : a.isNumeric = true) (hb : b.isNumeric = true)
    (accepts : Ordering → Bool) : ∃ answer, ordered a b accepts = .ok answer := by
  obtain ⟨o, ho⟩ : ∃ o, a.order? b = .ok o := by
    change ∃ o, (if a.isNumeric && b.isNumeric then _ else _) = Except.ok o
    rw [ha, hb]
    split
    · split
      · exact ⟨_, rfl⟩
      · exact ⟨_, rfl⟩
    · contradiction
  unfold ordered
  rw [ho]
  exact ⟨_, rfl⟩

theorem isNumeric_of_isNumber {v : Value} (h : v.isNumber = true) : v.isNumeric = true := by
  cases v <;> first | rfl | cases h

/-- A rule that holds a number against its setting. -/
theorem Place.ends_limit (hs : p.setting.holdsLong = false) (hv : value.isModest = true)
    (hnumeric : p.setting.isNumeric = true) (hnumber : value.isNumber = true)
    (accepts : Ordering → Bool) (relation : String) :
    (p.violatedIf (ordered value p.setting accepts) (p.compared value relation)).Ends :=
  p.ends_violatedIf hs (ordered_of_isNumeric (isNumeric_of_isNumber hnumber) hnumeric _)
    (shown_both hv hs _)

/-- A rule that holds a size against its setting. -/
theorem Place.ends_size (hs : p.setting.holdsLong = false) (hv : value.isModest = true)
    (hnumeric : p.setting.isNumeric = true) (size : Nat) (wording : String) :
    (tooSmall p value size wording).Ends ∧ (tooLarge p value size wording).Ends := by
  have hordered (accepts : Ordering → Bool) := ordered_of_isNumeric (a := .int size) rfl hnumeric
    accepts
  refine ⟨p.ends_violatedIf hs (hordered _) ?_, p.ends_violatedIf hs (hordered _) ?_⟩
  · split
    · exact shown_about hv _
    · exact shown_about hv _
  · split
    · exact shown_about hv _
    · exact shown_about hv _

/-- Schemas, each for the item at the same place of a list. -/
theorem ends_tuple (hj : Settles tame p.judge) {id : Nat} {items schemas : List Value}
    (hv : (Value.seq id items).isModest = true) (h : ∀ s ∈ schemas, p.Tame tame s) :
    (tuple p (.seq id items) items schemas).Ends := by
  refine Outcome.ends_each fun e he => ?_
  rcases e with ⟨⟨v, s⟩, i⟩
  rcases List.mem_zipIdx' he with ⟨hi, heq⟩
  rcases List.of_mem_zip (heq ▸ List.getElem_mem hi) with ⟨hitem, hschema⟩
  rw [List.length_zip] at hi
  exact p.ends_descendAt hj (h s hschema) (Value.not_isLong_index hv (by omega))
    (Value.isModest_part hv (Value.isModest_items hv v hitem))

/-- One schema for all items of a list from some place on. -/
theorem ends_items (hj : Settles tame p.judge) {id : Nat} {items : List Value} {schema : Value}
    (hv : (Value.seq id items).isModest = true) (h : p.Tame tame schema) (start : Nat) :
    (Outcome.each (items.zipIdx.drop start) fun (v, i) =>
      p.descendAt (.int i) schema ((Value.seq id items).part v)).Ends := by
  refine Outcome.ends_each fun e he => ?_
  rcases List.mem_zipIdx' (List.mem_of_mem_drop he) with ⟨hi, heq⟩
  exact p.ends_descendAt hj h (Value.not_isLong_index hv hi)
    (Value.isModest_part hv (Value.isModest_items hv _ (heq ▸ List.getElem_mem hi)))

theorem ends_itemsAfterTuple (hj : Settles tame p.judge) (hs : p.setting.holdsLong = false)
    {id : Nat} {items : List Value} (hv : (Value.seq id items).isModest = true)
    (h : p.Tame tame p.setting) : (itemsAfterTuple p (.seq id items) items).Ends := by
  unfold itemsAfterTuple
  simp only []
  split
  · exact Outcome.ends_none
  · split
    · -- No schema is followed; what is shown are the items that nothing is left for.
      refine p.ends_violated hs
        (Piece.shown_words.mpr (Piece.shown_value.mpr ⟨?_, Piece.shown_nil⟩))
      have hrest : ∀ v ∈ items.drop (listUnder p.schema "prefixItems").length, v.isModest = true :=
        fun v hmem => Value.isModest_items hv v (List.mem_of_mem_drop hmem)
      split
      · next v hone =>
          exact Value.holdsLong_of_isModest v (hrest v (hone ▸ List.mem_singleton_self v))
      · exact Value.anyHoldsLong_of_allModest _ (Value.allModest_iff.mpr hrest)
    · exact ends_items hj hv h _

/-- Schemas for the values under their keys. -/
theorem ends_properties (hj : Settles tame p.judge) (hs : p.setting.holdsLong = false) {id : Nat}
    {entries : List (Value × Value)} (hv : (Value.map id entries).isModest = true)
    (h : p.setting.isMappingTo (fun s => tameWhere tame p.context
      (p.context.scope.inside p.context.dialect s) s) = true) :
    (properties p (.map id entries) entries).Ends := by
  cases hset : p.setting with
  | map n settings =>
      rw [hset] at hs h
      rw [Value.isMappingTo, List.all_eq_true] at h
      refine Outcome.ends_decide ⟨settings, by rw [hset]; rfl, Outcome.ends_each fun e he => ?_⟩
      rcases e with ⟨k, s⟩
      simp only []
      split
      · -- Only keys that the value has lead anywhere, each to a part of the value.
        next v hfound =>
          rcases Value.mem_of_find? hfound with ⟨own, hmem, _⟩
          exact p.ends_descendAt hj (h (k, s) he) (Value.entryHoldsLong_iff.mp hs _ he).1
            (Value.isModest_part hv (Value.isModest_entries hv _ hmem).2)
      · exact Outcome.ends_none
  | _ =>
      rw [hset] at h
      cases h

/-- Keys of a modest mapping can be listed as not expected. -/
theorem shown_unexpected {start : String} {keys : List Value}
    (h : ∀ k ∈ keys, k.holdsLong = false) :
    Piece.Shown (.words start :: unexpected keys) :=
  Piece.shown_words.mpr ((Piece.shown_listed h).append (Piece.shown_words.mpr Piece.shown_nil))

/-- A schema for the keys that no other keyword speaks of, or none. Without patterns the other
    keywords are the names of properties. -/
theorem ends_additionalProperties (hj : Settles tame p.judge) (hs : p.setting.holdsLong = false)
    {id : Nat} {entries : List (Value × Value)} (hv : (Value.map id entries).isModest = true)
    (hpatterns : p.beside? "patternProperties" = none)
    (hproperties : (p.beside? "properties").all Value.isObject = true)
    (h : p.setting.isObject = true → p.Tame tame p.setting) :
    (additionalProperties p (.map id entries) entries).Ends := by
  -- There are no patterns that could fail, so the other keys are found.
  obtain ⟨extras, hextras, hkeys⟩ : ∃ extras, extraKeys p entries = .ok extras ∧
      ∀ k ∈ extras, k ∈ entries.map Prod.fst := by
    unfold extraKeys patternNames
    rw [hpatterns]
    cases hp : p.beside? "properties" with
    | none => exact ⟨_, rfl, fun k hk => (List.mem_filter.mp hk).1⟩
    | some properties =>
        rw [hp] at hproperties
        cases properties with
        | map n named => exact ⟨_, rfl, fun k hk => (List.mem_filter.mp hk).1⟩
        | _ => cases hproperties
  have hshort : ∀ k ∈ extras, k.holdsLong = false := by
    intro k hk
    rcases List.mem_map.mp (hkeys k hk) with ⟨e, he, rfl⟩
    exact Value.holdsLong_of_isModest _ (Value.isModest_entries hv e he).1
  refine Outcome.ends_decide ⟨extras, hextras, ?_⟩
  rw [hpatterns]
  split
  · next hobject =>
      refine Outcome.ends_each fun k hk => p.ends_descendAt hj (h hobject) (hshort k hk) ?_
      refine Value.isModest_part hv ?_
      cases hfound : Value.find? k entries with
      | none => rfl
      | some v =>
          rcases Value.mem_of_find? hfound with ⟨own, hmem, _⟩
          exact (Value.isModest_entries hv _ hmem).2
  · split
    · exact Outcome.ends_none
    · exact p.ends_violated hs (shown_unexpected fun k hk =>
        hshort k (List.mem_mergeSort.mp hk))

/-- The first of some schemas to which a value conforms can be found, with those after it. -/
theorem firstFitting_of_tame (hj : Settles tame p.judge) (hv : value.isModest = true)
    (schemas : List Value) (h : ∀ s ∈ schemas, p.Tame tame s) :
    ∃ found, firstFitting p value schemas = .ok found ∧
      ∀ s rest, found = some (s, rest) → s :: rest ⊆ schemas := by
  induction schemas with
  | nil => exact ⟨none, rfl, fun _ _ h => by cases h⟩
  | cons s rest ih =>
      rw [List.forall_mem_cons] at h
      -- Holding the first schema against the value comes to an answer.
      rcases (p.ends_descend hj h.1 hv).isClean with ⟨fits, hfits⟩
      rw [firstFitting, hfits]
      cases fits with
      | true =>
          refine ⟨some (s, rest), rfl, fun t others heq => ?_⟩
          cases heq
          exact List.Subset.refl _
      | false =>
          rcases ih h.2 with ⟨found, hfound, hsubset⟩
          exact ⟨found, hfound, fun t others heq =>
            List.Subset.trans (hsubset t others heq) (List.subset_cons_self s rest)⟩

/-- No schema fits, and the value is shown. -/
theorem ends_nothingFits (hs : p.setting.holdsLong = false) (hv : value.isModest = true) :
    (nothingFits p value).Ends :=
  p.ends_violated hs (shown_about hv _)

/-- Those of some values of which a question is answered with yes, if it has an answer for
    each. -/
theorem filterM_of_forall {α : Type} {ask : α → Except Fault Bool} {items : List α}
    (h : ∀ a ∈ items, ∃ answer, ask a = .ok answer) :
    ∃ found, items.filterM ask = .ok found ∧ found ⊆ items := by
  -- The library gathers the items backwards, so the induction is over what is gathered, too.
  have haux (l acc : List α) (hl : ∀ a ∈ l, ∃ answer, ask a = .ok answer) :
      ∃ found, List.filterAuxM ask l acc = .ok found ∧ found ⊆ l ++ acc := by
    induction l generalizing acc with
    | nil => exact ⟨acc, rfl, List.Subset.refl _⟩
    | cons a rest ih =>
        rw [List.forall_mem_cons] at hl
        rcases hl.1 with ⟨answer, ha⟩
        rcases ih (cond answer (a :: acc) acc) hl.2 with ⟨found, hfound, hsubset⟩
        refine ⟨found, by rw [List.filterAuxM, ha]; exact hfound, fun x hx => ?_⟩
        have hx := hsubset hx
        cases answer <;> grind
  rcases haux items [] h with ⟨found, hfound, hsubset⟩
  refine ⟨found.reverse, by rw [List.filterM, hfound]; rfl, fun x hx => ?_⟩
  simpa using hsubset (List.mem_reverse.mp hx)

/-- Exactly one of some schemas. All that fit are shown, so none of them may be too long. -/
theorem ends_oneOf (hj : Settles tame p.judge) (hs : p.setting.holdsLong = false)
    (hv : value.isModest = true) {schemas : List Value} (h : ∀ s ∈ schemas, p.Tame tame s)
    (hasked : ∀ s ∈ schemas, tameAsked tame p.context s = true)
    (hshort : ∀ s ∈ schemas, s.holdsLong = false) : (oneOf p value schemas).Ends := by
  rcases firstFitting_of_tame hj hv schemas h with ⟨found, hfound, hsubset⟩
  refine Outcome.ends_decide ⟨found, hfound, ?_⟩
  cases found with
  | none => exact ends_nothingFits hs hv
  | some first =>
      rcases first with ⟨s, rest⟩
      -- The schemas behind the first that fits are asked as well, to see if others do.
      have hmem : ∀ t ∈ s :: rest, t ∈ schemas := fun t ht => hsubset s rest rfl ht
      rw [List.forall_mem_cons] at hmem
      have hholds : ∀ t ∈ rest, ∃ answer, p.holds t value = .ok answer :=
        fun t ht => holds_of_tameAsked hj (hasked t (hmem.2 t ht)) hv
      rcases filterM_of_forall hholds with ⟨more, hmore, hamong⟩
      refine Outcome.ends_decide ⟨more, hmore, ?_⟩
      split
      · exact Outcome.ends_none
      · refine p.ends_violated hs (Piece.shown_value.mpr ⟨Value.holdsLong_of_isModest value hv,
          Piece.shown_words.mpr (Piece.shown_listed (List.forall_mem_append.mpr
            ⟨fun t ht => hshort t (hmem.2 t (hamong ht)), ?_⟩))⟩)
        exact List.forall_mem_singleton.mpr (hshort s hmem.1)

/-- A type has a meaning for all values or for none. -/
theorem isSome_isOfType? (d : Dialect) (name : String) (v w : Value) :
    (v.isOfType? d name).isSome = (w.isOfType? d name).isSome := by
  unfold Value.isOfType?
  split <;> rfl

theorem isOfSome_of_isTypeName (value : Value) (names : List Value)
    (h : ∀ t ∈ names, isTypeName p.context.dialect t = true) :
    ∃ answer, isOfSome p value names = .ok answer := by
  induction names with
  | nil => exact ⟨false, rfl⟩
  | cons t rest ih =>
      rw [List.forall_mem_cons] at h
      -- Whether a name is that of a type can be asked of any value.
      obtain ⟨own, hown⟩ : ∃ own, isOfType p value t = .ok own := by
        cases t with
        | text name =>
            have hsome := h.1
            rw [isTypeName, isSome_isOfType? _ _ _ value] at hsome
            rcases Option.isSome_iff_exists.mp hsome with ⟨own, hown⟩
            exact ⟨own, by simp only [isOfType, hown]⟩
        | _ => cases h.1
      rw [isOfSome, hown]
      cases own with
      | true => exact ⟨true, rfl⟩
      | false => exact ih h.2

/-- Some types. -/
theorem ends_types (hs : p.setting.holdsLong = false) (hv : value.isModest = true)
    (h : p.setting.orSingle.all (isTypeName p.context.dialect) = true) :
    (Outcome.decide (isOfSome p value p.setting.orSingle) fun found =>
      if found then .none else wrongType p value p.setting.orSingle).Ends := by
  rcases isOfSome_of_isTypeName value _ (List.all_eq_true.mp h) with ⟨found, hfound⟩
  refine Outcome.ends_decide ⟨found, hfound, ?_⟩
  -- The message lists the types, each of which can be shown as a part of the setting.
  have hnames : ∀ t ∈ p.setting.orSingle, t.holdsLong = false := by
    cases hset : p.setting with
    | seq id items =>
        rw [hset, Value.holdsLong] at hs
        exact Value.anyHoldsLong_iff.mp hs
    | _ => exact List.forall_mem_singleton.mpr (hset ▸ hs)
  split
  · exact Outcome.ends_none
  · exact p.ends_violated hs (Piece.shown_value.mpr ⟨Value.holdsLong_of_isModest value hv,
      Piece.shown_words.mpr (Piece.shown_listed hnames)⟩)

/-- Whether a value equals a scalar is known without looking into it. -/
theorem equals?_of_isAtom (room : Nat) (v : Value) {w : Value} (h : w.isAtom = true) :
    (∃ same, compared? (v.equals? room w) = .ok same) ∧
      ∃ same, compared? (w.equals? room v) = .ok same := by
  constructor
  · cases w <;> first | (cases h; done) | skip
    all_goals cases v <;> exact ⟨_, rfl⟩
  · cases w <;> first | (cases h; done) | exact ⟨_, rfl⟩

theorem equalsAny?_of_isAtom (room : Nat) (v : Value) (options : List Value)
    (h : ∀ w ∈ options, w.isAtom = true) :
    ∃ found, compared? (v.equalsAny? room options) = .ok found := by
  induction options with
  | nil => exact ⟨false, rfl⟩
  | cons w rest ih =>
      rw [List.forall_mem_cons] at h
      rcases (equals?_of_isAtom room v h.1).2 with ⟨same, hsame⟩
      rw [Value.equalsAny?]
      -- Comparing with an atom takes no room that there might not be.
      cases heq : w.equals? room v with
      | none =>
          rw [heq] at hsame
          cases hsame
      | some own =>
          cases own with
          | true => exact ⟨true, rfl⟩
          | false => exact ih h.2

/-- A reference is followed to what it leads to. -/
theorem ends_reference (hj : Settles tame p.judge) (hv : value.isModest = true) {setting : Value}
    (h : tameReference tame p.context setting = true) :
    ∃ s, setting = .text s ∧ (descendTo p.judge p.context
      (referred (p.context.registry.lookup p.context.scope s)) value).Ends := by
  unfold tameReference at h
  split at h
  · next s =>
      split at h
      · next target scope hfound =>
          exact ⟨s, rfl, Outcome.ends_decide ⟨_, hfound, ends_follows hj h hv⟩⟩
      · cases h
  · cases h

/-- A pattern that can be read is held against a text. -/
theorem ends_pattern (hs : p.setting.holdsLong = false) (s : String)
    (h : isPattern p.setting = true) : ∃ pattern, p.setting = .text pattern ∧
      (p.violatedIf (do return !(← occurs pattern (.text s)))
        [.shown (.text s), " does not match ", .shown p.setting]).Ends := by
  cases hset : p.setting with
  | text pattern =>
      rw [hset] at h
      -- The pattern was read once already, when the schema was looked over.
      obtain ⟨e, he⟩ : ∃ e, patternOf pattern = .ok e := by
        cases he : patternOf pattern with
        | ok e => exact ⟨e, rfl⟩
        | error f => rw [isPattern, he] at h; cases h
      refine ⟨pattern, rfl, p.ends_violatedIf hs ?_ (shown_both rfl (hset ▸ hs) _)⟩
      rw [occurs, he]
      exact ⟨_, rfl⟩
  | _ =>
      rw [hset] at h
      cases h

/-- A list of values of a kind. -/
theorem eq_seq_of_isListOf {q : Value → Bool} {v : Value} (h : v.isListOf q = true) :
    ∃ id items, v = .seq id items ∧ ∀ w ∈ items, q w = true := by
  cases v with
  | seq id items => exact ⟨id, items, rfl, List.all_eq_true.mp h⟩
  | _ => cases h

theorem eq_seq_of_isArray {v : Value} (h : v.isArray = true) : ∃ id items, v = .seq id items := by
  cases v with
  | seq id items => exact ⟨id, items, rfl⟩
  | _ => cases h

/-! Rules whose meaning depends on the form of their setting, or on what is beside them. -/

theorem ends_anyOf (hj : Settles tame p.judge) (hs : p.setting.holdsLong = false)
    (hv : value.isModest = true) (fuel : Nat)
    (h : tameRule tame p.context p.schema p.setting .anyOf = true) :
    (applyRule fuel .anyOf p value).Ends := by
  rcases eq_seq_of_isListOf h with ⟨id, schemas, hset, hall⟩
  rcases firstFitting_of_tame hj hv schemas hall with ⟨found, hfound, _⟩
  refine Outcome.ends_decide ⟨schemas, by rw [hset]; rfl, Outcome.ends_decide ⟨found, hfound, ?_⟩⟩
  split
  · exact Outcome.ends_none
  · exact ends_nothingFits hs hv

/-- The schema that is followed is beside the condition, and both of them are tame. -/
theorem ends_condition (hj : Settles tame p.judge) (hv : value.isModest = true) (fuel : Nat)
    (h : tameRule tame p.context p.schema p.setting .condition = true) :
    (applyRule fuel .condition p value).Ends := by
  simp only [tameRule, Bool.and_eq_true] at h
  rcases holds_of_tameAsked hj h.1.1 hv with ⟨fits, hfits⟩
  refine Outcome.ends_decide ⟨fits, hfits, ?_⟩
  split
  · next schema hbeside =>
      refine p.ends_descend hj ?_ hv
      cases fits with
      | true => exact (Option.all_eq_true _ _).mp h.1.2 schema hbeside
      | false => exact (Option.all_eq_true _ _).mp h.2 schema hbeside
  · exact Outcome.ends_none

theorem ends_const (hs : p.setting.holdsLong = false) (fuel : Nat)
    (h : p.setting.isAtom = true) : (applyRule fuel .const p value).Ends := by
  rcases (equals?_of_isAtom p.room value h).1 with ⟨same, hsame⟩
  refine Outcome.ends_decide ⟨same, hsame, ?_⟩
  split
  · exact Outcome.ends_none
  · exact p.ends_violated hs (Piece.shown_value.mpr ⟨hs, Piece.shown_words.mpr Piece.shown_nil⟩)

theorem ends_enum (hs : p.setting.holdsLong = false) (hv : value.isModest = true) (fuel : Nat)
    (h : p.setting.isListOf Value.isAtom = true) : (applyRule fuel .enum p value).Ends := by
  rcases eq_seq_of_isListOf h with ⟨id, options, hset, hall⟩
  rcases equalsAny?_of_isAtom p.room value options hall with ⟨found, hfound⟩
  refine Outcome.ends_decide ⟨options, by rw [hset]; rfl, Outcome.ends_decide ⟨found, hfound, ?_⟩⟩
  split
  · exact Outcome.ends_none
  · exact p.ends_violated hs (shown_both hv hs _)

/-- One schema for all items, or one for each of the first. -/
theorem ends_itemsOrTuple (hj : Settles tame p.judge) {id : Nat} {items : List Value}
    (hv : (Value.seq id items).isModest = true) (fuel : Nat)
    (h : tameRule tame p.context p.schema p.setting .itemsOrTuple = true) :
    (applyRule fuel .itemsOrTuple p (.seq id items)).Ends := by
  simp only [applyRule]
  simp only [tameRule] at h
  split at h
  · next hobject =>
      rw [if_pos hobject]
      exact ends_items hj hv h 0
  · next hobject =>
      rw [if_neg hobject]
      rcases eq_seq_of_isListOf h with ⟨n, schemas, hset, hall⟩
      exact Outcome.ends_decide ⟨schemas, by rw [hset]; rfl, ends_tuple hj hv hall⟩

/-- Here what is not a list of schemas is one schema, whatever it is. -/
theorem ends_itemsOrTupleStrict (hj : Settles tame p.judge) {id : Nat} {items : List Value}
    (hv : (Value.seq id items).isModest = true) (fuel : Nat)
    (h : tameRule tame p.context p.schema p.setting .itemsOrTupleStrict = true) :
    (applyRule fuel .itemsOrTupleStrict p (.seq id items)).Ends := by
  simp only [tameRule, Bool.or_eq_true, Bool.and_eq_true, Bool.not_eq_true'] at h
  rcases h with h | ⟨hlist, h⟩
  · rcases eq_seq_of_isListOf h with ⟨n, schemas, hset, hall⟩
    simp only [applyRule, hset]
    exact ends_tuple hj hv hall
  · simp only [applyRule]
    split
    · next hset =>
        rw [hset] at hlist
        cases hlist
    · exact ends_items hj hv h 0

theorem ends_required (hs : p.setting.holdsLong = false) (fuel id : Nat)
    (entries : List (Value × Value)) (h : p.setting.isArray = true) :
    (applyRule fuel .required p (.map id entries)).Ends := by
  rcases eq_seq_of_isArray h with ⟨n, keys, hset⟩
  have hshort := hset ▸ hs
  rw [Value.holdsLong, Value.anyHoldsLong_iff] at hshort
  refine Outcome.ends_decide ⟨keys, by rw [hset]; rfl, Outcome.ends_each fun k hk => ?_⟩
  exact p.ends_violated hs (Piece.shown_value.mpr
    ⟨hshort k (List.mem_filter.mp hk).1, Piece.shown_words.mpr Piece.shown_nil⟩)

/-- A tame rule comes to its end on every modest value. The cases are the keywords, and in each
    the kind of values that it is for; on values of other kinds a rule says nothing. -/
theorem ends_rule (hj : Settles tame p.judge) (hs : p.setting.holdsLong = false)
    (hv : value.isModest = true) (fuel : Nat) {rule : Keyword}
    (h : tameRule tame p.context p.schema p.setting rule = true) :
    (applyRule fuel rule p value).Ends := by
  cases rule with
  | reference | dynamicReference =>
      rcases ends_reference hj hv h with ⟨s, hset, hends⟩
      simp only [applyRule, hset]
      exact hends
  | allOf =>
      rcases eq_seq_of_isListOf h with ⟨id, schemas, hset, hall⟩
      refine Outcome.ends_decide ⟨schemas, by rw [hset]; rfl, ?_⟩
      exact Outcome.ends_each fun s hmem => p.ends_descend hj (hall s hmem) hv
  | anyOf => exact ends_anyOf hj hs hv fuel h
  | oneOf =>
      rcases eq_seq_of_isListOf h with ⟨id, schemas, hset, hall⟩
      have hshort := hset ▸ hs
      rw [Value.holdsLong, Value.anyHoldsLong_iff] at hshort
      simp only [Bool.and_eq_true] at hall
      exact Outcome.ends_decide ⟨schemas, by rw [hset]; rfl, ends_oneOf hj hs hv
        (fun s hmem => (hall s hmem).1) (fun s hmem => (hall s hmem).2) hshort⟩
  | not => exact p.ends_violatedIf hs (holds_of_tameAsked hj h hv) (shown_both hv hs _)
  | condition => exact ends_condition hj hv fuel h
  | const => exact ends_const hs fuel h
  | enum => exact ends_enum hs hv fuel h
  | type => exact ends_types hs hv h
  | format =>
      have hoff : p.context.checksFormats = false := by simpa [tameRule] using h
      simp only [applyRule, hoff]
      exact Outcome.ends_none
  | exclusiveMaximum | exclusiveMinimum | maximum | minimum | maximumWithFlag | minimumWithFlag =>
      simp only [applyRule]
      split
      · next hnumber => exact p.ends_limit hs hv h hnumber _ _
      · exact Outcome.ends_none
  | maxItems | maxLength | maxProperties =>
      have hsize (size : Nat) (wording : String) := (p.ends_size hs hv h size wording).2
      cases value <;> first | exact Outcome.ends_none | exact hsize _ _
  | minItems | minLength | minProperties =>
      have hsize (size : Nat) (wording : String) := (p.ends_size hs hv h size wording).1
      cases value <;> first | exact Outcome.ends_none | exact hsize _ _
  | pattern =>
      cases value with
      | text s =>
          rcases ends_pattern hs s h with ⟨pattern, hset, hends⟩
          simp only [applyRule, hset]
          exact hset ▸ hends
      | _ => exact Outcome.ends_none
  | itemsAfterTuple =>
      cases value with
      | seq id items => exact ends_itemsAfterTuple hj hs hv h
      | _ => exact Outcome.ends_none
  | itemsOrTuple =>
      cases value with
      | seq id items => exact ends_itemsOrTuple hj hv fuel h
      | _ => exact Outcome.ends_none
  | itemsOrTupleStrict =>
      cases value with
      | seq id items => exact ends_itemsOrTupleStrict hj hv fuel h
      | _ => exact Outcome.ends_none
  | tuple =>
      cases value with
      | seq id items =>
          rcases eq_seq_of_isListOf h with ⟨n, schemas, hset, hall⟩
          exact Outcome.ends_decide ⟨schemas, by rw [hset]; rfl, ends_tuple hj hv hall⟩
      | _ => exact Outcome.ends_none
  | uniqueItems =>
      cases value with
      | seq id items =>
          simp only [tameRule] at h
          simp only [applyRule, h, if_true]
          exact Outcome.ends_none
      | _ => exact Outcome.ends_none
  | properties =>
      cases value with
      | map id entries => exact ends_properties hj hs hv h
      | _ => exact Outcome.ends_none
  | additionalProperties =>
      cases value with
      | map id entries =>
          simp only [tameRule, Bool.and_eq_true, Bool.or_eq_true, Bool.not_eq_true',
            Option.isNone_iff_eq_none] at h
          refine ends_additionalProperties hj hs hv h.1.1 h.1.2 fun hobject => ?_
          rcases h.2 with hno | h
          · rw [hobject] at hno
            cases hno
          · exact h
      | _ => exact Outcome.ends_none
  | propertyNames =>
      cases value with
      | map id entries =>
          exact Outcome.ends_each fun e he =>
            p.ends_descend hj h (Value.isModest_entries hv e he).1
      | _ => exact Outcome.ends_none
  | required =>
      cases value with
      | map id entries => exact ends_required hs fuel id entries h
      | _ => exact Outcome.ends_none
  | _ =>
      -- No other rule is tame.
      cases h

end Rules

/-- A tame schema comes to its end on every modest value, if there is room for its depth. The
    induction is on the depth: a schema inside takes up to three units of room. -/
theorem settles_judgeFor (depth : Nat) {room : Nat} (hroom : 3 * depth ≤ room) :
    Settles (isTameFor depth) (judgeFor room) := by
  induction depth generalizing room with
  | zero =>
      intro step c schema value h hv
      cases h
  | succ depth ih =>
      intro step c schema value h hv
      obtain ⟨room, rfl⟩ : ∃ left, room = left + 3 := ⟨room - 3, by omega⟩
      cases schema with
      | bool b =>
          cases b with
          | true => exact Outcome.ends_none
          | false =>
              rw [judgeFor]
              exact Outcome.ends_single _ rfl (Piece.shown_words.mpr (Piece.shown_value.mpr
                ⟨Value.holdsLong_of_isModest value hv, Piece.shown_nil⟩))
      | map id entries =>
          rw [isTameFor, List.all_eq_true] at h
          rw [judgeFor]
          refine Outcome.ends_each fun e he => ?_
          rcases e with ⟨k, setting⟩
          have hown := h (k, setting) he
          cases k with
          | text name =>
              simp only [] at hown ⊢
              split
              · next rule hrule =>
                  rw [hrule] at hown
                  simp only [Bool.and_eq_true, Bool.not_eq_true'] at hown
                  -- To follow a schema takes two units of the room, to ask for conformity all three.
                  refine ends_rule ?_ hown.1 hv room hown.2
                  intro step c schema value h hv
                  cases step with
                  | into => exact ih (by omega) .into c schema value h hv
                  | test => exact ih (by omega) .test c schema value h hv
              · exact Outcome.ends_none
          | _ => exact Outcome.ends_none
      | _ => cases h

/-- The violations of a modest value are found if the schema is tame. -/
theorem violations_of_isTame {s : Schema} (h : s.isTame = true) {value : Value}
    (hv : value.isModest = true) : ∃ found, s.violations value = .ok found := by
  unfold isTame at h
  split at h
  · next own hown =>
      have hroom : 3 * maxDepth ≤ maxRoom := by decide
      have hends := settles_judgeFor maxDepth hroom .test _ s.root value h hv
      obtain ⟨found, hfound, hreported⟩ : (judge s.registry s.dialect false s.root value).Ends :=
        Outcome.ends_decide ⟨own, hown, hends⟩
      unfold violations
      rw [hfound]
      refine ⟨_, if_pos (List.all_eq_true.mpr hreported)⟩
  · cases h

end Schema

end Annals
