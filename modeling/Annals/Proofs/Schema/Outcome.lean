import Annals.Proofs.Value.Modest
import Annals.Schema.Check

/-!
# Checks that Come to Their End

A check against a schema ends if it follows all its rules, and everything that it has found
can be reported. This is more than that it has an answer: the first violation is an answer
too, whatever would come after it, but a report needs them all.

The lemmas here say of each way of putting checks together that it ends if its parts do.
What a check says is put together from pieces, and there is no message if one of them shows
an integer with too many digits; so the values that are shown matter too.

## Main definitions

* `Schema.Outcome.Ends`: A check that comes to its end.
* `Schema.Piece.Shown`: Pieces that make a message.

## Theorems

* `Ends.andThen`, `ends_each`, `ends_decide`, `Ends.beneath`: Checks put together.
* `ends_single`: A single violation.
-/

namespace Annals

namespace Schema

namespace Piece

/-- Pieces that make a message: each of them can be shown. -/
def Shown (pieces : List Piece) : Prop := ∀ p ∈ pieces, p.text?.isSome = true

variable {pieces others : List Piece} {v : Value}

theorem shown_nil : Shown [] := fun _ h => absurd h List.not_mem_nil

theorem shown_words {s : String} : Shown (.words s :: pieces) ↔ Shown pieces :=
  List.forall_mem_cons.trans (and_iff_right rfl)

theorem shown_value : Shown (.shown v :: pieces) ↔ v.holdsLong = false ∧ Shown pieces := by
  refine List.forall_mem_cons.trans (and_congr_left fun _ => ?_)
  unfold text?
  cases hv : v.holdsLong <;> simp [hv]

theorem Shown.append (h : Shown pieces) (ho : Shown others) : Shown (pieces ++ others) :=
  List.forall_mem_append.mpr ⟨h, ho⟩

theorem shown_listed {vs : List Value} (h : ∀ v ∈ vs, v.holdsLong = false) :
    Shown (listed vs) := by
  induction vs with
  | nil => exact shown_nil
  | cons v rest ih =>
      rw [List.forall_mem_cons] at h
      cases rest with
      | nil => exact shown_value.mpr ⟨h.1, shown_nil⟩
      | cons w others => exact shown_value.mpr ⟨h.1, shown_words.mpr (ih h.2)⟩

theorem message_of_shown (h : Shown pieces) : ∃ text, message pieces = .ok text := by
  have htexts : ∃ texts, pieces.mapM text? = some texts := by
    induction pieces with
    | nil => exact ⟨[], rfl⟩
    | cons p rest ih =>
        rw [Shown, List.forall_mem_cons] at h
        rcases Option.isSome_iff_exists.mp h.1 with ⟨text, htext⟩
        rcases ih h.2 with ⟨texts, htexts⟩
        exact ⟨text :: texts, by rw [List.mapM_cons, htext, htexts]; rfl⟩
  rcases htexts with ⟨texts, htexts⟩
  exact ⟨_, by rw [message, htexts]⟩

end Piece

namespace Outcome

/-- A check that follows all its rules, and all of whose violations can be reported. -/
def Ends (o : Outcome) : Prop :=
  ∃ found, o.violations = .ok found ∧ ∀ v ∈ found, v.isReportable = true

variable {a : Outcome} {b : Unit → Outcome} {α : Type}

theorem ends_none : Outcome.none.Ends := ⟨[], rfl, fun _ h => absurd h List.not_mem_nil⟩

/-- A single violation can be reported if its message can be made. -/
theorem ends_single {setting : Value} {pieces : List Piece} (keyword : Option String)
    (hsetting : setting.holdsLong = false) (hpieces : Piece.Shown pieces) :
    (single keyword setting pieces).Ends := by
  rcases Piece.message_of_shown hpieces with ⟨text, htext⟩
  unfold single
  rw [htext]
  refine ⟨_, rfl, fun v hv => ?_⟩
  rw [List.mem_singleton.mp hv]
  simp [Violation.isReportable, hsetting]

theorem Ends.andThen (ha : a.Ends) (hb : (b ()).Ends) : (a.andThen b).Ends := by
  rcases ha with ⟨first, hfirst, hreported⟩
  rcases hb with ⟨second, hsecond, hmore⟩
  refine ⟨first ++ second, ?_, List.forall_mem_append.mpr ⟨hreported, hmore⟩⟩
  rw [violations_andThen, hfirst, hsecond]
  rfl

theorem ends_each {items : List α} {check : α → Outcome} (h : ∀ item ∈ items, (check item).Ends) :
    (each items check).Ends := by
  induction items with
  | nil => exact ends_none
  | cons item rest ih =>
      rw [List.forall_mem_cons] at h
      rw [each]
      exact h.1.andThen (ih h.2)

theorem ends_decide {answer : Except Fault α} {next : α → Outcome}
    (h : ∃ x, answer = .ok x ∧ (next x).Ends) : (decide answer next).Ends := by
  rcases h with ⟨x, rfl, hnext⟩
  exact hnext

theorem violations_beneath (key : Value) (o : Outcome) :
    (o.beneath key).violations
      = o.violations.map fun found => found.map fun v => { v with path := key :: v.path } := by
  induction o with
  | none => rfl
  | stop f => rfl
  | found v rest ih =>
      -- What comes after a violation is a question that has not been asked yet.
      simp only [beneath, violations, ih ()]
      cases (rest ()).violations <;> rfl

theorem Ends.beneath {key : Value} (h : a.Ends) (hkey : key.holdsLong = false) :
    (a.beneath key).Ends := by
  rcases h with ⟨found, hfound, hreported⟩
  refine ⟨_, by rw [violations_beneath, hfound]; rfl, fun v hv => ?_⟩
  rcases List.mem_map.mp hv with ⟨w, hw, rfl⟩
  have hown := hreported w hw
  simpa [Violation.isReportable, hkey] using hown

theorem Ends.isClean (h : a.Ends) : ∃ answer, a.isClean = .ok answer := by
  rcases h with ⟨found, hfound, _⟩
  exact ⟨found.isEmpty, congrArg (Except.map List.isEmpty) hfound⟩

theorem Ends.conforms (h : a.Ends) : ∃ answer, a.conforms = .ok answer := by
  cases a with
  | none => exact ⟨true, rfl⟩
  | found v rest => exact ⟨false, rfl⟩
  | stop f =>
      rcases h with ⟨found, hfound, _⟩
      cases hfound

end Outcome

end Schema

end Annals
