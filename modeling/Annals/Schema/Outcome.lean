import Annals.Schema.Dialect
import Annals.Value.Display

/-!
# Outcomes of a Check

Holding a value against a schema finds violations one after another, until all
rules were followed or one cannot be. Whether a value conforms is known as soon
as there is one violation, whatever would come after it, so nothing is looked for
before it is asked for.

A message speaks of values, and there are integers too long to be shown, so a message
is put together from pieces, which may turn out to make none.

## Main definitions

* `Schema.Piece`: A piece of a message.
* `Schema.Violation`: A rule that a value breaks, and where.
* `Schema.Outcome`: What a check has found.
* `Schema.Outcome.conforms`: Whether the value conforms.
-/

namespace Annals

namespace Schema

/-- A piece of a message: words, a value in full, or a value on its own. -/
inductive Piece where
  | words (s : String)
  | shown (v : Value)
  | plain (v : Value)

namespace Piece

instance : Coe String Piece := ⟨words⟩

/-- The text of a piece; none if it cannot be shown. -/
def text? : Piece → Option String
  | words s => some s
  | shown v => if v.holdsLong then none else some v.display
  | plain v => if v.holdsLong then none else some v.plain

/-- The text of several pieces. -/
def message (pieces : List Piece) : Except Fault String :=
  match pieces.mapM text? with
  | some texts => .ok (String.join texts)
  | none => .error .longInteger

/-- Several values in full, with commas between them. -/
def listed : List Value → List Piece
  | [] => []
  | [v] => [shown v]
  | v :: rest => shown v :: words ", " :: listed rest

end Piece

/-- A rule that a value breaks: the keys and indices that lead to the part of the
    value, the keyword with what it is set to, and a message. A schema that allows
    nothing has no keyword. -/
structure Violation where
  path : List Value
  keyword : Option String
  setting : Value
  message : String
  deriving Inhabited

/-- What a check has found: a violation, and what it finds after that; in the end it has
    followed all rules, or it stops before. What comes after a violation is only
    looked for when it is asked for. -/
inductive Outcome where
  | none
  | stop (f : Fault)
  | found (v : Violation) (rest : Unit → Outcome)
  deriving Inhabited

namespace Outcome

/-- A single violation of the value as a whole. -/
def single (keyword : Option String) (setting : Value) (pieces : List Piece) : Outcome :=
  match Piece.message pieces with
  | .ok message => found ⟨[], keyword, setting, message⟩ fun _ => none
  | .error f => stop f

/-- A single violation of a keyword. -/
def one (keyword : String) (setting : Value) (pieces : List Piece) : Outcome :=
  single (some keyword) setting pieces

/-- The violation of a schema that allows nothing. -/
def forbidden (value : Value) : Outcome :=
  single .none .null ["False schema does not allow ", .shown value]

/-- One check, and then another one if the first came to its end. -/
def andThen : Outcome → (Unit → Outcome) → Outcome
  | none, b => b ()
  | stop f, _ => stop f
  | found v rest, b => found v fun _ => (rest ()).andThen b

/-- A check for each item of a list. -/
def each {α : Type} (items : List α) (check : α → Outcome) : Outcome :=
  match items with
  | [] => none
  | item :: rest => (check item).andThen fun _ => each rest check

/-- The check goes on as the answer to a question says, if there is one. -/
def decide {α : Type} (answer : Except Fault α) (next : α → Outcome) : Outcome :=
  match answer with
  | .ok a => next a
  | .error f => stop f

/-- The violations as those of a part of the value. -/
def beneath (key : Value) : Outcome → Outcome
  | none => none
  | stop f => stop f
  | found v rest => found { v with path := key :: v.path } fun _ => (rest ()).beneath key

/-- All violations, if the check comes to its end. -/
def violations : Outcome → Except Fault (List Violation)
  | none => .ok []
  | stop f => .error f
  | found v rest => (rest ()).violations.map (v :: ·)

/-- Whether the value conforms: no, as soon as there is a violation. -/
def conforms : Outcome → Except Fault Bool
  | none => .ok true
  | stop f => .error f
  | found .. => .ok false

/-- Whether there is no violation, when all rules have to be followed first. -/
def isClean (o : Outcome) : Except Fault Bool := o.violations.map List.isEmpty

/-- One check and then another finds what both find, in this order. -/
theorem violations_andThen (a : Outcome) (b : Unit → Outcome) :
    (a.andThen b).violations =
      a.violations.bind fun vs => (b ()).violations.map (vs ++ ·) := by
  induction a with
  | none => cases h : (b ()).violations <;> simp [andThen, violations, Except.bind, Except.map, h]
  | stop f => rfl
  | found v rest ih =>
    simp only [andThen, violations, ih ()]
    cases (rest ()).violations <;> cases (b ()).violations <;> rfl

end Outcome

end Schema

end Annals
