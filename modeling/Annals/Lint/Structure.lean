import Annals.Json.Writer
import Annals.Lint.Check

/-!
# Checks of the Structure

Two checks look at a history as a whole: whether it conforms to a schema, and whether
its block stands directly below a heading.

## Main definitions

* `Structure.schemaIssues`: The issue of a history that does not conform to a schema.
* `Structure.placementIssues`: The issue of a block without a heading before it.
-/

namespace Annals

namespace Structure

/-- What is shown of violations: the block, the history and the violations. -/
def schemaDetails (e : Entry) (found : List Schema.Violation) : Except Json.Unwritable String := do
  let history ← Json.write .details e.history
  let violations ← Json.write .details (.seq 0 (found.map Schema.Violation.report))
  return e.block.candidate.raw ++ "\n" ++ history ++ "\n" ++ violations

/-- The issue of a history with violations. -/
def schemaIssue (e : Entry) (count : Nat) (details : String) : Issue :=
  { e.issue .error .schemaViolation
      ("History does not match the schema (" ++ toString count ++ " problem(s))") none with
    details := some details }

/-- The issue of a history that does not conform to a schema. -/
def schemaIssues (s : Schema) (e : Entry) : Except CheckFault (List Issue) :=
  match s.violations e.history with
  | .error f => .error (.halt (.schema f))
  | .ok [] => .ok []
  | .ok found =>
    match schemaDetails e found with
    | .error u => .error (.halt (.unwritable u))
    | .ok details => .ok [schemaIssue e found.length details]

/-- The issue of a block that does not stand directly below a heading. -/
def placementIssues (e : Entry) : List Issue :=
  if e.block.candidate.previous == some .heading then []
  else [e.issue .error .missingHeading "API history block must be preceded by a heading"
    (some "Move the block directly below the heading of the API it documents")]

end Structure

namespace Check

/-- The check against a schema. -/
def schema {σ : Type} (s : Schema) : Check σ := .pure "check_schema" (Structure.schemaIssues s)

/-- The check for a heading before the block. -/
def placement {σ : Type} : Check σ :=
  .pure "check_placement" fun e => .ok (Structure.placementIssues e)

end Check

end Annals
