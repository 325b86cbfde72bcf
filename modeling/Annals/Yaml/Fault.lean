import Annals.Number.DigitLimit
import Annals.Text.Digit
import Annals.Text.Quoted
import Annals.Yaml.Mark

/-!
# Faults of a YAML Text

Why a text could not be decoded. A problem is found at a place, by one of four
parts of the reading, and often in the course of something that began at another
place; both places are shown unless they are the same. A character that may not
be in a text at all is found before anything is read. The other faults lie in
single scalars: a number that is none, a day that does not exist, and the like.

## Main definitions

* `Yaml.Problem`: What is wrong, and where.
* `Yaml.Defect`: What is wrong with a value, apart from the form of the text.
* `Yaml.Fault`: Why a text could not be decoded.
* `Yaml.Fault.message`: The wording of a fault in the form of the text.
-/

namespace Annals

namespace Yaml

/-- The part of the reading that finds a problem. -/
inductive Finder where
  | scanner
  | parser
  | composer
  | constructor
  deriving DecidableEq, Repr

/-- The name under which a part of the reading is reported. -/
def Finder.name : Finder → String
  | scanner => "ScannerError"
  | parser => "ParserError"
  | composer => "ComposerError"
  | constructor => "ConstructorError"

/-- What is wrong and where, and what was going on, from which place on. -/
structure Problem where
  finder : Finder
  context : Option (String × Option Mark)
  problem : String
  mark : Mark
  deriving Repr

/-- What is wrong with a value. -/
inductive Defect where
  /-- A text that does not mean a value of its kind. -/
  | value (message : String)
  /-- A truth value by an unknown name. -/
  | name
  /-- A date and time not in their form. -/
  | form
  /-- A number without digits. -/
  | empty
  /-- A sequence where entries are expected. -/
  | entries
  /-- A set among keys that have to differ. -/
  | setKey
  /-- A character number that is far too large. -/
  | range (message : String)
  /-- A value that is given by itself. -/
  | endless
  /-- Collections nested too deep. -/
  | nested
  deriving Repr

/-- The wording of a defect. -/
def Defect.message : Defect → String
  | value message => message
  | name => "A truth value has an unknown name"
  | form => "A date and time is not in its form"
  | empty => "A number has no digits"
  | entries => "A sequence has to hold entries"
  | setKey => "A set cannot be told from other keys"
  | range message => message
  | endless => "A value is given by itself"
  | nested => "Collections are nested too deep"

/-- Why a text could not be decoded. -/
inductive Fault where
  | character (position code : Nat)
  | problem (p : Problem)
  | defect (d : Defect)
  deriving Repr

namespace Problem

/-- A problem that a part of the reading finds. -/
def plain (finder : Finder) (problem : String) (mark : Mark) : Problem := ⟨finder, none, problem, mark⟩

/-- A problem in the course of something. -/
def during (finder : Finder) (context : String) (start : Mark) (problem : String) (mark : Mark) :
    Problem := ⟨finder, some (context, some start), problem, mark⟩

/-- The wording of a problem in a text. -/
def message (text : Array Char) (p : Problem) : String :=
  let before := match p.context with
    | none => []
    | some (context, none) => [context]
    | some (context, some start) =>
      if start.line == p.mark.line && start.column == p.mark.column then [context]
      else [context, start.shown text]
  "\n".intercalate (before ++ [p.problem, p.mark.shown text])

end Problem

namespace Fault

/-- The wording for a character that may not be in a text. -/
def characterMessage (position code : Nat) : String :=
  "unacceptable character #x" ++ String.ofList (Text.toHex 4 code) ++
    ": special characters are not allowed\n  in \"<unicode string>\", position " ++ toString position

/-- The wording of a fault in the form of a text, and the line on which it is,
    counted from one. A defect of a value has none. -/
def message? (text : Array Char) : Fault → Option (String × Option Nat)
  | character position code => some (characterMessage position code, none)
  | problem p => some (p.message text, some (p.mark.line + 1))
  | defect _ => none

/-- The wording of a fault with the name of the part that found it. -/
def named? (text : Array Char) : Fault → Option (String × Option Nat)
  | character position code => some ("ReaderError: " ++ characterMessage position code, none)
  | problem p => some (p.finder.name ++ ": " ++ p.message text, some (p.mark.line + 1))
  | defect _ => none

end Fault

/-- A fault found by the scanner. -/
def scanFault (context : String) (start : Mark) (problem : String) (mark : Mark) : Fault :=
  .problem (.during .scanner context start problem mark)

/-- A fault found by the scanner that is no part of anything larger. -/
def strayFault (problem : String) (mark : Mark) : Fault := .problem (.plain .scanner problem mark)

end Yaml

end Annals
