import Annals.Text.Blank
import Annals.Text.Case
import Annals.Text.Letter

/-!
# Slugs

The anchor under which a heading can be linked to. It is made from the text of
the heading: trimmed and in lower case, with a hyphen for every blank, and with
everything dropped that is neither alphanumeric nor a hyphen.

## Main definitions

* `Slug.ofChars`, `Slug.ofText`: The anchor of a heading text.
-/

namespace Annals

namespace Slug

/-- Whether `c` may stand in an anchor. -/
def isSlugChar (c : Char) : Bool := Text.isAlnum c || c == '-'

/-- The anchor of a heading text, as characters. -/
def ofChars (cs : List Char) : List Char :=
  ((Text.lower (Text.trim cs)).map fun c => if Text.isBlank c then '-' else c).filter isSlugChar

/-- The anchor of a heading text. -/
def ofText (text : String) : String := String.ofList (ofChars text.toList)

end Slug

end Annals
