import StreamPlan.Text.Age
import StreamPlan.Text.Alphabetic
import StreamPlan.Text.Mark
import StreamPlan.Text.Number

/-! Character classes. A *name* is a run of letters, numbers and underscores; a *word* is what
the aggregation entries call one: letters, marks, decimal digits, connectors and joiners. The two
overlap without containing each other: a superscript digit belongs to names only, a combining
mark to words only. Names follow version 17 of the Unicode standard, words version 16; a code
point that both versions assign is a word character in both or in neither. Blanks have the property
`White_Space`, connectors the category `Pc` and joiners the property `Join_Control`. -/

set_option autoImplicit false

namespace StreamPlan.Text

def blankRanges : CodeRanges :=
  [(0x9, 0xD), (0x20, 0x20), (0x85, 0x85), (0xA0, 0xA0), (0x1680, 0x1680), (0x2000, 0x200A),
   (0x2028, 0x2029), (0x202F, 0x202F), (0x205F, 0x205F), (0x3000, 0x3000)]

def connectorRanges : CodeRanges :=
  [(0x5F, 0x5F), (0x203F, 0x2040), (0x2054, 0x2054), (0xFE33, 0xFE34), (0xFE4D, 0xFE4F),
   (0xFF3F, 0xFF3F)]

def joinControlRanges : CodeRanges := [(0x200C, 0x200D)]

def isBlank (c : Char) : Bool := blankRanges.contains c.toNat

def isNameChar (c : Char) : Bool :=
  alphabeticRanges.contains c.toNat || numberRanges.contains c.toNat || c == '_'

/-- A character of a word in an aggregation entry: of one of the classes, and older than
version 17. -/
def isWordChar (c : Char) : Bool :=
  (alphabeticRanges.contains c.toNat || markRanges.contains c.toNat ||
    decimalDigitRanges.contains c.toNat || connectorRanges.contains c.toNat ||
    joinControlRanges.contains c.toNat) && !newIn17Ranges.contains c.toNat

def isName (text : String) : Bool := !text.toList.isEmpty && text.toList.all isNameChar

end StreamPlan.Text
