-- SUMMARY: The characters that separate lexemes: those with the Unicode property White_Space.
import BlockLang.Text.Ranges

namespace BlockLang.Text

/-!
## Blank characters

A blank is a character with the Unicode property `White_Space`. Blanks separate lexemes and are
otherwise ignored; among them only the line feed counts lines.
-/

/-- All blank characters. -/
def blankRanges : Ranges :=
  [(0x9, 0xD), (0x20, 0x20), (0x85, 0x85), (0xA0, 0xA0), (0x1680, 0x1680), (0x2000, 0x200A),
   (0x2028, 0x2029), (0x202F, 0x202F), (0x205F, 0x205F), (0x3000, 0x3000)]

def isBlank (c : Char) : Bool :=
  blankRanges.contains c

end BlockLang.Text
