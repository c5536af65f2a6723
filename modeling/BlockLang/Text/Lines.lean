-- SUMMARY: Texts made of lines.

namespace BlockLang.Text

/-!
## Lines
-/

/-- Lines of text, each with its end. -/
def unlines (lines : List String) : String :=
  String.join (lines.map (· ++ "\n"))

end BlockLang.Text
