-- SUMMARY: Quoted text: characters and strings between quotes, with what cannot be shown escaped.
import BlockLang.Text.Printable

namespace BlockLang.Text

/-!
## Quoted text

A quoted character stands between single quotes and a quoted string between double quotes. Inside,
the quote in use and the backslash follow a backslash, the common controls have a letter of their
own, and any other character that cannot be shown is given by its code point. Quoted text therefore
never holds a line break, and different texts are quoted differently.
-/

/-- A character by its code point, in lower case hexadecimal without padding. -/
def codePointEscape (c : Char) : List Char :=
  ['\\', 'u', '{'] ++ Nat.toDigits 16 c.toNat ++ ['}']

/-- A character as it stands inside quoted text that is closed by `quote`. -/
def escaped (quote c : Char) : List Char :=
  if c = '\x00' then ['\\', '0']
  else if c = '\t' then ['\\', 't']
  else if c = '\r' then ['\\', 'r']
  else if c = '\n' then ['\\', 'n']
  else if c = quote ∨ c = '\\' then ['\\', c]
  else if isPrintable c then [c]
  else codePointEscape c

def quoted (quote : Char) (text : List Char) : List Char :=
  quote :: text.flatMap (escaped quote) ++ [quote]

/-- A character between single quotes. -/
def quotedChar (c : Char) : String :=
  String.ofList (quoted '\'' [c])

/-- A string between double quotes. -/
def quotedString (text : String) : String :=
  String.ofList (quoted '"' text.toList)

end BlockLang.Text
