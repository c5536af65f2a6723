-- SUMMARY: Source texts as they come from outside: bytes that encode a text, if nothing goes wrong.
import BlockLang.Error

namespace BlockLang

/-!
## Sources
-/

/-- The text that bytes encode in UTF-8, or the reason why they encode none. -/
def decodeText (bytes : ByteArray) : Except String String :=
  match String.fromUTF8? bytes with
  | some text => .ok text
  | none => .error "stream did not contain valid UTF-8"

/-- What a reader delivers: some bytes, and then the end or a failure. -/
structure Source where
  bytes : ByteArray
  failure : Option String := none

def Source.ofString (text : String) : Source := { bytes := text.toUTF8 }

/-- The whole text of a source. A failure of the reader goes before a fault in its bytes. -/
def Source.text (s : Source) : Except Error String :=
  match s.failure with
  | some reason => .error (.io reason)
  | none => (decodeText s.bytes).mapError .io

end BlockLang
