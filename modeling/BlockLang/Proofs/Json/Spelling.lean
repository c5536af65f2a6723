-- SUMMARY: The ways to write a string of a document, and that the string is read from each of them.
import BlockLang.Proofs.Json.Text

namespace BlockLang.Json

/-!
# Spellings

A string can be written in many ways, since a character may be escaped by its letter or by its code
units, and some ways to write one stand for no text at all. The grammar here says what is written
(`SpellsParts`) and what it stands for (`StandsFor`), and not how it is read. It is read all the same:
`SpellsParts.scanString` and `SpellsParts.stringText?`.
-/

/-! ## The grammar of strings -/

/-- The letters that may stand behind a backslash, each with the character that it stands for. -/
def escapes : List (Char × Char) :=
  [('"', '"'), ('\\', '\\'), ('/', '/'), ('b', '\x08'), ('f', '\x0c'), ('n', '\n'), ('r', '\r'),
    ('t', '\t')]

def IsHexDigit (n : Nat) (c : Char) : Prop :=
  n < 16 ∧ (c = Nat.digitChar n ∨ c = (Nat.digitChar n).toUpper)

/-- The ways to write a part of a string. -/
inductive StringPart.Spells : StringPart → List Char → Prop
  | plain {c : Char} (hcontrol : 0x20 ≤ c.toNat) (hquote : c ≠ '"') (hbackslash : c ≠ '\\') :
    Spells (.char c) [c]
  | escaped {letter c : Char} (h : (letter, c) ∈ escapes) : Spells (.char c) ['\\', letter]
  | codeUnit {k l m n : Nat} {a b c d : Char} (hk : IsHexDigit k a) (hl : IsHexDigit l b)
    (hm : IsHexDigit m c) (hn : IsHexDigit n d) :
    Spells (.codeUnit (0x1000 * k + 0x100 * l + 0x10 * m + n)) ['\\', 'u', a, b, c, d]

/-- The ways to write the parts of a string, one after another. -/
inductive SpellsParts : List StringPart → List Char → Prop
  | nil : SpellsParts [] []
  | cons {part : StringPart} {parts : List StringPart} {text body : List Char}
    (hpart : part.Spells text) (hparts : SpellsParts parts body) :
    SpellsParts (part :: parts) (text ++ body)

/-- The code units of a character: one, or a surrogate pair. -/
def utf16 (c : Char) : List Nat :=
  if c.toNat < 0x10000 then [c.toNat]
  else [0xD800 + (c.toNat - 0x10000) / 0x400, 0xDC00 + (c.toNat - 0x10000) % 0x400]

/-- Parts stand for a text: each of its characters is there as such or by its code units. -/
inductive Denotes : List StringPart → List Char → Prop
  | nil : Denotes [] []
  | char (c : Char) {parts : List StringPart} {text : List Char} (h : Denotes parts text) :
    Denotes (.char c :: parts) (c :: text)
  | codeUnits (c : Char) {parts : List StringPart} {text : List Char} (h : Denotes parts text) :
    Denotes ((utf16 c).map .codeUnit ++ parts) (c :: text)

/-- Parts stand for a text, or for none at all. -/
def StandsFor (parts : List StringPart) : Option String → Prop
  | some text => Denotes parts text.toList
  | none => ∀ text, ¬ Denotes parts text

/-! ## Reading what is written -/

theorem hexValue?_of_isHexDigit {n : Nat} {c : Char} (h : IsHexDigit n c) :
    hexValue? c = some n := by
  have hall : ∀ n < 16, hexValue? (Nat.digitChar n) = some n ∧
      hexValue? (Nat.digitChar n).toUpper = some n := by decide
  obtain ⟨hn, rfl | rfl⟩ := h
  · exact (hall n hn).1
  · exact (hall n hn).2

theorem escapedChar?_of_mem {letter c : Char} (h : (letter, c) ∈ escapes) :
    escapedChar? letter = some c := by
  have hall : ∀ escape ∈ escapes, escapedChar? escape.1 = some escape.2 := by decide
  exact hall _ h

/-- A part is read from each way to write it. -/
theorem StringPart.Spells.scanString {part : StringPart} {text : List Char} (h : part.Spells text)
    (rest : List Char) :
    scanString (text ++ rest) =
      (scanString rest).map fun (parts, rest) => (part :: parts, rest) := by
  cases h with
  | plain hcontrol hquote hbackslash =>
    exact scanString_plain (by simp [isPlain, hquote, hbackslash, hcontrol]) rest
  | escaped h => exact scanString_escaped (escapedChar?_of_mem h) rest
  | codeUnit hk hl hm hn =>
    refine scanString_codeUnit ?_ rest
    simp [hexValue4?, hexValue?_of_isHexDigit hk, hexValue?_of_isHexDigit hl,
      hexValue?_of_isHexDigit hm, hexValue?_of_isHexDigit hn]

/-- A string is read up to its closing quote from each way to write its parts. -/
theorem SpellsParts.scanString {parts : List StringPart} {body : List Char}
    (h : SpellsParts parts body) (rest : List Char) :
    scanString (body ++ '"' :: rest) = some (parts, rest) := by
  induction h with
  | nil => simp [Json.scanString]
  | cons hpart _ ih => rw [List.append_assoc, hpart.scanString, ih, Option.map_some]

/-- Characters without quotes, backslashes and control characters are written as they are. -/
theorem spellsParts_plain {text : List Char} (h : ∀ c ∈ text, isPlain c) :
    SpellsParts (text.map .char) text := by
  induction text with
  | nil => exact .nil
  | cons c text ih =>
    obtain ⟨hc, htext⟩ := List.forall_mem_cons.1 h
    simp only [isPlain, Bool.and_eq_true, bne_iff_ne, decide_eq_true_eq] at hc
    obtain ⟨⟨hquote, hbackslash⟩, hcontrol⟩ := hc
    exact .cons (.plain hcontrol hquote hbackslash) (ih htext)

theorem denotes_map_char (text : List Char) : Denotes (text.map .char) text := by
  induction text with
  | nil => exact .nil
  | cons c text ih => exact .char c ih

/-! ## The text of a string -/

/-- A character is read from its code units. -/
theorem stringText?_utf16 (c : Char) (parts : List StringPart) :
    stringText? ((utf16 c).map .codeUnit ++ parts) = (stringText? parts).map (c :: ·) := by
  obtain ⟨hhigh, hlow⟩ := not_surrogate c
  rw [utf16]
  split
  · rw [List.map_singleton, List.singleton_append, stringText?_codeUnit hhigh hlow,
      Char.ofNat_toNat]
  · next hlarge =>
    have hvalid : c.toNat < 0xD800 ∨ 0xDFFF < c.toNat ∧ c.toNat < 0x110000 := c.valid
    have hfirst : isHighSurrogate (0xD800 + (c.toNat - 0x10000) / 0x400) := by
      simp only [isHighSurrogate, Bool.and_eq_true, decide_eq_true_eq]
      omega
    have hsecond : isLowSurrogate (0xDC00 + (c.toNat - 0x10000) % 0x400) := by
      simp only [isLowSurrogate, Bool.and_eq_true, decide_eq_true_eq]
      omega
    have hpair : surrogatePair (0xD800 + (c.toNat - 0x10000) / 0x400)
        (0xDC00 + (c.toNat - 0x10000) % 0x400) = c := by
      have hnumber : 0x10000 + (0xD800 + (c.toNat - 0x10000) / 0x400 - 0xD800) * 0x400 +
          (0xDC00 + (c.toNat - 0x10000) % 0x400 - 0xDC00) = c.toNat := by omega
      rw [surrogatePair, hnumber, Char.ofNat_toNat]
    simp [stringText?, hfirst, hsecond, hpair]

theorem stringText?_of_denotes {parts : List StringPart} {text : List Char}
    (h : Denotes parts text) : stringText? parts = some text := by
  induction h with
  | nil => rfl
  | char c _ ih => rw [stringText?, ih, Option.map_some]
  | codeUnits c _ ih => rw [stringText?_utf16, ih, Option.map_some]

theorem toNat_ofNat {n : Nat} (h : n.isValidChar) : (Char.ofNat n).toNat = n := by
  rw [Char.ofNat, dif_pos h]
  rfl

/-- A code unit that is not half of a surrogate pair is a character by itself. -/
theorem utf16_ofNat {n : Nat} (hn : n < 0x10000) (hhigh : isHighSurrogate n = false)
    (hlow : isLowSurrogate n = false) : utf16 (Char.ofNat n) = [n] := by
  have hvalid : n.isValidChar := by
    simp only [isHighSurrogate, isLowSurrogate, Bool.and_eq_false_iff,
      decide_eq_false_iff_not] at hhigh hlow
    rw [Nat.isValidChar]
    omega
  rw [utf16, toNat_ofNat hvalid, if_pos hn]

/-- Both halves of a surrogate pair are the code units of its character. -/
theorem utf16_surrogatePair {high low : Nat} (hhigh : isHighSurrogate high)
    (hlow : isLowSurrogate low) : utf16 (surrogatePair high low) = [high, low] := by
  simp only [isHighSurrogate, isLowSurrogate, Bool.and_eq_true, decide_eq_true_eq] at hhigh hlow
  have hvalid : (0x10000 + (high - 0xD800) * 0x400 + (low - 0xDC00)).isValidChar := by
    rw [Nat.isValidChar]
    omega
  have hlarge : ¬ 0x10000 + (high - 0xD800) * 0x400 + (low - 0xDC00) < 0x10000 := by omega
  have hfirst : 0xD800 + (0x10000 + (high - 0xD800) * 0x400 + (low - 0xDC00) - 0x10000) / 0x400 =
      high := by omega
  have hsecond : 0xDC00 + (0x10000 + (high - 0xD800) * 0x400 + (low - 0xDC00) - 0x10000) % 0x400 =
      low := by omega
  rw [utf16, surrogatePair, toNat_ofNat hvalid, if_neg hlarge, hfirst, hsecond]

/-- A character may be put in front by its code units. -/
theorem Denotes.of_utf16 {c : Char} {units : List Nat} {parts : List StringPart} {text : List Char}
    (h : Denotes parts text) (hunits : utf16 c = units) :
    Denotes (units.map .codeUnit ++ parts) (c :: text) :=
  hunits ▸ .codeUnits c h

/-- A text that is read is the one that the parts stand for, if their code units are of 16 bits. -/
theorem denotes_of_stringText? {parts : List StringPart} {text : List Char}
    (hunits : ∀ n, .codeUnit n ∈ parts → n < 0x10000) (h : stringText? parts = some text) :
    Denotes parts text := by
  fun_induction stringText? parts generalizing text with
  | case1 =>
    cases h
    exact .nil
  | case2 c parts ih =>
    obtain ⟨text, hrest, rfl⟩ := Option.map_eq_some_iff.1 h
    exact .char c (ih (fun n hn => hunits n (.tail _ hn)) hrest)
  | case3 high low parts hhigh hlow ih =>
    obtain ⟨text, hrest, rfl⟩ := Option.map_eq_some_iff.1 h
    exact (ih (fun n hn => hunits n (.tail _ (.tail _ hn))) hrest).of_utf16
      (utf16_surrogatePair hhigh hlow)
  | case4 | case5 | case7 => cases h
  | case6 high low parts hhigh hlow ih =>
    obtain ⟨text, hrest, rfl⟩ := Option.map_eq_some_iff.1 h
    have hone := utf16_ofNat (hunits high (.head _)) (Bool.eq_false_iff.2 hhigh)
      (Bool.eq_false_iff.2 hlow)
    exact (ih (fun n hn => hunits n (.tail _ hn)) hrest).of_utf16 hone
  | case8 n parts _ hhalf ih =>
    obtain ⟨text, hrest, rfl⟩ := Option.map_eq_some_iff.1 h
    obtain ⟨hhigh, hlow⟩ := not_or.1 hhalf
    have hone := utf16_ofNat (hunits n (.head _)) (Bool.eq_false_iff.2 hhigh)
      (Bool.eq_false_iff.2 hlow)
    exact (ih (fun n hn => hunits n (.tail _ hn)) hrest).of_utf16 hone

/-- What is written by four hexadecimal digits is a code unit of 16 bits. -/
theorem SpellsParts.codeUnit_lt {parts : List StringPart} {body : List Char}
    (h : SpellsParts parts body) : ∀ n, .codeUnit n ∈ parts → n < 0x10000 := by
  induction h with
  | nil => nofun
  | cons hpart _ ih =>
    intro n hn
    cases hn with
    | head =>
      cases hpart with
      | codeUnit hk hl hm hn =>
        have hbounds := And.intro (And.intro hk.1 hl.1) (And.intro hm.1 hn.1)
        omega
    | tail _ hn => exact ih n hn

/-- A string that is written stands for the text that is read, and for none if none is read. -/
theorem SpellsParts.stringText? {parts : List StringPart} {body : List Char}
    (h : SpellsParts parts body) {text : Option String} (htext : StandsFor parts text) :
    (Json.stringText? parts).map String.ofList = text := by
  cases text with
  | some text => rw [stringText?_of_denotes htext, Option.map_some, String.ofList_toList]
  | none =>
    rw [Option.map_eq_none_iff, Option.eq_none_iff_forall_not_mem]
    exact fun text hread => htext text (denotes_of_stringText? h.codeUnit_lt hread)

end BlockLang.Json
