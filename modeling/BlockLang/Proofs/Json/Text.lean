-- SUMMARY: Strings of a document: each text is read back from the way it is written.
import BlockLang.Json.Print
import BlockLang.Json.Token

namespace BlockLang.Json

/-!
# Strings

A character is written as itself, as a backslash and a letter, or by the number of its code unit, and
is read as one part of a string accordingly (`partOf`). The parts of a text make up the text again,
since no character that is written by its number is half of a surrogate pair.
-/

/-! ## One character -/

/-- The part of a string that a character is written as. -/
def partOf (c : Char) : StringPart :=
  if c.toNat < 0x20 ∧ c ∉ ['\x08', '\x0c', '\n', '\r', '\t'] then .codeUnit c.toNat else .char c

variable {c : Char}

theorem scanString_escaped {e : Char} (h : escapedChar? e = some c) (rest : List Char) :
    scanString ('\\' :: e :: rest) =
      (scanString rest).map fun (parts, rest) => (.char c :: parts, rest) := by
  rw [scanString, h]
  · cases scanString rest <;> rfl
  · rintro _ _ _ _ _ rfl
    cases h

theorem scanString_codeUnit {a b d e : Char} {n : Nat} (h : hexValue4? a b d e = some n)
    (rest : List Char) :
    scanString ('\\' :: 'u' :: a :: b :: d :: e :: rest) =
      (scanString rest).map fun (parts, rest) => (.codeUnit n :: parts, rest) := by
  rw [scanString, h]
  cases scanString rest <;> rfl

theorem scanString_plain (h : isPlain c) (rest : List Char) :
    scanString (c :: rest) =
      (scanString rest).map fun (parts, rest) => (.char c :: parts, rest) := by
  have hplain := h
  simp only [isPlain, Bool.and_eq_true, bne_iff_ne] at hplain
  obtain ⟨⟨hquote, hbackslash⟩, -⟩ := hplain
  rw [scanString, if_pos h]
  · cases scanString rest <;> rfl
  · exact hquote
  · exact fun _ _ _ _ _ heq _ => hbackslash heq
  · exact fun _ _ heq _ => hbackslash heq

theorem hexValue4?_of_lt {n : Nat} (h : n < 0x20) :
    hexValue4? '0' '0' (Nat.digitChar (n / 16)) (Nat.digitChar (n % 16)) = some n := by
  have hall : ∀ n < 0x20,
      hexValue4? '0' '0' (Nat.digitChar (n / 16)) (Nat.digitChar (n % 16)) = some n := by decide
  exact hall n h

/-- A character is read as the part that it is written as. -/
theorem scanString_writeChar (c : Char) (rest : List Char) :
    scanString (writeChar c ++ rest) =
      (scanString rest).map fun (parts, rest) => (partOf c :: parts, rest) := by
  by_cases hshort : c ∈ ['"', '\\', '\x08', '\x0c', '\n', '\r', '\t']
  · simp only [List.mem_cons, List.not_mem_nil, or_false] at hshort
    rcases hshort with rfl | rfl | rfl | rfl | rfl | rfl | rfl <;>
      exact scanString_escaped rfl rest
  · simp only [List.mem_cons, List.not_mem_nil, or_false, not_or] at hshort
    obtain ⟨hquote, hbackslash, hletters⟩ := hshort
    by_cases hcontrol : c.toNat < 0x20
    · have hpart : partOf c = .codeUnit c.toNat := by simp [partOf, hcontrol, hletters]
      have hwrite : writeChar c = ['\\', 'u', '0', '0', Nat.digitChar (c.toNat / 16),
          Nat.digitChar (c.toNat % 16)] := by
        simp [writeChar, hquote, hbackslash, hletters, hcontrol]
      rw [hpart, hwrite]
      exact scanString_codeUnit (hexValue4?_of_lt hcontrol) rest
    · have hpart : partOf c = .char c := by simp [partOf, hcontrol]
      have hwrite : writeChar c = [c] := by
        simp [writeChar, hquote, hbackslash, hletters, hcontrol]
      have hplain : isPlain c := by simp [isPlain, hquote, hbackslash, Nat.le_of_not_lt hcontrol]
      rw [hpart, hwrite]
      exact scanString_plain hplain rest

/-! ## Texts -/

/-- A whole text is read up to its closing quote. -/
theorem scanString_flatMap (text rest : List Char) :
    scanString (text.flatMap writeChar ++ '"' :: rest) = some (text.map partOf, rest) := by
  induction text with
  | nil => simp [scanString]
  | cons c text ih => simp [scanString_writeChar, ih]

/-- A code unit that is not half of a surrogate pair is a character by itself. -/
theorem stringText?_codeUnit {n : Nat} (hhigh : isHighSurrogate n = false)
    (hlow : isLowSurrogate n = false) (parts : List StringPart) :
    stringText? (.codeUnit n :: parts) = (stringText? parts).map (Char.ofNat n :: ·) := by
  rcases parts with _ | ⟨_ | _, parts⟩ <;> simp [stringText?, hhigh, hlow]

/-- A character is not half of a surrogate pair. -/
theorem not_surrogate (c : Char) :
    isHighSurrogate c.toNat = false ∧ isLowSurrogate c.toNat = false := by
  have hvalid : c.toNat < 0xD800 ∨ 0xDFFF < c.toNat ∧ c.toNat < 0x110000 := c.valid
  simp only [isHighSurrogate, isLowSurrogate, Bool.and_eq_false_iff, decide_eq_false_iff_not]
  omega

theorem stringText?_map_partOf (text : List Char) : stringText? (text.map partOf) = some text := by
  induction text with
  | nil => rfl
  | cons c text ih =>
    rw [List.map_cons, partOf]
    split
    · obtain ⟨hhigh, hlow⟩ := not_surrogate c
      rw [stringText?_codeUnit hhigh hlow, ih, Option.map_some, Char.ofNat_toNat]
    · rw [stringText?, ih, Option.map_some]

/-- A string is read as it is written, also one that stands for no text. -/
theorem scanString_writeString (text : Option String) (rest : List Char) :
    ∃ parts body, writeString text ++ rest = '"' :: body ∧ scanString body = some (parts, rest) ∧
      (stringText? parts).map String.ofList = text := by
  cases text with
  | none =>
    refine ⟨[.codeUnit 0xD800], _, rfl, ?_, rfl⟩
    have hhalf : hexValue4? 'd' '8' '0' '0' = some 0xD800 := by decide
    exact (scanString_codeUnit hhalf _).trans (by simp [scanString])
  | some text =>
    refine ⟨text.toList.map partOf, text.toList.flatMap writeChar ++ '"' :: rest, ?_,
      scanString_flatMap _ _, ?_⟩
    · simp [writeString]
    · rw [stringText?_map_partOf, Option.map_some, String.ofList_toList]

end BlockLang.Json
