-- SUMMARY: Quoted text is read back, and never breaks a line.
import BlockLang.Proofs.Text.Lines
import BlockLang.Text.Quoted

namespace BlockLang.Text

/-!
# Quoted text

The first character of quoted text is read back from the way it stands there (`unescape`), whatever
comes behind it. So different texts are quoted differently. What stands in quoted text can be shown,
and nothing that can be shown breaks a line.
-/

/-! ## Code points -/

/-- The value of a digit in lower case hexadecimal. -/
def digitValue (c : Char) : Nat :=
  if c.isDigit then c.toNat - '0'.toNat else c.toNat - 'a'.toNat + 10

/-- The number that hexadecimal digits denote. -/
def hexValue (digits : List Char) : Nat :=
  digits.foldl (fun n c => 16 * n + digitValue c) 0

theorem digitValue_digitChar : ∀ n < 16, digitValue (Nat.digitChar n) = n := by decide

theorem hexValue_toDigits (n : Nat) : hexValue (Nat.toDigits 16 n) = n := by
  induction n using Nat.strongRecOn with
  | ind n ih =>
    rw [Nat.toDigits_eq_if (by decide)]
    split
    · next hsmall => simp [hexValue, digitValue_digitChar n hsmall]
    · next hlarge =>
      have hsmaller : n / 16 < n := Nat.div_lt_self (by omega) (by decide)
      have hlast := digitValue_digitChar (n % 16) (Nat.mod_lt n (by decide))
      have hothers := ih (n / 16) hsmaller
      rw [hexValue] at hothers ⊢
      rw [List.foldl_append, hothers, List.foldl_cons, List.foldl_nil, hlast, Nat.div_add_mod]

theorem exists_of_mem_toDigits {n : Nat} {c : Char} (h : c ∈ Nat.toDigits 16 n) :
    ∃ d < 16, c = Nat.digitChar d := by
  induction n using Nat.strongRecOn with
  | ind n ih =>
    rw [Nat.toDigits_eq_if (by decide)] at h
    split at h
    · next hsmall => exact ⟨n, hsmall, List.mem_singleton.1 h⟩
    · next hlarge =>
      have hsmaller : n / 16 < n := Nat.div_lt_self (by omega) (by decide)
      cases List.mem_append.1 h with
      | inl hothers => exact ih _ hsmaller hothers
      | inr hlast => exact ⟨n % 16, Nat.mod_lt n (by decide), List.mem_singleton.1 hlast⟩

theorem not_mem_toDigits (n : Nat) : ∀ c ∈ Nat.toDigits 16 n, c != '}' := by
  have hall : ∀ d < 16, Nat.digitChar d != '}' := by decide
  intro c hc
  obtain ⟨d, hd, rfl⟩ := exists_of_mem_toDigits hc
  exact hall d hd

/-! ## How a character stands in quoted text -/

/-- What stands behind a backslash alone, and the character that it stands for. -/
def shortEscapes : List (Char × Char) :=
  [('0', '\x00'), ('t', '\t'), ('r', '\r'), ('n', '\n'), ('\'', '\''), ('"', '"'), ('\\', '\\')]

variable {quote : Char}

/-- A character has a short escape, stands as it is, or is given by its code point. -/
theorem escaped_cases (hquote : quote ∈ ['\'', '"']) (c : Char) :
    (∃ letter, (letter, c) ∈ shortEscapes ∧ escaped quote c = ['\\', letter]) ∨
    (c ≠ '\\' ∧ isPrintable c ∧ escaped quote c = [c]) ∨
    escaped quote c = codePointEscape c := by
  by_cases hcontrol : c ∈ ['\x00', '\t', '\r', '\n']
  · left
    simp only [List.mem_cons, List.not_mem_nil, or_false] at hcontrol
    rcases hcontrol with rfl | rfl | rfl | rfl <;> exact ⟨_, by decide, rfl⟩
  simp only [List.mem_cons, List.not_mem_nil, or_false, not_or] at hcontrol
  by_cases hquoted : c = quote ∨ c = '\\'
  · have hmem : c ∈ ['\'', '"', '\\'] := by
      rcases hquoted with rfl | rfl
      · exact List.mem_append_left ['\\'] hquote
      · decide
    have hall : ∀ c ∈ ['\'', '"', '\\'], (c, c) ∈ shortEscapes := by decide
    exact .inl ⟨c, hall c hmem, by simp [escaped, hcontrol, hquoted]⟩
  right
  by_cases hprintable : isPrintable c
  · exact .inl ⟨(not_or.1 hquoted).2, hprintable, by simp [escaped, hcontrol, hquoted, hprintable]⟩
  · exact .inr (by simp [escaped, hcontrol, hquoted, hprintable])

/-! ## Reading back -/

/-- The first character of quoted text, and what comes behind it. -/
def unescape : List Char → Option (Char × List Char)
  | '\\' :: 'u' :: '{' :: text =>
    some (Char.ofNat (hexValue (text.takeWhile (· != '}'))), (text.dropWhile (· != '}')).tail)
  | '\\' :: letter :: text => (shortEscapes.lookup letter).map (·, text)
  | c :: text => some (c, text)
  | [] => none

theorem unescape_short {letter c : Char} (h : (letter, c) ∈ shortEscapes) (rest : List Char) :
    unescape ('\\' :: letter :: rest) = some (c, rest) := by
  simp only [shortEscapes, List.mem_cons, Prod.mk.injEq, List.not_mem_nil, or_false] at h
  rcases h with ⟨rfl, rfl⟩ | ⟨rfl, rfl⟩ | ⟨rfl, rfl⟩ | ⟨rfl, rfl⟩ | ⟨rfl, rfl⟩ | ⟨rfl, rfl⟩ |
    ⟨rfl, rfl⟩ <;> rfl

theorem unescape_plain {c : Char} (h : c ≠ '\\') (rest : List Char) :
    unescape (c :: rest) = some (c, rest) := by
  rw [unescape]
  · exact fun _ heq _ => h heq
  · exact fun _ _ heq _ => h heq

theorem unescape_codePointEscape (c : Char) (rest : List Char) :
    unescape (codePointEscape c ++ rest) = some (c, rest) := by
  have hsplits : Splits (· != '}') (Nat.toDigits 16 c.toNat ++ '}' :: rest)
      (Nat.toDigits 16 c.toNat) ('}' :: rest) := by
    refine ⟨rfl, not_mem_toDigits _, ?_⟩
    rintro _ ⟨⟩
    rfl
  have hescape : codePointEscape c ++ rest =
      '\\' :: 'u' :: '{' :: (Nat.toDigits 16 c.toNat ++ '}' :: rest) := by
    simp [codePointEscape]
  rw [hescape, unescape, hsplits.takeWhile_eq, hsplits.dropWhile_eq, hexValue_toDigits,
    Char.ofNat_toNat, List.tail_cons]

/-- A character is read back from the way it stands in quoted text. -/
theorem unescape_escaped (hquote : quote ∈ ['\'', '"']) (c : Char) (rest : List Char) :
    unescape (escaped quote c ++ rest) = some (c, rest) := by
  rcases escaped_cases hquote c with ⟨letter, hmem, heq⟩ | ⟨hplain, -, heq⟩ | heq
  · rw [heq]
    exact unescape_short hmem rest
  · rw [heq]
    exact unescape_plain hplain rest
  · rw [heq]
    exact unescape_codePointEscape c rest

theorem flatMap_escaped_injective (hquote : quote ∈ ['\'', '"']) {text text' : List Char}
    (h : text.flatMap (escaped quote) = text'.flatMap (escaped quote)) : text = text' := by
  induction text generalizing text' with
  | nil =>
    cases text' with
    | nil => rfl
    | cons c' text' =>
      have hread := unescape_escaped hquote c' (text'.flatMap (escaped quote))
      rw [← List.flatMap_cons, ← h] at hread
      cases hread
  | cons c text ih =>
    have hread := unescape_escaped hquote c (text.flatMap (escaped quote))
    rw [← List.flatMap_cons, h] at hread
    cases text' with
    | nil => cases hread
    | cons c' text' =>
      rw [List.flatMap_cons, unescape_escaped hquote c'] at hread
      obtain ⟨hc, hrest⟩ := Prod.mk.inj (Option.some.inj hread)
      rw [hc, ih hrest.symm]

/-- Different texts are quoted differently. -/
theorem quoted_injective (hquote : quote ∈ ['\'', '"']) {text text' : List Char}
    (h : quoted quote text = quoted quote text') : text = text' := by
  have hinside := (List.cons.inj h).2
  exact flatMap_escaped_injective hquote (List.append_cancel_right hinside)

theorem quotedString_injective {text text' : String} (h : quotedString text = quotedString text') :
    text = text' :=
  String.toList_inj.1 (quoted_injective (by decide) (String.ofList_injective h))

theorem quotedChar_injective {c c' : Char} (h : quotedChar c = quotedChar c') : c = c' :=
  (List.cons.inj (quoted_injective (by decide) (String.ofList_injective h))).1

/-! ## What stands in quoted text -/

def escapeCharacters : List Char :=
  ['\\', 'u', '{', '}'] ++ shortEscapes.map Prod.fst ++ (List.range 16).map Nat.digitChar

theorem mem_escaped (hquote : quote ∈ ['\'', '"']) {c d : Char} (h : d ∈ escaped quote c) :
    d = c ∧ isPrintable c ∨ d ∈ escapeCharacters := by
  have hfixed : ∀ d ∈ ['\\', 'u', '{', '}'], d ∈ escapeCharacters := by decide
  rcases escaped_cases hquote c with ⟨letter, hmem, heq⟩ | ⟨-, hprintable, heq⟩ | heq
  · right
    rw [heq] at h
    cases h with
    | head => exact hfixed _ (.head _)
    | tail _ h =>
      rw [List.mem_singleton.1 h]
      exact List.mem_append_left _ (List.mem_append_right _ (List.mem_map_of_mem hmem))
  · left
    rw [heq] at h
    exact ⟨List.mem_singleton.1 h, hprintable⟩
  · right
    rw [heq, codePointEscape, List.mem_append, List.mem_append] at h
    rcases h with (hfront | hdigit) | hclose
    · exact hfixed d (List.mem_append_left ['}'] hfront)
    · obtain ⟨n, hn, rfl⟩ := exists_of_mem_toDigits hdigit
      exact List.mem_append_right _ (List.mem_map_of_mem (List.mem_range.2 hn))
    · exact hfixed d (List.mem_append_right ['\\', 'u', '{'] hclose)

/-- Quoted text has quotes around it, and inside characters of escapes and of the text itself. -/
theorem mem_quoted (hquote : quote ∈ ['\'', '"']) {text : List Char} {d : Char}
    (h : d ∈ quoted quote text) :
    d = quote ∨ d ∈ escapeCharacters ∨ d ∈ text ∧ isPrintable d := by
  rw [quoted, List.mem_append, List.mem_cons, List.mem_flatMap] at h
  rcases h with (hopen | ⟨c, hc, hd⟩) | hclose
  · exact .inl hopen
  · rcases mem_escaped hquote hd with ⟨rfl, hprintable⟩ | hescape
    · exact .inr (.inr ⟨hc, hprintable⟩)
    · exact .inr (.inl hescape)
  · exact .inl (List.mem_singleton.1 hclose)

/-- What breaks a line is not printed as it is. -/
theorem not_break_of_isPrintable {c : Char} (h : isPrintable c) : breakRanges.contains c = false := by
  have hwithin : ∀ range ∈ breakRanges, ∃ wide ∈ unprintableRanges,
      wide.1 ≤ range.1 ∧ range.2 ≤ wide.2 := by decide +kernel
  rw [Bool.eq_false_iff]
  intro hbreak
  obtain ⟨range, hmem, hlow, hhigh⟩ := Ranges.contains_iff.1 hbreak
  obtain ⟨wide, hwide, hfirst, hlast⟩ := hwithin range hmem
  have hunprintable : unprintableRanges.contains c :=
    Ranges.contains_iff.2 ⟨wide, hwide, Nat.le_trans hfirst hlow, Nat.le_trans hhigh hlast⟩
  simp [isPrintable, hunprintable] at h

/-- Quoted text never breaks a line. -/
theorem unbroken_quoted (hquote : quote ∈ ['\'', '"']) (text : List Char) :
    Unbroken (quoted quote text) := by
  have hquotes : Unbroken ['\'', '"'] := by decide
  have hescapes : Unbroken escapeCharacters := by decide
  intro d hd
  rcases mem_quoted hquote hd with rfl | hescape | ⟨-, hprintable⟩
  · exact hquotes d hquote
  · exact hescapes d hescape
  · exact not_break_of_isPrintable hprintable

end BlockLang.Text
