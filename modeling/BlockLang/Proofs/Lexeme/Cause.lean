-- SUMMARY: What keeps a lexeme from being read: each fault has one cause, which the text shows.
import BlockLang.Proofs.Lexeme.Fault
import BlockLang.Proofs.Lexeme.Longest
import Mathlib.Data.List.TakeWhile

namespace BlockLang.Lexeme

/-!
# Causes of faults

A fault says what the text begins with. `Faulty` tells this in terms of the text alone, and
`read_eq_fault_iff` says that reading fails exactly for such a cause, and which characters it takes
with it.
-/

/-- What `text` begins with if it has this fault, which shows in its first `length` characters. -/
def Faulty (text : List Char) (length : Nat) : LexicalFault → Prop
  | .unterminatedString =>
    text.head? = some '"' ∧ '"' ∉ text.drop 1 ∧ length = text.length
  | .expectedClosingQuote =>
    text.head? = some '\'' ∧ text[2]? ≠ some '\'' ∧ length = min 2 text.length
  | .undoubledOperator operator found =>
    (operator = '&' ∨ operator = '|') ∧ text.head? = some operator ∧ text[1]? ≠ some operator ∧
      found = text[1]? ∧ length = 1
  | .numeralOutOfRange digits =>
    digits.toList = text.takeWhile Char.isDigit ∧ wordBound ≤ numeralValue digits.toList ∧
      length = digits.toList.length

/-! ## Faults of the readers -/

section Readers

variable {c : Char} {text consumed rest : List Char} {fault : LexicalFault}

theorem readNumeral_eq_fault_iff :
    readNumeral text = .fault fault consumed rest ↔
      wordBound ≤ numeralValue (text.takeWhile Char.isDigit) ∧
        fault = .numeralOutOfRange (String.ofList (text.takeWhile Char.isDigit)) ∧
        consumed = text.takeWhile Char.isDigit ∧ rest = text.dropWhile Char.isDigit := by
  simp only [readNumeral]
  split
  · next hfits => simp [Nat.not_le.2 hfits]
  · next hlarge => simp [Nat.not_lt.1 hlarge, eq_comm]

theorem readString_eq_fault_iff :
    readString text = .fault fault consumed rest ↔
      '"' ∉ text ∧ fault = .unterminatedString ∧ consumed = '"' :: text ∧ rest = [] := by
  have hquote : text.dropWhile (· != '"') = [] ↔ '"' ∉ text := by
    simp only [List.dropWhile_eq_nil_iff, bne_iff_ne]
    exact ⟨fun h hmem => h _ hmem rfl, fun h c hc heq => h (heq ▸ hc)⟩
  simp only [readString]
  split
  · next hnil => simp [hquote.1 hnil, eq_comm]
  · next hcons =>
    have hmem : '"' ∈ text := by
      by_contra hnot
      simp [hquote.2 hnot] at hcons
    simp [hmem]

theorem readCharacter_eq_fault_iff :
    readCharacter text = .fault fault consumed rest ↔
      text[1]? ≠ some '\'' ∧ fault = .expectedClosingQuote ∧ consumed = '\'' :: text.take 1 ∧
        rest = text.drop 1 := by
  rcases text with _ | ⟨c, _ | ⟨d, text⟩⟩
  · simp [readCharacter, eq_comm]
  · simp [readCharacter, eq_comm]
  · simp only [readCharacter]
    split
    · next hd => simp [hd]
    · next hd => simp [hd, eq_comm]

/-- A mark that is written twice only is read where the same character follows. -/
theorem doubleMark?_eq_none_iff (hc : Punctuation.isDoubledOnly c) :
    doubleMark? c text = none ↔ text.head? ≠ some c := by
  have hspelled : ∀ d, (∃ m : Punctuation, m.spelling = [c, d]) ↔ d = c := by
    intro d
    simp only [Punctuation.isDoubledOnly, Bool.or_eq_true, beq_iff_eq] at hc
    constructor
    · rintro ⟨m, hm⟩
      rcases hc with rfl | rfl <;> cases m <;> simp_all [Punctuation.spelling, eq_comm]
    · rintro rfl
      rcases hc with rfl | rfl
      · exact ⟨.and, rfl⟩
      · exact ⟨.or, rfl⟩
  rw [← not_iff_not, ← ne_eq, Option.ne_none_iff_exists', not_not]
  constructor
  · rintro ⟨m, hm⟩
    obtain ⟨d, hd, hspelling⟩ := doubleMark?_eq_some_iff.1 hm
    rw [hd, (hspelled d).1 ⟨m, hspelling⟩]
  · intro hhead
    obtain ⟨m, hm⟩ := (hspelled c).2 rfl
    exact ⟨m, doubleMark?_eq_some_iff.2 ⟨c, hhead, hm⟩⟩

theorem readMark_eq_fault_iff :
    readMark c text = .fault fault consumed rest ↔
      Punctuation.isDoubledOnly c ∧ text.head? ≠ some c ∧
        fault = .undoubledOperator c text.head? ∧ consumed = [c] ∧ rest = text := by
  by_cases hc : Punctuation.isDoubledOnly c
  · have hdouble : doubleMark? c text = none ↔ text.head? ≠ some c := doubleMark?_eq_none_iff hc
    simp only [readMark, hc, if_true, true_and]
    split
    · next hm => simp [← hdouble, hm]
    · next hm => simp [hdouble.1 hm, eq_comm]
  · simp only [readMark, hc, Bool.false_eq_true, if_false, false_and, iff_false]
    repeat' split
    all_goals simp

end Readers

/-! ## Faults of any lexeme -/

/-- The shape of the lexemes that have this fault. -/
def formOf : LexicalFault → Form
  | .unterminatedString => .stringLiteral
  | .expectedClosingQuote => .character
  | .undoubledOperator .. => .symbol
  | .numeralOutOfRange _ => .numeral

theorem eq_of_ofHead_eq_stringLiteral {c : Char} (h : Form.ofHead c = .stringLiteral) : c = '"' := by
  unfold Form.ofHead at h
  grind

theorem eq_of_ofHead_eq_character {c : Char} (h : Form.ofHead c = .character) : c = '\'' := by
  unfold Form.ofHead at h
  grind

theorem numeralValue_nil : numeralValue [] < wordBound := by decide

variable {c : Char} {text consumed rest : List Char} {length : Nat} {fault : LexicalFault}

theorem not_faulty_nil : ¬ Faulty [] length fault := by
  cases fault with
  | numeralOutOfRange digits =>
    rintro ⟨hdigits, hvalue, -⟩
    rw [hdigits, List.takeWhile_nil] at hvalue
    exact Nat.not_le.2 numeralValue_nil hvalue
  | _ => simp [Faulty]

/-- The first character tells which faults a text may have. -/
theorem Faulty.ofHead_eq (h : Faulty (c :: text) length fault) : Form.ofHead c = formOf fault := by
  cases fault with
  | unterminatedString =>
    obtain rfl := Option.some.inj h.1
    rfl
  | expectedClosingQuote =>
    obtain rfl := Option.some.inj h.1
    rfl
  | undoubledOperator operator found =>
    obtain ⟨hoperator, hhead, -⟩ := h
    obtain rfl := Option.some.inj hhead
    rcases hoperator with rfl | rfl <;> rfl
  | numeralOutOfRange digits =>
    obtain ⟨hdigits, hvalue, -⟩ := h
    by_cases hc : c.isDigit
    · exact ofHead_of_isDigit hc
    · rw [hdigits, List.takeWhile_cons_of_neg hc] at hvalue
      exact absurd hvalue (Nat.not_le.2 numeralValue_nil)

theorem Faulty.length_eq {length' : Nat} (h : Faulty text length fault)
    (h' : Faulty text length' fault) : length = length' := by
  cases fault with
  | unterminatedString => exact h.2.2.trans h'.2.2.symm
  | expectedClosingQuote => exact h.2.2.trans h'.2.2.symm
  | undoubledOperator operator found => exact h.2.2.2.2.trans h'.2.2.2.2.symm
  | numeralOutOfRange digits => exact h.2.2.trans h'.2.2.symm

/-- A cause makes reading fail. -/
theorem Faulty.read_eq (h : Faulty text length fault) :
    read text = .fault fault (text.take length) (text.drop length) := by
  cases text with
  | nil => exact absurd h not_faulty_nil
  | cons c text =>
    rw [read_cons, h.ofHead_eq]
    cases fault with
    | unterminatedString =>
      obtain ⟨hhead, hopen, rfl⟩ := h
      obtain rfl := Option.some.inj hhead
      exact readString_eq_fault_iff.2 ⟨hopen, rfl, List.take_length, List.drop_length⟩
    | expectedClosingQuote =>
      obtain ⟨hhead, hopen, rfl⟩ := h
      obtain rfl := Option.some.inj hhead
      refine readCharacter_eq_fault_iff.2 ⟨hopen, rfl, ?_, ?_⟩
      · cases text <;> simp
      · cases text <;> simp
    | undoubledOperator operator found =>
      obtain ⟨hoperator, hhead, hsingle, rfl, rfl⟩ := h
      obtain rfl := Option.some.inj hhead
      have hdoubled : Punctuation.isDoubledOnly c := by simpa [Punctuation.isDoubledOnly] using hoperator
      rw [List.getElem?_cons_succ, ← List.head?_eq_getElem?] at hsingle ⊢
      exact readMark_eq_fault_iff.2 ⟨hdoubled, hsingle, rfl, rfl, rfl⟩
    | numeralOutOfRange digits =>
      obtain ⟨hdigits, hvalue, rfl⟩ := h
      have hsplit := List.takeWhile_append_dropWhile (p := Char.isDigit) (l := c :: text)
      rw [← hdigits] at hsplit
      refine readNumeral_eq_fault_iff.2 ⟨hdigits ▸ hvalue, ?_, ?_, ?_⟩
      · rw [← hdigits, String.ofList_toList]
      · rw [← hdigits]
        exact (congrArg (List.take _) hsplit.symm).trans List.take_left
      · exact (congrArg (List.drop _) hsplit.symm).trans List.drop_left

/-- Reading fails only for a cause. -/
theorem faulty_of_read (h : read text = .fault fault consumed rest) :
    Faulty text consumed.length fault := by
  cases text with
  | nil => cases h
  | cons c text =>
    rw [read_cons] at h
    cases hhead : Form.ofHead c with
    | word => simp [hhead, readWord] at h
    | numeral =>
      simp only [hhead] at h
      obtain ⟨hvalue, rfl, rfl, -⟩ := readNumeral_eq_fault_iff.1 h
      exact ⟨String.toList_ofList, by simpa using hvalue, by simp⟩
    | stringLiteral =>
      simp only [hhead] at h
      obtain ⟨hopen, rfl, rfl, -⟩ := readString_eq_fault_iff.1 h
      exact ⟨congrArg some (eq_of_ofHead_eq_stringLiteral hhead), hopen, rfl⟩
    | character =>
      simp only [hhead] at h
      obtain ⟨hopen, rfl, rfl, -⟩ := readCharacter_eq_fault_iff.1 h
      exact ⟨congrArg some (eq_of_ofHead_eq_character hhead), hopen, by simp; omega⟩
    | symbol =>
      simp only [hhead] at h
      obtain ⟨hdoubled, hsingle, rfl, rfl, -⟩ := readMark_eq_fault_iff.1 h
      refine ⟨by simpa [Punctuation.isDoubledOnly] using hdoubled, rfl, ?_, ?_, rfl⟩
      · simpa [List.head?_eq_getElem?] using hsingle
      · simp [List.head?_eq_getElem?]

/-- Reading fails exactly for a cause, and takes the characters that show it. -/
theorem read_eq_fault_iff :
    read text = .fault fault consumed rest ↔
      Faulty text consumed.length fault ∧ consumed ++ rest = text := by
  constructor
  · intro h
    exact ⟨faulty_of_read h, (stops_of_read h).append⟩
  · rintro ⟨hfaulty, rfl⟩
    simpa using hfaulty.read_eq

end BlockLang.Lexeme
