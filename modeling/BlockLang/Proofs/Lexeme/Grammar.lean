-- SUMMARY: The grammar of lexemes: which ones are well formed, and which character each goes on with.
import BlockLang.Lexeme.Basic
import BlockLang.Word
import BlockLang.Proofs.Text.Classes

namespace BlockLang

/-!
# The grammar of lexemes

`Lexeme.WellFormed` says which lexemes there are, without saying how to read them. A text has at
most one lexeme as its whole (`Lexeme.eq_of_spelling_eq`), and a lexeme is the beginning of a longer
one exactly if the character after it is one that it absorbs.
-/

namespace Punctuation

/-- Whether a mark and the character right after it make up a longer mark. -/
def absorbs : Punctuation → Char → Bool
  | equals, c | lessThan, c | greaterThan, c | not, c => c == '='
  | plus, c => c == '+'
  | minus, c => c == '-'
  | _, _ => false

theorem exists_spelling_of_absorbs {m : Punctuation} {c : Char} (h : m.absorbs c) :
    ∃ n : Punctuation, n.spelling = m.spelling ++ [c] := by
  cases m with
  | equals =>
    obtain rfl := eq_of_beq h
    exact ⟨equalEqual, rfl⟩
  | lessThan =>
    obtain rfl := eq_of_beq h
    exact ⟨lessOrEqual, rfl⟩
  | greaterThan =>
    obtain rfl := eq_of_beq h
    exact ⟨greaterOrEqual, rfl⟩
  | not =>
    obtain rfl := eq_of_beq h
    exact ⟨notEqual, rfl⟩
  | plus =>
    obtain rfl := eq_of_beq h
    exact ⟨plusPlus, rfl⟩
  | minus =>
    obtain rfl := eq_of_beq h
    exact ⟨minusMinus, rfl⟩
  | _ => cases h

/-- No mark but those that absorb a character is the beginning of another mark. -/
theorem absorbs_of_isPrefixOf (m n : Punctuation) (h : m.spelling.isPrefixOf n.spelling) :
    (n.spelling.drop m.spelling.length).head?.all m.absorbs := by
  have hall : all.all fun m => all.all fun n =>
      !m.spelling.isPrefixOf n.spelling ||
        (n.spelling.drop m.spelling.length).head?.all m.absorbs := by
    decide +kernel
  have hmn := List.all_eq_true.1 (List.all_eq_true.1 hall m (mem_all m)) n (mem_all n)
  rw [h] at hmn
  exact hmn

theorem absorbs_of_spelling_eq {m n : Punctuation} {c : Char} {more : List Char}
    (h : m.spelling ++ c :: more = n.spelling) : m.absorbs c := by
  have hall := absorbs_of_isPrefixOf m n (List.isPrefixOf_iff_prefix.2 ⟨_, h⟩)
  rw [← h] at hall
  simpa using hall

/-- A mark has one character, or it is another such mark or a character that stands twice only, and
one more character. -/
theorem spelling_cases (m : Punctuation) :
    (∃ a, m.spelling = [a] ∧ isDoubledOnly a = false) ∨
      ∃ a b, m.spelling = [a, b] ∧ (isDoubledOnly a ∨ ∃ n : Punctuation, n.spelling = [a]) := by
  cases m with
  | equalEqual => exact Or.inr ⟨_, _, rfl, Or.inr ⟨equals, rfl⟩⟩
  | notEqual => exact Or.inr ⟨_, _, rfl, Or.inr ⟨not, rfl⟩⟩
  | lessOrEqual => exact Or.inr ⟨_, _, rfl, Or.inr ⟨lessThan, rfl⟩⟩
  | greaterOrEqual => exact Or.inr ⟨_, _, rfl, Or.inr ⟨greaterThan, rfl⟩⟩
  | plusPlus => exact Or.inr ⟨_, _, rfl, Or.inr ⟨plus, rfl⟩⟩
  | minusMinus => exact Or.inr ⟨_, _, rfl, Or.inr ⟨minus, rfl⟩⟩
  | and | or => exact Or.inr ⟨_, _, rfl, Or.inl rfl⟩
  | _ => exact Or.inl ⟨_, rfl, rfl⟩

theorem absorbs_eq_false_of_spelling_eq {m : Punctuation} {a b : Char} (h : m.spelling = [a, b])
    (c : Char) : m.absorbs c = false := by
  rw [Bool.eq_false_iff]
  intro habsorbs
  obtain ⟨n, hn⟩ := exists_spelling_of_absorbs habsorbs
  rw [h] at hn
  rcases n.spelling_cases with ⟨d, hd, -⟩ | ⟨d, e, hd, -⟩ <;> simp [hd] at hn

end Punctuation

namespace Lexeme

/-! ## Well-formed lexemes -/

/-- A letter, and then letters, digits and underscores. -/
def IsWord : List Char → Prop
  | [] => False
  | c :: cs => Text.isAlphabetic c ∧ ∀ d ∈ cs, isWordPart d

instance : DecidablePred IsWord
  | [] => inferInstanceAs (Decidable False)
  | _ :: _ => inferInstanceAs (Decidable (_ ∧ _))

/-- One digit or more. -/
def IsNumeral (digits : List Char) : Prop :=
  digits ≠ [] ∧ ∀ d ∈ digits, d.isDigit

instance : DecidablePred IsNumeral :=
  fun _ => inferInstanceAs (Decidable (_ ∧ _))

/-- A character that is no blank and begins no lexeme of another kind. The quotes and the marks that
are written twice begin one, even where it does not go on as it should. -/
def IsUnknown (c : Char) : Prop :=
  Text.isBlank c = false ∧ Text.isAlphabetic c = false ∧ c.isDigit = false ∧ c ≠ '"' ∧ c ≠ '\'' ∧
    ∀ m ∈ Punctuation.all, m.spelling.head? ≠ some c

instance : DecidablePred IsUnknown :=
  fun _ => inferInstanceAs (Decidable (_ ∧ _))

/-- The lexemes of the language. A numeral may have any value. -/
def WellFormed : Lexeme → Prop
  | keyword _ | character _ | mark _ => True
  | identifier name => IsWord name.toList ∧ Keyword.ofSpelling? name = none
  | numeral digits => IsNumeral digits.toList
  | stringLiteral contents => '"' ∉ contents.toList
  | unknown c => IsUnknown c

instance : DecidablePred WellFormed
  | keyword _ | character _ | mark _ => inferInstanceAs (Decidable True)
  | identifier _ => inferInstanceAs (Decidable (_ ∧ _))
  | numeral _ => inferInstanceAs (Decidable (IsNumeral _))
  | stringLiteral _ => inferInstanceAs (Decidable (¬ _))
  | unknown _ => inferInstanceAs (Decidable (IsUnknown _))

/-- The value of a numeral fits in a word. -/
def InRange : Lexeme → Prop
  | numeral digits => FitsWord (numeralValue digits.toList)
  | _ => True

instance : DecidablePred InRange
  | numeral _ => inferInstanceAs (Decidable (_ < _))
  | keyword _ | identifier _ | stringLiteral _ | character _ | mark _ | unknown _ =>
    inferInstanceAs (Decidable True)

/-- Whether a lexeme takes the character right after it in, and so is read as another one. -/
def absorbs : Lexeme → Char → Bool
  | keyword _, c | identifier _, c => isWordPart c
  | numeral _, c => c.isDigit
  | mark m, c => m.absorbs c
  | _, _ => false

/-! ## Words -/

theorem isWord_spelling (k : Keyword) : IsWord k.spelling.toList := by
  cases k <;> decide

theorem isWordPart_of_mem {w : List Char} (h : IsWord w) {c : Char} (hc : c ∈ w) :
    isWordPart c := by
  cases w with
  | nil => exact h.elim
  | cons d w =>
    rcases List.mem_cons.1 hc with rfl | hc
    · simp [isWordPart, h.1]
    · exact h.2 c hc

theorem isWord_append {w : List Char} (h : IsWord w) {c : Char} (hc : isWordPart c) :
    IsWord (w ++ [c]) := by
  cases w with
  | nil => exact h.elim
  | cons d w =>
    refine ⟨h.1, ?_⟩
    intro e he
    rcases List.mem_append.1 he with he | he
    · exact h.2 e he
    · rwa [List.mem_singleton.1 he]

theorem wellFormed_ofWord {w : List Char} (h : IsWord w) : (ofWord (String.ofList w)).WellFormed := by
  unfold ofWord
  split
  · trivial
  · next hnone => exact ⟨by simpa using h, hnone⟩

/-! ## Forms -/

/-- The shapes of lexemes that their first characters tell apart. -/
inductive Form where
  | word
  | numeral
  | stringLiteral
  | character
  | symbol
deriving DecidableEq

/-- The shape of the lexemes that begin with a character. -/
def Form.ofHead (c : Char) : Form :=
  if Text.isAlphabetic c then .word
  else if c.isDigit then .numeral
  else if c = '"' then .stringLiteral
  else if c = '\'' then .character
  else .symbol

def form : Lexeme → Form
  | keyword _ | identifier _ => .word
  | numeral _ => .numeral
  | stringLiteral _ => .stringLiteral
  | character _ => .character
  | mark _ | unknown _ => .symbol

theorem isAlphabetic_of_ofHead {c : Char} (h : Form.ofHead c = .word) : Text.isAlphabetic c := by
  unfold Form.ofHead at h
  grind

theorem isDigit_of_ofHead {c : Char} (h : Form.ofHead c = .numeral) : c.isDigit := by
  unfold Form.ofHead at h
  grind

theorem ofHead_eq_symbol_iff {c : Char} :
    Form.ofHead c = .symbol ↔
      Text.isAlphabetic c = false ∧ c.isDigit = false ∧ c ≠ '"' ∧ c ≠ '\'' := by
  unfold Form.ofHead
  grind

theorem ofHead_of_isDigit {c : Char} (h : c.isDigit) : Form.ofHead c = .numeral := by
  simp [Form.ofHead, Text.isAlphabetic_of_isDigit h, h]

theorem ofHead_of_isBlank {c : Char} (h : Text.isBlank c) : Form.ofHead c = .symbol := by
  have hstring : c ≠ '"' := by rintro rfl; cases h
  have hcharacter : c ≠ '\'' := by rintro rfl; cases h
  exact ofHead_eq_symbol_iff.2
    ⟨Text.isAlphabetic_of_isBlank h, Text.isDigit_of_isBlank h, hstring, hcharacter⟩

/-- No mark begins with a blank, a letter, a digit or a quote. -/
theorem head_of_mark {m : Punctuation} {c : Char} {cs : List Char} (h : m.spelling = c :: cs) :
    Text.isBlank c = false ∧ Form.ofHead c = .symbol := by
  have hall : Punctuation.all.all fun m =>
      m.spelling.head?.all fun c => !Text.isBlank c && Form.ofHead c = .symbol := by
    decide +kernel
  have hm := List.all_eq_true.1 hall m (Punctuation.mem_all m)
  rw [h] at hm
  simpa using hm

theorem ofHead_of_isUnknown {c : Char} (h : IsUnknown c) : Form.ofHead c = .symbol := by
  obtain ⟨-, hletter, hdigit, hstring, hcharacter, -⟩ := h
  exact ofHead_eq_symbol_iff.2 ⟨hletter, hdigit, hstring, hcharacter⟩

theorem isWord_of_form {l : Lexeme} (h : l.WellFormed) (hf : l.form = .word) :
    IsWord l.spelling := by
  cases l with
  | keyword k => exact isWord_spelling k
  | identifier name => exact h.1
  | _ => cases hf

/-- A well-formed word is what its spelling says. -/
theorem ofWord_spelling {l : Lexeme} (h : l.WellFormed) (hf : l.form = .word) :
    ofWord (String.ofList l.spelling) = l := by
  cases l with
  | keyword k => simp [ofWord, spelling, Keyword.ofSpelling?_eq_some_iff.2 rfl]
  | identifier name => simp [ofWord, spelling, h.2]
  | _ => cases hf

theorem absorbs_of_form {l : Lexeme} (hf : l.form = .word) (c : Char) :
    l.absorbs c = isWordPart c := by
  cases l with
  | keyword k => rfl
  | identifier name => rfl
  | _ => cases hf

theorem spelling_ne_nil {l : Lexeme} (h : l.WellFormed) : l.spelling ≠ [] := by
  cases l with
  | keyword k =>
    intro hnil
    exact (hnil ▸ isWord_spelling k : IsWord [])
  | identifier name =>
    intro hnil
    exact (hnil ▸ h.1 : IsWord [])
  | numeral digits => exact h.1
  | stringLiteral contents => exact List.cons_ne_nil _ _
  | character c => exact List.cons_ne_nil _ _
  | mark m => exact m.spelling_ne_nil
  | unknown c => exact List.cons_ne_nil _ _

/-- The first character tells what form a lexeme has. -/
theorem form_eq_ofHead {l : Lexeme} (h : l.WellFormed) {c : Char} {cs : List Char}
    (hs : l.spelling = c :: cs) : l.form = .ofHead c := by
  have hword : l.form = .word → Text.isAlphabetic c := by
    intro hf
    have hw := isWord_of_form h hf
    rw [hs] at hw
    exact hw.1
  cases l with
  | keyword k => simp [form, Form.ofHead, hword rfl]
  | identifier name => simp [form, Form.ofHead, hword rfl]
  | numeral digits => exact (ofHead_of_isDigit (h.2 c (by simp_all [spelling]))).symm
  | stringLiteral contents =>
    obtain ⟨rfl, -⟩ := List.cons.inj hs
    rfl
  | character d =>
    obtain ⟨rfl, -⟩ := List.cons.inj hs
    rfl
  | mark m => exact (head_of_mark hs).2.symm
  | unknown d =>
    obtain ⟨rfl, -⟩ := List.cons.inj hs
    exact (ofHead_of_isUnknown h).symm

/-- A lexeme does not begin with a blank. -/
theorem not_isBlank_of_spelling {l : Lexeme} (h : l.WellFormed) {c : Char} {cs : List Char}
    (hs : l.spelling = c :: cs) : Text.isBlank c = false := by
  rw [Bool.eq_false_iff]
  intro hblank
  have hform := (form_eq_ofHead h hs).trans (ofHead_of_isBlank hblank)
  cases l with
  | mark m => simp [(head_of_mark hs).1] at hblank
  | unknown d =>
    obtain ⟨rfl, -⟩ := List.cons.inj hs
    simp [h.1] at hblank
  | _ => cases hform

/-! ## One lexeme as the beginning of another -/

/-- Two lexemes of which one begins like the other have the same form. -/
theorem form_eq_of_prefix {k l : Lexeme} (hk : k.WellFormed) (hl : l.WellFormed) {more : List Char}
    (h : k.spelling ++ more = l.spelling) : k.form = l.form := by
  obtain ⟨c, cs, hc⟩ := List.exists_cons_of_ne_nil (spelling_ne_nil hk)
  rw [hc, List.cons_append] at h
  rw [form_eq_ofHead hk hc, form_eq_ofHead hl h.symm]

/-- A text is spelled by one lexeme at most. -/
theorem eq_of_spelling_eq {k l : Lexeme} (hk : k.WellFormed) (hl : l.WellFormed)
    (h : k.spelling = l.spelling) : k = l := by
  have hform := form_eq_of_prefix hk hl ((List.append_nil _).trans h)
  by_cases hword : l.form = .word
  · rw [← ofWord_spelling hk (hform.trans hword), h, ofWord_spelling hl hword]
  cases k with
  | keyword _ | identifier _ => exact absurd hform.symm hword
  | numeral s =>
    cases l with
    | numeral t => rw [String.toList_injective h]
    | _ => cases hform
  | stringLiteral s =>
    cases l with
    | stringLiteral t => rw [String.toList_injective (List.append_cancel_right (List.cons.inj h).2)]
    | _ => cases hform
  | character c =>
    cases l with
    | character d => rw [(List.cons.inj (List.cons.inj h).2).1]
    | _ => cases hform
  | mark m =>
    cases l with
    | mark n => rw [Punctuation.spelling_injective m n h]
    | unknown d => exact absurd (congrArg List.head? h) (hl.2.2.2.2.2 m m.mem_all)
    | _ => cases hform
  | unknown c =>
    cases l with
    | mark n => exact absurd (congrArg List.head? h.symm) (hk.2.2.2.2.2 n n.mem_all)
    | unknown d => rw [(List.cons.inj h).1]
    | _ => cases hform

/-- Where a lexeme is the beginning of another one, the next character is one that it absorbs. -/
theorem absorbs_of_spelling_eq {k l : Lexeme} (hk : k.WellFormed) (hl : l.WellFormed) {c : Char}
    {more : List Char} (h : k.spelling ++ c :: more = l.spelling) : k.absorbs c := by
  have hform := form_eq_of_prefix hk hl h
  have hmem : c ∈ l.spelling := by simp [← h]
  by_cases hword : l.form = .word
  · rw [absorbs_of_form (hform.trans hword)]
    exact isWordPart_of_mem (isWord_of_form hl hword) hmem
  cases k with
  | keyword _ | identifier _ => exact absurd hform.symm hword
  | numeral s =>
    cases l with
    | numeral t => exact hl.2 c hmem
    | _ => cases hform
  | stringLiteral s =>
    cases l with
    | stringLiteral t =>
      -- The closing quote of the shorter string would be inside the longer one.
      have hcontents : s.toList ++ '"' :: (c :: more).dropLast = t.toList := by
        have hlast := congrArg List.dropLast (List.cons.inj h).2
        simpa [List.dropLast_append_of_ne_nil] using hlast
      exact absurd (hcontents ▸ by simp) hl
    | _ => cases hform
  | character d =>
    cases l with
    | character e => simp [spelling] at h
    | _ => cases hform
  | mark m =>
    cases l with
    | mark n => exact Punctuation.absorbs_of_spelling_eq h
    | unknown d =>
      obtain ⟨a, as, ha⟩ := List.exists_cons_of_ne_nil m.spelling_ne_nil
      simp [spelling, ha] at h
    | _ => cases hform
  | unknown d =>
    cases l with
    | mark n => exact absurd (congrArg List.head? h.symm) (hk.2.2.2.2.2 n n.mem_all)
    | unknown e => simp [spelling] at h
    | _ => cases hform

/-- A lexeme and a character that it absorbs are the beginning of a longer lexeme. -/
theorem exists_spelling_of_absorbs {k : Lexeme} (hk : k.WellFormed) {c : Char}
    (h : k.absorbs c) : ∃ l : Lexeme, l.WellFormed ∧ l.spelling = k.spelling ++ [c] := by
  by_cases hword : k.form = .word
  · have hlonger := isWord_append (isWord_of_form hk hword) (absorbs_of_form hword c ▸ h)
    exact ⟨_, wellFormed_ofWord hlonger, by simp [spelling_ofWord]⟩
  cases k with
  | keyword _ | identifier _ => exact absurd rfl hword
  | numeral digits =>
    refine ⟨numeral (digits.push c), ⟨by simp, ?_⟩, by simp [spelling]⟩
    intro d hd
    rw [String.toList_push] at hd
    rcases List.mem_append.1 hd with hd | hd
    · exact hk.2 d hd
    · rwa [List.mem_singleton.1 hd]
  | mark m =>
    obtain ⟨n, hn⟩ := Punctuation.exists_spelling_of_absorbs h
    exact ⟨mark n, trivial, hn⟩
  | stringLiteral _ | character _ | unknown _ => cases h

end Lexeme

end BlockLang
