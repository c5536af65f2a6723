-- SUMMARY: Reading takes the longest lexeme that a text starts with.
import BlockLang.Lexeme.Read
import BlockLang.Proofs.Lexeme.Grammar
import Mathlib.Tactic.ByContra
import Mathlib.Tactic.Push

namespace BlockLang.Lexeme

/-!
# The longest lexeme

A lexeme at the start of a text is the longest one there exactly if the character after it is none
that it absorbs. Reading finds this lexeme: `read_eq_lexeme_iff`.
-/

/-- `l` is a lexeme that `text` starts with, and `text` starts with no longer one. -/
structure IsLongest (l : Lexeme) (text : List Char) : Prop where
  wellFormed : l.WellFormed
  starts : l.spelling <+: text
  longest : ∀ k : Lexeme, k.WellFormed → k.spelling <+: text → k.spelling.length ≤ l.spelling.length

/-- What comes after a lexeme is not absorbed by it. -/
def EndsBefore (l : Lexeme) (rest : List Char) : Prop :=
  ∀ c ∈ rest.head?, l.absorbs c = false

theorem isLongest_append_iff {l : Lexeme} (hl : l.WellFormed) {rest : List Char} :
    l.IsLongest (l.spelling ++ rest) ↔ l.EndsBefore rest := by
  constructor
  · intro h c hc
    rw [Bool.eq_false_iff]
    intro habsorbs
    obtain ⟨k, hk, hspelling⟩ := exists_spelling_of_absorbs hl habsorbs
    obtain ⟨more, rfl⟩ : ∃ more, rest = c :: more := List.head?_eq_some_iff.1 hc
    have hstarts : k.spelling <+: l.spelling ++ c :: more := ⟨more, by simp [hspelling]⟩
    have hlength := h.longest k hk hstarts
    rw [hspelling, List.length_append] at hlength
    exact absurd hlength (Nat.not_succ_le_self _)
  · intro h
    refine ⟨hl, List.prefix_append _ _, ?_⟩
    intro k hk hstarts
    by_contra hlonger
    -- A longer lexeme would begin with `l` and the first character of `rest`.
    obtain ⟨more, hmore⟩ :=
      List.prefix_of_prefix_length_le (List.prefix_append _ _) hstarts (Nat.le_of_not_le hlonger)
    cases more with
    | nil => simp [← hmore] at hlonger
    | cons c more =>
      have habsorbs := absorbs_of_spelling_eq hl hk hmore
      rw [← hmore, List.prefix_append_right_inj] at hstarts
      obtain ⟨others, rfl⟩ := hstarts
      simp [h c rfl] at habsorbs

theorem IsLongest.unique {k l : Lexeme} {text : List Char} (hk : k.IsLongest text)
    (hl : l.IsLongest text) : k = l := by
  have hlength := Nat.le_antisymm (hl.longest k hk.wellFormed hk.starts)
    (hk.longest l hl.wellFormed hl.starts)
  have hstarts := List.prefix_of_prefix_length_le hk.starts hl.starts (Nat.le_of_eq hlength)
  exact eq_of_spelling_eq hk.wellFormed hl.wellFormed (hstarts.eq_of_length hlength)

theorem exists_isLongest {k : Lexeme} {text : List Char} (hk : k.WellFormed)
    (hstarts : k.spelling <+: text) : ∃ l : Lexeme, l.IsLongest text := by
  by_cases hlongest : ∀ l : Lexeme, l.WellFormed → l.spelling <+: text →
      l.spelling.length ≤ k.spelling.length
  · exact ⟨k, hk, hstarts, hlongest⟩
  · push Not at hlongest
    obtain ⟨l, hl, hstarts', hlonger⟩ := hlongest
    have hlength := hstarts'.length_le
    exact exists_isLongest hl hstarts'
termination_by text.length - k.spelling.length

/-! ## A lexeme that is spelled is read -/

/-- The first character decides what is read. -/
theorem read_cons (c : Char) (text : List Char) :
    read (c :: text) = match Form.ofHead c with
      | .word => readWord (c :: text)
      | .numeral => readNumeral (c :: text)
      | .stringLiteral => readString text
      | .character => readCharacter text
      | .symbol => readMark c text := by
  simp only [read, Form.ofHead]
  split
  · rfl
  split
  · rfl
  split
  · rfl
  split
  · rfl
  · rfl

theorem doubleMark?_eq_some_iff {c : Char} {text : List Char} {m : Punctuation} :
    doubleMark? c text = some m ↔ ∃ d, text.head? = some d ∧ m.spelling = [c, d] := by
  simp [doubleMark?, Option.bind_eq_some_iff, Punctuation.ofSpelling?_eq_some_iff]

theorem readMark_of_spelling {m : Punctuation} {c : Char} {text rest : List Char}
    (h : m.spelling ++ rest = c :: text) (hends : (mark m).EndsBefore rest) :
    readMark c text = .lexeme (mark m) rest := by
  rcases m.spelling_cases with ⟨a, ha, hsingle⟩ | ⟨a, b, hab, -⟩
  · rw [ha] at h
    obtain ⟨rfl, rfl⟩ := List.cons.inj h
    have hdouble : doubleMark? a rest = none := by
      rw [Option.eq_none_iff_forall_ne_some]
      intro n hn
      obtain ⟨d, hd, hspelling⟩ := doubleMark?_eq_some_iff.1 hn
      have hlonger : m.spelling ++ d :: [] = n.spelling := by rw [ha, hspelling]; rfl
      have hstays : m.absorbs d = false := hends d hd
      simp [Punctuation.absorbs_of_spelling_eq hlonger] at hstays
    simp [readMark, hdouble, hsingle, Punctuation.ofSpelling?_eq_some_iff.2 ha]
  · rw [hab] at h
    obtain ⟨rfl, rfl⟩ := List.cons.inj h
    have hdouble : doubleMark? a (b :: rest) = some m := doubleMark?_eq_some_iff.2 ⟨b, rfl, hab⟩
    simp [readMark, hdouble]

theorem readMark_of_isUnknown {c : Char} (h : IsUnknown c) (rest : List Char) :
    readMark c rest = .lexeme (unknown c) rest := by
  have hmark : ∀ (m : Punctuation) (cs : List Char), m.spelling ≠ c :: cs := by
    intro m cs hm
    exact h.2.2.2.2.2 m m.mem_all (congrArg List.head? hm)
  have hdouble : doubleMark? c rest = none := by
    rw [Option.eq_none_iff_forall_ne_some]
    intro m hm
    obtain ⟨d, -, hspelling⟩ := doubleMark?_eq_some_iff.1 hm
    exact hmark m _ hspelling
  have hsingle : Punctuation.ofSpelling? [c] = none := by
    rw [Option.eq_none_iff_forall_ne_some]
    intro m hm
    exact hmark m _ (Punctuation.ofSpelling?_eq_some_iff.1 hm)
  have hdoubled : Punctuation.isDoubledOnly c = false := by
    rw [Bool.eq_false_iff]
    intro hc
    simp only [Punctuation.isDoubledOnly, Bool.or_eq_true, beq_iff_eq] at hc
    rcases hc with rfl | rfl
    · exact hmark .and ['&'] rfl
    · exact hmark .or ['|'] rfl
  simp [readMark, hdouble, hsingle, hdoubled]

/-- The value of a numeral decides whether it is read. -/
theorem read_numeral_append {digits : String} (hl : (numeral digits).WellFormed) {rest : List Char}
    (hends : (numeral digits).EndsBefore rest) :
    read (digits.toList ++ rest) =
      if FitsWord (numeralValue digits.toList) then .lexeme (.numeral digits) rest
      else .fault (.numeralOutOfRange digits) digits.toList rest := by
  obtain ⟨c, cs, hc⟩ := List.exists_cons_of_ne_nil hl.1
  have hread := read_cons c (cs ++ rest)
  have hform : Form.numeral = .ofHead c := form_eq_ofHead hl hc
  rw [← hform, ← List.cons_append, ← hc] at hread
  have hsplits : Text.Splits Char.isDigit (digits.toList ++ rest) digits.toList rest :=
    ⟨rfl, hl.2, hends⟩
  simp only [hread, readNumeral, hsplits.takeWhile_eq, hsplits.dropWhile_eq, String.ofList_toList]

/-- A lexeme is read wherever it is written, unless it absorbs what comes next. -/
theorem read_append {l : Lexeme} (hl : l.WellFormed) (hrange : l.InRange) {rest : List Char}
    (hends : l.EndsBefore rest) : read (l.spelling ++ rest) = .lexeme l rest := by
  obtain ⟨c, cs, hc⟩ := List.exists_cons_of_ne_nil (spelling_ne_nil hl)
  have hread := read_cons c (cs ++ rest)
  rw [← form_eq_ofHead hl hc, ← List.cons_append, ← hc] at hread
  by_cases hword : l.form = .word
  · have hsplits : Text.Splits isWordPart (l.spelling ++ rest) l.spelling rest :=
      ⟨rfl, fun d => isWordPart_of_mem (isWord_of_form hl hword),
        fun d hd => absorbs_of_form hword d ▸ hends d hd⟩
    rw [hread, hword]
    simp only [readWord, hsplits.takeWhile_eq, hsplits.dropWhile_eq, ofWord_spelling hl hword]
  cases l with
  | keyword _ | identifier _ => exact absurd rfl hword
  | numeral digits => exact (read_numeral_append hl hends).trans (if_pos hrange)
  | stringLiteral contents =>
    have hsplits : Text.Splits (· != '"') (contents.toList ++ '"' :: rest) contents.toList
        ('"' :: rest) := by
      refine ⟨rfl, ?_, by simp⟩
      intro d hd
      simp only [bne_iff_ne, ne_eq]
      rintro rfl
      exact hl hd
    obtain ⟨rfl, rfl⟩ := List.cons.inj hc
    simp [hread, form, readString, hsplits.takeWhile_eq, hsplits.dropWhile_eq]
  | character d =>
    obtain ⟨rfl, rfl⟩ := List.cons.inj hc
    simp [hread, form, readCharacter]
  | mark m =>
    rw [hread]
    exact readMark_of_spelling (by rw [← List.cons_append, ← hc]; rfl) hends
  | unknown d =>
    obtain ⟨rfl, rfl⟩ := List.cons.inj hc
    rw [hread]
    exact readMark_of_isUnknown hl rest

/-! ## What is read is the longest lexeme -/

/-- `l` is a lexeme with a value that fits in a word, and the text goes on without it. -/
structure IsReadable (l : Lexeme) (rest : List Char) : Prop where
  wellFormed : l.WellFormed
  inRange : l.InRange
  ends : l.EndsBefore rest

theorem isReadable_of_readWord {c : Char} {text rest : List Char} {l : Lexeme}
    (hc : Text.isAlphabetic c) (h : readWord (c :: text) = .lexeme l rest) : l.IsReadable rest := by
  have hsplits := Text.splits_while isWordPart (c :: text)
  have hpart : isWordPart c := by simp [isWordPart, hc]
  have hword : IsWord ((c :: text).takeWhile isWordPart) := by
    rw [List.takeWhile_cons_of_pos hpart]
    refine ⟨hc, ?_⟩
    intro d hd
    exact List.all_eq_true.1 List.all_takeWhile d hd
  obtain ⟨rfl, rfl⟩ := Reading.lexeme.inj h
  refine ⟨wellFormed_ofWord hword, ?_, ?_⟩
  · unfold ofWord
    split <;> trivial
  · intro d hd
    have hform : (ofWord (String.ofList ((c :: text).takeWhile isWordPart))).form = .word := by
      unfold ofWord
      split <;> rfl
    rw [absorbs_of_form hform]
    exact hsplits.stops d hd

theorem isReadable_of_readNumeral {c : Char} {text rest : List Char} {l : Lexeme}
    (hc : c.isDigit) (h : readNumeral (c :: text) = .lexeme l rest) : l.IsReadable rest := by
  have hsplits := Text.splits_while Char.isDigit (c :: text)
  simp only [readNumeral] at h
  split at h
  · next hvalue =>
    obtain ⟨rfl, rfl⟩ := Reading.lexeme.inj h
    refine ⟨⟨?_, ?_⟩, ?_, hsplits.stops⟩
    · simp [hc]
    · simpa using hsplits.inside
    · simpa [InRange] using hvalue
  · cases h

theorem isReadable_of_readString {text rest : List Char} {l : Lexeme}
    (h : readString text = .lexeme l rest) : l.IsReadable rest := by
  have hsplits := Text.splits_while (· != '"') text
  simp only [readString] at h
  split at h
  · cases h
  · obtain ⟨rfl, rfl⟩ := Reading.lexeme.inj h
    refine ⟨?_, trivial, fun _ _ => rfl⟩
    intro hquote
    rw [String.toList_ofList] at hquote
    simpa using hsplits.inside _ hquote

theorem isReadable_of_readCharacter {text rest : List Char} {l : Lexeme}
    (h : readCharacter text = .lexeme l rest) : l.IsReadable rest := by
  rcases text with _ | ⟨c, _ | ⟨d, text⟩⟩
  · cases h
  · cases h
  · simp only [readCharacter] at h
    split at h
    · obtain ⟨rfl, rfl⟩ := Reading.lexeme.inj h
      exact ⟨trivial, trivial, fun _ _ => rfl⟩
    · cases h

/-- A character that is read as unknown begins no mark. -/
theorem isUnknown_of_ofSpelling?_eq_none {c : Char} (hblank : Text.isBlank c = false)
    (hhead : Form.ofHead c = .symbol) (hdoubled : Punctuation.isDoubledOnly c = false)
    (hsingle : Punctuation.ofSpelling? [c] = none) : IsUnknown c := by
  have hnone : ∀ n : Punctuation, n.spelling ≠ [c] := by
    intro n hn
    rw [Punctuation.ofSpelling?_eq_some_iff.2 hn] at hsingle
    cases hsingle
  have hmark : ∀ m ∈ Punctuation.all, m.spelling.head? ≠ some c := by
    intro m _ hm
    rcases m.spelling_cases with ⟨a, ha, -⟩ | ⟨a, b, hab, hfirst⟩
    · rw [ha] at hm
      obtain rfl := Option.some.inj hm
      exact hnone m ha
    · rw [hab] at hm
      obtain rfl := Option.some.inj hm
      rcases hfirst with hfirst | ⟨n, hn⟩
      · simp [hfirst] at hdoubled
      · exact hnone n hn
  obtain ⟨hletter, hdigit, hstring, hcharacter⟩ := ofHead_eq_symbol_iff.1 hhead
  exact ⟨hblank, hletter, hdigit, hstring, hcharacter, hmark⟩

theorem isReadable_of_readMark {c : Char} {text rest : List Char} {l : Lexeme}
    (hblank : Text.isBlank c = false) (hhead : Form.ofHead c = .symbol)
    (h : readMark c text = .lexeme l rest) : l.IsReadable rest := by
  simp only [readMark] at h
  split at h
  · next m hm =>
    obtain ⟨d, -, hspelling⟩ := doubleMark?_eq_some_iff.1 hm
    obtain ⟨rfl, rfl⟩ := Reading.lexeme.inj h
    exact ⟨trivial, trivial, fun d _ => Punctuation.absorbs_eq_false_of_spelling_eq hspelling d⟩
  next hdouble =>
  split at h
  · cases h
  next hdoubled =>
  split at h
  · next m hm =>
    obtain ⟨rfl, rfl⟩ := Reading.lexeme.inj h
    refine ⟨trivial, trivial, ?_⟩
    intro d hd
    rw [Bool.eq_false_iff]
    intro habsorbs
    obtain ⟨n, hn⟩ := Punctuation.exists_spelling_of_absorbs habsorbs
    rw [Punctuation.ofSpelling?_eq_some_iff.1 hm] at hn
    simp [doubleMark?_eq_some_iff.2 ⟨d, hd, hn⟩] at hdouble
  · next hsingle =>
    obtain ⟨rfl, rfl⟩ := Reading.lexeme.inj h
    exact ⟨isUnknown_of_ofSpelling?_eq_none hblank hhead (by simpa using hdoubled) hsingle, trivial,
      fun _ _ => rfl⟩

theorem isReadable_of_read {text rest : List Char} {l : Lexeme}
    (hblank : ∀ c ∈ text.head?, Text.isBlank c = false) (h : read text = .lexeme l rest) :
    l.IsReadable rest := by
  cases text with
  | nil => cases h
  | cons c text =>
    rw [read_cons] at h
    cases hhead : Form.ofHead c with
    | word =>
      exact isReadable_of_readWord (isAlphabetic_of_ofHead hhead) (by simpa [hhead] using h)
    | numeral =>
      exact isReadable_of_readNumeral (isDigit_of_ofHead hhead) (by simpa [hhead] using h)
    | stringLiteral => exact isReadable_of_readString (by simpa [hhead] using h)
    | character => exact isReadable_of_readCharacter (by simpa [hhead] using h)
    | symbol => exact isReadable_of_readMark (hblank c rfl) hhead (by simpa [hhead] using h)

theorem read_ne_nothing (c : Char) (text : List Char) : read (c :: text) ≠ .nothing := by
  rw [read_cons]
  cases Form.ofHead c with
  | word => simp [readWord]
  | numeral =>
    simp only [readNumeral]
    split <;> simp
  | stringLiteral =>
    simp only [readString]
    split <;> simp
  | character =>
    rcases text with _ | ⟨d, _ | ⟨e, text⟩⟩
    · simp [readCharacter]
    · simp [readCharacter]
    · simp only [readCharacter]
      split <;> simp
  | symbol =>
    simp only [readMark]
    repeat' split
    all_goals simp

/-- Reading takes the longest lexeme, provided that its value fits in a word. -/
theorem read_eq_lexeme_iff {text rest : List Char} {l : Lexeme}
    (hblank : ∀ c ∈ text.head?, Text.isBlank c = false) :
    read text = .lexeme l rest ↔ l.IsLongest text ∧ l.InRange ∧ l.spelling ++ rest = text := by
  constructor
  · intro h
    have hreadable := isReadable_of_read hblank h
    have htext := spelling_append_of_read h
    refine ⟨?_, hreadable.inRange, htext⟩
    rw [← htext]
    exact (isLongest_append_iff hreadable.wellFormed).2 hreadable.ends
  · rintro ⟨hlongest, hrange, rfl⟩
    have hl := hlongest.wellFormed
    exact read_append hl hrange ((isLongest_append_iff hl).1 hlongest)

end BlockLang.Lexeme
