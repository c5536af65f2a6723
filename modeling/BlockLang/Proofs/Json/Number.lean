-- SUMMARY: Numbers of a document: where one ends, and the grammar of what is read as one.
import BlockLang.Json.Token
import BlockLang.Proofs.Text.Classes

namespace BlockLang.Json

/-!
# Numbers

A number goes on for as long as it can. So one that is written is read again only if nothing comes
behind it that goes on with a number (`Stops`), and then it is read whole: `number_settles`. The
grammar of numbers says what is written and not how it is read, and all of it is read as a number:
`isNumber_of_isNumeral`.
-/

/-! ## The end of a number -/

/-- Whether a character may go on with a number. -/
def isNumberPart (c : Char) : Bool :=
  c.isDigit || c == '.' || c == 'e' || c == 'E' || c == '+' || c == '-'

/-- A text does not go on with a number. -/
def Stops (text : List Char) : Prop :=
  ∀ c ∈ text.head?, isNumberPart c = false

theorem stops_nil : Stops [] := nofun

theorem stops_cons {c : Char} (h : isNumberPart c = false) (text : List Char) : Stops (c :: text) := by
  rintro _ ⟨⟩
  exact h

theorem Stops.append {s t : List Char} (hs : Stops s) (ht : Stops t) : Stops (s ++ t) := by
  cases s with
  | nil => exact ht
  | cons c s => exact stops_cons (hs c rfl) _

theorem stops_spaces {spaces : List Char} (h : ∀ c ∈ spaces, isSpace c) : Stops spaces := by
  intro c hc
  have hspace := h c (List.mem_of_mem_head? hc)
  simp only [isSpace, Bool.or_eq_true, beq_iff_eq] at hspace
  rcases hspace with ((rfl | rfl) | rfl) | rfl <;> rfl

theorem Stops.isDigit {text : List Char} (h : Stops text) : ∀ c ∈ text.head?, c.isDigit = false := by
  intro c hc
  have hpart := h c hc
  simp only [isNumberPart, Bool.or_eq_false_iff] at hpart
  exact hpart.1.1.1.1.1

namespace Scanner

/-- What is taken stays the same with more text behind it. Where nothing is left, that text must not
go on with a number. -/
structure Settles (p : Scanner) : Prop where
  append : ∀ {text taken left more : List Char}, p text = some (taken, left) →
    (left = [] → Stops more) → p (text ++ more) = some (taken, left ++ more)

theorem digits_settles : Settles digits := by
  constructor
  intro text taken left more h hmore
  cases text with
  | nil => cases h
  | cons c text =>
    simp only [digits] at h
    split at h
    · next hc =>
      obtain ⟨rfl, rfl⟩ := Prod.mk.inj (Option.some.inj h)
      have hsplits := Text.splits_while Char.isDigit text
      have hlonger : Text.Splits Char.isDigit (text ++ more) (text.takeWhile Char.isDigit)
          (text.dropWhile Char.isDigit ++ more) := by
        refine ⟨by rw [← List.append_assoc, hsplits.append], hsplits.inside, ?_⟩
        have hstops := hsplits.stops
        cases hleft : text.dropWhile Char.isDigit with
        | nil => exact (hmore hleft).isDigit
        | cons d left =>
          rw [hleft] at hstops
          exact hstops
      simp [digits, hc, hlonger.takeWhile_eq, hlonger.dropWhile_eq]
    · cases h

theorem whole_settles : Settles whole := by
  constructor
  intro text taken left more h hmore
  cases text with
  | nil => cases h
  | cons c text =>
    simp only [whole, List.cons_append] at h ⊢
    split at h
    · next hc =>
      cases h
      rw [if_pos hc]
    · next hc =>
      rw [if_neg hc]
      exact digits_settles.append h hmore

theorem nothing_settles : Settles nothing := by
  constructor
  intro text taken left more h _
  cases h
  rfl

theorem introduced_settles {cs : List Char} (hcs : ∀ c ∈ cs, isNumberPart c) {p : Scanner}
    (hp : Settles p) : Settles (introduced cs p) := by
  constructor
  intro text taken left more h hmore
  cases text with
  | nil =>
    cases h
    cases more with
    | nil => rfl
    | cons c more =>
      have hc : c ∉ cs := by
        intro hmem
        simpa [hcs c hmem] using hmore rfl c rfl
      simp [introduced, hc]
  | cons c text =>
    simp only [introduced, List.cons_append] at h ⊢
    split at h
    · next hc =>
      obtain ⟨⟨taken', left'⟩, htaken, heq⟩ := Option.map_eq_some_iff.1 h
      obtain ⟨rfl, rfl⟩ := Prod.mk.inj heq
      rw [if_pos hc, hp.append htaken hmore]
      rfl
    · next hc =>
      cases h
      rw [if_neg hc]
      rfl

theorem andThen_settles {p q : Scanner} (hp : Settles p) (hq : Settles q) (hfaithful : Faithful q) :
    Settles (p.andThen q) := by
  constructor
  intro text taken left more h hmore
  obtain ⟨first, middle, second, hfirst, hsecond, rfl⟩ := andThen_eq_some h
  have hmiddle : middle = [] → Stops more := by
    rintro rfl
    exact hmore (List.append_eq_nil_iff.1 (hfaithful hsecond)).2
  simp [andThen, hp.append hfirst hmiddle, hq.append hsecond hmore]

/-- The exponent of a number, which may be left out. -/
def exponent : Scanner :=
  introduced ['e', 'E'] ((introduced ['+', '-'] nothing).andThen digits)

/-- The fraction and the exponent of a number, which may be left out. -/
def fraction : Scanner :=
  (introduced ['.'] digits).andThen exponent

theorem exponent_faithful : Faithful exponent :=
  introduced_faithful _ (andThen_faithful (introduced_faithful _ nothing_faithful) digits_faithful)

theorem fraction_faithful : Faithful fraction :=
  andThen_faithful (introduced_faithful _ digits_faithful) exponent_faithful

theorem exponent_settles : Settles exponent := by
  have hsign : Settles (introduced ['+', '-'] nothing) :=
    introduced_settles (by decide) nothing_settles
  exact introduced_settles (by decide) (andThen_settles hsign digits_settles digits_faithful)

theorem fraction_settles : Settles fraction := by
  have hdigits : Settles (introduced ['.'] digits) := introduced_settles (by decide) digits_settles
  exact andThen_settles hdigits exponent_settles exponent_faithful

theorem number_settles : Settles number := by
  have hsign : Settles (introduced ['-'] nothing) := introduced_settles (by decide) nothing_settles
  exact andThen_settles hsign (andThen_settles whole_settles fraction_settles fraction_faithful)
    (andThen_faithful whole_faithful fraction_faithful)

end Scanner

/-! ## Literals -/

/-- A literal is a number from its first to its last character. -/
def IsNumber (literal : String) : Prop :=
  Scanner.number literal.toList = some (literal.toList, [])

/-! ## The grammar of numbers -/

/-- Decimal digits, at least one. -/
def IsDigits (text : List Char) : Prop :=
  text ≠ [] ∧ ∀ c ∈ text, c.isDigit

/-- A whole number, without needless zeros in front. -/
def IsWhole (text : List Char) : Prop :=
  text = ['0'] ∨ IsDigits text ∧ text.head? ≠ some '0'

/-- Digits behind a point, or nothing. -/
def IsFraction (text : List Char) : Prop :=
  text = [] ∨ ∃ digits, IsDigits digits ∧ text = '.' :: digits

/-- A power of ten, or nothing. -/
def IsExponent (text : List Char) : Prop :=
  text = [] ∨ ∃ mark sign digits, mark ∈ ['e', 'E'] ∧ sign ∈ [[], ['+'], ['-']] ∧ IsDigits digits ∧
    text = mark :: (sign ++ digits)

/-- The text of a number. -/
inductive IsNumeral : List Char → Prop
  | mk {sign whole fraction exponent : List Char} (hsign : sign ∈ [[], ['-']])
      (hwhole : IsWhole whole) (hfraction : IsFraction fraction) (hexponent : IsExponent exponent) :
      IsNumeral (sign ++ (whole ++ (fraction ++ exponent)))

namespace Scanner

theorem introduced_of_not_mem {cs text : List Char} (p : Scanner) (h : ∀ c ∈ text.head?, c ∉ cs) :
    introduced cs p text = some ([], text) := by
  cases text with
  | nil => rfl
  | cons c text => rw [introduced, if_neg (h c rfl)]

theorem introduced_of_mem {cs text taken rest : List Char} {p : Scanner} {c : Char} (hc : c ∈ cs)
    (h : p text = some (taken, rest)) : introduced cs p (c :: text) = some (c :: taken, rest) := by
  rw [introduced, if_pos hc, h, Option.map_some]

theorem andThen_of_eq_some {p q : Scanner} {text first middle second rest : List Char}
    (hp : p text = some (first, middle)) (hq : q middle = some (second, rest)) :
    p.andThen q text = some (first ++ second, rest) := by
  simp [andThen, hp, hq]

end Scanner

/-- Digits are read up to the first character that is none. -/
theorem IsDigits.scan {text : List Char} (h : IsDigits text) {rest : List Char}
    (hrest : ∀ c ∈ rest.head?, c.isDigit = false) :
    Scanner.digits (text ++ rest) = some (text, rest) := by
  obtain ⟨c, text, rfl⟩ := List.exists_cons_of_ne_nil h.1
  obtain ⟨hc, htext⟩ := List.forall_mem_cons.1 h.2
  have hsplits : Text.Splits Char.isDigit (text ++ rest) text rest := ⟨rfl, htext, hrest⟩
  simp [Scanner.digits, hc, hsplits.takeWhile_eq, hsplits.dropWhile_eq]

theorem IsDigits.head?_isDigit {text : List Char} (h : IsDigits text) (rest : List Char) :
    ∀ c ∈ (text ++ rest).head?, c.isDigit := by
  obtain ⟨c, text, rfl⟩ := List.exists_cons_of_ne_nil h.1
  rintro _ ⟨⟩
  exact h.2 c List.mem_cons_self

theorem IsWhole.scan {text : List Char} (h : IsWhole text) {rest : List Char}
    (hrest : ∀ c ∈ rest.head?, c.isDigit = false) :
    Scanner.whole (text ++ rest) = some (text, rest) := by
  rcases h with rfl | ⟨hdigits, hzero⟩
  · rfl
  · have hscan := hdigits.scan hrest
    obtain ⟨c, text, rfl⟩ := List.exists_cons_of_ne_nil hdigits.1
    have hc : c ≠ '0' := by simpa using hzero
    rwa [List.cons_append, Scanner.whole, if_neg hc]

theorem IsWhole.head?_isDigit {text : List Char} (h : IsWhole text) (rest : List Char) :
    ∀ c ∈ (text ++ rest).head?, c.isDigit := by
  rcases h with rfl | ⟨hdigits, -⟩
  · rintro _ ⟨⟩
    rfl
  · exact hdigits.head?_isDigit rest

theorem IsExponent.scan {text : List Char} (h : IsExponent text) :
    Scanner.exponent text = some (text, []) := by
  rcases h with rfl | ⟨mark, sign, digits, hmark, hsign, hdigits, rfl⟩
  · rfl
  · apply Scanner.introduced_of_mem hmark
    have hscan : Scanner.digits (digits ++ []) = some (digits, []) := hdigits.scan nofun
    rw [List.append_nil] at hscan
    refine Scanner.andThen_of_eq_some ?_ hscan
    simp only [List.mem_cons, List.not_mem_nil, or_false] at hsign
    rcases hsign with rfl | rfl | rfl
    · apply Scanner.introduced_of_not_mem
      intro c hc
      have hdigit := hdigits.head?_isDigit [] c (by simpa using hc)
      simp only [List.mem_cons, List.not_mem_nil, or_false, not_or]
      constructor <;> rintro rfl <;> cases hdigit
    · exact Scanner.introduced_of_mem (by decide) rfl
    · exact Scanner.introduced_of_mem (by decide) rfl

/-- An exponent begins with its mark. -/
theorem IsExponent.head? {text : List Char} (h : IsExponent text) :
    ∀ c ∈ text.head?, c ∈ ['e', 'E'] := by
  rcases h with rfl | ⟨mark, sign, digits, hmark, -, -, rfl⟩
  · nofun
  · rintro _ ⟨⟩
    exact hmark

theorem IsFraction.scan {text exponent : List Char} (h : IsFraction text)
    (hexponent : IsExponent exponent) :
    Scanner.fraction (text ++ exponent) = some (text ++ exponent, []) := by
  have hmarks : ∀ c ∈ ['e', 'E'], c ∉ ['.'] ∧ c.isDigit = false := by decide
  refine Scanner.andThen_of_eq_some ?_ hexponent.scan
  rcases h with rfl | ⟨digits, hdigits, rfl⟩
  · exact Scanner.introduced_of_not_mem _ fun c hc => (hmarks c (hexponent.head? c hc)).1
  · apply Scanner.introduced_of_mem (by decide)
    exact hdigits.scan fun c hc => (hmarks c (hexponent.head? c hc)).2

theorem IsFraction.head?_not_isDigit {text exponent : List Char} (h : IsFraction text)
    (hexponent : IsExponent exponent) : ∀ c ∈ (text ++ exponent).head?, c.isDigit = false := by
  rcases h with rfl | ⟨digits, -, rfl⟩
  · have hmarks : ∀ c ∈ ['e', 'E'], c.isDigit = false := by decide
    exact fun c hc => hmarks c (hexponent.head? c hc)
  · rintro _ ⟨⟩
    rfl

/-- The text of a number is read as a number to its end. -/
theorem isNumber_of_isNumeral {literal : String} (h : IsNumeral literal.toList) :
    IsNumber literal := by
  unfold IsNumber
  generalize literal.toList = text at h ⊢
  obtain ⟨hsign, hwhole, hfraction, hexponent⟩ := h
  next sign whole fraction exponent =>
    have hunsigned : (Scanner.whole.andThen Scanner.fraction) (whole ++ (fraction ++ exponent)) =
        some (whole ++ (fraction ++ exponent), []) :=
      Scanner.andThen_of_eq_some (hwhole.scan (hfraction.head?_not_isDigit hexponent))
        (hfraction.scan hexponent)
    refine Scanner.andThen_of_eq_some ?_ hunsigned
    simp only [List.mem_cons, List.not_mem_nil, or_false] at hsign
    rcases hsign with rfl | rfl
    · apply Scanner.introduced_of_not_mem
      intro c hc
      have hdigit := hwhole.head?_isDigit _ c hc
      simp only [List.mem_singleton]
      rintro rfl
      cases hdigit
    · exact Scanner.introduced_of_mem (by decide) rfl

/-! ## Decimal digits -/

/-- The decimal digits of a positive number do not begin with a zero. -/
theorem head?_toDigits_ne {n : Nat} (hn : 0 < n) : (Nat.toDigits 10 n).head? ≠ some '0' := by
  induction n using Nat.strongRecOn with
  | ind n ih =>
    rw [Nat.toDigits_eq_if (by decide)]
    split
    · simpa using Nat.pos_iff_ne_zero.1 hn
    · next hlarge =>
      have hpos : 0 < n / 10 := Nat.div_pos (Nat.le_of_not_lt hlarge) (by decide)
      have hhead := ih (n / 10) (Nat.div_lt_self hn (by decide)) hpos
      cases hdigits : Nat.toDigits 10 (n / 10) with
      | nil => exact absurd hdigits Nat.toDigits_ne_nil
      | cons c cs => simpa [hdigits] using hhead

theorem isNumeral_toDigits (n : Nat) : IsNumeral (Nat.toDigits 10 n) := by
  have hdigits : IsDigits (Nat.toDigits 10 n) :=
    ⟨Nat.toDigits_ne_nil, fun _ hc => Nat.isDigit_of_mem_toDigits (by decide) (by decide) hc⟩
  have hwhole : IsWhole (Nat.toDigits 10 n) := by
    cases Nat.eq_zero_or_pos n with
    | inl hzero => exact .inl (hzero ▸ Nat.toDigits_zero 10)
    | inr hpos => exact .inr ⟨hdigits, head?_toDigits_ne hpos⟩
  have hnumeral : IsNumeral ([] ++ (Nat.toDigits 10 n ++ ([] ++ []))) :=
    .mk (.head _) hwhole (.inl rfl) (.inl rfl)
  rwa [List.nil_append, List.append_nil, List.append_nil] at hnumeral

theorem isNumber_toString (n : Nat) : IsNumber (toString n) := by
  have hdigits : (toString n).toList = Nat.toDigits 10 n := Nat.toList_repr
  apply isNumber_of_isNumeral
  rw [hdigits]
  exact isNumeral_toDigits n

/-! ## The first character -/

theorem Scanner.digits_first {text taken rest : List Char}
    (h : digits text = some (taken, rest)) : ∃ c ∈ text.head?, c.isDigit := by
  cases text with
  | nil => cases h
  | cons c text =>
    simp only [digits] at h
    split at h
    · next hc => exact ⟨c, rfl, hc⟩
    · cases h

theorem Scanner.whole_first {text taken rest : List Char} (h : whole text = some (taken, rest)) :
    ∃ c ∈ text.head?, c.isDigit := by
  cases text with
  | nil => cases h
  | cons c text =>
    simp only [whole] at h
    split at h
    · next hzero => exact ⟨c, rfl, hzero ▸ rfl⟩
    · exact digits_first h

/-- A number begins with a digit or a sign. -/
theorem IsNumber.first {literal : String} (h : IsNumber literal) :
    ∃ c ∈ literal.toList.head?, c.isDigit ∨ c = '-' := by
  obtain ⟨sign, unsigned, _, hsign, hunsigned, -⟩ := Scanner.andThen_eq_some h
  obtain ⟨_, _, _, hwhole, -, -⟩ := Scanner.andThen_eq_some hunsigned
  obtain ⟨d, hd, hdigit⟩ := Scanner.whole_first hwhole
  cases hliteral : literal.toList with
  | nil =>
    rw [hliteral] at hsign
    cases hsign
    cases hd
  | cons c text =>
    rw [hliteral, Scanner.introduced] at hsign
    split at hsign
    · next hc => exact ⟨c, rfl, .inr (List.mem_singleton.1 hc)⟩
    · cases hsign
      exact ⟨d, hd, .inl hdigit⟩

end BlockLang.Json
