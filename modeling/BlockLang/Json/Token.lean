-- SUMMARY: The tokens of a JSON document, and splitting a document into them.
import BlockLang.Json.Value

namespace BlockLang.Json

/-!
## Tokens

A document is a row of tokens with spaces between them. Splitting a document refuses whatever is not
strict JSON: raw control characters in strings, unknown escapes, numbers with leading zeros or
without digits where there must be some.
-/

inductive Token where
  | openBracket
  | closeBracket
  | openBrace
  | closeBrace
  | comma
  | colon
  | null
  | bool (b : Bool)
  | number (literal : String)
  | string (text : Option String)
deriving DecidableEq, Repr

/-- The characters that may stand between tokens. -/
def isSpace (c : Char) : Bool :=
  c == ' ' || c == '\t' || c == '\n' || c == '\r'

/-- The token that a single character makes. -/
def punctuation? (c : Char) : Option Token :=
  if c = '[' then some .openBracket
  else if c = ']' then some .closeBracket
  else if c = '{' then some .openBrace
  else if c = '}' then some .closeBrace
  else if c = ',' then some .comma
  else if c = ':' then some .colon
  else none

/-! ## Numbers -/

/-- Takes some characters off the front of a text, or refuses it. -/
abbrev Scanner := List Char → Option (List Char × List Char)

namespace Scanner

/-- At least one digit, and all that follow. -/
def digits : Scanner
  | [] => none
  | c :: text =>
    if c.isDigit then some (c :: text.takeWhile Char.isDigit, text.dropWhile Char.isDigit)
    else none

/-- A whole number: a zero alone, or digits that do not start with one. -/
def whole : Scanner
  | [] => none
  | c :: text => if c = '0' then some ([c], text) else digits (c :: text)

def nothing : Scanner := fun text => some ([], text)

/-- One of some characters and what must follow it, or else nothing. -/
def introduced (cs : List Char) (p : Scanner) : Scanner
  | [] => some ([], [])
  | c :: text =>
    if c ∈ cs then (p text).map fun (taken, rest) => (c :: taken, rest) else some ([], c :: text)

def andThen (p q : Scanner) : Scanner := fun text => do
  let (first, text) ← p text
  let (second, text) ← q text
  return (first ++ second, text)

/-- A number: a sign, a whole number, a fraction and an exponent, all but the second optional. -/
def number : Scanner :=
  (introduced ['-'] nothing).andThen <| whole.andThen <|
    (introduced ['.'] digits).andThen <|
      introduced ['e', 'E'] ((introduced ['+', '-'] nothing).andThen digits)

/-- What is taken and what is left make up the text. -/
def Faithful (p : Scanner) : Prop :=
  ∀ {text taken rest : List Char}, p text = some (taken, rest) → taken ++ rest = text

theorem digits_faithful : Faithful digits := by
  intro text taken rest h
  cases text with
  | nil => cases h
  | cons c text =>
    simp only [digits] at h
    split at h
    · cases h
      rw [List.cons_append, List.takeWhile_append_dropWhile]
    · cases h

theorem whole_faithful : Faithful whole := by
  intro text taken rest h
  cases text with
  | nil => cases h
  | cons c text =>
    simp only [whole] at h
    split at h
    · cases h
      rfl
    · exact digits_faithful h

theorem nothing_faithful : Faithful nothing := by
  intro text taken rest h
  cases h
  rfl

theorem introduced_faithful (cs : List Char) {p : Scanner} (hp : Faithful p) :
    Faithful (introduced cs p) := by
  intro text taken rest h
  cases text with
  | nil => cases h; rfl
  | cons c text =>
    simp only [introduced] at h
    split at h
    · obtain ⟨⟨taken', rest'⟩, htaken, heq⟩ := Option.map_eq_some_iff.1 h
      obtain ⟨rfl, rfl⟩ := Prod.mk.inj heq
      rw [List.cons_append, hp htaken]
    · cases h
      rfl

theorem andThen_eq_some {p q : Scanner} {text taken rest : List Char}
    (h : p.andThen q text = some (taken, rest)) :
    ∃ first middle second, p text = some (first, middle) ∧ q middle = some (second, rest) ∧
      first ++ second = taken := by
  simp only [andThen, Option.bind_eq_bind, Option.bind_eq_some_iff, Option.pure_def,
    Option.some.injEq, Prod.mk.injEq] at h
  obtain ⟨⟨first, middle⟩, hp, ⟨second, rest'⟩, hq, htaken, rfl⟩ := h
  exact ⟨first, middle, second, hp, hq, htaken⟩

theorem andThen_faithful {p q : Scanner} (hp : Faithful p) (hq : Faithful q) :
    Faithful (p.andThen q) := by
  intro text taken rest h
  obtain ⟨first, middle, second, hfirst, hsecond, rfl⟩ := andThen_eq_some h
  rw [List.append_assoc, hq hsecond, hp hfirst]

theorem number_faithful : Faithful number :=
  andThen_faithful (introduced_faithful _ nothing_faithful) <|
    andThen_faithful whole_faithful <|
      andThen_faithful (introduced_faithful _ digits_faithful) <|
        introduced_faithful _ <|
          andThen_faithful (introduced_faithful _ nothing_faithful) digits_faithful

theorem whole_ne_nil {text taken rest : List Char} (h : whole text = some (taken, rest)) :
    taken ≠ [] := by
  cases text with
  | nil => cases h
  | cons c text =>
    simp only [whole] at h
    split at h
    · cases h
      simp
    · simp only [digits] at h
      split at h
      · cases h
        simp
      · cases h

/-- A number has at least one character. -/
theorem number_ne_nil {text taken rest : List Char} (h : number text = some (taken, rest)) :
    taken ≠ [] := by
  obtain ⟨sign, _, unsigned, _, hunsigned, rfl⟩ := andThen_eq_some h
  obtain ⟨whole, _, _, hwhole, _, rfl⟩ := andThen_eq_some hunsigned
  simp [whole_ne_nil hwhole]

end Scanner

/-! ## Strings -/

/-- A part of a string: a character, or a code unit of UTF-16 that is escaped by its number. -/
inductive StringPart where
  | char (c : Char)
  | codeUnit (n : Nat)
deriving DecidableEq, Repr

/-- The character that a backslash and a letter stand for. -/
def escapedChar? (c : Char) : Option Char :=
  if c = '"' ∨ c = '\\' ∨ c = '/' then some c
  else if c = 'b' then some '\x08'
  else if c = 'f' then some '\x0c'
  else if c = 'n' then some '\n'
  else if c = 'r' then some '\r'
  else if c = 't' then some '\t'
  else none

/-- The value of a hexadecimal digit in either case. -/
def hexValue? (c : Char) : Option Nat :=
  if c.isDigit then some (c.toNat - '0'.toNat)
  else if 'a' ≤ c ∧ c ≤ 'f' then some (c.toNat - 'a'.toNat + 10)
  else if 'A' ≤ c ∧ c ≤ 'F' then some (c.toNat - 'A'.toNat + 10)
  else none

/-- The value of four hexadecimal digits. -/
def hexValue4? (a b c d : Char) : Option Nat :=
  return 0x1000 * (← hexValue? a) + 0x100 * (← hexValue? b) + 0x10 * (← hexValue? c)
    + (← hexValue? d)

/-- Whether a string may hold a character as it is. -/
def isPlain (c : Char) : Bool :=
  c != '"' && c != '\\' && 0x20 ≤ c.toNat

/-- The parts of a string up to its closing quote. -/
def scanString : List Char → Option (List StringPart × List Char)
  | [] => none
  | '"' :: rest => some ([], rest)
  | '\\' :: 'u' :: a :: b :: c :: d :: rest => do
    let n ← hexValue4? a b c d
    let (parts, rest) ← scanString rest
    return (.codeUnit n :: parts, rest)
  | '\\' :: e :: rest => do
    let c ← escapedChar? e
    let (parts, rest) ← scanString rest
    return (.char c :: parts, rest)
  | c :: rest =>
    if isPlain c then do
      let (parts, rest) ← scanString rest
      return (.char c :: parts, rest)
    else none

/-- Whether a code unit is the first half of a surrogate pair. -/
def isHighSurrogate (n : Nat) : Bool := 0xD800 ≤ n && n < 0xDC00

/-- Whether a code unit is the second half of a surrogate pair. -/
def isLowSurrogate (n : Nat) : Bool := 0xDC00 ≤ n && n < 0xE000

/-- The character that a surrogate pair stands for. -/
def surrogatePair (high low : Nat) : Char :=
  Char.ofNat (0x10000 + (high - 0xD800) * 0x400 + (low - 0xDC00))

/-- The text that the parts of a string stand for, unless half of a surrogate pair is alone. -/
def stringText? : List StringPart → Option (List Char)
  | [] => some []
  | .char c :: parts => (stringText? parts).map (c :: ·)
  | .codeUnit high :: .codeUnit low :: parts =>
    if isHighSurrogate high then
      if isLowSurrogate low then (stringText? parts).map (surrogatePair high low :: ·) else none
    else if isLowSurrogate high then none
    else (stringText? (.codeUnit low :: parts)).map (Char.ofNat high :: ·)
  | .codeUnit n :: parts =>
    if isHighSurrogate n ∨ isLowSurrogate n then none
    else (stringText? parts).map (Char.ofNat n :: ·)

/-! ## Documents -/

/-- The tokens that are written as names. -/
def names : List (List Char × Token) :=
  [(['n', 'u', 'l', 'l'], .null), (['t', 'r', 'u', 'e'], .bool true),
    (['f', 'a', 'l', 's', 'e'], .bool false)]

def scanName (text : List Char) : Option (Token × List Char) :=
  names.findSome? fun (name, token) =>
    if name.isPrefixOf text then some (token, text.drop name.length) else none

def scanToken : List Char → Option (Token × List Char)
  | [] => none
  | c :: rest =>
    match punctuation? c with
    | some token => some (token, rest)
    | none =>
      if c = '"' then
        (scanString rest).map fun (parts, rest) =>
          (.string ((stringText? parts).map String.ofList), rest)
      else if c.isAlpha then scanName (c :: rest)
      else (Scanner.number (c :: rest)).map fun (literal, rest) =>
        (.number (String.ofList literal), rest)

theorem length_rest_lt_of_scanString {text rest : List Char} {parts : List StringPart}
    (h : scanString text = some (parts, rest)) : rest.length < text.length := by
  fun_induction scanString text generalizing parts with
  | case1 => cases h
  | case2 => cases h; simp
  | case3 a b c d text ih =>
    simp only [Option.bind_eq_bind, Option.bind_eq_some_iff, Option.pure_def, Option.some.injEq,
      Prod.mk.injEq] at h
    obtain ⟨n, -, ⟨parts', rest'⟩, hscan, -, rfl⟩ := h
    exact Nat.lt_of_lt_of_le (ih hscan) (by simp only [List.length_cons]; omega)
  | case4 e text _ ih =>
    simp only [Option.bind_eq_bind, Option.bind_eq_some_iff, Option.pure_def, Option.some.injEq,
      Prod.mk.injEq] at h
    obtain ⟨c, -, ⟨parts', rest'⟩, hscan, -, rfl⟩ := h
    exact Nat.lt_of_lt_of_le (ih hscan) (by simp only [List.length_cons]; omega)
  | case5 c text _ _ _ _ ih =>
    simp only [Option.bind_eq_bind, Option.bind_eq_some_iff, Option.pure_def, Option.some.injEq,
      Prod.mk.injEq] at h
    obtain ⟨⟨parts', rest'⟩, hscan, -, rfl⟩ := h
    exact Nat.lt_of_lt_of_le (ih hscan) (by simp only [List.length_cons]; omega)
  | case6 => cases h

theorem names_ne_nil {name : List Char} {token : Token} (h : (name, token) ∈ names) :
    name ≠ [] := by
  simp only [names, List.mem_cons, Prod.mk.injEq, List.not_mem_nil, or_false] at h
  rcases h with ⟨rfl, -⟩ | ⟨rfl, -⟩ | ⟨rfl, -⟩ <;> simp

theorem length_rest_lt_of_scanName {text rest : List Char} {token : Token}
    (h : scanName text = some (token, rest)) : rest.length < text.length := by
  obtain ⟨⟨name, token'⟩, hmem, h⟩ := List.exists_of_findSome?_eq_some h
  simp only [Option.ite_none_right_eq_some, Option.some.injEq, Prod.mk.injEq] at h
  obtain ⟨hname, -, rfl⟩ := h
  have hshort := (List.isPrefixOf_iff_prefix.1 hname).length_le
  have hpos := List.length_pos_iff.2 (names_ne_nil hmem)
  rw [List.length_drop]
  omega

theorem length_rest_lt_of_scanNumber {text literal rest : List Char}
    (h : Scanner.number text = some (literal, rest)) : rest.length < text.length := by
  have hpos := List.length_pos_iff.2 (Scanner.number_ne_nil h)
  rw [← Scanner.number_faithful h, List.length_append]
  omega

/-- Each token takes at least one character. -/
theorem length_rest_lt_of_scanToken {text rest : List Char} {token : Token}
    (h : scanToken text = some (token, rest)) : rest.length < text.length := by
  cases text with
  | nil => cases h
  | cons c text =>
    simp only [scanToken] at h
    split at h
    · obtain ⟨-, rfl⟩ := Prod.mk.inj (Option.some.inj h)
      simp
    split at h
    · obtain ⟨⟨parts, rest'⟩, hscan, heq⟩ := Option.map_eq_some_iff.1 h
      obtain ⟨-, rfl⟩ := Prod.mk.inj heq
      exact Nat.lt_succ_of_lt (length_rest_lt_of_scanString hscan)
    split at h
    · exact length_rest_lt_of_scanName h
    · obtain ⟨⟨literal, rest'⟩, hscan, heq⟩ := Option.map_eq_some_iff.1 h
      obtain ⟨-, rfl⟩ := Prod.mk.inj heq
      exact length_rest_lt_of_scanNumber hscan

def tokens? (text : List Char) : Option (List Token) :=
  if _hrest : text.dropWhile isSpace = [] then some []
  else
    match _h : scanToken (text.dropWhile isSpace) with
    | none => none
    | some (token, rest) => (tokens? rest).map (token :: ·)
termination_by text.length
decreasing_by
  exact Nat.lt_of_lt_of_le (length_rest_lt_of_scanToken _h) (List.dropWhile_sublist _).length_le

end BlockLang.Json
