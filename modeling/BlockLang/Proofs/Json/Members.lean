-- SUMMARY: Values that are made of numbers, texts and members give them back.
import BlockLang.Proofs.Json.RoundTrip

namespace BlockLang.Json

/-!
# Making values and taking them apart

What a number, a text or a row of members is made into can be written as a document, and gives back
what it was made of.
-/

/-! ## Numbers and texts -/

namespace Value

theorem word?_ofNat {n : Nat} (h : FitsWord n) : (ofNat n).word? = some n := by
  have hdigits : ∀ c ∈ Nat.toDigits 10 n, c.isDigit :=
    fun _ hc => Nat.isDigit_of_mem_toDigits (by decide) (by decide) hc
  have hall : (Nat.toDigits 10 n).all Char.isDigit := List.all_eq_true.2 hdigits
  simp [ofNat, word?, hall, h, Nat.ofDigitChars_ten_toDigits]

theorem wellFormed_ofNat (n : Nat) : (ofNat n).WellFormed :=
  .number (isNumber_toString n)

theorem text?_ofString (text : String) : (ofString text).text? = some text := rfl

theorem wellFormed_ofString (text : String) : (ofString text).WellFormed :=
  .string (some text)

/-! ## Objects -/

theorem wellFormed_ofMembers {members : List (String × Value)}
    (h : ∀ member ∈ members, member.2.WellFormed) : (ofMembers members).WellFormed := by
  apply WellFormed.object
  intro member hmember
  obtain ⟨⟨key, value⟩, hmem, rfl⟩ := List.mem_map.1 hmember
  exact h _ hmem

theorem wellFormed_ofOption {α : Type} {f : α → Value} (h : ∀ a, (f a).WellFormed) (a : Option α) :
    (ofOption f a).WellFormed := by
  cases a with
  | none => exact .null
  | some a => exact h a

end Value

/-- A key that no member has has no value. -/
theorem optional?_of_forall_ne {members : List (String × Value)} {key : String}
    (h : ∀ member ∈ members, member.1 ≠ key) : optional? members key = some none := by
  have hnone : members.filter (·.1 == key) = [] := by
    rw [List.filter_eq_nil_iff]
    simpa using h
  rw [optional?, hnone]

/-- A key that one member has has its value, wherever the member stands. -/
theorem optional?_of_once {before after : List (String × Value)} {key : String} (value : Value)
    (h : ∀ member ∈ before ++ after, member.1 ≠ key) :
    optional? (before ++ (key, value) :: after) key = some (some value) := by
  have hnone : before.filter (·.1 == key) ++ after.filter (·.1 == key) = [] := by
    rw [← List.filter_append, List.filter_eq_nil_iff]
    simpa using h
  obtain ⟨hbefore, hafter⟩ := List.append_eq_nil_iff.1 hnone
  have hone : (before ++ (key, value) :: after).filter (·.1 == key) = [(key, value)] := by
    simp [hbefore, hafter]
  rw [optional?, hone]

/-- A key that is looked up has one member at most. -/
theorem length_filter_le_of_optional? {members : List (String × Value)} {key : String}
    {value : Option Value} (h : optional? members key = some value) :
    (members.filter (·.1 == key)).length ≤ 1 := by
  rw [optional?] at h
  split at h
  · next hnone => simp [hnone]
  · next hone => simp [hone]
  · cases h

theorem textKeys?_eq_some {members : List Member} {texts : List (String × Value)}
    (h : textKeys? members = some texts) :
    members = texts.map fun (key, value) => (some key, value) := by
  induction members generalizing texts with
  | nil =>
    cases h
    rfl
  | cons member members ih =>
    simp only [textKeys?, List.mapM_cons, Option.bind_eq_bind, Option.bind_eq_some_iff,
      Option.map_eq_some_iff, Option.pure_def, Option.some.injEq] at h
    obtain ⟨_, ⟨key, hkey, rfl⟩, texts, htexts, rfl⟩ := h
    rw [List.map_cons, ← ih htexts]
    exact congrArg (· :: members) (Prod.ext hkey rfl)

/-- A repeated key is refused, wherever its members stand and whatever the others are. -/
theorem textKeys?_bind_optional?_of_twice (before between after : List Member) (key : String)
    (first second : Value) :
    (textKeys? (before ++ (some key, first) :: (between ++ (some key, second) :: after))).bind
      (optional? · key) = none := by
  rw [Option.eq_none_iff_forall_ne_some]
  intro value h
  obtain ⟨texts, htexts, hvalue⟩ := Option.bind_eq_some_iff.1 h
  have hmembers := textKeys?_eq_some htexts
  have hfilter : (texts.filter (·.1 == key)).length =
      ((texts.map fun (key, value) => (some key, value)).filter (·.1 == some key)).length := by
    rw [List.filter_map, List.length_map]
    rfl
  have htwo : 2 ≤ ((before ++ (some key, first) :: (between ++ (some key, second) :: after)).filter
      (·.1 == some key)).length := by
    simp
    omega
  rw [hmembers, ← hfilter] at htwo
  exact absurd (length_filter_le_of_optional? hvalue) (Nat.not_le.2 htwo)

theorem textKeys?_map (members : List (String × Value)) :
    textKeys? (members.map fun (key, value) => (some key, value)) = some members := by
  induction members with
  | nil => rfl
  | cons member members ih =>
    rw [textKeys?] at ih
    simp [textKeys?, ih]

end BlockLang.Json
