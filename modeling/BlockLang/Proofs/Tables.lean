-- SUMMARY: What the tables hold for a lexeme, and that reading on changes none of it.
import BlockLang.Lexer.Drain
import BlockLang.Proofs.NameTable

namespace BlockLang

/-!
# Entries of the tables

`Tables.Holds` reads the payload of a lexeme back from the tables. Tables are only ever extended, so
an entry that is there once stays there.
-/

namespace Tables

/-- `t'` has all entries of `t`, and maybe more behind them. -/
structure Extends (t' t : Tables) : Prop where
  names : t.names.names.toList <+: t'.names.names.toList
  numerals : t.literals.numerals.toList <+: t'.literals.numerals.toList
  strings : t.literals.strings.toList <+: t'.literals.strings.toList
  characters : t.literals.characters.toList <+: t'.literals.characters.toList

theorem Extends.refl (t : Tables) : t.Extends t :=
  ⟨List.prefix_rfl, List.prefix_rfl, List.prefix_rfl, List.prefix_rfl⟩

theorem Extends.trans {t t' t'' : Tables} (h' : t''.Extends t') (h : t'.Extends t) :
    t''.Extends t :=
  ⟨h.names.trans h'.names, h.numerals.trans h'.numerals, h.strings.trans h'.strings,
    h.characters.trans h'.characters⟩

theorem extends_record (t : Tables) (lexeme : Lexeme) : (t.record lexeme).2.Extends t := by
  cases lexeme with
  | identifier name =>
    exact ⟨t.names.names_prefix_intern name, List.prefix_rfl, List.prefix_rfl, List.prefix_rfl⟩
  | numeral digits =>
    exact ⟨List.prefix_rfl, by simp [record, LiteralTables.addNumeral], List.prefix_rfl,
      List.prefix_rfl⟩
  | stringLiteral contents =>
    exact ⟨List.prefix_rfl, List.prefix_rfl, by simp [record, LiteralTables.addString],
      List.prefix_rfl⟩
  | character c =>
    exact ⟨List.prefix_rfl, List.prefix_rfl, List.prefix_rfl,
      by simp [record, LiteralTables.addCharacter]⟩
  | keyword _ | mark _ | unknown _ => exact Extends.refl t

/-- Under `index` the tables hold the payload of a lexeme. A lexeme that its kind tells all about has
no index. -/
def Holds (t : Tables) (index : Option Nat) : Lexeme → Prop
  | .identifier name => ∃ i, index = some i ∧ t.names.name? ⟨i⟩ = some name
  | .numeral digits =>
    ∃ i, index = some i ∧ t.literals.numerals[i]? = some (Lexeme.numeralValue digits.toList)
  | .stringLiteral contents => ∃ i, index = some i ∧ t.literals.strings[i]? = some contents
  | .character c => ∃ i, index = some i ∧ t.literals.characters[i]? = some c
  | .keyword _ | .mark _ | .unknown _ => index = none

theorem holds_record {t : Tables} (h : t.names.Inverse) (lexeme : Lexeme) :
    (t.record lexeme).2.Holds (t.record lexeme).1 lexeme := by
  cases lexeme with
  | identifier name => exact ⟨_, rfl, NameTable.name?_intern h name⟩
  | numeral digits => exact ⟨_, rfl, by simp [record, LiteralTables.addNumeral]⟩
  | stringLiteral contents => exact ⟨_, rfl, by simp [record, LiteralTables.addString]⟩
  | character c => exact ⟨_, rfl, by simp [record, LiteralTables.addCharacter]⟩
  | keyword _ | mark _ | unknown _ => rfl

theorem inverse_record {t : Tables} (h : t.names.Inverse) (lexeme : Lexeme) :
    (t.record lexeme).2.names.Inverse := by
  cases lexeme with
  | identifier name => exact NameTable.inverse_intern h name
  | _ => exact h

private theorem getElem?_mono {α : Type} {as bs : Array α} (h : as.toList <+: bs.toList)
    {i : Nat} {a : α} (ha : as[i]? = some a) : bs[i]? = some a := by
  rw [← Array.getElem?_toList] at ha ⊢
  obtain ⟨more, hmore⟩ := h
  rw [← hmore, List.getElem?_append_left (List.getElem?_eq_some_iff.1 ha).1]
  exact ha

theorem Holds.mono {t t' : Tables} (h : t'.Extends t) {index : Option Nat} {lexeme : Lexeme}
    (hholds : t.Holds index lexeme) : t'.Holds index lexeme := by
  cases lexeme with
  | identifier name =>
    obtain ⟨i, hi, hname⟩ := hholds
    exact ⟨i, hi, getElem?_mono h.names hname⟩
  | numeral digits =>
    obtain ⟨i, hi, hvalue⟩ := hholds
    exact ⟨i, hi, getElem?_mono h.numerals hvalue⟩
  | stringLiteral contents =>
    obtain ⟨i, hi, hcontents⟩ := hholds
    exact ⟨i, hi, getElem?_mono h.strings hcontents⟩
  | character c =>
    obtain ⟨i, hi, hc⟩ := hholds
    exact ⟨i, hi, getElem?_mono h.characters hc⟩
  | keyword _ | mark _ | unknown _ => exact hholds

end Tables

namespace Lexer

theorem extends_readToken (tables : Tables) (start : Position) (text : List Char) :
    (readToken tables start text).2.tables.Extends tables := by
  unfold readToken
  split
  · exact Tables.Extends.refl tables
  · next lexeme rest _ => exact tables.extends_record lexeme
  · exact Tables.Extends.refl tables

theorem extends_next (l : Lexer) : l.next.2.tables.Extends l.tables := by
  unfold next
  split
  · exact extends_readToken _ _ _
  · exact Tables.Extends.refl l.tables
  · exact Tables.Extends.refl l.tables

theorem extends_of_next {l l' : Lexer} {item : Item} (hnext : l.next = (item, l')) :
    l'.tables.Extends l.tables := by
  have hextends := extends_next l
  rwa [hnext] at hextends

theorem inverse_ofString (source : String) : (ofString source).tables.names.Inverse :=
  NameTable.inverse_empty

/-- Whatever is pulled, names and numbers still belong together one to one. -/
theorem inverse_next {l : Lexer} (h : l.tables.names.Inverse) : l.next.2.tables.names.Inverse := by
  unfold next readToken
  split
  · split
    · exact h
    · exact Tables.inverse_record h _
    · exact h
  · exact h
  · exact h

theorem inverse_of_next {l l' : Lexer} {item : Item} (hnext : l.next = (item, l'))
    (h : l.tables.names.Inverse) : l'.tables.names.Inverse := by
  have hinverse := inverse_next h
  rwa [hnext] at hinverse

theorem extends_drain (l : Lexer) : l.drain.lexer.tables.Extends l.tables := by
  induction l using drain.induct with
  | case1 l error l' hnext =>
    rw [drain_of_error hnext]
    exact extends_of_next hnext
  | case2 l token l' hnext hend =>
    rw [drain_of_end hnext hend]
    exact extends_of_next hnext
  | case3 l token l' hnext hend ih =>
    rw [drain_of_token hnext (by simpa using hend)]
    exact ih.trans (extends_of_next hnext)

end Lexer

end BlockLang
