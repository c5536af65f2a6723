-- SUMMARY: Writing a text with other names changes nothing but the names in the table.
import BlockLang.Proofs.Lexer.Rendering
import Mathlib.Logic.Embedding.Basic

namespace BlockLang

/-!
# Renaming

Names are told apart and not looked into. Lexemes that are written with other names are recorded
under the same indices, and the table has the other names in their places: `Renaming.record_tables`.
It follows that a text with other names is read as the same tokens: `Renaming.readAlike_drain`.
-/

/-! ## Dictionaries with other keys -/

namespace Dictionary

variable {κ κ' α : Type} [DecidableEq κ] [DecidableEq κ'] {f : κ → κ'}

/-- A dictionary in which the other keys have the values. -/
def mapKeys (f : κ → κ') (d : Dictionary κ α) : Dictionary κ' α :=
  ⟨d.entries.map (Prod.map f id)⟩

theorem get?_mapKeys (hf : Function.Injective f) (d : Dictionary κ α) (key : κ) :
    (d.mapKeys f).get? (f key) = d.get? key := by
  rw [get?, get?, mapKeys]
  induction d.entries with
  | nil => rfl
  | cons entry entries ih =>
    obtain ⟨first, value⟩ := entry
    have hsame : (f key == f first) = (key == first) := by
      rw [Bool.eq_iff_iff, beq_iff_eq, beq_iff_eq, hf.eq_iff]
    rw [List.map_cons, Prod.map_apply, List.lookup_cons, List.lookup_cons, hsame, ih, id]

theorem mapKeys_insert (hf : Function.Injective f) (d : Dictionary κ α) (key : κ) (value : α) :
    (d.insert key value).mapKeys f = (d.mapKeys f).insert (f key) value := by
  simp [mapKeys, insert, List.filter_map, Function.comp_def, hf.eq_iff]

end Dictionary

/-! ## Names -/

/-- A text that can be a name. -/
@[ext]
structure Identifier where
  text : String
  wellFormed : (Lexeme.identifier text).WellFormed
deriving DecidableEq

/-- Another name for each name, and different ones for different names. -/
abbrev Renaming := Identifier ↪ Identifier

namespace Renaming

variable (r : Renaming)

/-- What is written for a text. A text that cannot be a name is kept. -/
def text (name : String) : String :=
  if h : (Lexeme.identifier name).WellFormed then (r ⟨name, h⟩).text else name

theorem wellFormed_text_iff {name : String} :
    (Lexeme.identifier (r.text name)).WellFormed ↔ (Lexeme.identifier name).WellFormed := by
  by_cases h : (Lexeme.identifier name).WellFormed
  · rw [text, dif_pos h]
    exact iff_of_true (r ⟨name, h⟩).wellFormed h
  · rw [text, dif_neg h]

theorem text_injective : Function.Injective r.text := by
  intro name other heq
  -- A text that is kept is no name, so it is never what is written for a name.
  have hiff : (Lexeme.identifier name).WellFormed ↔ (Lexeme.identifier other).WellFormed := by
    rw [← r.wellFormed_text_iff, heq, r.wellFormed_text_iff]
  by_cases hname : (Lexeme.identifier name).WellFormed
  · rw [text, text, dif_pos hname, dif_pos (hiff.1 hname)] at heq
    exact congrArg Identifier.text (r.injective (Identifier.ext heq))
  · rwa [text, text, dif_neg hname, dif_neg (mt hiff.2 hname)] at heq

/-- A lexeme with the other name in it. -/
def lexeme : Lexeme → Lexeme
  | .identifier name => .identifier (r.text name)
  | lexeme => lexeme

/-- A table with the other names in the same places. -/
def names (t : NameTable) : NameTable := ⟨t.ids.mapKeys r.text, t.names.map r.text⟩

/-- The names are other ones, and the literals are the same. -/
def tables (t : Tables) : Tables := { t with names := r.names t.names }

theorem tables_empty : r.tables {} = {} := by
  simp [tables, names, Dictionary.mapKeys]

/-! ## Lexemes -/

theorem kind_lexeme (l : Lexeme) : (r.lexeme l).kind = l.kind := by
  cases l <;> rfl

theorem wellFormed_lexeme {l : Lexeme} (h : l.WellFormed) : (r.lexeme l).WellFormed := by
  cases l with
  | identifier name => exact r.wellFormed_text_iff.2 h
  | _ => exact h

theorem rangeFault?_lexeme (l : Lexeme) : (r.lexeme l).rangeFault? = l.rangeFault? := by
  cases l <;> rfl

theorem readable_map (lexemes : List Lexeme) :
    Lexeme.readable (lexemes.map r.lexeme) = (Lexeme.readable lexemes).map r.lexeme := by
  simp [Lexeme.readable, List.takeWhile_map, Function.comp_def, rangeFault?_lexeme]

theorem firstFault?_map (lexemes : List Lexeme) :
    Lexeme.firstFault? (lexemes.map r.lexeme) = Lexeme.firstFault? lexemes := by
  simp [Lexeme.firstFault?, List.findSome?_map, Function.comp_def, rangeFault?_lexeme]

/-! ## Recording -/

theorem find?_names (t : NameTable) (name : String) :
    (r.names t).find? (r.text name) = t.find? name :=
  Dictionary.get?_mapKeys r.text_injective t.ids name

theorem intern_names (t : NameTable) (name : String) :
    (r.names t).intern (r.text name) = ((t.intern name).1, r.names (t.intern name).2) := by
  unfold NameTable.intern
  rw [find?_names]
  cases t.find? name with
  | some id => rfl
  | none => simp [names, NameTable.add, NameTable.size, Dictionary.mapKeys_insert r.text_injective]

/-- A lexeme with another name is recorded under the same index. -/
theorem record_tables (t : Tables) (l : Lexeme) :
    (r.tables t).record (r.lexeme l) = ((t.record l).1, r.tables (t.record l).2) := by
  cases l with
  | identifier name => simp [Tables.record, tables, lexeme, intern_names]
  | _ => rfl

theorem recordAll_tables (t : Tables) (lexemes : List Lexeme) :
    (r.tables t).recordAll (lexemes.map r.lexeme) =
      ((t.recordAll lexemes).1, r.tables (t.recordAll lexemes).2) := by
  induction lexemes generalizing t with
  | nil => rfl
  | cons l lexemes ih => simp [Tables.recordAll, record_tables, kind_lexeme, ih]

/-! ## Whole texts -/

/-- What is read of a text, and of one with other names: the same kinds, indices and fault, the same
literals, and the other names in the places of the names. -/
structure ReadAlike (d d' : Lexer.Drained) : Prop where
  entries : d'.tokens.map Token.entry = d.tokens.map Token.entry
  failure : d'.failure.map (·.fault) = d.failure.map (·.fault)
  tables : d'.lexer.tables = r.tables d.lexer.tables

theorem readAlike_drain {layout layout' : Layout} {lexemes : List Lexeme}
    (hlexemes : ∀ l ∈ lexemes, l.WellFormed) (h : layout.Renders lexemes)
    (h' : layout'.Renders (lexemes.map r.lexeme)) :
    r.ReadAlike (Lexer.ofString layout.text).drain (Lexer.ofString layout'.text).drain := by
  have hlexemes' : ∀ l ∈ lexemes.map r.lexeme, l.WellFormed :=
    List.forall_mem_map.2 fun l hl => r.wellFormed_lexeme (hlexemes l hl)
  have hcomes := h.comes_drain hlexemes
  have hcomes' := h'.comes_drain hlexemes'
  have hrecord := r.recordAll_tables {} (Lexeme.readable lexemes)
  rw [readable_map, firstFault?_map] at hcomes'
  rw [tables_empty] at hrecord
  constructor
  case entries => rw [hcomes'.entries, hcomes.entries, hrecord]
  case failure => rw [hcomes'.failure, hcomes.failure]
  case tables => rw [hcomes'.tables, hcomes.tables, hrecord]

end Renaming

end BlockLang
