-- SUMMARY: A report is read back from the document that it is written as.
import BlockLang.Proofs.Json.Members
import BlockLang.Report.Json

namespace BlockLang

open Json (Value)

/-!
# Report documents

A report whose numbers fit in words is read back from its document, whatever the texts in it. So a
document stands for one report only: `read_back_from_document`.
-/

/-! ## Locations -/

namespace Location

/-- Every number of a location fits in a word. -/
structure FitsWords (l : Location) : Prop where
  line : FitsWord l.line
  start : FitsWord l.start
  stop : FitsWord l.stop

theorem toValue_wellFormed (l : Location) : l.toValue.WellFormed := by
  apply Value.wellFormed_ofMembers
  simp [Value.wellFormed_ofString, Value.wellFormed_ofNat]

theorem ofParts?_of_fitsWords {l : Location} (h : l.FitsWords) :
    ofParts? (.ofString l.file) (.ofNat l.line) (.ofNat l.start) (.ofNat l.stop) = some l := by
  simp [ofParts?, Value.text?_ofString, Value.word?_ofNat h.line, Value.word?_ofNat h.start,
    Value.word?_ofNat h.stop]

theorem ofValue?_toValue {l : Location} (h : l.FitsWords) : ofValue? l.toValue = some l := by
  simp only [toValue, Value.ofMembers, ofValue?, Json.textKeys?_map, Option.bind_eq_bind,
    Option.bind_some]
  simp [Json.required?, Json.optional?, ofParts?_of_fitsWords h]

end Location

/-! ## Reports -/

theorem Severity.ofValue?_name (s : Severity) : ofValue? (.ofString s.name) = some s := by
  cases s <;> rfl

namespace Report

/-- Every number of a report fits in a word. -/
def FitsWords (r : Report) : Prop :=
  ∀ l ∈ r.location, l.FitsWords

theorem toValue_wellFormed (r : Report) : r.toValue.WellFormed := by
  apply Value.wellFormed_ofMembers
  simp [Value.wellFormed_ofString, Value.wellFormed_ofOption, Location.toValue_wellFormed]

theorem location?_ofOption {location : Option Location} (h : ∀ l ∈ location, l.FitsWords) :
    location? (some (.ofOption Location.toValue location)) = some location := by
  cases location with
  | none => rfl
  | some l =>
    have hread : Location.ofValue? l.toValue = some l := Location.ofValue?_toValue (h l rfl)
    change (Location.ofValue? l.toValue).map some = _
    rw [hread, Option.map_some]

theorem ofParts?_of_fitsWords {r : Report} (h : r.FitsWords) :
    ofParts? (.ofString r.code) (.ofString r.severity.name) (.ofString r.message)
      (some (.ofOption Location.toValue r.location)) = some r := by
  simp [ofParts?, Value.text?_ofString, Severity.ofValue?_name, location?_ofOption h]

theorem ofValue?_toValue {r : Report} (h : r.FitsWords) : ofValue? r.toValue = some r := by
  simp only [toValue, Value.ofMembers, ofValue?, Json.textKeys?_map, Option.bind_eq_bind,
    Option.bind_some]
  simp [Json.required?, Json.optional?, ofParts?_of_fitsWords h]

theorem ofJson?_toJson {r : Report} (h : r.FitsWords) : ofJson? r.toJson = some r := by
  rw [ofJson?, toJson, Json.read?_pretty r.toValue_wellFormed, Option.bind_eq_bind,
    Option.bind_some, ofValue?_toValue h]

/-- A report is read back from its document, also one that an error makes, and different reports
have different documents. -/
theorem read_back_from_document :
    (∀ r : Report, r.FitsWords → ofJson? r.toJson = some r) ∧
    (∀ (error : Error) (file : String), (∀ span ∈ error.span?, (span.locate file).FitsWords) →
      ofJson? (ofError error file).toJson = some (ofError error file)) ∧
    ∀ r r' : Report, r.FitsWords → r'.FitsWords → r.toJson = r'.toJson → r = r' := by
  refine ⟨fun _ => ofJson?_toJson, ?_, ?_⟩
  · intro error file herror
    apply ofJson?_toJson
    intro l hl
    obtain ⟨span, hspan, rfl⟩ := Option.map_eq_some_iff.1 hl
    exact herror span hspan
  · intro r r' hr hr' hsame
    have hread := ofJson?_toJson hr
    rw [hsame, ofJson?_toJson hr'] at hread
    exact (Option.some.inj hread).symm

theorem read_back_from_document_escapes :
    ofJson? (toJson ⟨"W\x01", .warning, "\"\\\n𝄞", some ⟨"a\tb", 1, 0, 0xFFFFFFFFFFFFFFFF⟩⟩) =
      some ⟨"W\x01", .warning, "\"\\\n𝄞", some ⟨"a\tb", 1, 0, 0xFFFFFFFFFFFFFFFF⟩⟩ ∧
    ofJson? (ofError (.lexical ⟨.expectedClosingQuote, ⟨4, 6, 2⟩⟩) "main.src").toJson =
      some (ofError (.lexical ⟨.expectedClosingQuote, ⟨4, 6, 2⟩⟩) "main.src") ∧
    toJson ⟨"", .error, "null", none⟩ ≠ toJson ⟨"", .error, "null", some ⟨"", 0, 0, 0⟩⟩ := by
  obtain ⟨hread, herror, hsame⟩ := read_back_from_document
  have hnone : FitsWords ⟨"", .error, "null", none⟩ := nofun
  have hzero : FitsWords ⟨"", .error, "null", some ⟨"", 0, 0, 0⟩⟩ := by
    rintro _ ⟨⟩
    exact ⟨by decide, by decide, by decide⟩
  refine ⟨hread _ ?_, herror _ _ ?_, ?_⟩
  · rintro _ ⟨⟩
    exact ⟨by decide, by decide, by decide⟩
  · rintro _ ⟨⟩
    exact ⟨by decide, by decide, by decide⟩
  · intro h
    cases hsame _ _ hnone hzero h

end Report

end BlockLang
