-- SUMMARY: What a configuration document decodes to, whatever its layout and its further members.
import BlockLang.Config.Json
import BlockLang.Proofs.Json.Grammar
import BlockLang.Proofs.Json.Members
import BlockLang.Proofs.Scopes.Failure
import BlockLang.Session

namespace BlockLang.Config

open Json (Value Member IsDocument)

/-!
# Configuration documents

The depth of a configuration is read from the member `max_depth` of an object, wherever it stands and
whatever the others hold. `ofJson_documents` has all outcomes for objects, and what follows for
configurations that are written and read back and for those that are read and put to use.
-/

/-! ## From a value to a configuration -/

/-- What a value describes is validated. -/
theorem ofJson_of_eq_some {v : Value} {text : String} {config : Config}
    (hread : Json.read? text = some v) (hvalue : ofValue? v = some config) :
    ofJson text = if config.maxDepth = 0 then .error .zeroDepth else .ok config := by
  rw [ofJson, hread, Option.bind_eq_bind, Option.bind_some, hvalue]
  by_cases hzero : config.maxDepth = 0 <;> simp [validate, hzero, Except.map]

theorem ofJson_of_eq_none {v : Value} {text : String} (hread : Json.read? text = some v)
    (hvalue : ofValue? v = none) : ∃ reason, ofJson text = .error (.unreadable reason) := by
  rw [ofJson, hread, Option.bind_eq_bind, Option.bind_some, hvalue]
  exact ⟨_, rfl⟩

/-- A configuration that was read leaves room for the outermost level. -/
theorem le_of_ofJson {text : String} {config : Config} (h : ofJson text = .ok config) :
    1 ≤ config.maxDepth := by
  rw [ofJson] at h
  split at h
  · next loaded _ =>
    cases hvalid : loaded.validate with
    | error =>
      rw [hvalid] at h
      cases h
    | ok =>
      rw [hvalid] at h
      cases h
      exact Scopes.le_of_validate hvalid
  · cases h

/-! ## The member of an object -/

theorem ofValue?_object (members : List Member) :
    ofValue? (.object members) =
      ((Json.textKeys? members).bind (Json.optional? · "max_depth")).bind ofDepth? :=
  (Option.bind_assoc _ _ _).symm

/-- The depth is found, wherever its member stands. -/
theorem ofValue?_of_once {n : Nat} (hn : FitsWord n) (before after : List (String × Value))
    (hothers : ∀ member ∈ before ++ after, member.1 ≠ "max_depth") :
    ofValue? (.ofMembers (before ++ ("max_depth", .ofNat n) :: after)) =
      some { maxDepth := n } := by
  rw [Value.ofMembers, ofValue?_object, Json.textKeys?_map, Option.bind_some,
    Json.optional?_of_once _ hothers, Option.bind_some, ofDepth?, Value.word?_ofNat hn,
    Option.map_some]

theorem ofValue?_of_never {members : List (String × Value)}
    (hothers : ∀ member ∈ members, member.1 ≠ "max_depth") :
    ofValue? (.ofMembers members) = some {} := by
  rw [Value.ofMembers, ofValue?_object, Json.textKeys?_map, Option.bind_some,
    Json.optional?_of_forall_ne hothers, Option.bind_some, ofDepth?]

theorem ofValue?_of_twice (before between after : List Member) (first second : Value) :
    ofValue? (.object (before ++ (some "max_depth", first) ::
      (between ++ (some "max_depth", second) :: after))) = none := by
  rw [ofValue?_object, Json.textKeys?_bind_optional?_of_twice, Option.bind_none]

/-! ## Reading back -/

theorem toValue_wellFormed (c : Config) : c.toValue.WellFormed := by
  apply Value.wellFormed_ofMembers
  simp [Value.wellFormed_ofNat]

/-- A configuration is read back from whatever document its value is read from. -/
theorem ofJson_of_toValue {c : Config} (hdepth : 1 ≤ c.maxDepth) (hfits : FitsWord c.maxDepth)
    {text : String} (hread : Json.read? text = some c.toValue) : ofJson text = .ok c := by
  have hvalue : ofValue? c.toValue = some c :=
    ofValue?_of_once hfits [] [] (List.forall_mem_nil _)
  rw [ofJson_of_eq_some hread hvalue, if_neg (Nat.one_le_iff_ne_zero.1 hdepth)]

/-! ## All documents -/

/-- A document with one depth decodes to it, unless it is zero. One without a depth decodes to the
default, and one with several depths is refused. So a configuration is read back in either layout that
it is written in, and one that was read is never refused. -/
theorem ofJson_documents :
    (∀ (n : Nat) (before after : List (String × Value)) (text : String), FitsWord n →
      (∀ member ∈ before ++ after, member.1 ≠ "max_depth") →
      IsDocument (.ofMembers (before ++ ("max_depth", .ofNat n) :: after)) text →
      ofJson text = if n = 0 then .error .zeroDepth else .ok { maxDepth := n }) ∧
    (∀ (members : List (String × Value)) (text : String),
      (∀ member ∈ members, member.1 ≠ "max_depth") → IsDocument (.ofMembers members) text →
      ofJson text = .ok {}) ∧
    (∀ (before between after : List Member) (first second : Value) (text : String),
      IsDocument (.object (before ++ (some "max_depth", first) ::
        (between ++ (some "max_depth", second) :: after))) text →
      ∃ reason, ofJson text = .error (.unreadable reason)) ∧
    (∀ config : Config, config.validate = .ok () → FitsWord config.maxDepth →
      ofJson config.toJson = .ok config ∧ ofJson config.toValue.pretty = .ok config) ∧
    ∀ (text : String) (config : Config), ofJson text = .ok config →
      (∃ scopes, Scopes.create config = .ok scopes) ∧
        ∀ source, ∃ session, Session.create source config = .ok session := by
  refine ⟨?once, ?never, ?twice, ?readBack, ?use⟩
  case once =>
    intro n before after text hn hothers h
    exact ofJson_of_eq_some (Json.read?_of_isDocument h) (ofValue?_of_once hn before after hothers)
  case never =>
    intro members text hothers h
    exact ofJson_of_eq_some (Json.read?_of_isDocument h) (ofValue?_of_never hothers)
  case twice =>
    intro before between after first second text h
    exact ofJson_of_eq_none (Json.read?_of_isDocument h) (ofValue?_of_twice ..)
  case readBack =>
    intro config hvalid hfits
    have hdepth := Scopes.le_of_validate hvalid
    exact ⟨ofJson_of_toValue hdepth hfits (Json.read?_compact config.toValue_wellFormed),
      ofJson_of_toValue hdepth hfits (Json.read?_pretty config.toValue_wellFormed)⟩
  case use =>
    intro text config h
    have hcreate := Scopes.create_of_le (le_of_ofJson h)
    refine ⟨⟨_, hcreate⟩, fun source => ?_⟩
    rw [Session.create, hcreate]
    exact ⟨_, rfl⟩

/-- The key may be escaped, and behind another member whose value has a string that is no text. -/
theorem ofJson_documents_escaped :
    ofJson " \x7b\"note\": [\"\\ud800\", null],\n\"\\u006dax_depth\" : 7\x7d" = .ok { maxDepth := 7 } ∧
    ofJson "\t\x7b \x7d" = .ok {} ∧
    (∃ reason, ofJson "\x7b\"max_depth\":7,\"max_depth\":null\x7d" = .error (.unreadable reason)) ∧
    ofJson (toJson { maxDepth := 0xFFFFFFFFFFFFFFFF }) = .ok { maxDepth := 0xFFFFFFFFFFFFFFFF } ∧
    ∃ session, Session.create "var x" { maxDepth := 7 } = .ok session := by
  have hnote := Json.Token.spells_plain "note" (by decide)
  have hkey := Json.Token.spells_plain "max_depth" (by decide)
  have hseven : Json.IsNumeral "7".toList := by
    change Json.IsNumeral ([] ++ (['7'] ++ ([] ++ [])))
    exact .mk (.head _) (.inr ⟨⟨by decide, by decide⟩, by decide⟩) (.inl rfl) (.inl rfl)
  have hdigit : ∀ n < 16, Json.IsHexDigit n (Nat.digitChar n) := fun _ hn => ⟨hn, .inl rfl⟩
  have hzero := hdigit 0 (by decide)
  have hescaped : Json.Token.Spells (.string (some "max_depth"))
      ('"' :: (['\\', 'u', '0', '0', '6', 'd'] ++ ['a', 'x', '_', 'd', 'e', 'p', 't', 'h']
        ++ ['"'])) :=
    .string (.cons (.codeUnit hzero hzero (hdigit 6 (by decide)) (hdigit 13 (by decide)))
      (Json.spellsParts_plain (by decide)))
      (.codeUnits 'm' (Json.denotes_map_char ['a', 'x', '_', 'd', 'e', 'p', 't', 'h']))
  have hhalf : Json.Token.Spells (.string none)
      ('"' :: (['\\', 'u', 'd', '8', '0', '0'] ++ [] ++ ['"'])) := by
    refine .string (.cons (.codeUnit (hdigit 13 (by decide)) (hdigit 8 (by decide)) hzero hzero)
      .nil) ?_
    intro text htext
    cases Json.stringText?_of_denotes htext
  have honeDocument : IsDocument
      (.ofMembers ([("note", .array [.string none, .null])] ++ [("max_depth", .ofNat 7)]))
      " \x7b\"note\": [\"\\ud800\", null],\n\"\\u006dax_depth\" : 7\x7d" :=
    .cons [' '] (by decide) .openBrace <| .cons [] nofun hnote <| .cons [] nofun .colon <|
    .cons [' '] (by decide) .openBracket <| .cons [] nofun hhalf <| .cons [] nofun .comma <|
    .cons [' '] (by decide) .null <| .cons [] nofun .closeBracket <|
    .cons [] nofun .comma <| .cons ['\n'] (by decide) hescaped <| .cons [' '] (by decide) .colon <|
    .cons [' '] (by decide) (.number hseven) <| .cons [] nofun .closeBrace <| .nil [] nofun
  have hneverDocument : IsDocument (.ofMembers []) "\t\x7b \x7d" :=
    .cons ['\t'] (by decide) .openBrace <| .cons [' '] (by decide) .closeBrace <| .nil [] nofun
  have htwiceDocument : IsDocument
      (.object ([] ++ (some "max_depth", .ofNat 7) :: ([] ++ [(some "max_depth", .null)])))
      "\x7b\"max_depth\":7,\"max_depth\":null\x7d" :=
    .cons [] nofun .openBrace <| .cons [] nofun hkey <| .cons [] nofun .colon <|
    .cons [] nofun (.number hseven) <| .cons [] nofun .comma <| .cons [] nofun hkey <|
    .cons [] nofun .colon <| .cons [] nofun .null <| .cons [] nofun .closeBrace <| .nil [] nofun
  obtain ⟨honce, hnever, htwice, hreadBack, huse⟩ := ofJson_documents
  have hread := honce 7 _ _ _ (by decide) (by decide) honeDocument
  exact ⟨hread, hnever _ _ (List.forall_mem_nil _) hneverDocument, htwice _ _ _ _ _ _ htwiceDocument,
    (hreadBack _ rfl (by decide)).1, (huse _ _ hread).2 "var x"⟩

end BlockLang.Config
