-- SUMMARY: What a check reports about a text, and when it finds nothing wrong, as told by its tokens.
import BlockLang.CommandLine.Run
import BlockLang.Proofs.Check.Nesting
import BlockLang.Proofs.Lexer.Tiling
import BlockLang.Proofs.Scopes.Failure
import Mathlib.Data.List.Forall2

namespace BlockLang

/-!
# Verdicts

The verdict on a text follows from its tokens and from how the lexer ends. `Check.Judged` says what
is reported: the error at the first brace out of bounds, the lexical error, and a warning for each
unknown character before the first of these, in the order of their places. The command ends well
exactly if there is no error: `CommandLine.run_check_judged`.
-/

def Token.Kind.isUnknown : Token.Kind → Bool
  | unknown _ => true
  | _ => false

namespace Lexer

/-! ## Where a text ends -/

/-- The last place of a drained text: that of the error, or else of the last token. -/
structure Drained.EndsAt (d : Drained) (place : Span) : Prop where
  failure : ∀ error ∈ d.failure, error.span = place
  tokens : d.failure = none → d.tokens.getLast?.map (·.span) = some place
  /-- The tokens come in the order of their places, and none is after the last place. -/
  ordered : d.tokens.Pairwise fun token other => token.span.start ≤ other.span.start
  start_le : ∀ token ∈ d.tokens, token.span.start ≤ place.start

theorem exists_endsAt (source : String) : ∃ place, (ofString source).drain.EndsAt place := by
  obtain ⟨tokens, last, l', hyields⟩ := exists_yields (ofString source)
  have hordered := (tiling_drain source).pairwise_start
  rw [hyields.items_drain, List.pairwise_append] at hordered
  obtain ⟨htokens, -, hlast⟩ := hordered
  have hbefore : ∀ token ∈ tokens, token.span.start ≤ last.span.start := fun token htoken =>
    hlast _ (List.mem_map_of_mem htoken) last (List.mem_singleton_self last)
  rw [List.pairwise_map] at htokens
  rw [hyields.drain_eq]
  refine ⟨last.span, ?_⟩
  cases last with
  | ok token =>
    constructor
    case failure => simp [Item.failure?]
    case tokens => simp [Except.toOption, Item.span]
    case ordered =>
      refine List.pairwise_append.2 ⟨htokens, List.pairwise_singleton _ _, ?_⟩
      intro other hother token' htoken'
      obtain rfl := List.mem_singleton.1 htoken'
      exact hbefore other hother
    case start_le =>
      intro other hother
      rcases List.mem_append.1 hother with hother | hother
      · exact hbefore other hother
      · obtain rfl := List.mem_singleton.1 hother
        exact Nat.le_refl _
  | error error =>
    have hnone : tokens ++ (Except.toOption (.error error : Item)).toList = tokens :=
      List.append_nil tokens
    rw [hnone]
    constructor
    case failure => simp [Item.failure?, Item.span]
    case tokens => simp [Item.failure?]
    case ordered => exact htokens
    case start_le => exact hbefore

end Lexer

namespace Check

/-! ## The reports in their order -/

/-- The warnings about the followed tokens, the error at the one where it ends, and the reports about
the end of the text. -/
def reportsUpTo (file : String) (depth : Nat) (followed : List Token) (stop : Option Token)
    (last : List Report) : List Report :=
  followed.flatMap (tokenWarnings file) ++
    (stop.toList.map (stopReport file depth followed) ++ last)

theorem exists_reports_eq (file source : String) {depth : Nat} (hdepth : 1 ≤ depth) :
    ∃ followed stop s, Followed depth (Lexer.ofString source).drain.tokens followed stop ∧
      s.level = balance followed ∧
      reports file (Scopes.ofDepth depth) source =
        reportsUpTo file depth followed stop (ending file (Lexer.ofString source).drain s) := by
  have houtermost : (Scopes.ofDepth depth).level = balance [] := rfl
  obtain ⟨followed, stop, hfollowed, hreports, hlevel⟩ :=
    exists_nests file rfl houtermost (staysInBounds_nil hdepth)
      (Lexer.ofString source).drain.tokens
  refine ⟨followed, stop, _, hfollowed, hlevel, ?_⟩
  rw [reportsUpTo, ← List.append_assoc, reports]
  exact congrArg (· ++ _) hreports

/-- The report is the warning about the unknown character that the token is. -/
def WarnsAbout (file : String) (token : Token) (report : Report) : Prop :=
  ∃ c, token.kind = .unknown c ∧ report =
    { code := "L1001", severity := .warning, message := "unexpected character " ++ Text.quotedChar c
      location := some (token.span.locate file) }

theorem forall₂_warnsAbout (file : String) (tokens : List Token) :
    List.Forall₂ (WarnsAbout file) (tokens.filter (·.kind.isUnknown))
      (tokens.flatMap (tokenWarnings file)) := by
  induction tokens with
  | nil => exact .nil
  | cons token tokens ih =>
    cases hkind : token.kind with
    | unknown c =>
      have hwarns : WarnsAbout file token (unexpectedCharacter file token c) := ⟨c, hkind, rfl⟩
      simpa [tokenWarnings, hkind, Token.Kind.isUnknown] using List.Forall₂.cons hwarns ih
    | _ => simpa [tokenWarnings, hkind, Token.Kind.isUnknown] using ih

/-- The report is the error at the token where the followed tokens can be followed no further: it
opens a block too many, or closes one that is not open. -/
structure ReportsStop (file : String) (depth : Nat) (followed : List Token) (token : Token)
    (report : Report) : Prop where
  severity : report.severity = .error
  location : report.location = some (token.span.locate file)
  reason :
    (token.kind = .mark .leftBrace ∧ balance (followed ++ [token]) = depth ∧
      report.code = "S0001" ∧ report.message = (ScopeError.overflow depth).message) ∨
    (token.kind = .mark .rightBrace ∧ balance (followed ++ [token]) = -1 ∧
      report.code = "S0002" ∧ report.message = ScopeError.underflow.message)

theorem reportsStop_stopReport (file : String) {depth : Nat} {tokens followed : List Token}
    {token : Token} (h : Followed depth tokens followed (some token)) :
    ReportsStop file depth followed token (stopReport file depth followed token) where
  severity := rfl
  location := rfl
  reason := by
    rcases h.stops_at with ⟨hkind, hbalance⟩ | ⟨hkind, hbalance⟩
    · have herror : stopError depth (balance (followed ++ [token])) = .overflow depth := by
        rw [stopError, if_neg (by omega)]
      exact .inl ⟨hkind, hbalance, by rw [stopReport, herror]; exact ⟨rfl, rfl⟩⟩
    · have herror : stopError depth (balance (followed ++ [token])) = .underflow := by
        rw [stopError, if_pos (by omega)]
      exact .inr ⟨hkind, hbalance, by rw [stopReport, herror]; exact ⟨rfl, rfl⟩⟩

/-! ## The three parts of the reports -/

/-- No error has the code of a warning. -/
theorem code_ne_of_error (error : Error) : error.code ≠ "L1001" ∧ error.code ≠ "S1001" := by
  unfold Error.code
  split <;> exact ⟨by decide, by decide⟩

/-- The report about an error that keeps the text from being read on. -/
def lexicalReport (file : String) (error : LexicalError) : Report :=
  .ofError (.lexical error) file

section Parts

variable {file : String} {depth : Nat} {followed : List Token} {stop : Option Token}
  {drained : Lexer.Drained} {s : Scopes}

theorem warnsAbout_of_mem {tokens : List Token} {report : Report}
    (h : report ∈ tokens.flatMap (tokenWarnings file)) :
    ∃ token ∈ tokens, WarnsAbout file token report := by
  obtain ⟨token, htoken, hreport⟩ := List.mem_flatMap.1 h
  unfold tokenWarnings at hreport
  split at hreport
  · next c hkind => exact ⟨token, htoken, c, hkind, List.mem_singleton.1 hreport⟩
  · cases hreport

theorem ending_of_failure {error : LexicalError} (h : drained.failure = some error) :
    ending file drained s = [lexicalReport file error] := by
  rw [ending, h]
  rfl

theorem ending_of_none (h : drained.failure = none) :
    ending file drained s =
      if 0 < s.level then [leftOpen file s.level drained.tokens.getLast?] else [] := by
  rw [ending, h]

/-- The errors are the one at the token where it ends, and the lexical one. -/
theorem filter_severity_eq :
    (reportsUpTo file depth followed stop (ending file drained s)).filter (·.severity = .error) =
    stop.toList.map (stopReport file depth followed) ++
      drained.failure.toList.map (lexicalReport file) := by
  have hwarnings : (followed.flatMap (tokenWarnings file)).filter (·.severity = .error) = [] := by
    rw [List.filter_eq_nil_iff]
    intro report hreport
    obtain ⟨token, -, c, -, rfl⟩ := warnsAbout_of_mem hreport
    simp
  have hstop : (stop.toList.map (stopReport file depth followed)).filter (·.severity = .error) =
      stop.toList.map (stopReport file depth followed) := by
    cases stop <;> rfl
  have hending : (ending file drained s).filter (·.severity = .error) =
      drained.failure.toList.map (lexicalReport file) := by
    cases hfailure : drained.failure with
    | some error =>
      rw [ending_of_failure hfailure]
      rfl
    | none =>
      rw [ending_of_none hfailure]
      split <;> rfl
  rw [reportsUpTo, List.filter_append, List.filter_append, hwarnings, hstop, hending,
    List.nil_append]

/-- The warnings about characters are those about the followed tokens. -/
theorem filter_code_eq :
    (reportsUpTo file depth followed stop (ending file drained s)).filter (·.code = "L1001") =
    followed.flatMap (tokenWarnings file) := by
  have hwarnings : (followed.flatMap (tokenWarnings file)).filter (·.code = "L1001") =
      followed.flatMap (tokenWarnings file) := by
    rw [List.filter_eq_self]
    intro report hreport
    obtain ⟨token, -, c, -, rfl⟩ := warnsAbout_of_mem hreport
    simp
  have hstop : (stop.toList.map (stopReport file depth followed)).filter (·.code = "L1001") = [] := by
    rw [List.filter_eq_nil_iff]
    intro report hreport
    obtain ⟨token, -, rfl⟩ := List.mem_map.1 hreport
    exact fun hcode => (code_ne_of_error _).1 (of_decide_eq_true hcode)
  have hending : (ending file drained s).filter (·.code = "L1001") = [] := by
    cases hfailure : drained.failure with
    | some error =>
      rw [ending_of_failure hfailure]
      exact List.filter_cons_of_neg fun hcode =>
        (code_ne_of_error (.lexical error)).1 (of_decide_eq_true hcode)
    | none =>
      rw [ending_of_none hfailure]
      split <;> rfl
  rw [reportsUpTo, List.filter_append, List.filter_append, hwarnings, hstop, hending,
    List.nil_append, List.append_nil]

theorem exists_locations_ending (file : String) (s : Scopes) {place : Span}
    (h : drained.EndsAt place) :
    ∃ places : List Span, (ending file drained s).map (·.location) =
        places.map (fun span => some (span.locate file)) ∧
      ∀ span ∈ places, span = place := by
  cases hfailure : drained.failure with
  | some error =>
    rw [ending_of_failure hfailure]
    exact ⟨[error.span], rfl, by simp [h.failure error hfailure]⟩
  | none =>
    rw [ending_of_none hfailure]
    split
    · refine ⟨[place], ?_, by simp⟩
      have hlast := congrArg (Option.map (·.locate file)) (h.tokens hfailure)
      simpa [leftOpen, Report.warning, Function.comp_def] using hlast
    · exact ⟨[], rfl, by simp⟩

theorem locations_warnings (tokens : List Token) :
    (tokens.flatMap (tokenWarnings file)).map (·.location) =
      (tokens.filter (·.kind.isUnknown)).map (fun token => some (token.span.locate file)) := by
  symm
  rw [← List.forall₂_eq_eq_eq, List.forall₂_map_left_iff, List.forall₂_map_right_iff]
  apply (forall₂_warnsAbout file tokens).imp
  rintro token report ⟨c, -, rfl⟩
  rfl

/-- Every report has a place, and the places are in order. -/
theorem exists_locations {place : Span} (hfollowed : Followed depth drained.tokens followed stop)
    (hends : drained.EndsAt place) :
    ∃ locations : List Location,
      (reportsUpTo file depth followed stop (ending file drained s)).map (·.location) =
        locations.map some ∧
      locations.Pairwise fun location other => location.start ≤ other.start := by
  obtain ⟨places, hplaces, hplace⟩ := exists_locations_ending file s hends
  have hsublist : (followed.filter (·.kind.isUnknown) ++ stop.toList).Sublist drained.tokens :=
    (List.Sublist.append_right List.filter_sublist _).trans hfollowed.append_prefix.sublist
  refine ⟨((followed.filter (·.kind.isUnknown) ++ stop.toList).map (·.span) ++ places).map
    (·.locate file), ?_, ?_⟩
  · simp [reportsUpTo, locations_warnings, hplaces, stopReport, Report.ofErrorAt,
      Function.comp_def]
  · rw [List.pairwise_map, List.pairwise_append, List.pairwise_map]
    refine ⟨hends.ordered.sublist hsublist, ?_, ?_⟩
    · apply List.pairwise_of_forall_mem_list
      intro span hspan other hother
      rw [hplace span hspan, hplace other hother]
    · intro span hspan other hother
      obtain ⟨token, htoken, rfl⟩ := List.mem_map.1 hspan
      rw [hplace other hother]
      exact hends.start_le token (hsublist.subset htoken)

end Parts

/-! ## Main statement -/

/-- What is reported about a drained text, where `depth` levels may be open. -/
structure Judged (file : String) (depth : Nat) (drained : Lexer.Drained) (reports : List Report) :
    Prop where
  /-- Nothing is wrong exactly if the text is read to its end and its braces stay in bounds. -/
  isClean_iff : isClean reports ↔ drained.failure = none ∧ StaysInBounds depth drained.tokens
  /-- The errors are the one at the first brace out of bounds, if there is such a brace, and then the
  lexical one, if there is one. Before that brace each unknown character is warned about. -/
  errors : ∃ followed stop nesting, Followed depth drained.tokens followed stop ∧
    List.Forall₂ (ReportsStop file depth followed) stop.toList nesting ∧
    reports.filter (·.severity = .error) =
      nesting ++ drained.failure.toList.map (lexicalReport file) ∧
    List.Forall₂ (WarnsAbout file) (followed.filter (·.kind.isUnknown))
      (reports.filter (·.code = "L1001"))
  /-- Every report has a place, and the places are in order. -/
  located : ∃ locations : List Location, reports.map (·.location) = locations.map some ∧
    locations.Pairwise fun location other => location.start ≤ other.start

theorem isClean_iff_filter_eq_nil (reports : List Report) :
    isClean reports ↔ reports.filter (·.severity = .error) = [] := by
  simp [isClean, List.filter_eq_nil_iff]

theorem judged_reports (file source : String) {depth : Nat} (hdepth : 1 ≤ depth) :
    Judged file depth (Lexer.ofString source).drain
      (reports file (Scopes.ofDepth depth) source) := by
  obtain ⟨followed, stop, s, hfollowed, -, hreports⟩ := exists_reports_eq file source hdepth
  obtain ⟨place, hends⟩ := Lexer.exists_endsAt source
  rw [hreports]
  constructor
  case isClean_iff =>
    rw [isClean_iff_filter_eq_nil, filter_severity_eq, List.append_eq_nil_iff, List.map_eq_nil_iff,
      List.map_eq_nil_iff, Option.toList_eq_nil_iff, Option.toList_eq_nil_iff,
      hfollowed.stop_eq_none_iff, and_comm]
  case errors =>
    refine ⟨followed, stop, _, hfollowed, ?_, filter_severity_eq, ?_⟩
    · cases stop with
      | none => exact .nil
      | some token => exact .cons (reportsStop_stopReport file hfollowed) .nil
    · rw [filter_code_eq]
      exact forall₂_warnsAbout file followed
  case located => exact exists_locations hfollowed hends

end Check

namespace CommandLine

/-! ## The command -/

/-- A configuration that is loaded leaves room for the outermost level. -/
theorem le_maxDepth_of_loadConfig {files : Files} {maxDepth : Option Nat} {path : Option String}
    {config : Config} (h : loadConfig files maxDepth path = .ok config) : 1 ≤ config.maxDepth := by
  have hvalidated : ∃ loaded : Config,
      (loaded.validate.map fun _ => loaded).mapError ConfigError.message = .ok config := by
    unfold loadConfig at h
    cases path with
    | none => exact ⟨_, h⟩
    | some path =>
      obtain ⟨text, -, h⟩ := Except.bind_eq_ok_iff.1 h
      obtain ⟨loaded, -, h⟩ := Except.bind_eq_ok_iff.1 h
      exact ⟨_, h⟩
  obtain ⟨loaded, hloaded⟩ := hvalidated
  obtain ⟨_, hvalid, rfl⟩ := Except.map_eq_ok_iff.1 (Except.mapError_eq_ok_iff.1 hloaded)
  exact Scopes.le_of_validate hvalid

/-- The outcome of a check that has come to some reports. -/
def Outcome.ofReports (reports : List Report) (json : Bool) : Outcome where
  exitCode := if Check.isClean reports then 0 else 1
  stdout :=
    if json then Report.listToJson reports ++ "\n"
    else if reports.isEmpty then "No errors found\n" else ""
  stderr := if json then "" else Report.listToText reports

theorem checkSource_eq {config : Config} (hdepth : 1 ≤ config.maxDepth) (file source : String)
    (json : Bool) :
    checkSource config file source json =
      .ok (.ofReports (Check.reports file (Scopes.ofDepth config.maxDepth) source) json) := by
  unfold checkSource
  rw [Scopes.create_of_le hdepth]
  change (if _ then _ else _) = _
  generalize Check.reports file (Scopes.ofDepth config.maxDepth) source = reports
  cases json with
  | true => simp [Outcome.ofReports, Outcome.withReports, pure, Except.pure]
  | false =>
    cases reports with
    | nil => rfl
    | cons report reports => simp [Outcome.ofReports, Outcome.withReports, pure, Except.pure]

/-- A check of a text that can be read prints the reports about it, and it ends well exactly if the
text is read to its end and at no place in it more blocks are open than may be, or fewer than
none. -/
theorem run_check_judged (files : Files) (input : String) (maxDepth : Option Nat)
    (path : Option String) (json : Bool) {config : Config} {source : String}
    (hconfig : loadConfig files maxDepth path = .ok config)
    (hsource : readInput files input = .ok source) :
    let outcome := (Request.check input maxDepth path json).run files
    let drained := (Lexer.ofString source).drain
    let reports := Check.reports input (Scopes.ofDepth config.maxDepth) source
    (outcome.exitCode = 0 ↔
      drained.failure = none ∧ Check.StaysInBounds config.maxDepth drained.tokens) ∧
      outcome = .ofReports reports json ∧
      Check.Judged input config.maxDepth drained reports := by
  intro outcome drained reports
  have hdepth := le_maxDepth_of_loadConfig hconfig
  have hjudged : Check.Judged input config.maxDepth drained reports :=
    Check.judged_reports input source hdepth
  have houtcome : outcome = .ofReports reports json := by
    simp only [outcome, Request.run, hconfig, hsource]
    exact congrArg Outcome.ofExcept (checkSource_eq hdepth input source json)
  have hcode : outcome.exitCode = 0 ↔ Check.isClean reports := by
    rw [houtcome]
    simp [Outcome.ofReports]
  exact ⟨hcode.trans hjudged.isClean_iff, houtcome, hjudged⟩

theorem readInput_toUTF8 {files : Files} {path source : String}
    (h : files path = .bytes source.toUTF8) : readInput files path = .ok source := by
  have hdecode : decodeText source.toUTF8 = .ok source := by
    simp [decodeText, String.fromUTF8?, String.toUTF8, source.isValidUTF8, String.fromUTF8]
  rw [readInput, h]
  simp only [hdecode]

/-- An unknown character inside a block, a brace that closes nothing, an unknown character that is
not warned about any more, and a quote that is not closed. -/
theorem run_check_judged_errors :
    let source := "\x7b ?\n\x7d \x7d ? '"
    let files : Files := fun _ => .bytes source.toUTF8
    let drained := (Lexer.ofString source).drain
    let reports := Check.reports "f" (Scopes.ofDepth 2) source
    (loadConfig files (some 2) none = .ok { maxDepth := 2 } ∧
      readInput files "f" = .ok source) ∧
      ((Request.check "f" (some 2) none true).run files).exitCode ≠ 0 ∧
      Check.Judged "f" 2 drained reports ∧
      reports.map (fun report => (report.code, report.location)) =
        [("L1001", some ⟨"f", 1, 2, 3⟩), ("S0002", some ⟨"f", 2, 6, 7⟩),
          ("L0002", some ⟨"f", 2, 10, 11⟩)] := by
  intro source files drained reports
  have hconfig : loadConfig files (some 2) none = .ok { maxDepth := 2 } := rfl
  have hsource : readInput files "f" = .ok source := readInput_toUTF8 rfl
  obtain ⟨hclean, -, hjudged⟩ := run_check_judged files "f" (some 2) none true hconfig hsource
  have hfailure : drained.failure ≠ none := by decide +kernel
  refine ⟨⟨hconfig, hsource⟩, ?_, hjudged, by decide +kernel⟩
  intro hcode
  exact hfailure (hclean.1 hcode).1

end CommandLine

end BlockLang
