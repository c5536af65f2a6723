-- SUMMARY: Which blocks the warning about blocks left open counts.
import BlockLang.Proofs.Check.Verdict

namespace BlockLang.Check

/-!
# Blocks left open

A text that is read to its end is warned about when blocks are still open where its braces stop being
followed. If they are followed to the end, these are the blocks that the text leaves open:
`leftOpen_counts_followed`. A brace out of bounds ends the nesting check, though, and the braces from
there on are not counted: `leftOpen_counts_closed`.
-/

variable {file : String} {depth : Nat} {followed : List Token} {stop : Option Token}
  {drained : Lexer.Drained} {s : Scopes} {report : Report}

theorem mem_ending_iff :
    report ∈ ending file drained s ∧ report.code = "S1001" ↔
      drained.failure = none ∧ 0 < s.level ∧
        report = leftOpen file s.level drained.tokens.getLast? := by
  cases hfailure : drained.failure with
  | some error =>
    rw [ending_of_failure hfailure]
    have hcode := (code_ne_of_error (.lexical error)).2
    constructor
    · rintro ⟨hmem, hreport⟩
      obtain rfl := List.mem_singleton.1 hmem
      exact absurd hreport hcode
    · rintro ⟨hnone, -⟩
      cases hnone
  | none =>
    rw [ending_of_none hfailure]
    constructor
    · rintro ⟨hmem, -⟩
      split at hmem
      · next hopen => exact ⟨rfl, hopen, List.mem_singleton.1 hmem⟩
      · cases hmem
    · rintro ⟨-, hopen, rfl⟩
      rw [if_pos hopen]
      exact ⟨List.mem_singleton_self _, rfl⟩

/-- Among all reports only one about the end of the text can be the warning. -/
theorem mem_reportsUpTo_iff {last : List Report} :
    report ∈ reportsUpTo file depth followed stop last ∧ report.code = "S1001" ↔
      report ∈ last ∧ report.code = "S1001" := by
  apply and_congr_left
  intro hcode
  rw [reportsUpTo, List.mem_append, List.mem_append]
  constructor
  · rintro (hmem | hmem | hmem)
    · obtain ⟨token, -, c, -, rfl⟩ := warnsAbout_of_mem hmem
      exact absurd hcode (by simp)
    · obtain ⟨token, -, rfl⟩ := List.mem_map.1 hmem
      exact absurd hcode (code_ne_of_error _).2
    · exact hmem
  · exact fun hmem => .inr (.inr hmem)

/-- The warning is given exactly if the text is read to its end and blocks are open where its braces
stop being followed, and it counts these blocks. They are the blocks that the whole text leaves open
as long as its braces stay in bounds. -/
theorem leftOpen_counts_followed (file source : String) {depth : Nat} (hdepth : 1 ≤ depth) :
    let drained := (Lexer.ofString source).drain
    ∃ followed stop, Followed depth drained.tokens followed stop ∧
      (StaysInBounds depth drained.tokens → balance followed = balance drained.tokens) ∧
      ∀ report, report ∈ reports file (Scopes.ofDepth depth) source ∧ report.code = "S1001" ↔
        drained.failure = none ∧ ∃ blocks : Nat, 0 < blocks ∧ balance followed = blocks ∧
          report = leftOpen file blocks drained.tokens.getLast? := by
  intro drained
  obtain ⟨followed, stop, s, hfollowed, hlevel, hreports⟩ := exists_reports_eq file source hdepth
  refine ⟨followed, stop, hfollowed, ?_, ?_⟩
  · intro hstays
    rw [hfollowed.followed_eq hstays]
  · intro report
    rw [hreports, mem_reportsUpTo_iff, mem_ending_iff, ← hlevel]
    apply and_congr_right'
    constructor
    · rintro ⟨hopen, hreport⟩
      exact ⟨s.level, hopen, rfl, hreport⟩
    · rintro ⟨blocks, hopen, hblocks, hreport⟩
      obtain rfl := Int.ofNat_inj.1 hblocks
      exact ⟨hopen, hreport⟩

/-- Two of three blocks stay open where four levels may be open. -/
theorem leftOpen_counts_followed_two :
    let source := "\x7b x \x7b \x7b \x7d"
    let drained := (Lexer.ofString source).drain
    1 ≤ 4 ∧ StaysInBounds 4 drained.tokens ∧ balance drained.tokens = 2 ∧
      (leftOpen "f" 2 drained.tokens.getLast? ∈ reports "f" (Scopes.ofDepth 4) source ∧
        (leftOpen "f" 2 drained.tokens.getLast?).code = "S1001") := by
  intro source drained
  have hstays : StaysInBounds 4 drained.tokens := by decide +kernel
  have hbalance : balance drained.tokens = 2 := by decide +kernel
  have hdepth : 1 ≤ 4 := by decide
  obtain ⟨followed, stop, -, hfollowed, hreport⟩ := leftOpen_counts_followed "f" source hdepth
  refine ⟨hdepth, hstays, hbalance, (hreport _).2 ⟨by decide +kernel, 2, by decide, ?_, rfl⟩⟩
  rw [hfollowed hstays, hbalance]
  rfl

/-- Where two levels may be open, the second of two braces is out of bounds. Then one block is said to
be left open by a text that closes both. -/
theorem leftOpen_counts_closed :
    let source := "\x7b\x7b\x7d\x7d"
    let drained := (Lexer.ofString source).drain
    let warning := leftOpen "f" 1 drained.tokens.getLast?
    warning ∈ reports "f" (Scopes.ofDepth 2) source ∧ warning.code = "S1001" ∧
      warning.message = "1 block(s) left open at end of input" ∧ drained.failure = none ∧
      balance drained.tokens = 0 := by
  decide +kernel

end BlockLang.Check
