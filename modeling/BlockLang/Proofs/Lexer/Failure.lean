-- SUMMARY: The error that ends a text names what is wrong, and where.
import BlockLang.Proofs.Lexeme.Cause
import BlockLang.Proofs.Lexer.Lines

namespace BlockLang.Lexer

/-!
# Failures

A text is read up to the first place where no lexeme can be read. What stands there tells which error
it is, and the error tells the characters and the line of it: `names_cause`.
-/

/-- The first character behind the last one of some tokens and the blanks after it. -/
def placeBehind (source : List Char) (tokens : List Token) : Nat :=
  let stop := (tokens.getLast?.map (·.span.stop)).getD 0
  stop + ((source.drop stop).takeWhile Text.isBlank).length

/-- How reading ends at the place `p`. -/
inductive Ends (source : List Char) (p : Nat) : Option LexicalError → Prop
  /-- There is nothing left to read. -/
  | whole (hp : p = source.length) : Ends source p none
  /-- No lexeme can be read. -/
  | fault {fault : LexicalFault} {consumed rest : List Char}
      (hdrop : source.drop p = consumed ++ rest)
      (hread : Lexeme.read (consumed ++ rest) = .fault fault consumed rest) :
      Ends source p (some ⟨fault, ⟨p, p + consumed.length, lineAt source p⟩⟩)

/-! ## The last pull -/

/-- The last item is pulled right behind the last token. -/
theorem Yields.exists_last_pull {source read : List Char} {l l' : Lexer} {tokens : List Token}
    {last : Item} (h : l.Yields tokens last l') (active : l.state = .active)
    (hreached : Reached source read l) :
    ∃ m read', m.state = .active ∧ Reached source read' m ∧ m.next = (last, l') ∧
      read'.length = (tokens.getLast?.map (·.span.stop)).getD read.length := by
  induction h generalizing read with
  | last hnext _ => exact ⟨_, read, active, hreached, hnext, rfl⟩
  | @token l l' l'' token tokens last hnext hend _ ih =>
    have hpull := pull_of_next hnext
    obtain ⟨blanks, taken, htakes⟩ := hpull.exists_takes active
    have hreached' := hreached.next htakes
    obtain ⟨m, read', active', hm, hlast, hlength⟩ := ih (hpull.active_of_token hend).2 hreached'
    refine ⟨m, read', active', hm, hlast, ?_⟩
    rw [hlength, ← hreached'.offset, ← htakes.stop_eq, List.getLast?_cons]
    cases tokens.getLast? <;> rfl

/-- Behind the last token, a lexer has come to the blanks before the place. -/
theorem Reached.placeBehind_eq {source read blanks text : List Char} {l : Lexer}
    {tokens : List Token} (h : Reached source read l)
    (hsplits : Text.Splits Text.isBlank l.rest blanks text)
    (hlength : read.length = (tokens.getLast?.map (·.span.stop)).getD 0) :
    placeBehind source tokens = (l.position.advance blanks).offset ∧
      source.drop (placeBehind source tokens) = text := by
  have hplace : placeBehind source tokens = read.length + blanks.length := by
    rw [placeBehind, ← hlength, ← h.append, List.drop_left, hsplits.takeWhile_eq]
  constructor
  · rw [hplace, Position.advance, h.offset]
  · rw [hplace, ← h.append, ← hsplits.append, ← List.length_append, ← List.append_assoc,
      List.drop_left]

theorem ends_drain (source : String) :
    Ends source.toList (placeBehind source.toList (ofString source).drain.tokens)
      (ofString source).drain.failure := by
  obtain ⟨tokens, last, l', hyields⟩ := (ofString source).exists_yields
  obtain ⟨m, read, active, hreached, hnext, hlength⟩ :=
    hyields.exists_last_pull rfl (reached_ofString source)
  have hlast := hyields.isLast
  simp only [hyields.drain_eq]
  cases pull_of_next hnext with
  | halted hhalted => cases active.symm.trans hhalted
  | finished hfinished => cases active.symm.trans hfinished
  | finish _ hblanks =>
    have hstop : (m.position.advance m.rest).offset = source.toList.length := by
      simp [Position.advance, hreached.offset, ← hreached.append]
    refine .whole ?_
    simp [placeBehind, Except.toOption, endAt, Position.to, hstop]
  | lexeme => simp [Item.isLast, isEnd_tokenAt] at hlast
  | @fault _ fault blanks consumed rest error hsplits hread herror =>
    obtain ⟨hplace, hdrop⟩ := hreached.placeBehind_eq hsplits hlength
    have hline := hreached.line_skip (takes_fault hsplits hread herror)
    rw [← hplace] at hline
    have hspan : (m.position.advance blanks).to ((m.position.advance blanks).advance consumed) =
        ⟨placeBehind source.toList tokens, placeBehind source.toList tokens + consumed.length,
          lineAt source.toList (placeBehind source.toList tokens)⟩ := by
      rw [← hline, hplace]
      rfl
    simp only [Except.toOption, Option.toList_none, List.append_nil, Item.failure?, herror, hspan]
    exact .fault hdrop hread

/-! ## Causes and errors -/

/-- Reading ends in an error exactly for its cause. -/
theorem Ends.eq_some_iff {source : List Char} {p : Nat} {failure : Option LexicalError}
    (h : Ends source p failure) {fault : LexicalFault} {span : Span} :
    failure = some ⟨fault, span⟩ ↔
      ∃ length, Lexeme.Faulty (source.drop p) length fault ∧
        span = ⟨p, p + length, lineAt source p⟩ := by
  cases h with
  | whole hp =>
    subst hp
    simp [Lexeme.not_faulty_nil]
  | @fault actual consumed rest hdrop hread =>
    have hactual := Lexeme.faulty_of_read hread
    rw [hdrop]
    constructor
    · rintro ⟨⟩
      exact ⟨_, hactual, rfl⟩
    · rintro ⟨length, hfaulty, rfl⟩
      obtain ⟨rfl, -⟩ := Lexeme.Reading.fault.inj (hread.symm.trans hfaulty.read_eq)
      rw [hactual.length_eq hfaulty]

theorem Ends.eq_none_iff {source : List Char} {p : Nat} {failure : Option LexicalError}
    (h : Ends source p failure) : failure = none ↔ p = source.length := by
  cases h with
  | whole hp => simp [hp]
  | @fault actual consumed rest hdrop hread =>
    have hlength := congrArg List.length hdrop
    have hpos := List.length_pos_iff.2 (Lexeme.stops_of_read hread).consumed_ne_nil
    simp only [List.length_drop, List.length_append] at hlength
    simp only [reduceCtorEq, false_iff]
    omega

/-- The error that reading ends in tells what stands at the place `p`. -/
structure NamesCause (source : List Char) (p : Nat) (failure : Option LexicalError) : Prop where
  /-- A quote that no other quote follows. -/
  unterminatedString : ∀ span, failure = some ⟨.unterminatedString, span⟩ ↔
    source[p]? = some '"' ∧ '"' ∉ source.drop (p + 1) ∧
      span = ⟨p, source.length, lineAt source p⟩
  /-- A single quote with no other one behind the next character. -/
  expectedClosingQuote : ∀ span, failure = some ⟨.expectedClosingQuote, span⟩ ↔
    source[p]? = some '\'' ∧ source[p + 2]? ≠ some '\'' ∧
      span = ⟨p, min (p + 2) source.length, lineAt source p⟩
  /-- One half of a mark that is written twice. -/
  undoubledOperator : ∀ operator found span,
    failure = some ⟨.undoubledOperator operator found, span⟩ ↔
      (operator = '&' ∨ operator = '|') ∧ source[p]? = some operator ∧
        source[p + 1]? ≠ some operator ∧ found = source[p + 1]? ∧
        span = ⟨p, p + 1, lineAt source p⟩
  /-- All digits from the place on, if their value does not fit in a word. -/
  numeralOutOfRange : ∀ digits span, failure = some ⟨.numeralOutOfRange digits, span⟩ ↔
    digits.toList = (source.drop p).takeWhile Char.isDigit ∧ digits.toList ≠ [] ∧
      wordBound ≤ Lexeme.numeralValue digits.toList ∧
      span = ⟨p, p + digits.toList.length, lineAt source p⟩
  /-- There is no error exactly if the place is the end of the source. -/
  whole : failure = none ↔ p = source.length

theorem Ends.namesCause {source : List Char} {p : Nat} {failure : Option LexicalError}
    (h : Ends source p failure) : NamesCause source p failure := by
  have hlt : ∀ {c}, source[p]? = some c → p < source.length :=
    fun hc => (List.getElem?_eq_some_iff.1 hc).1
  constructor
  case unterminatedString =>
    intro span
    simp only [h.eq_some_iff, Lexeme.Faulty, List.head?_drop, List.drop_drop, List.length_drop,
      existsAndEq, true_and, and_assoc]
    refine and_congr_right fun hc => ?_
    have hstop : p + (source.length - p) = source.length := by
      have := hlt hc
      omega
    rw [hstop]
  case expectedClosingQuote =>
    intro span
    simp only [h.eq_some_iff, Lexeme.Faulty, List.head?_drop, List.getElem?_drop, List.length_drop,
      existsAndEq, true_and, and_assoc]
    refine and_congr_right fun hc => ?_
    have hstop : p + min 2 (source.length - p) = min (p + 2) source.length := by
      have := hlt hc
      omega
    rw [hstop]
  case undoubledOperator =>
    intro operator found span
    simp only [h.eq_some_iff, Lexeme.Faulty, List.head?_drop, List.getElem?_drop, existsAndEq,
      true_and, and_assoc]
  case numeralOutOfRange =>
    intro digits span
    simp only [h.eq_some_iff, Lexeme.Faulty, existsAndEq, true_and, and_assoc]
    refine and_congr_right fun _ => ?_
    -- No digits at all have the value zero.
    have hne : wordBound ≤ Lexeme.numeralValue digits.toList → digits.toList ≠ [] := by
      intro hvalue hnil
      rw [hnil] at hvalue
      exact Nat.not_le.2 Lexeme.numeralValue_nil hvalue
    exact ⟨fun hall => ⟨hne hall.1, hall⟩, fun hall => hall.2⟩
  case whole => exact h.eq_none_iff

/-- Every pull that fails reports the error that draining ends in. -/
theorem failure_of_stream {l : Lexer} {n : Nat} {error : LexicalError}
    (h : l.stream n = .error error) : l.drain.failure = some error := by
  obtain ⟨tokens, last, l', hyields⟩ := l.exists_yields
  rw [hyields.stream_eq, Feed.get] at h
  rw [hyields.drain_eq]
  cases hget : tokens[n]? with
  | some token => simp [hget] at h
  | none =>
    obtain rfl : last = .error error := by simpa [hget] using h
    rfl

/-- The error that reading a text ends in names what stands behind the last token, and where; and no
pull reports any other error. -/
theorem names_cause (source : String) :
    NamesCause source.toList (placeBehind source.toList (ofString source).drain.tokens)
        (ofString source).drain.failure ∧
      ∀ n error, (ofString source).stream n = .error error →
        (ofString source).drain.failure = some error :=
  ⟨(ends_drain source).namesCause, fun _ _ => failure_of_stream⟩

/-- A quoted quote is a character, and two quotes alone are none. A numeral may begin with any number
of zeros. -/
example : (ofString "'''").drain.failure = none ∧
    (ofString "''").drain.failure = some ⟨.expectedClosingQuote, ⟨0, 2, 1⟩⟩ ∧
    (ofString "00018446744073709551615").drain.failure = none ∧
    (ofString "\n18446744073709551616").drain.failure =
      some ⟨.numeralOutOfRange "18446744073709551616", ⟨1, 21, 2⟩⟩ := by
  decide +kernel

end BlockLang.Lexer
