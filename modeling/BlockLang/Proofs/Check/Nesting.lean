-- SUMMARY: How far the braces of some tokens can be followed, as told by counting them.
import BlockLang.Check
import Mathlib.Data.List.Infix

namespace BlockLang.Check

/-!
# Nesting

How many blocks are open is the number of braces opened less that of braces closed. The braces of
some tokens can be followed as long as this stays between zero and what may be open, and
`Check.nesting` stops at the first token where it does not: `exists_nests`.
-/

/-! ## Counting braces -/

/-- The number of braces opened in some tokens less that of braces closed. -/
def balance (tokens : List Token) : Int :=
  tokens.countP (·.kind = .mark .leftBrace) - tokens.countP (·.kind = .mark .rightBrace)

/-- By how much a token changes the number of open blocks. -/
def shift : Token.Kind → Int
  | .mark .leftBrace => 1
  | .mark .rightBrace => -1
  | _ => 0

theorem balance_append (tokens others : List Token) :
    balance (tokens ++ others) = balance tokens + balance others := by
  simp only [balance, List.countP_append, Int.natCast_add]
  omega

theorem balance_singleton (token : Token) : balance [token] = shift token.kind := by
  obtain ⟨kind, index, span⟩ := token
  cases kind with
  | mark mark => cases mark <;> rfl
  | _ => rfl

theorem balance_concat (tokens : List Token) (token : Token) :
    balance (tokens ++ [token]) = balance tokens + shift token.kind := by
  rw [balance_append, balance_singleton]

/-- So many blocks inside the outermost level may be open, where `depth` levels may be. -/
def InBounds (depth : Nat) (blocks : Int) : Prop :=
  0 ≤ blocks ∧ blocks < depth

instance (depth : Nat) (blocks : Int) : Decidable (InBounds depth blocks) :=
  inferInstanceAs (Decidable (_ ∧ _))

/-- Wherever one stops in the tokens, so many blocks may be open as are. -/
def StaysInBounds (depth : Nat) (tokens : List Token) : Prop :=
  ∀ read, read <+: tokens → InBounds depth (balance read)

instance (depth : Nat) (tokens : List Token) : Decidable (StaysInBounds depth tokens) :=
  decidable_of_iff (∀ read ∈ tokens.inits, InBounds depth (balance read)) <| by
    simp only [List.mem_inits, StaysInBounds]

theorem staysInBounds_nil {depth : Nat} (hdepth : 1 ≤ depth) : StaysInBounds depth [] := by
  intro read hread
  obtain rfl := List.prefix_nil.1 hread
  exact ⟨Int.le_refl 0, Int.natCast_pos.2 hdepth⟩

theorem staysInBounds_concat_iff {depth : Nat} {tokens : List Token} {token : Token} :
    StaysInBounds depth (tokens ++ [token]) ↔
      StaysInBounds depth tokens ∧ InBounds depth (balance tokens + shift token.kind) := by
  simp only [StaysInBounds, List.prefix_concat_iff, ← balance_concat]
  constructor
  · intro h
    exact ⟨fun read hread => h read (.inr hread), h _ (.inl rfl)⟩
  · rintro ⟨hstays, hlast⟩ read (rfl | hread)
    · exact hlast
    · exact hstays read hread

/-- How far the braces of `tokens` can be followed: to the end, or up to the first token, if there is
one, where more blocks would be open than may be, or fewer than none. -/
inductive Followed (depth : Nat) (tokens : List Token) : List Token → Option Token → Prop
  | whole (hstays : StaysInBounds depth tokens) : Followed depth tokens tokens none
  | upTo {before after : List Token} {token : Token} (htokens : tokens = before ++ token :: after)
      (hstays : StaysInBounds depth before)
      (hleaves : ¬ InBounds depth (balance (before ++ [token]))) :
      Followed depth tokens before (some token)

namespace Followed

variable {depth : Nat} {tokens followed : List Token} {stop : Option Token}

theorem staysInBounds (h : Followed depth tokens followed stop) : StaysInBounds depth followed := by
  cases h with
  | whole hstays => exact hstays
  | upTo _ hstays _ => exact hstays

theorem inBounds (h : Followed depth tokens followed stop) : InBounds depth (balance followed) :=
  h.staysInBounds followed List.prefix_rfl

theorem append_prefix (h : Followed depth tokens followed stop) :
    followed ++ stop.toList <+: tokens := by
  cases h with
  | whole => simp
  | upTo htokens =>
    rw [htokens]
    simp

/-- The tokens are followed to the end exactly if all of them stay in bounds. -/
theorem stop_eq_none_iff (h : Followed depth tokens followed stop) :
    stop = none ↔ StaysInBounds depth tokens := by
  cases h with
  | whole hstays => simp [hstays]
  | upTo htokens _ hleaves =>
    have hnot : ¬ StaysInBounds depth tokens := by
      intro hstays
      exact hleaves (hstays _ (by simp [htokens]))
    simp [hnot]

/-- The first token out of bounds is a brace: it opens the block for which there is no level, or
closes one that was never opened. -/
theorem stops_at {token : Token} (h : Followed depth tokens followed (some token)) :
    (token.kind = .mark .leftBrace ∧ balance (followed ++ [token]) = depth) ∨
      (token.kind = .mark .rightBrace ∧ balance (followed ++ [token]) = -1) := by
  obtain ⟨hlow, hhigh⟩ := h.inBounds
  cases h with
  | upTo _ _ hleaves =>
    simp only [InBounds, balance_concat] at hleaves ⊢
    generalize token.kind = kind at hleaves ⊢
    unfold shift at hleaves ⊢
    split at hleaves
    · exact .inl ⟨rfl, by omega⟩
    · exact .inr ⟨rfl, by omega⟩
    · omega

theorem followed_eq (h : Followed depth tokens followed stop) (hstays : StaysInBounds depth tokens) :
    followed = tokens := by
  cases h with
  | whole => rfl
  | upTo htokens _ hleaves => exact absurd (hstays _ (by simp [htokens])) hleaves

end Followed

/-! ## One token -/

/-- What happens to the open blocks at a token of some kind. -/
inductive LevelChange (s : Scopes) (kind : Token.Kind) : Except ScopeError Scopes → Prop
  | ok {s' : Scopes} (hmax : s'.maxDepth = s.maxDepth) (hlevel : s'.level = s.level + shift kind)
      (hbounds : InBounds s.maxDepth s'.level) : LevelChange s kind (.ok s')
  | overflow (hlevel : s.maxDepth ≤ s.level + shift kind) :
      LevelChange s kind (.error (.overflow s.maxDepth))
  | underflow (hlevel : s.level + shift kind < 0) :
      LevelChange s kind (.error .underflow)

/-- As long as the level is in bounds, it moves with the balance, and a brace that would lead out of
bounds is refused. -/
theorem levelChange {s : Scopes} (hs : InBounds s.maxDepth s.level) (kind : Token.Kind) :
    LevelChange s kind (changeLevel s kind) := by
  unfold changeLevel
  split
  case h_1 =>
    unfold Scopes.openBlock
    split
    · next hdepth =>
      have hlevel : s.level + 1 < s.maxDepth := hdepth
      exact .ok rfl rfl ⟨Int.natCast_nonneg _, Int.ofNat_lt.2 hlevel⟩
    · next hdepth =>
      have hlevel : s.maxDepth ≤ s.level + 1 := Nat.not_lt.1 hdepth
      exact .overflow (Int.ofNat_le.2 hlevel)
  case h_2 =>
    unfold Scopes.closeBlock
    split
    · next henclosing =>
      have hlevel : s.level = 0 := by rw [Scopes.level, henclosing, List.length_nil]
      exact .underflow (by rw [hlevel]; decide)
    · next outer rest henclosing =>
      have hlevel : s.level = rest.length + 1 := by rw [Scopes.level, henclosing, List.length_cons]
      have hclosed : (rest.length : Int) = s.level + shift (.mark .rightBrace) := by
        rw [hlevel, shift]
        omega
      rw [hlevel] at hs
      have hlower : (rest.length : Int) < s.maxDepth :=
        Int.lt_trans (Int.ofNat_lt.2 (Nat.lt_succ_self _)) hs.2
      exact .ok rfl hclosed ⟨Int.natCast_nonneg _, hlower⟩
  case h_3 hopen hclose =>
    have hstay : shift kind = 0 := by
      unfold shift
      split
      · exact absurd rfl hopen
      · exact absurd rfl hclose
      · rfl
    exact .ok rfl (by rw [hstay, Int.add_zero]) hs

/-! ## All tokens -/

/-- Why so many blocks cannot be open: fewer than none, or else more than may be. -/
def stopError (depth : Nat) (blocks : Int) : ScopeError :=
  if blocks < 0 then .underflow else .overflow depth

/-- The report about the token at which the tokens before it can be followed no further. -/
def stopReport (file : String) (depth : Nat) (followed : List Token) (token : Token) : Report :=
  .ofErrorAt (.scope (stopError depth (balance (followed ++ [token])))) (token.span.locate file)

/-- After `before`, the tokens of `rest` are followed as far as `more`, and `result` tells of the
unknown characters among these and of the brace at which it ends. -/
structure Nests (file : String) (depth : Nat) (before rest more : List Token) (stop : Option Token)
    (result : List Report × Scopes) : Prop where
  followed : Followed depth (before ++ rest) (before ++ more) stop
  reports : result.1 = more.flatMap (tokenWarnings file) ++
    stop.toList.map (stopReport file depth (before ++ more))
  level : result.2.level = balance (before ++ more)

section Nests

variable {file : String} {depth : Nat} {s s' : Scopes} {before rest more : List Token}
  {token : Token} {stop : Option Token}

theorem nests_nil (hlevel : s.level = balance before) (hstays : StaysInBounds depth before) :
    Nests file depth before [] [] none (nesting file s []) where
  followed := .whole (by rwa [List.append_nil])
  reports := rfl
  level := by rwa [List.append_nil]

theorem Nests.cons (hchange : changeLevel s token.kind = .ok s')
    (h : Nests file depth (before ++ [token]) rest more stop (nesting file s' rest)) :
    Nests file depth before (token :: rest) (token :: more) stop
      (nesting file s (token :: rest)) := by
  obtain ⟨hfollowed, hreports, hlevel⟩ := h
  simp only [List.append_assoc, List.singleton_append] at hfollowed hreports hlevel
  constructor
  case followed => exact hfollowed
  case reports => simp [nesting, hchange, hreports]
  case level => simpa [nesting, hchange] using hlevel

theorem nests_stop {error : ScopeError} (hchange : changeLevel s token.kind = .error error)
    (hlevel : s.level = balance before) (hstays : StaysInBounds depth before)
    (hleaves : ¬ InBounds depth (balance (before ++ [token])))
    (herror : error = stopError depth (balance (before ++ [token]))) :
    Nests file depth before (token :: rest) [] (some token) (nesting file s (token :: rest)) where
  followed := by
    rw [List.append_nil]
    exact .upTo rfl hstays hleaves
  reports := by simp [nesting, hchange, stopReport, herror]
  level := by simp [nesting, hchange, hlevel]

end Nests

/-- After some tokens that have been followed, the rest is followed as far as it can be. -/
theorem exists_nests {depth : Nat} (file : String) {s : Scopes} {before : List Token}
    (hmax : s.maxDepth = depth) (hlevel : s.level = balance before)
    (hstays : StaysInBounds depth before) (rest : List Token) :
    ∃ more stop, Nests file depth before rest more stop (nesting file s rest) := by
  -- The tokens before vary, since the next one joins them; their balance stays the level.
  induction rest generalizing s before with
  | nil => exact ⟨[], none, nests_nil hlevel hstays⟩
  | cons token rest ih =>
    have hs : InBounds s.maxDepth s.level := by
      rw [hmax, hlevel]
      exact hstays before List.prefix_rfl
    have hchange := levelChange hs token.kind
    generalize hresult : changeLevel s token.kind = result at hchange
    cases hchange with
    | @ok s' hmax' hlevel' hbounds =>
      have hstays' : StaysInBounds depth (before ++ [token]) :=
        staysInBounds_concat_iff.2 ⟨hstays, by rwa [← hmax, ← hlevel, ← hlevel']⟩
      have hbalance : s'.level = balance (before ++ [token]) := by
        rw [balance_concat, hlevel', hlevel]
      obtain ⟨more, stop, hnests⟩ := ih (hmax'.trans hmax) hbalance hstays'
      exact ⟨token :: more, stop, hnests.cons hresult⟩
    | overflow hhigh =>
      rw [hlevel, ← balance_concat, hmax] at hhigh
      refine ⟨[], some token, nests_stop hresult hlevel hstays ?_ ?_⟩
      · exact fun hbounds => Int.not_lt.2 hhigh hbounds.2
      · have hnot : ¬ balance (before ++ [token]) < 0 :=
          Int.not_lt.2 (Int.le_trans (Int.natCast_nonneg _) hhigh)
        rw [stopError, if_neg hnot, hmax]
    | underflow hlow =>
      rw [hlevel, ← balance_concat] at hlow
      refine ⟨[], some token, nests_stop hresult hlevel hstays ?_ ?_⟩
      · exact fun hbounds => Int.not_lt.2 hbounds.1 hlow
      · rw [stopError, if_pos hlow]

end BlockLang.Check
