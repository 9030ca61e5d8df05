import UnderstandProof.Auth.Handoff

/-!
# What one step of a handoff changes

The steps of the creations and the exchanges, each with what it has read and what it writes. A step
of another part of the application changes no token, no material, no call and no lock.
-/

open Foundation

namespace UnderstandProof

namespace Auth

open Domain (AttemptStatus Timestamp)

/-! ## Statements on `handoff_tokens` -/

namespace HandoffToken

variable {selected : HandoffToken → Bool} {now : Timestamp} {tokens tokens' : List HandoffToken}
  {sessions : List SessionRow} {token : HandoffToken}

theorem consumeAll_eq_some : consumeAll selected now tokens = some tokens' ↔
    (∀ token ∈ tokens, selected token = true → token.consumedAt = none) ∧
      tokens' = tokens.map fun token => if selected token then token.consume now else token := by
  simp only [consumeAll, Option.ite_none_left_eq_some, Bool.not_eq_true, List.any_eq_false,
    Bool.and_eq_false_imp, Option.isSome_eq_false_iff, Option.isNone_iff_eq_none,
    Option.some.injEq, eq_comm (a := tokens')]

theorem insert_eq_some : insert sessions token tokens = some tokens' ↔
    (∀ other ∈ tokens, other.id ≠ token.id ∧ other.tokenHash ≠ token.tokenHash ∧
      (other.attemptId = token.attemptId → other.consumedAt = none → token.consumedAt ≠ none)) ∧
    (∃ session ∈ sessions, session.id = token.desktopSessionId) ∧
    tokens' = tokens ++ [token] := by
  simp only [insert, Option.ite_none_left_eq_some, Option.ite_none_right_eq_some,
    List.any_eq_true, not_exists, not_and, Bool.or_eq_true, Bool.and_eq_true, decide_eq_true_eq,
    not_or, Option.isNone_iff_eq_none, isOpenOf, and_assoc, ne_eq, Option.some.injEq,
    eq_comm (a := tokens')]

end HandoffToken

namespace HandoffSystem

variable (hash : CredentialPurpose → JsString → JsString)

/-- What a step does where it is taken. -/
inductive Moves (s : HandoffSystem) : HandoffEvent → HandoffSystem → Prop
  | beginCreation (call : ℕ) (input : CreateInput) (phase : CreationPhase)
      (hnew : s.creations call = none)
      (hphase : phase = .answered (.error .rejected) ∨
        ∃ isCurrent, s.readCurrent input.attemptId = some isCurrent ∧
          phase = .reading input isCurrent) :
      Moves s (.beginCreation call input) (s.setCreation call phase)
  | refuseCreation (call : ℕ) (event : HandoffEvent) (input : CreateInput) (isCurrent : Bool)
      (error : HandoffError) (hevent : event = .lockAttempt call ∨ event = .abortCreation call)
      (hphase : s.creations call = some (.reading input isCurrent)) :
      Moves s event (s.setCreation call (.answered (.error error)))
  | lockAttempt (call : ℕ) (input : CreateInput) (isCurrent : Bool) (attempt : AttemptRow)
      (hphase : s.creations call = some (.reading input isCurrent))
      (hfree : s.attemptLocks input.attemptId = none)
      (hattempt : s.attempts input.attemptId = some attempt)
      (hadmits : input.admits attempt isCurrent = true) :
      Moves s (.lockAttempt call) { s.setCreation call (.locked input attempt.expiresAt) with
        attemptLocks := s.attemptLocks.set input.attemptId call }
  | failCreation (call : ℕ) (event : HandoffEvent) (input : CreateInput)
      (attemptExpiresAt : Timestamp)
      (hevent : (∃ draw, event = .commitCreation call draw) ∨ event = .abortCreation call)
      (hphase : s.creations call = some (.locked input attemptExpiresAt)) :
      Moves s event ((s.unlockAttempt input.attemptId).setCreation call
        (.answered (.error .failed)))
  | commitCreation (call : ℕ) (draw : CreationDraw) (input : CreateInput)
      (attemptExpiresAt : Timestamp) (tokens : List HandoffToken)
      (hphase : s.creations call = some (.locked input attemptExpiresAt))
      (hfree : s.openTokensFree input.attemptId = true)
      (htokens : s.createdTokens hash input attemptExpiresAt draw = some tokens) :
      Moves s (.commitCreation call draw) { (s.unlockAttempt input.attemptId).setCreation call
        (.answered (.ok ⟨draw.token, input.handoffExpiresAt attemptExpiresAt⟩)) with tokens }
  | beginExchange (call : ℕ) (input : ExchangeInput) (phase : ExchangePhase)
      (hnew : s.exchanges call = none)
      (hphase : (∃ error, phase = .answered (.error error)) ∨
        ∃ row, s.readGrant (hash .handoff input.token) = some row ∧ phase = .reading input row) :
      Moves s (.beginExchange call input) (s.setExchange call phase)
  | refuseExchange (call : ℕ) (event : HandoffEvent) (input : ExchangeInput) (row : GrantRow)
      (error : HandoffError) (hevent : event = .lockToken call ∨ event = .abortExchange call)
      (hphase : s.exchanges call = some (.reading input row)) :
      Moves s event (s.setExchange call (.answered (.error error)))
  | lockToken (call : ℕ) (input : ExchangeInput) (row : GrantRow) (token : HandoffToken)
      (hphase : s.exchanges call = some (.reading input row))
      (hfree : s.tokenLocks row.handoffId = none)
      (htoken : s.tokens.find? (fun token => token.id = row.handoffId) = some token)
      (hadmits : row.admits token.consumedAt input.now = true) :
      Moves s (.lockToken call) { s.setExchange call (.granted input row) with
        tokenLocks := s.tokenLocks.set row.handoffId call }
  | failExchange (call : ℕ) (event : HandoffEvent) (input : ExchangeInput) (row : GrantRow)
      (hevent : (∃ draw, event = .commitExchange call draw) ∨ event = .abortExchange call)
      (hphase : s.exchanges call = some (.granted input row)) :
      Moves s event ((s.unlockToken row.handoffId).setExchange call (.answered (.error .failed)))
  | commitExchange (call : ℕ) (draw : ExchangeDraw) (input : ExchangeInput) (row : GrantRow)
      (written : Exchanged) (hphase : s.exchanges call = some (.granted input row))
      (hfree : s.attemptLocks row.attemptId = none)
      (hwritten : s.exchanged hash input row draw = some written) :
      Moves s (.commitExchange call draw) { (s.unlockToken row.handoffId).setExchange call
        (.answered (.ok written.answer)) with
          tokens := written.tokens
          sessions := written.sessions
          materials := written.materials }
  | aside (event : HandoffEvent) (s' : HandoffSystem)
      (hcreation : event.creationCall = none) (hexchange : event.exchangeCall = none)
      (htokens : s'.tokens = s.tokens) (hmaterials : s'.materials = s.materials)
      (hcreations : s'.creations = s.creations) (hexchanges : s'.exchanges = s.exchanges)
      (hattemptLocks : s'.attemptLocks = s.attemptLocks)
      (htokenLocks : s'.tokenLocks = s.tokenLocks) :
      Moves s event s'

section Inversion

variable {hash} {s s' : HandoffSystem} {call : ℕ}

theorem moves_of_beginCreation {input : CreateInput}
    (h : s.beginCreation call input = some s') : Moves hash s (.beginCreation call input) s' := by
  unfold beginCreation at h
  obtain ⟨hnew, h⟩ := Option.ite_none_left_eq_some.mp h
  rw [Option.not_isSome_iff_eq_none] at hnew
  split at h
  · cases h
    exact .beginCreation call input _ hnew (.inl rfl)
  · split at h
    · cases h
      exact .beginCreation call input _ hnew (.inl rfl)
    · next isCurrent hread =>
      cases h
      exact .beginCreation call input _ hnew (.inr ⟨isCurrent, hread, rfl⟩)

theorem moves_of_lockAttempt (h : s.lockAttempt call = some s') :
    Moves hash s (.lockAttempt call) s' := by
  unfold lockAttempt at h
  split at h
  · next input isCurrent hphase =>
    obtain ⟨hfree, h⟩ := Option.ite_none_left_eq_some.mp h
    rw [Option.not_isSome_iff_eq_none] at hfree
    split at h
    · cases h
      exact .refuseCreation call _ input isCurrent _ (.inl rfl) hphase
    · next attempt hattempt =>
      split at h
      · cases h
        exact .refuseCreation call _ input isCurrent _ (.inl rfl) hphase
      · next hadmits =>
        cases h
        exact .lockAttempt call input isCurrent attempt hphase hfree hattempt
          (Bool.not_eq_false _ ▸ hadmits)
  · cases h

theorem moves_of_commitCreation {draw : CreationDraw}
    (h : s.commitCreation hash call draw = some s') :
    Moves hash s (.commitCreation call draw) s' := by
  unfold commitCreation at h
  split at h
  · next input attemptExpiresAt hphase =>
    obtain ⟨hfree, h⟩ := Option.ite_none_left_eq_some.mp h
    rw [Bool.not_eq_false] at hfree
    split at h
    · cases h
      exact .failCreation call _ input attemptExpiresAt (.inl ⟨draw, rfl⟩) hphase
    · next tokens htokens =>
      cases h
      exact .commitCreation call draw input attemptExpiresAt tokens hphase hfree htokens
  · cases h

theorem moves_of_abortCreation (h : s.abortCreation call = some s') :
    Moves hash s (.abortCreation call) s' := by
  unfold abortCreation at h
  split at h
  · next input isCurrent hphase =>
    cases h
    exact .refuseCreation call _ input isCurrent _ (.inr rfl) hphase
  · next input attemptExpiresAt hphase =>
    cases h
    exact .failCreation call _ input attemptExpiresAt (.inr rfl) hphase
  · cases h

theorem moves_of_beginExchange {input : ExchangeInput}
    (h : s.beginExchange hash call input = some s') :
    Moves hash s (.beginExchange call input) s' := by
  unfold beginExchange at h
  obtain ⟨hnew, h⟩ := Option.ite_none_left_eq_some.mp h
  rw [Option.not_isSome_iff_eq_none] at hnew
  split at h
  · cases h
    exact .beginExchange call input _ hnew (.inl ⟨_, rfl⟩)
  · split at h
    · cases h
      exact .beginExchange call input _ hnew (.inl ⟨_, rfl⟩)
    · next row hread =>
      cases h
      exact .beginExchange call input _ hnew (.inr ⟨row, hread, rfl⟩)

theorem moves_of_lockToken (h : s.lockToken call = some s') :
    Moves hash s (.lockToken call) s' := by
  unfold lockToken at h
  split at h
  · next input row hphase =>
    obtain ⟨hfree, h⟩ := Option.ite_none_left_eq_some.mp h
    rw [Option.not_isSome_iff_eq_none] at hfree
    split at h
    · cases h
      exact .refuseExchange call _ input row _ (.inl rfl) hphase
    · next token htoken =>
      split at h
      · cases h
        exact .refuseExchange call _ input row _ (.inl rfl) hphase
      · next hadmits =>
        cases h
        exact .lockToken call input row token hphase hfree htoken
          (Bool.not_eq_false _ ▸ hadmits)
  · cases h

theorem moves_of_commitExchange {draw : ExchangeDraw}
    (h : s.commitExchange hash call draw = some s') :
    Moves hash s (.commitExchange call draw) s' := by
  unfold commitExchange at h
  split at h
  · next input row hphase =>
    obtain ⟨hfree, h⟩ := Option.ite_none_left_eq_some.mp h
    rw [Option.not_isSome_iff_eq_none] at hfree
    split at h
    · cases h
      exact .failExchange call _ input row (.inl ⟨draw, rfl⟩) hphase
    · next written hwritten =>
      cases h
      exact .commitExchange call draw input row written hphase hfree hwritten
  · cases h

theorem moves_of_abortExchange (h : s.abortExchange call = some s') :
    Moves hash s (.abortExchange call) s' := by
  unfold abortExchange at h
  split at h
  · next input row hphase =>
    cases h
    exact .refuseExchange call _ input row _ (.inr rfl) hphase
  · next input row hphase =>
    cases h
    exact .failExchange call _ input row (.inr rfl) hphase
  · cases h

end Inversion

variable {hash} {s s' : HandoffSystem} {event : HandoffEvent}

/-- Every step that is taken is one of the moves. -/
theorem moves_of_next (h : s.next hash event = some s') : Moves hash s event s' := by
  cases event with
  | beginCreation call input => exact moves_of_beginCreation h
  | lockAttempt call => exact moves_of_lockAttempt h
  | commitCreation call draw => exact moves_of_commitCreation h
  | abortCreation call => exact moves_of_abortCreation h
  | beginExchange call input => exact moves_of_beginExchange h
  | lockToken call => exact moves_of_lockToken h
  | commitExchange call draw => exact moves_of_commitExchange h
  | abortExchange call => exact moves_of_abortExchange h
  | insertAttempt attemptId attempt =>
      obtain ⟨-, hs⟩ := Option.ite_none_left_eq_some.mp h
      cases hs
      exact .aside _ _ rfl rfl rfl rfl rfl rfl rfl rfl
  | transitionAttempt attemptId status =>
      obtain ⟨-, hs⟩ := Option.ite_none_left_eq_some.mp h
      obtain ⟨attempt, -, rfl⟩ := Option.map_eq_some_iff.mp hs
      exact .aside _ _ rfl rfl rfl rfl rfl rfl rfl rfl
  | setCurrent revisionId isCurrent =>
      cases h
      exact .aside _ _ rfl rfl rfl rfl rfl rfl rfl rfl
  | insertSession session =>
      obtain ⟨-, hs⟩ := Option.ite_none_left_eq_some.mp h
      cases hs
      exact .aside _ _ rfl rfl rfl rfl rfl rfl rfl rfl
  | revokeSession sessionId now =>
      cases h
      exact .aside _ _ rfl rfl rfl rfl rfl rfl rfl rfl

/-- A step that cannot be taken leaves the state, and one that is taken is a move. -/
theorem step_cases (hash : CredentialPurpose → JsString → JsString) (s : HandoffSystem)
    (event : HandoffEvent) : s.step hash event = s ∧ s.next hash event = none ∨
      Moves hash s event (s.step hash event) := by
  unfold step
  cases hnext : s.next hash event with
  | none => exact .inl ⟨rfl, rfl⟩
  | some s' => exact .inr (moves_of_next hnext)

end HandoffSystem

end Auth

end UnderstandProof
