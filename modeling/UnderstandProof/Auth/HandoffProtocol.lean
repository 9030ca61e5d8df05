import UnderstandProof.Auth.HandoffRuns

/-!
# The handoff protocol

A token is exchanged once at most, and never after a later one was created for its attempt. The
phone gets a session of the author, and nobody gets anything from a call that is refused. An author
whose attempt is ready is never locked out: whatever happened before, a new token goes through.
-/

open Foundation

namespace UnderstandProof

namespace Auth

open Domain (AttemptStatus Timestamp)

namespace HandoffSystem

variable {hash : CredentialPurpose → JsString → JsString} {s : HandoffSystem}
  {event : HandoffEvent}

/-! ## A token that is consumed -/

/-- A token like this is consumed. -/
def Spent (p : HandoffToken → Prop) (s : HandoffSystem) : Prop :=
  ∃ token ∈ s.tokens, p token ∧ token.consumedAt ≠ none

theorem spent_step {p : HandoffToken → Prop} (h : s.Spent p) : (s.step hash event).Spent p := by
  obtain ⟨token, hmem, htoken, hconsumed⟩ := h
  exact ⟨token, consumed_step hmem hconsumed, htoken, hconsumed⟩

section Exchange

variable {call : ℕ} {input : ExchangeInput} {row : GrantRow} {written : Exchanged}

/-- The token of an exchange is open before its commit. -/
theorem not_spent_of_exchanges (hkept : Kept hash s)
    (h : Exchanges hash call input row written s event) :
    ¬ s.Spent (fun token => token.id = row.handoffId) ∧
      ¬ s.Spent (fun token => token.tokenHash = hash .handoff input.token) := by
  obtain ⟨draw, -, hphase, -⟩ := h
  obtain ⟨other, hother, hread, hopen⟩ := hkept.read.granted call input row hphase
  constructor
  · rintro ⟨token, hmem, hid, hconsumed⟩
    rw [hkept.distinct.eq_of_id hmem hother (hid.trans hread.1.symm)] at hconsumed
    exact hconsumed hopen
  · rintro ⟨token, hmem, hhash, hconsumed⟩
    rw [hkept.distinct.eq_of_hash hmem hother (hhash.trans hread.2.2.symm)] at hconsumed
    exact hconsumed hopen

theorem spent_of_exchanges (hkept : Kept hash s)
    (h : Exchanges hash call input row written s event) :
    (s.step hash event).Spent (IsTokenOf hash input row) := by
  obtain ⟨draw, -, hphase, -, hwritten⟩ := id h
  obtain ⟨token, hmem, hread, -⟩ := hkept.read.granted call input row hphase
  rw [step_of_exchanges h]
  refine ⟨token.consume input.now, ?_, hread, Option.some_ne_none _⟩
  change _ ∈ written.tokens
  rw [(writes_of_exchanged hwritten).tokens]
  exact List.mem_map.mpr ⟨token, hmem, if_pos hread.1⟩

end Exchange

/-- Each token is exchanged at most once. -/
theorem exchanged_at_most_once (hash : CredentialPurpose → JsString → JsString)
    (handoffId : JsString) (events : List HandoffEvent) :
    AtMostOnce (step hash) empty (ExchangesToken hash handoffId) events := by
  intro front event rest _ hexchanges honce
  have hspent : (after (step hash) empty front).Spent fun token => token.id = handoffId := by
    refine after_of_once kept_empty (fun _ _ => kept_step) (fun s e hkept h => ?_)
      (fun _ _ => spent_step) honce
    obtain ⟨call, input, row, written, rfl, h⟩ := h
    obtain ⟨token, hmem, hread, hconsumed⟩ := spent_of_exchanges hkept h
    exact ⟨token, hmem, hread.1, hconsumed⟩
  obtain ⟨call, input, row, written, rfl, h⟩ := hexchanges
  exact (not_spent_of_exchanges (kept_after hash front) h).1 hspent

theorem value_exchanged_at_most_once (hash : CredentialPurpose → JsString → JsString)
    (value : JsString) (events : List HandoffEvent) :
    AtMostOnce (step hash) empty (ExchangesValue hash value) events := by
  intro front event rest _ hexchanges honce
  have hspent : (after (step hash) empty front).Spent fun token =>
      token.tokenHash = hash .handoff value := by
    refine after_of_once kept_empty (fun _ _ => kept_step) (fun s e hkept h => ?_)
      (fun _ _ => spent_step) honce
    obtain ⟨call, input, row, written, rfl, h⟩ := h
    obtain ⟨token, hmem, hread, hconsumed⟩ := spent_of_exchanges hkept h
    exact ⟨token, hmem, hread.2.2, hconsumed⟩
  obtain ⟨call, input, row, written, rfl, h⟩ := hexchanges
  exact (not_spent_of_exchanges (kept_after hash front) h).2 hspent

/-- The attempt of the token with this key. -/
def HasToken (handoffId attemptId : JsString) (s : HandoffSystem) : Prop :=
  ∃ token ∈ s.tokens, token.id = handoffId ∧ token.attemptId = attemptId

theorem hasToken_step {handoffId attemptId : JsString} (h : s.HasToken handoffId attemptId) :
    (s.step hash event).HasToken handoffId attemptId := by
  obtain ⟨token, hmem, hid, hattempt⟩ := h
  obtain ⟨other, hother, hotherId, hotherAttempt, -⟩ := exists_mem_tokens_step hmem
  exact ⟨other, hother, hotherId.trans hid, hotherAttempt.trans hattempt⟩

/-- What the commit of a creation leaves. -/
theorem step_of_creates {token : HandoffToken} (h : Creates hash token s event) :
    ∃ now, (s.step hash event).tokens = supersede token now s.tokens := by
  obtain ⟨call, draw, input, attemptExpiresAt, tokens, rfl, hphase, hfree, htokens, rfl⟩ := h
  refine ⟨input.now, ?_⟩
  have hnext : s.next hash (.commitCreation call draw) = s.commitCreation hash call draw := rfl
  rw [step, hnext, commitCreation, hphase]
  dsimp only
  rw [if_neg (by simp [hfree]), htokens]
  exact (createdTokens_eq_some.mp htokens).2.2

theorem hasToken_of_creates {token : HandoffToken} (h : Creates hash token s event) :
    (s.step hash event).HasToken token.id token.attemptId := by
  obtain ⟨now, htokens⟩ := step_of_creates h
  refine ⟨token, ?_, rfl, rfl⟩
  rw [htokens, supersede]
  exact List.mem_append_right _ (List.mem_singleton_self token)

/-- A creation consumes the earlier tokens of its attempt. -/
theorem spent_of_createsFor {handoffId attemptId : JsString}
    (htoken : s.HasToken handoffId attemptId) (h : CreatesFor hash attemptId s event) :
    (s.step hash event).Spent fun token => token.id = handoffId := by
  obtain ⟨token, hmem, hid, hattempt⟩ := htoken
  obtain ⟨created, hcreated, hcreates⟩ := h
  by_cases hconsumed : token.consumedAt = none
  · obtain ⟨now, htokens⟩ := step_of_creates hcreates
    have hopen : token.isOpenOf created.attemptId = true := by
      rw [HandoffToken.isOpenOf, hconsumed, Option.isNone_none, Bool.and_true, decide_eq_true_eq]
      exact hattempt.trans hcreated.symm
    refine ⟨token.consume now, ?_, hid, Option.some_ne_none _⟩
    rw [htokens, supersede]
    exact List.mem_append_left _ (List.mem_map.mpr ⟨token, hmem, if_pos hopen⟩)
  · exact ⟨token, consumed_step hmem hconsumed, hid, hconsumed⟩

/-- A token is not exchanged after a later one was created for its attempt. -/
theorem not_superseded (hash : CredentialPurpose → JsString → JsString)
    {before mid : List HandoffEvent} {created : HandoffEvent} {token : HandoffToken}
    (hcreates : Creates hash token (after (step hash) empty before) created)
    (hexchanges : ExchangesToken hash token.id
      (after (step hash) empty (before ++ created :: mid)) event) :
    ¬ Once (step hash) (after (step hash) empty (before ++ [created]))
      (CreatesFor hash token.attemptId) mid := by
  intro honce
  have hsplit : before ++ created :: mid = (before ++ [created]) ++ mid := by simp
  have hspent : (after (step hash) (after (step hash) empty (before ++ [created])) mid).Spent
      fun other => other.id = token.id := by
    refine after_of_once (I := HasToken token.id token.attemptId) ?_
      (fun _ _ => hasToken_step) (fun _ _ => spent_of_createsFor) (fun _ _ => spent_step) honce
    rw [after_concat]
    exact hasToken_of_creates hcreates
  have hkept := kept_after hash (before ++ created :: mid)
  rw [hsplit, after_append] at hexchanges hkept
  obtain ⟨call, input, row, written, hid, h⟩ := hexchanges
  rw [← hid] at hspent
  exact (not_spent_of_exchanges hkept h).1 hspent

/-! ## What an exchange has read -/

/-- What the first statement of an exchange reads, where it is not refused. -/
structure ReadsGrant (hash : CredentialPurpose → JsString → JsString) (s : HandoffSystem)
    (input : ExchangeInput) (token : HandoffToken) (attempt : AttemptRow) (desktop : SessionRow) :
    Prop where
  token_mem : token ∈ s.tokens
  tokenHash : token.tokenHash = hash .handoff input.token
  unexpired : input.now < token.expiresAt
  attempt_eq : s.attempts token.attemptId = some attempt
  ready : attempt.status = .ready
  attempt_unexpired : input.now < attempt.expiresAt
  current : s.revisions attempt.revisionId = some true
  desktop_mem : desktop ∈ s.sessions
  desktop_id : desktop.id = token.desktopSessionId
  author : desktop.actorId = attempt.authorId
  desktop_unexpired : input.now < desktop.expiresAt
  unrevoked : desktop.revokedAt = none

/-- The row of an exchange that is granted was read so. -/
theorem readsGrant_of_admits {input : ExchangeInput} {row : GrantRow}
    (hread : s.readGrant (hash .handoff input.token) = some row)
    (hadmits : row.admits none input.now = true) :
    ∃ token desktop, ReadsGrant hash s input token row.attempt desktop ∧
      token.id = row.handoffId ∧ token.attemptId = row.attemptId := by
  obtain ⟨token, htoken, hread⟩ := Option.bind_eq_some_iff.mp hread
  obtain ⟨attempt, hattempt, hread⟩ := Option.bind_eq_some_iff.mp hread
  obtain ⟨isCurrent, hcurrent, hread⟩ := Option.bind_eq_some_iff.mp hread
  obtain ⟨desktop, hdesktop, rfl⟩ := Option.map_eq_some_iff.mp hread
  obtain ⟨-, hunexpired, hattemptUnexpired, hdesktopUnexpired, hunrevoked, hauthor, hready,
    hisCurrent⟩ := admits_iff.mp hadmits
  have hhash := List.find?_some htoken
  have hid := List.find?_some hdesktop
  rw [decide_eq_true_eq] at hhash hid
  exact ⟨token, desktop, {
    token_mem := List.mem_of_find?_eq_some htoken
    tokenHash := hhash
    unexpired := hunexpired
    attempt_eq := hattempt
    ready := hready
    attempt_unexpired := hattemptUnexpired
    current := hcurrent.trans (congrArg some hisCurrent)
    desktop_mem := List.mem_of_find?_eq_some hdesktop
    desktop_id := hid
    author := hauthor
    desktop_unexpired := hdesktopUnexpired
    unrevoked := hunrevoked }, rfl, rfl⟩

/-- The call began in this history, and read the row then. -/
def Began (hash : CredentialPurpose → JsString → JsString) (events : List HandoffEvent)
    (call : ℕ) (input : ExchangeInput) (row : GrantRow) : Prop :=
  ∃ before mid, events = before ++ .beginExchange call input :: mid ∧
    (after (step hash) empty before).readGrant (hash .handoff input.token) = some row

theorem Began.concat {events : List HandoffEvent} {call : ℕ} {input : ExchangeInput}
    {row : GrantRow} (h : Began hash events call input row) :
    Began hash (events ++ [event]) call input row := by
  obtain ⟨before, mid, rfl, hread⟩ := h
  exact ⟨before, mid ++ [event], by simp, hread⟩

/-- Every exchange under way began, and one that is granted is not refused. -/
structure Begun (hash : CredentialPurpose → JsString → JsString) (events : List HandoffEvent)
    (s : HandoffSystem) : Prop where
  reading : ∀ call input row, s.exchanges call = some (.reading input row) →
    Began hash events call input row
  granted : ∀ call input row, s.exchanges call = some (.granted input row) →
    Began hash events call input row ∧ row.admits none input.now = true

theorem begun_step {events : List HandoffEvent}
    (h : Begun hash events (after (step hash) empty events)) :
    Begun hash (events ++ [event]) (step hash (after (step hash) empty events) event) := by
  refine ⟨fun call input row hphase => ?_, fun call input row hphase => ?_⟩
  · have htransition := transition hash (after (step hash) empty events) event call
    rw [hphase] at htransition
    generalize hnext : some (ExchangePhase.reading input row) = phase at htransition
    cases htransition with
    | kept => exact (h.reading call input row hnext.symm).concat
    | begun otherInput otherRow hevent hnew hread =>
        cases hnext
        exact ⟨events, [], by rw [hevent], hread⟩
    | granted | failed | exchanged => cases hnext
  · have htransition := transition hash (after (step hash) empty events) event call
    rw [hphase] at htransition
    generalize hnext : some (ExchangePhase.granted input row) = phase at htransition
    cases htransition with
    | kept =>
        obtain ⟨hbegan, hadmits⟩ := h.granted call input row hnext.symm
        exact ⟨hbegan.concat, hadmits⟩
    | granted otherInput otherRow token hreading htoken hadmits htokens =>
        cases hnext
        refine ⟨(h.reading call input row hreading).concat, ?_⟩
        have hopen := (admits_iff.mp hadmits).1
        rwa [hopen] at hadmits
    | begun | failed | exchanged => cases hnext

theorem begun_after (hash : CredentialPurpose → JsString → JsString)
    (events : List HandoffEvent) : Begun hash events (after (step hash) empty events) := by
  refine after_invariant (p := fun _ _ => True) ?_ (fun _ _ h _ => begun_step h)
    (fun _ _ _ _ => trivial)
  exact ⟨fun _ _ _ hphase => absurd hphase (Option.some_ne_none _).symm,
    fun _ _ _ hphase => absurd hphase (Option.some_ne_none _).symm⟩

/-! ## A call that is refused -/

/-- A call that has answered takes no further step. -/
theorem answered_step {call : ℕ} {answer : Except HandoffError ExchangedHandoff}
    (h : s.exchanges call = some (.answered answer)) :
    (s.step hash event).exchanges call = some (.answered answer) := by
  have htransition := transition hash s event call
  generalize (s.step hash event).exchanges call = phase at htransition ⊢
  cases htransition with
  | kept => exact h
  | begun input row hevent hnew hread => exact nomatch hnew.symm.trans h
  | granted input row token hphase => exact nomatch hphase.symm.trans h
  | failed error hopen => exact absurd h (hopen answer)
  | exchanged input row written hexchanges =>
      obtain ⟨draw, -, hphase, -⟩ := hexchanges
      exact nomatch hphase.symm.trans h

/-- The tables that an exchange writes are as they were. -/
structure Unwritten (s s' : HandoffSystem) : Prop where
  tokens : s'.tokens = s.tokens
  sessions : s'.sessions = s.sessions
  materials : s'.materials = s.materials

/-- The steps of an exchange before its commit write nothing. -/
theorem unwritten_or_exchanges {call : ℕ} (h : event.exchangeCall = some call) :
    Unwritten s (s.step hash event) ∨
      ∃ input row written, Exchanges hash call input row written s event := by
  rcases step_cases hash s event with ⟨heq, -⟩ | hmoves
  · rw [heq]
    exact .inl ⟨rfl, rfl, rfl⟩
  · generalize s.step hash event = s' at hmoves
    cases hmoves with
    | beginExchange | refuseExchange | lockToken | failExchange => exact .inl ⟨rfl, rfl, rfl⟩
    | commitExchange other draw input row written hphase hfree hwritten =>
        cases h
        exact .inr ⟨input, row, written, draw, rfl, hphase, hfree, hwritten⟩
    | beginCreation | lockAttempt | commitCreation => cases h
    | refuseCreation other event input isCurrent error hevent hphase =>
        rcases hevent with rfl | rfl <;> cases h
    | failCreation other event input attemptExpiresAt hevent hphase =>
        rcases hevent with ⟨draw, rfl⟩ | rfl <;> cases h
    | aside event s' hcreation hexchange => exact nomatch hexchange.symm.trans h

/-- An exchange that is refused, or fails, has written nothing. -/
theorem unwritten_of_error (hash : CredentialPurpose → JsString → JsString)
    {front rest : List HandoffEvent} {call : ℕ} {error : HandoffError}
    (herror : (after (step hash) empty (front ++ event :: rest)).exchanges call =
      some (.answered (.error error)))
    (hcall : event.exchangeCall = some call) :
    Unwritten (after (step hash) empty front) (step hash (after (step hash) empty front) event) := by
  rcases @unwritten_or_exchanges hash (after (step hash) empty front) event call hcall with
    h | ⟨input, row, written, hexchanges⟩
  · exact h
  · have hanswer := exchanges_of_exchanges hexchanges
    rw [after_append, after_cons] at herror
    have hkept : (after (step hash) (step hash (after (step hash) empty front) event)
        rest).exchanges call = some (.answered (.ok written.answer)) :=
      after_keeps (I := fun s : HandoffSystem =>
        s.exchanges call = some (.answered (.ok written.answer))) hanswer
        (fun _ _ => answered_step) rest
    cases herror.symm.trans hkept

/-! ## Safety -/

/-- What a committed exchange has read, and what it writes. -/
structure SoundExchange (hash : CredentialPurpose → JsString → JsString)
    (front : List HandoffEvent) (call : ℕ) (input : ExchangeInput) (row : GrantRow)
    (written : Exchanged) : Prop where
  /-- The call read a token like this when it began, and writes a session and a material. -/
  bound : ∃ token attempt desktop mobile material before mid,
    front = before ++ .beginExchange call input :: mid ∧
    ReadsGrant hash (after (step hash) empty before) input token attempt desktop ∧
    token.id = row.handoffId ∧
    written.sessions = (after (step hash) empty front).sessions ++ [mobile] ∧
    mobile.actorId = attempt.authorId ∧ mobile.actorRole = .author ∧
    mobile.repositoryId = some attempt.repositoryId ∧ mobile.expiresAt = attempt.expiresAt ∧
    mobile.revokedAt = none ∧
    written.materials = (after (step hash) empty front).materials ++ [material] ∧
    material.attemptId = token.attemptId ∧ material.usableUntil = attempt.expiresAt

theorem soundExchange (hash : CredentialPurpose → JsString → JsString)
    {front : List HandoffEvent} {call : ℕ} {input : ExchangeInput} {row : GrantRow}
    {written : Exchanged}
    (h : Exchanges hash call input row written (after (step hash) empty front) event) :
    SoundExchange hash front call input row written := by
  obtain ⟨draw, -, hphase, -, hwritten⟩ := h
  obtain ⟨⟨before, mid, hfront, hread⟩, hadmits⟩ :=
    (begun_after hash front).granted call input row hphase
  obtain ⟨token, desktop, hgrant, hid, hattempt⟩ := readsGrant_of_admits hread hadmits
  have hwrites := writes_of_exchanged hwritten
  exact ⟨token, row.attempt, desktop, mobileRow hash row draw, input.newMaterial row draw, before,
    mid, hfront, hgrant, hid, hwrites.sessions, rfl, rfl, rfl, rfl, rfl, hwrites.materials,
    hattempt.symm, rfl⟩

/-- What no interleaving of the calls breaks. -/
structure HandoffSafe (hash : CredentialPurpose → JsString → JsString)
    (events : List HandoffEvent) : Prop where
  oneOpen : ∀ attemptId, ((after (step hash) empty events).tokens.filter
    (HandoffToken.isOpenOf attemptId)).length ≤ 1
  onlyOnce : ∀ handoffId, AtMostOnce (step hash) empty (ExchangesToken hash handoffId) events
  valueOnlyOnce : ∀ value, AtMostOnce (step hash) empty (ExchangesValue hash value) events
  notSuperseded : ∀ before created mid event rest token,
    events = (before ++ created :: mid) ++ event :: rest →
    Creates hash token (after (step hash) empty before) created →
    ExchangesToken hash token.id (after (step hash) empty (before ++ created :: mid)) event →
    ¬ Once (step hash) (after (step hash) empty (before ++ [created]))
      (CreatesFor hash token.attemptId) mid
  sound : ∀ front event rest call input row written, events = front ++ event :: rest →
    Exchanges hash call input row written (after (step hash) empty front) event →
    SoundExchange hash front call input row written
  refused : ∀ front event rest call error, events = front ++ event :: rest →
    (after (step hash) empty events).exchanges call = some (.answered (.error error)) →
    event.exchangeCall = some call →
    Unwritten (after (step hash) empty front) (step hash (after (step hash) empty front) event)

theorem handoffSafe (hash : CredentialPurpose → JsString → JsString)
    (events : List HandoffEvent) : HandoffSafe hash events where
  oneOpen := (kept_after hash events).distinct.length_open_le
  onlyOnce handoffId := exchanged_at_most_once hash handoffId events
  valueOnlyOnce value := value_exchanged_at_most_once hash value events
  notSuperseded _ _ _ _ _ _ _ hcreates hexchanges := not_superseded hash hcreates hexchanges
  sound _ _ _ _ _ _ _ _ h := soundExchange hash h
  refused _ _ _ _ _ hevents herror hcall := unwritten_of_error hash (hevents ▸ herror) hcall

end HandoffSystem

end Auth

end UnderstandProof
