import UnderstandProof.Auth.HandoffSteps

/-!
# The handoff over whole runs

A lock of a token is held by the exchange that was granted it, and while it is held no other call
consumes the token. A creation consumes the open tokens of its attempt before it inserts its own, so
that only the last token of an attempt is ever open.
-/

open Foundation

namespace UnderstandProof

namespace Auth

open Domain (AttemptStatus Timestamp)

namespace HandoffSystem

variable (hash : CredentialPurpose → JsString → JsString)

/-! ## Creations and exchanges -/

/-- The event commits a creation of the token. -/
def Creates (token : HandoffToken) (s : HandoffSystem) (event : HandoffEvent) : Prop :=
  ∃ call draw input attemptExpiresAt tokens, event = .commitCreation call draw ∧
    s.creations call = some (.locked input attemptExpiresAt) ∧
    s.openTokensFree input.attemptId = true ∧
    s.createdTokens hash input attemptExpiresAt draw = some tokens ∧
    token = input.newToken hash attemptExpiresAt draw

/-- The event commits a creation for the attempt. -/
def CreatesFor (attemptId : JsString) (s : HandoffSystem) (event : HandoffEvent) : Prop :=
  ∃ token, token.attemptId = attemptId ∧ Creates hash token s event

/-- The event commits the exchange of a call. -/
def Exchanges (call : ℕ) (input : ExchangeInput) (row : GrantRow) (written : Exchanged)
    (s : HandoffSystem) (event : HandoffEvent) : Prop :=
  ∃ draw, event = .commitExchange call draw ∧ s.exchanges call = some (.granted input row) ∧
    s.attemptLocks row.attemptId = none ∧ s.exchanged hash input row draw = some written

/-- The event commits an exchange of the token. -/
def ExchangesToken (handoffId : JsString) (s : HandoffSystem) (event : HandoffEvent) : Prop :=
  ∃ call input row written, row.handoffId = handoffId ∧ Exchanges hash call input row written s event

/-- The event commits an exchange of whoever brings the value of a token. -/
def ExchangesValue (value : JsString) (s : HandoffSystem) (event : HandoffEvent) : Prop :=
  ∃ call input row written, input.token = value ∧ Exchanges hash call input row written s event

/-- The tokens after a creation at a time. -/
def supersede (token : HandoffToken) (now : Timestamp) (tokens : List HandoffToken) :
    List HandoffToken :=
  (tokens.map fun other => if other.isOpenOf token.attemptId then other.consume now else other) ++
    [token]

/-- The tokens after an exchange at a time. -/
def spend (handoffId : JsString) (now : Timestamp) (tokens : List HandoffToken) :
    List HandoffToken :=
  tokens.map fun other => if other.id = handoffId then other.consume now else other

variable {hash} {s : HandoffSystem} {event : HandoffEvent}

theorem createdTokens_eq_some {input : CreateInput} {attemptExpiresAt : Timestamp}
    {draw : CreationDraw} {tokens : List HandoffToken} :
    s.createdTokens hash input attemptExpiresAt draw = some tokens ↔
      (∀ other ∈ s.tokens, other.id ≠ draw.id ∧ other.tokenHash ≠ hash .handoff draw.token) ∧
      (∃ session ∈ s.sessions, session.id = input.session.id) ∧
      tokens = supersede (input.newToken hash attemptExpiresAt draw) input.now s.tokens := by
  have hopen : ∀ token ∈ s.tokens, token.isOpenOf input.attemptId = true →
      token.consumedAt = none := by
    intro token _ htoken
    simp only [HandoffToken.isOpenOf, Bool.and_eq_true, Option.isNone_iff_eq_none] at htoken
    exact htoken.2
  have hconsume : HandoffToken.consumeAll (HandoffToken.isOpenOf input.attemptId) input.now
      s.tokens = some (s.tokens.map fun token =>
        if token.isOpenOf input.attemptId then token.consume input.now else token) :=
    HandoffToken.consumeAll_eq_some.mpr ⟨hopen, rfl⟩
  rw [createdTokens, hconsume, Option.bind_some, HandoffToken.insert_eq_some]
  refine and_congr ?_ (and_congr Iff.rfl Iff.rfl)
  simp only [List.forall_mem_map]
  refine forall₂_congr fun other _ => ?_
  by_cases hother : other.isOpenOf input.attemptId = true
  · rw [if_pos hother]
    exact ⟨fun h => ⟨h.1, h.2.1⟩, fun h => ⟨h.1, h.2, fun _ hnone => by cases hnone⟩⟩
  · rw [if_neg hother]
    refine ⟨fun h => ⟨h.1, h.2.1⟩, fun h => ⟨h.1, h.2, fun hattempt hnone => ?_⟩⟩
    have hopen : other.isOpenOf input.attemptId = true := by
      rw [HandoffToken.isOpenOf, hnone, Option.isNone_none, Bool.and_true, decide_eq_true_eq]
      exact hattempt
    exact absurd hopen hother

/-- The session that an exchange commits. -/
def mobileRow (hash : CredentialPurpose → JsString → JsString) (row : GrantRow)
    (draw : ExchangeDraw) : SessionRow where
  id := draw.sessionId
  tokenHash := hash .session draw.sessionToken
  actorId := row.attempt.authorId
  actorRole := .author
  repositoryId := some row.attempt.repositoryId
  csrfHash := hash .csrf draw.csrfToken
  expiresAt := row.attempt.expiresAt
  revokedAt := none

/-- What an exchange writes, and when its statements succeed. -/
structure Writes (hash : CredentialPurpose → JsString → JsString) (s : HandoffSystem)
    (input : ExchangeInput) (row : GrantRow) (draw : ExchangeDraw) (written : Exchanged) :
    Prop where
  opened : ∀ token ∈ s.tokens, token.id = row.handoffId → token.consumedAt = none
  positive : input.now < row.attempt.expiresAt
  safe : row.attempt.expiresAt - input.now ≤ 9007199254740991
  newSession : ∀ session ∈ s.sessions, session.id ≠ draw.sessionId ∧
    session.tokenHash ≠ hash .session draw.sessionToken
  newMaterial : ∀ material ∈ s.materials, material.id ≠ draw.materialId ∧
    (material.attemptId = row.attemptId → material.objectId ≠ draw.objectId)
  tokens : written.tokens = spend row.handoffId input.now s.tokens
  sessions : written.sessions = s.sessions ++ [mobileRow hash row draw]
  materials : written.materials = s.materials ++ [input.newMaterial row draw]

theorem issueSession_eq_some {actorId : JsString} {actorRole : ActorRole}
    {repositoryId : Option JsString} {ttlMs now : ℤ} {draw : ExchangeDraw}
    {issued : List SessionRow × IssuedSession} :
    s.issueSession hash actorId actorRole repositoryId ttlMs now draw = some issued →
      (0 < ttlMs ∧ ttlMs ≤ 9007199254740991) ∧
      (∀ session ∈ s.sessions, session.id ≠ draw.sessionId ∧
        session.tokenHash ≠ hash .session draw.sessionToken) ∧
      issued.1 = s.sessions ++ [{
        id := draw.sessionId, tokenHash := hash .session draw.sessionToken, actorId, actorRole
        repositoryId, csrfHash := hash .csrf draw.csrfToken, expiresAt := now + ttlMs
        revokedAt := none }] := by
  intro h
  obtain ⟨httl, h⟩ := Option.ite_none_left_eq_some.mp h
  obtain ⟨hfresh, h⟩ := Option.ite_none_left_eq_some.mp h
  cases h
  rw [not_or, not_le, not_lt] at httl
  simp only [List.any_eq_true, Bool.or_eq_true, decide_eq_true_eq, not_exists, not_and,
    not_or] at hfresh
  exact ⟨httl, hfresh, rfl⟩

theorem insertMaterial_eq_some {material : WrappingMaterialRow}
    {materials : List WrappingMaterialRow} :
    s.insertMaterial material = some materials ↔
      (∀ other ∈ s.materials, other.id ≠ material.id ∧
        (other.attemptId = material.attemptId → other.objectId ≠ material.objectId)) ∧
      materials = s.materials ++ [material] := by
  simp only [insertMaterial, Option.ite_none_left_eq_some, List.any_eq_true, Bool.or_eq_true,
    Bool.and_eq_true, decide_eq_true_eq, not_exists, not_and, not_or, Option.some.injEq, ne_eq,
    eq_comm (a := materials)]

theorem writes_of_exchanged {input : ExchangeInput} {row : GrantRow} {draw : ExchangeDraw}
    {written : Exchanged} (h : s.exchanged hash input row draw = some written) :
    Writes hash s input row draw written := by
  obtain ⟨tokens, htokens, h⟩ := Option.bind_eq_some_iff.mp h
  obtain ⟨issued, hissued, h⟩ := Option.bind_eq_some_iff.mp h
  obtain ⟨materials, hmaterials, h⟩ := Option.bind_eq_some_iff.mp h
  cases h
  obtain ⟨hopen, rfl⟩ := HandoffToken.consumeAll_eq_some.mp htokens
  obtain ⟨⟨hpositive, hsafe⟩, hsession, hsessions⟩ := issueSession_eq_some hissued
  obtain ⟨hmaterial, rfl⟩ := insertMaterial_eq_some.mp hmaterials
  simp only [decide_eq_true_eq] at hopen
  exact {
    opened := hopen
    positive := sub_pos.mp hpositive
    safe := hsafe
    newSession := hsession
    newMaterial := hmaterial
    tokens := by simp only [spend, decide_eq_true_eq]
    sessions := by
      dsimp only
      rw [hsessions, add_sub_cancel]
      rfl
    materials := rfl }

/-- An exchange fails only where one of its statements does. -/
theorem exists_exchanged {input : ExchangeInput} {row : GrantRow} {draw : ExchangeDraw}
    (hopen : ∀ token ∈ s.tokens, token.id = row.handoffId → token.consumedAt = none)
    (hpositive : input.now < row.attempt.expiresAt)
    (hsafe : row.attempt.expiresAt - input.now ≤ 9007199254740991)
    (hsession : ∀ session ∈ s.sessions, session.id ≠ draw.sessionId ∧
      session.tokenHash ≠ hash .session draw.sessionToken)
    (hmaterial : ∀ material ∈ s.materials, material.id ≠ draw.materialId ∧
      (material.attemptId = row.attemptId → material.objectId ≠ draw.objectId)) :
    ∃ written, s.exchanged hash input row draw = some written := by
  have htokens : HandoffToken.consumeAll (fun token => decide (token.id = row.handoffId))
      input.now s.tokens = some _ := HandoffToken.consumeAll_eq_some.mpr
    ⟨fun token hmem hid => hopen token hmem (of_decide_eq_true hid), rfl⟩
  have hissued : ∃ issued, s.issueSession hash row.attempt.authorId .author
      (some row.attempt.repositoryId) (row.attempt.expiresAt - input.now) input.now draw =
        some issued := by
    refine ⟨_, (if_neg ?_).trans (if_neg ?_)⟩
    · rw [not_or, not_le, not_lt]
      exact ⟨sub_pos.mpr hpositive, hsafe⟩
    · simp only [List.any_eq_true, Bool.or_eq_true, decide_eq_true_eq, not_exists, not_and,
        not_or]
      exact hsession
  obtain ⟨issued, hissued⟩ := hissued
  have hmaterials := insertMaterial_eq_some.mpr
    ⟨hmaterial, (rfl : s.materials ++ [input.newMaterial row draw] = _)⟩
  refine ⟨_, Option.bind_eq_some_iff.mpr ⟨_, htokens, Option.bind_eq_some_iff.mpr
    ⟨issued, hissued, Option.bind_eq_some_iff.mpr ⟨_, hmaterials, rfl⟩⟩⟩⟩

/-- What a step does to the tokens. -/
theorem tokens_cases (hash : CredentialPurpose → JsString → JsString) (s : HandoffSystem)
    (event : HandoffEvent) :
    (s.step hash event).tokens = s.tokens ∨
    (∃ token now, Creates hash token s event ∧ token.consumedAt = none ∧
      (∀ other ∈ s.tokens, other.id ≠ token.id ∧ other.tokenHash ≠ token.tokenHash) ∧
      (∀ other ∈ s.tokens, other.isOpenOf token.attemptId = true →
        s.tokenLocks other.id = none) ∧
      (s.step hash event).tokens = supersede token now s.tokens) ∨
    ∃ call input row written, Exchanges hash call input row written s event ∧
      (∀ other ∈ s.tokens, other.id = row.handoffId → other.consumedAt = none) ∧
      (s.step hash event).tokens = spend row.handoffId input.now s.tokens := by
  rcases step_cases hash s event with ⟨heq, -⟩ | hmoves
  · exact .inl (by rw [heq])
  · generalize hs' : s.step hash event = s' at hmoves ⊢
    cases hmoves with
    | commitCreation call draw input attemptExpiresAt tokens hphase hfree htokens =>
        obtain ⟨hfresh, -, rfl⟩ := createdTokens_eq_some.mp htokens
        refine .inr (.inl ⟨input.newToken hash attemptExpiresAt draw, input.now,
          ⟨call, draw, input, attemptExpiresAt, _, rfl, hphase, hfree, htokens, rfl⟩, rfl, hfresh,
          fun other hother hopen => ?_, rfl⟩)
        have hall := List.all_eq_true.mp hfree other hother
        rw [Bool.or_eq_true, Bool.not_eq_true', Option.isNone_iff_eq_none] at hall
        exact hall.resolve_left fun hclosed => absurd (hopen.symm.trans hclosed) (by decide)
    | commitExchange call draw input row written hphase hfree hwritten =>
        refine .inr (.inr ⟨call, input, row, written, ⟨draw, rfl, hphase, hfree, hwritten⟩, ?_⟩)
        have hwrites := writes_of_exchanged hwritten
        exact ⟨hwrites.opened, hwrites.tokens⟩
    | aside event s' _ _ htokens => exact .inl htokens
    | beginCreation | refuseCreation | lockAttempt | failCreation | beginExchange
      | refuseExchange | lockToken | failExchange => exact .inl rfl

/-- A token stays as it is, or is open and consumed by a creation for its attempt or by an exchange
of it. -/
theorem mem_tokens_step (hash : CredentialPurpose → JsString → JsString) (event : HandoffEvent)
    {token : HandoffToken} (h : token ∈ s.tokens) :
    token ∈ (s.step hash event).tokens ∨
    token.consumedAt = none ∧ (∃ now, token.consume now ∈ (s.step hash event).tokens) ∧
      (CreatesFor hash token.attemptId s event ∧ s.tokenLocks token.id = none ∨
        ExchangesToken hash token.id s event) := by
  rcases tokens_cases hash s event with
    heq | ⟨created, now, hcreates, -, -, hfree, heq⟩ |
      ⟨call, input, row, written, hexchanges, hopen, heq⟩
  · exact .inl (heq ▸ h)
  · by_cases hselected : token.isOpenOf created.attemptId = true
    · have hfields := hselected
      simp only [HandoffToken.isOpenOf, Bool.and_eq_true, Option.isNone_iff_eq_none,
        decide_eq_true_eq] at hfields
      refine .inr ⟨hfields.2, ⟨now, ?_⟩,
        .inl ⟨⟨created, hfields.1.symm, hcreates⟩, hfree token h hselected⟩⟩
      rw [heq, supersede, List.mem_append]
      exact .inl (List.mem_map.mpr ⟨token, h, if_pos hselected⟩)
    · rw [heq, supersede, List.mem_append]
      exact .inl (.inl (List.mem_map.mpr ⟨token, h, if_neg hselected⟩))
  · by_cases hid : token.id = row.handoffId
    · refine .inr ⟨hopen token h hid, ⟨input.now, ?_⟩,
        .inr ⟨call, input, row, written, hid.symm, hexchanges⟩⟩
      rw [heq]
      exact List.mem_map.mpr ⟨token, h, if_pos hid⟩
    · rw [heq]
      exact .inl (List.mem_map.mpr ⟨token, h, if_neg hid⟩)

/-- A token is consumed for good. -/
theorem consumed_step {token : HandoffToken} (h : token ∈ s.tokens)
    (hconsumed : token.consumedAt ≠ none) : token ∈ (s.step hash event).tokens :=
  (mem_tokens_step hash event h).resolve_right fun hopen => hconsumed hopen.1

/-- A token never disappears. -/
theorem exists_mem_tokens_step {token : HandoffToken} (h : token ∈ s.tokens) :
    ∃ other ∈ (s.step hash event).tokens, other.id = token.id ∧
      other.attemptId = token.attemptId ∧ other.tokenHash = token.tokenHash := by
  rcases mem_tokens_step hash event h with hmem | ⟨-, ⟨now, hmem⟩, -⟩
  · exact ⟨token, hmem, rfl, rfl, rfl⟩
  · exact ⟨token.consume now, hmem, rfl, rfl, rfl⟩

/-! ## The rows of the tokens -/

/-- The keys of the tokens are distinct, and of one attempt only the last token may be open. -/
structure DistinctTokens (tokens : List HandoffToken) : Prop where
  ids : tokens.Pairwise fun token other => token.id ≠ other.id
  hashes : tokens.Pairwise fun token other => token.tokenHash ≠ other.tokenHash
  superseded : tokens.Pairwise fun token other =>
    token.attemptId = other.attemptId → token.consumedAt ≠ none

/-- The unique tokens of a list, when each is put in the place of another one with its keys. -/
theorem DistinctTokens.map {tokens : List HandoffToken} (h : DistinctTokens tokens)
    {f : HandoffToken → HandoffToken} (hid : ∀ token, (f token).id = token.id)
    (hhash : ∀ token, (f token).tokenHash = token.tokenHash)
    (hattempt : ∀ token, (f token).attemptId = token.attemptId)
    (hconsumed : ∀ token, token.consumedAt ≠ none → (f token).consumedAt ≠ none) :
    DistinctTokens (tokens.map f) where
  ids := List.pairwise_map.mpr (h.ids.imp fun hne => by rwa [hid, hid])
  hashes := List.pairwise_map.mpr (h.hashes.imp fun hne => by rwa [hhash, hhash])
  superseded := List.pairwise_map.mpr (h.superseded.imp fun hne hsame =>
    hconsumed _ (hne (by rwa [hattempt, hattempt] at hsame)))

theorem DistinctTokens.supersede {tokens : List HandoffToken} (h : DistinctTokens tokens)
    {token : HandoffToken} {now : Timestamp}
    (hfresh : ∀ other ∈ tokens, other.id ≠ token.id ∧ other.tokenHash ≠ token.tokenHash) :
    DistinctTokens (supersede token now tokens) := by
  have hmap : DistinctTokens (tokens.map fun other =>
      if other.isOpenOf token.attemptId then other.consume now else other) := by
    refine h.map ?_ ?_ ?_ ?_
    · intro other
      split <;> rfl
    · intro other
      split <;> rfl
    · intro other
      split <;> rfl
    · intro other hother
      split
      · exact Option.some_ne_none now
      · exact hother
  refine ⟨List.pairwise_append.mpr ⟨hmap.ids, List.pairwise_singleton _ _, ?_⟩,
    List.pairwise_append.mpr ⟨hmap.hashes, List.pairwise_singleton _ _, ?_⟩,
    List.pairwise_append.mpr ⟨hmap.superseded, List.pairwise_singleton _ _, ?_⟩⟩ <;>
    simp only [List.forall_mem_map, List.mem_singleton, forall_eq]
  · intro other hother
    split
    · exact (hfresh other hother).1
    · exact (hfresh other hother).1
  · intro other hother
    split
    · exact (hfresh other hother).2
    · exact (hfresh other hother).2
  · intro other _
    split
    · exact fun _ => Option.some_ne_none now
    · next hopen =>
      intro hattempt hnone
      refine hopen ?_
      rw [HandoffToken.isOpenOf, hnone, Option.isNone_none, Bool.and_true, decide_eq_true_eq]
      exact hattempt

theorem distinctTokens_step (h : DistinctTokens s.tokens) :
    DistinctTokens (s.step hash event).tokens := by
  rcases tokens_cases hash s event with
    heq | ⟨created, now, -, -, hfresh, -, heq⟩ | ⟨call, input, row, written, -, -, heq⟩
  · exact heq ▸ h
  · exact heq ▸ h.supersede hfresh
  · rw [heq]
    refine h.map ?_ ?_ ?_ ?_
    · intro other
      split <;> rfl
    · intro other
      split <;> rfl
    · intro other
      split <;> rfl
    · intro other hother
      split
      · exact Option.some_ne_none input.now
      · exact hother

/-- The row of a unique key is the one that is found. -/
theorem find?_of_unique {α β : Type} [DecidableEq β] {key : α → β} {l : List α} {a : α}
    (h : l.Pairwise fun x y => key x ≠ key y) (hmem : a ∈ l) :
    l.find? (fun x => key x = key a) = some a := by
  have hnodup : (l.map key).Nodup := List.pairwise_map.mpr h
  cases hfind : l.find? fun x => key x = key a with
  | none => exact absurd (List.find?_eq_none.mp hfind a hmem) (by simp)
  | some found =>
      have hkey : key found = key a := by simpa using List.find?_some hfind
      rw [List.inj_on_of_nodup_map hnodup (List.mem_of_find?_eq_some hfind) hmem hkey]

theorem DistinctTokens.eq_of_id {tokens : List HandoffToken} (h : DistinctTokens tokens)
    {token other : HandoffToken} (htoken : token ∈ tokens) (hother : other ∈ tokens)
    (hid : token.id = other.id) : token = other :=
  List.inj_on_of_nodup_map (List.pairwise_map.mpr h.ids) htoken hother hid

theorem DistinctTokens.eq_of_hash {tokens : List HandoffToken} (h : DistinctTokens tokens)
    {token other : HandoffToken} (htoken : token ∈ tokens) (hother : other ∈ tokens)
    (hhash : token.tokenHash = other.tokenHash) : token = other :=
  List.inj_on_of_nodup_map (List.pairwise_map.mpr h.hashes) htoken hother hhash

/-- At most one token of an attempt is open. -/
theorem DistinctTokens.length_open_le {tokens : List HandoffToken} (h : DistinctTokens tokens)
    (attemptId : JsString) :
    (tokens.filter (HandoffToken.isOpenOf attemptId)).length ≤ 1 := by
  have hpairwise := (h.superseded.filter (HandoffToken.isOpenOf attemptId))
  have hopen : ∀ token ∈ tokens.filter (HandoffToken.isOpenOf attemptId),
      token.attemptId = attemptId ∧ token.consumedAt = none := by
    intro token htoken
    simpa [HandoffToken.isOpenOf] using (List.mem_filter.mp htoken).2
  generalize tokens.filter (HandoffToken.isOpenOf attemptId) = opened at hpairwise hopen
  cases opened with
  | nil => exact Nat.zero_le 1
  | cons token opened =>
      cases opened with
      | nil => exact le_rfl
      | cons other opened =>
          have htoken := hopen token List.mem_cons_self
          have hother := hopen other (List.mem_cons_of_mem _ List.mem_cons_self)
          have hconsumed := List.rel_of_pairwise_cons hpairwise List.mem_cons_self
            (htoken.1.trans hother.1.symm)
          exact absurd htoken.2 hconsumed

/-! ## Locks -/

/-- The attempt that a creation has locked. -/
def lockedAttempt : CreationPhase → Option JsString
  | .locked input _ => some input.attemptId
  | _ => none

/-- The token that an exchange has locked. -/
def lockedToken : ExchangePhase → Option JsString
  | .granted _ row => some row.handoffId
  | _ => none

/-- Every lock is held by a call that is under way. -/
structure LocksHeld (s : HandoffSystem) : Prop where
  attempts : LockedBy lockedAttempt s.creations s.attemptLocks
  tokens : LockedBy lockedToken s.exchanges s.tokenLocks

theorem locksHeld_step (h : LocksHeld s) : LocksHeld (s.step hash event) := by
  rcases step_cases hash s event with ⟨heq, -⟩ | hmoves
  · rw [heq]
    exact h
  · generalize hs' : s.step hash event = s' at hmoves ⊢
    cases hmoves with
    | beginCreation call input phase hnew hphase =>
        refine ⟨h.attempts.move (fun old hold => ?_) ?_, h.tokens⟩
        · rw [hnew] at hold
          cases hold
        · rcases hphase with rfl | ⟨isCurrent, -, rfl⟩ <;> rfl
    | refuseCreation call event input isCurrent error hevent hphase =>
        refine ⟨h.attempts.move (fun old hold => ?_) rfl, h.tokens⟩
        rw [hphase] at hold
        cases hold
        rfl
    | lockAttempt call input isCurrent attempt hphase hfree hattempt hadmits =>
        refine ⟨h.attempts.acquire (fun old hold => ?_) hfree rfl, h.tokens⟩
        rw [hphase] at hold
        cases hold
        rfl
    | failCreation call event input attemptExpiresAt hevent hphase =>
        exact ⟨h.attempts.release hphase rfl rfl, h.tokens⟩
    | commitCreation call draw input attemptExpiresAt tokens hphase hfree htokens =>
        exact ⟨h.attempts.release hphase rfl rfl, h.tokens⟩
    | beginExchange call input phase hnew hphase =>
        refine ⟨h.attempts, h.tokens.move (fun old hold => ?_) ?_⟩
        · rw [hnew] at hold
          cases hold
        · rcases hphase with ⟨error, rfl⟩ | ⟨row, -, rfl⟩ <;> rfl
    | refuseExchange call event input row error hevent hphase =>
        refine ⟨h.attempts, h.tokens.move (fun old hold => ?_) rfl⟩
        rw [hphase] at hold
        cases hold
        rfl
    | lockToken call input row token hphase hfree htoken hadmits =>
        refine ⟨h.attempts, h.tokens.acquire (fun old hold => ?_) hfree rfl⟩
        rw [hphase] at hold
        cases hold
        rfl
    | failExchange call event input row hevent hphase =>
        exact ⟨h.attempts, h.tokens.release hphase rfl rfl⟩
    | commitExchange call draw input row written hphase hfree hwritten =>
        exact ⟨h.attempts, h.tokens.release hphase rfl rfl⟩
    | aside event s' _ _ _ _ hcreations hexchanges hattempts htokens =>
        refine ⟨?_, ?_⟩
        · rw [hcreations, hattempts]
          exact h.attempts
        · rw [hexchanges, htokens]
          exact h.tokens

/-! ## What an exchange has read -/

/-- The token is the one that the exchange has read. -/
def IsTokenOf (hash : CredentialPurpose → JsString → JsString) (input : ExchangeInput)
    (row : GrantRow) (token : HandoffToken) : Prop :=
  token.id = row.handoffId ∧ token.attemptId = row.attemptId ∧
    token.tokenHash = hash .handoff input.token

/-- The exchanges under way, and the tokens that they have read. -/
structure ReadTokens (hash : CredentialPurpose → JsString → JsString) (s : HandoffSystem) :
    Prop where
  reading : ∀ call input row, s.exchanges call = some (.reading input row) →
    ∃ token ∈ s.tokens, IsTokenOf hash input row token
  granted : ∀ call input row, s.exchanges call = some (.granted input row) →
    ∃ token ∈ s.tokens, IsTokenOf hash input row token ∧ token.consumedAt = none

/-- What holds of every state. -/
structure Kept (hash : CredentialPurpose → JsString → JsString) (s : HandoffSystem) : Prop where
  distinct : DistinctTokens s.tokens
  locks : LocksHeld s
  read : ReadTokens hash s

theorem isTokenOf_step {input : ExchangeInput} {row : GrantRow}
    (h : ∃ token ∈ s.tokens, IsTokenOf hash input row token) :
    ∃ token ∈ (s.step hash event).tokens, IsTokenOf hash input row token := by
  obtain ⟨token, hmem, hid, hattempt, hhash⟩ := h
  obtain ⟨other, hother, hotherId, hotherAttempt, hotherHash⟩ := exists_mem_tokens_step hmem
  exact ⟨other, hother, hotherId.trans hid, hotherAttempt.trans hattempt, hotherHash.trans hhash⟩

theorem isTokenOf_of_readGrant {input : ExchangeInput} {row : GrantRow}
    (h : s.readGrant (hash .handoff input.token) = some row) :
    ∃ token ∈ s.tokens, IsTokenOf hash input row token := by
  obtain ⟨handoff, hfind, h⟩ := Option.bind_eq_some_iff.mp h
  obtain ⟨attempt, -, h⟩ := Option.bind_eq_some_iff.mp h
  obtain ⟨isCurrent, -, h⟩ := Option.bind_eq_some_iff.mp h
  obtain ⟨desktop, -, rfl⟩ := Option.map_eq_some_iff.mp h
  have hhash := List.find?_some hfind
  rw [decide_eq_true_eq] at hhash
  exact ⟨handoff, List.mem_of_find?_eq_some hfind, rfl, rfl, hhash⟩

/-- How the phase of an exchange goes on. -/
inductive Transition (hash : CredentialPurpose → JsString → JsString) (s : HandoffSystem)
    (event : HandoffEvent) (call : ℕ) : Option ExchangePhase → Prop
  | kept : Transition hash s event call (s.exchanges call)
  | begun (input : ExchangeInput) (row : GrantRow) (hevent : event = .beginExchange call input)
      (hnew : s.exchanges call = none)
      (hread : s.readGrant (hash .handoff input.token) = some row) :
      Transition hash s event call (some (.reading input row))
  | granted (input : ExchangeInput) (row : GrantRow) (token : HandoffToken)
      (hphase : s.exchanges call = some (.reading input row))
      (htoken : s.tokens.find? (fun token => token.id = row.handoffId) = some token)
      (hadmits : row.admits token.consumedAt input.now = true)
      (htokens : (s.step hash event).tokens = s.tokens) :
      Transition hash s event call (some (.granted input row))
  | failed (error : HandoffError) (hopen : ∀ answer, s.exchanges call ≠ some (.answered answer)) :
      Transition hash s event call (some (.answered (.error error)))
  | exchanged (input : ExchangeInput) (row : GrantRow) (written : Exchanged)
      (h : Exchanges hash call input row written s event) :
      Transition hash s event call (some (.answered (.ok written.answer)))

/-- A step that sets the phase of one exchange keeps those of the others. -/
theorem transition_of_set {s' : HandoffSystem} {call other : ℕ} {phase : ExchangePhase}
    (hset : s'.exchanges = s.exchanges.set other phase)
    (h : Transition hash s event other (some phase)) :
    Transition hash s event call (s'.exchanges call) := by
  rw [hset, Table.set_apply]
  split
  · next hcall =>
    rw [hcall]
    exact h
  · exact .kept

theorem transition (hash : CredentialPurpose → JsString → JsString) (s : HandoffSystem)
    (event : HandoffEvent) (call : ℕ) :
    Transition hash s event call ((s.step hash event).exchanges call) := by
  rcases step_cases hash s event with ⟨heq, -⟩ | hmoves
  · rw [heq]
    exact .kept
  · generalize hs' : s.step hash event = s' at hmoves
    cases hmoves with
    | beginExchange other input phase hnew hphase =>
        refine transition_of_set rfl ?_
        rcases hphase with ⟨error, rfl⟩ | ⟨row, hread, rfl⟩
        · exact .failed error fun answer hanswer => nomatch hnew.symm.trans hanswer
        · exact .begun input row rfl hnew hread
    | refuseExchange other event input row error hevent hphase =>
        exact transition_of_set rfl
          (.failed error fun answer hanswer => nomatch hphase.symm.trans hanswer)
    | lockToken other input row token hphase hfree htoken hadmits =>
        refine transition_of_set rfl (.granted input row token hphase htoken hadmits ?_)
        rw [hs']
        rfl
    | failExchange other event input row hevent hphase =>
        exact transition_of_set rfl
          (.failed .failed fun answer hanswer => nomatch hphase.symm.trans hanswer)
    | commitExchange other draw input row written hphase hfree hwritten =>
        exact transition_of_set rfl
          (.exchanged input row written ⟨draw, rfl, hphase, hfree, hwritten⟩)
    | aside event s' _ _ _ _ _ hexchanges _ _ =>
        rw [hexchanges]
        exact .kept
    | beginCreation | refuseCreation | lockAttempt | failCreation | commitCreation => exact .kept

/-- An open token of which the lock is held stays open, unless the holder exchanges it. -/
theorem isOpenToken_step (hkept : LocksHeld s) {call : ℕ} {input : ExchangeInput}
    {row : GrantRow} (hphase : s.exchanges call = some (.granted input row))
    (h : ∃ token ∈ s.tokens, IsTokenOf hash input row token ∧ token.consumedAt = none)
    (hnot : ∀ written, ¬ Exchanges hash call input row written s event) :
    ∃ token ∈ (s.step hash event).tokens,
      IsTokenOf hash input row token ∧ token.consumedAt = none := by
  obtain ⟨token, hmem, htoken, hopen⟩ := h
  have hid := htoken.1
  have hlock : s.tokenLocks token.id = some call := hid ▸ hkept.tokens.locked _ _ _ hphase rfl
  rcases mem_tokens_step hash event hmem with
    hnext | ⟨-, -, ⟨-, hfree⟩ | ⟨other, otherInput, otherRow, written, hotherId, hexchanges⟩⟩
  · exact ⟨token, hnext, htoken, hopen⟩
  · rw [hlock] at hfree
    cases hfree
  · obtain ⟨draw, -, hotherPhase, -⟩ := id hexchanges
    obtain rfl : call = other := hkept.tokens.eq_of_held hphase hotherPhase rfl
      (congrArg some (hotherId.trans hid))
    cases hphase.symm.trans hotherPhase
    exact absurd hexchanges (hnot written)

/-- What the commit of an exchange leaves. -/
theorem step_of_exchanges {call : ℕ} {input : ExchangeInput} {row : GrantRow}
    {written : Exchanged} (h : Exchanges hash call input row written s event) :
    s.step hash event = { (s.unlockToken row.handoffId).setExchange call
      (.answered (.ok written.answer)) with
        tokens := written.tokens
        sessions := written.sessions
        materials := written.materials } := by
  obtain ⟨draw, rfl, hphase, hfree, hwritten⟩ := h
  have hnext : s.next hash (.commitExchange call draw) = s.commitExchange hash call draw := rfl
  rw [step, hnext, commitExchange, hphase]
  dsimp only
  rw [hfree, hwritten]
  rfl

theorem exchanges_of_exchanges {call : ℕ} {input : ExchangeInput} {row : GrantRow}
    {written : Exchanged} (h : Exchanges hash call input row written s event) :
    (s.step hash event).exchanges call = some (.answered (.ok written.answer)) := by
  rw [step_of_exchanges h]
  exact Table.set_self

theorem admits_iff {row : GrantRow} {consumedAt : Option Timestamp} {now : Timestamp} :
    row.admits consumedAt now = true ↔
      consumedAt = none ∧ now < row.handoffExpiresAt ∧ now < row.attempt.expiresAt ∧
        now < row.desktopExpiresAt ∧ row.desktopRevokedAt = none ∧
        row.desktopActorId = row.attempt.authorId ∧ row.attempt.status = .ready ∧
        row.isCurrent = true := by
  simp only [GrantRow.admits, Bool.and_eq_true, Option.isNone_iff_eq_none, decide_eq_true_eq,
    and_assoc]

theorem readTokens_step (hdistinct : DistinctTokens s.tokens) (hlocks : LocksHeld s)
    (h : ReadTokens hash s) : ReadTokens hash (s.step hash event) := by
  refine ⟨fun call input row hphase => ?_, fun call input row hphase => ?_⟩
  · have htransition := transition hash s event call
    generalize hnext : (s.step hash event).exchanges call = phase at htransition hphase
    cases htransition with
    | kept => exact isTokenOf_step (h.reading call input row hphase)
    | begun otherInput otherRow hevent hnew hread =>
        cases hphase
        exact isTokenOf_step (isTokenOf_of_readGrant hread)
    | granted | failed | exchanged => cases hphase
  · have htransition := transition hash s event call
    generalize hnext : (s.step hash event).exchanges call = phase at htransition hphase
    cases htransition with
    | kept =>
        refine isOpenToken_step hlocks hphase (h.granted call input row hphase) ?_
        intro written hexchanges
        rw [exchanges_of_exchanges hexchanges, hphase] at hnext
        cases hnext
    | granted otherInput otherRow token hreading htoken hadmits htokens =>
        cases hphase
        obtain ⟨other, hother, hread⟩ := h.reading call input row hreading
        have hfound := find?_of_unique hdistinct.ids hother
        rw [hread.1, htoken] at hfound
        cases hfound
        exact ⟨token, htokens ▸ hother, hread, (admits_iff.mp hadmits).1⟩
    | begun | failed | exchanged => cases hphase

theorem kept_step (h : Kept hash s) : Kept hash (s.step hash event) where
  distinct := distinctTokens_step h.distinct
  locks := locksHeld_step h.locks
  read := readTokens_step h.distinct h.locks h.read

theorem kept_empty : Kept hash empty where
  distinct := ⟨.nil, .nil, .nil⟩
  locks := ⟨.start, .start⟩
  read := ⟨fun _ _ _ hphase => absurd hphase (Option.some_ne_none _).symm,
    fun _ _ _ hphase => absurd hphase (Option.some_ne_none _).symm⟩

theorem kept_after (hash : CredentialPurpose → JsString → JsString)
    (events : List HandoffEvent) : Kept hash (after (step hash) empty events) :=
  after_keeps kept_empty (fun _ _ => kept_step) events

end HandoffSystem

end Auth

end UnderstandProof
