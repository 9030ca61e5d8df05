import UnderstandProof.Auth.HandoffProtocol

/-!
# An author is never locked out

Whatever happened before: a creation of the author of a ready attempt is granted and commits, and
the exchange of its token is granted and commits. Between their steps the two calls let anything
happen that leaves the attempt as it is and neither replaces nor exchanges the token; where a step
waits for a lock, it is taken when the lock is free.
-/

open Foundation

namespace UnderstandProof

namespace Auth

open Domain (AttemptStatus Timestamp)

namespace HandoffSystem

variable {hash : CredentialPurpose → JsString → JsString} {s : HandoffSystem}
  {event : HandoffEvent}

/-! ## Steps of others -/

theorem creations_of_other {call : ℕ} (h : event.creationCall ≠ some call) :
    (s.step hash event).creations call = s.creations call := by
  rcases step_cases hash s event with ⟨heq, -⟩ | hmoves
  · rw [heq]
  · generalize s.step hash event = s' at hmoves ⊢
    cases hmoves with
    | beginCreation | lockAttempt | commitCreation =>
        exact Table.set_of_ne fun hcall => h (congrArg some hcall.symm)
    | refuseCreation other event input isCurrent error hevent hphase =>
        refine Table.set_of_ne fun hcall => h ?_
        rcases hevent with rfl | rfl <;> exact congrArg some hcall.symm
    | failCreation other event input attemptExpiresAt hevent hphase =>
        refine Table.set_of_ne fun hcall => h ?_
        rcases hevent with ⟨draw, rfl⟩ | rfl <;> exact congrArg some hcall.symm
    | beginExchange | refuseExchange | lockToken | failExchange | commitExchange => rfl
    | aside event s' _ _ _ _ hcreations => rw [hcreations]

theorem exchanges_of_other {call : ℕ} (h : event.exchangeCall ≠ some call) :
    (s.step hash event).exchanges call = s.exchanges call := by
  rcases step_cases hash s event with ⟨heq, -⟩ | hmoves
  · rw [heq]
  · generalize s.step hash event = s' at hmoves ⊢
    cases hmoves with
    | beginExchange | lockToken | commitExchange =>
        exact Table.set_of_ne fun hcall => h (congrArg some hcall.symm)
    | refuseExchange other event input row error hevent hphase =>
        refine Table.set_of_ne fun hcall => h ?_
        rcases hevent with rfl | rfl <;> exact congrArg some hcall.symm
    | failExchange other event input row hevent hphase =>
        refine Table.set_of_ne fun hcall => h ?_
        rcases hevent with ⟨draw, rfl⟩ | rfl <;> exact congrArg some hcall.symm
    | beginCreation | refuseCreation | lockAttempt | failCreation | commitCreation => rfl
    | aside event s' _ _ _ _ _ hexchanges => rw [hexchanges]

theorem creations_of_others {call : ℕ} {events : List HandoffEvent}
    (h : ∀ event ∈ events, event.creationCall ≠ some call) :
    (after (step hash) s events).creations call = s.creations call := by
  induction events generalizing s with
  | nil => rfl
  | cons event events ih =>
      rw [after_cons, ih fun other hother => h other (List.mem_cons_of_mem _ hother),
        creations_of_other (h event List.mem_cons_self)]

theorem exchanges_of_others {call : ℕ} {events : List HandoffEvent}
    (h : ∀ event ∈ events, event.exchangeCall ≠ some call) :
    (after (step hash) s events).exchanges call = s.exchanges call := by
  induction events generalizing s with
  | nil => rfl
  | cons event events ih =>
      rw [after_cons, ih fun other hother => h other (List.mem_cons_of_mem _ hother),
        exchanges_of_other (h event List.mem_cons_self)]

/-- The event neither replaces nor exchanges the token. -/
def Spares (hash : CredentialPurpose → JsString → JsString) (token : HandoffToken)
    (s : HandoffSystem) (event : HandoffEvent) : Prop :=
  ¬ CreatesFor hash token.attemptId s event ∧ ¬ ExchangesToken hash token.id s event

theorem spares_beginExchange {token : HandoffToken} {call : ℕ} {input : ExchangeInput} :
    Spares hash token s (.beginExchange call input) := by
  constructor
  · rintro ⟨created, -, other, draw, createInput, attemptExpiresAt, tokens, hevent, -⟩
    cases hevent
  · rintro ⟨other, otherInput, row, written, -, draw, hevent, -⟩
    cases hevent

/-- A token that is spared stays as it is. -/
theorem mem_of_spares {token : HandoffToken} {events : List HandoffEvent} (h : token ∈ s.tokens)
    (hspares : Throughout (step hash) s (Spares hash token) events) :
    token ∈ (after (step hash) s events).tokens := by
  induction events generalizing s with
  | nil => exact h
  | cons event events ih =>
      obtain ⟨hevent, hrest⟩ := throughout_cons.mp hspares
      refine ih ?_ hrest
      exact (mem_tokens_step hash event h).resolve_right fun hspent =>
        hspent.2.2.elim (fun hcreates => hevent.1 hcreates.1) hevent.2

/-! ## The steps of the two calls -/

theorem step_beginCreation {call : ℕ} {input : CreateInput} (hnew : s.creations call = none)
    (hrole : input.session.actorRole = .author)
    (hcurrent : s.readCurrent input.attemptId = some true) :
    (s.step hash (.beginCreation call input)).creations call = some (.reading input true) := by
  have hnext : s.next hash (.beginCreation call input) = s.beginCreation call input := rfl
  rw [step, hnext, beginCreation, hnew, if_neg (by simp), if_neg (by simp [hrole]), hcurrent]
  exact Table.set_self

theorem step_lockAttempt {call : ℕ} {input : CreateInput} {attempt : AttemptRow}
    (hphase : s.creations call = some (.reading input true))
    (hfree : s.attemptLocks input.attemptId = none)
    (hattempt : s.attempts input.attemptId = some attempt)
    (hadmits : input.admits attempt true = true) :
    (s.step hash (.lockAttempt call)).creations call =
      some (.locked input attempt.expiresAt) := by
  have hnext : s.next hash (.lockAttempt call) = s.lockAttempt call := rfl
  rw [step, hnext, lockAttempt, hphase]
  dsimp only
  rw [hfree, if_neg (by simp), hattempt]
  dsimp only
  rw [if_neg (by simp [hadmits])]
  exact Table.set_self

/-- The creation commits, and the author has the token. -/
theorem step_commitCreation {call : ℕ} {draw : CreationDraw} {input : CreateInput}
    {attemptExpiresAt : Timestamp}
    (hphase : s.creations call = some (.locked input attemptExpiresAt))
    (hfree : s.openTokensFree input.attemptId = true)
    (hfresh : ∀ other ∈ s.tokens, other.id ≠ draw.id ∧
      other.tokenHash ≠ hash .handoff draw.token)
    (hsession : ∃ session ∈ s.sessions, session.id = input.session.id) :
    (s.step hash (.commitCreation call draw)).creations call =
        some (.answered (.ok ⟨draw.token, input.handoffExpiresAt attemptExpiresAt⟩)) ∧
      input.newToken hash attemptExpiresAt draw ∈
        (s.step hash (.commitCreation call draw)).tokens := by
  have htokens := createdTokens_eq_some.mpr
    ⟨hfresh, hsession, (rfl : supersede (input.newToken hash attemptExpiresAt draw) input.now
      s.tokens = _)⟩
  have hnext : s.next hash (.commitCreation call draw) = s.commitCreation hash call draw := rfl
  rw [step, hnext, commitCreation, hphase]
  dsimp only
  rw [if_neg (by simp [hfree]), htokens]
  exact ⟨Table.set_self, List.mem_append_right _ (List.mem_singleton_self _)⟩

theorem step_beginExchange {call : ℕ} {input : ExchangeInput} {row : GrantRow}
    (hnew : s.exchanges call = none) (haccepted : input.wrappingMaterial.isAccepted = true)
    (hread : s.readGrant (hash .handoff input.token) = some row) :
    (s.step hash (.beginExchange call input)).exchanges call = some (.reading input row) := by
  have hnext : s.next hash (.beginExchange call input) = s.beginExchange hash call input := rfl
  rw [step, hnext, beginExchange, hnew, if_neg (by simp), if_neg (by simp [haccepted]), hread]
  exact Table.set_self

theorem step_lockToken {call : ℕ} {input : ExchangeInput} {row : GrantRow} {token : HandoffToken}
    (hphase : s.exchanges call = some (.reading input row))
    (hfree : s.tokenLocks row.handoffId = none)
    (htoken : s.tokens.find? (fun token => token.id = row.handoffId) = some token)
    (hadmits : row.admits token.consumedAt input.now = true) :
    (s.step hash (.lockToken call)).exchanges call = some (.granted input row) := by
  have hnext : s.next hash (.lockToken call) = s.lockToken call := rfl
  rw [step, hnext, lockToken, hphase]
  dsimp only
  rw [hfree, if_neg (by simp), htoken]
  dsimp only
  rw [if_neg (by simp [hadmits])]
  exact Table.set_self

end HandoffSystem

/-! ## A creation and the exchange of its token -/

/-- A creation and an exchange: whatever happened before, and what happens between their steps. -/
structure Handover where
  events : List HandoffEvent
  creation : ℕ
  createInput : CreateInput
  creationDraw : CreationDraw
  beforeLock : List HandoffEvent
  beforeCommit : List HandoffEvent
  exchange : ℕ
  exchangeInput : ExchangeInput
  exchangeDraw : ExchangeDraw
  beforeExchange : List HandoffEvent
  beforeGrant : List HandoffEvent
  beforeEnd : List HandoffEvent

namespace Handover

open HandoffSystem

variable (hash : CredentialPurpose → JsString → JsString) (run : Handover)

/-! The states in which the steps of the two calls are taken, and those after the commits. -/

def atCreation : HandoffSystem := after (step hash) empty run.events

def atLock : HandoffSystem :=
  after (step hash) (step hash (run.atCreation hash)
    (.beginCreation run.creation run.createInput)) run.beforeLock

def atCommit : HandoffSystem :=
  after (step hash) (step hash (run.atLock hash) (.lockAttempt run.creation)) run.beforeCommit

def created : HandoffSystem :=
  step hash (run.atCommit hash) (.commitCreation run.creation run.creationDraw)

def atExchange : HandoffSystem := after (step hash) (run.created hash) run.beforeExchange

def atGrant : HandoffSystem :=
  after (step hash) (step hash (run.atExchange hash)
    (.beginExchange run.exchange run.exchangeInput)) run.beforeGrant

def atEnd : HandoffSystem :=
  after (step hash) (step hash (run.atGrant hash) (.lockToken run.exchange)) run.beforeEnd

def exchanged : HandoffSystem :=
  step hash (run.atEnd hash) (.commitExchange run.exchange run.exchangeDraw)

/-- What is read at the creation and again at the exchange: a ready attempt of the author on the
current revision, and a session of the author; `locked` and `attempt` are its two readings. The
locks are free where they are taken, and what the calls draw was not drawn before. -/
structure Lasts (locked attempt : AttemptRow) (desktop : SessionRow) : Prop where
  newCreation : (run.atCreation hash).creations run.creation = none
  newExchange : (run.atExchange hash).exchanges run.exchange = none
  creationAlone : ∀ event ∈ run.beforeLock ++ run.beforeCommit,
    event.creationCall ≠ some run.creation
  exchangeAlone : ∀ event ∈ run.beforeGrant ++ run.beforeEnd,
    event.exchangeCall ≠ some run.exchange
  role : run.createInput.session.actorRole = .author
  readCurrent : (run.atCreation hash).readCurrent run.createInput.attemptId = some true
  locked_eq : (run.atLock hash).attempts run.createInput.attemptId = some locked
  admits : run.createInput.admits locked true = true
  attemptFree : (run.atLock hash).attemptLocks run.createInput.attemptId = none
  tokensFree : (run.atCommit hash).openTokensFree run.createInput.attemptId = true
  newToken : ∀ other ∈ (run.atCommit hash).tokens, other.id ≠ run.creationDraw.id ∧
    other.tokenHash ≠ hash .handoff run.creationDraw.token
  session : ∃ session ∈ (run.atCommit hash).sessions,
    session.id = run.createInput.session.id
  spared : Throughout (step hash) (run.created hash)
    (Spares hash (run.createInput.newToken hash locked.expiresAt run.creationDraw))
    (run.beforeExchange ++ .beginExchange run.exchange run.exchangeInput :: run.beforeGrant)
  token : run.exchangeInput.token = run.creationDraw.token
  accepted : run.exchangeInput.wrappingMaterial.isAccepted = true
  unexpired : run.exchangeInput.now < run.createInput.handoffExpiresAt locked.expiresAt
  attempt_eq : (run.atExchange hash).attempts run.createInput.attemptId = some attempt
  ready : attempt.status = .ready
  attempt_unexpired : run.exchangeInput.now < attempt.expiresAt
  current : (run.atExchange hash).revisions attempt.revisionId = some true
  desktop_eq : (run.atExchange hash).sessions.find?
    (fun desktop => desktop.id = run.createInput.session.id) = some desktop
  author : desktop.actorId = attempt.authorId
  desktop_unexpired : run.exchangeInput.now < desktop.expiresAt
  unrevoked : desktop.revokedAt = none
  tokenFree : (run.atGrant hash).tokenLocks run.creationDraw.id = none
  endFree : (run.atEnd hash).attemptLocks run.createInput.attemptId = none
  /-- The times are those of JavaScript's dates after 1970. -/
  dates : 0 ≤ run.exchangeInput.now ∧ attempt.expiresAt ≤ 8640000000000000
  newSession : ∀ session ∈ (run.atEnd hash).sessions, session.id ≠ run.exchangeDraw.sessionId ∧
    session.tokenHash ≠ hash .session run.exchangeDraw.sessionToken
  newMaterial : ∀ material ∈ (run.atEnd hash).materials,
    material.id ≠ run.exchangeDraw.materialId ∧
      (material.attemptId = run.createInput.attemptId →
        material.objectId ≠ run.exchangeDraw.objectId)

/-- The author has the token, and whoever brings it gets a session and a material. -/
structure Completes (locked : AttemptRow) : Prop where
  created : (run.created hash).creations run.creation = some (.answered (.ok
    ⟨run.creationDraw.token, run.createInput.handoffExpiresAt locked.expiresAt⟩))
  exchanged : ∃ row written, row.handoffId = run.creationDraw.id ∧
    Exchanges hash run.exchange run.exchangeInput row written (run.atEnd hash)
      (.commitExchange run.exchange run.exchangeDraw) ∧
    (run.exchanged hash).exchanges run.exchange = some (.answered (.ok written.answer))

variable {hash run} {locked attempt : AttemptRow} {desktop : SessionRow}

/-- The row that the exchange reads. -/
def row (run : Handover) (locked attempt : AttemptRow) (desktop : SessionRow) : GrantRow where
  handoffId := run.creationDraw.id
  attemptId := run.createInput.attemptId
  attempt
  handoffExpiresAt := run.createInput.handoffExpiresAt locked.expiresAt
  isCurrent := true
  desktopActorId := desktop.actorId
  desktopExpiresAt := desktop.expiresAt
  desktopRevokedAt := desktop.revokedAt

theorem Lasts.committed (h : run.Lasts hash locked attempt desktop) :
    (run.created hash).creations run.creation = some (.answered (.ok
        ⟨run.creationDraw.token, run.createInput.handoffExpiresAt locked.expiresAt⟩)) ∧
      run.createInput.newToken hash locked.expiresAt run.creationDraw ∈
        (run.created hash).tokens := by
  have hatLock : (run.atLock hash).creations run.creation =
      some (.reading run.createInput true) :=
    (creations_of_others fun event hmem =>
      h.creationAlone event (List.mem_append_left _ hmem)).trans
        (step_beginCreation h.newCreation h.role h.readCurrent)
  have hatCommit : (run.atCommit hash).creations run.creation =
      some (.locked run.createInput locked.expiresAt) :=
    (creations_of_others fun event hmem =>
      h.creationAlone event (List.mem_append_right _ hmem)).trans
        (step_lockAttempt hatLock h.attemptFree h.locked_eq h.admits)
  exact step_commitCreation hatCommit h.tokensFree h.newToken h.session

/-- Every state of the two calls is one of a history. -/
theorem kept (hash : CredentialPurpose → JsString → JsString) (run : Handover) :
    Kept hash (run.atExchange hash) ∧ Kept hash (run.atGrant hash) ∧
      Kept hash (run.atEnd hash) := by
  have hcreated : Kept hash (run.created hash) :=
    kept_step (after_keeps (kept_step (after_keeps (kept_step (kept_after hash run.events))
      (fun _ _ => kept_step) run.beforeLock)) (fun _ _ => kept_step) run.beforeCommit)
  have hexchange : Kept hash (run.atExchange hash) :=
    after_keeps hcreated (fun _ _ => kept_step) run.beforeExchange
  have hgrant : Kept hash (run.atGrant hash) :=
    after_keeps (kept_step hexchange) (fun _ _ => kept_step) run.beforeGrant
  exact ⟨hexchange, hgrant, after_keeps (kept_step hgrant) (fun _ _ => kept_step) run.beforeEnd⟩

theorem Lasts.granted (h : run.Lasts hash locked attempt desktop) :
    (run.atEnd hash).exchanges run.exchange =
      some (.granted run.exchangeInput (run.row locked attempt desktop)) := by
  obtain ⟨hatExchange, hatGrant, -⟩ := run.kept hash
  have htoken := h.committed.2
  obtain ⟨hbefore, hafter⟩ := throughout_append.mp h.spared
  have hmem : _ ∈ (run.atExchange hash).tokens := mem_of_spares htoken hbefore
  have hmemGrant : run.createInput.newToken hash locked.expiresAt run.creationDraw ∈
      (after (step hash) (run.atExchange hash)
        (.beginExchange run.exchange run.exchangeInput :: run.beforeGrant)).tokens :=
    mem_of_spares hmem hafter
  have hfind := find?_of_unique hatExchange.distinct.hashes hmem
  have hread : (run.atExchange hash).readGrant (hash .handoff run.exchangeInput.token) =
      some (run.row locked attempt desktop) := by
    rw [h.token]
    refine Option.bind_eq_some_iff.mpr ⟨_, hfind, Option.bind_eq_some_iff.mpr
      ⟨attempt, h.attempt_eq, Option.bind_eq_some_iff.mpr ⟨true, h.current, ?_⟩⟩⟩
    exact Option.map_eq_some_iff.mpr ⟨desktop, h.desktop_eq, rfl⟩
  have hreading := step_beginExchange h.newExchange h.accepted hread
  have hphase : (run.atGrant hash).exchanges run.exchange =
      some (.reading run.exchangeInput (run.row locked attempt desktop)) :=
    (exchanges_of_others fun event hmem =>
      h.exchangeAlone event (List.mem_append_left _ hmem)).trans hreading
  have hlock := find?_of_unique hatGrant.distinct.ids hmemGrant
  have hadmits : (run.row locked attempt desktop).admits none run.exchangeInput.now = true :=
    admits_iff.mpr ⟨rfl, h.unexpired, h.attempt_unexpired, h.desktop_unexpired, h.unrevoked,
      h.author, h.ready, rfl⟩
  exact (exchanges_of_others fun event hmem =>
    h.exchangeAlone event (List.mem_append_right _ hmem)).trans
      (step_lockToken hphase h.tokenFree hlock hadmits)

theorem Lasts.completes (h : run.Lasts hash locked attempt desktop) :
    run.Completes hash locked := by
  have hgranted := h.granted
  have hkept := (run.kept hash).2.2
  obtain ⟨token, hmem, hread, hopen⟩ := hkept.read.granted _ _ _ hgranted
  have hopened : ∀ other ∈ (run.atEnd hash).tokens,
      other.id = (run.row locked attempt desktop).handoffId → other.consumedAt = none := by
    intro other hother hid
    rw [hkept.distinct.eq_of_id hother hmem (hid.trans hread.1.symm)]
    exact hopen
  have hsafe : attempt.expiresAt - run.exchangeInput.now ≤ 9007199254740991 :=
    (sub_le_self _ h.dates.1).trans (h.dates.2.trans (by decide))
  obtain ⟨written, hwritten⟩ := @exists_exchanged hash (run.atEnd hash) run.exchangeInput
    (run.row locked attempt desktop) run.exchangeDraw hopened h.attempt_unexpired hsafe
    h.newSession h.newMaterial
  have hexchanges : Exchanges hash run.exchange run.exchangeInput
      (run.row locked attempt desktop) written (run.atEnd hash)
      (.commitExchange run.exchange run.exchangeDraw) :=
    ⟨run.exchangeDraw, rfl, hgranted, h.endFree, hwritten⟩
  exact ⟨h.committed.1, _, written, rfl, hexchanges, exchanges_of_exchanges hexchanges⟩

end Handover

/-! ## The protocol -/

namespace HandoffSystem

/-- Every lock is held by a call under way, which gives it back when it ends. -/
structure LocksEnd (hash : CredentialPurpose → JsString → JsString) (s : HandoffSystem) :
    Prop where
  attempts : ∀ attemptId call, s.attemptLocks attemptId = some call →
    (s.step hash (.abortCreation call)).attemptLocks attemptId = none
  tokens : ∀ handoffId call, s.tokenLocks handoffId = some call →
    (s.step hash (.abortExchange call)).tokenLocks handoffId = none

theorem locksEnd_after (hash : CredentialPurpose → JsString → JsString)
    (events : List HandoffEvent) : LocksEnd hash (after (step hash) empty events) := by
  have hlocks := (kept_after hash events).locks
  constructor
  · intro attemptId call hlock
    obtain ⟨phase, hphase, hheld⟩ := hlocks.attempts.holder attemptId call hlock
    cases phase with
    | locked input attemptExpiresAt =>
        cases hheld
        have hnext : ∀ s : HandoffSystem, s.next hash (.abortCreation call) =
          s.abortCreation call := fun _ => rfl
        rw [step, hnext, abortCreation, hphase]
        exact Table.erase_self
    | reading | answered => cases hheld
  · intro handoffId call hlock
    obtain ⟨phase, hphase, hheld⟩ := hlocks.tokens.holder handoffId call hlock
    cases phase with
    | granted input row =>
        cases hheld
        have hnext : ∀ s : HandoffSystem, s.next hash (.abortExchange call) =
          s.abortExchange call := fun _ => rfl
        rw [step, hnext, abortExchange, hphase]
        exact Table.erase_self
    | reading | answered => cases hheld

/-- The handoff over every interleaving of its calls with the rest of the application. -/
theorem handoff_protocol (hash : CredentialPurpose → JsString → JsString)
    (events : List HandoffEvent) :
    HandoffSafe hash events ∧ LocksEnd hash (after (step hash) empty events) ∧
      ∀ run : Handover, run.events = events → ∀ locked attempt desktop,
        run.Lasts hash locked attempt desktop → run.Completes hash locked :=
  ⟨handoffSafe hash events, locksEnd_after hash events, fun _ _ _ _ _ h => h.completes⟩

/-! An author who has lost the first phone: an earlier token is replaced, and the new one is
exchanged. -/

def sampleHash (purpose : CredentialPurpose) (value : JsString) : JsString :=
  match purpose with
  | .session => 0 :: value
  | .csrf => 1 :: value
  | .handoff => 2 :: value

def sampleAttempt : AttemptRow :=
  ⟨js "author", js "repository", js "revision", js "head", .ready, 1000000⟩

def sampleDesktop : SessionRow :=
  ⟨js "desktop", [0], js "author", .author, some (js "repository"), [1], 900000, none⟩

def sampleSession : AuthenticatedSession :=
  ⟨js "desktop", js "author", .author, some (js "repository"), [1], 900000⟩

def sampleHandover : Handover where
  events := [.insertAttempt (js "attempt") sampleAttempt, .setCurrent (js "revision") true,
    .insertSession sampleDesktop, .beginCreation 0 ⟨js "attempt", sampleSession, none, 1⟩,
    .lockAttempt 0, .commitCreation 0 ⟨js "lost", js "lost token"⟩]
  creation := 1
  createInput := ⟨js "attempt", sampleSession, none, 2⟩
  creationDraw := ⟨js "new", js "new token"⟩
  beforeLock := []
  beforeCommit := []
  exchange := 0
  exchangeInput := ⟨js "new token", ⟨js "key", js "RSA-OAEP-256", js "AAAA",
    List.replicate 43 0x41⟩, 3⟩
  exchangeDraw := ⟨js "mobile", js "mobile token", js "mobile csrf", js "material", js "object"⟩
  beforeExchange := []
  beforeGrant := []
  beforeEnd := []

theorem handoff_protocol_sample : sampleHandover.Completes sampleHash sampleAttempt :=
  (handoff_protocol sampleHash sampleHandover.events).2.2 sampleHandover rfl sampleAttempt
    sampleAttempt sampleDesktop {
      newCreation := rfl
      newExchange := rfl
      creationAlone := nofun
      exchangeAlone := nofun
      role := rfl
      readCurrent := by decide
      locked_eq := by decide
      admits := by decide
      attemptFree := by decide
      tokensFree := by decide
      newToken := by decide
      session := by decide
      spared := throughout_cons.mpr ⟨spares_beginExchange, throughout_nil⟩
      token := rfl
      accepted := by decide
      unexpired := by decide
      attempt_eq := by decide
      ready := rfl
      attempt_unexpired := by decide
      current := by decide
      desktop_eq := by decide
      author := rfl
      desktop_unexpired := by decide
      unrevoked := rfl
      tokenFree := by decide
      endFree := by decide
      dates := by decide
      newSession := by decide
      newMaterial := by decide }

end HandoffSystem

end Auth

end UnderstandProof
