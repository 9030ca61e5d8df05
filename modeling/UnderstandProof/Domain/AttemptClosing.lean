import UnderstandProof.Domain.AttemptRun

/-!
# Closing an attempt

The guards of `transitionAttempt` on the commit, on the expiry time and on the
table of transitions are three separate tests. `closingStatus` is the case split
they amount to for a job of the system: whatever the status of a running attempt,
the time and the current head, exactly one of the three ways out is open to it.
-/

open Foundation

namespace UnderstandProof

namespace Domain

/-- The transition of a parsed command whose guards all hold. -/
theorem transitionAttempt_of_guards {raw : RawCommand} {age : Option Int}
    {d : AttemptDependencies} {command : AttemptTransitionCommand} {now : Timestamp}
    {id : Uuid} (hparse : AttemptTransitionCommandSchema.parse raw = .ok command)
    (hreplay : findIdempotentReplay command = .ok none)
    (hguards : assertTransition command = .ok ()) (hnow : d.clock 0 = some now)
    (hexpiry : assertExpiry command.attempt command.targetStatus (some now) = .ok ())
    (hauth : assertAuthorization command.attempt command.targetStatus command.actor
      (some now) (age.getD fiveMinutesMs) = .ok ())
    (hrequired : assertArtifacts command.targetStatus
      (mergedArtifacts command.attempt command) = .ok ())
    (hid : d.ids 0 = id.1) :
    ∃ result, ((transitionAttempt raw age).run d).1 = .ok result ∧
      result.replayed = false ∧ result.attempt.status = command.targetStatus := by
  have hreceipt : ∃ receipt, AttemptTransitionReceiptSchema.parse {
      id := d.ids 0
      attemptId := command.attempt.id.1
      idempotencyKey := command.idempotencyKey.1
      «from» := command.attempt.status
      «to» := command.targetStatus
      expectedHeadSha := command.expectedHeadSha.1
      currentHeadSha := command.currentHeadSha.1
      actorId := command.actor.actorId.1
      actorRole := command.actor.role
      occurredAt := d.clock 0 } = .ok receipt := by
    simp [AttemptTransitionReceiptSchema.parse, hid, hnow]
  obtain ⟨receipt, hreceipt⟩ := hreceipt
  obtain ⟨next, hnext, hstatus⟩ : ∃ next, AttemptSchema.parse (advancedAttempt
      command.attempt command.targetStatus (d.clock 0)
      (mergedArtifacts command.attempt command) receipt) = .ok next ∧
      next.status = command.targetStatus :=
    ⟨_, by rw [hnow]; exact parse_advancedAttempt .., rfl⟩
  refine ⟨{ attempt := next, receipt, replayed := false }, ?_, rfl, hstatus⟩
  suffices h : ∃ d', (transitionAttempt raw age).run d =
      (.ok { attempt := next, receipt, replayed := false }, d') by
    obtain ⟨d', hrun⟩ := h
    rw [hrun]
  refine ⟨{ clock := fun n => d.clock (n + 1), ids := fun n => d.ids (n + 1) },
    parsing_bind_eq_ok.mpr ⟨command, hparse, checking_bind_eq_ok.mpr ⟨none, hreplay, ?_⟩⟩⟩
  refine checking_bind_eq_ok.mpr ⟨(), hguards, ?_⟩
  rw [now_bind_run]
  refine checking_bind_eq_ok.mpr ⟨(), by rw [hnow]; exact hexpiry, ?_⟩
  refine checking_bind_eq_ok.mpr ⟨(), by rw [hnow]; exact hauth, ?_⟩
  refine parsing_bind_eq_ok.mpr ⟨_, AttemptArtifactRefsSchema.parse_raw _, ?_⟩
  refine checking_bind_eq_ok.mpr ⟨(), hrequired, ?_⟩
  rw [nextId_bind_run]
  exact parsing_bind_eq_ok.mpr ⟨receipt, hreceipt, parsing_bind_eq_ok.mpr ⟨next, hnext, rfl⟩⟩

/-- The way out of a running attempt. -/
def closingStatus (attempt : Attempt) (currentHeadSha : GitSha) (now : Timestamp) :
    AttemptStatus :=
  if currentHeadSha ≠ attempt.headSha then .invalidated
  else if attempt.expiresAt ≤ now then .expired
  else .technicalRetry

def closingStatuses : List AttemptStatus := [.invalidated, .expired, .technicalRetry]

/-- An actor of the system with every scope, checked recently enough. -/
structure FreshSystemActor (attempt : Attempt) (now : Timestamp) (maxAge : Int)
    (actor : AuthorizedActor) : Prop where
  role : actor.role = .system
  authorized : actor.authorization.authorized = true
  repositoryId : actor.authorization.repositoryId = attempt.repositoryId
  scopes : ∀ scope, scope ∈ actor.authorization.scopes
  checkedAt : actor.authorization.checkedAt ≤ now
  expiresAt : now < actor.authorization.expiresAt
  age : now - actor.authorization.checkedAt ≤ maxAge

/-- A call by which a job of the system asks for the target status. -/
structure ClosingCall (attempt : Attempt) (currentHeadSha : GitSha) (now : Timestamp)
    (call : TransitionCall) : Prop where
  expectedStatus : call.expectedStatus = attempt.status
  target : call.targetStatus ∈ closingStatuses
  expectedHeadSha : call.expectedHeadSha = attempt.headSha.1
  currentHeadSha : call.currentHeadSha = currentHeadSha.1
  clock : call.dependencies.clock 0 = some now
  id : ∃ id : Uuid, call.dependencies.ids 0 = id.1
  key : ∃ key : IdempotencyKey, call.idempotencyKey = key.1 ∧
    ∀ r ∈ attempt.transitionReceipts, r.idempotencyKey ≠ key
  technicalEventId : ∃ artifacts : AttemptArtifactRefs,
    call.artifacts = AttemptArtifactRefs.raw artifacts ∧
      (artifacts .technicalEventId).get.isSome
  actor : ∃ actor : AuthorizedActor, call.actor = AuthorizedActor.raw actor ∧
    FreshSystemActor attempt now (call.maxAuthorizationAgeMs.getD fiveMinutesMs) actor

section ClosingCall

variable {attempt : Attempt} {currentHeadSha : GitSha} {now : Timestamp}
  {target : AttemptStatus}

theorem isTerminal_closingStatus :
    isTerminalAttemptStatus (closingStatus attempt currentHeadSha now) = true := by
  unfold closingStatus
  split_ifs <;> decide

theorem closingStatus_mem : closingStatus attempt currentHeadSha now ∈ closingStatuses := by
  unfold closingStatus
  split_ifs <;> decide

/-- The three guards on a way out pick the closing status. -/
theorem eq_closingStatus_iff (hmem : target ∈ closingStatuses) :
    target = closingStatus attempt currentHeadSha now ↔
      (target = .invalidated ↔ currentHeadSha ≠ attempt.headSha) ∧
      (target = .expired → attempt.expiresAt ≤ now) ∧
      (target ≠ .expired → target ≠ .invalidated → now < attempt.expiresAt) := by
  unfold closingStatus
  simp only [closingStatuses, List.mem_cons, List.not_mem_nil, or_false] at hmem
  by_cases hsha : currentHeadSha = attempt.headSha
  · by_cases hdue : attempt.expiresAt ≤ now
    · rcases hmem with rfl | rfl | rfl <;> simp [hsha, hdue]
    · rcases hmem with rfl | rfl | rfl <;> simp [hsha, hdue, not_le.mp hdue]
  · rcases hmem with rfl | rfl | rfl <;> simp [hsha]

/-- Every running status may be left by each of the three ways out. -/
theorem allowed_of_closing (hopen : isTerminalAttemptStatus attempt.status = false)
    (hmem : target ∈ closingStatuses) :
    target ∈ allowedAttemptTransitions attempt.status := by
  simp only [closingStatuses, List.mem_cons, List.not_mem_nil, or_false] at hmem
  cases hstatus : attempt.status with
  | preparing | ready | active | uploading | processing | reviewRequired =>
      rcases hmem with rfl | rfl | rfl <;> decide
  | passed | retryRequired | technicalRetry | expired | invalidated =>
      rw [hstatus] at hopen
      exact absurd hopen (by decide)

/-- The jobs of the system may ask for each of the three ways out. -/
theorem system_mem_roles (hmem : target ∈ closingStatuses) :
    .system ∈ (transitionAuthorization target).roles := by
  simp only [closingStatuses, List.mem_cons, List.not_mem_nil, or_false] at hmem
  rcases hmem with rfl | rfl | rfl <;> decide

theorem FreshSystemActor.assertAuthorization {actor : AuthorizedActor} {maxAge : Int}
    (h : FreshSystemActor attempt now maxAge actor) (hmem : target ∈ closingStatuses) :
    assertAuthorization attempt target actor (some now) maxAge = .ok () := by
  have hrole : actor.role ∈ (transitionAuthorization target).roles :=
    h.role.symm ▸ system_mem_roles hmem
  simp only [Domain.assertAuthorization, bind_eq_ok, rejectIf_eq_ok, exists_const, not_not,
    JsDate.gt, JsDate.le, decide_eq_true_eq, Option.map_some, h.repositoryId, h.role,
    reduceCtorEq, false_and, not_false_eq_true, and_true, true_and]
  exact ⟨not_lt.mpr h.checkedAt, not_le.mpr h.expiresAt, not_lt.mpr h.age,
    h.role ▸ hrole, h.scopes _⟩

theorem assertArtifacts_of_closing {artifacts : AttemptArtifactRefs}
    (hmem : target ∈ closingStatuses) (h : (artifacts .technicalEventId).get.isSome) :
    assertArtifacts target artifacts = .ok () := by
  refine forM_rejectIf_eq_ok.mpr fun key hkey => ?_
  have hevent : key = .technicalEventId := by
    simp only [closingStatuses, List.mem_cons, List.not_mem_nil, or_false] at hmem
    rcases hmem with rfl | rfl | rfl <;> simp_all [requiredArtifacts]
  rw [hevent]
  exact Option.isSome_iff_ne_none.mp h

theorem findIdempotentReplay_of_fresh {command : AttemptTransitionCommand}
    (h : ∀ r ∈ command.attempt.transitionReceipts,
      r.idempotencyKey ≠ command.idempotencyKey) :
    findIdempotentReplay command = .ok none := by
  unfold findIdempotentReplay
  have hnone : command.attempt.transitionReceipts.find?
      (fun candidate => candidate.idempotencyKey = command.idempotencyKey) = none :=
    List.find?_eq_none.mpr fun r hr => by simpa using h r hr
  rw [hnone]

/-- The command a closing call is parsed to. -/
theorem ClosingCall.parse {call : TransitionCall}
    (h : ClosingCall attempt currentHeadSha now call) :
    ∃ command, AttemptTransitionCommandSchema.parse (call.command attempt) = .ok command ∧
      command.attempt = attempt ∧ command.expectedStatus = attempt.status ∧
      command.targetStatus = call.targetStatus ∧
      command.expectedHeadSha = attempt.headSha ∧
      command.currentHeadSha = currentHeadSha ∧
      (∀ r ∈ attempt.transitionReceipts, r.idempotencyKey ≠ command.idempotencyKey) ∧
      (command.artifacts .technicalEventId).get.isSome ∧
      FreshSystemActor attempt now (call.maxAuthorizationAgeMs.getD fiveMinutesMs)
        command.actor := by
  obtain ⟨key, hkey, hfresh⟩ := h.key
  obtain ⟨artifacts, hartifacts, hevent⟩ := h.technicalEventId
  obtain ⟨actor, hactor, hsystem⟩ := h.actor
  have hscopes : actor.authorization.scopes ≠ [] :=
    List.ne_nil_of_mem (hsystem.scopes .expire)
  have hparse : AuthorizedActorSchema.parse (AuthorizedActor.raw actor) = .ok actor := by
    obtain ⟨actorId, role, authorized, repositoryId, scopes, checkedAt, expiresAt⟩ := actor
    obtain rfl : authorized = true := hsystem.authorized
    have hscopes : scopes ≠ [] := hscopes
    simp [AuthorizedActorSchema.parse, AuthorizedActor.raw, hscopes]
  refine ⟨{
    attempt, expectedStatus := attempt.status, targetStatus := call.targetStatus
    expectedHeadSha := attempt.headSha, currentHeadSha, actor, artifacts
    idempotencyKey := key }, ?_, rfl, rfl, rfl, rfl, rfl, hfresh, hevent, hsystem⟩
  simp only [AttemptTransitionCommandSchema.parse, TransitionCall.command,
    AttemptSchema.parse_raw, h.expectedStatus, h.expectedHeadSha, h.currentHeadSha, hkey,
    hartifacts, hactor, hparse, GitShaSchema.parse_val, IdempotencyKeySchema.parse_val,
    AttemptArtifactRefsSchema.parse_raw, except_ok_bind, except_pure]

end ClosingCall

/-- No running attempt is stuck: a call of the system for one of the three ways
out moves it there when that is its closing status, and fails otherwise. -/
theorem closes_iff_closingStatus (attempt : Attempt)
    (hopen : isTerminalAttemptStatus attempt.status = false) (currentHeadSha : GitSha)
    (now : Timestamp) :
    isTerminalAttemptStatus (closingStatus attempt currentHeadSha now) = true ∧
    closingStatus attempt currentHeadSha now ∈ closingStatuses ∧
    ∀ call, ClosingCall attempt currentHeadSha now call →
      (call.targetStatus = closingStatus attempt currentHeadSha now →
        ∃ result, (call.run attempt).1 = .ok result ∧ result.replayed = false ∧
          result.attempt.status = call.targetStatus) ∧
      (call.targetStatus ≠ closingStatus attempt currentHeadSha now →
        ∀ result, (call.run attempt).1 ≠ .ok result) := by
  refine ⟨isTerminal_closingStatus, closingStatus_mem, fun call hcall => ?_⟩
  obtain ⟨command, hparse, rfl, hstatus, htarget, hsha, hcurrent, hfresh, hevent, hactor⟩ :=
    hcall.parse
  have hmem : command.targetStatus ∈ closingStatuses := htarget ▸ hcall.target
  rw [← htarget]
  constructor
  · intro hclosing
    rw [← hcurrent] at hclosing
    obtain ⟨hinvalidated, hdue, hrunning⟩ := (eq_closingStatus_iff hmem).mp hclosing
    obtain ⟨id, hid⟩ := hcall.id
    have hguards : assertTransition command = .ok () :=
      assertTransition_eq_ok.mpr
        ⟨hopen, hstatus.symm, allowed_of_closing hopen hmem, hsha, hinvalidated⟩
    have hmerged : (mergedArtifacts command.attempt command .technicalEventId).get.isSome := by
      unfold mergedArtifacts
      cases hvalue : command.artifacts .technicalEventId with
      | value event => rfl
      | absent | undefined => rw [hvalue] at hevent; cases hevent
    exact transitionAttempt_of_guards hparse (findIdempotentReplay_of_fresh hfresh) hguards
      hcall.clock (assertExpiry_eq_ok.mpr ⟨hdue, hrunning⟩)
      (hactor.assertAuthorization hmem) (assertArtifacts_of_closing hmem hmerged) hid
  · intro hother result hrun
    obtain ⟨command', hparse', hcases⟩ := transitionAttempt_eq_ok hrun
    obtain rfl : command = command' := Except.ok.inj (hparse.symm.trans hparse')
    rcases hcases with ⟨-, -, hreplay⟩ | ⟨-, now', hnow, hadvance⟩
    · rw [findIdempotentReplay_of_fresh hfresh] at hreplay
      cases hreplay
    · obtain rfl : now = now' := Option.some.inj (hcall.clock.symm.trans hnow)
      refine hother ((eq_closingStatus_iff hmem).mpr ⟨?_, hadvance.due, hadvance.notExpired⟩)
      rw [← hcurrent]
      exact hadvance.invalidated_iff

/-- A job of the system at the time an attempt expires. -/
def sampleClosing : TransitionCall where
  expectedStatus := .preparing
  targetStatus := .expired
  expectedHeadSha := sampleInput.headSha
  currentHeadSha := sampleInput.headSha
  actor := {
    actorId := js "expiry-job", role := .system
    authorization := {
      authorized := true, repositoryId := sampleInput.repositoryId
      scopes := [.prepare, .start, .upload, .process, .requestReview, .decide,
        .markTechnicalRetry, .expire, .invalidate]
      checkedAt := some 3600000, expiresAt := some 3660000 } }
  artifacts := fun key => match key with
    | .technicalEventId => .value (js "20000000-0000-4000-8000-000000000003")
    | _ => .absent
  idempotencyKey := js "attempt:expire:1"
  dependencies := sampleDependencies 3600000 "00000000-0000-4000-8000-000000000004"
  maxAuthorizationAgeMs := none

theorem closes_iff_closingStatus_sample :
    closingStatus sampleAttempt sampleAttempt.headSha 3600000 = .expired ∧
      ∃ result, (sampleClosing.run sampleAttempt).1 = .ok result ∧
        result.replayed = false ∧ result.attempt.status = .expired := by
  have hclosing : closingStatus sampleAttempt sampleAttempt.headSha 3600000 = .expired := by
    decide
  refine ⟨hclosing, ?_⟩
  refine ((closes_iff_closingStatus sampleAttempt (by decide) sampleAttempt.headSha
    3600000).2.2 sampleClosing ?_).1 hclosing.symm
  exact {
    expectedStatus := rfl
    target := by decide
    expectedHeadSha := rfl
    currentHeadSha := rfl
    clock := rfl
    id := ⟨⟨js "00000000-0000-4000-8000-000000000004", by decide⟩, rfl⟩
    key := ⟨⟨js "attempt:expire:1", by decide⟩, rfl,
      fun r hr => absurd hr List.not_mem_nil⟩
    technicalEventId := ⟨fun key => match key with
      | .technicalEventId =>
          .value ⟨js "20000000-0000-4000-8000-000000000003", by decide⟩
      | _ => .absent, by funext key; cases key <;> rfl, rfl⟩
    actor := ⟨{
      actorId := ⟨js "expiry-job", by decide⟩, role := .system
      authorization := {
        authorized := true, repositoryId := sampleAttempt.repositoryId
        scopes := sampleClosing.actor.authorization.scopes
        checkedAt := 3600000, expiresAt := 3660000 } }, rfl,
      { role := rfl
        authorized := rfl
        repositoryId := rfl
        scopes := fun scope => by cases scope <;> decide
        checkedAt := by decide
        expiresAt := by decide
        age := by decide }⟩ }

end Domain

end UnderstandProof
