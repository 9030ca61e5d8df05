import UnderstandProof.Domain.Attempt

/-!
# Creating and moving an attempt

`createAttempt` and `transitionAttempt` in the order of the source: parse the
command, look for a replay, check the status and the commit bindings, read the
clock, check expiry and authorization, merge the artifacts, and only then draw
an identifier for the receipt. Both run over the clock readings and identifiers
still to come, and return what is left of them.
-/

open Foundation

namespace UnderstandProof

namespace Domain

inductive AttemptTransitionErrorCode where
  | idempotencyConflict
  | terminalStatus
  | invalidTransition
  | staleStatus
  | expectedShaMismatch
  | revisionInvalidated
  | invalidationRequiresNewSha
  | attemptExpired
  | expirationNotDue
  | authorizationRepositoryMismatch
  | authorizationNotYetValid
  | authorizationExpired
  | authorizationStale
  | actorNotAllowed
  | authorMismatch
  | missingScope
  | missingArtifact
  deriving DecidableEq, Repr

structure AttemptTransitionError where
  code : AttemptTransitionErrorCode
  message : String
  deriving DecidableEq, Repr

/-- What the operations throw. -/
inductive AttemptFailure where
  | schema (error : SchemaError)
  | transition (error : AttemptTransitionError)
  deriving DecidableEq, Repr

/-- The clock readings and the identifiers still to come. -/
structure AttemptDependencies where
  clock : ℕ → JsDate
  ids : ℕ → JsString

structure AttemptTransitionResult where
  attempt : Attempt
  receipt : AttemptTransitionReceipt
  replayed : Bool
  deriving DecidableEq

abbrev AttemptM := Stateful AttemptFailure AttemptDependencies

namespace AttemptM

variable {α : Type}

/-- `dependencies.clock.now()` -/
def now : AttemptM JsDate := fun d =>
  (.ok (d.clock 0), { d with clock := fun n => d.clock (n + 1) })

/-- `dependencies.ids.nextId()` -/
def nextId : AttemptM JsString := fun d =>
  (.ok (d.ids 0), { d with ids := fun n => d.ids (n + 1) })

def parsing (x : Except SchemaError α) : AttemptM α :=
  Stateful.lift (x.mapError AttemptFailure.schema)

def checking (x : Except AttemptTransitionError α) : AttemptM α :=
  Stateful.lift (x.mapError AttemptFailure.transition)

end AttemptM

def fiveMinutesMs : Int := 5 * 60 * 1000

def requiredArtifacts : AttemptStatus → List ArtifactKey
  | .preparing => []
  | .ready => []
  | .active => [.handoffTokenId, .mobileSessionId]
  | .uploading => [.uploadSessionId]
  | .processing => [.recordingManifestId, .recordingObjectId, .wrappedKeyRef]
  | .reviewRequired => [.transcriptId, .evaluationId]
  | .passed => [.reviewDecisionId]
  | .retryRequired => [.reviewDecisionId]
  | .technicalRetry => [.technicalEventId]
  | .expired => []
  | .invalidated => []

structure TransitionRule where
  roles : List ActorRole
  scope : AuthorizationScope

def transitionAuthorization : AttemptStatus → TransitionRule
  | .preparing => ⟨[.worker, .system], .prepare⟩
  | .ready => ⟨[.worker, .system], .prepare⟩
  | .active => ⟨[.author], .start⟩
  | .uploading => ⟨[.author], .upload⟩
  | .processing => ⟨[.worker, .system], .process⟩
  | .reviewRequired => ⟨[.worker, .system], .requestReview⟩
  | .passed => ⟨[.maintainer], .decide⟩
  | .retryRequired => ⟨[.maintainer], .decide⟩
  | .technicalRetry => ⟨[.worker, .system], .markTechnicalRetry⟩
  | .expired => ⟨[.worker, .system], .expire⟩
  | .invalidated => ⟨[.worker, .system], .invalidate⟩

def isTerminalAttemptStatus (status : AttemptStatus) : Bool :=
  terminalAttemptStatuses.contains status

def canTransitionAttempt (source target : AttemptStatus) : Bool :=
  (allowedAttemptTransitions source).contains target

def createAttempt (rawInput : RawCreateAttemptInput) : AttemptM Attempt := do
  let input ← AttemptM.parsing (CreateAttemptInputSchema.parse rawInput)
  let now ← AttemptM.now
  AttemptM.checking <| rejectIf (JsDate.le (some input.expiresAt) now)
    ⟨.attemptExpired, "A new attempt must expire after the current server time"⟩
  let nextId ← AttemptM.nextId
  let id ← AttemptM.parsing (UuidSchema.parse nextId)
  AttemptM.parsing <| AttemptSchema.parse {
    id := id.1
    repositoryId := input.repositoryId.1
    revisionId := input.revisionId.1
    proofPlanId := input.proofPlanId.1
    authorId := input.authorId.1
    headSha := input.headSha.1
    expiresAt := some input.expiresAt
    status := .preparing
    createdAt := now
    updatedAt := now
    startedAt := .absent
    completedAt := .absent
    invalidatedAt := .absent
    artifacts := fun _ => .absent
    transitionReceipts := [] }

def assertAuthorization (attempt : Attempt) (targetStatus : AttemptStatus)
    (actor : AuthorizedActor) (now : JsDate) (maxAuthorizationAgeMs : Int) :
    Except AttemptTransitionError Unit := do
  let authorization := actor.authorization
  let rule := transitionAuthorization targetStatus
  rejectIf (authorization.repositoryId ≠ attempt.repositoryId)
    ⟨.authorizationRepositoryMismatch,
      "Authorization is not bound to the attempt repository"⟩
  rejectIf (JsDate.gt (some authorization.checkedAt) now)
    ⟨.authorizationNotYetValid, "Authorization check time is in the future"⟩
  rejectIf (JsDate.le (some authorization.expiresAt) now)
    ⟨.authorizationExpired, "Authorization has expired"⟩
  rejectIf (JsDate.gt (now.map (· - authorization.checkedAt))
      (some maxAuthorizationAgeMs))
    ⟨.authorizationStale,
      "Authorization is not fresh enough for this transition"⟩
  rejectIf (actor.role ∉ rule.roles)
    ⟨.actorNotAllowed, "Actor role " ++ actor.role.text ++
      " cannot transition an attempt to " ++ targetStatus.text⟩
  rejectIf (rule.scope ∉ authorization.scopes)
    ⟨.missingScope, "Authorization lacks scope " ++ rule.scope.text⟩
  rejectIf (actor.role = .author ∧ actor.actorId ≠ attempt.authorId)
    ⟨.authorMismatch, "Only the attempt author may start or upload this proof"⟩

def assertArtifacts (targetStatus : AttemptStatus)
    (artifacts : AttemptArtifactRefs) : Except AttemptTransitionError Unit :=
  (requiredArtifacts targetStatus).forM fun artifact =>
    rejectIf ((artifacts artifact).get = none)
      ⟨.missingArtifact, "Transition to " ++ targetStatus.text ++
        " requires artifact " ++ artifact.text⟩

def findIdempotentReplay (command : AttemptTransitionCommand) :
    Except AttemptTransitionError (Option AttemptTransitionReceipt) :=
  match command.attempt.transitionReceipts.find?
      fun candidate => candidate.idempotencyKey = command.idempotencyKey with
  | none => .ok none
  | some receipt =>
      if receipt.attemptId = command.attempt.id ∧
          receipt.from = command.expectedStatus ∧
          receipt.to = command.targetStatus ∧
          receipt.expectedHeadSha = command.expectedHeadSha ∧
          receipt.currentHeadSha = command.currentHeadSha ∧
          receipt.actorId = command.actor.actorId ∧
          receipt.actorRole = command.actor.role then
        .ok (some receipt)
      else
        .error ⟨.idempotencyConflict,
          "Idempotency key was already used for a different transition"⟩

/-- The guards of `transitionAttempt` on the status and the commit bindings,
before it reads the clock. -/
def assertTransition (command : AttemptTransitionCommand) :
    Except AttemptTransitionError Unit := do
  let attempt := command.attempt
  let targetStatus := command.targetStatus
  rejectIf (isTerminalAttemptStatus attempt.status)
    ⟨.terminalStatus, "Terminal attempt status " ++ attempt.status.text ++
      " cannot be overwritten"⟩
  rejectIf (attempt.status ≠ command.expectedStatus)
    ⟨.staleStatus, "Expected status " ++ command.expectedStatus.text ++
      ", found " ++ attempt.status.text⟩
  rejectIf (¬ canTransitionAttempt attempt.status targetStatus)
    ⟨.invalidTransition, "Transition " ++ attempt.status.text ++ " -> " ++
      targetStatus.text ++ " is not allowed"⟩
  rejectIf (command.expectedHeadSha ≠ attempt.headSha)
    ⟨.expectedShaMismatch, "Command is not bound to the attempt head SHA"⟩
  let currentShaMatches := command.currentHeadSha = attempt.headSha
  rejectIf (targetStatus = .invalidated ∧ currentShaMatches)
    ⟨.invalidationRequiresNewSha,
      "An attempt can only be invalidated after the current head SHA changes"⟩
  rejectIf (targetStatus ≠ .invalidated ∧ ¬ currentShaMatches)
    ⟨.revisionInvalidated,
      "Current head SHA no longer matches the attempt revision"⟩

/-- The guards of `transitionAttempt` on the expiry time. -/
def assertExpiry (attempt : Attempt) (targetStatus : AttemptStatus)
    (now : JsDate) : Except AttemptTransitionError Unit := do
  let hasExpired := JsDate.le (some attempt.expiresAt) now
  rejectIf (targetStatus = .expired ∧ ¬ hasExpired)
    ⟨.expirationNotDue,
      "Attempt expiration is not due at the current server time"⟩
  rejectIf (targetStatus ≠ .expired ∧ hasExpired ∧ targetStatus ≠ .invalidated)
    ⟨.attemptExpired, "Attempt has expired according to server time"⟩

/-- The object that `transitionAttempt` hands to the attempt schema: the fields
of the attempt, spread over by those the transition sets. -/
def advancedAttempt (attempt : Attempt) (targetStatus : AttemptStatus)
    (now : JsDate) (artifacts : AttemptArtifactRefs)
    (receipt : AttemptTransitionReceipt) : RawAttempt :=
  { Attempt.raw attempt with
    status := targetStatus
    updatedAt := now
    artifacts := AttemptArtifactRefs.raw artifacts
    transitionReceipts := (attempt.transitionReceipts ++ [receipt]).map
      AttemptTransitionReceipt.raw
    startedAt := (attempt.startedAt.map some).spread
      (if targetStatus = .active ∧ attempt.startedAt.get = none then .value now
        else .absent)
    completedAt := (attempt.completedAt.map some).spread
      (if isTerminalAttemptStatus targetStatus then .value now else .absent)
    invalidatedAt := (attempt.invalidatedAt.map some).spread
      (if targetStatus = .invalidated then .value now else .absent) }

def transitionAttempt (rawCommand : RawCommand)
    (maxAuthorizationAgeMs : Option Int) : AttemptM AttemptTransitionResult := do
  let command ← AttemptM.parsing (AttemptTransitionCommandSchema.parse rawCommand)
  match ← AttemptM.checking (findIdempotentReplay command) with
  | some receipt => return { attempt := command.attempt, receipt, replayed := true }
  | none =>
      let attempt := command.attempt
      let targetStatus := command.targetStatus
      AttemptM.checking (assertTransition command)
      let now ← AttemptM.now
      AttemptM.checking (assertExpiry attempt targetStatus now)
      AttemptM.checking <| assertAuthorization attempt targetStatus command.actor
        now (maxAuthorizationAgeMs.getD fiveMinutesMs)
      let artifacts ← AttemptM.parsing <| AttemptArtifactRefsSchema.parse <|
        AttemptArtifactRefs.raw fun key =>
          (attempt.artifacts key).spread (command.artifacts key)
      AttemptM.checking (assertArtifacts targetStatus artifacts)
      let nextId ← AttemptM.nextId
      let receipt ← AttemptM.parsing <| AttemptTransitionReceiptSchema.parse {
        id := nextId
        attemptId := attempt.id.1
        idempotencyKey := command.idempotencyKey.1
        «from» := attempt.status
        «to» := targetStatus
        expectedHeadSha := command.expectedHeadSha.1
        currentHeadSha := command.currentHeadSha.1
        actorId := command.actor.actorId.1
        actorRole := command.actor.role
        occurredAt := now }
      let next ← AttemptM.parsing <| AttemptSchema.parse
        (advancedAttempt attempt targetStatus now artifacts receipt)
      return { attempt := next, receipt, replayed := false }

end Domain

end UnderstandProof
