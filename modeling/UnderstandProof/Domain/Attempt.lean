import Mathlib.Data.Fintype.Pi
import UnderstandProof.Domain.Primitives

/-!
# Attempts and their transitions

The data of an attempt, the tables that rule its transitions, and the two
operations `createAttempt` and `transitionAttempt`. Records are written once
over the types of their checked fields, so that the raw command a caller hands
in and the parsed one the code works on are two instances of one structure.
The clock and the identifier supply are threaded through the operations, which
makes what a call consumes part of its result.
-/

open Foundation

namespace UnderstandProof

namespace Domain

inductive AttemptStatus where
  | preparing
  | ready
  | active
  | uploading
  | processing
  | reviewRequired
  | passed
  | retryRequired
  | technicalRetry
  | expired
  | invalidated
  deriving DecidableEq, Repr

/-- The status as the source spells it in its messages. -/
def AttemptStatus.text : AttemptStatus → String
  | preparing => "preparing"
  | ready => "ready"
  | active => "active"
  | uploading => "uploading"
  | processing => "processing"
  | reviewRequired => "review_required"
  | passed => "passed"
  | retryRequired => "retry_required"
  | technicalRetry => "technical_retry"
  | expired => "expired"
  | invalidated => "invalidated"

def terminalAttemptStatuses : List AttemptStatus :=
  [.passed, .retryRequired, .technicalRetry, .expired, .invalidated]

def allowedAttemptTransitions : AttemptStatus → List AttemptStatus
  | .preparing => [.ready, .technicalRetry, .expired, .invalidated]
  | .ready => [.active, .technicalRetry, .expired, .invalidated]
  | .active => [.uploading, .technicalRetry, .expired, .invalidated]
  | .uploading => [.processing, .technicalRetry, .expired, .invalidated]
  | .processing => [.reviewRequired, .technicalRetry, .expired, .invalidated]
  | .reviewRequired =>
      [.passed, .retryRequired, .technicalRetry, .expired, .invalidated]
  | .passed => []
  | .retryRequired => []
  | .technicalRetry => []
  | .expired => []
  | .invalidated => []

/-- The keys of an artifact object. -/
inductive ArtifactKey where
  | handoffTokenId
  | mobileSessionId
  | uploadSessionId
  | recordingManifestId
  | recordingObjectId
  | wrappedKeyRef
  | transcriptId
  | evaluationId
  | reviewDecisionId
  | technicalEventId
  deriving DecidableEq, Repr

instance : Fintype ArtifactKey where
  elems := {.handoffTokenId, .mobileSessionId, .uploadSessionId,
    .recordingManifestId, .recordingObjectId, .wrappedKeyRef, .transcriptId,
    .evaluationId, .reviewDecisionId, .technicalEventId}
  complete key := by cases key <;> decide

def ArtifactKey.text : ArtifactKey → String
  | handoffTokenId => "handoffTokenId"
  | mobileSessionId => "mobileSessionId"
  | uploadSessionId => "uploadSessionId"
  | recordingManifestId => "recordingManifestId"
  | recordingObjectId => "recordingObjectId"
  | wrappedKeyRef => "wrappedKeyRef"
  | transcriptId => "transcriptId"
  | evaluationId => "evaluationId"
  | reviewDecisionId => "reviewDecisionId"
  | technicalEventId => "technicalEventId"

/-- An optional property of an object: the key is absent, or it is present with
the value `undefined`, or it is present with a value. -/
inductive Property (α : Type) where
  | absent
  | undefined
  | value (a : α)
  deriving DecidableEq, Repr

namespace Property

variable {α β : Type}

/-- Reading the property; a missing key reads as `undefined`. -/
def get : Property α → Option α
  | value a => some a
  | _ => none

def map (f : α → β) : Property α → Property β
  | absent => absent
  | undefined => undefined
  | value a => value (f a)

/-- `optional()` of a schema: only a value is parsed, and an explicit
`undefined` is kept. -/
def parse (schema : α → Except SchemaError β) :
    Property α → Except SchemaError (Property β)
  | absent => .ok absent
  | undefined => .ok undefined
  | value a => (schema a).map value

/-- One key of the object spread `{ ...left, ...right }`: a key that is present
on the right wins, whatever its value. -/
def spread (left right : Property α) : Property α :=
  match right with
  | absent => left
  | _ => right

@[simp] theorem get_absent : (absent : Property α).get = none := rfl

@[simp] theorem get_value (a : α) : (value a).get = some a := rfl

@[simp] theorem spread_absent (p : Property α) : p.spread absent = p := rfl

@[simp] theorem spread_value (p : Property α) (a : α) :
    p.spread (value a) = value a := rfl

theorem parse_map {schema : α → Except SchemaError β} {raw : β → α}
    (h : ∀ b, schema (raw b) = .ok b) (p : Property β) :
    parse schema (p.map raw) = .ok p := by
  cases p with
  | absent => rfl
  | undefined => rfl
  | value b => simp [map, parse, h, Except.map]

/-- Merging over a recorded value leaves it recorded, unless the right side
carries the key with the value `undefined`. -/
theorem isSome_get_spread {left right : Property α} (hl : left.get.isSome)
    (hr : right ≠ undefined) : (left.spread right).get.isSome := by
  cases right with
  | absent => exact hl
  | undefined => exact (hr rfl).elim
  | value a => rfl

end Property

/-- Artifact references by key. -/
abbrev ArtifactRefsOf (U : Type) := ArtifactKey → Property U

abbrev AttemptArtifactRefs := ArtifactRefsOf Uuid

inductive AuthorizationScope where
  | prepare
  | start
  | upload
  | process
  | requestReview
  | decide
  | markTechnicalRetry
  | expire
  | invalidate
  deriving DecidableEq, Repr

def AuthorizationScope.text : AuthorizationScope → String
  | prepare => "attempt:prepare"
  | start => "attempt:start"
  | upload => "attempt:upload"
  | process => "attempt:process"
  | requestReview => "attempt:request_review"
  | decide => "attempt:decide"
  | markTechnicalRetry => "attempt:mark_technical_retry"
  | expire => "attempt:expire"
  | invalidate => "attempt:invalidate"

inductive ActorRole where
  | author
  | maintainer
  | worker
  | system
  deriving DecidableEq, Repr

def ActorRole.text : ActorRole → String
  | author => "author"
  | maintainer => "maintainer"
  | worker => "worker"
  | system => "system"

/-! The records, over the types of UUIDs `U`, identifiers `I`, Git SHAs `S`,
idempotency keys `K` and dates `D`. -/

structure AuthorizationOf (U D : Type) where
  authorized : Bool
  repositoryId : U
  scopes : List AuthorizationScope
  checkedAt : D
  expiresAt : D
  deriving DecidableEq, Repr

structure ActorOf (U I D : Type) where
  actorId : I
  role : ActorRole
  authorization : AuthorizationOf U D
  deriving DecidableEq, Repr

structure ReceiptOf (U I S K D : Type) where
  id : U
  attemptId : U
  idempotencyKey : K
  «from» : AttemptStatus
  «to» : AttemptStatus
  expectedHeadSha : S
  currentHeadSha : S
  actorId : I
  actorRole : ActorRole
  occurredAt : D
  deriving DecidableEq, Repr

structure AttemptOf (U I S K D : Type) where
  id : U
  repositoryId : U
  revisionId : U
  proofPlanId : U
  authorId : I
  headSha : S
  status : AttemptStatus
  expiresAt : D
  createdAt : D
  updatedAt : D
  startedAt : Property D
  completedAt : Property D
  invalidatedAt : Property D
  artifacts : ArtifactRefsOf U
  transitionReceipts : List (ReceiptOf U I S K D)
  deriving DecidableEq

structure CreateAttemptInputOf (U I S D : Type) where
  repositoryId : U
  revisionId : U
  proofPlanId : U
  authorId : I
  headSha : S
  expiresAt : D
  deriving DecidableEq, Repr

structure CommandOf (U I S K D : Type) where
  attempt : AttemptOf U I S K D
  expectedStatus : AttemptStatus
  targetStatus : AttemptStatus
  expectedHeadSha : S
  currentHeadSha : S
  actor : ActorOf U I D
  artifacts : ArtifactRefsOf U
  idempotencyKey : K
  deriving DecidableEq

abbrev RawActor := ActorOf JsString JsString JsDate
abbrev RawReceipt := ReceiptOf JsString JsString JsString JsString JsDate
abbrev RawAttempt := AttemptOf JsString JsString JsString JsString JsDate
abbrev RawCreateAttemptInput :=
  CreateAttemptInputOf JsString JsString JsString JsDate
abbrev RawCommand := CommandOf JsString JsString JsString JsString JsDate

abbrev AuthorizedActor := ActorOf Uuid NonEmptyIdentifier Timestamp
abbrev AttemptTransitionReceipt :=
  ReceiptOf Uuid NonEmptyIdentifier GitSha IdempotencyKey Timestamp
abbrev Attempt := AttemptOf Uuid NonEmptyIdentifier GitSha IdempotencyKey Timestamp
abbrev CreateAttemptInput :=
  CreateAttemptInputOf Uuid NonEmptyIdentifier GitSha Timestamp
abbrev AttemptTransitionCommand :=
  CommandOf Uuid NonEmptyIdentifier GitSha IdempotencyKey Timestamp

/-- An artifact object parses when each of its keys does. -/
def AttemptArtifactRefsSchema.parse (raw : ArtifactRefsOf JsString) :
    Except SchemaError AttemptArtifactRefs :=
  if h : ∀ key, ((raw key).parse UuidSchema.parse).isOk then
    .ok fun key => match hkey : (raw key).parse UuidSchema.parse with
      | .ok p => p
      | .error _ => absurd (h key) (by simp [hkey, Except.isOk, Except.toBool])
  else .error .uuid

def AuthorizedActorSchema.parse (raw : RawActor) :
    Except SchemaError AuthorizedActor := do
  let actorId ← NonEmptyIdentifierSchema.parse raw.actorId
  if ¬ raw.authorization.authorized then throw .authorized
  let repositoryId ← UuidSchema.parse raw.authorization.repositoryId
  if raw.authorization.scopes = [] then throw .scopes
  let checkedAt ← DateSchema.parse raw.authorization.checkedAt
  let expiresAt ← DateSchema.parse raw.authorization.expiresAt
  return {
    actorId, role := raw.role
    authorization := {
      authorized := true, repositoryId, scopes := raw.authorization.scopes
      checkedAt, expiresAt } }

def AttemptTransitionReceiptSchema.parse (raw : RawReceipt) :
    Except SchemaError AttemptTransitionReceipt := do
  return {
    id := ← UuidSchema.parse raw.id
    attemptId := ← UuidSchema.parse raw.attemptId
    idempotencyKey := ← IdempotencyKeySchema.parse raw.idempotencyKey
    «from» := raw.from
    «to» := raw.to
    expectedHeadSha := ← GitShaSchema.parse raw.expectedHeadSha
    currentHeadSha := ← GitShaSchema.parse raw.currentHeadSha
    actorId := ← NonEmptyIdentifierSchema.parse raw.actorId
    actorRole := raw.actorRole
    occurredAt := ← DateSchema.parse raw.occurredAt }

def AttemptSchema.parse (raw : RawAttempt) : Except SchemaError Attempt := do
  return {
    id := ← UuidSchema.parse raw.id
    repositoryId := ← UuidSchema.parse raw.repositoryId
    revisionId := ← UuidSchema.parse raw.revisionId
    proofPlanId := ← UuidSchema.parse raw.proofPlanId
    authorId := ← NonEmptyIdentifierSchema.parse raw.authorId
    headSha := ← GitShaSchema.parse raw.headSha
    status := raw.status
    expiresAt := ← DateSchema.parse raw.expiresAt
    createdAt := ← DateSchema.parse raw.createdAt
    updatedAt := ← DateSchema.parse raw.updatedAt
    startedAt := ← raw.startedAt.parse DateSchema.parse
    completedAt := ← raw.completedAt.parse DateSchema.parse
    invalidatedAt := ← raw.invalidatedAt.parse DateSchema.parse
    artifacts := ← AttemptArtifactRefsSchema.parse raw.artifacts
    transitionReceipts :=
      ← raw.transitionReceipts.mapM AttemptTransitionReceiptSchema.parse }

def CreateAttemptInputSchema.parse (raw : RawCreateAttemptInput) :
    Except SchemaError CreateAttemptInput := do
  return {
    repositoryId := ← UuidSchema.parse raw.repositoryId
    revisionId := ← UuidSchema.parse raw.revisionId
    proofPlanId := ← UuidSchema.parse raw.proofPlanId
    authorId := ← NonEmptyIdentifierSchema.parse raw.authorId
    headSha := ← GitShaSchema.parse raw.headSha
    expiresAt := ← DateSchema.parse raw.expiresAt }

def AttemptTransitionCommandSchema.parse (raw : RawCommand) :
    Except SchemaError AttemptTransitionCommand := do
  return {
    attempt := ← AttemptSchema.parse raw.attempt
    expectedStatus := raw.expectedStatus
    targetStatus := raw.targetStatus
    expectedHeadSha := ← GitShaSchema.parse raw.expectedHeadSha
    currentHeadSha := ← GitShaSchema.parse raw.currentHeadSha
    actor := ← AuthorizedActorSchema.parse raw.actor
    artifacts := ← AttemptArtifactRefsSchema.parse raw.artifacts
    idempotencyKey := ← IdempotencyKeySchema.parse raw.idempotencyKey }

/-! A parsed value is handed to a schema again as the raw value it is. -/

def AttemptArtifactRefs.raw (artifacts : AttemptArtifactRefs) :
    ArtifactRefsOf JsString :=
  fun key => (artifacts key).map Subtype.val

def AuthorizedActor.raw (actor : AuthorizedActor) : RawActor where
  actorId := actor.actorId.1
  role := actor.role
  authorization := {
    authorized := actor.authorization.authorized
    repositoryId := actor.authorization.repositoryId.1
    scopes := actor.authorization.scopes
    checkedAt := some actor.authorization.checkedAt
    expiresAt := some actor.authorization.expiresAt }

def AttemptTransitionReceipt.raw (receipt : AttemptTransitionReceipt) :
    RawReceipt where
  id := receipt.id.1
  attemptId := receipt.attemptId.1
  idempotencyKey := receipt.idempotencyKey.1
  «from» := receipt.from
  «to» := receipt.to
  expectedHeadSha := receipt.expectedHeadSha.1
  currentHeadSha := receipt.currentHeadSha.1
  actorId := receipt.actorId.1
  actorRole := receipt.actorRole
  occurredAt := some receipt.occurredAt

def Attempt.raw (attempt : Attempt) : RawAttempt where
  id := attempt.id.1
  repositoryId := attempt.repositoryId.1
  revisionId := attempt.revisionId.1
  proofPlanId := attempt.proofPlanId.1
  authorId := attempt.authorId.1
  headSha := attempt.headSha.1
  status := attempt.status
  expiresAt := some attempt.expiresAt
  createdAt := some attempt.createdAt
  updatedAt := some attempt.updatedAt
  startedAt := attempt.startedAt.map some
  completedAt := attempt.completedAt.map some
  invalidatedAt := attempt.invalidatedAt.map some
  artifacts := AttemptArtifactRefs.raw attempt.artifacts
  transitionReceipts := attempt.transitionReceipts.map AttemptTransitionReceipt.raw

@[simp] theorem AttemptArtifactRefsSchema.parse_raw
    (artifacts : AttemptArtifactRefs) :
    parse (AttemptArtifactRefs.raw artifacts) = .ok artifacts := by
  have hkey : ∀ key, (AttemptArtifactRefs.raw artifacts key).parse
      UuidSchema.parse = .ok (artifacts key) := fun key =>
    Property.parse_map UuidSchema.parse_val _
  have hall : ∀ key, ((AttemptArtifactRefs.raw artifacts key).parse
      UuidSchema.parse).isOk := fun key => by simp [hkey, Except.isOk, Except.toBool]
  rw [parse, dif_pos hall]
  congr 1
  funext key
  split
  · next p hp => exact Except.ok.inj (hp.symm.trans (hkey key))
  · next e he =>
      rw [hkey key] at he
      cases he

@[simp] theorem AttemptTransitionReceiptSchema.parse_raw
    (receipt : AttemptTransitionReceipt) :
    parse (AttemptTransitionReceipt.raw receipt) = .ok receipt := by
  simp [parse, AttemptTransitionReceipt.raw]

theorem mapM_parse_raw (receipts : List AttemptTransitionReceipt) :
    (receipts.map AttemptTransitionReceipt.raw).mapM
      AttemptTransitionReceiptSchema.parse = .ok receipts := by
  induction receipts with
  | nil => rfl
  | cons receipt receipts ih =>
      rw [List.map_cons, List.mapM_cons, AttemptTransitionReceiptSchema.parse_raw, ih]
      rfl

/-- An attempt that the schema has accepted is accepted again, unchanged. -/
@[simp] theorem AttemptSchema.parse_raw (attempt : Attempt) :
    parse (Attempt.raw attempt) = .ok attempt := by
  have hdate : ∀ p : Property Timestamp,
      (p.map some).parse DateSchema.parse = .ok p :=
    fun p => Property.parse_map DateSchema.parse_some p
  simp only [parse, Attempt.raw, hdate, mapM_parse_raw, UuidSchema.parse_val,
    NonEmptyIdentifierSchema.parse_val, GitShaSchema.parse_val,
    DateSchema.parse_some, AttemptArtifactRefsSchema.parse_raw, except_ok_bind,
    except_pure]

end Domain

end UnderstandProof
