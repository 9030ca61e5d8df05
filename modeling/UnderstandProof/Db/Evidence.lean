import UnderstandProof.Domain.Attempt
import UnderstandProof.Foundation.Json
import UnderstandProof.Media.QuestionIntervals

/-!
# The evidence of one attempt

The rows that belong to the evidence of one attempt: the attempt itself, its upload session,
wrapping materials, recording, frames, question intervals and deletion job. The unique
indexes of the tables allow one upload session, one recording, one interval set and one
deletion job for an attempt. A transaction that throws, or that a trigger or an index
rejects, leaves every row as it is.
-/

open Foundation

namespace UnderstandProof

namespace Db

open Domain (AttemptStatus Timestamp JsDate allowedAttemptTransitions)
open Media (ProofQuestionInterval)

inductive UploadState where
  | active
  | aborting
  | pendingFinalization
  | completed
  | failed
  | deleted
  deriving DecidableEq, Repr

structure UploadSession where
  id : JsString
  objectId : JsString
  objectKey : JsString
  providerUploadId : JsString
  state : UploadState
  expiresAt : Timestamp
  manifestDigest : Option JsString
  finalizeEnvelope : Option Json

structure WrappingMaterial where
  id : JsString
  objectId : JsString
  keyId : JsString
  algorithm : JsString
  usableUntil : Timestamp
  destroyedAt : Option Timestamp
  deriving DecidableEq

structure RecordingObject where
  id : JsString
  objectKey : JsString
  wrappedDataKey : JsString
  wrappedKeySha256 : JsString
  wrappingMaterialId : JsString
  protocolVersion : JsString
  algorithm : JsString
  byteLength : ℕ
  durationMs : ℕ
  codec : JsString
  manifestHash : JsString
  deleteAfter : Timestamp
  deletedAt : Option Timestamp
  deriving DecidableEq

structure FrameSelection where
  id : JsString
  objectKey : JsString
  timestampMs : ℕ
  reasonCode : JsString
  deleteAfter : Timestamp
  deletedAt : Option Timestamp
  deriving DecidableEq

/-- A row of `proof_question_interval_sets`. -/
structure QuestionIntervalSet where
  uploadSessionId : JsString
  manifestDigest : JsString
  recordedDurationMs : ℕ
  intervals : List ProofQuestionInterval
  deriving DecidableEq

structure AttemptTransition where
  idempotencyKey : JsString
  fromStatus : AttemptStatus
  toStatus : AttemptStatus
  deriving DecidableEq

inductive DeletionJobState where
  | pending
  | running
  | failed
  | completed
  deriving DecidableEq, Repr

structure DeletionJob where
  id : JsString
  deadline : Timestamp
  attempts : ℕ
  state : DeletionJobState
  lastErrorClass : Option JsString
  completedAt : Option Timestamp
  updatedAt : Timestamp
  deriving DecidableEq

/-- The audit events that a deletion writes. -/
inductive DeletionAudit where
  | deleted (deletionJobId : JsString)
  | deletionFailed (deletionJobId : JsString) (errorClass : JsString)
  deriving DecidableEq

/-- What the evidence operations read of `attempts`. -/
structure AttemptRow where
  id : JsString
  authorId : JsString
  repositoryId : JsString
  headSha : JsString
  status : AttemptStatus
  expiresAt : Timestamp
  evidenceDeleteAfter : Option Timestamp
  deriving DecidableEq

/-- The rows of one attempt, and what they read of its revision, its pull request, its
repository and its installation. -/
structure Evidence where
  attempt : AttemptRow
  isCurrent : Bool
  pullRequestOpen : Bool
  repositoryActive : Bool
  installationActive : Bool
  upload : Option UploadSession
  materials : List WrappingMaterial
  intervals : Option QuestionIntervalSet
  recording : Option RecordingObject
  frames : List FrameSelection
  deletion : Option DeletionJob
  transitions : List AttemptTransition
  audits : List DeletionAudit

namespace Evidence

/-- The revision is current on an open pull request of an active repository. -/
def isAuthorized (db : Evidence) : Bool :=
  db.isCurrent = true ∧ db.pullRequestOpen = true ∧ db.repositoryActive = true ∧
    db.installationActive = true

def withStatus (db : Evidence) (status : AttemptStatus) : Evidence :=
  { db with attempt := { db.attempt with status := status } }

def withUploadState (db : Evidence) (state : UploadState) : Evidence :=
  { db with upload := db.upload.map fun upload => { upload with state := state } }

/-- `INSERT INTO attempt_transitions … ON CONFLICT DO NOTHING` -/
def insertTransition (db : Evidence) (idempotencyKey : JsString)
    (fromStatus toStatus : AttemptStatus) : Evidence :=
  if db.transitions.any fun transition => transition.idempotencyKey = idempotencyKey then db
  else
    { db with
      transitions := db.transitions ++
        [{ idempotencyKey := idempotencyKey, fromStatus := fromStatus, toStatus := toStatus }] }

/-! ## From the handoff to the upload -/

/-- `exchangeHandoff`: the material of a new object, usable until the attempt expires. -/
def issueMaterial (now : Timestamp) (id objectId keyId algorithm : JsString) (db : Evidence) :
    Option Evidence :=
  if now < db.attempt.expiresAt ∧ db.attempt.status = .ready ∧ db.isCurrent = true then
    some { db with
      materials := db.materials ++
        [{ id := id
           objectId := objectId
           keyId := keyId
           algorithm := algorithm
           usableUntil := db.attempt.expiresAt
           destroyedAt := none }] }
  else none

/-- The upload session that `POST uploads` creates; it expires with the attempt. -/
def createUpload (now : Timestamp) (id objectId objectKey providerUploadId : JsString)
    (db : Evidence) : Option Evidence :=
  if db.upload.isNone = true ∧ db.attempt.status = .active ∧ db.isCurrent = true ∧
      now < db.attempt.expiresAt then
    some
      { (db.insertTransition (js "upload-start:" ++ id) .active .uploading).withStatus .uploading
          with
        upload := some
          { id := id
            objectId := objectId
            objectKey := objectKey
            providerUploadId := providerUploadId
            state := .active
            expiresAt := db.attempt.expiresAt
            manifestDigest := none
            finalizeEnvelope := none } }
  else none

/-! ## The end of an attempt -/

/-- `destroyIncompleteEvidence` -/
def destroyIncompleteEvidence (now : Timestamp) (db : Evidence) : Evidence :=
  { db.withUploadState .failed with
    materials := db.materials.map fun material =>
      if material.destroyedAt = none then { material with destroyedAt := some now }
      else material }

def isTechnicallyAbortable (status : AttemptStatus) : Bool :=
  status ∈ [AttemptStatus.preparing, .ready, .active, .uploading]

structure AbortCommand where
  actorId : JsString
  repositoryId : JsString
  expectedHeadSha : JsString
  idempotencyKey : JsString

/-- `isAuthorized` of an author's session. -/
def AbortCommand.isAuthorized (command : AbortCommand) (attempt : AttemptRow) : Bool :=
  command.actorId = attempt.authorId ∧ command.repositoryId = attempt.repositoryId

/-- The upload stops taking parts; `none` when the upload is in no state to be reserved. -/
def reserveUpload (db : Evidence) : Option Evidence :=
  match db.upload with
  | none => some db
  | some upload =>
      if upload.state = .active then some (db.withUploadState .aborting)
      else if upload.state = .aborting then some db
      else none

/-- `reserveTechnicalAbort`; `none` is a conflict or a reservation that changes nothing. -/
def reserveTechnicalAbort (command : AbortCommand) (db : Evidence) : Option Evidence :=
  if command.isAuthorized db.attempt = true ∧
      db.attempt.headSha = command.expectedHeadSha ∧
      (db.transitions.any fun t => t.idempotencyKey = command.idempotencyKey) = false ∧
      db.isCurrent = true ∧ isTechnicallyAbortable db.attempt.status = true then
    db.reserveUpload
  else none

/-- The transaction of `abortAttemptForTechnicalRetry` after the reservation. -/
def abortAttempt (now : Timestamp) (command : AbortCommand) (db : Evidence) : Option Evidence :=
  if command.isAuthorized db.attempt = false ∨ db.attempt.status = .technicalRetry then none
  else if db.isCurrent = false ∨ db.attempt.headSha ≠ command.expectedHeadSha then
    let stale :=
      if isTechnicallyAbortable db.attempt.status then
        (db.insertTransition (command.idempotencyKey ++ js ":stale") db.attempt.status
          .invalidated).withStatus .invalidated
      else db
    some (stale.destroyIncompleteEvidence now)
  else if isTechnicallyAbortable db.attempt.status = false then none
  else
    some (((db.insertTransition command.idempotencyKey db.attempt.status
      .technicalRetry).withStatus .technicalRetry).destroyIncompleteEvidence now)

/-- `EXPIRABLE_STATUSES` -/
def isExpirable (status : AttemptStatus) : Bool :=
  status ∈ [AttemptStatus.preparing, .ready, .active, .uploading]

/-- `reserveExpiry` -/
def reserveExpiry (now : Timestamp) (expectedHeadSha : JsString) (db : Evidence) :
    Option Evidence :=
  if db.attempt.headSha ≠ expectedHeadSha ∨ db.attempt.status = .expired then none
  else if db.attempt.status = .invalidated ∨ db.isCurrent = false then db.reserveUpload
  else if isExpirable db.attempt.status = false ∨ now < db.attempt.expiresAt then none
  else db.reserveUpload

/-- The transaction of `expireAttempt` after the reservation. -/
def expireAttempt (now : Timestamp) (expectedHeadSha idempotencyKey : JsString)
    (db : Evidence) : Option Evidence :=
  if db.attempt.headSha ≠ expectedHeadSha ∨ db.attempt.status = .expired then none
  else if db.attempt.status = .invalidated ∨ db.isCurrent = false then
    some (db.destroyIncompleteEvidence now)
  else if isExpirable db.attempt.status = false ∨ now < db.attempt.expiresAt then none
  else
    some (((db.insertTransition idempotencyKey db.attempt.status .expired).withStatus
      .expired).destroyIncompleteEvidence now)

/-- The statuses that a snapshot invalidates. -/
def isLive (status : AttemptStatus) : Bool :=
  status ∈ [AttemptStatus.preparing, .ready, .active, .uploading, .processing, .reviewRequired]

/-- What a pull-request snapshot does to the attempt: it ends with its revision, or with its
pull request. -/
def applySnapshot (isCurrent pullRequestOpen : Bool) (db : Evidence) : Evidence :=
  let moved := { db with isCurrent := isCurrent, pullRequestOpen := pullRequestOpen }
  if (isCurrent = false ∨ pullRequestOpen = false) ∧ isLive db.attempt.status = true then
    moved.withStatus .invalidated
  else moved

/-- Every other transaction that moves the status: the trigger lets it through, and it
neither starts an upload nor accepts one. -/
def advance (status : AttemptStatus) (db : Evidence) : Option Evidence :=
  if status ∈ allowedAttemptTransitions db.attempt.status ∧ status ≠ .uploading ∧
      status ≠ .processing then
    some (db.withStatus status)
  else none

end Evidence

end Db

end UnderstandProof
