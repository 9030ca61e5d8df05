import UnderstandProof.Db.Evidence

/-!
# The deletion of evidence

The statements of the retention worker on the rows of one attempt, the maintainer's
acceleration of a deletion, and the reservation of a frame. The rows of transcripts and
evaluations are erased with the others; they hold no object keys and are left out.
-/

open Foundation

namespace UnderstandProof

namespace Worker

open Db
open Domain (AttemptStatus Timestamp)

structure MultipartDeletionTarget where
  objectKey : JsString
  uploadId : JsString
  deriving DecidableEq

structure EvidenceDeletionPlan where
  deletionJobId : JsString
  attemptId : JsString
  objectKeys : List JsString
  multipartUploads : List MultipartDeletionTarget
  deriving DecidableEq

/-- The deadlines of the attempt's evidence: the accepted one, or those of an upload and of
materials that were never accepted. -/
def evidenceDeadlines (db : Evidence) : List Timestamp :=
  match db.attempt.evidenceDeleteAfter with
  | some deadline => [deadline]
  | none =>
      (db.upload.toList.filter fun upload => upload.state ≠ .deleted).map (·.expiresAt) ++
        (db.materials.filter fun material => material.destroyedAt = none).map (·.usableUntil)

/-- The latest deadline, when it has passed. -/
def dueDeadline (now : Timestamp) (db : Evidence) : Option Timestamp :=
  (evidenceDeadlines db).max?.filter fun deadline => deadline ≤ now

/-- The upsert of `enqueueDueDeletions`; a new job gets the identifier `jobId`. -/
def upsertDueDeletion (now : Timestamp) (jobId : JsString) (db : Evidence) : Evidence :=
  match dueDeadline now db with
  | none => db
  | some deadline =>
      { db with
        deletion := some
          (match db.deletion with
          | none =>
              { id := jobId
                deadline := deadline
                attempts := 0
                state := .pending
                lastErrorClass := none
                completedAt := none
                updatedAt := now }
          | some job => { job with deadline := max job.deadline deadline }) }

/-- The jobs that `enqueueDueDeletions` hands to the queue. -/
def isEnqueued (now staleBefore : Timestamp) (job : DeletionJob) : Bool :=
  job.deadline ≤ now ∧ (job.state = .pending ∨
    (job.state = .running ∨ job.state = .failed) ∧ job.updatedAt ≤ staleBefore)

/-- `enqueueDueDeletions`; `selected` is whether the job is among the first `limit` ones that
no other transaction has locked. -/
def enqueueDueDeletions (now staleBefore : Timestamp) (jobId : JsString) (selected : Bool)
    (db : Evidence) : Evidence :=
  let swept := upsertDueDeletion now jobId db
  { swept with
    deletion := swept.deletion.map fun job =>
      if selected = true ∧ isEnqueued now staleBefore job = true then
        { job with state := .running, updatedAt := now }
      else job }

/-- The object keys of the rows that are not erased. -/
def liveObjectKeys (db : Evidence) : List JsString :=
  (db.recording.toList.filter fun recording => recording.deletedAt = none).map (·.objectKey) ++
    (db.frames.filter fun frame => frame.deletedAt = none).map (·.objectKey) ++
    (db.upload.toList.filter fun upload => upload.state ≠ .deleted).map (·.objectKey)

def openMultipartUploads (db : Evidence) : List MultipartDeletionTarget :=
  (db.upload.toList.filter fun upload =>
    upload.state ≠ .completed ∧ upload.state ≠ .deleted).map fun upload =>
      { objectKey := upload.objectKey, uploadId := upload.providerUploadId }

/-- `claimDeletion`, with the plan it returns. -/
def claimDeletion (now : Timestamp) (deletionJobId : JsString) (db : Evidence) :
    Evidence × Option EvidenceDeletionPlan :=
  match db.deletion.filter fun job => job.id = deletionJobId with
  | none => (db, none)
  | some job =>
      if job.state = .completed then (db, none)
      else if now < job.deadline then
        ({ db with deletion := some { job with state := .pending, updatedAt := now } }, none)
      else
        ({ db with
            deletion := some
              { job with state := .running, attempts := job.attempts + 1, updatedAt := now } },
          some
            { deletionJobId := job.id
              attemptId := db.attempt.id
              objectKeys := liveObjectKeys db
              multipartUploads := openMultipartUploads db })

def deletedKey (id : JsString) : JsString := js "deleted/" ++ id

def eraseRecording (now : Timestamp) (recording : RecordingObject) : RecordingObject :=
  if recording.deletedAt = none then
    { recording with
      objectKey := deletedKey recording.id
      wrappedDataKey := []
      wrappedKeySha256 := js "deleted:" ++ recording.id
      deletedAt := some now }
  else recording

def eraseFrame (now : Timestamp) (frame : FrameSelection) : FrameSelection :=
  if frame.deletedAt = none then
    { frame with
      timestampMs := 0
      reasonCode := js "deleted"
      objectKey := deletedKey frame.id
      deletedAt := some now }
  else frame

def eraseUpload (upload : UploadSession) : UploadSession :=
  if upload.state ≠ .deleted then
    { upload with
      objectKey := deletedKey upload.id
      providerUploadId := js "deleted:" ++ upload.id
      state := .deleted
      manifestDigest := none
      finalizeEnvelope := none }
  else upload

def destroyMaterial (now : Timestamp) (material : WrappingMaterial) : WrappingMaterial :=
  if material.destroyedAt = none then
    { material with
      keyId := js "destroyed:" ++ material.id
      algorithm := js "destroyed"
      usableUntil := min material.usableUntil now
      destroyedAt := some now }
  else material

/-- What `completeDeletion` leaves of the evidence. -/
def erase (now : Timestamp) (db : Evidence) : Evidence :=
  { db with
    recording := db.recording.map (eraseRecording now)
    frames := db.frames.map (eraseFrame now)
    intervals := none
    upload := db.upload.map eraseUpload
    materials := db.materials.map (destroyMaterial now) }

/-- `completeDeletion`; a plan for another attempt throws. -/
def completeDeletion (now : Timestamp) (plan : EvidenceDeletionPlan) (db : Evidence) :
    Evidence :=
  match db.deletion.filter fun job => job.id = plan.deletionJobId with
  | none => db
  | some job =>
      if job.state = .completed ∨ db.attempt.id ≠ plan.attemptId then db
      else
        { erase now db with
          deletion := some
            { job with
              state := .completed
              lastErrorClass := none
              completedAt := some now
              updatedAt := now }
          audits := db.audits ++ [.deleted plan.deletionJobId] }

/-- `failDeletion` -/
def failDeletion (now : Timestamp) (plan : EvidenceDeletionPlan) (errorClass : JsString)
    (db : Evidence) : Evidence :=
  match db.deletion.filter fun job => job.id = plan.deletionJobId with
  | none => db
  | some job =>
      if job.state = .completed then db
      else
        { db with
          deletion := some
            { job with state := .failed, lastErrorClass := some errorClass, updatedAt := now }
          audits := db.audits ++ [.deletionFailed plan.deletionJobId errorClass] }

/-- `accelerateEvidenceDeletionAfterPass`; a new job gets the identifier `jobId`. -/
def accelerateEvidenceDeletionAfterPass (now : Timestamp) (jobId : JsString) (db : Evidence) :
    Evidence :=
  { db with
    deletion := some
      (match db.deletion with
      | none =>
          { id := jobId
            deadline := now
            attempts := 0
            state := .pending
            lastErrorClass := none
            completedAt := none
            updatedAt := now }
      | some job =>
          { job with
            deadline := min job.deadline now
            state := if job.state = .completed then .completed else .pending
            updatedAt := now }) }

/-- A maintainer passes the attempt; `accelerates` is the policy's
`deleteAfterMaintainerPass`. -/
def approveReview (now : Timestamp) (jobId idempotencyKey : JsString) (accelerates : Bool)
    (db : Evidence) : Option Evidence :=
  if db.attempt.status = .reviewRequired ∧ db.isCurrent = true then
    let passed := (db.insertTransition idempotencyKey .reviewRequired .passed).withStatus .passed
    some (if accelerates then accelerateEvidenceDeletionAfterPass now jobId passed else passed)
  else none

/-- The remaining time that a frame's reservation asks for, in milliseconds. -/
def frameReservationMinRemainingMs : ℤ := 15 * 60000

/-- The insert of `reserveFrameObject`; `now` was read before the statement runs. -/
def reserveFrameObject (now : Timestamp) (id objectKey recordingObjectId : JsString)
    (timestampMs : ℕ) (db : Evidence) : Option Evidence :=
  match db.recording with
  | none => none
  | some recording =>
      if db.attempt.status = .processing ∧ db.isAuthorized = true ∧
          recording.id = recordingObjectId ∧ recording.deletedAt = none ∧
          now + frameReservationMinRemainingMs < recording.deleteAfter ∧
          (db.frames.any fun frame => frame.id = id) = false then
        some { db with
          frames := db.frames ++
            [{ id := id
               objectKey := objectKey
               timestampMs := timestampMs
               reasonCode := js "transcript_alignment"
               deleteAfter := recording.deleteAfter
               deletedAt := none }] }
      else none

/-- `loadExistingFrames` deletes the row of a frame that the storage does not have. -/
def repairFrame (now : Timestamp) (id objectKey recordingObjectId : JsString) (db : Evidence) :
    Option Evidence :=
  match db.recording with
  | none => none
  | some recording =>
      if db.attempt.status = .processing ∧ db.isAuthorized = true ∧
          recording.id = recordingObjectId ∧ recording.deletedAt = none ∧
          now + frameReservationMinRemainingMs < recording.deleteAfter then
        some { db with
          frames := db.frames.filter fun frame =>
            ¬ (frame.id = id ∧ frame.objectKey = objectKey ∧ frame.deletedAt = none) }
      else none

end Worker

end UnderstandProof
