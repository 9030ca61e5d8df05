import UnderstandProof.Worker.RetentionRuns

/-!
# The deletion of all evidence of one attempt

The tables that `completeDeletion` writes in its one transaction: the rows of the upload, the
recording and its frames with the transcript, the evaluation, the sidecar of a multimodal
evaluation and the recording parts, which are inserted by the media worker and the provider
pipeline. A trigger of the sidecar's table decides by itself when a sidecar may be erased; where
it raises, the whole transaction is rolled back.

Transactions read the clock in the order in which they commit.
-/

open Foundation

namespace UnderstandProof

namespace Worker

open Db
open Domain (AttemptStatus Timestamp)

/-- A row of `transcripts`. -/
structure TranscriptRow where
  id : JsString
  provider : JsString
  schemaVersion : JsString
  encryptedPayload : JsString
  deleteAfter : Timestamp
  deletedAt : Option Timestamp
  deriving DecidableEq

/-- A row of `evaluations`. -/
structure EvaluationRow where
  id : JsString
  provider : JsString
  model : JsString
  promptVersion : JsString
  schemaVersion : JsString
  rubricVersion : JsString
  encryptedPayload : JsString
  recommendation : JsString
  deleteAfter : Timestamp
  deletedAt : Option Timestamp
  deriving DecidableEq

/-- The two columns that `multimodal_evaluation_sidecars_v1_ciphertext_lifecycle` binds: there
is a payload or a time of deletion, and not both. -/
inductive SidecarContent where
  | sealed (encryptedPayload : JsString)
  | shredded (deletedAt : Timestamp)
  deriving DecidableEq

/-- A row of `multimodal_evaluation_sidecars_v1`. -/
structure SidecarRow where
  id : JsString
  evaluationId : JsString
  content : SidecarContent
  deleteAfter : Timestamp
  deriving DecidableEq

structure EvidenceTables where
  evidence : Evidence
  transcripts : List TranscriptRow
  evaluations : List EvaluationRow
  sidecar : Option SidecarRow
  recordingParts : List ℕ
  clock : Timestamp

/-! ## The end of the evidence -/

def eraseTranscript (now : Timestamp) (row : TranscriptRow) : TranscriptRow :=
  if row.deletedAt = none then
    { row with
      provider := js "deleted"
      schemaVersion := js "deleted"
      encryptedPayload := []
      deletedAt := some now }
  else row

def eraseEvaluation (now : Timestamp) (row : EvaluationRow) : EvaluationRow :=
  if row.deletedAt = none then
    { row with
      provider := js "deleted:" ++ row.id
      model := js "deleted"
      promptVersion := js "deleted"
      schemaVersion := js "deleted"
      rubricVersion := js "deleted"
      encryptedPayload := []
      recommendation := js "deleted"
      deletedAt := some now }
  else row

/-- `slopproof_guard_multimodal_sidecar_v1`, for an update that takes the payload away. -/
def guardMultimodalSidecar (now : Timestamp) (deletion : Option DeletionJob) (row : SidecarRow) :
    Bool :=
  row.deleteAfter ≤ now ∧
    (deletion.any fun job => job.state = .running ∧ job.deadline ≤ now) = true

/-- `UPDATE multimodal_evaluation_sidecars_v1`, with its trigger. -/
def shredSidecar (now : Timestamp) (deletion : Option DeletionJob) :
    Option SidecarRow → Option (Option SidecarRow)
  | none => some none
  | some row =>
      match row.content with
      | .shredded _ => some (some row)
      | .sealed _ =>
          if guardMultimodalSidecar now deletion row then
            some (some { row with content := .shredded now })
          else none

namespace EvidenceTables

/-- `completeDeletion`; `none` is an error, which rolls the transaction back. -/
def completeDeletion (now : Timestamp) (plan : EvidenceDeletionPlan) (s : EvidenceTables) :
    Option EvidenceTables :=
  match s.evidence.deletion.filter fun job => job.id = plan.deletionJobId with
  | none => some s
  | some job =>
      if job.state = .completed then some s
      else if s.evidence.attempt.id ≠ plan.attemptId then none
      else
        (shredSidecar now s.evidence.deletion s.sidecar).map fun sidecar =>
          { s with
            evidence := Worker.completeDeletion now plan s.evidence
            transcripts := s.transcripts.map (eraseTranscript now)
            evaluations := s.evaluations.map (eraseEvaluation now)
            sidecar := sidecar
            recordingParts := [] }

/-- `deleteEvidenceJob` with a storage whose deletions succeed. -/
def deleteEvidenceJob (claimAt completeAt : Timestamp) (deletionJobId errorClass : JsString)
    (s : EvidenceTables) : EvidenceTables :=
  match claimDeletion claimAt deletionJobId s.evidence with
  | (claimed, none) => { s with evidence := claimed }
  | (claimed, some plan) =>
      (({ s with evidence := claimed } : EvidenceTables).completeDeletion completeAt plan).getD
        { s with evidence := failDeletion completeAt plan errorClass claimed }

/-! ## The other writers -/

/-- The recording that the provider pipeline works on, while the attempt is processed. -/
def openRecording (now : Timestamp) (s : EvidenceTables) : Option RecordingObject :=
  s.evidence.recording.filter fun recording =>
    s.evidence.attempt.status = .processing ∧ s.evidence.isAuthorized = true ∧
      recording.deletedAt = none ∧ now < recording.deleteAfter

/-- The insert of `persistTranscript`. -/
def insertTranscript (now : Timestamp) (id provider schemaVersion encryptedPayload : JsString)
    (s : EvidenceTables) : Option EvidenceTables :=
  if s.transcripts = [] then
    (s.openRecording now).map fun recording =>
      { s with
        transcripts :=
          [{ id := id
             provider := provider
             schemaVersion := schemaVersion
             encryptedPayload := encryptedPayload
             deleteAfter := recording.deleteAfter
             deletedAt := none }] }
  else none

/-- The insert of `persistEvaluation`, and with a sidecar that of `persistPair`, whose trigger
wants the evaluation to be for review. -/
def insertEvaluation (now : Timestamp) (row : EvaluationRow)
    (sidecar : Option (JsString × JsString)) (s : EvidenceTables) : Option EvidenceTables :=
  if s.evaluations = [] ∧
      (sidecar.isSome = true → row.recommendation = js "review_required" ∧ s.sidecar = none) then
    (s.openRecording now).map fun recording =>
      { s with
        evaluations := [{ row with deleteAfter := recording.deleteAfter, deletedAt := none }]
        sidecar :=
          match sidecar with
          | none => s.sidecar
          | some inserted =>
              some
                { id := inserted.1
                  evaluationId := row.id
                  content := .sealed inserted.2
                  deleteAfter := recording.deleteAfter } }
  else none

/-- A part of an upload that takes parts. -/
def insertPart (partNumber : ℕ) (s : EvidenceTables) : Option EvidenceTables :=
  if s.evidence.upload.any fun upload => upload.state = .active then
    some { s with recordingParts := s.recordingParts ++ [partNumber] }
  else none

end EvidenceTables

inductive TableEvent where
  /-- A transaction on the rows of the evidence that is no completion of a deletion. -/
  | evidence (event : EvidenceEvent)
  | transcript (now : Timestamp) (id provider schemaVersion encryptedPayload : JsString)
  | evaluation (now : Timestamp) (row : EvaluationRow) (sidecar : Option (JsString × JsString))
  | part (partNumber : ℕ)
  | completeDeletion (now : Timestamp) (plan : EvidenceDeletionPlan)

/-- None of these rows holds evidence. -/
structure ShreddedEvidence (db : Evidence) : Prop where
  recording : ∀ recording, db.recording = some recording → recording.deletedAt ≠ none
  frames : ∀ frame ∈ db.frames, frame.deletedAt ≠ none
  intervals : db.intervals = none
  upload : ∀ upload, db.upload = some upload →
    (upload.state = .deleted ∨ upload.state = .failed) ∧ upload.objectKey = deletedKey upload.id ∧
      upload.manifestDigest = none ∧ upload.finalizeEnvelope.isNone = true
  materials : ∀ material ∈ db.materials, material.destroyedAt ≠ none

/-- The clock reading of an event. -/
def tableReading : TableEvent → Option Timestamp
  | .evidence event => clockReading event
  | .transcript now _ _ _ _ => some now
  | .evaluation now _ _ => some now
  | .part _ => none
  | .completeDeletion now _ => some now

namespace EvidenceTables

def nextRows (s : EvidenceTables) : TableEvent → Option EvidenceTables
  | .evidence (.completeDeletion _ _) => none
  | .evidence event => (nextEvidence s.evidence event).map fun evidence =>
      { s with evidence := evidence }
  | .transcript now id provider schemaVersion encryptedPayload =>
      s.insertTranscript now id provider schemaVersion encryptedPayload
  | .evaluation now row sidecar => s.insertEvaluation now row sidecar
  | .part partNumber => s.insertPart partNumber
  | .completeDeletion now plan => s.completeDeletion now plan

/-- The rows and the clock after a transaction, or `none` when it is refused. -/
def next (s : EvidenceTables) (event : TableEvent) : Option EvidenceTables :=
  if (tableReading event).all (s.clock ≤ ·) then
    (s.nextRows event).map fun t => { t with clock := (tableReading event).getD s.clock }
  else none

def step (s : EvidenceTables) (event : TableEvent) : EvidenceTables :=
  (s.next event).getD s

/-- The attempt of a current revision before its handoff. -/
def start (attemptId authorId repositoryId headSha : JsString) (expiresAt clock : Timestamp) :
    EvidenceTables where
  evidence := startEvidence attemptId authorId repositoryId headSha expiresAt
  transcripts := []
  evaluations := []
  sidecar := none
  recordingParts := []
  clock := clock

/-- A maintainer passes the attempt under a policy that deletes its evidence then. -/
def Accelerates (s : EvidenceTables) (event : TableEvent) : Prop :=
  ∃ now jobId idempotencyKey, event = .evidence (.approve now jobId idempotencyKey true) ∧
    (s.next event).isSome = true

/-- The sidecar's payload is gone, or may go at this time. -/
def sidecarIsDue (now : Timestamp) (s : EvidenceTables) : Bool :=
  s.sidecar.all fun row =>
    match row.content with
    | .shredded _ => true
    | .sealed _ => row.deleteAfter ≤ now

/-- No row of any table holds evidence. -/
structure Shredded (s : EvidenceTables) : Prop where
  evidence : ShreddedEvidence s.evidence
  transcripts : ∀ row ∈ s.transcripts, row.deletedAt ≠ none
  evaluations : ∀ row ∈ s.evaluations, row.deletedAt ≠ none
  sidecar : ∀ row, s.sidecar = some row → ∃ deletedAt, row.content = .shredded deletedAt
  recordingParts : s.recordingParts = []

/-- The deletion job is completed, and no row holds evidence. -/
def IsDeleted (s : EvidenceTables) : Prop :=
  IsErased s.evidence = true ∧ s.Shredded

end EvidenceTables

end Worker

end UnderstandProof
