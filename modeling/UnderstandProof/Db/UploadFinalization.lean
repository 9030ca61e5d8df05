import UnderstandProof.Db.Evidence
import UnderstandProof.Media.Schemas

/-!
# The finalization of an upload

The request that finalizes an upload, the transaction behind it, and the two transactions in
which the worker accepts or refuses the finalized recording. What the storage lists for the
upload, and whether a trigger or a unique index lets the rows in, are parameters.
-/

open Foundation

namespace UnderstandProof

namespace Db

open Domain (AttemptStatus Timestamp JsDate)
open Media (ProofQuestionInterval RecordingManifest)

inductive FinalizationError where
  | uploadFinalizationConflict
  | rolledBack
  deriving DecidableEq, Repr

structure PendingFinalization where
  uploadSessionId : JsString
  attemptId : JsString
  expectedHeadSha : JsString
  manifestDigest : JsString
  finalizeEnvelope : Json
  actorId : JsString
  idempotencyKey : JsString
  evidenceDeleteAfter : JsDate
  questionIntervals : Option (List ProofQuestionInterval)
  recordingDurationMs : Option ℕ

/-- The stored intervals are the given ones, or both are missing. -/
def hasExactIntervals (input : PendingFinalization) (db : Evidence) : Bool :=
  match input.questionIntervals with
  | none => db.intervals.isNone
  | some intervals =>
      db.intervals = some
        { uploadSessionId := input.uploadSessionId
          manifestDigest := input.manifestDigest
          recordedDurationMs := input.recordingDurationMs.getD 0
          intervals := intervals } ∧ input.recordingDurationMs ≠ none

/-- `persistPendingUploadFinalization`, with the state it leaves and its answer `replay`;
`storable` is whether the interval trigger and the digest's unique index let the rows in. -/
def persistPendingUploadFinalization (now : Timestamp) (storable : Bool)
    (input : PendingFinalization) (db : Evidence) :
    Except FinalizationError (Evidence × Bool) :=
  match db.upload with
  | none => .error .uploadFinalizationConflict
  | some upload =>
      if upload.id ≠ input.uploadSessionId ∨ db.attempt.id ≠ input.attemptId ∨
          db.attempt.headSha ≠ input.expectedHeadSha ∨ db.isAuthorized = false ∨
          upload.expiresAt ≤ now then
        .error .uploadFinalizationConflict
      else if upload.state = .pendingFinalization ∧
          upload.manifestDigest = some input.manifestDigest ∧
          db.attempt.status = .processing ∧ db.attempt.evidenceDeleteAfter ≠ none then
        if hasExactIntervals input db then .ok (db, true)
        else .error .uploadFinalizationConflict
      else
        match upload.state, db.attempt.status, db.attempt.evidenceDeleteAfter,
            input.evidenceDeleteAfter with
        | .active, .uploading, none, some deleteAfter =>
            if deleteAfter ≤ now then .error .uploadFinalizationConflict
            else
              let accepted : Evidence :=
                { db.insertTransition input.idempotencyKey .uploading .processing with
                  upload := some
                    { upload with
                      state := .pendingFinalization
                      manifestDigest := some input.manifestDigest
                      finalizeEnvelope := some input.finalizeEnvelope }
                  attempt :=
                    { db.attempt with
                      status := .processing
                      evidenceDeleteAfter := some deleteAfter } }
              match input.questionIntervals, input.recordingDurationMs with
              | none, _ => if storable then .ok (accepted, false) else .error .rolledBack
              | some _, none => .error .uploadFinalizationConflict
              | some intervals, some recordedDurationMs =>
                  if intervals = [] then .error .uploadFinalizationConflict
                  else if storable = false ∨ db.intervals ≠ none then .error .rolledBack
                  else
                    .ok
                      ({ accepted with
                          intervals := some
                            { uploadSessionId := input.uploadSessionId
                              manifestDigest := input.manifestDigest
                              recordedDurationMs := recordedDurationMs
                              intervals := intervals } }, false)
        | _, _, _, _ => .error .uploadFinalizationConflict

/-- The interval set that an accepted finalization stores. -/
def intervalSet (input : PendingFinalization) : Option QuestionIntervalSet :=
  input.questionIntervals.map fun intervals =>
    { uploadSessionId := input.uploadSessionId
      manifestDigest := input.manifestDigest
      recordedDurationMs := input.recordingDurationMs.getD 0
      intervals := intervals }

section Persist

variable {now : Timestamp} {storable replay : Bool} {input : PendingFinalization}
  {db db' : Evidence}

theorem intervals_of_exact (h : hasExactIntervals input db = true) :
    db.intervals = intervalSet input := by
  unfold hasExactIntervals at h
  unfold intervalSet
  split at h
  · next hnone =>
    rw [hnone]
    simpa using h
  · next intervals hsome =>
    rw [decide_eq_true_eq] at h
    rw [hsome]
    exact h.1

/-- A transaction that succeeds is a replay that writes nothing, or accepts its input. -/
theorem persistPendingUploadFinalization_eq_ok
    (h : persistPendingUploadFinalization now storable input db = .ok (db', replay)) :
    ∃ upload, db.upload = some upload ∧ upload.id = input.uploadSessionId ∧
      db.attempt.id = input.attemptId ∧ db.attempt.headSha = input.expectedHeadSha ∧
      db.isAuthorized = true ∧ now < upload.expiresAt ∧
      ((replay = true ∧ db' = db ∧ upload.state = .pendingFinalization ∧
          upload.manifestDigest = some input.manifestDigest ∧
          db.intervals = intervalSet input) ∨
        (replay = false ∧ upload.state = .active ∧ db.attempt.status = .uploading ∧
          db.attempt.evidenceDeleteAfter = none ∧ input.evidenceDeleteAfter ≠ none ∧
          (input.questionIntervals.isSome = true → input.recordingDurationMs ≠ none) ∧
          db' = { db.insertTransition input.idempotencyKey .uploading .processing with
            upload := some
              { upload with
                state := .pendingFinalization
                manifestDigest := some input.manifestDigest
                finalizeEnvelope := some input.finalizeEnvelope }
            attempt :=
              { db.attempt with
                status := .processing
                evidenceDeleteAfter := input.evidenceDeleteAfter }
            intervals := (intervalSet input).or db.intervals })) := by
  unfold persistPendingUploadFinalization at h
  split at h
  · cases h
  · next upload hupload =>
    split at h
    · cases h
    · next hguard =>
      simp only [not_or, not_not, Bool.not_eq_false, not_le] at hguard
      obtain ⟨hid, hattempt, hhead, hauthorized, hexpires⟩ := hguard
      refine ⟨upload, hupload, hid, hattempt, hhead, hauthorized, hexpires, ?_⟩
      split at h
      · next hreplay =>
        split at h
        · next hexact =>
          cases h
          exact .inl ⟨rfl, rfl, hreplay.1, hreplay.2.1, intervals_of_exact hexact⟩
        · cases h
      · split at h
        · next deleteAfter hstate hstatus hdeadline hdate =>
          split at h
          · cases h
          · dsimp only at h
            split at h
            · next hintervals =>
              split at h
              · cases h
                refine .inr ⟨rfl, hstate, hstatus, hdeadline, by simp [hdate], by simp [hintervals],
                  ?_⟩
                simp [intervalSet, hintervals, hdate, Evidence.insertTransition,
                  apply_ite Evidence.intervals]
              · cases h
            · cases h
            · next intervals recordedDurationMs hintervals hduration =>
              split at h
              · cases h
              · split at h
                · cases h
                · cases h
                  exact .inr ⟨rfl, hstate, hstatus, hdeadline, by simp [hdate],
                    by simp [hduration], by simp [intervalSet, hintervals, hduration, hdate]⟩
        · cases h

/-- Once a finalization was accepted, a transaction either replays or conflicts. -/
theorem conflict_of_accepted (hdeadline : db.attempt.evidenceDeleteAfter ≠ none)
    (h : ∀ db', persistPendingUploadFinalization now storable input db ≠ .ok (db', true)) :
    persistPendingUploadFinalization now storable input db =
      .error .uploadFinalizationConflict := by
  unfold persistPendingUploadFinalization at h ⊢
  split
  · rfl
  · next upload hupload =>
    rw [hupload] at h
    dsimp only at h
    split
    · rfl
    · next hguard =>
      rw [if_neg hguard] at h
      split
      · next hreplay =>
        rw [if_pos hreplay] at h
        exact if_neg fun hexact => h db (if_pos hexact)
      · split
        · next hnone _ => exact absurd hnone hdeadline
        · rfl

end Persist

/-! ## The request -/

inductive UploadFinalizationDisposition where
  | fresh
  | replay
  | reject
  deriving DecidableEq, Repr

def classifyUploadFinalization (upload : UploadSession) (attemptStatus : AttemptStatus)
    (manifestDigest : JsString) (now : Timestamp) : UploadFinalizationDisposition :=
  if upload.expiresAt ≤ now then .reject
  else if upload.state = .active ∧ attemptStatus = .uploading then .fresh
  else if upload.state = .pendingFinalization ∧ attemptStatus = .processing ∧
      upload.manifestDigest = some manifestDigest then .replay
  else .reject

/-- What the attempt's frozen plan and policy fix for its recording. -/
structure FrozenPlan where
  requiredQuestionIds : List JsString
  maximumDurationMs : ℕ
  maximumUploadBytes : ℕ
  retentionHours : ℕ

/-- `calculateEvidenceDeleteAfter`; the policy's schema keeps the hours between 1 and 24. -/
def calculateEvidenceDeleteAfter (acceptedAt : Timestamp) (retentionHours : ℕ) : Timestamp :=
  acceptedAt + (retentionHours : ℤ) * (60 * 60000)

/-- The session of a request, and its body after its schema. -/
structure FinalizeRequest where
  actorId : JsString
  isAuthor : Bool
  repositoryId : Option JsString
  uploadSessionId : JsString
  manifestDigest : JsString
  manifest : RecordingManifest
  finalizeEnvelope : Json

inductive FinalizeResponse where
  | accepted (replay : Bool)
  | finalizationRejected
  | questionIntervalsRejected
  | partLedgerMismatch
  | finalizationConflict
  | temporarilyUnavailable
  deriving DecidableEq, Repr

/-- The status code of an answer. -/
def FinalizeResponse.status : FinalizeResponse → ℕ
  | accepted _ => 200
  | finalizationRejected => 409
  | questionIntervalsRejected => 409
  | partLedgerMismatch => 409
  | finalizationConflict => 409
  | temporarilyUnavailable => 503

/-- The material of the upload's object. -/
def Evidence.materialFor (db : Evidence) (upload : UploadSession) : Option WrappingMaterial :=
  db.materials.find? fun material => material.objectId = upload.objectId

/-- The manifest is the one of this upload, and within the frozen limits. -/
def manifestFits (plan : FrozenPlan) (manifest : RecordingManifest) (attempt : AttemptRow)
    (upload : UploadSession) (material : WrappingMaterial) : Bool :=
  manifest.attemptId = attempt.id ∧ manifest.headSha = attempt.headSha ∧
    manifest.objectId = upload.objectId ∧ manifest.wrapping.materialId = material.id ∧
    manifest.wrapping.keyId = material.keyId ∧
    manifest.wrapping.algorithm = material.algorithm ∧
    manifest.durationMs ≤ plan.maximumDurationMs ∧
    manifest.totalObjectBytes ≤ plan.maximumUploadBytes

/-- The session is the author's, on the attempt's repository. -/
def FinalizeRequest.isAuthors (request : FinalizeRequest) (attempt : AttemptRow) : Bool :=
  request.isAuthor = true ∧ request.actorId = attempt.authorId ∧
    request.repositoryId = some attempt.repositoryId

/-- What the request asks of the transaction. -/
def FinalizeRequest.pending (request : FinalizeRequest) (attempt : AttemptRow)
    (deleteAfter : Timestamp) (questionIntervals : Option (List ProofQuestionInterval)) :
    PendingFinalization where
  uploadSessionId := request.uploadSessionId
  attemptId := attempt.id
  expectedHeadSha := attempt.headSha
  manifestDigest := request.manifestDigest
  finalizeEnvelope := request.finalizeEnvelope
  actorId := request.actorId
  idempotencyKey := js "upload-finalize:" ++ request.manifestDigest
  evidenceDeleteAfter := some deleteAfter
  questionIntervals := questionIntervals
  recordingDurationMs := questionIntervals.map fun _ => request.manifest.durationMs

/-- The checks of `POST uploads/finalize` before its transaction: what it asks of the
transaction, or its answer. `partsMatch` is whether the parts of the manifest are those the
storage lists and the part ledger holds. -/
def prepareFinalization (plan : FrozenPlan) (now : Timestamp) (partsMatch : Bool)
    (request : FinalizeRequest) (db : Evidence) :
    Except FinalizeResponse PendingFinalization :=
  match db.upload.filter fun upload => upload.id = request.uploadSessionId with
  | none => .error .finalizationRejected
  | some upload =>
      match db.materialFor upload with
      | none => .error .finalizationRejected
      | some material =>
          let disposition :=
            classifyUploadFinalization upload db.attempt.status request.manifestDigest now
          let deleteAfter := db.attempt.evidenceDeleteAfter.getD
            (calculateEvidenceDeleteAfter now plan.retentionHours)
          if request.isAuthors db.attempt = false ∨ disposition = .reject ∨
              db.isAuthorized = false ∨
              manifestFits plan request.manifest db.attempt upload material = false then
            .error .finalizationRejected
          else
            match request.manifest.questionIntervals with
            | none =>
                if disposition = .fresh then .error .questionIntervalsRejected
                else .ok (request.pending db.attempt deleteAfter none)
            | some intervals =>
                match Media.validateProofQuestionIntervalsV1 intervals plan.requiredQuestionIds
                    request.manifest.durationMs with
                | .error _ => .error .questionIntervalsRejected
                | .ok questionIntervals =>
                    if disposition = .fresh ∧ partsMatch = false then
                      .error .partLedgerMismatch
                    else .ok (request.pending db.attempt deleteAfter (some questionIntervals))

/-- The answer of `POST uploads/finalize` when its transaction finds the rows as its checks
left them, and the rows afterwards. -/
def finalize (plan : FrozenPlan) (now : Timestamp) (partsMatch storable : Bool)
    (request : FinalizeRequest) (db : Evidence) : FinalizeResponse × Evidence :=
  match prepareFinalization plan now partsMatch request db with
  | .error response => (response, db)
  | .ok input =>
      match persistPendingUploadFinalization now storable input db with
      | .ok (accepted, replay) => (.accepted replay, accepted)
      | .error .uploadFinalizationConflict => (.finalizationConflict, db)
      | .error .rolledBack => (.temporarilyUnavailable, db)

/-! ## The worker -/

structure ValidatedRecording where
  recordingObjectId : JsString
  uploadSessionId : JsString
  attemptId : JsString
  expectedHeadSha : JsString
  objectKey : JsString
  wrappedDataKey : JsString
  wrappedKeySha256 : JsString
  wrappingMaterialId : JsString
  protocolVersion : JsString
  algorithm : JsString
  byteLength : ℕ
  durationMs : ℕ
  codec : JsString
  manifestHash : JsString

/-- The row that a validated recording inserts. -/
def ValidatedRecording.row (input : ValidatedRecording) (deleteAfter : Timestamp) :
    RecordingObject where
  id := input.recordingObjectId
  objectKey := input.objectKey
  wrappedDataKey := input.wrappedDataKey
  wrappedKeySha256 := input.wrappedKeySha256
  wrappingMaterialId := input.wrappingMaterialId
  protocolVersion := input.protocolVersion
  algorithm := input.algorithm
  byteLength := input.byteLength
  durationMs := input.durationMs
  codec := input.codec
  manifestHash := input.manifestHash
  deleteAfter := deleteAfter
  deletedAt := none

/-- The row that the `FOR UPDATE` query of `persistValidatedRecording` finds, with its
deadline. -/
def isRecordingAuthorized (now : Timestamp) (input : ValidatedRecording) (db : Evidence)
    (upload : UploadSession) (deleteAfter : Timestamp) : Bool :=
  upload.id = input.uploadSessionId ∧ upload.objectKey = input.objectKey ∧
    (db.materials.any fun material =>
      material.id = input.wrappingMaterialId ∧ material.objectId = upload.objectId) = true ∧
    db.attempt.id = input.attemptId ∧ db.attempt.status = .processing ∧
    db.attempt.headSha = input.expectedHeadSha ∧ db.isAuthorized = true ∧
    now < deleteAfter ∧
    (upload.state = .pendingFinalization ∨ upload.state = .completed) ∧
    upload.manifestDigest = some input.manifestHash ∧
    upload.finalizeEnvelope.isSome = true

/-- The stored recording is the given one, and not erased. -/
def isSameRecording (input : ValidatedRecording) (deleteAfter : Timestamp)
    (stored : RecordingObject) : Bool :=
  { stored with id := input.recordingObjectId } = input.row deleteAfter

/-- `persistValidatedRecording`; `none` is an error, which rolls the transaction back. -/
def persistValidatedRecording (now : Timestamp) (input : ValidatedRecording) (db : Evidence) :
    Option Evidence :=
  match db.upload, db.attempt.evidenceDeleteAfter with
  | some upload, some deleteAfter =>
      if isRecordingAuthorized now input db upload deleteAfter then
        match db.recording with
        | none =>
            some { db.withUploadState .completed with
              recording := some (input.row deleteAfter) }
        | some stored =>
            if isSameRecording input deleteAfter stored then
              some (db.withUploadState .completed)
            else none
      else none
  | _, _ => none

/-- The transaction of `recordMediaFinalizationFailure`, for the rows that the run has
loaded. -/
def recordMediaFinalizationFailure (now : Timestamp) (uploadSessionId materialId : JsString)
    (db : Evidence) : Evidence :=
  let failed :=
    if db.attempt.status = .processing then
      (db.insertTransition (js "media-failed:" ++ uploadSessionId) .processing
        .technicalRetry).withStatus .technicalRetry
    else db
  { failed with
    upload := failed.upload.map fun upload =>
      if upload.id = uploadSessionId then { upload with state := .failed } else upload
    materials := failed.materials.map fun material =>
      if material.id = materialId then
        { material with destroyedAt := material.destroyedAt <|> some now }
      else material }

end Db

end UnderstandProof
