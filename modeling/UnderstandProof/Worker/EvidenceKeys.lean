import UnderstandProof.Worker.EvidenceEvents

/-!
# The object keys of the evidence

The rows that hold an object key are the recording, the frames and the upload session. Only
the completion of a deletion puts a placeholder in the place of a key. Every other
transaction leaves the key of a row as it is, and brings a new key in only with a new upload
session or a new frame: a recording takes the key of its upload.
-/

open Foundation

namespace UnderstandProof

namespace Worker

open Db
open Domain (AttemptStatus Timestamp)

inductive ObjectTable where
  | recordingObjects
  | frameSelections
  | uploadSessions
  deriving DecidableEq, Repr

/-- A row that holds an object key. -/
structure ObjectRow where
  table : ObjectTable
  id : JsString
  objectKey : JsString
  deriving DecidableEq

def recordingRow (recording : RecordingObject) : ObjectRow :=
  ⟨.recordingObjects, recording.id, recording.objectKey⟩

def frameRow (frame : FrameSelection) : ObjectRow :=
  ⟨.frameSelections, frame.id, frame.objectKey⟩

def uploadRow (upload : UploadSession) : ObjectRow :=
  ⟨.uploadSessions, upload.id, upload.objectKey⟩

def objectRows (db : Evidence) : List ObjectRow :=
  db.recording.toList.map recordingRow ++
    db.frames.map frameRow ++ db.upload.toList.map uploadRow

/-- A row that held this key has got its placeholder. -/
def IsReplaced (db db' : Evidence) (key : JsString) : Prop :=
  ∃ table id, ⟨table, id, key⟩ ∈ objectRows db ∧ ⟨table, id, deletedKey id⟩ ∉ objectRows db ∧
    ⟨table, id, deletedKey id⟩ ∈ objectRows db'

/-- The completed job, if there is one. -/
def completedJob (db : Evidence) : Option DeletionJob :=
  db.deletion.filter fun job => job.state = .completed

def deletedJobId : DeletionAudit → Option JsString
  | .deleted deletionJobId => some deletionJobId
  | .deletionFailed _ _ => none

/-- The jobs of the `evidence.deleted` audit events. -/
def deletedJobIds (db : Evidence) : List JsString := db.audits.filterMap deletedJobId

/-- The events that insert an upload session or a frame. -/
def insertsKey : EvidenceEvent → Bool
  | .createUpload .. => true
  | .reserveFrame .. => true
  | _ => false

/-- The events that move the deadline of the deletion job. -/
def movesDeadline : EvidenceEvent → Bool
  | .approve _ _ _ accelerates => accelerates
  | .sweep .. => true
  | _ => false

section Rows

variable {db : Evidence} {id key : JsString}

theorem mem_recordingRows :
    ⟨.recordingObjects, id, key⟩ ∈ objectRows db ↔
      ∃ recording, db.recording = some recording ∧ recording.id = id ∧
        recording.objectKey = key := by
  simp [objectRows, recordingRow, frameRow, uploadRow]

theorem mem_frameRows :
    ⟨.frameSelections, id, key⟩ ∈ objectRows db ↔
      ∃ frame ∈ db.frames, frame.id = id ∧ frame.objectKey = key := by
  simp [objectRows, recordingRow, frameRow, uploadRow]

theorem mem_uploadRows :
    ⟨.uploadSessions, id, key⟩ ∈ objectRows db ↔
      ∃ upload, db.upload = some upload ∧ upload.id = id ∧ upload.objectKey = key := by
  simp [objectRows, recordingRow, frameRow, uploadRow]

theorem mem_liveObjectKeys :
    key ∈ liveObjectKeys db ↔
      (∃ recording, db.recording = some recording ∧ recording.deletedAt = none ∧
        recording.objectKey = key) ∨
      (∃ frame ∈ db.frames, frame.deletedAt = none ∧ frame.objectKey = key) ∨
      ∃ upload, db.upload = some upload ∧ upload.state ≠ .deleted ∧ upload.objectKey = key := by
  simp [liveObjectKeys, and_assoc]

end Rows

/-! ## The transactions that touch no key -/

/-- The upload keeps its key, and is not deleted. -/
def KeepsUpload (db db' : Evidence) : Prop :=
  ∀ upload', db'.upload = some upload' →
    ∃ upload, db.upload = some upload ∧ upload'.id = upload.id ∧
      upload'.objectKey = upload.objectKey ∧
      (upload'.state = .deleted → upload.state = .deleted)

/-- What a transaction keeps that touches neither a key nor the deletion job. -/
structure RowFrame (db db' : Evidence) : Prop where
  artifacts : artifacts db' = artifacts db
  upload : KeepsUpload db db'
  deletion : db'.deletion = db.deletion
  audits : db'.audits = db.audits

section Frames

variable {db db' db'' : Evidence} {now : Timestamp}

theorem KeepsUpload.of_eq (h : db'.upload = db.upload) : KeepsUpload db db' :=
  fun upload hupload => ⟨upload, h.symm.trans hupload, rfl, rfl, id⟩

theorem KeepsUpload.of_map {change : UploadSession → UploadSession}
    (hchange : ∀ upload, (change upload).id = upload.id ∧
      (change upload).objectKey = upload.objectKey ∧
      ((change upload).state = .deleted → upload.state = .deleted))
    (h : db'.upload = db.upload.map change) : KeepsUpload db db' := by
  intro upload' hupload
  rw [h, Option.map_eq_some_iff] at hupload
  obtain ⟨upload, hupload, rfl⟩ := hupload
  exact ⟨upload, hupload, hchange upload⟩

theorem KeepsUpload.withUploadState {state : UploadState} (h : state ≠ .deleted) :
    KeepsUpload db (db.withUploadState state) := by
  intro upload' hupload
  obtain ⟨upload, hbefore, rfl⟩ := Option.map_eq_some_iff.mp hupload
  exact ⟨upload, hbefore, rfl, rfl, fun hstate => absurd hstate h⟩

namespace RowFrame

theorem refl : RowFrame db db where
  artifacts := rfl
  upload := .of_eq rfl
  deletion := rfl
  audits := rfl

theorem trans (h : RowFrame db db') (h' : RowFrame db' db'') : RowFrame db db'' where
  artifacts := h'.artifacts.trans h.artifacts
  upload := by
    intro upload hupload
    obtain ⟨second, hsecond, hid', hkey', hstate'⟩ := h'.upload upload hupload
    obtain ⟨first, hfirst, hid, hkey, hstate⟩ := h.upload second hsecond
    exact ⟨first, hfirst, hid'.trans hid, hkey'.trans hkey, fun hdeleted =>
      hstate (hstate' hdeleted)⟩
  deletion := h'.deletion.trans h.deletion
  audits := h'.audits.trans h.audits

theorem withStatus {status : AttemptStatus} : RowFrame db (db.withStatus status) where
  artifacts := rfl
  upload := .of_eq rfl
  deletion := rfl
  audits := rfl

theorem insertTransition {idempotencyKey : JsString} {fromStatus toStatus : AttemptStatus} :
    RowFrame db (db.insertTransition idempotencyKey fromStatus toStatus) := by
  unfold Evidence.insertTransition
  split
  · exact refl
  · exact { refl with }

theorem destroyIncompleteEvidence : RowFrame db (db.destroyIncompleteEvidence now) where
  artifacts := rfl
  upload := KeepsUpload.withUploadState (by simp)
  deletion := rfl
  audits := rfl

theorem withUploadState {state : UploadState} (h : state ≠ .deleted) :
    RowFrame db (db.withUploadState state) where
  artifacts := rfl
  upload := .withUploadState h
  deletion := rfl
  audits := rfl

theorem reserveUpload (h : db.reserveUpload = some db') : RowFrame db db' := by
  unfold Evidence.reserveUpload at h
  split at h
  · cases h
    exact refl
  · split at h
    · cases h
      exact withUploadState (by simp)
    · split at h
      · cases h
        exact refl
      · cases h

end RowFrame

theorem rowFrame_of_abort {command : Evidence.AbortCommand}
    (h : db.abortAttempt now command = some db') : RowFrame db db' := by
  unfold Evidence.abortAttempt at h
  split at h
  · cases h
  · split at h
    · cases h
      refine RowFrame.trans ?_ .destroyIncompleteEvidence
      split
      · exact RowFrame.insertTransition.trans .withStatus
      · exact .refl
    · split at h
      · cases h
      · cases h
        exact (RowFrame.insertTransition.trans .withStatus).trans .destroyIncompleteEvidence

theorem rowFrame_of_reserveExpiry {expectedHeadSha : JsString}
    (h : db.reserveExpiry now expectedHeadSha = some db') : RowFrame db db' := by
  unfold Evidence.reserveExpiry at h
  split at h
  · cases h
  · split at h
    · exact .reserveUpload h
    · split at h
      · cases h
      · exact .reserveUpload h

theorem rowFrame_of_expire {expectedHeadSha idempotencyKey : JsString}
    (h : db.expireAttempt now expectedHeadSha idempotencyKey = some db') :
    RowFrame db db' := by
  unfold Evidence.expireAttempt at h
  split at h
  · cases h
  · split at h
    · cases h
      exact .destroyIncompleteEvidence
    · split at h
      · cases h
      · cases h
        exact (RowFrame.insertTransition.trans .withStatus).trans .destroyIncompleteEvidence

theorem rowFrame_of_snapshot {isCurrent pullRequestOpen : Bool} :
    RowFrame db (db.applySnapshot isCurrent pullRequestOpen) := by
  unfold Evidence.applySnapshot
  dsimp only
  split
  · exact { RowFrame.refl with }
  · exact { RowFrame.refl with }

theorem rowFrame_of_refuse {uploadSessionId materialId : JsString} :
    RowFrame db (recordMediaFinalizationFailure now uploadSessionId materialId db) := by
  have hmoved : RowFrame db (if db.attempt.status = .processing then
      (db.insertTransition (js "media-failed:" ++ uploadSessionId) .processing
        .technicalRetry).withStatus .technicalRetry
    else db) := by
    split
    · exact RowFrame.insertTransition.trans .withStatus
    · exact .refl
  refine hmoved.trans ⟨rfl, ?_, rfl, rfl⟩
  refine .of_map (fun upload => ?_) rfl
  split
  · exact ⟨rfl, rfl, fun h => nomatch h⟩
  · exact ⟨rfl, rfl, id⟩

theorem rowFrame_of_finalize {storable replay : Bool} {input : PendingFinalization}
    (h : persistPendingUploadFinalization now storable input db = .ok (db', replay)) :
    RowFrame db db' := by
  obtain ⟨upload, hupload, -, -, -, -, -, ⟨-, hsame, -⟩ | ⟨-, -, -, -, -, -, rfl⟩⟩ :=
    persistPendingUploadFinalization_eq_ok h
  · rw [hsame]
    exact .refl
  · refine RowFrame.insertTransition.trans ⟨rfl, fun upload' hupload' => ?_, rfl, rfl⟩
    cases hupload'
    exact ⟨upload, by simp [Evidence.insertTransition, hupload, apply_ite Evidence.upload], rfl, rfl,
      fun h => nomatch h⟩

end Frames

/-! ## Where keys come from -/

/-- What every transaction keeps but the completion of a deletion: a key that it brings in is
that of the upload, or of the row that the event inserts. -/
structure KeyFrame (event : EvidenceEvent) (db db' : Evidence) : Prop where
  recording : ∀ recording, db'.recording = some recording → db.recording = some recording ∨
    db.recording = none ∧ ∃ upload, db.upload = some upload ∧ upload.state ≠ .deleted ∧
      recording.objectKey = upload.objectKey
  frames : ∀ frame ∈ db'.frames, frame ∈ db.frames ∨
    insertsKey event = true ∧ ∀ other ∈ db.frames, other.id ≠ frame.id
  nodup : (db.frames.map (·.id)).Nodup → (db'.frames.map (·.id)).Nodup
  upload : KeepsUpload db db' ∨ insertsKey event = true ∧ db.upload = none ∧
    ∀ upload, db'.upload = some upload → upload.state ≠ .deleted
  completed : (completedJob db').map (·.id) = (completedJob db).map (·.id)
  deletion : db'.deletion = none → db.deletion = none
  deadline : movesDeadline event = false → ∀ job', db'.deletion = some job' →
    ∃ job, db.deletion = some job ∧ job'.deadline = job.deadline
  audits : deletedJobIds db' = deletedJobIds db

section Keys

variable {event : EvidenceEvent} {db db' : Evidence} {now : Timestamp}

theorem RowFrame.keyFrame (h : RowFrame db db') : KeyFrame event db db' := by
  obtain ⟨hrecording, hframes⟩ := Prod.ext_iff.mp h.artifacts
  dsimp only [Worker.artifacts] at hrecording hframes
  exact
    { recording := fun recording hsome => .inl (hrecording ▸ hsome)
      frames := fun frame hframe => .inl (hframes ▸ hframe)
      nodup := fun hnodup => by rw [hframes]; exact hnodup
      upload := .inl h.upload
      completed := by rw [completedJob, completedJob, h.deletion]
      deletion := fun hnone => h.deletion ▸ hnone
      deadline := fun _ job hjob => ⟨job, h.deletion ▸ hjob, rfl⟩
      audits := by rw [deletedJobIds, deletedJobIds, h.audits] }

namespace KeyFrame

theorem refl : KeyFrame event db db := RowFrame.refl.keyFrame

/-- A change of the deletion job that does not complete it. -/
theorem withDeletion {deletion : Option DeletionJob} {audits : List DeletionAudit}
    (hcompleted : (deletion.filter fun job => job.state = .completed).map (·.id) =
      (completedJob db).map (·.id))
    (hnone : deletion = none → db.deletion = none)
    (hdeadline : movesDeadline event = false → ∀ job', deletion = some job' →
      ∃ job, db.deletion = some job ∧ job'.deadline = job.deadline)
    (haudits : audits.filterMap deletedJobId = deletedJobIds db) :
    KeyFrame event db { db with deletion := deletion, audits := audits } :=
  { refl with
    completed := hcompleted
    deletion := hnone
    deadline := hdeadline
    audits := haudits }

end KeyFrame

theorem keyFrame_of_createUpload {id objectId objectKey providerUploadId : JsString}
    (hinserts : insertsKey event = true)
    (h : db.createUpload now id objectId objectKey providerUploadId = some db') :
    KeyFrame event db db' := by
  unfold Evidence.createUpload at h
  split at h
  · next hguard =>
    cases h
    have hframe : RowFrame db
        (db.insertTransition (js "upload-start:" ++ id) .active .uploading) := .insertTransition
    exact { hframe.keyFrame with
      upload := .inr ⟨hinserts, Option.isNone_iff_eq_none.mp hguard.1, fun upload hupload => by
        cases hupload
        simp⟩ }
  · cases h

theorem keyFrame_of_validate {input : ValidatedRecording}
    (h : persistValidatedRecording now input db = some db') : KeyFrame event db db' := by
  have hcompleted : RowFrame db (db.withUploadState .completed) := .withUploadState (by simp)
  unfold persistValidatedRecording at h
  split at h
  · next upload deleteAfter hupload hdeadline =>
    split at h
    · next hauthorized =>
      split at h
      · next hnone =>
        cases h
        simp only [isRecordingAuthorized, decide_eq_true_eq] at hauthorized
        obtain ⟨-, hkey, -, -, -, -, -, -, hstate, -⟩ := hauthorized
        refine { hcompleted.keyFrame with
          recording := fun recording hrecording => .inr ⟨hnone, upload, hupload, ?_, ?_⟩ }
        · rcases hstate with hstate | hstate <;> simp [hstate]
        · cases hrecording
          exact hkey.symm
      · split at h
        · cases h
          exact hcompleted.keyFrame
        · cases h
    · cases h
  · cases h

theorem keyFrame_of_reserveFrame {id objectKey recordingObjectId : JsString} {timestampMs : ℕ}
    (hinserts : insertsKey event = true)
    (h : reserveFrameObject now id objectKey recordingObjectId timestampMs db = some db') :
    KeyFrame event db db' := by
  unfold reserveFrameObject at h
  split at h
  · cases h
  · split at h
    · next hguard =>
      cases h
      obtain ⟨-, -, -, -, -, hfresh⟩ := hguard
      have hother : ∀ other ∈ db.frames, other.id ≠ id := by simpa using hfresh
      exact { KeyFrame.refl with
        frames := by
          intro frame hframe
          rcases List.mem_append.mp hframe with hframe | hframe
          · exact .inl hframe
          · obtain rfl := List.mem_singleton.mp hframe
            exact .inr ⟨hinserts, hother⟩
        nodup := by
          intro hnodup
          rw [List.map_append, List.map_singleton, List.nodup_append]
          refine ⟨hnodup, List.nodup_singleton _, fun a ha b hb => ?_⟩
          obtain ⟨other, hmem, rfl⟩ := List.mem_map.mp ha
          obtain rfl := List.mem_singleton.mp hb
          exact hother other hmem }
    · cases h

theorem keyFrame_of_repairFrame {id objectKey recordingObjectId : JsString}
    (h : repairFrame now id objectKey recordingObjectId db = some db') :
    KeyFrame event db db' := by
  unfold repairFrame at h
  split at h
  · cases h
  · split at h
    · cases h
      exact { KeyFrame.refl with
        frames := fun frame hframe => .inl (List.mem_filter.mp hframe).1
        nodup := fun hnodup => hnodup.sublist (List.filter_sublist.map _) }
    · cases h

theorem keyFrame_of_approve {jobId idempotencyKey : JsString} {accelerates : Bool}
    (hmoves : movesDeadline event = accelerates)
    (h : approveReview now jobId idempotencyKey accelerates db = some db') :
    KeyFrame event db db' := by
  unfold approveReview at h
  split at h
  · cases h
    have hpassed : RowFrame db
        ((db.insertTransition idempotencyKey .reviewRequired .passed).withStatus .passed) :=
      RowFrame.insertTransition.trans .withStatus
    split
    · next haccelerates =>
      refine { hpassed.keyFrame with
        completed := ?_
        deletion := fun hnone => nomatch hnone
        deadline := fun hkeeps => nomatch haccelerates.symm.trans (hmoves.symm.trans hkeeps) }
      have hdeletion := hpassed.deletion
      unfold completedJob accelerateEvidenceDeletionAfterPass
      dsimp only
      rw [hdeletion]
      cases db.deletion with
      | none => rfl
      | some job => by_cases hstate : job.state = .completed <;> simp [Option.filter, hstate]
    · exact hpassed.keyFrame
  · cases h

/-- A job keeps its identifier and its completion in a sweep. -/
theorem completedJob_of_upsert {jobId : JsString} :
    (completedJob (upsertDueDeletion now jobId db)).map (·.id) =
      (completedJob db).map (·.id) := by
  unfold completedJob upsertDueDeletion
  split
  · rfl
  · cases db.deletion with
    | none => rfl
    | some job => by_cases hstate : job.state = .completed <;> simp [Option.filter, hstate]

theorem keyFrame_of_sweep {staleBefore : Timestamp} {jobId : JsString} {selected : Bool}
    (hmoves : movesDeadline event = true) :
    KeyFrame event db (enqueueDueDeletions now staleBefore jobId selected db) := by
  have hupsert : KeyFrame event db (upsertDueDeletion now jobId db) := by
    have hcompleted := @completedJob_of_upsert db now jobId
    unfold upsertDueDeletion at hcompleted ⊢
    split
    · exact .refl
    · next deadline hdue =>
      rw [hdue] at hcompleted
      exact .withDeletion hcompleted (fun hnone => nomatch hnone)
        (fun hkeeps => nomatch hmoves.symm.trans hkeeps) rfl
  unfold enqueueDueDeletions
  refine { hupsert with
    completed := Eq.trans ?_ hupsert.completed
    deletion := fun hnone => hupsert.deletion (Option.map_eq_none_iff.mp hnone)
    deadline := fun hkeeps => nomatch hmoves.symm.trans hkeeps }
  unfold completedJob
  dsimp only
  cases (upsertDueDeletion now jobId db).deletion with
  | none => rfl
  | some job =>
      by_cases hstate : job.state = .completed
      · simp [Option.filter, isEnqueued, hstate]
      · rw [Option.map_some]
        split <;> simp [Option.filter, hstate]

theorem keyFrame_of_claimDeletion {deletionJobId : JsString} :
    KeyFrame event db (claimDeletion now deletionJobId db).1 := by
  unfold claimDeletion
  split
  · exact .refl
  · next job hfilter =>
    obtain ⟨hjob, -⟩ := Option.filter_eq_some_iff.mp hfilter
    split
    · exact .refl
    · next hopen =>
      split <;>
        exact .withDeletion (by simp [completedJob, hjob, Option.filter, hopen])
          (fun hnone => nomatch hnone) (fun _ job' hjob' => ⟨job, hjob, by cases hjob'; rfl⟩) rfl

theorem keyFrame_of_failDeletion {plan : EvidenceDeletionPlan} {errorClass : JsString} :
    KeyFrame event db (failDeletion now plan errorClass db) := by
  unfold failDeletion
  split
  · exact .refl
  · next job hfilter =>
    obtain ⟨hjob, -⟩ := Option.filter_eq_some_iff.mp hfilter
    split
    · exact .refl
    · next hopen =>
      refine .withDeletion (by simp [completedJob, hjob, Option.filter, hopen])
        (fun hnone => nomatch hnone) (fun _ job' hjob' => ⟨job, hjob, by cases hjob'; rfl⟩) ?_
      simp [deletedJobIds, deletedJobId]

/-- Every transaction but a completed deletion keeps the frame of the keys. -/
theorem keyFrame_of_next (hcomplete : ∀ now plan, event ≠ .completeDeletion now plan)
    (h : nextEvidence db event = some db') : KeyFrame event db db' := by
  cases event with
  | issueMaterial now id objectId keyId algorithm =>
      simp only [nextEvidence, Evidence.issueMaterial] at h
      split at h
      · cases h
        exact { KeyFrame.refl with }
      · cases h
  | createUpload now id objectId objectKey providerUploadId => exact keyFrame_of_createUpload rfl h
  | finalize now storable input =>
      simp only [nextEvidence, Option.map_eq_some_iff] at h
      obtain ⟨⟨after, replay⟩, hok, rfl⟩ := h
      cases hresult : persistPendingUploadFinalization now storable input db with
      | error error =>
          rw [hresult] at hok
          cases hok
      | ok result =>
          rw [hresult] at hok
          cases hok
          exact (rowFrame_of_finalize hresult).keyFrame
  | validate now input => exact keyFrame_of_validate h
  | refuse now uploadSessionId materialId =>
      cases h
      exact rowFrame_of_refuse.keyFrame
  | reserveAbort command =>
      simp only [nextEvidence, Evidence.reserveTechnicalAbort] at h
      split at h
      · exact (RowFrame.reserveUpload h).keyFrame
      · cases h
  | abort now command =>
      simp only [nextEvidence] at h
      split at h
      · exact (rowFrame_of_abort h).keyFrame
      · cases h
  | reserveExpiry now expectedHeadSha => exact (rowFrame_of_reserveExpiry h).keyFrame
  | expire now expectedHeadSha idempotencyKey => exact (rowFrame_of_expire h).keyFrame
  | snapshot isCurrent pullRequestOpen =>
      cases h
      exact rowFrame_of_snapshot.keyFrame
  | advance status =>
      simp only [nextEvidence, Evidence.advance] at h
      split at h
      · cases h
        exact RowFrame.withStatus.keyFrame
      · cases h
  | approve now jobId idempotencyKey accelerates => exact keyFrame_of_approve rfl h
  | reserveFrame now id objectKey recordingObjectId timestampMs =>
      exact keyFrame_of_reserveFrame rfl h
  | repairFrame now id objectKey recordingObjectId => exact keyFrame_of_repairFrame h
  | sweep now staleBefore jobId selected =>
      cases h
      exact keyFrame_of_sweep rfl
  | claimDeletion now deletionJobId =>
      cases h
      exact keyFrame_of_claimDeletion
  | completeDeletion now plan => exact absurd rfl (hcomplete now plan)
  | failDeletion now plan errorClass =>
      cases h
      exact keyFrame_of_failDeletion

end Keys

end Worker

end UnderstandProof
