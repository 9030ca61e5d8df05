import UnderstandProof.Db.UploadFinalization
import UnderstandProof.Foundation.History
import UnderstandProof.Worker.Retention

/-!
# The transactions on the evidence of one attempt

Every transaction that writes the rows of an attempt's evidence is an event, with the clock
reading it goes by; an event that its transaction refuses leaves the rows alone. All of
them but the acceptance of a finalization and the completion of a deletion leave what was
accepted as it is.
-/

open Foundation

namespace UnderstandProof

namespace Worker

open Db
open Domain (AttemptStatus Timestamp)

inductive EvidenceEvent where
  | issueMaterial (now : Timestamp) (id objectId keyId algorithm : JsString)
  | createUpload (now : Timestamp) (id objectId objectKey providerUploadId : JsString)
  | finalize (now : Timestamp) (storable : Bool) (input : PendingFinalization)
  | validate (now : Timestamp) (input : ValidatedRecording)
  | refuse (now : Timestamp) (uploadSessionId materialId : JsString)
  | reserveAbort (command : Evidence.AbortCommand)
  | abort (now : Timestamp) (command : Evidence.AbortCommand)
  | reserveExpiry (now : Timestamp) (expectedHeadSha : JsString)
  | expire (now : Timestamp) (expectedHeadSha idempotencyKey : JsString)
  | snapshot (isCurrent pullRequestOpen : Bool)
  | advance (status : AttemptStatus)
  | approve (now : Timestamp) (jobId idempotencyKey : JsString) (accelerates : Bool)
  | reserveFrame (now : Timestamp) (id objectKey recordingObjectId : JsString)
      (timestampMs : ℕ)
  | repairFrame (now : Timestamp) (id objectKey recordingObjectId : JsString)
  | sweep (now staleBefore : Timestamp) (jobId : JsString) (selected : Bool)
  | claimDeletion (now : Timestamp) (deletionJobId : JsString)
  | completeDeletion (now : Timestamp) (plan : EvidenceDeletionPlan)
  | failDeletion (now : Timestamp) (plan : EvidenceDeletionPlan) (errorClass : JsString)

/-- The attempt of a current revision before its handoff. -/
def startEvidence (attemptId authorId repositoryId headSha : JsString)
    (expiresAt : Timestamp) : Evidence where
  attempt :=
    { id := attemptId
      authorId := authorId
      repositoryId := repositoryId
      headSha := headSha
      status := .preparing
      expiresAt := expiresAt
      evidenceDeleteAfter := none }
  isCurrent := true
  pullRequestOpen := true
  repositoryActive := true
  installationActive := true
  upload := none
  materials := []
  intervals := none
  recording := none
  frames := []
  deletion := none
  transitions := []
  audits := []

/-- The rows after a transaction, or `none` when it is refused. An abort goes on after its
reservation only, which has found the expected head. -/
def nextEvidence (db : Evidence) : EvidenceEvent → Option Evidence
  | .issueMaterial now id objectId keyId algorithm =>
      db.issueMaterial now id objectId keyId algorithm
  | .createUpload now id objectId objectKey providerUploadId =>
      db.createUpload now id objectId objectKey providerUploadId
  | .finalize now storable input =>
      (persistPendingUploadFinalization now storable input db).toOption.map Prod.fst
  | .validate now input => persistValidatedRecording now input db
  | .refuse now uploadSessionId materialId =>
      some (recordMediaFinalizationFailure now uploadSessionId materialId db)
  | .reserveAbort command => db.reserveTechnicalAbort command
  | .abort now command =>
      if db.attempt.headSha = command.expectedHeadSha then db.abortAttempt now command else none
  | .reserveExpiry now expectedHeadSha => db.reserveExpiry now expectedHeadSha
  | .expire now expectedHeadSha idempotencyKey =>
      db.expireAttempt now expectedHeadSha idempotencyKey
  | .snapshot isCurrent pullRequestOpen => some (db.applySnapshot isCurrent pullRequestOpen)
  | .advance status => db.advance status
  | .approve now jobId idempotencyKey accelerates =>
      approveReview now jobId idempotencyKey accelerates db
  | .reserveFrame now id objectKey recordingObjectId timestampMs =>
      reserveFrameObject now id objectKey recordingObjectId timestampMs db
  | .repairFrame now id objectKey recordingObjectId =>
      repairFrame now id objectKey recordingObjectId db
  | .sweep now staleBefore jobId selected =>
      some (enqueueDueDeletions now staleBefore jobId selected db)
  | .claimDeletion now deletionJobId => some (claimDeletion now deletionJobId db).1
  | .completeDeletion now plan => some (completeDeletion now plan db)
  | .failDeletion now plan errorClass => some (failDeletion now plan errorClass db)

def stepEvidence (db : Evidence) (event : EvidenceEvent) : Evidence :=
  (nextEvidence db event).getD db

/-- A property that a transaction keeps when it is not refused is kept by the event. -/
theorem stepEvidence_of_next {db : Evidence} {event : EvidenceEvent} {I : Evidence → Prop}
    (hrefused : I db) (hnext : ∀ db', nextEvidence db event = some db' → I db') :
    I (stepEvidence db event) := by
  unfold stepEvidence
  cases h : nextEvidence db event with
  | none => exact hrefused
  | some db' => exact hnext db' h

theorem stepEvidence_finalize_of_ok {db db' : Evidence} {now : Timestamp} {storable replay : Bool}
    {input : PendingFinalization}
    (h : persistPendingUploadFinalization now storable input db = .ok (db', replay)) :
    stepEvidence db (.finalize now storable input) = db' := by
  simp [stepEvidence, nextEvidence, h, Except.toOption]

theorem stepEvidence_finalize_of_error {db : Evidence} {now : Timestamp} {storable : Bool}
    {input : PendingFinalization} {error : FinalizationError}
    (h : persistPendingUploadFinalization now storable input db = .error error) :
    stepEvidence db (.finalize now storable input) = db := by
  simp [stepEvidence, nextEvidence, h, Except.toOption]

/-! ## What most transactions leave alone -/

/-- What a transaction leaves alone that neither accepts a finalization nor completes a
deletion: of the upload it changes the state only. -/
structure EvidenceFrame (db db' : Evidence) : Prop where
  attempt : db'.attempt = { db.attempt with status := db'.attempt.status }
  upload : ∀ upload, db.upload = some upload →
    ∃ upload', db'.upload = some upload' ∧ upload' = { upload with state := upload'.state } ∧
      (upload.state = .deleted ∨ upload.state = .failed →
        upload'.state = .deleted ∨ upload'.state = .failed)
  intervals : db'.intervals = db.intervals
  materials : ∀ objectId material,
    db.materials.find? (fun m => m.objectId = objectId) = some material →
    ∃ material', db'.materials.find? (fun m => m.objectId = objectId) = some material' ∧
      material'.id = material.id ∧ material'.keyId = material.keyId ∧
      material'.algorithm = material.algorithm
  completed : db.deletion.any (fun job => job.state = .completed) = true →
    db'.deletion.any (fun job => job.state = .completed) = true
  processing : (db'.transitions.filter fun t => t.toStatus = .processing) =
    db.transitions.filter fun t => t.toStatus = .processing
  live : (Evidence.isLive db.attempt.status = true → db.isAuthorized = true) →
    Evidence.isLive db'.attempt.status = true → db'.isAuthorized = true
  accepted : db'.attempt.status = .processing → db.attempt.status = .processing

namespace EvidenceFrame

variable {db db' db'' : Evidence}

theorem refl : EvidenceFrame db db where
  attempt := rfl
  upload := fun upload hupload => ⟨upload, hupload, rfl, id⟩
  intervals := rfl
  materials := fun _ material hmaterial => ⟨material, hmaterial, rfl, rfl, rfl⟩
  completed := id
  processing := rfl
  live := id
  accepted := id

theorem trans (h : EvidenceFrame db db') (h' : EvidenceFrame db' db'') :
    EvidenceFrame db db'' where
  attempt := by rw [h'.attempt, h.attempt]
  upload := by
    intro upload hupload
    obtain ⟨first, hfirst, hsame, hended⟩ := h.upload upload hupload
    obtain ⟨second, hsecond, hsame', hended'⟩ := h'.upload first hfirst
    exact ⟨second, hsecond, by rw [hsame', hsame], fun hstate => hended' (hended hstate)⟩
  intervals := h'.intervals.trans h.intervals
  materials := by
    intro objectId material hmaterial
    obtain ⟨first, hfirst, hid, hkey, halgorithm⟩ := h.materials objectId material hmaterial
    obtain ⟨second, hsecond, hid', hkey', halgorithm'⟩ := h'.materials objectId first hfirst
    exact ⟨second, hsecond, hid'.trans hid, hkey'.trans hkey, halgorithm'.trans halgorithm⟩
  completed := fun hcompleted => h'.completed (h.completed hcompleted)
  processing := h'.processing.trans h.processing
  live := fun hlive => h'.live (h.live hlive)
  accepted := fun hstatus => h.accepted (h'.accepted hstatus)

/-- A change of the status; a live one comes from a live one. -/
theorem withStatus {status : AttemptStatus} (hne : status ≠ .processing)
    (hlive : Evidence.isLive status = true → Evidence.isLive db.attempt.status = true) :
    EvidenceFrame db (db.withStatus status) :=
  { refl with
    attempt := rfl
    live := fun h hstatus => h (hlive hstatus)
    accepted := fun hstatus => absurd hstatus hne }

/-- A status that is not live. -/
theorem withEnded {status : AttemptStatus} (hlive : Evidence.isLive status = false) :
    EvidenceFrame db (db.withStatus status) :=
  .withStatus (fun h => by rw [h] at hlive; cases hlive)
    fun h => absurd (hlive.symm.trans h) (by simp)

theorem insertTransition {idempotencyKey : JsString} {fromStatus toStatus : AttemptStatus}
    (hto : toStatus ≠ .processing) :
    EvidenceFrame db (db.insertTransition idempotencyKey fromStatus toStatus) := by
  unfold Evidence.insertTransition
  split
  · exact refl
  · exact { refl with
      attempt := rfl
      processing := by simp [hto] }

/-- A change of the upload's state. -/
theorem withUploadState {state : UploadState}
    (hended : ∀ upload, db.upload = some upload →
      upload.state = .deleted ∨ upload.state = .failed → state = .deleted ∨ state = .failed) :
    EvidenceFrame db (db.withUploadState state) :=
  { refl with
    upload := fun upload hupload =>
      ⟨{ upload with state := state }, by simp [Evidence.withUploadState, hupload], rfl,
        hended upload hupload⟩ }

/-- A change of the materials that leaves their identity and their keys alone. -/
theorem mapMaterials {change : WrappingMaterial → WrappingMaterial}
    (hchange : ∀ m, (change m).id = m.id ∧ (change m).objectId = m.objectId ∧
      (change m).keyId = m.keyId ∧ (change m).algorithm = m.algorithm) :
    EvidenceFrame db { db with materials := db.materials.map change } :=
  { refl with
    materials := by
      intro objectId material hmaterial
      obtain ⟨hid, -, hkey, halgorithm⟩ := hchange material
      refine ⟨change material, ?_, hid, hkey, halgorithm⟩
      have hsame : ((fun m : WrappingMaterial => decide (m.objectId = objectId)) ∘ change) =
          fun m => decide (m.objectId = objectId) := by
        funext m
        simp [(hchange m).2.1]
      rw [List.find?_map, hsame, hmaterial, Option.map_some] }

theorem destroyIncompleteEvidence {now : Timestamp} :
    EvidenceFrame db (db.destroyIncompleteEvidence now) := by
  have hfailed : EvidenceFrame db (db.withUploadState .failed) :=
    withUploadState fun _ _ _ => .inr rfl
  refine hfailed.trans ?_
  refine mapMaterials fun m => ?_
  split <;> exact ⟨rfl, rfl, rfl, rfl⟩

theorem reserveUpload {db' : Evidence} (h : db.reserveUpload = some db') :
    EvidenceFrame db db' := by
  unfold Evidence.reserveUpload at h
  split at h
  · cases h
    exact refl
  · next upload hupload =>
    split at h
    · next hactive =>
      cases h
      refine withUploadState fun other hother hended => ?_
      cases hupload.symm.trans hother
      rw [hactive] at hended
      rcases hended with h | h <;> cases h
    · split at h
      · cases h
        exact refl
      · cases h

/-- A change of the deletion job that leaves a completed one completed. -/
theorem withDeletion {deletion : Option DeletionJob} {audits : List DeletionAudit}
    (hcompleted : db.deletion.any (fun job => job.state = .completed) = true →
      deletion.any (fun job => job.state = .completed) = true) :
    EvidenceFrame db { db with deletion := deletion, audits := audits } :=
  { refl with completed := hcompleted }

theorem withEvidence {recording : Option RecordingObject} {frames : List FrameSelection} :
    EvidenceFrame db { db with recording := recording, frames := frames } :=
  { refl with attempt := rfl }

end EvidenceFrame

section Frames

variable {db db' : Evidence} {now : Timestamp}

theorem frame_of_issueMaterial {id objectId keyId algorithm : JsString}
    (h : db.issueMaterial now id objectId keyId algorithm = some db') :
    EvidenceFrame db db' := by
  unfold Evidence.issueMaterial at h
  split at h
  · cases h
    exact { EvidenceFrame.refl with
      attempt := rfl
      materials := fun other material hmaterial =>
        ⟨material, by simp [List.find?_append, hmaterial], rfl, rfl, rfl⟩ }
  · cases h

theorem frame_of_createUpload {id objectId objectKey providerUploadId : JsString}
    (h : db.createUpload now id objectId objectKey providerUploadId = some db') :
    EvidenceFrame db db' := by
  unfold Evidence.createUpload at h
  split at h
  · next hguard =>
    cases h
    obtain ⟨hnone, hactive, -, -⟩ := hguard
    have hinsert : EvidenceFrame db
        (db.insertTransition (js "upload-start:" ++ id) .active .uploading) :=
      .insertTransition (by simp)
    have hstatus : EvidenceFrame db
        ((db.insertTransition (js "upload-start:" ++ id) .active .uploading).withStatus
          .uploading) := by
      refine hinsert.trans (.withStatus (by simp) fun _ => ?_)
      rw [hinsert.attempt]
      simp [Evidence.insertTransition, Evidence.isLive, hactive, apply_ite Evidence.attempt]
    exact { hstatus with
      upload := fun upload hupload => by
        rw [hupload] at hnone
        cases hnone }
  · cases h

theorem frame_of_validate {input : ValidatedRecording}
    (h : persistValidatedRecording now input db = some db') : EvidenceFrame db db' := by
  unfold persistValidatedRecording at h
  split at h
  · next upload deleteAfter hupload hdeadline =>
    split at h
    · next hguard =>
      simp only [isRecordingAuthorized, decide_eq_true_eq] at hguard
      have hcompleted : EvidenceFrame db (db.withUploadState .completed) := by
        refine .withUploadState fun other hother hended => ?_
        cases hupload.symm.trans hother
        rcases hguard.2.2.2.2.2.2.2.2.1 with hstate | hstate <;> rw [hstate] at hended <;>
          rcases hended with h | h <;> cases h
      split at h
      · cases h
        exact hcompleted.trans .withEvidence
      · split at h
        · cases h
          exact hcompleted
        · cases h
    · cases h
  · cases h

theorem frame_of_refuse {uploadSessionId materialId : JsString} :
    EvidenceFrame db (recordMediaFinalizationFailure now uploadSessionId materialId db) := by
  unfold recordMediaFinalizationFailure
  have hstatus : EvidenceFrame db
      (if db.attempt.status = .processing then
        (db.insertTransition (js "media-failed:" ++ uploadSessionId) .processing
          .technicalRetry).withStatus .technicalRetry
      else db) := by
    split
    · exact (EvidenceFrame.insertTransition (by simp)).trans (.withEnded rfl)
    · exact .refl
  refine hstatus.trans ?_
  generalize (if db.attempt.status = .processing then
      (db.insertTransition (js "media-failed:" ++ uploadSessionId) .processing
        .technicalRetry).withStatus .technicalRetry
    else db) = failed
  have hupload : EvidenceFrame failed { failed with
      upload := failed.upload.map fun upload =>
        if upload.id = uploadSessionId then { upload with state := .failed } else upload } :=
    { EvidenceFrame.refl with
      attempt := rfl
      upload := by
        intro upload hupload
        refine ⟨_, by rw [hupload]; rfl, ?_, ?_⟩ <;> dsimp only
        · split <;> rfl
        · split
          · exact fun _ => .inr rfl
          · exact id }
  refine hupload.trans (.mapMaterials fun m => ?_)
  split <;> exact ⟨rfl, rfl, rfl, rfl⟩

theorem frame_of_reserveAbort {command : Evidence.AbortCommand}
    (h : db.reserveTechnicalAbort command = some db') : EvidenceFrame db db' := by
  unfold Evidence.reserveTechnicalAbort at h
  split at h
  · exact .reserveUpload h
  · cases h

/-- The end of an attempt with its incomplete evidence. -/
theorem frame_of_end {idempotencyKey : JsString} {status : AttemptStatus}
    (hto : status ≠ .processing) (hlive : Evidence.isLive status = false) :
    EvidenceFrame db (((db.insertTransition idempotencyKey db.attempt.status
      status).withStatus status).destroyIncompleteEvidence now) :=
  ((EvidenceFrame.insertTransition hto).trans (.withEnded hlive)).trans
    .destroyIncompleteEvidence

theorem frame_of_abort {command : Evidence.AbortCommand}
    (h : db.abortAttempt now command = some db') : EvidenceFrame db db' := by
  unfold Evidence.abortAttempt at h
  split at h
  · cases h
  · split at h
    · cases h
      split
      · exact ((EvidenceFrame.insertTransition (by simp)).trans (.withEnded rfl)).trans
          .destroyIncompleteEvidence
      · exact .destroyIncompleteEvidence
    · split at h
      · cases h
      · cases h
        exact frame_of_end (by simp) rfl

theorem frame_of_reserveExpiry {expectedHeadSha : JsString}
    (h : db.reserveExpiry now expectedHeadSha = some db') : EvidenceFrame db db' := by
  unfold Evidence.reserveExpiry at h
  split at h
  · cases h
  · split at h
    · exact .reserveUpload h
    · split at h
      · cases h
      · exact .reserveUpload h

theorem frame_of_expire {expectedHeadSha idempotencyKey : JsString}
    (h : db.expireAttempt now expectedHeadSha idempotencyKey = some db') :
    EvidenceFrame db db' := by
  unfold Evidence.expireAttempt at h
  split at h
  · cases h
  · split at h
    · cases h
      exact .destroyIncompleteEvidence
    · split at h
      · cases h
      · cases h
        exact frame_of_end (by simp) rfl

theorem frame_of_snapshot {isCurrent pullRequestOpen : Bool} :
    EvidenceFrame db (db.applySnapshot isCurrent pullRequestOpen) := by
  unfold Evidence.applySnapshot
  dsimp only
  split
  · exact { EvidenceFrame.refl with
      attempt := rfl
      live := fun _ hlive => nomatch hlive
      accepted := fun hstatus => nomatch hstatus }
  · next hkept =>
    exact { EvidenceFrame.refl with
      attempt := rfl
      live := by
        intro hauthorized hlive
        have hbefore := hauthorized hlive
        rw [not_and_or] at hkept
        have hflags := hkept.resolve_right (not_not_intro hlive)
        simp only [not_or, Bool.not_eq_false] at hflags
        simp only [Evidence.isAuthorized, decide_eq_true_eq] at hbefore ⊢
        exact ⟨hflags.1, hflags.2, hbefore.2.2⟩ }

/-- The trigger lets no status become live again. -/
theorem isLive_of_allowed {source target : AttemptStatus}
    (h : target ∈ Domain.allowedAttemptTransitions source) :
    Evidence.isLive source = true := by
  cases source <;> first | rfl | cases h

theorem frame_of_advance {status : AttemptStatus} (h : db.advance status = some db') :
    EvidenceFrame db db' := by
  unfold Evidence.advance at h
  split at h
  · next hguard =>
    cases h
    exact .withStatus hguard.2.2 fun _ => isLive_of_allowed hguard.1
  · cases h

theorem frame_of_accelerate {jobId : JsString} :
    EvidenceFrame db (accelerateEvidenceDeletionAfterPass now jobId db) := by
  unfold accelerateEvidenceDeletionAfterPass
  refine .withDeletion fun hcompleted => ?_
  cases hjob : db.deletion with
  | none =>
      rw [hjob] at hcompleted
      cases hcompleted
  | some job =>
      rw [hjob] at hcompleted
      simp only [Option.any_some, decide_eq_true_eq] at hcompleted ⊢
      rw [if_pos hcompleted]

theorem frame_of_approve {jobId idempotencyKey : JsString} {accelerates : Bool}
    (h : approveReview now jobId idempotencyKey accelerates db = some db') :
    EvidenceFrame db db' := by
  unfold approveReview at h
  split at h
  · cases h
    have hpassed : EvidenceFrame db
        ((db.insertTransition idempotencyKey .reviewRequired .passed).withStatus .passed) :=
      (EvidenceFrame.insertTransition (by simp)).trans (.withEnded rfl)
    split
    · exact hpassed.trans frame_of_accelerate
    · exact hpassed
  · cases h

theorem frame_of_reserveFrame {id objectKey recordingObjectId : JsString} {timestampMs : ℕ}
    (h : reserveFrameObject now id objectKey recordingObjectId timestampMs db = some db') :
    EvidenceFrame db db' := by
  unfold reserveFrameObject at h
  split at h
  · cases h
  · split at h
    · cases h
      exact .withEvidence
    · cases h

theorem frame_of_repairFrame {id objectKey recordingObjectId : JsString}
    (h : repairFrame now id objectKey recordingObjectId db = some db') :
    EvidenceFrame db db' := by
  unfold repairFrame at h
  split at h
  · cases h
  · split at h
    · cases h
      exact .withEvidence
    · cases h

theorem completed_of_upsertDue {jobId : JsString}
    (h : db.deletion.any (fun job => job.state = .completed) = true) :
    (upsertDueDeletion now jobId db).deletion.any (fun job => job.state = .completed) =
      true := by
  unfold upsertDueDeletion
  split
  · exact h
  · cases hjob : db.deletion with
    | none =>
        rw [hjob] at h
        cases h
    | some job =>
        rw [hjob] at h
        exact h

theorem frame_of_sweep {staleBefore : Timestamp} {jobId : JsString} {selected : Bool} :
    EvidenceFrame db (enqueueDueDeletions now staleBefore jobId selected db) := by
  have hupsert : EvidenceFrame db (upsertDueDeletion now jobId db) := by
    have hcompleted := @completed_of_upsertDue db now jobId
    unfold upsertDueDeletion at hcompleted ⊢
    split
    · exact .refl
    · next deadline hdue =>
      rw [hdue] at hcompleted
      exact .withDeletion hcompleted
  unfold enqueueDueDeletions
  refine hupsert.trans (.withDeletion fun hcompleted => ?_)
  obtain ⟨job, hjob, hstate⟩ := Option.any_eq_true _ _ |>.mp hcompleted
  rw [decide_eq_true_eq] at hstate
  simp [hjob, isEnqueued, hstate]

theorem frame_of_claimDeletion {deletionJobId : JsString} :
    EvidenceFrame db (claimDeletion now deletionJobId db).1 := by
  unfold claimDeletion
  split
  · exact .refl
  · next job hfilter =>
    obtain ⟨hjob, -⟩ := Option.filter_eq_some_iff.mp hfilter
    split
    · exact .refl
    · next hopen =>
      have hnot : ¬ db.deletion.any (fun job => job.state = .completed) = true := by
        simp [hjob, hopen]
      split
      · exact .withDeletion fun h => absurd h hnot
      · exact .withDeletion fun h => absurd h hnot

theorem frame_of_failDeletion {plan : EvidenceDeletionPlan} {errorClass : JsString} :
    EvidenceFrame db (failDeletion now plan errorClass db) := by
  unfold failDeletion
  split
  · exact .refl
  · next job hfilter =>
    obtain ⟨hjob, -⟩ := Option.filter_eq_some_iff.mp hfilter
    split
    · exact .refl
    · next hopen =>
      exact .withDeletion fun h => absurd h (by simp [hjob, hopen])

/-- Every transaction but a finalization and a completed deletion keeps the frame. -/
theorem frame_of_next {event : EvidenceEvent}
    (hfinalize : ∀ now storable input, event ≠ .finalize now storable input)
    (hcomplete : ∀ now plan, event ≠ .completeDeletion now plan)
    (h : nextEvidence db event = some db') : EvidenceFrame db db' := by
  cases event with
  | issueMaterial now id objectId keyId algorithm => exact frame_of_issueMaterial h
  | createUpload now id objectId objectKey providerUploadId => exact frame_of_createUpload h
  | finalize now storable input => exact absurd rfl (hfinalize now storable input)
  | validate now input => exact frame_of_validate h
  | refuse now uploadSessionId materialId =>
      cases h
      exact frame_of_refuse
  | reserveAbort command => exact frame_of_reserveAbort h
  | abort now command =>
      simp only [nextEvidence] at h
      split at h
      · exact frame_of_abort h
      · cases h
  | reserveExpiry now expectedHeadSha => exact frame_of_reserveExpiry h
  | expire now expectedHeadSha idempotencyKey => exact frame_of_expire h
  | snapshot isCurrent pullRequestOpen =>
      cases h
      exact frame_of_snapshot
  | advance status => exact frame_of_advance h
  | approve now jobId idempotencyKey accelerates => exact frame_of_approve h
  | reserveFrame now id objectKey recordingObjectId timestampMs => exact frame_of_reserveFrame h
  | repairFrame now id objectKey recordingObjectId => exact frame_of_repairFrame h
  | sweep now staleBefore jobId selected =>
      cases h
      exact frame_of_sweep
  | claimDeletion now deletionJobId =>
      cases h
      exact frame_of_claimDeletion
  | completeDeletion now plan => exact absurd rfl (hcomplete now plan)
  | failDeletion now plan errorClass =>
      cases h
      exact frame_of_failDeletion

end Frames

/-! ## The recording and the frames -/

section Artifacts

variable {db db' : Evidence} {now : Timestamp}

/-- The rows that hold object keys of their own. -/
def artifacts (db : Evidence) : Option RecordingObject × List FrameSelection :=
  (db.recording, db.frames)

/-- The events that insert, remove or erase a recording or a frame. -/
def writesArtifacts : EvidenceEvent → Bool
  | .validate .. => true
  | .reserveFrame .. => true
  | .repairFrame .. => true
  | .completeDeletion .. => true
  | _ => false

@[simp] theorem artifacts_insertTransition {idempotencyKey : JsString}
    {fromStatus toStatus : AttemptStatus} :
    artifacts (db.insertTransition idempotencyKey fromStatus toStatus) = artifacts db := by
  unfold Evidence.insertTransition
  split <;> rfl

@[simp] theorem artifacts_withStatus {status : AttemptStatus} :
    artifacts (db.withStatus status) = artifacts db := rfl

@[simp] theorem artifacts_destroyIncompleteEvidence :
    artifacts (db.destroyIncompleteEvidence now) = artifacts db := rfl

theorem artifacts_of_reserveUpload (h : db.reserveUpload = some db') :
    artifacts db' = artifacts db := by
  unfold Evidence.reserveUpload at h
  split at h
  · cases h
    rfl
  · split at h
    · cases h
      rfl
    · split at h
      · cases h
        rfl
      · cases h

theorem artifacts_of_abort {command : Evidence.AbortCommand}
    (h : db.abortAttempt now command = some db') : artifacts db' = artifacts db := by
  unfold Evidence.abortAttempt at h
  split at h
  · cases h
  · split at h
    · cases h
      rw [artifacts_destroyIncompleteEvidence]
      split
      · rw [artifacts_withStatus, artifacts_insertTransition]
      · rfl
    · split at h
      · cases h
      · cases h
        simp

theorem artifacts_of_reserveExpiry {expectedHeadSha : JsString}
    (h : db.reserveExpiry now expectedHeadSha = some db') : artifacts db' = artifacts db := by
  unfold Evidence.reserveExpiry at h
  split at h
  · cases h
  · split at h
    · exact artifacts_of_reserveUpload h
    · split at h
      · cases h
      · exact artifacts_of_reserveUpload h

theorem artifacts_of_expire {expectedHeadSha idempotencyKey : JsString}
    (h : db.expireAttempt now expectedHeadSha idempotencyKey = some db') :
    artifacts db' = artifacts db := by
  unfold Evidence.expireAttempt at h
  split at h
  · cases h
  · split at h
    · cases h
      rfl
    · split at h
      · cases h
      · cases h
        simp

theorem artifacts_of_sweep {staleBefore : Timestamp} {jobId : JsString} {selected : Bool} :
    artifacts (enqueueDueDeletions now staleBefore jobId selected db) = artifacts db := by
  unfold enqueueDueDeletions upsertDueDeletion
  split <;> rfl

theorem artifacts_of_claimDeletion {deletionJobId : JsString} :
    artifacts (claimDeletion now deletionJobId db).1 = artifacts db := by
  unfold claimDeletion
  split
  · rfl
  · split
    · rfl
    · split <;> rfl

theorem artifacts_of_failDeletion {plan : EvidenceDeletionPlan} {errorClass : JsString} :
    artifacts (failDeletion now plan errorClass db) = artifacts db := by
  unfold failDeletion
  split
  · rfl
  · split <;> rfl

theorem artifacts_of_refuse {uploadSessionId materialId : JsString} :
    artifacts (recordMediaFinalizationFailure now uploadSessionId materialId db) =
      artifacts db := by
  change artifacts (if db.attempt.status = .processing then
      (db.insertTransition (js "media-failed:" ++ uploadSessionId) .processing
        .technicalRetry).withStatus .technicalRetry
    else db) = artifacts db
  split
  · rw [artifacts_withStatus, artifacts_insertTransition]
  · rfl

theorem artifacts_of_finalize {storable : Bool} {input : PendingFinalization} :
    artifacts (stepEvidence db (.finalize now storable input)) = artifacts db := by
  cases hresult : persistPendingUploadFinalization now storable input db with
  | error e => rw [stepEvidence_finalize_of_error hresult]
  | ok result =>
      obtain ⟨db', replay⟩ := result
      rw [stepEvidence_finalize_of_ok hresult]
      obtain ⟨upload, -, -, -, -, -, -, ⟨-, hsame, -⟩ | ⟨-, -, -, -, -, -, rfl⟩⟩ :=
        persistPendingUploadFinalization_eq_ok hresult
      · rw [hsame]
      · exact artifacts_insertTransition

/-- The other events leave the recording and the frames alone. -/
theorem artifacts_of_stepEvidence {event : EvidenceEvent}
    (h : writesArtifacts event = false) :
    artifacts (stepEvidence db event) = artifacts db := by
  have hnext : ∀ (hone : ∀ db', nextEvidence db event = some db' → artifacts db' = artifacts db),
      artifacts (stepEvidence db event) = artifacts db := fun hone =>
    stepEvidence_of_next (I := fun db' => artifacts db' = artifacts db) rfl hone
  cases event with
  | issueMaterial now id objectId keyId algorithm =>
      refine hnext fun db' hdb => ?_
      simp only [nextEvidence, Evidence.issueMaterial] at hdb
      split at hdb
      · cases hdb
        rfl
      · cases hdb
  | createUpload now id objectId objectKey providerUploadId =>
      refine hnext fun db' hdb => ?_
      simp only [nextEvidence, Evidence.createUpload] at hdb
      split at hdb
      · cases hdb
        exact artifacts_insertTransition
      · cases hdb
  | finalize now storable input => exact artifacts_of_finalize
  | validate now input => cases h
  | refuse now uploadSessionId materialId => exact artifacts_of_refuse
  | reserveAbort command =>
      refine hnext fun db' hdb => ?_
      simp only [nextEvidence, Evidence.reserveTechnicalAbort] at hdb
      split at hdb
      · exact artifacts_of_reserveUpload hdb
      · cases hdb
  | abort now command =>
      refine hnext fun db' hdb => ?_
      simp only [nextEvidence] at hdb
      split at hdb
      · exact artifacts_of_abort hdb
      · cases hdb
  | reserveExpiry now expectedHeadSha => exact hnext fun db' => artifacts_of_reserveExpiry
  | expire now expectedHeadSha idempotencyKey => exact hnext fun db' => artifacts_of_expire
  | snapshot isCurrent pullRequestOpen =>
      change artifacts (db.applySnapshot isCurrent pullRequestOpen) = artifacts db
      unfold Evidence.applySnapshot
      dsimp only
      split <;> rfl
  | advance status =>
      refine hnext fun db' hdb => ?_
      simp only [nextEvidence, Evidence.advance] at hdb
      split at hdb
      · cases hdb
        rfl
      · cases hdb
  | approve now jobId idempotencyKey accelerates =>
      refine hnext fun db' hdb => ?_
      simp only [nextEvidence, approveReview] at hdb
      split at hdb
      · cases hdb
        split
        · exact artifacts_insertTransition
        · exact artifacts_insertTransition
      · cases hdb
  | reserveFrame now id objectKey recordingObjectId timestampMs => cases h
  | repairFrame now id objectKey recordingObjectId => cases h
  | sweep now staleBefore jobId selected => exact artifacts_of_sweep
  | claimDeletion now deletionJobId => exact artifacts_of_claimDeletion
  | completeDeletion now plan => cases h
  | failDeletion now plan errorClass => exact artifacts_of_failDeletion

end Artifacts

end Worker

end UnderstandProof
