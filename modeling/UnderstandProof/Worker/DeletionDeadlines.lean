import UnderstandProof.Worker.AcceleratedDeletion
import UnderstandProof.Worker.AttemptExpiry
import UnderstandProof.Worker.RetentionSafety

/-!
# The deadlines of deletion jobs

The deadline of a deletion job has passed whenever the job exists: a sweep makes a job when the
deadline of what it finds has passed, and a maintainer's approval at once. One lemma for each
transaction says so, with what an attempt that still may expire has to do with it.
-/

open Foundation

namespace UnderstandProof

namespace Worker

open Db
open Domain (AttemptStatus Timestamp allowedAttemptTransitions)

/-! ## Deadlines -/

/-- The job is due, an attempt that still may expire has accepted no evidence and has no job
before it expires, and what it has expires with it. -/
structure Tracked (clock : Timestamp) (db : Evidence) : Prop where
  due : ∀ job, db.deletion = some job → job.deadline ≤ clock
  early : Evidence.isExpirable db.attempt.status = true → db.attempt.evidenceDeleteAfter = none
  expiry : db.deletion ≠ none → Evidence.isExpirable db.attempt.status = true →
    db.attempt.expiresAt ≤ clock
  uploadDeadline : ∀ upload, db.upload = some upload → upload.expiresAt = db.attempt.expiresAt
  materialDeadline : ∀ material ∈ db.materials, material.destroyedAt = none →
    material.usableUntil = db.attempt.expiresAt
  shredded : IsErased db = true → ShreddedEvidence db

section Evidence

variable {db db' : Evidence} {now clock : Timestamp} {event : EvidenceEvent}

theorem Tracked.later (h : Tracked clock db) (hclock : clock ≤ now) : Tracked now db where
  due := fun job hjob => (h.due job hjob).trans hclock
  early := h.early
  expiry := fun hsome hexpirable => (h.expiry hsome hexpirable).trans hclock
  uploadDeadline := h.uploadDeadline
  materialDeadline := h.materialDeadline
  shredded := h.shredded

/-- What a transaction keeps that leaves the recording and the deletion job alone. -/
structure Spared (db db' : Evidence) : Prop where
  attempt : db'.attempt = { db.attempt with status := db'.attempt.status }
  early : Evidence.isExpirable db'.attempt.status = true →
    Evidence.isExpirable db.attempt.status = true
  deletion : db'.deletion = db.deletion
  recording : db'.recording = db.recording
  frames : db'.frames = db.frames
  intervals : db'.intervals = db.intervals
  upload : ∀ upload', db'.upload = some upload' → ∃ upload, db.upload = some upload ∧
    upload' = { upload with state := upload'.state } ∧
    (upload.state = .deleted ∨ upload.state = .failed →
      upload'.state = .deleted ∨ upload'.state = .failed)
  materials : ∀ material' ∈ db'.materials, material'.destroyedAt = none → material' ∈ db.materials

theorem Tracked.spared (h : Tracked clock db) (hsame : Spared db db') : Tracked clock db' where
  due := fun job hjob => h.due job (hsame.deletion ▸ hjob)
  early := by
    intro hexpirable
    rw [hsame.attempt]
    exact h.early (hsame.early hexpirable)
  expiry := by
    intro hsome hexpirable
    rw [hsame.attempt]
    exact h.expiry (hsame.deletion ▸ hsome) (hsame.early hexpirable)
  uploadDeadline := by
    intro upload' hupload'
    obtain ⟨upload, hupload, hstate, -⟩ := hsame.upload upload' hupload'
    rw [hstate, hsame.attempt]
    exact h.uploadDeadline upload hupload
  materialDeadline := by
    intro material hmaterial hlive
    rw [hsame.attempt]
    exact h.materialDeadline material (hsame.materials material hmaterial hlive) hlive
  shredded := by
    intro hcompleted
    have hbefore := h.shredded (by rw [IsErased, ← hsame.deletion]; exact hcompleted)
    exact
      { recording := hsame.recording ▸ hbefore.recording
        frames := hsame.frames ▸ hbefore.frames
        intervals := hsame.intervals ▸ hbefore.intervals
        upload := by
          intro upload' hupload'
          obtain ⟨upload, hupload, hstate, hended⟩ := hsame.upload upload' hupload'
          obtain ⟨hgone, hkey, hdigest, henvelope⟩ := hbefore.upload upload hupload
          refine ⟨hended hgone, ?_⟩
          rw [hstate]
          exact ⟨hkey, hdigest, henvelope⟩
        materials := fun material hmaterial hlive =>
          hbefore.materials material (hsame.materials material hmaterial hlive) hlive }

theorem spared_refl : Spared db db where
  attempt := rfl
  early := id
  deletion := rfl
  recording := rfl
  frames := rfl
  intervals := rfl
  upload := fun upload hupload => ⟨upload, hupload, rfl, id⟩
  materials := fun _ hmaterial _ => hmaterial

theorem Spared.trans {db'' : Evidence} (h : Spared db db') (h' : Spared db' db'') :
    Spared db db'' where
  attempt := by rw [h'.attempt, h.attempt]
  early := h.early ∘ h'.early
  deletion := h'.deletion.trans h.deletion
  recording := h'.recording.trans h.recording
  frames := h'.frames.trans h.frames
  intervals := h'.intervals.trans h.intervals
  upload := by
    intro upload'' hupload''
    obtain ⟨upload', hupload', hstate', hended'⟩ := h'.upload upload'' hupload''
    obtain ⟨upload, hupload, hstate, hended⟩ := h.upload upload' hupload'
    exact ⟨upload, hupload, by rw [hstate', hstate], hended' ∘ hended⟩
  materials := fun material hmaterial hlive =>
    h.materials material (h'.materials material hmaterial hlive) hlive

theorem spared_withStatus {status : AttemptStatus}
    (hearly : Evidence.isExpirable status = true →
      Evidence.isExpirable db.attempt.status = true) : Spared db (db.withStatus status) :=
  { spared_refl with attempt := rfl, early := hearly }

theorem spared_insertTransition {idempotencyKey : JsString} {fromStatus toStatus : AttemptStatus} :
    Spared db (db.insertTransition idempotencyKey fromStatus toStatus) := by
  unfold Evidence.insertTransition
  split
  · exact spared_refl
  · exact { spared_refl with attempt := rfl }

theorem spared_withUploadState {state : UploadState}
    (hended : ∀ upload, db.upload = some upload →
      upload.state = .deleted ∨ upload.state = .failed → state = .deleted ∨ state = .failed) :
    Spared db (db.withUploadState state) :=
  { spared_refl with
    attempt := rfl
    upload := by
      intro upload' hupload'
      obtain ⟨upload, hupload, rfl⟩ := Option.map_eq_some_iff.mp hupload'
      exact ⟨upload, hupload, rfl, hended upload hupload⟩ }

theorem spared_destroyIncompleteEvidence : Spared db (db.destroyIncompleteEvidence now) := by
  have hfailed : Spared db (db.withUploadState .failed) :=
    spared_withUploadState fun _ _ _ => .inr rfl
  refine hfailed.trans { spared_refl with attempt := rfl, materials := ?_ }
  intro material' hmaterial' hlive
  obtain ⟨material, hmaterial, rfl⟩ := List.mem_map.mp hmaterial'
  split at hlive
  · cases hlive
  · next hdestroyed => exact absurd hlive hdestroyed

theorem spared_reserveUpload (h : db.reserveUpload = some db') : Spared db db' := by
  unfold Evidence.reserveUpload at h
  split at h
  · cases h
    exact spared_refl
  · next upload hupload =>
    split at h
    · next hactive =>
      cases h
      refine spared_withUploadState fun other hother hended => ?_
      cases hupload.symm.trans hother
      rw [hactive] at hended
      rcases hended with h | h <;> cases h
    · split at h
      · cases h
        exact spared_refl
      · cases h

/-- The end of an attempt with its incomplete evidence. -/
theorem spared_of_end {idempotencyKey : JsString} {status : AttemptStatus}
    (hended : Evidence.isExpirable status = false) :
    Spared db (((db.insertTransition idempotencyKey db.attempt.status
      status).withStatus status).destroyIncompleteEvidence now) :=
  (spared_insertTransition.trans
    (spared_withStatus fun h => absurd h (by simp [hended]))).trans
    spared_destroyIncompleteEvidence

theorem spared_of_abort {command : Evidence.AbortCommand}
    (h : db.abortAttempt now command = some db') : Spared db db' := by
  unfold Evidence.abortAttempt at h
  split at h
  · cases h
  · split at h
    · cases h
      split
      · exact spared_of_end rfl
      · exact spared_destroyIncompleteEvidence
    · split at h
      · cases h
      · cases h
        exact spared_of_end rfl

theorem spared_of_expire {expectedHeadSha idempotencyKey : JsString}
    (h : db.expireAttempt now expectedHeadSha idempotencyKey = some db') : Spared db db' := by
  unfold Evidence.expireAttempt at h
  split at h
  · cases h
  · split at h
    · cases h
      exact spared_destroyIncompleteEvidence
    · split at h
      · cases h
      · cases h
        exact spared_of_end rfl

theorem spared_of_refuse {uploadSessionId materialId : JsString} :
    Spared db (recordMediaFinalizationFailure now uploadSessionId materialId db) := by
  unfold recordMediaFinalizationFailure
  have hstatus : Spared db
      (if db.attempt.status = .processing then
        (db.insertTransition (js "media-failed:" ++ uploadSessionId) .processing
          .technicalRetry).withStatus .technicalRetry
      else db) := by
    split
    · exact spared_insertTransition.trans (spared_withStatus fun h => by cases h)
    · exact spared_refl
  refine hstatus.trans ?_
  generalize (if db.attempt.status = .processing then
      (db.insertTransition (js "media-failed:" ++ uploadSessionId) .processing
        .technicalRetry).withStatus .technicalRetry
    else db) = failed
  refine { spared_refl with attempt := rfl, upload := ?_, materials := ?_ }
  · intro upload' hupload'
    obtain ⟨upload, hupload, rfl⟩ := Option.map_eq_some_iff.mp hupload'
    refine ⟨upload, hupload, ?_, ?_⟩
    · split <;> rfl
    · split
      · exact fun _ => .inr rfl
      · exact id
  · intro material' hmaterial' hlive
    obtain ⟨material, hmaterial, rfl⟩ := List.mem_map.mp hmaterial'
    split at hlive
    · next hsame =>
      rcases hdestroyed : material.destroyedAt with _ | destroyedAt <;>
        rw [hdestroyed] at hlive <;> cases hlive
    · next hother =>
      rw [if_neg hother]
      exact hmaterial

theorem spared_of_snapshot {isCurrent pullRequestOpen : Bool} :
    Spared db (db.applySnapshot isCurrent pullRequestOpen) := by
  unfold Evidence.applySnapshot
  have hmoved : Spared db { db with isCurrent := isCurrent, pullRequestOpen := pullRequestOpen } :=
    { spared_refl with attempt := rfl }
  dsimp only
  split
  · exact hmoved.trans (spared_withStatus fun h => by cases h)
  · exact hmoved

theorem spared_of_advance {status : AttemptStatus} (h : db.advance status = some db') :
    Spared db db' := by
  unfold Evidence.advance at h
  split at h
  · next hguard =>
    cases h
    obtain ⟨hallowed, -, -⟩ := hguard
    refine spared_withStatus fun hexpirable => ?_
    revert hallowed hexpirable
    cases db.attempt.status <;> cases status <;> decide +revert
  · cases h

/-- While an attempt may expire, a deletion job means that it is due. -/
theorem Tracked.no_deletion (h : Tracked clock db) (hclock : clock ≤ now)
    (hexpirable : Evidence.isExpirable db.attempt.status = true)
    (hbefore : now < db.attempt.expiresAt) : db.deletion = none := by
  by_contra hsome
  exact absurd ((h.expiry hsome hexpirable).trans hclock) (not_le.mpr hbefore)

theorem tracked_of_issueMaterial {id objectId keyId algorithm : JsString} (h : Tracked clock db)
    (hclock : clock ≤ now) (hissue : db.issueMaterial now id objectId keyId algorithm = some db') :
    Tracked clock db' := by
  unfold Evidence.issueMaterial at hissue
  split at hissue
  · next hguard =>
    cases hissue
    obtain ⟨hbefore, hready, -⟩ := hguard
    have hnone := h.no_deletion hclock (by rw [hready]; rfl) hbefore
    exact
      { due := h.due
        early := h.early
        expiry := h.expiry
        uploadDeadline := h.uploadDeadline
        materialDeadline := by
          intro material hmaterial hlive
          rcases List.mem_append.mp hmaterial with hmaterial | hmaterial
          · exact h.materialDeadline material hmaterial hlive
          · rw [List.mem_singleton.mp hmaterial]
        shredded := fun hcompleted => by
          rw [IsErased, hnone] at hcompleted
          cases hcompleted }
  · cases hissue

theorem tracked_of_createUpload {id objectId objectKey providerUploadId : JsString}
    (h : Tracked clock db) (hclock : clock ≤ now)
    (hcreate : db.createUpload now id objectId objectKey providerUploadId = some db') :
    Tracked clock db' := by
  unfold Evidence.createUpload at hcreate
  split at hcreate
  · next hguard =>
    cases hcreate
    obtain ⟨-, hactive, -, hbefore⟩ := hguard
    have hexpirable : Evidence.isExpirable db.attempt.status = true := by rw [hactive]; rfl
    have hnone := h.no_deletion hclock hexpirable hbefore
    have hmoved := h.spared (spared_insertTransition.trans
      (@spared_withStatus (db.insertTransition (js "upload-start:" ++ id) .active .uploading)
        .uploading fun _ => by simpa using hexpirable))
    exact
      { due := hmoved.due
        early := hmoved.early
        expiry := hmoved.expiry
        uploadDeadline := by
          intro upload hupload
          obtain rfl := Option.some_inj.mp hupload
          simp [Evidence.withStatus]
        materialDeadline := hmoved.materialDeadline
        shredded := fun hcompleted => by
          have hsame : (db.insertTransition (js "upload-start:" ++ id) .active
              .uploading).deletion = none := spared_insertTransition.deletion.trans hnone
          rw [IsErased] at hcompleted
          simp only [Evidence.withStatus, hsame] at hcompleted
          cases hcompleted }
  · cases hcreate

theorem tracked_of_finalize {storable replay : Bool} {input : PendingFinalization}
    (h : Tracked clock db)
    (hpersist : persistPendingUploadFinalization now storable input db = .ok (db', replay)) :
    Tracked clock db' := by
  obtain ⟨upload, hupload, -, -, -, -, -, hkept | hwritten⟩ :=
    persistPendingUploadFinalization_eq_ok hpersist
  · obtain ⟨-, hsame, -⟩ := hkept
    exact hsame ▸ h
  · obtain ⟨-, hactive, -, -, -, -, hsame⟩ := hwritten
    have hinserted : Spared db
        (db.insertTransition input.idempotencyKey .uploading .processing) :=
      spared_insertTransition
    have hkept := h.spared hinserted
    subst hsame
    exact
      { due := hkept.due
        early := fun hexpirable => by cases hexpirable
        expiry := fun _ hexpirable => nomatch hexpirable
        uploadDeadline := by
          intro other hother
          obtain rfl := Option.some_inj.mp hother
          exact h.uploadDeadline upload hupload
        materialDeadline := by
          intro material hmaterial hlive
          have hdeadline := hkept.materialDeadline material hmaterial hlive
          rwa [insertTransition_attempt] at hdeadline
        shredded := by
          intro hcompleted
          obtain ⟨hgone, -⟩ := (hkept.shredded hcompleted).upload upload
            (insertTransition_upload.trans hupload)
          rw [hactive] at hgone
          rcases hgone with hgone | hgone <;> cases hgone }

theorem tracked_of_validate {input : ValidatedRecording} (h : Tracked clock db)
    (hvalidate : persistValidatedRecording now input db = some db') : Tracked clock db' := by
  unfold persistValidatedRecording at hvalidate
  split at hvalidate
  · next upload deleteAfter hupload haccepted =>
    split at hvalidate
    · next hguard =>
      simp only [isRecordingAuthorized, decide_eq_true_eq] at hguard
      have hstate := hguard.2.2.2.2.2.2.2.2.1
      have hopen : ¬ (upload.state = .deleted ∨ upload.state = .failed) := by
        rcases hstate with hstate | hstate <;> rw [hstate] <;> simp
      have hcompleted : Spared db (db.withUploadState .completed) := by
        refine spared_withUploadState fun other hother hended => ?_
        cases hupload.symm.trans hother
        exact absurd hended hopen
      have hkept := h.spared hcompleted
      split at hvalidate
      · cases hvalidate
        exact
          { due := hkept.due
            early := hkept.early
            expiry := hkept.expiry
            uploadDeadline := hkept.uploadDeadline
            materialDeadline := hkept.materialDeadline
            shredded := fun hdone => absurd ((h.shredded hdone).upload upload hupload).1 hopen }
      · split at hvalidate
        · cases hvalidate
          exact hkept
        · cases hvalidate
    · cases hvalidate
  · cases hvalidate

/-- A recording that is not deleted has seen no completed deletion. -/
theorem Tracked.open_of_recording (h : Tracked clock db) {recording : RecordingObject}
    (hrecording : db.recording = some recording) (hlive : recording.deletedAt = none) :
    IsErased db = false := by
  by_contra hcompleted
  exact (h.shredded (Bool.not_eq_false _ ▸ hcompleted)).recording recording hrecording hlive

theorem Tracked.withFrames (h : Tracked clock db) {frames : List FrameSelection}
    (hopen : IsErased db = false) : Tracked clock { db with frames := frames } where
  due := h.due
  early := h.early
  expiry := h.expiry
  uploadDeadline := h.uploadDeadline
  materialDeadline := h.materialDeadline
  shredded := fun hcompleted => absurd (hopen.symm.trans hcompleted) (by simp)

/-- A change of the deletion job that does not complete it. -/
theorem Tracked.withDeletion (h : Tracked clock db) {deletion : Option DeletionJob}
    {audits : List DeletionAudit} (hdue : ∀ job, deletion = some job → job.deadline ≤ clock)
    (hexpiry : deletion ≠ none → Evidence.isExpirable db.attempt.status = true →
      db.attempt.expiresAt ≤ clock)
    (hcompleted : (deletion.any fun job => job.state = .completed) = true →
      IsErased db = true) :
    Tracked clock { db with deletion := deletion, audits := audits } where
  due := hdue
  early := h.early
  expiry := hexpiry
  uploadDeadline := h.uploadDeadline
  materialDeadline := h.materialDeadline
  shredded := fun hdone =>
    let hbefore := h.shredded (hcompleted hdone)
    { recording := hbefore.recording
      frames := hbefore.frames
      intervals := hbefore.intervals
      upload := hbefore.upload
      materials := hbefore.materials }

/-- Evidence that was never accepted falls due when its attempt expires. -/
theorem Tracked.deadline (h : Tracked clock db) {deadline : Timestamp}
    (hdue : dueDeadline now db = some deadline) :
    deadline ≤ now ∧ (Evidence.isExpirable db.attempt.status = true →
      db.attempt.expiresAt = deadline) := by
  obtain ⟨hmax, hpast⟩ := Option.filter_eq_some_iff.mp hdue
  rw [decide_eq_true_eq] at hpast
  refine ⟨hpast, ?_⟩
  intro hexpirable
  rw [evidenceDeadlines, h.early hexpirable] at hmax
  rcases List.mem_append.mp (List.max?_mem hmax) with hmem | hmem
  · obtain ⟨upload, hupload, rfl⟩ := List.mem_map.mp hmem
    exact (h.uploadDeadline upload
      (Option.mem_toList.mp (List.mem_filter.mp hupload).1)).symm
  · obtain ⟨material, hmaterial, rfl⟩ := List.mem_map.mp hmem
    obtain ⟨hmaterial, hlive⟩ := List.mem_filter.mp hmaterial
    exact (h.materialDeadline material hmaterial (by simpa using hlive)).symm

/-- The sweep never puts a deadline that has passed back into the future. -/
theorem Tracked.sweep (h : Tracked clock db) (hclock : clock ≤ now) {staleBefore : Timestamp}
    {jobId : JsString} {selected : Bool} :
    Tracked now (enqueueDueDeletions now staleBefore jobId selected db) := by
  have hlater := h.later hclock
  have hupsert : Tracked now (upsertDueDeletion now jobId db) := by
    unfold upsertDueDeletion
    split
    · exact hlater
    · next deadline hdue =>
      obtain ⟨hpast, hexpires⟩ := hlater.deadline hdue
      refine hlater.withDeletion ?_ (fun _ hexpirable => (hexpires hexpirable).le.trans hpast) ?_
      · intro job' hjob'
        obtain rfl := Option.some_inj.mp hjob'
        split
        · exact hpast
        · next job hjob => exact max_le (hlater.due job hjob) hpast
      · intro hcompleted
        cases hjob : db.deletion with
        | none =>
            rw [hjob] at hcompleted
            cases hcompleted
        | some job =>
            rw [hjob] at hcompleted
            rw [IsErased, hjob]
            exact hcompleted
  refine hupsert.withDeletion ?_ (fun hsome => hupsert.expiry fun hnone => hsome (by rw [hnone]; rfl)) ?_
  · intro job' hjob'
    obtain ⟨job, hjob, rfl⟩ := Option.map_eq_some_iff.mp hjob'
    split
    · exact hupsert.due job hjob
    · exact hupsert.due job hjob
  · intro hcompleted
    obtain ⟨job', hjob', hstate⟩ := Option.any_eq_true _ _ |>.mp hcompleted
    obtain ⟨job, hjob, rfl⟩ := Option.map_eq_some_iff.mp hjob'
    rw [IsErased, hjob]
    split at hstate
    · cases hstate
    · exact hstate

theorem tracked_of_claimDeletion {deletionJobId : JsString} (h : Tracked clock db) :
    Tracked clock (claimDeletion now deletionJobId db).1 := by
  unfold claimDeletion
  split
  · exact h
  · next job hjob =>
    obtain ⟨hdeletion, -⟩ := Option.filter_eq_some_iff.mp hjob
    have hexpiry := h.expiry (by rw [hdeletion]; exact Option.some_ne_none _)
    split
    · exact h
    · split
      · exact h.withDeletion (fun job' hjob' => by
          obtain rfl := Option.some_inj.mp hjob'
          exact h.due job hdeletion) (fun _ => hexpiry) fun hcompleted => by cases hcompleted
      · exact h.withDeletion (fun job' hjob' => by
          obtain rfl := Option.some_inj.mp hjob'
          exact h.due job hdeletion) (fun _ => hexpiry) fun hcompleted => by cases hcompleted

theorem tracked_of_failDeletion {plan : EvidenceDeletionPlan} {errorClass : JsString}
    (h : Tracked clock db) : Tracked clock (failDeletion now plan errorClass db) := by
  unfold failDeletion
  split
  · exact h
  · next job hjob =>
    obtain ⟨hdeletion, -⟩ := Option.filter_eq_some_iff.mp hjob
    split
    · exact h
    · exact h.withDeletion (fun job' hjob' => by
        obtain rfl := Option.some_inj.mp hjob'
        exact h.due job hdeletion)
        (fun _ => h.expiry (by rw [hdeletion]; exact Option.some_ne_none _))
        fun hcompleted => by cases hcompleted

theorem tracked_of_approve {jobId idempotencyKey : JsString} {accelerates : Bool}
    (h : Tracked now db)
    (happrove : approveReview now jobId idempotencyKey accelerates db = some db') :
    Tracked now db' := by
  unfold approveReview at happrove
  split at happrove
  · next hguard =>
    cases happrove
    have hpassed : Spared db
        ((db.insertTransition idempotencyKey .reviewRequired .passed).withStatus .passed) :=
      spared_insertTransition.trans (spared_withStatus fun hexpirable => by cases hexpirable)
    split
    · refine (h.spared hpassed).withDeletion ?_ (fun _ hexpirable => by cases hexpirable) ?_
      · intro job' hjob'
        obtain rfl := Option.some_inj.mp hjob'
        split
        · exact le_rfl
        · exact min_le_right _ _
      · intro hcompleted
        unfold IsErased
        revert hcompleted
        cases ((db.insertTransition idempotencyKey .reviewRequired .passed).withStatus
            .passed).deletion with
        | none => intro hcompleted; cases hcompleted
        | some job =>
            simp only [Option.any_some]
            split
            · next hstate => exact fun _ => decide_eq_true hstate
            · exact fun hcompleted => by cases hcompleted
    · exact h.spared hpassed
  · cases happrove

theorem tracked_of_reserveFrame {id objectKey recordingObjectId : JsString} {timestampMs : ℕ}
    (h : Tracked clock db)
    (hreserve : reserveFrameObject now id objectKey recordingObjectId timestampMs db = some db') :
    Tracked clock db' := by
  unfold reserveFrameObject at hreserve
  split at hreserve
  · cases hreserve
  · next recording hrecording =>
    split at hreserve
    · next hguard =>
      cases hreserve
      exact h.withFrames (h.open_of_recording hrecording hguard.2.2.2.1)
    · cases hreserve

theorem tracked_of_repairFrame {id objectKey recordingObjectId : JsString} (h : Tracked clock db)
    (hrepair : repairFrame now id objectKey recordingObjectId db = some db') :
    Tracked clock db' := by
  unfold repairFrame at hrepair
  split at hrepair
  · cases hrepair
  · next recording hrecording =>
    split at hrepair
    · next hguard =>
      cases hrepair
      exact h.withFrames (h.open_of_recording hrecording hguard.2.2.2.1)
    · cases hrepair

/-- Every transaction but the completion of a deletion keeps the deadlines tracked. -/
theorem Tracked.next (h : Tracked clock db)
    (hclock : (clockReading event).all (fun now => clock ≤ now) = true)
    (hcomplete : ∀ now plan, event ≠ .completeDeletion now plan)
    (hnext : nextEvidence db event = some db') :
    Tracked ((clockReading event).getD clock) db' := by
  have hlater : Tracked ((clockReading event).getD clock) db := by
    refine h.later ?_
    cases hreading : clockReading event with
    | none => exact le_rfl
    | some now =>
        rw [hreading] at hclock
        exact of_decide_eq_true hclock
  cases event with
  | issueMaterial now id objectId keyId algorithm => exact tracked_of_issueMaterial hlater le_rfl hnext
  | createUpload now id objectId objectKey providerUploadId =>
      exact tracked_of_createUpload hlater le_rfl hnext
  | finalize now storable input =>
      simp only [nextEvidence] at hnext
      cases hpersist : persistPendingUploadFinalization now storable input db with
      | error error =>
          rw [hpersist] at hnext
          cases hnext
      | ok written =>
          rw [hpersist] at hnext
          cases hnext
          exact tracked_of_finalize hlater hpersist
  | validate now input => exact tracked_of_validate hlater hnext
  | refuse now uploadSessionId materialId =>
      cases hnext
      exact hlater.spared spared_of_refuse
  | reserveAbort command =>
      simp only [nextEvidence, Evidence.reserveTechnicalAbort] at hnext
      split at hnext
      · exact hlater.spared (spared_reserveUpload hnext)
      · cases hnext
  | abort now command =>
      simp only [nextEvidence] at hnext
      split at hnext
      · exact hlater.spared (spared_of_abort hnext)
      · cases hnext
  | reserveExpiry now expectedHeadSha =>
      simp only [nextEvidence, Evidence.reserveExpiry] at hnext
      split at hnext
      · cases hnext
      · split at hnext
        · exact hlater.spared (spared_reserveUpload hnext)
        · split at hnext
          · cases hnext
          · exact hlater.spared (spared_reserveUpload hnext)
  | expire now expectedHeadSha idempotencyKey => exact hlater.spared (spared_of_expire hnext)
  | snapshot isCurrent pullRequestOpen =>
      cases hnext
      exact hlater.spared spared_of_snapshot
  | advance status => exact hlater.spared (spared_of_advance hnext)
  | approve now jobId idempotencyKey accelerates => exact tracked_of_approve hlater hnext
  | reserveFrame now id objectKey recordingObjectId timestampMs =>
      exact tracked_of_reserveFrame hlater hnext
  | repairFrame now id objectKey recordingObjectId => exact tracked_of_repairFrame hlater hnext
  | sweep now staleBefore jobId selected =>
      cases hnext
      exact hlater.sweep le_rfl
  | claimDeletion now deletionJobId =>
      cases hnext
      exact tracked_of_claimDeletion hlater
  | completeDeletion now plan => exact absurd rfl (hcomplete now plan)
  | failDeletion now plan errorClass =>
      cases hnext
      exact tracked_of_failDeletion hlater

end Evidence

end Worker

end UnderstandProof
