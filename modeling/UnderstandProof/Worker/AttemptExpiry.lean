import UnderstandProof.Worker.EvidenceEvents

/-!
# The expiry of an attempt

A run of `expireAttempt` is two transactions with the storage in between: the first one takes the
upload for itself, the second one ends the attempt. An attempt that is due expires, unless a
deletion has erased its upload first, which falls due at the same time.
-/

open Foundation

namespace UnderstandProof

namespace Worker

open Db
open Domain (AttemptStatus Timestamp allowedAttemptTransitions)

inductive ExpiryOutcome where
  | expired
  | replayed
  | stale
  deriving DecidableEq, Repr

/-- `reserveExpiry`; the run goes on when it has no outcome. -/
def expiryReservation (now : Timestamp) (expectedHeadSha : JsString) (db : Evidence) :
    Evidence × Option ExpiryOutcome :=
  if db.attempt.headSha ≠ expectedHeadSha then (db, some .stale)
  else if db.attempt.status = .expired then (db, some .replayed)
  else if db.attempt.status = .invalidated ∨ db.isCurrent = false then
    (db.reserveUpload.getD db, none)
  else if Evidence.isExpirable db.attempt.status = false ∨ now < db.attempt.expiresAt then
    (db, some .stale)
  else
    match db.reserveUpload with
    | none => (db, some .stale)
    | some reserved => (reserved, none)

/-- The second transaction of `expireAttempt`. -/
def expiryCompletion (now : Timestamp) (expectedHeadSha idempotencyKey : JsString)
    (db : Evidence) : Evidence × ExpiryOutcome :=
  if db.attempt.headSha ≠ expectedHeadSha then (db, .stale)
  else if db.attempt.status = .expired then (db, .replayed)
  else if db.attempt.status = .invalidated ∨ db.isCurrent = false then
    (db.destroyIncompleteEvidence now, .stale)
  else if Evidence.isExpirable db.attempt.status = false ∨ now < db.attempt.expiresAt then
    (db, .stale)
  else
    (((db.insertTransition idempotencyKey db.attempt.status .expired).withStatus
      .expired).destroyIncompleteEvidence now, .expired)

/-- `expireAttempt` with a storage that aborts the upload; `between` are the transactions of
others that come between the two of the run. -/
def expireAttempt (now : Timestamp) (expectedHeadSha idempotencyKey : JsString)
    (between : List EvidenceEvent) (db : Evidence) : Evidence × ExpiryOutcome :=
  match expiryReservation now expectedHeadSha db with
  | (stopped, some outcome) => (stopped, outcome)
  | (reserved, none) =>
      expiryCompletion now expectedHeadSha idempotencyKey (after stepEvidence reserved between)

section Transactions

variable {db db' : Evidence} {now : Timestamp} {expectedHeadSha idempotencyKey : JsString}

/-- The two transactions of a run are the two events of the expiry. -/
theorem expiryReservation_fst : (expiryReservation now expectedHeadSha db).1 =
    stepEvidence db (.reserveExpiry now expectedHeadSha) := by
  unfold expiryReservation stepEvidence nextEvidence Evidence.reserveExpiry
  dsimp only
  by_cases hhead : db.attempt.headSha = expectedHeadSha
  · by_cases hexpired : db.attempt.status = .expired
    · rw [if_neg (not_not.mpr hhead), if_pos hexpired, if_pos (.inr hexpired)]
      rfl
    · rw [if_neg (not_not.mpr hhead), if_neg hexpired,
        if_neg (not_or.mpr ⟨not_not.mpr hhead, hexpired⟩)]
      split
      · rfl
      · split
        · rfl
        · cases db.reserveUpload <;> rfl
  · rw [if_pos hhead, if_pos (.inl hhead)]
    rfl

theorem expiryCompletion_fst : (expiryCompletion now expectedHeadSha idempotencyKey db).1 =
    stepEvidence db (.expire now expectedHeadSha idempotencyKey) := by
  unfold expiryCompletion stepEvidence nextEvidence Evidence.expireAttempt
  dsimp only
  by_cases hhead : db.attempt.headSha = expectedHeadSha
  · by_cases hexpired : db.attempt.status = .expired
    · rw [if_neg (not_not.mpr hhead), if_pos hexpired, if_pos (.inr hexpired)]
      rfl
    · rw [if_neg (not_not.mpr hhead), if_neg hexpired,
        if_neg (not_or.mpr ⟨not_not.mpr hhead, hexpired⟩)]
      split
      · rfl
      · split <;> rfl
  · rw [if_pos hhead, if_pos (.inl hhead)]
    rfl

end Transactions

/-! ## The law of expiry -/

/-- The upload takes parts, or is being aborted. -/
def isIncomplete (state : UploadState) : Bool :=
  state = .active ∨ state = .aborting

def hasCompletedUpload (db : Evidence) : Bool :=
  db.upload.any fun upload => upload.state = .completed

/-- The plan is that of the attempt's open deletion job. -/
def isErasedBy (plan : EvidenceDeletionPlan) (db : Evidence) : Bool :=
  (db.deletion.any fun job => job.id = plan.deletionJobId ∧ job.state ≠ .completed) = true ∧
    db.attempt.id = plan.attemptId

/-- The media worker refuses an upload after its finalization was accepted. -/
def RefusesAccepted (db : Evidence) : EvidenceEvent → Prop
  | .refuse .. => db.attempt.evidenceDeleteAfter ≠ none
  | _ => True

/-- No deletion erases the upload of an attempt that is uploading, and no expiry cleans up after
an attempt that has ended with its revision and has a completed upload. -/
def SparesUpload (db : Evidence) : EvidenceEvent → Prop
  | .completeDeletion _ plan => db.attempt.status = .uploading → isErasedBy plan db = false
  | .expire .. =>
      db.attempt.status = .invalidated ∨ db.isCurrent = false → hasCompletedUpload db = false
  | _ => True

/-- The two transactions of an expiry. -/
def isExpiry : EvidenceEvent → Bool
  | .reserveExpiry .. => true
  | .expire .. => true
  | _ => false

/-- What holds after a history: an attempt that is due expires, also when others write between
the two transactions of the run and leave it due, and no expiry has touched the upload or the
materials of a completed upload. -/
structure NeverStranded (start : Evidence) (events : List EvidenceEvent) : Prop where
  expires : ∀ now idempotencyKey between,
    Evidence.isExpirable (after stepEvidence start events).attempt.status = true →
    (after stepEvidence start events).attempt.expiresAt ≤ now →
    Evidence.isExpirable (after stepEvidence start
      (events ++ .reserveExpiry now start.attempt.headSha :: between)).attempt.status = true →
    (after stepEvidence start
      (events ++ .reserveExpiry now start.attempt.headSha :: between)).isCurrent = true →
    (expireAttempt now start.attempt.headSha idempotencyKey between
      (after stepEvidence start events)).2 = .expired ∧
    (expireAttempt now start.attempt.headSha idempotencyKey between
      (after stepEvidence start events)).1.attempt.status = .expired
  spares : ∀ front event rest, events = front ++ event :: rest → isExpiry event = true →
    hasCompletedUpload (after stepEvidence start front) = true →
    (after stepEvidence start (front ++ [event])).upload =
      (after stepEvidence start front).upload ∧
    (after stepEvidence start (front ++ [event])).materials =
      (after stepEvidence start front).materials

/-! ## What every event leaves of the attempt -/

/-- What an attempt that may expire looks like. -/
structure Expirable (db : Evidence) : Prop where
  current : Evidence.isExpirable db.attempt.status = true → db.isCurrent = true
  upload : Evidence.isExpirable db.attempt.status = true →
    ∀ upload, db.upload = some upload → isIncomplete upload.state = true
  early : Evidence.isExpirable db.attempt.status = true → db.attempt.status ≠ .uploading →
    db.upload = none
  accepted : Evidence.isExpirable db.attempt.status = true →
    db.attempt.evidenceDeleteAfter = none

section Steps

variable {db db' : Evidence} {now : Timestamp}

theorem expirable_of_ended (h : Evidence.isExpirable db.attempt.status = false) :
    Expirable db := by
  constructor <;> intro hexpirable <;> rw [h] at hexpirable <;> cases hexpirable

theorem Expirable.of_same (h : Expirable db) (hattempt : db'.attempt = db.attempt)
    (hcurrent : db'.isCurrent = db.isCurrent) (hupload : db'.upload = db.upload) :
    Expirable db' where
  current := fun hexpirable => hcurrent ▸ h.current (hattempt ▸ hexpirable)
  upload := fun hexpirable => hupload ▸ h.upload (hattempt ▸ hexpirable)
  early := fun hexpirable hne => hupload ▸ h.early (hattempt ▸ hexpirable) (hattempt ▸ hne)
  accepted := fun hexpirable => hattempt ▸ h.accepted (hattempt ▸ hexpirable)

@[simp] theorem insertTransition_attempt {idempotencyKey : JsString}
    {fromStatus toStatus : AttemptStatus} :
    (db.insertTransition idempotencyKey fromStatus toStatus).attempt = db.attempt := by
  unfold Evidence.insertTransition
  split <;> rfl

@[simp] theorem insertTransition_isCurrent {idempotencyKey : JsString}
    {fromStatus toStatus : AttemptStatus} :
    (db.insertTransition idempotencyKey fromStatus toStatus).isCurrent = db.isCurrent := by
  unfold Evidence.insertTransition
  split <;> rfl

@[simp] theorem insertTransition_upload {idempotencyKey : JsString}
    {fromStatus toStatus : AttemptStatus} :
    (db.insertTransition idempotencyKey fromStatus toStatus).upload = db.upload := by
  unfold Evidence.insertTransition
  split <;> rfl

theorem destroyIncompleteEvidence_status :
    (db.destroyIncompleteEvidence now).attempt = db.attempt := rfl

/-- A reservation leaves the attempt and an upload that is being aborted. -/
theorem reserveUpload_eq_some (h : db.reserveUpload = some db') :
    db'.attempt = db.attempt ∧ db'.isCurrent = db.isCurrent ∧ db'.materials = db.materials ∧
      ((db.upload = none ∧ db'.upload = none) ∨
        ∃ upload, db.upload = some upload ∧ isIncomplete upload.state = true ∧
          db'.upload = some { upload with state := .aborting }) := by
  unfold Evidence.reserveUpload at h
  split at h
  · next hnone =>
    cases h
    exact ⟨rfl, rfl, rfl, .inl ⟨hnone, hnone⟩⟩
  · next upload hupload =>
    split at h
    · next hactive =>
      cases h
      exact ⟨rfl, rfl, rfl, .inr ⟨upload, hupload, by simp [isIncomplete, hactive],
        by simp [Evidence.withUploadState, hupload]⟩⟩
    · split at h
      · next haborting =>
        cases h
        refine ⟨rfl, rfl, rfl, .inr ⟨upload, hupload, by simp [isIncomplete, haborting], ?_⟩⟩
        rw [hupload, ← haborting]
      · cases h

theorem Expirable.reserveUpload (h : Expirable db) (hreserve : db.reserveUpload = some db') :
    Expirable db' := by
  obtain ⟨hattempt, hcurrent, -, hupload⟩ := reserveUpload_eq_some hreserve
  rcases hupload with ⟨hbefore, hafter⟩ | ⟨upload, hbefore, -, hafter⟩
  · exact h.of_same hattempt hcurrent (hafter.trans hbefore.symm)
  · refine ⟨fun hexpirable => hcurrent ▸ h.current (hattempt ▸ hexpirable), fun _ => ?_, ?_,
      fun hexpirable => hattempt ▸ h.accepted (hattempt ▸ hexpirable)⟩
    · intro other hother
      rw [hafter, Option.some_inj] at hother
      exact hother ▸ rfl
    · intro hexpirable hne
      rw [h.early (hattempt ▸ hexpirable) (hattempt ▸ hne)] at hbefore
      cases hbefore

/-- A deletion that does not erase an upload of an uploading attempt. -/
theorem Expirable.completeDeletion (h : Expirable db) {plan : EvidenceDeletionPlan}
    (hspares : db.attempt.status = .uploading → isErasedBy plan db = false) :
    Expirable (completeDeletion now plan db) := by
  unfold Worker.completeDeletion
  split
  · exact h
  · next job hjob =>
    obtain ⟨hdeletion, hid⟩ := Option.filter_eq_some_iff.mp hjob
    split
    · exact h
    · next hopen =>
      obtain ⟨hstate, hattempt⟩ := not_or.mp hopen
      have herased : isErasedBy plan db = true := by
        simpa [isErasedBy, hdeletion, hstate, not_not.mp hattempt] using hid
      refine ⟨h.current, fun hexpirable => ?_, fun hexpirable hne => ?_, h.accepted⟩
      · have hne : db.attempt.status ≠ .uploading := fun hstatus => by
          rw [hspares hstatus] at herased
          cases herased
        intro upload hupload
        rw [show (erase now db).upload = db.upload.map eraseUpload from rfl,
          h.early hexpirable hne] at hupload
        cases hupload
      · rw [show (erase now db).upload = db.upload.map eraseUpload from rfl,
          h.early hexpirable hne]
        rfl

theorem Expirable.expire (h : Expirable db) {expectedHeadSha idempotencyKey : JsString}
    (hexpire : db.expireAttempt now expectedHeadSha idempotencyKey = some db') :
    Expirable db' := by
  unfold Evidence.expireAttempt at hexpire
  split at hexpire
  · cases hexpire
  · split at hexpire
    · next hended =>
      cases hexpire
      refine expirable_of_ended ?_
      rw [destroyIncompleteEvidence_status]
      rcases hended with hstatus | hcurrent
      · rw [hstatus]
        rfl
      · by_contra hexpirable
        rw [h.current (Bool.not_eq_false _ ▸ hexpirable)] at hcurrent
        cases hcurrent
    · split at hexpire
      · cases hexpire
      · cases hexpire
        exact expirable_of_ended rfl

theorem expirable_of_abort {command : Evidence.AbortCommand}
    (habort : db.abortAttempt now command = some db') : Expirable db' := by
  unfold Evidence.abortAttempt at habort
  split at habort
  · cases habort
  · split at habort
    · cases habort
      refine expirable_of_ended ?_
      rw [destroyIncompleteEvidence_status]
      split
      · rfl
      · next hended => exact Bool.not_eq_true _ ▸ hended
    · split at habort
      · cases habort
      · cases habort
        exact expirable_of_ended rfl

theorem Expirable.snapshot (h : Expirable db) (isCurrent pullRequestOpen : Bool) :
    Expirable (db.applySnapshot isCurrent pullRequestOpen) := by
  unfold Evidence.applySnapshot
  dsimp only
  split
  · exact expirable_of_ended rfl
  · next hkept =>
    have hcurrent (hexpirable : Evidence.isExpirable db.attempt.status = true) :
        isCurrent = true := by
      have hlive : Evidence.isLive db.attempt.status = true := by
        revert hexpirable
        cases db.attempt.status <;> decide
      by_contra hnot
      exact hkept ⟨.inl (Bool.not_eq_true _ ▸ hnot), hlive⟩
    exact ⟨hcurrent, h.upload, h.early, h.accepted⟩

/-- An attempt that is still to expire has not come to its upload by other transactions. -/
theorem Expirable.advance (h : Expirable db) {status : AttemptStatus}
    (hadvance : db.advance status = some db') : Expirable db' := by
  unfold Evidence.advance at hadvance
  split at hadvance
  · next hguard =>
    cases hadvance
    obtain ⟨hallowed, huploading, hprocessing⟩ := hguard
    have hbefore (hexpirable : Evidence.isExpirable status = true) :
        Evidence.isExpirable db.attempt.status = true ∧ db.attempt.status ≠ .uploading := by
      revert hallowed hexpirable
      cases db.attempt.status <;> cases status <;> decide +revert
    have hupload (hexpirable : Evidence.isExpirable status = true) : db.upload = none :=
      h.early (hbefore hexpirable).1 (hbefore hexpirable).2
    refine ⟨fun hexpirable => h.current (hbefore hexpirable).1, fun hexpirable upload hsome => ?_,
      fun hexpirable _ => hupload hexpirable, fun hexpirable => h.accepted (hbefore hexpirable).1⟩
    exact absurd ((hupload hexpirable).symm.trans hsome) (by simp)
  · cases hadvance

theorem Expirable.createUpload (h : Expirable db)
    {id objectId objectKey providerUploadId : JsString}
    (hcreate : db.createUpload now id objectId objectKey providerUploadId = some db') :
    Expirable db' := by
  unfold Evidence.createUpload at hcreate
  split at hcreate
  · next hguard =>
    cases hcreate
    obtain ⟨-, hactive, hcurrent, -⟩ := hguard
    have hexpirable : Evidence.isExpirable db.attempt.status = true := hactive ▸ rfl
    refine ⟨fun _ => ?_, fun _ upload hupload => ?_, fun _ hne => absurd rfl hne, fun _ => ?_⟩
    · simpa [Evidence.withStatus] using hcurrent
    · exact Option.some_inj.mp hupload ▸ rfl
    · simpa [Evidence.withStatus] using h.accepted hexpirable
  · cases hcreate

theorem expirable_of_refuse {uploadSessionId materialId : JsString} (h : Expirable db)
    (haccepted : db.attempt.evidenceDeleteAfter ≠ none) :
    Expirable (recordMediaFinalizationFailure now uploadSessionId materialId db) := by
  refine expirable_of_ended ?_
  unfold recordMediaFinalizationFailure
  dsimp only
  split
  · rfl
  · by_contra hexpirable
    exact haccepted (h.accepted (Bool.not_eq_false _ ▸ hexpirable))

theorem sweep_same {staleBefore : Timestamp} {jobId : JsString} {selected : Bool} :
    (enqueueDueDeletions now staleBefore jobId selected db).attempt = db.attempt ∧
      (enqueueDueDeletions now staleBefore jobId selected db).isCurrent = db.isCurrent ∧
      (enqueueDueDeletions now staleBefore jobId selected db).upload = db.upload := by
  unfold enqueueDueDeletions upsertDueDeletion
  dsimp only
  split <;> exact ⟨rfl, rfl, rfl⟩

theorem claimDeletion_same {deletionJobId : JsString} :
    (claimDeletion now deletionJobId db).1.attempt = db.attempt ∧
      (claimDeletion now deletionJobId db).1.isCurrent = db.isCurrent ∧
      (claimDeletion now deletionJobId db).1.upload = db.upload := by
  unfold claimDeletion
  split
  · exact ⟨rfl, rfl, rfl⟩
  · split
    · exact ⟨rfl, rfl, rfl⟩
    · split <;> exact ⟨rfl, rfl, rfl⟩

theorem failDeletion_same {plan : EvidenceDeletionPlan} {errorClass : JsString} :
    (failDeletion now plan errorClass db).attempt = db.attempt ∧
      (failDeletion now plan errorClass db).isCurrent = db.isCurrent ∧
      (failDeletion now plan errorClass db).upload = db.upload := by
  unfold failDeletion
  split
  · exact ⟨rfl, rfl, rfl⟩
  · split <;> exact ⟨rfl, rfl, rfl⟩

/-- One case for each event. -/
theorem Expirable.next (h : Expirable db) {event : EvidenceEvent}
    (haccepted : RefusesAccepted db event) (hspares : SparesUpload db event)
    (hnext : nextEvidence db event = some db') : Expirable db' := by
  cases event with
  | issueMaterial now id objectId keyId algorithm =>
      simp only [nextEvidence, Evidence.issueMaterial] at hnext
      split at hnext
      · cases hnext
        exact h.of_same rfl rfl rfl
      · cases hnext
  | createUpload now id objectId objectKey providerUploadId => exact h.createUpload hnext
  | finalize now storable input =>
      simp only [nextEvidence] at hnext
      cases hpersist : persistPendingUploadFinalization now storable input db with
      | error error =>
          rw [hpersist] at hnext
          cases hnext
      | ok written =>
          rw [hpersist] at hnext
          cases hnext
          obtain ⟨upload, -, -, -, -, -, -, hkept | hwritten⟩ :=
            persistPendingUploadFinalization_eq_ok hpersist
          · obtain ⟨-, hsame, -⟩ := hkept
            exact hsame ▸ h
          · obtain ⟨-, -, -, -, -, -, hsame⟩ := hwritten
            exact expirable_of_ended (hsame ▸ rfl)
  | validate now input =>
      simp only [nextEvidence, persistValidatedRecording] at hnext
      split at hnext
      · split at hnext
        · next hguard =>
          simp only [isRecordingAuthorized, decide_eq_true_eq] at hguard
          have hstatus := hguard.2.2.2.2.1
          refine expirable_of_ended ?_
          split at hnext
          · cases hnext
            rw [show (db.withUploadState .completed).attempt = db.attempt from rfl, hstatus]
            rfl
          · split at hnext
            · cases hnext
              rw [show (db.withUploadState .completed).attempt = db.attempt from rfl, hstatus]
              rfl
            · cases hnext
        · cases hnext
      · cases hnext
  | refuse now uploadSessionId materialId =>
      cases hnext
      exact expirable_of_refuse h haccepted
  | reserveAbort command =>
      simp only [nextEvidence, Evidence.reserveTechnicalAbort] at hnext
      split at hnext
      · exact h.reserveUpload hnext
      · cases hnext
  | abort now command =>
      simp only [nextEvidence] at hnext
      split at hnext
      · exact expirable_of_abort hnext
      · cases hnext
  | reserveExpiry now expectedHeadSha =>
      simp only [nextEvidence, Evidence.reserveExpiry] at hnext
      split at hnext
      · cases hnext
      · split at hnext
        · exact h.reserveUpload hnext
        · split at hnext
          · cases hnext
          · exact h.reserveUpload hnext
  | expire now expectedHeadSha idempotencyKey => exact h.expire hnext
  | snapshot isCurrent pullRequestOpen =>
      cases hnext
      exact h.snapshot isCurrent pullRequestOpen
  | advance status => exact h.advance hnext
  | approve now jobId idempotencyKey accelerates =>
      simp only [nextEvidence, approveReview] at hnext
      split at hnext
      · cases hnext
        refine expirable_of_ended ?_
        split <;> rfl
      · cases hnext
  | reserveFrame now id objectKey recordingObjectId timestampMs =>
      simp only [nextEvidence, reserveFrameObject] at hnext
      split at hnext
      · cases hnext
      · split at hnext
        · cases hnext
          exact h.of_same rfl rfl rfl
        · cases hnext
  | repairFrame now id objectKey recordingObjectId =>
      simp only [nextEvidence, repairFrame] at hnext
      split at hnext
      · cases hnext
      · split at hnext
        · cases hnext
          exact h.of_same rfl rfl rfl
        · cases hnext
  | sweep now staleBefore jobId selected =>
      cases hnext
      obtain ⟨hattempt, hcurrent, hupload⟩ := @sweep_same db now staleBefore jobId selected
      exact h.of_same hattempt hcurrent hupload
  | claimDeletion now deletionJobId =>
      cases hnext
      obtain ⟨hattempt, hcurrent, hupload⟩ := @claimDeletion_same db now deletionJobId
      exact h.of_same hattempt hcurrent hupload
  | completeDeletion now plan =>
      cases hnext
      exact h.completeDeletion hspares
  | failDeletion now plan errorClass =>
      cases hnext
      obtain ⟨hattempt, hcurrent, hupload⟩ := @failDeletion_same db now plan errorClass
      exact h.of_same hattempt hcurrent hupload

theorem expirable_reached {attemptId authorId repositoryId headSha : JsString}
    {expiresAt : Timestamp} {events : List EvidenceEvent}
    (hevents : Throughout stepEvidence
      (startEvidence attemptId authorId repositoryId headSha expiresAt)
      (fun db event => RefusesAccepted db event ∧ SparesUpload db event) events) :
    Expirable (after stepEvidence
      (startEvidence attemptId authorId repositoryId headSha expiresAt) events) := by
  refine after_invariant (I := fun _ db => Expirable db) ?_ ?_ hevents
  · exact ⟨fun _ => rfl, fun _ _ hupload => (nomatch hupload), fun _ _ => rfl, fun _ => rfl⟩
  · intro events event h hcondition
    exact stepEvidence_of_next h fun db' hnext => h.next hcondition.1 hcondition.2 hnext

/-- The head and the deadline of an attempt are fixed. -/
theorem bound_step (db : Evidence) (event : EvidenceEvent) :
    (stepEvidence db event).attempt.headSha = db.attempt.headSha ∧
      (stepEvidence db event).attempt.expiresAt = db.attempt.expiresAt := by
  refine stepEvidence_of_next (I := fun db' : Evidence => db'.attempt.headSha = db.attempt.headSha ∧
    db'.attempt.expiresAt = db.attempt.expiresAt) ⟨rfl, rfl⟩ fun db' hnext => ?_
  by_cases hfinalize : ∃ now storable input, event = .finalize now storable input
  · obtain ⟨now, storable, input, rfl⟩ := hfinalize
    simp only [nextEvidence] at hnext
    cases hpersist : persistPendingUploadFinalization now storable input db with
    | error error =>
        rw [hpersist] at hnext
        cases hnext
    | ok written =>
        rw [hpersist] at hnext
        cases hnext
        obtain ⟨upload, -, -, -, -, -, -, hkept | hwritten⟩ :=
          persistPendingUploadFinalization_eq_ok hpersist
        · obtain ⟨-, hsame, -⟩ := hkept
          exact hsame ▸ ⟨rfl, rfl⟩
        · obtain ⟨-, -, -, -, -, -, hsame⟩ := hwritten
          exact hsame ▸ ⟨rfl, rfl⟩
  · by_cases hcomplete : ∃ now plan, event = .completeDeletion now plan
    · obtain ⟨now, plan, rfl⟩ := hcomplete
      cases hnext
      unfold completeDeletion
      split
      · exact ⟨rfl, rfl⟩
      · split <;> exact ⟨rfl, rfl⟩
    · have hframe := frame_of_next
        (fun now storable input hevent => hfinalize ⟨now, storable, input, hevent⟩)
        (fun now plan hevent => hcomplete ⟨now, plan, hevent⟩) hnext
      rw [hframe.attempt]
      exact ⟨rfl, rfl⟩

theorem bound_reached (start : Evidence) (events : List EvidenceEvent) :
    (after stepEvidence start events).attempt.headSha = start.attempt.headSha ∧
      (after stepEvidence start events).attempt.expiresAt = start.attempt.expiresAt := by
  refine after_keeps (I := fun db : Evidence => db.attempt.headSha = start.attempt.headSha ∧
    db.attempt.expiresAt = start.attempt.expiresAt) ⟨rfl, rfl⟩ ?_ events
  intro db event h
  obtain ⟨hhead, hexpires⟩ := bound_step db event
  exact ⟨hhead.trans h.1, hexpires.trans h.2⟩

/-! ## The two transactions of a run -/

variable {expectedHeadSha idempotencyKey : JsString}

theorem not_ended_of_expirable (h : Evidence.isExpirable db.attempt.status = true) :
    db.attempt.status ≠ .expired ∧ db.attempt.status ≠ .invalidated := by
  constructor <;> intro hstatus <;> rw [hstatus] at h <;> cases h

/-- An attempt that is due is reserved. -/
theorem Expirable.reserves (h : Expirable db)
    (hexpirable : Evidence.isExpirable db.attempt.status = true)
    (hhead : db.attempt.headSha = expectedHeadSha) (hdue : db.attempt.expiresAt ≤ now) :
    (expiryReservation now expectedHeadSha db).2 = none := by
  obtain ⟨hexpired, hinvalidated⟩ := not_ended_of_expirable hexpirable
  have hreserved : db.reserveUpload ≠ none := by
    unfold Evidence.reserveUpload
    split
    · exact Option.some_ne_none _
    · next upload hupload =>
      have hincomplete := h.upload hexpirable upload hupload
      rw [isIncomplete, decide_eq_true_eq] at hincomplete
      split
      · exact Option.some_ne_none _
      · next hactive =>
        rw [if_pos (hincomplete.resolve_left hactive)]
        exact Option.some_ne_none _
  unfold expiryReservation
  rw [if_neg (not_not.mpr hhead), if_neg hexpired,
    if_neg (not_or.mpr ⟨hinvalidated, by rw [h.current hexpirable]; simp⟩),
    if_neg (not_or.mpr ⟨by rw [hexpirable]; simp, not_lt.mpr hdue⟩)]
  cases hreserve : db.reserveUpload with
  | none => exact absurd hreserve hreserved
  | some reserved => rfl

/-- An attempt that is due is ended, whatever its upload. -/
theorem completes_expiry (hexpirable : Evidence.isExpirable db.attempt.status = true)
    (hcurrent : db.isCurrent = true) (hhead : db.attempt.headSha = expectedHeadSha)
    (hdue : db.attempt.expiresAt ≤ now) :
    (expiryCompletion now expectedHeadSha idempotencyKey db).2 = .expired ∧
      (expiryCompletion now expectedHeadSha idempotencyKey db).1.attempt.status = .expired := by
  obtain ⟨hexpired, hinvalidated⟩ := not_ended_of_expirable hexpirable
  unfold expiryCompletion
  rw [if_neg (not_not.mpr hhead), if_neg hexpired,
    if_neg (not_or.mpr ⟨hinvalidated, by rw [hcurrent]; simp⟩),
    if_neg (not_or.mpr ⟨by rw [hexpirable]; simp, not_lt.mpr hdue⟩)]
  exact ⟨rfl, rfl⟩

theorem Expirable.not_completed (h : Expirable db) (hcompleted : hasCompletedUpload db = true) :
    Evidence.isExpirable db.attempt.status = false := by
  by_contra hexpirable
  obtain ⟨upload, hupload, hstate⟩ := Option.any_eq_true _ _ |>.mp hcompleted
  have hincomplete := h.upload (Bool.not_eq_false _ ▸ hexpirable) upload hupload
  rw [decide_eq_true_eq] at hstate
  rw [isIncomplete, hstate] at hincomplete
  cases hincomplete

theorem reserveUpload_of_completed (hcompleted : hasCompletedUpload db = true) :
    db.reserveUpload = none := by
  obtain ⟨upload, hupload, hstate⟩ := Option.any_eq_true _ _ |>.mp hcompleted
  rw [decide_eq_true_eq] at hstate
  unfold Evidence.reserveUpload
  rw [hupload]
  dsimp only
  rw [if_neg (by rw [hstate]; simp), if_neg (by rw [hstate]; simp)]

/-- An expiry that does not clean up behind a revision leaves a completed upload alone. -/
theorem Expirable.spares_completed (h : Expirable db) {event : EvidenceEvent}
    (hexpiry : isExpiry event = true) (hspares : SparesUpload db event)
    (hcompleted : hasCompletedUpload db = true) : stepEvidence db event = db := by
  have hended := h.not_completed hcompleted
  have hnext : nextEvidence db event = none := by
    cases event with
    | reserveExpiry now expectedHeadSha =>
        simp only [nextEvidence, Evidence.reserveExpiry, reserveUpload_of_completed hcompleted]
        split
        · rfl
        · split
          · rfl
          · rw [if_pos (.inl hended)]
    | expire now expectedHeadSha idempotencyKey =>
        simp only [nextEvidence, Evidence.expireAttempt]
        split
        · rfl
        · split
          · next hstale =>
            rw [hspares hstale] at hcompleted
            cases hcompleted
          · rw [if_pos (.inl hended)]
    | _ => cases hexpiry
  rw [stepEvidence, hnext, Option.getD_none]

/-- No attempt is stranded when no deletion erases the upload of an uploading attempt. -/
theorem never_stranded (attemptId authorId repositoryId headSha : JsString)
    (expiresAt : Timestamp) (events : List EvidenceEvent)
    (hevents : Throughout stepEvidence
      (startEvidence attemptId authorId repositoryId headSha expiresAt)
      (fun db event => RefusesAccepted db event ∧ SparesUpload db event) events) :
    NeverStranded (startEvidence attemptId authorId repositoryId headSha expiresAt) events := by
  constructor
  · intro now idempotencyKey between hexpirable hdue hstill hcurrent
    have hreached := expirable_reached hevents
    generalize hstart : startEvidence attemptId authorId repositoryId headSha expiresAt = start at *
    have hhead := (bound_reached start events).1
    have hreserves := hreached.reserves hexpirable hhead hdue
    have hrun : expireAttempt now start.attempt.headSha idempotencyKey between
          (after stepEvidence start events) =
        expiryCompletion now start.attempt.headSha idempotencyKey
          (after stepEvidence start
            (events ++ .reserveExpiry now start.attempt.headSha :: between)) := by
      rw [List.append_cons events, after_append, after_concat, ← expiryReservation_fst]
      unfold expireAttempt
      generalize expiryReservation now start.attempt.headSha (after stepEvidence start events) =
        reserved at hreserves ⊢
      obtain ⟨rows, outcome⟩ := reserved
      cases hreserves
      rfl
    obtain ⟨hsameHead, hsameDeadline⟩ := bound_reached start
      (events ++ .reserveExpiry now start.attempt.headSha :: between)
    rw [hrun]
    exact completes_expiry hstill hcurrent hsameHead
      (hsameDeadline.trans (bound_reached start events).2.symm ▸ hdue)
  · rintro front event rest rfl hexpiry hcompleted
    have hreached := expirable_reached (throughout_front hevents)
    rw [after_concat, hreached.spares_completed hexpiry (hevents front event rest rfl).2 hcompleted]
    exact ⟨rfl, rfl⟩

end Steps

/-! ## An upload at its deadline -/

def sampleAttempt : Evidence := startEvidence (js "a1") (js "author") (js "repo") (js "h1") 100

/-- An attempt up to its upload, which has the attempt's deadline. -/
def sampleUploading : List EvidenceEvent :=
  [.advance .ready, .issueMaterial 1 (js "m1") (js "o1") (js "k1") (js "RSA-OAEP-256"),
    .advance .active, .createUpload 2 (js "u1") (js "o1") (js "evidence/1") (js "mp1")]

/-- A technical abort that goes no further than its reservation. -/
def sampleAbort : EvidenceEvent :=
  .reserveAbort
    { actorId := js "author"
      repositoryId := js "repo"
      expectedHeadSha := js "h1"
      idempotencyKey := js "abort-1" }

/-- The sweep at the deadline, and the deletion it enqueues. -/
def sampleDeletion : List EvidenceEvent :=
  [.sweep 100 0 (js "d1") true, .claimDeletion 100 (js "d1"),
    .completeDeletion 100
      { deletionJobId := js "d1"
        attemptId := js "a1"
        objectKeys := [js "evidence/1"]
        multipartUploads := [{ objectKey := js "evidence/1", uploadId := js "mp1" }] }]

theorem never_stranded_sample :
    (expireAttempt 100 (js "h1") (js "expiry-1") []
      (after stepEvidence sampleAttempt (sampleUploading ++ [sampleAbort]))).2 = .expired ∧
    NeverStranded sampleAttempt (sampleUploading ++ [sampleAbort]) := by
  refine ⟨by decide, never_stranded (js "a1") (js "author") (js "repo") (js "h1") 100 _ ?_⟩
  iterate 5 refine throughout_cons.mpr ⟨⟨trivial, trivial⟩, ?_⟩
  exact throughout_nil

/-- The sweep finds the upload due when the attempt is, and a deletion before the expiry leaves
an upload that no expiry takes. -/
theorem stranded_by_deletion :
    ¬ ∀ events, Throughout stepEvidence sampleAttempt RefusesAccepted events →
      NeverStranded sampleAttempt events := by
  intro hnever
  have haccepted : Throughout stepEvidence sampleAttempt RefusesAccepted
      (sampleUploading ++ sampleDeletion) := by
    iterate 7 refine throughout_cons.mpr ⟨trivial, ?_⟩
    exact throughout_nil
  have hexpired := ((hnever _ haccepted).expires 100 (js "expiry-1") [] (by decide)
    (by decide) (by decide) (by decide)).1
  have hstale : (expireAttempt 100 sampleAttempt.attempt.headSha (js "expiry-1") []
      (after stepEvidence sampleAttempt (sampleUploading ++ sampleDeletion))).2 = .stale := by
    decide
  rw [hstale] at hexpired
  cases hexpired

end Worker

end UnderstandProof
