import UnderstandProof.Worker.EvidenceEvents

/-!
# The finalization of an upload over all histories

A finalization is accepted at most once for an attempt, what it stores stays as it is until
the evidence is erased, and a request with another digest or other intervals is refused
without a write. The request that was accepted is answered as a replay for as long as its
upload is pending: a worker that has validated the recording has completed the upload, and
the same request is rejected from then on.
-/

open Foundation

namespace UnderstandProof

namespace Worker

open Db
open Domain (AttemptStatus Timestamp)

/-- The event accepts a finalization. -/
def Accepts (db : Evidence) (event : EvidenceEvent) : Prop :=
  db.attempt.status = .uploading ∧ (stepEvidence db event).attempt.status = .processing

/-- The deletion of the evidence is completed. -/
def IsErased (db : Evidence) : Bool :=
  db.deletion.any fun job => job.state = .completed

/-- The rows hold what the finalization stored. -/
structure Stores (input : PendingFinalization) (db : Evidence) : Prop where
  upload : ∃ upload, db.upload = some upload ∧ upload.id = input.uploadSessionId ∧
    upload.manifestDigest = some input.manifestDigest ∧
    upload.finalizeEnvelope = some input.finalizeEnvelope
  deadline : db.attempt.evidenceDeleteAfter = input.evidenceDeleteAfter
  intervals : db.intervals = intervalSet input

/-- What an accepted finalization leaves true, erased or not. -/
structure Kept (input : PendingFinalization) (db : Evidence) : Prop where
  deadline : db.attempt.evidenceDeleteAfter = input.evidenceDeleteAfter
  accepted : db.attempt.evidenceDeleteAfter ≠ none
  attemptId : db.attempt.id = input.attemptId
  headSha : db.attempt.headSha = input.expectedHeadSha
  duration : input.questionIntervals.isSome = true → input.recordingDurationMs ≠ none
  stores : Stores input db ∨ IsErased db = true ∧ ∃ upload, db.upload = some upload ∧
    (upload.state = .deleted ∨ upload.state = .failed)

/-- What every reachable state keeps. -/
structure Fenced (db : Evidence) : Prop where
  intervals : db.attempt.evidenceDeleteAfter = none → db.intervals = none
  processing : (db.transitions.filter fun t => t.toStatus = .processing).length ≤
    if db.attempt.evidenceDeleteAfter = none then 0 else 1
  live : Evidence.isLive db.attempt.status = true → db.isAuthorized = true

/-! ## What a step keeps -/

section Steps

variable {input : PendingFinalization} {db db' : Evidence}

theorem Stores.of_frame (h : Stores input db) (hframe : EvidenceFrame db db') :
    Stores input db' where
  upload := by
    obtain ⟨upload, hupload, hid, hdigest, henvelope⟩ := h.upload
    obtain ⟨upload', hupload', hsame, -⟩ := hframe.upload upload hupload
    rw [hsame] at hupload'
    exact ⟨_, hupload', hid, hdigest, henvelope⟩
  deadline := by
    rw [hframe.attempt]
    exact h.deadline
  intervals := hframe.intervals.trans h.intervals

theorem Kept.of_frame (h : Kept input db) (hframe : EvidenceFrame db db') : Kept input db' where
  deadline := by
    rw [hframe.attempt]
    exact h.deadline
  accepted := by
    rw [hframe.attempt]
    exact h.accepted
  attemptId := by
    rw [hframe.attempt]
    exact h.attemptId
  headSha := by
    rw [hframe.attempt]
    exact h.headSha
  duration := h.duration
  stores := by
    rcases h.stores with hstores | ⟨herased, upload, hupload, hended⟩
    · exact .inl (hstores.of_frame hframe)
    · obtain ⟨upload', hupload', -, hended'⟩ := hframe.upload upload hupload
      exact .inr ⟨hframe.completed herased, upload', hupload', hended' hended⟩

theorem Fenced.of_frame (h : Fenced db) (hframe : EvidenceFrame db db') : Fenced db' where
  intervals := by
    rw [hframe.attempt, hframe.intervals]
    exact h.intervals
  processing := by
    rw [hframe.processing, hframe.attempt]
    exact h.processing
  live := hframe.live h.live

/-- A completed deletion erases the upload, and leaves the attempt and the transitions
alone. -/
theorem completeDeletion_cases (now : Timestamp) (plan : EvidenceDeletionPlan)
    (db : Evidence) :
    completeDeletion now plan db = db ∨
      ∃ job, db.deletion = some job ∧ job.id = plan.deletionJobId ∧ job.state ≠ .completed ∧
        db.attempt.id = plan.attemptId ∧
        completeDeletion now plan db =
          { erase now db with
            deletion := some
              { job with
                state := .completed
                lastErrorClass := none
                completedAt := some now
                updatedAt := now }
            audits := db.audits ++ [.deleted plan.deletionJobId] } := by
  unfold completeDeletion
  split
  · exact .inl rfl
  · next job hfilter =>
    obtain ⟨hjob, hid⟩ := Option.filter_eq_some_iff.mp hfilter
    split
    · exact .inl rfl
    · next hopen =>
      rw [not_or, not_not] at hopen
      exact .inr ⟨job, hjob, by simpa using hid, hopen.1, hopen.2, rfl⟩

theorem eraseUpload_state (upload : UploadSession) : (eraseUpload upload).state = .deleted := by
  unfold eraseUpload
  split
  · rfl
  · next h => exact not_not.mp h

theorem Kept.completeDeletion (h : Kept input db) (now : Timestamp)
    (plan : EvidenceDeletionPlan) : Kept input (completeDeletion now plan db) := by
  rcases completeDeletion_cases now plan db with hsame | ⟨job, hjob, -, -, -, hsame⟩
  · rw [hsame]
    exact h
  · rw [hsame]
    refine ⟨h.deadline, h.accepted, h.attemptId, h.headSha, h.duration, .inr ⟨rfl, ?_⟩⟩
    have hupload : ∃ upload, db.upload = some upload := by
      rcases h.stores with hstores | ⟨-, upload, hupload, -⟩
      · exact ⟨_, hstores.upload.choose_spec.1⟩
      · exact ⟨upload, hupload⟩
    obtain ⟨upload, hupload⟩ := hupload
    exact ⟨eraseUpload upload, by simp [erase, hupload], .inl (eraseUpload_state upload)⟩

theorem Fenced.completeDeletion (h : Fenced db) (now : Timestamp)
    (plan : EvidenceDeletionPlan) : Fenced (completeDeletion now plan db) := by
  rcases completeDeletion_cases now plan db with hsame | ⟨job, -, -, -, -, hsame⟩
  · rw [hsame]
    exact h
  · rw [hsame]
    exact ⟨fun _ => rfl, h.processing, h.live⟩

/-- A finalization after the accepted one leaves the rows alone. -/
theorem stepEvidence_finalize_of_kept {now : Timestamp} {storable : Bool}
    {other : PendingFinalization} (hdeadline : db.attempt.evidenceDeleteAfter ≠ none) :
    stepEvidence db (.finalize now storable other) = db := by
  cases hresult : persistPendingUploadFinalization now storable other db with
  | error e => exact stepEvidence_finalize_of_error hresult
  | ok result =>
      obtain ⟨db', replay⟩ := result
      obtain ⟨upload, -, -, -, -, -, -, ⟨-, hsame, -⟩ | ⟨-, -, -, hnone, -⟩⟩ :=
        persistPendingUploadFinalization_eq_ok hresult
      · rw [stepEvidence_finalize_of_ok hresult, hsame]
      · exact absurd hnone hdeadline

theorem Kept.step (h : Kept input db) (event : EvidenceEvent) :
    Kept input (stepEvidence db event) := by
  cases event with
  | finalize now storable other =>
      rw [stepEvidence_finalize_of_kept h.accepted]
      exact h
  | completeDeletion now plan => exact h.completeDeletion now plan
  | _ =>
      exact stepEvidence_of_next (I := Kept input) h fun db' hnext =>
        h.of_frame (frame_of_next (by simp) (by simp) hnext)

/-- The state that accepting a finalization leaves. -/
structure Accepted (db : Evidence) (input : PendingFinalization) (db' : Evidence) : Prop where
  before : db.attempt.evidenceDeleteAfter = none
  kept : Kept input db'
  stores : Stores input db'
  fenced : Fenced db → Fenced db'

theorem accepted_of_finalize {now : Timestamp} {storable : Bool} (hfenced : Fenced db)
    (h : persistPendingUploadFinalization now storable input db = .ok (db', false)) :
    Accepted db input db' := by
  obtain ⟨upload, hupload, hid, hattempt, hhead, hauthorized, -, ⟨hreplay, -⟩ |
    ⟨-, -, hstatus, hnone, hdate, hduration, rfl⟩⟩ := persistPendingUploadFinalization_eq_ok h
  · cases hreplay
  · have hstores : Stores input
        { db.insertTransition input.idempotencyKey .uploading .processing with
          upload := some
            { upload with
              state := .pendingFinalization
              manifestDigest := some input.manifestDigest
              finalizeEnvelope := some input.finalizeEnvelope }
          attempt :=
            { db.attempt with
              status := .processing
              evidenceDeleteAfter := input.evidenceDeleteAfter }
          intervals := (intervalSet input).or db.intervals } :=
      { upload := ⟨_, rfl, hid, rfl, rfl⟩
        deadline := rfl
        intervals := by simp [hfenced.intervals hnone] }
    refine ⟨hnone, ⟨rfl, hdate, hattempt, hhead, hduration, .inl hstores⟩, hstores,
      fun hfenced => ⟨fun h => absurd h hdate, ?_, fun _ => ?_⟩⟩
    · have hbefore := hfenced.processing
      rw [if_pos hnone, Nat.le_zero, List.length_eq_zero_iff] at hbefore
      rw [if_neg hdate]
      unfold Evidence.insertTransition
      split
      · simp [hbefore]
      · simp [List.filter_append, hbefore]
    · simpa [Evidence.isAuthorized, Evidence.insertTransition, apply_ite Evidence.isCurrent,
        apply_ite Evidence.pullRequestOpen, apply_ite Evidence.repositoryActive,
        apply_ite Evidence.installationActive] using hauthorized

theorem Fenced.step (h : Fenced db) (event : EvidenceEvent) :
    Fenced (stepEvidence db event) := by
  cases event with
  | finalize now storable other =>
      cases hresult : persistPendingUploadFinalization now storable other db with
      | error e =>
          rw [stepEvidence_finalize_of_error hresult]
          exact h
      | ok result =>
          obtain ⟨db', replay⟩ := result
          rw [stepEvidence_finalize_of_ok hresult]
          cases replay with
          | true =>
              obtain ⟨upload, -, -, -, -, -, -, ⟨-, hsame, -⟩ | ⟨hreplay, -⟩⟩ :=
                persistPendingUploadFinalization_eq_ok hresult
              · exact hsame ▸ h
              · cases hreplay
          | false => exact (accepted_of_finalize h hresult).fenced h
  | completeDeletion now plan => exact h.completeDeletion now plan
  | _ =>
      exact stepEvidence_of_next (I := Fenced) h fun db' hnext =>
        h.of_frame (frame_of_next (by simp) (by simp) hnext)

/-- Only a finalization accepts. -/
theorem finalize_of_accepts {event : EvidenceEvent} (hfenced : Fenced db)
    (h : Accepts db event) :
    ∃ now storable input, event = .finalize now storable input ∧
      Accepted db input (stepEvidence db event) := by
  obtain ⟨hbefore, hafter⟩ := h
  have hframe : ∀ db', EvidenceFrame db db' → db'.attempt.status ≠ .processing := by
    intro db' hframe hstatus
    exact absurd (hbefore.symm.trans (hframe.accepted hstatus)) (by simp)
  cases event with
  | finalize now storable input =>
      refine ⟨now, storable, input, rfl, ?_⟩
      cases hresult : persistPendingUploadFinalization now storable input db with
      | error e =>
          rw [stepEvidence_finalize_of_error hresult] at hafter
          exact absurd (hbefore.symm.trans hafter) (by simp)
      | ok result =>
          obtain ⟨db', replay⟩ := result
          rw [stepEvidence_finalize_of_ok hresult] at hafter ⊢
          cases replay with
          | true =>
              obtain ⟨upload, -, -, -, -, -, -, ⟨-, hsame, -⟩ | ⟨hreplay, -⟩⟩ :=
                persistPendingUploadFinalization_eq_ok hresult
              · rw [hsame] at hafter
                exact absurd (hbefore.symm.trans hafter) (by simp)
              · cases hreplay
          | false => exact accepted_of_finalize hfenced hresult
  | completeDeletion now plan =>
      have hsame : (completeDeletion now plan db).attempt = db.attempt := by
        rcases completeDeletion_cases now plan db with hsame | ⟨job, -, -, -, -, hsame⟩
        · rw [hsame]
        · rw [hsame]
          rfl
      change (completeDeletion now plan db).attempt.status = .processing at hafter
      rw [hsame] at hafter
      exact absurd (hbefore.symm.trans hafter) (by simp)
  | _ =>
      refine absurd hafter ?_
      exact stepEvidence_of_next (I := fun db' => db'.attempt.status ≠ .processing)
        (by simp [hbefore]) fun db' hnext => hframe db' (frame_of_next (by simp) (by simp) hnext)

/-! ## What a request is checked against -/

/-- The upload has ended. -/
def IsEnded (db : Evidence) : Prop :=
  ∃ upload, db.upload = some upload ∧ (upload.state = .deleted ∨ upload.state = .failed)

/-- The rows that a request is checked against are those of an earlier state, or the upload
has ended since. -/
structure Bound (origin db : Evidence) : Prop where
  attempt : db.attempt =
    { origin.attempt with
      status := db.attempt.status
      evidenceDeleteAfter := db.attempt.evidenceDeleteAfter }
  rows : (∃ first upload, origin.upload = some first ∧ db.upload = some upload ∧
      upload.id = first.id ∧ upload.objectId = first.objectId ∧
      ∀ material, origin.materialFor first = some material →
        ∃ material', db.materialFor upload = some material' ∧ material'.id = material.id ∧
          material'.keyId = material.keyId ∧ material'.algorithm = material.algorithm) ∨
    IsEnded db

variable {origin : Evidence}

theorem Bound.refl {upload : UploadSession} (h : db.upload = some upload) : Bound db db where
  attempt := rfl
  rows := .inl ⟨upload, upload, h, h, rfl, rfl,
    fun material hmaterial => ⟨material, hmaterial, rfl, rfl, rfl⟩⟩

theorem Bound.of_frame (h : Bound origin db) (hframe : EvidenceFrame db db') :
    Bound origin db' where
  attempt := by rw [hframe.attempt, h.attempt]
  rows := by
    rcases h.rows with ⟨first, upload, hfirst, hupload, hid, hobject, hmaterials⟩ |
      ⟨upload, hupload, hended⟩
    · obtain ⟨upload', hupload', hsame, -⟩ := hframe.upload upload hupload
      have hobject' : upload'.objectId = upload.objectId := by rw [hsame]
      refine .inl ⟨first, upload', hfirst, hupload', by rw [hsame]; exact hid,
        hobject'.trans hobject, fun material hmaterial => ?_⟩
      obtain ⟨second, hsecond, hsid, hskey, hsalgorithm⟩ := hmaterials material hmaterial
      obtain ⟨third, hthird, htid, htkey, htalgorithm⟩ :=
        hframe.materials upload.objectId second hsecond
      refine ⟨third, ?_, htid.trans hsid, htkey.trans hskey, htalgorithm.trans hsalgorithm⟩
      rw [Evidence.materialFor, hobject']
      exact hthird
    · obtain ⟨upload', hupload', -, hended'⟩ := hframe.upload upload hupload
      exact .inr ⟨upload', hupload', hended' hended⟩

theorem Bound.step (h : Bound origin db) (event : EvidenceEvent) :
    Bound origin (stepEvidence db event) := by
  cases event with
  | finalize now storable input =>
      cases hresult : persistPendingUploadFinalization now storable input db with
      | error e =>
          rw [stepEvidence_finalize_of_error hresult]
          exact h
      | ok result =>
          obtain ⟨db', replay⟩ := result
          rw [stepEvidence_finalize_of_ok hresult]
          obtain ⟨upload, hupload, -, -, -, -, -, ⟨-, hsame, -⟩ |
            ⟨-, hactive, -, -, -, -, rfl⟩⟩ := persistPendingUploadFinalization_eq_ok hresult
          · exact hsame ▸ h
          · refine ⟨by rw [h.attempt], ?_⟩
            rcases h.rows with ⟨first, upload', hfirst, hupload', hid, hobject, hmaterials⟩ |
              ⟨upload', hupload', hended⟩
            · cases hupload.symm.trans hupload'
              refine .inl ⟨first, _, hfirst, rfl, hid, hobject, fun material hmaterial => ?_⟩
              obtain ⟨second, hsecond, hsame⟩ := hmaterials material hmaterial
              refine ⟨second, ?_, hsame⟩
              simpa [Evidence.materialFor, Evidence.insertTransition,
                apply_ite Evidence.materials] using hsecond
            · cases hupload.symm.trans hupload'
              rw [hactive] at hended
              rcases hended with hended | hended <;> cases hended
  | completeDeletion now plan =>
      change Bound origin (Worker.completeDeletion now plan db)
      rcases completeDeletion_cases now plan db with hsame | ⟨job, -, -, -, -, hsame⟩
      · rw [hsame]
        exact h
      · rw [hsame]
        have hupload : ∃ upload, db.upload = some upload := by
          rcases h.rows with ⟨_, upload, -, hupload, -⟩ | ⟨upload, hupload, -⟩
          · exact ⟨upload, hupload⟩
          · exact ⟨upload, hupload⟩
        obtain ⟨upload, hupload⟩ := hupload
        exact ⟨h.attempt, .inr ⟨eraseUpload upload, by simp [erase, hupload],
          .inl (eraseUpload_state upload)⟩⟩
  | _ =>
      exact stepEvidence_of_next (I := Bound origin) h fun db' hnext =>
        h.of_frame (frame_of_next (by simp) (by simp) hnext)

/-- The intervals of a manifest match the frozen plan, or are missing. -/
def fitsPlan (plan : Db.FrozenPlan) (request : FinalizeRequest) : Bool :=
  request.manifest.questionIntervals.all fun intervals =>
    (Media.validateProofQuestionIntervalsV1 intervals plan.requiredQuestionIds
      request.manifest.durationMs).toOption.isSome

/-- What the checks of a request have found when they let it through. -/
theorem prepareFinalization_eq_ok {plan : Db.FrozenPlan} {now : Timestamp} {partsMatch : Bool}
    {request : FinalizeRequest} (h : prepareFinalization plan now partsMatch request db = .ok input) :
    ∃ upload material deleteAfter, db.upload = some upload ∧
      upload.id = request.uploadSessionId ∧ db.materialFor upload = some material ∧
      request.isAuthors db.attempt = true ∧
      classifyUploadFinalization upload db.attempt.status request.manifestDigest now ≠ .reject ∧
      manifestFits plan request.manifest db.attempt upload material = true ∧
      fitsPlan plan request = true ∧
      input = request.pending db.attempt deleteAfter request.manifest.questionIntervals := by
  unfold prepareFinalization at h
  split at h
  · cases h
  · next upload hfilter =>
    obtain ⟨hupload, hid⟩ := Option.filter_eq_some_iff.mp hfilter
    split at h
    · cases h
    · next material hmaterial =>
      dsimp only at h
      split at h
      · cases h
      · next hguard =>
        simp only [not_or, Bool.not_eq_false] at hguard
        obtain ⟨hauthor, hdisposition, -, hfits⟩ := hguard
        refine ⟨upload, material, db.attempt.evidenceDeleteAfter.getD
            (calculateEvidenceDeleteAfter now plan.retentionHours), hupload, by simpa using hid,
          hmaterial, hauthor, hdisposition, hfits, ?_⟩
        split at h
        · next hintervals =>
          split at h
          · cases h
          · cases h
            exact ⟨by simp [fitsPlan, hintervals], by rw [hintervals]⟩
        · next intervals hintervals =>
          split at h
          · cases h
          · next validated hvalidated =>
            split at h
            · cases h
            · cases h
              have hsame := (Media.validateProofQuestionIntervalsV1_ok hvalidated).1
              exact ⟨by simp [fitsPlan, hintervals, hvalidated, Except.toOption],
                by rw [hintervals, hsame]⟩

/-- The checks let a request through that an earlier state let through, when its upload
waits for the worker. -/
theorem prepareFinalization_replay {plan : Db.FrozenPlan} {now : Timestamp} {partsMatch : Bool}
    {request : FinalizeRequest} {upload : UploadSession} {material : WrappingMaterial}
    {deadline : Timestamp} (hupload : db.upload = some upload)
    (hid : upload.id = request.uploadSessionId) (hmaterial : db.materialFor upload = some material)
    (hauthor : request.isAuthors db.attempt = true) (hauthorized : db.isAuthorized = true)
    (hfits : manifestFits plan request.manifest db.attempt upload material = true)
    (hplan : fitsPlan plan request = true)
    (hdeadline : db.attempt.evidenceDeleteAfter = some deadline)
    (hdisposition : classifyUploadFinalization upload db.attempt.status request.manifestDigest
      now = .replay) :
    prepareFinalization plan now partsMatch request db =
      .ok (request.pending db.attempt deadline request.manifest.questionIntervals) := by
  unfold prepareFinalization
  have hfilter : (db.upload.filter fun upload => upload.id = request.uploadSessionId) =
      some upload := by simp [hupload, hid]
  rw [hfilter]
  dsimp only
  rw [hmaterial]
  dsimp only
  rw [if_neg (by simp [hauthor, hdisposition, hauthorized, hfits]), hdeadline, Option.getD_some]
  cases hintervals : request.manifest.questionIntervals with
  | none => simp [hdisposition]
  | some intervals =>
      dsimp only
      rw [fitsPlan, hintervals, Option.all_some] at hplan
      cases hvalidated : Media.validateProofQuestionIntervalsV1 intervals
          plan.requiredQuestionIds request.manifest.durationMs with
      | error e =>
          rw [hvalidated] at hplan
          cases hplan
      | ok validated =>
          dsimp only
          rw [if_neg (by simp [hdisposition]), (Media.validateProofQuestionIntervalsV1_ok
            hvalidated).1]

/-! ## The answers after an accepted finalization -/

/-- A request with another digest or other intervals is refused, and nothing is written. -/
theorem conflict_of_other {now : Timestamp} {storable : Bool} {other : PendingFinalization}
    (h : Kept input db)
    (hother : other.manifestDigest ≠ input.manifestDigest ∨
      other.questionIntervals ≠ input.questionIntervals) :
    persistPendingUploadFinalization now storable other db =
      .error .uploadFinalizationConflict := by
  refine conflict_of_accepted h.accepted fun db' hok => ?_
  obtain ⟨upload, hupload, -, -, -, -, -, ⟨-, -, hstate, hdigest, hintervals⟩ | ⟨hreplay, -⟩⟩ :=
    persistPendingUploadFinalization_eq_ok hok
  · rcases h.stores with hstores | ⟨-, upload', hupload', hended⟩
    · obtain ⟨upload', hupload', -, hstored, -⟩ := hstores.upload
      cases hupload.symm.trans hupload'
      have hsame : other.manifestDigest = input.manifestDigest :=
        Option.some_inj.mp (hdigest.symm.trans hstored)
      refine (hother.resolve_left (not_not_intro hsame)) ?_
      have hsets : intervalSet other = intervalSet input :=
        hintervals.symm.trans hstores.intervals
      unfold intervalSet at hsets
      cases hmine : other.questionIntervals with
      | none =>
          cases hstored : input.questionIntervals with
          | none => rfl
          | some intervals => simp [hmine, hstored] at hsets
      | some intervals =>
          cases hstored : input.questionIntervals with
          | none => simp [hmine, hstored] at hsets
          | some intervals' =>
              rw [hmine, hstored, Option.map_some, Option.map_some, Option.some_inj,
                QuestionIntervalSet.mk.injEq] at hsets
              rw [hsets.2.2.2]
    · cases hupload.symm.trans hupload'
      rw [hstate] at hended
      rcases hended with hended | hended <;> cases hended
  · cases hreplay

/-- The checks before the transaction refuse with a conflict. -/
theorem status_of_prepare {plan : Db.FrozenPlan} {now : Timestamp} {partsMatch : Bool}
    {request : FinalizeRequest} {response : FinalizeResponse}
    (h : prepareFinalization plan now partsMatch request db = .error response) :
    response.status = 409 := by
  unfold prepareFinalization at h
  split at h
  · cases h
    rfl
  · split at h
    · cases h
      rfl
    · dsimp only at h
      split at h
      · cases h
        rfl
      · split at h
        · split at h
          · cases h
            rfl
          · cases h
        · split at h
          · cases h
            rfl
          · split at h
            · cases h
              rfl
            · cases h

theorem finalize_conflict {plan : Db.FrozenPlan} {now : Timestamp} {partsMatch storable : Bool}
    {request : FinalizeRequest} (h : Kept input db)
    (hother : request.manifestDigest ≠ input.manifestDigest ∨
      request.manifest.questionIntervals ≠ input.questionIntervals) :
    (finalize plan now partsMatch storable request db).1.status = 409 ∧
      (finalize plan now partsMatch storable request db).2 = db := by
  unfold finalize
  cases hprepare : prepareFinalization plan now partsMatch request db with
  | error response =>
      exact ⟨status_of_prepare hprepare, rfl⟩
  | ok other =>
      obtain ⟨upload, material, deleteAfter, -, -, -, -, -, -, -, rfl⟩ :=
        prepareFinalization_eq_ok hprepare
      dsimp only
      rw [conflict_of_other h hother]
      exact ⟨rfl, rfl⟩

/-- The request that was accepted is a replay exactly while its upload waits for the
worker. -/
theorem finalize_replay_iff {plan : Db.FrozenPlan} {now : Timestamp} {partsMatch storable : Bool}
    {request : FinalizeRequest} {before : Timestamp} {matched : Bool}
    (hrequest : prepareFinalization plan before matched request origin = .ok input)
    (hkept : Kept input db) (hfenced : Fenced db) (hbound : Bound origin db)
    (hstatus : db.attempt.status = .processing)
    (hexpires : ∀ upload, db.upload = some upload → now < upload.expiresAt) :
    finalize plan now partsMatch storable request db = (.accepted true, db) ↔
      db.upload.any (fun upload => upload.state = .pendingFinalization) = true := by
  constructor
  · intro hanswer
    unfold finalize at hanswer
    cases hprepare : prepareFinalization plan now partsMatch request db with
    | error response =>
        rw [hprepare] at hanswer
        cases hanswer
        exact absurd (status_of_prepare hprepare) (by decide)
    | ok other =>
        obtain ⟨upload, material, deleteAfter, hupload, -, -, -, hdisposition, -⟩ :=
          prepareFinalization_eq_ok hprepare
        rw [hupload, Option.any_some, decide_eq_true_eq]
        unfold classifyUploadFinalization at hdisposition
        by_contra hstate
        simp [hstate, hstatus] at hdisposition
  · intro hpending
    obtain ⟨upload, hupload, hstate⟩ := Option.any_eq_true _ _ |>.mp hpending
    rw [decide_eq_true_eq] at hstate
    have hnotEnded : ¬ IsEnded db := by
      rintro ⟨other, hother, hended⟩
      cases hupload.symm.trans hother
      rw [hstate] at hended
      rcases hended with hended | hended <;> cases hended
    have hstores : Stores input db := hkept.stores.resolve_right fun h => hnotEnded h.2
    obtain ⟨first, upload', hfirst, hupload', hid, hobject, hmaterials⟩ :=
      hbound.rows.resolve_right hnotEnded
    cases hupload.symm.trans hupload'
    obtain ⟨upload', hupload', -, hdigest, -⟩ := hstores.upload
    cases hupload.symm.trans hupload'
    obtain ⟨upload', material, deleteAfter, hfirst', hrequestId, hmaterial, hauthor, -, hfits,
      hplan, hinput⟩ := prepareFinalization_eq_ok hrequest
    cases hfirst.symm.trans hfirst'
    obtain ⟨material', hmaterial', hmid, hmkey, hmalgorithm⟩ := hmaterials material hmaterial
    obtain ⟨deadline, hdeadline⟩ := Option.ne_none_iff_exists'.mp hkept.accepted
    have hauthorized : db.isAuthorized = true := hfenced.live (by rw [hstatus]; rfl)
    have hdisposition : classifyUploadFinalization upload db.attempt.status
        request.manifestDigest now = .replay := by
      have hunexpired := hexpires upload hupload
      have hdigest' : upload.manifestDigest = some request.manifestDigest := by
        rw [hdigest, hinput]
        rfl
      simp [classifyUploadFinalization, hstate, hstatus, hdigest', hunexpired]
    have hauthor' : request.isAuthors db.attempt = true := by
      rw [hbound.attempt]
      exact hauthor
    have hfits' : manifestFits plan request.manifest db.attempt upload material' = true := by
      rw [hbound.attempt]
      simpa [manifestFits, hobject, hmid, hmkey, hmalgorithm] using hfits
    have hprepare : prepareFinalization plan now partsMatch request db = _ :=
      prepareFinalization_replay hupload (hid.trans hrequestId) hmaterial' hauthor' hauthorized
        hfits' hplan hdeadline hdisposition
    have hexact : hasExactIntervals (request.pending db.attempt deadline
        request.manifest.questionIntervals) db = true := by
      have hintervals := hstores.intervals
      rw [hinput] at hintervals
      unfold intervalSet FinalizeRequest.pending at hintervals
      unfold hasExactIntervals FinalizeRequest.pending
      cases hquestions : request.manifest.questionIntervals with
      | none =>
          rw [hquestions] at hintervals
          simpa using hintervals
      | some intervals =>
          rw [hquestions] at hintervals
          simpa using hintervals
    unfold finalize
    rw [hprepare]
    dsimp only
    have hpersist : persistPendingUploadFinalization now storable (request.pending db.attempt
        deadline request.manifest.questionIntervals) db = .ok (db, true) := by
      have hdigest' : upload.manifestDigest = some request.manifestDigest := by
        rw [hdigest, hinput]
        rfl
      unfold persistPendingUploadFinalization
      rw [hupload]
      dsimp only
      rw [if_neg (by
          simp [FinalizeRequest.pending, hid.trans hrequestId, hauthorized,
            hexpires upload hupload]),
        if_pos ⟨hstate, hdigest', hstatus, hkept.accepted⟩, if_pos hexact]
    rw [hpersist]

/-- A request leaves the rows alone, or as its transaction leaves them. -/
theorem finalize_eq_step (plan : Db.FrozenPlan) (now : Timestamp) (partsMatch storable : Bool)
    (request : FinalizeRequest) (db : Evidence) :
    (finalize plan now partsMatch storable request db).2 = db ∨
      ∃ input, prepareFinalization plan now partsMatch request db = .ok input ∧
        (finalize plan now partsMatch storable request db).2 =
          stepEvidence db (.finalize now storable input) := by
  unfold finalize
  cases hprepare : prepareFinalization plan now partsMatch request db with
  | error response => exact .inl rfl
  | ok input =>
      refine .inr ⟨input, rfl, ?_⟩
      dsimp only
      cases hresult : persistPendingUploadFinalization now storable input db with
      | ok result =>
          obtain ⟨db', replay⟩ := result
          rw [stepEvidence_finalize_of_ok hresult]
      | error error =>
          rw [stepEvidence_finalize_of_error hresult]
          cases error <;> rfl

end Steps

/-! ## Histories -/

section Histories

variable (attemptId authorId repositoryId headSha : JsString) (expiresAt : Timestamp)

/-- The rows after a history of transactions. -/
def evidenceAfter (events : List EvidenceEvent) : Evidence :=
  after stepEvidence (startEvidence attemptId authorId repositoryId headSha expiresAt) events

variable {attemptId authorId repositoryId headSha expiresAt}

theorem fenced_start :
    Fenced (startEvidence attemptId authorId repositoryId headSha expiresAt) where
  intervals := fun _ => rfl
  processing := by simp [startEvidence]
  live := fun _ => rfl

theorem fenced_evidenceAfter (events : List EvidenceEvent) :
    Fenced (evidenceAfter attemptId authorId repositoryId headSha expiresAt events) :=
  after_keeps fenced_start (fun _ event h => h.step event) events

/-- What an accepted finalization stores is kept to the end of a history. -/
theorem kept_evidenceAfter {front rest : List EvidenceEvent} {event : EvidenceEvent}
    {input : PendingFinalization}
    (h : Kept input (stepEvidence
      (evidenceAfter attemptId authorId repositoryId headSha expiresAt front) event)) :
    Kept input
      (evidenceAfter attemptId authorId repositoryId headSha expiresAt (front ++ event :: rest)) := by
  unfold evidenceAfter
  rw [after_append]
  have hstep : ∀ db event, Kept input db → Kept input (stepEvidence db event) :=
    fun _ event h => h.step event
  exact after_keeps h hstep rest

theorem bound_evidenceAfter {before more : List EvidenceEvent} {upload : UploadSession}
    (h : (evidenceAfter attemptId authorId repositoryId headSha expiresAt before).upload =
      some upload) :
    Bound (evidenceAfter attemptId authorId repositoryId headSha expiresAt before)
      (evidenceAfter attemptId authorId repositoryId headSha expiresAt (before ++ more)) := by
  unfold evidenceAfter at h ⊢
  rw [after_append]
  exact after_keeps (Bound.refl h) (fun _ event h => h.step event) more

variable (attemptId authorId repositoryId headSha expiresAt)

end Histories

/-! ## A validated recording -/

section Samples

def samplePlan : Db.FrozenPlan where
  requiredQuestionIds := [js "10000000-0000-4000-8000-000000000004"]
  maximumDurationMs := 480000
  maximumUploadBytes := 128000000
  retentionHours := 24

def sampleInterval : Media.ProofQuestionInterval where
  schemaVersion := js "1"
  intervalVersion := Media.proofQuestionIntervalVersion
  questionId := js "10000000-0000-4000-8000-000000000004"
  ordinal := 0
  startMs := 0
  endMs := 1000
  recordedDurationMs := 1000
  source := Media.proofQuestionIntervalSource

def sampleManifest : Media.RecordingManifest where
  attemptId := js "a1"
  headSha := js "head"
  objectId := js "o1"
  protocolVersion := 1
  suiteId := js "suite"
  codec := js "codec"
  noncePrefixBase64url := js "nonce"
  wrapping :=
    { materialId := js "m1"
      keyId := js "k1"
      algorithm := js "RSA-OAEP-256"
      wrappedKeySha256 := js "wrapped" }
  durationMs := 1000
  totalPlaintextBytes := 10
  totalObjectBytes := 20
  questionIntervals := some [sampleInterval]
  chunks := []
  parts := []

def sampleRequest : FinalizeRequest where
  actorId := js "author"
  isAuthor := true
  repositoryId := some (js "repository")
  uploadSessionId := js "u1"
  manifestDigest := js "digest"
  manifest := sampleManifest
  finalizeEnvelope := .str (js "digest")

def sampleRecording : ValidatedRecording where
  recordingObjectId := js "r1"
  uploadSessionId := js "u1"
  attemptId := js "a1"
  expectedHeadSha := js "head"
  objectKey := js "evidence/o1"
  wrappedDataKey := js "wrapped-key"
  wrappedKeySha256 := js "wrapped"
  wrappingMaterialId := js "m1"
  protocolVersion := js "SP-RC1"
  algorithm := js "AES-256-GCM"
  byteLength := 20
  durationMs := 1000
  codec := js "codec"
  manifestHash := js "digest"

/-- An attempt with its upload, before its finalization. -/
def uploadedEvidence : Evidence :=
  evidenceAfter (js "a1") (js "author") (js "repository") (js "head") 28800000
    [.advance .ready,
      .issueMaterial 0 (js "m1") (js "o1") (js "k1") (js "RSA-OAEP-256"),
      .advance .active,
      .createUpload 1 (js "u1") (js "o1") (js "evidence/o1") (js "p1")]

end Samples

end Worker

end UnderstandProof
