import UnderstandProof.Worker.DeletionDeadlines

/-!
# Accelerated deletions over all histories

A run that follows a maintainer's approval claims its job at once. It completes exactly when the
trigger of the sidecar's table lets the payload go, which it does not before the original
deadline.
-/

open Foundation

namespace UnderstandProof

namespace Worker

open Db
open Domain (AttemptStatus Timestamp)

section Evidence

variable {db : Evidence} {now clock : Timestamp}

/-! ## The end of the evidence -/

theorem shreddedEvidence_erase
    (hopen : ∀ upload, db.upload = some upload → upload.state ≠ .deleted) :
    ShreddedEvidence (erase now db) where
  recording := by
    intro recording' hrecording'
    obtain ⟨recording, -, rfl⟩ := Option.map_eq_some_iff.mp hrecording'
    unfold eraseRecording
    split
    · exact Option.some_ne_none _
    · next hdeleted => exact hdeleted
  frames := by
    intro frame' hframe'
    obtain ⟨frame, -, rfl⟩ := List.mem_map.mp hframe'
    unfold eraseFrame
    split
    · exact Option.some_ne_none _
    · next hdeleted => exact hdeleted
  intervals := rfl
  upload := by
    intro upload' hupload'
    obtain ⟨upload, hupload, rfl⟩ := Option.map_eq_some_iff.mp hupload'
    rw [eraseUpload, if_pos (hopen upload hupload)]
    exact ⟨.inl rfl, rfl, rfl, rfl⟩
  materials := by
    intro material' hmaterial'
    obtain ⟨material, -, rfl⟩ := List.mem_map.mp hmaterial'
    unfold destroyMaterial
    split
    · exact Option.some_ne_none _
    · next hdestroyed => exact hdestroyed

theorem Tracked.complete (h : Tracked clock db) {plan : EvidenceDeletionPlan}
    (hopen : IsErased db = false → ∀ upload, db.upload = some upload → upload.state ≠ .deleted) :
    Tracked clock (completeDeletion now plan db) := by
  rcases completeDeletion_cases now plan db with hsame | ⟨job, hjob, -, hstate, -, hsame⟩
  · rw [hsame]
    exact h
  · have hnot : IsErased db = false := by simp [IsErased, hjob, hstate]
    have hshredded := @shreddedEvidence_erase db now (hopen hnot)
    rw [hsame]
    exact
      { due := by
          intro job' hjob'
          obtain rfl := Option.some_inj.mp hjob'
          exact h.due job hjob
        early := h.early
        expiry := fun _ => h.expiry (by rw [hjob]; exact Option.some_ne_none _)
        uploadDeadline := by
          intro upload' hupload'
          obtain ⟨upload, hupload, rfl⟩ := Option.map_eq_some_iff.mp hupload'
          refine Eq.trans ?_ (h.uploadDeadline upload hupload)
          unfold eraseUpload
          split <;> rfl
        materialDeadline := fun material hmaterial hlive =>
          absurd hlive (hshredded.materials material hmaterial)
        shredded := fun _ =>
          { recording := hshredded.recording
            frames := hshredded.frames
            intervals := hshredded.intervals
            upload := hshredded.upload
            materials := hshredded.materials } }

end Evidence

namespace EvidenceTables

section Tables

variable {s t : EvidenceTables} {now : Timestamp} {event : TableEvent}

/-- A sidecar that a completion leaves has lost its payload. -/
theorem shredSidecar_eq_some {deletion : Option DeletionJob}
    {sidecar sidecar' : Option SidecarRow} (h : shredSidecar now deletion sidecar = some sidecar') :
    ∀ row, sidecar' = some row → ∃ deletedAt, row.content = .shredded deletedAt := by
  intro row hrow
  unfold shredSidecar at h
  split at h
  · cases h
    cases hrow
  · next before =>
    split at h
    · next deletedAt hcontent =>
      cases h
      cases hrow
      exact ⟨deletedAt, hcontent⟩
    · split at h
      · cases h
        cases hrow
        exact ⟨now, rfl⟩
      · cases h

/-- A completion changes nothing, or it erases every table. -/
theorem completeDeletion_eq_some {plan : EvidenceDeletionPlan}
    (h : s.completeDeletion now plan = some t) : t = s ∨
      ∃ job sidecar, s.evidence.deletion = some job ∧ job.id = plan.deletionJobId ∧
        job.state ≠ .completed ∧ s.evidence.attempt.id = plan.attemptId ∧
        shredSidecar now s.evidence.deletion s.sidecar = some sidecar ∧
        t = { s with
          evidence := Worker.completeDeletion now plan s.evidence
          transcripts := s.transcripts.map (eraseTranscript now)
          evaluations := s.evaluations.map (eraseEvaluation now)
          sidecar := sidecar
          recordingParts := [] } := by
  unfold EvidenceTables.completeDeletion at h
  split at h
  · exact .inl (Option.some_inj.mp h).symm
  · next job hfilter =>
    obtain ⟨hjob, hid⟩ := Option.filter_eq_some_iff.mp hfilter
    split at h
    · exact .inl (Option.some_inj.mp h).symm
    · next hopen =>
      split at h
      · cases h
      · next hattempt =>
        obtain ⟨sidecar, hsidecar, rfl⟩ := Option.map_eq_some_iff.mp h
        exact .inr ⟨job, sidecar, hjob, of_decide_eq_true hid, hopen, not_not.mp hattempt,
          hsidecar, rfl⟩

/-- The deadlines are tracked, and a completed deletion has left no evidence. -/
structure Kept (s : EvidenceTables) : Prop where
  tracked : Tracked s.clock s.evidence
  upload : IsErased s.evidence = false →
    ∀ upload, s.evidence.upload = some upload → upload.state ≠ .deleted
  shredded : IsErased s.evidence = true → s.Shredded

theorem kept_start {attemptId authorId repositoryId headSha : JsString}
    {expiresAt clock : Timestamp} :
    (start attemptId authorId repositoryId headSha expiresAt clock).Kept where
  tracked :=
    { due := fun _ hjob => nomatch hjob
      early := fun _ => rfl
      expiry := fun hsome => absurd rfl hsome
      uploadDeadline := fun _ hupload => nomatch hupload
      materialDeadline := fun _ hmaterial => nomatch hmaterial
      shredded := fun herased => nomatch herased }
  upload := fun _ _ hupload => nomatch hupload
  shredded := fun herased => nomatch herased

theorem eraseTranscript_deleted (now : Timestamp) (row : TranscriptRow) :
    (eraseTranscript now row).deletedAt ≠ none := by
  unfold eraseTranscript
  split
  · exact Option.some_ne_none _
  · next hdeleted => exact hdeleted

theorem eraseEvaluation_deleted (now : Timestamp) (row : EvaluationRow) :
    (eraseEvaluation now row).deletedAt ≠ none := by
  unfold eraseEvaluation
  split
  · exact Option.some_ne_none _
  · next hdeleted => exact hdeleted

theorem Kept.later (h : s.Kept) (hclock : s.clock ≤ now) :
    ({ s with clock := now } : EvidenceTables).Kept where
  tracked := h.tracked.later hclock
  upload := h.upload
  shredded := fun herased =>
    { evidence := (h.shredded herased).evidence
      transcripts := (h.shredded herased).transcripts
      evaluations := (h.shredded herased).evaluations
      sidecar := (h.shredded herased).sidecar
      recordingParts := (h.shredded herased).recordingParts }

/-- Rows written before the end of the evidence. -/
theorem Kept.withRows (h : s.Kept) (hopen : IsErased s.evidence = false)
    (hevidence : t.evidence = s.evidence) (hclock : t.clock = s.clock) : t.Kept where
  tracked := by rw [hevidence, hclock]; exact h.tracked
  upload := by rw [hevidence]; exact h.upload
  shredded := by
    rw [hevidence, hopen]
    exact fun herased => nomatch herased

theorem Kept.withEvidence (h : s.Kept) {event : EvidenceEvent} {db : Evidence}
    (htracked : Tracked s.clock db) (hkeys : KeyFrame event s.evidence db) :
    ({ s with evidence := db } : EvidenceTables).Kept where
  tracked := htracked
  upload := fun hopen => hkeys.not_deleted (h.upload (hkeys.isErased.symm.trans hopen))
  shredded := fun herased =>
    let hbefore := h.shredded (hkeys.isErased.symm.trans herased)
    { evidence := htracked.shredded herased
      transcripts := hbefore.transcripts
      evaluations := hbefore.evaluations
      sidecar := hbefore.sidecar
      recordingParts := hbefore.recordingParts }

/-- A completion that succeeds leaves no evidence behind. -/
theorem Kept.complete (h : s.Kept) {plan : EvidenceDeletionPlan}
    (hcomplete : s.completeDeletion now plan = some t) :
    t.Kept ∧ t.clock = s.clock ∧ (s.evidence.deletion ≠ none → t.evidence.deletion ≠ none) := by
  rcases completeDeletion_eq_some hcomplete with rfl |
    ⟨job, sidecar, hjob, hid, hstate, hattempt, hsidecar, rfl⟩
  · exact ⟨h, rfl, id⟩
  · have htracked := @Tracked.complete _ now _ h.tracked plan h.upload
    have herased : IsErased (Worker.completeDeletion now plan s.evidence) = true := by
      simp [Worker.completeDeletion, IsErased, hjob, hid, hstate, hattempt, Option.filter]
    refine ⟨⟨htracked, fun hopen => ?_, fun _ => ⟨htracked.shredded herased, ?_, ?_, ?_, rfl⟩⟩,
      rfl, fun _ hnone => ?_⟩
    · cases herased.symm.trans hopen
    · intro row' hrow'
      obtain ⟨row, -, rfl⟩ := List.mem_map.mp hrow'
      exact eraseTranscript_deleted now row
    · intro row' hrow'
      obtain ⟨row, -, rfl⟩ := List.mem_map.mp hrow'
      exact eraseEvaluation_deleted now row
    · exact shredSidecar_eq_some hsidecar
    · dsimp only at hnone
      rw [IsErased, hnone] at herased
      cases herased

theorem openRecording_eq_some {recording : RecordingObject}
    (h : s.openRecording now = some recording) :
    s.evidence.recording = some recording ∧ recording.deletedAt = none := by
  obtain ⟨hrecording, hguard⟩ := Option.filter_eq_some_iff.mp h
  exact ⟨hrecording, (of_decide_eq_true hguard).2.2.1⟩

/-- What an accepted event keeps. -/
theorem Kept.nextRows (h : s.Kept) (hreading : (tableReading event).all (s.clock ≤ ·) = true)
    (hnext : s.nextRows event = some t) :
    ({ t with clock := (tableReading event).getD s.clock } : EvidenceTables).Kept ∧
      (s.evidence.deletion ≠ none → t.evidence.deletion ≠ none) := by
  have hclock : s.clock ≤ (tableReading event).getD s.clock := by
    cases hnow : tableReading event with
    | none => exact le_rfl
    | some now =>
        rw [hnow] at hreading
        exact of_decide_eq_true hreading
  cases event with
  | evidence event =>
      by_cases hcomplete : ∃ now plan, event = .completeDeletion now plan
      · obtain ⟨now, plan, rfl⟩ := hcomplete
        cases hnext
      · have hnot : ∀ now plan, event ≠ .completeDeletion now plan :=
          fun now plan hevent => hcomplete ⟨now, plan, hevent⟩
        have hsome : (nextEvidence s.evidence event).map (fun evidence =>
            { s with evidence := evidence }) = some t := by
          cases event <;> first | exact hnext | exact absurd rfl (hnot _ _)
        obtain ⟨db, hdb, rfl⟩ := Option.map_eq_some_iff.mp hsome
        have hkeys := keyFrame_of_next hnot hdb
        exact ⟨(h.later hclock).withEvidence (h.tracked.next hreading hnot hdb) hkeys,
          fun hold hnone => hold (hkeys.deletion hnone)⟩
  | transcript now id provider schemaVersion encryptedPayload =>
      simp only [EvidenceTables.nextRows, insertTranscript] at hnext
      split at hnext
      · obtain ⟨recording, hopen, rfl⟩ := Option.map_eq_some_iff.mp hnext
        obtain ⟨hrecording, hlive⟩ := openRecording_eq_some hopen
        exact ⟨(h.later hclock).withRows (h.tracked.open_of_recording hrecording hlive) rfl rfl,
          fun hsome => hsome⟩
      · cases hnext
  | evaluation now row sidecar =>
      simp only [EvidenceTables.nextRows, insertEvaluation] at hnext
      split at hnext
      · obtain ⟨recording, hopen, rfl⟩ := Option.map_eq_some_iff.mp hnext
        obtain ⟨hrecording, hlive⟩ := openRecording_eq_some hopen
        exact ⟨(h.later hclock).withRows (h.tracked.open_of_recording hrecording hlive) rfl rfl,
          fun hsome => hsome⟩
      · cases hnext
  | part partNumber =>
      simp only [EvidenceTables.nextRows, insertPart] at hnext
      split at hnext
      · next hactive =>
        cases hnext
        obtain ⟨upload, hupload, hstate⟩ := Option.any_eq_true _ _ |>.mp hactive
        rw [decide_eq_true_eq] at hstate
        have hopen : IsErased s.evidence = false := by
          by_contra herased
          have hgone := ((h.tracked.shredded (Bool.not_eq_false _ ▸ herased)).upload upload hupload).1
          rw [hstate] at hgone
          rcases hgone with hgone | hgone <;> cases hgone
        exact ⟨(h.later hclock).withRows hopen rfl rfl, fun hsome => hsome⟩
      · cases hnext
  | completeDeletion now plan =>
      obtain ⟨hkept, hsame, hjob⟩ := h.complete hnext
      exact ⟨hkept.later (hsame ▸ hclock), hjob⟩

theorem Kept.step (h : s.Kept) (event : TableEvent) :
    (s.step event).Kept ∧ (s.evidence.deletion ≠ none → (s.step event).evidence.deletion ≠ none) := by
  unfold EvidenceTables.step EvidenceTables.next
  split
  · next hreading =>
    cases hnext : s.nextRows event with
    | none => exact ⟨h, id⟩
    | some t => exact h.nextRows hreading hnext
  · exact ⟨h, id⟩

/-- An accelerating approval leaves a deletion job. -/
theorem deletion_of_accelerates (h : s.Accelerates event) :
    (s.step event).evidence.deletion ≠ none := by
  obtain ⟨now, jobId, idempotencyKey, rfl, hsome⟩ := h
  obtain ⟨t, hnext⟩ := Option.isSome_iff_exists.mp hsome
  rw [EvidenceTables.step, hnext, Option.getD_some]
  unfold EvidenceTables.next at hnext
  split at hnext
  · obtain ⟨rows, hrows, rfl⟩ := Option.map_eq_some_iff.mp hnext
    obtain ⟨db, hdb, rfl⟩ := Option.map_eq_some_iff.mp hrows
    simp only [nextEvidence, approveReview] at hdb
    split at hdb
    · cases hdb
      exact Option.some_ne_none _
    · cases hdb
  · cases hnext

end Tables

section Histories

variable {attemptId authorId repositoryId headSha : JsString} {expiresAt clock : Timestamp}

/-- The rows after a history. -/
def tablesAfter (attemptId authorId repositoryId headSha : JsString) (expiresAt clock : Timestamp)
    (events : List TableEvent) : EvidenceTables :=
  after EvidenceTables.step (start attemptId authorId repositoryId headSha expiresAt clock) events

theorem kept_after (events : List TableEvent) :
    (tablesAfter attemptId authorId repositoryId headSha expiresAt clock events).Kept :=
  after_keeps (I := fun s : EvidenceTables => s.Kept) kept_start (fun _ event h => (h.step event).1)
    events

theorem deletion_after {events : List TableEvent}
    (haccelerated : Once EvidenceTables.step
      (start attemptId authorId repositoryId headSha expiresAt clock) Accelerates events) :
    (tablesAfter attemptId authorId repositoryId headSha expiresAt clock events).evidence.deletion ≠
      none := by
  obtain ⟨front, event, rest, rfl, haccelerates⟩ := haccelerated
  have hjob := deletion_of_accelerates haccelerates
  have hkept := ((@kept_after attemptId authorId repositoryId headSha expiresAt clock front).step
    event).1
  unfold tablesAfter
  rw [show front ++ event :: rest = front ++ [event] ++ rest by simp, after_append, after_concat]
  exact (after_keeps (I := fun s : EvidenceTables => s.Kept ∧ s.evidence.deletion ≠ none)
    ⟨hkept, hjob⟩ (fun s event h => ⟨(h.1.step event).1, (h.1.step event).2 h.2⟩) rest).2

/-! ## A run after the approval -/

section Deletes

variable {s : EvidenceTables} {now : Timestamp} {job : DeletionJob}

/-- While the due job runs, the trigger lets the payload go exactly when the sidecar is due. -/
theorem shredSidecar_isSome (hjob : s.evidence.deletion = some job) (hstate : job.state = .running)
    (hdue : job.deadline ≤ now) :
    (shredSidecar now s.evidence.deletion s.sidecar).isSome = s.sidecarIsDue now := by
  unfold shredSidecar sidecarIsDue
  cases s.sidecar with
  | none => rfl
  | some row =>
      dsimp only [Option.all_some]
      cases row.content with
      | shredded deletedAt => rfl
      | «sealed» encryptedPayload =>
          by_cases hpast : row.deleteAfter ≤ now <;>
            simp [guardMultimodalSidecar, hjob, hstate, hdue, hpast]

/-- The completing transaction of a run goes through exactly when the sidecar is due. -/
theorem Kept.completes (h : s.Kept) (hjob : s.evidence.deletion = some job)
    (hstate : job.state = .running) (hdue : job.deadline ≤ now) {plan : EvidenceDeletionPlan}
    (hid : plan.deletionJobId = job.id) (hattempt : plan.attemptId = s.evidence.attempt.id) :
    (s.sidecarIsDue now = true → ∃ t, s.completeDeletion now plan = some t ∧ t.IsDeleted) ∧
      (s.sidecarIsDue now = false → s.completeDeletion now plan = none) := by
  have hopen : job.state ≠ .completed := by rw [hstate]; decide
  have hshred := shredSidecar_isSome hjob hstate hdue
  have hunfold : s.completeDeletion now plan =
      (shredSidecar now s.evidence.deletion s.sidecar).map fun sidecar =>
        { s with
          evidence := Worker.completeDeletion now plan s.evidence
          transcripts := s.transcripts.map (eraseTranscript now)
          evaluations := s.evaluations.map (eraseEvaluation now)
          sidecar := sidecar
          recordingParts := [] } := by
    unfold EvidenceTables.completeDeletion
    rw [hjob, hid, Option.filter_some, if_pos (decide_eq_true rfl)]
    dsimp only
    rw [if_neg hopen, hattempt, if_neg (not_not.mpr rfl)]
  constructor
  · intro hpast
    obtain ⟨sidecar, hsidecar⟩ := Option.isSome_iff_exists.mp (hshred.trans hpast)
    rw [hsidecar, Option.map_some] at hunfold
    refine ⟨_, hunfold, ?_⟩
    have herased : IsErased (Worker.completeDeletion now plan s.evidence) = true := by
      simp [Worker.completeDeletion, IsErased, hjob, hid, hopen, hattempt, Option.filter]
    exact ⟨herased, (h.complete hunfold).1.shredded herased⟩
  · intro hearly
    rw [hunfold, Option.map_eq_none_iff]
    exact Option.not_isSome_iff_eq_none.mp (by simp [hshred, hearly])

/-- A run whose job is due deletes the evidence exactly when the sidecar is due. -/
theorem Kept.deleteEvidenceJob (h : s.Kept) (hjob : s.evidence.deletion = some job)
    {claimAt completeAt : Timestamp} (hclaim : s.clock ≤ claimAt) (hcomplete : claimAt ≤ completeAt)
    {errorClass : JsString} :
    (s.deleteEvidenceJob claimAt completeAt job.id errorClass).IsDeleted ↔
      s.sidecarIsDue completeAt = true := by
  have hdue : job.deadline ≤ claimAt := (h.tracked.due job hjob).trans hclaim
  by_cases hstate : job.state = .completed
  · have herased : IsErased s.evidence = true := by simp [IsErased, hjob, hstate]
    have hshredded := h.shredded herased
    have hsame : s.deleteEvidenceJob claimAt completeAt job.id errorClass = s := by
      simp [EvidenceTables.deleteEvidenceJob, claimDeletion, hjob, hstate, Option.filter]
    rw [hsame]
    refine iff_of_true ⟨herased, hshredded⟩ ?_
    unfold sidecarIsDue
    cases hsidecar : s.sidecar with
    | none => rfl
    | some row =>
        obtain ⟨deletedAt, hcontent⟩ := hshredded.sidecar row hsidecar
        rw [Option.all_some, hcontent]
  · obtain ⟨plan, hplan, hid, hattempt⟩ : ∃ plan : EvidenceDeletionPlan,
        claimDeletion claimAt job.id s.evidence =
          ({ s.evidence with
              deletion := some
                { job with
                  state := .running
                  attempts := job.attempts + 1
                  updatedAt := claimAt } }, some plan) ∧
          plan.deletionJobId = job.id ∧ plan.attemptId = s.evidence.attempt.id := by
      refine ⟨⟨job.id, s.evidence.attempt.id, liveObjectKeys s.evidence,
        openMultipartUploads s.evidence⟩, ?_, rfl, rfl⟩
      simp [claimDeletion, hjob, hstate, Option.filter, hdue]
    have hkept : ({ s with evidence := (claimDeletion claimAt job.id s.evidence).1 } :
        EvidenceTables).Kept :=
      h.withEvidence (tracked_of_claimDeletion h.tracked)
        (@keyFrame_of_claimDeletion (.claimDeletion claimAt job.id) s.evidence claimAt job.id)
    rw [hplan] at hkept
    have hcompletes := hkept.completes rfl rfl (hdue.trans hcomplete) hid hattempt
    unfold EvidenceTables.deleteEvidenceJob
    rw [hplan]
    dsimp only
    cases hpast : s.sidecarIsDue completeAt with
    | true =>
        obtain ⟨t, hcompleted, hdeleted⟩ := hcompletes.1 hpast
        rw [hcompleted, Option.getD_some]
        exact iff_of_true hdeleted rfl
    | false =>
        rw [hcompletes.2 hpast, Option.getD_none]
        refine iff_of_false (fun hdeleted => ?_) (by simp)
        have herased := hdeleted.1
        simp [failDeletion, IsErased, Option.filter, hid] at herased

end Deletes

/-- Whatever happened to an attempt that a maintainer passed under a policy that deletes its
evidence then: a run on its deletion job deletes everything exactly when the attempt has no
sealed multimodal sidecar or the sidecar's own deadline has passed, and no sweep puts the
deadline of the job into the future. -/
theorem accelerated_deletion (attemptId authorId repositoryId headSha : JsString)
    (expiresAt clock : Timestamp) (events : List TableEvent)
    (haccelerated : Once EvidenceTables.step
      (start attemptId authorId repositoryId headSha expiresAt clock) Accelerates events) :
    let s := tablesAfter attemptId authorId repositoryId headSha expiresAt clock events
    (∃ job, s.evidence.deletion = some job ∧
      ∀ claimAt completeAt errorClass, s.clock ≤ claimAt → claimAt ≤ completeAt →
        ((s.deleteEvidenceJob claimAt completeAt job.id errorClass).IsDeleted ↔
          s.sidecarIsDue completeAt = true)) ∧
    ∀ now staleBefore jobId selected job, s.clock ≤ now →
      (enqueueDueDeletions now staleBefore jobId selected s.evidence).deletion = some job →
      job.deadline ≤ now := by
  intro s
  have hkept : s.Kept := kept_after events
  obtain ⟨job, hjob⟩ := Option.ne_none_iff_exists'.mp (deletion_after haccelerated)
  refine ⟨⟨job, hjob, fun claimAt completeAt errorClass hclaim hcomplete =>
    hkept.deleteEvidenceJob hjob hclaim hcomplete⟩, ?_⟩
  intro now staleBefore jobId selected job' hclock hjob'
  exact (hkept.tracked.sweep hclock).due job' hjob'

end Histories

/-! ## One history -/

/-- An attempt whose recording is evaluated for review, perhaps with a multimodal sidecar. -/
def sampleReview (sidecar : Option (JsString × JsString)) : List TableEvent :=
  [.evidence (.advance .ready),
    .evidence (.issueMaterial 10 (js "m1") (js "o1") (js "k1") (js "RSA-OAEP-256")),
    .evidence (.advance .active),
    .evidence (.createUpload 10 (js "u1") (js "o1") (js "evidence/o1") (js "p1")),
    .part 1,
    .evidence (.finalize 10 true FinalizerSystem.samplePending),
    .evidence (.validate 11 sampleRecording),
    .transcript 12 (js "t1") (js "asr") (js "1") (js "transcript"),
    .evaluation 13
      { id := js "e1"
        provider := js "judge"
        model := js "model"
        promptVersion := js "1"
        schemaVersion := js "1"
        rubricVersion := js "1"
        encryptedPayload := js "evaluation"
        recommendation := js "review_required"
        deleteAfter := 0
        deletedAt := none } sidecar,
    .evidence (.advance .reviewRequired)]

def sampleApproval : TableEvent := .evidence (.approve 20 (js "j1") (js "review-key") true)

def sampleReviewed (sidecar : Option (JsString × JsString)) : EvidenceTables :=
  tablesAfter (js "a1") (js "author") (js "repository") (js "head") 28800000 10
    (sampleReview sidecar ++ [sampleApproval])

theorem accelerated_deletion_sample :
    ((sampleReviewed none).transcripts.length = 1 ∧ (sampleReviewed none).evaluations.length = 1) ∧
      ((sampleReviewed none).deleteEvidenceJob 30 31 (js "j1") (js "Error")).IsDeleted := by
  have haccelerated : Once EvidenceTables.step
      (start (js "a1") (js "author") (js "repository") (js "head") 28800000 10) Accelerates
      (sampleReview none ++ [sampleApproval]) :=
    ⟨sampleReview none, sampleApproval, [], rfl, 20, js "j1", js "review-key", rfl,
      by decide⟩
  obtain ⟨job, hjob, hruns⟩ := (accelerated_deletion (js "a1") (js "author") (js "repository")
    (js "head") 28800000 10 (sampleReview none ++ [sampleApproval]) haccelerated).1
  have hid : (sampleReviewed none).evidence.deletion.map (·.id) = some (js "j1") := by
    decide
  have hsame : job.id = js "j1" := by
    unfold sampleReviewed at hid
    rw [hjob, Option.map_some] at hid
    exact Option.some_inj.mp hid
  refine ⟨by decide, ?_⟩
  rw [← hsame]
  exact (hruns 30 31 (js "Error") (by decide) (by decide)).mpr (by decide)

/-- The sidecar of an attempt passed at 20 is kept by its trigger, and with it all evidence. -/
theorem sidecar_keeps_evidence :
    Once EvidenceTables.step
        (start (js "a1") (js "author") (js "repository") (js "head") 28800000 10) Accelerates
        (sampleReview (some (js "s1", js "sidecar")) ++ [sampleApproval]) ∧
      (sampleReviewed (some (js "s1", js "sidecar"))).evidence.deletion.map (·.id) =
        some (js "j1") ∧
      ¬ ((sampleReviewed (some (js "s1", js "sidecar"))).deleteEvidenceJob 30 31 (js "j1")
        (js "Error")).IsDeleted := by
  refine ⟨⟨sampleReview (some (js "s1", js "sidecar")), sampleApproval, [], rfl, 20, js "j1",
    js "review-key", rfl, by decide⟩, by decide, fun hdeleted => ?_⟩
  have hopen : IsErased ((sampleReviewed (some (js "s1", js "sidecar"))).deleteEvidenceJob 30 31
      (js "j1") (js "Error")).evidence = false := by
    decide
  exact nomatch hopen.symm.trans hdeleted.1

end EvidenceTables

end Worker

end UnderstandProof
