import UnderstandProof.Worker.MediaFinalizeRuns
import UnderstandProof.Worker.RetentionRuns

/-!
# The deletion of evidence over all histories

In every history the deletion job is completed at most once, with one audit event. While no
finalization is accepted behind a sweep that has found the attempt due, and no upload session
or frame is inserted while a run holds a plan, a plan and what is already gone cover the keys
of all rows that are not erased, and nothing is erased before its deadline unless a
maintainer has passed the attempt under a policy that deletes its evidence then.
-/

open Foundation

namespace UnderstandProof

namespace Worker

open Db
open Domain (AttemptStatus Timestamp)

/-! ## What a transaction does to the keys -/

section Keys

variable {event : EvidenceEvent} {db db' : Evidence} {key : JsString}

theorem isErased_eq : IsErased db = (completedJob db).isSome := by
  unfold IsErased completedJob
  cases db.deletion with
  | none => rfl
  | some job => by_cases hstate : job.state = .completed <;> simp [Option.filter, hstate]

theorem KeyFrame.isErased (h : KeyFrame event db db') : IsErased db' = IsErased db := by
  have hsome := congrArg Option.isSome h.completed
  rwa [Option.isSome_map, Option.isSome_map, ← isErased_eq, ← isErased_eq] at hsome

theorem EvidenceFrame.deadline (h : EvidenceFrame db db') :
    db'.attempt.evidenceDeleteAfter = db.attempt.evidenceDeleteAfter := by
  rw [h.attempt]

/-- A transaction that inserts no key leaves no live key that was not live before. -/
theorem KeyFrame.live (h : KeyFrame event db db') (hinserts : insertsKey event = false)
    (hopen : ∀ upload, db.upload = some upload → upload.state ≠ .deleted)
    (hkey : key ∈ liveObjectKeys db') : key ∈ liveObjectKeys db := by
  rcases mem_liveObjectKeys.mp hkey with ⟨recording, hrecording, hdeleted, rfl⟩ |
    ⟨frame, hframe, hdeleted, rfl⟩ | ⟨upload', hupload', -, rfl⟩
  · rcases h.recording recording hrecording with hkept | ⟨-, upload, hupload, hstate, hsame⟩
    · exact mem_liveObjectKeys.mpr (.inl ⟨recording, hkept, hdeleted, rfl⟩)
    · exact mem_liveObjectKeys.mpr (.inr (.inr ⟨upload, hupload, hstate, hsame.symm⟩))
  · rcases h.frames frame hframe with hkept | ⟨hnew, -⟩
    · exact mem_liveObjectKeys.mpr (.inr (.inl ⟨frame, hkept, hdeleted, rfl⟩))
    · exact nomatch hinserts.symm.trans hnew
  · rcases h.upload with hkeeps | ⟨hnew, -⟩
    · obtain ⟨upload, hupload, -, hsame, -⟩ := hkeeps upload' hupload'
      exact mem_liveObjectKeys.mpr (.inr (.inr ⟨upload, hupload, hopen upload hupload, hsame.symm⟩))
    · exact nomatch hinserts.symm.trans hnew

theorem KeyFrame.not_deleted (h : KeyFrame event db db')
    (hopen : ∀ upload, db.upload = some upload → upload.state ≠ .deleted) :
    ∀ upload, db'.upload = some upload → upload.state ≠ .deleted := by
  intro upload' hupload' hstate
  rcases h.upload with hkeeps | ⟨-, -, hnew⟩
  · obtain ⟨upload, hupload, -, -, hdeleted⟩ := hkeeps upload' hupload'
    exact hopen upload hupload (hdeleted hstate)
  · exact hnew upload' hupload' hstate

/-- Only a completed deletion puts a placeholder in the place of a key. -/
theorem KeyFrame.not_isReplaced (h : KeyFrame event db db') : ¬ IsReplaced db db' key := by
  rintro ⟨table, id, hbefore, hnot, hafter⟩
  cases table with
  | recordingObjects =>
      obtain ⟨recording, hrecording, -⟩ := mem_recordingRows.mp hbefore
      obtain ⟨recording', hrecording', hid, hkey⟩ := mem_recordingRows.mp hafter
      rcases h.recording recording' hrecording' with hkept | ⟨hnone, -⟩
      · exact hnot (mem_recordingRows.mpr ⟨recording', hkept, hid, hkey⟩)
      · exact nomatch hnone.symm.trans hrecording
  | frameSelections =>
      obtain ⟨frame, hframe, hid, -⟩ := mem_frameRows.mp hbefore
      obtain ⟨frame', hframe', hid', hkey⟩ := mem_frameRows.mp hafter
      rcases h.frames frame' hframe' with hkept | ⟨-, hother⟩
      · exact hnot (mem_frameRows.mpr ⟨frame', hkept, hid', hkey⟩)
      · exact hother frame hframe (hid.trans hid'.symm)
  | uploadSessions =>
      obtain ⟨upload, hupload, -⟩ := mem_uploadRows.mp hbefore
      obtain ⟨upload', hupload', hid, hkey⟩ := mem_uploadRows.mp hafter
      rcases h.upload with hkeeps | ⟨-, hnone, -⟩
      · obtain ⟨upload, hupload, hid', hsame, -⟩ := hkeeps upload' hupload'
        exact hnot (mem_uploadRows.mpr ⟨upload, hupload, hid'.symm.trans hid,
          hsame.symm.trans hkey⟩)
      · exact nomatch hnone.symm.trans hupload

/-- What a completed deletion puts a placeholder for was live. -/
theorem live_of_isReplaced {now : Timestamp} {plan : EvidenceDeletionPlan}
    (hnodup : (db.frames.map (·.id)).Nodup)
    (h : IsReplaced db (completeDeletion now plan db) key) : key ∈ liveObjectKeys db := by
  obtain ⟨table, id, hbefore, hnot, hafter⟩ := h
  rcases completeDeletion_cases now plan db with hsame | ⟨job, -, -, -, -, hsame⟩
  · rw [hsame] at hafter
    exact absurd hafter hnot
  rw [hsame] at hafter
  cases table with
  | recordingObjects =>
      obtain ⟨recording, hrecording, hid, rfl⟩ := mem_recordingRows.mp hbefore
      obtain ⟨recording', hrecording', hid', hkey⟩ := mem_recordingRows.mp hafter
      obtain ⟨_, hold, rfl⟩ := Option.map_eq_some_iff.mp hrecording'
      cases hrecording.symm.trans hold
      by_cases hdeleted : recording.deletedAt = none
      · exact mem_liveObjectKeys.mpr (.inl ⟨recording, hrecording, hdeleted, rfl⟩)
      · rw [eraseRecording, if_neg hdeleted] at hkey
        exact absurd (mem_recordingRows.mpr ⟨recording, hrecording, hid, hkey⟩) hnot
  | frameSelections =>
      obtain ⟨frame, hframe, hid, rfl⟩ := mem_frameRows.mp hbefore
      obtain ⟨frame', hframe', hid', hkey⟩ := mem_frameRows.mp hafter
      obtain ⟨other, hother, rfl⟩ := List.mem_map.mp hframe'
      have hotherId : other.id = id := by
        rw [← hid', eraseFrame]
        split <;> rfl
      obtain rfl := List.inj_on_of_nodup_map hnodup hframe hother (hid.trans hotherId.symm)
      by_cases hdeleted : frame.deletedAt = none
      · exact mem_liveObjectKeys.mpr (.inr (.inl ⟨frame, hframe, hdeleted, rfl⟩))
      · rw [eraseFrame, if_neg hdeleted] at hkey
        exact absurd (mem_frameRows.mpr ⟨frame, hframe, hid, hkey⟩) hnot
  | uploadSessions =>
      obtain ⟨upload, hupload, hid, rfl⟩ := mem_uploadRows.mp hbefore
      obtain ⟨upload', hupload', hid', hkey⟩ := mem_uploadRows.mp hafter
      obtain ⟨_, hold, rfl⟩ := Option.map_eq_some_iff.mp hupload'
      cases hupload.symm.trans hold
      by_cases hdeleted : upload.state = .deleted
      · rw [eraseUpload, if_neg (not_not_intro hdeleted)] at hkey
        exact absurd (mem_uploadRows.mpr ⟨upload, hupload, hid, hkey⟩) hnot
      · exact mem_liveObjectKeys.mpr (.inr (.inr ⟨upload, hupload, hdeleted, rfl⟩))

end Keys

namespace RetentionSystem

/-! ## A plan covers the live keys -/

/-- The job is completed with one audit event, and until then what a run has left of its plan
and what is already gone cover the live keys. -/
structure Covered (s : RetentionSystem) : Prop where
  nodup : (s.db.frames.map (·.id)).Nodup
  audits : deletedJobIds s.db = ((completedJob s.db).map (·.id)).toList
  upload : IsErased s.db = false → ∀ upload, s.db.upload = some upload → upload.state ≠ .deleted
  job : ∀ worker deleter, s.deleters worker = some deleter → s.db.deletion ≠ none
  keys : ∀ worker deleter, s.deleters worker = some deleter → IsErased s.db = false →
    ∀ key ∈ liveObjectKeys s.db, key ∈ deleter.keys ∨ s.gone key = true

section Covers

variable {s : RetentionSystem} {worker : ℕ} {deleter : Deleter} {now : Timestamp}

theorem covered_start {attemptId authorId repositoryId headSha : JsString}
    {expiresAt clock : Timestamp} :
    (start attemptId authorId repositoryId headSha expiresAt clock).Covered where
  nodup := List.nodup_nil
  audits := rfl
  upload := fun _ _ hupload => nomatch hupload
  job := fun _ _ hdeleter => nomatch hdeleter
  keys := fun _ _ hdeleter => nomatch hdeleter

namespace Covered

theorem withDb {event : EvidenceEvent} {db : Evidence} (h : s.Covered)
    (hframe : KeyFrame event s.db db)
    (hkeeps : insertsKey event = false ∨ ∀ worker, s.deleters worker = none) :
    ({ s with db := db } : RetentionSystem).Covered where
  nodup := hframe.nodup h.nodup
  audits := by
    dsimp only
    rw [hframe.audits, hframe.completed]
    exact h.audits
  upload := fun hopen => hframe.not_deleted (h.upload (hframe.isErased.symm.trans hopen))
  job := fun worker deleter hdeleter hnone => h.job worker deleter hdeleter (hframe.deletion hnone)
  keys := by
    intro worker deleter hdeleter hopen key hkey
    have hbefore := hframe.isErased.symm.trans hopen
    rcases hkeeps with hinserts | hnone
    · exact h.keys worker deleter hdeleter hbefore key
        (hframe.live hinserts (h.upload hbefore) hkey)
    · exact nomatch (hnone worker).symm.trans hdeleter

theorem withClock (h : s.Covered) : ({ s with clock := now } : RetentionSystem).Covered :=
  { h with }

theorem withGone {key : JsString} (h : s.Covered) :
    ({ s with gone := Function.update s.gone key true } : RetentionSystem).Covered :=
  { h with
    keys := by
      intro worker deleter hdeleter hopen other hother
      dsimp only
      rw [Function.update_apply]
      split
      · exact .inr rfl
      · exact h.keys worker deleter hdeleter hopen other hother }

theorem withDeleter (h : s.Covered) (hjob : s.db.deletion ≠ none)
    (hkeys : IsErased s.db = false → ∀ key ∈ liveObjectKeys s.db,
      key ∈ deleter.keys ∨ s.gone key = true) : (s.withDeleter worker deleter).Covered :=
  { h with
    job := by
      intro other found hfound
      exact hjob
    keys := by
      intro other found hfound hopen
      change s.deleters.set worker deleter other = some found at hfound
      rw [Table.set_apply] at hfound
      split at hfound
      · obtain rfl := Option.some_inj.mp hfound
        exact hkeys hopen
      · exact h.keys other found hfound hopen }

theorem withoutDeleter (h : s.Covered) : (s.withoutDeleter worker).Covered := by
  have hkept : ∀ other found, (s.withoutDeleter worker).deleters other = some found →
      s.deleters other = some found := by
    intro other found hfound
    change Function.update s.deleters worker none other = some found at hfound
    rw [Function.update_apply] at hfound
    split at hfound
    · cases hfound
    · exact hfound
  exact
    { h with
      job := fun other found hfound => h.job other found (hkept other found hfound)
      keys := fun other found hfound => h.keys other found (hkept other found hfound) }

theorem complete {plan : EvidenceDeletionPlan} (h : s.Covered) :
    ({ s with db := completeDeletion now plan s.db } : RetentionSystem).Covered := by
  rcases completeDeletion_cases now plan s.db with hsame | ⟨job, hjob, hid, hopen, -, hsame⟩
  · rw [hsame]
    exact h
  · have hids : ∀ frames : List FrameSelection,
        (frames.map (eraseFrame now)).map (·.id) = frames.map (·.id) := by
      intro frames
      rw [List.map_map]
      refine List.map_congr_left fun frame _ => ?_
      change (eraseFrame now frame).id = frame.id
      unfold eraseFrame
      split <;> rfl
    have hbefore : deletedJobIds s.db = [] := by
      rw [h.audits, completedJob, hjob]
      simp [Option.filter, hopen]
    rw [hsame]
    refine ⟨?_, ?_, fun herased => ?_, fun _ _ _ hnone => ?_, fun _ _ _ herased => ?_⟩
    · exact (hids s.db.frames).symm ▸ h.nodup
    · change (s.db.audits ++ [DeletionAudit.deleted plan.deletionJobId]).filterMap deletedJobId = _
      rw [List.filterMap_append, ← deletedJobIds, hbefore, ← hid]
      rfl
    · cases herased
    · cases hnone
    · cases herased

end Covered

/-- A claim that returns a plan has read the live keys of the rows it leaves. -/
theorem claimDeletion_plan {deletionJobId : JsString} {db db' : Evidence}
    {plan : EvidenceDeletionPlan} (h : claimDeletion now deletionJobId db = (db', some plan)) :
    db'.deletion ≠ none ∧ plan.objectKeys = liveObjectKeys db' := by
  unfold claimDeletion at h
  split at h
  · cases h
  · split at h
    · cases h
    · split at h
      · cases h
      · cases h
        exact ⟨by simp, rfl⟩

theorem covered_claim {deletionJobId : JsString} (h : s.Covered) :
    (s.claim worker now deletionJobId).Covered := by
  have hframe : KeyFrame (.claimDeletion now deletionJobId) s.db
      (claimDeletion now deletionJobId s.db).1 := keyFrame_of_claimDeletion
  unfold claim
  cases hclaim : claimDeletion now deletionJobId s.db with
  | mk db plan =>
      rw [hclaim] at hframe
      have hdb : ({ s with db := db } : RetentionSystem).Covered := h.withDb hframe (.inl rfl)
      cases plan with
      | none => exact hdb
      | some plan =>
          obtain ⟨hjob, hkeys⟩ := claimDeletion_plan hclaim
          refine hdb.withDeleter hjob fun _ key hkey => .inl ?_
          exact List.mem_dedup.mpr (hkeys.symm ▸ hkey)

theorem working_eq_some : s.working worker = some deleter ↔
    s.deleters worker = some deleter ∧ deleter.hasFailed = false := by
  simp [working, Option.filter_eq_some_iff]

/-- A run that deletes the next object of its plan. -/
theorem deleteObject_eq_some {t : RetentionSystem} (h : s.deleteObject worker deleter = some t) :
    ∃ key keys, deleter.keys = key :: keys ∧
      t = { s with gone := Function.update s.gone key true }.withDeleter worker
        { deleter with keys := keys } := by
  unfold deleteObject at h
  split at h
  · next key keys huploads hkeys =>
    cases h
    exact ⟨key, keys, hkeys, rfl⟩
  · cases h

/-- Every step that keeps the plans keeps them covering. -/
theorem covered_step {event : RetentionEvent} (h : s.Covered) (hevent : s.KeepsPlans event) :
    (s.step event).Covered := by
  unfold RetentionSystem.step
  cases hnext : s.next event with
  | none => exact h
  | some t =>
      cases event with
      | tick now =>
          simp only [next, Option.ite_none_right_eq_some] at hnext
          cases hnext.2
          exact h.withClock
      | database event =>
          have hkeeps : insertsKey event = false ∨ ∀ worker, s.deleters worker = none := by
            cases event with
            | finalize now storable input => exact .inl rfl
            | _ => exact (or_assoc.mpr hevent).resolve_right (by simp [hnext])
          simp only [next, Option.ite_none_right_eq_some, Option.map_eq_some_iff] at hnext
          obtain ⟨⟨hother, -⟩, db, hdb, rfl⟩ := hnext
          refine h.withDb (keyFrame_of_next (fun now plan heq => ?_) hdb) hkeeps
          rw [heq] at hother
          cases hother
      | claim worker now deletionJobId =>
          simp only [next, Option.ite_none_right_eq_some] at hnext
          cases hnext.2
          exact covered_claim h
      | abortMultipartUpload worker =>
          simp only [next, Option.bind_eq_some_iff] at hnext
          obtain ⟨deleter, hworking, hnext⟩ := hnext
          obtain ⟨hfound, -⟩ := working_eq_some.mp hworking
          unfold abortMultipartUpload at hnext
          split at hnext
          · cases hnext
          · cases hnext
            exact h.withDeleter (h.job worker deleter hfound) (h.keys worker deleter hfound)
      | deleteObject worker =>
          simp only [next, Option.bind_eq_some_iff] at hnext
          obtain ⟨deleter, hworking, hnext⟩ := hnext
          obtain ⟨hfound, -⟩ := working_eq_some.mp hworking
          obtain ⟨key, keys, hkeys, rfl⟩ := deleteObject_eq_some hnext
          refine h.withGone.withDeleter (h.job worker deleter hfound) fun hopen other hother => ?_
          dsimp only
          rw [Function.update_apply]
          split
          · exact .inr rfl
          · next hne =>
            have hcovered := h.keys worker deleter hfound hopen other hother
            rw [hkeys, List.mem_cons] at hcovered
            exact hcovered.imp_left fun hmem => hmem.resolve_left hne
      | error worker =>
          simp only [next, Option.map_eq_some_iff] at hnext
          obtain ⟨deleter, hworking, rfl⟩ := hnext
          obtain ⟨hfound, -⟩ := working_eq_some.mp hworking
          exact h.withDeleter (h.job worker deleter hfound) (h.keys worker deleter hfound)
      | complete worker now acknowledged =>
          simp only [next, Option.map_eq_some_iff] at hnext
          obtain ⟨deleter, hfilter, rfl⟩ := hnext
          obtain ⟨hfound, -⟩ := working_eq_some.mp (Option.filter_eq_some_iff.mp hfilter).1
          have hcompleted := @Covered.complete s now deleter.plan h
          unfold complete
          dsimp only
          split
          · exact hcompleted.withoutDeleter
          · exact hcompleted.withDeleter (hcompleted.job worker deleter hfound)
              (hcompleted.keys worker deleter hfound)
      | fail worker now errorClass =>
          simp only [next, Option.map_eq_some_iff] at hnext
          obtain ⟨deleter, -, rfl⟩ := hnext
          have hframe : KeyFrame (.failDeletion now deleter.plan errorClass) s.db
              (failDeletion now deleter.plan errorClass s.db) := keyFrame_of_failDeletion
          exact (h.withDb hframe (.inl rfl)).withoutDeleter
      | crash worker =>
          simp only [next, Option.map_eq_some_iff] at hnext
          obtain ⟨deleter, -, rfl⟩ := hnext
          exact h.withoutDeleter

end Covers

/-! ## The deadline of the job -/

/-- The job is due, and due no earlier than the evidence. -/
def IsDue (clock : Timestamp) (db : Evidence) : Prop :=
  ∀ job, db.deletion = some job → job.deadline ≤ clock ∧
    ∀ deleteAfter, db.attempt.evidenceDeleteAfter = some deleteAfter → deleteAfter ≤ job.deadline

section Deadlines

variable {event : EvidenceEvent} {db db' : Evidence} {now clock : Timestamp}

theorem IsDue.of_frame (h : IsDue clock db) (hkeys : KeyFrame event db db')
    (hmoves : movesDeadline event = false)
    (hdeadline : db'.attempt.evidenceDeleteAfter = db.attempt.evidenceDeleteAfter) :
    IsDue clock db' := by
  intro job' hjob'
  obtain ⟨job, hjob, hsame⟩ := hkeys.deadline hmoves job' hjob'
  rw [hsame, hdeadline]
  exact h job hjob

/-- A sweep that finds the attempt due takes the deadline of its evidence. -/
theorem isDue_of_sweep {staleBefore : Timestamp} {jobId : JsString} {selected : Bool}
    (h : IsDue clock db) (hnow : now ≤ clock) :
    IsDue clock (enqueueDueDeletions now staleBefore jobId selected db) := by
  have hupsert : IsDue clock (upsertDueDeletion now jobId db) := by
    unfold upsertDueDeletion
    split
    · exact h
    · next deadline hdue =>
      obtain ⟨hmax, hpast⟩ := Option.filter_eq_some_iff.mp hdue
      rw [decide_eq_true_eq] at hpast
      have hexact : ∀ deleteAfter, db.attempt.evidenceDeleteAfter = some deleteAfter →
          deleteAfter = deadline := by
        intro deleteAfter hdeleteAfter
        rw [evidenceDeadlines, hdeleteAfter] at hmax
        exact Option.some_inj.mp hmax
      intro job' hjob'
      cases hjob : db.deletion with
      | none =>
          rw [hjob] at hjob'
          cases hjob'
          exact ⟨hpast.trans hnow, fun deleteAfter hdeleteAfter =>
            (hexact deleteAfter hdeleteAfter).le⟩
      | some job =>
          rw [hjob] at hjob'
          cases hjob'
          exact ⟨max_le (h job hjob).1 (hpast.trans hnow), fun deleteAfter hdeleteAfter =>
            (hexact deleteAfter hdeleteAfter).le.trans (le_max_right _ _)⟩
  intro job' hjob'
  obtain ⟨job, hjob, rfl⟩ := Option.map_eq_some_iff.mp hjob'
  split
  · exact hupsert job hjob
  · exact hupsert job hjob

theorem isDue_of_complete {plan : EvidenceDeletionPlan} (h : IsDue clock db) :
    IsDue clock (completeDeletion now plan db) := by
  rcases completeDeletion_cases now plan db with hsame | ⟨job, hjob, -, -, -, hsame⟩
  · rw [hsame]
    exact h
  · rw [hsame]
    intro job' hjob'
    cases hjob'
    exact h job hjob

/-- A transaction that is no acceleration and accepts no finalization behind the job. -/
theorem isDue_of_next (h : IsDue clock db)
    (hcomplete : ∀ now plan, event ≠ .completeDeletion now plan)
    (hreading : (clockReading event).all (· ≤ clock) = true)
    (hfinalize : ∀ now storable input, event = .finalize now storable input →
      db.deletion = none ∨ db.attempt.evidenceDeleteAfter ≠ none)
    (happrove : ∀ now jobId idempotencyKey, event ≠ .approve now jobId idempotencyKey true)
    (hnext : nextEvidence db event = some db') : IsDue clock db' := by
  have hkeys := keyFrame_of_next hcomplete hnext
  cases hmoves : movesDeadline event with
  | true =>
      cases event with
      | approve now jobId idempotencyKey accelerates =>
          cases accelerates with
          | true => exact absurd rfl (happrove now jobId idempotencyKey)
          | false => cases hmoves
      | sweep now staleBefore jobId selected =>
          cases hnext
          exact isDue_of_sweep h (by simpa [clockReading] using hreading)
      | _ => cases hmoves
  | false =>
      cases event with
      | finalize now storable input =>
          rcases hfinalize now storable input rfl with hnone | hdeadline
          · intro job hjob
            obtain ⟨before, hbefore, -⟩ := hkeys.deadline hmoves job hjob
            exact nomatch hnone.symm.trans hbefore
          · have hsame := @stepEvidence_finalize_of_kept db now storable input hdeadline
            rw [stepEvidence, hnext, Option.getD_some] at hsame
            rw [hsame]
            exact h
      | completeDeletion now plan => exact absurd rfl (hcomplete now plan)
      | _ =>
          exact h.of_frame hkeys hmoves (frame_of_next (by simp) (by simp) hnext).deadline

end Deadlines

section Steps

variable {s : RetentionSystem} {event : RetentionEvent}

/-- Every step that keeps the plans and accelerates nothing keeps the job due. -/
theorem isDue_step (h : IsDue s.clock s.db) (hevent : s.KeepsPlans event)
    (haccelerates : ¬ s.Accelerates event) :
    IsDue (s.step event).clock (s.step event).db := by
  unfold RetentionSystem.step
  cases hnext : s.next event with
  | none => exact h
  | some t =>
      cases event with
      | tick now =>
          simp only [next, Option.ite_none_right_eq_some] at hnext
          obtain ⟨hclock, hnext⟩ := hnext
          cases hnext
          exact fun job hjob => ⟨(h job hjob).1.trans hclock, (h job hjob).2⟩
      | database event =>
          have happrove : ∀ now jobId idempotencyKey,
              event ≠ .approve now jobId idempotencyKey true := by
            rintro now jobId idempotencyKey rfl
            exact haccelerates ⟨now, jobId, idempotencyKey, rfl, by rw [hnext]; rfl⟩
          have hfinalize : ∀ now storable input, event = .finalize now storable input →
              s.db.deletion = none ∨ s.db.attempt.evidenceDeleteAfter ≠ none := by
            rintro now storable input rfl
            exact (or_assoc.mpr hevent).resolve_right (by simp [hnext])
          simp only [next, Option.ite_none_right_eq_some, Option.map_eq_some_iff] at hnext
          obtain ⟨⟨hother, hreading⟩, db, hdb, rfl⟩ := hnext
          refine isDue_of_next h (fun now plan heq => ?_) hreading hfinalize happrove hdb
          rw [heq] at hother
          cases hother
      | claim worker now deletionJobId =>
          simp only [next, Option.ite_none_right_eq_some] at hnext
          cases hnext.2
          have hclaimed : IsDue s.clock (claimDeletion now deletionJobId s.db).1 :=
            @IsDue.of_frame (.claimDeletion now deletionJobId) _ _ _ h keyFrame_of_claimDeletion
              rfl frame_of_claimDeletion.deadline
          unfold claim
          cases hclaim : claimDeletion now deletionJobId s.db with
          | mk db plan =>
              rw [hclaim] at hclaimed
              cases plan with
              | none => exact hclaimed
              | some plan => exact hclaimed
      | abortMultipartUpload worker =>
          simp only [next, Option.bind_eq_some_iff] at hnext
          obtain ⟨deleter, -, hnext⟩ := hnext
          unfold abortMultipartUpload at hnext
          split at hnext
          · cases hnext
          · cases hnext
            exact h
      | deleteObject worker =>
          simp only [next, Option.bind_eq_some_iff] at hnext
          obtain ⟨deleter, -, hnext⟩ := hnext
          obtain ⟨key, keys, -, rfl⟩ := deleteObject_eq_some hnext
          exact h
      | error worker =>
          simp only [next, Option.map_eq_some_iff] at hnext
          obtain ⟨deleter, -, rfl⟩ := hnext
          exact h
      | complete worker now acknowledged =>
          simp only [next, Option.map_eq_some_iff] at hnext
          obtain ⟨deleter, -, rfl⟩ := hnext
          unfold complete
          dsimp only
          split
          · exact isDue_of_complete h
          · exact isDue_of_complete h
      | fail worker now errorClass =>
          simp only [next, Option.map_eq_some_iff] at hnext
          obtain ⟨deleter, -, rfl⟩ := hnext
          exact @IsDue.of_frame (.failDeletion now deleter.plan errorClass) _ _ _ h
            keyFrame_of_failDeletion rfl frame_of_failDeletion.deadline
      | crash worker =>
          simp only [next, Option.map_eq_some_iff] at hnext
          obtain ⟨deleter, -, rfl⟩ := hnext
          exact h

/-- A step keeps the frame of the keys, or completes the deletion after every object of a
plan is gone. -/
theorem db_of_step (s : RetentionSystem) (event : RetentionEvent) :
    (∃ cause, KeyFrame cause s.db (s.step event).db) ∨
      ∃ worker deleter now, s.deleters worker = some deleter ∧ deleter.keys = [] ∧
        (s.step event).db = completeDeletion now deleter.plan s.db := by
  have hsame : ∃ cause, KeyFrame cause s.db s.db := ⟨.snapshot true true, .refl⟩
  unfold RetentionSystem.step
  cases hnext : s.next event with
  | none => exact .inl hsame
  | some t =>
      cases event with
      | tick now =>
          simp only [next, Option.ite_none_right_eq_some] at hnext
          cases hnext.2
          exact .inl hsame
      | database event =>
          simp only [next, Option.ite_none_right_eq_some, Option.map_eq_some_iff] at hnext
          obtain ⟨⟨hother, -⟩, db, hdb, rfl⟩ := hnext
          refine .inl ⟨event, keyFrame_of_next (fun now plan heq => ?_) hdb⟩
          rw [heq] at hother
          cases hother
      | claim worker now deletionJobId =>
          simp only [next, Option.ite_none_right_eq_some] at hnext
          cases hnext.2
          have hframe : KeyFrame (.claimDeletion now deletionJobId) s.db
              (claimDeletion now deletionJobId s.db).1 := keyFrame_of_claimDeletion
          unfold claim
          cases hclaim : claimDeletion now deletionJobId s.db with
          | mk db plan =>
              rw [hclaim] at hframe
              cases plan with
              | none => exact .inl ⟨_, hframe⟩
              | some plan => exact .inl ⟨_, hframe⟩
      | abortMultipartUpload worker =>
          simp only [next, Option.bind_eq_some_iff] at hnext
          obtain ⟨deleter, -, hnext⟩ := hnext
          unfold abortMultipartUpload at hnext
          split at hnext
          · cases hnext
          · cases hnext
            exact .inl hsame
      | deleteObject worker =>
          simp only [next, Option.bind_eq_some_iff] at hnext
          obtain ⟨deleter, -, hnext⟩ := hnext
          obtain ⟨key, keys, -, rfl⟩ := deleteObject_eq_some hnext
          exact .inl hsame
      | error worker =>
          simp only [next, Option.map_eq_some_iff] at hnext
          obtain ⟨deleter, -, rfl⟩ := hnext
          exact .inl hsame
      | complete worker now acknowledged =>
          simp only [next, Option.map_eq_some_iff] at hnext
          obtain ⟨deleter, hfilter, rfl⟩ := hnext
          obtain ⟨hworking, hdone⟩ := Option.filter_eq_some_iff.mp hfilter
          obtain ⟨hfound, -⟩ := working_eq_some.mp hworking
          rw [decide_eq_true_eq] at hdone
          refine .inr ⟨worker, deleter, now, hfound, hdone.2.1, ?_⟩
          unfold complete
          dsimp only
          split <;> rfl
      | fail worker now errorClass =>
          simp only [next, Option.map_eq_some_iff] at hnext
          obtain ⟨deleter, -, rfl⟩ := hnext
          exact .inl ⟨.failDeletion now deleter.plan errorClass, keyFrame_of_failDeletion⟩
      | crash worker =>
          simp only [next, Option.map_eq_some_iff] at hnext
          obtain ⟨deleter, -, rfl⟩ := hnext
          exact .inl hsame

/-- A completed job stays completed. -/
theorem isErased_step (h : IsErased s.db = true) : IsErased (s.step event).db = true := by
  rcases db_of_step s event with ⟨cause, hframe⟩ | ⟨worker, deleter, now, -, -, hdb⟩
  · exact hframe.isErased.trans h
  · rw [hdb]
    rcases completeDeletion_cases now deleter.plan s.db with hsame | ⟨job, -, -, -, -, hsame⟩
    · rw [hsame]
      exact h
    · rw [hsame]
      rfl

/-- A key gets its placeholder when its object is gone. -/
theorem gone_of_isReplaced {key : JsString} (h : s.Covered)
    (hreplaced : IsReplaced s.db (s.step event).db key) : s.gone key = true := by
  rcases db_of_step s event with ⟨cause, hframe⟩ | ⟨worker, deleter, now, hfound, hkeys, hdb⟩
  · exact absurd hreplaced hframe.not_isReplaced
  · rw [hdb] at hreplaced
    have hlive := live_of_isReplaced h.nodup hreplaced
    rcases completeDeletion_cases now deleter.plan s.db with hsame | ⟨job, hjob, -, hopen, -, -⟩
    · rw [hsame] at hreplaced
      obtain ⟨table, id, -, hnot, hafter⟩ := hreplaced
      exact absurd hafter hnot
    · have herased : IsErased s.db = false := by simp [IsErased, hjob, hopen]
      have hcovered := h.keys worker deleter hfound herased key hlive
      rw [hkeys] at hcovered
      exact hcovered.resolve_left List.not_mem_nil

/-- What erases evidence follows a deletion job. -/
theorem deletion_of_erases (h : s.Covered) (herases : s.Erases event) :
    ∃ job, s.db.deletion = some job := by
  refine Option.ne_none_iff_exists'.mp ?_
  rcases herases with ⟨worker, rfl, hsome⟩ | ⟨key, hreplaced⟩ | ⟨hopen, hcompleted⟩
  · obtain ⟨t, hnext⟩ := Option.isSome_iff_exists.mp hsome
    simp only [next, Option.bind_eq_some_iff] at hnext
    obtain ⟨deleter, hworking, -⟩ := hnext
    exact h.job worker deleter (working_eq_some.mp hworking).1
  · rcases db_of_step s event with ⟨cause, hframe⟩ | ⟨worker, deleter, now, hfound, -⟩
    · exact absurd hreplaced hframe.not_isReplaced
    · exact h.job worker deleter hfound
  · rcases db_of_step s event with ⟨cause, hframe⟩ | ⟨worker, deleter, now, hfound, -⟩
    · exact nomatch (hframe.isErased.trans hopen).symm.trans hcompleted
    · exact h.job worker deleter hfound

end Steps

/-! ## Histories -/

section Histories

variable (attemptId authorId repositoryId headSha : JsString) (expiresAt clock : Timestamp)

/-- The system after a history. -/
def retentionAfter (events : List RetentionEvent) : RetentionSystem :=
  after RetentionSystem.step (start attemptId authorId repositoryId headSha expiresAt clock) events

variable {attemptId authorId repositoryId headSha expiresAt clock}

theorem covered_after {events : List RetentionEvent}
    (hkeeps : Throughout RetentionSystem.step
      (start attemptId authorId repositoryId headSha expiresAt clock) KeepsPlans events) :
    (retentionAfter attemptId authorId repositoryId headSha expiresAt clock events).Covered :=
  after_invariant (I := fun _ s => s.Covered) covered_start (fun _ _ => covered_step) hkeeps

/-- The job is due, or a maintainer has accelerated it. -/
theorem due_after {events : List RetentionEvent}
    (hkeeps : Throughout RetentionSystem.step
      (start attemptId authorId repositoryId headSha expiresAt clock) KeepsPlans events) :
    Once RetentionSystem.step (start attemptId authorId repositoryId headSha expiresAt clock)
        Accelerates events ∨
      IsDue
        (retentionAfter attemptId authorId repositoryId headSha expiresAt clock events).clock
        (retentionAfter attemptId authorId repositoryId headSha expiresAt clock events).db := by
  have hstart : IsDue clock (startEvidence attemptId authorId repositoryId headSha expiresAt) :=
    fun _ hjob => nomatch hjob
  refine after_invariant (I := fun events s => Once RetentionSystem.step
    (start attemptId authorId repositoryId headSha expiresAt clock) Accelerates events ∨
      IsDue s.clock s.db) (.inr hstart) (fun events event h hevent => ?_) hkeeps
  rw [once_concat]
  rcases h with honce | hdue
  · exact .inl (.inl honce)
  · by_cases haccelerates : (after RetentionSystem.step
        (start attemptId authorId repositoryId headSha expiresAt clock) events).Accelerates event
    · exact .inl (.inr haccelerates)
    · exact .inr (isDue_step hdue hevent haccelerates)

variable (attemptId authorId repositoryId headSha expiresAt clock)

/-- In every history that keeps the plans, the deletion job is completed at most once and with
one audit event; a key gets its placeholder only when `deleteObject` has deleted its object or
reported it missing; and evidence is erased only when its deadline has passed, or after a
maintainer has accelerated it. -/
theorem deletes_what_it_forgets (events : List RetentionEvent)
    (hkeeps : Throughout RetentionSystem.step
      (start attemptId authorId repositoryId headSha expiresAt clock) KeepsPlans events) :
    (∀ front event middle event' rest,
      events = front ++ event :: (middle ++ event' :: rest) →
      (retentionAfter attemptId authorId repositoryId headSha expiresAt clock front).Completes
        event →
      ¬ (retentionAfter attemptId authorId repositoryId headSha expiresAt clock
        (front ++ event :: middle)).Completes event') ∧
    deletedJobIds (retentionAfter attemptId authorId repositoryId headSha expiresAt clock
        events).db =
      ((completedJob (retentionAfter attemptId authorId repositoryId headSha expiresAt clock
        events).db).map (·.id)).toList ∧
    ∀ front event rest, events = front ++ event :: rest →
      let s := retentionAfter attemptId authorId repositoryId headSha expiresAt clock front
      (∀ key, IsReplaced s.db (s.step event).db key → s.gone key = true) ∧
      (s.Erases event → ∀ deleteAfter, s.db.attempt.evidenceDeleteAfter = some deleteAfter →
        deleteAfter ≤ s.clock ∨
          Once RetentionSystem.step
            (start attemptId authorId repositoryId headSha expiresAt clock) Accelerates
            front) := by
  refine ⟨?_, (covered_after hkeeps).audits, ?_⟩
  · rintro front event middle event' rest - ⟨-, hcompleted⟩ ⟨hopen, -⟩
    have herased : IsErased (retentionAfter attemptId authorId repositoryId headSha expiresAt
        clock (front ++ event :: middle)).db = true := by
      unfold retentionAfter
      rw [after_append]
      exact after_keeps (I := fun s : RetentionSystem => IsErased s.db = true) hcompleted
        (fun s event h => isErased_step h) middle
    exact nomatch hopen.symm.trans herased
  · rintro front event rest rfl
    have hfront := throughout_front hkeeps
    have hcovered := @covered_after attemptId authorId repositoryId headSha expiresAt clock front
      hfront
    refine ⟨fun key => gone_of_isReplaced hcovered, fun herases deleteAfter hdeleteAfter => ?_⟩
    rcases due_after hfront with haccelerated | hdue
    · exact .inr haccelerated
    · obtain ⟨job, hjob⟩ := deletion_of_erases hcovered herases
      exact .inl (((hdue job hjob).2 deleteAfter hdeleteAfter).trans (hdue job hjob).1)

end Histories

/-! ## One history -/

section Samples

/-- An attempt up to its upload. -/
def sampleUpload : List RetentionEvent :=
  [.database (.advance .ready),
    .database (.issueMaterial 0 (js "m1") (js "o1") (js "k1") (js "RSA-OAEP-256")),
    .database (.advance .active),
    .database (.createUpload 1 (js "u1") (js "o1") (js "evidence/o1") (js "p1"))]

/-- Its recording, and a run that has deleted all objects after the deadline. -/
def sampleDeletion : List RetentionEvent :=
  [.database (.finalize 2 true FinalizerSystem.samplePending),
    .database (.validate 3 sampleRecording),
    .tick 86400003,
    .database (.sweep 86400003 0 (js "j1") true),
    .claim 0 86400003 (js "j1"),
    .deleteObject 0]

def sampleCompletion : RetentionEvent := .complete 0 86400003 true

def sampleHistory (events : List RetentionEvent) : RetentionSystem :=
  retentionAfter (js "a1") (js "author") (js "repository") (js "head") 28800000 10 events

/-- A sweep finds the upload expired, an acceptance that has read the clock before commits
behind it, and the evidence is erased a day before its deadline. -/
theorem accepted_evidence_erased_early :
    let swept := sampleHistory (sampleUpload ++
      [.tick 28800000, .database (.sweep 28800000 0 (js "j1") true),
        .database (.finalize 28799999 true
          { FinalizerSystem.samplePending with evidenceDeleteAfter := some 115199999 }),
        .claim 0 28800000 (js "j1"), .abortMultipartUpload 0, .deleteObject 0])
    let erased := swept.step (.complete 0 28800000 true)
    swept.db.attempt.evidenceDeleteAfter = some 115199999 ∧
      swept.db.attempt.status = .processing ∧ swept.clock = 28800000 ∧
      IsErased swept.db = false ∧ IsErased erased.db = true ∧
      erased.db.upload.map UploadSession.objectKey = some (js "deleted/u1") := by
  decide

theorem deletes_what_it_forgets_sample :
    let s := sampleHistory (sampleUpload ++ sampleDeletion)
    s.gone (js "evidence/o1") = true ∧ s.Completes sampleCompletion ∧
      (∀ key, IsReplaced s.db (s.step sampleCompletion).db key → s.gone key = true) ∧
      deletedJobIds (s.step sampleCompletion).db = [js "j1"] := by
  have hkeeps : Throughout RetentionSystem.step
      (start (js "a1") (js "author") (js "repository") (js "head") 28800000 10) KeepsPlans
      (sampleUpload ++ sampleDeletion ++ [sampleCompletion]) := by
    iterate 3 refine throughout_cons.mpr ⟨.inl rfl, ?_⟩
    refine throughout_cons.mpr ⟨.inr (.inl fun _ => rfl), ?_⟩
    iterate 2 refine throughout_cons.mpr ⟨.inl rfl, ?_⟩
    refine throughout_cons.mpr ⟨trivial, ?_⟩
    refine throughout_cons.mpr ⟨.inl rfl, ?_⟩
    iterate 3 refine throughout_cons.mpr ⟨trivial, ?_⟩
    exact throughout_nil
  have hdeletes := deletes_what_it_forgets (js "a1") (js "author") (js "repository") (js "head")
    28800000 10 (sampleUpload ++ sampleDeletion ++ [sampleCompletion]) hkeeps
  exact ⟨by decide, ⟨by decide, by decide⟩,
    (hdeletes.2.2 (sampleUpload ++ sampleDeletion) sampleCompletion [] rfl).1, by decide⟩

end Samples

end RetentionSystem

end Worker

end UnderstandProof
