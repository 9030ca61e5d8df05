import UnderstandProof.Worker.FinalizationRuns
import UnderstandProof.Worker.MediaFinalize

/-!
# A validated recording over redeliveries

In every history in which no run fails once the recording is committed, and none commits
while another one is behind a failure, the runs of the same finalization leave the object,
the upload, the materials and the attempt of a committed recording as they are. A run that
fails later discards the object before it looks at the rows, and refuses the upload whatever
has become of the attempt.
-/

open Foundation

namespace UnderstandProof

namespace Worker

open Db
open Domain (AttemptStatus Timestamp)

namespace FinalizerSystem

variable {plan : Db.FrozenPlan} {s t : FinalizerSystem} {worker : ℕ}

theorem runIn_eq_some {phase : RunPhase} {run : FinalizerRun} :
    s.runIn worker phase = some run ↔ s.runs worker = some run ∧ run.phase = phase := by
  simp [runIn, Option.filter_eq_some_iff]

/-- No run is behind a failure once the recording is committed. -/
def Undisturbed (s : FinalizerSystem) : Prop :=
  s.db.recording ≠ none → ∀ other run, s.runs other = some run → run.hasFailed = false

/-- Beside a committed recording, no run is in a phase behind a failure. -/
theorem runIn_of_undisturbed {phase : RunPhase} {run : FinalizerRun} (h : s.Undisturbed)
    (hrecorded : s.db.recording ≠ none) (hphase : phase = .failing ∨ phase = .rejecting) :
    s.runIn worker phase ≠ some run := by
  intro hrun
  obtain ⟨hfound, hin⟩ := runIn_eq_some.mp hrun
  have hworking := h hrecorded worker run hfound
  simp only [FinalizerRun.hasFailed, hin, decide_eq_false_iff_not] at hworking
  exact hworking hphase

/-- A run begins inside its `try`. -/
theorem phase_of_load {now : Timestamp} {expectedHeadSha : JsString}
    {finalization : RecordingFinalization} {db : Evidence} {run : FinalizerRun}
    (h : loadFinalization plan now expectedHeadSha finalization db = some run) :
    run.phase = .working := by
  simp only [loadFinalization, Option.bind_eq_some_iff] at h
  obtain ⟨upload, -, material, -, h⟩ := h
  split at h
  · cases h
    rfl
  · cases h

/-- A transaction of a run either commits, or leaves the rows alone and fails the run. -/
theorem persist_cases (now : Timestamp) (recordingObjectId : JsString) (durationMs : ℕ)
    (acknowledged : Bool) (run : FinalizerRun) :
    (∃ db, persistValidatedRecording now (run.recording recordingObjectId durationMs) s.db =
        some db ∧
      s.persist worker now recordingObjectId durationMs acknowledged run =
        { s with db := db }.withRun worker
          { run with phase := if acknowledged then .done else .failing }) ∨
    (persistValidatedRecording now (run.recording recordingObjectId durationMs) s.db = none ∧
      s.persist worker now recordingObjectId durationMs acknowledged run =
        s.withRun worker { run with phase := .failing }) := by
  unfold persist
  cases hpersist : persistValidatedRecording now (run.recording recordingObjectId durationMs)
      s.db with
  | some db => exact .inl ⟨db, rfl, rfl⟩
  | none => exact .inr ⟨rfl, rfl⟩

/-- A transaction that finds the same recording completes the upload, and nothing else. -/
theorem persist_of_replays {now : Timestamp} {recordingObjectId : JsString} {durationMs : ℕ}
    {run : FinalizerRun} {stored : RecordingObject} (hrun : s.runs worker = some run)
    (hstored : s.db.recording = some stored)
    (hreplays : s.replays worker now recordingObjectId durationMs) :
    s.db.attempt.status = .processing ∧
      persistValidatedRecording now (run.recording recordingObjectId durationMs) s.db =
        some (s.db.withUploadState .completed) := by
  obtain ⟨upload, deleteAfter, hupload, hdeadline, hauthorized, hsame⟩ :=
    hreplays run stored hrun hstored
  constructor
  · simp only [isRecordingAuthorized, decide_eq_true_eq] at hauthorized
    exact hauthorized.2.2.2.2.1
  · unfold persistValidatedRecording
    rw [hupload, hdeadline]
    dsimp only
    rw [if_pos hauthorized, hstored]
    dsimp only
    rw [if_pos hsame]

theorem undisturbed_withRun {db : Evidence} {run : FinalizerRun} {objects : JsString → Bool}
    (h : s.db.recording = none → db.recording = none ∨ ∀ other found,
      s.runs other = some found → found.hasFailed = false)
    (hbefore : s.Undisturbed) (hrun : db.recording ≠ none → run.hasFailed = false) :
    ({ s with db := db, objects := objects }.withRun worker run).Undisturbed := by
  intro hrecorded other found hfound
  dsimp only [withRun] at hrecorded hfound
  rw [Table.set_apply] at hfound
  split at hfound
  · obtain rfl := Option.some_inj.mp hfound
    exact hrun hrecorded
  · by_cases hnone : s.db.recording = none
    · exact (h hnone).resolve_left hrecorded other found hfound
    · exact hbefore hnone other found hfound

/-- Every step of a history without such failures keeps the runs undisturbed. -/
theorem undisturbed_step {event : FinalizerEvent} (h : s.Undisturbed)
    (hevent : s.NoFailureBeside event) : (s.step plan event).Undisturbed := by
  unfold FinalizerSystem.step
  cases event with
  | database event =>
      dsimp only [next]
      split
      · exact h
      · next hrun =>
        intro hrecorded
        refine h fun hnone => hrecorded ?_
        exact recording_of_stepEvidence (by simpa using hrun) hnone
  | load worker now expectedHeadSha finalization =>
      dsimp only [next]
      split
      · exact h
      · cases hload : loadFinalization plan now expectedHeadSha finalization s.db with
        | none => exact h
        | some run =>
            refine undisturbed_withRun (fun hnone => .inl hnone) h fun _ => ?_
            simp [FinalizerRun.hasFailed, phase_of_load hload]
  | complete worker =>
      dsimp only [next]
      cases hrun : (s.runIn worker .working).filter fun run => run.completedObject = false with
      | none => exact h
      | some run =>
          have hphase := (runIn_eq_some.mp (Option.filter_eq_some_iff.mp hrun).1).2
          refine undisturbed_withRun (fun hnone => .inl hnone) h fun _ => ?_
          simp [FinalizerRun.hasFailed, hphase]
  | find worker =>
      dsimp only [next]
      cases hrun : (s.runIn worker .working).filter fun run => s.objects run.objectKey with
      | none => exact h
      | some run =>
          have hphase := (runIn_eq_some.mp (Option.filter_eq_some_iff.mp hrun).1).2
          refine undisturbed_withRun (fun hnone => .inl hnone) h fun _ => ?_
          simp [FinalizerRun.hasFailed, hphase]
  | error worker =>
      have hnone : s.db.recording = none := hevent
      dsimp only [next]
      cases s.runIn worker .working with
      | none => exact h
      | some run =>
          exact undisturbed_withRun (fun hnone => .inl hnone) h
            fun hrecorded => absurd hnone hrecorded
  | persist worker now recordingObjectId durationMs acknowledged =>
      obtain ⟨hacknowledged, hreplays, hothers⟩ := hevent
      dsimp only [next]
      cases hrun : (s.runIn worker .working).filter fun run => run.completedObject with
      | none => exact h
      | some run =>
          obtain ⟨hfound, -⟩ := runIn_eq_some.mp (Option.filter_eq_some_iff.mp hrun).1
          rcases @persist_cases s worker now recordingObjectId durationMs
              acknowledged run with ⟨db, -, heq⟩ | ⟨hrefused, heq⟩
          · rw [Option.map_some, Option.getD_some, heq, hacknowledged]
            exact undisturbed_withRun (fun _ => .inr hothers) h fun _ => rfl
          · rw [Option.map_some, Option.getD_some, heq]
            refine undisturbed_withRun (fun hnone => .inl hnone) h fun hrecorded => ?_
            obtain ⟨stored, hstored⟩ := Option.ne_none_iff_exists'.mp hrecorded
            have hcommits := (persist_of_replays hfound hstored hreplays).2
            rw [hrefused] at hcommits
            cases hcommits
  | discard worker succeeds =>
      dsimp only [next]
      cases hrun : s.runIn worker .failing with
      | none => exact h
      | some run =>
          exact undisturbed_withRun (fun hnone => .inl hnone) h
            fun hrecorded => absurd hrun (runIn_of_undisturbed h hrecorded (.inl rfl))
  | reject worker now =>
      dsimp only [next]
      cases hrun : s.runIn worker .rejecting with
      | none => exact h
      | some run =>
          have hsame : artifacts (recordMediaFinalizationFailure now run.uploadSessionId
              run.materialId s.db) = artifacts s.db := artifacts_of_refuse
          refine undisturbed_withRun (fun hnone => .inl ?_) h fun _ => rfl
          exact (congrArg Prod.fst hsame).trans hnone
  | crash worker =>
      dsimp only [next]
      cases s.runs worker with
      | none => exact h
      | some run =>
          intro hrecorded other found hfound
          change Function.update s.runs worker none other = some found at hfound
          rw [Function.update_apply] at hfound
          split at hfound
          · cases hfound
          · exact h hrecorded other found hfound

/-! ## What a run does beside a committed recording -/

/-- The object is not deleted, and the upload, the materials, the recording and the attempt
stay, but for the replay that completes the upload of a processing attempt once more. -/
structure SparesEvidence (s t : FinalizerSystem) : Prop where
  object : ∀ key, s.objects key = true → t.objects key = true
  upload : t.db.upload = s.db.upload ∨
    s.db.attempt.status = .processing ∧
      t.db.upload = (s.db.withUploadState .completed).upload
  material : t.db.materials = s.db.materials
  recording : t.db.recording = s.db.recording
  attempt : t.db.attempt = s.db.attempt

namespace SparesEvidence

theorem refl : SparesEvidence s s where
  object := fun _ h => h
  upload := .inl rfl
  material := rfl
  recording := rfl
  attempt := rfl

/-- A run that only moves on. -/
theorem withRun {run : FinalizerRun} : SparesEvidence s (s.withRun worker run) :=
  { refl with }

/-- The run that completes the upload puts its object into the storage. -/
theorem withObject {run : FinalizerRun} {key : JsString} :
    SparesEvidence s
      ({ s with objects := Function.update s.objects key true }.withRun worker run) :=
  { refl with
    object := by
      intro other hother
      change Function.update s.objects key true other = true
      rw [Function.update_apply]
      split
      · rfl
      · exact hother }

theorem withReplay {run : FinalizerRun} (h : s.db.attempt.status = .processing) :
    SparesEvidence s ({ s with db := s.db.withUploadState .completed }.withRun worker run) :=
  { refl with
    upload := .inr ⟨h, rfl⟩ }

end SparesEvidence

/-- The step of a run beside a committed recording, when no run is behind a failure. -/
theorem sparesEvidence_step {event : FinalizerEvent} (h : s.Undisturbed)
    (hevent : s.NoFailureBeside event) (hrecorded : s.db.recording ≠ none)
    (hactor : actor event = some worker) : SparesEvidence s (s.step plan event) := by
  unfold FinalizerSystem.step
  cases event with
  | database event => cases hactor
  | load worker now expectedHeadSha finalization =>
      dsimp only [next]
      split
      · exact .refl
      · cases loadFinalization plan now expectedHeadSha finalization s.db with
        | none => exact .refl
        | some run => exact .withRun
  | complete worker =>
      dsimp only [next]
      cases (s.runIn worker .working).filter fun run => run.completedObject = false with
      | none => exact .refl
      | some run => exact .withObject
  | find worker =>
      dsimp only [next]
      cases (s.runIn worker .working).filter fun run => s.objects run.objectKey with
      | none => exact .refl
      | some run => exact .withRun
  | error worker => exact absurd hevent hrecorded
  | persist worker now recordingObjectId durationMs acknowledged =>
      obtain ⟨-, hreplays, -⟩ := hevent
      dsimp only [next]
      cases hrun : (s.runIn worker .working).filter fun run => run.completedObject with
      | none => exact .refl
      | some run =>
          obtain ⟨hfound, -⟩ := runIn_eq_some.mp (Option.filter_eq_some_iff.mp hrun).1
          obtain ⟨stored, hstored⟩ := Option.ne_none_iff_exists'.mp hrecorded
          obtain ⟨hstatus, hcommits⟩ := persist_of_replays hfound hstored hreplays
          rw [Option.map_some, Option.getD_some, persist, hcommits]
          exact .withReplay hstatus
  | discard worker succeeds =>
      dsimp only [next]
      cases hrun : s.runIn worker .failing with
      | none => exact .refl
      | some run => exact absurd hrun (runIn_of_undisturbed h hrecorded (.inl rfl))
  | reject worker now =>
      dsimp only [next]
      cases hrun : s.runIn worker .rejecting with
      | none => exact .refl
      | some run => exact absurd hrun (runIn_of_undisturbed h hrecorded (.inr rfl))
  | crash worker =>
      dsimp only [next]
      cases s.runs worker with
      | none => exact .refl
      | some run => exact { SparesEvidence.refl with }

/-- Before the handoff no run is behind a failure. -/
theorem undisturbed_start {attemptId authorId repositoryId headSha : JsString}
    {expiresAt : Timestamp} :
    (start attemptId authorId repositoryId headSha expiresAt).Undisturbed := by
  intro _ other run hrun
  cases hrun

/-- In every history in which no run fails once the recording is committed, and none commits
while another one is behind a failure, no step of a run deletes the object of a committed
recording, refuses its upload, destroys its material or moves its attempt. -/
theorem recording_survives_redelivery (plan : Db.FrozenPlan)
    (attemptId authorId repositoryId headSha : JsString) (expiresAt : Timestamp)
    (events front rest : List FinalizerEvent) (event : FinalizerEvent) (worker : ℕ)
    (hundisturbed : Throughout (FinalizerSystem.step plan)
      (start attemptId authorId repositoryId headSha expiresAt) NoFailureBeside events)
    (hevents : events = front ++ event :: rest)
    (hrecorded : (after (FinalizerSystem.step plan)
      (start attemptId authorId repositoryId headSha expiresAt) front).db.recording ≠ none)
    (hactor : actor event = some worker) :
    SparesEvidence
      (after (FinalizerSystem.step plan)
        (start attemptId authorId repositoryId headSha expiresAt) front)
      (after (FinalizerSystem.step plan)
        (start attemptId authorId repositoryId headSha expiresAt) (front ++ [event])) := by
  subst hevents
  have hbefore : (after (FinalizerSystem.step plan)
      (start attemptId authorId repositoryId headSha expiresAt) front).Undisturbed :=
    after_invariant (I := fun _ s => s.Undisturbed) undisturbed_start
      (fun _ _ h hevent => undisturbed_step h hevent) (throughout_front hundisturbed)
  rw [after_concat]
  exact sparesEvidence_step hbefore (hundisturbed front event rest rfl) hrecorded hactor

/-! ## A run touches no other run -/

theorem runs_of_ne {event : FinalizerEvent} {other : ℕ} (h : actor event ≠ some other) :
    (s.step plan event).runs other = s.runs other := by
  have hset : ∀ {worker : ℕ} {run : FinalizerRun}, actor event = some worker →
      s.runs.set worker run other = s.runs other := fun hactor =>
    Table.set_of_ne fun heq => h (by rw [hactor, heq])
  unfold FinalizerSystem.step
  cases event with
  | database event =>
      dsimp only [next]
      split <;> rfl
  | load worker now expectedHeadSha finalization =>
      dsimp only [next]
      split
      · rfl
      · cases loadFinalization plan now expectedHeadSha finalization s.db with
        | none => rfl
        | some run => exact hset rfl
  | complete worker =>
      dsimp only [next]
      cases (s.runIn worker .working).filter fun run => run.completedObject = false with
      | none => rfl
      | some run => exact hset rfl
  | find worker =>
      dsimp only [next]
      cases (s.runIn worker .working).filter fun run => s.objects run.objectKey with
      | none => rfl
      | some run => exact hset rfl
  | error worker =>
      dsimp only [next]
      cases s.runIn worker .working with
      | none => rfl
      | some run => exact hset rfl
  | persist worker now recordingObjectId durationMs acknowledged =>
      dsimp only [next]
      cases (s.runIn worker .working).filter fun run => run.completedObject with
      | none => rfl
      | some run =>
          rcases @persist_cases s worker now recordingObjectId durationMs
              acknowledged run with ⟨db, -, heq⟩ | ⟨-, heq⟩
          · rw [Option.map_some, Option.getD_some, heq]
            exact hset rfl
          · rw [Option.map_some, Option.getD_some, heq]
            exact hset rfl
  | discard worker succeeds =>
      dsimp only [next]
      cases s.runIn worker .failing with
      | none => rfl
      | some run => exact hset rfl
  | reject worker now =>
      dsimp only [next]
      cases s.runIn worker .rejecting with
      | none => rfl
      | some run => exact hset rfl
  | crash worker =>
      dsimp only [next]
      cases s.runs worker with
      | none => rfl
      | some run => exact Function.update_of_ne (fun heq => h (by rw [← heq]; rfl)) ..

/-- A worker that has taken no step has no run. -/
theorem runs_after_of_ne {attemptId authorId repositoryId headSha : JsString}
    {expiresAt : Timestamp} {other : ℕ} (events : List FinalizerEvent)
    (h : ∀ event ∈ events, actor event ≠ some other) :
    (after (FinalizerSystem.step plan)
      (start attemptId authorId repositoryId headSha expiresAt) events).runs other = none := by
  induction events using List.reverseRecOn with
  | nil => rfl
  | append_singleton events event ih =>
      rw [after_concat, runs_of_ne (h event (by simp))]
      exact ih fun found hfound => h found (by simp [hfound])

/-! ## A committed recording -/

section Samples

def samplePending : PendingFinalization :=
  sampleRequest.pending uploadedEvidence.attempt 86400002 (some [sampleInterval])

def sampleFinalization : RecordingFinalization where
  manifestDigest := js "digest"
  manifest := sampleManifest
  wrappedKeyBase64url := js "wrapped-key"
  wrappedKeySha256 := js "wrapped"

def sampleStart : FinalizerSystem :=
  start (js "a1") (js "author") (js "repository") (js "head") 28800000

/-- The history of an attempt up to the commit of its recording. -/
def sampleCommit : List FinalizerEvent :=
  [.database (.advance .ready),
    .database (.issueMaterial 0 (js "m1") (js "o1") (js "k1") (js "RSA-OAEP-256")),
    .database (.advance .active),
    .database (.createUpload 1 (js "u1") (js "o1") (js "evidence/o1") (js "p1")),
    .database (.finalize 2 true samplePending),
    .load 0 3 (js "head") sampleFinalization,
    .complete 0,
    .persist 0 4 (js "r1") 1000 true]

/-- A second delivery finds the upload completed and the object there. -/
def sampleRedelivery : List FinalizerEvent :=
  [.load 1 5 (js "head") sampleFinalization, .find 1]

def sampleReplay : FinalizerEvent := .persist 1 6 (js "r2") 1000 true

/-- No run has failed when none of the workers that took a step has one that has. -/
theorem unfailed_of_check {attemptId authorId repositoryId headSha : JsString}
    {expiresAt : Timestamp} {events : List FinalizerEvent} {n : ℕ}
    (hactors : (events.all fun event => (actor event).all (· < n)) = true)
    (hcheck : ∀ worker < n, ((after (FinalizerSystem.step plan)
      (start attemptId authorId repositoryId headSha expiresAt) events).runs worker).all
        (fun run => !run.hasFailed) = true) :
    ∀ other run, (after (FinalizerSystem.step plan)
      (start attemptId authorId repositoryId headSha expiresAt) events).runs other = some run →
      run.hasFailed = false := by
  intro other run hrun
  rcases Nat.lt_or_ge other n with hlt | hge
  · have hall := hcheck other hlt
    rw [hrun] at hall
    simpa using hall
  · have hnone := @runs_after_of_ne plan attemptId authorId repositoryId headSha expiresAt other
      events fun event hevent hactor => by
        have hlt := List.all_eq_true.mp hactors event hevent
        rw [hactor, Option.all_some, decide_eq_true_eq] at hlt
        omega
    exact nomatch hnone.symm.trans hrun

/-- What a replay is, on rows that can be computed. -/
theorem replays_of_check {now : Timestamp} {recordingObjectId : JsString} {durationMs : ℕ}
    (h : ((s.runs worker).all fun run => s.db.recording.all fun stored =>
      s.db.upload.any fun upload => s.db.attempt.evidenceDeleteAfter.any fun deleteAfter =>
        isRecordingAuthorized now (run.recording recordingObjectId durationMs) s.db upload
          deleteAfter &&
        isSameRecording (run.recording recordingObjectId durationMs) deleteAfter stored) =
      true) :
    s.replays worker now recordingObjectId durationMs := by
  intro run stored hrun hstored
  rw [hrun, hstored, Option.all_some, Option.all_some, Option.any_eq_true] at h
  obtain ⟨upload, hupload, h⟩ := h
  obtain ⟨deleteAfter, hdeadline, h⟩ := Option.any_eq_true _ _ |>.mp h
  rw [Bool.and_eq_true] at h
  exact ⟨upload, deleteAfter, hupload, hdeadline, h⟩

theorem recording_survives_redelivery_sample :
    SparesEvidence
      (after (FinalizerSystem.step samplePlan) sampleStart (sampleCommit ++ sampleRedelivery))
      (after (FinalizerSystem.step samplePlan) sampleStart
        (sampleCommit ++ sampleRedelivery ++ [sampleReplay])) := by
  have hfirst : (after (FinalizerSystem.step samplePlan) sampleStart
      (sampleCommit.take 7)).NoFailureBeside (.persist 0 4 (js "r1") 1000 true) :=
    ⟨rfl, replays_of_check (by decide),
      @unfailed_of_check _ _ _ _ _ _ (sampleCommit.take 7) 1 (by decide) (by decide)⟩
  have hsecond : (after (FinalizerSystem.step samplePlan) sampleStart
      (sampleCommit ++ sampleRedelivery)).NoFailureBeside sampleReplay :=
    ⟨rfl, replays_of_check (by decide),
      @unfailed_of_check _ _ _ _ _ _ (sampleCommit ++ sampleRedelivery) 2 (by decide)
        (by decide)⟩
  have hquiet : Throughout (FinalizerSystem.step samplePlan) sampleStart NoFailureBeside
      (sampleCommit.take 7) := by
    iterate 7 refine throughout_cons.mpr ⟨trivial, ?_⟩
    exact throughout_nil
  have hcommit : Throughout (FinalizerSystem.step samplePlan) sampleStart NoFailureBeside
      sampleCommit := throughout_concat.mpr ⟨hquiet, hfirst⟩
  have hload : Throughout (FinalizerSystem.step samplePlan) sampleStart NoFailureBeside
      (sampleCommit ++ [.load 1 5 (js "head") sampleFinalization]) :=
    throughout_concat.mpr ⟨hcommit, trivial⟩
  have hfind : Throughout (FinalizerSystem.step samplePlan) sampleStart NoFailureBeside
      ((sampleCommit ++ [.load 1 5 (js "head") sampleFinalization]) ++ [.find 1]) :=
    throughout_concat.mpr ⟨hload, trivial⟩
  have hpersist : Throughout (FinalizerSystem.step samplePlan) sampleStart NoFailureBeside
      (sampleCommit ++ sampleRedelivery ++ [sampleReplay]) :=
    throughout_concat.mpr ⟨hfind, hsecond⟩
  exact recording_survives_redelivery samplePlan (js "a1") (js "author") (js "repository")
    (js "head") 28800000 (sampleCommit ++ sampleRedelivery ++ [sampleReplay])
    (sampleCommit ++ sampleRedelivery) [] sampleReplay 1
    hpersist rfl (by decide) rfl

/-- A second delivery throws after the first one has committed: the object is deleted, the
upload refused, the material destroyed and the attempt sent to a retry, beside the recording
that stays. -/
theorem redelivery_discards_recording :
    let committed := after (FinalizerSystem.step samplePlan) sampleStart sampleCommit
    let redelivered := after (FinalizerSystem.step samplePlan) sampleStart
      (sampleCommit ++
        [.load 1 5 (js "head") sampleFinalization, .error 1, .discard 1 true, .reject 1 6])
    committed.db.recording.isSome = true ∧ committed.objects (js "evidence/o1") = true ∧
      committed.db.upload.map UploadSession.state = some .completed ∧
      committed.db.materials.map WrappingMaterial.destroyedAt = [none] ∧
      committed.db.attempt.status = .processing ∧
      redelivered.db.recording = committed.db.recording ∧
      redelivered.objects (js "evidence/o1") = false ∧
      redelivered.db.upload.map UploadSession.state = some .failed ∧
      redelivered.db.materials.map WrappingMaterial.destroyedAt = [some 6] ∧
      redelivered.db.attempt.status = .technicalRetry := by
  decide

end Samples

end FinalizerSystem

end Worker

end UnderstandProof
