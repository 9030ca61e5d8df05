import UnderstandProof.Foundation.Table
import UnderstandProof.Worker.EvidenceEvents

/-!
# The runs that finalize a recording

A `media.finalize-upload` job may be delivered many times, and each delivery is a run of its
own: it loads the attempt's rows, completes the object, checks it, and persists the
recording; when a stage throws, it discards the object and then refuses the upload in one
transaction. Runs interleave with each other and with every other transaction on the
evidence, any stage may throw, and a run may crash at any point.
-/

open Foundation

namespace UnderstandProof

namespace Worker

open Db
open Domain (AttemptStatus Timestamp)

/-- What `FinalizeRecordingSchema` reads of the stored envelope. -/
structure RecordingFinalization where
  manifestDigest : JsString
  manifest : Media.RecordingManifest
  wrappedKeyBase64url : JsString
  wrappedKeySha256 : JsString

/-- Where a run is: inside its `try`, behind it with the object still there, in front of the
transaction of its failure, or at its end. -/
inductive RunPhase where
  | working
  | failing
  | rejecting
  | done
  deriving DecidableEq, Repr

/-- A run, with the row it has loaded. -/
structure FinalizerRun where
  uploadSessionId : JsString
  attemptId : JsString
  headSha : JsString
  objectKey : JsString
  materialId : JsString
  finalization : RecordingFinalization
  completedObject : Bool
  phase : RunPhase

/-- `loadFinalization` and `assertBinding`; `none` throws before the run has touched
anything. -/
def loadFinalization (plan : Db.FrozenPlan) (now : Timestamp) (expectedHeadSha : JsString)
    (finalization : RecordingFinalization) (db : Evidence) : Option FinalizerRun :=
  db.upload.bind fun upload =>
    (db.materialFor upload).bind fun material =>
      if upload.finalizeEnvelope.isSome = true ∧ db.attempt.status = .processing ∧
          db.isAuthorized = true ∧
          db.attempt.evidenceDeleteAfter.any (fun deleteAfter => now < deleteAfter) = true ∧
          db.attempt.headSha = expectedHeadSha ∧
          manifestFits plan finalization.manifest db.attempt upload material = true then
        some
          { uploadSessionId := upload.id
            attemptId := db.attempt.id
            headSha := db.attempt.headSha
            objectKey := upload.objectKey
            materialId := material.id
            finalization := finalization
            completedObject := upload.state = .completed
            phase := .working }
      else none

/-- What a run asks `persistValidatedRecording` to store. -/
def FinalizerRun.recording (run : FinalizerRun) (recordingObjectId : JsString)
    (durationMs : ℕ) : ValidatedRecording where
  recordingObjectId := recordingObjectId
  uploadSessionId := run.uploadSessionId
  attemptId := run.attemptId
  expectedHeadSha := run.headSha
  objectKey := run.objectKey
  wrappedDataKey := run.finalization.wrappedKeyBase64url
  wrappedKeySha256 := run.finalization.wrappedKeySha256
  wrappingMaterialId := run.materialId
  protocolVersion := js "SP-RC1"
  algorithm := js "AES-256-GCM"
  byteLength := run.finalization.manifest.totalObjectBytes
  durationMs := durationMs
  codec := run.finalization.manifest.codec
  manifestHash := run.finalization.manifestDigest

/-- The run is behind its `try` after a failure. -/
def FinalizerRun.hasFailed (run : FinalizerRun) : Bool :=
  run.phase = .failing ∨ run.phase = .rejecting

/-- The rows, the objects in the storage, and the runs. -/
structure FinalizerSystem where
  db : Evidence
  objects : JsString → Bool
  runs : Table ℕ FinalizerRun

inductive FinalizerEvent where
  /-- Another transaction on the evidence. -/
  | database (event : EvidenceEvent)
  | load (worker : ℕ) (now : Timestamp) (expectedHeadSha : JsString)
      (finalization : RecordingFinalization)
  /-- The multipart upload is completed. -/
  | complete (worker : ℕ)
  /-- The parts are gone, and the object is there in its size. -/
  | find (worker : ℕ)
  /-- A stage before the transaction throws. -/
  | error (worker : ℕ)
  /-- The transaction; the run may not learn that it has committed. -/
  | persist (worker : ℕ) (now : Timestamp) (recordingObjectId : JsString) (durationMs : ℕ)
      (acknowledged : Bool)
  /-- The first step of `recordMediaFinalizationFailure`; an error of the storage is
  swallowed. -/
  | discard (worker : ℕ) (succeeds : Bool)
  /-- Its transaction. -/
  | reject (worker : ℕ) (now : Timestamp)
  | crash (worker : ℕ)

/-- The events that are steps of runs. -/
def isRunEvent : EvidenceEvent → Bool
  | .validate .. => true
  | .refuse .. => true
  | _ => false

namespace FinalizerSystem

def withRun (s : FinalizerSystem) (worker : ℕ) (run : FinalizerRun) : FinalizerSystem :=
  { s with runs := s.runs.set worker run }

/-- The run in this phase. -/
def runIn (s : FinalizerSystem) (worker : ℕ) (phase : RunPhase) : Option FinalizerRun :=
  (s.runs worker).filter fun run => run.phase = phase

def persist (s : FinalizerSystem) (worker : ℕ) (now : Timestamp) (recordingObjectId : JsString)
    (durationMs : ℕ) (acknowledged : Bool) (run : FinalizerRun) : FinalizerSystem :=
  match persistValidatedRecording now (run.recording recordingObjectId durationMs) s.db with
  | some db =>
      { s with db := db }.withRun worker
        { run with phase := if acknowledged then .done else .failing }
  | none => s.withRun worker { run with phase := .failing }

def discard (s : FinalizerSystem) (worker : ℕ) (succeeds : Bool) (run : FinalizerRun) :
    FinalizerSystem :=
  { s with
    objects :=
      if run.completedObject = true ∧ succeeds = true then
        Function.update s.objects run.objectKey false
      else s.objects }.withRun worker { run with phase := .rejecting }

/-- The step of a run, or `none` when the event does not apply. -/
def next (plan : Db.FrozenPlan) (s : FinalizerSystem) : FinalizerEvent → Option FinalizerSystem
  | .database event =>
      if isRunEvent event then none else some { s with db := stepEvidence s.db event }
  | .load worker now expectedHeadSha finalization =>
      if (s.runs worker).isSome then none
      else (loadFinalization plan now expectedHeadSha finalization s.db).map (s.withRun worker)
  | .complete worker =>
      ((s.runIn worker .working).filter fun run => run.completedObject = false).map fun run =>
        { s with objects := Function.update s.objects run.objectKey true }.withRun worker
          { run with completedObject := true }
  | .find worker =>
      ((s.runIn worker .working).filter fun run => s.objects run.objectKey).map fun run =>
        s.withRun worker { run with completedObject := true }
  | .error worker =>
      (s.runIn worker .working).map fun run => s.withRun worker { run with phase := .failing }
  | .persist worker now recordingObjectId durationMs acknowledged =>
      ((s.runIn worker .working).filter fun run => run.completedObject).map
        (s.persist worker now recordingObjectId durationMs acknowledged)
  | .discard worker succeeds => (s.runIn worker .failing).map (s.discard worker succeeds)
  | .reject worker now =>
      (s.runIn worker .rejecting).map fun run =>
        { s with
          db := recordMediaFinalizationFailure now run.uploadSessionId run.materialId
            s.db }.withRun worker { run with phase := .done }
  | .crash worker =>
      (s.runs worker).map fun _ => { s with runs := Function.update s.runs worker none }

def step (plan : Db.FrozenPlan) (s : FinalizerSystem) (event : FinalizerEvent) : FinalizerSystem :=
  (s.next plan event).getD s

/-- Before the handoff of an attempt, with no object and no run. -/
def start (attemptId authorId repositoryId headSha : JsString) (expiresAt : Timestamp) :
    FinalizerSystem where
  db := startEvidence attemptId authorId repositoryId headSha expiresAt
  objects := fun _ => false
  runs := fun _ => none

/-- The run that takes the step. -/
def actor : FinalizerEvent → Option ℕ
  | .database _ => none
  | .load worker _ _ _ => some worker
  | .complete worker => some worker
  | .find worker => some worker
  | .error worker => some worker
  | .persist worker _ _ _ _ => some worker
  | .discard worker _ => some worker
  | .reject worker _ => some worker
  | .crash worker => some worker

/-- A transaction that finds a recording is authorized, and stores the same one. -/
def replays (s : FinalizerSystem) (worker : ℕ) (now : Timestamp) (recordingObjectId : JsString)
    (durationMs : ℕ) : Prop :=
  ∀ run stored, s.runs worker = some run → s.db.recording = some stored →
    ∃ upload deleteAfter, s.db.upload = some upload ∧
      s.db.attempt.evidenceDeleteAfter = some deleteAfter ∧
      isRecordingAuthorized now (run.recording recordingObjectId durationMs) s.db upload
        deleteAfter = true ∧
      isSameRecording (run.recording recordingObjectId durationMs) deleteAfter stored = true

/-- No run fails once the recording is committed, and none commits while another one is
behind a failure. -/
def NoFailureBeside (s : FinalizerSystem) : FinalizerEvent → Prop
  | .error _ => s.db.recording = none
  | .persist worker now recordingObjectId durationMs acknowledged =>
      acknowledged = true ∧ s.replays worker now recordingObjectId durationMs ∧
        ∀ other run, s.runs other = some run → run.hasFailed = false
  | _ => True

end FinalizerSystem

/-! ## The recording -/

/-- Only a run inserts a recording. -/
theorem recording_of_stepEvidence {db : Evidence} {event : EvidenceEvent}
    (hrun : isRunEvent event = false) (h : db.recording = none) :
    (stepEvidence db event).recording = none := by
  cases hwrites : writesArtifacts event with
  | false =>
      have hsame : artifacts (stepEvidence db event) = artifacts db :=
        artifacts_of_stepEvidence hwrites
      exact (congrArg Prod.fst hsame).trans h
  | true =>
      refine stepEvidence_of_next (I := fun db => db.recording = none) h fun db' hnext => ?_
      cases event with
      | reserveFrame now id objectKey recordingObjectId timestampMs =>
          simp [nextEvidence, reserveFrameObject, h] at hnext
      | repairFrame now id objectKey recordingObjectId =>
          simp [nextEvidence, repairFrame, h] at hnext
      | completeDeletion now plan =>
          obtain rfl := Option.some_inj.mp hnext
          unfold completeDeletion
          split
          · exact h
          · split
            · exact h
            · simp [erase, h]
      | validate now input => cases hrun
      | _ => cases hwrites

end Worker

end UnderstandProof
