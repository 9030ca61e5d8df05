import UnderstandProof.Foundation.Table
import UnderstandProof.Worker.EvidenceKeys
import UnderstandProof.Worker.FinalizationRuns

/-!
# The runs that delete evidence

An `evidence.delete` job may be delivered many times, and each delivery is a run of its own:
it claims the job and reads its plan in one transaction, deletes the objects of the plan one
by one, and completes the job in another transaction. Runs interleave with each other and
with every other transaction on the evidence, the storage may fail at any object, and a run
may crash at any point. A transaction goes by a clock reading that it took before it
committed.
-/

open Foundation

namespace UnderstandProof

namespace Worker

open Db
open Domain (AttemptStatus Timestamp)

/-- A run with its plan, and what of the plan is still in the storage. -/
structure Deleter where
  plan : EvidenceDeletionPlan
  uploads : List MultipartDeletionTarget
  keys : List JsString
  hasFailed : Bool
  deriving DecidableEq

/-- The rows, the time, the object keys that `deleteObject` has deleted or reported missing,
and the runs. -/
structure RetentionSystem where
  db : Evidence
  clock : Timestamp
  gone : JsString → Bool
  deleters : Table ℕ Deleter

inductive RetentionEvent where
  | tick (now : Timestamp)
  /-- Another transaction on the evidence. -/
  | database (event : EvidenceEvent)
  | claim (worker : ℕ) (now : Timestamp) (deletionJobId : JsString)
  /-- The next multipart upload is aborted, or reported missing. -/
  | abortMultipartUpload (worker : ℕ)
  /-- The next object is deleted, or reported missing. -/
  | deleteObject (worker : ℕ)
  /-- A stage throws. -/
  | error (worker : ℕ)
  /-- The completing transaction; the run may not learn that it has committed. -/
  | complete (worker : ℕ) (now : Timestamp) (acknowledged : Bool)
  | fail (worker : ℕ) (now : Timestamp) (errorClass : JsString)
  | crash (worker : ℕ)

/-- The clock reading of a transaction. -/
def clockReading : EvidenceEvent → Option Timestamp
  | .issueMaterial now _ _ _ _ => some now
  | .createUpload now _ _ _ _ => some now
  | .finalize now _ _ => some now
  | .validate now _ => some now
  | .refuse now _ _ => some now
  | .reserveAbort _ => none
  | .abort now _ => some now
  | .reserveExpiry now _ => some now
  | .expire now _ _ => some now
  | .snapshot _ _ => none
  | .advance _ => none
  | .approve now _ _ _ => some now
  | .reserveFrame now _ _ _ _ => some now
  | .repairFrame now _ _ _ => some now
  | .sweep now _ _ _ => some now
  | .claimDeletion now _ => some now
  | .completeDeletion now _ => some now
  | .failDeletion now _ _ => some now

/-- The events that are steps of runs. -/
def isDeleterEvent : EvidenceEvent → Bool
  | .claimDeletion .. => true
  | .completeDeletion .. => true
  | .failDeletion .. => true
  | _ => false

namespace RetentionSystem

def withDeleter (s : RetentionSystem) (worker : ℕ) (deleter : Deleter) : RetentionSystem :=
  { s with deleters := s.deleters.set worker deleter }

def withoutDeleter (s : RetentionSystem) (worker : ℕ) : RetentionSystem :=
  { s with deleters := Function.update s.deleters worker none }

/-- The run at work. -/
def working (s : RetentionSystem) (worker : ℕ) : Option Deleter :=
  (s.deleters worker).filter fun deleter => deleter.hasFailed = false

/-- `claimDeletion`, and the run that goes on with its plan. -/
def claim (s : RetentionSystem) (worker : ℕ) (now : Timestamp) (deletionJobId : JsString) :
    RetentionSystem :=
  match claimDeletion now deletionJobId s.db with
  | (db, some plan) =>
      { s with db := db }.withDeleter worker
        { plan := plan
          uploads := plan.multipartUploads.dedup
          keys := plan.objectKeys.dedup
          hasFailed := false }
  | (db, none) => { s with db := db }

def abortMultipartUpload (s : RetentionSystem) (worker : ℕ) (deleter : Deleter) :
    Option RetentionSystem :=
  match deleter.uploads with
  | [] => none
  | _ :: uploads => some (s.withDeleter worker { deleter with uploads := uploads })

def deleteObject (s : RetentionSystem) (worker : ℕ) (deleter : Deleter) :
    Option RetentionSystem :=
  match deleter.uploads, deleter.keys with
  | [], key :: keys =>
      some ({ s with gone := Function.update s.gone key true }.withDeleter worker
        { deleter with keys := keys })
  | _, _ => none

def complete (s : RetentionSystem) (worker : ℕ) (now : Timestamp) (acknowledged : Bool)
    (deleter : Deleter) : RetentionSystem :=
  let completed := { s with db := completeDeletion now deleter.plan s.db }
  if acknowledged then completed.withoutDeleter worker
  else completed.withDeleter worker { deleter with hasFailed := true }

/-- The step, or `none` when the event does not apply. -/
def next (s : RetentionSystem) : RetentionEvent → Option RetentionSystem
  | .tick now => if s.clock ≤ now then some { s with clock := now } else none
  | .database event =>
      if isDeleterEvent event = false ∧ (clockReading event).all (· ≤ s.clock) = true then
        (nextEvidence s.db event).map fun db => { s with db := db }
      else none
  | .claim worker now deletionJobId =>
      if (s.deleters worker).isNone = true ∧ now ≤ s.clock then
        some (s.claim worker now deletionJobId)
      else none
  | .abortMultipartUpload worker => (s.working worker).bind (s.abortMultipartUpload worker)
  | .deleteObject worker => (s.working worker).bind (s.deleteObject worker)
  | .error worker =>
      (s.working worker).map fun deleter => s.withDeleter worker { deleter with hasFailed := true }
  | .complete worker now acknowledged =>
      ((s.working worker).filter fun deleter =>
        deleter.uploads = [] ∧ deleter.keys = [] ∧ now ≤ s.clock).map
          (s.complete worker now acknowledged)
  | .fail worker now errorClass =>
      ((s.deleters worker).filter fun deleter => deleter.hasFailed = true ∧ now ≤ s.clock).map
        fun deleter =>
          { s with db := failDeletion now deleter.plan errorClass s.db }.withoutDeleter worker
  | .crash worker => (s.deleters worker).map fun _ => s.withoutDeleter worker

def step (s : RetentionSystem) (event : RetentionEvent) : RetentionSystem :=
  (s.next event).getD s

/-- Before the handoff of an attempt, with nothing deleted and no run. -/
def start (attemptId authorId repositoryId headSha : JsString) (expiresAt clock : Timestamp) :
    RetentionSystem where
  db := startEvidence attemptId authorId repositoryId headSha expiresAt
  clock := clock
  gone := fun _ => false
  deleters := fun _ => none

/-- The event completes the deletion job. -/
def Completes (s : RetentionSystem) (event : RetentionEvent) : Prop :=
  IsErased s.db = false ∧ IsErased (s.step event).db = true

/-- The event deletes an object, puts a placeholder in the place of a key, or completes the
deletion job. -/
def Erases (s : RetentionSystem) (event : RetentionEvent) : Prop :=
  (∃ worker, event = .deleteObject worker ∧ (s.next event).isSome = true) ∨
    (∃ key, IsReplaced s.db (s.step event).db key) ∨ s.Completes event

/-- A maintainer passes the attempt under a policy that deletes its evidence then. -/
def Accelerates (s : RetentionSystem) (event : RetentionEvent) : Prop :=
  ∃ now jobId idempotencyKey, event = .database (.approve now jobId idempotencyKey true) ∧
    (s.next event).isSome = true

/-- No finalization is accepted behind a sweep that has found the attempt due, and no upload
session or frame is inserted while a run holds a plan. -/
def KeepsPlans (s : RetentionSystem) : RetentionEvent → Prop
  | .database (.finalize now storable input) =>
      s.db.deletion = none ∨ s.db.attempt.evidenceDeleteAfter ≠ none ∨
        s.next (.database (.finalize now storable input)) = none
  | .database event =>
      insertsKey event = false ∨ (∀ worker, s.deleters worker = none) ∨
        s.next (.database event) = none
  | _ => True

end RetentionSystem

end Worker

end UnderstandProof
