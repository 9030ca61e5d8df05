import UnderstandProof.Foundation.History
import UnderstandProof.Foundation.JsonText
import UnderstandProof.Foundation.Table
import UnderstandProof.Db.GithubChecks

/-!
# Check intents over all interleavings

One revision's check row, the jobs of its key in the queue, and the workers that run them.
Of the queue it is assumed that a publication leaves a runnable job with the given payload,
or is refused while a job of the key is active; a worker may crash at any step, a lease may
expire under a worker that goes on, and the queue may give a job up.
-/

open Foundation

namespace UnderstandProof

namespace Db

open Domain (Timestamp)

/-- How far a worker has come with its job. -/
inductive JobPhase where
  | fresh
  | claimed (attempt : ℕ)
  | done
  deriving DecidableEq, Repr

/-- A job that a worker runs. -/
structure ActiveJob where
  job : ReconcileCheckJob
  phase : JobPhase
  deriving DecidableEq

/-- What a publication does to the queue: it leaves these runnable jobs, or is refused
because a worker's job is active. -/
inductive Publication where
  | runnable (jobs : List ReconcileCheckJob)
  | refused (worker : ℕ)

structure CheckSync (Digest : Type) where
  revisionId : JsString
  revision : CheckRevision
  row : Option (CheckRun Digest)
  waiting : List ReconcileCheckJob
  active : Table ℕ ActiveJob

inductive CheckEvent where
  /-- A transaction that writes an intent; it may move `is_current` first, as the switch of
  a revision does. -/
  | persist (now : Timestamp) (isCurrent : Option Bool) (advanced : Bool)
      (input : GithubCheckIntent) (publication : Publication)
  | reactivate (now : Timestamp) (expectedHeadSha : JsString) (publication : Publication)
  | sweep (now : Timestamp) (publication : Publication)
  | take (worker : ℕ) (job : ReconcileCheckJob)
  | claim (now : Timestamp) (worker : ℕ)
  | complete (now : Timestamp) (worker : ℕ) (githubCheckRunId : JsString)
  | skip (now : Timestamp) (worker : ℕ)
  | inactive (now : Timestamp) (worker : ℕ) (bindingInactive : Bool)
  | fail (now : Timestamp) (worker : ℕ) (errorClass : JsString)
      (nextSyncAfter : Option Timestamp)
  /-- The queue hands the job out again while the worker goes on. -/
  | expire (worker : ℕ)
  /-- The worker is gone and the job is runnable again. -/
  | crash (worker : ℕ)
  /-- The handler returns. -/
  | finish (worker : ℕ)
  /-- The queue gives the job up. -/
  | giveUp (worker : ℕ)

namespace CheckSync

variable {Digest : Type}

/-- Before the first intent of a current revision. -/
def start (revisionId headSha : JsString) : CheckSync Digest where
  revisionId := revisionId
  revision := { headSha := headSha, isCurrent := true }
  row := none
  waiting := []
  active := fun _ => none

/-- The runnable jobs after a publication, or `none` when the queue could not have acted
so. -/
def publish (s : CheckSync Digest) (job : ReconcileCheckJob) :
    Publication → Option (List ReconcileCheckJob)
  | .runnable jobs => if job ∈ jobs then some jobs else none
  | .refused worker => if (s.active worker).isSome then some s.waiting else none

variable [DecidableEq Digest]

/-- A switch away from the revision comes with its invalidation, and a switch back with
another intent. -/
def switchFits (isCurrent : Option Bool) (input : GithubCheckIntent) : Bool :=
  isCurrent = some false → permitsNoncurrentInvalidation input = true

def persist (sha256 : List UInt8 → Digest) (s : CheckSync Digest) (now : Timestamp)
    (isCurrent : Option Bool) (advanced : Bool) (input : GithubCheckIntent)
    (publication : Publication) : Option (CheckSync Digest) :=
  let revision := { s.revision with isCurrent := isCurrent.getD s.revision.isCurrent }
  if switchFits isCurrent input = false then none
  else
    match persistGithubCheckIntent sha256 now revision advanced s.row input with
    | .error _ => none
    | .ok write =>
        if write.publishes then
          (s.publish
            { idempotencyKey := input.idempotencyKey
              revisionId := input.revisionId
              expectedHeadSha := input.expectedHeadSha
              reason := input.reason } publication).map fun waiting =>
            { s with revision := revision, row := some write.row, waiting := waiting }
        else some { s with revision := revision, row := some write.row }

def reactivate (s : CheckSync Digest) (now : Timestamp) (expectedHeadSha : JsString)
    (publication : Publication) : Option (CheckSync Digest) :=
  match s.row.bind (reactivateInactiveGithubCheckIntent now s.revision expectedHeadSha) with
  | none => none
  | some row =>
      (jobOf s.revisionId s.revision row).bind fun job =>
        (s.publish job publication).map fun waiting =>
          { s with row := some row, waiting := waiting }

def sweep (s : CheckSync Digest) (now : Timestamp) (publication : Publication) :
    Option (CheckSync Digest) :=
  match s.row with
  | none => none
  | some stored =>
      let row := stored.released now
      if row.isDue now then
        (jobOf s.revisionId s.revision row).bind fun job =>
          (s.publish job publication).map fun waiting =>
            match publication with
            | .runnable _ => { s with row := some (row.replayed now), waiting := waiting }
            | .refused _ => { s with row := some row, waiting := waiting }
      else some { s with row := some row }

/-- The statement of a worker that holds a claim; the job is done whether it matches or
not. A worker that records a failure after a statement that matched nothing is one that
takes the failure alone. -/
def settle (s : CheckSync Digest) (worker : ℕ)
    (statement : ℕ → CheckRun Digest → Option (CheckRun Digest)) : Option (CheckSync Digest) :=
  match s.active worker with
  | some ⟨job, .claimed attempt⟩ =>
      some { s with
        row := s.row.map fun row => (statement attempt row).getD row
        active := s.active.set worker ⟨job, .done⟩ }
  | _ => none

def claim (s : CheckSync Digest) (now : Timestamp) (worker : ℕ) : Option (CheckSync Digest) :=
  match s.active worker with
  | some ⟨job, .fresh⟩ =>
      match s.row.bind (claimGithubCheckSync now s.revision job) with
      | some row => some { s with
          row := some row
          active := s.active.set worker ⟨job, .claimed row.syncAttempts⟩ }
      | none => some { s with active := s.active.set worker ⟨job, .done⟩ }
  | _ => none

/-- One atomic step; a step that cannot be taken leaves the state alone. -/
def step (sha256 : List UInt8 → Digest) (s : CheckSync Digest) (event : CheckEvent) :
    CheckSync Digest :=
  let next : Option (CheckSync Digest) :=
    match event with
    | .persist now isCurrent advanced input publication =>
        s.persist sha256 now isCurrent advanced input publication
    | .reactivate now expectedHeadSha publication =>
        s.reactivate now expectedHeadSha publication
    | .sweep now publication => s.sweep now publication
    | .take worker job =>
        if job ∈ s.waiting ∧ s.active worker = none then
          some { s with
            waiting := s.waiting.erase job
            active := s.active.set worker ⟨job, .fresh⟩ }
        else none
    | .claim now worker => s.claim now worker
    | .complete now worker githubCheckRunId =>
        s.settle worker fun attempt => completeGithubCheckSync now attempt githubCheckRunId
    | .skip now worker =>
        s.settle worker (completeSkippedGithubInvalidationSync now)
    | .inactive now worker bindingInactive =>
        s.settle worker fun attempt =>
          completeInactiveGithubCheckSync now attempt bindingInactive
    | .fail now worker errorClass nextSyncAfter =>
        s.settle worker fun attempt => failGithubCheckSync now attempt errorClass nextSyncAfter
    | .expire worker =>
        (s.active worker).map fun active => { s with waiting := active.job :: s.waiting }
    | .crash worker =>
        (s.active worker).map fun active => { s with
          waiting := active.job :: s.waiting
          active := Function.update s.active worker none }
    | .finish worker =>
        if (s.active worker).any fun active => active.phase ≠ .fresh then
          some { s with active := Function.update s.active worker none }
        else none
    | .giveUp worker =>
        (s.active worker).map fun _ => { s with
          active := Function.update s.active worker none }
  next.getD s

end CheckSync

/-! ## What the statements keep -/

section Rows

variable {Digest : Type} {sha256 : List UInt8 → Digest}
  {now : Timestamp} {row row' : CheckRun Digest} {input : GithubCheckIntent}

/-- The columns of the intent are the same. -/
structure CheckRun.SameIntent (row row' : CheckRun Digest) : Prop where
  key : row'.intentIdempotencyKey = row.intentIdempotencyKey
  hash : row'.intentHash = row.intentHash
  reason : row'.intentReason = row.intentReason
  status : row'.status = row.status
  conclusion : row'.conclusion = row.conclusion

/-- The row holds an intent of the revision, and a retry time only while it waits for its
retry. -/
structure CheckRun.Bound (sha256 : List UInt8 → Digest) (row : CheckRun Digest) : Prop where
  intent : ∃ input : GithubCheckIntent, row.intentHash = some (hashCheckIntent sha256 input) ∧
    row.intentReason = some input.reason ∧ row.status = input.status ∧
    row.conclusion = input.conclusion
  key : row.intentIdempotencyKey.isSome = true
  retry : row.nextSyncAfter ≠ none → row.syncStatus = .retryRequired

theorem CheckRun.Bound.of_same (h : row.Bound sha256)
    (hsame : row.SameIntent row')
    (hretry : row'.nextSyncAfter ≠ none → row'.syncStatus = .retryRequired) :
    row'.Bound sha256 := by
  obtain ⟨input, hhash, hreason, hstatus, hconclusion⟩ := h.intent
  exact
    { intent := ⟨input, hsame.hash.trans hhash, hsame.reason.trans hreason,
        hsame.status.trans hstatus, hsame.conclusion.trans hconclusion⟩
      key := by rw [hsame.key]; exact h.key
      retry := hretry }

theorem CheckRun.SameIntent.isInvalidation (h : row.SameIntent row') :
    row'.isInvalidation = row.isInvalidation := by
  unfold CheckRun.isInvalidation
  rw [h.reason, h.status, h.conclusion]

theorem CheckRun.SameIntent.refl : row.SameIntent row := ⟨rfl, rfl, rfl, rfl, rfl⟩

theorem CheckRun.sameIntent_released : row.SameIntent (row.released now) := by
  unfold CheckRun.released
  split <;> exact ⟨rfl, rfl, rfl, rfl, rfl⟩

/-- A statement of a worker matches only the last claim, leaves the intent alone and ends
the claim. -/
structure EndsClaim (statement : ℕ → CheckRun Digest → Option (CheckRun Digest)) : Prop where
  ends : ∀ {attempt row row'}, statement attempt row = some row' →
    row.holds attempt = true ∧ row.SameIntent row' ∧ row'.syncAttempts = row.syncAttempts ∧
      row'.syncStatus ≠ .pending ∧ row'.syncStatus ≠ .syncing ∧
      (row'.nextSyncAfter ≠ none → row'.syncStatus = .retryRequired)

theorem completeGithubCheckSync_endsClaim (now : Timestamp) (githubCheckRunId : JsString) :
    @EndsClaim Digest fun attempt =>
      completeGithubCheckSync now attempt githubCheckRunId where
  ends := by
    intro attempt row row' h
    unfold completeGithubCheckSync at h
    split at h
    · next hholds =>
      cases h
      exact ⟨hholds, ⟨rfl, rfl, rfl, rfl, rfl⟩, rfl, by simp, by simp, by simp⟩
    · cases h

theorem completeSkipped_endsClaim (now : Timestamp) :
    @EndsClaim Digest (completeSkippedGithubInvalidationSync now) where
  ends := by
    intro attempt row row' h
    unfold completeSkippedGithubInvalidationSync at h
    split at h
    · next hholds =>
      cases h
      exact ⟨hholds.1, ⟨rfl, rfl, rfl, rfl, rfl⟩, rfl, by simp, by simp, by simp⟩
    · cases h

theorem completeInactive_endsClaim (now : Timestamp) (bindingInactive : Bool) :
    @EndsClaim Digest fun attempt =>
      completeInactiveGithubCheckSync now attempt bindingInactive where
  ends := by
    intro attempt row row' h
    unfold completeInactiveGithubCheckSync at h
    split at h
    · next hholds =>
      cases h
      exact ⟨hholds.1, ⟨rfl, rfl, rfl, rfl, rfl⟩, rfl, by simp, by simp, by simp⟩
    · cases h

theorem failGithubCheckSync_endsClaim (now : Timestamp) (errorClass : JsString)
    (nextSyncAfter : Option Timestamp) :
    @EndsClaim Digest fun attempt =>
      failGithubCheckSync now attempt errorClass nextSyncAfter where
  ends := by
    intro attempt row row' h
    unfold failGithubCheckSync at h
    split at h
    · next hholds =>
      cases h
      refine ⟨hholds, ⟨rfl, rfl, rfl, rfl, rfl⟩, rfl, ?_⟩
      cases nextSyncAfter <;> simp
    · cases h

/-- A claim leaves the intent alone, and takes the next number. -/
theorem claimGithubCheckSync_eq_some {revision : CheckRevision} {job : ReconcileCheckJob}
    (h : claimGithubCheckSync now revision job row = some row') :
    row.SameIntent row' ∧ row'.syncAttempts = row.syncAttempts + 1 ∧
      row'.syncStatus = .syncing ∧ row'.nextSyncAfter = none := by
  unfold claimGithubCheckSync at h
  split at h
  · cases h
    exact ⟨⟨rfl, rfl, rfl, rfl, rfl⟩, rfl, rfl, rfl⟩
  · cases h

variable [DecidableEq Digest]

/-- What a check intent transaction does: a superseded analysis does nothing, a replay
leaves the intent alone, and every other intent is written. -/
theorem persistGithubCheckIntent_eq_ok {revision : CheckRevision} {advanced : Bool}
    {stored : Option (CheckRun Digest)} {write : IntentWrite Digest}
    (h : persistGithubCheckIntent sha256 now revision advanced stored input = .ok write) :
    input.accepts = true ∧ isStaleIntent revision input = false ∧
      ((∃ row, stored = some row ∧ input.reason = .analysisReady ∧ write.row = row ∧
          write.replay = true ∧ write.publishes = false) ∨
        (∃ row, stored = some row ∧ row.intentHash = some (hashCheckIntent sha256 input) ∧
          (write.row = row ∨ write.row = row.requestAgain now) ∧ write.replay = true ∧
          write.publishes = true) ∨
        (write.replay = false ∧ write.publishes = true ∧
          ((stored = none ∧ write.row = insertedCheckRun sha256 now input) ∨
            ∃ row, stored = some row ∧ write.row = overwrittenCheckRun sha256 now input row ∧
              (input.reason = .analysisReady → row.intentReason.any isLaterStage = false)))) := by
  unfold persistGithubCheckIntent at h
  split at h
  · cases h
  · next haccepts =>
    split at h
    · cases h
    · next hstale =>
      refine ⟨by simpa using haccepts, by simpa using hstale, ?_⟩
      split at h
      · split at h
        · cases h
        · cases h
          exact .inr (.inr ⟨rfl, rfl, .inl ⟨rfl, rfl⟩⟩)
      · next row =>
        split at h
        · split at h
          · cases h
          · next hhash =>
            cases h
            refine .inr (.inl ⟨row, rfl, not_not.mp hhash, ?_, rfl, rfl⟩)
            dsimp only
            split
            · exact .inr rfl
            · exact .inl rfl
        · split at h
          · next hsuperseded =>
            cases h
            exact .inl ⟨row, rfl, hsuperseded.1, rfl, rfl, rfl⟩
          · next hsuperseded =>
            cases h
            refine .inr (.inr ⟨rfl, rfl, .inr ⟨row, rfl, rfl, fun hreason => ?_⟩⟩)
            have hnot := fun hlater => hsuperseded ⟨hreason, .inl hlater⟩
            simpa using hnot

end Rows

namespace CheckSync

variable {Digest : Type} {sha256 : List UInt8 → Digest} {s t : CheckSync Digest}
  {now : Timestamp} {publication : Publication}

theorem publish_eq_some {job : ReconcileCheckJob} {waiting : List ReconcileCheckJob}
    (h : s.publish job publication = some waiting) :
    (publication = .runnable waiting ∧ job ∈ waiting) ∨
      ∃ worker, publication = .refused worker ∧ waiting = s.waiting := by
  unfold publish at h
  split at h
  · split at h
    · next hjob =>
      cases h
      exact .inl ⟨rfl, hjob⟩
    · cases h
  · split at h
    · cases h
      exact .inr ⟨_, rfl, rfl⟩
    · cases h

/-- The statement of a worker with a claim; its job is done. -/
theorem settle_eq_some {worker : ℕ} {statement : ℕ → CheckRun Digest → Option (CheckRun Digest)}
    (h : s.settle worker statement = some t) :
    ∃ job attempt, s.active worker = some ⟨job, .claimed attempt⟩ ∧
      t = { s with
        row := s.row.map fun row => (statement attempt row).getD row
        active := s.active.set worker ⟨job, .done⟩ } := by
  unfold settle at h
  split at h
  · next job attempt hactive => exact ⟨job, attempt, hactive, (Option.some_inj.mp h).symm⟩
  · cases h

theorem claim_eq_some {worker : ℕ} (h : s.claim now worker = some t) :
    ∃ job, s.active worker = some ⟨job, .fresh⟩ ∧
      ((∃ old row, s.row = some old ∧ claimGithubCheckSync now s.revision job old = some row ∧
          t = { s with
            row := some row
            active := s.active.set worker ⟨job, .claimed row.syncAttempts⟩ }) ∨
        ((∀ row, s.row = some row → claimGithubCheckSync now s.revision job row = none) ∧
          t = { s with active := s.active.set worker ⟨job, .done⟩ })) := by
  unfold claim at h
  split at h
  · next job hactive =>
    refine ⟨job, hactive, ?_⟩
    split at h
    · next row hrow =>
      obtain ⟨old, hold, hclaim⟩ := Option.bind_eq_some_iff.mp hrow
      exact .inl ⟨old, row, hold, hclaim, (Option.some_inj.mp h).symm⟩
    · next hnone =>
      refine .inr ⟨fun row hrow => ?_, (Option.some_inj.mp h).symm⟩
      rwa [hrow, Option.bind_some] at hnone
  · cases h

theorem reactivate_eq_some {expectedHeadSha : JsString}
    (h : s.reactivate now expectedHeadSha publication = some t) :
    ∃ old job waiting, s.row = some old ∧ s.revision.isCurrent = true ∧
      old.isInactive = true ∧ jobOf s.revisionId s.revision (old.requestAgain now) = some job ∧
      s.publish job publication = some waiting ∧
      t = { s with row := some (old.requestAgain now), waiting := waiting } := by
  unfold reactivate at h
  split at h
  · cases h
  · next row hrow =>
    obtain ⟨old, hold, hreactivate⟩ := Option.bind_eq_some_iff.mp hrow
    obtain ⟨job, hjob, hpublish⟩ := Option.bind_eq_some_iff.mp h
    obtain ⟨waiting, hwaiting, rfl⟩ := Option.map_eq_some_iff.mp hpublish
    unfold reactivateInactiveGithubCheckIntent at hreactivate
    split at hreactivate
    · next hguard =>
      cases hreactivate
      exact ⟨old, job, waiting, hold, hguard.2.1, hguard.2.2.1, hjob, hwaiting, rfl⟩
    · cases hreactivate

theorem sweep_eq_some (h : s.sweep now publication = some t) :
    ∃ old row waiting, s.row = some old ∧
      (row = old.released now ∨
        row = (old.released now).replayed now ∧ (old.released now).isDue now = true) ∧
      (waiting = s.waiting ∨ ∃ job,
        jobOf s.revisionId s.revision (old.released now) = some job ∧ job ∈ waiting) ∧
      t = { s with row := some row, waiting := waiting } := by
  unfold sweep at h
  split at h
  · cases h
  · next old hold =>
    dsimp only at h
    split at h
    · next hdue =>
      obtain ⟨job, hjob, hpublish⟩ := Option.bind_eq_some_iff.mp h
      obtain ⟨waiting, hwaiting, hmatch⟩ := Option.map_eq_some_iff.mp hpublish
      rcases publish_eq_some hwaiting with ⟨rfl, hmem⟩ | ⟨worker, rfl, rfl⟩
      · exact ⟨old, _, waiting, hold, .inr ⟨rfl, hdue⟩, .inr ⟨job, hjob, hmem⟩, hmatch.symm⟩
      · exact ⟨old, _, _, hold, .inl rfl, .inl rfl, hmatch.symm⟩
    · cases h
      exact ⟨old, _, _, hold, .inl rfl, .inl rfl, rfl⟩

variable [DecidableEq Digest]

theorem persist_eq_some {isCurrent : Option Bool} {advanced : Bool} {input : GithubCheckIntent}
    (h : s.persist sha256 now isCurrent advanced input publication = some t) :
    ∃ write waiting,
      (isCurrent = some false → permitsNoncurrentInvalidation input = true) ∧
      persistGithubCheckIntent sha256 now
        { s.revision with isCurrent := isCurrent.getD s.revision.isCurrent } advanced s.row
        input = .ok write ∧
      (write.publishes = true → s.publish
        { idempotencyKey := input.idempotencyKey
          revisionId := input.revisionId
          expectedHeadSha := input.expectedHeadSha
          reason := input.reason } publication = some waiting) ∧
      (write.publishes = false → waiting = s.waiting) ∧
      t = { s with
        revision := { s.revision with isCurrent := isCurrent.getD s.revision.isCurrent }
        row := some write.row
        waiting := waiting } := by
  unfold persist at h
  dsimp only at h
  split at h
  · cases h
  · next hfits =>
    have hswitch : isCurrent = some false → permitsNoncurrentInvalidation input = true := by
      simpa [switchFits] using hfits
    split at h
    · cases h
    · next write hwrite =>
      split at h
      · next hpublishes =>
        obtain ⟨waiting, hwaiting, rfl⟩ := Option.map_eq_some_iff.mp h
        exact ⟨write, waiting, hswitch, hwrite, fun _ => hwaiting,
          fun hnot => absurd (hpublishes.symm.trans hnot) (by simp), rfl⟩
      · next hpublishes =>
        cases h
        exact ⟨write, s.waiting, hswitch, hwrite, fun hyes => absurd hyes hpublishes,
          fun _ => rfl, rfl⟩

end CheckSync

end Db

end UnderstandProof
