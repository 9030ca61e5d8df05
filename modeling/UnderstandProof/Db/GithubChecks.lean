import UnderstandProof.Foundation.Json
import UnderstandProof.Domain.Primitives

/-!
# Check intents and their synchronization

The row of `check_runs` that belongs to one revision, and the statements that write an
intent to it, claim it for a worker, complete or fail the claim, and sweep claims that
were abandoned. The digest of an intent is a parameter. A statement whose `WHERE` clause
does not match leaves the row as it is.
-/

open Foundation

namespace UnderstandProof

namespace Db

open Domain (Timestamp)

inductive CheckStatus where
  | queued
  | inProgress
  | completed
  deriving DecidableEq, Repr

inductive CheckConclusion where
  | actionRequired
  | success
  | neutral
  | cancelled
  deriving DecidableEq, Repr

inductive CheckReason where
  | webhookIngested
  | analysisReady
  | preparationFailed
  | proofStarted
  | reviewRequired
  | maintainerDecision
  | revisionInvalidated
  | manualReconcile
  | technicalRetry
  | attemptExpired
  | contributorRetry
  deriving DecidableEq, Repr

inductive SyncStatus where
  | pending
  | syncing
  | synchronized
  | retryRequired
  | permanentFailure
  deriving DecidableEq, Repr

def CheckStatus.text : CheckStatus → JsString
  | queued => js "queued"
  | inProgress => js "in_progress"
  | completed => js "completed"

def CheckConclusion.text : CheckConclusion → JsString
  | actionRequired => js "action_required"
  | success => js "success"
  | neutral => js "neutral"
  | cancelled => js "cancelled"

def CheckReason.text : CheckReason → JsString
  | webhookIngested => js "webhook_ingested"
  | analysisReady => js "analysis_ready"
  | preparationFailed => js "preparation_failed"
  | proofStarted => js "proof_started"
  | reviewRequired => js "review_required"
  | maintainerDecision => js "maintainer_decision"
  | revisionInvalidated => js "revision_invalidated"
  | manualReconcile => js "manual_reconcile"
  | technicalRetry => js "technical_retry"
  | attemptExpired => js "attempt_expired"
  | contributorRetry => js "contributor_retry"

structure GithubCheckIntent where
  revisionId : JsString
  expectedHeadSha : JsString
  idempotencyKey : JsString
  reason : CheckReason
  name : JsString
  status : CheckStatus
  conclusion : Option CheckConclusion
  publicSummary : JsString
  detailsUrl : JsString
  deriving DecidableEq

/-- The refinement of `GithubCheckIntentSchema`. -/
def GithubCheckIntent.accepts (intent : GithubCheckIntent) : Bool :=
  (intent.status = .completed ↔ intent.conclusion ≠ none) ∧
    ((intent.reason = .reviewRequired ∨ intent.reason = .contributorRetry) →
      intent.status = .inProgress) ∧
    ((intent.reason = .technicalRetry ∨ intent.reason = .attemptExpired) →
      intent.conclusion = some .actionRequired) ∧
    intent.conclusion ≠ some .neutral

/-- The JSON array that the intent's digest is taken of; the idempotency key is not in it. -/
def GithubCheckIntent.hashedJson (intent : GithubCheckIntent) : Json :=
  .arr [.str (js "slopproof-github-check-intent"), .num 1, .str intent.revisionId,
    .str intent.expectedHeadSha, .str intent.reason.text, .str intent.name,
    .str intent.status.text, intent.conclusion.elim .null fun c => .str c.text,
    .str intent.publicSummary, .str intent.detailsUrl]

def hashCheckIntent {Digest : Type} (sha256 : List UInt8 → Digest) (intent : GithubCheckIntent) :
    Digest :=
  sha256 (JsString.utf8Encode (Json.stringify intent.hashedJson))

/-- What the row's statements read of `pull_request_revisions`. -/
structure CheckRevision where
  headSha : JsString
  isCurrent : Bool
  deriving DecidableEq

/-- A row of `check_runs`; the three columns of the intent are null together. -/
structure CheckRun (Digest : Type) where
  githubCheckRunId : Option JsString
  name : JsString
  status : CheckStatus
  conclusion : Option CheckConclusion
  publicSummary : JsString
  detailsUrl : JsString
  lastSynchronizedAt : Option Timestamp
  syncStatus : SyncStatus
  syncAttempts : ℕ
  lastSyncErrorClass : Option JsString
  syncRequestedAt : Timestamp
  nextSyncAfter : Option Timestamp
  intentIdempotencyKey : Option JsString
  intentHash : Option Digest
  intentReason : Option CheckReason
  updatedAt : Timestamp
  deriving DecidableEq

/-- The payload of a `github.reconcile-check` job. -/
structure ReconcileCheckJob where
  idempotencyKey : JsString
  revisionId : JsString
  expectedHeadSha : JsString
  reason : CheckReason
  deriving DecidableEq

inductive CheckIntentError where
  | schemaInvalid
  | staleGithubCheckIntent
  | githubCheckIntentConflict
  deriving DecidableEq, Repr

/-- What a check intent transaction leaves: the row, whether it is a replay, and whether
it goes on to publish the job. -/
structure IntentWrite (Digest : Type) where
  row : CheckRun Digest
  replay : Bool
  publishes : Bool

section Statements

variable {Digest : Type} [DecidableEq Digest]

def permitsNoncurrentInvalidation (input : GithubCheckIntent) : Bool :=
  input.reason = .revisionInvalidated ∧ input.status = .completed ∧
    input.conclusion = some .cancelled

/-- An intent after the analysis. -/
def isLaterStage (reason : CheckReason) : Bool :=
  reason ≠ .webhookIngested ∧ reason ≠ .analysisReady

/-- The row's error class when its GitHub binding is inactive. -/
def inactiveGithubBinding : JsString := js "InactiveGithubBinding"

def abandonedSyncLease : JsString := js "AbandonedSyncLease"

/-- The lease of a claim, in milliseconds. -/
def syncLeaseMs : ℤ := 2 * 60 * 1000

def insertedCheckRun (sha256 : List UInt8 → Digest) (now : Timestamp)
    (input : GithubCheckIntent) : CheckRun Digest where
  githubCheckRunId := none
  name := input.name
  status := input.status
  conclusion := input.conclusion
  publicSummary := input.publicSummary
  detailsUrl := input.detailsUrl
  lastSynchronizedAt := none
  syncStatus := .pending
  syncAttempts := 0
  lastSyncErrorClass := none
  syncRequestedAt := now
  nextSyncAfter := none
  intentIdempotencyKey := some input.idempotencyKey
  intentHash := some (hashCheckIntent sha256 input)
  intentReason := some input.reason
  updatedAt := now

/-- The row after `ON CONFLICT (revision_id) DO UPDATE`. -/
def overwrittenCheckRun (sha256 : List UInt8 → Digest) (now : Timestamp)
    (input : GithubCheckIntent) (row : CheckRun Digest) : CheckRun Digest :=
  { row with
    name := input.name
    status := input.status
    conclusion := input.conclusion
    publicSummary := input.publicSummary
    detailsUrl := input.detailsUrl
    syncStatus := .pending
    lastSyncErrorClass := none
    lastSynchronizedAt := none
    nextSyncAfter := none
    syncRequestedAt := now
    intentIdempotencyKey := some input.idempotencyKey
    intentHash := some (hashCheckIntent sha256 input)
    intentReason := some input.reason
    updatedAt := now }

/-- The row after the synchronization of the same intent is asked for again. -/
def CheckRun.requestAgain (now : Timestamp) (row : CheckRun Digest) : CheckRun Digest :=
  { row with
    syncStatus := .pending
    lastSyncErrorClass := none
    nextSyncAfter := none
    syncRequestedAt := now
    updatedAt := now }

/-- The row failed because its GitHub binding was inactive. -/
def CheckRun.isInactive (row : CheckRun Digest) : Bool :=
  row.syncStatus = .permanentFailure ∧ row.lastSyncErrorClass = some inactiveGithubBinding

/-- The intent is bound to another revision, or to one that is not current any more. -/
def isStaleIntent (revision : CheckRevision) (input : GithubCheckIntent) : Bool :=
  revision.headSha ≠ input.expectedHeadSha ∨
    revision.isCurrent = false ∧ permitsNoncurrentInvalidation input = false

/-- `persistGithubCheckIntentInTransaction` up to the publication of its job. `advanced` is
what the query on the attempts and decisions of the revision returns. -/
def persistGithubCheckIntent (sha256 : List UInt8 → Digest) (now : Timestamp)
    (revision : CheckRevision) (advanced : Bool) (stored : Option (CheckRun Digest))
    (input : GithubCheckIntent) : Except CheckIntentError (IntentWrite Digest) :=
  if input.accepts = false then .error .schemaInvalid
  else if isStaleIntent revision input then .error .staleGithubCheckIntent
  else
    match stored with
    | none =>
        if input.reason = .analysisReady ∧ advanced = true then
          .error .staleGithubCheckIntent
        else
          .ok { row := insertedCheckRun sha256 now input, replay := false, publishes := true }
    | some row =>
        if row.intentIdempotencyKey = some input.idempotencyKey then
          if row.intentHash ≠ some (hashCheckIntent sha256 input) then
            .error .githubCheckIntentConflict
          else
            .ok
              { row := if row.isInactive then row.requestAgain now else row
                replay := true
                publishes := true }
        else if input.reason = .analysisReady ∧
            (row.intentReason.any isLaterStage = true ∨ advanced = true) then
          .ok { row := row, replay := true, publishes := false }
        else
          .ok
            { row := overwrittenCheckRun sha256 now input row
              replay := false
              publishes := true }

/-- The job that a row's synchronization needs. -/
def jobOf (revisionId : JsString) (revision : CheckRevision) (row : CheckRun Digest) :
    Option ReconcileCheckJob :=
  match row.intentIdempotencyKey, row.intentReason with
  | some idempotencyKey, some reason =>
      some
        { idempotencyKey := idempotencyKey
          revisionId := revisionId
          expectedHeadSha := revision.headSha
          reason := reason }
  | _, _ => none

/-- `reactivateInactiveGithubCheckIntentInTransaction`: the row to write, when there is
one. -/
def reactivateInactiveGithubCheckIntent (now : Timestamp) (revision : CheckRevision)
    (expectedHeadSha : JsString) (row : CheckRun Digest) : Option (CheckRun Digest) :=
  if revision.headSha = expectedHeadSha ∧ revision.isCurrent = true ∧ row.isInactive = true ∧
      row.intentIdempotencyKey.isSome = true ∧ row.intentReason.isSome = true then
    some (row.requestAgain now)
  else none

/-- The intent that a revision keeps when it is not current any more. -/
def CheckRun.isInvalidation (row : CheckRun Digest) : Bool :=
  row.intentReason = some .revisionInvalidated ∧ row.status = .completed ∧
    row.conclusion = some .cancelled

/-- A claim that has run out of its lease. -/
def CheckRun.isAbandoned (now : Timestamp) (row : CheckRun Digest) : Bool :=
  row.syncStatus = .syncing ∧ row.updatedAt < now - syncLeaseMs

/-- `claimGithubCheckSync`: the row as claimed, when the claim succeeds. -/
def claimGithubCheckSync (now : Timestamp) (revision : CheckRevision) (job : ReconcileCheckJob)
    (row : CheckRun Digest) : Option (CheckRun Digest) :=
  if revision.headSha = job.expectedHeadSha ∧ row.intentReason = some job.reason ∧
      row.nextSyncAfter.all (fun t => t ≤ now) = true ∧
      (revision.isCurrent = true ∨ row.isInvalidation = true) ∧
      (row.syncStatus = .pending ∨ row.syncStatus = .retryRequired ∨
        row.isAbandoned now = true) then
    some { row with
      syncStatus := .syncing
      syncAttempts := row.syncAttempts + 1
      lastSyncErrorClass := none
      nextSyncAfter := none
      updatedAt := now }
  else none

/-- The claim with this number is the row's last one, and still open. -/
def CheckRun.holds (attempt : ℕ) (row : CheckRun Digest) : Bool :=
  row.syncAttempts = attempt ∧ row.syncStatus = .syncing

/-- `completeGithubCheckSync` -/
def completeGithubCheckSync (now : Timestamp) (attempt : ℕ) (githubCheckRunId : JsString)
    (row : CheckRun Digest) : Option (CheckRun Digest) :=
  if row.holds attempt then
    some { row with
      githubCheckRunId := some githubCheckRunId
      syncStatus := .synchronized
      lastSyncErrorClass := none
      nextSyncAfter := none
      lastSynchronizedAt := some now
      updatedAt := now }
  else none

/-- `completeSkippedGithubInvalidationSync` -/
def completeSkippedGithubInvalidationSync (now : Timestamp) (attempt : ℕ)
    (row : CheckRun Digest) : Option (CheckRun Digest) :=
  if row.holds attempt = true ∧ row.isInvalidation = true then
    some { row with
      syncStatus := .synchronized
      lastSyncErrorClass := none
      nextSyncAfter := none
      lastSynchronizedAt := some now
      updatedAt := now }
  else none

/-- `completeInactiveGithubCheckSync`; `bindingInactive` is whether the repository or the
installation of the revision is not active. -/
def completeInactiveGithubCheckSync (now : Timestamp) (attempt : ℕ) (bindingInactive : Bool)
    (row : CheckRun Digest) : Option (CheckRun Digest) :=
  if row.holds attempt = true ∧ bindingInactive = true then
    some { row with
      syncStatus := .permanentFailure
      lastSyncErrorClass := some inactiveGithubBinding
      nextSyncAfter := none
      updatedAt := now }
  else none

/-- `failGithubCheckSync`; a retryable failure comes with the time of its retry. -/
def failGithubCheckSync (now : Timestamp) (attempt : ℕ) (errorClass : JsString)
    (nextSyncAfter : Option Timestamp) (row : CheckRun Digest) : Option (CheckRun Digest) :=
  if row.holds attempt then
    some { row with
      syncStatus := if nextSyncAfter.isSome then .retryRequired else .permanentFailure
      lastSyncErrorClass := some errorClass
      nextSyncAfter := nextSyncAfter
      updatedAt := now }
  else none

/-- The first statement of a sweep, which takes claims back that ran out of their lease. -/
def CheckRun.released (now : Timestamp) (row : CheckRun Digest) : CheckRun Digest :=
  if row.isAbandoned now then
    { row with
      syncStatus := .retryRequired
      lastSyncErrorClass := row.lastSyncErrorClass <|> some abandonedSyncLease
      nextSyncAfter := row.nextSyncAfter <|> some now
      updatedAt := now }
  else row

/-- The rows that a sweep replays. -/
def CheckRun.isDue (now : Timestamp) (row : CheckRun Digest) : Bool :=
  row.syncStatus = .retryRequired ∧ row.nextSyncAfter.all (fun t => t ≤ now) = true ∧
    row.intentIdempotencyKey.isSome = true ∧ row.intentReason.isSome = true

/-- `replayDueGithubCheckSyncs` selects the row at this time. -/
def CheckRun.isSelected (now : Timestamp) (row : CheckRun Digest) : Bool :=
  (row.released now).isDue now

/-- The last statement of a sweep, once the job was published. -/
def CheckRun.replayed (now : Timestamp) (row : CheckRun Digest) : CheckRun Digest :=
  { row with
    nextSyncAfter := none
    syncRequestedAt := now
    updatedAt := now }

end Statements

end Db

end UnderstandProof
