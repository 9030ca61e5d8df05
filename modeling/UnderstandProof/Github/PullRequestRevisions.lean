import UnderstandProof.Db.GithubChecks
import UnderstandProof.Domain.Attempt
import UnderstandProof.Github.Lifecycle

/-!
# The revisions and attempts of one pull request

A pull request has a revision for each pair of a head and a base that it was seen at, one of
which is current. A verified snapshot switches to its pair, invalidates what was in progress
on the revision before, and writes the intents of the checks; the attempts are created by the
persistence of a proof plan, by the preparation of a revision, and as replacements of attempts
that have failed. Every transaction is one step, and one that throws, or that a trigger or a
unique index rejects, leaves the rows as they are.

The digest of an intent, the ids that are derived from texts and the address of a revision's
page are parameters. What a transaction reads of other tables is a part of its event.
-/

open Foundation

namespace UnderstandProof

namespace Github

open Domain (AttemptStatus Timestamp allowedAttemptTransitions)
open Db (CheckConclusion CheckReason CheckRevision CheckRun CheckStatus GithubCheckIntent
  persistGithubCheckIntent reactivateInactiveGithubCheckIntent)

/-- A row of `pull_request_revisions`. -/
structure PullRequestRevision where
  id : JsString
  headSha : JsString
  baseSha : JsString
  isCurrent : Bool
  invalidatedAt : Option Timestamp
  deriving DecidableEq

/-- A row of `attempts`. -/
structure Attempt where
  id : JsString
  revisionId : JsString
  authorId : JsString
  proofPlanId : JsString
  headSha : JsString
  status : AttemptStatus
  expiresAt : Timestamp
  createdAt : Timestamp
  completedAt : Option Timestamp
  invalidatedAt : Option Timestamp
  deriving DecidableEq

/-- What a snapshot transaction has committed. -/
structure CommittedSnapshot where
  headSha : JsString
  baseSha : JsString
  state : PullRequestState
  deriving DecidableEq

/-- The rows of one pull request: its state, its revisions and attempts, the plans by their
id with the revision of each, and the check row of each revision. The last field is the log
of the snapshots. -/
structure PullRequestRows (Digest : Type) where
  state : Option PullRequestState
  revisions : List PullRequestRevision
  attempts : List Attempt
  proofPlans : Table JsString JsString
  checkRuns : Table JsString (CheckRun Digest)
  committed : List CommittedSnapshot

structure RevisionEnvironment (Digest : Type) where
  sha256 : List UInt8 → Digest
  deterministicUuid : JsString → JsString
  detailsUrl : JsString → JsString

/-- A verified snapshot of the pull request. -/
structure VerifiedSnapshot where
  action : PullRequestAction
  state : PullRequestState
  headSha : JsString
  baseSha : JsString
  deriving DecidableEq

/-- What a proof plan is persisted for. -/
structure SemanticRun where
  revisionId : JsString
  authorId : JsString
  contextHeadSha : JsString
  planId : JsString
  planHeadSha : JsString
  idempotencyKey : JsString
  deriving DecidableEq

inductive RevisionEvent where
  /-- `revisionId` is the id of a new revision, `reactivates` whether the installation or the
  repository may be reactivated, and `fails` whether something else throws. -/
  | snapshot (now : Timestamp) (payload : VerifiedSnapshot) (revisionId : JsString)
      (reactivates fails : Bool)
  /-- `bindingActive` is whether the repository and the installation are active. -/
  | persistProofPlan (now : Timestamp) (run : SemanticRun) (bindingActive fails : Bool)
  | prepareRevision (now : Timestamp) (run : SemanticRun) (fails : Bool)
  /-- `authorized` is whether the session is that of the author in the repository. -/
  | createReplacement (now : Timestamp)
      (sourceAttemptId expectedHeadSha idempotencyKey : JsString) (authorized fails : Bool)
  /-- A transition of an attempt, with the intent that is written in its transaction. -/
  | transition (now : Timestamp) (attemptId : JsString) (status : AttemptStatus)
      (intent : Option GithubCheckIntent)

/-! ## Attempts -/

/-- `preparing` to `review_required` -/
def isLive (status : AttemptStatus) : Bool :=
  status ∈ [AttemptStatus.preparing, .ready, .active, .uploading, .processing, .reviewRequired]

/-- The statuses of an attempt that may be replaced. -/
def isRetryable (status : AttemptStatus) : Bool :=
  status ∈ [AttemptStatus.technicalRetry, .retryRequired, .expired]

def attemptLifetimeMs : ℤ := 8 * 60 * 60000

namespace Attempt

/-- The order of `created_at DESC, id DESC` -/
def isNewer (a b : Attempt) : Bool :=
  b.createdAt < a.createdAt ∨ b.createdAt = a.createdAt ∧ b.id < a.id

/-- The attempt of the same author on the same revision. -/
def isOf (revisionId authorId : JsString) (attempt : Attempt) : Bool :=
  attempt.revisionId = revisionId ∧ attempt.authorId = authorId

def invalidate (now : Timestamp) (attempt : Attempt) : Attempt :=
  { attempt with
    status := .invalidated
    invalidatedAt := some now
    completedAt := some now }

/-- What a transition writes. -/
def withStatus (now : Timestamp) (status : AttemptStatus) (attempt : Attempt) : Attempt :=
  { attempt with
    status := status
    completedAt := if isLive status then attempt.completedAt else some now
    invalidatedAt := if status = .invalidated then some now else attempt.invalidatedAt }

end Attempt

def githubCheckName : JsString := js "UnderstandProof / understanding required"

namespace PullRequestRows

variable {Digest : Type}

/-- Without a snapshot there is nothing. -/
def start : PullRequestRows Digest where
  state := none
  revisions := []
  attempts := []
  proofPlans := fun _ => none
  checkRuns := fun _ => none
  committed := []

def findRevision (s : PullRequestRows Digest) (revisionId : JsString) :
    Option PullRequestRevision :=
  s.revisions.find? fun revision => revision.id = revisionId

def currentRevision (s : PullRequestRows Digest) : Option PullRequestRevision :=
  s.revisions.find? fun revision => revision.isCurrent

def hasPassed (s : PullRequestRows Digest) (revisionId : JsString) : Bool :=
  s.attempts.any fun attempt => attempt.revisionId = revisionId ∧ attempt.status = .passed

/-- The first one by `created_at DESC, id DESC` -/
def newestAttempt (attempts : List Attempt) : Option Attempt :=
  attempts.foldl
    (fun latest attempt => if latest.all attempt.isNewer then some attempt else latest) none

def latestAttempt (s : PullRequestRows Digest) (revisionId authorId : JsString) :
    Option Attempt :=
  newestAttempt (s.attempts.filter (·.isOf revisionId authorId))

/-- The live attempt of an author on a revision. -/
def liveAttempt (s : PullRequestRows Digest) (revisionId authorId : JsString) : Option Attempt :=
  newestAttempt
    (s.attempts.filter fun attempt => attempt.isOf revisionId authorId ∧ isLive attempt.status)

/-- The live attempts on the revision are invalidated. -/
def invalidateAttempts (now : Timestamp) (revisionId : JsString) (s : PullRequestRows Digest) :
    PullRequestRows Digest :=
  { s with
    attempts := s.attempts.map fun attempt =>
      if attempt.revisionId = revisionId ∧ isLive attempt.status then attempt.invalidate now
      else attempt }

/-- `INSERT INTO attempts` with its triggers and unique indexes: the attempt is bound to its
revision and to a plan of it, and is the only live one of its author there. -/
def insertAttempt (attempt : Attempt) (s : PullRequestRows Digest) :
    Option (PullRequestRows Digest) :=
  if (s.findRevision attempt.revisionId).any (·.headSha = attempt.headSha) = true ∧
      s.proofPlans attempt.proofPlanId = some attempt.revisionId ∧
      s.attempts.all (·.id ≠ attempt.id) = true ∧
      s.attempts.any
        (fun other => other.isOf attempt.revisionId attempt.authorId ∧ isLive other.status) =
          false ∧
      attempt.createdAt < attempt.expiresAt then
    some { s with attempts := s.attempts ++ [attempt] }
  else none

/-- `INSERT INTO proof_plans … ON CONFLICT (id) DO NOTHING` -/
def insertProofPlan (planId revisionId : JsString) (s : PullRequestRows Digest) :
    PullRequestRows Digest :=
  if s.proofPlans planId = none then
    { s with proofPlans := s.proofPlans.set planId revisionId }
  else s

/-! ## Checks -/

def checkIntent (environment : RevisionEnvironment Digest) (revisionId headSha : JsString)
    (status : CheckStatus) (conclusion : Option CheckConclusion) (summary : JsString)
    (reason : CheckReason) (idempotencyKey : JsString) : GithubCheckIntent where
  revisionId := revisionId
  expectedHeadSha := headSha
  idempotencyKey := idempotencyKey
  reason := reason
  name := githubCheckName
  status := status
  conclusion := conclusion
  publicSummary := summary
  detailsUrl := environment.detailsUrl revisionId

/-- The proof of the revision has progressed. A review decision is made on an attempt in
review only, so its attempt counts already. -/
def isAdvanced (s : PullRequestRows Digest) (revisionId : JsString) : Bool :=
  s.attempts.any fun attempt =>
    attempt.revisionId = revisionId ∧ attempt.status ∉ [AttemptStatus.preparing, .ready]

/-- `check_runs_success_guard` -/
def guardSuccessCheck (s : PullRequestRows Digest) (revisionId : JsString) : Bool :=
  s.revisions.any (fun revision => revision.id = revisionId ∧ revision.isCurrent) &&
    s.hasPassed revisionId

variable [DecidableEq Digest]

/-- `PostgresGithubCheckIntentWriter.write` -/
def writeCheck (environment : RevisionEnvironment Digest) (now : Timestamp)
    (intent : GithubCheckIntent) (s : PullRequestRows Digest) :
    Option (PullRequestRows Digest) :=
  match s.findRevision intent.revisionId with
  | none => none
  | some revision =>
      match persistGithubCheckIntent environment.sha256 now
          { headSha := revision.headSha, isCurrent := revision.isCurrent }
          (s.isAdvanced intent.revisionId) (s.checkRuns intent.revisionId) intent with
      | .error _ => none
      | .ok write =>
          if write.replay = false ∧ intent.conclusion = some .success ∧
              s.guardSuccessCheck intent.revisionId = false then none
          else some { s with checkRuns := s.checkRuns.set intent.revisionId write.row }

/-- `PostgresGithubCheckIntentWriter.reactivateInactive` -/
def reactivateInactive (now : Timestamp) (revisionId headSha : JsString)
    (s : PullRequestRows Digest) : PullRequestRows Digest :=
  match s.findRevision revisionId, s.checkRuns revisionId with
  | some revision, some row =>
      match reactivateInactiveGithubCheckIntent now
          { headSha := revision.headSha, isCurrent := revision.isCurrent } headSha row with
      | some row => { s with checkRuns := s.checkRuns.set revisionId row }
      | none => s
  | _, _ => s

/-! ## Snapshots -/

/-- The current revision gives way to a pair with the given head. -/
def invalidateRevision (environment : RevisionEnvironment Digest) (now : Timestamp)
    (current : PullRequestRevision) (headSha : JsString) (s : PullRequestRows Digest) :
    Option (PullRequestRows Digest) :=
  writeCheck environment now
    (checkIntent environment current.id current.headSha .completed (some .cancelled)
      (js "invalidated by a newer head SHA") .revisionInvalidated
      (js "check:invalidated:" ++ current.id ++ js ":" ++ headSha))
    (invalidateAttempts now current.id
      { s with
        revisions := s.revisions.map fun revision =>
          if revision.id = current.id then
            { revision with isCurrent := false, invalidatedAt := some now }
          else revision })

/-- `INSERT INTO pull_request_revisions … ON CONFLICT … DO UPDATE … RETURNING id` -/
def upsertRevision (headSha baseSha revisionId : JsString) (s : PullRequestRows Digest) :
    Option (PullRequestRows Digest × JsString) :=
  match s.revisions.find? (fun revision =>
      revision.headSha = headSha ∧ revision.baseSha = baseSha) with
  | some found =>
      some
        ({ s with
            revisions := s.revisions.map fun revision =>
              if revision.headSha = headSha ∧ revision.baseSha = baseSha then
                { revision with isCurrent := true, invalidatedAt := none }
              else revision },
          found.id)
  | none =>
      if s.revisions.all (·.id ≠ revisionId) = true then
        some
          ({ s with
              revisions := s.revisions ++
                [{ id := revisionId
                   headSha := headSha
                   baseSha := baseSha
                   isCurrent := true
                   invalidatedAt := none }] },
            revisionId)
      else none

/-- The revision of a snapshot, once it is current, and whether it was not current before
while another one was. -/
def switchRevision (environment : RevisionEnvironment Digest) (now : Timestamp)
    (payload : VerifiedSnapshot) (revisionId : JsString) (s : PullRequestRows Digest) :
    Option (PullRequestRows Digest × JsString × Bool) :=
  match s.currentRevision with
  | none =>
      (s.upsertRevision payload.headSha payload.baseSha revisionId).map fun switched =>
        (switched.1, switched.2, false)
  | some current =>
      if current.headSha ≠ payload.headSha ∨ current.baseSha ≠ payload.baseSha then
        (s.invalidateRevision environment now current payload.headSha).bind fun left =>
          (left.upsertRevision payload.headSha payload.baseSha revisionId).map fun switched =>
            (switched.1, switched.2, true)
      else some (s, current.id, false)

/-- The action of a snapshot as its idempotency key spells it. -/
def actionText : PullRequestAction → JsString
  | .opened => js "opened"
  | .reopened => js "reopened"
  | .readyForReview => js "ready_for_review"
  | .synchronize => js "synchronize"
  | .closed => js "closed"

/-- The intent of a snapshot for its revision. -/
def webhookIntent (environment : RevisionEnvironment Digest) (payload : VerifiedSnapshot)
    (alreadyPassed : Bool) (revisionId : JsString) : GithubCheckIntent :=
  let key := js "check:webhook:" ++ revisionId ++ js ":" ++ actionText payload.action
  if payload.action = .closed then
    checkIntent environment revisionId payload.headSha .completed (some .cancelled)
      (js "closed for head " ++ payload.headSha) .webhookIngested key
  else if alreadyPassed then
    checkIntent environment revisionId payload.headSha .completed (some .success)
      (js "understanding confirmed for head " ++ payload.headSha) .webhookIngested key
  else
    checkIntent environment revisionId payload.headSha .inProgress none
      (js "understanding required for head " ++ payload.headSha) .webhookIngested key

/-- A snapshot may write over a check that no later stage has written. -/
def canApplyWebhookCheck (payload : VerifiedSnapshot) (alreadyPassed reactivatedRevision : Bool)
    (checkRow : Option (CheckRun Digest)) : Bool :=
  payload.action = .closed ∨ alreadyPassed = true ∨ reactivatedRevision = true ∨
    checkRow.all (fun row => row.intentReason = none ∨
      row.intentReason = some .webhookIngested) = true

/-- What a snapshot does once its revision is current. -/
def applySnapshot (environment : RevisionEnvironment Digest) (now : Timestamp)
    (payload : VerifiedSnapshot) (reactivates reactivatedRevision : Bool) (revisionId : JsString)
    (s : PullRequestRows Digest) : Option (PullRequestRows Digest) :=
  let closed := if payload.action = .closed then s.invalidateAttempts now revisionId else s
  let alreadyPassed : Bool := payload.action ≠ .closed ∧ closed.hasPassed revisionId = true
  let awake := if reactivates then closed.reactivateInactive now revisionId payload.headSha
    else closed
  if canApplyWebhookCheck payload alreadyPassed reactivatedRevision (s.checkRuns revisionId) then
    awake.writeCheck environment now
      (webhookIntent environment payload alreadyPassed revisionId)
  else some awake

/-- `processVerifiedPullRequestSnapshotOperation` -/
def processSnapshot (environment : RevisionEnvironment Digest) (now : Timestamp)
    (payload : VerifiedSnapshot) (revisionId : JsString) (reactivates fails : Bool)
    (s : PullRequestRows Digest) : Option (PullRequestRows Digest) :=
  if fails then none
  else
    let seen := { s with state := some payload.state }
    (seen.switchRevision environment now payload revisionId).bind fun switched =>
      (switched.1.applySnapshot environment now payload reactivates switched.2.2
        switched.2.1).map fun applied =>
        { applied with
          committed := applied.committed ++
            [{ headSha := payload.headSha
               baseSha := payload.baseSha
               state := payload.state }] }

/-! ## Attempts from proof plans -/

/-- An attempt that is ready from now on. -/
def readyAttempt (now : Timestamp) (id revisionId authorId proofPlanId headSha : JsString) :
    Attempt where
  id := id
  revisionId := revisionId
  authorId := authorId
  proofPlanId := proofPlanId
  headSha := headSha
  status := .ready
  expiresAt := now + attemptLifetimeMs
  createdAt := now
  completedAt := none
  invalidatedAt := none

/-- The intent of a proof that is ready. -/
def proofReadyIntent (environment : RevisionEnvironment Digest) (revisionId headSha : JsString)
    (reason : CheckReason) (idempotencyKey : JsString) : GithubCheckIntent :=
  checkIntent environment revisionId headSha .inProgress none
    (js "proof ready for head " ++ headSha) reason idempotencyKey

def attemptCount (s : PullRequestRows Digest) (revisionId authorId : JsString) : ℕ :=
  s.attempts.countP (·.isOf revisionId authorId)

/-- The id of the next attempt on a plan. -/
def nextAttemptId (environment : RevisionEnvironment Digest) (label : JsString)
    (run : SemanticRun) (s : PullRequestRows Digest) : JsString :=
  environment.deterministicUuid (label ++ js ":" ++ run.revisionId ++ js ":" ++ run.authorId ++
    js ":" ++ run.planId ++ js ":" ++
    js (toString (s.attemptCount run.revisionId run.authorId + 1)))

/-- `persistProofPlanAndCreateAttempt`; `none` is a rollback. -/
def persistProofPlanAndCreateAttempt (environment : RevisionEnvironment Digest) (now : Timestamp)
    (run : SemanticRun) (bindingActive fails : Bool) (s : PullRequestRows Digest) :
    Option (PullRequestRows Digest) :=
  if fails = true ∨ bindingActive = false ∨ s.state ≠ some .open ∨
      (s.findRevision run.revisionId).all (fun revision =>
        revision.isCurrent = false ∨ revision.headSha ≠ run.contextHeadSha) = true then none
  else if (s.latestAttempt run.revisionId run.authorId).any (fun prior =>
      prior.proofPlanId = run.planId ∧ prior.headSha = run.planHeadSha ∧ isLive prior.status) =
        true then some s
  else if (s.latestAttempt run.revisionId run.authorId).any (fun prior =>
      prior.proofPlanId ≠ run.planId ∨ prior.headSha ≠ run.planHeadSha ∨
        prior.status ≠ .invalidated) = true then none
  else
    ((s.insertProofPlan run.planId run.revisionId).insertAttempt
        (readyAttempt now (s.nextAttemptId environment (js "semantic-attempt-v1") run)
          run.revisionId run.authorId run.planId run.planHeadSha)).bind fun created =>
      created.writeCheck environment now
        (proofReadyIntent environment run.revisionId run.planHeadSha .analysisReady
          run.idempotencyKey)

/-- What `prepareRevision` does to the attempts once its plan is stored; `none` when it is to
leave the check alone. -/
def prepareAttempt (environment : RevisionEnvironment Digest) (now : Timestamp)
    (run : SemanticRun) (headSha : JsString) (s : PullRequestRows Digest) :
    Option (Option (PullRequestRows Digest)) :=
  if s.attempts.any (fun attempt =>
      attempt.isOf run.revisionId run.authorId ∧ isLive attempt.status) = true then
    some (some s)
  else if (s.latestAttempt run.revisionId run.authorId).any (·.status ≠ .invalidated) = true then
    none
  else
    let id := s.nextAttemptId environment (js "attempt") run
    if s.attempts.any (·.id = id) = true then some (some s)
    else
      some (s.insertAttempt
        (readyAttempt now id run.revisionId run.authorId run.planId headSha))

/-- `prepareRevision` with a deterministic plan; `none` is a rollback. -/
def prepareRevision (environment : RevisionEnvironment Digest) (now : Timestamp)
    (run : SemanticRun) (fails : Bool) (s : PullRequestRows Digest) :
    Option (PullRequestRows Digest) :=
  match s.findRevision run.revisionId with
  | none => none
  | some current =>
      if fails = true ∨ current.isCurrent = false ∨ current.headSha ≠ run.contextHeadSha ∨
          s.state ≠ some .open then none
      else
        let planned := s.insertProofPlan run.planId current.id
        match planned.prepareAttempt environment now run current.headSha with
        | none => some planned
        | some prepared =>
            prepared.bind fun prepared =>
              prepared.writeCheck environment now
                (proofReadyIntent environment current.id current.headSha .analysisReady
                  run.idempotencyKey)

/-! ## Replacements and transitions -/

/-- The attempt that a replacement returns, and whether it was there before. -/
structure ReplacementResult where
  attemptId : JsString
  replay : Bool
  deriving DecidableEq

/-- The id of a replacement. -/
def replacementId (environment : RevisionEnvironment Digest)
    (sourceAttemptId idempotencyKey expectedHeadSha : JsString) : JsString :=
  environment.deterministicUuid (js "replacement:" ++ sourceAttemptId ++ js ":" ++
    idempotencyKey ++ js ":" ++ expectedHeadSha)

/-- `createReplacementAttempt`; `none` is a rollback. -/
def createReplacementAttempt (environment : RevisionEnvironment Digest) (now : Timestamp)
    (sourceAttemptId expectedHeadSha idempotencyKey : JsString) (authorized fails : Bool)
    (s : PullRequestRows Digest) : Option (PullRequestRows Digest × ReplacementResult) :=
  match s.attempts.find? (·.id = sourceAttemptId) with
  | none => none
  | some source =>
      if authorized = false ∨
          (s.findRevision source.revisionId).all (·.isCurrent = false) = true ∨
          source.headSha ≠ expectedHeadSha ∨ isRetryable source.status = false then none
      else
        match s.liveAttempt source.revisionId source.authorId with
        | some existing => some (s, { attemptId := existing.id, replay := true })
        | none =>
            let id := replacementId environment sourceAttemptId idempotencyKey expectedHeadSha
            match s.attempts.find? (·.id = id) with
            | some replay =>
                if replay.status ≠ .ready ∨ replay.headSha ≠ source.headSha then none
                else some (s, { attemptId := id, replay := true })
            | none =>
                if fails then none
                else
                  ((s.insertAttempt (readyAttempt now id source.revisionId source.authorId
                    source.proofPlanId source.headSha)).bind fun created =>
                      created.writeCheck environment now
                        (proofReadyIntent environment source.revisionId source.headSha
                          .contributorRetry idempotencyKey)).map fun created =>
                    (created, { attemptId := id, replay := false })

/-- `UPDATE attempts SET status` with its trigger, and the intent of its transaction. -/
def transition (environment : RevisionEnvironment Digest) (now : Timestamp)
    (attemptId : JsString) (status : AttemptStatus) (intent : Option GithubCheckIntent)
    (s : PullRequestRows Digest) : Option (PullRequestRows Digest) :=
  if s.attempts.all (fun attempt =>
      attempt.id ≠ attemptId ∨ status ∈ allowedAttemptTransitions attempt.status) = true then
    let moved : PullRequestRows Digest :=
      { s with
        attempts := s.attempts.map fun attempt =>
          if attempt.id = attemptId then attempt.withStatus now status else attempt }
    match intent with
    | none => some moved
    | some intent => moved.writeCheck environment now intent
  else none

/-! ## Steps -/

/-- The step, or `none` when its transaction is rolled back. -/
def next (environment : RevisionEnvironment Digest) (s : PullRequestRows Digest) :
    RevisionEvent → Option (PullRequestRows Digest)
  | .snapshot now payload revisionId reactivates fails =>
      s.processSnapshot environment now payload revisionId reactivates fails
  | .persistProofPlan now run bindingActive fails =>
      s.persistProofPlanAndCreateAttempt environment now run bindingActive fails
  | .prepareRevision now run fails => s.prepareRevision environment now run fails
  | .createReplacement now sourceAttemptId expectedHeadSha idempotencyKey authorized fails =>
      (s.createReplacementAttempt environment now sourceAttemptId expectedHeadSha idempotencyKey
        authorized fails).map Prod.fst
  | .transition now attemptId status intent =>
      s.transition environment now attemptId status intent

def step (environment : RevisionEnvironment Digest) (s : PullRequestRows Digest)
    (event : RevisionEvent) : PullRequestRows Digest :=
  (s.next environment event).getD s

end PullRequestRows

end Github

end UnderstandProof
