import UnderstandProof.Db.Evidence
import UnderstandProof.Foundation.History
import UnderstandProof.Foundation.Utf8
import UnderstandProof.Github.PullRequestSteps
import UnderstandProof.Web.RequestRateLimit

/-!
# Maintainer decisions

The rows that a maintainer's decision on one attempt reads and writes. The transaction of a
decision locks the attempt and its revision, so it is one step; the reservation of the request
rate limit before it is a transaction of its own. A transaction that throws, or that a trigger
or a unique index rejects, leaves the rows as they are.

The digest of an intent, the hash of a rate limit's subject and the frozen policy of the attempt
are parameters. A text that is sent to the database is encoded as UTF-8.
-/

open Foundation

namespace UnderstandProof

namespace Web

open Domain (AttemptStatus Timestamp allowedAttemptTransitions)
open Db (CheckConclusion CheckReason CheckRun CheckStatus DeletionJobState GithubCheckIntent
  persistGithubCheckIntent)
open Github (isLive githubCheckName)

inductive ReviewAction where
  | approve
  | reject
  | manualRetry
  deriving DecidableEq, Repr

inductive DatabaseDecision where
  | pass
  | retry
  deriving DecidableEq, Repr

/-- The body of a request. -/
structure ReviewDecisionRequest where
  action : JsString
  expectedHeadSha : JsString
  explanation : Option JsString
  idempotencyKey : JsString
  deriving DecidableEq

@[ext] structure ReviewDecisionInput where
  action : ReviewAction
  expectedHeadSha : JsString
  explanation : Option JsString
  idempotencyKey : JsString
  deriving DecidableEq

def parseReviewAction (action : JsString) : Option ReviewAction :=
  if action = js "approve" then some .approve
  else if action = js "reject" then some .reject
  else if action = js "manual_retry" then some .manualRetry
  else none

/-- `z.string().trim().min(1).max(2_000).optional()` -/
def parseExplanation : Option JsString → Option (Option JsString)
  | none => some none
  | some text =>
      if 1 ≤ text.trim.length ∧ text.trim.length ≤ 2000 then some (some text.trim) else none

/-- `ReviewDecisionInputSchema` -/
def ReviewDecisionRequest.parse (request : ReviewDecisionRequest) : Option ReviewDecisionInput :=
  (parseReviewAction request.action).bind fun action =>
    (parseExplanation request.explanation).bind fun explanation =>
      if (request.expectedHeadSha.length = 40 ∧ request.expectedHeadSha.all isLowerHex = true) ∧
          Domain.isIdempotencyKey request.idempotencyKey = true then
        some
          { action := action
            expectedHeadSha := request.expectedHeadSha
            explanation := explanation
            idempotencyKey := request.idempotencyKey }
      else none

structure ReviewDecisionPlan where
  databaseDecision : DatabaseDecision
  targetStatus : AttemptStatus
  reasonCode : JsString
  checkConclusion : CheckConclusion
  publicSummary : JsString
  deriving DecidableEq

def planReviewDecision (action : ReviewAction) (headSha : JsString) : ReviewDecisionPlan :=
  match action with
  | .approve =>
      { databaseDecision := .pass
        targetStatus := .passed
        reasonCode := js "maintainer_approved"
        checkConclusion := .success
        publicSummary := js "passed " ++ headSha }
  | .reject =>
      { databaseDecision := .retry
        targetStatus := .retryRequired
        reasonCode := js "maintainer_rejected"
        checkConclusion := .actionRequired
        publicSummary := js "action required " ++ headSha }
  | .manualRetry =>
      { databaseDecision := .retry
        targetStatus := .technicalRetry
        reasonCode := js "manual_retry"
        checkConclusion := .actionRequired
        publicSummary := js "technical retry " ++ headSha }

/-! ## Rows -/

/-- A row of `review_decisions`. -/
structure ReviewDecision where
  maintainerId : JsString
  decision : DatabaseDecision
  reasonCode : JsString
  explanation : Option JsString
  headSha : JsString
  decidedAt : Timestamp
  deriving DecidableEq

/-- A row of `attempt_transitions`. -/
structure ReviewTransition where
  idempotencyKey : JsString
  fromStatus : AttemptStatus
  toStatus : AttemptStatus
  headSha : JsString
  actorId : JsString
  actorRole : JsString
  occurredAt : Timestamp
  deriving DecidableEq

/-- What a decision reads and writes of the attempt's row of `deletion_jobs`. -/
structure EvidenceDeletion where
  id : JsString
  deadline : Timestamp
  state : DeletionJobState
  deriving DecidableEq

inductive ReviewAudit where
  | deletionAccelerated (actorId : JsString)
  | reviewDecided (actorId : JsString) (decision : DatabaseDecision) (reasonCode : JsString)
  deriving DecidableEq

/-- The attempt, whether its revision is current, and what belongs to the two. `deletions` are
the idempotency keys of the published jobs. -/
structure ReviewRows (Digest : Type) where
  status : AttemptStatus
  completedAt : Option Timestamp
  isCurrent : Bool
  decisions : List ReviewDecision
  transitions : List ReviewTransition
  checkRun : Option (CheckRun Digest)
  deletion : Option EvidenceDeletion
  deletions : List JsString
  audits : List ReviewAudit
  rateLimits : RateLimitTable

/-- `policy` is `deleteAfterMaintainerPass` of the frozen policy, when its schema accepts it. -/
structure ReviewEnvironment (Digest : Type) where
  sha256 : List UInt8 → Digest
  subjectKeyHash : JsString → JsString
  revisionId : JsString
  headSha : JsString
  detailsUrl : JsString
  policy : Option Bool

/-- A call with its readings of the clock. `authorized` is whether the actor is a maintainer of
the attempt's repository now, `deletionId` the id of a new deletion job, and `fails` whether
something else throws in the transaction. -/
structure ReviewCall where
  now : Timestamp
  clock : CleanupClock
  occurredAt : ℤ
  actorId : JsString
  authorized : Bool
  request : ReviewDecisionRequest
  deletionId : JsString
  fails : Bool

inductive ReviewAnswer where
  | invalidRequest
  | rateLimited
  | unauthorized
  | conflict
  | failed
  | decided (replay : Bool) (action : ReviewAction) (status : AttemptStatus) (headSha : JsString)
  deriving DecidableEq

/-- What the database holds of a text that it is sent; it rejects the null character. -/
def storedText (text : JsString) : Option JsString :=
  if 0 ∈ text then none
  else (JsString.Utf8Decoder.start.feed (JsString.utf8Encode text)).map (·.2)

def storedExplanation : Option JsString → Option (Option JsString)
  | none => some none
  | some text => (storedText text).map some

/-- The intent of a decision. -/
def decisionIntent {Digest : Type} (environment : ReviewEnvironment Digest)
    (input : ReviewDecisionInput) : GithubCheckIntent where
  revisionId := environment.revisionId
  expectedHeadSha := environment.headSha
  idempotencyKey := input.idempotencyKey
  reason := .maintainerDecision
  name := githubCheckName
  status := .completed
  conclusion := some (planReviewDecision input.action input.expectedHeadSha).checkConclusion
  publicSummary := (planReviewDecision input.action input.expectedHeadSha).publicSummary
  detailsUrl := environment.detailsUrl

namespace ReviewRows

variable {Digest : Type}

def start : ReviewRows Digest where
  status := .preparing
  completedAt := none
  isCurrent := true
  decisions := []
  transitions := []
  checkRun := none
  deletion := none
  deletions := []
  audits := []
  rateLimits := .empty

/-! ## Statements -/

/-- `INSERT INTO review_decisions` with its trigger. -/
def insertDecision (decision : ReviewDecision) (headSha : JsString) (s : ReviewRows Digest) :
    Option (ReviewRows Digest) :=
  match storedExplanation decision.explanation with
  | none => none
  | some explanation =>
      if s.status = .reviewRequired ∧ decision.headSha = headSha ∧ s.isCurrent = true then
        some { s with decisions := s.decisions ++ [{ decision with explanation := explanation }] }
      else none

def findTransition (idempotencyKey : JsString) (s : ReviewRows Digest) :
    Option ReviewTransition :=
  s.transitions.find? fun transition => transition.idempotencyKey = idempotencyKey

/-- `INSERT INTO attempt_transitions` with its unique index. -/
def insertTransition (transition : ReviewTransition) (s : ReviewRows Digest) :
    Option (ReviewRows Digest) :=
  if s.findTransition transition.idempotencyKey = none then
    some { s with transitions := s.transitions ++ [transition] }
  else none

/-- `UPDATE attempts SET status` with its trigger. -/
def updateStatus (now : Timestamp) (status : AttemptStatus) (s : ReviewRows Digest) :
    Option (ReviewRows Digest) :=
  if status ∈ allowedAttemptTransitions s.status then
    some { s with
      status := status
      completedAt := if isLive status then s.completedAt else some now }
  else none

/-- `accelerateEvidenceDeletionAfterPass` -/
def accelerateEvidenceDeletionAfterPass (now : Timestamp) (deletionId : JsString)
    (s : ReviewRows Digest) : ReviewRows Digest :=
  let deletion : EvidenceDeletion :=
    match s.deletion with
    | none => { id := deletionId, deadline := now, state := .pending }
    | some row =>
        { row with
          deadline := min row.deadline now
          state := if row.state = .completed then .completed else .pending }
  { s with
    deletion := some deletion
    deletions :=
      if deletion.state = .completed then s.deletions
      else s.deletions ++ [js "evidence-delete:" ++ deletion.id ++ js ":maintainer-pass"] }

def writeReviewAudit (audit : ReviewAudit) (s : ReviewRows Digest) : ReviewRows Digest :=
  { s with audits := s.audits ++ [audit] }

variable [DecidableEq Digest]

/-- `CheckIntentWriter.write`; `passed` is whether an attempt of the revision has passed. -/
def writeCheck (environment : ReviewEnvironment Digest) (now : Timestamp)
    (advanced passed : Bool) (intent : GithubCheckIntent) (s : ReviewRows Digest) :
    Option (ReviewRows Digest) :=
  match persistGithubCheckIntent environment.sha256 now
      { headSha := environment.headSha, isCurrent := s.isCurrent } advanced s.checkRun intent with
  | .error _ => none
  | .ok write =>
      if write.replay = false ∧ intent.conclusion = some .success ∧
          (s.isCurrent && passed) = false then none
      else some { s with checkRun := some write.row }

/-! ## The decision -/

/-- The transition with the key is that of the same decision, and the attempt is still there. -/
def replays (environment : ReviewEnvironment Digest) (actorId : JsString)
    (input : ReviewDecisionInput) (transition : ReviewTransition) (s : ReviewRows Digest) : Bool :=
  let plan := planReviewDecision input.action input.expectedHeadSha
  match s.decisions.head? with
  | none => false
  | some decision =>
      transition.toStatus = plan.targetStatus ∧ transition.actorId = actorId ∧
        decision.decision = plan.databaseDecision ∧ decision.reasonCode = plan.reasonCode ∧
        decision.explanation = input.explanation ∧ decision.headSha = environment.headSha ∧
        s.status = plan.targetStatus

/-- What is written for a decision. -/
def writeDecision (environment : ReviewEnvironment Digest) (call : ReviewCall)
    (input : ReviewDecisionInput) (deleteAfterMaintainerPass : Bool) (s : ReviewRows Digest) :
    Option (ReviewRows Digest) :=
  let plan := planReviewDecision input.action input.expectedHeadSha
  (s.insertDecision
    { maintainerId := call.actorId
      decision := plan.databaseDecision
      reasonCode := plan.reasonCode
      explanation := input.explanation
      headSha := environment.headSha
      decidedAt := call.now } environment.headSha).bind fun decided =>
  (decided.insertTransition
    { idempotencyKey := input.idempotencyKey
      fromStatus := .reviewRequired
      toStatus := plan.targetStatus
      headSha := environment.headSha
      actorId := call.actorId
      actorRole := js "maintainer"
      occurredAt := call.now }).bind fun recorded =>
  (recorded.updateStatus call.now plan.targetStatus).bind fun updated =>
  (updated.writeCheck environment call.now true (updated.status = .passed)
    (decisionIntent environment input)).bind fun checked =>
  let accelerated :=
    if input.action = .approve ∧ deleteAfterMaintainerPass = true then
      (checked.accelerateEvidenceDeletionAfterPass call.now call.deletionId).writeReviewAudit
        (.deletionAccelerated call.actorId)
    else checked
  if call.fails then none
  else
    some (accelerated.writeReviewAudit
      (.reviewDecided call.actorId plan.databaseDecision plan.reasonCode))

/-- `decideReview` behind its rate limit -/
def decide (environment : ReviewEnvironment Digest) (call : ReviewCall)
    (input : ReviewDecisionInput) (s : ReviewRows Digest) : ReviewRows Digest × ReviewAnswer :=
  let plan := planReviewDecision input.action input.expectedHeadSha
  if call.authorized = false then (s, .unauthorized)
  else if s.isCurrent = false ∨ environment.headSha ≠ input.expectedHeadSha then (s, .conflict)
  else
    match environment.policy with
    | none => (s, .failed)
    | some deleteAfterMaintainerPass =>
        match s.findTransition input.idempotencyKey with
        | some transition =>
            if s.replays environment call.actorId input transition then
              (s, .decided true input.action plan.targetStatus environment.headSha)
            else (s, .conflict)
        | none =>
            if s.status ≠ .reviewRequired ∨ s.decisions ≠ [] then (s, .conflict)
            else
              match s.writeDecision environment call input deleteAfterMaintainerPass with
              | none => (s, .failed)
              | some t => (t, .decided false input.action plan.targetStatus environment.headSha)

/-- `consumeReviewRequestRateLimit` -/
def reserve (environment : ReviewEnvironment Digest) (call : ReviewCall) (s : ReviewRows Digest) :
    ReviewRows Digest × Option Reservation :=
  let reserved := reserveWebRequestRateLimit s.rateLimits .reviewDecision
    (environment.subjectKeyHash call.actorId) call.clock call.occurredAt
  ({ s with rateLimits := reserved.1 }, reserved.2)

def decideReview (environment : ReviewEnvironment Digest) (call : ReviewCall)
    (s : ReviewRows Digest) : ReviewRows Digest × ReviewAnswer :=
  match call.request.parse with
  | none => (s, .invalidRequest)
  | some input =>
      if (s.reserve environment call).2 = some .admitted then
        (s.reserve environment call).1.decide environment call input
      else ((s.reserve environment call).1, .rateLimited)

end ReviewRows

end Web

end UnderstandProof
