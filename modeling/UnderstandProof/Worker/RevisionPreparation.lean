import UnderstandProof.Policy.RepositoryPolicy
import UnderstandProof.Web.MaintainerReview
import UnderstandProof.Worker.ProofPreparation

/-!
# The preparation of a revision

`analysis.prepare-revision` reads the active policy of the repository, analyses the immutable
source of the revision, and in one transaction stores what it has found and schedules the
generation of the proof questions under a budget; an error that is not retried is recorded in the
check of the revision by a transaction of its own. A job is delivered each time its revision
becomes current, and perhaps again, so its steps interleave with those of other deliveries, of the
jobs that generate the questions, and of the attempts.

The source with its context and its analysis is a part of the event that returns it. The formats
of ids and heads, the snapshot of the analysis and the queue of the scheduled jobs are left out.
-/

open Foundation

namespace UnderstandProof

namespace Worker

open Db (GithubCheckIntent)
open Domain (AttemptStatus Timestamp)
open Github (Attempt RevisionEnvironment)
open Github.PullRequestRows (checkIntent)
open Policy (RepositoryPolicyV1 RepositoryPolicyV1Schema.accepts)
open Web (ReviewAction planReviewDecision)

/-! ## The budget of a proof -/

inductive RiskLevel where
  | small
  | medium
  | highRisk
  | mega
  deriving DecidableEq, Repr

/-- The generation context of a source, and what the budget reads of its analysis. -/
structure PreparedSource where
  generationContextId : JsString
  riskLevel : RiskLevel
  riskTotal : ℕ
  anchorCount : ℕ
  deriving DecidableEq

/-- The budget that a risk asks for. -/
def PreparedSource.riskBudget (source : PreparedSource) : ℕ :=
  match source.riskLevel with
  | .small => 1
  | .medium => if 8 ≤ source.riskTotal then 3 else 2
  | .highRisk => if 15 ≤ source.riskTotal then 5 else 4
  | .mega => 0

/-- `planProofBudget`; `none` is the recommendation to split the pull request. -/
def planProofBudget (policy : RepositoryPolicyV1) (source : PreparedSource) : Option ℕ :=
  if source.riskLevel = .mega ∨ source.anchorCount = 0 then none
  else some (min policy.maximumQuestions (max policy.minimumQuestions source.riskBudget))

/-- `DEFAULT_REPOSITORY_POLICY_V1` -/
def defaultRepositoryPolicyV1 : RepositoryPolicyV1 where
  minimumQuestions := 1
  maximumQuestions := 5
  maximumDurationSeconds := 10 * 60
  maximumUploadBytes := 500000000
  retentionHours := 24
  deleteAfterMaintainerPass := true

/-! ## Rows, jobs and events -/

/-- A row of `repository_policies`. -/
structure PolicyRow where
  id : JsString
  version : ℕ
  policy : RepositoryPolicyV1
  deriving DecidableEq

/-- The payload of `analysis.prepare-revision`. -/
structure RevisionPayload where
  idempotencyKey : JsString
  revisionId : JsString
  expectedHeadSha : JsString
  deriving DecidableEq

inductive RevisionPhase where
  /-- The policy and its version are read; the source is to be analysed. -/
  | loaded (policyVersion : ℕ) (policy : RepositoryPolicyV1)
  /-- What was found is to be stored. -/
  | analysed (policyVersion : ℕ) (policy : RepositoryPolicyV1) (source : PreparedSource)
  /-- An error that is not retried has been caught. -/
  | failing

structure RevisionJob where
  payload : RevisionPayload
  phase : RevisionPhase

structure RevisionPreparations (Digest : Type) extends PreparationSystem Digest where
  activePolicyVersion : ℕ
  policies : List PolicyRow
  revisionJobs : Table ℕ RevisionJob

/-- How the loading of a source and its analysis end. -/
inductive SourceResult where
  | prepared (source : PreparedSource)
  | retryableError
  | error

/-- What happens to an attempt once it is ready. -/
inductive AttemptProgress where
  | started
  | uploading
  | processing
  | reviewRequired
  | technicalRetry
  | expired
  | decided (action : ReviewAction)

inductive RevisionPreparationEvent where
  | preparation (event : PreparationEvent)
  | progress (now : Timestamp) (attemptId : JsString) (progress : AttemptProgress)
      (idempotencyKey : JsString)
  | activatePolicy (row : PolicyRow)
  | load (job : ℕ) (payload : RevisionPayload)
  | analyse (job : ℕ) (result : SourceResult)
  /-- `policyId` is the id of a new policy row, and `fails` whether something else throws. -/
  | commit (job : ℕ) (now : Timestamp) (policyId : JsString) (fails : Bool)
  | persistFailure (job : ℕ) (now : Timestamp)
  | crash (job : ℕ)

inductive LoadResult where
  | stale
  | error
  | loaded (policyVersion : ℕ) (policy : RepositoryPolicyV1)

inductive CommitResult (Digest : Type) where
  | stale
  | error
  | committed (s : RevisionPreparations Digest)

inductive FailureResult where
  | preparationFailed
  | stale
  | error
  deriving DecidableEq

namespace AttemptProgress

def status : AttemptProgress → AttemptStatus
  | .started => .active
  | .uploading => .uploading
  | .processing => .processing
  | .reviewRequired => .reviewRequired
  | .technicalRetry => .technicalRetry
  | .expired => .expired
  | .decided action => (planReviewDecision action []).targetStatus

/-- The intent that is written with the new status. -/
def intent {Digest : Type} (environment : RevisionEnvironment Digest) (attempt : Attempt)
    (idempotencyKey : JsString) : AttemptProgress → Option GithubCheckIntent
  | .started => none
  | .uploading => none
  | .processing => none
  | .reviewRequired =>
      some (checkIntent environment attempt.revisionId attempt.headSha .inProgress none
        (js "maintainer review required for head " ++ attempt.headSha) .reviewRequired
        idempotencyKey)
  | .technicalRetry =>
      some (checkIntent environment attempt.revisionId attempt.headSha .completed
        (some .actionRequired) (js "technical retry required for head " ++ attempt.headSha)
        .technicalRetry idempotencyKey)
  | .expired =>
      some (checkIntent environment attempt.revisionId attempt.headSha .completed
        (some .actionRequired) (js "proof attempt expired for head " ++ attempt.headSha)
        .attemptExpired idempotencyKey)
  | .decided action =>
      let plan := planReviewDecision action attempt.headSha
      some (checkIntent environment attempt.revisionId attempt.headSha .completed
        (some plan.checkConclusion) plan.publicSummary .maintainerDecision idempotencyKey)

end AttemptProgress

namespace RevisionPreparations

variable {Digest : Type}

def withRevisionJob (s : RevisionPreparations Digest) (job : ℕ) (value : RevisionJob) :
    RevisionPreparations Digest :=
  { s with revisionJobs := s.revisionJobs.set job value }

def withoutRevisionJob (s : RevisionPreparations Digest) (job : ℕ) :
    RevisionPreparations Digest :=
  { s with revisionJobs := Function.update s.revisionJobs job none }

def withRows (s : RevisionPreparations Digest) (rows : Github.PullRequestRows Digest) :
    RevisionPreparations Digest :=
  { s with rows := rows }

def hasAttempt (s : RevisionPreparations Digest) (revisionId : JsString) : Bool :=
  s.rows.attempts.any (·.revisionId = revisionId)

/-- The revision is current on an open pull request, with the head of the payload. -/
def isPreparable (payload : RevisionPayload) (s : RevisionPreparations Digest) : Bool :=
  (s.rows.findRevision payload.revisionId).any (fun revision =>
    revision.isCurrent ∧ revision.headSha = payload.expectedHeadSha) = true ∧
    s.rows.state = some .open

def findPolicy (version : ℕ) (s : RevisionPreparations Digest) : Option PolicyRow :=
  s.policies.find? (·.version = version)

/-- `loadPolicy`; `none` is an error. -/
def loadPolicy (s : RevisionPreparations Digest) : Option RepositoryPolicyV1 :=
  match s.findPolicy s.activePolicyVersion with
  | none => if s.activePolicyVersion = 1 then some defaultRepositoryPolicyV1 else none
  | some row => if RepositoryPolicyV1Schema.accepts row.policy then some row.policy else none

/-- `prepareRevision` up to the loading of the source. -/
def loadRevision (payload : RevisionPayload) (s : RevisionPreparations Digest) : LoadResult :=
  if s.isPreparable payload then
    match s.loadPolicy with
    | none => .error
    | some policy => .loaded s.activePolicyVersion policy
  else .stale

/-- `ensureDefaultPolicy`: the id of the active policy; `none` is an error. -/
def ensureDefaultPolicy (policy : RepositoryPolicyV1) (policyId : JsString)
    (s : RevisionPreparations Digest) : Option (RevisionPreparations Digest × JsString) :=
  match s.findPolicy s.activePolicyVersion with
  | some row => some (s, row.id)
  | none =>
      if s.activePolicyVersion = 1 ∧ policy = defaultRepositoryPolicyV1 ∧
          s.policies.all (·.id ≠ policyId) = true then
        some
          ({ s with
              policies := s.policies ++ [⟨policyId, 1, defaultRepositoryPolicyV1⟩] }, policyId)
      else none

/-- `slopproof_validate_semantic_budget_v1`, which runs before the conflict is seen. -/
def validatesBudget (budget : GenerationBudget) (s : RevisionPreparations Digest) : Bool :=
  (s.rows.findRevision budget.revisionId).any (fun revision =>
      revision.isCurrent ∧ revision.headSha = budget.headSha) = true ∧
    s.rows.state = some .open ∧ s.bindingActive = true ∧
    s.policies.any (fun row => row.id = budget.repositoryPolicyId ∧
      row.version = s.activePolicyVersion ∧
      row.policy.minimumQuestions ≤ budget.questionBudget ∧
      budget.questionBudget ≤ row.policy.maximumQuestions) = true

/-- `scheduleRevisionSemanticGeneration`, with whether the budget was created; `none` is an
error. -/
def scheduleRevisionSemanticGeneration (generationContextId : JsString)
    (budget : GenerationBudget) (s : RevisionPreparations Digest) :
    Option (RevisionPreparations Digest × Bool) :=
  if budget.questionBudget < 1 ∨ 5 < budget.questionBudget ∨
      s.validatesBudget budget = false then none
  else
    match s.budgets generationContextId with
    | none => some ({ s with budgets := s.budgets.set generationContextId budget }, true)
    | some row => if row = budget then some (s, false) else none

section Intents

variable (environment : RevisionEnvironment Digest) (payload : RevisionPayload)

def splitIntent : GithubCheckIntent :=
  checkIntent environment payload.revisionId payload.expectedHeadSha .completed
    (some .actionRequired)
    (js "split or narrow the pull request for head " ++ payload.expectedHeadSha) .analysisReady
    payload.idempotencyKey

def queuedIntent (generationContextId : JsString) : GithubCheckIntent :=
  checkIntent environment payload.revisionId payload.expectedHeadSha .inProgress none
    (js "patch-bound proof generation queued for head " ++ payload.expectedHeadSha) .analysisReady
    (js "semantic-analysis:" ++ generationContextId)

def failureIntent : GithubCheckIntent :=
  checkIntent environment payload.revisionId payload.expectedHeadSha .completed
    (some .actionRequired)
    (js "UnderstandProof could not prepare patch-bound questions for head " ++
      payload.expectedHeadSha ++ js ". Maintainer action is required.")
    .preparationFailed (js "analysis-preparation-failed:" ++ payload.revisionId)

end Intents

variable [DecidableEq Digest]

/-- An intent of the payload's revision; `none` is an error. -/
def writeIntent (environment : PreparationEnvironment Digest) (now : Timestamp)
    (intent : GithubCheckIntent) (s : RevisionPreparations Digest) :
    Option (RevisionPreparations Digest) :=
  (s.rows.writeCheck environment.toRevisionEnvironment now intent).map s.withRows

/-- What `prepareRevision` writes once the policy is frozen. -/
def storePreparation (environment : PreparationEnvironment Digest) (now : Timestamp)
    (payload : RevisionPayload) (policy : RepositoryPolicyV1) (source : PreparedSource)
    (policyId : JsString) (s : RevisionPreparations Digest) :
    Option (RevisionPreparations Digest) :=
  match planProofBudget policy source with
  | none => s.writeIntent environment now (splitIntent environment.toRevisionEnvironment payload)
  | some questionBudget =>
      (s.scheduleRevisionSemanticGeneration source.generationContextId
        { revisionId := payload.revisionId
          headSha := payload.expectedHeadSha
          repositoryPolicyId := policyId
          questionBudget := questionBudget }).bind fun scheduled =>
        if scheduled.2 then
          scheduled.1.writeIntent environment now
            (queuedIntent environment.toRevisionEnvironment payload source.generationContextId)
        else some scheduled.1

/-- The transaction of `prepareRevision`. -/
def commitPreparation (environment : PreparationEnvironment Digest) (now : Timestamp)
    (payload : RevisionPayload) (policyVersion : ℕ) (policy : RepositoryPolicyV1)
    (source : PreparedSource) (policyId : JsString) (fails : Bool)
    (s : RevisionPreparations Digest) : CommitResult Digest :=
  if s.isPreparable payload = false ∨ s.activePolicyVersion ≠ policyVersion then .stale
  else if fails then .error
  else
    match (s.ensureDefaultPolicy policy policyId).bind fun frozen =>
        frozen.1.storePreparation environment now payload policy source frozen.2 with
    | none => .error
    | some stored => .committed stored

/-- `persistPreparationFailure` -/
def persistPreparationFailure (environment : PreparationEnvironment Digest) (now : Timestamp)
    (payload : RevisionPayload) (s : RevisionPreparations Digest) :
    RevisionPreparations Digest × FailureResult :=
  if s.isPreparable payload then
    match s.writeIntent environment now
        (failureIntent environment.toRevisionEnvironment payload) with
    | some t => (t, .preparationFailed)
    | none => (s, .error)
  else (s, .stale)

/-! ## Steps -/

omit [DecidableEq Digest] in
/-- A policy is added and becomes the active one. -/
def activatePolicy (row : PolicyRow) (s : RevisionPreparations Digest) :
    Option (RevisionPreparations Digest) :=
  if s.activePolicyVersion < row.version ∧
      s.policies.all (fun other => other.id ≠ row.id ∧ other.version ≠ row.version) = true then
    some { s with activePolicyVersion := row.version, policies := s.policies ++ [row] }
  else none

/-- The events of others: the transitions of attempts have events of their own here, and a budget
is stored by the preparation of its revision. -/
def isOther : PreparationEvent → Bool
  | .rows (.transition ..) => false
  | .schedule .. => false
  | _ => true

/-- The step, or `none` when nothing happens. -/
def next (environment : PreparationEnvironment Digest) (s : RevisionPreparations Digest) :
    RevisionPreparationEvent → Option (RevisionPreparations Digest)
  | .preparation event =>
      if isOther event then
        (s.toPreparationSystem.next environment event).map fun system =>
          { s with toPreparationSystem := system }
      else none
  | .progress now attemptId progress idempotencyKey =>
      (s.rows.attempts.find? (·.id = attemptId)).bind fun attempt =>
        (s.rows.transition environment.toRevisionEnvironment now attemptId progress.status
          (progress.intent environment.toRevisionEnvironment attempt idempotencyKey)).map s.withRows
  | .activatePolicy row => s.activatePolicy row
  | .load job payload =>
      if (s.revisionJobs job).isNone then
        match s.loadRevision payload with
        | .stale => none
        | .error => some (s.withRevisionJob job { payload := payload, phase := .failing })
        | .loaded policyVersion policy =>
            some (s.withRevisionJob job
              { payload := payload, phase := .loaded policyVersion policy })
      else none
  | .analyse job result =>
      (s.revisionJobs job).bind fun value =>
        match value.phase, result with
        | .loaded policyVersion policy, .prepared source =>
            some (s.withRevisionJob job
              { value with phase := .analysed policyVersion policy source })
        | .loaded _ _, .retryableError => some (s.withoutRevisionJob job)
        | .loaded _ _, .error => some (s.withRevisionJob job { value with phase := .failing })
        | _, _ => none
  | .commit job now policyId fails =>
      (s.revisionJobs job).bind fun value =>
        match value.phase with
        | .analysed policyVersion policy source =>
            match s.commitPreparation environment now value.payload policyVersion policy source
                policyId fails with
            | .stale => some (s.withoutRevisionJob job)
            | .error => some (s.withRevisionJob job { value with phase := .failing })
            | .committed t => some (t.withoutRevisionJob job)
        | _ => none
  | .persistFailure job now =>
      (s.revisionJobs job).bind fun value =>
        match value.phase with
        | .failing =>
            some ((s.persistPreparationFailure environment now value.payload).1.withoutRevisionJob
              job)
        | _ => none
  | .crash job => (s.revisionJobs job).map fun _ => s.withoutRevisionJob job

def step (environment : PreparationEnvironment Digest) (s : RevisionPreparations Digest)
    (event : RevisionPreparationEvent) : RevisionPreparations Digest :=
  (s.next environment event).getD s

omit [DecidableEq Digest] in
/-- Before the first snapshot of the pull request. -/
def start : RevisionPreparations Digest where
  toPreparationSystem := PreparationSystem.start
  activePolicyVersion := 1
  policies := []
  revisionJobs := fun _ => none

/-- The revision in whose check the step records a failure. -/
def recordsFailure (environment : PreparationEnvironment Digest) (s : RevisionPreparations Digest) :
    RevisionPreparationEvent → Option JsString
  | .persistFailure job now =>
      (s.revisionJobs job).bind fun value =>
        match value.phase with
        | .failing =>
            if (s.persistPreparationFailure environment now value.payload).2 = .preparationFailed
            then some value.payload.revisionId
            else none
        | _ => none
  | .preparation (.fail job now first) =>
      (s.jobs job).bind fun value =>
        match value.phase with
        | .failing =>
            if (s.toPreparationSystem.failProofPreparation environment now first
                value.payload).2 = .failed
            then some value.payload.revisionId
            else none
        | _ => none
  | _ => none

end RevisionPreparations

end Worker

end UnderstandProof
