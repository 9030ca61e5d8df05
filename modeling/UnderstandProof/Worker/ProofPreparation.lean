import UnderstandProof.Github.PullRequestRuns

/-!
# The preparation of proof questions

`semantic.generate-proof-questions` is delivered for the generation context of a revision, perhaps
many times. Each delivery is a job of its own: it reserves the run of its idempotency key, lets a
provider generate the questions, and persists the plan together with an attempt; or it replays a
completed run; or it records that the preparation has failed. Every transaction is one step, and
the steps of the jobs interleave with each other, with snapshots of the pull request, and with
replacements and transitions of attempts.

The content of a context, the times of a run and the metadata of its invocation are left out. They
are bound to the run and take no part in the outcome.
-/

open Foundation

namespace UnderstandProof

namespace Worker

open Domain (Timestamp)
open Db (CheckReason CheckRun)
open Github (Attempt PullRequestRevision PullRequestRows PullRequestState RevisionEnvironment
  RevisionEvent SemanticRun isLive)
open Github.PullRequestRows (checkIntent newestAttempt)

/-- What is fixed for the pull request. -/
structure PreparationEnvironment (Digest : Type) extends RevisionEnvironment Digest where
  /-- SHA-256 of a text, in hexadecimal. -/
  sha256Hex : JsString → JsString
  repositoryId : JsString
  authorId : JsString

/-- A row of `semantic_generation_budgets`, with the binding of its generation context. -/
structure GenerationBudget where
  revisionId : JsString
  headSha : JsString
  repositoryPolicyId : JsString
  questionBudget : ℕ
  deriving DecidableEq

/-- A question as a provider returns it. -/
structure ProofQuestionCandidate where
  intent : JsString
  prompt : JsString
  anchorIds : List JsString
  requiredPoints : List JsString
  deriving DecidableEq

structure ProofQuestion extends ProofQuestionCandidate where
  id : JsString
  order : ℕ
  deriving DecidableEq

/-- A row of `proof_questions`, with the primary anchor of its question. -/
structure ServedQuestion where
  id : JsString
  ordinal : ℕ
  type : JsString
  prompt : JsString
  anchorId : Option JsString
  requiredPoints : List JsString
  deriving DecidableEq

/-- A row of `proof_plans` with its questions. -/
structure FrozenPlan where
  generationContextId : JsString
  questionBudget : ℕ
  questions : List ServedQuestion
  deriving DecidableEq

structure ProofQuestionPlan where
  id : JsString
  headSha : JsString
  questionBudget : ℕ
  questions : List ProofQuestion
  deriving DecidableEq

/-- A row of `semantic_generation_runs` for proof questions, with the plan that
`semantic_proof_plans_v2` has for it. -/
structure GenerationRun where
  revisionId : JsString
  generationContextId : JsString
  artifactSeed : JsString
  questionCount : ℕ
  artifactId : Option JsString
  plan : Option ProofQuestionPlan
  deriving DecidableEq

structure SemanticRunContext where
  idempotencyKey : JsString
  revisionId : JsString
  generationContextId : JsString
  headSha : JsString
  artifactSeed : JsString
  questionCount : ℕ
  completedArtifactId : Option JsString
  deriving DecidableEq

/-- The payload of `semantic.generate-proof-questions`. -/
structure ProofPayload where
  idempotencyKey : JsString
  revisionId : JsString
  generationContextId : JsString
  expectedHeadSha : JsString
  deriving DecidableEq

inductive PreparationPhase where
  /-- The run is reserved; its plan is to be generated, or replayed when it is completed. -/
  | reserved (run : SemanticRunContext)
  /-- The plan is to be persisted. -/
  | planned (run : SemanticRunContext) (plan : ProofQuestionPlan)
  /-- An error that is not retried has been caught. -/
  | failing

structure PreparationJob where
  payload : ProofPayload
  phase : PreparationPhase

structure PreparationSystem (Digest : Type) where
  rows : PullRequestRows Digest
  bindingActive : Bool
  budgets : Table JsString GenerationBudget
  runs : Table JsString GenerationRun
  plans : Table JsString FrozenPlan
  jobs : Table ℕ PreparationJob

/-- How a call of the generation ends. -/
inductive GenerationResult where
  | generated (content : List ProofQuestionCandidate)
  | retryableError
  | error

inductive PreparationEvent where
  /-- Another transaction on the rows of the pull request. -/
  | rows (event : RevisionEvent)
  /-- The repository or the installation is suspended or comes back. -/
  | binding (active : Bool)
  | schedule (generationContextId : JsString) (budget : GenerationBudget)
  | reserve (job : ℕ) (payload : ProofPayload)
  | generate (job : ℕ) (result : GenerationResult)
  | replay (job : ℕ)
  /-- `fails` is whether something else throws. -/
  | persist (job : ℕ) (now : Timestamp) (fails : Bool)
  /-- `first` is whether the budget of the context comes first among those of its revision. -/
  | fail (job : ℕ) (now : Timestamp) (first : Bool)
  | crash (job : ℕ)

inductive ReserveResult (Digest : Type) where
  | stale
  | conflict
  | reserved (s : PreparationSystem Digest) (run : SemanticRunContext)

inductive ReplayResult where
  | inconsistent
  | stale
  | existingAttemptConflict
  | replayed (attemptId : JsString)
  | recovers (plan : ProofQuestionPlan)

inductive FailResult where
  | failed
  | stale
  | error
  deriving DecidableEq

section Environment

variable {Digest : Type}

/-- The seed of a run's artifacts. -/
def artifactSeed (environment : PreparationEnvironment Digest) (budget : GenerationBudget)
    (payload : ProofPayload) : JsString :=
  environment.sha256Hex ((js ":").intercalate
    [js "semantic-artifact-seed-v1", js "proof_questions", environment.repositoryId,
      payload.revisionId, payload.generationContextId, budget.repositoryPolicyId,
      js (toString budget.questionBudget), payload.idempotencyKey])

/-- The id of the plan of a seed. -/
def proofPlanId (environment : PreparationEnvironment Digest) (seed : JsString) : JsString :=
  environment.deterministicUuid (seed ++ js ":proof-question-plan")

/-- `bindProofQuestionPlan` -/
def bindProofQuestionPlan (environment : PreparationEnvironment Digest) (run : SemanticRunContext)
    (content : List ProofQuestionCandidate) : ProofQuestionPlan where
  id := proofPlanId environment run.artifactSeed
  headSha := run.headSha
  questionBudget := run.questionCount
  questions := content.mapIdx fun index question =>
    { question with
      id := environment.deterministicUuid
        (run.artifactSeed ++ js ":proof-question:" ++ js (toString index))
      order := index + 1 }

def servedQuestion (question : ProofQuestion) : ServedQuestion where
  id := question.id
  ordinal := question.order - 1
  type := question.intent
  prompt := question.prompt
  anchorId := question.anchorIds.head?
  requiredPoints := question.requiredPoints

/-- What the persistence of a plan reads of it. -/
def semanticRun (environment : PreparationEnvironment Digest) (run : SemanticRunContext)
    (plan : ProofQuestionPlan) : SemanticRun where
  revisionId := run.revisionId
  authorId := environment.authorId
  contextHeadSha := run.headSha
  planId := plan.id
  planHeadSha := plan.headSha
  idempotencyKey := run.idempotencyKey

end Environment

namespace PreparationSystem

variable {Digest : Type}

def withJob (s : PreparationSystem Digest) (job : ℕ) (value : PreparationJob) :
    PreparationSystem Digest :=
  { s with jobs := s.jobs.set job value }

def withoutJob (s : PreparationSystem Digest) (job : ℕ) : PreparationSystem Digest :=
  { s with jobs := Function.update s.jobs job none }

/-- The check of the revision says that its preparation has failed. -/
def hasFailedPreparation (s : PreparationSystem Digest) (revisionId : JsString) : Bool :=
  (s.rows.checkRuns revisionId).any fun row => row.intentReason = some .preparationFailed

/-- `loadRunBinding`, of a revision that is current on an open pull request. -/
def loadRunBinding (payload : ProofPayload) (s : PreparationSystem Digest) :
    Option (PullRequestRevision × GenerationBudget) :=
  match s.rows.findRevision payload.revisionId, s.budgets payload.generationContextId with
  | some revision, some budget =>
      if budget.revisionId = revision.id ∧ budget.headSha = revision.headSha ∧
          revision.headSha = payload.expectedHeadSha ∧ s.bindingActive = true ∧
          s.hasFailedPreparation revision.id = false ∧ revision.isCurrent = true ∧
          s.rows.state = some .open then
        some (revision, budget)
      else none
  | _, _ => none

/-- `reserveRun`, for proof questions. -/
def reserveRun (environment : PreparationEnvironment Digest) (payload : ProofPayload)
    (s : PreparationSystem Digest) : ReserveResult Digest :=
  match s.loadRunBinding payload with
  | none => .stale
  | some (revision, budget) =>
      let seed := artifactSeed environment budget payload
      let row := (s.runs payload.idempotencyKey).getD
        { revisionId := revision.id
          generationContextId := payload.generationContextId
          artifactSeed := seed
          questionCount := budget.questionBudget
          artifactId := none
          plan := none }
      if row.revisionId ≠ revision.id ∨
          row.generationContextId ≠ payload.generationContextId ∨ row.artifactSeed ≠ seed ∨
          row.questionCount ≠ budget.questionBudget then .conflict
      else
        .reserved { s with runs := s.runs.set payload.idempotencyKey row }
          { idempotencyKey := payload.idempotencyKey
            revisionId := row.revisionId
            generationContextId := row.generationContextId
            headSha := revision.headSha
            artifactSeed := row.artifactSeed
            questionCount := row.questionCount
            completedArtifactId := row.artifactId }

/-- The inserts of the plan and its questions, which leave rows alone that are there, with the
comparison and the completion of the run that follow; `none` is an error. -/
def storePlan (run : SemanticRunContext) (plan : ProofQuestionPlan)
    (s : PreparationSystem Digest) : Option (PreparationSystem Digest) :=
  match s.runs run.idempotencyKey with
  | none => none
  | some row =>
      let frozen := (s.plans plan.id).getD
        { generationContextId := run.generationContextId
          questionBudget := plan.questionBudget
          questions := [] }
      let expected := plan.questions.map servedQuestion
      let served := frozen.questions ++ expected.drop frozen.questions.length
      let planned := { row with plan := row.plan.or (some plan) }
      if served ≠ expected then none
      else if run.completedArtifactId = none then
        if row.artifactId = none then
          some
            { s with
              runs := s.runs.set run.idempotencyKey { planned with artifactId := some plan.id }
              plans := s.plans.set plan.id { frozen with questions := served } }
        else none
      else if run.completedArtifactId = some plan.id then
        some
          { s with
            runs := s.runs.set run.idempotencyKey planned
            plans := s.plans.set plan.id { frozen with questions := served } }
      else none

variable [DecidableEq Digest]

/-- `persistProofPlanAndCreateAttempt`; `none` is a rollback. A live attempt on the plan is
returned without further writes. -/
def persistProofPlanAndCreateAttempt (environment : PreparationEnvironment Digest)
    (now : Timestamp) (run : SemanticRunContext) (plan : ProofQuestionPlan) (fails : Bool)
    (s : PreparationSystem Digest) : Option (PreparationSystem Digest) :=
  if plan.questionBudget ≠ run.questionCount then none
  else
    (s.rows.persistProofPlanAndCreateAttempt environment.toRevisionEnvironment now
        (semanticRun environment run plan) s.bindingActive fails).bind fun rows =>
      if (s.rows.latestAttempt run.revisionId environment.authorId).any (fun prior =>
          prior.proofPlanId = plan.id ∧ prior.headSha = plan.headSha ∧ isLive prior.status) =
            true then
        some { s with rows := rows }
      else (s.storePlan run plan).map fun stored => { stored with rows := rows }

omit [DecidableEq Digest] in
/-- `replayCompletedProof`, up to the recovery of an invalidated attempt. -/
def replayCompletedProof (run : SemanticRunContext) (s : PreparationSystem Digest) :
    ReplayResult :=
  match (s.runs run.idempotencyKey).bind fun row =>
      row.plan.filter fun plan => row.artifactId = some plan.id with
  | none => .inconsistent
  | some plan =>
      match newestAttempt (s.rows.attempts.filter fun attempt => attempt.proofPlanId = plan.id) with
      | none => .inconsistent
      | some attempt =>
          match s.rows.findRevision attempt.revisionId with
          | none => .inconsistent
          | some revision =>
              if run.completedArtifactId ≠ some plan.id ∨ attempt.headSha ≠ run.headSha then
                .inconsistent
              else if revision.isCurrent = false then .stale
              else if isLive attempt.status then .replayed attempt.id
              else if attempt.status ≠ .invalidated then .existingAttemptConflict
              else .recovers plan

/-- `failProofPreparation` -/
def failProofPreparation (environment : PreparationEnvironment Digest) (now : Timestamp)
    (first : Bool) (payload : ProofPayload) (s : PreparationSystem Digest) :
    PreparationSystem Digest × FailResult :=
  if (s.rows.findRevision payload.revisionId).any (fun revision =>
        revision.isCurrent ∧ revision.headSha = payload.expectedHeadSha ∧
          (s.budgets payload.generationContextId).any fun budget =>
            budget.revisionId = revision.id ∧ budget.headSha = revision.headSha) = true ∧
      s.rows.state = some .open ∧ first = true ∧
      s.rows.attempts.any (·.revisionId = payload.revisionId) = false then
    match s.rows.writeCheck environment.toRevisionEnvironment now
        (checkIntent environment.toRevisionEnvironment payload.revisionId payload.expectedHeadSha
          .completed (some .actionRequired)
          (js "UnderstandProof could not prepare patch-bound questions for head " ++
            payload.expectedHeadSha ++ js ". Maintainer action is required.")
          .preparationFailed
          (js "semantic-preparation-failed:" ++ payload.generationContextId)) with
    | some rows => ({ s with rows := rows }, .failed)
    | none => (s, .error)
  else (s, .stale)

/-! ## Steps -/

omit [DecidableEq Digest] in
/-- A job that has reserved its run, which is to be generated. -/
def generate (environment : PreparationEnvironment Digest) (job : ℕ) (value : PreparationJob)
    (result : GenerationResult) (s : PreparationSystem Digest) :
    Option (PreparationSystem Digest) :=
  match value.phase with
  | .reserved run =>
      if run.completedArtifactId = none then
        match result with
        | .generated content =>
            some (s.withJob job
              { value with
                phase := .planned run (bindProofQuestionPlan environment run content) })
        | .retryableError => some (s.withoutJob job)
        | .error => some (s.withJob job { value with phase := .failing })
      else none
  | _ => none

omit [DecidableEq Digest] in
/-- A job whose run is completed. -/
def replay (job : ℕ) (value : PreparationJob) (s : PreparationSystem Digest) :
    Option (PreparationSystem Digest) :=
  match value.phase with
  | .reserved run =>
      if run.completedArtifactId = none then none
      else
        match s.replayCompletedProof run with
        | .recovers plan => some (s.withJob job { value with phase := .planned run plan })
        | _ => some (s.withoutJob job)
  | _ => none

/-- The events of others that write the rows of the pull request. -/
def isForeign : RevisionEvent → Bool
  | .persistProofPlan .. => false
  | .prepareRevision .. => false
  | _ => true

/-- The step, or `none` when nothing happens. The transaction of a plan is not awaited where
errors are caught, so a job whose plan is not persisted ends there. -/
def next (environment : PreparationEnvironment Digest) (s : PreparationSystem Digest) :
    PreparationEvent → Option (PreparationSystem Digest)
  | .rows event =>
      if isForeign event then
        (s.rows.next environment.toRevisionEnvironment event).map fun rows =>
          { s with rows := rows }
      else none
  | .binding active => some { s with bindingActive := active }
  | .schedule generationContextId budget =>
      if (s.budgets generationContextId).isNone ∧ s.bindingActive = true ∧
          s.rows.state = some .open ∧
          (s.rows.findRevision budget.revisionId).any (fun revision =>
            revision.isCurrent ∧ revision.headSha = budget.headSha) = true then
        some { s with budgets := s.budgets.set generationContextId budget }
      else none
  | .reserve job payload =>
      if (s.jobs job).isNone then
        match s.reserveRun environment payload with
        | .stale => none
        | .conflict => some (s.withJob job { payload := payload, phase := .failing })
        | .reserved t run => some (t.withJob job { payload := payload, phase := .reserved run })
      else none
  | .generate job result =>
      (s.jobs job).bind fun value => s.generate environment job value result
  | .replay job => (s.jobs job).bind fun value => s.replay job value
  | .persist job now fails =>
      (s.jobs job).bind fun value =>
        match value.phase with
        | .planned run plan =>
            some (((s.persistProofPlanAndCreateAttempt environment now run plan fails).getD
              s).withoutJob job)
        | _ => none
  | .fail job now first =>
      (s.jobs job).bind fun value =>
        match value.phase with
        | .failing =>
            some ((s.failProofPreparation environment now first value.payload).1.withoutJob job)
        | _ => none
  | .crash job => (s.jobs job).map fun _ => s.withoutJob job

def step (environment : PreparationEnvironment Digest) (s : PreparationSystem Digest)
    (event : PreparationEvent) : PreparationSystem Digest :=
  (s.next environment event).getD s

omit [DecidableEq Digest] in
/-- Before the first snapshot of the pull request. -/
def start : PreparationSystem Digest where
  rows := PullRequestRows.start
  bindingActive := true
  budgets := fun _ => none
  runs := fun _ => none
  plans := fun _ => none
  jobs := fun _ => none

end PreparationSystem

end Worker

end UnderstandProof
