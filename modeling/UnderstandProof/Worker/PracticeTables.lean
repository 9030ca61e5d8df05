import UnderstandProof.Worker.ProofPreparationRuns

/-!
# Private practice material

The learning bundle of a generation context, the practice sessions on it, the answers of their
author and the feedback to them. They are generated by jobs that may be delivered many times, are
shredded when their time is over, and a trigger shreds what belongs to a revision when the
revision is not current any more.

A step is a transaction where locks keep the others out. The insert of an artifact takes no lock
that a switch of the revision waits for, so its insert and its commit are two steps. Statements
read the clock in the order of the steps; a snapshot and the submission of an answer write the
time at which their transactions have begun, which may be long before.

Payloads are encrypted under the identifiers of their rows. The model has what a decryption
returns in the place of a ciphertext. Content hashes, the head and the hash of the context in a
session, and the metadata of an invocation are left out.
-/

open Foundation

namespace UnderstandProof

namespace Worker

open Domain (Timestamp)
open Github (Attempt PullRequestRevision PullRequestRows)

/-- The columns that the lifecycle constraints of the private tables bind: there is a payload or a
time of deletion, and not both. -/
inductive PrivateContent (α : Type) where
  | held (payload : α)
  | shredded (deletedAt : Timestamp)
  deriving DecidableEq

/-- A row of `semantic_learning_bundles`, `semantic_practice_answers` or
`semantic_practice_feedback`, with the columns that only its table has. -/
structure PrivateRow (α β : Type) where
  id : JsString
  revisionId : JsString
  generationContextId : JsString
  binding : β
  content : PrivateContent α
  deleteAfter : Timestamp
  invalidatedAt : Option Timestamp
  createdAt : Timestamp
  deriving DecidableEq

inductive GenerationOutcome where
  | generated
  | repaired
  | fallback
  deriving DecidableEq

structure LearningMaterial where
  questionIds : List JsString
  content : JsString
  deriving DecidableEq

structure BundleBinding where
  runKey : JsString
  headSha : JsString
  outcome : GenerationOutcome
  deriving DecidableEq

structure AnswerBinding where
  sessionId : JsString
  questionId : JsString
  deriving DecidableEq

structure FeedbackBinding where
  runKey : JsString
  sessionId : JsString
  questionId : JsString
  outcome : GenerationOutcome
  deriving DecidableEq

abbrev LearningBundle := PrivateRow LearningMaterial BundleBinding

abbrev PracticeAnswer := PrivateRow JsString AnswerBinding

abbrev PracticeFeedback := PrivateRow JsString FeedbackBinding

/-- A row of `practice_sessions`. -/
structure PracticeSession where
  id : JsString
  revisionId : JsString
  generationContextId : JsString
  learningBundleId : JsString
  userId : JsString
  startedAt : Timestamp
  deleteAfter : Timestamp
  invalidatedAt : Option Timestamp
  deletedAt : Option Timestamp
  deriving DecidableEq

/-- What a run of `semantic.generate-practice-feedback` is about. -/
structure PracticeTarget where
  practiceSessionId : JsString
  practiceQuestionId : JsString
  practiceAnswerId : JsString
  deriving DecidableEq

structure CompletedRun where
  artifactId : JsString
  degraded : Bool
  deriving DecidableEq

/-- A row of `semantic_generation_runs` for learning material, or with a target for practice
feedback. -/
structure PrivateRun where
  revisionId : JsString
  generationContextId : JsString
  target : Option PracticeTarget
  artifactSeed : JsString
  questionCount : ℕ
  createdAt : Timestamp
  deadlineAt : Timestamp
  deleteAfter : Timestamp
  completed : Option CompletedRun
  deriving DecidableEq

/-- The payload of `semantic.generate-learning`, or with a target of
`semantic.generate-practice-feedback`. -/
structure PrivatePayload where
  idempotencyKey : JsString
  revisionId : JsString
  generationContextId : JsString
  expectedHeadSha : JsString
  target : Option PracticeTarget
  deriving DecidableEq

inductive PracticePhase where
  | reserved
  /-- The provider is called. -/
  | calling
  /-- The deadline is over, and the fallback is taken without a call. -/
  | late
  | produced (outcome : GenerationOutcome) (content : JsString)
  deriving DecidableEq

/-- A job with the run that it has reserved. -/
structure PracticeJob where
  payload : PrivatePayload
  headSha : JsString
  run : PrivateRun
  phase : PracticePhase

/-- The row that a transaction has inserted, while it has locked the run and not committed. -/
inductive PrivateInsert where
  | learningBundle (row : LearningBundle)
  | feedback (row : PracticeFeedback)
  deriving DecidableEq

/-- A row of `semantic_practice_rate_limits`. -/
structure PracticeRateEvent where
  revisionId : JsString
  actorKeyHash : JsString
  isAnswer : Bool
  occurredAt : Timestamp
  deriving DecidableEq

structure PracticeSystem (Digest : Type) where
  preparation : PreparationSystem Digest
  clock : Timestamp
  runs : Table JsString PrivateRun
  /-- What is inserted for the run of a key, whose row is locked. -/
  inserted : Table JsString PrivateInsert
  bundles : List LearningBundle
  sessions : List PracticeSession
  answers : List PracticeAnswer
  feedback : List PracticeFeedback
  rates : List PracticeRateEvent
  /-- The feedback jobs that have been scheduled. -/
  scheduled : List PrivatePayload
  jobs : Table ℕ PracticeJob

structure StartPracticeSessionInput where
  revisionId : JsString
  generationContextId : JsString
  learningBundleId : JsString
  userId : JsString
  actorKeyHash : JsString
  deriving DecidableEq

structure SubmitPracticeAnswerInput where
  revisionId : JsString
  generationContextId : JsString
  practiceSessionId : JsString
  practiceQuestionId : JsString
  userId : JsString
  actorKeyHash : JsString
  answer : JsString
  deriving DecidableEq

structure ReadPracticeViewInput where
  revisionId : JsString
  generationContextId : JsString
  userId : JsString
  practiceSessionId : Option JsString
  deriving DecidableEq

structure PracticeSessionView where
  id : JsString
  deleteAfter : Timestamp
  pendingQuestionIds : List JsString
  answersByQuestionId : List (JsString × JsString)
  feedbackByQuestionId : List (JsString × JsString)
  deriving DecidableEq

inductive PracticeView where
  | unavailable
  /-- `schedules` is whether the view has scheduled the job itself. -/
  | generating (schedules : Bool)
  | generationFailed
  | ready (bundleId : JsString) (learning : LearningMaterial)
      (practiceSession : Option PracticeSessionView)
  /-- The view throws. -/
  | error
  deriving DecidableEq

/-- What a deterministic plan is made for. -/
structure DeterministicRun where
  revisionId : JsString
  headSha : JsString
  planId : JsString
  idempotencyKey : JsString
  deriving DecidableEq

inductive PrivateKind where
  | learningBundle
  | practiceAnswer
  | practiceFeedback
  deriving DecidableEq

def privateRetentionMs : ℤ := 24 * 60 * 60000

def generationDeadlineMs : ℤ := 8 * 60000

/-! ## Private rows -/

namespace PrivateRow

variable {α β : Type}

/-- The payload is not shredded. -/
def isHeld (row : PrivateRow α β) : Bool :=
  match row.content with
  | .held _ => true
  | .shredded _ => false

def payload (row : PrivateRow α β) : Option α :=
  match row.content with
  | .held payload => some payload
  | .shredded _ => none

/-- The payload is there, and its time is not over. -/
def isReadable (now : Timestamp) (row : PrivateRow α β) : Bool :=
  row.isHeld ∧ now < row.deleteAfter

/-- `SET encrypted_payload = NULL … WHERE encrypted_payload IS NOT NULL` -/
def shred (invalidatedAt : Option Timestamp) (now : Timestamp) (row : PrivateRow α β) :
    PrivateRow α β :=
  match row.content with
  | .held _ => { row with content := .shredded now, invalidatedAt := invalidatedAt }
  | .shredded _ => row

/-- `COALESCE(invalidated_at, now)` -/
def shredWithBundle (now : Timestamp) (row : PrivateRow α β) : PrivateRow α β :=
  row.shred (some (row.invalidatedAt.getD now)) now

end PrivateRow

namespace PracticeSession

/-- The condition of `practice_sessions_active_user_revision_uq`. -/
def isActive (session : PracticeSession) : Bool :=
  session.invalidatedAt = none ∧ session.deletedAt = none

/-- The session is over, with its bundle or its revision. -/
def endAt (now : Timestamp) (session : PracticeSession) : PracticeSession :=
  { session with
    invalidatedAt := some (session.invalidatedAt.getD now)
    deletedAt := some now }

end PracticeSession

/-- The order of the view: `(generation_outcome = 'fallback') ASC, created_at DESC, id DESC` -/
def isPreferred (a b : LearningBundle) : Bool :=
  if (a.binding.outcome = .fallback) = (b.binding.outcome = .fallback) then
    b.createdAt < a.createdAt ∨ b.createdAt = a.createdAt ∧ b.id < a.id
  else b.binding.outcome = .fallback

def preferredBundle (bundles : List LearningBundle) : Option LearningBundle :=
  bundles.foldl
    (fun found bundle => if found.all (isPreferred bundle) then some bundle else found) none

section Environment

variable {Digest : Type} (environment : PreparationEnvironment Digest)

/-- The seed of a run's artifacts. -/
def privateSeed (budget : GenerationBudget) (payload : PrivatePayload) (questionCount : ℕ) :
    JsString :=
  environment.sha256Hex ((js ":").intercalate
    [js "semantic-artifact-seed-v1",
      if payload.target.isSome then js "practice_feedback" else js "learning_material",
      environment.repositoryId, payload.revisionId, payload.generationContextId,
      budget.repositoryPolicyId, js (toString questionCount), payload.idempotencyKey])

def privateArtifactId (run : PrivateRun) : JsString :=
  environment.deterministicUuid (run.artifactSeed ++
    if run.target.isSome then js ":practice-feedback" else js ":learning-bundle")

def practiceQuestionIds (run : PrivateRun) : List JsString :=
  (List.range run.questionCount).map fun index =>
    environment.deterministicUuid
      (run.artifactSeed ++ js ":practice-question:" ++ js (toString index))

def practiceAnswerId (sessionId questionId : JsString) : JsString :=
  environment.deterministicUuid
    (js "semantic-practice-answer-v1:" ++ sessionId ++ js ":" ++ questionId)

end Environment

def learningKeyPrefix : JsString := js "semantic.learning.v3:"

def feedbackKeyPrefix : JsString := js "semantic.practice.feedback:"

/-- The key of the job that `learningJob` makes. -/
def learningKey (generationContextId : JsString) : JsString :=
  learningKeyPrefix ++ generationContextId

def feedbackKey (answerId : JsString) : JsString := feedbackKeyPrefix ++ answerId

/-- `learningJob` -/
def learningJob (revisionId generationContextId headSha : JsString) : PrivatePayload where
  idempotencyKey := learningKey generationContextId
  revisionId := revisionId
  generationContextId := generationContextId
  expectedHeadSha := headSha
  target := none

/-- The payload is one of `learningJob`, or has a key of an earlier version. -/
def isLearningPayload (payload : PrivatePayload) : Bool :=
  payload.target = none ∧
    (payload.idempotencyKey = learningKey payload.generationContextId ∨
      ¬learningKeyPrefix <+: payload.idempotencyKey ∧
        ¬feedbackKeyPrefix <+: payload.idempotencyKey)

namespace PracticeSystem

variable {Digest : Type}

def withJob (s : PracticeSystem Digest) (job : ℕ) (value : PracticeJob) : PracticeSystem Digest :=
  { s with jobs := s.jobs.set job value }

def withoutJob (s : PracticeSystem Digest) (job : ℕ) : PracticeSystem Digest :=
  { s with jobs := Function.update s.jobs job none }

/-- The revision is current on an open pull request, and its repository and installation are
active. -/
def openRevision (revisionId : JsString) (s : PracticeSystem Digest) : Option PullRequestRevision :=
  (s.preparation.rows.findRevision revisionId).filter fun revision =>
    revision.isCurrent ∧ s.preparation.rows.state = some .open ∧ s.preparation.bindingActive

def findSession (s : PracticeSystem Digest) (sessionId : JsString) : Option PracticeSession :=
  s.sessions.find? fun session => session.id = sessionId

def findBundle (s : PracticeSystem Digest) (bundleId : JsString) : Option LearningBundle :=
  s.bundles.find? fun bundle => bundle.id = bundleId

/-- `readFrozenProofContent` finds a plan of the context that the author has an attempt on. -/
def hasFrozenProof (environment : PreparationEnvironment Digest)
    (revisionId generationContextId headSha : JsString) (s : PracticeSystem Digest) : Bool :=
  s.preparation.rows.attempts.any fun attempt =>
    attempt.revisionId = revisionId ∧ attempt.authorId = environment.authorId ∧
      attempt.headSha = headSha ∧
      (s.preparation.plans attempt.proofPlanId).any fun plan =>
        plan.generationContextId = generationContextId ∧
          (s.preparation.budgets generationContextId).any (fun budget =>
            budget.revisionId = revisionId ∧ plan.questionBudget = budget.questionBudget) ∧
          plan.questions.length = plan.questionBudget

/-! ## Jobs -/

/-- The session and the answer of a target, while both are there. -/
def openTarget (now : Timestamp) (payload : PrivatePayload) (target : PracticeTarget)
    (s : PracticeSystem Digest) : Option (PracticeSession × PracticeAnswer) :=
  match s.findSession target.practiceSessionId,
      s.answers.find? (fun answer => answer.id = target.practiceAnswerId) with
  | some session, some answer =>
      if answer.binding.sessionId = session.id ∧
          answer.binding.questionId = target.practiceQuestionId ∧
          session.revisionId = payload.revisionId ∧
          session.generationContextId = payload.generationContextId ∧ session.isActive ∧
          answer.isHeld ∧ now < session.deleteAfter then
        some (session, answer)
      else none
  | _, _ => none

/-- The latest deletion that a run may ask for, or `none` when the target is gone. -/
def maximumDeleteAfter (now : Timestamp) (payload : PrivatePayload) (s : PracticeSystem Digest) :
    Option Timestamp :=
  match payload.target with
  | none => some (now + privateRetentionMs)
  | some target => (s.openTarget now payload target).map fun found => found.1.deleteAfter

inductive ReserveResult (Digest : Type) where
  | stale
  | proofPending
  | conflict
  | reserved (s : PracticeSystem Digest) (headSha : JsString) (run : PrivateRun)

/-- `reserveRun` -/
def reserveRun (environment : PreparationEnvironment Digest) (now : Timestamp)
    (payload : PrivatePayload) (s : PracticeSystem Digest) : ReserveResult Digest :=
  match s.preparation.loadRunBinding
      { idempotencyKey := payload.idempotencyKey
        revisionId := payload.revisionId
        generationContextId := payload.generationContextId
        expectedHeadSha := payload.expectedHeadSha },
    s.maximumDeleteAfter now payload with
  | some (revision, budget), some maximum =>
      let questionCount :=
        if payload.target.isSome then budget.questionBudget else max 3 budget.questionBudget
      let seed := privateSeed environment budget payload questionCount
      let row := (s.runs payload.idempotencyKey).getD
        { revisionId := revision.id
          generationContextId := payload.generationContextId
          target := payload.target
          artifactSeed := seed
          questionCount := questionCount
          createdAt := now
          deadlineAt := now + generationDeadlineMs
          deleteAfter := min (now + privateRetentionMs) maximum
          completed := none }
      if (s.runs payload.idempotencyKey).isNone ∧
          s.hasFrozenProof environment revision.id payload.generationContextId revision.headSha =
            false then .proofPending
      else if row.revisionId ≠ revision.id ∨
          row.generationContextId ≠ payload.generationContextId ∨ row.target ≠ payload.target ∨
          row.artifactSeed ≠ seed ∨ row.questionCount ≠ questionCount then .conflict
      else
        .reserved { s with runs := s.runs.set payload.idempotencyKey row } revision.headSha row
  | _, _ => .stale

/-- `loadPracticeQuestionAndAnswer`: the answer, or `none` when it throws. -/
def loadPracticeQuestionAndAnswer (environment : PreparationEnvironment Digest) (now : Timestamp)
    (payload : PrivatePayload) (target : PracticeTarget) (s : PracticeSystem Digest) :
    Option JsString :=
  match s.openRevision payload.revisionId, s.openTarget now payload target with
  | some _, some (session, answer) =>
      if session.userId = environment.authorId ∧
          ((s.findBundle session.learningBundleId).bind PrivateRow.payload).any
            (fun learning => target.practiceQuestionId ∈ learning.questionIds) = true then
        answer.payload
      else none
  | _, _ => none

/-- What a job loads between its reservation and the call of the provider. -/
def loadInput (environment : PreparationEnvironment Digest) (now : Timestamp)
    (job : PracticeJob) (s : PracticeSystem Digest) : Bool :=
  job.run.completed.isNone ∧
    (job.payload.target.all fun target =>
      (s.loadPracticeQuestionAndAnswer environment now job.payload target).isSome) ∧
    s.hasFrozenProof environment job.run.revisionId job.run.generationContextId job.headSha

/-- `slopproof_validate_semantic_artifact_v1`, on the binding to a current revision. -/
def acceptsArtifact (revisionId headSha : JsString) (s : PracticeSystem Digest) : Bool :=
  (s.openRevision revisionId).any fun revision => revision.headSha = headSha

/-- The row that `persistPrivateArtifact` inserts. -/
def insertedRow (key headSha id : JsString) (outcome : GenerationOutcome)
    (material : LearningMaterial) (run : PrivateRun) : PrivateInsert :=
  match run.target with
  | none =>
      .learningBundle
        { id := id
          revisionId := run.revisionId
          generationContextId := run.generationContextId
          binding := { runKey := key, headSha := headSha, outcome := outcome }
          content := .held material
          deleteAfter := run.deleteAfter
          invalidatedAt := none
          createdAt := run.createdAt }
  | some target =>
      .feedback
        { id := id
          revisionId := run.revisionId
          generationContextId := run.generationContextId
          binding :=
            { runKey := key
              sessionId := target.practiceSessionId
              questionId := target.practiceQuestionId
              outcome := outcome }
          content := .held material.content
          deleteAfter := run.deleteAfter
          invalidatedAt := none
          createdAt := run.createdAt }

/-- `persistPrivateArtifact` up to its commit; a replay and an error insert nothing. -/
def persistPrivateArtifact (environment : PreparationEnvironment Digest) (job : PracticeJob)
    (outcome : GenerationOutcome) (content : JsString) (s : PracticeSystem Digest) :
    Option PrivateInsert :=
  (s.runs job.payload.idempotencyKey).bind fun row =>
    if row.completed.isNone ∧ s.acceptsArtifact row.revisionId job.headSha then
      some
        (insertedRow job.payload.idempotencyKey job.headSha (privateArtifactId environment row)
          outcome
          { questionIds := practiceQuestionIds environment row, content := content } row)
    else none

/-- `completeRun` -/
def completeRun (key artifactId : JsString) (outcome : GenerationOutcome)
    (s : PracticeSystem Digest) : PracticeSystem Digest :=
  { s with
    runs := Function.update s.runs key
      ((s.runs key).map fun run =>
        { run with
          completed :=
            some { artifactId := artifactId, degraded := decide (outcome = .fallback) } })
    inserted := Function.update s.inserted key none }

/-- The commit of an insert. Its unique indexes wait for the inserts before it. -/
def commitInsert (key : JsString) (s : PracticeSystem Digest) : Option (PracticeSystem Digest) :=
  match s.inserted key with
  | none => none
  | some (.learningBundle row) =>
      if (s.bundles.all fun bundle =>
          bundle.id ≠ row.id ∧ bundle.binding.runKey ≠ row.binding.runKey) = true then
        some
          (({ s with bundles := s.bundles ++ [row] } : PracticeSystem Digest).completeRun key row.id
            row.binding.outcome)
      else none
  | some (.feedback row) =>
      if (s.feedback.all fun feedback =>
          feedback.id ≠ row.id ∧ feedback.binding.runKey ≠ row.binding.runKey) = true then
        some
          (({ s with feedback := s.feedback ++ [row] } : PracticeSystem Digest).completeRun key
            row.id row.binding.outcome)
      else none

/-! ## Sessions and answers -/

/-- `reserveSemanticPracticeRateLimit`; `none` is an error. -/
def reserveRateLimit (now : Timestamp) (revisionId actorKeyHash : JsString) (isAnswer : Bool)
    (s : PracticeSystem Digest) : Option (PracticeSystem Digest) :=
  if (s.openRevision revisionId).isSome ∧
      (s.rates.countP fun rate =>
        rate.revisionId = revisionId ∧ rate.actorKeyHash = actorKeyHash ∧
          rate.isAnswer = isAnswer ∧ now - 60 * 1000 < rate.occurredAt) <
        (if isAnswer then 10 else 5) then
    some { s with
      rates := s.rates ++
        [{ revisionId := revisionId
           actorKeyHash := actorKeyHash
           isAnswer := isAnswer
           occurredAt := now }] }
  else none

/-- The bundle that a session may be started on. -/
def startableBundle (environment : PreparationEnvironment Digest) (now : Timestamp)
    (input : StartPracticeSessionInput) (s : PracticeSystem Digest) : Option LearningBundle :=
  match s.openRevision input.revisionId, s.findBundle input.learningBundleId with
  | some revision, some bundle =>
      if bundle.revisionId = input.revisionId ∧
          bundle.generationContextId = input.generationContextId ∧ bundle.isReadable now ∧
          revision.headSha = bundle.binding.headSha ∧ environment.authorId = input.userId then
        some bundle
      else none
  | _, _ => none

/-- `INSERT INTO practice_sessions`, with its unique indexes and its trigger. -/
def insertSession (session : PracticeSession) (s : PracticeSystem Digest) :
    Option (PracticeSystem Digest) :=
  if (s.sessions.all fun other => other.id ≠ session.id) = true ∧
      (s.sessions.any fun other =>
        other.revisionId = session.revisionId ∧ other.userId = session.userId ∧
          other.isActive) = false ∧
      session.startedAt < session.deleteAfter ∧
      session.deleteAfter ≤ session.startedAt + privateRetentionMs then
    some { s with sessions := s.sessions ++ [session] }
  else none

/-- The active session of the author on the context. -/
def activeSession (input : StartPracticeSessionInput) (s : PracticeSystem Digest) :
    Option PracticeSession :=
  s.sessions.find? fun session =>
    session.revisionId = input.revisionId ∧ session.userId = input.userId ∧
      session.generationContextId = input.generationContextId ∧ session.isActive

/-- `startPracticeSession`, with a new session's random id; `none` is an error. -/
def startPracticeSession (environment : PreparationEnvironment Digest) (now : Timestamp)
    (sessionId : JsString) (input : StartPracticeSessionInput) (s : PracticeSystem Digest) :
    Option (PracticeSystem Digest × JsString) :=
  (s.reserveRateLimit now input.revisionId input.actorKeyHash false).bind fun s =>
    (s.startableBundle environment now input).bind fun material =>
      let session : PracticeSession :=
        { id := sessionId
          revisionId := input.revisionId
          generationContextId := input.generationContextId
          learningBundleId := input.learningBundleId
          userId := input.userId
          startedAt := now
          deleteAfter := material.deleteAfter
          invalidatedAt := none
          deletedAt := none }
      match s.activeSession input with
      | none => (s.insertSession session).map fun s => (s, sessionId)
      | some active =>
          if active.learningBundleId = input.learningBundleId then some (s, active.id)
          else
            (({ s with
              sessions := s.sessions.map fun other =>
                if other.id = active.id then { other with invalidatedAt := some now }
                else other } : PracticeSystem Digest).insertSession session).map fun s =>
              (s, sessionId)

/-- The session of an answer with the material of its bundle. -/
def answerable (environment : PreparationEnvironment Digest) (now : Timestamp)
    (input : SubmitPracticeAnswerInput) (s : PracticeSystem Digest) :
    Option (PracticeSession × BundleBinding × LearningMaterial) :=
  match s.openRevision input.revisionId, s.findSession input.practiceSessionId with
  | some _, some session =>
      if session.revisionId = input.revisionId ∧
          session.generationContextId = input.generationContextId ∧
          session.userId = input.userId ∧ session.isActive ∧ now < session.deleteAfter ∧
          environment.authorId = input.userId then
        (s.findBundle session.learningBundleId).bind fun bundle =>
          bundle.payload.map fun learning => (session, bundle.binding, learning)
      else none
  | _, _ => none

/-- `submitPracticeAnswer` of a transaction that has begun at `begunAt`; `none` is an error. The
result is whether it is a replay. -/
def submitPracticeAnswer (environment : PreparationEnvironment Digest) (begunAt now : Timestamp)
    (input : SubmitPracticeAnswerInput) (s : PracticeSystem Digest) :
    Option (PracticeSystem Digest × Bool) :=
  (s.reserveRateLimit now input.revisionId input.actorKeyHash true).bind fun s =>
    (s.answerable environment now input).bind fun (session, binding, learning) =>
      let answerId := practiceAnswerId environment input.practiceSessionId input.practiceQuestionId
      if input.practiceQuestionId ∉ learning.questionIds then none
      else if (s.answers.any fun answer =>
          answer.binding.sessionId = input.practiceSessionId ∧
            answer.binding.questionId = input.practiceQuestionId) = true then
        match (s.answers.find? fun answer => answer.id = answerId).bind PrivateRow.payload with
        | none => none
        | some prior => if prior = input.answer then some (s, true) else none
      else if (s.answers.all fun answer => answer.id ≠ answerId) = true then
        some
          ({ s with
              answers := s.answers ++
                [{ id := answerId
                   revisionId := input.revisionId
                   generationContextId := input.generationContextId
                   binding :=
                     { sessionId := input.practiceSessionId
                       questionId := input.practiceQuestionId }
                   content := .held input.answer
                   deleteAfter := session.deleteAfter
                   invalidatedAt := none
                   createdAt := begunAt }]
              scheduled := s.scheduled ++
                [{ idempotencyKey := feedbackKey answerId
                   revisionId := input.revisionId
                   generationContextId := input.generationContextId
                   expectedHeadSha := binding.headSha
                   target := some
                     { practiceSessionId := input.practiceSessionId
                       practiceQuestionId := input.practiceQuestionId
                       practiceAnswerId := answerId } }] },
            false)
      else none

/-! ## The view -/

/-- The part of the view that is about a session. -/
def viewSession (now : Timestamp) (input : ReadPracticeViewInput) (bundleId : JsString)
    (learning : LearningMaterial) (sessionId : JsString) (s : PracticeSystem Digest) :
    Option PracticeSessionView :=
  ((s.findSession sessionId).filter fun session =>
    session.revisionId = input.revisionId ∧
      session.generationContextId = input.generationContextId ∧
      session.learningBundleId = bundleId ∧ session.userId = input.userId ∧ session.isActive ∧
      now < session.deleteAfter).map fun session =>
    let feedback := s.feedback.filterMap fun feedback =>
      if feedback.binding.sessionId = session.id ∧ feedback.isReadable now then
        feedback.payload.map fun content => (feedback.binding.questionId, content)
      else none
    let answers := s.answers.filterMap fun answer =>
      if answer.binding.sessionId = session.id ∧ answer.isReadable now ∧
          answer.binding.questionId ∈ learning.questionIds then
        answer.payload.map fun content => (answer.binding.questionId, content)
      else none
    { id := session.id
      deleteAfter := session.deleteAfter
      pendingQuestionIds := (answers.map Prod.fst).filter fun questionId =>
        questionId ∉ feedback.map Prod.fst
      answersByQuestionId := answers
      feedbackByQuestionId := feedback }

/-- `readPracticeView` -/
def readPracticeView (environment : PreparationEnvironment Digest) (now : Timestamp)
    (input : ReadPracticeViewInput) (s : PracticeSystem Digest) : PracticeView :=
  if (s.openRevision input.revisionId).isNone ∨ environment.authorId ≠ input.userId ∨
      (s.preparation.budgets input.generationContextId).all
        (fun budget => budget.revisionId ≠ input.revisionId) = true then .unavailable
  else
    match preferredBundle (s.bundles.filter fun bundle =>
        bundle.revisionId = input.revisionId ∧
          bundle.generationContextId = input.generationContextId ∧ bundle.isReadable now) with
    | none => .generating false
    | some bundle =>
        if bundle.binding.outcome = .fallback then
          match (s.runs (learningKey input.generationContextId)).bind PrivateRun.completed with
          | none => .generating true
          | some completed => if completed.degraded then .generationFailed else .error
        else
          match bundle.payload with
          | none => .error
          | some learning =>
              match input.practiceSessionId with
              | none => .ready bundle.id learning none
              | some sessionId =>
                  match s.viewSession now input bundle.id learning sessionId with
                  | none => .unavailable
                  | some session => .ready bundle.id learning (some session)

/-! ## Deletion -/

/-- When the revision has stopped to be current between two states of the rows. -/
def leftAt (before after : PullRequestRows Digest) (revisionId : JsString) : Option Timestamp :=
  match before.findRevision revisionId, after.findRevision revisionId with
  | some old, some new =>
      if old.isCurrent = true ∧ new.isCurrent = false then new.invalidatedAt else none
  | _, _ => none

/-- `slopproof_invalidate_semantic_private_v1` on one row. -/
def invalidatePrivate {α β : Type} (left : JsString → Option Timestamp) (row : PrivateRow α β) :
    PrivateRow α β :=
  match left row.revisionId with
  | none => row
  | some at_ => row.shred (some at_) at_

/-- `slopproof_guard_semantic_private_v1` lets a shredding at the time pass. -/
def guardSemanticPrivate {α β : Type} (deletedAt : Timestamp) (row : PrivateRow α β) : Bool :=
  row.isHeld = true → row.createdAt ≤ deletedAt

def invalidateSession (left : JsString → Option Timestamp) (session : PracticeSession) :
    PracticeSession :=
  match left session.revisionId with
  | none => session
  | some at_ =>
      if session.deletedAt = none then
        { session with invalidatedAt := some at_, deletedAt := some at_ }
      else session

/-- The guard lets the trigger shred the rows that are left. -/
def passesGuard {α β : Type} (left : JsString → Option Timestamp)
    (rows : List (PrivateRow α β)) : Bool :=
  rows.all fun row => (left row.revisionId).all fun deletedAt => guardSemanticPrivate deletedAt row

/-- The trigger of `pull_request_revisions`; `none` is an error of the guard. -/
def invalidateSemanticPrivate (left : JsString → Option Timestamp) (s : PracticeSystem Digest) :
    Option (PracticeSystem Digest) :=
  if passesGuard left s.bundles ∧ passesGuard left s.answers ∧ passesGuard left s.feedback then
    some { s with
      bundles := s.bundles.map (invalidatePrivate left)
      answers := s.answers.map (invalidatePrivate left)
      feedback := s.feedback.map (invalidatePrivate left)
      sessions := s.sessions.map (invalidateSession left) }
  else none

/-- When a row is shredded by `expirePrivate`, its time of invalidation. -/
def expiryOf {α β : Type} (now : Timestamp) (row : PrivateRow α β) (s : PracticeSystem Digest) :
    Option (Option Timestamp) :=
  match s.preparation.rows.findRevision row.revisionId with
  | none => none
  | some revision =>
      if row.isHeld = false then none
      else if revision.isCurrent = true ∧ now < row.deleteAfter then none
      else if revision.isCurrent then some none
      else some (some (revision.invalidatedAt.getD now))

/-- The rows of a statement of `expirePrivate`, after it; `none` is an error of the guard. -/
def shredRows {α β : Type} (chosen : PrivateRow α β → Bool)
    (shredding : PrivateRow α β → PrivateRow α β) (now : Timestamp)
    (rows : List (PrivateRow α β)) : Option (List (PrivateRow α β)) :=
  if (rows.all fun row => chosen row = true → guardSemanticPrivate now row) = true then
    some (rows.map fun row => if chosen row then shredding row else row)
  else none

/-- The session of a row is on the bundle. -/
def isOnBundle (bundleId sessionId : JsString) (s : PracticeSystem Digest) : Bool :=
  (s.findSession sessionId).any fun session => session.learningBundleId = bundleId

/-- `expirePrivate` of a bundle with what hangs on it. -/
def shredBundle (bundleId : JsString) (invalidatedAt : Option Timestamp) (now : Timestamp)
    (s : PracticeSystem Digest) : Option (PracticeSystem Digest) :=
  (shredRows (fun bundle => bundle.id = bundleId) (·.shred invalidatedAt now) now s.bundles).bind
    fun bundles =>
      (shredRows (fun answer => s.isOnBundle bundleId answer.binding.sessionId)
        (·.shredWithBundle now) now s.answers).bind fun answers =>
          (shredRows (fun feedback => s.isOnBundle bundleId feedback.binding.sessionId)
            (·.shredWithBundle now) now s.feedback).map fun feedback =>
              { s with
                bundles := bundles
                answers := answers
                feedback := feedback
                sessions := s.sessions.map fun session =>
                  if session.learningBundleId = bundleId ∧ session.deletedAt = none then
                    session.endAt now
                  else session }

/-- `expirePrivate`; `none` is a replay or an error, which changes nothing. -/
def expirePrivate (now : Timestamp) (kind : PrivateKind) (artifactId : JsString)
    (s : PracticeSystem Digest) : Option (PracticeSystem Digest) :=
  match kind with
  | .learningBundle =>
      ((s.findBundle artifactId).bind fun row => s.expiryOf now row).bind fun invalidatedAt =>
        s.shredBundle artifactId invalidatedAt now
  | .practiceAnswer =>
      ((s.answers.find? fun row => row.id = artifactId).bind fun row => s.expiryOf now row).bind
        fun invalidatedAt =>
          (shredRows (fun row => row.id = artifactId) (·.shred invalidatedAt now) now
            s.answers).map fun answers => { s with answers := answers }
  | .practiceFeedback =>
      ((s.feedback.find? fun row => row.id = artifactId).bind fun row => s.expiryOf now row).bind
        fun invalidatedAt =>
          (shredRows (fun row => row.id = artifactId) (·.shred invalidatedAt now) now
            s.feedback).map fun feedback => { s with feedback := feedback }

/-! ## The sweep -/

/-- The private rows that `sweepDueSemanticPrivate` selects. -/
def isDue {α β : Type} (now : Timestamp) (row : PrivateRow α β) (s : PracticeSystem Digest) :
    Bool :=
  row.isHeld ∧
    (s.preparation.rows.findRevision row.revisionId).any fun revision =>
      row.deleteAfter ≤ now ∨ revision.isCurrent = false

/-- A run for learning material of the context is completed. -/
def HasLearning (generationContextId : JsString) (s : PracticeSystem Digest) : Prop :=
  ∃ key run, s.runs key = some run ∧ run.target = none ∧
    run.generationContextId = generationContextId ∧ run.completed.isSome

/-- A run for the proof questions of the context is completed. -/
def HasProof (generationContextId : JsString) (s : PracticeSystem Digest) : Prop :=
  ∃ key run, s.preparation.runs key = some run ∧
    run.generationContextId = generationContextId ∧ run.artifactId.isSome

/-- The budget of the context is one that the sweep looks at. -/
def isSwept (generationContextId : JsString) (s : PracticeSystem Digest) : Bool :=
  (s.preparation.budgets generationContextId).any fun budget =>
    (s.openRevision budget.revisionId).any (fun revision => revision.headSha = budget.headSha) ∧
      s.preparation.hasFailedPreparation budget.revisionId = false

/-- `needs_learning` -/
def SweepsLearning (generationContextId : JsString) (s : PracticeSystem Digest) : Prop :=
  s.isSwept generationContextId = true ∧ ¬s.HasLearning generationContextId

/-- `needs_proof` -/
def SweepsProof (generationContextId : JsString) (s : PracticeSystem Digest) : Prop :=
  s.isSwept generationContextId = true ∧ ¬s.HasProof generationContextId ∧
    (s.preparation.budgets generationContextId).all fun budget =>
      s.preparation.rows.attempts.all fun attempt => attempt.revisionId ≠ budget.revisionId

end PracticeSystem

/-! ## Steps -/

inductive PracticeEvent where
  /-- A step on the pull request or of a preparation. -/
  | preparation (event : PreparationEvent)
  /-- `prepareRevision` of a deterministic plan. -/
  | prepareRevision (now : Timestamp) (run : DeterministicRun) (plan : FrozenPlan) (fails : Bool)
  | reserve (job : ℕ) (now : Timestamp) (payload : PrivatePayload)
  | load (job : ℕ) (now : Timestamp)
  | generate (job : ℕ) (outcome : GenerationOutcome) (content : JsString)
  | persist (job : ℕ)
  | crash (job : ℕ)
  /-- The commit of what is inserted for the run of the key. -/
  | commit (key : JsString)
  | rollback (key : JsString)
  | start (now : Timestamp) (sessionId : JsString) (input : StartPracticeSessionInput)
  | submit (begunAt now : Timestamp) (input : SubmitPracticeAnswerInput)
  | expire (now : Timestamp) (kind : PrivateKind) (artifactId : JsString)
  | view (now : Timestamp) (input : ReadPracticeViewInput)

/-- The clock reading of an event. -/
def practiceReading : PracticeEvent → Option Timestamp
  | .reserve _ now _ => some now
  | .load _ now => some now
  | .start now _ _ => some now
  | .submit _ now _ => some now
  | .expire now _ _ => some now
  | .view now _ => some now
  | _ => none

namespace PracticeSystem

variable {Digest : Type} [DecidableEq Digest]

omit [DecidableEq Digest] in
/-- A job that has reserved its run loads its input, or ends. -/
def load (environment : PreparationEnvironment Digest) (job : ℕ) (now : Timestamp)
    (value : PracticeJob) (s : PracticeSystem Digest) : PracticeSystem Digest :=
  if s.loadInput environment now value then
    s.withJob job
      { value with phase := if now < value.run.deadlineAt then .calling else .late }
  else s.withoutJob job

omit [DecidableEq Digest] in
/-- The insert of a job's artifact, with which the worker's part in the run is over. -/
def persist (environment : PreparationEnvironment Digest) (job : ℕ) (value : PracticeJob)
    (outcome : GenerationOutcome) (content : JsString) (s : PracticeSystem Digest) :
    PracticeSystem Digest :=
  match s.persistPrivateArtifact environment value outcome content with
  | none => s.withoutJob job
  | some row =>
      ({ s with inserted := s.inserted.set value.payload.idempotencyKey row } :
        PracticeSystem Digest).withoutJob job

/-- `prepareRevision` of a deterministic plan, which is there afterwards with its questions;
`none` is a rollback. -/
def prepareRevision (environment : PreparationEnvironment Digest) (now : Timestamp)
    (run : DeterministicRun) (plan : FrozenPlan) (fails : Bool) (s : PracticeSystem Digest) :
    Option (PracticeSystem Digest) :=
  (s.preparation.rows.prepareRevision environment.toRevisionEnvironment now
      { revisionId := run.revisionId
        authorId := environment.authorId
        contextHeadSha := run.headSha
        planId := run.planId
        planHeadSha := run.headSha
        idempotencyKey := run.idempotencyKey } fails).bind fun rows =>
    if (s.preparation.plans run.planId).all (fun stored => stored = plan) = true then
      some
        { s with
          preparation :=
            { s.preparation with
              rows := rows
              plans := s.preparation.plans.set run.planId plan } }
    else none

/-- The rows after an event, or `none` when it is refused or waits for a lock. A feedback job is
one that has been scheduled. -/
def nextRows (environment : PreparationEnvironment Digest) (s : PracticeSystem Digest) :
    PracticeEvent → Option (PracticeSystem Digest)
  | .preparation event =>
      (s.preparation.next environment event).bind fun preparation =>
        ({ s with preparation := preparation } :
          PracticeSystem Digest).invalidateSemanticPrivate
            (leftAt s.preparation.rows preparation.rows)
  | .prepareRevision now run plan fails => s.prepareRevision environment now run plan fails
  | .reserve job now payload =>
      if (s.jobs job).isNone ∧ (s.inserted payload.idempotencyKey).isNone ∧
          (isLearningPayload payload ∨ payload ∈ s.scheduled) then
        match s.reserveRun environment now payload with
        | .reserved t headSha run =>
            some (t.withJob job
              { payload := payload
                headSha := headSha
                run := run
                phase := .reserved })
        | _ => none
      else none
  | .load job now =>
      (s.jobs job).bind fun value =>
        match value.phase with
        | .reserved => some (s.load environment job now value)
        | _ => none
  | .generate job outcome content =>
      (s.jobs job).bind fun value =>
        match value.phase with
        | .calling => some (s.withJob job { value with phase := .produced outcome content })
        | .late =>
            if outcome = .fallback then
              some (s.withJob job { value with phase := .produced outcome content })
            else none
        | _ => none
  | .persist job =>
      (s.jobs job).bind fun value =>
        match value.phase with
        | .produced outcome content =>
            if (s.inserted value.payload.idempotencyKey).isNone then
              some (s.persist environment job value outcome content)
            else none
        | _ => none
  | .crash job => (s.jobs job).map fun _ => s.withoutJob job
  | .commit key => s.commitInsert key
  | .rollback key =>
      (s.inserted key).map fun _ => { s with inserted := Function.update s.inserted key none }
  | .start now sessionId input =>
      (s.startPracticeSession environment now sessionId input).map Prod.fst
  | .submit begunAt now input =>
      if begunAt ≤ now then
        (s.submitPracticeAnswer environment begunAt now input).map Prod.fst
      else none
  | .expire now kind artifactId => s.expirePrivate now kind artifactId
  | .view _ _ => some s

/-- The rows and the clock after an event, or `none` when it is refused. -/
def next (environment : PreparationEnvironment Digest) (s : PracticeSystem Digest)
    (event : PracticeEvent) : Option (PracticeSystem Digest) :=
  if (practiceReading event).all (s.clock ≤ ·) then
    (s.nextRows environment event).map fun t =>
      { t with clock := (practiceReading event).getD s.clock }
  else none

def step (environment : PreparationEnvironment Digest) (s : PracticeSystem Digest)
    (event : PracticeEvent) : PracticeSystem Digest :=
  (s.next environment event).getD s

omit [DecidableEq Digest] in
/-- Before the first snapshot of the pull request. -/
def start (clock : Timestamp) : PracticeSystem Digest where
  preparation := PreparationSystem.start
  clock := clock
  runs := fun _ => none
  inserted := fun _ => none
  bundles := []
  sessions := []
  answers := []
  feedback := []
  rates := []
  scheduled := []
  jobs := fun _ => none

end PracticeSystem

end Worker

end UnderstandProof
