import UnderstandProof.Providers.PayloadCipher
import UnderstandProof.Providers.ProofEvaluation
import UnderstandProof.Worker.MultimodalJudge

/-!
# The compatibility bundle

The authoritative evaluation is projected onto the older form of an evaluation, which
always asks for a review, and the projection is stored in an encrypted payload.
-/

open Foundation

namespace UnderstandProof

namespace Worker

open Domain Providers Media

/-! ## Identifiers -/

/-- The sixteen bytes with the version digit 5 and the variant of a UUID. -/
def stampUuid (bytes : Bytes) : Bytes :=
  (bytes.modify 6 fun byte => (byte &&& 0x0f) ||| 0x50).modify 8 fun byte =>
    (byte &&& 0x3f) ||| 0x80

/-- Hexadecimal digits in the five groups of a UUID. -/
def groupUuid (hex : JsString) : JsString :=
  hex.take 8 ++ js "-" ++ (hex.drop 8).take 4 ++ js "-" ++ (hex.drop 12).take 4 ++ js "-" ++
    (hex.drop 16).take 4 ++ js "-" ++ (hex.drop 20).take 12

/-- The first sixteen bytes of a digest as a UUID. -/
def deterministicUuid (sha256 : Sha256) (value : JsString) : JsString :=
  groupUuid (encodeHex (stampUuid ((sha256.digest (JsString.utf8Encode value)).take 16)))

def evaluationAad (attemptId evaluationId : JsString) : JsString :=
  js "slopproof:evaluation:v1:" ++ attemptId ++ js ":" ++ evaluationId

/-! ## The projection -/

def supportedReason : JsString :=
  js "Compatibility projection: stored criterion has bounded support; consult authoritative sidecar."

def unsupportedReason : JsString :=
  js "Compatibility projection: stored criterion lacks bounded support; consult authoritative sidecar."

def sentinelReason : JsString :=
  js "Compatibility-only sentinel; consult authoritative sidecar."

def projectionReason : JsString :=
  js "Compatibility-only manual-review projection; authoritative criterion results remain in the encrypted sidecar."

def projectionPrivateReason : JsString :=
  js "Compatibility-only projection; maintainer review and the authoritative encrypted multimodal sidecar are required."

/-- The criteria that were decided. -/
def evaluable (question : MultimodalQuestionEvaluation) : List MultimodalCriterionResult :=
  question.criterionResults.filter fun criterion => criterion.result != .notEvaluable

def rubricFinding (criterion : MultimodalCriterionResult) : RubricFinding where
  criterionId := criterion.criterionId
  result := criterion.result
  reason := if criterion.result = .met then supportedReason else unsupportedReason

/-- The finding of a question without a decided criterion. -/
def sentinelFinding (sha256 : Sha256) (attemptId questionId : JsString) : RubricFinding where
  criterionId := deterministicUuid sha256
    (js "multimodal-compatibility-sentinel:" ++ attemptId ++ js ":" ++ questionId)
  result := .met
  reason := sentinelReason

def rubricFindings (sha256 : Sha256) (attemptId : JsString)
    (question : MultimodalQuestionEvaluation) : List RubricFinding :=
  let findings := (evaluable question).map rubricFinding
  if findings.length = 0 then [sentinelFinding sha256 attemptId question.questionId] else findings

def questionOutcome (question : MultimodalQuestionEvaluation) : QuestionOutcome :=
  if question.criterionResults.any fun criterion => criterion.result == .notEvaluable then
    .notEvaluable
  else if (evaluable question).all fun criterion => criterion.result == .met then .met
  else if (evaluable question).all fun criterion => criterion.result == .notMet then .notMet
  else .partlyMet

def projectEvaluation (sha256 : Sha256) (attemptId : JsString)
    (question : MultimodalQuestionEvaluation) : QuestionEvaluation where
  questionId := question.questionId
  outcome := questionOutcome question
  rubricFindings := rubricFindings sha256 attemptId question
  supportedPatchAnchorIds :=
    ((evaluable question).flatMap fun criterion => criterion.supportedPatchAnchorIds).eraseDups
  reason := projectionReason

/-- The projection before its schema is applied. -/
def compatibilityProjection (evaluationInput : ProofEvaluationInput)
    (multimodalEvaluation : AuthoritativeMultimodalEvaluation)
    (questionEvaluations : List QuestionEvaluation) : ProofEvaluation where
  attemptId := evaluationInput.attemptId
  revisionId := evaluationInput.revisionId
  headSha := evaluationInput.headSha
  provider := js "multimodal-compatibility-v1"
  model := js "manual-review-projection-v1"
  recommendation := .reviewRequired
  questionEvaluations
  privateReason := projectionPrivateReason
  warnings := [js "authoritative_multimodal_sidecar_required"]
  createdAt := multimodalEvaluation.createdAt

/-! ## The checks of the questions -/

/-- `inputQuestions.get`: the last question of an id. -/
def storedQuestion? (evaluationInput : ProofEvaluationInput) (questionId : JsString) :
    Option EvaluationQuestion :=
  evaluationInput.questions.reverse.find? fun question => question.id == questionId

/-- One step over the results of a question; the state is the set of the seen criteria. -/
def seeCriterion (storedCriterionIds seenCriterionIds : List JsString)
    (criterion : MultimodalCriterionResult) : Except Caught (List JsString) := do
  rejectIf (criterion.criterionId ∉ storedCriterionIds ∨ criterion.criterionId ∈ seenCriterionIds)
    (.providerError (.plain .rubricMismatch .review))
  return seenCriterionIds ++ [criterion.criterionId]

def checkRubric (stored : EvaluationQuestion) (question : MultimodalQuestionEvaluation) :
    Except Caught Unit := do
  let storedCriterionIds := stored.criterionIds.eraseDups
  let seenCriterionIds ← question.criterionResults.foldlM (seeCriterion storedCriterionIds) []
  rejectIf (seenCriterionIds.length ≠ storedCriterionIds.length ∨
      ∃ criterionId ∈ storedCriterionIds, criterionId ∉ seenCriterionIds)
    (.providerError (.plain .rubricMismatch .review))

/-- The projections of the evaluations from one on, with the set of the seen questions. -/
def projectEvaluations (sha256 : Sha256) (evaluationInput : ProofEvaluationInput) :
    List JsString → List MultimodalQuestionEvaluation →
      Except Caught (List QuestionEvaluation × List JsString)
  | seenQuestions, [] => return ([], seenQuestions)
  | seenQuestions, question :: questions => do
      match storedQuestion? evaluationInput question.questionId with
      | none => throw (.providerError (.plain .unknownQuestionId .review))
      | some stored =>
          rejectIf (question.questionId ∈ seenQuestions)
            (.providerError (.plain .unknownQuestionId .review))
          checkRubric stored question
          let (projected, seenQuestions) ← projectEvaluations sha256 evaluationInput
            (seenQuestions ++ [question.questionId]) questions
          return (projectEvaluation sha256 evaluationInput.attemptId question :: projected,
            seenQuestions)

/-! ## The bundle -/

structure EncryptedEvaluationBundle where
  evaluationId : JsString
  attemptId : JsString
  provider : JsString
  model : JsString
  recommendation : Recommendation
  encryptedPayload : JsString
  deleteAfter : JsDate
  deriving DecidableEq, Repr

/-- The most characters of an encrypted payload. -/
def maxEncryptedPayload : ℕ := 5000000

def EncryptedEvaluationBundleV1Schema.accepts (bundle : EncryptedEvaluationBundle) : Bool :=
  isUuid bundle.evaluationId && isUuid bundle.attemptId && isShortName bundle.provider &&
    isShortName bundle.model && 1 ≤ bundle.encryptedPayload.length &&
    bundle.encryptedPayload.length ≤ maxEncryptedPayload && bundle.deleteAfter.isSome

def compatibilityEvaluationId (sha256 : Sha256) (evaluationInput : ProofEvaluationInput)
    (multimodalEvaluation : AuthoritativeMultimodalEvaluation) (transcriptId : JsString) :
    JsString :=
  deterministicUuid sha256 ((js ":").intercalate [js "multimodal-compatibility-v1",
    evaluationInput.attemptId, evaluationInput.revisionId, evaluationInput.headSha, transcriptId,
    multimodalEvaluation.invocationMetadata.inputHash])

/-- The nonce is what the cipher's source of nonces returns. -/
def createConservativeCompatibilityEvaluationBundle (sha256 : Sha256)
    (evaluationInput : ProofEvaluationInput)
    (multimodalEvaluation : AuthoritativeMultimodalEvaluation) (transcriptId : JsString)
    (deleteAfter : JsDate) (payloadCipher : PayloadCipher) (nonce : Bytes) :
    Except Caught EncryptedEvaluationBundle := do
  rejectIf (multimodalEvaluation.attemptId ≠ evaluationInput.attemptId ∨
      multimodalEvaluation.revisionId ≠ evaluationInput.revisionId ∨
      multimodalEvaluation.headSha ≠ evaluationInput.headSha ∨
      multimodalEvaluation.workflowOutcome ≠ .reviewRequired ∨
      multimodalEvaluation.manualReviewRequired = false)
    (.providerError (.plain .invalidOutput .review))
  let (questionEvaluations, seenQuestions) ← projectEvaluations sha256 evaluationInput []
    multimodalEvaluation.candidate.questionEvaluations
  rejectIf (seenQuestions.length ≠ evaluationInput.questionIds.eraseDups.length)
    (.providerError (.plain .unknownQuestionId .review))
  let evaluationId := compatibilityEvaluationId sha256 evaluationInput multimodalEvaluation
    transcriptId
  let compatibility := compatibilityProjection evaluationInput multimodalEvaluation
    questionEvaluations
  rejectIf (ProofEvaluationV1Schema.accepts compatibility = false) .zodError
  let envelope ← payloadCipher.encryptJson sha256 nonce compatibility.json
    (evaluationAad evaluationInput.attemptId evaluationId)
  let bundle : EncryptedEvaluationBundle :=
    { evaluationId
      attemptId := evaluationInput.attemptId
      provider := compatibility.provider
      model := compatibility.model
      recommendation := .reviewRequired
      encryptedPayload := envelope.json.stringify
      deleteAfter }
  rejectIf (EncryptedEvaluationBundleV1Schema.accepts bundle = false) .zodError
  return bundle

end Worker

end UnderstandProof
