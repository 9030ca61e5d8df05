import UnderstandProof.Providers.JudgeMetadata
import UnderstandProof.Providers.JudgeSchemas

/-!
# The authoritative evaluation

The schema of the evaluation that is stored for the maintainer. Its part for the
candidate is written apart from the judge's own: it checks the evidence of every
result and that a pass has nothing against it.
-/

open Foundation

namespace UnderstandProof

namespace Providers

open Domain

/-! ## The candidate -/

def AuthoritativeCandidateSchema.validBinding (criterion : MultimodalCriterionResult) : Bool :=
  (criterion.result == .met && 0 < criterion.supportedPatchAnchorIds.length &&
      criterion.reason == .patchEvidenceSupportsCriterion) ||
    (criterion.result == .notMet && 0 < criterion.supportedPatchAnchorIds.length &&
      criterion.reason == .patchEvidenceConflictsWithCriterion) ||
    (criterion.result == .notEvaluable && criterion.supportedPatchAnchorIds.length == 0 &&
      (criterion.reason == .questionEvidenceInsufficient ||
        criterion.reason == .questionEvidenceUnavailable))

/-- The issues of the results of a question. -/
def AuthoritativeCandidateSchema.criterionIssues (questionIndex : ℕ)
    (results : List MultimodalCriterionResult) : List Issue :=
  results.zipIdx.flatMap fun entry =>
    issueIf (entry.1.criterionId ∈
        (results.take entry.2).map fun criterion => criterion.criterionId)
      "Authoritative criterion IDs must be unique"
      [.key "questionEvaluations", .index questionIndex, .key "criterionResults",
        .index entry.2, .key "criterionId"] ++
    issueIf (AuthoritativeCandidateSchema.validBinding entry.1 = false)
      "Authoritative criterion evidence is inconsistent"
      [.key "questionEvaluations", .index questionIndex, .key "criterionResults", .index entry.2]

def MultimodalJudgeCandidate.containsNonPassingCriterion (candidate : MultimodalJudgeCandidate) :
    Bool :=
  candidate.questionEvaluations.any fun question =>
    question.criterionResults.any fun criterion => criterion.result != .met

def MultimodalJudgeCandidate.containsUnresolvedEvidence (candidate : MultimodalJudgeCandidate) :
    Bool :=
  candidate.questionEvaluations.any fun question =>
    0 < question.contradictions.length || 0 < question.uncertainty.length

def AuthoritativeCandidateSchema.issues (candidate : MultimodalJudgeCandidate) : List Issue :=
  (candidate.questionEvaluations.zipIdx.flatMap fun entry =>
    issueIf (entry.1.questionId ∈
        (candidate.questionEvaluations.take entry.2).map fun question => question.questionId)
      "Authoritative question IDs must be unique"
      [.key "questionEvaluations", .index entry.2, .key "questionId"] ++
    AuthoritativeCandidateSchema.criterionIssues entry.2 entry.1.criterionResults) ++
  issueIf (candidate.recommendation = .pass ∧ (candidate.containsNonPassingCriterion = true ∨
      candidate.containsUnresolvedEvidence = true))
    "Non-passing evidence cannot recommend pass" [.key "recommendation"]

/-- The shape is that of the judge's schema: the two list the same codes and bounds. -/
def AuthoritativeCandidateSchema.accepts (candidate : MultimodalJudgeCandidate) : Bool :=
  1 ≤ candidate.questionEvaluations.length && candidate.questionEvaluations.length ≤ 5 &&
    (candidate.questionEvaluations.all fun question =>
      isUuid question.questionId &&
        1 ≤ question.criterionResults.length && question.criterionResults.length ≤ 8 &&
        (question.criterionResults.all fun criterion =>
          isUuid criterion.criterionId && criterion.supportedPatchAnchorIds.length ≤ 5 &&
            criterion.supportedPatchAnchorIds.all isPatchAnchorId) &&
        question.contradictions.length ≤ 5 && question.uncertainty.length ≤ 5) &&
    candidate.warnings.length ≤ 20 &&
    (AuthoritativeCandidateSchema.issues candidate).isEmpty

/-! ## The evaluation -/

/-- The codes of the frame warnings. -/
def isFrameWarning : MultimodalWarningCode → Bool
  | .framesUnavailable | .framesTruncated | .frameMetadataInvalid | .frameCiphertextUnavailable
  | .frameCiphertextTooLarge | .frameCiphertextHashMismatch | .frameCiphertextInvalid
  | .frameDecryptionFailed | .frameJpegInvalid | .frameDimensionsInvalid => true
  | _ => false

inductive WorkflowOutcome where
  | reviewRequired
  deriving DecidableEq, Repr

structure AuthoritativeMultimodalEvaluation where
  attemptId : JsString
  revisionId : JsString
  headSha : JsString
  candidate : MultimodalJudgeCandidate
  invocationMetadata : MultimodalJudgeInvocationMetadata
  frameWarnings : List MultimodalWarningCode
  frameCount : Option ℕ
  workflowOutcome : WorkflowOutcome
  manualReviewRequired : Bool
  createdAt : JsDate
  deriving DecidableEq, Repr

def AuthoritativeMultimodalEvaluationV1Schema.issues
    (evaluation : AuthoritativeMultimodalEvaluation) : List Issue :=
  issueIf (¬ evaluation.frameWarnings.Nodup) "Authoritative frame warning codes must be unique"
    [.key "frameWarnings"] ++
  issueIf (JsDate.gt evaluation.invocationMetadata.completedAt evaluation.createdAt = true)
    "Provider completion cannot follow evaluation creation"
    [.key "invocationMetadata", .key "completedAt"]

def AuthoritativeMultimodalEvaluationV1Schema.accepts
    (evaluation : AuthoritativeMultimodalEvaluation) : Bool :=
  isUuid evaluation.attemptId && isUuid evaluation.revisionId && isGitSha evaluation.headSha &&
    AuthoritativeCandidateSchema.accepts evaluation.candidate &&
    MultimodalJudgeInvocationMetadataV1Schema.accepts evaluation.invocationMetadata &&
    evaluation.frameWarnings.all isFrameWarning && evaluation.frameWarnings.length ≤ 10 &&
    (evaluation.frameCount.all fun count => count ≤ 32) &&
    evaluation.workflowOutcome == .reviewRequired && evaluation.manualReviewRequired &&
    evaluation.createdAt.isSome &&
    (AuthoritativeMultimodalEvaluationV1Schema.issues evaluation).isEmpty

/-- What the schema returns: the names of the metadata are trimmed. -/
def AuthoritativeMultimodalEvaluation.trimmed (evaluation : AuthoritativeMultimodalEvaluation) :
    AuthoritativeMultimodalEvaluation :=
  { evaluation with invocationMetadata := evaluation.invocationMetadata.trimmed }

end Providers

end UnderstandProof
