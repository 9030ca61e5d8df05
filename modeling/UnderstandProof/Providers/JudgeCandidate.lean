import UnderstandProof.Foundation.Except
import UnderstandProof.Foundation.OrderedSet
import UnderstandProof.Providers.Errors
import UnderstandProof.Providers.JudgeSchemas

/-!
# Validation of a judge's candidate

A candidate is scanned question by question and criterion by criterion for the ways in
which it misses its contract. Three of the issues only concern the recommendation and
its private reason: a candidate with no other issue is repaired, any other issue is
fatal.
-/

open Foundation

namespace UnderstandProof

namespace Providers

/-! ## The scan -/

/-- The variables of the loop over the results of one evaluation. -/
structure CriterionScan where
  issues : List ProviderValidationIssueCode
  seenCriteria : List JsString
  hasNotMetResult : Bool
  hasNotEvaluableResult : Bool

def scanCriterion (question : JudgeQuestion) (scan : CriterionScan)
    (result : MultimodalCriterionResult) : CriterionScan :=
  let issues := addIf scan.issues (result.criterionId ∉ question.criterionIds) .unknownCriterion
  let issues := addIf issues (result.criterionId ∈ scan.seenCriteria) .duplicateCriterion
  let issues := addIf issues
    (∃ anchorId ∈ result.supportedPatchAnchorIds, anchorId ∉ question.patchAnchorIds)
    .foreignAnchor
  let issues := addIf issues
    (result.result ≠ .notEvaluable ∧ result.supportedPatchAnchorIds.length = 0)
    .evaluableWithoutAnchor
  let issues := addIf issues
    (result.result = .notEvaluable ∧ result.supportedPatchAnchorIds.length ≠ 0)
    .notEvaluableWithAnchor
  let issues := addIf issues
    (result.result = .met ∧ result.reason ≠ .patchEvidenceSupportsCriterion ∨
      result.result = .notMet ∧ result.reason ≠ .patchEvidenceConflictsWithCriterion)
    .resultReasonMismatch
  let issues := addIf issues
    (result.result = .notEvaluable ∧ result.reason ≠ .questionEvidenceInsufficient ∧
      result.reason ≠ .questionEvidenceUnavailable)
    .notEvaluableReasonMismatch
  { issues
    seenCriteria := scan.seenCriteria ++ [result.criterionId]
    hasNotMetResult := scan.hasNotMetResult || result.result == .notMet
    hasNotEvaluableResult := scan.hasNotEvaluableResult || result.result == .notEvaluable }

/-- The variables of the loop over the evaluations. -/
structure EvaluationScan where
  issues : List ProviderValidationIssueCode
  seenQuestions : List JsString
  hasNotMetResult : Bool
  hasNotEvaluableResult : Bool

def scanEvaluation (input : MultimodalJudgeProviderInput) (scan : EvaluationScan)
    (evaluation : MultimodalQuestionEvaluation) : EvaluationScan :=
  match input.question? evaluation.questionId with
  | none => { scan with issues := addIf scan.issues True .unknownQuestion }
  | some question =>
      let issues := addIf scan.issues (evaluation.questionId ∈ scan.seenQuestions)
        .duplicateQuestion
      let criteria := evaluation.criterionResults.foldl (scanCriterion question)
        ⟨issues, [], scan.hasNotMetResult, scan.hasNotEvaluableResult⟩
      let issues := question.criterionIds.foldl
        (fun issues criterionId =>
          addIf issues (criterionId ∉ criteria.seenCriteria) .missingCriterion)
        criteria.issues
      { issues
        seenQuestions := scan.seenQuestions ++ [evaluation.questionId]
        hasNotMetResult := criteria.hasNotMetResult
        hasNotEvaluableResult := criteria.hasNotEvaluableResult }

/-- The scan of all the evaluations, with the questions that are missing. -/
def scanEvaluations (input : MultimodalJudgeProviderInput)
    (evaluations : List MultimodalQuestionEvaluation) : EvaluationScan :=
  let scan := evaluations.foldl (scanEvaluation input) ⟨[], [], false, false⟩
  { scan with
    issues := input.questionIds.foldl
      (fun issues questionId => addIf issues (questionId ∉ scan.seenQuestions) .missingQuestion)
      scan.issues }

/-! ## The recommendation -/

def MultimodalJudgeCandidate.hasUnresolvedEvidence (candidate : MultimodalJudgeCandidate) :
    Bool :=
  candidate.questionEvaluations.any fun evaluation =>
    0 < evaluation.contradictions.length || 0 < evaluation.uncertainty.length

def expectedPrivateReason : Recommendation → MultimodalPrivateReasonCode
  | .pass => .allStoredCriteriaSupported
  | _ => .storedCriteriaNotFullySupported

def normalizableIssues : List ProviderValidationIssueCode :=
  [.passWithUnresolvedOrNonpassing, .retryWithUnresolvedEvidence, .privateReasonMismatch]

/-- The issues of a candidate, those of its recommendation last. -/
def candidateIssues (scan : EvaluationScan) (candidate : MultimodalJudgeCandidate) :
    List ProviderValidationIssueCode :=
  let issues := addIf scan.issues
    (candidate.recommendation = .pass ∧ (scan.hasNotMetResult = true ∨
      scan.hasNotEvaluableResult = true ∨ candidate.hasUnresolvedEvidence = true))
    .passWithUnresolvedOrNonpassing
  let issues := addIf issues
    (candidate.recommendation = .retry ∧ (scan.hasNotEvaluableResult = true ∨
      candidate.hasUnresolvedEvidence = true))
    .retryWithUnresolvedEvidence
  addIf issues (candidate.privateReason ≠ expectedPrivateReason candidate.recommendation)
    .privateReasonMismatch

def normalizedRecommendation (scan : EvaluationScan) (candidate : MultimodalJudgeCandidate) :
    Recommendation :=
  if scan.hasNotEvaluableResult || candidate.hasUnresolvedEvidence then .reviewRequired
  else if scan.hasNotMetResult then .retry
  else candidate.recommendation

def normalizationWarning (submitted normalized : Recommendation) :
    Option MultimodalWarningCode :=
  if submitted = .pass ∧ normalized ≠ .pass then some .incoherentPassNormalizedDownward
  else if submitted = .retry ∧ normalized = .reviewRequired then
    some .incoherentRetryNormalizedDownward
  else none

def normalizeCandidate (scan : EvaluationScan) (candidate : MultimodalJudgeCandidate) :
    MultimodalJudgeCandidate :=
  let recommendation := normalizedRecommendation scan candidate
  { candidate with
    recommendation
    privateReason := expectedPrivateReason recommendation
    warnings := match normalizationWarning candidate.recommendation recommendation with
      | none => candidate.warnings
      | some warning =>
          (warning :: candidate.warnings.filter fun other => other ≠ warning).take 20 }

def validateMultimodalJudgeCandidateV1 (candidate : MultimodalJudgeCandidate)
    (input : MultimodalJudgeProviderInput) : Except Caught MultimodalJudgeCandidate := do
  rejectIf (MultimodalJudgeCandidateV1Schema.accepts candidate = false ∨
      MultimodalJudgeProviderInputV1Schema.accepts input = false)
    (.candidateValidationError ⟨.schemaInvalid, [.schemaInvalid]⟩)
  let scan := scanEvaluations input candidate.questionEvaluations
  let issues := candidateIssues scan candidate
  if 0 < issues.length ∧ ∀ issue ∈ issues, issue ∈ normalizableIssues then
    let normalized := normalizeCandidate scan candidate
    rejectIf (MultimodalJudgeCandidateV1Schema.accepts normalized = false) .zodError
    return normalized
  else
    rejectIf (0 < issues.length) (.candidateValidationError ⟨.bindingInvalid, issues⟩)
    return candidate

end Providers

end UnderstandProof
