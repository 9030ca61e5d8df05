import UnderstandProof.Foundation.Json
import UnderstandProof.Providers.JudgeCandidate
import UnderstandProof.Providers.JudgeMetadata

/-!
# The result of a judge

A candidate with the metadata of its invocation, the digests that bind the two to the
input, the result that stands in when no automated evaluation is available, and the
validation of what a provider returns. SHA-256 is a parameter.
-/

open Foundation Foundation.JsString

namespace UnderstandProof

namespace Providers

open Domain Media

/-! ## Digests -/

def SafeTextSource.text : SafeTextSource → JsString
  | storedProofQuestion => js "stored_proof_question"
  | storedRubric => js "stored_rubric"
  | boundedPatchAnchor => js "bounded_patch_anchor"
  | questionBoundTranscript => js "question_bound_transcript"

def FrameReasonCode.text : FrameReasonCode → JsString
  | questionTransition => js "question_transition"
  | answerMidpoint => js "answer_midpoint"
  | transcriptAlignment => js "transcript_alignment"
  | qualityCheck => js "quality_check"

def CriterionOutcome.text : CriterionOutcome → JsString
  | met => js "met"
  | notMet => js "not_met"
  | notEvaluable => js "not_evaluable"

def MultimodalCriterionReasonCode.text : MultimodalCriterionReasonCode → JsString
  | patchEvidenceSupportsCriterion => js "patch_evidence_supports_criterion"
  | patchEvidenceConflictsWithCriterion => js "patch_evidence_conflicts_with_criterion"
  | questionEvidenceInsufficient => js "question_evidence_insufficient"
  | questionEvidenceUnavailable => js "question_evidence_unavailable"

def MultimodalContradictionCode.text : MultimodalContradictionCode → JsString
  | transcriptConflictsWithPatchEvidence => js "transcript_conflicts_with_patch_evidence"
  | questionEvidenceIsInternallyInconsistent => js "question_evidence_is_internally_inconsistent"

def MultimodalUncertaintyCode.text : MultimodalUncertaintyCode → JsString
  | transcriptEvidenceIncomplete => js "transcript_evidence_incomplete"
  | frameEvidenceUnavailable => js "frame_evidence_unavailable"
  | criterionRequiresMaintainerAssessment => js "criterion_requires_maintainer_assessment"

def MultimodalPrivateReasonCode.text : MultimodalPrivateReasonCode → JsString
  | allStoredCriteriaSupported => js "all_stored_criteria_supported"
  | storedCriteriaNotFullySupported => js "stored_criteria_not_fully_supported"
  | automatedEvaluationUnavailable => js "automated_evaluation_unavailable"

def MultimodalWarningCode.text : MultimodalWarningCode → JsString
  | framesUnavailable => js "frames_unavailable"
  | framesTruncated => js "frames_truncated"
  | frameMetadataInvalid => js "frame_metadata_invalid"
  | frameCiphertextUnavailable => js "frame_ciphertext_unavailable"
  | frameCiphertextTooLarge => js "frame_ciphertext_too_large"
  | frameCiphertextHashMismatch => js "frame_ciphertext_hash_mismatch"
  | frameCiphertextInvalid => js "frame_ciphertext_invalid"
  | frameDecryptionFailed => js "frame_decryption_failed"
  | frameJpegInvalid => js "frame_jpeg_invalid"
  | frameDimensionsInvalid => js "frame_dimensions_invalid"
  | providerEvaluationUnavailable => js "provider_evaluation_unavailable"
  | localFakeManualReview => js "local_fake_manual_review"
  | questionTranscriptUnavailable => js "question_transcript_unavailable"
  | incoherentPassNormalizedDownward => js "incoherent_pass_normalized_downward"
  | incoherentRetryNormalizedDownward => js "incoherent_retry_normalized_downward"

def Recommendation.text : Recommendation → JsString
  | pass => js "pass"
  | retry => js "retry"
  | reviewRequired => js "review_required"

def SafeUntrustedText.json (text : SafeUntrustedText) : Json :=
  .obj [(js "trust", .str (js "untrusted")), (js "source", .str text.source.text),
    (js "content", .str text.content)]

def JudgeCriterion.json (criterion : JudgeCriterion) : Json :=
  .obj [(js "id", .str criterion.id), (js "description", criterion.description.json),
    (js "requiredTerms", .arr (criterion.requiredTerms.map SafeUntrustedText.json))]

def JudgeQuestion.json (question : JudgeQuestion) : Json :=
  .obj [(js "id", .str question.id), (js "promptVersion", .str (js "proof-questions-v1")),
    (js "prompt", question.prompt.json),
    (js "patchAnchorIds", .arr (question.patchAnchorIds.map .str)),
    (js "rubricVersion", .str (js "rubric-v1")),
    (js "criteria", .arr (question.criteria.map JudgeCriterion.json))]

def JudgePatchAnchor.json (anchor : JudgePatchAnchor) : Json :=
  .obj [(js "anchorId", .str anchor.anchorId), (js "filename", anchor.filename.json),
    (js "patch", anchor.patch.json)]

def JudgeTranscriptSegment.json (segment : JudgeTranscriptSegment) : Json :=
  .obj [(js "questionId", .str segment.questionId), (js "startMs", .num segment.startMs),
    (js "endMs", .num segment.endMs), (js "text", segment.text.json)]

/-- A frame with the digest of its bytes in their place. -/
def NormalizedInlineJudgeFrame.json (sha256 : Sha256) (frame : NormalizedInlineJudgeFrame) :
    Json :=
  .obj [(js "id", .str frame.id), (js "timestampMs", .num frame.timestampMs),
    (js "reasonCode", .str frame.reasonCode.text), (js "width", .num 320),
    (js "height", .num 180), (js "mediaType", .str (js "image/jpeg")),
    (js "jpegSha256", .str (sha256Hex sha256 frame.jpegBytes.bytes))]

def MultimodalJudgeProviderInput.json (sha256 : Sha256) (input : MultimodalJudgeProviderInput) :
    Json :=
  .obj [(js "schemaVersion", .str (js "1")),
    (js "inputVersion", .str (js "multimodal-judge-input-v1")),
    (js "headSha", .str input.headSha),
    (js "questions", .arr (input.questions.map JudgeQuestion.json)),
    (js "patchAnchors", .arr (input.patchAnchors.map JudgePatchAnchor.json)),
    (js "transcriptSegments", .arr (input.transcriptSegments.map JudgeTranscriptSegment.json)),
    (js "timing", .obj [(js "recordingDurationMs", .num input.recordingDurationMs)]),
    (js "frames", .arr (input.frames.map fun frame => frame.json sha256))]

def MultimodalCriterionResult.json (result : MultimodalCriterionResult) : Json :=
  .obj [(js "criterionId", .str result.criterionId), (js "result", .str result.result.text),
    (js "supportedPatchAnchorIds", .arr (result.supportedPatchAnchorIds.map .str)),
    (js "reason", .str result.reason.text)]

def MultimodalQuestionEvaluation.json (evaluation : MultimodalQuestionEvaluation) : Json :=
  .obj [(js "questionId", .str evaluation.questionId),
    (js "criterionResults",
      .arr (evaluation.criterionResults.map MultimodalCriterionResult.json)),
    (js "contradictions", .arr (evaluation.contradictions.map fun code => .str code.text)),
    (js "uncertainty", .arr (evaluation.uncertainty.map fun code => .str code.text))]

def MultimodalJudgeCandidate.json (candidate : MultimodalJudgeCandidate) : Json :=
  .obj [(js "schemaVersion", .str (js "1")),
    (js "candidateVersion", .str (js "multimodal-judge-candidate-v1")),
    (js "recommendation", .str candidate.recommendation.text),
    (js "questionEvaluations",
      .arr (candidate.questionEvaluations.map MultimodalQuestionEvaluation.json)),
    (js "privateReason", .str candidate.privateReason.text),
    (js "warnings", .arr (candidate.warnings.map fun code => .str code.text))]

def hashUnknown (sha256 : Sha256) (value : Json) : JsString :=
  sha256Hex sha256 (utf8Encode value.stableJson)

def hashProviderInput (sha256 : Sha256) (input : MultimodalJudgeProviderInput) : JsString :=
  hashUnknown sha256 (input.json sha256)

/-! ## Results and descriptors -/

structure MultimodalJudgeProviderResult where
  candidate : MultimodalJudgeCandidate
  metadata : MultimodalJudgeInvocationMetadata
  deriving DecidableEq, Repr

def MultimodalJudgeProviderResultV1Schema.accepts (result : MultimodalJudgeProviderResult) :
    Bool :=
  MultimodalJudgeCandidateV1Schema.accepts result.candidate &&
    MultimodalJudgeInvocationMetadataV1Schema.accepts result.metadata

def MultimodalJudgeProviderResult.trimmed (result : MultimodalJudgeProviderResult) :
    MultimodalJudgeProviderResult :=
  { result with metadata := result.metadata.trimmed }

structure InlineMultimodalJudgeDescriptor where
  provider : JsString
  model : JsString
  visionModel : JsString
  deriving DecidableEq, Repr

def InlineMultimodalJudgeDescriptorV1Schema.accepts
    (descriptor : InlineMultimodalJudgeDescriptor) : Bool :=
  isShortName (trim descriptor.provider) && isShortName (trim descriptor.model) &&
    isShortName (trim descriptor.visionModel)

def InlineMultimodalJudgeDescriptor.trimmed (descriptor : InlineMultimodalJudgeDescriptor) :
    InlineMultimodalJudgeDescriptor :=
  ⟨trim descriptor.provider, trim descriptor.model, trim descriptor.visionModel⟩

/-! ## The fallback -/

/-- Nothing is evaluated, and everything is left to the maintainer. -/
def fallbackEvaluation (question : JudgeQuestion) : MultimodalQuestionEvaluation where
  questionId := question.id
  criterionResults := question.criteria.map fun criterion =>
    { criterionId := criterion.id
      result := .notEvaluable
      supportedPatchAnchorIds := []
      reason := .questionEvidenceUnavailable }
  contradictions := []
  uncertainty := [.criterionRequiresMaintainerAssessment]

def fallbackCandidate (input : MultimodalJudgeProviderInput)
    (warningCodes : List MultimodalWarningCode) : MultimodalJudgeCandidate where
  recommendation := .reviewRequired
  questionEvaluations := input.questions.map fallbackEvaluation
  privateReason := .automatedEvaluationUnavailable
  warnings := warningCodes.eraseDups.take 20

def manualReviewFallbackCandidateV1 (input : MultimodalJudgeProviderInput)
    (warningCodes : List MultimodalWarningCode) : Except Caught MultimodalJudgeCandidate := do
  rejectIf (MultimodalJudgeProviderInputV1Schema.accepts input = false)
    (.providerError invalidInputError)
  let candidate := fallbackCandidate input warningCodes
  rejectIf (MultimodalJudgeCandidateV1Schema.accepts candidate = false) .zodError
  return candidate

def fallbackMetadata (sha256 : Sha256) (input : MultimodalJudgeProviderInput)
    (descriptor : InlineMultimodalJudgeDescriptor) (candidate : MultimodalJudgeCandidate)
    (completedAt : JsDate) (diagnostics : Option JudgeEvaluateFailureDiagnostics) :
    MultimodalJudgeInvocationMetadata where
  provider := descriptor.provider
  model := descriptor.model
  inputHash := hashProviderInput sha256 input
  outputHash := hashUnknown sha256 candidate.json
  tokenUsage := none
  latencyMs := (diagnostics.map fun parsed => parsed.latencyMs).getD 0
  invocationCount := (diagnostics.map fun parsed => parsed.invocationCount).getD 0
  outcome := .fallback
  degraded := true
  completedAt
  failureDiagnostics := diagnostics

def manualReviewFallbackMultimodalJudgeResultV1 (sha256 : Sha256)
    (input : MultimodalJudgeProviderInput) (descriptor : InlineMultimodalJudgeDescriptor)
    (warningCodes : List MultimodalWarningCode) (completedAt : JsDate)
    (diagnostics : Option JudgeEvaluateFailureDiagnostics) :
    Except Caught MultimodalJudgeProviderResult := do
  rejectIf (MultimodalJudgeProviderInputV1Schema.accepts input = false ∨
      InlineMultimodalJudgeDescriptorV1Schema.accepts descriptor = false ∨
      completedAt.isSome = false ∨
      diagnostics.all JudgeEvaluateFailureDiagnosticsV1Schema.accepts = false)
    (.providerError invalidInputError)
  let candidate ← manualReviewFallbackCandidateV1 input warningCodes
  let metadata := fallbackMetadata sha256 input descriptor.trimmed candidate completedAt
    diagnostics
  let result : MultimodalJudgeProviderResult := ⟨candidate, metadata⟩
  rejectIf (MultimodalJudgeProviderResultV1Schema.accepts result = false) .zodError
  return result.trimmed

/-! ## Validation of a result -/

/-- The descriptors are one or two; a single one stands for a list of one. -/
def normalizeJudgeDescriptors (descriptors : List InlineMultimodalJudgeDescriptor) :
    Option (List InlineMultimodalJudgeDescriptor) :=
  if descriptors.length = 0 ∨ 2 < descriptors.length then none
  else if descriptors.all InlineMultimodalJudgeDescriptorV1Schema.accepts then
    some (descriptors.map InlineMultimodalJudgeDescriptor.trimmed)
  else none

def validateMultimodalJudgeProviderResultV1 (sha256 : Sha256)
    (rawResult : MultimodalJudgeProviderResult) (input : MultimodalJudgeProviderInput)
    (rawDescriptors : List InlineMultimodalJudgeDescriptor) :
    Except Caught MultimodalJudgeProviderResult := do
  rejectIf (MultimodalJudgeProviderResultV1Schema.accepts rawResult = false ∨
      MultimodalJudgeProviderInputV1Schema.accepts input = false)
    (.providerError invalidOutputError)
  match normalizeJudgeDescriptors rawDescriptors with
  | none => throw (.providerError invalidOutputError)
  | some descriptors =>
      let result := rawResult.trimmed
      let candidate ← validateMultimodalJudgeCandidateV1 result.candidate input
      rejectIf (result.metadata.inputHash ≠ hashProviderInput sha256 input ∨
          result.metadata.outputHash ≠ hashUnknown sha256 candidate.json)
        (.providerError invalidOutputError)
      rejectIf (¬ ∃ descriptor ∈ descriptors, result.metadata.provider = descriptor.provider ∧
          result.metadata.model ∈ [descriptor.model, descriptor.visionModel])
        (.providerError invalidOutputError)
      return ⟨candidate, result.metadata⟩

/-! ## The local fake -/

structure ProviderContext where
  requestId : JsString
  attemptId : JsString
  deadlineAt : JsDate
  deriving DecidableEq, Repr

def ProviderContextV1Schema.accepts (context : ProviderContext) : Bool :=
  isUuid context.requestId && isUuid context.attemptId && context.deadlineAt.isSome

namespace LocalFakeInlineMultimodalJudgeProvider

def descriptor : InlineMultimodalJudgeDescriptor where
  provider := js "local-fake"
  model := js "deterministic-multimodal-review-v1"
  visionModel := js "deterministic-multimodal-review-v1"

/-- The clock is read for the deadline and then for the completion. -/
def evaluate (sha256 : Sha256) (input : MultimodalJudgeProviderInput)
    (context : ProviderContext) (now completedAt : JsDate) :
    Except Caught MultimodalJudgeProviderResult := do
  rejectIf (MultimodalJudgeProviderInputV1Schema.accepts input = false ∨
      ProviderContextV1Schema.accepts context = false)
    (.providerError invalidInputError)
  rejectIf (JsDate.le context.deadlineAt now = true) (.providerError deadlineError)
  manualReviewFallbackMultimodalJudgeResultV1 sha256 input descriptor [.localFakeManualReview]
    completedAt none

end LocalFakeInlineMultimodalJudgeProvider

end Providers

end UnderstandProof
