import UnderstandProof.Domain.Primitives
import UnderstandProof.Foundation.Except
import UnderstandProof.Foundation.JsonText

/-!
# Schemas of the multimodal judge

The input that a provider is given and the candidate that it returns, with the
checks of their schemas. The literal fields of a record and the trust label of a text
are left out: a schema accepts one value for them.
-/

open Foundation Foundation.JsString

namespace UnderstandProof

namespace Providers

open Domain

/-! ## The input -/

inductive SafeTextSource where
  | storedProofQuestion
  | storedRubric
  | boundedPatchAnchor
  | questionBoundTranscript
  deriving DecidableEq, Repr

structure SafeUntrustedText where
  source : SafeTextSource
  content : JsString
  deriving DecidableEq, Repr

/-- The schema refined to one source. -/
def SafeUntrustedTextV1Schema.accepts (source : SafeTextSource) (text : SafeUntrustedText) :
    Bool :=
  text.content.length ≤ 100000 && text.source == source

/-- `/^a[0-9]+$/u` -/
def isPatchAnchorId (value : JsString) : Bool :=
  value.head? == some 0x61 && 2 ≤ value.length && value.tail.all Json.isDigit

structure JudgeCriterion where
  id : JsString
  description : SafeUntrustedText
  requiredTerms : List SafeUntrustedText
  deriving DecidableEq, Repr

def JudgeCriterionV1Schema.accepts (criterion : JudgeCriterion) : Bool :=
  isUuid criterion.id &&
    SafeUntrustedTextV1Schema.accepts .storedRubric criterion.description &&
    1 ≤ criterion.requiredTerms.length && criterion.requiredTerms.length ≤ 8 &&
    criterion.requiredTerms.all (SafeUntrustedTextV1Schema.accepts .storedRubric)

structure JudgeQuestion where
  id : JsString
  prompt : SafeUntrustedText
  patchAnchorIds : List JsString
  criteria : List JudgeCriterion
  deriving DecidableEq, Repr

def JudgeQuestion.criterionIds (question : JudgeQuestion) : List JsString :=
  question.criteria.map fun criterion => criterion.id

/-- The refinement; a set has fewer elements than the list it comes from when the
list repeats one. -/
def JudgeQuestionV1Schema.issues (question : JudgeQuestion) : List Issue :=
  issueIf (¬ question.patchAnchorIds.Nodup) "Question anchors must be unique"
    [.key "patchAnchorIds"] ++
  issueIf (¬ question.criterionIds.Nodup) "Question criteria must be unique" [.key "criteria"]

def JudgeQuestionV1Schema.accepts (question : JudgeQuestion) : Bool :=
  isUuid question.id &&
    SafeUntrustedTextV1Schema.accepts .storedProofQuestion question.prompt &&
    1 ≤ question.patchAnchorIds.length && question.patchAnchorIds.length ≤ 5 &&
    question.patchAnchorIds.all isPatchAnchorId &&
    1 ≤ question.criteria.length && question.criteria.length ≤ 8 &&
    question.criteria.all JudgeCriterionV1Schema.accepts &&
    (JudgeQuestionV1Schema.issues question).isEmpty

structure JudgePatchAnchor where
  anchorId : JsString
  filename : SafeUntrustedText
  patch : SafeUntrustedText
  deriving DecidableEq, Repr

def JudgePatchAnchorV1Schema.accepts (anchor : JudgePatchAnchor) : Bool :=
  isPatchAnchorId anchor.anchorId &&
    SafeUntrustedTextV1Schema.accepts .boundedPatchAnchor anchor.filename &&
    SafeUntrustedTextV1Schema.accepts .boundedPatchAnchor anchor.patch

structure JudgeTranscriptSegment where
  questionId : JsString
  startMs : ℕ
  endMs : ℕ
  text : SafeUntrustedText
  deriving DecidableEq, Repr

def JudgeTranscriptSegmentV1Schema.accepts (segment : JudgeTranscriptSegment) : Bool :=
  isUuid segment.questionId && segment.startMs ≤ maxSafeInteger &&
    1 ≤ segment.endMs && segment.endMs ≤ maxSafeInteger &&
    SafeUntrustedTextV1Schema.accepts .questionBoundTranscript segment.text &&
    segment.startMs < segment.endMs

inductive FrameReasonCode where
  | questionTransition
  | answerMidpoint
  | transcriptAlignment
  | qualityCheck
  deriving DecidableEq, Repr

/-- A `Uint8Array`: which one it is, and its bytes. -/
structure JpegBuffer where
  address : ℕ
  bytes : List UInt8
  deriving DecidableEq, Repr

structure NormalizedInlineJudgeFrame where
  id : JsString
  timestampMs : ℕ
  reasonCode : FrameReasonCode
  jpegBytes : JpegBuffer
  deriving DecidableEq, Repr

def maxInlineFrameBytes : ℕ := 512 * 1024
def maxInlineFrameTotalBytes : ℕ := 2 * 1024 * 1024

def NormalizedInlineJudgeFrameV1Schema.accepts (frame : NormalizedInlineJudgeFrame) : Bool :=
  isUuid frame.id && frame.timestampMs ≤ maxSafeInteger &&
    4 ≤ frame.jpegBytes.bytes.length && frame.jpegBytes.bytes.length ≤ maxInlineFrameBytes

structure MultimodalJudgeProviderInput where
  headSha : JsString
  questions : List JudgeQuestion
  patchAnchors : List JudgePatchAnchor
  transcriptSegments : List JudgeTranscriptSegment
  recordingDurationMs : ℕ
  frames : List NormalizedInlineJudgeFrame
  deriving DecidableEq, Repr

namespace MultimodalJudgeProviderInput

def questionIds (input : MultimodalJudgeProviderInput) : List JsString :=
  input.questions.map fun question => question.id

def anchorIds (input : MultimodalJudgeProviderInput) : List JsString :=
  input.patchAnchors.map fun anchor => anchor.anchorId

def frameBytes (input : MultimodalJudgeProviderInput) : ℕ :=
  (input.frames.map fun frame => frame.jpegBytes.bytes.length).sum

end MultimodalJudgeProviderInput

def MultimodalJudgeProviderInputV1Schema.issues (input : MultimodalJudgeProviderInput) :
    List Issue :=
  issueIf (¬ input.questionIds.Nodup) "Stored question IDs must be unique"
    [.key "questions"] ++
  issueIf (¬ input.anchorIds.Nodup) "Patch anchors must be unique" [.key "patchAnchors"] ++
  (input.questions.zipIdx.flatMap fun entry =>
    issueIf (∃ anchorId ∈ entry.1.patchAnchorIds, anchorId ∉ input.anchorIds)
      "Question references an unavailable patch anchor"
      [.key "questions", .index entry.2, .key "patchAnchorIds"]) ++
  (input.transcriptSegments.zipIdx.flatMap fun entry =>
    issueIf (entry.1.questionId ∉ input.questionIds ∨ input.recordingDurationMs < entry.1.endMs)
      "Transcript segment is not bound to a stored question"
      [.key "transcriptSegments", .index entry.2]) ++
  issueIf ((∃ frame ∈ input.frames, input.recordingDurationMs < frame.timestampMs) ∨
      maxInlineFrameTotalBytes < input.frameBytes)
    "Inline frames exceed their timing or byte budget" [.key "frames"] ++
  issueIf (¬ (input.frames.map fun frame => frame.id).Nodup) "Inline frame IDs must be unique"
    [.key "frames"]

/-- `30 * 60 * 1_000` -/
def maxRecordingDurationMs : ℕ := 30 * 60 * 1000

def MultimodalJudgeProviderInputV1Schema.accepts (input : MultimodalJudgeProviderInput) : Bool :=
  isGitSha input.headSha &&
    1 ≤ input.questions.length && input.questions.length ≤ 5 &&
    input.questions.all JudgeQuestionV1Schema.accepts &&
    1 ≤ input.patchAnchors.length && input.patchAnchors.length ≤ 25 &&
    input.patchAnchors.all JudgePatchAnchorV1Schema.accepts &&
    input.transcriptSegments.length ≤ 1000 &&
    input.transcriptSegments.all JudgeTranscriptSegmentV1Schema.accepts &&
    1 ≤ input.recordingDurationMs && input.recordingDurationMs ≤ maxRecordingDurationMs &&
    input.frames.length ≤ 4 && input.frames.all NormalizedInlineJudgeFrameV1Schema.accepts &&
    (MultimodalJudgeProviderInputV1Schema.issues input).isEmpty

/-! ## The candidate -/

inductive CriterionOutcome where
  | met
  | notMet
  | notEvaluable
  deriving DecidableEq, Repr

inductive MultimodalCriterionReasonCode where
  | patchEvidenceSupportsCriterion
  | patchEvidenceConflictsWithCriterion
  | questionEvidenceInsufficient
  | questionEvidenceUnavailable
  deriving DecidableEq, Repr

inductive MultimodalContradictionCode where
  | transcriptConflictsWithPatchEvidence
  | questionEvidenceIsInternallyInconsistent
  deriving DecidableEq, Repr

inductive MultimodalUncertaintyCode where
  | transcriptEvidenceIncomplete
  | frameEvidenceUnavailable
  | criterionRequiresMaintainerAssessment
  deriving DecidableEq, Repr

inductive MultimodalPrivateReasonCode where
  | allStoredCriteriaSupported
  | storedCriteriaNotFullySupported
  | automatedEvaluationUnavailable
  deriving DecidableEq, Repr

inductive MultimodalWarningCode where
  | framesUnavailable
  | framesTruncated
  | frameMetadataInvalid
  | frameCiphertextUnavailable
  | frameCiphertextTooLarge
  | frameCiphertextHashMismatch
  | frameCiphertextInvalid
  | frameDecryptionFailed
  | frameJpegInvalid
  | frameDimensionsInvalid
  | providerEvaluationUnavailable
  | localFakeManualReview
  | questionTranscriptUnavailable
  | incoherentPassNormalizedDownward
  | incoherentRetryNormalizedDownward
  deriving DecidableEq, Repr

inductive Recommendation where
  | pass
  | retry
  | reviewRequired
  deriving DecidableEq, Repr

structure MultimodalCriterionResult where
  criterionId : JsString
  result : CriterionOutcome
  supportedPatchAnchorIds : List JsString
  reason : MultimodalCriterionReasonCode
  deriving DecidableEq, Repr

def MultimodalCriterionResultV1Schema.accepts (result : MultimodalCriterionResult) : Bool :=
  isUuid result.criterionId && result.supportedPatchAnchorIds.length ≤ 5 &&
    result.supportedPatchAnchorIds.all isPatchAnchorId

structure MultimodalQuestionEvaluation where
  questionId : JsString
  criterionResults : List MultimodalCriterionResult
  contradictions : List MultimodalContradictionCode
  uncertainty : List MultimodalUncertaintyCode
  deriving DecidableEq, Repr

def MultimodalQuestionEvaluationV1Schema.accepts (evaluation : MultimodalQuestionEvaluation) :
    Bool :=
  isUuid evaluation.questionId &&
    1 ≤ evaluation.criterionResults.length && evaluation.criterionResults.length ≤ 8 &&
    evaluation.criterionResults.all MultimodalCriterionResultV1Schema.accepts &&
    evaluation.contradictions.length ≤ 5 && evaluation.uncertainty.length ≤ 5

structure MultimodalJudgeCandidate where
  recommendation : Recommendation
  questionEvaluations : List MultimodalQuestionEvaluation
  privateReason : MultimodalPrivateReasonCode
  warnings : List MultimodalWarningCode
  deriving DecidableEq, Repr

def MultimodalJudgeCandidateV1Schema.accepts (candidate : MultimodalJudgeCandidate) : Bool :=
  1 ≤ candidate.questionEvaluations.length && candidate.questionEvaluations.length ≤ 5 &&
    candidate.questionEvaluations.all MultimodalQuestionEvaluationV1Schema.accepts &&
    candidate.warnings.length ≤ 20

/-! ## What an accepted input is -/

theorem JudgeQuestionV1Schema.issues_eq_nil_iff {question : JudgeQuestion} :
    JudgeQuestionV1Schema.issues question = [] ↔
      question.patchAnchorIds.Nodup ∧ question.criterionIds.Nodup := by
  simp only [JudgeQuestionV1Schema.issues, List.append_eq_nil_iff, issueIf_eq_nil, not_not]

/-- The question of an id. -/
def MultimodalJudgeProviderInput.question? (input : MultimodalJudgeProviderInput)
    (questionId : JsString) : Option JudgeQuestion :=
  input.questions.find? fun question => question.id == questionId

end Providers

end UnderstandProof
