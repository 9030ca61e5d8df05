import UnderstandProof.Foundation.OrderedSet
import UnderstandProof.Media.Schemas
import UnderstandProof.Providers.JudgeSchemas

/-!
# The input of an evaluation

What the worker stores for an evaluation: the questions with their rubric, the patch
evidence, the transcript of the recording and the frames that were selected, with the
checks of their schemas.
-/

open Foundation Foundation.JsString

namespace UnderstandProof

namespace Providers

open Domain

/-! ## Untrusted data -/

inductive UntrustedSource where
  | pullRequestFilename
  | pullRequestPatch
  | pullRequestComment
  | pullRequestReadme
  | transcript
  | contributorAnswer
  deriving DecidableEq, Repr

structure UntrustedData where
  source : UntrustedSource
  content : JsString
  deriving DecidableEq, Repr

/-- The schema refined to one source. -/
def UntrustedDataSchema.accepts (source : UntrustedSource) (data : UntrustedData) : Bool :=
  data.content.length ≤ 100000 && data.source == source

/-! ## The transcript -/

inductive Speaker where
  | contributor
  | unknown
  deriving DecidableEq, Repr

structure TranscriptSegment where
  id : JsString
  questionId : Option JsString
  startMs : ℕ
  endMs : ℕ
  speaker : Speaker
  text : UntrustedData
  deriving DecidableEq, Repr

def TranscriptSegmentV1Schema.accepts (segment : TranscriptSegment) : Bool :=
  isUuid segment.id && segment.questionId.all isUuid && segment.startMs ≤ maxSafeInteger &&
    1 ≤ segment.endMs && segment.endMs ≤ maxSafeInteger &&
    UntrustedDataSchema.accepts .transcript segment.text && segment.startMs < segment.endMs

structure Transcript where
  id : JsString
  attemptId : JsString
  provider : JsString
  model : JsString
  language : JsString
  durationMs : ℕ
  sourceSha256 : JsString
  segments : List TranscriptSegment
  createdAt : JsDate
  deriving DecidableEq, Repr

def isLowerLetter (c : UInt16) : Bool := 0x61 ≤ c && c ≤ 0x7a

def isUpperLetter (c : UInt16) : Bool := 0x41 ≤ c && c ≤ 0x5a

/-- `/^[a-z]{2,3}(?:-[A-Z]{2})?$/` -/
def isLanguage (value : JsString) : Bool :=
  let primary := value.takeWhile isLowerLetter
  2 ≤ primary.length && primary.length ≤ 3 &&
    match value.drop primary.length with
    | [] => true
    | [hyphen, c, d] => hyphen == 0x2d && isUpperLetter c && isUpperLetter d
    | _ => false

/-- The end of the segment before an index, or 0. -/
def previousEnd (segments : List TranscriptSegment) (index : ℕ) : ℕ :=
  (((segments.take index).getLast?).map fun segment => segment.endMs).getD 0

def TranscriptV1Schema.issues (transcript : Transcript) : List Issue :=
  transcript.segments.zipIdx.flatMap fun entry =>
    issueIf (entry.1.id ∈ (transcript.segments.take entry.2).map fun segment => segment.id)
      "Transcript segment IDs must be unique" [.key "segments", .index entry.2, .key "id"] ++
    issueIf (entry.1.startMs < previousEnd transcript.segments entry.2)
      "Transcript segments must be ordered and non-overlapping"
      [.key "segments", .index entry.2, .key "startMs"] ++
    issueIf (transcript.durationMs < entry.1.endMs) "Transcript segment exceeds media duration"
      [.key "segments", .index entry.2, .key "endMs"]

def TranscriptV1Schema.accepts (transcript : Transcript) : Bool :=
  isUuid transcript.id && isUuid transcript.attemptId &&
    1 ≤ transcript.provider.length && transcript.provider.length ≤ 100 &&
    1 ≤ transcript.model.length && transcript.model.length ≤ 100 &&
    isLanguage transcript.language &&
    1 ≤ transcript.durationMs && transcript.durationMs ≤ maxRecordingDurationMs &&
    Media.Sha256Schema.accepts transcript.sourceSha256 &&
    1 ≤ transcript.segments.length && transcript.segments.length ≤ 1000 &&
    transcript.segments.all TranscriptSegmentV1Schema.accepts && transcript.createdAt.isSome &&
    (TranscriptV1Schema.issues transcript).isEmpty

/-! ## The frame selection -/

structure FrameSelectionItem where
  id : JsString
  timestampMs : ℕ
  reasonCode : FrameReasonCode
  reason : JsString
  encryptedDerivativeRef : JsString
  ciphertextSha256 : JsString
  width : ℕ
  height : ℕ
  deriving DecidableEq, Repr

def FrameSelectionItemV1Schema.accepts (frame : FrameSelectionItem) : Bool :=
  isUuid frame.id && frame.timestampMs ≤ maxSafeInteger &&
    1 ≤ frame.reason.length && frame.reason.length ≤ 300 &&
    isUuid frame.encryptedDerivativeRef && Media.Sha256Schema.accepts frame.ciphertextSha256 &&
    1 ≤ frame.width && frame.width ≤ 16384 && 1 ≤ frame.height && frame.height ≤ 16384

structure FrameSelectionMetadata where
  attemptId : JsString
  recordingDurationMs : ℕ
  frames : List FrameSelectionItem
  deriving DecidableEq, Repr

def FrameSelectionMetadataV1Schema.issues (selection : FrameSelectionMetadata) : List Issue :=
  selection.frames.zipIdx.flatMap fun entry =>
    issueIf (entry.1.id ∈ (selection.frames.take entry.2).map fun frame => frame.id)
      "Frame IDs must be unique" [.key "frames", .index entry.2, .key "id"] ++
    issueIf (selection.recordingDurationMs < entry.1.timestampMs)
      "Frame timestamp exceeds recording duration"
      [.key "frames", .index entry.2, .key "timestampMs"]

def FrameSelectionMetadataV1Schema.accepts (selection : FrameSelectionMetadata) : Bool :=
  isUuid selection.attemptId &&
    1 ≤ selection.recordingDurationMs &&
    selection.recordingDurationMs ≤ maxRecordingDurationMs &&
    selection.frames.length ≤ 12 && selection.frames.all FrameSelectionItemV1Schema.accepts &&
    (FrameSelectionMetadataV1Schema.issues selection).isEmpty

/-! ## Questions and evidence -/

structure EvaluationRubricCriterion where
  id : JsString
  description : JsString
  requiredTerms : List JsString
  deriving DecidableEq, Repr

/-- The required terms are trimmed first. -/
def EvaluationRubricCriterion.trimmed (criterion : EvaluationRubricCriterion) :
    EvaluationRubricCriterion :=
  { criterion with requiredTerms := criterion.requiredTerms.map trim }

def EvaluationRubricCriterionV1Schema.accepts (criterion : EvaluationRubricCriterion) : Bool :=
  isUuid criterion.id && 5 ≤ criterion.description.length &&
    criterion.description.length ≤ 500 &&
    1 ≤ criterion.requiredTerms.length && criterion.requiredTerms.length ≤ 8 &&
    criterion.requiredTerms.all fun term => 2 ≤ (trim term).length && (trim term).length ≤ 80

structure EvaluationQuestion where
  id : JsString
  prompt : JsString
  patchAnchorIds : List JsString
  rubric : List EvaluationRubricCriterion
  deriving DecidableEq, Repr

def EvaluationQuestion.trimmed (question : EvaluationQuestion) : EvaluationQuestion :=
  { question with rubric := question.rubric.map EvaluationRubricCriterion.trimmed }

def EvaluationQuestion.criterionIds (question : EvaluationQuestion) : List JsString :=
  question.rubric.map fun criterion => criterion.id

def EvaluationQuestionV1Schema.issues (question : EvaluationQuestion) : List Issue :=
  issueIf (¬ question.patchAnchorIds.Nodup) "Patch anchor IDs must be unique per question"
    [.key "patchAnchorIds"] ++
  issueIf (¬ question.criterionIds.Nodup) "Rubric criterion IDs must be unique per question"
    [.key "rubric"]

def EvaluationQuestionV1Schema.accepts (question : EvaluationQuestion) : Bool :=
  isUuid question.id && 20 ≤ question.prompt.length && question.prompt.length ≤ 1000 &&
    1 ≤ question.patchAnchorIds.length && question.patchAnchorIds.length ≤ 5 &&
    question.patchAnchorIds.all isPatchAnchorId &&
    1 ≤ question.rubric.length && question.rubric.length ≤ 8 &&
    question.rubric.all EvaluationRubricCriterionV1Schema.accepts &&
    (EvaluationQuestionV1Schema.issues question).isEmpty

structure PatchEvidence where
  anchorId : JsString
  filename : UntrustedData
  patch : UntrustedData
  deriving DecidableEq, Repr

def PatchEvidenceV1Schema.accepts (evidence : PatchEvidence) : Bool :=
  isPatchAnchorId evidence.anchorId &&
    UntrustedDataSchema.accepts .pullRequestFilename evidence.filename &&
    UntrustedDataSchema.accepts .pullRequestPatch evidence.patch

/-! ## The input -/

structure ProofEvaluationInput where
  attemptId : JsString
  revisionId : JsString
  headSha : JsString
  questions : List EvaluationQuestion
  patchEvidence : List PatchEvidence
  transcript : Transcript
  frameSelection : FrameSelectionMetadata
  deriving DecidableEq, Repr

namespace ProofEvaluationInput

/-- What the schema returns: the required terms are trimmed. -/
def trimmed (input : ProofEvaluationInput) : ProofEvaluationInput :=
  { input with questions := input.questions.map EvaluationQuestion.trimmed }

def questionIds (input : ProofEvaluationInput) : List JsString :=
  input.questions.map fun question => question.id

def evidenceAnchors (input : ProofEvaluationInput) : List JsString :=
  input.patchEvidence.map fun evidence => evidence.anchorId

end ProofEvaluationInput

/-- An accepted anchor as it stands in a message. -/
def anchorText (anchorId : JsString) : String :=
  String.ofList (anchorId.map fun c => Char.ofNat c.toNat)

def ProofEvaluationInputV1Schema.issues (input : ProofEvaluationInput) : List Issue :=
  issueIf (input.transcript.attemptId ≠ input.attemptId)
    "Transcript belongs to a different attempt" [.key "transcript", .key "attemptId"] ++
  issueIf (input.frameSelection.attemptId ≠ input.attemptId)
    "Frame selection belongs to a different attempt" [.key "frameSelection", .key "attemptId"] ++
  issueIf (¬ input.questionIds.Nodup) "Evaluation question IDs must be unique"
    [.key "questions"] ++
  (input.transcript.segments.zipIdx.flatMap fun entry =>
    issueIf (∃ questionId ∈ entry.1.questionId, questionId ∉ input.questionIds)
      "Transcript references an unknown question ID"
      [.key "transcript", .key "segments", .index entry.2, .key "questionId"]) ++
  issueIf (¬ input.evidenceAnchors.Nodup) "Patch evidence anchor IDs must be unique"
    [.key "patchEvidence"] ++
  (input.questions.zipIdx.flatMap fun entry =>
    entry.1.patchAnchorIds.flatMap fun anchorId =>
      issueIf (anchorId ∉ input.evidenceAnchors)
        ("Question references missing patch anchor " ++ anchorText anchorId)
        [.key "questions", .index entry.2, .key "patchAnchorIds"])

def ProofEvaluationInputV1Schema.accepts (input : ProofEvaluationInput) : Bool :=
  isUuid input.attemptId && isUuid input.revisionId && isGitSha input.headSha &&
    1 ≤ input.questions.length && input.questions.length ≤ 5 &&
    input.questions.all EvaluationQuestionV1Schema.accepts &&
    1 ≤ input.patchEvidence.length && input.patchEvidence.length ≤ 25 &&
    input.patchEvidence.all PatchEvidenceV1Schema.accepts &&
    TranscriptV1Schema.accepts input.transcript &&
    FrameSelectionMetadataV1Schema.accepts input.frameSelection &&
    (ProofEvaluationInputV1Schema.issues input).isEmpty

/-! ## What an accepted input is -/

/-- The facts of an accepted input that the evaluation rests on. -/
structure ProofEvaluationInput.Accepted (input : ProofEvaluationInput) : Prop where
  attemptId : isUuid input.attemptId = true
  revisionId : isUuid input.revisionId = true
  headSha : isGitSha input.headSha = true
  questions_pos : 1 ≤ input.questions.length
  questions_le : input.questions.length ≤ 5
  questions : ∀ question ∈ input.questions, EvaluationQuestionV1Schema.accepts question = true
  evidence_pos : 1 ≤ input.patchEvidence.length
  evidence_le : input.patchEvidence.length ≤ 25
  evidence : ∀ evidence ∈ input.patchEvidence, PatchEvidenceV1Schema.accepts evidence = true
  transcript : TranscriptV1Schema.accepts input.transcript = true
  frameSelection : FrameSelectionMetadataV1Schema.accepts input.frameSelection = true
  questionIds : input.questionIds.Nodup
  segments : ∀ segment ∈ input.transcript.segments, ∀ questionId ∈ segment.questionId,
    questionId ∈ input.questionIds
  anchors : input.evidenceAnchors.Nodup
  bound : ∀ question ∈ input.questions, ∀ anchorId ∈ question.patchAnchorIds,
    anchorId ∈ input.evidenceAnchors

theorem ProofEvaluationInputV1Schema.accepted {input : ProofEvaluationInput}
    (h : ProofEvaluationInputV1Schema.accepts input = true) : input.Accepted := by
  simp only [ProofEvaluationInputV1Schema.accepts, Bool.and_eq_true, List.all_eq_true,
    decide_eq_true_eq, List.isEmpty_iff, and_assoc] at h
  obtain ⟨hattempt, hrevision, hhead, hpos, hle, hquestions, hevidencePos, hevidenceLe,
    hevidence, htranscript, hselection, hissues⟩ := h
  simp only [ProofEvaluationInputV1Schema.issues, List.append_eq_nil_iff,
    List.flatMap_eq_nil_iff, issueIf_eq_nil, not_not, and_assoc] at hissues
  obtain ⟨-, -, hids, hsegments, hanchors, hbound⟩ := hissues
  refine ⟨hattempt, hrevision, hhead, hpos, hle, hquestions, hevidencePos, hevidenceLe,
    hevidence, htranscript, hselection, hids, ?_, hanchors, ?_⟩
  · simp only [not_exists, not_and, not_not] at hsegments
    exact forall_zipIdx.mp hsegments
  · exact forall_zipIdx.mp hbound

end Providers

end UnderstandProof
