import UnderstandProof.Worker.CompatibilityContract
import UnderstandProof.Worker.HonestResult

/-!
# The bundle and the length of its payload

The bundle exists for every evaluation that a run returns, as long as its encrypted
payload has at most five million characters. The ids of patch anchors have no bound, so
that this is not always so.
-/

open Foundation

namespace UnderstandProof

namespace Worker

open Domain Providers Media

theorem length_le_payload {projection : ProofEvaluation} {question : QuestionEvaluation}
    (hquestion : question ∈ projection.questionEvaluations) {anchorId : JsString}
    (hanchorId : anchorId ∈ question.supportedPatchAnchorIds) :
    anchorId.length ≤ JsString.utf8Bytes projection.json.stringify := by
  have hanchor := Json.length_lt_stringify_str anchorId
  have hanchors : (Json.stringify (.str anchorId)).length <
      (Json.stringify (.arr (question.supportedPatchAnchorIds.map .str))).length :=
    Json.length_lt_stringify_arr (List.mem_map_of_mem hanchorId)
  have hfield : (Json.stringify (.arr (question.supportedPatchAnchorIds.map .str))).length <
      question.json.stringify.length :=
    @Json.length_lt_stringify_obj (js "supportedPatchAnchorIds") _ _ (by simp)
  have hquestions : question.json.stringify.length <
      (Json.stringify (.arr (projection.questionEvaluations.map QuestionEvaluation.json))).length :=
    Json.length_lt_stringify_arr (List.mem_map_of_mem hquestion)
  have hprojection : (Json.stringify (.arr (projection.questionEvaluations.map
      QuestionEvaluation.json))).length < projection.json.stringify.length :=
    @Json.length_lt_stringify_obj (js "questionEvaluations") _ _ (by simp)
  have hbytes := JsString.length_le_utf8Bytes projection.json.stringify
  omega

/-! ## A provider that supports every criterion -/

/-- Every criterion is met, with all anchors of its question. -/
def supportedEvaluation (question : JudgeQuestion) : MultimodalQuestionEvaluation where
  questionId := question.id
  criterionResults := question.criteria.map fun criterion =>
    { criterionId := criterion.id
      result := .met
      supportedPatchAnchorIds := question.patchAnchorIds
      reason := .patchEvidenceSupportsCriterion }
  contradictions := []
  uncertainty := []

def supportedCandidate (input : MultimodalJudgeProviderInput) : MultimodalJudgeCandidate where
  recommendation := .pass
  questionEvaluations := input.questions.map supportedEvaluation
  privateReason := .allStoredCriteriaSupported
  warnings := []

def supportedResult (sha256 : Sha256) (input : MultimodalJudgeProviderInput)
    (descriptor : InlineMultimodalJudgeDescriptor) (completedAt : Timestamp) :
    MultimodalJudgeProviderResult where
  candidate := supportedCandidate input
  metadata := {
    provider := descriptor.provider
    model := descriptor.model
    inputHash := hashProviderInput sha256 input
    outputHash := hashUnknown sha256 (supportedCandidate input).json
    tokenUsage := none
    latencyMs := 0
    invocationCount := 1
    outcome := .generated
    degraded := false
    completedAt := some completedAt
    failureDiagnostics := none }

section Supported

variable {input : MultimodalJudgeProviderInput}

theorem supportedEvaluation_isEvaluated {question : JudgeQuestion}
    (h : JudgeQuestionV1Schema.accepts question = true) :
    question.IsEvaluated (supportedEvaluation question) := by
  simp only [JudgeQuestionV1Schema.accepts, Bool.and_eq_true, decide_eq_true_eq, and_assoc] at h
  constructor
  · simp only [supportedEvaluation, JudgeQuestion.criterionIds, List.map_map]
    exact List.Perm.refl _
  · intro result hresult
    obtain ⟨criterion, hcriterion, rfl⟩ := List.mem_map.mp hresult
    exact ⟨List.mem_map_of_mem hcriterion, fun _ hanchorId => hanchorId,
      List.ne_nil_of_length_pos h.2.2.1, rfl⟩

theorem supportedCandidate_isEvaluated
    (h : MultimodalJudgeProviderInputV1Schema.accepts input = true) :
    input.IsEvaluated (supportedCandidate input).questionEvaluations := by
  have hquestions := (MultimodalJudgeProviderInputV1Schema.questions_of_accepts h).2.2
  have hids := (MultimodalJudgeProviderInputV1Schema.distinctIds h).questions
  constructor
  · simp only [supportedCandidate, MultimodalJudgeProviderInput.questionIds, List.map_map]
    exact List.Perm.refl _
  · intro evaluation hevaluation question hquestion hid
    obtain ⟨stored, hstored, rfl⟩ := List.mem_map.mp hevaluation
    have heq : question = stored := List.inj_on_of_nodup_map hids hquestion hstored hid
    rw [heq]
    exact supportedEvaluation_isEvaluated (hquestions stored hstored)

theorem supportedCandidate_accepted
    (h : MultimodalJudgeProviderInputV1Schema.accepts input = true) :
    MultimodalJudgeCandidateV1Schema.accepts (supportedCandidate input) = true := by
  obtain ⟨hpos, hle, hquestions⟩ := MultimodalJudgeProviderInputV1Schema.questions_of_accepts h
  simp only [MultimodalJudgeCandidateV1Schema.accepts, Bool.and_eq_true, List.all_eq_true,
    decide_eq_true_eq, and_assoc, supportedCandidate, List.length_map]
  refine ⟨hpos, hle, ?_, rfl⟩
  intro evaluation hevaluation
  obtain ⟨question, hquestion, rfl⟩ := List.mem_map.mp hevaluation
  have haccepted := hquestions question hquestion
  simp only [JudgeQuestionV1Schema.accepts, Bool.and_eq_true, List.all_eq_true,
    decide_eq_true_eq, and_assoc] at haccepted
  obtain ⟨hid, -, -, hlength, hanchors, hcriteriaPos, hcriteriaLe, hcriteria, -⟩ := haccepted
  simp only [MultimodalQuestionEvaluationV1Schema.accepts, Bool.and_eq_true, List.all_eq_true,
    decide_eq_true_eq, and_assoc, supportedEvaluation, List.length_map]
  refine ⟨hid, hcriteriaPos, hcriteriaLe, ?_, rfl, rfl⟩
  intro result hresult
  obtain ⟨criterion, hcriterion, rfl⟩ := List.mem_map.mp hresult
  have hcriterionId := hcriteria criterion hcriterion
  simp only [JudgeCriterionV1Schema.accepts, Bool.and_eq_true, and_assoc] at hcriterionId
  simp only [MultimodalCriterionResultV1Schema.accepts, Bool.and_eq_true, List.all_eq_true,
    decide_eq_true_eq]
  exact ⟨⟨hcriterionId.1, hlength⟩, hanchors⟩

theorem supportedCandidate_coherent (input : MultimodalJudgeProviderInput) :
    (supportedCandidate input).Coherent := by
  refine ⟨fun _ evaluation hevaluation => ?_, nofun, rfl⟩
  obtain ⟨question, -, rfl⟩ := List.mem_map.mp hevaluation
  refine ⟨fun result hresult => ?_, rfl, rfl⟩
  obtain ⟨criterion, -, rfl⟩ := List.mem_map.mp hresult
  rfl

theorem supportedResult_honest (sha256 : Sha256)
    (h : MultimodalJudgeProviderInputV1Schema.accepts input = true)
    {descriptor : InlineMultimodalJudgeDescriptor}
    (hdescriptor : InlineMultimodalJudgeDescriptorV1Schema.accepts descriptor = true)
    (completedAt : Timestamp) :
    Honest sha256 descriptor input (supportedResult sha256 input descriptor completedAt) := by
  have hmetadata : MultimodalJudgeInvocationMetadataV1Schema.accepts
      (supportedResult sha256 input descriptor completedAt).metadata = true := by
    simp only [InlineMultimodalJudgeDescriptorV1Schema.accepts, Bool.and_eq_true] at hdescriptor
    simp only [MultimodalJudgeInvocationMetadataV1Schema.accepts, supportedResult,
      hashProviderInput, hashUnknown, sha256Hex_accepted, Bool.and_eq_true, and_assoc]
    exact ⟨hdescriptor.1.1, hdescriptor.1.2, trivial, trivial, rfl, rfl, rfl, rfl, rfl⟩
  exact ⟨supportedCandidate_accepted h, supportedCandidate_isEvaluated h,
    supportedCandidate_coherent input, hmetadata, rfl, rfl, rfl, rfl⟩

end Supported

/-! ## Two runs -/

/-- A provider that supports every criterion at time 4. -/
def supportingProvider (sha256 : Sha256) : InlineMultimodalJudgeProvider where
  descriptor := LocalFakeInlineMultimodalJudgeProvider.descriptor
  transportFallbackDescriptor := none
  evaluate input _ := .returns (some (supportedResult sha256 input
    LocalFakeInlineMultimodalJudgeProvider.descriptor 4)) noWrites

/-- The sample input with one anchor. -/
def anchoredInput (anchorId : JsString) : ProofEvaluationInput :=
  { sampleEvaluationInput with
    questions := sampleEvaluationInput.questions.map fun question =>
      { question with patchAnchorIds := [anchorId] }
    patchEvidence := sampleEvaluationInput.patchEvidence.map fun evidence =>
      { evidence with anchorId } }

theorem anchoredInput_issues (anchorId : JsString) :
    ProofEvaluationInputV1Schema.issues (anchoredInput anchorId) = [] := by
  have hsample : ProofEvaluationInputV1Schema.issues sampleEvaluationInput = [] := by
    decide
  have hanchors : (anchoredInput anchorId).evidenceAnchors = [anchorId] := rfl
  simp only [ProofEvaluationInputV1Schema.issues, List.append_eq_nil_iff] at hsample ⊢
  obtain ⟨⟨⟨⟨⟨hattempt, hselection⟩, hids⟩, hsegments⟩, -⟩, -⟩ := hsample
  refine ⟨⟨⟨⟨⟨hattempt, hselection⟩, hids⟩, hsegments⟩, ?_⟩, ?_⟩
  · rw [hanchors, issueIf_eq_nil, not_not]
    exact List.nodup_singleton anchorId
  · simp only [List.flatMap_eq_nil_iff, issueIf_eq_nil, not_not, hanchors]
    intro entry hentry anchor hanchor
    obtain ⟨stored, -, heq⟩ := List.mem_map.mp (List.fst_mem_of_mem_zipIdx hentry)
    rw [← heq] at hanchor
    exact hanchor

theorem anchoredInput_accepted {anchorId : JsString} (h : isPatchAnchorId anchorId = true) :
    ProofEvaluationInputV1Schema.accepts (anchoredInput anchorId) = true := by
  have hsample : ProofEvaluationInputV1Schema.accepts sampleEvaluationInput = true := by
    decide
  have haccepted := ProofEvaluationInputV1Schema.accepted hsample
  have hquestions : ∀ question ∈ (anchoredInput anchorId).questions,
      EvaluationQuestionV1Schema.accepts question = true := by
    intro question hquestion
    obtain ⟨stored, hstored, rfl⟩ := List.mem_map.mp hquestion
    have hstored := haccepted.questions stored hstored
    simp only [EvaluationQuestionV1Schema.accepts, EvaluationQuestionV1Schema.issues,
      Bool.and_eq_true, List.isEmpty_iff, List.append_eq_nil_iff, and_assoc] at hstored ⊢
    obtain ⟨hid, hpos, hle, -, -, -, hrubricPos, hrubricLe, hrubric, -, hcriteria⟩ := hstored
    refine ⟨hid, hpos, hle, rfl, rfl, ?_, hrubricPos, hrubricLe, hrubric, ?_, hcriteria⟩
    · simpa using h
    · rw [issueIf_eq_nil, not_not]
      exact List.nodup_singleton anchorId
  have hevidence : ∀ evidence ∈ (anchoredInput anchorId).patchEvidence,
      PatchEvidenceV1Schema.accepts evidence = true := by
    intro evidence hevidence
    obtain ⟨stored, hstored, rfl⟩ := List.mem_map.mp hevidence
    have hstored := haccepted.evidence stored hstored
    simp only [PatchEvidenceV1Schema.accepts, Bool.and_eq_true] at hstored ⊢
    exact ⟨⟨h, hstored.1.2⟩, hstored.2⟩
  simp only [ProofEvaluationInputV1Schema.accepts, anchoredInput_issues, Bool.and_eq_true,
    and_assoc]
  exact ⟨haccepted.attemptId, haccepted.revisionId, haccepted.headSha, rfl, rfl,
    List.all_eq_true.mpr hquestions, rfl, rfl, List.all_eq_true.mpr hevidence,
    haccepted.transcript, haccepted.frameSelection, rfl⟩

/-- The evaluation that the run returns. -/
def anchoredEvaluation (sha256 : Sha256) (anchorId : JsString) :
    AuthoritativeMultimodalEvaluation :=
  (proofEvaluation (anchoredInput anchorId).trimmed
    (supportedResult sha256 (projectedInput (anchoredInput anchorId).trimmed [])
      LocalFakeInlineMultimodalJudgeProvider.descriptor 4).trimmed [.framesUnavailable] 0
    sampleClock.completedAt).trimmed

/-- With a loader that fails the run returns the result of the provider. -/
theorem anchored_run (sha256 : Sha256) {anchorId : JsString}
    (h : isPatchAnchorId anchorId = true) :
    (runMultimodalJudgeEvaluation sha256 (supportingProvider sha256) (anchoredInput anchorId)
      sampleContext sampleClock (.rejects .otherError noWrites) sampleMemory).1 =
        .ok (anchoredEvaluation sha256 anchorId) := by
  have hinput := anchoredInput_accepted h
  have haccepted := ProofEvaluationInputV1Schema.accepted hinput
  have hprojected := projectedInput_accepted haccepted (framesFit_nil _)
  have hdescriptor : InlineMultimodalJudgeDescriptorV1Schema.accepts
      LocalFakeInlineMultimodalJudgeProvider.descriptor = true := by decide
  have hhonest := supportedResult_honest sha256 hprojected hdescriptor 4
  have hread : readInput (noWrites.on [] sampleMemory)
      (projectedInput (anchoredInput anchorId).trimmed []) =
        projectedInput (anchoredInput anchorId).trimmed [] := readInput_projectedInput _ _ _
  rw [← hread] at hhonest
  have hwarnings : ∀ code ∈ [MultimodalWarningCode.framesUnavailable],
      isFrameWarning code = true := by decide
  have htime : InTime sampleClock 4 1000 := by constructor <;> decide
  have hevaluated : (runWithFrames sha256 (supportingProvider sha256)
      (anchoredInput anchorId).trimmed sampleContext sampleClock [] [.framesUnavailable]
        sampleMemory).1 = .ok (anchoredEvaluation sha256 anchorId) := by
    rw [runWithFrames_of_honest haccepted (framesFit_nil _)
      (fun frame hframe => absurd hframe List.not_mem_nil) hwarnings sampleClock_nonDecreasing rfl
      hdescriptor rfl rfl hhonest rfl htime]
    rfl
  have hloaded : (loadFrames sampleContext sampleClock (.rejects .otherError noWrites)
      sampleMemory).1 = .ok ([], [.framesUnavailable]) := rfl
  have hcontext : ProviderContextV1Schema.accepts sampleContext = true := by decide
  have hattempt : sampleContext.attemptId = (anchoredInput anchorId).attemptId := rfl
  have hstarted : assertBeforeMultimodalDeadline sampleContext sampleClock.requestStartedAt =
      .ok () := rfl
  have hcomplete : hasCompleteQuestionBoundTranscriptEvidence (anchoredInput anchorId).trimmed =
      true := rfl
  have hlater : ¬ JsDate.le sampleContext.deadlineAt (some sampleClock.framesLoadedAt) = true := by
    decide
  rw [runMultimodalJudgeEvaluation, if_neg (by simp [hinput, hcontext, hattempt])]
  dsimp only
  rw [hstarted, hcomplete]
  dsimp only
  rw [if_pos rfl, runWithTranscript_of_loaded hloaded, if_neg hlater]
  exact hevaluated

/-- A cipher that leaves the text as it is, with an empty tag. -/
def sampleCipher : PayloadCipher where
  aes := {
    encrypt _ _ plaintext := (plaintext, List.replicate 16 0)
    length_ciphertext _ _ _ := rfl
    length_tag _ _ _ := rfl }
  usedNonces := []

theorem sampleCipher_isFresh : sampleCipher.IsFresh (List.replicate 12 0) :=
  ⟨rfl, List.not_mem_nil⟩

/-- The bundle of a run is rejected when the one anchor of its question is too long. -/
theorem anchored_bundle_rejected (sha256 : Sha256) {anchorId : JsString}
    (h : isPatchAnchorId anchorId = true) (hlong : maxEncryptedPayload ≤ anchorId.length) :
    createConservativeCompatibilityEvaluationBundle sha256 (anchoredInput anchorId)
      (anchoredEvaluation sha256 anchorId) (js "t") (some 9) sampleCipher (List.replicate 12 0) =
        .error .zodError := by
  have haccepted := ProofEvaluationInputV1Schema.accepted (anchoredInput_accepted h)
  have hreviews := runMultimodalJudgeEvaluation_reviews (anchored_run sha256 h)
  have hprojected : projectEvaluation sha256 (anchoredInput anchorId).attemptId
      ⟨js "40000000-0000-4000-8000-000000000004", [⟨sampleCriterionId, .met, [anchorId],
        .patchEvidenceSupportsCriterion⟩], [], []⟩ ∈ (projectionOf sha256
          (anchoredInput anchorId) (anchoredEvaluation sha256 anchorId)).questionEvaluations :=
    List.mem_singleton_self _
  have hanchor := length_le_payload hprojected
    (mem_supportedPatchAnchorIds.mpr ⟨_, List.mem_singleton_self _, List.mem_singleton_self _⟩)
  have henvelope : (envelopeOf sha256 (anchoredInput anchorId)
      (anchoredEvaluation sha256 anchorId) (js "t") sampleCipher
      (List.replicate 12 0)).json.stringify.length = _ :=
    length_envelopeOf sha256 (js "t") sampleCipher_isFresh
  have hbundle : EncryptedEvaluationBundleV1Schema.accepts (bundleOf sha256
      (anchoredInput anchorId) (anchoredEvaluation sha256 anchorId) (js "t") (some 9)
      (envelopeOf sha256 (anchoredInput anchorId) (anchoredEvaluation sha256 anchorId) (js "t")
        sampleCipher (List.replicate 12 0)).json.stringify) = true ↔ _ :=
    bundleOf_accepted sha256 haccepted (js "t") 9 (by rw [henvelope]; omega)
  rw [createBundle_eq sha256 haccepted hreviews sampleCipher_isFresh, if_pos]
  rw [← Bool.not_eq_true, hbundle, henvelope]
  omega

theorem isPatchAnchorId_zeros (n : ℕ) :
    isPatchAnchorId (0x61 :: List.replicate (n + 1) 0x30) = true := by
  have hdigits : (List.replicate (n + 1) (0x30 : UInt16)).all Json.isDigit = true := by
    rw [List.all_replicate]
    rfl
  simp only [isPatchAnchorId, List.length_cons, List.length_replicate, List.head?_cons,
    List.tail_cons, hdigits, Bool.and_true]
  simp

/-- An accepted anchor id of more than five million characters. -/
def longAnchorId : JsString := 0x61 :: List.replicate (maxEncryptedPayload + 1) 0x30

end Worker

end UnderstandProof
