import UnderstandProof.Worker.MultimodalJudge

/-!
# The projection is a provider input

The provider's input is built from an accepted evaluation input, and its schema is
applied again. It accepts the projection of every accepted input, as long as no frame
lies behind the end of the transcript.
-/

open Foundation

namespace UnderstandProof

namespace Worker

open Domain Providers Media

/-- Frames that a provider input may hold for a recording of this length. -/
structure FramesFit (durationMs : ℕ) (frames : List NormalizedInlineJudgeFrame) : Prop where
  length_le : frames.length ≤ 4
  accepted : ∀ frame ∈ frames, NormalizedInlineJudgeFrameV1Schema.accepts frame = true
  ids : (frames.map fun frame => frame.id).Nodup
  timing : ∀ frame ∈ frames, frame.timestampMs ≤ durationMs

theorem framesFit_nil (durationMs : ℕ) : FramesFit durationMs [] := by
  constructor <;> simp

/-! ## The parts -/

/-- A text that is short enough is accepted under the source that it is given. -/
theorem safeText_accepted (source : SafeTextSource) {content : JsString}
    (h : content.length ≤ 100000) :
    SafeUntrustedTextV1Schema.accepts source ⟨source, content⟩ = true := by
  rw [SafeUntrustedTextV1Schema.accepts, beq_self_eq_true, Bool.and_true]
  exact decide_eq_true h

theorem projectQuestion_criterionIds (question : EvaluationQuestion) :
    (projectQuestion question.trimmed).criterionIds = question.criterionIds := by
  simp only [JudgeQuestion.criterionIds, projectQuestion, EvaluationQuestion.trimmed,
    EvaluationQuestion.criterionIds, List.map_map]
  rfl

theorem projectQuestion_accepted {question : EvaluationQuestion}
    (h : EvaluationQuestionV1Schema.accepts question = true) :
    JudgeQuestionV1Schema.accepts (projectQuestion question.trimmed) = true := by
  simp only [EvaluationQuestionV1Schema.accepts, Bool.and_eq_true, List.all_eq_true,
    decide_eq_true_eq, List.isEmpty_iff, and_assoc] at h
  obtain ⟨hid, -, hprompt, hanchorsPos, hanchorsLe, hanchors, hrubricPos, hrubricLe, hrubric,
    hissues⟩ := h
  simp only [EvaluationQuestionV1Schema.issues, List.append_eq_nil_iff, issueIf_eq_nil,
    not_not] at hissues
  have hcriteria : ∀ criterion ∈ (projectQuestion question.trimmed).criteria,
      JudgeCriterionV1Schema.accepts criterion = true := by
    intro criterion hcriterion
    simp only [projectQuestion, EvaluationQuestion.trimmed, List.map_map, List.mem_map] at hcriterion
    obtain ⟨stored, hstored, rfl⟩ := hcriterion
    have haccepted := hrubric stored hstored
    simp only [EvaluationRubricCriterionV1Schema.accepts, Bool.and_eq_true, List.all_eq_true,
      decide_eq_true_eq, and_assoc] at haccepted
    obtain ⟨hcriterionId, -, hdescription, htermsPos, htermsLe, hterms⟩ := haccepted
    simp only [JudgeCriterionV1Schema.accepts, Bool.and_eq_true, List.all_eq_true,
      decide_eq_true_eq, and_assoc, Function.comp_apply, EvaluationRubricCriterion.trimmed,
      List.length_map, List.map_map, List.mem_map]
    refine ⟨hcriterionId, safeText_accepted _ (by omega), htermsPos, htermsLe, ?_⟩
    rintro text ⟨term, hterm, rfl⟩
    exact safeText_accepted _ ((hterms term hterm).2.trans (by decide))
  have hjudgeIssues : JudgeQuestionV1Schema.issues (projectQuestion question.trimmed) = [] := by
    rw [JudgeQuestionV1Schema.issues_eq_nil_iff, projectQuestion_criterionIds]
    exact hissues
  simp only [JudgeQuestionV1Schema.accepts, Bool.and_eq_true, decide_eq_true_eq, and_assoc]
  refine ⟨hid, ?_, hanchorsPos, hanchorsLe, ?_, ?_, ?_, List.all_eq_true.mpr hcriteria, ?_⟩
  · exact safeText_accepted _ (hprompt.trans (by decide))
  · exact List.all_eq_true.mpr hanchors
  · simpa [projectQuestion, EvaluationQuestion.trimmed] using hrubricPos
  · simpa [projectQuestion, EvaluationQuestion.trimmed] using hrubricLe
  · exact List.isEmpty_iff.mpr hjudgeIssues

theorem projectAnchor_accepted {evidence : PatchEvidence}
    (h : PatchEvidenceV1Schema.accepts evidence = true) :
    JudgePatchAnchorV1Schema.accepts (projectAnchor evidence) = true := by
  simp only [PatchEvidenceV1Schema.accepts, UntrustedDataSchema.accepts, Bool.and_eq_true,
    decide_eq_true_eq] at h
  simp only [JudgePatchAnchorV1Schema.accepts, Bool.and_eq_true]
  exact ⟨⟨h.1.1, safeText_accepted _ h.1.2.1⟩, safeText_accepted _ h.2.1⟩

theorem projectSegment_accepted {segment : TranscriptSegment} {projected : JudgeTranscriptSegment}
    (h : TranscriptSegmentV1Schema.accepts segment = true)
    (hprojected : projectSegment segment = some projected) :
    JudgeTranscriptSegmentV1Schema.accepts projected = true := by
  obtain ⟨questionId, hquestionId, rfl⟩ := Option.map_eq_some_iff.mp hprojected
  simp only [TranscriptSegmentV1Schema.accepts, UntrustedDataSchema.accepts, Bool.and_eq_true,
    decide_eq_true_eq, and_assoc, hquestionId, Option.all_some] at h
  obtain ⟨-, hid, hstart, hpos, hend, hlength, -, hlt⟩ := h
  simp only [JudgeTranscriptSegmentV1Schema.accepts, Bool.and_eq_true, decide_eq_true_eq,
    and_assoc]
  exact ⟨hid, hstart, hpos, hend, safeText_accepted _ hlength, hlt⟩

/-! ## The transcript -/

/-- The facts of an accepted transcript that the projection rests on. -/
structure TranscriptFacts (transcript : Transcript) : Prop where
  duration_pos : 1 ≤ transcript.durationMs
  duration_le : transcript.durationMs ≤ Providers.maxRecordingDurationMs
  length_le : transcript.segments.length ≤ 1000
  segments : ∀ segment ∈ transcript.segments, TranscriptSegmentV1Schema.accepts segment = true
  ends : ∀ segment ∈ transcript.segments, segment.endMs ≤ transcript.durationMs

theorem TranscriptV1Schema.facts {transcript : Transcript}
    (h : TranscriptV1Schema.accepts transcript = true) : TranscriptFacts transcript := by
  simp only [TranscriptV1Schema.accepts, Bool.and_eq_true, List.all_eq_true, decide_eq_true_eq,
    List.isEmpty_iff, and_assoc] at h
  obtain ⟨-, -, -, -, -, -, -, hpos, hle, -, -, hlength, hsegments, -, hissues⟩ := h
  simp only [TranscriptV1Schema.issues, List.flatMap_eq_nil_iff, List.append_eq_nil_iff,
    issueIf_eq_nil, not_lt] at hissues
  refine ⟨hpos, hle, hlength, hsegments, ?_⟩
  exact forall_zipIdx.mp fun entry hentry => (hissues entry hentry).2

/-! ## The whole input -/

theorem frameBytes_le {durationMs : ℕ} {frames : List NormalizedInlineJudgeFrame}
    (h : FramesFit durationMs frames) :
    (frames.map fun frame => frame.jpegBytes.bytes.length).sum ≤ maxInlineFrameTotalBytes := by
  have hsum := List.sum_le_card_nsmul (frames.map fun frame => frame.jpegBytes.bytes.length)
    maxInlineFrameBytes (by
      intro length hlength
      obtain ⟨frame, hframe, rfl⟩ := List.mem_map.mp hlength
      have haccepted := h.accepted frame hframe
      simp only [NormalizedInlineJudgeFrameV1Schema.accepts, Bool.and_eq_true,
        decide_eq_true_eq] at haccepted
      exact haccepted.2)
  rw [List.length_map, Nat.nsmul_eq_mul] at hsum
  calc _ ≤ frames.length * maxInlineFrameBytes := hsum
    _ ≤ 4 * maxInlineFrameBytes := Nat.mul_le_mul_right _ h.length_le
    _ = maxInlineFrameTotalBytes := rfl

theorem projectedInput_questionIds (input : ProofEvaluationInput)
    (frames : List NormalizedInlineJudgeFrame) :
    (projectedInput input.trimmed frames).questionIds = input.questionIds := by
  simp only [projectedInput, ProofEvaluationInput.trimmed,
    MultimodalJudgeProviderInput.questionIds, ProofEvaluationInput.questionIds, List.map_map]
  rfl

theorem projectedInput_anchorIds (input : ProofEvaluationInput)
    (frames : List NormalizedInlineJudgeFrame) :
    (projectedInput input.trimmed frames).anchorIds = input.evidenceAnchors := by
  simp only [projectedInput, ProofEvaluationInput.trimmed,
    MultimodalJudgeProviderInput.anchorIds, ProofEvaluationInput.evidenceAnchors, List.map_map]
  rfl

/-- A projected question stands for a stored one. -/
theorem mem_projectedInput_questions {input : ProofEvaluationInput}
    {frames : List NormalizedInlineJudgeFrame} {question : JudgeQuestion} :
    question ∈ (projectedInput input.trimmed frames).questions ↔
      ∃ stored ∈ input.questions, projectQuestion stored.trimmed = question := by
  simp only [projectedInput, ProofEvaluationInput.trimmed, List.map_map, List.mem_map,
    Function.comp_apply]

theorem mem_projectedInput_segments {input : ProofEvaluationInput}
    {frames : List NormalizedInlineJudgeFrame} {segment : JudgeTranscriptSegment} :
    segment ∈ (projectedInput input.trimmed frames).transcriptSegments ↔
      ∃ stored ∈ input.transcript.segments, projectSegment stored = some segment := by
  simp only [projectedInput, ProofEvaluationInput.trimmed, List.mem_filterMap]

section Projection

variable {input : ProofEvaluationInput} {frames : List NormalizedInlineJudgeFrame}

theorem projectedInput_issues (h : input.Accepted)
    (hframes : FramesFit input.transcript.durationMs frames) :
    MultimodalJudgeProviderInputV1Schema.issues (projectedInput input.trimmed frames) = [] := by
  have htranscript := TranscriptV1Schema.facts h.transcript
  simp only [MultimodalJudgeProviderInputV1Schema.issues, List.append_eq_nil_iff,
    List.flatMap_eq_nil_iff, issueIf_eq_nil, not_not, and_assoc, projectedInput_questionIds,
    projectedInput_anchorIds]
  refine ⟨h.questionIds, h.anchors, ?_, ?_, ?_, hframes.ids⟩
  · intro entry hentry
    obtain ⟨stored, hstored, heq⟩ :=
      mem_projectedInput_questions.mp (List.fst_mem_of_mem_zipIdx hentry)
    rw [← heq]
    rintro ⟨anchorId, hanchorId, hmissing⟩
    exact hmissing (h.bound stored hstored anchorId hanchorId)
  · intro entry hentry
    obtain ⟨stored, hstored, hprojected⟩ :=
      mem_projectedInput_segments.mp (List.fst_mem_of_mem_zipIdx hentry)
    obtain ⟨questionId, hquestionId, heq⟩ := Option.map_eq_some_iff.mp hprojected
    rw [← heq]
    rintro (hmissing | hlate)
    · exact hmissing (h.segments stored hstored questionId hquestionId)
    · exact absurd hlate (Nat.not_lt.mpr (htranscript.ends stored hstored))
  · rintro (⟨frame, hframe, hlate⟩ | hlarge)
    · exact absurd hlate (Nat.not_lt.mpr (hframes.timing frame hframe))
    · exact absurd hlarge (Nat.not_lt.mpr (frameBytes_le hframes))

theorem projectedInput_accepted (h : input.Accepted)
    (hframes : FramesFit input.transcript.durationMs frames) :
    MultimodalJudgeProviderInputV1Schema.accepts (projectedInput input.trimmed frames) = true := by
  have htranscript := TranscriptV1Schema.facts h.transcript
  simp only [MultimodalJudgeProviderInputV1Schema.accepts, Bool.and_eq_true, List.all_eq_true,
    decide_eq_true_eq, and_assoc, List.isEmpty_iff]
  refine ⟨h.headSha, ?_, ?_, ?_, ?_, ?_, ?_, ?_, ?_, htranscript.duration_pos,
    htranscript.duration_le, hframes.length_le, hframes.accepted, projectedInput_issues h hframes⟩
  · simpa [projectedInput, ProofEvaluationInput.trimmed] using h.questions_pos
  · simpa [projectedInput, ProofEvaluationInput.trimmed] using h.questions_le
  · intro question hquestion
    obtain ⟨stored, hstored, rfl⟩ := mem_projectedInput_questions.mp hquestion
    exact projectQuestion_accepted (h.questions stored hstored)
  · simpa [projectedInput, ProofEvaluationInput.trimmed] using h.evidence_pos
  · simpa [projectedInput, ProofEvaluationInput.trimmed] using h.evidence_le
  · intro anchor hanchor
    obtain ⟨stored, hstored, rfl⟩ := List.mem_map.mp hanchor
    exact projectAnchor_accepted (h.evidence stored hstored)
  · exact (List.length_filterMap_le _ _).trans htranscript.length_le
  · intro segment hsegment
    obtain ⟨stored, hstored, hprojected⟩ := mem_projectedInput_segments.mp hsegment
    exact projectSegment_accepted (htranscript.segments stored hstored) hprojected

theorem projectMultimodalJudgeProviderInputV1_ok (h : input.Accepted)
    (hframes : FramesFit input.transcript.durationMs frames) :
    projectMultimodalJudgeProviderInputV1 input.trimmed frames =
      .ok (projectedInput input.trimmed frames) := by
  have haccepted := projectedInput_accepted h hframes
  rw [projectMultimodalJudgeProviderInputV1, rejectIf_of_not (by simp [haccepted]),
    except_ok_bind]
  rfl

end Projection

/-- In an accepted input no frame lies behind the end of the recording. -/
theorem timing_of_accepts {input : MultimodalJudgeProviderInput}
    (h : MultimodalJudgeProviderInputV1Schema.accepts input = true) :
    ∀ frame ∈ input.frames, frame.timestampMs ≤ input.recordingDurationMs := by
  simp only [MultimodalJudgeProviderInputV1Schema.accepts, Bool.and_eq_true, List.isEmpty_iff] at h
  have hissues := h.2
  simp only [MultimodalJudgeProviderInputV1Schema.issues, List.append_eq_nil_iff, issueIf_eq_nil,
    not_or, not_exists, not_and, not_lt] at hissues
  exact hissues.1.2.1

/-- A projection that succeeds has been accepted, and it only fails with the error of
its schema. -/
theorem projectMultimodalJudgeProviderInputV1_eq_ok {input : ProofEvaluationInput}
    {frames : List NormalizedInlineJudgeFrame} {projected : MultimodalJudgeProviderInput}
    (h : projectMultimodalJudgeProviderInputV1 input frames = .ok projected) :
    projected = projectedInput input frames ∧
      MultimodalJudgeProviderInputV1Schema.accepts projected = true := by
  obtain ⟨haccepted, h⟩ := rejectIf_bind_eq_ok.mp h
  cases h
  exact ⟨rfl, by simpa using haccepted⟩

theorem projectMultimodalJudgeProviderInputV1_eq_error {input : ProofEvaluationInput}
    {frames : List NormalizedInlineJudgeFrame} {error : Caught}
    (h : projectMultimodalJudgeProviderInputV1 input frames = .error error) :
    error = .zodError := by
  rcases rejectIf_bind_eq_error.mp h with ⟨-, rfl⟩ | ⟨-, h⟩
  · rfl
  · cases h

end Worker

end UnderstandProof
