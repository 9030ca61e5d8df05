import UnderstandProof.Worker.MultimodalJudgeRuns

/-!
# An honest result is the outcome

A provider that evaluates every stored question coherently, binds its result to the
input and completes in time has its result returned: no check stands between it and
the evaluation.
-/

open Foundation

namespace UnderstandProof

namespace Worker

open Domain Providers Media

/-- A result for the input, bound to it by its digests, under the names of the first
descriptor. -/
structure Honest (sha256 : Sha256) (descriptor : InlineMultimodalJudgeDescriptor)
    (input : MultimodalJudgeProviderInput) (result : MultimodalJudgeProviderResult) : Prop where
  candidate : MultimodalJudgeCandidateV1Schema.accepts result.candidate = true
  evaluated : input.IsEvaluated result.candidate.questionEvaluations
  coherent : result.candidate.Coherent
  metadata : MultimodalJudgeInvocationMetadataV1Schema.accepts result.metadata = true
  inputHash : result.metadata.inputHash = hashProviderInput sha256 input
  outputHash : result.metadata.outputHash = hashUnknown sha256 result.candidate.json
  provider : result.metadata.provider = descriptor.provider
  model : result.metadata.model = descriptor.model

/-- A coherent candidate that evaluates the input has no issues. -/
theorem candidateIssues_of_coherent {input : MultimodalJudgeProviderInput}
    {candidate : MultimodalJudgeCandidate} (hids : input.DistinctIds)
    (hevaluated : input.IsEvaluated candidate.questionEvaluations)
    (hcoherent : candidate.Coherent) :
    candidateIssues (scanEvaluations input candidate.questionEvaluations) candidate = [] := by
  have hnotMet := not_congr (scanEvaluations_hasNotMetResult hids hevaluated)
  have hnotEvaluable := not_congr (scanEvaluations_hasNotEvaluableResult hids hevaluated)
  rw [Bool.not_eq_true] at hnotMet hnotEvaluable
  refine candidateIssues_eq_nil_iff.mpr ⟨(scanEvaluations_issues_eq_nil hids).mpr hevaluated,
    ?_, ?_, hcoherent.privateReason⟩
  · intro hpass
    have hall := hcoherent.pass hpass
    refine ⟨hnotMet.mpr ?_, hnotEvaluable.mpr ?_, hasUnresolvedEvidence_eq_false.mpr
      fun evaluation hevaluation => (hall evaluation hevaluation).2⟩
    · rintro ⟨evaluation, hevaluation, result, hresult, houtcome⟩
      rw [(hall evaluation hevaluation).1 result hresult] at houtcome
      cases houtcome
    · rintro ⟨evaluation, hevaluation, result, hresult, houtcome⟩
      rw [(hall evaluation hevaluation).1 result hresult] at houtcome
      cases houtcome
  · intro hretry
    have hall := hcoherent.retry hretry
    refine ⟨hnotEvaluable.mpr ?_, hasUnresolvedEvidence_eq_false.mpr
      fun evaluation hevaluation => (hall evaluation hevaluation).2⟩
    rintro ⟨evaluation, hevaluation, result, hresult, houtcome⟩
    exact (hall evaluation hevaluation).1 result hresult houtcome

section Honest

variable {sha256 : Sha256} {input : MultimodalJudgeProviderInput}
  {descriptor : InlineMultimodalJudgeDescriptor} {result : MultimodalJudgeProviderResult}

theorem Honest.validated (h : Honest sha256 descriptor input result)
    (hinput : MultimodalJudgeProviderInputV1Schema.accepts input = true)
    (hdescriptor : InlineMultimodalJudgeDescriptorV1Schema.accepts descriptor = true) :
    validateMultimodalJudgeProviderResultV1 sha256 result input [descriptor] =
      .ok result.trimmed := by
  have haccepted : MultimodalJudgeProviderResultV1Schema.accepts result = true := by
    rw [MultimodalJudgeProviderResultV1Schema.accepts, h.candidate, h.metadata, Bool.and_self]
  have hdescriptors : normalizeJudgeDescriptors [descriptor] = some [descriptor.trimmed] := by
    simp [normalizeJudgeDescriptors, hdescriptor]
  have hcandidate := validate_of_no_issues hinput h.candidate (candidateIssues_of_coherent
    (MultimodalJudgeProviderInputV1Schema.distinctIds hinput) h.evaluated h.coherent)
  have hhashes : ¬ (result.trimmed.metadata.inputHash ≠ hashProviderInput sha256 input ∨
      result.trimmed.metadata.outputHash ≠ hashUnknown sha256 result.candidate.json) := by
    rw [not_or, not_not, not_not]
    exact ⟨h.inputHash, h.outputHash⟩
  have hnames : ∃ other ∈ [descriptor.trimmed],
      result.trimmed.metadata.provider = other.provider ∧
        result.trimmed.metadata.model ∈ [other.model, other.visionModel] := by
    refine ⟨_, List.mem_singleton_self _, ?_, ?_⟩
    · simp [MultimodalJudgeProviderResult.trimmed, MultimodalJudgeInvocationMetadata.trimmed,
        InlineMultimodalJudgeDescriptor.trimmed, h.provider]
    · simp [MultimodalJudgeProviderResult.trimmed, MultimodalJudgeInvocationMetadata.trimmed,
        InlineMultimodalJudgeDescriptor.trimmed, h.model]
  have hsame : result.trimmed.candidate = result.candidate := rfl
  rw [validateMultimodalJudgeProviderResultV1, rejectIf_of_not (by simp [haccepted, hinput]),
    except_ok_bind, hdescriptors]
  dsimp only
  rw [hsame, hcandidate, except_ok_bind, rejectIf_of_not hhashes, except_ok_bind,
    rejectIf_of_not (not_not_intro hnames), except_ok_bind]
  rfl

end Honest

section Run

variable {sha256 : Sha256} {provider : InlineMultimodalJudgeProvider}
  {evaluationInput : ProofEvaluationInput} {context : ProviderContext} {clock : Clock}
  {frames : List NormalizedInlineJudgeFrame} {warnings : List MultimodalWarningCode}
  {loader : LoaderBehaviour} {memory : Memory} {result : MultimodalJudgeProviderResult}
  {completedAt deadline : Timestamp}

/-- The result completes between the start of the run and the check of the provider, and
the run ends before the deadline. -/
structure InTime (clock : Clock) (completedAt deadline : Timestamp) : Prop where
  started : clock.requestStartedAt ≤ completedAt
  checked : completedAt ≤ clock.providerCheckedAt
  ended : clock.completedAt < deadline

theorem InTime.bounds (h : InTime clock completedAt deadline) (hclock : clock.NonDecreasing)
    {serviceCompletedAt : Timestamp} (hservice : clock.providerCheckedAt ≤ serviceCompletedAt) :
    assertProviderCompletionBounds (some completedAt) clock.requestStartedAt serviceCompletedAt
      (some deadline) = .ok () := by
  have hlt : completedAt < deadline := lt_of_le_of_lt
    (h.checked.trans (hclock.fallbackAt.trans hclock.completedAt)) h.ended
  refine rejectIf_of_not ?_
  simp only [JsDate.gt, JsDate.le, decide_eq_true_eq, not_or, not_lt, not_le]
  exact ⟨h.started, h.checked.trans hservice, hlt⟩

theorem InTime.before (h : InTime clock completedAt deadline) {now : Timestamp}
    (hnow : now ≤ clock.completedAt) (hdeadline : context.deadlineAt = some deadline) :
    ¬ JsDate.le context.deadlineAt (some now) = true := by
  rw [hdeadline]
  simp only [JsDate.le, decide_eq_true_eq, not_le]
  exact lt_of_le_of_lt hnow h.ended

/-- The result of an honest provider, asked after the frames are loaded, is the outcome. -/
theorem runWithFrames_of_honest (hinput : evaluationInput.Accepted)
    (hframes : FramesFit evaluationInput.transcript.durationMs frames)
    (hmemory : ∀ frame ∈ frames,
      (memory frame.jpegBytes.address).length = frame.jpegBytes.bytes.length)
    (hwarnings : ∀ code ∈ warnings, isFrameWarning code = true)
    (hclock : clock.NonDecreasing) (hdeadline : context.deadlineAt = some deadline)
    (hdescriptor : InlineMultimodalJudgeDescriptorV1Schema.accepts provider.descriptor = true)
    (hfallback : provider.transportFallbackDescriptor = none) {writes : Writes}
    (hreturns : provider.evaluate (projectedInput evaluationInput.trimmed frames) context =
      .returns (some result) writes)
    (hhonest : Honest sha256 provider.descriptor (readInput (writes.on (frames.map fun frame =>
      frame.jpegBytes.address) memory) (projectedInput evaluationInput.trimmed frames)) result)
    (hcompleted : result.metadata.completedAt = some completedAt)
    (htime : InTime clock completedAt deadline) :
    (runWithFrames sha256 provider evaluationInput.trimmed context clock frames warnings
      memory).1 = .ok (proofEvaluation evaluationInput.trimmed result.trimmed
        (frameWarningsOf frames warnings) frames.length clock.completedAt).trimmed := by
  have hread : FramesFit evaluationInput.transcript.durationMs (frames.map (readFrame (writes.on
      (frames.map fun frame => frame.jpegBytes.address) memory))) := by
    refine hframes.readFrame fun frame hframe => ?_
    rw [writes.length_on]
    exact hmemory frame hframe
  have haccepted := projectedInput_accepted hinput hread
  rw [← readInput_projectedInput] at haccepted
  have hvalidated := hhonest.validated haccepted hdescriptor
  have hsame : result.trimmed.metadata.completedAt = some completedAt := hcompleted
  have haccept : acceptProviderResult sha256 provider context clock (readInput (writes.on
      (frames.map fun frame => frame.jpegBytes.address) memory)
        (projectedInput evaluationInput.trimmed frames)) (some result) = .ok result.trimmed := by
    unfold acceptProviderResult
    dsimp only
    rw [hfallback, Option.toList_none, hvalidated, except_ok_bind, hsame, hdeadline,
      htime.bounds hclock le_rfl, except_ok_bind]
    rfl
  have hevaluate : clock.evaluateStartedAt ≤ clock.completedAt :=
    hclock.providerCheckedAt.trans (hclock.fallbackAt.trans hclock.completedAt)
  have hprojected : (projectedInput evaluationInput.trimmed frames).frames = frames := rfl
  have hcalled : callProvider sha256 provider context clock
      (projectedInput evaluationInput.trimmed frames) memory =
        (.ok result.trimmed, writes.on (frames.map fun frame => frame.jpegBytes.address)
          memory) := by
    unfold callProvider
    rw [if_neg (htime.before hevaluate hdeadline), hreturns]
    dsimp only
    rw [hprojected, haccept]
  have hacceptable := acceptProviderResult_acceptable hclock haccept
  rw [runWithFrames_of_projection (projectMultimodalJudgeProviderInputV1_ok hinput hframes),
    hcalled]
  dsimp only
  rw [concludeRun, recoverProviderResult, except_ok_bind, assertBeforeMultimodalDeadline,
    rejectIf_of_not (htime.before le_rfl hdeadline), except_ok_bind, hsame, hdeadline,
    htime.bounds hclock (hclock.fallbackAt.trans hclock.completedAt), except_ok_bind]
  exact parseEvaluation_ok (proofEvaluation_accepted hinput hacceptable
    (fun code => isFrameWarning_of_mem hwarnings) (length_frameWarningsOf_le hwarnings)
    (nodup_eraseDups _) hframes.length_le)

end Run

end Worker

end UnderstandProof
