import UnderstandProof.Providers.JudgeFallback
import UnderstandProof.Worker.JudgeProjection

/-!
# Returned evaluations are reviews

Whatever loader and provider do, an evaluation that a run returns is accepted by its
schema, belongs to the input, and has one result for every criterion of every stored
question.
-/

open Foundation

namespace UnderstandProof

namespace Worker

open Domain Providers Media

/-! ## Memory -/

/-- All bytes of the buffers are zero. -/
def Cleared (memory : Memory) (addresses : List ℕ) : Prop :=
  ∀ address ∈ addresses, ∀ byte ∈ memory address, byte = 0

theorem fillAll_apply (memory : Memory) (addresses : List ℕ) (address : ℕ) :
    memory.fillAll addresses address =
      if address ∈ addresses then List.replicate (memory address).length 0
      else memory address := by
  induction addresses generalizing memory with
  | nil => rfl
  | cons first addresses ih =>
      have hcons : memory.fillAll (first :: addresses) =
          (memory.fill0 first).fillAll addresses := rfl
      rw [hcons, ih]
      by_cases heq : address = first
      · simp [Memory.fill0, heq]
      · simp [Memory.fill0, heq]

theorem fillAll_cleared (memory : Memory) (addresses : List ℕ) :
    Cleared (memory.fillAll addresses) addresses := by
  intro address haddress byte hbyte
  rw [fillAll_apply, if_pos haddress] at hbyte
  exact List.eq_of_mem_replicate hbyte

theorem Writes.length_on (writes : Writes) (addresses : List ℕ) (memory : Memory)
    (address : ℕ) : (writes.on addresses memory address).length = (memory address).length := by
  unfold Writes.on
  split
  · exact writes.length_apply memory address
  · rfl

theorem Writes.on_nil (writes : Writes) (memory : Memory) : writes.on [] memory = memory := by
  funext address
  exact if_neg List.not_mem_nil

/-- Frames fit with the bytes that their buffers hold, as long as the lengths agree. -/
theorem FramesFit.readFrame {durationMs : ℕ} {frames : List NormalizedInlineJudgeFrame}
    (h : FramesFit durationMs frames) {memory : Memory}
    (hlength : ∀ frame ∈ frames,
      (memory frame.jpegBytes.address).length = frame.jpegBytes.bytes.length) :
    FramesFit durationMs (frames.map (readFrame memory)) := by
  refine ⟨by rw [List.length_map]; exact h.length_le, ?_, ?_, ?_⟩
  · intro frame hframe
    obtain ⟨stored, hstored, rfl⟩ := List.mem_map.mp hframe
    have haccepted := h.accepted stored hstored
    simp only [NormalizedInlineJudgeFrameV1Schema.accepts, Bool.and_eq_true,
      decide_eq_true_eq] at haccepted ⊢
    rw [← hlength stored hstored] at haccepted
    exact haccepted
  · rw [List.map_map]
    exact h.ids
  · intro frame hframe
    obtain ⟨stored, hstored, rfl⟩ := List.mem_map.mp hframe
    exact h.timing stored hstored

theorem readInput_projectedInput (memory : Memory) (input : ProofEvaluationInput)
    (frames : List NormalizedInlineJudgeFrame) :
    readInput memory (projectedInput input frames) =
      projectedInput input (frames.map (readFrame memory)) := rfl

/-! ## Returned evaluations -/

/-- What a returned evaluation says about its input: it is an accepted review of the
stored questions, in which every criterion has one result. -/
structure Reviews (input : ProofEvaluationInput)
    (evaluation : AuthoritativeMultimodalEvaluation) : Prop where
  accepted : AuthoritativeMultimodalEvaluationV1Schema.accepts evaluation = true
  attemptId : evaluation.attemptId = input.attemptId
  revisionId : evaluation.revisionId = input.revisionId
  headSha : evaluation.headSha = input.headSha
  workflowOutcome : evaluation.workflowOutcome = .reviewRequired
  questions : (evaluation.candidate.questionEvaluations.map fun evaluation =>
    evaluation.questionId).Perm input.questionIds
  evaluated : ∀ result ∈ evaluation.candidate.questionEvaluations, ∀ question ∈ input.questions,
    question.id = result.questionId → (projectQuestion question.trimmed).IsEvaluated result

@[simp] theorem evaluation_accepts_trimmed (evaluation : AuthoritativeMultimodalEvaluation) :
    AuthoritativeMultimodalEvaluationV1Schema.accepts evaluation.trimmed =
      AuthoritativeMultimodalEvaluationV1Schema.accepts evaluation := by
  simp only [AuthoritativeMultimodalEvaluationV1Schema.accepts,
    AuthoritativeMultimodalEvaluationV1Schema.issues, AuthoritativeMultimodalEvaluation.trimmed,
    accepts_trimmed]
  rfl

theorem parseEvaluation_eq_ok {evaluation returned : AuthoritativeMultimodalEvaluation}
    (h : parseEvaluation evaluation = .ok returned) :
    AuthoritativeMultimodalEvaluationV1Schema.accepts evaluation = true ∧
      returned = evaluation.trimmed := by
  obtain ⟨haccepted, h⟩ := rejectIf_bind_eq_ok.mp h
  cases h
  exact ⟨by simpa using haccepted, rfl⟩

theorem reviews_of_parseEvaluation {input : ProofEvaluationInput}
    {frames : List NormalizedInlineJudgeFrame} {result : MultimodalJudgeProviderResult}
    {warnings : List MultimodalWarningCode} {count : ℕ} {completedAt : Timestamp}
    {evaluation : AuthoritativeMultimodalEvaluation}
    (hresult : (projectedInput input.trimmed frames).IsEvaluated
      result.candidate.questionEvaluations)
    (h : parseEvaluation (proofEvaluation input.trimmed result warnings count completedAt) =
      .ok evaluation) : Reviews input evaluation := by
  obtain ⟨haccepted, rfl⟩ := parseEvaluation_eq_ok h
  refine ⟨?_, rfl, rfl, rfl, rfl, ?_, ?_⟩
  · rw [evaluation_accepts_trimmed]
    exact haccepted
  · rw [← projectedInput_questionIds input frames]
    exact hresult.questions
  · intro evaluation hevaluation question hquestion hid
    exact hresult.evaluated evaluation hevaluation _
      (mem_projectedInput_questions.mpr ⟨question, hquestion, rfl⟩) hid

/-- A validated result has an evaluated candidate, and the metadata of the provider. -/
theorem validateMultimodalJudgeProviderResultV1_eq_ok {sha256 : Sha256}
    {raw result : MultimodalJudgeProviderResult} {input : MultimodalJudgeProviderInput}
    {descriptors : List InlineMultimodalJudgeDescriptor}
    (h : validateMultimodalJudgeProviderResultV1 sha256 raw input descriptors = .ok result) :
    ReturnedFrom input raw.candidate result.candidate ∧
      MultimodalJudgeInvocationMetadataV1Schema.accepts result.metadata = true := by
  rw [validateMultimodalJudgeProviderResultV1, rejectIf_bind_eq_ok] at h
  obtain ⟨haccepted, h⟩ := h
  simp only [not_or, Bool.not_eq_false, MultimodalJudgeProviderResultV1Schema.accepts,
    Bool.and_eq_true] at haccepted
  split at h
  · cases h
  · dsimp only at h
    rw [bind_eq_ok] at h
    obtain ⟨candidate, hcandidate, h⟩ := h
    obtain ⟨-, h⟩ := rejectIf_bind_eq_ok.mp h
    obtain ⟨-, h⟩ := rejectIf_bind_eq_ok.mp h
    cases h
    refine ⟨validate_ok hcandidate, ?_⟩
    simp only [MultimodalJudgeProviderResult.trimmed, accepts_trimmed]
    exact haccepted.1.2

section Run

variable {sha256 : Sha256} {provider : InlineMultimodalJudgeProvider}
  {evaluationInput : ProofEvaluationInput} {context : ProviderContext} {clock : Clock}

theorem acceptProviderResult_eq_ok {input : MultimodalJudgeProviderInput}
    {raw : Option MultimodalJudgeProviderResult} {result : MultimodalJudgeProviderResult}
    (h : acceptProviderResult sha256 provider context clock input raw = .ok result) :
    (∃ submitted, ReturnedFrom input submitted result.candidate) ∧
      MultimodalJudgeInvocationMetadataV1Schema.accepts result.metadata = true ∧
      assertProviderCompletionBounds result.metadata.completedAt clock.requestStartedAt
        clock.providerCheckedAt context.deadlineAt = .ok () := by
  unfold acceptProviderResult at h
  split at h
  · cases h
  · next raw =>
      rw [bind_eq_ok] at h
      obtain ⟨validated, hvalidated, h⟩ := h
      rw [bind_eq_ok] at h
      obtain ⟨_, hbounds, h⟩ := h
      cases h
      obtain ⟨hreturned, hmetadata⟩ := validateMultimodalJudgeProviderResultV1_eq_ok hvalidated
      exact ⟨⟨_, hreturned⟩, hmetadata, hbounds⟩

/-- The result of a call, if there is one, is the accepted answer of the provider. -/
theorem callProvider_eq_ok {input : MultimodalJudgeProviderInput} {memory : Memory}
    {result : MultimodalJudgeProviderResult}
    (h : (callProvider sha256 provider context clock input memory).1 = .ok result) :
    ∃ raw, acceptProviderResult sha256 provider context clock
      (readInput (callProvider sha256 provider context clock input memory).2 input) raw =
        .ok result := by
  unfold callProvider at h ⊢
  split at h
  · cases h
  · next hbefore =>
      rw [if_neg hbefore]
      dsimp only at h ⊢
      split at h
      · cases h
      · cases h
      · next raw writes _ => exact ⟨raw, h⟩

theorem callProvider_isEvaluated {input : MultimodalJudgeProviderInput} {memory : Memory}
    {result : MultimodalJudgeProviderResult}
    (h : (callProvider sha256 provider context clock input memory).1 = .ok result) :
    (readInput (callProvider sha256 provider context clock input memory).2 input).IsEvaluated
      result.candidate.questionEvaluations := by
  obtain ⟨raw, hraw⟩ := callProvider_eq_ok h
  obtain ⟨⟨submitted, hreturned⟩, -, -⟩ := acceptProviderResult_eq_ok hraw
  exact hreturned.isEvaluated

/-- A call writes to the buffers of the input only, and keeps their lengths. -/
theorem callProvider_memory (sha256 : Sha256) (provider : InlineMultimodalJudgeProvider)
    (context : ProviderContext) (clock : Clock) (input : MultimodalJudgeProviderInput) (memory : Memory) :
    (callProvider sha256 provider context clock input memory).2 = memory ∨
      ∃ writes : Writes, (callProvider sha256 provider context clock input memory).2 =
        writes.on (input.frames.map fun frame => frame.jpegBytes.address) memory := by
  unfold callProvider
  split
  · exact .inl rfl
  · dsimp only
    split <;> exact .inr ⟨_, rfl⟩

theorem length_callProvider (input : MultimodalJudgeProviderInput) (memory : Memory)
    (address : ℕ) : ((callProvider sha256 provider context clock input memory).2 address).length =
      (memory address).length := by
  rcases callProvider_memory sha256 provider context clock input memory with h | ⟨writes, h⟩
  · rw [h]
  · rw [h, writes.length_on]

theorem manualReviewFallback_isEvaluated {input : MultimodalJudgeProviderInput}
    {descriptor : InlineMultimodalJudgeDescriptor} {warnings : List MultimodalWarningCode}
    {completedAt : JsDate} {diagnostics : Option JudgeEvaluateFailureDiagnostics}
    {result : MultimodalJudgeProviderResult}
    (h : manualReviewFallbackMultimodalJudgeResultV1 sha256 input descriptor warnings completedAt
      diagnostics = .ok result) : input.IsEvaluated result.candidate.questionEvaluations := by
  have harguments : FallbackArguments input descriptor completedAt diagnostics := by
    rw [manualReviewFallbackMultimodalJudgeResultV1, rejectIf_bind_eq_ok] at h
    obtain ⟨h, -⟩ := h
    simp only [not_or, Bool.not_eq_false] at h
    exact ⟨h.1, h.2.1, h.2.2.1, h.2.2.2⟩
  rw [manualReviewFallback_ok sha256 harguments] at h
  cases h
  exact fallbackCandidate_isEvaluated warnings
    (MultimodalJudgeProviderInputV1Schema.distinctIds harguments.input)

theorem recoverProviderResult_isEvaluated {input : MultimodalJudgeProviderInput}
    {warnings : List MultimodalWarningCode} {attempt : Except Caught MultimodalJudgeProviderResult}
    {result : MultimodalJudgeProviderResult}
    (hattempt : ∀ result, attempt = .ok result →
      input.IsEvaluated result.candidate.questionEvaluations)
    (h : recoverProviderResult sha256 provider clock input warnings attempt = .ok result) :
    input.IsEvaluated result.candidate.questionEvaluations := by
  cases attempt with
  | ok settled =>
      cases h
      exact hattempt _ rfl
  | error error =>
      rw [recoverProviderResult] at h
      split at h
      · cases h
      · exact manualReviewFallback_isEvaluated h

theorem concludeRun_reviews {frames : List NormalizedInlineJudgeFrame} {memory : Memory}
    {warnings : List MultimodalWarningCode} {count : ℕ}
    {attempt : Except Caught MultimodalJudgeProviderResult}
    {evaluation : AuthoritativeMultimodalEvaluation}
    (hattempt : ∀ result, attempt = .ok result →
      (readInput memory (projectedInput evaluationInput.trimmed frames)).IsEvaluated
        result.candidate.questionEvaluations)
    (h : concludeRun sha256 provider evaluationInput.trimmed context clock
      (readInput memory (projectedInput evaluationInput.trimmed frames)) warnings count attempt =
        .ok evaluation) : Reviews evaluationInput evaluation := by
  rw [concludeRun, bind_eq_ok] at h
  obtain ⟨result, hresult, h⟩ := h
  have hevaluated := recoverProviderResult_isEvaluated hattempt hresult
  rw [bind_eq_ok] at h
  obtain ⟨_, -, h⟩ := h
  rw [bind_eq_ok] at h
  obtain ⟨_, -, h⟩ := h
  have hprojected : (projectedInput evaluationInput.trimmed frames).IsEvaluated
      result.candidate.questionEvaluations := ⟨hevaluated.questions, hevaluated.evaluated⟩
  exact reviews_of_parseEvaluation hprojected h

/-- The run with frames, once the provider's input is built. -/
theorem runWithFrames_of_projection {input : ProofEvaluationInput}
    {frames : List NormalizedInlineJudgeFrame} {projected : MultimodalJudgeProviderInput}
    (h : projectMultimodalJudgeProviderInputV1 input frames = .ok projected)
    (warnings : List MultimodalWarningCode) (memory : Memory) :
    runWithFrames sha256 provider input context clock frames warnings memory =
      (concludeRun sha256 provider input context clock
        (readInput (callProvider sha256 provider context clock projected memory).2 projected)
        (frameWarningsOf frames warnings) frames.length
        (callProvider sha256 provider context clock projected memory).1,
      (callProvider sha256 provider context clock projected memory).2) := by
  unfold runWithFrames
  rw [h]

/-- An evaluation made with frames is a review. -/
theorem runWithFrames_reviews {frames : List NormalizedInlineJudgeFrame}
    {warnings : List MultimodalWarningCode} {memory : Memory}
    {evaluation : AuthoritativeMultimodalEvaluation}
    (h : (runWithFrames sha256 provider evaluationInput.trimmed context clock frames warnings
      memory).1 = .ok evaluation) : Reviews evaluationInput evaluation := by
  cases hprojected : projectMultimodalJudgeProviderInputV1 evaluationInput.trimmed frames with
  | error error =>
      unfold runWithFrames at h
      rw [hprojected] at h
      cases h
  | ok providerInput =>
      obtain ⟨rfl, -⟩ := projectMultimodalJudgeProviderInputV1_eq_ok hprojected
      rw [runWithFrames_of_projection hprojected] at h
      exact concludeRun_reviews (fun _ => callProvider_isEvaluated) h

theorem runWithoutTranscript_reviews {evaluation : AuthoritativeMultimodalEvaluation}
    (h : runWithoutTranscript sha256 provider evaluationInput.trimmed context clock =
      .ok evaluation) : Reviews evaluationInput evaluation := by
  rw [runWithoutTranscript, bind_eq_ok] at h
  obtain ⟨-, -, h⟩ := h
  rw [bind_eq_ok] at h
  obtain ⟨providerInput, hprojected, h⟩ := h
  obtain ⟨rfl, -⟩ := projectMultimodalJudgeProviderInputV1_eq_ok hprojected
  rw [bind_eq_ok] at h
  obtain ⟨result, hresult, h⟩ := h
  exact reviews_of_parseEvaluation (manualReviewFallback_isEvaluated hresult) h

/-- Whatever a run returns is a review of its input. -/
theorem runMultimodalJudgeEvaluation_reviews {loader : LoaderBehaviour} {memory : Memory}
    {evaluation : AuthoritativeMultimodalEvaluation}
    (h : (runMultimodalJudgeEvaluation sha256 provider evaluationInput context clock loader
      memory).1 = .ok evaluation) : Reviews evaluationInput evaluation := by
  rw [runMultimodalJudgeEvaluation] at h
  split at h
  · cases h
  · dsimp only at h
    split at h
    · cases h
    · split at h
      · rw [runWithTranscript] at h
        dsimp only at h
        split at h
        · cases h
        · split at h
          · cases h
          · exact runWithFrames_reviews h
      · exact runWithoutTranscript_reviews h

/-- Only an accepted input is evaluated. -/
theorem accepts_of_runMultimodalJudgeEvaluation {loader : LoaderBehaviour} {memory : Memory}
    {evaluation : AuthoritativeMultimodalEvaluation}
    (h : (runMultimodalJudgeEvaluation sha256 provider evaluationInput context clock loader
      memory).1 = .ok evaluation) :
    ProofEvaluationInputV1Schema.accepts evaluationInput = true := by
  rw [runMultimodalJudgeEvaluation] at h
  split at h
  · cases h
  · next haccepted =>
      simp only [not_or, Bool.not_eq_false] at haccepted
      exact haccepted.1

end Run

end Worker

end UnderstandProof
