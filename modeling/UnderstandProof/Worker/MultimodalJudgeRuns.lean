import UnderstandProof.Worker.JudgeReviews

/-!
# Runs of the judge

Every run ends with an evaluation for the maintainer or with the error of the deadline,
whatever loader and provider do, and clears the buffers of the frames. There is one more
end: the frames are checked against the duration of the frame selection when they are
loaded, and against the duration of the transcript when the provider's input is built,
so a frame between the two is an error.
-/

open Foundation

namespace UnderstandProof

namespace Worker

open Domain Providers Media

/-! ## Loading -/

/-- What the selection and a loaded frame agree on. -/
def NormalizedInlineJudgeFrame.selected (frame : NormalizedInlineJudgeFrame) :
    JsString × ℕ × FrameReasonCode := (frame.id, frame.timestampMs, frame.reasonCode)

/-- An accepted result of the loader has its frames from the selection. -/
def LoaderBehaviour.TakesFrom (loader : LoaderBehaviour) (selection : FrameSelectionMetadata)
    (memory : Memory) : Prop :=
  ∀ frames warnings writes, loader = .delivers (.fields frames warnings) writes →
    InlineFrameNormalizationResultV1Schema.accepts
      (frames.map (readFrame (writes.apply memory))) warnings = true →
    (frames.map NormalizedInlineJudgeFrame.selected).Subperm
      (selection.frames.map fun frame => (frame.id, frame.timestampMs, frame.reasonCode))

/-- The loader delivers a frame that lies behind the end of the recording. -/
def LoaderBehaviour.DeliversAfter (loader : LoaderBehaviour) (durationMs : ℕ) : Prop :=
  ∃ frames warnings writes, loader = .delivers (.fields frames warnings) writes ∧
    ∃ frame ∈ frames, durationMs < frame.timestampMs

/-- Frames of an accepted selection have different ids. -/
theorem selectedIds_nodup {selection : FrameSelectionMetadata}
    {frames : List NormalizedInlineJudgeFrame}
    (h : FrameSelectionMetadataV1Schema.accepts selection = true)
    (hframes : (frames.map NormalizedInlineJudgeFrame.selected).Subperm
      (selection.frames.map fun frame => (frame.id, frame.timestampMs, frame.reasonCode))) :
    (frames.map fun frame => frame.id).Nodup := by
  have hselection : (selection.frames.map fun frame => frame.id).Nodup := by
    simp only [FrameSelectionMetadataV1Schema.accepts, Bool.and_eq_true, List.isEmpty_iff] at h
    have hissues := h.2
    simp only [FrameSelectionMetadataV1Schema.issues, List.flatMap_eq_nil_iff,
      List.append_eq_nil_iff, issueIf_eq_nil] at hissues
    exact nodup_of_not_mem_take fun entry hentry => (hissues entry hentry).1
  obtain ⟨l, hperm, hsublist⟩ := hframes
  have hids := hperm.map Prod.fst
  rw [List.map_map] at hids
  have hsublistIds := hsublist.map Prod.fst
  rw [List.map_map] at hsublistIds
  exact hids.nodup_iff.mp (hsublistIds.nodup hselection)

section Load

variable {context : ProviderContext} {clock : Clock} {loader : LoaderBehaviour} {memory : Memory}

/-- The loader is only abandoned for the deadline. -/
theorem loadFrames_eq_error {error : Caught}
    (h : (loadFrames context clock loader memory).1 = .error error) :
    error = multimodalDeadlineError ∧ loader.buffers = [] := by
  cases loader with
  | pending writes =>
      cases h
      exact ⟨rfl, rfl⟩
  | rejects rejected writes =>
      simp only [loadFrames] at h
      split at h
      · cases h
        exact ⟨rfl, rfl⟩
      · rcases rejectIf_bind_eq_error.mp h with ⟨-, rfl⟩ | ⟨-, h⟩
        · exact ⟨rfl, rfl⟩
        · cases h
  | delivers value writes =>
      cases value with
      | other buffers => cases h
      | fields frames warnings =>
          simp only [loadFrames] at h
          split at h <;> cases h

/-- Either no frame is left, and the buffers have been cleared, or the result of the
loader is used. -/
theorem loadFrames_eq_ok {frames : List NormalizedInlineJudgeFrame}
    {warnings : List MultimodalWarningCode}
    (h : (loadFrames context clock loader memory).1 = .ok (frames, warnings)) :
    ((frames = [] ∧ warnings = [.framesUnavailable]) ∧
        Cleared (loadFrames context clock loader memory).2 loader.buffers) ∨
      ∃ raw writes, loader = .delivers (.fields raw warnings) writes ∧
        frames = raw.map (readFrame (writes.apply memory)) ∧
        InlineFrameNormalizationResultV1Schema.accepts frames warnings = true ∧
        (loadFrames context clock loader memory).2 = writes.apply memory := by
  cases loader with
  | pending writes => cases h
  | rejects rejected writes =>
      have hbuffers : Cleared (loadFrames context clock (.rejects rejected writes) memory).2
          (LoaderBehaviour.rejects rejected writes).buffers :=
        fun address haddress => absurd haddress List.not_mem_nil
      simp only [loadFrames] at h
      split at h
      · cases h
      · obtain ⟨-, h⟩ := rejectIf_bind_eq_ok.mp h
        cases h
        exact .inl ⟨⟨rfl, rfl⟩, hbuffers⟩
  | delivers value writes =>
      cases value with
      | other buffers =>
          cases h
          exact .inl ⟨⟨rfl, rfl⟩, fillAll_cleared _ _⟩
      | fields raw rawWarnings =>
          simp only [loadFrames] at h ⊢
          split at h
          · next haccepted =>
              cases h
              rw [if_pos haccepted]
              exact .inr ⟨raw, writes, rfl, rfl, haccepted, rfl⟩
          · next haccepted =>
              cases h
              rw [if_neg haccepted]
              exact .inl ⟨⟨rfl, rfl⟩, fillAll_cleared _ _⟩

end Load

/-! ## The warnings of the frames -/

/-- The codes that the schema of the frame warnings lists. -/
def frameWarningCodes : List MultimodalWarningCode :=
  [.framesUnavailable, .framesTruncated, .frameMetadataInvalid, .frameCiphertextUnavailable,
    .frameCiphertextTooLarge, .frameCiphertextHashMismatch, .frameCiphertextInvalid,
    .frameDecryptionFailed, .frameJpegInvalid, .frameDimensionsInvalid]

theorem mem_frameWarningCodes {code : MultimodalWarningCode} (h : isFrameWarning code = true) :
    code ∈ frameWarningCodes := by
  cases code <;> first | decide | cases h

theorem isFrameWarning_of_mem {frames : List NormalizedInlineJudgeFrame}
    {warnings : List MultimodalWarningCode}
    (h : ∀ code ∈ warnings, isFrameWarning code = true) {code : MultimodalWarningCode}
    (hcode : code ∈ frameWarningsOf frames warnings) : isFrameWarning code = true := by
  rw [frameWarningsOf, mem_eraseDups, List.mem_append] at hcode
  rcases hcode with hcode | hcode
  · exact h code hcode
  · split at hcode
    · rw [List.mem_singleton] at hcode
      rw [hcode]
      rfl
    · exact absurd hcode List.not_mem_nil

theorem length_frameWarningsOf_le {frames : List NormalizedInlineJudgeFrame}
    {warnings : List MultimodalWarningCode}
    (h : ∀ code ∈ warnings, isFrameWarning code = true) :
    (frameWarningsOf frames warnings).length ≤ frameWarningCodes.length :=
  length_eraseDups_le fun _ hcode =>
    mem_frameWarningCodes (isFrameWarning_of_mem h (mem_eraseDups.mpr hcode))

/-! ## How a run ends -/

section Ends

variable {sha256 : Sha256} {provider : InlineMultimodalJudgeProvider}
  {evaluationInput : ProofEvaluationInput} {context : ProviderContext} {clock : Clock}

/-- The computation ends with a value or with the error of the deadline. A provider
whose own descriptor is refused has no fallback, which is a third end. -/
def Ends (provider : InlineMultimodalJudgeProvider) {α : Type} (outcome : Except Caught α) :
    Prop :=
  outcome = .error multimodalDeadlineError ∨ (∃ value, outcome = .ok value) ∨
    InlineMultimodalJudgeDescriptorV1Schema.accepts provider.descriptor = false ∧
      outcome = .error (.providerError invalidInputError)

/-- A result that the rest of the run goes on with. -/
structure Acceptable (clock : Clock) (result : MultimodalJudgeProviderResult) : Prop where
  candidate : AuthoritativeCandidateSchema.accepts result.candidate = true
  metadata : MultimodalJudgeInvocationMetadataV1Schema.accepts result.metadata = true
  completedAt : ∃ time, result.metadata.completedAt = some time ∧
    clock.requestStartedAt ≤ time ∧ time ≤ clock.completedAt

theorem Clock.NonDecreasing.requestStartedAt_le_fallbackAt (h : clock.NonDecreasing) :
    clock.requestStartedAt ≤ clock.fallbackAt :=
  calc clock.requestStartedAt ≤ clock.frameFailureAt := h.frameFailureAt
    _ ≤ clock.framesLoadedAt := h.framesLoadedAt
    _ ≤ clock.evaluateStartedAt := h.evaluateStartedAt
    _ ≤ clock.providerCheckedAt := h.providerCheckedAt
    _ ≤ clock.fallbackAt := h.fallbackAt

theorem Clock.NonDecreasing.requestStartedAt_le_completedAt (h : clock.NonDecreasing) :
    clock.requestStartedAt ≤ clock.completedAt :=
  h.requestStartedAt_le_fallbackAt.trans h.completedAt

/-- The answer of a provider that has been accepted is acceptable. -/
theorem acceptProviderResult_acceptable (hclock : clock.NonDecreasing)
    {input : MultimodalJudgeProviderInput} {raw : Option MultimodalJudgeProviderResult}
    {result : MultimodalJudgeProviderResult}
    (h : acceptProviderResult sha256 provider context clock input raw = .ok result) :
    Acceptable clock result := by
  obtain ⟨⟨submitted, hreturned⟩, hmetadata, hbounds⟩ := acceptProviderResult_eq_ok h
  have hids := MultimodalJudgeProviderInputV1Schema.distinctIds hreturned.inputAccepted
  refine ⟨AuthoritativeCandidateSchema.accepts_of_isEvaluated hids hreturned.accepted
    hreturned.isEvaluated hreturned.coherent.pass, hmetadata, ?_⟩
  have hvalid : result.metadata.completedAt.isSome = true := by
    simp only [MultimodalJudgeInvocationMetadataV1Schema.accepts, Bool.and_eq_true] at hmetadata
    exact hmetadata.1.2
  obtain ⟨time, htime⟩ := Option.isSome_iff_exists.mp hvalid
  rw [assertProviderCompletionBounds, htime, rejectIf_eq_ok] at hbounds
  simp only [JsDate.gt, decide_eq_true_eq, not_or, not_lt] at hbounds
  exact ⟨time, htime, hbounds.1,
    (hbounds.2.1.trans hclock.fallbackAt).trans hclock.completedAt⟩

variable (sha256 provider) in
/-- The fallback exists, and is acceptable, unless the descriptor is refused. -/
theorem manualReviewFallback_ends {input : MultimodalJudgeProviderInput}
    (hinput : MultimodalJudgeProviderInputV1Schema.accepts input = true)
    {completedAt : Timestamp} (hstarted : clock.requestStartedAt ≤ completedAt)
    (hcompleted : completedAt ≤ clock.completedAt)
    {diagnostics : Option JudgeEvaluateFailureDiagnostics}
    (hdiagnostics : diagnostics.all JudgeEvaluateFailureDiagnosticsV1Schema.accepts = true)
    (warnings : List MultimodalWarningCode) :
    (∃ result, manualReviewFallbackMultimodalJudgeResultV1 sha256 input provider.descriptor
        warnings (some completedAt) diagnostics = .ok result ∧ Acceptable clock result) ∨
      InlineMultimodalJudgeDescriptorV1Schema.accepts provider.descriptor = false ∧
        manualReviewFallbackMultimodalJudgeResultV1 sha256 input provider.descriptor warnings
          (some completedAt) diagnostics = .error (.providerError invalidInputError) := by
  cases hdescriptor : InlineMultimodalJudgeDescriptorV1Schema.accepts provider.descriptor with
  | false =>
      refine .inr ⟨rfl, ?_⟩
      rw [manualReviewFallbackMultimodalJudgeResultV1, rejectIf_of (.inr (.inl hdescriptor)),
        except_error_bind]
  | true =>
      have harguments : FallbackArguments input provider.descriptor (some completedAt)
          diagnostics := ⟨hinput, hdescriptor, rfl, hdiagnostics⟩
      exact .inl ⟨_, manualReviewFallback_ok sha256 harguments warnings,
        fallbackCandidate_authoritative warnings hinput,
        fallbackMetadata_accepted sha256 harguments _, completedAt, rfl, hstarted, hcompleted⟩

variable (sha256 provider) in
theorem recoverProviderResult_ends (hclock : clock.NonDecreasing)
    {input : MultimodalJudgeProviderInput}
    (hinput : MultimodalJudgeProviderInputV1Schema.accepts input = true)
    {attempt : Except Caught MultimodalJudgeProviderResult}
    (hattempt : ∀ result, attempt = .ok result → Acceptable clock result)
    (warnings : List MultimodalWarningCode) :
    recoverProviderResult sha256 provider clock input warnings attempt =
        .error multimodalDeadlineError ∨
      (∃ result, recoverProviderResult sha256 provider clock input warnings attempt = .ok result ∧
        Acceptable clock result) ∨
      InlineMultimodalJudgeDescriptorV1Schema.accepts provider.descriptor = false ∧
        recoverProviderResult sha256 provider clock input warnings attempt =
          .error (.providerError invalidInputError) := by
  cases attempt with
  | ok result => exact .inr (.inl ⟨result, rfl, hattempt result rfl⟩)
  | error error =>
      rw [recoverProviderResult]
      split
      · exact .inl rfl
      · refine .inr (manualReviewFallback_ends sha256 provider hinput
          hclock.requestStartedAt_le_fallbackAt hclock.completedAt ?_ _)
        rw [Option.all_some]
        exact describeJudgeEvaluateFailure_accepted _ _ _ _

/-- Before the deadline an acceptable result makes an accepted evaluation. -/
theorem proofEvaluation_accepted (h : evaluationInput.Accepted)
    {result : MultimodalJudgeProviderResult} (hresult : Acceptable clock result)
    {warnings : List MultimodalWarningCode}
    (hwarnings : ∀ code ∈ warnings, isFrameWarning code = true) (hlength : warnings.length ≤ 10)
    (hnodup : warnings.Nodup) {count : ℕ} (hcount : count ≤ 4) :
    AuthoritativeMultimodalEvaluationV1Schema.accepts
      (proofEvaluation evaluationInput.trimmed result warnings count clock.completedAt) =
        true := by
  have hissues : AuthoritativeMultimodalEvaluationV1Schema.issues (proofEvaluation
      evaluationInput.trimmed result warnings count clock.completedAt) = [] := by
    obtain ⟨time, htime, -, hcompleted⟩ := hresult.completedAt
    simp only [AuthoritativeMultimodalEvaluationV1Schema.issues, List.append_eq_nil_iff,
      issueIf_eq_nil, not_not]
    refine ⟨hnodup, ?_⟩
    simp only [proofEvaluation, htime, JsDate.gt, decide_eq_true_eq, not_lt]
    exact hcompleted
  simp only [AuthoritativeMultimodalEvaluationV1Schema.accepts, hissues, Bool.and_eq_true,
    and_assoc]
  exact ⟨h.attemptId, h.revisionId, h.headSha, hresult.candidate, hresult.metadata,
    List.all_eq_true.mpr hwarnings, decide_eq_true hlength,
    decide_eq_true (hcount.trans (by decide)), rfl, rfl, rfl, rfl⟩

theorem parseEvaluation_ok {evaluation : AuthoritativeMultimodalEvaluation}
    (h : AuthoritativeMultimodalEvaluationV1Schema.accepts evaluation = true) :
    parseEvaluation evaluation = .ok evaluation.trimmed := by
  rw [parseEvaluation, rejectIf_of_not (by simp [h]), except_ok_bind]
  rfl

/-- What comes after the call of the provider. -/
theorem concludeRun_ends (h : evaluationInput.Accepted)
    (hdeadline : context.deadlineAt.isSome = true) (hclock : clock.NonDecreasing)
    {input : MultimodalJudgeProviderInput}
    (hinput : MultimodalJudgeProviderInputV1Schema.accepts input = true)
    {attempt : Except Caught MultimodalJudgeProviderResult}
    (hattempt : ∀ result, attempt = .ok result → Acceptable clock result)
    {warnings : List MultimodalWarningCode}
    (hwarnings : ∀ code ∈ warnings, isFrameWarning code = true) (hlength : warnings.length ≤ 10)
    (hnodup : warnings.Nodup) {count : ℕ} (hcount : count ≤ 4) :
    Ends provider (concludeRun sha256 provider evaluationInput.trimmed context clock input warnings
      count attempt) := by
  rw [concludeRun]
  rcases recoverProviderResult_ends sha256 provider hclock hinput hattempt warnings with hresult | ⟨result, hresult, hacceptable⟩ | ⟨hdescriptor, hresult⟩
  · rw [hresult, except_error_bind]
    exact .inl rfl
  · rw [hresult, except_ok_bind]
    obtain ⟨deadline, hdeadline⟩ := Option.isSome_iff_exists.mp hdeadline
    by_cases hbefore : deadline ≤ clock.completedAt
    · left
      rw [assertBeforeMultimodalDeadline, rejectIf_of (by simp [hdeadline, JsDate.le, hbefore]),
        except_error_bind]
    · right
      left
      obtain ⟨time, htime, hstarted, hcompleted⟩ := hacceptable.completedAt
      have hbounds : ¬ (JsDate.gt (some clock.requestStartedAt) result.metadata.completedAt =
            true ∨
          JsDate.gt result.metadata.completedAt (some clock.completedAt) = true ∨
          JsDate.le context.deadlineAt result.metadata.completedAt = true) := by
        simp only [htime, hdeadline, JsDate.gt, JsDate.le, decide_eq_true_eq, not_or, not_lt,
          not_le]
        exact ⟨hstarted, hcompleted, lt_of_le_of_lt hcompleted (not_le.mp hbefore)⟩
      rw [assertBeforeMultimodalDeadline,
        rejectIf_of_not (by simp [hdeadline, JsDate.le, hbefore]), except_ok_bind,
        assertProviderCompletionBounds, rejectIf_of_not hbounds, except_ok_bind]
      exact ⟨_, parseEvaluation_ok
        (proofEvaluation_accepted h hacceptable hwarnings hlength hnodup hcount)⟩
  · rw [hresult, except_error_bind]
    exact .inr (.inr ⟨hdescriptor, rfl⟩)

/-- With frames that fit, everything but the deadline is recovered from. -/
theorem runWithFrames_ends (h : evaluationInput.Accepted)
    (hdeadline : context.deadlineAt.isSome = true) (hclock : clock.NonDecreasing)
    {frames : List NormalizedInlineJudgeFrame}
    (hframes : FramesFit evaluationInput.transcript.durationMs frames)
    {warnings : List MultimodalWarningCode}
    (hwarnings : ∀ code ∈ warnings, isFrameWarning code = true) {memory : Memory}
    (hmemory : ∀ frame ∈ frames,
      (memory frame.jpegBytes.address).length = frame.jpegBytes.bytes.length) :
    Ends provider (runWithFrames sha256 provider evaluationInput.trimmed context clock frames
      warnings memory).1 := by
  rw [runWithFrames_of_projection (projectMultimodalJudgeProviderInputV1_ok h hframes)]
  refine concludeRun_ends h hdeadline hclock ?_ ?_ (fun code => isFrameWarning_of_mem hwarnings)
    (length_frameWarningsOf_le hwarnings) (nodup_eraseDups _) hframes.length_le
  · rw [readInput_projectedInput]
    refine projectedInput_accepted h (hframes.readFrame fun frame hframe => ?_)
    rw [length_callProvider]
    exact hmemory frame hframe
  · intro result hresult
    obtain ⟨raw, hraw⟩ := callProvider_eq_ok hresult
    exact acceptProviderResult_acceptable hclock hraw

theorem runWithoutTranscript_ends (h : evaluationInput.Accepted) (hclock : clock.NonDecreasing) :
    Ends provider (runWithoutTranscript sha256 provider evaluationInput.trimmed context clock) := by
  have hprojected := projectMultimodalJudgeProviderInputV1_ok h (framesFit_nil _)
  rw [runWithoutTranscript]
  by_cases hbefore : JsDate.le context.deadlineAt (some clock.completedAt) = true
  · rw [assertBeforeMultimodalDeadline, rejectIf_of hbefore, except_error_bind]
    exact .inl rfl
  · rw [assertBeforeMultimodalDeadline, rejectIf_of_not hbefore, except_ok_bind, hprojected,
      except_ok_bind]
    have hnone : (none : Option JudgeEvaluateFailureDiagnostics).all
        JudgeEvaluateFailureDiagnosticsV1Schema.accepts = true := rfl
    rcases manualReviewFallback_ends sha256 provider (projectedInput_accepted h (framesFit_nil _))
      hclock.requestStartedAt_le_completedAt le_rfl hnone [.questionTranscriptUnavailable] with
      ⟨result, hresult, hacceptable⟩ | ⟨hdescriptor, hresult⟩
    · rw [hresult, except_ok_bind]
      exact .inr (.inl ⟨_, parseEvaluation_ok (proofEvaluation_accepted h hacceptable
        (fun code hcode => absurd hcode List.not_mem_nil) (Nat.zero_le _) List.nodup_nil
        (Nat.zero_le _))⟩)
    · rw [hresult, except_error_bind]
      exact .inr (.inr ⟨hdescriptor, rfl⟩)

/-! ## Whole runs -/

theorem runWithFrames_nil_memory (input : ProofEvaluationInput)
    (warnings : List MultimodalWarningCode) (memory : Memory) :
    (runWithFrames sha256 provider input context clock [] warnings memory).2 = memory := by
  cases hprojected : projectMultimodalJudgeProviderInputV1 input [] with
  | error error =>
      unfold runWithFrames
      rw [hprojected]
  | ok projected =>
      obtain ⟨rfl, -⟩ := projectMultimodalJudgeProviderInputV1_eq_ok hprojected
      rw [runWithFrames_of_projection hprojected]
      rcases callProvider_memory sha256 provider context clock (projectedInput input []) memory with
        h | ⟨writes, h⟩
      · exact h
      · rw [h]
        exact writes.on_nil memory

/-- Clearing the loaded frames clears the buffers that the loader delivered. -/
theorem loaded_cleared {loader : LoaderBehaviour} {memory memory' : Memory}
    {frames : List NormalizedInlineJudgeFrame} {warnings : List MultimodalWarningCode}
    (h : (loadFrames context clock loader memory).1 = .ok (frames, warnings))
    (hmemory : frames = [] → memory' = (loadFrames context clock loader memory).2) :
    Cleared (memory'.fillAll (frames.map fun frame => frame.jpegBytes.address))
      loader.buffers := by
  rcases loadFrames_eq_ok h with ⟨⟨rfl, -⟩, hcleared⟩ | ⟨raw, writes, rfl, rfl, -, -⟩
  · rw [hmemory rfl]
    exact hcleared
  · have haddresses : (raw.map (readFrame (writes.apply memory))).map
        (fun frame => frame.jpegBytes.address) = raw.map fun frame => frame.jpegBytes.address := by
      rw [List.map_map]
      rfl
    rw [haddresses]
    exact fillAll_cleared _ _

theorem runWithTranscript_of_error {loader : LoaderBehaviour} {memory : Memory} {error : Caught}
    (h : (loadFrames context clock loader memory).1 = .error error) :
    runWithTranscript sha256 provider evaluationInput context clock loader memory =
      (.error error, (loadFrames context clock loader memory).2) := by
  unfold runWithTranscript
  dsimp only
  rw [h]

/-- The run after the frames are loaded: it stops at the deadline, or goes on with them. -/
theorem runWithTranscript_of_loaded {loader : LoaderBehaviour} {memory : Memory}
    {frames : List NormalizedInlineJudgeFrame} {warnings : List MultimodalWarningCode}
    (h : (loadFrames context clock loader memory).1 = .ok (frames, warnings)) :
    let loaded := (loadFrames context clock loader memory).2
    let addresses := frames.map fun frame => frame.jpegBytes.address
    runWithTranscript sha256 provider evaluationInput context clock loader memory =
      if JsDate.le context.deadlineAt (some clock.framesLoadedAt) = true then
        (.error multimodalDeadlineError, loaded.fillAll addresses)
      else
        let run := runWithFrames sha256 provider evaluationInput context clock frames warnings
          loaded
        (run.1, run.2.fillAll addresses) := by
  unfold runWithTranscript
  dsimp only
  rw [h, assertBeforeMultimodalDeadline]
  by_cases hbefore : JsDate.le context.deadlineAt (some clock.framesLoadedAt) = true
  · rw [if_pos hbefore, rejectIf_of hbefore]
  · rw [if_neg hbefore, rejectIf_of_not hbefore]

theorem runWithTranscript_cleared (loader : LoaderBehaviour) (memory : Memory) :
    Cleared (runWithTranscript sha256 provider evaluationInput context clock loader memory).2
      loader.buffers := by
  cases hloaded : (loadFrames context clock loader memory).1 with
  | error error =>
      rw [(loadFrames_eq_error hloaded).2]
      exact fun address haddress => absurd haddress List.not_mem_nil
  | ok loaded =>
      obtain ⟨frames, warnings⟩ := loaded
      rw [runWithTranscript_of_loaded hloaded]
      split
      · exact loaded_cleared hloaded fun _ => rfl
      · refine loaded_cleared hloaded fun hframes => ?_
        rw [hframes]
        exact runWithFrames_nil_memory _ _ _

/-- The frames of an accepted result fit, or one of them lies behind the end. -/
theorem framesFit_or_late {durationMs : ℕ} {selection : FrameSelectionMetadata}
    (hselection : FrameSelectionMetadataV1Schema.accepts selection = true)
    {frames : List NormalizedInlineJudgeFrame} {warnings : List MultimodalWarningCode}
    (h : InlineFrameNormalizationResultV1Schema.accepts frames warnings = true)
    (hframes : (frames.map NormalizedInlineJudgeFrame.selected).Subperm
      (selection.frames.map fun frame => (frame.id, frame.timestampMs, frame.reasonCode))) :
    FramesFit durationMs frames ∨ ∃ frame ∈ frames, durationMs < frame.timestampMs := by
  simp only [InlineFrameNormalizationResultV1Schema.accepts, Bool.and_eq_true,
    List.all_eq_true, decide_eq_true_eq, and_assoc] at h
  by_cases hlate : ∃ frame ∈ frames, durationMs < frame.timestampMs
  · exact .inr hlate
  · push Not at hlate
    exact .inl ⟨h.1, h.2.1, selectedIds_nodup hselection hframes, hlate⟩

theorem runWithTranscript_ends (h : evaluationInput.Accepted)
    (hdeadline : context.deadlineAt.isSome = true) (hclock : clock.NonDecreasing)
    {loader : LoaderBehaviour} {memory : Memory}
    (hloader : loader.TakesFrom evaluationInput.frameSelection memory) :
    Ends provider (runWithTranscript sha256 provider evaluationInput.trimmed context clock loader
        memory).1 ∨
      (runWithTranscript sha256 provider evaluationInput.trimmed context clock loader memory).1 =
          .error .zodError ∧ loader.DeliversAfter evaluationInput.transcript.durationMs := by
  cases hloaded : (loadFrames context clock loader memory).1 with
  | error error =>
      rw [runWithTranscript_of_error hloaded, (loadFrames_eq_error hloaded).1]
      exact .inl (.inl rfl)
  | ok loaded =>
      obtain ⟨frames, warnings⟩ := loaded
      rw [runWithTranscript_of_loaded hloaded]
      split
      · exact .inl (.inl rfl)
      · rcases loadFrames_eq_ok hloaded with ⟨⟨rfl, rfl⟩, -⟩ | ⟨raw, writes, rfl, rfl, haccepted,
          hmemory⟩
        · have hwarnings : ∀ code ∈ [MultimodalWarningCode.framesUnavailable],
              isFrameWarning code = true := by decide
          exact .inl (runWithFrames_ends h hdeadline hclock (framesFit_nil _) hwarnings
            fun frame hframe => absurd hframe List.not_mem_nil)
        · have htaken := hloader raw warnings writes rfl haccepted
          have hselected : raw.map NormalizedInlineJudgeFrame.selected =
              (raw.map (readFrame (writes.apply memory))).map
                NormalizedInlineJudgeFrame.selected := by
            rw [List.map_map]
            rfl
          rw [hselected] at htaken
          rcases framesFit_or_late h.frameSelection haccepted htaken with hframes |
            ⟨frame, hframe, hlate⟩
          · have hwarnings : ∀ code ∈ warnings, isFrameWarning code = true := by
              simp only [InlineFrameNormalizationResultV1Schema.accepts, Bool.and_eq_true,
                List.all_eq_true] at haccepted
              exact haccepted.2
            refine .inl (runWithFrames_ends h hdeadline hclock hframes hwarnings ?_)
            intro frame hframe
            obtain ⟨stored, -, rfl⟩ := List.mem_map.mp hframe
            rw [hmemory]
            rfl
          · right
            constructor
            · cases hprojected : projectMultimodalJudgeProviderInputV1 evaluationInput.trimmed
                (raw.map (readFrame (writes.apply memory))) with
              | error error =>
                  rw [projectMultimodalJudgeProviderInputV1_eq_error hprojected] at hprojected
                  unfold runWithFrames
                  rw [hprojected]
              | ok projected =>
                  obtain ⟨rfl, hprojected⟩ :=
                    projectMultimodalJudgeProviderInputV1_eq_ok hprojected
                  exact absurd (timing_of_accepts hprojected frame hframe) (Nat.not_le.mpr hlate)
            · obtain ⟨stored, hstored, rfl⟩ := List.mem_map.mp hframe
              exact ⟨raw, warnings, writes, rfl, stored, hstored, hlate⟩

end Ends

/-- Whether a run gets as far as to call the loader. -/
def callsLoader (evaluationInput : ProofEvaluationInput) (context : ProviderContext)
    (clock : Clock) : Bool :=
  !JsDate.le context.deadlineAt (some clock.requestStartedAt) &&
    hasCompleteQuestionBoundTranscriptEvidence evaluationInput.trimmed

/-- A run ends with the error of the deadline or with a review of its input, unless the
descriptor of the provider is refused or a frame lies behind the end of the transcript;
however it ends, the buffers that the loader has delivered are cleared. -/
theorem runMultimodalJudgeEvaluation_ends (sha256 : Sha256)
    (provider : InlineMultimodalJudgeProvider) {evaluationInput : ProofEvaluationInput}
    {context : ProviderContext} {clock : Clock} {loader : LoaderBehaviour} {memory : Memory}
    (hinput : ProofEvaluationInputV1Schema.accepts evaluationInput = true)
    (hcontext : ProviderContextV1Schema.accepts context = true)
    (hattempt : context.attemptId = evaluationInput.attemptId) (hclock : clock.NonDecreasing)
    (hloader : loader.TakesFrom evaluationInput.frameSelection memory) :
    let run := runMultimodalJudgeEvaluation sha256 provider evaluationInput context clock loader
      memory
    (run.1 = .error multimodalDeadlineError ∨
      (∃ evaluation, run.1 = .ok evaluation ∧ Reviews evaluationInput evaluation) ∨
      (InlineMultimodalJudgeDescriptorV1Schema.accepts provider.descriptor = false ∧
        run.1 = .error (.providerError invalidInputError)) ∨
      (loader.DeliversAfter evaluationInput.transcript.durationMs ∧ run.1 = .error .zodError)) ∧
    (callsLoader evaluationInput context clock = true → Cleared run.2 loader.buffers) := by
  have haccepted := ProofEvaluationInputV1Schema.accepted hinput
  have hdeadline : context.deadlineAt.isSome = true := by
    simp only [ProviderContextV1Schema.accepts, Bool.and_eq_true] at hcontext
    exact hcontext.2
  intro run
  have hrun : run = runMultimodalJudgeEvaluation sha256 provider evaluationInput context clock
    loader memory := rfl
  have hends : Ends provider run.1 ∨
      run.1 = .error .zodError ∧ loader.DeliversAfter evaluationInput.transcript.durationMs := by
    rw [hrun, runMultimodalJudgeEvaluation, if_neg (by simp [hinput, hcontext, hattempt])]
    by_cases hbefore : JsDate.le context.deadlineAt (some clock.requestStartedAt) = true
    · rw [assertBeforeMultimodalDeadline, rejectIf_of hbefore]
      exact .inl (.inl rfl)
    · rw [assertBeforeMultimodalDeadline, rejectIf_of_not hbefore]
      dsimp only
      split
      · exact runWithTranscript_ends haccepted hdeadline hclock hloader
      · exact .inl (runWithoutTranscript_ends haccepted hclock)
  constructor
  · rcases hends with (hend | ⟨evaluation, hend⟩ | ⟨hdescriptor, hend⟩) | ⟨hend, hlate⟩
    · exact .inl hend
    · exact .inr (.inl ⟨evaluation, hend, runMultimodalJudgeEvaluation_reviews hend⟩)
    · exact .inr (.inr (.inl ⟨hdescriptor, hend⟩))
    · exact .inr (.inr (.inr ⟨hlate, hend⟩))
  · intro hcalls
    simp only [callsLoader, Bool.and_eq_true, Bool.not_eq_true'] at hcalls
    rw [hrun, runMultimodalJudgeEvaluation, if_neg (by simp [hinput, hcontext, hattempt]),
      assertBeforeMultimodalDeadline, rejectIf_of_not (by simp [hcalls.1])]
    dsimp only
    rw [if_pos hcalls.2]
    exact runWithTranscript_cleared loader memory

/-! ## A run whose frame lies behind the transcript -/

/-- Foreign code that leaves the buffers as they are. -/
def noWrites : Writes := ⟨id, fun _ _ => rfl⟩

def sampleSelectedFrame : FrameSelectionItem where
  id := js "40000000-0000-4000-8000-000000000001"
  timestampMs := 2500
  reasonCode := .qualityCheck
  reason := js "sampled"
  encryptedDerivativeRef := js "40000000-0000-4000-8000-000000000002"
  ciphertextSha256 := List.replicate 64 0x61
  width := 640
  height := 480

/-- The recording of the selection is longer than that of the transcript. -/
def sampleEvaluationInput : ProofEvaluationInput where
  attemptId := sampleContext.attemptId
  revisionId := js "40000000-0000-4000-8000-000000000003"
  headSha := List.replicate 40 0x61
  questions := [{
    id := js "40000000-0000-4000-8000-000000000004"
    prompt := js "Why does the guard come first?"
    patchAnchorIds := [js "a0"]
    rubric := [⟨sampleCriterionId, js "Names the guard", [js "guard"]⟩] }]
  patchEvidence := [⟨js "a0", ⟨.pullRequestFilename, js "a.ts"⟩, ⟨.pullRequestPatch, js "+guard"⟩⟩]
  transcript := {
    id := js "40000000-0000-4000-8000-000000000005"
    attemptId := sampleContext.attemptId
    provider := js "local"
    model := js "local"
    language := js "en"
    durationMs := 2000
    sourceSha256 := List.replicate 64 0x61
    segments := [⟨js "40000000-0000-4000-8000-000000000006",
      some (js "40000000-0000-4000-8000-000000000004"), 0, 1000, .contributor,
      ⟨.transcript, js "It rejects early."⟩⟩]
    createdAt := some 0 }
  frameSelection := ⟨sampleContext.attemptId, 3000, [sampleSelectedFrame]⟩

def sampleClock : Clock := ⟨0, 1, 2, 3, 4, 5, 6⟩

/-- The loader delivers the selected frame in the buffer at address 7. -/
def sampleLoader : LoaderBehaviour :=
  .delivers (.fields [⟨sampleSelectedFrame.id, sampleSelectedFrame.timestampMs,
    sampleSelectedFrame.reasonCode, ⟨7, []⟩⟩] []) noWrites

/-- The provider of the local fake. -/
def sampleProvider : InlineMultimodalJudgeProvider where
  descriptor := LocalFakeInlineMultimodalJudgeProvider.descriptor
  transportFallbackDescriptor := none
  evaluate input context :=
    match LocalFakeInlineMultimodalJudgeProvider.evaluate Providers.sampleSha256 input context (some 3)
      (some 4) with
    | .ok result => .returns (some result) noWrites
    | .error error => .throws error noWrites

def sampleMemory : Memory := fun _ => [0xff, 0xd8, 0xff, 0xd9]

theorem sampleClock_nonDecreasing : sampleClock.NonDecreasing := by
  constructor <;> decide

theorem sampleLoader_takesFrom :
    sampleLoader.TakesFrom sampleEvaluationInput.frameSelection sampleMemory := by
  intro frames warnings writes h _
  cases h
  exact List.Subperm.refl _

theorem runMultimodalJudgeEvaluation_ends_sample :
    Cleared (runMultimodalJudgeEvaluation Providers.sampleSha256 sampleProvider sampleEvaluationInput
      sampleContext sampleClock sampleLoader sampleMemory).2 [7] :=
  (runMultimodalJudgeEvaluation_ends Providers.sampleSha256 sampleProvider (by decide) (by decide)
    rfl sampleClock_nonDecreasing sampleLoader_takesFrom).2 (by decide)

/-- The run rejects with the error of a schema. -/
theorem runMultimodalJudgeEvaluation_zodError :
    ProofEvaluationInputV1Schema.accepts sampleEvaluationInput = true ∧
      ProviderContextV1Schema.accepts sampleContext = true ∧
      sampleContext.attemptId = sampleEvaluationInput.attemptId ∧
      InlineMultimodalJudgeDescriptorV1Schema.accepts sampleProvider.descriptor = true ∧
      sampleClock.NonDecreasing ∧
      sampleLoader.TakesFrom sampleEvaluationInput.frameSelection sampleMemory ∧
      (runMultimodalJudgeEvaluation Providers.sampleSha256 sampleProvider sampleEvaluationInput
        sampleContext sampleClock sampleLoader sampleMemory).1 = .error .zodError :=
  ⟨by decide, by decide, rfl, by decide, sampleClock_nonDecreasing,
    sampleLoader_takesFrom, rfl⟩

end Worker

end UnderstandProof
