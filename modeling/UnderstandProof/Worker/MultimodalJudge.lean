import UnderstandProof.Providers.AuthoritativeEvaluation
import UnderstandProof.Providers.EvaluationInput
import UnderstandProof.Providers.JudgeResult

/-!
# The evaluation of a proof

The worker's run of the judge: the frames are loaded, the provider is asked, and an
evaluation for the maintainer is returned. The loader and the provider are whatever
they like, the clock is read at the places that the source reads it, and the buffers of
the frames are memory that the run has to clear.
-/

open Foundation

namespace UnderstandProof

namespace Worker

open Domain Providers Media

/-! ## Memory -/

/-- The bytes of the buffers. -/
abbrev Memory := ℕ → List UInt8

/-- `buffer.fill(0)` -/
def Memory.fill0 (memory : Memory) (address : ℕ) : Memory := fun other =>
  if other = address then List.replicate (memory other).length 0 else memory other

def Memory.fillAll (memory : Memory) (addresses : List ℕ) : Memory :=
  addresses.foldl Memory.fill0 memory

/-- What foreign code does to the buffers; a typed array keeps its length. -/
structure Writes where
  apply : Memory → Memory
  length_apply : ∀ memory address, (apply memory address).length = (memory address).length

/-- The memory after code has run that was handed the buffers at these addresses. -/
def Writes.on (writes : Writes) (addresses : List ℕ) (memory : Memory) : Memory := fun address =>
  if address ∈ addresses then writes.apply memory address else memory address

/-- The frame with the bytes that its buffer holds now. -/
def readFrame (memory : Memory) (frame : NormalizedInlineJudgeFrame) :
    NormalizedInlineJudgeFrame :=
  { frame with jpegBytes := ⟨frame.jpegBytes.address, memory frame.jpegBytes.address⟩ }

/-- The provider input with the bytes that its buffers hold now. -/
def readInput (memory : Memory) (input : MultimodalJudgeProviderInput) :
    MultimodalJudgeProviderInput :=
  { input with frames := input.frames.map (readFrame memory) }

/-! ## Loader, provider and clock -/

/-- A value that the loader delivers: one with the fields of a result, or one of
another shape with the buffers that its frames hold. -/
inductive RawLoadedFrames where
  | fields (frames : List NormalizedInlineJudgeFrame) (warnings : List MultimodalWarningCode)
  | other (buffers : List ℕ)

def RawLoadedFrames.buffers : RawLoadedFrames → List ℕ
  | .fields frames _ => frames.map fun frame => frame.jpegBytes.address
  | .other buffers => buffers

/-- What the loader does before the deadline: it may also not settle. -/
inductive LoaderBehaviour where
  | delivers (value : RawLoadedFrames) (writes : Writes)
  | rejects (error : Caught) (writes : Writes)
  | pending (writes : Writes)

def LoaderBehaviour.buffers : LoaderBehaviour → List ℕ
  | .delivers value _ => value.buffers
  | _ => []

/-- What the provider does before the deadline; a value of another shape is `none`. -/
inductive ProviderBehaviour where
  | returns (result : Option MultimodalJudgeProviderResult) (writes : Writes)
  | throws (error : Caught) (writes : Writes)
  | pending (writes : Writes)

structure InlineMultimodalJudgeProvider where
  descriptor : InlineMultimodalJudgeDescriptor
  transportFallbackDescriptor : Option InlineMultimodalJudgeDescriptor
  evaluate : MultimodalJudgeProviderInput → ProviderContext → ProviderBehaviour

/-- The readings of the clock by what they are read for. A run does not take all of
them. -/
structure Clock where
  requestStartedAt : Timestamp
  frameFailureAt : Timestamp
  framesLoadedAt : Timestamp
  evaluateStartedAt : Timestamp
  providerCheckedAt : Timestamp
  fallbackAt : Timestamp
  completedAt : Timestamp

structure Clock.NonDecreasing (clock : Clock) : Prop where
  frameFailureAt : clock.requestStartedAt ≤ clock.frameFailureAt
  framesLoadedAt : clock.frameFailureAt ≤ clock.framesLoadedAt
  evaluateStartedAt : clock.framesLoadedAt ≤ clock.evaluateStartedAt
  providerCheckedAt : clock.evaluateStartedAt ≤ clock.providerCheckedAt
  fallbackAt : clock.providerCheckedAt ≤ clock.fallbackAt
  completedAt : clock.fallbackAt ≤ clock.completedAt

/-! ## Checks -/

def multimodalDeadlineError : Caught :=
  .providerError (.plain .deadlineExceeded .retryable)

def isMultimodalDeadlineError : Caught → Bool
  | .frameLoadDeadlineExceeded => true
  | .providerError failure => failure.code == .deadlineExceeded
  | _ => false

def assertBeforeMultimodalDeadline (context : ProviderContext) (now : Timestamp) :
    Except Caught Unit :=
  rejectIf (JsDate.le context.deadlineAt (some now) = true) multimodalDeadlineError

def assertProviderCompletionBounds (providerCompletedAt : JsDate)
    (requestStartedAt serviceCompletedAt : Timestamp) (deadlineAt : JsDate) :
    Except Caught Unit :=
  rejectIf (JsDate.gt (some requestStartedAt) providerCompletedAt = true ∨
      JsDate.gt providerCompletedAt (some serviceCompletedAt) = true ∨
      JsDate.le deadlineAt providerCompletedAt = true)
    (.providerError (.plain .invalidOutput .review))

def InlineFrameNormalizationResultV1Schema.accepts (frames : List NormalizedInlineJudgeFrame)
    (warnings : List MultimodalWarningCode) : Bool :=
  frames.length ≤ 4 && frames.all NormalizedInlineJudgeFrameV1Schema.accepts &&
    warnings.length ≤ 10 && warnings.all isFrameWarning

/-! ## The provider's input -/

def projectQuestion (question : EvaluationQuestion) : JudgeQuestion where
  id := question.id
  prompt := ⟨.storedProofQuestion, question.prompt⟩
  patchAnchorIds := question.patchAnchorIds
  criteria := question.rubric.map fun criterion =>
    { id := criterion.id
      description := ⟨.storedRubric, criterion.description⟩
      requiredTerms := criterion.requiredTerms.map fun term => ⟨.storedRubric, term⟩ }

def projectAnchor (anchor : PatchEvidence) : JudgePatchAnchor where
  anchorId := anchor.anchorId
  filename := ⟨.boundedPatchAnchor, anchor.filename.content⟩
  patch := ⟨.boundedPatchAnchor, anchor.patch.content⟩

/-- Segments without a question are left out. -/
def projectSegment (segment : TranscriptSegment) : Option JudgeTranscriptSegment :=
  segment.questionId.map fun questionId =>
    { questionId
      startMs := segment.startMs
      endMs := segment.endMs
      text := ⟨.questionBoundTranscript, segment.text.content⟩ }

/-- The provider input before its schema is applied. -/
def projectedInput (evaluationInput : ProofEvaluationInput)
    (frames : List NormalizedInlineJudgeFrame) : MultimodalJudgeProviderInput where
  headSha := evaluationInput.headSha
  questions := evaluationInput.questions.map projectQuestion
  patchAnchors := evaluationInput.patchEvidence.map projectAnchor
  transcriptSegments := evaluationInput.transcript.segments.filterMap projectSegment
  recordingDurationMs := evaluationInput.transcript.durationMs
  frames

def projectMultimodalJudgeProviderInputV1 (evaluationInput : ProofEvaluationInput)
    (frames : List NormalizedInlineJudgeFrame) : Except Caught MultimodalJudgeProviderInput := do
  let input := projectedInput evaluationInput frames
  rejectIf (MultimodalJudgeProviderInputV1Schema.accepts input = false) .zodError
  return input

def hasCompleteQuestionBoundTranscriptEvidence (evaluationInput : ProofEvaluationInput) : Bool :=
  evaluationInput.questions.all fun question =>
    evaluationInput.transcript.segments.any fun segment =>
      segment.questionId == some question.id && 0 < (JsString.trim segment.text.content).length

/-! ## The run -/

/-- What the schema of the authoritative evaluation makes of a value. -/
def parseEvaluation (evaluation : AuthoritativeMultimodalEvaluation) :
    Except Caught AuthoritativeMultimodalEvaluation := do
  rejectIf (AuthoritativeMultimodalEvaluationV1Schema.accepts evaluation = false) .zodError
  return evaluation.trimmed

/-- The evaluation of a result. -/
def proofEvaluation (evaluationInput : ProofEvaluationInput)
    (result : MultimodalJudgeProviderResult) (frameWarnings : List MultimodalWarningCode)
    (frameCount : ℕ) (completedAt : Timestamp) : AuthoritativeMultimodalEvaluation where
  attemptId := evaluationInput.attemptId
  revisionId := evaluationInput.revisionId
  headSha := evaluationInput.headSha
  candidate := result.candidate
  invocationMetadata := result.metadata
  frameWarnings
  frameCount := some frameCount
  workflowOutcome := .reviewRequired
  manualReviewRequired := true
  createdAt := some completedAt

section Run

variable (sha256 : Sha256) (provider : InlineMultimodalJudgeProvider)
  (evaluationInput : ProofEvaluationInput) (context : ProviderContext) (clock : Clock)

/-- Without a spoken answer to every question neither frames nor provider are used. -/
def runWithoutTranscript : Except Caught AuthoritativeMultimodalEvaluation := do
  assertBeforeMultimodalDeadline context clock.completedAt
  let providerInput ← projectMultimodalJudgeProviderInputV1 evaluationInput []
  let providerResult ← manualReviewFallbackMultimodalJudgeResultV1 sha256 providerInput
    provider.descriptor [.questionTranscriptUnavailable] (some clock.completedAt) none
  parseEvaluation (proofEvaluation evaluationInput providerResult [] 0 clock.completedAt)

/-- The validated result of a provider that has settled. -/
def acceptProviderResult (providerInput : MultimodalJudgeProviderInput)
    (result : Option MultimodalJudgeProviderResult) :
    Except Caught MultimodalJudgeProviderResult := do
  match result with
  | none => throw (.providerError invalidOutputError)
  | some result =>
      let providerResult ← validateMultimodalJudgeProviderResultV1 sha256 result providerInput
        (provider.descriptor :: provider.transportFallbackDescriptor.toList)
      assertProviderCompletionBounds providerResult.metadata.completedAt clock.requestStartedAt
        clock.providerCheckedAt context.deadlineAt
      return providerResult

/-- The call of the provider, and what it has left in memory. -/
def callProvider (providerInput : MultimodalJudgeProviderInput) (memory : Memory) :
    Except Caught MultimodalJudgeProviderResult × Memory :=
  if JsDate.le context.deadlineAt (some clock.evaluateStartedAt) then
    (.error multimodalDeadlineError, memory)
  else
    let addresses := providerInput.frames.map fun frame => frame.jpegBytes.address
    match provider.evaluate providerInput context with
    | .pending writes => (.error multimodalDeadlineError, writes.on addresses memory)
    | .throws error writes => (.error error, writes.on addresses memory)
    | .returns result writes =>
        let memory := writes.on addresses memory
        (acceptProviderResult sha256 provider context clock (readInput memory providerInput)
          result, memory)

/-- The fallback for an error that is not about the deadline. -/
def recoverProviderResult (providerInput : MultimodalJudgeProviderInput)
    (frameWarnings : List MultimodalWarningCode)
    (attempt : Except Caught MultimodalJudgeProviderResult) :
    Except Caught MultimodalJudgeProviderResult :=
  match attempt with
  | .ok providerResult => .ok providerResult
  | .error error =>
      if isMultimodalDeadlineError error then .error multimodalDeadlineError
      else manualReviewFallbackMultimodalJudgeResultV1 sha256 providerInput provider.descriptor
        (frameWarnings ++ [.providerEvaluationUnavailable]) (some clock.fallbackAt)
        (some (describeJudgeEvaluateFailure error
          (if provider.transportFallbackDescriptor.isNone then .none else .primary)
          (clock.fallbackAt - clock.evaluateStartedAt) providerInput.frames.length))

/-- The warnings of the loader, and one more where it has left no frame. -/
def frameWarningsOf (frames : List NormalizedInlineJudgeFrame)
    (warnings : List MultimodalWarningCode) : List MultimodalWarningCode :=
  (warnings ++
    if frames.length = 0 then [MultimodalWarningCode.framesUnavailable] else []).eraseDups

/-- From the settled call of the provider to the evaluation. -/
def concludeRun (providerInput : MultimodalJudgeProviderInput)
    (frameWarnings : List MultimodalWarningCode) (frameCount : ℕ)
    (attempt : Except Caught MultimodalJudgeProviderResult) :
    Except Caught AuthoritativeMultimodalEvaluation := do
  let providerResult ← recoverProviderResult sha256 provider clock providerInput frameWarnings
    attempt
  assertBeforeMultimodalDeadline context clock.completedAt
  assertProviderCompletionBounds providerResult.metadata.completedAt clock.requestStartedAt
    clock.completedAt context.deadlineAt
  parseEvaluation (proofEvaluation evaluationInput providerResult frameWarnings frameCount
    clock.completedAt)

/-- The part of the run that the frames live through. -/
def runWithFrames (frames : List NormalizedInlineJudgeFrame)
    (warnings : List MultimodalWarningCode) (memory : Memory) :
    Except Caught AuthoritativeMultimodalEvaluation × Memory :=
  match projectMultimodalJudgeProviderInputV1 evaluationInput frames with
  | .error error => (.error error, memory)
  | .ok providerInput =>
      let called := callProvider sha256 provider context clock providerInput memory
      (concludeRun sha256 provider evaluationInput context clock (readInput called.2 providerInput)
        (frameWarningsOf frames warnings) frames.length called.1, called.2)

/-- The frames and warnings that the run goes on with. -/
def loadFrames (loader : LoaderBehaviour) (memory : Memory) :
    Except Caught (List NormalizedInlineJudgeFrame × List MultimodalWarningCode) × Memory :=
  match loader with
  | .pending writes => (.error multimodalDeadlineError, writes.apply memory)
  | .rejects error writes =>
      (if isMultimodalDeadlineError error then .error multimodalDeadlineError
        else do
          assertBeforeMultimodalDeadline context clock.frameFailureAt
          return ([], [.framesUnavailable]), writes.apply memory)
  | .delivers value writes =>
      let memory := writes.apply memory
      match value with
      | .other buffers => (.ok ([], [.framesUnavailable]), memory.fillAll buffers)
      | .fields frames warnings =>
          let frames := frames.map (readFrame memory)
          if InlineFrameNormalizationResultV1Schema.accepts frames warnings then
            (.ok (frames, warnings), memory)
          else
            (.ok ([], [.framesUnavailable]), memory.fillAll value.buffers)

/-- Loading, evaluating, and clearing the buffers of the frames. -/
def runWithTranscript (loader : LoaderBehaviour) (memory : Memory) :
    Except Caught AuthoritativeMultimodalEvaluation × Memory :=
  let loaded := loadFrames context clock loader memory
  match loaded.1 with
  | .error error => (.error error, loaded.2)
  | .ok (frames, warnings) =>
      let addresses := frames.map fun frame => frame.jpegBytes.address
      match assertBeforeMultimodalDeadline context clock.framesLoadedAt with
      | .error error => (.error error, loaded.2.fillAll addresses)
      | .ok () =>
          let run := runWithFrames sha256 provider evaluationInput context clock frames warnings
            loaded.2
          (run.1, run.2.fillAll addresses)

/-- The outcome of the run, and the memory that it leaves. -/
def runMultimodalJudgeEvaluation (loader : LoaderBehaviour) (memory : Memory) :
    Except Caught AuthoritativeMultimodalEvaluation × Memory :=
  if ProofEvaluationInputV1Schema.accepts evaluationInput = false ∨
      ProviderContextV1Schema.accepts context = false ∨
      context.attemptId ≠ evaluationInput.attemptId then
    (.error (.providerError (.plain .invalidInput .terminal)), memory)
  else
    let evaluationInput := evaluationInput.trimmed
    match assertBeforeMultimodalDeadline context clock.requestStartedAt with
    | .error error => (.error error, memory)
    | .ok () =>
        if hasCompleteQuestionBoundTranscriptEvidence evaluationInput then
          runWithTranscript sha256 provider evaluationInput context clock loader memory
        else
          (runWithoutTranscript sha256 provider evaluationInput context clock, memory)

end Run

end Worker

end UnderstandProof
