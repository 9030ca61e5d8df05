import UnderstandProof.Domain.Primitives
import UnderstandProof.Media.Crypto
import UnderstandProof.Providers.Errors
import UnderstandProof.Providers.SseResponse

/-!
# Metadata of a judge's invocation

The record that goes with a candidate: who was asked, the digests of what went in and
came out, and for a fallback the diagnostics of the failure, which are made from the
error that was caught.
-/

open Foundation

namespace UnderstandProof

namespace Providers

open Domain

/-! ## Diagnostics -/

inductive ErrorClass where
  | providerError
  | error
  | unknownError
  deriving DecidableEq, Repr

structure JudgeEvaluateFailureDiagnostics where
  httpStatus : Option ℕ
  errorClass : ErrorClass
  errorCode : Option ProviderErrorCode
  disposition : Option ProviderErrorDisposition
  lastFailureKind : Option ProviderFailureKind
  validationCode : Option ProviderValidationCode
  validationIssueCodes : Option (List ProviderValidationIssueCode)
  hopUsed : JudgeHopUsed
  invocationCount : ℕ
  latencyMs : ℕ
  frameCount : ℕ
  deriving DecidableEq, Repr

/-- `15 * 60_000` -/
def maxLatencyMs : ℕ := 15 * 60000

def JudgeEvaluateFailureDiagnosticsV1Schema.accepts
    (diagnostics : JudgeEvaluateFailureDiagnostics) : Bool :=
  (diagnostics.httpStatus.all fun status => 100 ≤ status && status ≤ 599) &&
    (diagnostics.validationIssueCodes.all fun codes => codes.length ≤ 16) &&
    diagnostics.invocationCount ≤ 2 && diagnostics.latencyMs ≤ maxLatencyMs &&
    diagnostics.frameCount ≤ 32

def safeHttpStatus (status : Option ℚ) : Option ℕ :=
  status.bind fun status =>
    if status.den = 1 ∧ 100 ≤ status.num ∧ status.num ≤ 599 then some status.num.toNat else none

def invocationCountForFailure (failure : ProviderError) (hopUsed : JudgeHopUsed) : ℕ :=
  match failure.telemetry.map fun telemetry => telemetry.transportAttemptCount with
  | some 0 => 0
  | some 1 => 1
  | some 2 => 2
  | _ => if hopUsed = .transportFallback then 2 else 1

/-- The latency is a difference of two times. -/
def describeJudgeEvaluateFailure (caught : Caught) (hopUsed : JudgeHopUsed) (latencyMs : ℤ)
    (frameCount : ℕ) : JudgeEvaluateFailureDiagnostics :=
  let latencyMs := min maxLatencyMs (max 0 latencyMs).toNat
  let frameCount := min 32 frameCount
  match caught with
  | .providerError failure =>
      let hopUsed := failure.hopUsed.getD hopUsed
      { httpStatus := safeHttpStatus (failure.telemetry.bind fun telemetry => telemetry.httpStatus)
        errorClass := .providerError
        errorCode := some failure.code
        disposition := some failure.disposition
        lastFailureKind := failure.telemetry.map fun telemetry => telemetry.lastFailureKind
        validationCode := failure.validationCode
        validationIssueCodes := failure.validationIssueCodes.map Subtype.val
        hopUsed
        invocationCount := invocationCountForFailure failure hopUsed
        latencyMs
        frameCount }
  | caught =>
      { httpStatus := none
        errorClass := if caught = .value then .unknownError else .error
        errorCode := none
        disposition := none
        lastFailureKind := none
        validationCode := none
        validationIssueCodes := none
        hopUsed
        invocationCount := if hopUsed = .transportFallback then 2 else 1
        latencyMs
        frameCount }

theorem safeHttpStatus_bounds {status : Option ℚ} {value : ℕ}
    (h : safeHttpStatus status = some value) : 100 ≤ value ∧ value ≤ 599 := by
  rw [safeHttpStatus, Option.bind_eq_some_iff] at h
  obtain ⟨status, -, h⟩ := h
  split at h
  · next hbounds =>
      cases h
      omega
  · cases h

theorem invocationCountForFailure_le (failure : ProviderError) (hopUsed : JudgeHopUsed) :
    invocationCountForFailure failure hopUsed ≤ 2 := by
  unfold invocationCountForFailure
  split
  · decide
  · decide
  · decide
  · split <;> decide

/-- The schema accepts the diagnostics of every error. -/
theorem describeJudgeEvaluateFailure_accepted (caught : Caught) (hopUsed : JudgeHopUsed)
    (latencyMs : ℤ) (frameCount : ℕ) : JudgeEvaluateFailureDiagnosticsV1Schema.accepts
      (describeJudgeEvaluateFailure caught hopUsed latencyMs frameCount) = true := by
  have hcount : (if hopUsed = .transportFallback then 2 else 1) ≤ 2 := by split <;> decide
  simp only [JudgeEvaluateFailureDiagnosticsV1Schema.accepts, Bool.and_eq_true,
    decide_eq_true_eq]
  cases caught with
  | providerError failure =>
      refine ⟨⟨⟨⟨?_, ?_⟩, invocationCountForFailure_le _ _⟩, Nat.min_le_left _ _⟩,
        Nat.min_le_left _ _⟩
      · rw [Option.all_eq_true]
        intro status hstatus
        simpa using safeHttpStatus_bounds hstatus
      · rw [Option.all_eq_true]
        intro codes hcodes
        obtain ⟨codes, -, rfl⟩ := Option.map_eq_some_iff.mp hcodes
        simpa using codes.2.2
  | _ => exact ⟨⟨⟨⟨rfl, rfl⟩, hcount⟩, Nat.min_le_left _ _⟩, Nat.min_le_left _ _⟩

/-! ## Metadata -/

inductive InvocationOutcome where
  | generated
  | repaired
  | fallback
  deriving DecidableEq, Repr

structure MultimodalJudgeInvocationMetadata where
  provider : JsString
  model : JsString
  inputHash : JsString
  outputHash : JsString
  tokenUsage : Option TokenUsage
  latencyMs : ℕ
  invocationCount : ℕ
  outcome : InvocationOutcome
  degraded : Bool
  completedAt : JsDate
  failureDiagnostics : Option JudgeEvaluateFailureDiagnostics
  deriving DecidableEq, Repr

/-- `z.string().trim().min(1).max(100)` on a trimmed string. -/
def isShortName (value : JsString) : Bool := 1 ≤ value.length && value.length ≤ 100

def TokenUsage.accepts (usage : TokenUsage) : Bool :=
  usage.inputTokens ≤ 10000000 && usage.outputTokens ≤ 10000000

/-- The names are trimmed first. -/
def MultimodalJudgeInvocationMetadata.trimmed (metadata : MultimodalJudgeInvocationMetadata) :
    MultimodalJudgeInvocationMetadata :=
  { metadata with
    provider := JsString.trim metadata.provider
    model := JsString.trim metadata.model }

def MultimodalJudgeInvocationMetadataV1Schema.accepts
    (metadata : MultimodalJudgeInvocationMetadata) : Bool :=
  isShortName (JsString.trim metadata.provider) && isShortName (JsString.trim metadata.model) &&
    Media.Sha256Schema.accepts metadata.inputHash && Media.Sha256Schema.accepts metadata.outputHash &&
    metadata.tokenUsage.all TokenUsage.accepts && metadata.latencyMs ≤ maxLatencyMs &&
    metadata.invocationCount ≤ 2 && metadata.completedAt.isSome &&
    metadata.failureDiagnostics.all JudgeEvaluateFailureDiagnosticsV1Schema.accepts

@[simp] theorem trimmed_trimmed (metadata : MultimodalJudgeInvocationMetadata) :
    metadata.trimmed.trimmed = metadata.trimmed := by
  simp [MultimodalJudgeInvocationMetadata.trimmed]

@[simp] theorem accepts_trimmed (metadata : MultimodalJudgeInvocationMetadata) :
    MultimodalJudgeInvocationMetadataV1Schema.accepts metadata.trimmed =
      MultimodalJudgeInvocationMetadataV1Schema.accepts metadata := by
  rw [Bool.eq_iff_iff]
  simp only [MultimodalJudgeInvocationMetadataV1Schema.accepts, Bool.and_eq_true,
    decide_eq_true_eq]
  simp [MultimodalJudgeInvocationMetadata.trimmed]

end Providers

end UnderstandProof
