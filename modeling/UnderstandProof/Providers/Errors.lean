import Mathlib.Data.Rat.Defs

/-!
# Errors of the providers

A `ProviderError` with the content-free diagnostics that it may carry, and the other
errors that the judge throws.
-/

namespace UnderstandProof

namespace Providers

inductive ProviderErrorCode where
  | invalidInput
  | invalidOutput
  | unknownQuestionId
  | rubricMismatch
  | patchAnchorMismatch
  | deadlineExceeded
  | providerTimeout
  | providerUnavailable
  | invalidCipherKey
  | invalidCipherPayload
  | nonceReuse
  | payloadDecryptionFailed
  deriving DecidableEq, Repr

inductive ProviderErrorDisposition where
  | retryable
  | terminal
  | review
  deriving DecidableEq, Repr

inductive ProviderFailureKind where
  | deadlineExceeded
  | invalidOutput
  | malformedResponse
  | network
  | outputTruncated
  | rateLimited
  | requestRejected
  | responseStream
  | responseTooLarge
  | timeout
  | upstreamUnavailable
  deriving DecidableEq, Repr

inductive ProviderValidationCode where
  | schemaInvalid
  | bindingInvalid
  | contentPolicyInvalid
  deriving DecidableEq, Repr

inductive ProviderValidationIssueCode where
  | schemaInvalid
  | unknownQuestion
  | duplicateQuestion
  | unknownCriterion
  | duplicateCriterion
  | foreignAnchor
  | evaluableWithoutAnchor
  | notEvaluableWithAnchor
  | resultReasonMismatch
  | notEvaluableReasonMismatch
  | missingCriterion
  | missingQuestion
  | passWithUnresolvedOrNonpassing
  | retryWithUnresolvedEvidence
  | privateReasonMismatch
  deriving DecidableEq, Repr

inductive JudgeHopUsed where
  | primary
  | transportFallback
  | none
  deriving DecidableEq, Repr

/-- The status is absent or finite. -/
structure ProviderFailureTelemetry where
  lastFailureKind : ProviderFailureKind
  transportAttemptCount : ℕ
  httpStatus : Option ℚ
  deriving DecidableEq, Repr

/-- The constructor keeps at most 16 different issue codes. -/
structure ProviderError where
  code : ProviderErrorCode
  disposition : ProviderErrorDisposition
  telemetry : Option ProviderFailureTelemetry
  hopUsed : Option JudgeHopUsed
  validationCode : Option ProviderValidationCode
  validationIssueCodes :
    Option {codes : List ProviderValidationIssueCode // codes.Nodup ∧ codes.length ≤ 16}
  deriving DecidableEq, Repr

namespace ProviderError

/-- An error with a code and a disposition only. -/
def plain (code : ProviderErrorCode) (disposition : ProviderErrorDisposition) : ProviderError :=
  ⟨code, disposition, none, none, none, none⟩

end ProviderError

/-- The error of an input that its schema rejects. -/
def invalidInputError : ProviderError := .plain .invalidInput .terminal

/-- `invalidOutputError()` -/
def invalidOutputError : ProviderError :=
  { ProviderError.plain .invalidOutput .review with
    telemetry := some ⟨.invalidOutput, 1, none⟩ }

/-- `deadlineError()` -/
def deadlineError : ProviderError :=
  { ProviderError.plain .deadlineExceeded .retryable with
    telemetry := some ⟨.deadlineExceeded, 0, none⟩ }

/-- A candidate that does not meet its server contract. -/
structure CandidateValidationError where
  validationCode : ProviderValidationCode
  validationIssueCodes : List ProviderValidationIssueCode
  deriving DecidableEq, Repr

/-- What a caller catches: a provider error, another error, or any other value. -/
inductive Caught where
  | providerError (error : ProviderError)
  | candidateValidationError (error : CandidateValidationError)
  | zodError
  | frameLoadDeadlineExceeded
  | otherError
  | value
  deriving DecidableEq, Repr

end Providers

end UnderstandProof
