import UnderstandProof.Providers.CandidateValidation
import UnderstandProof.Providers.JudgeResult

/-!
# The fallback and its validation

The fallback exists for every accepted input and is good enough for the authoritative
evaluation. It does not survive the judge's own validation: its private reason is
reserved for it, and validation replaces that reason by the one of a provider.
-/

open Foundation

namespace UnderstandProof

namespace Providers

open Domain Media

/-! ## The candidate -/

section Candidate

variable {input : MultimodalJudgeProviderInput} (warningCodes : List MultimodalWarningCode)

theorem fallbackEvaluation_accepted {question : JudgeQuestion}
    (h : JudgeQuestionV1Schema.accepts question = true) :
    MultimodalQuestionEvaluationV1Schema.accepts (fallbackEvaluation question) = true := by
  simp only [JudgeQuestionV1Schema.accepts, Bool.and_eq_true, List.all_eq_true,
    decide_eq_true_eq, and_assoc] at h
  obtain ⟨hid, -, -, -, -, hpos, hle, hcriteria, -⟩ := h
  simp only [MultimodalQuestionEvaluationV1Schema.accepts, Bool.and_eq_true, List.all_eq_true,
    decide_eq_true_eq, and_assoc, fallbackEvaluation, List.length_map]
  refine ⟨hid, hpos, hle, ?_, rfl, rfl⟩
  intro result hresult
  obtain ⟨criterion, hcriterion, rfl⟩ := List.mem_map.mp hresult
  have hcriterionId := hcriteria criterion hcriterion
  simp only [JudgeCriterionV1Schema.accepts, Bool.and_eq_true, and_assoc] at hcriterionId
  simp [MultimodalCriterionResultV1Schema.accepts, hcriterionId.1]

theorem fallbackCandidate_accepted
    (h : MultimodalJudgeProviderInputV1Schema.accepts input = true) :
    MultimodalJudgeCandidateV1Schema.accepts (fallbackCandidate input warningCodes) = true := by
  obtain ⟨hpos, hle, hquestions⟩ := MultimodalJudgeProviderInputV1Schema.questions_of_accepts h
  simp only [MultimodalJudgeCandidateV1Schema.accepts, Bool.and_eq_true, List.all_eq_true,
    decide_eq_true_eq, and_assoc, fallbackCandidate, List.length_map]
  refine ⟨hpos, hle, ?_, decide_eq_true (List.length_take_le _ _)⟩
  intro evaluation hevaluation
  obtain ⟨question, hquestion, rfl⟩ := List.mem_map.mp hevaluation
  exact fallbackEvaluation_accepted (hquestions question hquestion)

theorem fallbackEvaluation_isEvaluated (question : JudgeQuestion) :
    question.IsEvaluated (fallbackEvaluation question) := by
  constructor
  · simp only [fallbackEvaluation, JudgeQuestion.criterionIds, List.map_map]
    exact List.Perm.refl _
  · intro result hresult
    obtain ⟨criterion, hcriterion, rfl⟩ := List.mem_map.mp hresult
    exact ⟨List.mem_map_of_mem hcriterion, by simp, rfl, .inr rfl⟩

theorem fallbackCandidate_isEvaluated (hids : input.DistinctIds) :
    input.IsEvaluated (fallbackCandidate input warningCodes).questionEvaluations := by
  constructor
  · simp only [fallbackCandidate, MultimodalJudgeProviderInput.questionIds, List.map_map]
    exact List.Perm.refl _
  · intro evaluation hevaluation question hquestion hid
    obtain ⟨stored, hstored, rfl⟩ := List.mem_map.mp hevaluation
    have heq : question = stored := List.inj_on_of_nodup_map hids.questions hquestion hstored hid
    exact heq ▸ fallbackEvaluation_isEvaluated stored

theorem fallbackCandidate_authoritative
    (h : MultimodalJudgeProviderInputV1Schema.accepts input = true) :
    AuthoritativeCandidateSchema.accepts (fallbackCandidate input warningCodes) = true := by
  have hids := MultimodalJudgeProviderInputV1Schema.distinctIds h
  refine AuthoritativeCandidateSchema.accepts_of_isEvaluated hids
    (fallbackCandidate_accepted warningCodes h) (fallbackCandidate_isEvaluated warningCodes hids)
    ?_
  intro hpass
  cases hpass

theorem manualReviewFallbackCandidateV1_ok
    (h : MultimodalJudgeProviderInputV1Schema.accepts input = true) :
    manualReviewFallbackCandidateV1 input warningCodes =
      .ok (fallbackCandidate input warningCodes) := by
  rw [manualReviewFallbackCandidateV1, rejectIf_of_not (by simp [h]), except_ok_bind]
  simp only [rejectIf, fallbackCandidate_accepted warningCodes h, Bool.true_eq_false, if_false]
  rfl

end Candidate

/-! ## The result -/

section Result

variable {input : MultimodalJudgeProviderInput} {descriptor : InlineMultimodalJudgeDescriptor}
  {completedAt : JsDate} {diagnostics : Option JudgeEvaluateFailureDiagnostics}

/-- What the fallback asks of its arguments. -/
structure FallbackArguments (input : MultimodalJudgeProviderInput)
    (descriptor : InlineMultimodalJudgeDescriptor) (completedAt : JsDate)
    (diagnostics : Option JudgeEvaluateFailureDiagnostics) : Prop where
  input : MultimodalJudgeProviderInputV1Schema.accepts input = true
  descriptor : InlineMultimodalJudgeDescriptorV1Schema.accepts descriptor = true
  completedAt : completedAt.isSome = true
  diagnostics : diagnostics.all JudgeEvaluateFailureDiagnosticsV1Schema.accepts = true

@[simp] theorem trimmed_trimmed_descriptor (descriptor : InlineMultimodalJudgeDescriptor) :
    descriptor.trimmed.trimmed = descriptor.trimmed := by
  simp [InlineMultimodalJudgeDescriptor.trimmed]

theorem fallbackMetadata_accepted (sha256 : Sha256)
    (h : FallbackArguments input descriptor completedAt diagnostics)
    (candidate : MultimodalJudgeCandidate) :
    MultimodalJudgeInvocationMetadataV1Schema.accepts
      (fallbackMetadata sha256 input descriptor.trimmed candidate completedAt diagnostics) =
        true := by
  have hdescriptor := h.descriptor
  simp only [InlineMultimodalJudgeDescriptorV1Schema.accepts, Bool.and_eq_true] at hdescriptor
  have hinputHash : Media.Sha256Schema.accepts (hashProviderInput sha256 input) = true :=
    sha256Hex_accepted sha256 _
  have houtputHash : Media.Sha256Schema.accepts (hashUnknown sha256 candidate.json) = true :=
    sha256Hex_accepted sha256 _
  simp only [MultimodalJudgeInvocationMetadataV1Schema.accepts, Bool.and_eq_true,
    decide_eq_true_eq, and_assoc]
  simp only [fallbackMetadata, InlineMultimodalJudgeDescriptor.trimmed, JsString.trim_trim]
  refine ⟨hdescriptor.1.1, hdescriptor.1.2, hinputHash, houtputHash, rfl, ?_, ?_,
    h.completedAt, h.diagnostics⟩
  · cases diagnostics with
    | none => exact Nat.zero_le _
    | some diagnostics =>
        have hdiagnostics := h.diagnostics
        simp only [Option.all_some, JudgeEvaluateFailureDiagnosticsV1Schema.accepts,
          Bool.and_eq_true, decide_eq_true_eq] at hdiagnostics
        exact hdiagnostics.1.2
  · cases diagnostics with
    | none => exact Nat.zero_le _
    | some diagnostics =>
        have hdiagnostics := h.diagnostics
        simp only [Option.all_some, JudgeEvaluateFailureDiagnosticsV1Schema.accepts,
          Bool.and_eq_true, decide_eq_true_eq] at hdiagnostics
        exact hdiagnostics.1.1.2

/-- The fallback never fails on such arguments. -/
theorem manualReviewFallback_ok (sha256 : Sha256)
    (h : FallbackArguments input descriptor completedAt diagnostics)
    (warningCodes : List MultimodalWarningCode) :
    manualReviewFallbackMultimodalJudgeResultV1 sha256 input descriptor warningCodes completedAt
      diagnostics = .ok ⟨fallbackCandidate input warningCodes,
        fallbackMetadata sha256 input descriptor.trimmed (fallbackCandidate input warningCodes)
          completedAt diagnostics⟩ := by
  have haccepted : MultimodalJudgeProviderResultV1Schema.accepts
      ⟨fallbackCandidate input warningCodes, fallbackMetadata sha256 input descriptor.trimmed
        (fallbackCandidate input warningCodes) completedAt diagnostics⟩ = true := by
    rw [MultimodalJudgeProviderResultV1Schema.accepts, fallbackCandidate_accepted _ h.input,
      fallbackMetadata_accepted sha256 h, Bool.and_self]
  have htrimmed : (fallbackMetadata sha256 input descriptor.trimmed
      (fallbackCandidate input warningCodes) completedAt diagnostics).trimmed =
        fallbackMetadata sha256 input descriptor.trimmed
          (fallbackCandidate input warningCodes) completedAt diagnostics := by
    simp [MultimodalJudgeInvocationMetadata.trimmed, fallbackMetadata,
      InlineMultimodalJudgeDescriptor.trimmed]
  rw [manualReviewFallbackMultimodalJudgeResultV1, rejectIf_of_not
    (by simp [h.input, h.descriptor, h.completedAt, h.diagnostics]), except_ok_bind,
    manualReviewFallbackCandidateV1_ok warningCodes h.input, except_ok_bind]
  simp only [haccepted, rejectIf, Bool.true_eq_false, if_false, except_ok_bind,
    MultimodalJudgeProviderResult.trimmed, htrimmed]
  rfl

/-- Validation changes the private reason of a fallback. -/
theorem validate_fallback_ne {sha256 : Sha256} {warningCodes : List MultimodalWarningCode}
    {metadata : MultimodalJudgeInvocationMetadata}
    {descriptors : List InlineMultimodalJudgeDescriptor}
    {returned : MultimodalJudgeProviderResult}
    (h : validateMultimodalJudgeProviderResultV1 sha256
      ⟨fallbackCandidate input warningCodes, metadata⟩ input descriptors = .ok returned) :
    returned.candidate ≠ fallbackCandidate input warningCodes := by
  rw [validateMultimodalJudgeProviderResultV1, rejectIf_bind_eq_ok] at h
  obtain ⟨-, h⟩ := h
  split at h
  · cases h
  · dsimp only at h
    rw [bind_eq_ok] at h
    obtain ⟨candidate, hcandidate, h⟩ := h
    obtain ⟨-, h⟩ := rejectIf_bind_eq_ok.mp h
    obtain ⟨-, h⟩ := rejectIf_bind_eq_ok.mp h
    cases h
    intro heq
    have hreason := (validate_ok hcandidate).coherent.privateReason
    rw [show candidate = fallbackCandidate input warningCodes from heq] at hreason
    cases hreason

/-- The fallback with the private reason of a provider's review. -/
def renamedFallback (input : MultimodalJudgeProviderInput)
    (warningCodes : List MultimodalWarningCode) : MultimodalJudgeCandidate :=
  { fallbackCandidate input warningCodes with privateReason := .storedCriteriaNotFullySupported }

theorem validate_fallbackCandidate
    (h : MultimodalJudgeProviderInputV1Schema.accepts input = true)
    (warningCodes : List MultimodalWarningCode) :
    validateMultimodalJudgeCandidateV1 (fallbackCandidate input warningCodes) input =
      .ok (renamedFallback input warningCodes) := by
  have hids := MultimodalJudgeProviderInputV1Schema.distinctIds h
  have haccepted := fallbackCandidate_accepted warningCodes h
  have hrenamed : MultimodalJudgeCandidateV1Schema.accepts
      (renamedFallback input warningCodes) = true := haccepted
  have hscan := (scanEvaluations_issues_eq_nil hids).mpr
    (fallbackCandidate_isEvaluated warningCodes hids)
  have hissues : candidateIssues (scanEvaluations input
      (fallbackCandidate input warningCodes).questionEvaluations)
        (fallbackCandidate input warningCodes) = [.privateReasonMismatch] := by
    simp only [candidateIssues, hscan]
    rfl
  have hunresolved : (fallbackCandidate input warningCodes).hasUnresolvedEvidence = true := by
    obtain ⟨question, hquestion⟩ := List.exists_mem_of_length_pos
      (MultimodalJudgeProviderInputV1Schema.questions_of_accepts h).1
    simp only [MultimodalJudgeCandidate.hasUnresolvedEvidence, List.any_eq_true]
    exact ⟨_, List.mem_map_of_mem hquestion, rfl⟩
  have hnormalized : normalizeCandidate (scanEvaluations input
      (fallbackCandidate input warningCodes).questionEvaluations)
        (fallbackCandidate input warningCodes) = renamedFallback input warningCodes := by
    simp only [normalizeCandidate, normalizedRecommendation, hunresolved, Bool.or_true, if_true]
    rfl
  have hrepair : 0 < [ProviderValidationIssueCode.privateReasonMismatch].length ∧
      ∀ issue ∈ [ProviderValidationIssueCode.privateReasonMismatch],
        issue ∈ normalizableIssues := by decide
  rw [validateMultimodalJudgeCandidateV1, rejectIf_of_not (by simp [haccepted, h]),
    except_ok_bind]
  simp only [hissues, if_pos hrepair, hnormalized]
  rw [rejectIf_of_not (by simp [hrenamed])]
  rfl

/-- A fallback is invalid output, unless the digests of two candidates collide. -/
theorem validate_fallback_rejected (sha256 : Sha256)
    (h : FallbackArguments input descriptor completedAt diagnostics)
    {warningCodes : List MultimodalWarningCode}
    (hhash : hashUnknown sha256 (renamedFallback input warningCodes).json ≠
      hashUnknown sha256 (fallbackCandidate input warningCodes).json) :
    validateMultimodalJudgeProviderResultV1 sha256 ⟨fallbackCandidate input warningCodes,
      fallbackMetadata sha256 input descriptor.trimmed (fallbackCandidate input warningCodes)
        completedAt diagnostics⟩ input [descriptor] =
          .error (.providerError invalidOutputError) := by
  have haccepted : MultimodalJudgeProviderResultV1Schema.accepts
      ⟨fallbackCandidate input warningCodes, fallbackMetadata sha256 input descriptor.trimmed
        (fallbackCandidate input warningCodes) completedAt diagnostics⟩ = true := by
    rw [MultimodalJudgeProviderResultV1Schema.accepts, fallbackCandidate_accepted _ h.input,
      fallbackMetadata_accepted sha256 h, Bool.and_self]
  have hdescriptors : normalizeJudgeDescriptors [descriptor] = some [descriptor.trimmed] := by
    simp [normalizeJudgeDescriptors, h.descriptor]
  have hmismatch : (fallbackMetadata sha256 input descriptor.trimmed
      (fallbackCandidate input warningCodes) completedAt diagnostics).trimmed.outputHash ≠
        hashUnknown sha256 (renamedFallback input warningCodes).json := hhash.symm
  rw [validateMultimodalJudgeProviderResultV1, rejectIf_of_not (by simp [haccepted, h.input]),
    except_ok_bind, hdescriptors]
  simp only [MultimodalJudgeProviderResult.trimmed, validate_fallbackCandidate h.input,
    except_ok_bind]
  exact congrArg (· >>= _) (rejectIf_of (.inr hmismatch))

end Result

/-- What the local fake returns before its deadline. -/
theorem localFake_evaluate_ok (sha256 : Sha256) {input : MultimodalJudgeProviderInput}
    (hinput : MultimodalJudgeProviderInputV1Schema.accepts input = true)
    {context : ProviderContext} (hcontext : ProviderContextV1Schema.accepts context = true)
    {now completedAt : Timestamp} (hdeadline : JsDate.le context.deadlineAt (some now) = false) :
    LocalFakeInlineMultimodalJudgeProvider.evaluate sha256 input context (some now)
      (some completedAt) = .ok ⟨fallbackCandidate input [.localFakeManualReview],
        fallbackMetadata sha256 input LocalFakeInlineMultimodalJudgeProvider.descriptor.trimmed
          (fallbackCandidate input [.localFakeManualReview]) (some completedAt) none⟩ := by
  have hdescriptor : InlineMultimodalJudgeDescriptorV1Schema.accepts
      LocalFakeInlineMultimodalJudgeProvider.descriptor = true := by decide
  rw [LocalFakeInlineMultimodalJudgeProvider.evaluate,
    rejectIf_of_not (by simp [hinput, hcontext]), except_ok_bind,
    rejectIf_of_not (by simp [hdeadline]), except_ok_bind]
  exact manualReviewFallback_ok sha256 ⟨hinput, hdescriptor, rfl, rfl⟩ _

/-- The outcome is a result that validation does not return with its candidate. -/
def IsReplaced (sha256 : Sha256) (input : MultimodalJudgeProviderInput)
    (descriptor : InlineMultimodalJudgeDescriptor)
    (outcome : Except Caught MultimodalJudgeProviderResult) : Prop :=
  ∃ result, outcome = .ok result ∧
    ∀ returned, validateMultimodalJudgeProviderResultV1 sha256 result input [descriptor] =
      .ok returned → returned.candidate ≠ result.candidate

/-- No fallback, and no result of the local fake, is returned with its candidate; where
there is none, an argument was rejected. -/
theorem manualReviewFallback_not_returned (sha256 : Sha256) {input : MultimodalJudgeProviderInput}
    (hinput : MultimodalJudgeProviderInputV1Schema.accepts input = true) :
    (∀ (descriptor : InlineMultimodalJudgeDescriptor) (warningCodes : List MultimodalWarningCode)
        (completedAt : JsDate),
      let outcome := manualReviewFallbackMultimodalJudgeResultV1 sha256 input descriptor
        warningCodes completedAt none
      IsReplaced sha256 input descriptor outcome ∨
        outcome = .error (.providerError invalidInputError)) ∧
      (∀ (descriptor : InlineMultimodalJudgeDescriptor)
          (warningCodes : List MultimodalWarningCode) (completedAt : Timestamp),
        InlineMultimodalJudgeDescriptorV1Schema.accepts descriptor = true →
          IsReplaced sha256 input descriptor (manualReviewFallbackMultimodalJudgeResultV1 sha256
            input descriptor warningCodes (some completedAt) none)) ∧
      ∀ (context : ProviderContext) (now completedAt : Timestamp),
        ProviderContextV1Schema.accepts context = true →
          JsDate.le context.deadlineAt (some now) = false →
            IsReplaced sha256 input LocalFakeInlineMultimodalJudgeProvider.descriptor
              (LocalFakeInlineMultimodalJudgeProvider.evaluate sha256 input context (some now)
                (some completedAt)) := by
  refine ⟨?_, ?_, ?_⟩
  · intro descriptor warningCodes completedAt
    by_cases h : InlineMultimodalJudgeDescriptorV1Schema.accepts descriptor = true ∧
        completedAt.isSome = true
    · exact .inl ⟨_, manualReviewFallback_ok sha256 ⟨hinput, h.1, h.2, rfl⟩ warningCodes,
        fun returned h => validate_fallback_ne h⟩
    · right
      rw [manualReviewFallbackMultimodalJudgeResultV1, rejectIf_of, except_error_bind]
      rcases not_and_or.mp h with h | h
      · exact .inr (.inl (Bool.not_eq_true _ ▸ h))
      · exact .inr (.inr (.inl (Bool.not_eq_true _ ▸ h)))
  · intro descriptor warningCodes completedAt hdescriptor
    exact ⟨_, manualReviewFallback_ok sha256 ⟨hinput, hdescriptor, rfl, rfl⟩ warningCodes,
      fun returned h => validate_fallback_ne h⟩
  · intro context now completedAt hcontext hdeadline
    exact ⟨_, localFake_evaluate_ok sha256 hinput hcontext hdeadline,
      fun returned h => validate_fallback_ne h⟩

/-- A digest that tells texts of different lengths apart. -/
def sampleSha256 : Sha256 where
  digest value := List.replicate 28 0 ++ [UInt8.ofNat (value.length / 16777216),
    UInt8.ofNat (value.length / 65536), UInt8.ofNat (value.length / 256),
    UInt8.ofNat value.length]
  length_digest value := by simp

def sampleContext : ProviderContext where
  requestId := js "30000000-0000-4000-8000-000000000001"
  attemptId := js "30000000-0000-4000-8000-000000000002"
  deadlineAt := some 1000

theorem manualReviewFallback_not_returned_sample :
    IsReplaced sampleSha256 sampleInput LocalFakeInlineMultimodalJudgeProvider.descriptor
      (LocalFakeInlineMultimodalJudgeProvider.evaluate sampleSha256 sampleInput sampleContext
        (some 0) (some 1)) :=
  (manualReviewFallback_not_returned sampleSha256 (by decide)).2.2 sampleContext 0 1 (by decide)
    (by decide)

/-- The result of the local fake is rejected as invalid output. -/
theorem localFake_rejected :
    ∃ result, LocalFakeInlineMultimodalJudgeProvider.evaluate sampleSha256 sampleInput
        sampleContext (some 0) (some 1) = .ok result ∧
      validateMultimodalJudgeProviderResultV1 sampleSha256 result sampleInput
        [LocalFakeInlineMultimodalJudgeProvider.descriptor] =
          .error (.providerError invalidOutputError) := by
  refine ⟨_, localFake_evaluate_ok sampleSha256 (by decide) (by decide) (by decide), ?_⟩
  exact validate_fallback_rejected sampleSha256 ⟨by decide, by decide, rfl, rfl⟩
    (by decide +kernel)

end Providers

end UnderstandProof
