import UnderstandProof.Providers.CandidateContract

/-!
# Validation establishes the contract

What `validateMultimodalJudgeCandidateV1` returns covers the stored questions, is
coherent, is returned unchanged when it is validated again, and is accepted by the
schema of the authoritative evaluation.
-/

open Foundation

namespace UnderstandProof

namespace Providers

theorem JudgeQuestionV1Schema.issues_of_accepts {question : JudgeQuestion}
    (h : JudgeQuestionV1Schema.accepts question = true) :
    question.patchAnchorIds.Nodup ∧ question.criterionIds.Nodup := by
  simp only [JudgeQuestionV1Schema.accepts, Bool.and_eq_true, List.isEmpty_iff] at h
  exact JudgeQuestionV1Schema.issues_eq_nil_iff.mp h.2

theorem MultimodalJudgeProviderInputV1Schema.questions_of_accepts
    {input : MultimodalJudgeProviderInput}
    (h : MultimodalJudgeProviderInputV1Schema.accepts input = true) :
    1 ≤ input.questions.length ∧ input.questions.length ≤ 5 ∧
      ∀ question ∈ input.questions, JudgeQuestionV1Schema.accepts question = true := by
  simp only [MultimodalJudgeProviderInputV1Schema.accepts, Bool.and_eq_true, List.all_eq_true,
    decide_eq_true_eq, and_assoc] at h
  exact ⟨h.2.1, h.2.2.1, h.2.2.2.1⟩

theorem MultimodalJudgeProviderInputV1Schema.distinctIds {input : MultimodalJudgeProviderInput}
    (h : MultimodalJudgeProviderInputV1Schema.accepts input = true) : input.DistinctIds := by
  refine ⟨?_, fun question hquestion =>
    (JudgeQuestionV1Schema.issues_of_accepts ((questions_of_accepts h).2.2 question hquestion)).2⟩
  simp only [MultimodalJudgeProviderInputV1Schema.accepts, Bool.and_eq_true, List.isEmpty_iff] at h
  have hissues := h.2
  simp only [MultimodalJudgeProviderInputV1Schema.issues, List.append_eq_nil_iff,
    issueIf_eq_nil, not_not] at hissues
  exact hissues.1.1.1.1.1

/-! ## Inversion -/

/-- What is known of a candidate that validation returns. -/
structure ReturnedFrom (input : MultimodalJudgeProviderInput)
    (submitted returned : MultimodalJudgeCandidate) : Prop where
  inputAccepted : MultimodalJudgeProviderInputV1Schema.accepts input = true
  accepted : MultimodalJudgeCandidateV1Schema.accepts returned = true
  evaluations : returned.questionEvaluations = submitted.questionEvaluations
  issues : candidateIssues (scanEvaluations input submitted.questionEvaluations) returned = []
  origin : returned = submitted ∨
    candidateIssues (scanEvaluations input submitted.questionEvaluations) submitted ≠ [] ∧
      returned =
        normalizeCandidate (scanEvaluations input submitted.questionEvaluations) submitted

theorem validate_ok {input : MultimodalJudgeProviderInput}
    {submitted returned : MultimodalJudgeCandidate}
    (h : validateMultimodalJudgeCandidateV1 submitted input = .ok returned) :
    ReturnedFrom input submitted returned := by
  rw [validateMultimodalJudgeCandidateV1, rejectIf_bind_eq_ok] at h
  obtain ⟨haccepted, h⟩ := h
  simp only [not_or, Bool.not_eq_false] at haccepted
  dsimp only at h
  split at h
  · next hrepair =>
      rw [rejectIf_bind_eq_ok, Bool.not_eq_false] at h
      obtain ⟨hnormalized, h⟩ := h
      cases h
      exact ⟨haccepted.2, hnormalized, rfl,
        candidateIssues_normalizeCandidate (scan_issues_eq_nil hrepair.2),
        .inr ⟨List.length_pos_iff.mp hrepair.1, rfl⟩⟩
  · rw [rejectIf_bind_eq_ok, List.length_pos_iff, not_not] at h
    obtain ⟨hissues, h⟩ := h
    cases h
    exact ⟨haccepted.2, haccepted.1, rfl, hissues, .inl rfl⟩

theorem validate_of_no_issues {input : MultimodalJudgeProviderInput}
    {candidate : MultimodalJudgeCandidate}
    (hinput : MultimodalJudgeProviderInputV1Schema.accepts input = true)
    (hcandidate : MultimodalJudgeCandidateV1Schema.accepts candidate = true)
    (hissues : candidateIssues (scanEvaluations input candidate.questionEvaluations)
      candidate = []) :
    validateMultimodalJudgeCandidateV1 candidate input = .ok candidate := by
  have haccepted : ¬ (MultimodalJudgeCandidateV1Schema.accepts candidate = false ∨
      MultimodalJudgeProviderInputV1Schema.accepts input = false) := by
    simp [hinput, hcandidate]
  simp only [validateMultimodalJudgeCandidateV1, rejectIf_of_not haccepted, except_ok_bind,
    hissues, List.length_nil, Nat.lt_irrefl, false_and, if_false]
  rfl

section Returned

variable {input : MultimodalJudgeProviderInput} {submitted returned : MultimodalJudgeCandidate}

/-- The scan has no issues, so every stored question is evaluated. -/
theorem ReturnedFrom.isEvaluated (h : ReturnedFrom input submitted returned) :
    input.IsEvaluated returned.questionEvaluations := by
  rw [h.evaluations]
  exact (scanEvaluations_issues_eq_nil
    (MultimodalJudgeProviderInputV1Schema.distinctIds h.inputAccepted)).mp
      (candidateIssues_eq_nil_iff.mp h.issues).1

theorem ReturnedFrom.coherent (h : ReturnedFrom input submitted returned) :
    returned.Coherent := by
  have hids := MultimodalJudgeProviderInputV1Schema.distinctIds h.inputAccepted
  have hevaluated := h.isEvaluated
  have hissues := h.issues
  rw [← h.evaluations, candidateIssues_eq_nil_iff] at hissues
  obtain ⟨-, hpass, hretry, hreason⟩ := hissues
  have hnotMet := not_congr (scanEvaluations_hasNotMetResult hids hevaluated)
  have hnotEvaluable := not_congr (scanEvaluations_hasNotEvaluableResult hids hevaluated)
  rw [Bool.not_eq_true] at hnotMet hnotEvaluable
  refine ⟨?_, ?_, hreason⟩
  · intro heq evaluation hevaluation
    obtain ⟨hmet, hevaluable, hunresolved⟩ := hpass heq
    refine ⟨fun result hresult => ?_, hasUnresolvedEvidence_eq_false.mp hunresolved _ hevaluation⟩
    cases houtcome : result.result with
    | met => rfl
    | notMet =>
        exact absurd ⟨evaluation, hevaluation, result, hresult, houtcome⟩ (hnotMet.mp hmet)
    | notEvaluable =>
        exact absurd ⟨evaluation, hevaluation, result, hresult, houtcome⟩
          (hnotEvaluable.mp hevaluable)
  · intro heq evaluation hevaluation
    obtain ⟨hevaluable, hunresolved⟩ := hretry heq
    refine ⟨fun result hresult houtcome => ?_,
      hasUnresolvedEvidence_eq_false.mp hunresolved _ hevaluation⟩
    exact hnotEvaluable.mp hevaluable ⟨evaluation, hevaluation, result, hresult, houtcome⟩

/-- Validating again changes nothing. -/
theorem ReturnedFrom.validate_again (h : ReturnedFrom input submitted returned) :
    validateMultimodalJudgeCandidateV1 returned input = .ok returned := by
  refine validate_of_no_issues h.inputAccepted h.accepted ?_
  rw [h.evaluations]
  exact h.issues

end Returned

/-! ## The schema of the authoritative evaluation -/

theorem validBinding_of_evidenced {result : MultimodalCriterionResult}
    (h : result.Evidenced) : AuthoritativeCandidateSchema.validBinding result = true := by
  obtain ⟨criterionId, outcome, anchors, reason⟩ := result
  cases outcome <;>
    simpa [MultimodalCriterionResult.Evidenced, AuthoritativeCandidateSchema.validBinding,
      List.length_pos_iff] using h

/-- A candidate that covers an input and has no unsupported pass is accepted as
authoritative. -/
theorem AuthoritativeCandidateSchema.accepts_of_isEvaluated {input : MultimodalJudgeProviderInput}
    {candidate : MultimodalJudgeCandidate} (hids : input.DistinctIds)
    (haccepted : MultimodalJudgeCandidateV1Schema.accepts candidate = true)
    (hevaluated : input.IsEvaluated candidate.questionEvaluations)
    (hpass : candidate.recommendation = .pass → ∀ evaluation ∈ candidate.questionEvaluations,
      (∀ result ∈ evaluation.criterionResults, result.result = .met) ∧
        evaluation.contradictions = [] ∧ evaluation.uncertainty = []) :
    AuthoritativeCandidateSchema.accepts candidate = true := by
  have hissues : AuthoritativeCandidateSchema.issues candidate = [] := by
    simp only [AuthoritativeCandidateSchema.issues, AuthoritativeCandidateSchema.criterionIssues,
      List.append_eq_nil_iff, List.flatMap_eq_nil_iff, issueIf_eq_nil, Bool.not_eq_false]
    constructor
    · intro entry hentry
      refine ⟨not_mem_take_of_nodup (hevaluated.questions.nodup_iff.mpr hids.questions) hentry,
        ?_⟩
      have hevaluation : entry.1 ∈ candidate.questionEvaluations :=
        List.fst_mem_of_mem_zipIdx hentry
      obtain ⟨question, hquestion, hsettled⟩ :=
        hevaluated.evaluates hids.questions entry.1 hevaluation
      have hnodup := hids.criteria question (question?_some hquestion).1
      intro criterion hcriterion
      refine ⟨not_mem_take_of_nodup (hsettled.criteria.nodup_iff.mpr hnodup) hcriterion, ?_⟩
      exact validBinding_of_evidenced
        (hsettled.settled _ (List.fst_mem_of_mem_zipIdx hcriterion)).evidenced
    · rintro ⟨heq, hagainst⟩
      have hall := hpass heq
      rcases hagainst with hagainst | hagainst
      · simp only [MultimodalJudgeCandidate.containsNonPassingCriterion, List.any_eq_true,
          bne_iff_ne] at hagainst
        obtain ⟨evaluation, hevaluation, result, hresult, hne⟩ := hagainst
        exact hne ((hall evaluation hevaluation).1 result hresult)
      · simp only [MultimodalJudgeCandidate.containsUnresolvedEvidence, List.any_eq_true,
          Bool.or_eq_true, decide_eq_true_eq, List.length_pos_iff] at hagainst
        obtain ⟨evaluation, hevaluation, hne⟩ := hagainst
        obtain ⟨-, hcontradictions, huncertainty⟩ := hall evaluation hevaluation
        exact hne.elim (fun h => h hcontradictions) fun h => h huncertainty
  rw [MultimodalJudgeCandidateV1Schema.accepts] at haccepted
  rw [AuthoritativeCandidateSchema.accepts, hissues, List.isEmpty_nil, Bool.and_true]
  exact haccepted

/-! ## The contract -/

/-- `pass > retry > review_required` -/
def Recommendation.rank : Recommendation → ℕ
  | .reviewRequired => 0
  | .retry => 1
  | .pass => 2

theorem normalizeCandidate_warnings (scan : EvaluationScan)
    (candidate : MultimodalJudgeCandidate) :
    (normalizeCandidate scan candidate).warnings = candidate.warnings ∨
      ∃ warning ∈ [MultimodalWarningCode.incoherentPassNormalizedDownward,
          .incoherentRetryNormalizedDownward],
        (normalizeCandidate scan candidate).warnings =
          (warning :: candidate.warnings.filter fun other => other ≠ warning).take 20 := by
  have hmem : ∀ warning, normalizationWarning candidate.recommendation
      (normalizedRecommendation scan candidate) = some warning →
        warning ∈ [MultimodalWarningCode.incoherentPassNormalizedDownward,
          .incoherentRetryNormalizedDownward] := by
    intro warning h
    simp only [normalizationWarning] at h
    split at h
    · cases h
      exact List.mem_cons_self
    · split at h
      · cases h
        exact List.mem_cons_of_mem _ List.mem_cons_self
      · cases h
  cases h : normalizationWarning candidate.recommendation
      (normalizedRecommendation scan candidate) with
  | none =>
      left
      simp only [normalizeCandidate, h]
  | some warning =>
      right
      refine ⟨warning, hmem warning h, ?_⟩
      simp only [normalizeCandidate, h]

/-- A repaired recommendation is no higher, but for a review whose private reason
does not match. -/
theorem normalizedRecommendation_rank_le {scan : EvaluationScan}
    {candidate : MultimodalJudgeCandidate} (hscan : scan.issues = [])
    (h : candidateIssues scan candidate ≠ []) :
    (normalizedRecommendation scan candidate).rank ≤ candidate.recommendation.rank ∨
      candidate.recommendation = .reviewRequired ∧
        candidate.privateReason ≠ .storedCriteriaNotFullySupported := by
  cases hsubmitted : candidate.recommendation with
  | pass =>
      left
      cases normalizedRecommendation scan candidate <;> decide
  | retry =>
      left
      simp only [normalizedRecommendation, hsubmitted]
      split
      · decide
      · split <;> decide
  | reviewRequired =>
      right
      refine ⟨rfl, fun hreason => h ?_⟩
      rw [candidateIssues_eq_nil_iff, hsubmitted]
      exact ⟨hscan, by simp, by simp, hreason⟩

def sampleCriterionId : JsString := js "20000000-0000-4000-8000-000000000001"

def sampleQuestion : JudgeQuestion where
  id := js "10000000-0000-4000-8000-000000000001"
  prompt := ⟨.storedProofQuestion, js "Why is the guard needed?"⟩
  patchAnchorIds := [js "a1"]
  criteria := [⟨sampleCriterionId, ⟨.storedRubric, js "Names the guard"⟩,
    [⟨.storedRubric, js "guard"⟩]⟩]

def sampleInput : MultimodalJudgeProviderInput where
  headSha := js "0123456789012345678901234567890123456789"
  questions := [sampleQuestion]
  patchAnchors := [⟨js "a1", ⟨.boundedPatchAnchor, js "a.ts"⟩, ⟨.boundedPatchAnchor, js "+x"⟩⟩]
  transcriptSegments := []
  recordingDurationMs := 1000
  frames := []

def sampleCandidate (recommendation : Recommendation) (outcome : CriterionOutcome)
    (reason : MultimodalCriterionReasonCode) (privateReason : MultimodalPrivateReasonCode)
    (warnings : List MultimodalWarningCode) : MultimodalJudgeCandidate where
  recommendation
  questionEvaluations := [⟨sampleQuestion.id,
    [⟨sampleCriterionId, outcome, [js "a1"], reason⟩], [], []⟩]
  privateReason
  warnings

end Providers

end UnderstandProof
