import UnderstandProof.Providers.AuthoritativeEvaluation
import UnderstandProof.Providers.JudgeCandidate

/-!
# What a validated candidate is

The contract of a candidate in declarative form: its evaluations cover the stored
questions and criteria, every result has the evidence that it needs, and the
recommendation agrees with the results. The scan reports nothing exactly on the
evaluations that cover the questions, so validation establishes the contract.
-/

open Foundation

namespace UnderstandProof

namespace Providers

/-! ## The contract -/

/-- The anchors and the reason that a result calls for. -/
def MultimodalCriterionResult.Evidenced (result : MultimodalCriterionResult) : Prop :=
  match result.result with
  | .met => result.supportedPatchAnchorIds ≠ [] ∧
      result.reason = .patchEvidenceSupportsCriterion
  | .notMet => result.supportedPatchAnchorIds ≠ [] ∧
      result.reason = .patchEvidenceConflictsWithCriterion
  | .notEvaluable => result.supportedPatchAnchorIds = [] ∧
      (result.reason = .questionEvidenceInsufficient ∨
        result.reason = .questionEvidenceUnavailable)

/-- A result for a criterion of the question, with anchors of the question. -/
structure JudgeQuestion.Settles (question : JudgeQuestion) (result : MultimodalCriterionResult) :
    Prop where
  criterion : result.criterionId ∈ question.criterionIds
  anchors : ∀ anchorId ∈ result.supportedPatchAnchorIds, anchorId ∈ question.patchAnchorIds
  evidenced : result.Evidenced

/-- An evaluation of the question: each criterion has exactly one result. -/
structure JudgeQuestion.IsEvaluated (question : JudgeQuestion)
    (evaluation : MultimodalQuestionEvaluation) : Prop where
  criteria : (evaluation.criterionResults.map fun result => result.criterionId).Perm
    question.criterionIds
  settled : ∀ result ∈ evaluation.criterionResults, question.Settles result

/-- Every stored question has exactly one evaluation. -/
structure MultimodalJudgeProviderInput.IsEvaluated (input : MultimodalJudgeProviderInput)
    (evaluations : List MultimodalQuestionEvaluation) : Prop where
  questions : (evaluations.map fun evaluation => evaluation.questionId).Perm input.questionIds
  evaluated : ∀ evaluation ∈ evaluations, ∀ question ∈ input.questions,
    question.id = evaluation.questionId → question.IsEvaluated evaluation

/-- The recommendation agrees with the results and with the private reason. -/
structure MultimodalJudgeCandidate.Coherent (candidate : MultimodalJudgeCandidate) : Prop where
  pass : candidate.recommendation = .pass → ∀ evaluation ∈ candidate.questionEvaluations,
    (∀ result ∈ evaluation.criterionResults, result.result = .met) ∧
      evaluation.contradictions = [] ∧ evaluation.uncertainty = []
  retry : candidate.recommendation = .retry → ∀ evaluation ∈ candidate.questionEvaluations,
    (∀ result ∈ evaluation.criterionResults, result.result ≠ .notEvaluable) ∧
      evaluation.contradictions = [] ∧ evaluation.uncertainty = []
  privateReason : candidate.privateReason = expectedPrivateReason candidate.recommendation

/-! ## One result -/

theorem scanCriterion_issues_eq_nil {question : JudgeQuestion} {scan : CriterionScan}
    {result : MultimodalCriterionResult} :
    (scanCriterion question scan result).issues = [] ↔
      scan.issues = [] ∧ question.Settles result ∧ result.criterionId ∉ scan.seenCriteria := by
  obtain ⟨criterionId, outcome, anchors, reason⟩ := result
  have hiff : question.Settles ⟨criterionId, outcome, anchors, reason⟩ ↔
      criterionId ∈ question.criterionIds ∧ (∀ a ∈ anchors, a ∈ question.patchAnchorIds) ∧
        MultimodalCriterionResult.Evidenced ⟨criterionId, outcome, anchors, reason⟩ :=
    ⟨fun h => ⟨h.criterion, h.anchors, h.evidenced⟩, fun h => ⟨h.1, h.2.1, h.2.2⟩⟩
  rw [hiff]
  simp only [scanCriterion, addIf_eq_nil, not_not, not_exists, not_and,
    MultimodalCriterionResult.Evidenced, List.length_eq_zero_iff]
  cases outcome
  · simp
    tauto
  · simp
    tauto
  · simp
    tauto

/-! ## The results of one evaluation -/

@[simp] theorem foldl_scanCriterion_seenCriteria (question : JudgeQuestion)
    (results : List MultimodalCriterionResult) (scan : CriterionScan) :
    (results.foldl (scanCriterion question) scan).seenCriteria =
      scan.seenCriteria ++ results.map fun result => result.criterionId := by
  induction results generalizing scan with
  | nil => simp
  | cons result results ih =>
      rw [List.foldl_cons, ih]
      simp [scanCriterion]

theorem foldl_scanCriterion_issues_eq_nil {question : JudgeQuestion}
    {results : List MultimodalCriterionResult} {scan : CriterionScan} :
    (results.foldl (scanCriterion question) scan).issues = [] ↔
      scan.issues = [] ∧ (∀ result ∈ results, question.Settles result) ∧
        (results.map fun result => result.criterionId).Nodup ∧
        ∀ result ∈ results, result.criterionId ∉ scan.seenCriteria := by
  induction results generalizing scan with
  | nil => simp
  | cons result results ih =>
      have hseen : (scanCriterion question scan result).seenCriteria =
          scan.seenCriteria ++ [result.criterionId] := rfl
      rw [List.foldl_cons, ih, scanCriterion_issues_eq_nil, hseen]
      simp only [List.mem_append, List.mem_singleton, not_or, List.forall_mem_cons,
        List.map_cons, List.nodup_cons, List.mem_map, not_exists, not_and]
      constructor
      · rintro ⟨⟨hissues, hsettles, hnew⟩, hall, hnodup, hfresh⟩
        exact ⟨hissues, ⟨hsettles, hall⟩, ⟨fun other hother => (hfresh other hother).2, hnodup⟩,
          hnew, fun other hother => (hfresh other hother).1⟩
      · rintro ⟨hissues, ⟨hsettles, hall⟩, ⟨hdistinct, hnodup⟩, hnew, hfresh⟩
        exact ⟨⟨hissues, hsettles, hnew⟩, hall, hnodup,
          fun other hother => ⟨hfresh other hother, hdistinct other hother⟩⟩

theorem foldl_scanCriterion_hasNotMetResult (question : JudgeQuestion)
    (results : List MultimodalCriterionResult) (scan : CriterionScan) :
    (results.foldl (scanCriterion question) scan).hasNotMetResult =
      (scan.hasNotMetResult || results.any fun result => result.result == .notMet) := by
  induction results generalizing scan with
  | nil => simp
  | cons result results ih =>
      rw [List.foldl_cons, ih]
      simp [scanCriterion, Bool.or_assoc]

theorem foldl_scanCriterion_hasNotEvaluableResult (question : JudgeQuestion)
    (results : List MultimodalCriterionResult) (scan : CriterionScan) :
    (results.foldl (scanCriterion question) scan).hasNotEvaluableResult =
      (scan.hasNotEvaluableResult || results.any fun result => result.result == .notEvaluable) := by
  induction results generalizing scan with
  | nil => simp
  | cons result results ih =>
      rw [List.foldl_cons, ih]
      simp [scanCriterion, Bool.or_assoc]

/-! ## One evaluation -/

theorem question?_some {input : MultimodalJudgeProviderInput} {questionId : JsString}
    {question : JudgeQuestion} (h : input.question? questionId = some question) :
    question ∈ input.questions ∧ question.id = questionId := by
  refine ⟨List.mem_of_find?_eq_some h, ?_⟩
  simpa using List.find?_some h

theorem question?_eq_none_iff {input : MultimodalJudgeProviderInput} {questionId : JsString} :
    input.question? questionId = none ↔ questionId ∉ input.questionIds := by
  simp [MultimodalJudgeProviderInput.question?, MultimodalJudgeProviderInput.questionIds]

/-- What the scan of one evaluation adds to the issues. -/
theorem scanEvaluation_issues_eq_nil {input : MultimodalJudgeProviderInput}
    (hcriteria : ∀ question ∈ input.questions, question.criterionIds.Nodup)
    {scan : EvaluationScan} {evaluation : MultimodalQuestionEvaluation} :
    (scanEvaluation input scan evaluation).issues = [] ↔
      scan.issues = [] ∧ evaluation.questionId ∉ scan.seenQuestions ∧
        ∃ question, input.question? evaluation.questionId = some question ∧
          question.IsEvaluated evaluation := by
  cases hquestion : input.question? evaluation.questionId with
  | none => simp [scanEvaluation, hquestion]
  | some question =>
      simp only [scanEvaluation, hquestion, foldl_addIf_eq_nil, foldl_scanCriterion_issues_eq_nil,
        foldl_scanCriterion_seenCriteria, addIf_eq_nil, List.nil_append, not_not,
        List.not_mem_nil, not_false_eq_true, implies_true, and_true, Option.some.injEq,
        exists_eq_left']
      have hnodup := hcriteria question (question?_some hquestion).1
      constructor
      · rintro ⟨⟨⟨hissues, hnew⟩, hsettled, hdistinct⟩, hmissing⟩
        refine ⟨hissues, hnew, ⟨?_, hsettled⟩⟩
        refine (List.perm_ext_iff_of_nodup hdistinct hnodup).mpr fun criterionId => ⟨?_, ?_⟩
        · intro hmem
          obtain ⟨result, hresult, rfl⟩ := List.mem_map.mp hmem
          exact (hsettled result hresult).criterion
        · exact hmissing criterionId
      · rintro ⟨hissues, hnew, hevaluated⟩
        refine ⟨⟨⟨hissues, hnew⟩, hevaluated.settled, ?_⟩, ?_⟩
        · exact hevaluated.criteria.nodup_iff.mpr hnodup
        · exact fun criterionId hmem => hevaluated.criteria.mem_iff.mpr hmem

/-! ## All the evaluations -/

/-- What an accepted input guarantees about its identifiers. -/
structure MultimodalJudgeProviderInput.DistinctIds (input : MultimodalJudgeProviderInput) :
    Prop where
  questions : input.questionIds.Nodup
  criteria : ∀ question ∈ input.questions, question.criterionIds.Nodup

theorem scanEvaluation_seenQuestions {input : MultimodalJudgeProviderInput}
    {evaluation : MultimodalQuestionEvaluation} {question : JudgeQuestion}
    (h : input.question? evaluation.questionId = some question) (scan : EvaluationScan) :
    (scanEvaluation input scan evaluation).seenQuestions =
      scan.seenQuestions ++ [evaluation.questionId] := by
  simp only [scanEvaluation, h]

/-- The question of an evaluation that the scan does not object to. -/
def MultimodalJudgeProviderInput.Evaluates (input : MultimodalJudgeProviderInput)
    (evaluation : MultimodalQuestionEvaluation) : Prop :=
  ∃ question, input.question? evaluation.questionId = some question ∧
    question.IsEvaluated evaluation

theorem foldl_scanEvaluation_issues_eq_nil {input : MultimodalJudgeProviderInput}
    (hids : input.DistinctIds) {evaluations : List MultimodalQuestionEvaluation}
    {scan : EvaluationScan} :
    (evaluations.foldl (scanEvaluation input) scan).issues = [] ↔
      scan.issues = [] ∧ (∀ evaluation ∈ evaluations, input.Evaluates evaluation) ∧
        (evaluations.map fun evaluation => evaluation.questionId).Nodup ∧
        ∀ evaluation ∈ evaluations, evaluation.questionId ∉ scan.seenQuestions := by
  induction evaluations generalizing scan with
  | nil => simp
  | cons evaluation evaluations ih =>
      rw [List.foldl_cons, ih, scanEvaluation_issues_eq_nil hids.criteria]
      simp only [List.forall_mem_cons, List.map_cons, List.nodup_cons, List.mem_map, not_exists,
        not_and]
      constructor
      · rintro ⟨⟨hissues, hnew, question, hquestion, hevaluated⟩, hall, hnodup, hfresh⟩
        simp only [scanEvaluation_seenQuestions hquestion, List.mem_append, List.mem_singleton,
          not_or] at hfresh
        exact ⟨hissues, ⟨⟨question, hquestion, hevaluated⟩, hall⟩,
          ⟨fun other hother => (hfresh other hother).2, hnodup⟩, hnew,
          fun other hother => (hfresh other hother).1⟩
      · rintro ⟨hissues, ⟨⟨question, hquestion, hevaluated⟩, hall⟩, ⟨hdistinct, hnodup⟩, hnew,
          hfresh⟩
        refine ⟨⟨hissues, hnew, question, hquestion, hevaluated⟩, hall, hnodup, ?_⟩
        simp only [scanEvaluation_seenQuestions hquestion, List.mem_append, List.mem_singleton,
          not_or]
        exact fun other hother => ⟨hfresh other hother, hdistinct other hother⟩

theorem foldl_scanEvaluation_seenQuestions {input : MultimodalJudgeProviderInput}
    {evaluations : List MultimodalQuestionEvaluation}
    (h : ∀ evaluation ∈ evaluations, input.Evaluates evaluation) (scan : EvaluationScan) :
    (evaluations.foldl (scanEvaluation input) scan).seenQuestions =
      scan.seenQuestions ++ evaluations.map fun evaluation => evaluation.questionId := by
  induction evaluations generalizing scan with
  | nil => simp
  | cons evaluation evaluations ih =>
      rw [List.forall_mem_cons] at h
      obtain ⟨⟨question, hquestion, -⟩, h⟩ := h
      rw [List.foldl_cons, ih h, scanEvaluation_seenQuestions hquestion, List.append_assoc,
        List.map_cons, List.singleton_append]

/-- A question of the input is found under its id. -/
theorem question?_eq_some {input : MultimodalJudgeProviderInput} (h : input.questionIds.Nodup)
    {question : JudgeQuestion} (hquestion : question ∈ input.questions) :
    input.question? question.id = some question := by
  cases hfound : input.question? question.id with
  | none =>
      rw [question?_eq_none_iff] at hfound
      exact absurd (List.mem_map_of_mem hquestion) hfound
  | some found =>
      obtain ⟨hmem, hid⟩ := question?_some hfound
      rw [List.inj_on_of_nodup_map h hmem hquestion hid]

theorem MultimodalJudgeProviderInput.IsEvaluated.evaluates {input : MultimodalJudgeProviderInput}
    {evaluations : List MultimodalQuestionEvaluation} (h : input.IsEvaluated evaluations)
    (hids : input.questionIds.Nodup) :
    ∀ evaluation ∈ evaluations, input.Evaluates evaluation := by
  intro evaluation hevaluation
  have hmem := h.questions.mem_iff.mp (List.mem_map_of_mem hevaluation)
  obtain ⟨question, hquestion, hid⟩ := List.mem_map.mp hmem
  refine ⟨question, ?_, h.evaluated evaluation hevaluation question hquestion hid⟩
  rw [← hid]
  exact question?_eq_some hids hquestion

/-- The scan reports nothing exactly when every stored question is evaluated. -/
theorem scanEvaluations_issues_eq_nil {input : MultimodalJudgeProviderInput}
    (hids : input.DistinctIds) {evaluations : List MultimodalQuestionEvaluation} :
    (scanEvaluations input evaluations).issues = [] ↔ input.IsEvaluated evaluations := by
  simp only [scanEvaluations, foldl_addIf_eq_nil, foldl_scanEvaluation_issues_eq_nil hids,
    not_not, List.not_mem_nil, not_false_eq_true, implies_true, and_true, true_and]
  constructor
  · rintro ⟨⟨hall, hnodup⟩, hmissing⟩
    rw [foldl_scanEvaluation_seenQuestions hall, List.nil_append] at hmissing
    refine ⟨(List.perm_ext_iff_of_nodup hnodup hids.questions).mpr fun questionId => ⟨?_, ?_⟩,
      ?_⟩
    · intro hmem
      obtain ⟨evaluation, hevaluation, rfl⟩ := List.mem_map.mp hmem
      obtain ⟨question, hquestion, -⟩ := hall evaluation hevaluation
      obtain ⟨hmem, hid⟩ := question?_some hquestion
      exact hid ▸ List.mem_map_of_mem hmem
    · exact hmissing questionId
    · intro evaluation hevaluation question hquestion hid
      obtain ⟨found, hfound, hevaluated⟩ := hall evaluation hevaluation
      rw [← hid, question?_eq_some hids.questions hquestion, Option.some.injEq] at hfound
      exact hfound ▸ hevaluated
  · intro h
    have hall := h.evaluates hids.questions
    refine ⟨⟨hall, h.questions.nodup_iff.mpr hids.questions⟩, ?_⟩
    rw [foldl_scanEvaluation_seenQuestions hall, List.nil_append]
    exact fun questionId hmem => h.questions.mem_iff.mpr hmem

/-! ## The two summary flags -/

theorem scanEvaluation_flags {input : MultimodalJudgeProviderInput}
    {evaluation : MultimodalQuestionEvaluation} (h : input.Evaluates evaluation)
    (scan : EvaluationScan) :
    (scanEvaluation input scan evaluation).hasNotMetResult =
        (scan.hasNotMetResult ||
          evaluation.criterionResults.any fun result => result.result == .notMet) ∧
      (scanEvaluation input scan evaluation).hasNotEvaluableResult =
        (scan.hasNotEvaluableResult ||
          evaluation.criterionResults.any fun result => result.result == .notEvaluable) := by
  obtain ⟨question, hquestion, -⟩ := h
  simp only [scanEvaluation, hquestion, foldl_scanCriterion_hasNotMetResult,
    foldl_scanCriterion_hasNotEvaluableResult, and_self]

theorem foldl_scanEvaluation_flags {input : MultimodalJudgeProviderInput}
    {evaluations : List MultimodalQuestionEvaluation}
    (h : ∀ evaluation ∈ evaluations, input.Evaluates evaluation) (scan : EvaluationScan) :
    (evaluations.foldl (scanEvaluation input) scan).hasNotMetResult =
        (scan.hasNotMetResult || evaluations.any fun evaluation =>
          evaluation.criterionResults.any fun result => result.result == .notMet) ∧
      (evaluations.foldl (scanEvaluation input) scan).hasNotEvaluableResult =
        (scan.hasNotEvaluableResult || evaluations.any fun evaluation =>
          evaluation.criterionResults.any fun result => result.result == .notEvaluable) := by
  induction evaluations generalizing scan with
  | nil => simp
  | cons evaluation evaluations ih =>
      rw [List.forall_mem_cons] at h
      have hfirst := scanEvaluation_flags h.1 scan
      have hrest := ih h.2 (scanEvaluation input scan evaluation)
      rw [List.foldl_cons, hrest.1, hrest.2, hfirst.1, hfirst.2]
      simp only [List.any_cons, Bool.or_assoc, and_self]

theorem scanEvaluations_hasNotMetResult {input : MultimodalJudgeProviderInput}
    {evaluations : List MultimodalQuestionEvaluation} (hids : input.DistinctIds)
    (h : input.IsEvaluated evaluations) :
    (scanEvaluations input evaluations).hasNotMetResult = true ↔
      ∃ evaluation ∈ evaluations, ∃ result ∈ evaluation.criterionResults,
        result.result = .notMet := by
  have hflags := (foldl_scanEvaluation_flags (h.evaluates hids.questions)
    ⟨[], [], false, false⟩).1
  rw [scanEvaluations, hflags]
  simp

theorem scanEvaluations_hasNotEvaluableResult {input : MultimodalJudgeProviderInput}
    {evaluations : List MultimodalQuestionEvaluation} (hids : input.DistinctIds)
    (h : input.IsEvaluated evaluations) :
    (scanEvaluations input evaluations).hasNotEvaluableResult = true ↔
      ∃ evaluation ∈ evaluations, ∃ result ∈ evaluation.criterionResults,
        result.result = .notEvaluable := by
  have hflags := (foldl_scanEvaluation_flags (h.evaluates hids.questions)
    ⟨[], [], false, false⟩).2
  rw [scanEvaluations, hflags]
  simp

theorem hasUnresolvedEvidence_eq_false {candidate : MultimodalJudgeCandidate} :
    candidate.hasUnresolvedEvidence = false ↔ ∀ evaluation ∈ candidate.questionEvaluations,
      evaluation.contradictions = [] ∧ evaluation.uncertainty = [] := by
  simp [MultimodalJudgeCandidate.hasUnresolvedEvidence, List.any_eq_false,
    List.length_pos_iff]

/-! ## The issues of the scan are fatal -/

theorem scanCriterion_fatal {question : JudgeQuestion} {scan : CriterionScan}
    {result : MultimodalCriterionResult}
    (h : ∀ issue ∈ scan.issues, issue ∉ normalizableIssues) :
    ∀ issue ∈ (scanCriterion question scan result).issues, issue ∉ normalizableIssues := by
  intro issue hissue
  simp only [scanCriterion, mem_addIf] at hissue
  rcases hissue with ((((((hold | ⟨-, rfl⟩) | ⟨-, rfl⟩) | ⟨-, rfl⟩) | ⟨-, rfl⟩) | ⟨-, rfl⟩) |
    ⟨-, rfl⟩) | ⟨-, rfl⟩
  · exact h issue hold
  all_goals decide

theorem foldl_scanCriterion_fatal {question : JudgeQuestion}
    {results : List MultimodalCriterionResult} {scan : CriterionScan}
    (h : ∀ issue ∈ scan.issues, issue ∉ normalizableIssues) :
    ∀ issue ∈ (results.foldl (scanCriterion question) scan).issues,
      issue ∉ normalizableIssues := by
  induction results generalizing scan with
  | nil => exact h
  | cons result results ih => exact ih (scanCriterion_fatal h)

theorem scanEvaluation_fatal {input : MultimodalJudgeProviderInput} {scan : EvaluationScan}
    {evaluation : MultimodalQuestionEvaluation}
    (h : ∀ issue ∈ scan.issues, issue ∉ normalizableIssues) :
    ∀ issue ∈ (scanEvaluation input scan evaluation).issues, issue ∉ normalizableIssues := by
  intro issue hissue
  unfold scanEvaluation at hissue
  split at hissue
  · rw [mem_addIf] at hissue
    rcases hissue with hold | ⟨-, rfl⟩
    · exact h issue hold
    · decide
  · rw [mem_foldl_addIf] at hissue
    rcases hissue with hold | ⟨-, rfl⟩
    · refine foldl_scanCriterion_fatal ?_ issue hold
      intro issue hissue
      rcases mem_addIf.mp hissue with hold | ⟨-, rfl⟩
      · exact h issue hold
      · decide
    · decide

theorem scanEvaluations_fatal (input : MultimodalJudgeProviderInput)
    (evaluations : List MultimodalQuestionEvaluation) :
    ∀ issue ∈ (scanEvaluations input evaluations).issues, issue ∉ normalizableIssues := by
  have hfold : ∀ (evaluations : List MultimodalQuestionEvaluation) (scan : EvaluationScan),
      (∀ issue ∈ scan.issues, issue ∉ normalizableIssues) →
        ∀ issue ∈ (evaluations.foldl (scanEvaluation input) scan).issues,
          issue ∉ normalizableIssues := by
    intro evaluations
    induction evaluations with
    | nil => exact fun scan h => h
    | cons evaluation evaluations ih => exact fun scan h => ih _ (scanEvaluation_fatal h)
  intro issue hissue
  rcases mem_foldl_addIf.mp hissue with hold | ⟨-, rfl⟩
  · exact hfold evaluations ⟨[], [], false, false⟩ (by simp) issue hold
  · decide

/-! ## The issues of the recommendation -/

theorem candidateIssues_eq_nil_iff {scan : EvaluationScan}
    {candidate : MultimodalJudgeCandidate} :
    candidateIssues scan candidate = [] ↔ scan.issues = [] ∧
      (candidate.recommendation = .pass → scan.hasNotMetResult = false ∧
        scan.hasNotEvaluableResult = false ∧ candidate.hasUnresolvedEvidence = false) ∧
      (candidate.recommendation = .retry →
        scan.hasNotEvaluableResult = false ∧ candidate.hasUnresolvedEvidence = false) ∧
      candidate.privateReason = expectedPrivateReason candidate.recommendation := by
  simp only [candidateIssues, addIf_eq_nil, not_and, not_or, Bool.not_eq_true, not_not, and_assoc,
    ne_eq]

/-- A candidate is only repaired when the scan has reported nothing. -/
theorem scan_issues_eq_nil {input : MultimodalJudgeProviderInput}
    {candidate : MultimodalJudgeCandidate} (h : ∀ issue ∈ candidateIssues
      (scanEvaluations input candidate.questionEvaluations) candidate,
        issue ∈ normalizableIssues) :
    (scanEvaluations input candidate.questionEvaluations).issues = [] := by
  refine List.eq_nil_iff_forall_not_mem.mpr fun issue hissue => ?_
  refine scanEvaluations_fatal input _ issue hissue (h issue ?_)
  simp only [candidateIssues, mem_addIf]
  exact .inl (.inl (.inl hissue))

/-- A repaired candidate has no issues left. -/
theorem candidateIssues_normalizeCandidate {scan : EvaluationScan}
    {candidate : MultimodalJudgeCandidate} (h : scan.issues = []) :
    candidateIssues scan (normalizeCandidate scan candidate) = [] := by
  have hunresolved : (normalizeCandidate scan candidate).hasUnresolvedEvidence =
      candidate.hasUnresolvedEvidence := rfl
  rw [candidateIssues_eq_nil_iff, hunresolved]
  refine ⟨h, ?_, ?_, rfl⟩
  · intro hpass
    simp only [normalizeCandidate, normalizedRecommendation] at hpass
    split at hpass
    · cases hpass
    · next hclear =>
        simp only [Bool.or_eq_true, not_or, Bool.not_eq_true] at hclear
        split at hpass
        · cases hpass
        · next hmet => exact ⟨by simpa using hmet, hclear.1, hclear.2⟩
  · intro hretry
    simp only [normalizeCandidate, normalizedRecommendation] at hretry
    split at hretry
    · cases hretry
    · next hclear => simpa using hclear

end Providers

end UnderstandProof
