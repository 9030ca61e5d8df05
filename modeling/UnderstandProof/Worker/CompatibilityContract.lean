import UnderstandProof.Foundation.Text
import UnderstandProof.Worker.CompatibilityBundle
import UnderstandProof.Worker.JudgeReviews

/-!
# The projection of a review

The compatibility projection of an evaluation that a run of the judge returns is
accepted and says what the evaluation says, and every check on the way to the bundle
passes, but the one of the length of its payload.
-/

open Foundation

namespace UnderstandProof

namespace Worker

open Domain Providers Media

/-! ## Identifiers -/

theorem isHex_hexDigit : ∀ n < 16, isHex (hexDigit n) = true := by
  decide

theorem stamped_version (byte : UInt8) : ((byte &&& 0x0f) ||| 0x50).toNat / 16 = 5 := by
  have hall : ∀ n < 256, ((UInt8.ofNat n &&& 0x0f) ||| 0x50).toNat / 16 = 5 := by decide +kernel
  have hbyte := hall byte.toNat byte.toNat_lt
  rwa [UInt8.ofNat_toNat] at hbyte

theorem stamped_variant (byte : UInt8) :
    ((byte &&& 0x3f) ||| 0x80).toNat / 16 ∈ [8, 9, 10, 11] := by
  have hall : ∀ n < 256, ((UInt8.ofNat n &&& 0x3f) ||| 0x80).toNat / 16 ∈ [8, 9, 10, 11] := by
    decide +kernel
  have hbyte := hall byte.toNat byte.toNat_lt
  rwa [UInt8.ofNat_toNat] at hbyte

theorem isVariant_hexDigit : ∀ n ∈ [8, 9, 10, 11], (hexDigit n == 0x38 || hexDigit n == 0x39 ||
    hexDigit n == 0x61 || hexDigit n == 0x62 || hexDigit n == 0x41 || hexDigit n == 0x42) =
      true := by
  decide

theorem isVersionedUuid_stampUuid {bytes : Bytes} (h : bytes.length = 16) :
    isVersionedUuid (groupUuid (encodeHex (stampUuid bytes))) = true := by
  have hhigh : ∀ byte : UInt8, isHex (hexDigit (byte.toNat / 16)) = true := fun byte =>
    isHex_hexDigit _ (Nat.div_lt_of_lt_mul byte.toNat_lt)
  have hlow : ∀ byte : UInt8, isHex (hexDigit (byte.toNat % 16)) = true := fun byte =>
    isHex_hexDigit _ (Nat.mod_lt _ (by decide))
  match bytes, h with
  | [b0, b1, b2, b3, b4, b5, b6, b7, b8, b9, b10, b11, b12, b13, b14, b15], _ =>
    have hversion : hexDigit (((b6 &&& 0x0f) ||| 0x50).toNat / 16) = 0x35 := by
      rw [stamped_version]
      rfl
    have hvariant := isVariant_hexDigit _ (stamped_variant b8)
    have hstamp : stampUuid [b0, b1, b2, b3, b4, b5, b6, b7, b8, b9, b10, b11, b12, b13, b14,
        b15] = [b0, b1, b2, b3, b4, b5, (b6 &&& 0x0f) ||| 0x50, b7, (b8 &&& 0x3f) ||| 0x80, b9,
        b10, b11, b12, b13, b14, b15] := rfl
    rw [hstamp]
    generalize (b6 &&& 0x0f) ||| 0x50 = version at hversion
    generalize (b8 &&& 0x3f) ||| 0x80 = variant at hvariant
    simp [isVersionedUuid, groupUuid, encodeHex, js, hhigh, hlow, hversion, hvariant,
      -Bool.or_eq_true]

theorem deterministicUuid_accepted (sha256 : Sha256) (value : JsString) :
    isUuid (deterministicUuid sha256 value) = true := by
  have hlength : ((sha256.digest (JsString.utf8Encode value)).take 16).length = 16 := by
    rw [List.length_take, sha256.length_digest]
    rfl
  rw [isUuid, deterministicUuid, isVersionedUuid_stampUuid hlength, Bool.true_or, Bool.true_or]

/-! ## The checks succeed on a review -/

theorem storedQuestion?_eq_some {evaluationInput : ProofEvaluationInput}
    (h : evaluationInput.questionIds.Nodup) {question : EvaluationQuestion}
    (hquestion : question ∈ evaluationInput.questions) :
    storedQuestion? evaluationInput question.id = some question := by
  cases hfound : storedQuestion? evaluationInput question.id with
  | none =>
      have hnone := List.find?_eq_none.mp hfound question (List.mem_reverse.mpr hquestion)
      simp at hnone
  | some found =>
      have hmem := List.mem_reverse.mp (List.mem_of_find?_eq_some hfound)
      have hid : found.id = question.id := by simpa using List.find?_some hfound
      rw [List.inj_on_of_nodup_map h hmem hquestion hid]

theorem foldlM_seeCriterion {storedCriterionIds : List JsString}
    {criteria : List MultimodalCriterionResult} {seen : List JsString}
    (hstored : ∀ criterion ∈ criteria, criterion.criterionId ∈ storedCriterionIds)
    (hnodup : (criteria.map fun criterion => criterion.criterionId).Nodup)
    (hseen : ∀ criterion ∈ criteria, criterion.criterionId ∉ seen) :
    criteria.foldlM (seeCriterion storedCriterionIds) seen =
      .ok (seen ++ criteria.map fun criterion => criterion.criterionId) := by
  induction criteria generalizing seen with
  | nil => simp
  | cons criterion criteria ih =>
      rw [List.forall_mem_cons] at hstored hseen
      rw [List.map_cons, List.nodup_cons] at hnodup
      have hstep : seeCriterion storedCriterionIds seen criterion =
          .ok (seen ++ [criterion.criterionId]) := by
        rw [seeCriterion, rejectIf_of_not (by simp [hstored.1, hseen.1]), except_ok_bind]
        rfl
      rw [List.foldlM_cons, hstep, except_ok_bind, ih hstored.2 hnodup.2]
      · rw [List.append_assoc, List.map_cons, List.singleton_append]
      · intro other hother
        rw [List.mem_append, List.mem_singleton, not_or]
        exact ⟨hseen.2 other hother, fun heq => hnodup.1 (heq ▸ List.mem_map_of_mem hother)⟩

/-- Results that cover the rubric pass the check. -/
theorem checkRubric_ok {stored : EvaluationQuestion} {question : MultimodalQuestionEvaluation}
    (hnodup : stored.criterionIds.Nodup)
    (h : (question.criterionResults.map fun criterion => criterion.criterionId).Perm
      stored.criterionIds) : checkRubric stored question = .ok () := by
  have hmem : ∀ criterionId, criterionId ∈ stored.criterionIds.eraseDups ↔
      criterionId ∈ question.criterionResults.map fun criterion => criterion.criterionId :=
    fun criterionId => mem_eraseDups.trans h.mem_iff.symm
  have hperm := (List.perm_ext_iff_of_nodup (nodup_eraseDups stored.criterionIds)
    (h.nodup_iff.mpr hnodup)).mpr hmem
  have hseen : ∀ criterion ∈ question.criterionResults, criterion.criterionId ∉ ([] : List JsString) :=
    fun _ _ => List.not_mem_nil
  rw [checkRubric, foldlM_seeCriterion (fun criterion hcriterion =>
    (hmem _).mpr (List.mem_map_of_mem hcriterion)) (h.nodup_iff.mpr hnodup) hseen, except_ok_bind,
    List.nil_append]
  refine rejectIf_of_not ?_
  rintro (hlength | ⟨criterionId, hcriterionId, hmissing⟩)
  · exact hlength hperm.length_eq.symm
  · exact hmissing ((hmem criterionId).mp hcriterionId)

theorem projectEvaluations_ok {sha256 : Sha256} {evaluationInput : ProofEvaluationInput}
    {questions : List MultimodalQuestionEvaluation} {seen : List JsString}
    (hchecked : ∀ question ∈ questions, ∃ stored,
      storedQuestion? evaluationInput question.questionId = some stored ∧
        checkRubric stored question = .ok ())
    (hnodup : (questions.map fun question => question.questionId).Nodup)
    (hseen : ∀ question ∈ questions, question.questionId ∉ seen) :
    projectEvaluations sha256 evaluationInput seen questions =
      .ok (questions.map (projectEvaluation sha256 evaluationInput.attemptId),
        seen ++ questions.map fun question => question.questionId) := by
  induction questions generalizing seen with
  | nil => simp [projectEvaluations]
  | cons question questions ih =>
      rw [List.forall_mem_cons] at hchecked hseen
      rw [List.map_cons, List.nodup_cons] at hnodup
      obtain ⟨⟨stored, hstored, hrubric⟩, hchecked⟩ := hchecked
      have hrest : ∀ other ∈ questions, other.questionId ∉ seen ++ [question.questionId] := by
        intro other hother
        rw [List.mem_append, List.mem_singleton, not_or]
        exact ⟨hseen.2 other hother, fun heq => hnodup.1 (heq ▸ List.mem_map_of_mem hother)⟩
      rw [projectEvaluations, hstored]
      simp only [rejectIf_of_not hseen.1, except_ok_bind, hrubric, ih hchecked hnodup.2 hrest]
      rw [List.append_assoc]
      rfl

/-! ## The projection says what the evaluation says -/

/-- What the projection of a question keeps of its evaluation: it is met exactly when
every criterion is met, and its findings are those of the decided criteria, with one in
their place where there is none. -/
structure Projects (result : MultimodalQuestionEvaluation) (question : QuestionEvaluation) :
    Prop where
  questionId : question.questionId = result.questionId
  outcome : question.outcome = .met ↔
    ∀ criterion ∈ result.criterionResults, criterion.result = .met
  findings : evaluable result ≠ [] → question.rubricFindings.map (fun finding =>
      (finding.criterionId, finding.result)) =
    (evaluable result).map fun criterion => (criterion.criterionId, criterion.result)
  placeholder : evaluable result = [] →
    ∃ criterionId, question.rubricFindings = [⟨criterionId, .met, sentinelReason⟩]

theorem mem_evaluable {question : MultimodalQuestionEvaluation}
    {criterion : MultimodalCriterionResult} :
    criterion ∈ evaluable question ↔
      criterion ∈ question.criterionResults ∧ criterion.result ≠ .notEvaluable := by
  rw [evaluable, List.mem_filter, bne_iff_ne]

theorem questionOutcome_eq_met {question : MultimodalQuestionEvaluation} :
    questionOutcome question = .met ↔
      ∀ criterion ∈ question.criterionResults, criterion.result = .met := by
  constructor
  · intro h criterion hcriterion
    unfold questionOutcome at h
    split at h
    · cases h
    · next hdecided =>
        split at h
        · next hmet =>
            rw [List.any_eq_true] at hdecided
            have hne : criterion.result ≠ .notEvaluable := fun heq =>
              hdecided ⟨criterion, hcriterion, by rw [heq]; rfl⟩
            have hall := List.all_eq_true.mp hmet criterion (mem_evaluable.mpr ⟨hcriterion, hne⟩)
            exact beq_iff_eq.mp hall
        · split at h <;> cases h
  · intro h
    have hdecided : ¬ (question.criterionResults.any fun criterion =>
        criterion.result == .notEvaluable) = true := by
      rw [List.any_eq_true]
      rintro ⟨criterion, hcriterion, heq⟩
      rw [h criterion hcriterion] at heq
      cases heq
    have hmet : ((evaluable question).all fun criterion => criterion.result == .met) = true :=
      List.all_eq_true.mpr fun criterion hcriterion =>
        beq_iff_eq.mpr (h criterion (mem_evaluable.mp hcriterion).1)
    rw [questionOutcome, if_neg hdecided, if_pos hmet]

theorem rubricFindings_of_evaluable (sha256 : Sha256) (attemptId : JsString)
    {question : MultimodalQuestionEvaluation} (h : evaluable question ≠ []) :
    rubricFindings sha256 attemptId question = (evaluable question).map rubricFinding := by
  rw [rubricFindings]
  exact if_neg (by simpa using h)

theorem rubricFindings_of_none (sha256 : Sha256) (attemptId : JsString)
    {question : MultimodalQuestionEvaluation} (h : evaluable question = []) :
    rubricFindings sha256 attemptId question =
      [sentinelFinding sha256 attemptId question.questionId] := by
  rw [rubricFindings, h]
  rfl

theorem projectEvaluation_projects (sha256 : Sha256) (attemptId : JsString)
    (question : MultimodalQuestionEvaluation) :
    Projects question (projectEvaluation sha256 attemptId question) := by
  refine ⟨rfl, questionOutcome_eq_met, ?_, ?_⟩
  · intro h
    simp only [projectEvaluation, rubricFindings_of_evaluable sha256 attemptId h, List.map_map]
    rfl
  · intro h
    exact ⟨_, rubricFindings_of_none sha256 attemptId h⟩

/-! ## The projection is accepted -/

/-- The facts of an accepted question of an authoritative candidate. -/
structure EvaluationFacts (question : MultimodalQuestionEvaluation) : Prop where
  questionId : isUuid question.questionId = true
  length_pos : 1 ≤ question.criterionResults.length
  length_le : question.criterionResults.length ≤ 8
  criteria : ∀ criterion ∈ question.criterionResults, isUuid criterion.criterionId = true
  anchors : ∀ criterion ∈ question.criterionResults,
    ∀ anchorId ∈ criterion.supportedPatchAnchorIds, isPatchAnchorId anchorId = true

theorem evaluationFacts_of_accepts {candidate : MultimodalJudgeCandidate}
    (h : AuthoritativeCandidateSchema.accepts candidate = true) :
    (1 ≤ candidate.questionEvaluations.length ∧ candidate.questionEvaluations.length ≤ 5) ∧
      ∀ question ∈ candidate.questionEvaluations, EvaluationFacts question := by
  simp only [AuthoritativeCandidateSchema.accepts, Bool.and_eq_true, List.all_eq_true,
    decide_eq_true_eq, and_assoc] at h
  obtain ⟨hpos, hle, hquestions, -⟩ := h
  refine ⟨⟨hpos, hle⟩, fun question hquestion => ?_⟩
  obtain ⟨hid, hlength, hmax, hcriteria, -⟩ := hquestions question hquestion
  exact ⟨hid, hlength, hmax, fun criterion hcriterion => (hcriteria criterion hcriterion).1,
    fun criterion hcriterion => (hcriteria criterion hcriterion).2.2⟩

theorem rubricFinding_accepted {criterion : MultimodalCriterionResult}
    (hid : isUuid criterion.criterionId = true) (hresult : criterion.result ≠ .notEvaluable) :
    RubricFindingV1Schema.accepts (rubricFinding criterion) = true := by
  have hreason : ∀ outcome : CriterionOutcome,
      1 ≤ (if outcome = .met then supportedReason else unsupportedReason).length ∧
        (if outcome = .met then supportedReason else unsupportedReason).length ≤ 500 := by
    intro outcome
    split
    · exact ⟨by decide, by decide⟩
    · exact ⟨by decide, by decide⟩
  simp only [RubricFindingV1Schema.accepts, rubricFinding, Bool.and_eq_true, bne_iff_ne]
  exact ⟨⟨⟨hid, hresult⟩, decide_eq_true (hreason _).1⟩, decide_eq_true (hreason _).2⟩

theorem sentinelFinding_accepted (sha256 : Sha256) (attemptId questionId : JsString) :
    RubricFindingV1Schema.accepts (sentinelFinding sha256 attemptId questionId) = true := by
  have hlength : 1 ≤ sentinelReason.length ∧ sentinelReason.length ≤ 500 := by decide
  simp only [RubricFindingV1Schema.accepts, sentinelFinding, deterministicUuid_accepted,
    Bool.and_eq_true, bne_iff_ne]
  exact ⟨⟨⟨trivial, by decide⟩, decide_eq_true hlength.1⟩, decide_eq_true hlength.2⟩

theorem rubricFindings_accepted (sha256 : Sha256) (attemptId : JsString)
    {question : MultimodalQuestionEvaluation} (h : EvaluationFacts question) :
    1 ≤ (rubricFindings sha256 attemptId question).length ∧
      (rubricFindings sha256 attemptId question).length ≤ 8 ∧
      ∀ finding ∈ rubricFindings sha256 attemptId question,
        RubricFindingV1Schema.accepts finding = true := by
  by_cases hnone : evaluable question = []
  · rw [rubricFindings_of_none sha256 attemptId hnone]
    refine ⟨Nat.le_refl 1, (by decide : 1 ≤ 8), ?_⟩
    simpa using sentinelFinding_accepted sha256 attemptId question.questionId
  · rw [rubricFindings_of_evaluable sha256 attemptId hnone, List.length_map]
    refine ⟨List.length_pos_iff.mpr hnone, (List.length_filter_le _ _).trans h.length_le, ?_⟩
    intro finding hfinding
    obtain ⟨criterion, hcriterion, rfl⟩ := List.mem_map.mp hfinding
    obtain ⟨hmem, hresult⟩ := mem_evaluable.mp hcriterion
    exact rubricFinding_accepted (h.criteria criterion hmem) hresult

/-- The findings of different criteria have different ids. -/
theorem rubricFindings_nodup (sha256 : Sha256) (attemptId : JsString)
    {question : MultimodalQuestionEvaluation}
    (h : (question.criterionResults.map fun criterion => criterion.criterionId).Nodup) :
    ((rubricFindings sha256 attemptId question).map fun finding => finding.criterionId).Nodup := by
  by_cases hnone : evaluable question = []
  · rw [rubricFindings_of_none sha256 attemptId hnone]
    exact List.nodup_singleton _
  · rw [rubricFindings_of_evaluable sha256 attemptId hnone, List.map_map]
    exact (List.filter_sublist.map _).nodup h

theorem mem_supportedPatchAnchorIds {sha256 : Sha256} {attemptId : JsString}
    {question : MultimodalQuestionEvaluation} {anchorId : JsString} :
    anchorId ∈ (projectEvaluation sha256 attemptId question).supportedPatchAnchorIds ↔
      ∃ criterion ∈ evaluable question, anchorId ∈ criterion.supportedPatchAnchorIds := by
  simp only [projectEvaluation, mem_eraseDups, List.mem_flatMap]

theorem projectEvaluation_accepted (sha256 : Sha256) (attemptId : JsString)
    {question : MultimodalQuestionEvaluation} (h : EvaluationFacts question)
    {patchAnchorIds : List JsString} (hlength : patchAnchorIds.length ≤ 5)
    (hanchors : ∀ criterion ∈ question.criterionResults,
      ∀ anchorId ∈ criterion.supportedPatchAnchorIds, anchorId ∈ patchAnchorIds) :
    QuestionEvaluationV1Schema.accepts (projectEvaluation sha256 attemptId question) = true := by
  have hreason : 1 ≤ projectionReason.length ∧ projectionReason.length ≤ 1000 := by
    decide
  obtain ⟨hpos, hle, hfindings⟩ := rubricFindings_accepted sha256 attemptId h
  have hcount : (projectEvaluation sha256 attemptId question).supportedPatchAnchorIds.length ≤
      patchAnchorIds.length := by
    refine length_eraseDups_le fun anchorId hmem => ?_
    obtain ⟨criterion, hcriterion, hanchorId⟩ := List.mem_flatMap.mp hmem
    exact hanchors criterion (mem_evaluable.mp hcriterion).1 anchorId hanchorId
  simp only [QuestionEvaluationV1Schema.accepts, Bool.and_eq_true, List.all_eq_true,
    decide_eq_true_eq, and_assoc]
  refine ⟨h.questionId, hpos, hle, hfindings, hcount.trans hlength, ?_, hreason⟩
  intro anchorId hanchorId
  obtain ⟨criterion, hcriterion, hmem⟩ := mem_supportedPatchAnchorIds.mp hanchorId
  exact h.anchors criterion (mem_evaluable.mp hcriterion).1 anchorId hmem

/-- The projection that the bundle is made of. -/
def projectionOf (sha256 : Sha256) (evaluationInput : ProofEvaluationInput)
    (evaluation : AuthoritativeMultimodalEvaluation) : ProofEvaluation :=
  compatibilityProjection evaluationInput evaluation
    (evaluation.candidate.questionEvaluations.map
      (projectEvaluation sha256 evaluationInput.attemptId))

section Review

variable {evaluationInput : ProofEvaluationInput} {evaluation : AuthoritativeMultimodalEvaluation}

/-- The stored question of a result, with what the result has of it. -/
theorem Reviews.stored (h : Reviews evaluationInput evaluation)
    {result : MultimodalQuestionEvaluation}
    (hresult : result ∈ evaluation.candidate.questionEvaluations) :
    ∃ stored ∈ evaluationInput.questions, stored.id = result.questionId ∧
      (result.criterionResults.map fun criterion => criterion.criterionId).Perm
        stored.criterionIds ∧
      ∀ criterion ∈ result.criterionResults, ∀ anchorId ∈ criterion.supportedPatchAnchorIds,
        anchorId ∈ stored.patchAnchorIds := by
  have hmem := h.questions.mem_iff.mp (List.mem_map_of_mem hresult)
  obtain ⟨stored, hstored, hid⟩ := List.mem_map.mp hmem
  have hevaluated := h.evaluated result hresult stored hstored hid
  refine ⟨stored, hstored, hid, ?_, fun criterion hcriterion =>
    (hevaluated.settled criterion hcriterion).anchors⟩
  rw [← projectQuestion_criterionIds stored]
  exact hevaluated.criteria

theorem storedQuestion_facts {stored : EvaluationQuestion}
    (h : EvaluationQuestionV1Schema.accepts stored = true) :
    stored.criterionIds.Nodup ∧ stored.patchAnchorIds.length ≤ 5 := by
  simp only [EvaluationQuestionV1Schema.accepts, Bool.and_eq_true, decide_eq_true_eq,
    List.isEmpty_iff, and_assoc] at h
  obtain ⟨-, -, -, -, hanchors, -, -, -, -, hissues⟩ := h
  simp only [EvaluationQuestionV1Schema.issues, List.append_eq_nil_iff, issueIf_eq_nil,
    not_not] at hissues
  exact ⟨hissues.2, hanchors⟩

theorem projectEvaluations_of_reviews (sha256 : Sha256) (hinput : evaluationInput.Accepted)
    (h : Reviews evaluationInput evaluation) :
    projectEvaluations sha256 evaluationInput [] evaluation.candidate.questionEvaluations =
      .ok (evaluation.candidate.questionEvaluations.map
          (projectEvaluation sha256 evaluationInput.attemptId),
        evaluation.candidate.questionEvaluations.map fun question => question.questionId) := by
  have hchecked : ∀ question ∈ evaluation.candidate.questionEvaluations, ∃ stored,
      storedQuestion? evaluationInput question.questionId = some stored ∧
        checkRubric stored question = .ok () := by
    intro question hquestion
    obtain ⟨stored, hstored, hid, hcriteria, -⟩ := h.stored hquestion
    refine ⟨stored, ?_, checkRubric_ok (storedQuestion_facts (hinput.questions stored hstored)).1
      hcriteria⟩
    rw [← hid]
    exact storedQuestion?_eq_some hinput.questionIds hstored
  rw [projectEvaluations_ok hchecked (h.questions.nodup_iff.mpr hinput.questionIds)
    fun _ _ => List.not_mem_nil, List.nil_append]

theorem projectionOf_issues (sha256 : Sha256) (hinput : evaluationInput.Accepted)
    (h : Reviews evaluationInput evaluation) :
    ProofEvaluationV1Schema.issues (projectionOf sha256 evaluationInput evaluation) = [] := by
  have hids : ((projectionOf sha256 evaluationInput evaluation).questionEvaluations.map
      fun question => question.questionId).Nodup := by
    simp only [projectionOf, compatibilityProjection, List.map_map]
    exact h.questions.nodup_iff.mpr hinput.questionIds
  simp only [ProofEvaluationV1Schema.issues, List.flatMap_eq_nil_iff, List.append_eq_nil_iff,
    issueIf_eq_nil, not_not]
  intro entry hentry
  have hmem := List.fst_mem_of_mem_zipIdx hentry
  obtain ⟨result, hresult, heq⟩ := List.mem_map.mp hmem
  obtain ⟨stored, hstored, -, hcriteria, -⟩ := h.stored hresult
  have hnodup := hcriteria.nodup_iff.mpr (storedQuestion_facts (hinput.questions stored hstored)).1
  refine ⟨⟨not_mem_take_of_nodup hids hentry, ?_⟩, ?_⟩
  · rw [← heq]
    exact rubricFindings_nodup sha256 _ hnodup
  · rw [← heq]
    exact nodup_eraseDups _

theorem projectionOf_accepted (sha256 : Sha256) (hinput : evaluationInput.Accepted)
    (h : Reviews evaluationInput evaluation) :
    ProofEvaluationV1Schema.accepts (projectionOf sha256 evaluationInput evaluation) = true := by
  have haccepted := h.accepted
  simp only [AuthoritativeMultimodalEvaluationV1Schema.accepts, Bool.and_eq_true,
    and_assoc] at haccepted
  obtain ⟨-, -, -, hcandidate, -, -, -, -, -, -, hcreatedAt, -⟩ := haccepted
  obtain ⟨⟨hpos, hle⟩, hfacts⟩ := evaluationFacts_of_accepts hcandidate
  have hconstants : (isShortName (js "multimodal-compatibility-v1") &&
      isShortName (js "manual-review-projection-v1") && 1 ≤ projectionPrivateReason.length &&
      projectionPrivateReason.length ≤ 2000) = true := by decide +kernel
  have hwarnings : ([js "authoritative_multimodal_sidecar_required"].length ≤ 20 &&
      [js "authoritative_multimodal_sidecar_required"].all fun warning =>
        1 ≤ warning.length && warning.length ≤ 500) = true := by decide
  simp only [Bool.and_eq_true, and_assoc] at hconstants hwarnings
  have hquestions : ∀ question ∈ (projectionOf sha256 evaluationInput
      evaluation).questionEvaluations, QuestionEvaluationV1Schema.accepts question = true := by
    intro question hquestion
    obtain ⟨result, hresult, rfl⟩ := List.mem_map.mp hquestion
    obtain ⟨stored, hstored, -, -, hanchors⟩ := h.stored hresult
    exact projectEvaluation_accepted sha256 _ (hfacts result hresult)
      (storedQuestion_facts (hinput.questions stored hstored)).2 hanchors
  have hlength : (projectionOf sha256 evaluationInput evaluation).questionEvaluations.length =
      evaluation.candidate.questionEvaluations.length := List.length_map _
  have hprivate : (projectionOf sha256 evaluationInput evaluation).privateReason =
      projectionPrivateReason := rfl
  simp only [ProofEvaluationV1Schema.accepts, projectionOf_issues sha256 hinput h, hlength,
    hprivate, Bool.and_eq_true, and_assoc]
  exact ⟨hinput.attemptId, hinput.revisionId, hinput.headSha, hconstants.1, hconstants.2.1,
    decide_eq_true hpos, decide_eq_true hle, List.all_eq_true.mpr hquestions, hconstants.2.2.1,
    hconstants.2.2.2, hwarnings.1, hwarnings.2, hcreatedAt, rfl⟩

/-- The bundle with a payload. -/
def bundleOf (sha256 : Sha256) (evaluationInput : ProofEvaluationInput)
    (evaluation : AuthoritativeMultimodalEvaluation) (transcriptId : JsString)
    (deleteAfter : JsDate) (encryptedPayload : JsString) : EncryptedEvaluationBundle where
  evaluationId := compatibilityEvaluationId sha256 evaluationInput evaluation transcriptId
  attemptId := evaluationInput.attemptId
  provider := js "multimodal-compatibility-v1"
  model := js "manual-review-projection-v1"
  recommendation := .reviewRequired
  encryptedPayload
  deleteAfter

/-- The envelope of the projection. -/
def envelopeOf (sha256 : Sha256) (evaluationInput : ProofEvaluationInput)
    (evaluation : AuthoritativeMultimodalEvaluation) (transcriptId : JsString)
    (payloadCipher : PayloadCipher) (nonce : Bytes) : PayloadCipherEnvelope :=
  payloadCipher.envelope sha256 nonce
    (JsString.utf8Encode (projectionOf sha256 evaluationInput evaluation).json.stringify)
    (JsString.utf8Encode (evaluationAad evaluationInput.attemptId
      (compatibilityEvaluationId sha256 evaluationInput evaluation transcriptId)))

variable {payloadCipher : PayloadCipher} {nonce : Bytes}

theorem encryptJson_projectionOf (sha256 : Sha256) (transcriptId : JsString)
    (hnonce : payloadCipher.IsFresh nonce) :
    payloadCipher.encryptJson sha256 nonce (projectionOf sha256 evaluationInput evaluation).json
        (evaluationAad evaluationInput.attemptId
          (compatibilityEvaluationId sha256 evaluationInput evaluation transcriptId)) =
      .ok (envelopeOf sha256 evaluationInput evaluation transcriptId payloadCipher nonce) := by
  refine PayloadCipher.encrypt_ok hnonce (JsString.utf8Encode_ne_nil ?_)
    (JsString.utf8Encode_ne_nil ?_)
  · simp [ProofEvaluation.json, Json.stringify]
  · simp [evaluationAad, js]

/-- On a review every check passes but the last, which is about the bundle itself. -/
theorem createBundle_eq (sha256 : Sha256) (hinput : evaluationInput.Accepted)
    (h : Reviews evaluationInput evaluation) (hnonce : payloadCipher.IsFresh nonce)
    (transcriptId : JsString) (deleteAfter : JsDate) :
    let bundle := bundleOf sha256 evaluationInput evaluation transcriptId deleteAfter
      (envelopeOf sha256 evaluationInput evaluation transcriptId payloadCipher
        nonce).json.stringify
    createConservativeCompatibilityEvaluationBundle sha256 evaluationInput evaluation transcriptId
      deleteAfter payloadCipher nonce =
        if EncryptedEvaluationBundleV1Schema.accepts bundle = false then .error .zodError
        else .ok bundle := by
  have hbound : ¬ (evaluation.attemptId ≠ evaluationInput.attemptId ∨
      evaluation.revisionId ≠ evaluationInput.revisionId ∨
      evaluation.headSha ≠ evaluationInput.headSha ∨
      evaluation.workflowOutcome ≠ .reviewRequired ∨ evaluation.manualReviewRequired = false) := by
    have haccepted := h.accepted
    simp only [AuthoritativeMultimodalEvaluationV1Schema.accepts, Bool.and_eq_true,
      and_assoc] at haccepted
    obtain ⟨-, -, -, -, -, -, -, -, -, hmanual, -⟩ := haccepted
    simp [h.attemptId, h.revisionId, h.headSha, h.workflowOutcome, hmanual]
  have hcovered : ¬ (evaluation.candidate.questionEvaluations.map fun question =>
      question.questionId).length ≠ evaluationInput.questionIds.eraseDups.length := by
    rw [length_eraseDups_of_nodup hinput.questionIds, h.questions.length_eq]
    exact not_not_intro rfl
  have hprojection := projectionOf_accepted sha256 hinput h
  have hsealed : payloadCipher.encryptJson sha256 nonce
      (compatibilityProjection evaluationInput evaluation
        (evaluation.candidate.questionEvaluations.map
          (projectEvaluation sha256 evaluationInput.attemptId))).json
      (evaluationAad evaluationInput.attemptId
        (compatibilityEvaluationId sha256 evaluationInput evaluation transcriptId)) =
      .ok (envelopeOf sha256 evaluationInput evaluation transcriptId payloadCipher nonce) :=
    encryptJson_projectionOf sha256 transcriptId hnonce
  rw [projectionOf] at hprojection
  intro bundle
  rw [createConservativeCompatibilityEvaluationBundle, rejectIf_of_not hbound, except_ok_bind,
    projectEvaluations_of_reviews sha256 hinput h, except_ok_bind]
  simp only [rejectIf_of_not hcovered, except_ok_bind]
  rw [rejectIf_of_not (by simp [hprojection]), except_ok_bind, hsealed, except_ok_bind]
  by_cases hbundle : EncryptedEvaluationBundleV1Schema.accepts bundle = false
  · rw [if_pos hbundle]
    exact congrArg (· >>= _) (rejectIf_of hbundle)
  · rw [if_neg hbundle]
    exact congrArg (· >>= _) (rejectIf_of_not hbundle)

theorem length_envelopeOf (sha256 : Sha256) (transcriptId : JsString)
    (hnonce : payloadCipher.IsFresh nonce) :
    (envelopeOf sha256 evaluationInput evaluation transcriptId payloadCipher
      nonce).json.stringify.length =
        4 * ((JsString.utf8Bytes
          (projectionOf sha256 evaluationInput evaluation).json.stringify + 2) / 3) + 216 :=
  PayloadCipher.length_envelope hnonce.length

/-- The bundle is accepted exactly when its payload is short enough. -/
theorem bundleOf_accepted (sha256 : Sha256) (hinput : evaluationInput.Accepted)
    (transcriptId : JsString) (deleteAfter : Timestamp) {encryptedPayload : JsString}
    (hpos : 1 ≤ encryptedPayload.length) :
    EncryptedEvaluationBundleV1Schema.accepts (bundleOf sha256 evaluationInput evaluation
      transcriptId (some deleteAfter) encryptedPayload) = true ↔
        encryptedPayload.length ≤ maxEncryptedPayload := by
  have hnames : (isShortName (js "multimodal-compatibility-v1") &&
      isShortName (js "manual-review-projection-v1")) = true := by decide
  rw [Bool.and_eq_true] at hnames
  have hid := deterministicUuid_accepted sha256 ((js ":").intercalate
    [js "multimodal-compatibility-v1", evaluationInput.attemptId, evaluationInput.revisionId,
      evaluationInput.headSha, transcriptId, evaluation.invocationMetadata.inputHash])
  simp only [EncryptedEvaluationBundleV1Schema.accepts, bundleOf, compatibilityEvaluationId, hid,
    hinput.attemptId, hnames.1, hnames.2, Bool.and_eq_true, decide_eq_true_eq, hpos,
    Option.isSome_some, true_and, and_true]
  exact decide_eq_true_iff

end Review

end Worker

end UnderstandProof
