import UnderstandProof.Questions.Generative

/-!
# Accepted content points at the patch

What the validators accept names only anchors of the context, with one reference for each anchor,
and every reference is the place that the context gives for it. The schemas give the one-to-one
part, the validators the rest.
-/

open Foundation
open Foundation.JsValue

namespace UnderstandProof

namespace Questions

open Analysis
open Media (Sha256)

/-! ## What accepted content promises -/

/-- An item points at the patch of a context. -/
structure Anchored.PointsAt (context : GenerationContext) (item : Anchored) : Prop where
  nonempty : item.anchorIds ≠ []
  allowed : ∀ anchorId ∈ item.anchorIds, anchorId ∈ context.allowedAnchorIds
  distinct : item.anchorIds.Nodup
  /-- One reference for each anchor. -/
  references : (item.patchReferences.map SemanticPatchReference.anchorId).Perm item.anchorIds
  /-- The context has an anchor for each reference, at the same place. -/
  known : ∀ reference ∈ item.patchReferences, ∃ anchor ∈ context.anchors,
    anchor.id = reference.anchorId
  placed : ∀ reference ∈ item.patchReferences, ∀ anchor ∈ context.anchors,
    anchor.id = reference.anchorId → anchor.filename.content = reference.file ∧
      anchor.oldStart = reference.oldStart ∧ anchor.newStart = reference.newStart

structure LearningBundleCandidate.PointsAt (context : GenerationContext)
    (bundle : LearningBundleCandidate) : Prop where
  patchIntent : bundle.patchIntent.PointsAt context
  changedAreas : ∀ statement ∈ bundle.changedAreas, statement.PointsAt context
  behaviors : ∀ statement ∈ bundle.behaviors, statement.PointsAt context
  interfaces : ∀ statement ∈ bundle.interfaces, statement.PointsAt context
  risks : ∀ statement ∈ bundle.risks, statement.PointsAt context
  testGaps : ∀ statement ∈ bundle.testGaps, statement.PointsAt context
  testIdeas : ∀ statement ∈ bundle.testIdeas, statement.PointsAt context
  rollbackSignals : ∀ statement ∈ bundle.rollbackSignals, statement.PointsAt context
  practiceQuestions : ∀ question ∈ bundle.practiceQuestions, question.PointsAt context

/-- A statement points at the patch, with anchors of the question alone. -/
structure AnchoredLearningStatement.Answers (context : GenerationContext)
    (question : PracticeQuestion) (statement : AnchoredLearningStatement) : Prop where
  pointsAt : statement.PointsAt context
  subset : ∀ anchorId ∈ statement.anchorIds, anchorId ∈ question.anchorIds

structure PracticeFeedbackCandidate.Answers (context : GenerationContext)
    (question : PracticeQuestion) (feedback : PracticeFeedbackCandidate) : Prop where
  understood : feedback.understood.Answers context question
  missingPatchDetail : feedback.missingPatchDetail.Answers context question
  hint : feedback.hint.Answers context question

/-- A rubric item points at the patch, with the single anchor and reference of its question. -/
structure AnchoredRubricStatement.Shares (context : GenerationContext)
    (question : ProofQuestionCandidate) (item : AnchoredRubricStatement) : Prop where
  pointsAt : item.PointsAt context
  anchorIds : item.anchorIds = question.anchorIds
  patchReferences : item.patchReferences = question.patchReferences

structure ProofQuestionCandidate.PointsAt (context : GenerationContext)
    (question : ProofQuestionCandidate) : Prop where
  pointsAt : question.toAnchored.PointsAt context
  single : ∃ anchorId, question.anchorIds = [anchorId]
  requiredPoints : ∀ point ∈ question.rubric.requiredPoints, point.Shares context question
  observableSignals : ∀ signal ∈ question.rubric.observableSignals, signal.Shares context question
  antiGenericReason : question.rubric.antiGenericReason.Shares context question

/-! ## What the schemas give -/

theorem stringifyTexts_injective : Function.Injective stringifyTexts := by
  intro l m h
  have hitems := Json.arr.inj (Json.stringify_injective h)
  exact List.map_injective_iff.mpr (fun _ _ heq => Json.str.inj heq) hitems

/-- One reference for each anchor. -/
theorem references_of_declared {item : Anchored} (h : declaredReferenceSet item = true) :
    item.anchorIds.Nodup ∧
      (item.patchReferences.map SemanticPatchReference.anchorId).Perm item.anchorIds := by
  simp only [declaredReferenceSet, Bool.and_eq_true, decide_eq_true_eq, beq_iff_eq] at h
  obtain ⟨hnodup, htexts⟩ := h
  have hsort := stringifyTexts_injective htexts
  have hperm : (item.patchReferences.map SemanticPatchReference.anchorId).Perm item.anchorIds := by
    refine (JsString.sort_perm _).symm.trans ?_
    rw [← hsort]
    exact JsString.sort_perm _
  exact ⟨hperm.nodup ((JsString.sort_perm _).nodup hnodup), hperm⟩

variable {unicode : Unicode} {hash : Sha256}

theorem statement_declared {value : JsValue} {statement : AnchoredLearningStatement}
    (h : AnchoredLearningStatementV1Schema.read unicode value = some statement) :
    declaredReferenceSet statement.toAnchored = true := by
  obtain ⟨fields, -, h⟩ := Option.bind_eq_some_iff.mp h
  obtain ⟨text, -, h⟩ := Option.bind_eq_some_iff.mp h
  obtain ⟨anchored, -, h⟩ := Option.bind_eq_some_iff.mp h
  obtain ⟨hchecks, h⟩ := Option.ite_none_right_eq_some.mp h
  obtain rfl := Option.some.inj h
  exact (Bool.and_eq_true_iff.mp hchecks).1

theorem practiceQuestion_declared {value : JsValue} {question : PracticeQuestionCandidate}
    (h : PracticeQuestionCandidateV2Schema.read unicode value = some question) :
    declaredReferenceSet question.toAnchored = true := by
  obtain ⟨fields, -, h⟩ := Option.bind_eq_some_iff.mp h
  obtain ⟨_, -, h⟩ := Option.bind_eq_some_iff.mp h
  obtain ⟨_, -, h⟩ := Option.bind_eq_some_iff.mp h
  obtain ⟨focus, -, h⟩ := Option.bind_eq_some_iff.mp h
  obtain ⟨prompt, -, h⟩ := Option.bind_eq_some_iff.mp h
  obtain ⟨anchored, -, h⟩ := Option.bind_eq_some_iff.mp h
  obtain ⟨_, -, h⟩ := Option.bind_eq_some_iff.mp h
  obtain ⟨hchecks, h⟩ := Option.ite_none_right_eq_some.mp h
  obtain rfl := Option.some.inj h
  exact (Bool.and_eq_true_iff.mp hchecks).1

/-- The items of an array were read one by one. -/
theorem read_of_mem_array {α : Type} {read : JsValue → Option α} {minimum maximum : ℕ}
    {value : JsValue} {as : List α} (h : array minimum maximum read value = some as) {a : α}
    (ha : a ∈ as) : ∃ item, read item = some a := by
  obtain ⟨items, -, -, hitems⟩ := array_eq_some h
  clear h
  induction items generalizing as with
  | nil =>
      obtain rfl := Option.some.inj hitems
      cases ha
  | cons item items ih =>
      obtain ⟨b, bs, rfl, hb, hbs⟩ := mapM_read_cons hitems
      rcases List.mem_cons.mp ha with rfl | ha
      · exact ⟨item, hb⟩
      · exact ih ha hbs

theorem length_array {α : Type} {read : JsValue → Option α} {minimum maximum : ℕ}
    {value : JsValue} {as : List α} (h : array minimum maximum read value = some as) :
    minimum ≤ as.length ∧ as.length ≤ maximum := by
  obtain ⟨items, -, hlength, hitems⟩ := array_eq_some h
  have heq : as.length = items.length := by
    clear h hlength
    induction items generalizing as with
    | nil =>
        obtain rfl := Option.some.inj hitems
        rfl
    | cons item items ih =>
        obtain ⟨b, bs, rfl, -, hbs⟩ := mapM_read_cons hitems
        rw [List.length_cons, List.length_cons, ih hbs]
  rw [heq]
  exact hlength

/-- An item with a single anchor has a single reference. -/
theorem single_of_read {fields : List (JsString × JsValue)} {anchored : Anchored}
    (h : readSingleAnchored fields = some anchored) :
    (∃ anchorId, anchored.anchorIds = [anchorId]) ∧
      ∃ reference, anchored.patchReferences = [reference] := by
  obtain ⟨anchorIds, hids, h⟩ := Option.bind_eq_some_iff.mp h
  obtain ⟨references, hreferences, h⟩ := Option.bind_eq_some_iff.mp h
  obtain rfl := Option.some.inj h
  have hids := length_array hids
  have hreferences := length_array hreferences
  exact ⟨List.length_eq_one_iff.mp (le_antisymm hids.2 hids.1),
    List.length_eq_one_iff.mp (le_antisymm hreferences.2 hreferences.1)⟩

/-- An item with one anchor, as it was read. -/
structure Anchored.Single (item : Anchored) : Prop where
  declared : declaredReferenceSet item = true
  anchor : ∃ anchorId, item.anchorIds = [anchorId]
  reference : ∃ reference, item.patchReferences = [reference]

theorem rubricStatement_single {value : JsValue} {statement : AnchoredRubricStatement}
    (h : AnchoredRubricStatementV2Schema.read unicode value = some statement) :
    statement.toAnchored.Single := by
  obtain ⟨fields, -, h⟩ := Option.bind_eq_some_iff.mp h
  obtain ⟨description, -, h⟩ := Option.bind_eq_some_iff.mp h
  obtain ⟨anchored, hanchored, h⟩ := Option.bind_eq_some_iff.mp h
  obtain ⟨hdeclared, h⟩ := Option.ite_none_right_eq_some.mp h
  obtain rfl := Option.some.inj h
  obtain ⟨hanchor, hreference⟩ := single_of_read hanchored
  exact ⟨hdeclared, hanchor, hreference⟩

theorem rubric_single {value : JsValue} {rubric : ProofRubric}
    (h : ProofRubricV2Schema.read unicode value = some rubric) :
    ∀ item ∈ rubric.items, item.toAnchored.Single := by
  obtain ⟨fields, -, h⟩ := Option.bind_eq_some_iff.mp h
  obtain ⟨_, -, h⟩ := Option.bind_eq_some_iff.mp h
  obtain ⟨_, -, h⟩ := Option.bind_eq_some_iff.mp h
  obtain ⟨points, hpoints, h⟩ := Option.bind_eq_some_iff.mp h
  obtain ⟨signals, hsignals, h⟩ := Option.bind_eq_some_iff.mp h
  obtain ⟨_, -, h⟩ := Option.bind_eq_some_iff.mp h
  obtain ⟨reason, hreason, h⟩ := Option.bind_eq_some_iff.mp h
  obtain ⟨-, h⟩ := Option.ite_none_right_eq_some.mp h
  obtain rfl := Option.some.inj h
  intro item hitem
  rcases List.mem_append.mp hitem with hitem | hitem
  · rcases List.mem_append.mp hitem with hitem | hitem
    · obtain ⟨_, hread⟩ := read_of_mem_array hpoints hitem
      exact rubricStatement_single hread
    · obtain ⟨_, hread⟩ := read_of_mem_array hsignals hitem
      exact rubricStatement_single hread
  · obtain rfl := List.mem_singleton.mp hitem
    exact rubricStatement_single hreason

/-- What the schema of a proof question gives: single anchors, the same throughout. -/
structure ProofQuestionCandidate.Uniform (question : ProofQuestionCandidate) : Prop where
  single : question.toAnchored.Single
  items : ∀ item ∈ question.rubric.items, item.toAnchored.Single ∧
    item.anchorIds = question.anchorIds ∧ item.patchReferences = question.patchReferences

theorem shares_of_uses {anchored : Anchored} {rubric : ProofRubric} (hsingle : anchored.Single)
    (hitems : ∀ item ∈ rubric.items, item.toAnchored.Single)
    (h : rubricUsesQuestionAnchor anchored rubric = true) :
    ∀ item ∈ rubric.items, item.anchorIds = anchored.anchorIds ∧
      item.patchReferences = anchored.patchReferences := by
  intro item hitem
  obtain ⟨anchorId, hanchor⟩ := hsingle.anchor
  obtain ⟨reference, hreference⟩ := hsingle.reference
  obtain ⟨anchorId', hanchor'⟩ := (hitems item hitem).anchor
  obtain ⟨reference', hreference'⟩ := (hitems item hitem).reference
  simp only [rubricUsesQuestionAnchor, hanchor, hreference, List.head?_cons, List.all_eq_true,
    Bool.and_eq_true, beq_iff_eq] at h
  obtain ⟨hsame, hsame'⟩ := h item hitem
  rw [hanchor', List.head?_cons, Option.some.injEq] at hsame
  rw [hreference', List.head?_cons, Option.some.injEq] at hsame'
  rw [hanchor', hanchor, hreference', hreference, hsame, hsame']
  exact ⟨rfl, rfl⟩

theorem proofQuestion_uniform {value : JsValue} {question : ProofQuestionCandidate}
    (h : ProofQuestionCandidateV2Schema.read unicode value = some question) :
    question.Uniform := by
  obtain ⟨fields, -, h⟩ := Option.bind_eq_some_iff.mp h
  obtain ⟨_, -, h⟩ := Option.bind_eq_some_iff.mp h
  obtain ⟨_, -, h⟩ := Option.bind_eq_some_iff.mp h
  obtain ⟨intent, -, h⟩ := Option.bind_eq_some_iff.mp h
  obtain ⟨focus, -, h⟩ := Option.bind_eq_some_iff.mp h
  obtain ⟨prompt, -, h⟩ := Option.bind_eq_some_iff.mp h
  obtain ⟨anchored, hanchored, h⟩ := Option.bind_eq_some_iff.mp h
  obtain ⟨rubric, hrubric, h⟩ := Option.bind_eq_some_iff.mp h
  obtain ⟨hchecks, h⟩ := Option.ite_none_right_eq_some.mp h
  obtain rfl := Option.some.inj h
  obtain ⟨hdeclared, huses⟩ := Bool.and_eq_true_iff.mp hchecks
  obtain ⟨hdeclared, -⟩ := Bool.and_eq_true_iff.mp hdeclared
  obtain ⟨hanchor, hreference⟩ := single_of_read hanchored
  have hsingle : anchored.Single := ⟨hdeclared, hanchor, hreference⟩
  have hitems := rubric_single hrubric
  exact ⟨hsingle, fun item hitem => ⟨hitems item hitem, shares_of_uses hsingle hitems huses item
    hitem⟩⟩

/-! ## What the validators give -/

theorem forM_eq_ok {α ε : Type} {f : α → Except ε Unit} {l : List α} :
    l.forM f = .ok () ↔ ∀ a ∈ l, f a = .ok () := by
  induction l with
  | nil => exact iff_of_true rfl fun _ ha => absurd ha List.not_mem_nil
  | cons a l ih =>
      rw [List.forall_mem_cons, ← ih]
      change (f a >>= fun _ => l.forM f) = .ok () ↔ _
      rw [bind_eq_ok]
      exact ⟨fun ⟨_, ha, hl⟩ => ⟨ha, hl⟩, fun ⟨ha, hl⟩ => ⟨(), ha, hl⟩⟩

/-- The anchors of an accepted context have their own identifiers. -/
theorem anchors_distinct {value : JsValue} {context : GenerationContext}
    (h : GenerationContextV1Schema.read hash value = some context) :
    (context.anchors.map GenerationContextAnchor.id).Nodup := by
  obtain ⟨-, h⟩ := Option.filter_eq_some_iff.mp h
  simp only [GenerationContextV1Schema.refines, GenerationContextV1Schema.anchorsFit,
    Bool.and_eq_true, decide_eq_true_eq] at h
  exact h.1.1.1.1.2.1.2

theorem descriptorOf_eq_some {context : GenerationContext} {anchorId : JsString}
    {descriptor : GenerationContextAnchor} (h : descriptorOf context anchorId = some descriptor) :
    descriptor ∈ context.anchors ∧ descriptor.id = anchorId := by
  rw [descriptorOf] at h
  exact ⟨List.mem_reverse.mp (List.mem_of_find?_eq_some h), by simpa using List.find?_some h⟩

theorem placed_of_not_mismatches {context : GenerationContext}
    (hdistinct : (context.anchors.map GenerationContextAnchor.id).Nodup)
    {reference : SemanticPatchReference} (h : ¬ mismatches context reference = true) :
    (∃ anchor ∈ context.anchors, anchor.id = reference.anchorId) ∧
      ∀ anchor ∈ context.anchors, anchor.id = reference.anchorId →
        anchor.filename.content = reference.file ∧ anchor.oldStart = reference.oldStart ∧
          anchor.newStart = reference.newStart := by
  rw [mismatches] at h
  cases hfind : descriptorOf context reference.anchorId with
  | none => simp [hfind] at h
  | some descriptor =>
      obtain ⟨hmem, hid⟩ := descriptorOf_eq_some hfind
      refine ⟨⟨descriptor, hmem, hid⟩, fun anchor hanchor heq => ?_⟩
      obtain rfl := List.inj_on_of_nodup_map hdistinct hmem hanchor (hid.trans heq.symm)
      simpa [hfind, and_assoc] using h

/-- What is known and declared points at the patch. -/
theorem pointsAt_of_known {context : GenerationContext}
    (hdistinct : (context.anchors.map GenerationContextAnchor.id).Nodup)
    {statements : List Anchored} (h : assertKnownConcreteAnchors context statements = .ok ())
    {item : Anchored} (hitem : item ∈ statements) (hdeclared : declaredReferenceSet item = true) :
    item.PointsAt context := by
  have hknown := forM_eq_ok.mp h item hitem
  obtain ⟨hallowed, hknown⟩ := rejectIf_bind_eq_ok.mp hknown
  obtain ⟨-, hknown⟩ := rejectIf_bind_eq_ok.mp hknown
  have hreferences := fun reference hreference => placed_of_not_mismatches hdistinct
    (rejectIf_eq_ok.mp (forM_eq_ok.mp hknown reference hreference))
  push Not at hallowed
  obtain ⟨hnodup, hperm⟩ := references_of_declared hdeclared
  exact ⟨hallowed.1, hallowed.2, hnodup, hperm, fun reference hreference =>
    (hreferences reference hreference).1, fun reference hreference =>
      (hreferences reference hreference).2⟩

theorem requireParsed_eq_ok {α : Type} {parsed : Option α} {a : α} :
    requireParsed parsed = .ok a ↔ parsed = some a := by
  cases parsed <;> simp [requireParsed]

/-- The statements of an array point at the patch where all of them are known. -/
theorem statements_pointAt {context : GenerationContext}
    (hdistinct : (context.anchors.map GenerationContextAnchor.id).Nodup) {items : List Anchored}
    (hknown : assertKnownConcreteAnchors context items = .ok ()) {minimum maximum : ℕ}
    {value : JsValue} {statements : List AnchoredLearningStatement}
    (hread : readStatements unicode minimum maximum value = some statements)
    (hmem : ∀ item ∈ statements.map AnchoredLearningStatement.toAnchored, item ∈ items) :
    ∀ statement ∈ statements, statement.PointsAt context := by
  intro statement hstatement
  obtain ⟨_, hstatement'⟩ := read_of_mem_array hread hstatement
  exact pointsAt_of_known hdistinct hknown (hmem _ (List.mem_map_of_mem hstatement))
    (statement_declared hstatement')

/-- Every statement and every practice question of an accepted bundle points at the patch. -/
theorem learningBundle_pointsAt {rawCandidate rawContext : JsValue} {count : Option ℚ}
    {forbidden : List JsString} {bundle : LearningBundleCandidate}
    (h : validateLearningBundleCandidateV1 unicode hash rawCandidate rawContext count forbidden =
      .ok bundle) :
    ∃ context, GenerationContextV1Schema.read hash rawContext = some context ∧
      bundle.PointsAt context := by
  obtain ⟨candidate, hcandidate, h⟩ := bind_eq_ok.mp h
  obtain ⟨context, hcontext, h⟩ := bind_eq_ok.mp h
  obtain ⟨-, h⟩ := rejectIf_bind_eq_ok.mp h
  obtain ⟨⟨⟩, hknown, h⟩ := bind_eq_ok.mp h
  obtain ⟨-, h⟩ := rejectIf_bind_eq_ok.mp h
  obtain rfl := Except.ok.inj h
  have hcontext := requireParsed_eq_ok.mp hcontext
  have hread := requireParsed_eq_ok.mp hcandidate
  refine ⟨context, hcontext, ?_⟩
  obtain ⟨fields, -, hread⟩ := Option.bind_eq_some_iff.mp hread
  obtain ⟨_, -, hread⟩ := Option.bind_eq_some_iff.mp hread
  obtain ⟨_, -, hread⟩ := Option.bind_eq_some_iff.mp hread
  obtain ⟨patchIntent, hintent, hread⟩ := Option.bind_eq_some_iff.mp hread
  obtain ⟨changedAreas, hareas, hread⟩ := Option.bind_eq_some_iff.mp hread
  obtain ⟨behaviors, hbehaviors, hread⟩ := Option.bind_eq_some_iff.mp hread
  obtain ⟨interfaces, hinterfaces, hread⟩ := Option.bind_eq_some_iff.mp hread
  obtain ⟨risks, hrisks, hread⟩ := Option.bind_eq_some_iff.mp hread
  obtain ⟨testGaps, hgaps, hread⟩ := Option.bind_eq_some_iff.mp hread
  obtain ⟨testIdeas, hideas, hread⟩ := Option.bind_eq_some_iff.mp hread
  obtain ⟨rollbackSignals, hsignals, hread⟩ := Option.bind_eq_some_iff.mp hread
  obtain ⟨practiceQuestions, hquestions, hread⟩ := Option.bind_eq_some_iff.mp hread
  obtain ⟨-, hread⟩ := Option.ite_none_right_eq_some.mp hread
  obtain rfl := Option.some.inj hread
  have hpoints := fun {item : Anchored} => @pointsAt_of_known context
    (anchors_distinct hcontext) _ hknown item
  have hstatements := fun {minimum maximum value statements} =>
    @statements_pointAt unicode context (anchors_distinct hcontext) _ hknown minimum maximum value
      statements
  exact {
    patchIntent := hpoints (by simp) (statement_declared hintent)
    changedAreas := hstatements hareas fun item hmem => by
      simp only [List.mem_cons, List.mem_append, hmem, true_or, or_true]
    behaviors := hstatements hbehaviors fun item hmem => by
      simp only [List.mem_cons, List.mem_append, hmem, true_or, or_true]
    interfaces := hstatements hinterfaces fun item hmem => by
      simp only [List.mem_cons, List.mem_append, hmem, true_or, or_true]
    risks := hstatements hrisks fun item hmem => by
      simp only [List.mem_cons, List.mem_append, hmem, true_or, or_true]
    testGaps := hstatements hgaps fun item hmem => by
      simp only [List.mem_cons, List.mem_append, hmem, true_or, or_true]
    testIdeas := hstatements hideas fun item hmem => by
      simp only [List.mem_cons, List.mem_append, hmem, true_or, or_true]
    rollbackSignals := hstatements hsignals fun item hmem => by
      simp only [List.mem_cons, List.mem_append, hmem, true_or, or_true]
    practiceQuestions := fun question hmem => by
      obtain ⟨_, hread⟩ := read_of_mem_array hquestions hmem
      refine hpoints ?_ (practiceQuestion_declared hread)
      exact List.mem_append_right _ (List.mem_map_of_mem hmem) }

/-- Accepted feedback points at the patch, with anchors of its question alone. -/
theorem practiceFeedback_answers {rawCandidate rawContext rawQuestion : JsValue}
    {forbidden : List JsString} {feedback : PracticeFeedbackCandidate}
    (h : validatePracticeFeedbackCandidateV1 unicode hash rawCandidate rawContext rawQuestion
      forbidden = .ok feedback) :
    ∃ context question, GenerationContextV1Schema.read hash rawContext = some context ∧
      PracticeQuestionV2Schema.read unicode rawQuestion = some question ∧
        feedback.Answers context question := by
  obtain ⟨candidate, hcandidate, h⟩ := bind_eq_ok.mp h
  obtain ⟨context, hcontext, h⟩ := bind_eq_ok.mp h
  obtain ⟨question, hquestion, h⟩ := bind_eq_ok.mp h
  obtain ⟨⟨⟩, hknown, h⟩ := bind_eq_ok.mp h
  obtain ⟨hsubset, h⟩ := rejectIf_bind_eq_ok.mp h
  obtain ⟨-, h⟩ := rejectIf_bind_eq_ok.mp h
  obtain rfl := Except.ok.inj h
  have hcontext := requireParsed_eq_ok.mp hcontext
  have hread := requireParsed_eq_ok.mp hcandidate
  refine ⟨context, question, hcontext, requireParsed_eq_ok.mp hquestion, ?_⟩
  obtain ⟨fields, -, hread⟩ := Option.bind_eq_some_iff.mp hread
  obtain ⟨_, -, hread⟩ := Option.bind_eq_some_iff.mp hread
  obtain ⟨_, -, hread⟩ := Option.bind_eq_some_iff.mp hread
  obtain ⟨understood, hunderstood, hread⟩ := Option.bind_eq_some_iff.mp hread
  obtain ⟨missing, hmissing, hread⟩ := Option.bind_eq_some_iff.mp hread
  obtain ⟨hint, hhint, hread⟩ := Option.bind_eq_some_iff.mp hread
  obtain ⟨_, -, hread⟩ := Option.bind_eq_some_iff.mp hread
  obtain ⟨_, -, hread⟩ := Option.bind_eq_some_iff.mp hread
  obtain rfl := Option.some.inj hread
  push Not at hsubset
  have hanswers : ∀ {value : JsValue} {statement : AnchoredLearningStatement},
      AnchoredLearningStatementV1Schema.read unicode value = some statement →
        statement.toAnchored ∈ [understood.toAnchored, missing.toAnchored, hint.toAnchored] →
          statement.Answers context question := by
    intro value statement hstatement hmem
    exact ⟨pointsAt_of_known (anchors_distinct hcontext) hknown hmem
      (statement_declared hstatement), hsubset _ hmem⟩
  exact ⟨hanswers hunderstood (by simp), hanswers hmissing (by simp), hanswers hhint (by simp)⟩

/-- Accepted proof questions point at the patch, and their rubrics with them. -/
theorem proofQuestions_pointAt {rawCandidates rawContext : JsValue} {count : ℚ}
    {candidates : List ProofQuestionCandidate}
    (h : validateProofQuestionCandidatesV2 unicode hash rawCandidates rawContext count =
      .ok candidates) :
    ∃ context, GenerationContextV1Schema.read hash rawContext = some context ∧
      ∀ candidate ∈ candidates, candidate.PointsAt context := by
  obtain ⟨parsed, hparsed, h⟩ := bind_eq_ok.mp h
  obtain ⟨context, hcontext, h⟩ := bind_eq_ok.mp h
  obtain ⟨-, h⟩ := rejectIf_bind_eq_ok.mp h
  obtain ⟨-, h⟩ := rejectIf_bind_eq_ok.mp h
  obtain ⟨⟨⟩, hknown, h⟩ := bind_eq_ok.mp h
  obtain rfl := Except.ok.inj h
  have hcontext := requireParsed_eq_ok.mp hcontext
  refine ⟨context, hcontext, fun candidate hcandidate => ?_⟩
  obtain ⟨_, hread⟩ := read_of_mem_array (requireParsed_eq_ok.mp hparsed) hcandidate
  have huniform := proofQuestion_uniform hread
  have hpoints := fun {item : Anchored} => @pointsAt_of_known context
    (anchors_distinct hcontext) _ (forM_eq_ok.mp hknown candidate hcandidate) item
  have hshares : ∀ item ∈ candidate.rubric.items, item.Shares context candidate := by
    intro item hitem
    obtain ⟨hsingle, hanchor, hreference⟩ := huniform.items item hitem
    exact ⟨hpoints (List.mem_cons_of_mem _ (List.mem_map_of_mem hitem)) hsingle.declared, hanchor,
      hreference⟩
  exact {
    pointsAt := hpoints List.mem_cons_self huniform.single.declared
    single := huniform.single.anchor
    requiredPoints := fun point hmem => hshares point (by simp [ProofRubric.items, hmem])
    observableSignals := fun signal hmem => hshares signal (by simp [ProofRubric.items, hmem])
    antiGenericReason := hshares _ (by simp [ProofRubric.items]) }

/-- Model output points at the patch only, whichever of the validators accepts it. -/
theorem accepted_content_pointsAt (unicode : Unicode) (hash : Sha256) :
    (∀ {rawCandidate rawContext : JsValue} {count : Option ℚ} {forbidden : List JsString}
      {bundle : LearningBundleCandidate},
      validateLearningBundleCandidateV1 unicode hash rawCandidate rawContext count forbidden =
          .ok bundle →
        ∃ context, GenerationContextV1Schema.read hash rawContext = some context ∧
          bundle.PointsAt context) ∧
    (∀ {rawCandidate rawContext rawQuestion : JsValue} {forbidden : List JsString}
      {feedback : PracticeFeedbackCandidate},
      validatePracticeFeedbackCandidateV1 unicode hash rawCandidate rawContext rawQuestion
          forbidden = .ok feedback →
        ∃ context question, GenerationContextV1Schema.read hash rawContext = some context ∧
          PracticeQuestionV2Schema.read unicode rawQuestion = some question ∧
            feedback.Answers context question) ∧
    ∀ {rawCandidates rawContext : JsValue} {count : ℚ} {candidates : List ProofQuestionCandidate},
      validateProofQuestionCandidatesV2 unicode hash rawCandidates rawContext count =
          .ok candidates →
        ∃ context, GenerationContextV1Schema.read hash rawContext = some context ∧
          ∀ candidate ∈ candidates, candidate.PointsAt context :=
  ⟨learningBundle_pointsAt, practiceFeedback_answers, proofQuestions_pointAt⟩

/-! ### Content about one changed line -/

/-- The platform on ASCII texts. -/
def sampleUnicode : Unicode where
  normalizeNFKC s := s
  toLowerCase s := s.map fun c => if 0x41 ≤ c && c ≤ 0x5a then c + 0x20 else c

def sampleDigest : Media.Bytes :=
  [125, 78, 209, 73, 3, 62, 152, 139, 59, 110, 215, 156, 90, 44, 133, 98, 84, 204, 41, 65, 169, 131,
    144, 189, 90, 226, 17, 191, 208, 68, 38, 43]

/-- SHA-256 on the material of the context below. -/
def sampleHash : Sha256 where
  digest _ := sampleDigest
  length_digest _ := rfl

def sampleFilename : UntrustedGenerationData :=
  untrusted .pullRequestFilename (js "src/a.ts")

def samplePatch : JsString := js "@@ -1 +1 @@\n-a\n+b"

def sampleContext : GenerationContext where
  revisionId := js "10000000-0000-4000-8000-000000000001"
  headSha := List.replicate 40 0x31
  baseSha := List.replicate 40 0x32
  analysisSnapshotId := js "10000000-0000-4000-8000-000000000002"
  sourceHash := List.replicate 64 0x30
  contextHash := Media.encodeHex sampleDigest
  title := untrusted .pullRequestTitle (js "T")
  body := none
  files := [⟨sampleFilename, none, .modified, false, untrusted .pullRequestPatch samplePatch, 17,
    [js "a0"]⟩]
  anchors := [⟨js "a0", sampleFilename, untrusted .analysisHunkHeader (js "@@ -1 +1 @@"), 1, 1, 2,
    untrusted .analysisAnchorEvidence (js "a | b")⟩]
  excerpts := []
  deterministicTestFiles := []
  allowedAnchorIds := [js "a0"]
  limits := ⟨1, 1, 2048, 512, 64, 128, 0, 128⟩
  limitsHit := []
  exclusions := []
  usage := ⟨1, 1, 1, 0, 17, 0, 1022, 1022⟩

def sampleRawContext : JsValue := GenerationContextV1BaseSchema.write sampleContext

/-- The members that every anchored item has. -/
def sampleAnchored : List (JsString × JsValue) :=
  [(js "anchorIds", .arr [.str (js "a0")]),
    (js "patchReferences", .arr [.obj [(js "anchorId", .str (js "a0")),
      (js "file", .str (js "src/a.ts")), (js "oldStart", .num 1), (js "newStart", .num 1)]])]

def sampleText (name text : String) : JsString × JsValue := (js name, .str (js text))

def sampleStatement : JsValue := .obj (sampleText "text" "The line changes." :: sampleAnchored)

def sampleQuestionFields (prompt : String) : List (JsString × JsValue) :=
  sampleText "schemaVersion" "2" :: sampleText "questionVersion" "practice-question-v2" ::
    sampleText "focus" "risk" :: sampleText "prompt" prompt ::
    (js "privateToPracticeSession", .bool true) :: sampleAnchored

def sampleBundle : JsValue :=
  .obj [sampleText "schemaVersion" "1", sampleText "learningVersion" "learning-bundle-v1",
    (js "patchIntent", sampleStatement), (js "changedAreas", .arr [sampleStatement]),
    (js "behaviors", .arr [sampleStatement]), (js "interfaces", .arr []),
    (js "risks", .arr [sampleStatement]), (js "testGaps", .arr [sampleStatement]),
    (js "testIdeas", .arr [sampleStatement]), (js "rollbackSignals", .arr [sampleStatement]),
    (js "practiceQuestions", .arr [.obj (sampleQuestionFields "What changes on line one?"),
      .obj (sampleQuestionFields "What stays on line one?"),
      .obj (sampleQuestionFields "What breaks on line one?")])]

def sampleFeedback : JsValue :=
  .obj [sampleText "schemaVersion" "1", sampleText "feedbackVersion" "practice-feedback-v1",
    (js "understood", sampleStatement), (js "missingPatchDetail", sampleStatement),
    (js "hint", sampleStatement), (js "scoreIncluded", .bool false),
    (js "modelAnswerIncluded", .bool false)]

def sampleQuestion : JsValue :=
  .obj (sampleText "id" "10000000-0000-4000-8000-000000000003" :: (js "order", .num 1) ::
    sampleText "revisionId" "10000000-0000-4000-8000-000000000001" ::
    (js "headSha", .str (List.replicate 40 0x31)) ::
    (js "contextHash", .str (Media.encodeHex sampleDigest)) ::
    sampleQuestionFields "What changes on line one?")

def sampleRubricItem (description : String) : JsValue :=
  .obj (sampleText "description" description :: sampleAnchored)

def sampleProofQuestions : JsValue :=
  .arr [.obj (sampleText "schemaVersion" "2" ::
    sampleText "questionVersion" "proof-question-candidate-v2" :: sampleText "intent" "explain" ::
    sampleText "focus" "line" :: sampleText "prompt" "What does the new line do?" ::
    (js "rubric", .obj [sampleText "schemaVersion" "2", sampleText "rubricVersion" "proof-rubric-v2",
      (js "requiredPoints", .arr [sampleRubricItem "old line", sampleRubricItem "new line"]),
      (js "observableSignals", .arr [sampleRubricItem "its effect"]),
      (js "rejectsGenericAnswer", .bool true),
      (js "antiGenericReason", sampleRubricItem "no lines")]) :: sampleAnchored)]

/-- Whether a validator accepts, as the samples ask it. -/
def accepts {α : Type} (result : Except SemanticContentValidationCode α) : Bool :=
  match result with
  | .ok _ => true
  | .error _ => false

theorem exists_of_accepts {α : Type} {result : Except SemanticContentValidationCode α}
    (h : accepts result = true) : ∃ a, result = .ok a := by
  cases result with
  | ok a => exact ⟨a, rfl⟩
  | error code => cases h

theorem accepted_content_pointsAt_sample :
    (∃ bundle context, validateLearningBundleCandidateV1 sampleUnicode sampleHash sampleBundle
        sampleRawContext (some 3) [] = .ok bundle ∧ bundle.PointsAt context) ∧
      (∃ feedback context question, validatePracticeFeedbackCandidateV1 sampleUnicode sampleHash
        sampleFeedback sampleRawContext sampleQuestion [] = .ok feedback ∧
          feedback.Answers context question) ∧
      ∃ candidates context, validateProofQuestionCandidatesV2 sampleUnicode sampleHash
        sampleProofQuestions sampleRawContext 1 = .ok candidates ∧
          ∀ candidate ∈ candidates, candidate.PointsAt context := by
  obtain ⟨hbundle, hfeedback, hquestions⟩ := accepted_content_pointsAt sampleUnicode sampleHash
  refine ⟨?_, ?_, ?_⟩
  · obtain ⟨bundle, h⟩ := @exists_of_accepts _ (validateLearningBundleCandidateV1 sampleUnicode
      sampleHash sampleBundle sampleRawContext (some 3) []) (by decide +kernel)
    obtain ⟨context, -, hpoints⟩ := hbundle h
    exact ⟨bundle, context, h, hpoints⟩
  · obtain ⟨feedback, h⟩ := @exists_of_accepts _ (validatePracticeFeedbackCandidateV1
      sampleUnicode sampleHash sampleFeedback sampleRawContext sampleQuestion [])
      (by decide +kernel)
    obtain ⟨context, question, -, -, hanswers⟩ := hfeedback h
    exact ⟨feedback, context, question, h, hanswers⟩
  · obtain ⟨candidates, h⟩ := @exists_of_accepts _ (validateProofQuestionCandidatesV2
      sampleUnicode sampleHash sampleProofQuestions sampleRawContext 1) (by decide +kernel)
    obtain ⟨context, -, hpoints⟩ := hquestions h
    exact ⟨candidates, context, h, hpoints⟩

end Questions

end UnderstandProof
