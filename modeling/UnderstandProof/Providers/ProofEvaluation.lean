import UnderstandProof.Foundation.IsoDate
import UnderstandProof.Foundation.OrderedSet
import UnderstandProof.Providers.JudgeResult

/-!
# The evaluation of a proof

The older form of an evaluation, which is stored in its encrypted form: one outcome for
every question, with a finding for the criteria that were decided.
-/

open Foundation

namespace UnderstandProof

namespace Providers

open Domain

structure RubricFinding where
  criterionId : JsString
  result : CriterionOutcome
  reason : JsString
  deriving DecidableEq, Repr

/-- A finding is met or not met. -/
def RubricFindingV1Schema.accepts (finding : RubricFinding) : Bool :=
  isUuid finding.criterionId && finding.result != .notEvaluable &&
    1 ≤ finding.reason.length && finding.reason.length ≤ 500

inductive QuestionOutcome where
  | met
  | partlyMet
  | notMet
  | notEvaluable
  deriving DecidableEq, Repr

def QuestionOutcome.text : QuestionOutcome → JsString
  | met => js "met"
  | partlyMet => js "partial"
  | notMet => js "not_met"
  | notEvaluable => js "not_evaluable"

structure QuestionEvaluation where
  questionId : JsString
  outcome : QuestionOutcome
  rubricFindings : List RubricFinding
  supportedPatchAnchorIds : List JsString
  reason : JsString
  deriving DecidableEq, Repr

def QuestionEvaluationV1Schema.accepts (evaluation : QuestionEvaluation) : Bool :=
  isUuid evaluation.questionId &&
    1 ≤ evaluation.rubricFindings.length && evaluation.rubricFindings.length ≤ 8 &&
    evaluation.rubricFindings.all RubricFindingV1Schema.accepts &&
    evaluation.supportedPatchAnchorIds.length ≤ 5 &&
    evaluation.supportedPatchAnchorIds.all isPatchAnchorId &&
    1 ≤ evaluation.reason.length && evaluation.reason.length ≤ 1000

structure ProofEvaluation where
  attemptId : JsString
  revisionId : JsString
  headSha : JsString
  provider : JsString
  model : JsString
  recommendation : Recommendation
  questionEvaluations : List QuestionEvaluation
  privateReason : JsString
  warnings : List JsString
  createdAt : JsDate
  deriving DecidableEq, Repr

def ProofEvaluationV1Schema.issues (evaluation : ProofEvaluation) : List Issue :=
  evaluation.questionEvaluations.zipIdx.flatMap fun entry =>
    issueIf (entry.1.questionId ∈
        (evaluation.questionEvaluations.take entry.2).map fun question => question.questionId)
      "Question evaluation IDs must be unique"
      [.key "questionEvaluations", .index entry.2, .key "questionId"] ++
    issueIf (¬ (entry.1.rubricFindings.map fun finding => finding.criterionId).Nodup)
      "Rubric finding IDs must be unique per question"
      [.key "questionEvaluations", .index entry.2, .key "rubricFindings"] ++
    issueIf (¬ entry.1.supportedPatchAnchorIds.Nodup)
      "Supported patch anchor IDs must be unique per question"
      [.key "questionEvaluations", .index entry.2, .key "supportedPatchAnchorIds"]

def ProofEvaluationV1Schema.accepts (evaluation : ProofEvaluation) : Bool :=
  isUuid evaluation.attemptId && isUuid evaluation.revisionId && isGitSha evaluation.headSha &&
    isShortName evaluation.provider && isShortName evaluation.model &&
    1 ≤ evaluation.questionEvaluations.length && evaluation.questionEvaluations.length ≤ 5 &&
    evaluation.questionEvaluations.all QuestionEvaluationV1Schema.accepts &&
    1 ≤ evaluation.privateReason.length && evaluation.privateReason.length ≤ 2000 &&
    evaluation.warnings.length ≤ 20 &&
    (evaluation.warnings.all fun warning => 1 ≤ warning.length && warning.length ≤ 500) &&
    evaluation.createdAt.isSome && (ProofEvaluationV1Schema.issues evaluation).isEmpty

/-! ## Its text -/

def RubricFinding.json (finding : RubricFinding) : Json :=
  .obj [(js "criterionId", .str finding.criterionId), (js "result", .str finding.result.text),
    (js "reason", .str finding.reason)]

def QuestionEvaluation.json (evaluation : QuestionEvaluation) : Json :=
  .obj [(js "questionId", .str evaluation.questionId), (js "outcome", .str evaluation.outcome.text),
    (js "rubricFindings", .arr (evaluation.rubricFindings.map RubricFinding.json)),
    (js "supportedPatchAnchorIds", .arr (evaluation.supportedPatchAnchorIds.map .str)),
    (js "reason", .str evaluation.reason)]

/-- An invalid date is printed as null. -/
def dateJson : JsDate → Json
  | some time => .str (JsString.isoString time)
  | none => .null

def ProofEvaluation.json (evaluation : ProofEvaluation) : Json :=
  .obj [(js "schemaVersion", .str (js "1")),
    (js "evaluationVersion", .str (js "proof-evaluation-v1")),
    (js "attemptId", .str evaluation.attemptId), (js "revisionId", .str evaluation.revisionId),
    (js "headSha", .str evaluation.headSha), (js "provider", .str evaluation.provider),
    (js "model", .str evaluation.model),
    (js "systemInstructionVersion", .str (js "proof-judge-system-v1")),
    (js "recommendation", .str evaluation.recommendation.text),
    (js "questionEvaluations", .arr (evaluation.questionEvaluations.map QuestionEvaluation.json)),
    (js "privateReason", .str evaluation.privateReason),
    (js "warnings", .arr (evaluation.warnings.map .str)),
    (js "createdAt", dateJson evaluation.createdAt)]

end Providers

end UnderstandProof
