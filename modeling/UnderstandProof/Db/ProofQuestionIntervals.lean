import UnderstandProof.Db.UploadFinalization
import UnderstandProof.Foundation.Jsonb
import UnderstandProof.Media.FinalizeRecording

/-!
# The stored question intervals

The table `proof_question_interval_sets`: the row that a finalization inserts, the
constraints of the table, and the trigger that validates the row against the plan
of the attempt and the envelope of its upload. The trigger reads the intervals as
`jsonb`; a comparison with `NULL` is neither true nor false, and its conditions are
tried from left to right.
-/

open Foundation

namespace UnderstandProof

namespace Db

/-- A row of `proof_questions`. -/
structure ProofQuestionRow where
  id : JsString
  ordinal : ℕ
  required : Bool
  deriving DecidableEq, Repr

/-- What the intervals read of the plan of an attempt. -/
structure ProofPlanRow where
  questionBudget : ℕ
  questions : List ProofQuestionRow
  deriving DecidableEq, Repr

/-- `WHERE required = true ORDER BY ordinal` -/
def ProofPlanRow.requiredQuestions (plan : ProofPlanRow) : List ProofQuestionRow :=
  (plan.questions.filter fun question => question.required).insertionSort
    fun a b => a.ordinal ≤ b.ordinal

def ProofPlanRow.requiredQuestionIds (plan : ProofPlanRow) : List JsString :=
  plan.requiredQuestions.map ProofQuestionRow.id

/-- A row of `proof_question_interval_sets` as it is inserted. -/
structure ProofQuestionIntervalSet where
  attemptId : JsString
  uploadSessionId : JsString
  manifestDigest : JsString
  intervalVersion : JsString
  maximumQuestionDurationMs : ℤ
  recordedDurationMs : ℤ
  intervals : Jsonb

/-- The row of `persistPendingUploadFinalization`, over the text of the intervals. -/
def PendingFinalization.intervalRow (input : PendingFinalization) (recordedDurationMs : ℕ)
    (intervals : Jsonb) : ProofQuestionIntervalSet where
  attemptId := input.attemptId
  uploadSessionId := input.uploadSessionId
  manifestDigest := input.manifestDigest
  intervalVersion := js "proof-question-interval-v1"
  maximumQuestionDurationMs := 120000
  recordedDurationMs := recordedDurationMs
  intervals := intervals

/-- The `CHECK` constraints of the table. -/
def ProofQuestionIntervalSet.checks (row : ProofQuestionIntervalSet) : Bool :=
  (row.manifestDigest.length == 64 && row.manifestDigest.all isLowerHex) &&
    row.intervalVersion == js "proof-question-interval-v1" &&
    (1 ≤ row.recordedDurationMs && row.recordedDurationMs ≤ 480000) &&
    row.maximumQuestionDurationMs == 120000 &&
    match row.intervals with
    | .arr items => 1 ≤ items.length && items.length ≤ 5 &&
        JsString.utf8Bytes (Jsonb.print row.intervals) ≤ 8192
    | _ => false

/-! ## The trigger -/

/-- What the first query of the trigger finds. -/
structure IntervalBinding where
  questionIds : List JsString
  envelope : Option Jsonb
  manifestDigest : Option JsString
  questionBudget : ℕ
  count : ℕ
  minimumOrdinal : Option ℕ
  maximumOrdinal : Option ℕ
  distinctOrdinals : ℕ

/-- The join of the attempt with its revision, plan, upload and required questions. -/
def intervalBinding (plan : ProofPlanRow) (db : Evidence) (row : ProofQuestionIntervalSet) :
    Option IntervalBinding :=
  match db.upload with
  | none => none
  | some upload =>
      if upload.id = row.uploadSessionId ∧ db.attempt.id = row.attemptId ∧
          db.attempt.status = .processing ∧ db.isCurrent = true ∧
          upload.state = .pendingFinalization ∧ plan.requiredQuestions ≠ [] then
        let ordinals := plan.requiredQuestions.map ProofQuestionRow.ordinal
        some {
          questionIds := plan.requiredQuestionIds
          envelope := upload.finalizeEnvelope.map Jsonb.ofJson
          manifestDigest := upload.manifestDigest
          questionBudget := plan.questionBudget
          count := plan.requiredQuestions.length
          minimumOrdinal := ordinals.min?
          maximumOrdinal := ordinals.max?
          distinctOrdinals := ordinals.dedup.length }
      else none

/-- `^(0|[1-9][0-9]*)$` -/
def isNaturalText (text : JsString) : Bool :=
  text == js "0" || (text.all Json.isDigit && text.head?.any fun c => c ≠ 0x30)

/-- `^[1-9][0-9]*$` -/
def isPositiveText (text : JsString) : Bool :=
  text.all Json.isDigit && text.head?.any fun c => c ≠ 0x30

/-- The values that the conditions on an interval read. -/
def intervalText (key : String) (item : Jsonb) : Option JsString :=
  Jsonb.fieldText (js key) (some item)

def intervalInteger (key : String) (item : Jsonb) : Sql ℤ :=
  castInteger (intervalText key item)

/-- `text <> value` -/
def differs (text : Option JsString) (value : JsString) : Sql Bool :=
  .ok (text.map fun text => text ≠ value)

/-- The number of the keys of an object is not `count`. -/
def keyCountDiffers (item : Jsonb) (count : ℕ) : Sql Bool :=
  match item with
  | .obj fields => .ok (some (fields.length ≠ count))
  | _ => .error .notAnObject

def isObject : Jsonb → Bool
  | .obj _ => true
  | _ => false

/-- The conditions under which the interval at an index counts as invalid. -/
def invalidIntervalConditions (row : ProofQuestionIntervalSet) (item : Jsonb) (index : ℕ) :
    List (Sql Bool) :=
  [.ok (some !isObject item),
    keyCountDiffers item 8,
    differs (intervalText "schemaVersion" item) (js "1"),
    differs (intervalText "intervalVersion" item) (js "proof-question-interval-v1"),
    differs (intervalText "source" item) (js "mobile_navigation_v1"),
    .ok (some !Media.CanonicalUuidSchema.accepts
      ((intervalText "questionId" item).getD [])),
    .ok (some !isNaturalText ((intervalText "ordinal" item).getD [])),
    Sql.compare (fun a b => a ≠ b) (intervalInteger "ordinal" item) (.ok (some index)),
    .ok (some !isNaturalText ((intervalText "startMs" item).getD [])),
    .ok (some !isPositiveText ((intervalText "endMs" item).getD [])),
    .ok (some !isPositiveText ((intervalText "recordedDurationMs" item).getD [])),
    Sql.compare (fun a b => a ≠ b) (intervalInteger "recordedDurationMs" item)
      (.ok (some row.recordedDurationMs)),
    Sql.compare (fun a b => a ≥ b) (intervalInteger "startMs" item)
      (intervalInteger "endMs" item),
    Sql.compare (fun a b => a > b) (intervalInteger "endMs" item)
      (.ok (some row.recordedDurationMs)),
    Sql.compare (fun a b => a - b > row.maximumQuestionDurationMs)
      (intervalInteger "endMs" item) (intervalInteger "startMs" item),
    if index = 0 then .ok (some false)
    else Sql.compare (fun a b => a ≠ b) (intervalInteger "startMs" item)
      (castInteger (Jsonb.fieldText (js "endMs")
        (Jsonb.item (index - 1) (some row.intervals))))]

inductive IntervalTriggerError where
  | sql (error : SqlError)
  | binding
  | set
  deriving DecidableEq, Repr

def IntervalTriggerError.message : IntervalTriggerError → Option String
  | sql _ => none
  | binding => some "Proof question interval binding is invalid"
  | set => some "Proof question interval set is incomplete or inconsistent"

/-- `jsonb_array_elements` -/
def arrayElements : Jsonb → Except SqlError (List Jsonb)
  | .arr items => .ok items
  | _ => .error .notAnArray

/-- What the second query of the trigger computes over the intervals. -/
structure IntervalAggregate where
  questionIds : Option Jsonb
  invalidIntervalCount : ℕ
  firstStartMs : Option ℤ
  finalEndMs : Option ℤ

def intervalAggregate (row : ProofQuestionIntervalSet) : Except SqlError IntervalAggregate := do
  let items ← arrayElements row.intervals
  let invalid ← items.zipIdx.mapM fun entry =>
    Sql.anyTrue (invalidIntervalConditions row entry.1 entry.2)
  let firstStartMs ← castInteger
    (Jsonb.fieldText (js "startMs") (Jsonb.item 0 (some row.intervals)))
  let finalEndMs ← castInteger
    (Jsonb.fieldText (js "endMs") (items.getLast?))
  return {
    questionIds := if items = [] then none else some (.arr (items.map fun item =>
      (Jsonb.field (js "questionId") (some item)).getD .null))
    invalidIntervalCount := invalid.count true
    firstStartMs
    finalEndMs }

/-- `slopproof_validate_proof_question_intervals_v1` -/
def validateProofQuestionIntervals (plan : ProofPlanRow) (db : Evidence)
    (row : ProofQuestionIntervalSet) : Except IntervalTriggerError Unit :=
  match intervalBinding plan db row with
  | none => .error .binding
  | some binding => do
      let manifest := Jsonb.field (js "manifest") binding.envelope
      let boundDurationMs ← (castInteger
        (Jsonb.fieldText (js "durationMs") manifest)).mapError .sql
      rejectIf (binding.envelope = none ∨
          binding.manifestDigest ≠ some row.manifestDigest ∨
          boundDurationMs ≠ some row.recordedDurationMs ∨
          binding.count ≠ binding.questionBudget ∨
          binding.distinctOrdinals ≠ binding.questionBudget ∨
          binding.minimumOrdinal ≠ some 0 ∨
          binding.maximumOrdinal.map Nat.cast ≠ some ((binding.questionBudget : ℤ) - 1) ∨
          Jsonb.field (js "questionIntervals") manifest ≠ some row.intervals)
        .binding
      let aggregate ← (intervalAggregate row).mapError .sql
      rejectIf (aggregate.questionIds ≠
            some (.arr (binding.questionIds.map Jsonb.str)) ∨
          aggregate.invalidIntervalCount ≠ 0 ∨
          (∃ start ∈ aggregate.firstStartMs, 1000 < start) ∨
          (∃ finalEnd ∈ aggregate.finalEndMs,
            ¬ (0 ≤ row.recordedDurationMs - finalEnd ∧
              row.recordedDurationMs - finalEnd ≤ 1000)))
        .set

end Db

end UnderstandProof
