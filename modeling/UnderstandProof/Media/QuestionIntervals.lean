import UnderstandProof.Foundation.Except
import UnderstandProof.Foundation.Tiling
import UnderstandProof.Media.Constants

/-!
# Question intervals

The intervals in which the questions of a proof were answered, the schema that
checks them, and the check against the questions the server has asked.
-/

open Foundation

namespace UnderstandProof

namespace Media

def proofQuestionIntervalVersion : JsString := js "proof-question-interval-v1"
def proofQuestionIntervalSource : JsString := js "mobile_navigation_v1"
def maxProofQuestionCount : ℕ := 5
def maxInitialQuestionGapMs : ℕ := 1000
def maxFinalQuestionEndDriftMs : ℕ := 1000
def maxProofQuestionAnswerMs : ℕ := 120000

structure ProofQuestionInterval where
  schemaVersion : JsString
  intervalVersion : JsString
  questionId : JsString
  ordinal : ℕ
  startMs : ℕ
  endMs : ℕ
  recordedDurationMs : ℕ
  source : JsString
  deriving DecidableEq, Repr

def ProofQuestionIntervalV1Schema.issues (interval : ProofQuestionInterval) :
    List Issue :=
  issueIf (interval.endMs ≤ interval.startMs ∨
      interval.recordedDurationMs < interval.endMs)
    "Question interval exceeds its recording duration binding" [.key "endMs"]

def ProofQuestionIntervalV1Schema.accepts (interval : ProofQuestionInterval) : Bool :=
  interval.schemaVersion == js "1" &&
    interval.intervalVersion == proofQuestionIntervalVersion &&
    isUuid interval.questionId &&
    interval.ordinal ≤ maxProofQuestionCount - 1 &&
    interval.startMs ≤ maxRecordingDurationMs - 1 &&
    0 < interval.endMs && interval.endMs ≤ maxRecordingDurationMs &&
    0 < interval.recordedDurationMs &&
    interval.recordedDurationMs ≤ maxRecordingDurationMs &&
    interval.source == proofQuestionIntervalSource &&
    (ProofQuestionIntervalV1Schema.issues interval).isEmpty

/-- The loop variables of the refinement of an interval list. -/
structure IntervalScan where
  questionIds : List JsString
  previousEnd : Option ℕ
  issues : List Issue

def IntervalScan.visit (intervals : List ProofQuestionInterval) (scan : IntervalScan) :
    ProofQuestionInterval × ℕ → IntervalScan
  | (interval, index) =>
      { questionIds := interval.questionId :: scan.questionIds
        previousEnd := some interval.endMs
        issues := scan.issues ++
          issueIf (interval.ordinal ≠ index)
            "Question interval ordinals must be complete and ordered"
            [.index index, .key "ordinal"] ++
          issueIf (interval.questionId ∈ scan.questionIds)
            "Question interval IDs must be unique" [.index index, .key "questionId"] ++
          issueIf (scan.previousEnd ≠ none ∧ scan.previousEnd ≠ some interval.startMs)
            "Question intervals must be contiguous and non-overlapping"
            [.index index, .key "startMs"] ++
          issueIf (0 < index ∧ (intervals.head?.map ProofQuestionInterval.recordedDurationMs) ≠
              some interval.recordedDurationMs)
            "Question intervals must share one recording duration"
            [.index index, .key "recordedDurationMs"] }

def ProofQuestionIntervalsV1Schema.issues (intervals : List ProofQuestionInterval) :
    List Issue :=
  (intervals.zipIdx.foldl (IntervalScan.visit intervals) ⟨[], none, []⟩).issues

def ProofQuestionIntervalsV1Schema.accepts (intervals : List ProofQuestionInterval) :
    Bool :=
  1 ≤ intervals.length && intervals.length ≤ maxProofQuestionCount &&
    intervals.all ProofQuestionIntervalV1Schema.accepts &&
    (ProofQuestionIntervalsV1Schema.issues intervals).isEmpty

def validateProofQuestionIntervalsV1 (intervals : List ProofQuestionInterval)
    (expectedQuestionIds : List JsString) (recordingDurationMs : ℕ) :
    Except Thrown (List ProofQuestionInterval) := do
  rejectIf (ProofQuestionIntervalsV1Schema.accepts intervals = false) .zod
  rejectIf (expectedQuestionIds.length ≠ intervals.length ∨
      intervals.zipIdx.any fun (interval, index) =>
        some interval.questionId ≠ expectedQuestionIds[index]? ∨
          interval.recordedDurationMs ≠ recordingDurationMs)
    (.error "Question intervals do not match the complete server-owned proof plan")
  rejectIf (intervals.any fun interval =>
      (maxProofQuestionAnswerMs : ℤ) < interval.endMs - interval.startMs)
    (.error "Question interval exceeds the server-owned answer duration limit")
  match intervals.head?, intervals.getLast? with
  | some first, some last =>
      rejectIf (maxInitialQuestionGapMs < first.startMs ∨
          maxFinalQuestionEndDriftMs < ((recordingDurationMs : ℤ) - last.endMs).natAbs)
        (.error "Question intervals do not cover the accepted recording timeline")
      return intervals
  | _, _ =>
      throw (.error "Question intervals do not cover the accepted recording timeline")

/-! ## What the refinement of a list checks -/

/-- The interval at a position continues the intervals before it. -/
structure IntervalInOrder (intervals : List ProofQuestionInterval)
    (interval : ProofQuestionInterval) (index : ℕ) : Prop where
  ordinal : interval.ordinal = index
  fresh : interval.questionId ∉
    (intervals.take index).map ProofQuestionInterval.questionId
  contiguous : ∀ previousEnd ∈ (intervals.take index).getLast?.map ProofQuestionInterval.endMs,
    previousEnd = interval.startMs
  duration : 0 < index → intervals.head?.map ProofQuestionInterval.recordedDurationMs =
    some interval.recordedDurationMs

/-- The loop over the intervals of a prefix. -/
theorem foldl_visit_before {intervals before : List ProofQuestionInterval}
    (hbefore : before <+: intervals) :
    let scan := before.zipIdx.foldl (IntervalScan.visit intervals) ⟨[], none, []⟩
    scan.questionIds = (before.map ProofQuestionInterval.questionId).reverse ∧
      scan.previousEnd = before.getLast?.map ProofQuestionInterval.endMs ∧
      (scan.issues = [] ↔
        ∀ i (hi : i < before.length), IntervalInOrder intervals before[i] i) := by
  induction before using List.reverseRecOn with
  | nil => simp
  | append_singleton before interval ih =>
      obtain ⟨rest, hrest⟩ := hbefore
      have htake : intervals.take before.length = before := by
        rw [← hrest, List.append_assoc, List.take_left' rfl]
      obtain ⟨hids, hend, hissues⟩ := ih ⟨[interval] ++ rest, by rw [← List.append_assoc, hrest]⟩
      simp only [List.zipIdx_append, List.zipIdx_singleton, List.foldl_append, List.foldl_cons,
        List.foldl_nil, Nat.zero_add]
      refine ⟨?_, ?_, ?_⟩
      · simp [IntervalScan.visit, hids]
      · simp [IntervalScan.visit]
      · rw [forall_getElem_concat (P := IntervalInOrder intervals), ← hissues]
        simp only [IntervalScan.visit, List.append_eq_nil_iff, issueIf_eq_nil, hids, hend,
          not_not, List.mem_reverse, not_and, and_assoc]
        refine and_congr_right fun _ => ?_
        constructor
        · rintro ⟨hordinal, hfresh, hcontiguous, hduration⟩
          refine ⟨hordinal, by rwa [htake], ?_, hduration⟩
          intro previousEnd hprevious
          rw [htake, Option.mem_def] at hprevious
          rw [hprevious] at hcontiguous
          simpa using hcontiguous
        · rintro ⟨hordinal, hfresh, hcontiguous, hduration⟩
          rw [htake] at hfresh hcontiguous
          refine ⟨hordinal, hfresh, ?_, hduration⟩
          intro hne
          obtain ⟨previousEnd, hprevious⟩ := Option.ne_none_iff_exists'.mp hne
          rw [hprevious, hcontiguous previousEnd hprevious]

/-- The refinement adds no issue exactly when every interval continues the ones
before it. -/
theorem ProofQuestionIntervalsV1Schema.issues_eq_nil_iff
    {intervals : List ProofQuestionInterval} :
    ProofQuestionIntervalsV1Schema.issues intervals = [] ↔
      ∀ i (hi : i < intervals.length), IntervalInOrder intervals intervals[i] i :=
  (foldl_visit_before (List.prefix_refl intervals)).2.2

/-- Validation returns its intervals, and they have passed the schema. -/
theorem validateProofQuestionIntervalsV1_ok {intervals result : List ProofQuestionInterval}
    {expectedQuestionIds : List JsString} {recordingDurationMs : ℕ}
    (h : validateProofQuestionIntervalsV1 intervals expectedQuestionIds
      recordingDurationMs = .ok result) :
    result = intervals ∧ ProofQuestionIntervalsV1Schema.accepts result = true := by
  rw [validateProofQuestionIntervalsV1, rejectIf_bind_eq_ok, rejectIf_bind_eq_ok,
    rejectIf_bind_eq_ok] at h
  obtain ⟨haccepts, -, -, h⟩ := h
  have hresult : result = intervals := by
    split at h
    · rw [rejectIf_bind_eq_ok] at h
      cases h.2
      rfl
    · cases h
  rw [hresult]
  exact ⟨rfl, by simpa using haccepts⟩

/-- Accepted intervals exist, and none declares a duration above the limit. -/
theorem ProofQuestionIntervalsV1Schema.recordedDurationMs_le
    {intervals : List ProofQuestionInterval}
    (h : ProofQuestionIntervalsV1Schema.accepts intervals = true) :
    ∃ interval ∈ intervals, interval.recordedDurationMs ≤ maxRecordingDurationMs := by
  simp only [ProofQuestionIntervalsV1Schema.accepts, Bool.and_eq_true, decide_eq_true_eq,
    List.all_eq_true] at h
  have hpos : 0 < intervals.length := by omega
  refine ⟨intervals[0], List.getElem_mem hpos, ?_⟩
  have haccepts := h.1.2 _ (List.getElem_mem hpos)
  simp only [ProofQuestionIntervalV1Schema.accepts, Bool.and_eq_true,
    decide_eq_true_eq] at haccepts
  omega

end Media

end UnderstandProof
