import Mathlib.Data.Rat.Floor
import UnderstandProof.Web.ProofRecording

/-!
# Timing of the questions in the browser

The page draws a line under the running question at every press of the button and
fixes the length of the recording when the recorder has stopped. Clock readings
are elements of an ordered field with a floor. The drafts cut the line from zero
on into non-empty blocks, one for each press, and the server's validator accepts
them exactly when the recording is not longer than it allows.
-/

open Foundation Foundation.Tiling

namespace UnderstandProof

namespace Web

open Media

variable {K : Type} [Field K] [LinearOrder K] [FloorRing K]

/-- `Math.round`: halves go up. -/
def mathRound (x : K) : ℤ := ⌊x + 1 / 2⌋

/-- `questionStartedAtMs` is 0 or the end of the draft before. -/
def captureProofQuestionIntervalV1 (questionId : JsString) (ordinal : ℕ)
    (recordingStartedAtMs : K) (questionStartedAtMs : ℕ) (nowMs : K) :
    Except Thrown ProofQuestionIntervalDraft := do
  rejectIf (recordingStartedAtMs < 0 ∨ nowMs < recordingStartedAtMs)
    (.error "Invalid monotonic proof question timing")
  return {
    schemaVersion := js "1"
    intervalVersion := js "proof-question-interval-v1"
    questionId
    ordinal
    startMs := questionStartedAtMs
    endMs := (max ((questionStartedAtMs : ℤ) + 1)
      (mathRound (nowMs - recordingStartedAtMs))).toNat
    source := js "mobile_navigation_v1" }

/-- The variables of the page that a press reads and writes. -/
structure QuestionTimer where
  drafts : List ProofQuestionIntervalDraft
  activeQuestionStartMs : ℕ
  questionIndex : ℕ
  recording : Bool
  deriving DecidableEq, Repr

def QuestionTimer.start : QuestionTimer := ⟨[], 0, 0, true⟩

/-- A press of the button at `nowMs`. -/
def nextQuestion (questionIds : List JsString) (recordingStartedAtMs : K)
    (timer : QuestionTimer) (nowMs : K) : Except Thrown QuestionTimer :=
  if timer.recording = false then .ok timer
  else match questionIds[timer.questionIndex]? with
    | none => .ok timer
    | some questionId =>
        if timer.drafts.length ≠ timer.questionIndex then .ok timer
        else do
          let interval ← captureProofQuestionIntervalV1 questionId timer.questionIndex
            recordingStartedAtMs timer.activeQuestionStartMs nowMs
          let drafts := timer.drafts ++ [interval]
          if timer.questionIndex + 1 < questionIds.length then
            return ⟨drafts, interval.endMs, timer.questionIndex + 1, true⟩
          else return { timer with drafts, recording := false }

/-- The end of the last draft, or zero. -/
def finalDraftEndMs (drafts : List ProofQuestionIntervalDraft) : ℕ :=
  (drafts.getLast?.map ProofQuestionIntervalDraft.endMs).getD 0

/-- The length of the recording, as the page fixes it at `nowMs`. -/
def recordedDurationMs (drafts : List ProofQuestionIntervalDraft)
    (recordingStartedAtMs nowMs : K) : ℕ :=
  (max 1 (max (mathRound (nowMs - recordingStartedAtMs)) (finalDraftEndMs drafts))).toNat

/-! ## The drafts as blocks of a line -/

/-- The draft at a position is the block at that position. -/
structure DraftAt (questionIds : List JsString) (lengths : List ℕ)
    (draft : ProofQuestionIntervalDraft) (index : ℕ) : Prop where
  schemaVersion : draft.schemaVersion = js "1"
  intervalVersion : draft.intervalVersion = proofQuestionIntervalVersion
  source : draft.source = proofQuestionIntervalSource
  questionId : questionIds[index]? = some draft.questionId
  ordinal : draft.ordinal = index
  startMs : draft.startMs = offset lengths index
  endMs : draft.endMs = offset lengths (index + 1)

/-- The drafts are the non-empty blocks of these lengths. -/
structure Drafted (questionIds : List JsString) (drafts : List ProofQuestionIntervalDraft)
    (lengths : List ℕ) : Prop where
  length_eq : drafts.length = lengths.length
  pos : ∀ n ∈ lengths, 0 < n
  draft : ∀ i (hi : i < drafts.length), DraftAt questionIds lengths drafts[i] i

/-- A page between two presses: blocks for the presses so far, and the next
question starts where they end. -/
structure Timing (questionIds : List JsString) (timer : QuestionTimer)
    (lengths : List ℕ) : Prop where
  drafted : Drafted questionIds timer.drafts lengths
  length_le : lengths.length ≤ questionIds.length
  recording_iff : timer.recording = true ↔ lengths.length < questionIds.length
  index : timer.recording = true → timer.questionIndex = lengths.length
  active : timer.recording = true → timer.activeQuestionStartMs = lengths.sum

theorem Timing.start {questionIds : List JsString} (h : questionIds ≠ []) :
    Timing questionIds QuestionTimer.start [] := by
  have hpos := List.length_pos_of_ne_nil h
  refine ⟨⟨rfl, by simp, ?_⟩, Nat.zero_le _, ?_, fun _ => rfl, fun _ => rfl⟩
  · intro i hi
    cases hi
  · simpa [QuestionTimer.start] using hpos

theorem DraftAt.append {questionIds : List JsString} {lengths : List ℕ}
    {draft : ProofQuestionIntervalDraft} {index : ℕ}
    (h : DraftAt questionIds lengths draft index) (hindex : index < lengths.length)
    (more : List ℕ) : DraftAt questionIds (lengths ++ more) draft index :=
  { h with
    startMs := by rw [h.startMs, offset_append_of_le hindex.le]
    endMs := by rw [h.endMs, offset_append_of_le hindex] }

/-- One more draft, which starts where the blocks end. -/
theorem Drafted.concat {questionIds : List JsString}
    {drafts : List ProofQuestionIntervalDraft} {lengths : List ℕ}
    (h : Drafted questionIds drafts lengths) {draft : ProofQuestionIntervalDraft} {n : ℕ}
    (hn : 0 < n) (hdraft : DraftAt questionIds (lengths ++ [n]) draft lengths.length) :
    Drafted questionIds (drafts ++ [draft]) (lengths ++ [n]) := by
  refine ⟨by simp [h.length_eq], ?_, ?_⟩
  · intro m hm
    rcases List.mem_append.mp hm with hm | hm
    · exact h.pos m hm
    · rwa [List.mem_singleton.mp hm]
  · refine forall_getElem_concat.mpr ⟨?_, ?_⟩
    · intro i hi
      exact (h.draft i hi).append (h.length_eq ▸ hi) [n]
    · rw [h.length_eq]
      exact hdraft

/-- A press within the recording adds one block. -/
theorem Timing.nextQuestion {questionIds : List JsString} {timer : QuestionTimer}
    {lengths : List ℕ} (h : Timing questionIds timer lengths)
    (hlength : lengths.length < questionIds.length) {recordingStartedAtMs nowMs : K}
    (hstart : 0 ≤ recordingStartedAtMs) (hnow : recordingStartedAtMs ≤ nowMs) :
    ∃ next n, Web.nextQuestion questionIds recordingStartedAtMs timer nowMs = .ok next ∧
      Timing questionIds next (lengths ++ [n]) := by
  have hrecording := h.recording_iff.mpr hlength
  have hindex := h.index hrecording
  have hactive := h.active hrecording
  set stop := (max ((lengths.sum : ℤ) + 1) (mathRound (nowMs - recordingStartedAtMs))).toNat
    with hstop
  have hlt : lengths.sum < stop := by omega
  have hcapture : captureProofQuestionIntervalV1 questionIds[lengths.length] lengths.length
      recordingStartedAtMs lengths.sum nowMs = .ok
        { schemaVersion := js "1", intervalVersion := js "proof-question-interval-v1",
          questionId := questionIds[lengths.length], ordinal := lengths.length,
          startMs := lengths.sum, endMs := stop, source := js "mobile_navigation_v1" } :=
    rejectIf_bind_eq_ok.mpr ⟨by simp [hstart, hnow], rfl⟩
  have hdrafted : Drafted questionIds (timer.drafts ++
      [{ schemaVersion := js "1", intervalVersion := js "proof-question-interval-v1",
         questionId := questionIds[lengths.length], ordinal := lengths.length,
         startMs := lengths.sum, endMs := stop, source := js "mobile_navigation_v1" }])
      (lengths ++ [stop - lengths.sum]) := by
    refine h.drafted.concat (by omega) ⟨rfl, rfl, rfl, by simp [hlength], rfl, ?_, ?_⟩
    · rw [offset_append_of_le le_rfl, offset_length]
    · rw [offset_of_length_le (by simp), List.sum_append, List.sum_singleton]
      simp only
      omega
  rw [Web.nextQuestion, if_neg (by simp [hrecording]), hindex, hactive,
    List.getElem?_eq_getElem hlength]
  simp only [h.drafted.length_eq, ne_eq, not_true_eq_false, if_false, hcapture,
    except_ok_bind, except_pure]
  by_cases hmore : lengths.length + 1 < questionIds.length
  · rw [if_pos hmore]
    refine ⟨_, stop - lengths.sum, rfl, hdrafted, by simp; omega, ?_, ?_, ?_⟩
    · simpa using hmore
    · simp
    · intro _
      rw [List.sum_append, List.sum_singleton]
      exact (Nat.add_sub_cancel' hlt.le).symm
  · rw [if_neg hmore]
    refine ⟨_, stop - lengths.sum, rfl, hdrafted, by simp; omega, ?_, ?_, ?_⟩
    · simpa using hmore
    · intro hfalse
      cases hfalse
    · intro hfalse
      cases hfalse

/-- The presses of a recording add one block each. -/
theorem Timing.presses {questionIds : List JsString} {timer : QuestionTimer}
    {lengths : List ℕ} (h : Timing questionIds timer lengths) {recordingStartedAtMs : K}
    (hstart : 0 ≤ recordingStartedAtMs) {presses : List K}
    (hpresses : ∀ nowMs ∈ presses, recordingStartedAtMs ≤ nowMs)
    (hlength : lengths.length + presses.length ≤ questionIds.length) :
    ∃ final blocks, presses.foldlM (Web.nextQuestion questionIds recordingStartedAtMs) timer =
        .ok final ∧ Timing questionIds final blocks ∧
      blocks.length = lengths.length + presses.length := by
  induction presses generalizing timer lengths with
  | nil => exact ⟨timer, lengths, rfl, h, rfl⟩
  | cons nowMs presses ih =>
      rw [List.forall_mem_cons] at hpresses
      rw [List.length_cons] at hlength
      obtain ⟨next, n, hnext, htiming⟩ := h.nextQuestion (by omega) hstart hpresses.1
      obtain ⟨final, blocks, hfinal, hblocks, hcount⟩ := ih htiming hpresses.2 (by simp; omega)
      refine ⟨final, blocks, ?_, hblocks, ?_⟩
      · rw [List.foldlM_cons, hnext, except_ok_bind, hfinal]
      · rw [hcount, List.length_append, List.length_singleton, List.length_cons]
        omega

/-! ## The validator -/

theorem Drafted.lengths_eq_nil_iff {questionIds : List JsString}
    {drafts : List ProofQuestionIntervalDraft} {lengths : List ℕ}
    (h : Drafted questionIds drafts lengths) : drafts = [] ↔ lengths = [] := by
  rw [← List.length_eq_zero_iff, h.length_eq, List.length_eq_zero_iff]

theorem Drafted.finalDraftEndMs {questionIds : List JsString}
    {drafts : List ProofQuestionIntervalDraft} {lengths : List ℕ}
    (h : Drafted questionIds drafts lengths) : finalDraftEndMs drafts = lengths.sum := by
  rw [Web.finalDraftEndMs]
  cases hlast : drafts.getLast? with
  | none =>
      rw [List.getLast?_eq_none_iff] at hlast
      rw [h.lengths_eq_nil_iff.mp hlast]
      rfl
  | some draft =>
      rw [List.getLast?_eq_getElem?, List.getElem?_eq_some_iff] at hlast
      obtain ⟨hlt, rfl⟩ := hlast
      rw [Option.map_some, Option.getD_some, (h.draft _ hlt).endMs, h.length_eq]
      rw [h.length_eq] at hlt
      exact offset_of_length_le (by omega)

/-- The drafts carry the question identifiers in their order. -/
theorem Drafted.questionIds {questionIds : List JsString}
    {drafts : List ProofQuestionIntervalDraft} {lengths : List ℕ}
    (h : Drafted questionIds drafts lengths) (hlength : drafts.length = questionIds.length) :
    drafts.map ProofQuestionIntervalDraft.questionId = questionIds := by
  apply List.ext_getElem?
  intro i
  by_cases hi : i < drafts.length
  · rw [(h.draft i hi).questionId, List.getElem?_map, List.getElem?_eq_getElem hi]
    rfl
  · rw [List.getElem?_eq_none (by simpa using hi), List.getElem?_eq_none (by omega)]

/-- A draft with the length of the recording. -/
def ProofQuestionIntervalDraft.finalize (recordedDurationMs : ℕ)
    (draft : ProofQuestionIntervalDraft) : ProofQuestionInterval :=
  { draft with recordedDurationMs }

theorem finalizeProofQuestionIntervalsV1_eq (drafts : List ProofQuestionIntervalDraft)
    (questionIds : List JsString) (recordedDurationMs : ℕ) :
    finalizeProofQuestionIntervalsV1 drafts questionIds recordedDurationMs =
      validateProofQuestionIntervalsV1
        (drafts.map (ProofQuestionIntervalDraft.finalize recordedDurationMs)) questionIds
        recordedDurationMs := rfl

/-- Finalized drafts continue one another. -/
theorem Drafted.inOrder {questionIds : List JsString}
    {drafts : List ProofQuestionIntervalDraft} {lengths : List ℕ}
    (h : Drafted questionIds drafts lengths) (hlength : drafts.length = questionIds.length)
    (hnodup : questionIds.Nodup) (recordedDurationMs : ℕ) (i : ℕ)
    (hi : i < (drafts.map (ProofQuestionIntervalDraft.finalize recordedDurationMs)).length) :
    IntervalInOrder (drafts.map (ProofQuestionIntervalDraft.finalize recordedDurationMs))
      (drafts.map (ProofQuestionIntervalDraft.finalize recordedDurationMs))[i] i := by
  rw [List.length_map] at hi
  have hquestion : i < questionIds.length := by omega
  have hdraft := h.draft i hi
  have hids : ((drafts.map (ProofQuestionIntervalDraft.finalize recordedDurationMs)).take i).map
      ProofQuestionInterval.questionId = questionIds.take i := by
    rw [List.map_take, List.map_map, ← h.questionIds hlength]
    rfl
  rw [List.getElem_map]
  refine ⟨hdraft.ordinal, ?_, ?_, ?_⟩
  · rw [hids]
    intro hmem
    have hfresh : questionIds[i] ∉ questionIds.take i := by
      rw [List.mem_take_iff_getElem]
      rintro ⟨j, hj, heq⟩
      have hj' := (hnodup.getElem_inj_iff).mp heq
      omega
    have hget := hdraft.questionId
    rw [List.getElem?_eq_getElem hquestion, Option.some.injEq] at hget
    rw [hget] at hfresh
    exact hfresh hmem
  · intro previousEnd hprevious
    obtain ⟨previous, hlast, rfl⟩ := Option.mem_map.mp hprevious
    rw [Option.mem_def, List.getLast?_eq_getElem?, List.length_take, List.length_map,
      Nat.min_eq_left hi.le, List.getElem?_take, List.getElem?_map] at hlast
    split at hlast
    · next hlt =>
        rw [List.getElem?_eq_getElem (by omega), Option.map_some, Option.some.injEq] at hlast
        subst hlast
        have hend := (h.draft (i - 1) (by omega)).endMs
        rw [Nat.sub_add_cancel (by omega)] at hend
        exact hend.trans hdraft.startMs.symm
    · cases hlast
  · intro _
    obtain ⟨first, rest, hdrafts⟩ := List.exists_cons_of_length_pos (by omega : 0 < drafts.length)
    simp [hdrafts, ProofQuestionIntervalDraft.finalize]

/-- The recording is not over before the last draft. -/
theorem finalDraftEndMs_le (drafts : List ProofQuestionIntervalDraft)
    (recordingStartedAtMs nowMs : K) :
    finalDraftEndMs drafts ≤ recordedDurationMs drafts recordingStartedAtMs nowMs := by
  rw [recordedDurationMs]
  omega

/-- A finalized draft passes the schema of an interval when the recording is not
too long. -/
theorem DraftAt.finalize_accepted {questionIds : List JsString} {lengths : List ℕ}
    {draft : ProofQuestionIntervalDraft} {index : ℕ}
    (h : DraftAt questionIds lengths draft index) (hpos : ∀ n ∈ lengths, 0 < n)
    (hindex : index < lengths.length) (hcount : lengths.length ≤ maxProofQuestionCount)
    (huuid : ∀ id ∈ questionIds, isUuid id = true) {recordedDurationMs : ℕ}
    (hend : lengths.sum ≤ recordedDurationMs)
    (hmax : recordedDurationMs ≤ maxRecordingDurationMs) :
    ProofQuestionIntervalV1Schema.accepts (draft.finalize recordedDurationMs) = true := by
  have hgrow : offset lengths index < offset lengths (index + 1) :=
    offset_lt_offset hpos (Nat.lt_succ_self index) hindex
  have hle := offset_le_sum (L := lengths) (index + 1)
  have hstart := h.startMs
  have hstop := h.endMs
  have hordinal := h.ordinal
  have hid := huuid _ (List.mem_of_getElem? h.questionId)
  simp only [ProofQuestionIntervalV1Schema.accepts, ProofQuestionIntervalV1Schema.issues,
    Bool.and_eq_true, decide_eq_true_eq, beq_iff_eq, List.isEmpty_iff, issueIf_eq_nil]
  simp only [ProofQuestionIntervalDraft.finalize, maxProofQuestionCount,
    maxRecordingDurationMs] at hmax hcount ⊢
  refine ⟨⟨⟨⟨⟨⟨⟨⟨⟨⟨h.schemaVersion, h.intervalVersion⟩, hid⟩, ?_⟩, ?_⟩, ?_⟩, ?_⟩, ?_⟩,
    hmax⟩, h.source⟩, ?_⟩
  all_goals omega

/-- The intervals cut the line from zero to `stop` in the order of the questions. -/
structure PartitionInOrder (questionIds : List JsString)
    (intervals : List ProofQuestionInterval) (stop : ℕ) : Prop where
  questionIds : intervals.map ProofQuestionInterval.questionId = questionIds
  ordinals : intervals.map ProofQuestionInterval.ordinal = List.range intervals.length
  nonempty : ∀ interval ∈ intervals, interval.startMs < interval.endMs
  starts : intervals.head?.map ProofQuestionInterval.startMs = some 0
  adjacent : ∀ i (hi : i + 1 < intervals.length),
    intervals[i].endMs = intervals[i + 1].startMs
  stops : intervals.getLast?.map ProofQuestionInterval.endMs = some stop
  covered : ∀ ms, ms < stop → ∃! i : Fin intervals.length,
    intervals[i].startMs ≤ ms ∧ ms < intervals[i].endMs

theorem Drafted.partitionInOrder {questionIds : List JsString}
    {drafts : List ProofQuestionIntervalDraft} {lengths : List ℕ}
    (h : Drafted questionIds drafts lengths) (hlength : drafts.length = questionIds.length)
    (hne : drafts ≠ []) (recordedDurationMs : ℕ) :
    PartitionInOrder questionIds
      (drafts.map (ProofQuestionIntervalDraft.finalize recordedDurationMs)) lengths.sum := by
  have hcount := h.length_eq
  have hpos := List.length_pos_of_ne_nil hne
  refine ⟨?_, ?_, ?_, ?_, ?_, ?_, ?_⟩
  · rw [List.map_map, ← h.questionIds hlength]
    rfl
  · apply List.ext_getElem
    · simp
    · intro i hi _
      simp only [List.length_map] at hi
      simpa [ProofQuestionIntervalDraft.finalize] using (h.draft i hi).ordinal
  · intro interval hinterval
    obtain ⟨draft, hdraft, rfl⟩ := List.mem_map.mp hinterval
    obtain ⟨i, hi, rfl⟩ := List.mem_iff_getElem.mp hdraft
    have hgrow := offset_lt_offset h.pos (Nat.lt_succ_self i) (by omega)
    rw [← (h.draft i hi).startMs, ← (h.draft i hi).endMs] at hgrow
    exact hgrow
  · rw [List.head?_map, List.head?_eq_getElem?, List.getElem?_eq_getElem hpos]
    simpa [ProofQuestionIntervalDraft.finalize] using (h.draft 0 hpos).startMs
  · intro i hi
    rw [List.length_map] at hi
    simp only [List.getElem_map, ProofQuestionIntervalDraft.finalize]
    rw [(h.draft i (by omega)).endMs, (h.draft (i + 1) hi).startMs]
  · rw [List.getLast?_map, List.getLast?_eq_getElem?,
      List.getElem?_eq_getElem (by omega : drafts.length - 1 < drafts.length)]
    simp only [Option.map_some, ProofQuestionIntervalDraft.finalize, Option.some.injEq]
    rw [(h.draft _ (by omega)).endMs]
    exact offset_of_length_le (by omega)
  · intro ms hms
    obtain ⟨i, hi, hstart, hstop⟩ := exists_block hms
    have hdraft : ∀ j (hj : j < drafts.length),
        (drafts[j].startMs ≤ ms ∧ ms < drafts[j].endMs ↔
          offset lengths j ≤ ms ∧ ms < offset lengths (j + 1)) := by
      intro j hj
      rw [(h.draft j hj).startMs, (h.draft j hj).endMs]
    refine ⟨⟨i, by simpa [hcount] using hi⟩, ?_, ?_⟩
    · simpa [ProofQuestionIntervalDraft.finalize] using
        (hdraft i (by omega)).mpr ⟨hstart, hstop⟩
    · rintro ⟨j, hj⟩ hblock
      rw [List.length_map] at hj
      have hwindow : Window lengths ms (ms + 1) i i := ⟨by omega, hstart, hstop, by omega, hstop⟩
      obtain ⟨hstart', hstop'⟩ := (hdraft j hj).mp
        (by simpa [ProofQuestionIntervalDraft.finalize] using hblock)
      have hwindow' : Window lengths ms (ms + 1) j j :=
        ⟨by omega, hstart', hstop', by omega, hstop'⟩
      exact Fin.ext (hwindow'.unique hwindow).1

/-- Drafts that are not too long and end close to the end of the recording are
accepted exactly when the recording is not too long. -/
theorem Drafted.finalize_eq_ok_iff {questionIds : List JsString}
    {drafts : List ProofQuestionIntervalDraft} {lengths : List ℕ}
    (h : Drafted questionIds drafts lengths) (hlength : drafts.length = questionIds.length)
    (hne : drafts ≠ []) (hcount : questionIds.length ≤ maxProofQuestionCount)
    (huuid : ∀ id ∈ questionIds, isUuid id = true) (hnodup : questionIds.Nodup)
    {duration : ℕ} (hend : lengths.sum ≤ duration)
    (hdrift : duration ≤ lengths.sum + maxFinalQuestionEndDriftMs)
    (hanswers : ∀ draft ∈ drafts, draft.endMs - draft.startMs ≤ maxProofQuestionAnswerMs)
    (intervals : List ProofQuestionInterval) :
    finalizeProofQuestionIntervalsV1 drafts questionIds duration = .ok intervals ↔
      duration ≤ maxRecordingDurationMs ∧
        intervals = drafts.map (ProofQuestionIntervalDraft.finalize duration) := by
  have hpartition := h.partitionInOrder hlength hne duration
  rw [finalizeProofQuestionIntervalsV1_eq]
  constructor
  · intro hok
    obtain ⟨rfl, haccepts⟩ := validateProofQuestionIntervalsV1_ok hok
    obtain ⟨interval, hinterval, hle⟩ :=
      ProofQuestionIntervalsV1Schema.recordedDurationMs_le haccepts
    obtain ⟨draft, -, rfl⟩ := List.mem_map.mp hinterval
    exact ⟨hle, rfl⟩
  · rintro ⟨hmax, rfl⟩
    have haccepts : ProofQuestionIntervalsV1Schema.accepts
        (drafts.map (ProofQuestionIntervalDraft.finalize duration)) = true := by
      have hpos := List.length_pos_of_ne_nil hne
      simp only [ProofQuestionIntervalsV1Schema.accepts, Bool.and_eq_true, decide_eq_true_eq,
        List.length_map, List.isEmpty_iff, List.all_eq_true, List.forall_mem_map]
      refine ⟨⟨⟨hpos, by omega⟩, ?_⟩, ?_⟩
      · intro draft hdraft
        obtain ⟨i, hi, rfl⟩ := List.mem_iff_getElem.mp hdraft
        have hlengths := h.length_eq
        exact (h.draft i hi).finalize_accepted h.pos (by omega) (by omega) huuid hend hmax
      · exact ProofQuestionIntervalsV1Schema.issues_eq_nil_iff.mpr
          (h.inOrder hlength hnodup duration)
    obtain ⟨first, hfirst, hfirstStart⟩ := Option.map_eq_some_iff.mp hpartition.starts
    obtain ⟨last, hlast, hlastEnd⟩ := Option.map_eq_some_iff.mp hpartition.stops
    rw [validateProofQuestionIntervalsV1, rejectIf_bind_eq_ok, rejectIf_bind_eq_ok,
      rejectIf_bind_eq_ok]
    refine ⟨by simp [haccepts], ?_, ?_, ?_⟩
    · rw [List.length_map, hlength]
      simp only [ne_eq, not_true_eq_false, false_or, List.any_eq_true, not_exists, not_and,
        decide_eq_true_eq, not_or, not_not]
      rintro ⟨interval, index⟩ hmem
      rw [List.mk_mem_zipIdx_iff_getElem?, List.getElem?_map] at hmem
      obtain ⟨draft, hdraft, rfl⟩ := Option.map_eq_some_iff.mp hmem
      obtain ⟨hlt, rfl⟩ := List.getElem?_eq_some_iff.mp hdraft
      exact ⟨(h.draft index hlt).questionId.symm, rfl⟩
    · simp only [List.any_eq_true, not_exists, not_and, decide_eq_true_eq, not_lt,
        List.mem_map]
      rintro interval ⟨draft, hdraft, rfl⟩
      have hanswer := hanswers draft hdraft
      simp only [ProofQuestionIntervalDraft.finalize]
      omega
    · rw [hfirst, hlast]
      refine rejectIf_bind_eq_ok.mpr ⟨?_, rfl⟩
      rw [hfirstStart, hlastEnd]
      simp only [maxFinalQuestionEndDriftMs, maxInitialQuestionGapMs] at hdrift ⊢
      omega

/-- The timing of the page satisfies the validator. The presses need only be at or
after the start of the recording; the drafts exist, one for each question, and
when the stop is at most a second behind the last draft and no answer is too long,
they are accepted exactly when the recording is not too long, as the partition of
the line from zero to the last draft. -/
theorem client_timing_accepted {questionIds : List JsString}
    {recordingStartedAtMs stoppedAtMs : K} {presses : List K}
    (hcount : 1 ≤ questionIds.length ∧ questionIds.length ≤ maxProofQuestionCount)
    (huuid : ∀ id ∈ questionIds, isUuid id = true) (hnodup : questionIds.Nodup)
    (hstart : 0 ≤ recordingStartedAtMs)
    (hpresses : ∀ nowMs ∈ presses, recordingStartedAtMs ≤ nowMs)
    (hlength : presses.length = questionIds.length) :
    ∃ timer, presses.foldlM (nextQuestion questionIds recordingStartedAtMs)
        QuestionTimer.start = .ok timer ∧
      timer.drafts.length = questionIds.length ∧
      (mathRound (stoppedAtMs - recordingStartedAtMs) - finalDraftEndMs timer.drafts ≤
          maxFinalQuestionEndDriftMs →
        (∀ draft ∈ timer.drafts, draft.endMs - draft.startMs ≤ maxProofQuestionAnswerMs) →
        (recordedDurationMs timer.drafts recordingStartedAtMs stoppedAtMs ≤
            maxRecordingDurationMs ↔
          ∃ intervals, finalizeProofQuestionIntervalsV1 timer.drafts questionIds
            (recordedDurationMs timer.drafts recordingStartedAtMs stoppedAtMs) =
              .ok intervals) ∧
        ∀ intervals, finalizeProofQuestionIntervalsV1 timer.drafts questionIds
            (recordedDurationMs timer.drafts recordingStartedAtMs stoppedAtMs) =
              .ok intervals →
          PartitionInOrder questionIds intervals (finalDraftEndMs timer.drafts)) := by
  obtain ⟨timer, lengths, hrun, htiming, hblocks⟩ :=
    (Timing.start (List.ne_nil_of_length_pos hcount.1)).presses hstart hpresses
      (by simp [hlength])
  have hdrafted := htiming.drafted
  have hdrafts : timer.drafts.length = questionIds.length := by
    rw [hdrafted.length_eq, hblocks, hlength, List.length_nil, Nat.zero_add]
  have hne : timer.drafts ≠ [] := List.ne_nil_of_length_pos (by omega)
  refine ⟨timer, hrun, hdrafts, ?_⟩
  intro hdrift hanswers
  have hfinal := hdrafted.finalDraftEndMs
  have hend := finalDraftEndMs_le timer.drafts recordingStartedAtMs stoppedAtMs
  have hclose : recordedDurationMs timer.drafts recordingStartedAtMs stoppedAtMs ≤
      lengths.sum + maxFinalQuestionEndDriftMs := by
    rw [recordedDurationMs]
    simp only [maxFinalQuestionEndDriftMs] at hdrift ⊢
    omega
  have hiff := hdrafted.finalize_eq_ok_iff hdrafts hne hcount.2 huuid hnodup
    (hfinal ▸ hend) hclose hanswers
  constructor
  · constructor
    · intro hmax
      exact ⟨_, (hiff _).mpr ⟨hmax, rfl⟩⟩
    · rintro ⟨intervals, hok⟩
      exact ((hiff intervals).mp hok).1
  · intro intervals hok
    obtain ⟨-, rfl⟩ := (hiff intervals).mp hok
    rw [hfinal]
    exact hdrafted.partitionInOrder hdrafts hne _

def sampleQuestionIds : List JsString :=
  [js "10000000-0000-4000-8000-000000000001", js "10000000-0000-4000-8000-000000000002"]

/-- The page after two presses, 712.35 and 2047.65 milliseconds into the recording. -/
def sampleTimer : QuestionTimer where
  drafts :=
    [⟨js "1", proofQuestionIntervalVersion, js "10000000-0000-4000-8000-000000000001", 0, 0,
        712, proofQuestionIntervalSource⟩,
      ⟨js "1", proofQuestionIntervalVersion, js "10000000-0000-4000-8000-000000000002", 1,
        712, 2048, proofQuestionIntervalSource⟩]
  activeQuestionStartMs := 712
  questionIndex := 1
  recording := false

theorem client_timing_accepted_sample :
    ∃ timer intervals, ([10712.6, 12047.9] : List ℚ).foldlM
        (nextQuestion sampleQuestionIds 10000.25) QuestionTimer.start = .ok timer ∧
      finalizeProofQuestionIntervalsV1 timer.drafts sampleQuestionIds
        (recordedDurationMs timer.drafts (10000.25 : ℚ) 12075.25) = .ok intervals ∧
      PartitionInOrder sampleQuestionIds intervals 2048 := by
  obtain ⟨timer, hrun, -, hfinalize⟩ := @client_timing_accepted ℚ _ _ _ sampleQuestionIds
    10000.25 12075.25 [10712.6, 12047.9] (by decide) (by decide)
    (by decide) (by norm_num) (by simp; norm_num) rfl
  obtain rfl : sampleTimer = timer :=
    Except.ok.inj ((by decide +kernel : _ = .ok sampleTimer).symm.trans hrun)
  obtain ⟨hiff, hpartition⟩ := hfinalize (by decide +kernel) (by decide +kernel)
  obtain ⟨intervals, hok⟩ := hiff.mp (by decide +kernel)
  exact ⟨_, intervals, hrun, hok, hpartition intervals hok⟩

end Web

end UnderstandProof
