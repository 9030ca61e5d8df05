import UnderstandProof.Db.ProofQuestionIntervalRows

/-!
# The two validators of question intervals

`validateProofQuestionIntervalsV1` runs in the request, the trigger when the row is
inserted. For a plan whose required questions carry the ordinals from zero on and
distinct ids, a list passes the one exactly when it passes the other.
-/

open Foundation

namespace UnderstandProof

namespace Db

open Media (ProofQuestionInterval IntervalInOrder validateProofQuestionIntervalsV1 Thrown)

/-- A plan with its required questions, one to five, as the planner stores them. -/
structure CompletePlan (plan : ProofPlanRow) : Prop where
  count : 1 ≤ plan.requiredQuestions.length ∧ plan.requiredQuestions.length ≤ 5
  budget : plan.questionBudget = plan.requiredQuestions.length
  ordinals : (plan.requiredQuestions.map ProofQuestionRow.ordinal).Perm
    (List.range plan.requiredQuestions.length)
  ids : ∀ id ∈ plan.requiredQuestionIds,
    isUuid id = true ∧ Media.CanonicalUuidSchema.accepts id = true
  distinct : plan.requiredQuestionIds.Nodup

/-! ## The validator of the request -/

/-- The number checks of the schema refuse a negative number. -/
def RawQuestionInterval.toInterval (raw : RawQuestionInterval) : Option ProofQuestionInterval :=
  if 0 ≤ raw.ordinal ∧ 0 ≤ raw.startMs ∧ 0 ≤ raw.endMs ∧ 0 ≤ raw.recordedDurationMs then
    some {
      schemaVersion := raw.schemaVersion
      intervalVersion := raw.intervalVersion
      questionId := raw.questionId
      ordinal := raw.ordinal.toNat
      startMs := raw.startMs.toNat
      endMs := raw.endMs.toNat
      recordedDurationMs := raw.recordedDurationMs.toNat
      source := raw.source }
  else none

/-- `validateProofQuestionIntervalsV1` on a list of objects. -/
def validateRawQuestionIntervals (raws : List RawQuestionInterval)
    (expectedQuestionIds : List JsString) (recordingDurationMs : ℕ) :
    Except Thrown (List ProofQuestionInterval) :=
  match raws.mapM RawQuestionInterval.toInterval with
  | none => .error .zod
  | some intervals =>
      validateProofQuestionIntervalsV1 intervals expectedQuestionIds recordingDurationMs

theorem toInterval_eq_some_iff {raw : RawQuestionInterval} {interval : ProofQuestionInterval} :
    raw.toInterval = some interval ↔ raw = .ofInterval interval := by
  constructor
  · intro h
    obtain ⟨hpos, hinterval⟩ := Option.ite_none_right_eq_some.mp h
    obtain rfl := Option.some.inj hinterval
    obtain ⟨version, interval, id, ordinal, startMs, endMs, recorded, source⟩ := raw
    obtain ⟨h₁, h₂, h₃, h₄⟩ := hpos
    simp only [RawQuestionInterval.ofInterval, RawQuestionInterval.mk.injEq, true_and, and_true]
    dsimp only at h₁ h₂ h₃ h₄
    omega
  · rintro rfl
    rw [RawQuestionInterval.toInterval, if_pos]
    · rfl
    · simp only [RawQuestionInterval.ofInterval]
      omega

theorem mapM_toInterval_map (intervals : List ProofQuestionInterval) :
    (intervals.map RawQuestionInterval.ofInterval).mapM RawQuestionInterval.toInterval =
      some intervals := by
  induction intervals with
  | nil => rfl
  | cons interval intervals ih =>
      rw [List.map_cons, List.mapM_cons, toInterval_eq_some_iff.mpr rfl, ih]
      rfl

/-- An interval list that the request accepts. -/
structure AcceptedTimeline (questionIds : List JsString) (recordingDurationMs : ℕ)
    (intervals : List ProofQuestionInterval) : Prop where
  length : 1 ≤ intervals.length ∧ intervals.length ≤ 5
  fields : ∀ interval ∈ intervals, Media.ProofQuestionIntervalV1Schema.accepts interval = true
  order : ∀ i (hi : i < intervals.length), IntervalInOrder intervals intervals[i] i
  questionIds_eq : intervals.map ProofQuestionInterval.questionId = questionIds
  recorded : ∀ interval ∈ intervals, interval.recordedDurationMs = recordingDurationMs
  answer : ∀ interval ∈ intervals, interval.endMs ≤ interval.startMs + 120000
  first : ∀ interval ∈ intervals.head?, interval.startMs ≤ 1000
  last : ∀ interval ∈ intervals.getLast?,
    ((recordingDurationMs : ℤ) - interval.endMs).natAbs ≤ 1000

theorem map_eq_iff_getElem? {α β : Type} {f : α → β} {l : List α} {m : List β} :
    m.length = l.length ∧ (∀ a i, (a, i) ∈ l.zipIdx → some (f a) = m[i]?) ↔ l.map f = m := by
  constructor
  · rintro ⟨hlength, h⟩
    refine List.ext_getElem? fun i => ?_
    rw [List.getElem?_map]
    cases ha : l[i]? with
    | none =>
        have hi : m.length ≤ i := hlength ▸ List.getElem?_eq_none_iff.mp ha
        rw [List.getElem?_eq_none hi]
        rfl
    | some a => exact h a i (List.mem_zipIdx_iff_getElem?.mpr ha)
  · rintro rfl
    refine ⟨List.length_map _, fun a i hmem => ?_⟩
    rw [List.getElem?_map, List.mem_zipIdx_iff_getElem?.mp hmem]
    rfl

theorem accepts_iff {intervals : List ProofQuestionInterval} :
    Media.ProofQuestionIntervalsV1Schema.accepts intervals = true ↔
      (1 ≤ intervals.length ∧ intervals.length ≤ 5) ∧
      (∀ interval ∈ intervals, Media.ProofQuestionIntervalV1Schema.accepts interval = true) ∧
      ∀ i (hi : i < intervals.length), IntervalInOrder intervals intervals[i] i := by
  rw [← Media.ProofQuestionIntervalsV1Schema.issues_eq_nil_iff]
  simp only [Media.ProofQuestionIntervalsV1Schema.accepts, Bool.and_eq_true, decide_eq_true_eq,
    List.all_eq_true, List.isEmpty_iff, and_assoc]
  exact Iff.rfl

/-- What the validator of the request accepts. -/
theorem validate_eq_ok_iff {intervals result : List ProofQuestionInterval}
    {questionIds : List JsString} {recordingDurationMs : ℕ} :
    validateProofQuestionIntervalsV1 intervals questionIds recordingDurationMs = .ok result ↔
      result = intervals ∧ AcceptedTimeline questionIds recordingDurationMs intervals := by
  rw [validateProofQuestionIntervalsV1, rejectIf_bind_eq_ok, rejectIf_bind_eq_ok,
    rejectIf_bind_eq_ok]
  simp only [Bool.not_eq_false, accepts_iff, not_or, not_not, List.any_eq_true, not_exists,
    not_and, not_lt, decide_eq_true_eq, Prod.forall]
  constructor
  · rintro ⟨⟨hlength, hfields, horder⟩, ⟨hids, hzip⟩, hanswer, hcover⟩
    split at hcover
    · next first last hfirst hlast =>
      rw [rejectIf_bind_eq_ok] at hcover
      obtain ⟨hgaps, hresult⟩ := hcover
      obtain ⟨hgap, hdrift⟩ := not_or.mp hgaps
      refine ⟨(Except.ok.inj hresult).symm, {
        length := hlength
        fields := hfields
        order := horder
        questionIds_eq := map_eq_iff_getElem?.mp ⟨hids, fun a i hmem => (hzip a i hmem).1⟩
        recorded := ?_
        answer := ?_
        first := ?_
        last := ?_ }⟩
      · intro interval hmem
        obtain ⟨i, hi, hget⟩ := List.getElem_of_mem hmem
        exact (hzip interval i (List.mem_zipIdx_iff_getElem?.mpr
          (List.getElem?_eq_some_iff.mpr ⟨hi, hget⟩))).2
      · intro interval hmem
        have hle := hanswer interval hmem
        simp only [Media.maxProofQuestionAnswerMs] at hle
        omega
      · intro interval hmem
        obtain rfl : first = interval := Option.some.inj (hfirst.symm.trans hmem)
        exact not_lt.mp hgap
      · intro interval hmem
        obtain rfl : last = interval := Option.some.inj (hlast.symm.trans hmem)
        exact not_lt.mp hdrift
    · cases hcover
  · rintro ⟨rfl, h⟩
    obtain ⟨hids, hzip⟩ := map_eq_iff_getElem?.mpr h.questionIds_eq
    have hne : result ≠ [] := List.ne_nil_of_length_pos h.length.1
    have hfirst := List.head?_eq_some_head hne
    have hlast := List.getLast?_eq_some_getLast hne
    refine ⟨⟨h.length, h.fields, h.order⟩, ⟨hids, fun a i hmem => ⟨hzip a i hmem, ?_⟩⟩, ?_, ?_⟩
    · have hget : result[i]? = some a := List.mem_zipIdx_iff_getElem?.mp hmem
      exact h.recorded a (List.mem_of_getElem? hget)
    · intro interval hmem
      have hle := h.answer interval hmem
      simp only [Media.maxProofQuestionAnswerMs]
      omega
    · rw [hfirst, hlast]
      dsimp only
      rw [rejectIf_bind_eq_ok]
      exact ⟨not_or.mpr ⟨not_lt.mpr (h.first _ hfirst), not_lt.mpr (h.last _ hlast)⟩, rfl⟩

/-- The schema of one interval. -/
theorem accepts_interval_iff {interval : ProofQuestionInterval} :
    Media.ProofQuestionIntervalV1Schema.accepts interval = true ↔
      interval.schemaVersion = js "1" ∧
      interval.intervalVersion = js "proof-question-interval-v1" ∧
      isUuid interval.questionId = true ∧ interval.ordinal ≤ 4 ∧ interval.startMs ≤ 479999 ∧
      0 < interval.endMs ∧ interval.endMs ≤ 480000 ∧ 0 < interval.recordedDurationMs ∧
      interval.recordedDurationMs ≤ 480000 ∧ interval.source = js "mobile_navigation_v1" ∧
      interval.startMs < interval.endMs ∧ interval.endMs ≤ interval.recordedDurationMs := by
  simp only [Media.ProofQuestionIntervalV1Schema.accepts,
    Media.ProofQuestionIntervalV1Schema.issues, Bool.and_eq_true, decide_eq_true_eq, beq_iff_eq,
    List.isEmpty_iff, issueIf_eq_nil, not_or, not_le, not_lt, and_assoc]
  exact Iff.rfl

/-! ## One list, two validators -/

section Agreement

variable {questionIds : List JsString} {recordingDurationMs : ℕ}

/-- A list the request accepts is one the trigger accepts. -/
theorem stored_of_accepted {intervals : List ProofQuestionInterval}
    (hids : ∀ id ∈ questionIds, Media.CanonicalUuidSchema.accepts id = true)
    (h : AcceptedTimeline questionIds recordingDurationMs intervals) :
    StoredTimeline questionIds recordingDurationMs 120000
      (intervals.map RawQuestionInterval.ofInterval) where
  questionIds_eq := by
    rw [List.map_map]
    exact h.questionIds_eq
  nonempty := by
    have hne : intervals ≠ [] := List.ne_nil_of_length_pos h.length.1
    simpa using hne
  intervals := by
    intro before raw after hsplit
    obtain ⟨before, rest, rfl, rfl, hrest⟩ := List.map_eq_append_iff.mp hsplit
    obtain ⟨interval, after, rfl, rfl, -⟩ := List.map_eq_cons_iff.mp hrest
    have hmem : interval ∈ before ++ interval :: after := by simp
    obtain ⟨hversion, hinterval, -, hordinal, hstart, hend, hlimit, hpositive, hrecorded, hsource,
      horder, hwithin⟩ := accepts_interval_iff.mp (h.fields interval hmem)
    have hid : interval.questionId ∈ questionIds := by
      rw [← h.questionIds_eq]
      exact List.mem_map_of_mem hmem
    have hindex : before.length < (before ++ interval :: after).length := by simp
    have hat := h.order before.length hindex
    have hget : (before ++ interval :: after)[before.length] = interval := by simp
    rw [hget] at hat
    have hduration := h.recorded interval hmem
    have hanswer := h.answer interval hmem
    have hcontiguous := hat.contiguous
    rw [List.take_left' rfl] at hcontiguous
    rw [List.length_map]
    exact {
      schemaVersion := hversion
      intervalVersion := hinterval
      source := hsource
      questionId := hids _ hid
      ordinal := congrArg Nat.cast hat.ordinal
      startMs := Int.natCast_nonneg _
      positive := Int.ofNat_lt.mpr horder
      recorded := congrArg Nat.cast hduration
      within := Int.ofNat_le.mpr (hduration ▸ hwithin)
      answer := by
        simp only [RawQuestionInterval.ofInterval]
        omega
      contiguous := by
        intro previous hprevious
        rw [List.getLast?_map, Option.map_map, Option.mem_def,
          Option.map_eq_some_iff] at hprevious
        obtain ⟨last, hlast, rfl⟩ := hprevious
        have heq := hcontiguous last.endMs (by rw [hlast]; rfl)
        exact congrArg Nat.cast heq.symm
      integers := by
        simp only [RawQuestionInterval.ofInterval, isInteger_iff]
        omega }
  first := by
    intro raw hraw
    rw [List.head?_map, Option.mem_def, Option.map_eq_some_iff] at hraw
    obtain ⟨interval, hinterval, rfl⟩ := hraw
    exact Int.ofNat_le.mpr (h.first interval hinterval)
  last := by
    intro raw hraw
    rw [List.getLast?_map, Option.mem_def, Option.map_eq_some_iff] at hraw
    obtain ⟨interval, hinterval, rfl⟩ := hraw
    have hdrift := h.last interval hinterval
    have hmem : interval ∈ intervals := List.mem_of_getLast? hinterval
    have hwithin := (accepts_interval_iff.mp (h.fields interval hmem)).2.2.2.2.2.2.2.2.2.2.2
    have hduration := h.recorded interval hmem
    simp only [RawQuestionInterval.ofInterval]
    omega

/-- The numbers of a stored list are natural. -/
theorem exists_intervals_of_stored {raws : List RawQuestionInterval} {d m : ℤ}
    (h : StoredTimeline questionIds d m raws) :
    ∃ intervals : List ProofQuestionInterval,
      raws = intervals.map RawQuestionInterval.ofInterval := by
  have hall : ∀ raw ∈ raws, ∃ interval, raw = RawQuestionInterval.ofInterval interval := by
    intro raw hmem
    obtain ⟨before, after, hsplit⟩ := List.append_of_mem hmem
    have hstored := h.intervals before raw after hsplit
    have hnonneg : 0 ≤ raw.ordinal ∧ 0 ≤ raw.startMs ∧ 0 ≤ raw.endMs ∧
        0 ≤ raw.recordedDurationMs := by
      have hordinal := hstored.ordinal
      have hstart := hstored.startMs
      have hpositive := hstored.positive
      have hwithin := hstored.within
      have hrecorded := hstored.recorded
      omega
    exact ⟨_, toInterval_eq_some_iff.mp (if_pos hnonneg)⟩
  clear h
  induction raws with
  | nil => exact ⟨[], rfl⟩
  | cons raw raws ih =>
      rw [List.forall_mem_cons] at hall
      obtain ⟨interval, rfl⟩ := hall.1
      obtain ⟨intervals, rfl⟩ := ih hall.2
      exact ⟨interval :: intervals, rfl⟩

/-- A list the trigger accepts is one the request accepts. -/
theorem accepted_of_stored {intervals : List ProofQuestionInterval}
    (hcount : questionIds.length ≤ 5) (hids : ∀ id ∈ questionIds, isUuid id = true)
    (hdistinct : questionIds.Nodup) (hduration : recordingDurationMs ≤ 480000)
    (h : StoredTimeline questionIds recordingDurationMs 120000
      (intervals.map RawQuestionInterval.ofInterval)) :
    AcceptedTimeline questionIds recordingDurationMs intervals := by
  have hlength : intervals.length = questionIds.length := by
    rw [← h.questionIds_eq, List.length_map, List.length_map]
  have hids_eq : intervals.map ProofQuestionInterval.questionId = questionIds := by
    rw [← h.questionIds_eq, List.map_map]
    rfl
  have hpositive : 1 ≤ intervals.length := by
    refine List.length_pos_of_ne_nil fun hnil => h.nonempty ?_
    rw [hnil]
    rfl
  have hstored : ∀ before interval after, intervals = before ++ interval :: after →
      StoredInterval recordingDurationMs 120000
        (before.getLast?.map fun last => (last.endMs : ℤ))
        (RawQuestionInterval.ofInterval interval) before.length := by
    rintro before interval after rfl
    have hat := h.intervals (before.map RawQuestionInterval.ofInterval)
      (RawQuestionInterval.ofInterval interval)
      (after.map RawQuestionInterval.ofInterval) (by simp)
    rw [List.getLast?_map, Option.map_map, List.length_map] at hat
    exact hat
  have hrecorded : ∀ interval ∈ intervals,
      interval.recordedDurationMs = recordingDurationMs := by
    intro interval hmem
    obtain ⟨before, after, hsplit⟩ := List.append_of_mem hmem
    exact Int.ofNat_inj.mp (hstored before interval after hsplit).recorded
  exact {
    length := ⟨hpositive, hlength ▸ hcount⟩
    fields := by
      intro interval hmem
      obtain ⟨before, after, hsplit⟩ := List.append_of_mem hmem
      have hat := hstored before interval after hsplit
      have hid : isUuid interval.questionId = true :=
        hids _ (hids_eq ▸ List.mem_map_of_mem hmem)
      have hindex : before.length < intervals.length := by simp [hsplit]
      have hordinal := hat.ordinal
      have hstart := hat.positive
      have hwithin := hat.within
      have hduration := hat.recorded
      simp only [RawQuestionInterval.ofInterval] at hordinal hstart hwithin hduration
      rw [accepts_interval_iff]
      exact ⟨hat.schemaVersion, hat.intervalVersion, hid, by omega, by omega, by omega, by omega,
        by omega, by omega, hat.source, by omega, by omega⟩
    order := by
      intro i hi
      have hsplit : intervals = intervals.take i ++ intervals[i] :: intervals.drop (i + 1) := by
        rw [List.cons_getElem_drop_succ, List.take_append_drop]
      have hat := hstored _ _ _ hsplit
      have htake : (intervals.take i).length = i := List.length_take_of_le hi.le
      have hordinal := hat.ordinal
      rw [htake] at hordinal
      exact {
        ordinal := Int.ofNat_inj.mp hordinal
        fresh := by
          intro hmem
          rw [← hids_eq, hsplit, List.map_append, List.map_cons] at hdistinct
          exact (List.nodup_append.mp hdistinct).2.2 _ hmem _ List.mem_cons_self rfl
        contiguous := by
          intro previousEnd hprevious
          rw [Option.mem_def, Option.map_eq_some_iff] at hprevious
          obtain ⟨last, hlast, rfl⟩ := hprevious
          have heq := hat.contiguous last.endMs (by rw [hlast]; rfl)
          exact (Int.ofNat_inj.mp heq).symm
        duration := by
          intro _
          have hne : intervals ≠ [] := List.ne_nil_of_length_pos hpositive
          rw [List.head?_eq_some_head hne, Option.map_some,
            hrecorded _ (List.head_mem hne), hrecorded _ (List.getElem_mem hi)] }
    questionIds_eq := hids_eq
    recorded := hrecorded
    answer := by
      intro interval hmem
      obtain ⟨before, after, hsplit⟩ := List.append_of_mem hmem
      have hanswer := (hstored before interval after hsplit).answer
      simp only [RawQuestionInterval.ofInterval] at hanswer
      omega
    first := by
      intro interval hmem
      have hfirst := h.first (RawQuestionInterval.ofInterval interval)
        (by rw [List.head?_map, Option.mem_def.mp hmem]; rfl)
      exact Int.ofNat_le.mp hfirst
    last := by
      intro interval hmem
      have hlast := h.last (RawQuestionInterval.ofInterval interval)
        (by rw [List.getLast?_map, Option.mem_def.mp hmem]; rfl)
      simp only [RawQuestionInterval.ofInterval] at hlast
      omega }

end Agreement

end Db

end UnderstandProof
