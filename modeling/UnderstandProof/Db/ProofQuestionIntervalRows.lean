import UnderstandProof.Db.ProofQuestionIntervals

/-!
# What the interval trigger accepts

On a list of objects with the eight fields of an interval, strings and integers in
their places, the three-valued conditions of the trigger come down to
`StoredInterval`, and the trigger to `StoredTimeline`.
-/

open Foundation

namespace UnderstandProof

namespace Db

open Media (ProofQuestionInterval)

/-- An object with exactly the fields of an interval. -/
structure RawQuestionInterval where
  schemaVersion : JsString
  intervalVersion : JsString
  questionId : JsString
  ordinal : ℤ
  startMs : ℤ
  endMs : ℤ
  recordedDurationMs : ℤ
  source : JsString
  deriving DecidableEq, Repr

/-- The object as it is stored. -/
def RawQuestionInterval.jsonb (raw : RawQuestionInterval) : Jsonb :=
  .obj [(js "endMs", .num raw.endMs), (js "source", .str raw.source),
    (js "ordinal", .num raw.ordinal), (js "startMs", .num raw.startMs),
    (js "questionId", .str raw.questionId), (js "schemaVersion", .str raw.schemaVersion),
    (js "intervalVersion", .str raw.intervalVersion),
    (js "recordedDurationMs", .num raw.recordedDurationMs)]

def RawQuestionInterval.ofInterval (interval : ProofQuestionInterval) :
    RawQuestionInterval where
  schemaVersion := interval.schemaVersion
  intervalVersion := interval.intervalVersion
  questionId := interval.questionId
  ordinal := interval.ordinal
  startMs := interval.startMs
  endMs := interval.endMs
  recordedDurationMs := interval.recordedDurationMs
  source := interval.source

theorem ofJson_toJson (interval : ProofQuestionInterval) :
    Jsonb.ofJson interval.toJson = (RawQuestionInterval.ofInterval interval).jsonb := by
  rfl

/-! ## The texts of the integers -/

theorem head_decimal_ne_zero {n : ℕ} (hn : n ≠ 0) :
    ((JsString.decimal n).head?.any fun c => decide (c ≠ 0x30)) = true := by
  have hne : Nat.digits 10 n ≠ [] := Nat.digits_ne_nil_iff_ne_zero.mpr hn
  have hlast : (Nat.digits 10 n).getLast hne ≠ 0 := Nat.getLast_digit_ne_zero 10 hn
  have hlt : (Nat.digits 10 n).getLast hne < 10 :=
    Nat.digits_lt_base (by omega) (List.getLast_mem hne)
  have hdigit : ∀ d < 10, d ≠ 0 → UInt16.ofNat (0x30 + d) ≠ 0x30 := by decide
  rw [JsString.decimal, if_neg hn, List.head?_map, List.head?_reverse,
    List.getLast?_eq_some_getLast hne, Option.map_some, Option.any_some, decide_eq_true_eq]
  exact hdigit _ hlt hlast

theorem isPositiveText_printInteger (n : ℤ) :
    isPositiveText (Jsonb.printInteger n) = decide (0 < n) := by
  have hdigits : ∀ m, (JsString.decimal m).all Json.isDigit = true :=
    fun m => List.all_eq_true.mpr fun c hc => Json.isDigit_of_mem_decimal hc
  rw [Jsonb.printInteger, isPositiveText]
  rcases lt_trichotomy n 0 with hneg | rfl | hpos
  · rw [if_pos hneg, List.all_cons, decide_eq_false (by omega)]
    rfl
  · rfl
  · rw [if_neg (by omega), hdigits, head_decimal_ne_zero (by omega),
      decide_eq_true hpos]
    rfl

theorem isNaturalText_printInteger (n : ℤ) :
    isNaturalText (Jsonb.printInteger n) = decide (0 ≤ n) := by
  have hpositive := isPositiveText_printInteger n
  rw [isPositiveText] at hpositive
  rw [isNaturalText, hpositive]
  rcases lt_trichotomy n 0 with hneg | rfl | hpos
  · have hzero : (Jsonb.printInteger n == js "0") = false := by
      rw [Jsonb.printInteger, if_pos hneg, beq_eq_false_iff_ne]
      intro h
      exact absurd (List.cons.inj h).1 (by decide)
    rw [hzero, decide_eq_false (by omega), decide_eq_false (by omega)]
    rfl
  · rfl
  · rw [decide_eq_true hpos, decide_eq_true hpos.le, Bool.or_true]

/-! ## The conditions on one interval -/

/-- A condition that is neither true nor fails. -/
def Passes (c : Sql Bool) : Prop := ∃ value, c = .ok value ∧ value ≠ some true

theorem passes_ok (b : Bool) : Passes (.ok (some b)) ↔ b = false := by
  constructor
  · rintro ⟨_, ⟨⟩, hne⟩
    simpa using hne
  · rintro rfl
    exact ⟨_, rfl, by simp⟩

theorem passes_differs (text value : JsString) :
    Passes (differs (some text) value) ↔ text = value := by
  rw [differs, Option.map_some, passes_ok]
  simp

/-- The number of an integer field. -/
def storedInteger (n : ℤ) : Sql ℤ :=
  if isInteger n then .ok (some n) else .error .outOfRange

theorem passes_compare (op : ℤ → ℤ → Bool) (a b : ℤ) :
    Passes (Sql.compare op (storedInteger a) (storedInteger b)) ↔
      isInteger a = true ∧ isInteger b = true ∧ op a b = false := by
  unfold storedInteger
  by_cases ha : isInteger a = true
  · by_cases hb : isInteger b = true
    · rw [if_pos ha, if_pos hb]
      exact (passes_ok _).trans (by simp [ha, hb])
    · rw [if_pos ha, if_neg hb]
      exact ⟨(fun ⟨_, h, _⟩ => nomatch h), fun h => absurd h.2.1 hb⟩
  · rw [if_neg ha]
    exact ⟨(fun ⟨_, h, _⟩ => nomatch h), fun h => absurd h.1 ha⟩

theorem passes_compare_value (op : ℤ → ℤ → Bool) (a b : ℤ) :
    Passes (Sql.compare op (storedInteger a) (.ok (some b))) ↔
      isInteger a = true ∧ op a b = false := by
  unfold storedInteger
  by_cases ha : isInteger a = true
  · rw [if_pos ha]
    exact (passes_ok _).trans (by simp [ha])
  · rw [if_neg ha]
    exact ⟨(fun ⟨_, h, _⟩ => nomatch h), fun h => absurd h.1 ha⟩

section Fields

variable (raw : RawQuestionInterval)

theorem intervalText_jsonb :
    intervalText "schemaVersion" raw.jsonb = some raw.schemaVersion ∧
    intervalText "intervalVersion" raw.jsonb = some raw.intervalVersion ∧
    intervalText "source" raw.jsonb = some raw.source ∧
    intervalText "questionId" raw.jsonb = some raw.questionId ∧
    intervalText "ordinal" raw.jsonb = some (Jsonb.printInteger raw.ordinal) ∧
    intervalText "startMs" raw.jsonb = some (Jsonb.printInteger raw.startMs) ∧
    intervalText "endMs" raw.jsonb = some (Jsonb.printInteger raw.endMs) ∧
    intervalText "recordedDurationMs" raw.jsonb =
      some (Jsonb.printInteger raw.recordedDurationMs) :=
  ⟨rfl, rfl, rfl, rfl, rfl, rfl, rfl, rfl⟩

theorem intervalInteger_jsonb :
    intervalInteger "ordinal" raw.jsonb = storedInteger raw.ordinal ∧
    intervalInteger "startMs" raw.jsonb = storedInteger raw.startMs ∧
    intervalInteger "endMs" raw.jsonb = storedInteger raw.endMs ∧
    intervalInteger "recordedDurationMs" raw.jsonb = storedInteger raw.recordedDurationMs :=
  ⟨castInteger_num _, castInteger_num _, castInteger_num _, castInteger_num _⟩

end Fields

/-- An interval that the trigger accepts at an index, behind an interval that ends
at `previousEnd`. -/
structure StoredInterval (recordedDurationMs maximumQuestionDurationMs : ℤ)
    (previousEnd : Option ℤ) (raw : RawQuestionInterval) (index : ℕ) : Prop where
  schemaVersion : raw.schemaVersion = js "1"
  intervalVersion : raw.intervalVersion = js "proof-question-interval-v1"
  source : raw.source = js "mobile_navigation_v1"
  questionId : Media.CanonicalUuidSchema.accepts raw.questionId = true
  ordinal : raw.ordinal = index
  startMs : 0 ≤ raw.startMs
  positive : raw.startMs < raw.endMs
  recorded : raw.recordedDurationMs = recordedDurationMs
  within : raw.endMs ≤ recordedDurationMs
  answer : raw.endMs - raw.startMs ≤ maximumQuestionDurationMs
  contiguous : ∀ previous ∈ previousEnd, raw.startMs = previous
  integers : isInteger raw.ordinal = true ∧ isInteger raw.startMs = true ∧
    isInteger raw.endMs = true ∧ isInteger raw.recordedDurationMs = true

section Conditions

variable {row : ProofQuestionIntervalSet} {before after : List RawQuestionInterval}
  {raw : RawQuestionInterval}

/-- The condition that looks at the interval in front. -/
theorem passes_contiguous
    (hrow : row.intervals = .arr ((before ++ raw :: after).map RawQuestionInterval.jsonb)) :
    Passes (if before.length = 0 then .ok (some false)
      else Sql.compare (fun a b => a ≠ b) (intervalInteger "startMs" raw.jsonb)
        (castInteger (Jsonb.fieldText (js "endMs")
          (Jsonb.item (before.length - 1) (some row.intervals))))) ↔
      ∀ previous ∈ before.getLast?.map RawQuestionInterval.endMs,
        isInteger raw.startMs = true ∧ raw.startMs = previous := by
  induction before using List.reverseRecOn with
  | nil =>
      rw [if_pos List.length_nil, passes_ok]
      simp
  | append_singleton before previous =>
      have hitem : Jsonb.item (before ++ [previous]).length.pred (some row.intervals) =
          some previous.jsonb := by
        rw [hrow, Jsonb.item]
        simp
      have hinteger : castInteger (Jsonb.fieldText (js "endMs") (some previous.jsonb)) =
          storedInteger previous.endMs := castInteger_num _
      rw [if_neg (by simp), ← Nat.pred_eq_sub_one, hitem, hinteger,
        (intervalInteger_jsonb raw).2.1, passes_compare]
      simp only [List.getLast?_append, List.getLast?_singleton, Option.some_or, Option.map_some,
        Option.mem_def, Option.some.injEq, forall_eq', decide_eq_false_iff_not, not_not]
      constructor
      · rintro ⟨hstart, -, heq⟩
        exact ⟨hstart, heq⟩
      · rintro ⟨hstart, heq⟩
        exact ⟨hstart, heq ▸ hstart, heq⟩

/-- No condition on the interval is true. -/
theorem anyTrue_conditions_iff
    (hrow : row.intervals = .arr ((before ++ raw :: after).map RawQuestionInterval.jsonb)) :
    Sql.anyTrue (invalidIntervalConditions row raw.jsonb before.length) = .ok false ↔
      StoredInterval row.recordedDurationMs row.maximumQuestionDurationMs
        (before.getLast?.map RawQuestionInterval.endMs) raw before.length := by
  obtain ⟨hversion, hinterval, hsource, hid, hordinal, hstart, hend, hrecorded⟩ :=
    intervalText_jsonb raw
  obtain ⟨iordinal, istart, iend, irecorded⟩ := intervalInteger_jsonb raw
  have hcontiguous := passes_contiguous hrow
  rw [Sql.anyTrue_eq_false_iff, invalidIntervalConditions]
  simp only [List.forall_mem_cons, ← Passes.eq_1, List.not_mem_nil, false_implies,
    implies_true, and_true]
  rw [hcontiguous, hversion, hinterval, hsource, hid, hordinal, hstart, hend, hrecorded,
    iordinal, istart, iend, irecorded]
  simp only [passes_ok, passes_differs, passes_compare, passes_compare_value, Option.getD_some,
    isNaturalText_printInteger, isPositiveText_printInteger, Bool.not_eq_false',
    decide_eq_true_eq, decide_eq_false_iff_not, not_not]
  constructor
  · rintro ⟨-, -, hversion, hinterval, hsource, hid, -, ⟨hint, hordinal⟩, hstart, hend, -,
      ⟨hint', hrecorded⟩, ⟨hint'', hint₃, hpositive⟩, ⟨-, hwithin⟩, ⟨-, -, hanswer⟩, hprevious⟩
    exact {
      schemaVersion := hversion
      intervalVersion := hinterval
      source := hsource
      questionId := hid
      ordinal := hordinal
      startMs := hstart
      positive := not_le.mp hpositive
      recorded := hrecorded
      within := not_lt.mp hwithin
      answer := not_lt.mp hanswer
      contiguous := fun previous hmem => (hprevious previous hmem).2
      integers := ⟨hint, hint'', hint₃, hint'⟩ }
  · intro h
    obtain ⟨hint, hint', hint'', hint₃⟩ := h.integers
    have hstart := h.startMs
    have hpositive := h.positive
    have hwithin := h.within
    have hrecorded := h.recorded
    exact ⟨rfl, (passes_ok _).mpr rfl, h.schemaVersion, h.intervalVersion, h.source, h.questionId,
      h.ordinal ▸ Int.natCast_nonneg _, ⟨hint, h.ordinal⟩, hstart, by omega, by omega,
      ⟨hint₃, hrecorded⟩, ⟨hint', hint'', not_le.mpr hpositive⟩, ⟨hint'', not_lt.mpr hwithin⟩,
      ⟨hint'', hint', not_lt.mpr h.answer⟩,
      fun previous hmem => ⟨hint', h.contiguous previous hmem⟩⟩

end Conditions

/-! ## The conditions on the list -/

/-- No element of the list counts as invalid. -/
theorem mapM_count_eq_zero_iff {α : Type} {f : α → Except SqlError Bool} {l : List α} :
    (∃ r, l.mapM f = .ok r ∧ r.count true = 0) ↔ ∀ a ∈ l, f a = .ok false := by
  induction l with
  | nil => exact ⟨fun _ a ha => absurd ha List.not_mem_nil, fun _ => ⟨[], rfl, rfl⟩⟩
  | cons a l ih =>
      rw [List.forall_mem_cons, ← ih]
      simp only [List.mapM_cons, bind_eq_ok, except_pure, Except.ok.injEq]
      constructor
      · rintro ⟨r, ⟨b, hb, rest, hrest, rfl⟩, hcount⟩
        rw [List.count_cons] at hcount
        cases b with
        | true => simp at hcount
        | false => exact ⟨hb, rest, hrest, by simpa using hcount⟩
      · rintro ⟨hb, rest, hrest, hcount⟩
        exact ⟨false :: rest, ⟨false, hb, rest, hrest, rfl⟩, by simpa using hcount⟩

/-- A list of intervals that the trigger accepts. -/
structure StoredTimeline (questionIds : List JsString)
    (recordedDurationMs maximumQuestionDurationMs : ℤ) (raws : List RawQuestionInterval) :
    Prop where
  questionIds_eq : raws.map RawQuestionInterval.questionId = questionIds
  nonempty : raws ≠ []
  intervals : ∀ before raw after, raws = before ++ raw :: after →
    StoredInterval recordedDurationMs maximumQuestionDurationMs
      (before.getLast?.map RawQuestionInterval.endMs) raw before.length
  first : ∀ raw ∈ raws.head?, raw.startMs ≤ 1000
  last : ∀ raw ∈ raws.getLast?, 0 ≤ recordedDurationMs - raw.endMs ∧
    recordedDurationMs - raw.endMs ≤ 1000

theorem mem_zipIdx_iff_split {α : Type} {l : List α} {a : α} {i : ℕ} :
    (a, i) ∈ l.zipIdx ↔ ∃ before after, l = before ++ a :: after ∧ before.length = i := by
  rw [List.mem_zipIdx_iff_getElem?]
  constructor
  · intro h
    obtain ⟨hi, ha⟩ := List.getElem?_eq_some_iff.mp h
    dsimp only at hi ha
    refine ⟨l.take i, l.drop (i + 1), ?_, List.length_take_of_le hi.le⟩
    rw [← ha, List.cons_getElem_drop_succ, List.take_append_drop]
  · rintro ⟨before, after, rfl, rfl⟩
    simp

section Aggregate

variable {row : ProofQuestionIntervalSet} {raws : List RawQuestionInterval}

/-- No interval is counted as invalid. -/
theorem invalidIntervals_iff
    (hrow : row.intervals = .arr (raws.map RawQuestionInterval.jsonb)) :
    (∃ invalid, (raws.map RawQuestionInterval.jsonb).zipIdx.mapM (fun entry =>
        Sql.anyTrue (invalidIntervalConditions row entry.1 entry.2)) = .ok invalid ∧
      invalid.count true = 0) ↔
      ∀ before raw after, raws = before ++ raw :: after →
        StoredInterval row.recordedDurationMs row.maximumQuestionDurationMs
          (before.getLast?.map RawQuestionInterval.endMs) raw before.length := by
  rw [mapM_count_eq_zero_iff]
  constructor
  · rintro h before raw after rfl
    refine (anyTrue_conditions_iff hrow).mp (h (raw.jsonb, before.length) ?_)
    rw [mem_zipIdx_iff_split]
    exact ⟨before.map RawQuestionInterval.jsonb, after.map RawQuestionInterval.jsonb, by simp,
      List.length_map _⟩
  · rintro h ⟨item, index⟩ hmem
    obtain ⟨before, after, hsplit, rfl⟩ := mem_zipIdx_iff_split.mp hmem
    obtain ⟨before, rest, rfl, rfl, hrest⟩ := List.map_eq_append_iff.mp hsplit
    obtain ⟨raw, after, rfl, rfl, -⟩ := List.map_eq_cons_iff.mp hrest
    dsimp only
    rw [List.length_map]
    exact (anyTrue_conditions_iff hrow).mpr (h before raw after rfl)

theorem castInteger_startMs (o : Option RawQuestionInterval) :
    castInteger (Jsonb.fieldText (js "startMs") (o.map RawQuestionInterval.jsonb)) =
      o.elim (.ok none) fun raw => storedInteger raw.startMs := by
  cases o with
  | none => rfl
  | some raw => exact castInteger_num _

theorem castInteger_endMs (o : Option RawQuestionInterval) :
    castInteger (Jsonb.fieldText (js "endMs") (o.map RawQuestionInterval.jsonb)) =
      o.elim (.ok none) fun raw => storedInteger raw.endMs := by
  cases o with
  | none => rfl
  | some raw => exact castInteger_num _

theorem storedInteger_eq_ok {n : ℤ} {value : Option ℤ} (h : storedInteger n = .ok value) :
    value = some n := by
  unfold storedInteger at h
  split at h
  · exact (Except.ok.inj h).symm
  · cases h

theorem questionIds_eq_iff (ids : List JsString) :
    ((if raws.map RawQuestionInterval.jsonb = [] then none
      else some (Jsonb.arr ((raws.map RawQuestionInterval.jsonb).map fun item =>
        (Jsonb.field (js "questionId") (some item)).getD .null))) =
      some (Jsonb.arr (ids.map Jsonb.str))) ↔
      raws ≠ [] ∧ raws.map RawQuestionInterval.questionId = ids := by
  have hmap : ((raws.map RawQuestionInterval.jsonb).map fun item =>
      (Jsonb.field (js "questionId") (some item)).getD .null) =
      (raws.map RawQuestionInterval.questionId).map Jsonb.str := by
    rw [List.map_map, List.map_map]
    rfl
  have hinj : Function.Injective Jsonb.str := fun a b h => by injection h
  by_cases hempty : raws = []
  · simp [hempty]
  · rw [if_neg (by simpa using hempty), hmap, Option.some.injEq, Jsonb.arr.injEq,
      List.map_inj_right fun _ _ h => hinj h]
    exact (and_iff_right hempty).symm

/-- The aggregate of the trigger finds nothing wrong. -/
theorem intervalAggregate_ok_iff (ids : List JsString)
    (hrow : row.intervals = .arr (raws.map RawQuestionInterval.jsonb)) :
    (∃ aggregate, intervalAggregate row = .ok aggregate ∧
      aggregate.questionIds = some (.arr (ids.map Jsonb.str)) ∧
      aggregate.invalidIntervalCount = 0 ∧
      (¬ ∃ start ∈ aggregate.firstStartMs, 1000 < start) ∧
      ¬ ∃ finalEnd ∈ aggregate.finalEndMs,
        ¬ (0 ≤ row.recordedDurationMs - finalEnd ∧
          row.recordedDurationMs - finalEnd ≤ 1000)) ↔
      StoredTimeline ids row.recordedDurationMs row.maximumQuestionDurationMs raws := by
  have hitem : Jsonb.item 0 (some row.intervals) = raws.head?.map RawQuestionInterval.jsonb := by
    rw [hrow, Jsonb.item, List.getElem?_map, List.head?_eq_getElem?]
  have helements : arrayElements row.intervals = .ok (raws.map RawQuestionInterval.jsonb) := by
    rw [hrow, arrayElements]
  simp only [intervalAggregate, helements, hitem, except_ok_bind, List.getLast?_map,
    castInteger_startMs, castInteger_endMs, bind_eq_ok, except_pure, Except.ok.injEq]
  constructor
  · rintro ⟨-, ⟨invalid, hinvalid, start, hstart, finalEnd, hfinal, rfl⟩, hids, hcount, hfirst,
      hlast⟩
    obtain ⟨hne, hids⟩ := (questionIds_eq_iff ids).mp hids
    exact {
      questionIds_eq := hids
      nonempty := hne
      intervals := (invalidIntervals_iff hrow).mp ⟨invalid, hinvalid, hcount⟩
      first := by
        intro raw hraw
        rw [Option.mem_def.mp hraw] at hstart
        have hvalue := storedInteger_eq_ok hstart
        exact not_lt.mp fun hlt => hfirst ⟨raw.startMs, hvalue, hlt⟩
      last := by
        intro raw hraw
        rw [Option.mem_def.mp hraw] at hfinal
        have hvalue := storedInteger_eq_ok hfinal
        exact not_not.mp fun hnot => hlast ⟨raw.endMs, hvalue, hnot⟩ }
  · intro h
    obtain ⟨invalid, hinvalid, hcount⟩ := (invalidIntervals_iff hrow).mpr h.intervals
    obtain ⟨first, rest, hfirst⟩ := List.exists_cons_of_ne_nil h.nonempty
    obtain ⟨before, last, hlast⟩ := List.eq_nil_or_concat' raws |>.resolve_left h.nonempty
    have hheadInteger := (h.intervals [] first rest hfirst).integers.2.1
    have hlastInteger := (h.intervals before last [] hlast).integers.2.2.1
    have hhead : raws.head? = some first := by rw [hfirst, List.head?_cons]
    have hend : raws.getLast? = some last := by rw [hlast, List.getLast?_concat]
    have hstart : storedInteger first.startMs = .ok (some first.startMs) :=
      if_pos hheadInteger
    have hfinal : storedInteger last.endMs = .ok (some last.endMs) := if_pos hlastInteger
    refine ⟨_, ⟨invalid, hinvalid, some first.startMs, by rw [hhead]; exact hstart,
      some last.endMs, by rw [hend]; exact hfinal, rfl⟩,
      (questionIds_eq_iff ids).mpr ⟨h.nonempty, h.questionIds_eq⟩, hcount, ?_, ?_⟩
    · rintro ⟨start, hmem, hlt⟩
      obtain rfl : first.startMs = start := Option.some.inj hmem
      exact absurd (h.first first hhead) (not_le.mpr hlt)
    · rintro ⟨finalEnd, hmem, hnot⟩
      obtain rfl : last.endMs = finalEnd := Option.some.inj hmem
      exact hnot (h.last last hend)

end Aggregate

end Db

end UnderstandProof
