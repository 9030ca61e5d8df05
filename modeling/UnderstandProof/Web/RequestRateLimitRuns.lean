import UnderstandProof.Web.RequestRateLimit

/-!
# Runs of the request rate limit

A run is a list of the two statements in the order of the database, so it covers
every interleaving of reservations: the advisory lock keeps the decisions of one
action apart, and a cleanup touches the rows of every action. Beside the table
stands the log of all admitted events. The invariant is that the table and the log
agree on the events that still count, which no cleanup can change because a row
outlives its window; the bounds and the advice to wait follow from the log.
-/

open Foundation Foundation.SlidingWindow

namespace UnderstandProof

namespace Web

/-- One statement of a reservation. -/
inductive RateLimitStatement where
  | cleanup (clock : CleanupClock)
  | decide (action : WebRequestRateLimitAction) (subjectKeyHash : JsString) (occurredAt : ℤ)

/-- When the statement is done. -/
def RateLimitStatement.time : RateLimitStatement → ℤ
  | .cleanup clock => clock.finishedAt
  | .decide _ _ occurredAt => occurredAt

/-- The table and all events that have been admitted, in their order. -/
structure RateLimitHistory where
  table : RateLimitTable
  log : List RateLimitEvent

def RateLimitHistory.start : RateLimitHistory := ⟨.empty, []⟩

def RateLimitHistory.step (history : RateLimitHistory) :
    RateLimitStatement → RateLimitHistory
  | .cleanup clock => { history with table := history.table.cleanup clock }
  | .decide action subjectKeyHash occurredAt =>
      let decision := history.table.decide action subjectKeyHash occurredAt
      { table := decision.1
        log := match decision.2 with
          | .admitted => history.log ++ [⟨action, subjectKeyHash, occurredAt⟩]
          | _ => history.log }

/-- The history after the statements. -/
def RateLimitHistory.run (statements : List RateLimitStatement) : RateLimitHistory :=
  statements.foldl RateLimitHistory.step RateLimitHistory.start

/-- The statements run at times of a clock that does not go back. -/
def Chronological (statements : List RateLimitStatement) : Prop :=
  (statements.map RateLimitStatement.time).Pairwise (· ≤ ·)

instance : DecidablePred Chronological := fun _ => inferInstanceAs (Decidable (List.Pairwise _ _))

/-- The length of the window of an action. -/
def windowLength (action : WebRequestRateLimitAction) : ℤ :=
  (webRequestRateLimitPolicies action).windowSeconds * second

/-- The times of the selected events. -/
def timesOf (selected : RateLimitEvent → Bool) (events : List RateLimitEvent) : List ℤ :=
  (events.filter selected).map fun event => event.occurredAt

def ofSubject (action : WebRequestRateLimitAction) (subjectKeyHash : JsString)
    (event : RateLimitEvent) : Bool :=
  event.action = action ∧ event.subjectKeyHash = subjectKeyHash

def ofAction (action : WebRequestRateLimitAction) (event : RateLimitEvent) : Bool :=
  event.action = action

/-- The number of selected events in the window of the action that ends at `now`. -/
def countIn (action : WebRequestRateLimitAction) (selected : RateLimitEvent → Bool) (now : ℤ)
    (events : List RateLimitEvent) : ℕ :=
  (recent (windowLength action) now (timesOf selected events)).length

/-- The event counts for its own action at `now`. -/
def Counts (now : ℤ) (event : RateLimitEvent) : Prop :=
  now - windowLength event.action < event.occurredAt

instance (now : ℤ) : DecidablePred (Counts now) := fun _ => inferInstanceAs (Decidable (_ < _))

theorem Counts.mono {now later : ℤ} {event : RateLimitEvent} (h : Counts later event)
    (hle : now ≤ later) : Counts now event := by
  unfold Counts at *
  omega

/-! ## The counted rows -/

/-- The invariant of a run up to `now`. -/
structure Exact (history : RateLimitHistory) (now : ℤ) : Prop where
  log_le : ∀ event ∈ history.log, event.occurredAt ≤ now
  expiresAt : ∀ row ∈ history.table.rows, row.expiresAt =
    row.occurredAt + (webRequestRateLimitPolicies row.action).retentionSeconds * second
  id_lt : ∀ row ∈ history.table.rows, row.id < history.table.nextId
  id_nodup : (history.table.rows.map RateLimitRow.id).Nodup
  counted : (history.table.rows.map RateLimitRow.toRateLimitEvent).filter (Counts now ·) =
    history.log.filter (Counts now ·)
  subject_le : ∀ action subjectKeyHash t,
    countIn action (ofSubject action subjectKeyHash) t history.log ≤
      (webRequestRateLimitPolicies action).maximumEvents
  global_le : ∀ action t, countIn action (ofAction action) t history.log ≤
    (webRequestRateLimitPolicies action).globalMaximumEvents

theorem Exact.start (now : ℤ) : Exact .start now := by
  refine ⟨?_, ?_, ?_, List.nodup_nil, rfl, fun _ _ _ => Nat.zero_le _, fun _ _ => Nat.zero_le _⟩
  · intro event h
    cases h
  · intro row h
    cases h
  · intro row h
    cases h

/-- Time may pass. -/
theorem Exact.later {history : RateLimitHistory} {now later : ℤ} (h : Exact history now)
    (hle : now ≤ later) : Exact history later := by
  refine { h with log_le := fun event hevent => (h.log_le event hevent).trans hle, counted := ?_ }
  have hsub : ∀ events : List RateLimitEvent, events.filter (Counts later ·) =
      (events.filter (Counts now ·)).filter (Counts later ·) := by
    intro events
    rw [List.filter_filter]
    apply List.filter_congr
    intro event _
    rw [Bool.eq_iff_iff, Bool.and_eq_true, decide_eq_true_eq, decide_eq_true_eq]
    exact ⟨fun hc => ⟨hc, hc.mono hle⟩, And.left⟩
  rw [hsub, h.counted, ← hsub]

/-- A policy retains a row for longer than it counts. -/
theorem policy_bounds (action : WebRequestRateLimitAction) :
    0 < (webRequestRateLimitPolicies action).maximumEvents ∧
      0 < (webRequestRateLimitPolicies action).globalMaximumEvents ∧
      1 ≤ (webRequestRateLimitPolicies action).windowSeconds ∧
      (webRequestRateLimitPolicies action).windowSeconds ≤ maxSafeInteger ∧
      (webRequestRateLimitPolicies action).windowSeconds <
        (webRequestRateLimitPolicies action).retentionSeconds := by
  cases action <;> decide

/-- A row that a cleanup deletes does not count any more when the cleanup is done. -/
theorem Exact.not_counts_of_deleted {history : RateLimitHistory} {now : ℤ}
    (h : Exact history now) {clock : CleanupClock} {row : RateLimitRow}
    (hrow : row ∈ history.table.rows) (hdeleted : row ∉ (history.table.cleanup clock).rows) :
    ¬ Counts clock.finishedAt row.toRateLimitEvent := by
  have hid : row.id ∈ (expiredBatch clock history.table.rows).map RateLimitRow.id := by
    by_contra hid
    exact hdeleted (List.mem_filter.mpr ⟨hrow, by simpa using hid⟩)
  obtain ⟨expired, hexpired, hsame⟩ := List.mem_map.mp hid
  have hmem := (List.mem_insertionSort _).mp (List.mem_of_mem_take hexpired)
  obtain ⟨hexpiredRow, htime⟩ := List.mem_filter.mp hmem
  obtain rfl : expired = row := List.inj_on_of_nodup_map h.id_nodup hexpiredRow hrow hsame
  rw [decide_eq_true_eq] at htime
  have hreading := clock.reading_le expired
  have hexpires := h.expiresAt expired hrow
  obtain ⟨-, -, -, -, hretention⟩ := policy_bounds expired.action
  rw [Counts, windowLength]
  have hlonger : ((webRequestRateLimitPolicies expired.action).windowSeconds : ℤ) * second ≤
      (webRequestRateLimitPolicies expired.action).retentionSeconds * second :=
    mul_le_mul_of_nonneg_right (by exact_mod_cast hretention.le) (by decide)
  omega

/-- A cleanup keeps the invariant. -/
theorem Exact.cleanup {history : RateLimitHistory} {now : ℤ} (h : Exact history now)
    (clock : CleanupClock) (hle : now ≤ clock.finishedAt) :
    Exact (history.step (.cleanup clock)) clock.finishedAt := by
  have hlater := h.later hle
  have hsublist : (history.table.cleanup clock).rows.Sublist history.table.rows :=
    List.filter_sublist
  refine { hlater with
    expiresAt := fun row hrow => hlater.expiresAt row (hsublist.subset hrow)
    id_lt := fun row hrow => hlater.id_lt row (hsublist.subset hrow)
    id_nodup := hlater.id_nodup.sublist (hsublist.map _)
    counted := ?_ }
  have hcounted := hlater.counted
  rw [List.filter_map] at hcounted ⊢
  refine Eq.trans (congrArg _ ?_) hcounted
  simp only [RateLimitHistory.step, RateLimitTable.cleanup, List.filter_filter]
  apply List.filter_congr
  intro row hrow
  rw [Bool.eq_iff_iff, Bool.and_eq_true]
  refine ⟨And.left, fun hcounts => ⟨hcounts, ?_⟩⟩
  by_contra hid
  have hdeleted : row ∉ (history.table.cleanup clock).rows → False := fun hdeleted =>
    h.not_counts_of_deleted hrow hdeleted (by simpa using hcounts)
  refine hdeleted ?_
  intro hmem
  exact hid (List.mem_filter.mp hmem).2

/-! ## The decision -/

/-- The rows of the window, as the log has them. -/
theorem Exact.selected_rows {history : RateLimitHistory} {now t : ℤ} (h : Exact history now)
    (hle : now ≤ t) {action : WebRequestRateLimitAction} {selected : RateLimitEvent → Bool}
    (hselected : ∀ event, selected event = true → event.action = action) :
    (history.table.rows.filter fun row => selected row.toRateLimitEvent &&
        decide (t - windowLength action < row.occurredAt)).map
          (fun row => row.occurredAt) =
      recent (windowLength action) t (timesOf selected history.log) := by
  have hfilter : ∀ events : List RateLimitEvent,
      events.filter (fun event => selected event &&
        decide (t - windowLength action < event.occurredAt)) =
      (events.filter (Counts t ·)).filter selected := by
    intro events
    rw [List.filter_filter]
    apply List.filter_congr
    intro event _
    rw [Bool.eq_iff_iff, Bool.and_eq_true, Bool.and_eq_true, decide_eq_true_eq,
      decide_eq_true_eq]
    refine and_congr_right fun hevent => ?_
    rw [Counts, hselected event hevent]
  have hlog : recent (windowLength action) t (timesOf selected history.log) =
      (history.log.filter fun event => selected event &&
        decide (t - windowLength action < event.occurredAt)).map
          fun event => event.occurredAt := by
    rw [recent, timesOf, List.filter_map, List.filter_filter]
    refine congrArg _ (List.filter_congr ?_)
    intro event hevent
    have htime := (h.log_le event hevent).trans hle
    simp only [Function.comp_apply, htime, and_true, Bool.and_comm]
  rw [hlog, hfilter, ← (h.later hle).counted, ← hfilter, List.filter_map, List.map_map]
  rfl

theorem action_of_ofSubject (action : WebRequestRateLimitAction) (subjectKeyHash : JsString)
    (event : RateLimitEvent) (h : ofSubject action subjectKeyHash event = true) :
    event.action = action := by
  rw [ofSubject, decide_eq_true_eq] at h
  exact h.1

theorem action_of_ofAction (action : WebRequestRateLimitAction) (event : RateLimitEvent)
    (h : ofAction action event = true) : event.action = action := by
  rwa [ofAction, decide_eq_true_eq] at h

theorem recentTimes_length {times : List ℤ} {limit : ℕ} :
    ((times.insertionSort (· ≤ ·)).take limit).length < limit ↔ times.length < limit := by
  rw [List.length_take, List.length_insertionSort]
  omega

/-- When as many rows as the limit are counted, the oldest of them is known. -/
theorem exists_min?_recentTimes {times : List ℤ} {limit : ℕ} (hlimit : 0 < limit)
    (h : limit ≤ ((times.insertionSort (· ≤ ·)).take limit).length) :
    ∃ oldest ∈ times, ((times.insertionSort (· ≤ ·)).take limit).min? = some oldest := by
  have hne : (times.insertionSort (· ≤ ·)).take limit ≠ [] :=
    List.ne_nil_of_length_pos (by omega)
  obtain ⟨oldest, holdest⟩ := Option.isSome_iff_exists.mp (List.isSome_min?_of_ne_nil hne)
  refine ⟨oldest, ?_, holdest⟩
  exact (List.mem_insertionSort _).mp (List.mem_of_mem_take (List.min?_mem holdest))

/-- The counts of a decision are those of the log. -/
structure CountsExact (history : RateLimitHistory) (action : WebRequestRateLimitAction)
    (subjectKeyHash : JsString) (t : ℤ) (counts : RateLimitCounts) : Prop where
  occurredAt : counts.occurredAt = t
  subject_lt : counts.subjectCount < (webRequestRateLimitPolicies action).maximumEvents ↔
    countIn action (ofSubject action subjectKeyHash) t history.log <
      (webRequestRateLimitPolicies action).maximumEvents
  global_lt : counts.globalCount < (webRequestRateLimitPolicies action).globalMaximumEvents ↔
    countIn action (ofAction action) t history.log <
      (webRequestRateLimitPolicies action).globalMaximumEvents
  subject_oldest : (webRequestRateLimitPolicies action).maximumEvents ≤ counts.subjectCount →
    ∃ oldest ∈ recent (windowLength action) t
      (timesOf (ofSubject action subjectKeyHash) history.log),
      counts.subjectOldest = some oldest
  global_oldest : (webRequestRateLimitPolicies action).globalMaximumEvents ≤
      counts.globalCount →
    ∃ oldest ∈ recent (windowLength action) t (timesOf (ofAction action) history.log),
      counts.globalOldest = some oldest

theorem Exact.counts {history : RateLimitHistory} {now t : ℤ} (h : Exact history now)
    (hle : now ≤ t) (action : WebRequestRateLimitAction) (subjectKeyHash : JsString) :
    CountsExact history action subjectKeyHash t
      (history.table.counts action subjectKeyHash t) := by
  obtain ⟨hsubject, hglobal, -⟩ := policy_bounds action
  have hsubjectTimes := h.selected_rows hle (action_of_ofSubject action subjectKeyHash)
  have hglobalTimes := h.selected_rows hle (action_of_ofAction action)
  refine ⟨rfl, ?_, ?_, ?_, ?_⟩
  · rw [countIn, ← hsubjectTimes]
    exact recentTimes_length
  · rw [countIn, ← hglobalTimes]
    exact recentTimes_length
  · intro hfull
    rw [← hsubjectTimes]
    exact exists_min?_recentTimes hsubject hfull
  · intro hfull
    rw [← hglobalTimes]
    exact exists_min?_recentTimes hglobal hfull

theorem le_ceilSeconds (difference : ℤ) : difference ≤ ceilSeconds difference * second := by
  rw [ceilSeconds, second]
  omega

/-- The wait is within the window, and when it is over the oldest counted event of
every full quota has left the window. -/
theorem CountsExact.retryAfterSeconds {history : RateLimitHistory}
    {action : WebRequestRateLimitAction} {subjectKeyHash : JsString} {t : ℤ}
    {counts : RateLimitCounts} (h : CountsExact history action subjectKeyHash t counts)
    (hfull : ¬ (counts.subjectCount < (webRequestRateLimitPolicies action).maximumEvents ∧
      counts.globalCount < (webRequestRateLimitPolicies action).globalMaximumEvents)) :
    let retryAfter := counts.retryAfterSeconds (webRequestRateLimitPolicies action)
    1 ≤ retryAfter ∧ retryAfter ≤ (webRequestRateLimitPolicies action).windowSeconds ∧
      ((webRequestRateLimitPolicies action).maximumEvents ≤ counts.subjectCount →
        ∃ oldest ∈ recent (windowLength action) t
          (timesOf (ofSubject action subjectKeyHash) history.log),
          oldest ≤ t + retryAfter * second - windowLength action) ∧
      ((webRequestRateLimitPolicies action).globalMaximumEvents ≤ counts.globalCount →
        ∃ oldest ∈ recent (windowLength action) t (timesOf (ofAction action) history.log),
          oldest ≤ t + retryAfter * second - windowLength action) := by
  obtain ⟨-, -, hwindow, -, -⟩ := policy_bounds action
  have hsubject := h.subject_oldest
  have hglobal := h.global_oldest
  have hat := h.occurredAt
  -- The wait covers every time at which a full quota has room again.
  have hcover : ∀ oldest time : ℤ, oldest ≤ t →
      oldest + (webRequestRateLimitPolicies action).windowSeconds * second ≤ time →
      oldest ≤ t + max 1 (min ((webRequestRateLimitPolicies action).windowSeconds : ℤ)
        (ceilSeconds (time - t))) * second - windowLength action := by
    intro oldest time hle htime
    have hceil := le_ceilSeconds (time - t)
    rw [windowLength]
    rcases le_total ((webRequestRateLimitPolicies action).windowSeconds : ℤ)
      (ceilSeconds (time - t)) with hmin | hmin
    · rw [min_eq_left hmin, max_eq_right (by exact_mod_cast hwindow)]
      omega
    · rw [min_eq_right hmin]
      have hmax := mul_le_mul_of_nonneg_right
        (le_max_right 1 (ceilSeconds (time - t))) (by decide : 0 ≤ second)
      omega
  simp only [RateLimitCounts.retryAfterSeconds, quotaFreeAt, hat]
  by_cases hs : (webRequestRateLimitPolicies action).maximumEvents ≤ counts.subjectCount
  · obtain ⟨oldest, hmem, holdest⟩ := hsubject hs
    have hle := (mem_recent.mp hmem).2.2
    rw [if_pos hs, holdest]
    by_cases hg : (webRequestRateLimitPolicies action).globalMaximumEvents ≤ counts.globalCount
    · obtain ⟨oldest', hmem', holdest'⟩ := hglobal hg
      have hle' := (mem_recent.mp hmem').2.2
      rw [if_pos hg, holdest']
      simp only [Option.map_some, greatest]
      exact ⟨by omega, by omega, fun _ => ⟨oldest, hmem, hcover _ _ hle (le_max_left _ _)⟩,
        fun _ => ⟨oldest', hmem', hcover _ _ hle' (le_max_right _ _)⟩⟩
    · rw [if_neg hg]
      simp only [Option.map_some, greatest]
      exact ⟨by omega, by omega, fun _ => ⟨oldest, hmem, hcover _ _ hle (le_max_left _ _)⟩,
        fun hg' => absurd hg' hg⟩
  · have hg : (webRequestRateLimitPolicies action).globalMaximumEvents ≤
        counts.globalCount := by
      omega
    obtain ⟨oldest', hmem', holdest'⟩ := hglobal hg
    have hle' := (mem_recent.mp hmem').2.2
    rw [if_neg hs, if_pos hg, holdest']
    simp only [Option.map_some, greatest]
    exact ⟨by omega, by omega, fun hs' => absurd hs' hs,
      fun _ => ⟨oldest', hmem', hcover _ _ hle' (le_max_right _ _)⟩⟩

/-- What a decision answers, in terms of the log. -/
theorem Exact.decide_cases {history : RateLimitHistory} {now t : ℤ} (h : Exact history now)
    (hle : now ≤ t) (action : WebRequestRateLimitAction) (subjectKeyHash : JsString) :
    (history.table.decide action subjectKeyHash t =
        (history.table.insertEvent action subjectKeyHash t, .admitted) ∧
      countIn action (ofSubject action subjectKeyHash) t history.log <
        (webRequestRateLimitPolicies action).maximumEvents ∧
      countIn action (ofAction action) t history.log <
        (webRequestRateLimitPolicies action).globalMaximumEvents) ∨
    ∃ retryAfter, history.table.decide action subjectKeyHash t =
        (history.table, .exceeded retryAfter) ∧
      1 ≤ retryAfter ∧ retryAfter ≤ (webRequestRateLimitPolicies action).windowSeconds ∧
      ((webRequestRateLimitPolicies action).maximumEvents ≤
          countIn action (ofSubject action subjectKeyHash) t history.log ∨
        (webRequestRateLimitPolicies action).globalMaximumEvents ≤
          countIn action (ofAction action) t history.log) ∧
      ((webRequestRateLimitPolicies action).maximumEvents ≤
          countIn action (ofSubject action subjectKeyHash) t history.log →
        ∃ oldest ∈ recent (windowLength action) t
          (timesOf (ofSubject action subjectKeyHash) history.log),
          oldest ≤ t + retryAfter * second - windowLength action) ∧
      ((webRequestRateLimitPolicies action).globalMaximumEvents ≤
          countIn action (ofAction action) t history.log →
        ∃ oldest ∈ recent (windowLength action) t (timesOf (ofAction action) history.log),
          oldest ≤ t + retryAfter * second - windowLength action) := by
  have hcounts := h.counts hle action subjectKeyHash
  have hsubject := hcounts.subject_lt
  have hglobal := hcounts.global_lt
  rw [RateLimitTable.decide]
  by_cases hroom : (history.table.counts action subjectKeyHash t).subjectCount <
        (webRequestRateLimitPolicies action).maximumEvents ∧
      (history.table.counts action subjectKeyHash t).globalCount <
        (webRequestRateLimitPolicies action).globalMaximumEvents
  · rw [if_pos hroom]
    exact .inl ⟨rfl, hsubject.mp hroom.1, hglobal.mp hroom.2⟩
  · obtain ⟨hone, hwindow, hsubjectLeft, hglobalLeft⟩ := hcounts.retryAfterSeconds hroom
    obtain ⟨-, -, -, hsafe, -⟩ := policy_bounds action
    rw [if_neg hroom, if_neg (by omega)]
    refine .inr ⟨_, rfl, hone, hwindow, ?_, ?_, ?_⟩
    · by_contra hnone
      rw [not_or, not_le, not_le] at hnone
      exact hroom ⟨hsubject.mpr hnone.1, hglobal.mpr hnone.2⟩
    · intro hfull
      exact hsubjectLeft (not_lt.mp fun hlt => not_lt.mpr hfull (hsubject.mp hlt))
    · intro hfull
      exact hglobalLeft (not_lt.mp fun hlt => not_lt.mpr hfull (hglobal.mp hlt))

/-- The times of a log with one more event. -/
theorem timesOf_concat (selected : RateLimitEvent → Bool) (log : List RateLimitEvent)
    (event : RateLimitEvent) :
    timesOf selected (log ++ [event]) =
      timesOf selected log ++ if selected event then [event.occurredAt] else [] := by
  rw [timesOf, List.filter_append, List.map_append, timesOf, List.filter_singleton]
  cases selected event <;> rfl

theorem Exact.times_le {history : RateLimitHistory} {now : ℤ} (h : Exact history now)
    (selected : RateLimitEvent → Bool) : ∀ time ∈ timesOf selected history.log, time ≤ now := by
  intro time htime
  obtain ⟨event, hevent, rfl⟩ := List.mem_map.mp htime
  exact h.log_le event (List.mem_filter.mp hevent).1

/-- An admitted event leaves a bound in place when its own window had room. -/
theorem Exact.countIn_concat_le {history : RateLimitHistory} {now : ℤ}
    (h : Exact history now) {action : WebRequestRateLimitAction}
    {selected : RateLimitEvent → Bool} {limit : ℕ} {event : RateLimitEvent}
    (hbound : ∀ t, countIn action selected t history.log ≤ limit)
    (hevent : now ≤ event.occurredAt)
    (hroom : selected event = true →
      countIn action selected event.occurredAt history.log < limit) (t : ℤ) :
    countIn action selected t (history.log ++ [event]) ≤ limit := by
  rw [countIn, timesOf_concat]
  split
  · next hselected =>
      exact length_recent_concat_le ((h.later hevent).times_le selected) hbound
        (hroom hselected) t
  · rw [List.append_nil]
    exact hbound t

/-- A decision keeps the invariant. -/
theorem Exact.decide {history : RateLimitHistory} {now t : ℤ} (h : Exact history now)
    (hle : now ≤ t) (action : WebRequestRateLimitAction) (subjectKeyHash : JsString) :
    Exact (history.step (.decide action subjectKeyHash t)) t := by
  have hlater := h.later hle
  rcases h.decide_cases hle action subjectKeyHash with
    ⟨hadmitted, hsubject, hglobal⟩ | ⟨retryAfter, hdecide, -⟩
  · have hstep : history.step (.decide action subjectKeyHash t) =
        ⟨history.table.insertEvent action subjectKeyHash t,
          history.log ++ [⟨action, subjectKeyHash, t⟩]⟩ := by
      rw [RateLimitHistory.step, hadmitted]
    rw [hstep, RateLimitTable.insertEvent]
    refine ⟨?_, ?_, ?_, ?_, ?_, ?_, ?_⟩
    · intro event hevent
      rcases List.mem_append.mp hevent with hevent | hevent
      · exact hlater.log_le event hevent
      · rw [List.mem_singleton.mp hevent]
    · intro row hrow
      rcases List.mem_append.mp hrow with hrow | hrow
      · exact h.expiresAt row hrow
      · rw [List.mem_singleton.mp hrow]
    · intro row hrow
      rcases List.mem_append.mp hrow with hrow | hrow
      · exact (h.id_lt row hrow).trans (Nat.lt_succ_self _)
      · rw [List.mem_singleton.mp hrow]
        exact Nat.lt_succ_self _
    · rw [List.map_append, List.nodup_append]
      refine ⟨h.id_nodup, List.nodup_singleton _, ?_⟩
      intro id hid id' hid'
      obtain ⟨row, hrow, rfl⟩ := List.mem_map.mp hid
      rw [List.map_singleton, List.mem_singleton] at hid'
      rw [hid']
      exact (h.id_lt row hrow).ne
    · rw [List.map_append, List.filter_append, List.filter_append, hlater.counted]
      rfl
    · intro action' subjectKeyHash' t'
      refine h.countIn_concat_le (h.subject_le action' subjectKeyHash') hle ?_ t'
      intro hselected
      rw [ofSubject, decide_eq_true_eq] at hselected
      obtain ⟨rfl, rfl⟩ := hselected
      exact hsubject
    · intro action' t'
      refine h.countIn_concat_le (h.global_le action') hle ?_ t'
      intro hselected
      rw [ofAction, decide_eq_true_eq] at hselected
      subst hselected
      exact hglobal
  · have hstep : history.step (.decide action subjectKeyHash t) = history := by
      rw [RateLimitHistory.step, hdecide]
    rw [hstep]
    exact hlater

/-! ## Runs -/

/-- A reservation is a cleanup and a decision. -/
theorem reserveWebRequestRateLimit_eq_steps {history : RateLimitHistory}
    {action : WebRequestRateLimitAction} {subjectKeyHash : JsString}
    (h : subjectKeyHashAccepted subjectKeyHash = true) (clock : CleanupClock)
    (occurredAt : ℤ) :
    (reserveWebRequestRateLimit history.table action subjectKeyHash clock occurredAt).1 =
      ((history.step (.cleanup clock)).step
        (.decide action subjectKeyHash occurredAt)).table := by
  rw [reserveWebRequestRateLimit, if_neg (by simp [h])]
  rfl

theorem Exact.step {history : RateLimitHistory} {now : ℤ} (h : Exact history now)
    (statement : RateLimitStatement) (hle : now ≤ statement.time) :
    Exact (history.step statement) statement.time := by
  cases statement with
  | cleanup clock => exact h.cleanup clock hle
  | decide action subjectKeyHash occurredAt => exact h.decide hle action subjectKeyHash

/-- The invariant holds after every run, up to every time that the run has not
passed. -/
theorem exact_run {statements : List RateLimitStatement} (h : Chronological statements)
    {now : ℤ} (hnow : ∀ statement ∈ statements, statement.time ≤ now) :
    Exact (.run statements) now := by
  induction statements using List.reverseRecOn generalizing now with
  | nil => exact .start now
  | append_singleton statements statement ih =>
      rw [Chronological, List.map_append, List.pairwise_append] at h
      obtain ⟨hbefore, -, hlast⟩ := h
      have hle : ∀ earlier ∈ statements, earlier.time ≤ statement.time := fun earlier hmem =>
        hlast _ (List.mem_map_of_mem hmem) _ (List.mem_singleton_self _)
      rw [RateLimitHistory.run, List.foldl_append, List.foldl_cons, List.foldl_nil]
      exact ((ih hbefore hle).step statement le_rfl).later (hnow statement (by simp))

/-- What the reservation of a subject is answered at `occurredAt`. -/
def RateLimitHistory.answer (history : RateLimitHistory) (action : WebRequestRateLimitAction)
    (subjectKeyHash : JsString) (occurredAt : ℤ) : Reservation :=
  (history.table.decide action subjectKeyHash occurredAt).2

/-- A chronological run up to one of its statements. -/
theorem Chronological.before {before after : List RateLimitStatement}
    {statement : RateLimitStatement} (h : Chronological (before ++ statement :: after)) :
    Exact (.run before) statement.time := by
  rw [Chronological, List.map_append, List.map_cons, List.pairwise_append] at h
  obtain ⟨hbefore, -, hlast⟩ := h
  refine exact_run hbefore fun earlier hearlier => ?_
  exact hlast _ (List.mem_map_of_mem hearlier) _ List.mem_cons_self

/-- A full quota has room again once the wait is over. -/
theorem countIn_lt_of_wait {action : WebRequestRateLimitAction}
    {selected : RateLimitEvent → Bool} {history : RateLimitHistory} {t later : ℤ} {limit : ℕ}
    (h : Exact history t) (hlater : t ≤ later)
    (hbound : countIn action selected t history.log ≤ limit)
    (hleft : limit ≤ countIn action selected t history.log →
      ∃ oldest ∈ recent (windowLength action) t (timesOf selected history.log),
        oldest ≤ later - windowLength action) :
    countIn action selected later history.log < limit := by
  by_cases hfull : limit ≤ countIn action selected t history.log
  · obtain ⟨oldest, hmem, hle⟩ := hleft hfull
    exact (length_recent_later_lt (h.times_le selected) hlater hmem hle).trans_le hbound
  · exact (length_recent_later_le (h.times_le selected) hlater).trans_lt (not_le.mp hfull)

theorem timesOf_ofSubject_eq (action : WebRequestRateLimitAction) (subjectKeyHash : JsString)
    (events : List RateLimitEvent) :
    timesOf (ofSubject action subjectKeyHash) events =
      timesOf (ofSubject action subjectKeyHash) (events.filter (ofAction action)) := by
  rw [timesOf, timesOf, List.filter_filter]
  refine congrArg _ (List.filter_congr fun event _ => ?_)
  rw [Bool.eq_iff_iff, Bool.and_eq_true, ofAction, decide_eq_true_eq]
  exact ⟨fun hsubject => ⟨hsubject, action_of_ofSubject _ _ _ hsubject⟩, And.left⟩

theorem timesOf_ofAction_eq (action : WebRequestRateLimitAction)
    (events : List RateLimitEvent) :
    timesOf (ofAction action) events =
      timesOf (ofAction action) (events.filter (ofAction action)) := by
  rw [timesOf, timesOf, List.filter_filter]
  simp only [Bool.and_self]

/-- After the advised wait, with no admission of the action in between, the same
subject is admitted. -/
theorem Exact.admitted_after_wait {history later : RateLimitHistory} {t t' retryAfter : ℤ}
    {action : WebRequestRateLimitAction} {subjectKeyHash : JsString}
    (h : Exact history t) (h' : Exact later t')
    (hexceeded : history.answer action subjectKeyHash t = .exceeded retryAfter)
    (hlog : later.log.filter (ofAction action) = history.log.filter (ofAction action))
    (hwait : t + retryAfter * second ≤ t') :
    later.answer action subjectKeyHash t' = .admitted := by
  obtain ⟨hadmitted, -⟩ | ⟨r, hdecide, hone, -, -, hsubjectLeft, hglobalLeft⟩ :=
    h.decide_cases le_rfl action subjectKeyHash
  · rw [RateLimitHistory.answer, hadmitted] at hexceeded
    cases hexceeded
  rw [RateLimitHistory.answer, hdecide, Reservation.exceeded.injEq] at hexceeded
  subst hexceeded
  have hle : t ≤ t' := by
    have hpos : 0 ≤ r * second := mul_nonneg (by omega) (by decide)
    omega
  have hsubject : countIn action (ofSubject action subjectKeyHash) t' later.log <
      (webRequestRateLimitPolicies action).maximumEvents := by
    rw [countIn, timesOf_ofSubject_eq, hlog, ← timesOf_ofSubject_eq]
    refine countIn_lt_of_wait h hle (h.subject_le action subjectKeyHash t) fun hfull => ?_
    obtain ⟨oldest, hmem, hold⟩ := hsubjectLeft hfull
    exact ⟨oldest, hmem, by omega⟩
  have hglobal : countIn action (ofAction action) t' later.log <
      (webRequestRateLimitPolicies action).globalMaximumEvents := by
    rw [countIn, timesOf_ofAction_eq, hlog, ← timesOf_ofAction_eq]
    refine countIn_lt_of_wait h hle (h.global_le action t) fun hfull => ?_
    obtain ⟨oldest, hmem, hold⟩ := hglobalLeft hfull
    exact ⟨oldest, hmem, by omega⟩
  obtain ⟨hadmitted, -⟩ | ⟨_, -, -, -, hfull, -⟩ := h'.decide_cases le_rfl action subjectKeyHash
  · rw [RateLimitHistory.answer, hadmitted]
  · rcases hfull with hfull | hfull
    · exact absurd hsubject (not_lt.mpr hfull)
    · exact absurd hglobal (not_lt.mpr hfull)

/-- The limiter is exact in every run: no window ever holds more admitted events
than a quota allows, a rejection means that a quota is full at that time, a cleanup
deletes only rows that never count again, and a rejected subject is admitted after
the advised wait when the action has admitted nothing in between. -/
theorem rate_limiter_exact {statements : List RateLimitStatement}
    (h : Chronological statements) :
    (∀ action subjectKeyHash t, countIn action (ofSubject action subjectKeyHash) t
        (RateLimitHistory.run statements).log ≤
      (webRequestRateLimitPolicies action).maximumEvents) ∧
    (∀ action t, countIn action (ofAction action) t (RateLimitHistory.run statements).log ≤
      (webRequestRateLimitPolicies action).globalMaximumEvents) ∧
    (∀ before action subjectKeyHash t after,
      statements = before ++ .decide action subjectKeyHash t :: after →
      (RateLimitHistory.run before).answer action subjectKeyHash t = .admitted ∨
      ∃ retryAfter, (RateLimitHistory.run before).answer action subjectKeyHash t =
          .exceeded retryAfter ∧
        ((webRequestRateLimitPolicies action).maximumEvents ≤
            countIn action (ofSubject action subjectKeyHash) t
              (RateLimitHistory.run before).log ∨
          (webRequestRateLimitPolicies action).globalMaximumEvents ≤
            countIn action (ofAction action) t (RateLimitHistory.run before).log)) ∧
    (∀ before clock after, statements = before ++ .cleanup clock :: after →
      ∀ row ∈ (RateLimitHistory.run before).table.rows,
        row ∉ ((RateLimitHistory.run before).table.cleanup clock).rows →
        ∀ t, clock.finishedAt ≤ t → ¬ Counts t row.toRateLimitEvent) ∧
    (∀ before action subjectKeyHash t between t' after retryAfter,
      statements = before ++ .decide action subjectKeyHash t ::
        (between ++ .decide action subjectKeyHash t' :: after) →
      (RateLimitHistory.run before).answer action subjectKeyHash t = .exceeded retryAfter →
      (RateLimitHistory.run (before ++ .decide action subjectKeyHash t :: between)).log.filter
          (ofAction action) = (RateLimitHistory.run before).log.filter (ofAction action) →
      t + retryAfter * second ≤ t' →
      (RateLimitHistory.run (before ++ .decide action subjectKeyHash t :: between)).answer
        action subjectKeyHash t' = .admitted) := by
  obtain ⟨now, hnow⟩ : ∃ now, ∀ statement ∈ statements, statement.time ≤ now := by
    obtain ⟨now, hnow⟩ := (statements.map RateLimitStatement.time).toFinset.bddAbove
    exact ⟨now, fun statement hmem => hnow (by simpa using ⟨statement, hmem, rfl⟩)⟩
  have hexact := exact_run h hnow
  refine ⟨hexact.subject_le, hexact.global_le, ?_, ?_, ?_⟩
  · rintro before action subjectKeyHash t after rfl
    rcases h.before.decide_cases le_rfl action subjectKeyHash with
      ⟨hadmitted, -⟩ | ⟨retryAfter, hdecide, -, -, hfull, -⟩
    · exact .inl (congrArg Prod.snd hadmitted)
    · exact .inr ⟨retryAfter, congrArg Prod.snd hdecide, hfull⟩
  · rintro before clock after rfl row hrow hdeleted t ht hcounts
    exact h.before.not_counts_of_deleted hrow hdeleted (hcounts.mono ht)
  · rintro before action subjectKeyHash t between t' after retryAfter rfl hexceeded hlog hwait
    have hbefore : Exact (.run before) t := h.before
    rw [← List.cons_append, ← List.append_assoc] at h
    have hlater : Exact (.run (before ++ .decide action subjectKeyHash t :: between)) t' :=
      h.before
    exact hbefore.admitted_after_wait hlater hexceeded hlog hwait

/-- Six handoffs of one subject in the first second, and a seventh ten seconds in. -/
def sampleStatements (more : List RateLimitStatement) : List RateLimitStatement :=
  List.replicate 6 (.decide .handoffCreate (List.replicate 64 0x61) 0) ++
    .decide .handoffCreate (List.replicate 64 0x61) 10000000 :: more

def sampleClock : CleanupClock := ⟨fun _ => 20000000, 30000000, fun _ => by decide⟩

/-- The seventh handoff is told to wait for 290 seconds, and after them it is
admitted. -/
theorem rate_limiter_exact_sample :
    (RateLimitHistory.run (sampleStatements [.cleanup sampleClock])).answer .handoffCreate
      (List.replicate 64 0x61) 300000000 = .admitted := by
  have hchronological : Chronological (sampleStatements ([.cleanup sampleClock] ++
      .decide .handoffCreate (List.replicate 64 0x61) 300000000 :: [])) := by
    decide
  obtain ⟨-, -, -, -, hwait⟩ := rate_limiter_exact hchronological
  exact hwait _ _ _ 10000000 [.cleanup sampleClock] 300000000 [] 290 rfl (by decide)
    (by decide) (by decide)

end Web

end UnderstandProof
