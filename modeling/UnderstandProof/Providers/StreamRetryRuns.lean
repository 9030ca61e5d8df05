import UnderstandProof.Providers.StreamRetry

/-!
# The discipline of the retries

What one attempt can do is said once: it stops at the deadline, ends behind its request, or waits
and hands on. From that a whole run counts its requests, makes each of them behind a reading before
the deadline, sleeps only where the deadline lies behind the delay, and ends at the first response
that must not be tried again.
-/

open Foundation

namespace UnderstandProof

namespace Providers

namespace StreamRequest

variable {surroundings : Surroundings} {request : Request}

/-! ## The branches of an attempt -/

theorem isFinal_of_handle {platform : HeaderPlatform} {attempt : ℕ}
    {timeoutKind : Option TimeoutKind} {now : ℚ} {settlement : Settlement}
    {failure : RetryableFailure}
    (h : request.handle platform attempt timeoutKind now settlement = .inr failure) :
    request.isFinal settlement = false := by
  cases settlement with
  | payload payload => cases h
  | timeoutMarker => rfl
  | networkError => rfl
  | protocolError kind =>
      cases kind with
      | responseStream => rfl
      | malformedResponse | responseTooLarge =>
          simp only [Request.handle] at h
          split at h <;> cases h
  | status code retryAfter =>
      simp only [Request.handle] at h
      split at h
      · cases h
      split at h
      · cases h
      · rename_i hvision
        simp only [Request.isFinal, Request.isFinalStatus, Bool.or_eq_false_iff,
          Bool.and_eq_false_iff]
        simp only [not_and, Bool.not_eq_true] at hvision
        refine ⟨?_, ?_⟩
        · cases hallow : request.allowVisionCapabilityFallback with
          | false => exact .inl rfl
          | true => exact .inr (hvision hallow)
        · split at h
          · rename_i hrate
            exact .inl (by simp [hrate])
          · split at h
            · rename_i htransient
              exact .inr (by simp [htransient])
            · cases h

theorem transportAttemptCount_of_handle {platform : HeaderPlatform} {attempt : ℕ}
    {timeoutKind : Option TimeoutKind} {now : ℚ} {settlement : Settlement}
    {outcome : RequestOutcome}
    (h : request.handle platform attempt timeoutKind now settlement = .inl outcome) :
    ∀ count ∈ transportAttemptCount outcome, count = attempt := by
  intro count hcount
  cases settlement with
  | payload payload =>
      cases h
      exact (Option.mem_some_iff.mp hcount).symm
  | timeoutMarker | networkError =>
      simp only [Request.handle] at h
      split at h
      · cases h
        exact (Option.mem_some_iff.mp hcount).symm
      · cases h
  | protocolError kind =>
      cases kind <;>
        (simp only [Request.handle] at h
         split at h <;> cases h <;> exact (Option.mem_some_iff.mp hcount).symm)
  | status code retryAfter =>
      simp only [Request.handle] at h
      split at h
      · cases h
        exact (Option.mem_some_iff.mp hcount).symm
      split at h
      · cases h
        exact nomatch hcount
      split at h
      · cases h
      split at h
      · cases h
      · cases h
        exact (Option.mem_some_iff.mp hcount).symm

theorem transportAttemptCount_retryable (failure : Option RetryableFailure) (count : ℕ) :
    transportAttemptCount (.error (retryableProviderError failure count)) = some count := by
  simp only [retryableProviderError]
  split <;> rfl

/-- The end of an attempt gives up, stops at the deadline, or sleeps and hands on. -/
theorem backOff_cases {attempt readings : ℕ} {failure : RetryableFailure}
    {events : List RequestEvent} {verdict : RequestOutcome ⊕ LoopState}
    (h : backOff surroundings request attempt readings failure = (events, verdict)) :
    (∃ error, verdict = .inl (.error error) ∧
      transportAttemptCount (.error error) = some attempt ∧
      (events = [] ∨ ∃ time, events = [.reads time])) ∨
    ∃ time delay next, verdict = .inr next ∧ events = [.reads time, .sleeps delay] ∧
      ∀ delay' ∈ delay, time + delay' < request.deadlineAtMs := by
  simp only [backOff] at h
  split at h
  · obtain ⟨rfl, rfl⟩ := Prod.mk.inj h
    exact .inl ⟨_, rfl, transportAttemptCount_retryable _ _, .inl rfl⟩
  split at h
  · obtain ⟨rfl, rfl⟩ := Prod.mk.inj h
    exact .inl ⟨_, rfl, rfl, .inr ⟨_, rfl⟩⟩
  · rename_i hdeadline
    obtain ⟨rfl, rfl⟩ := Prod.mk.inj h
    refine .inr ⟨_, _, _, rfl, rfl, fun delay' hdelay => ?_⟩
    have hlt := not_le.mp fun hle => hdeadline ⟨delay', hdelay, hle⟩
    linarith

/-- An event that only reads the clock or arms the timer. -/
def RequestEvent.isQuiet : RequestEvent → Bool
  | .reads _ | .arms .. => true
  | _ => false

def RequestEvent.isRequest : RequestEvent → Bool
  | .requests => true
  | _ => false

/-- The events of an attempt that makes its request, up to the end of its race. -/
structure Requested (request : Request) (settlement : Settlement) (events : List RequestEvent) :
    Prop where
  shape : ∃ time armed window kind timeoutKind quiet,
    events = [.reads time, .reads armed, .arms window kind] ++ .requests :: quiet ++
      [.settles timeoutKind settlement] ∧
    time < request.deadlineAtMs ∧ ∀ event ∈ quiet, event.isQuiet = true

theorem registerActivity_quiet (time : ℚ) :
    ∀ event ∈ request.registerActivity time, event.isQuiet = true := by
  intro event hevent
  simp only [Request.registerActivity, List.mem_cons, List.not_mem_nil, or_false] at hevent
  rcases hevent with rfl | rfl <;> rfl

/-- An attempt stops at the deadline, ends behind its request, or goes on to the back-off. -/
theorem requestAttempt_cases {attempt : ℕ} {state : LoopState} {events : List RequestEvent}
    {verdict : RequestOutcome ⊕ LoopState}
    (h : requestAttempt surroundings request attempt state = (events, verdict)) :
    (∃ time error, events = [.reads time] ∧ verdict = .inl (.error error) ∧
      transportAttemptCount (.error error) = some (attempt - 1)) ∨
    ∃ settlement front, Requested request settlement front ∧
      ((∃ outcome, events = front ∧ verdict = .inl outcome ∧
          ∀ count ∈ transportAttemptCount outcome, count = attempt) ∨
        ∃ quiet readings failure rest, events = front ++ quiet ++ rest ∧
          (∀ event ∈ quiet, event.isQuiet = true) ∧ request.isFinal settlement = false ∧
          backOff surroundings request attempt readings failure = (rest, verdict)) := by
  simp only [requestAttempt] at h
  split at h
  · obtain ⟨rfl, rfl⟩ := Prod.mk.inj h
    exact .inl ⟨_, _, rfl, rfl, rfl⟩
  · rename_i hdeadline
    have hlt : surroundings.clock state.readings < request.deadlineAtMs :=
      sub_pos.mp (not_le.mp hdeadline)
    have hquiet : ∀ progress first, ∀ event ∈ (List.range progress).flatMap (fun i =>
        request.registerActivity (surroundings.clock (first + i))), event.isQuiet = true := by
      intro progress first event hevent
      obtain ⟨i, -, hi⟩ := List.mem_flatMap.mp hevent
      exact registerActivity_quiet _ event hi
    split at h
    · rename_i outcome hhandle
      obtain ⟨rfl, rfl⟩ := Prod.mk.inj h
      exact .inr ⟨_, _, ⟨_, _, _, _, _, _, rfl, hlt, hquiet _ _⟩,
        .inl ⟨outcome, rfl, rfl, transportAttemptCount_of_handle hhandle⟩⟩
    · rename_i failure hhandle
      obtain ⟨rfl, rfl⟩ := Prod.mk.inj h
      refine .inr ⟨_, _, ⟨_, _, _, _, _, _, rfl, hlt, hquiet _ _⟩,
        .inr ⟨_, _, failure, _, rfl, ?_, isFinal_of_handle hhandle, rfl⟩⟩
      intro event hevent
      rw [RetryableFailure.reading] at hevent
      split at hevent
      · rw [List.mem_singleton.mp hevent]
        rfl
      · cases hevent

/-! ## The requests of a run -/

theorem countP_of_quiet {events : List RequestEvent}
    (h : ∀ event ∈ events, event.isQuiet = true) : events.countP RequestEvent.isRequest = 0 := by
  rw [List.countP_eq_zero]
  intro event hevent
  have hquiet := h event hevent
  cases event <;> simp_all [RequestEvent.isQuiet, RequestEvent.isRequest]

theorem Requested.countP {settlement : Settlement} {front : List RequestEvent}
    (h : Requested request settlement front) : front.countP RequestEvent.isRequest = 1 := by
  obtain ⟨time, armed, window, kind, timeoutKind, quiet, rfl, -, hquiet⟩ := h.shape
  simp [List.countP_append, List.countP_cons, RequestEvent.isRequest, countP_of_quiet hquiet]

/-- The requests and the count of one attempt: it stops before its request or behind it, or hands
on behind it. -/
theorem requestAttempt_count {attempt : ℕ} {state : LoopState} {events : List RequestEvent}
    {verdict : RequestOutcome ⊕ LoopState} (hattempt : 1 ≤ attempt)
    (h : requestAttempt surroundings request attempt state = (events, verdict)) :
    (∃ outcome, verdict = .inl outcome ∧ events.countP RequestEvent.isRequest ≤ 1 ∧
      ∀ count ∈ transportAttemptCount outcome,
        count = attempt - 1 + events.countP RequestEvent.isRequest) ∨
    ∃ next, verdict = .inr next ∧ events.countP RequestEvent.isRequest = 1 := by
  rcases requestAttempt_cases h with ⟨time, error, rfl, rfl, hcount⟩ |
    ⟨settlement, front, hfront, ⟨outcome, rfl, rfl, hcount⟩ |
      ⟨quiet, readings, failure, rest, rfl, hquiet, -, hback⟩⟩
  · refine .inl ⟨_, rfl, Nat.zero_le 1, fun count hmem => ?_⟩
    rw [hcount] at hmem
    exact (Option.mem_some_iff.mp hmem).symm
  · refine .inl ⟨outcome, rfl, hfront.countP.le, fun count hmem => ?_⟩
    rw [hfront.countP, hcount count hmem]
    omega
  · rw [List.countP_append, List.countP_append, hfront.countP, countP_of_quiet hquiet]
    rcases backOff_cases hback with ⟨error, rfl, hcount, hrest⟩ |
      ⟨time, delay, next, rfl, rfl, -⟩
    · have hnone : rest.countP RequestEvent.isRequest = 0 := by
        rcases hrest with rfl | ⟨time, rfl⟩ <;> rfl
      refine .inl ⟨_, rfl, by omega, fun count hmem => ?_⟩
      rw [hcount] at hmem
      have := Option.mem_some_iff.mp hmem
      omega
    · exact .inr ⟨next, rfl, rfl⟩

/-- A run makes one request for each attempt that it counts, and no more than it may. -/
theorem requestStreamWithRetry_count (surroundings : Surroundings) (request : Request) :
    (requestStreamWithRetry surroundings request).1.countP RequestEvent.isRequest ≤
        request.policy.maxAttempts ∧
      ∀ count ∈ transportAttemptCount (requestStreamWithRetry surroundings request).2,
        count = (requestStreamWithRetry surroundings request).1.countP
          RequestEvent.isRequest := by
  have hrun := @runAttempts_induction _ _ _ (requestAttempt surroundings request)
    (fun state => .error (retryableProviderError state.lastFailure request.policy.maxAttempts))
    (fun left number _ run => 1 ≤ number → number + left = request.policy.maxAttempts + 1 →
      run.1.countP RequestEvent.isRequest ≤ left ∧
        ∀ count ∈ transportAttemptCount run.2,
          count = number - 1 + run.1.countP RequestEvent.isRequest)
    (fun number state hnumber hleft => ?_)
    (fun left number state events result h hnumber hleft => ?_)
    (fun left number state events next rest h hrest hnumber hleft => ?_)
    request.policy.maxAttempts 1 ⟨0, none⟩ le_rfl (by omega)
  · simpa [requestStreamWithRetry] using hrun
  · refine ⟨le_rfl, fun count hmem => ?_⟩
    rw [transportAttemptCount_retryable] at hmem
    have := Option.mem_some_iff.mp hmem
    simp only [List.countP_nil]
    omega
  · rcases requestAttempt_count hnumber h with ⟨outcome, hverdict, hle, hcount⟩ | ⟨next, hverdict, -⟩
    · obtain rfl := Sum.inl.inj hverdict
      exact ⟨hle.trans (by omega), hcount⟩
    · cases hverdict
  · rcases requestAttempt_count hnumber h with ⟨outcome, hverdict, -⟩ | ⟨-, -, hone⟩
    · cases hverdict
    · obtain ⟨hle, hcount⟩ := hrest (by omega) (by omega)
      rw [List.countP_append, hone]
      refine ⟨by omega, fun count hmem => ?_⟩
      have := hcount count hmem
      omega

/-! ## The order of the events -/

/-- A request comes behind a reading before the deadline, with the timer armed between; a sleep
comes behind a reading whose delay ends before the deadline; what must not be tried again is the
end of the requests. -/
def Request.Disciplined (request : Request) (before : List RequestEvent) :
    RequestEvent → List RequestEvent → Prop
  | .requests, _ => ∃ earlier time armed window kind,
      before = earlier ++ [.reads time, .reads armed, .arms window kind] ∧
        time < request.deadlineAtMs
  | .sleeps delay, _ => ∃ earlier time, before = earlier ++ [.reads time] ∧
      ∀ delay' ∈ delay, time + delay' < request.deadlineAtMs
  | .settles _ settlement, after => request.isFinal settlement = true → .requests ∉ after
  | _, _ => True

theorem Request.disciplined_of_quiet {event : RequestEvent} (h : event.isQuiet = true)
    (before after : List RequestEvent) : request.Disciplined before event after := by
  cases event <;> trivial

theorem requests_not_mem_of_quiet {events : List RequestEvent}
    (h : ∀ event ∈ events, event.isQuiet = true) : .requests ∉ events :=
  fun hmem => nomatch h _ hmem

theorem Requested.disciplined {settlement : Settlement} {front : List RequestEvent}
    (h : Requested request settlement front) (earlier later : List RequestEvent)
    (hlater : request.isFinal settlement = true → .requests ∉ later) :
    AtEach (fun before event after =>
      request.Disciplined (earlier ++ before) event (after ++ later)) front := by
  obtain ⟨time, armed, window, kind, timeoutKind, quiet, rfl, hlt, hquiet⟩ := h.shape
  refine atEach_append.mpr ⟨atEach_append.mpr ⟨?_, ?_⟩, ?_⟩
  · simp [Request.Disciplined]
  · refine atEach_cons.mpr ⟨⟨earlier, time, armed, window, kind, by simp, hlt⟩, ?_⟩
    exact fun before event after hevents =>
      Request.disciplined_of_quiet (hquiet event (by rw [hevents]; simp)) _ _
  · refine atEach_cons.mpr ⟨?_, atEach_nil⟩
    simpa [Request.Disciplined] using hlater

/-- The events of one attempt behind `earlier`; what follows them may matter only to an attempt
that hands on. -/
theorem requestAttempt_disciplined {attempt : ℕ} {state : LoopState} {events : List RequestEvent}
    {verdict : RequestOutcome ⊕ LoopState}
    (h : requestAttempt surroundings request attempt state = (events, verdict))
    (earlier later : List RequestEvent) (hlater : (∃ outcome, verdict = .inl outcome) → later = []) :
    AtEach (fun before event after =>
      request.Disciplined (earlier ++ before) event (after ++ later)) events := by
  rcases requestAttempt_cases h with ⟨time, error, rfl, rfl, -⟩ |
    ⟨settlement, front, hfront, ⟨outcome, rfl, rfl, -⟩ |
      ⟨quiet, readings, failure, rest, rfl, hquiet, hfinal, hback⟩⟩
  · simp [Request.Disciplined]
  · exact hfront.disciplined earlier later fun _ => by simp [hlater ⟨outcome, rfl⟩]
  · refine atEach_append.mpr ⟨atEach_append.mpr ⟨?_, ?_⟩, ?_⟩
    · have hnot : ¬ request.isFinal settlement = true := by simp [hfinal]
      simpa only [List.append_assoc] using
        hfront.disciplined earlier (quiet ++ (rest ++ later)) fun h => absurd h hnot
    · exact fun before event after hevents =>
        Request.disciplined_of_quiet (hquiet event (by rw [hevents]; simp)) _ _
    · rcases backOff_cases hback with ⟨error, rfl, -, rfl | ⟨time, rfl⟩⟩ |
        ⟨time, delay, next, rfl, rfl, hdelay⟩
      · exact atEach_nil
      · simp [Request.Disciplined]
      · refine atEach_cons.mpr ⟨trivial, atEach_cons.mpr ⟨?_, atEach_nil⟩⟩
        exact ⟨earlier ++ (front ++ quiet), time, by simp, hdelay⟩

theorem requestStreamWithRetry_disciplined (surroundings : Surroundings) (request : Request) :
    AtEach request.Disciplined (requestStreamWithRetry surroundings request).1 := by
  have hrun := @runAttempts_induction _ _ _ (requestAttempt surroundings request)
    (fun state => .error (retryableProviderError state.lastFailure request.policy.maxAttempts))
    (fun _ _ _ run => ∀ earlier,
      AtEach (fun before => request.Disciplined (earlier ++ before)) run.1)
    (fun number state earlier => atEach_nil)
    (fun left number state events result h earlier => ?_)
    (fun left number state events next rest h hrest earlier => ?_)
    request.policy.maxAttempts 1 ⟨0, none⟩ []
  · exact hrun
  · simpa using requestAttempt_disciplined h earlier [] fun _ => rfl
  · refine atEach_append.mpr ⟨requestAttempt_disciplined h earlier rest.1 ?_, ?_⟩
    · rintro ⟨outcome, hverdict⟩
      cases hverdict
    · simpa only [List.append_assoc] using hrest (earlier ++ events)

/-! ## The readings of the clock -/

def RequestEvent.time? : RequestEvent → Option ℚ
  | .reads time => some time
  | _ => none

/-- The readings of the clock in a list of events. -/
def readTimes (events : List RequestEvent) : List ℚ := events.filterMap RequestEvent.time?

@[simp] theorem readTimes_append (first second : List RequestEvent) :
    readTimes (first ++ second) = readTimes first ++ readTimes second :=
  List.filterMap_append

theorem readTimes_progress (clock : ℕ → ℚ) (first progress : ℕ) :
    readTimes ((List.range progress).flatMap fun i => request.registerActivity (clock (first + i))) =
      (List.range' first progress).map clock := by
  induction progress with
  | zero => rfl
  | succ progress ih =>
      rw [List.range_succ, List.flatMap_append, readTimes_append, ih, List.range'_concat,
        List.map_append]
      simp [readTimes, RequestEvent.time?, Request.registerActivity]

theorem readTimes_reading (clock : ℕ → ℚ) (n : ℕ) (failure : RetryableFailure) :
    readTimes (failure.reading (clock n)) =
      (List.range' n (failure.reading (clock n)).length).map clock := by
  rw [RetryableFailure.reading]
  split <;> rfl

theorem backOff_readings (attempt readings : ℕ) (failure : RetryableFailure) :
    ∃ count, readTimes (backOff surroundings request attempt readings failure).1 =
        (List.range' readings count).map surroundings.clock ∧
      ∀ next, (backOff surroundings request attempt readings failure).2 = .inr next →
        next.readings = readings + count := by
  simp only [backOff]
  split
  · exact ⟨0, rfl, fun next hnext => nomatch hnext⟩
  split
  · exact ⟨1, rfl, fun next hnext => nomatch hnext⟩
  · refine ⟨1, rfl, fun next hnext => ?_⟩
    cases hnext
    rfl

/-- An attempt reads the clock from where the last one stopped. -/
theorem requestAttempt_readings {attempt : ℕ} {state : LoopState} {events : List RequestEvent}
    {verdict : RequestOutcome ⊕ LoopState}
    (h : requestAttempt surroundings request attempt state = (events, verdict)) :
    ∃ count, readTimes events = (List.range' state.readings count).map surroundings.clock ∧
      ∀ next, verdict = .inr next → next.readings = state.readings + count := by
  simp only [requestAttempt] at h
  split at h
  · obtain ⟨rfl, rfl⟩ := Prod.mk.inj h
    exact ⟨1, rfl, fun next hnext => nomatch hnext⟩
  · have hfront : ∀ timeoutKind settlement, readTimes (.reads (surroundings.clock state.readings) ::
        request.registerActivity (surroundings.clock (state.readings + 1)) ++ .requests ::
        (List.range (surroundings.behaviour attempt).progress).flatMap (fun i =>
          request.registerActivity (surroundings.clock (state.readings + 1 + 1 + i))) ++
        [.settles timeoutKind settlement]) = (List.range' state.readings
          (2 + (surroundings.behaviour attempt).progress)).map surroundings.clock := by
      intro timeoutKind settlement
      rw [readTimes_append, readTimes_append, ← List.range'_append_1, List.map_append]
      refine (List.append_nil _).trans (congrArg (_ ++ ·) ?_)
      exact readTimes_progress _ _ _
    split at h
    · obtain ⟨rfl, rfl⟩ := Prod.mk.inj h
      exact ⟨_, hfront _ _, fun next hnext => nomatch hnext⟩
    · rename_i failure hhandle
      obtain ⟨rfl, rfl⟩ := Prod.mk.inj h
      have hreading := readTimes_reading surroundings.clock
        (state.readings + 1 + (surroundings.behaviour attempt).progress + 1) failure
      generalize failure.reading (surroundings.clock
        (state.readings + 1 + (surroundings.behaviour attempt).progress + 1)) = reading at hreading ⊢
      obtain ⟨count, htimes, hnext⟩ := @backOff_readings surroundings request attempt
        (state.readings + 1 + (surroundings.behaviour attempt).progress + 1 + reading.length) failure
      have hindex : state.readings + 1 + (surroundings.behaviour attempt).progress + 1 =
          state.readings + (2 + (surroundings.behaviour attempt).progress) := by omega
      rw [hindex] at hreading htimes hnext ⊢
      refine ⟨2 + (surroundings.behaviour attempt).progress + (reading.length + count), ?_,
        fun next hverdict => ?_⟩
      · rw [readTimes_append, readTimes_append, hfront, hreading, htimes, List.append_assoc,
          ← List.map_append, List.range'_append_1, ← List.map_append, List.range'_append_1]
      · rw [hnext next hverdict]
        omega

/-- A run reads the clock from its first reading on, one after the other. -/
theorem requestStreamWithRetry_readings (surroundings : Surroundings) (request : Request) :
    ∃ count, readTimes (requestStreamWithRetry surroundings request).1 =
      (List.range count).map surroundings.clock := by
  have hrun := @runAttempts_induction _ _ _ (requestAttempt surroundings request)
    (fun state => .error (retryableProviderError state.lastFailure request.policy.maxAttempts))
    (fun _ _ state run => ∃ count,
      readTimes run.1 = (List.range' state.readings count).map surroundings.clock)
    (fun number state => ⟨0, rfl⟩)
    (fun left number state events result h => ?_)
    (fun left number state events next rest h hrest => ?_)
    request.policy.maxAttempts 1 ⟨0, none⟩
  · obtain ⟨count, hcount⟩ := hrun
    exact ⟨count, by rw [List.range_eq_range']; exact hcount⟩
  · obtain ⟨count, hcount, -⟩ := requestAttempt_readings h
    exact ⟨count, hcount⟩
  · obtain ⟨count, hcount, hnext⟩ := requestAttempt_readings h
    obtain ⟨more, hmore⟩ := hrest
    refine ⟨count + more, ?_⟩
    rw [readTimes_append, hcount, hmore, hnext next rfl, ← List.map_append, List.range'_append_1]

/-! ## The runs -/

/-- Every run makes at most as many requests as its policy allows, each behind a reading of the
clock before the deadline; it sleeps only where the deadline lies behind the delay; a malformed or
oversized response, a rejected vision request and a status that is not transient end the requests;
and the count that it returns or throws is the number of its requests. -/
theorem requestStreamWithRetry_disciplined_run (surroundings : Surroundings) (request : Request) :
    let run := requestStreamWithRetry surroundings request
    run.1.countP RequestEvent.isRequest ≤ request.policy.maxAttempts ∧
    (∃ count, readTimes run.1 = (List.range count).map surroundings.clock) ∧
    (∀ before after, run.1 = before ++ .requests :: after →
      ∃ earlier time armed window kind,
        before = earlier ++ [.reads time, .reads armed, .arms window kind] ∧
          time < request.deadlineAtMs) ∧
    (∀ before delay after, run.1 = before ++ .sleeps (some delay) :: after →
      ∃ earlier time, before = earlier ++ [.reads time] ∧
        time + delay < request.deadlineAtMs) ∧
    (∀ before timeoutKind settlement after,
      run.1 = before ++ .settles timeoutKind settlement :: after →
        request.isFinal settlement = true → .requests ∉ after) ∧
    ∀ count ∈ transportAttemptCount run.2, count = run.1.countP RequestEvent.isRequest := by
  have hcount := requestStreamWithRetry_count surroundings request
  have hevents := requestStreamWithRetry_disciplined surroundings request
  refine ⟨hcount.1, requestStreamWithRetry_readings surroundings request, ?_, ?_, ?_, hcount.2⟩
  · exact fun before after h => hevents before .requests after h
  · intro before delay after h
    obtain ⟨earlier, time, hbefore, hdelay⟩ := hevents before (.sleeps (some delay)) after h
    exact ⟨earlier, time, hbefore, hdelay delay rfl⟩
  · exact fun before timeoutKind settlement after h =>
      hevents before (.settles timeoutKind settlement) after h

/-- A clock that jumps to the deadline behind its first reading. -/
def jumpingSurroundings : Surroundings where
  clock n := if n = 0 then 0 else 1000
  random _ := some 0
  behaviour _ := ⟨0, .silent, .networkError⟩
  platform := ⟨fun _ => none, fun _ => none⟩
  jsonParse _ := none

def sampleRequest : Request where
  deadlineAtMs := 1000
  policy := ⟨3, 150000, 4096, by decide, by decide, by decide⟩
  allowVisionCapabilityFallback := false

/-- A clock that never runs back can stand at the deadline when a request is started: the
reading that arms the timer comes behind the check. -/
theorem request_at_deadline :
    Monotone jumpingSurroundings.clock ∧
    ∃ before window kind after,
      (requestStreamWithRetry jumpingSurroundings sampleRequest).1 =
        before ++ [.reads 1000, .arms window kind] ++ .requests :: after ∧
      sampleRequest.deadlineAtMs ≤ 1000 := by
  constructor
  · intro m n hmn
    simp only [jumpingSurroundings]
    split
    · split <;> norm_num
    · rw [if_neg (by omega)]
  · have hevents : (requestStreamWithRetry jumpingSurroundings sampleRequest).1 =
        [.reads 0] ++ [.reads 1000, .arms 1 .deadline] ++ .requests ::
          [.settles none .networkError, .reads 1000] := by decide +kernel
    exact ⟨_, _, _, _, hevents, le_rfl⟩

end StreamRequest

end Providers

end UnderstandProof
