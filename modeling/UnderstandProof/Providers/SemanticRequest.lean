import UnderstandProof.Foundation.RetryLoop
import UnderstandProof.Providers.SemanticSse
import UnderstandProof.Providers.StreamRetry

/-!
# The retries of the semantic provider

The loop that makes the requests of the semantic provider, and what it shares with the one of
the transcription: the policy, what a request meets, and what ends the race of the request and
its timer. A body that exceeds its limit is cancelled, and a cancel that rejects hides that it
was too large.
-/

open Foundation

namespace UnderstandProof

namespace Providers

/-! ## The policy -/

def maxHttpAttempts : ℕ := 3

/-- The numbers of a policy before they are checked. -/
structure RawRetryPolicy where
  maxAttempts : Option ℤ
  attemptTimeoutMs : Option ℤ
  maxResponseBytes : Option ℤ
  deriving DecidableEq, Repr

structure RetryPolicy (maximumTimeoutMs maximumBytes : ℕ) where
  maxAttempts : ℕ
  attemptTimeoutMs : ℕ
  maxResponseBytes : ℕ
  maxAttempts_bounds : 1 ≤ maxAttempts ∧ maxAttempts ≤ maxHttpAttempts
  attemptTimeoutMs_bounds : 0 < attemptTimeoutMs ∧ attemptTimeoutMs ≤ maximumTimeoutMs
  maxResponseBytes_bounds : 0 < maxResponseBytes ∧ maxResponseBytes ≤ maximumBytes

/-- The numbers of a policy with their defaults; the clock, the random source and the sleep of
a policy are not checked. -/
def resolveRetryPolicy (maximumTimeoutMs maximumBytes defaultTimeoutMs defaultBytes : ℕ)
    (raw : RawRetryPolicy) : Option (RetryPolicy maximumTimeoutMs maximumBytes) := do
  let maxAttempts ← (raw.maxAttempts.getD maxHttpAttempts).toNat?
  let attemptTimeoutMs ← (raw.attemptTimeoutMs.getD defaultTimeoutMs).toNat?
  let maxResponseBytes ← (raw.maxResponseBytes.getD defaultBytes).toNat?
  if h : (1 ≤ maxAttempts ∧ maxAttempts ≤ maxHttpAttempts) ∧
      (0 < attemptTimeoutMs ∧ attemptTimeoutMs ≤ maximumTimeoutMs) ∧
      (0 < maxResponseBytes ∧ maxResponseBytes ≤ maximumBytes) then
    some ⟨maxAttempts, attemptTimeoutMs, maxResponseBytes, h.1, h.2.1, h.2.2⟩
  else none

/-- Every policy is the resolution of its own numbers. -/
theorem resolveRetryPolicy_self {maximumTimeoutMs maximumBytes : ℕ}
    (defaultTimeoutMs defaultBytes : ℕ) (policy : RetryPolicy maximumTimeoutMs maximumBytes) :
    resolveRetryPolicy maximumTimeoutMs maximumBytes defaultTimeoutMs defaultBytes
      ⟨some policy.maxAttempts, some policy.attemptTimeoutMs, some policy.maxResponseBytes⟩ =
        some policy := by
  have hnat : ∀ n : ℕ, (n : ℤ).toNat? = some n := fun n => Int.mem_toNat?.mpr rfl
  simp only [resolveRetryPolicy, Option.getD_some, hnat, Option.bind_eq_bind, Option.bind_some]
  exact dif_pos ⟨policy.maxAttempts_bounds, policy.attemptTimeoutMs_bounds,
    policy.maxResponseBytes_bounds⟩

/-! ## What a request meets -/

/-- What a request meets; a stream that breaks does so behind any part of the body. -/
inductive RequestOperation (ρ : Type) where
  | networkError
  | status (status : ℕ) (retryAfter : Option JsString)
  /-- `cancelRejects` is what becomes of a cancel of the body. -/
  | response (response : ρ) (cancelRejects : Bool)
  | brokenStream

/-- What ends the race of the request and its timer. -/
inductive RequestSettlement (π : Type) where
  | payload (payload : π)
  | timeoutMarker
  | networkError
  | status (status : ℕ) (retryAfter : Option JsString)
  | protocolError (kind : SafeProtocolErrorKind)
  /-- The cancel of a body that is too large rejects, and is thrown as a broken stream. -/
  | uncancelled
  deriving DecidableEq, Repr

/-- What surrounds a run: the readings of the clock, the draws of the attempts, what the attempts
meet, and the functions of the platform. -/
structure RequestSurroundings (β : Type) where
  clock : ℕ → ℚ
  random : ℕ → Option ℚ
  behaviour : ℕ → β
  platform : StreamRequest.HeaderPlatform
  jsonParse : JsString → Option JsonValue

/-- Malformed and oversized responses, and statuses that are not transient. -/
def RequestSettlement.isFinal {π : Type} (isTransient : ℕ → Bool) : RequestSettlement π → Bool
  | .protocolError .malformedResponse => true
  | .protocolError .responseTooLarge => true
  | .uncancelled => true
  | .status code _ => !isTransient code
  | _ => false

/-- The variables of a loop, and how often the clock has been read. -/
structure RetryState where
  readings : ℕ
  lastFailure : Option StreamRequest.RetryableFailure
  deriving DecidableEq, Repr

open StreamRequest (RequestError RequestTelemetry RetryableFailure RetryableFailureKind
  TimeoutKind TimerOutcome httpStatusClassFor isTransientUpstreamHttpStatus
  retryableFailureTelemetry retryAfterMilliseconds safeStatus)

/-- Only the failure of a rate limit has read the clock. -/
def rateLimitReading (now : ℚ) (failure : RetryableFailure) : List ℚ :=
  if failure.kind = .rateLimited then [now] else []

theorem rateLimitReading_quiet {ω : Type} (now : ℚ) (failure : RetryableFailure) :
    ∀ event ∈ (rateLimitReading now failure).map (RetryEvent.reads (ω := ω)),
      event.isQuiet = true := by
  intro event hevent
  obtain ⟨time, -, rfl⟩ := List.mem_map.mp hevent
  rfl

/-- `Math.max(jitteredBackoffMilliseconds(attempt, random), lastFailure?.retryAfterMs ?? 0)`; a
draw that is not a number gives a delay that is none, and infinite draws are clamped like 0 and
1. -/
def retryDelay (base : ℚ) (random : Option ℚ) (failure : RetryableFailure) : Option ℚ :=
  random.map fun random =>
    max (StreamRequest.round (base * (3 / 4 + max 0 (min 1 random) * (1 / 2))) : ℚ)
      (failure.retryAfterMs.getD 0)

namespace HetznerSemantic

abbrev ResolvedRequestPolicy := RetryPolicy 150000 (1024 * 1024)

def resolvePolicy : RawRetryPolicy → Option ResolvedRequestPolicy :=
  resolveRetryPolicy 150000 (1024 * 1024) 150000 (1024 * 1024)

/-! ## Failures -/

def deadlineError (telemetry : RequestTelemetry) : RequestError :=
  ⟨.deadlineExceeded, .retryable, "Semantic provider deadline elapsed", telemetry⟩

def invalidOutputError (transportAttemptCount : ℕ) (failureKind : ProviderFailureKind) :
    RequestError :=
  ⟨.invalidOutput, .review, "Semantic provider returned invalid bounded output",
    ⟨failureKind, none, transportAttemptCount, none⟩⟩

def retryableProviderError (failure : Option RetryableFailure) (transportAttemptCount : ℕ) :
    RequestError :=
  let telemetry := retryableFailureTelemetry failure transportAttemptCount
  if failure.map RetryableFailure.kind = some .timeout then
    ⟨.providerTimeout, .retryable, "Semantic provider exhausted its stream idle timeout budget",
      telemetry⟩
  else
    ⟨.providerUnavailable, .retryable, "Semantic provider is temporarily unavailable", telemetry⟩

def requestRejectedError (attempt status : ℕ) : RequestError :=
  ⟨.providerUnavailable, .terminal, "Semantic provider rejected the bounded request",
    ⟨.requestRejected, some .http4xx, attempt, safeStatus status⟩⟩

structure StreamRequestResult extends SseResult where
  transportAttemptCount : ℕ
  deriving DecidableEq, Repr

abbrev RequestOutcome := Except RequestError StreamRequestResult

/-- The count that a result or an error carries. -/
def transportAttemptCount : RequestOutcome → Option ℕ
  | .ok result => some result.transportAttemptCount
  | .error error => some error.telemetry.transportAttemptCount

/-! ## One attempt -/

/-- `progress` counts how often the timer is armed again. -/
structure AttemptBehaviour where
  progress : ℕ
  timer : TimerOutcome
  operation : RequestOperation StreamResponse

structure Request where
  deadlineAtMs : ℚ
  policy : ResolvedRequestPolicy

structure Settled where
  timeoutKind : Option TimeoutKind
  settlement : RequestSettlement SseResult
  deriving DecidableEq, Repr

section Reading

variable (jsonParse : JsString → Option JsonValue)

/-- The reader has read too much and cancels the body. -/
def cancelsBody (maximumBytes : ℕ) : SseReader → List (List UInt8) → Bool
  | _, [] => false
  | reader, value :: rest =>
      if maximumBytes < reader.bytesRead + value.length then true
      else match HetznerSemantic.readChunk jsonParse maximumBytes reader value with
        | .ok next => cancelsBody maximumBytes next rest
        | .error _ => false

/-- The cancel of a body whose declared length is too large is guarded, the other one is not. -/
def responseSettlement (maximumBytes : ℕ) (response : StreamResponse) (cancelRejects : Bool) :
    RequestSettlement SseResult :=
  match HetznerSemantic.readBoundedSseResponse jsonParse maximumBytes response with
  | .ok payload => .payload payload
  | .error kind =>
      if kind = .responseTooLarge ∧ cancelRejects = true ∧
          (response.declaredLength.any fun length => (maximumBytes : ℚ) < length) = false ∧
          (response.body.any (cancelsBody jsonParse maximumBytes .start)) = true then .uncancelled
      else .protocolError kind

end Reading

variable (surroundings : RequestSurroundings AttemptBehaviour) (request : Request)

def settlementOf (attempt : ℕ) : RequestSettlement SseResult :=
  let behaviour := surroundings.behaviour attempt
  if behaviour.timer = .wins then .timeoutMarker
  else match behaviour.operation with
    | .networkError => .networkError
    | .status status retryAfter => .status status retryAfter
    | .response response cancelRejects =>
        responseSettlement surroundings.jsonParse request.policy.maxResponseBytes response
          cancelRejects
    | .brokenStream => .protocolError .responseStream

/-- `registerActivity` at a reading of the clock. -/
def Request.registerActivity (time : ℚ) : List (RetryEvent Settled) :=
  [.reads time,
    .arms (max 1 (min request.policy.attemptTimeoutMs (request.deadlineAtMs - time)))]

def Request.expiryKind (time : ℚ) : TimeoutKind :=
  if request.deadlineAtMs - time ≤ request.policy.attemptTimeoutMs then .deadline else .idle

/-- A rate limit, or a status of an upstream that may recover. -/
def isTransient (status : ℕ) : Bool := status == 429 || isTransientUpstreamHttpStatus status

def Settled.isFinal (settled : Settled) : Bool := settled.settlement.isFinal isTransient

/-- How the `catch` of an attempt goes on; `now` is the reading for a date in the header. -/
def handle (attempt : ℕ) (now : ℚ) (settled : Settled) : RequestOutcome ⊕ RetryableFailure :=
  match settled.settlement with
  | .payload payload => .inl (.ok { payload with transportAttemptCount := attempt })
  | settlement =>
      if settled.timeoutKind = some .deadline then
        .inl (.error (deadlineError ⟨.deadlineExceeded, none, attempt, none⟩))
      else match settlement with
        | .protocolError .responseStream => .inr (.plain .responseStream)
        | .uncancelled => .inr (.plain .responseStream)
        | .protocolError kind =>
            .inl (.error (invalidOutputError attempt
              (if kind = .malformedResponse then .malformedResponse else .responseTooLarge)))
        | .status status retryAfter =>
            if status = 429 then
              .inr ⟨.rateLimited,
                some (retryAfterMilliseconds surroundings.platform retryAfter now),
                safeStatus status, some .http4xx⟩
            else if isTransientUpstreamHttpStatus status then
              .inr ⟨.unavailable, none, safeStatus status,
                some ((httpStatusClassFor status).getD .http5xx)⟩
            else .inl (.error (requestRejectedError attempt status))
        | .networkError =>
            .inr (.plain (if settled.timeoutKind = some .idle then .timeout else .network))
        | _ => .inr (.plain .timeout)

/-- The readings of an attempt with `n` readings before it: the one that arms the timer before
the request, the last one under way, and the one of the back-off. -/
def armingReading (n : ℕ) : ℕ := n + 1

def lastReadingOf (attempt n : ℕ) : ℕ := armingReading n + (surroundings.behaviour attempt).progress

def settledOf (attempt n : ℕ) : Settled where
  timeoutKind := if (surroundings.behaviour attempt).timer = .silent then none
    else some (request.expiryKind (surroundings.clock (lastReadingOf surroundings attempt n)))
  settlement := settlementOf surroundings request attempt

/-- The delay before another attempt. -/
def delayOf (attempt : ℕ) (failure : RetryableFailure) : Option ℚ :=
  retryDelay (min (200 * 2 ^ (attempt - 1)) 1000) (surroundings.random attempt) failure

/-- What the loop has done when its `try` is over: the clock is read, the timer armed, the
request made, and the timer armed again at every progress. -/
def requestEvents (attempt n : ℕ) : List (RetryEvent Settled) :=
  requested (.reads (surroundings.clock n) ::
      request.registerActivity (surroundings.clock (armingReading n)))
    ((List.range (surroundings.behaviour attempt).progress).flatMap fun i =>
      request.registerActivity (surroundings.clock (armingReading n + 1 + i)))
    (settledOf surroundings request attempt n)

/-- The body of the loop. -/
def requestAttempt (attempt : ℕ) (state : RetryState) :
    List (RetryEvent Settled) × (RequestOutcome ⊕ RetryState) :=
  let n := state.readings
  if request.deadlineAtMs - surroundings.clock n ≤ 0 then
    ([.reads (surroundings.clock n)],
      .inl (.error (deadlineError (retryableFailureTelemetry state.lastFailure (attempt - 1)))))
  else
    let after := lastReadingOf surroundings attempt n + 1
    match handle surroundings attempt (surroundings.clock after)
        (settledOf surroundings request attempt n) with
    | .inl outcome => (requestEvents surroundings request attempt n, .inl outcome)
    | .inr failure =>
        let reading := rateLimitReading (surroundings.clock after) failure
        let rest := backOff request.policy.maxAttempts request.deadlineAtMs
          (surroundings.clock (after + reading.length)) (delayOf surroundings attempt failure)
          attempt (.error (retryableProviderError (some failure) attempt))
          (.error (deadlineError (retryableFailureTelemetry (some failure) attempt)))
          ⟨after + reading.length + 1, some failure⟩
        (requestEvents surroundings request attempt n ++ (reading.map .reads ++ rest.1), rest.2)

/-- The events of a run, and what it returns or throws. -/
def requestStreamWithRetry : List (RetryEvent Settled) × RequestOutcome :=
  runAttempts (requestAttempt surroundings request)
    (fun state => .error (retryableProviderError state.lastFailure request.policy.maxAttempts))
    request.policy.maxAttempts 1 ⟨0, none⟩

/-! ## The budget of an attempt -/

/-- The condition under which an attempt with `n` readings before it keeps the budget: the clock
does not reach the deadline between the check and the request, and a body whose cancel rejects
is not tried again. -/
structure Spares (attempt n : ℕ) : Prop where
  arming : surroundings.clock n < request.deadlineAtMs →
    surroundings.clock (armingReading n) < request.deadlineAtMs
  cancels : surroundings.clock n < request.deadlineAtMs →
    settlementOf surroundings request attempt = .uncancelled →
    (settledOf surroundings request attempt n).timeoutKind ≠ some .deadline →
    GivesUp request.policy.maxAttempts request.deadlineAtMs
      (surroundings.clock (lastReadingOf surroundings attempt n + 1))
      (delayOf surroundings attempt (.plain .responseStream)) attempt

section Attempts

variable {surroundings : RequestSurroundings AttemptBehaviour} {request : Request} {attempt n : ℕ}

theorem transportAttemptCount_retryable (failure : Option RetryableFailure) (count : ℕ) :
    transportAttemptCount (.error (retryableProviderError failure count)) = some count := by
  unfold retryableProviderError
  dsimp only
  split <;> rfl

theorem count_of_handle {now : ℚ} {settled : Settled} {outcome : RequestOutcome}
    (h : handle surroundings attempt now settled = .inl outcome) :
    transportAttemptCount outcome = some attempt := by
  unfold handle at h
  split at h
  · cases h
    rfl
  · split at h
    · cases h
      rfl
    · split at h
      · cases h
      · cases h
      · cases h
        rfl
      · split at h
        · cases h
        · split at h
          · cases h
          · cases h
            rfl
      · cases h
      · cases h

/-- What is tried again was not final, or the cancel of its body has rejected. -/
theorem uncancelled_of_handle {now : ℚ} {settled : Settled} {failure : RetryableFailure}
    (h : handle surroundings attempt now settled = .inr failure) (hfinal : settled.isFinal = true) :
    settled.settlement = .uncancelled ∧ settled.timeoutKind ≠ some .deadline ∧
      failure = .plain .responseStream := by
  unfold handle at h
  unfold Settled.isFinal at hfinal
  split at h
  · cases h
  · next settlement hpayload =>
    split at h
    · cases h
    · next hdeadline =>
      split at h
      · next heq =>
        rw [heq] at hfinal
        cases hfinal
      · next heq =>
        cases h
        exact ⟨heq, hdeadline, rfl⟩
      · cases h
      · next code retryAfter heq =>
        rw [heq] at hfinal
        simp only [RequestSettlement.isFinal, isTransient, Bool.not_eq_true', Bool.or_eq_false_iff,
          beq_eq_false_iff_ne] at hfinal
        rw [if_neg hfinal.1, if_neg (by simp [hfinal.2])] at h
        cases h
      · next heq =>
        rw [heq] at hfinal
        cases hfinal
      · next _ hstream huncancelled hprotocol hstatus hnetwork =>
        cases hsettlement : settled.settlement with
        | payload payload => exact absurd hsettlement (hpayload payload)
        | timeoutMarker =>
            rw [hsettlement] at hfinal
            cases hfinal
        | networkError => exact absurd hsettlement hnetwork
        | status code retryAfter => exact absurd hsettlement (hstatus code retryAfter)
        | protocolError kind => exact absurd hsettlement (hprotocol kind)
        | uncancelled => exact absurd hsettlement huncancelled

theorem handle_uncancelled {now : ℚ} {settled : Settled}
    (hsettlement : settled.settlement = .uncancelled)
    (hdeadline : settled.timeoutKind ≠ some .deadline) :
    handle surroundings attempt now settled = .inr (.plain .responseStream) := by
  unfold handle
  rw [hsettlement]
  exact if_neg hdeadline

/-! ## The events of an attempt -/

theorem registerActivity_quiet (time : ℚ) :
    ∀ event ∈ request.registerActivity time, event.isQuiet = true := by
  simp [Request.registerActivity, RetryEvent.isQuiet]

theorem progress_quiet (first progress : ℕ) :
    ∀ event ∈ (List.range progress).flatMap (fun i =>
      request.registerActivity (surroundings.clock (first + i))), event.isQuiet = true := by
  intro event hevent
  obtain ⟨i, -, hi⟩ := List.mem_flatMap.mp hevent
  exact registerActivity_quiet _ event hi

/-- The readings and timers before the request. -/
theorem front_quiet :
    ∀ event ∈ .reads (surroundings.clock n) ::
      request.registerActivity (surroundings.clock (armingReading n)), event.isQuiet = true := by
  intro event hevent
  rcases List.mem_cons.mp hevent with rfl | hevent
  · rfl
  · exact registerActivity_quiet _ event hevent

/-- What the loop's body does: it stops at the deadline, ends behind its request, or goes on to
the back-off. -/
theorem requestAttempt_cases (surroundings : RequestSurroundings AttemptBehaviour)
    (request : Request) (attempt : ℕ) (state : RetryState) :
    (request.deadlineAtMs ≤ surroundings.clock state.readings ∧
      ∃ error, transportAttemptCount (.error error) = some (attempt - 1) ∧
        requestAttempt surroundings request attempt state =
          ([.reads (surroundings.clock state.readings)], .inl (.error error))) ∨
    surroundings.clock state.readings < request.deadlineAtMs ∧
      ((∃ now outcome, handle surroundings attempt now
          (settledOf surroundings request attempt state.readings) = .inl outcome ∧
        requestAttempt surroundings request attempt state =
          (requestEvents surroundings request attempt state.readings, .inl outcome)) ∨
      ∃ now failure time exhausted late next,
        handle surroundings attempt now
          (settledOf surroundings request attempt state.readings) = .inr failure ∧
        (failure = .plain .responseStream → time = surroundings.clock
          (lastReadingOf surroundings attempt state.readings + 1)) ∧
        transportAttemptCount exhausted = some attempt ∧
        transportAttemptCount late = some attempt ∧
        requestAttempt surroundings request attempt state =
          (requestEvents surroundings request attempt state.readings ++
            ((rateLimitReading now failure).map .reads ++
              (backOff request.policy.maxAttempts request.deadlineAtMs time
                (delayOf surroundings attempt failure) attempt exhausted late next).1),
            (backOff (ω := Settled) request.policy.maxAttempts request.deadlineAtMs time
              (delayOf surroundings attempt failure) attempt exhausted late next).2)) := by
  unfold requestAttempt
  dsimp only
  split
  · next hstop => exact .inl ⟨sub_nonpos.mp hstop, _, rfl, rfl⟩
  · next hgo =>
    refine .inr ⟨sub_pos.mp (not_le.mp hgo), ?_⟩
    split
    · next outcome hhandle => exact .inl ⟨_, outcome, hhandle, rfl⟩
    · next failure hhandle =>
      refine .inr ⟨_, failure, _, _, _, _, hhandle, ?_, transportAttemptCount_retryable _ _, rfl,
        rfl⟩
      rintro rfl
      rfl

theorem isAttempt_requestAttempt (attempt : ℕ) (state : RetryState) :
    IsAttempt (requestAttempt surroundings request attempt state) := by
  rcases requestAttempt_cases surroundings request attempt state with ⟨-, error, -, h⟩ |
    ⟨-, ⟨now, outcome, -, h⟩ | ⟨now, failure, time, exhausted, late, next, -, -, -, -, h⟩⟩
  · rw [h]
    exact isAttempt_stopped _
  · rw [h]
    exact isAttempt_requested front_quiet (progress_quiet _ _) ⟨_, _, rfl⟩ _
  · rw [h]
    exact isAttempt_backOff front_quiet (progress_quiet _ _) ⟨_, _, rfl⟩
      (rateLimitReading_quiet now failure) _ _ _

/-- An attempt keeps the budget exactly when it spares the deadline and the final responses. -/
theorem keepsAttempt_iff (hattempt : 1 ≤ attempt) (state : RetryState) :
    KeepsAttempt request.deadlineAtMs Settled.isFinal transportAttemptCount attempt
        (requestAttempt surroundings request attempt state) ↔
      Spares surroundings request attempt state.readings := by
  rcases requestAttempt_cases surroundings request attempt state with ⟨hstop, error, hcount, h⟩ |
    ⟨hgo, ⟨now, outcome, hhandle, h⟩ |
      ⟨now, failure, time, exhausted, late, next, hhandle, htime, hexhausted, hlate, h⟩⟩
  · -- an attempt that stops at the deadline counts the ones before it
    rw [h, keepsAttempt_stopped_iff, hcount]
    refine iff_of_true (fun n hn => (Option.mem_some_iff.mp hn).symm)
      ⟨fun hlt => absurd hlt (not_lt.mpr hstop), fun hlt => absurd hlt (not_lt.mpr hstop)⟩
  · have hiff := @keepsAttempt_requested_iff Settled RetryState _ request.deadlineAtMs
      Settled.isFinal transportAttemptCount _ _
      (settledOf surroundings request attempt state.readings) _ attempt
      (@front_quiet surroundings request state.readings)
      (@progress_quiet surroundings request (armingReading state.readings + 1)
        (surroundings.behaviour attempt).progress)
      rfl hattempt outcome (by simp [count_of_handle hhandle, eq_comm])
    rw [h]
    refine hiff.trans ⟨fun hlt => ⟨fun _ => hlt, fun _ hsettlement hdeadline => ?_⟩,
      fun hspares => hspares.arming hgo⟩
    exact nomatch (handle_uncancelled hsettlement hdeadline).symm.trans hhandle
  · have hiff := @keepsAttempt_backOff_iff Settled RetryState _ request.deadlineAtMs
      Settled.isFinal transportAttemptCount _ _ _
      (settledOf surroundings request attempt state.readings) _ time
      (delayOf surroundings attempt failure) request.policy.maxAttempts attempt
      (@front_quiet surroundings request state.readings)
      (@progress_quiet surroundings request (armingReading state.readings + 1)
        (surroundings.behaviour attempt).progress)
      rfl hattempt (rateLimitReading_quiet now failure) exhausted late
      (by simp [hexhausted, eq_comm]) (by simp [hlate, eq_comm]) next
    rw [h]
    refine hiff.trans ⟨fun ⟨hlt, hgives⟩ => ⟨fun _ => hlt, fun _ hsettlement hdeadline => ?_⟩,
      fun hspares => ⟨hspares.arming hgo, fun hfinal => ?_⟩⟩
    · obtain rfl := Sum.inr.inj ((handle_uncancelled hsettlement hdeadline).symm.trans hhandle)
      rw [← htime rfl]
      refine hgives ?_
      show RequestSettlement.isFinal isTransient (settlementOf surroundings request attempt) = true
      rw [hsettlement]
      rfl
    · obtain ⟨hsettlement, hdeadline, rfl⟩ := uncancelled_of_handle hhandle hfinal
      rw [htime rfl]
      exact hspares.cancels hgo hsettlement hdeadline

/-- A run keeps its budget exactly when all its attempts spare the deadline and the final
responses. -/
theorem requestStreamWithRetry_keepsBudget_iff (surroundings : RequestSurroundings AttemptBehaviour)
    (request : Request) :
    KeepsBudget request.deadlineAtMs Settled.isFinal transportAttemptCount
        request.policy.maxAttempts (requestStreamWithRetry surroundings request) ↔
      ∀ entered ∈ enteredAttempts (requestAttempt surroundings request) request.policy.maxAttempts 1
        ⟨0, none⟩, Spares surroundings request entered.1 entered.2.readings :=
  keepsBudget_iff_forall isAttempt_requestAttempt (fun _ => transportAttemptCount_retryable _ _)
    (fun _ state hnumber => keepsAttempt_iff hnumber state) ⟨0, none⟩

end Attempts

end HetznerSemantic

end Providers

end UnderstandProof
