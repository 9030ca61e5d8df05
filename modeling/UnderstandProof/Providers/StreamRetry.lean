import Mathlib.Algebra.Order.Floor.Ring
import Mathlib.Data.Rat.Floor
import UnderstandProof.Foundation.Attempts
import UnderstandProof.Providers.Errors
import UnderstandProof.Providers.SseResponse

/-!
# Requests with retries

One loop makes the requests of the judge. Every attempt reads the clock against the deadline, arms
a timer that every piece of progress arms again, and ends in a payload, a protocol error, a status,
a network error or the timer. What can be tried again is tried again behind a delay, as long as the
deadline lies behind the delay. The clock is read one time after the other, so time may pass between
any two readings; the events of a run tell when it was read.
-/

open Foundation

namespace UnderstandProof

namespace Providers

namespace StreamRequest

def maxTransportAttempts : ℕ := 3
def defaultStreamIdleTimeoutMs : ℕ := 150000
def maxResponseBytes : ℕ := 4 * 1024 * 1024
def visionCapabilityRejectedStatuses : List ℕ := [400, 404, 415, 422]
def transientUpstreamClientStatuses : List ℕ := [402, 404, 408]

/-! ## The policy -/

/-- The numbers of a policy before they are checked. -/
structure RequestPolicy where
  maxAttempts : Option ℤ
  streamIdleTimeoutMs : Option ℤ
  maxResponseBytes : Option ℤ
  deriving DecidableEq, Repr

structure ResolvedRequestPolicy where
  maxAttempts : ℕ
  streamIdleTimeoutMs : ℕ
  maxResponseBytes : ℕ
  maxAttempts_bounds : 1 ≤ maxAttempts ∧ maxAttempts ≤ maxTransportAttempts
  streamIdleTimeoutMs_bounds : 0 < streamIdleTimeoutMs ∧ streamIdleTimeoutMs ≤ 180000
  maxResponseBytes_bounds : 0 < maxResponseBytes ∧ maxResponseBytes ≤ StreamRequest.maxResponseBytes

/-- The numbers of a policy; the clock, the random source and the sleep of a policy are not
checked. -/
def resolvePolicy (raw : RequestPolicy) : Option ResolvedRequestPolicy := do
  let maxAttempts ← (raw.maxAttempts.getD maxTransportAttempts).toNat?
  let streamIdleTimeoutMs ← (raw.streamIdleTimeoutMs.getD defaultStreamIdleTimeoutMs).toNat?
  let maxResponseBytes ← (raw.maxResponseBytes.getD StreamRequest.maxResponseBytes).toNat?
  if h : (1 ≤ maxAttempts ∧ maxAttempts ≤ maxTransportAttempts) ∧
      (0 < streamIdleTimeoutMs ∧ streamIdleTimeoutMs ≤ 180000) ∧
      (0 < maxResponseBytes ∧ maxResponseBytes ≤ StreamRequest.maxResponseBytes) then
    some ⟨maxAttempts, streamIdleTimeoutMs, maxResponseBytes, h.1, h.2.1, h.2.2⟩
  else none

/-- Every resolved policy is the resolution of its own numbers. -/
theorem resolvePolicy_self (policy : ResolvedRequestPolicy) :
    resolvePolicy ⟨some policy.maxAttempts, some policy.streamIdleTimeoutMs,
      some policy.maxResponseBytes⟩ = some policy := by
  have hnat : ∀ n : ℕ, (n : ℤ).toNat? = some n := fun n => Int.mem_toNat?.mpr rfl
  simp only [resolvePolicy, Option.getD_some, hnat, Option.bind_eq_bind, Option.bind_some]
  exact dif_pos ⟨policy.maxAttempts_bounds, policy.streamIdleTimeoutMs_bounds,
    policy.maxResponseBytes_bounds⟩

/-! ## Failures -/

inductive HttpStatusClass where
  | http4xx
  | http5xx
  deriving DecidableEq, Repr

def httpStatusClassFor (status : ℕ) : Option HttpStatusClass :=
  if 500 ≤ status ∧ status ≤ 599 then some .http5xx
  else if 400 ≤ status ∧ status ≤ 499 then some .http4xx
  else none

def safeStatus (status : ℕ) : Option ℕ :=
  if 100 ≤ status ∧ status ≤ 599 then some status else none

def isTransientUpstreamHttpStatus (status : ℕ) : Bool :=
  transientUpstreamClientStatuses.contains status || (500 ≤ status && status ≤ 599)

inductive RetryableFailureKind where
  | network
  | timeout
  | rateLimited
  | unavailable
  | responseStream
  deriving DecidableEq, Repr

structure RetryableFailure where
  kind : RetryableFailureKind
  retryAfterMs : Option ℚ
  httpStatus : Option ℕ
  httpStatusClass : Option HttpStatusClass
  deriving DecidableEq, Repr

def RetryableFailure.plain (kind : RetryableFailureKind) : RetryableFailure :=
  ⟨kind, none, none, none⟩

structure RequestTelemetry where
  lastFailureKind : ProviderFailureKind
  httpStatusClass : Option HttpStatusClass
  transportAttemptCount : ℕ
  httpStatus : Option ℕ
  deriving DecidableEq, Repr

/-- A `ProviderError` of the loop; every one carries telemetry. -/
structure RequestError where
  code : ProviderErrorCode
  disposition : ProviderErrorDisposition
  message : String
  telemetry : RequestTelemetry
  deriving DecidableEq, Repr

inductive RequestFailure where
  | providerError (error : RequestError)
  | visionCapabilityRejected
  deriving DecidableEq, Repr

structure StreamRequestResult extends SseResult where
  transportAttemptCount : ℕ
  deriving DecidableEq, Repr

abbrev RequestOutcome := Except RequestFailure StreamRequestResult

/-- The count that a result or an error carries; the error of a rejected vision request has
none. -/
def transportAttemptCount : RequestOutcome → Option ℕ
  | .ok result => some result.transportAttemptCount
  | .error (.providerError error) => some error.telemetry.transportAttemptCount
  | .error .visionCapabilityRejected => none

def failureKind : RetryableFailureKind → ProviderFailureKind
  | .network => .network
  | .timeout => .timeout
  | .rateLimited => .rateLimited
  | .unavailable => .upstreamUnavailable
  | .responseStream => .responseStream

def retryableFailureTelemetry (failure : Option RetryableFailure) (transportAttemptCount : ℕ) :
    RequestTelemetry where
  lastFailureKind := (failure.map fun failure => failureKind failure.kind).getD .deadlineExceeded
  httpStatusClass := failure.bind RetryableFailure.httpStatusClass
  transportAttemptCount := transportAttemptCount
  httpStatus := (failure.bind RetryableFailure.httpStatus).bind safeStatus

def deadlineError (telemetry : RequestTelemetry) : RequestFailure :=
  .providerError ⟨.deadlineExceeded, .retryable, "Multimodal provider deadline elapsed", telemetry⟩

def retryableProviderError (failure : Option RetryableFailure) (transportAttemptCount : ℕ) :
    RequestFailure :=
  let telemetry := retryableFailureTelemetry failure transportAttemptCount
  if failure.map RetryableFailure.kind = some .timeout then
    .providerError ⟨.providerTimeout, .retryable,
      "Multimodal provider exhausted its stream idle timeout budget", telemetry⟩
  else
    .providerError ⟨.providerUnavailable, .retryable,
      "Multimodal provider is temporarily unavailable", telemetry⟩

def invalidOutputError (invocationCount : ℕ) (failureKind : ProviderFailureKind) :
    RequestFailure :=
  .providerError ⟨.invalidOutput, .review, "Multimodal provider output is invalid",
    ⟨failureKind, none, invocationCount, none⟩⟩

def requestRejectedError (attempt status : ℕ) : RequestFailure :=
  .providerError ⟨.providerUnavailable, .terminal,
    "Multimodal provider rejected the bounded request",
    ⟨.requestRejected, some ((httpStatusClassFor status).getD .http4xx), attempt,
      safeStatus status⟩⟩

/-! ## Delays -/

/-- `Math.round` -/
def round (value : ℚ) : ℤ := ⌊value + 1 / 2⌋

/-- `Number(value)` where it is finite, and `Date.parse(value)` where it is a number. -/
structure HeaderPlatform where
  number : JsString → Option ℚ
  dateParse : JsString → Option ℚ

def retryAfterMilliseconds (platform : HeaderPlatform) (header : Option JsString) (now : ℚ) : ℚ :=
  match header with
  | none => 0
  | some value =>
      if value = [] then 0
      else match platform.number value with
        | some seconds =>
            if 0 ≤ seconds then min (round (seconds * 1000) : ℚ) 60000
            else dateDelay value
        | none => dateDelay value
where
  /-- The header as a date. -/
  dateDelay (value : JsString) : ℚ :=
    match platform.dateParse value with
    | some date => min (max (date - now) 0) 60000
    | none => 0

/-- A draw that is not a number gives a delay that is none; infinite draws are clamped like 0
and 1. -/
def jitteredBackoffMilliseconds (attempt : ℕ) (random : Option ℚ) : Option ℚ :=
  random.map fun random =>
    let normalized := max 0 (min 1 random)
    let base : ℚ := min (250 * 2 ^ (attempt - 1)) 1000
    round (base * (3 / 4 + normalized * (1 / 2)))

/-! ## One attempt -/

inductive TimeoutKind where
  | idle
  | deadline
  deriving DecidableEq, Repr

/-- What becomes of the timer that was armed last. -/
inductive TimerOutcome where
  /-- It is cleared before it fires. -/
  | silent
  /-- It fires, and its rejection ends the race. -/
  | wins
  /-- It fires, and the operation that it aborts ends the race. -/
  | behind
  deriving DecidableEq, Repr

/-- What the request meets; a stream that breaks does so behind any part of the body. -/
inductive Operation where
  | networkError
  | status (status : ℕ) (retryAfter : Option JsString)
  | response (response : StreamResponse)
  | brokenStream

/-- `progress` counts how often the timer is armed again. -/
structure AttemptBehaviour where
  progress : ℕ
  timer : TimerOutcome
  operation : Operation

/-- What surrounds a run: the readings of the clock, the draws of the attempts, what the attempts
meet, and the functions of the platform. -/
structure Surroundings where
  clock : ℕ → ℚ
  random : ℕ → Option ℚ
  behaviour : ℕ → AttemptBehaviour
  platform : HeaderPlatform
  jsonParse : JsString → Option JsonValue

structure Request where
  deadlineAtMs : ℚ
  policy : ResolvedRequestPolicy
  allowVisionCapabilityFallback : Bool

/-- What ends the race of the operation and the timer. -/
inductive Settlement where
  | payload (payload : SseResult)
  | timeoutMarker
  | networkError
  | status (status : ℕ) (retryAfter : Option JsString)
  | protocolError (kind : SafeProtocolErrorKind)
  deriving DecidableEq, Repr

inductive RequestEvent where
  | reads (time : ℚ)
  | arms (activityWindow : ℚ) (expiryKind : TimeoutKind)
  | requests
  | settles (timeoutKind : Option TimeoutKind) (settlement : Settlement)
  | sleeps (delay : Option ℚ)
  deriving DecidableEq, Repr

def Operation.settlement (jsonParse : JsString → Option JsonValue)
    (policy : ResolvedRequestPolicy) : Operation → Settlement
  | .networkError => .networkError
  | .status code retryAfter => .status code retryAfter
  | .response answer =>
      match readBoundedSseResponse jsonParse policy.maxResponseBytes answer with
      | .ok payload => .payload payload
      | .error kind => .protocolError kind
  | .brokenStream => .protocolError .responseStream

def Request.activityWindow (request : Request) (time : ℚ) : ℚ :=
  max 1 (min request.policy.streamIdleTimeoutMs (request.deadlineAtMs - time))

def Request.expiryKind (request : Request) (time : ℚ) : TimeoutKind :=
  if request.deadlineAtMs - time ≤ request.policy.streamIdleTimeoutMs then .deadline else .idle

/-- `registerActivity` at a reading of the clock. -/
def Request.registerActivity (request : Request) (time : ℚ) : List RequestEvent :=
  [.reads time, .arms (request.activityWindow time) (request.expiryKind time)]

/-- A status that ends the run. -/
def Request.isFinalStatus (request : Request) (status : ℕ) : Bool :=
  (request.allowVisionCapabilityFallback && visionCapabilityRejectedStatuses.contains status) ||
    (status != 429 && !isTransientUpstreamHttpStatus status)

/-- Malformed and oversized responses, rejected vision requests and statuses that are not
transient. -/
def Request.isFinal (request : Request) : Settlement → Bool
  | .protocolError .malformedResponse => true
  | .protocolError .responseTooLarge => true
  | .status status _ => request.isFinalStatus status
  | _ => false

/-- How the `catch` of an attempt goes on; `now` is the reading for a date in the header. -/
def Request.handle (request : Request) (platform : HeaderPlatform) (attempt : ℕ)
    (timeoutKind : Option TimeoutKind) (now : ℚ) : Settlement → RequestOutcome ⊕ RetryableFailure
  | .payload payload => .inl (.ok { payload with transportAttemptCount := attempt })
  | settlement =>
      if timeoutKind = some .deadline then
        .inl (.error (deadlineError ⟨.deadlineExceeded, none, attempt, none⟩))
      else match settlement with
        | .protocolError .responseStream => .inr (.plain .responseStream)
        | .protocolError .malformedResponse =>
            .inl (.error (invalidOutputError attempt .malformedResponse))
        | .protocolError .responseTooLarge =>
            .inl (.error (invalidOutputError attempt .responseTooLarge))
        | .status status retryAfter =>
            if request.allowVisionCapabilityFallback ∧
                visionCapabilityRejectedStatuses.contains status then
              .inl (.error .visionCapabilityRejected)
            else if status = 429 then
              .inr ⟨.rateLimited, some (retryAfterMilliseconds platform retryAfter now),
                some status, some .http4xx⟩
            else if isTransientUpstreamHttpStatus status then
              .inr ⟨.unavailable, none, some status,
                some ((httpStatusClassFor status).getD .http5xx)⟩
            else .inl (.error (requestRejectedError attempt status))
        | .networkError => .inr (.plain (if timeoutKind = some .idle then .timeout else .network))
        | _ => .inr (.plain .timeout)

/-- Only the failure of a rate limit has read the clock. -/
def RetryableFailure.reading (now : ℚ) (failure : RetryableFailure) : List RequestEvent :=
  if failure.kind = .rateLimited then [.reads now] else []

/-- The variables of the loop, and how often the clock has been read. -/
structure LoopState where
  readings : ℕ
  lastFailure : Option RetryableFailure
  deriving DecidableEq, Repr

variable (surroundings : Surroundings) (request : Request)

/-- The end of the loop's body: the delay before the next attempt. -/
def backOff (attempt readings : ℕ) (failure : RetryableFailure) :
    List RequestEvent × (RequestOutcome ⊕ LoopState) :=
  if attempt = request.policy.maxAttempts then
    ([], .inl (.error (retryableProviderError (some failure) attempt)))
  else
    let delay := (jitteredBackoffMilliseconds attempt (surroundings.random attempt)).map
      (max · (failure.retryAfterMs.getD 0))
    let time := surroundings.clock readings
    if ∃ delay' ∈ delay, request.deadlineAtMs - time ≤ delay' then
      ([.reads time],
        .inl (.error (deadlineError (retryableFailureTelemetry (some failure) attempt))))
    else ([.reads time, .sleeps delay], .inr ⟨readings + 1, some failure⟩)

/-- The body of the loop. -/
def requestAttempt (attempt : ℕ) (state : LoopState) :
    List RequestEvent × (RequestOutcome ⊕ LoopState) :=
  let time := surroundings.clock state.readings
  if request.deadlineAtMs - time ≤ 0 then
    ([.reads time],
      .inl (.error (deadlineError (retryableFailureTelemetry state.lastFailure (attempt - 1)))))
  else
    let behaviour := surroundings.behaviour attempt
    let first := state.readings + 1
    let last := first + behaviour.progress
    let timeoutKind := if behaviour.timer = .silent then none
      else some (request.expiryKind (surroundings.clock last))
    let settlement := if behaviour.timer = .wins then .timeoutMarker
      else behaviour.operation.settlement surroundings.jsonParse request.policy
    let events := .reads time :: request.registerActivity (surroundings.clock first) ++ .requests ::
      (List.range behaviour.progress).flatMap (fun i =>
        request.registerActivity (surroundings.clock (first + 1 + i))) ++
      [.settles timeoutKind settlement]
    let now := surroundings.clock (last + 1)
    match request.handle surroundings.platform attempt timeoutKind now settlement with
    | .inl outcome => (events, .inl outcome)
    | .inr failure =>
        let reading := failure.reading now
        let rest := backOff surroundings request attempt (last + 1 + reading.length) failure
        (events ++ reading ++ rest.1, rest.2)

/-- The events of a run, and what it returns or throws. -/
def requestStreamWithRetry : List RequestEvent × RequestOutcome :=
  runAttempts (requestAttempt surroundings request)
    (fun state => .error (retryableProviderError state.lastFailure request.policy.maxAttempts))
    request.policy.maxAttempts 1 ⟨0, none⟩

end StreamRequest

end Providers

end UnderstandProof
