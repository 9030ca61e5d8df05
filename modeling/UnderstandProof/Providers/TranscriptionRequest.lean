import UnderstandProof.Foundation.Except
import UnderstandProof.Foundation.Jsonb
import UnderstandProof.Providers.SemanticRequest

/-!
# The retries of the transcription provider

The loop that makes the requests of the question transcription. It reads the clock once before
each request, and an attempt that finds the deadline passed throws an error that counts no
request at all, whatever the attempts before it have made.
-/

open Foundation Foundation.JsString

namespace UnderstandProof

namespace Providers

namespace OpenRouterTranscription

open StreamRequest (RequestError RequestTelemetry RetryableFailure RetryableFailureKind
  TimerOutcome HttpStatusClass failureKind retryAfterMilliseconds)

abbrev ResolvedRequestPolicy := RetryPolicy 120000 (1024 * 1024)

def resolvePolicy : RawRetryPolicy → Option ResolvedRequestPolicy :=
  resolveRetryPolicy 120000 (1024 * 1024) 30000 (256 * 1024)

/-! ## Failures

The telemetry of this provider has no status, and neither have its failures. -/

def deadlineError (telemetry : Option RequestTelemetry) : RequestError :=
  ⟨.deadlineExceeded, .retryable, "Transcription provider deadline was exceeded",
    telemetry.getD ⟨.deadlineExceeded, none, 0, none⟩⟩

def invalidOutputError (transportAttemptCount : ℕ) : RequestError :=
  ⟨.invalidOutput, .review, "Transcription provider returned an invalid bounded response",
    ⟨.invalidOutput, none, transportAttemptCount, none⟩⟩

def retryableProviderError (failure : Option RetryableFailure) (transportAttemptCount : ℕ) :
    RequestError :=
  ⟨.providerUnavailable, .retryable,
    if failure.map RetryableFailure.kind = some .rateLimited then
      "Transcription provider remained rate limited"
    else "Transcription provider remained unavailable",
    ⟨(failure.map fun failure => failureKind failure.kind).getD .network,
      failure.bind RetryableFailure.httpStatusClass, transportAttemptCount, none⟩⟩

def requestRejectedError (attempt : ℕ) : RequestError :=
  ⟨.providerUnavailable, .terminal,
    "OpenRouter rejected the bounded transcription request",
    ⟨.requestRejected, some .http4xx, attempt, none⟩⟩

structure TranscriptionPayload where
  payload : JsonValue
  transportAttemptCount : ℕ

abbrev RequestOutcome := Except RequestError TranscriptionPayload

/-- The count that a result or an error carries. -/
def transportAttemptCount : RequestOutcome → Option ℕ
  | .ok result => some result.transportAttemptCount
  | .error error => some error.telemetry.transportAttemptCount

/-! ## The response -/

/-- The `content-length` and the chunks of a response. -/
structure Response where
  contentLength : Option JsString
  body : Option (List (List UInt8))

/-- `/^(?:0|[1-9]\d*)$/u` -/
def isDecimalLength (value : JsString) : Bool :=
  value == js "0" || (value.all Json.isDigit && value.head?.any fun c => c ≠ 0x30)

/-- Whether the declared length alone is a reason to reject the response. -/
def rejectsLength (maximumBytes : ℕ) (contentLength : Option JsString) : Bool :=
  contentLength.any fun value =>
    !isDecimalLength value || decide (maxSafeInteger < digitsValue value) ||
      decide (maximumBytes < digitsValue value)

/-- The variables of the reading loop. -/
structure Reader where
  decoder : TextDecoder
  bytesRead : ℕ
  text : JsString

/-- Reads the chunks of a body; a cancel that rejects is thrown as a broken stream. -/
def readChunks (maximumBytes : ℕ) (cancelRejects : Bool) :
    Reader → List (List UInt8) → Except (RequestSettlement JsonValue) JsString
  | reader, [] =>
      match reader.decoder.flush with
      | none => .error (.protocolError .responseStream)
      | some rest => .ok (reader.text ++ rest)
  | reader, value :: rest =>
      let bytesRead := reader.bytesRead + value.length
      if maximumBytes < bytesRead then
        .error (if cancelRejects then .uncancelled else .protocolError .responseTooLarge)
      else match reader.decoder.decode value with
        | none => .error (.protocolError .responseStream)
        | some decoded =>
            readChunks maximumBytes cancelRejects ⟨decoded.1, bytesRead, reader.text ++ decoded.2⟩
              rest

def readBoundedResponseText (maximumBytes : ℕ) (cancelRejects : Bool) (response : Response) :
    Except (RequestSettlement JsonValue) JsString :=
  if rejectsLength maximumBytes response.contentLength = true then
    .error (.protocolError .responseTooLarge)
  else match response.body with
    | none => .error (.protocolError .malformedResponse)
    | some chunks => readChunks maximumBytes cancelRejects ⟨.new, 0, []⟩ chunks

/-- What becomes of a response whose status is fine. -/
def responseSettlement (jsonParse : JsString → Option JsonValue) (maximumBytes : ℕ)
    (response : Response) (cancelRejects : Bool) : RequestSettlement JsonValue :=
  match readBoundedResponseText maximumBytes cancelRejects response with
  | .error settlement => settlement
  | .ok text =>
      match jsonParse (dropBom text) with
      | none => .protocolError .malformedResponse
      | some payload => .payload payload

/-! ## One attempt -/

structure AttemptBehaviour where
  timer : TimerOutcome
  operation : RequestOperation Response

structure Request where
  deadlineAtMs : ℚ
  policy : ResolvedRequestPolicy

variable (surroundings : RequestSurroundings AttemptBehaviour) (request : Request)

def settlementOf (attempt : ℕ) : RequestSettlement JsonValue :=
  let behaviour := surroundings.behaviour attempt
  if behaviour.timer = .wins then .timeoutMarker
  else match behaviour.operation with
    | .networkError => .networkError
    | .status status retryAfter => .status status retryAfter
    | .response response cancelRejects =>
        responseSettlement surroundings.jsonParse request.policy.maxResponseBytes response
          cancelRejects
    | .brokenStream => .protocolError .responseStream

/-- A rate limit or a failure of the server. -/
def isTransient (status : ℕ) : Bool := status == 429 || (500 ≤ status && status ≤ 599)

def isFinal : RequestSettlement JsonValue → Bool := RequestSettlement.isFinal isTransient

/-- How the `catch` of an attempt goes on; `now` is the reading for a date in the header. -/
def handle (attempt : ℕ) (now : ℚ) :
    RequestSettlement JsonValue → RequestOutcome ⊕ RetryableFailure
  | .payload payload => .inl (.ok ⟨payload, attempt⟩)
  | .protocolError .responseStream => .inr (.plain .network)
  | .uncancelled => .inr (.plain .network)
  | .protocolError _ => .inl (.error (invalidOutputError attempt))
  | .status status retryAfter =>
      if status = 429 then
        .inr ⟨.rateLimited,
          some (retryAfterMilliseconds surroundings.platform retryAfter now), none, some .http4xx⟩
      else if 500 ≤ status ∧ status ≤ 599 then .inr ⟨.unavailable, none, none, some .http5xx⟩
      else .inl (.error (requestRejectedError attempt))
  | .timeoutMarker => .inr (.plain .timeout)
  | .networkError =>
      -- the timer has aborted the request
      .inr (.plain
        (if (surroundings.behaviour attempt).timer = .silent then .network else .timeout))

/-- The delay before another attempt. -/
def delayOf (attempt : ℕ) (failure : RetryableFailure) : Option ℚ :=
  retryDelay (min (250 * 2 ^ (attempt - 1)) 2000) (surroundings.random attempt) failure

/-- What the loop has done when its `try` is over; the timer is armed behind the request. -/
def requestEvents (attempt n : ℕ) : List (RetryEvent (RequestSettlement JsonValue)) :=
  requested [.reads (surroundings.clock n)]
    [.arms (max 1 (min request.policy.attemptTimeoutMs
      (request.deadlineAtMs - surroundings.clock n)))]
    (settlementOf surroundings request attempt)

/-- The body of the loop. -/
def requestAttempt (attempt : ℕ) (state : RetryState) :
    List (RetryEvent (RequestSettlement JsonValue)) × (RequestOutcome ⊕ RetryState) :=
  let n := state.readings
  if request.deadlineAtMs - surroundings.clock n ≤ 0 then
    ([.reads (surroundings.clock n)], .inl (.error (deadlineError none)))
  else
    match handle surroundings attempt (surroundings.clock (n + 1))
        (settlementOf surroundings request attempt) with
    | .inl outcome => (requestEvents surroundings request attempt n, .inl outcome)
    | .inr failure =>
        let reading := rateLimitReading (surroundings.clock (n + 1)) failure
        let rest := backOff request.policy.maxAttempts request.deadlineAtMs
          (surroundings.clock (n + 1 + reading.length)) (delayOf surroundings attempt failure)
          attempt (.error (retryableProviderError (some failure) attempt))
          (.error (deadlineError
            (some ⟨.deadlineExceeded, failure.httpStatusClass, attempt, none⟩)))
          ⟨n + 1 + reading.length + 1, some failure⟩
        (requestEvents surroundings request attempt n ++ (reading.map .reads ++ rest.1), rest.2)

/-- The events of a run, and what it returns or throws. -/
def requestTranscriptionWithRetry :
    List (RetryEvent (RequestSettlement JsonValue)) × RequestOutcome :=
  runAttempts (requestAttempt surroundings request)
    (fun state => .error (retryableProviderError state.lastFailure request.policy.maxAttempts))
    request.policy.maxAttempts 1 ⟨0, none⟩

/-! ## The budget of an attempt -/

/-- The condition under which an attempt with `n` readings before it keeps the budget: a later
attempt does not find the deadline passed, and a body whose cancel rejects is not tried
again. -/
structure Spares (attempt n : ℕ) : Prop where
  enters : 1 < attempt → surroundings.clock n < request.deadlineAtMs
  cancels : surroundings.clock n < request.deadlineAtMs →
    settlementOf surroundings request attempt = .uncancelled →
    GivesUp request.policy.maxAttempts request.deadlineAtMs (surroundings.clock (n + 1))
      (delayOf surroundings attempt (.plain .network)) attempt

section Attempts

variable {surroundings : RequestSurroundings AttemptBehaviour} {request : Request} {attempt n : ℕ}

theorem count_of_handle {now : ℚ} {settlement : RequestSettlement JsonValue}
    {outcome : RequestOutcome} (h : handle surroundings attempt now settlement = .inl outcome) :
    transportAttemptCount outcome = some attempt := by
  unfold handle at h
  split at h
  · cases h
    rfl
  · cases h
  · cases h
  · cases h
    rfl
  · split at h
    · cases h
    · split at h
      · cases h
      · cases h
        rfl
  · cases h
  · cases h

/-- What is tried again was not final, or the cancel of its body has rejected. -/
theorem uncancelled_of_handle {now : ℚ} {settlement : RequestSettlement JsonValue}
    {failure : RetryableFailure} (h : handle surroundings attempt now settlement = .inr failure)
    (hfinal : isFinal settlement = true) :
    settlement = .uncancelled ∧ failure = .plain .network := by
  unfold handle at h
  split at h
  · cases h
  · cases hfinal
  · cases h
    exact ⟨rfl, rfl⟩
  · cases h
  · next code retryAfter =>
    simp only [isFinal, RequestSettlement.isFinal, isTransient, Bool.not_eq_true',
      Bool.or_eq_false_iff, beq_eq_false_iff_ne, Bool.and_eq_false_iff, decide_eq_false_iff_not]
      at hfinal
    rw [if_neg hfinal.1, if_neg (fun hserver => hfinal.2.elim (· hserver.1) (· hserver.2))] at h
    cases h
  · cases hfinal
  · cases hfinal

/-- What the loop's body does: it stops at the deadline, ends behind its request, or goes on to
the back-off. -/
theorem requestAttempt_cases (surroundings : RequestSurroundings AttemptBehaviour)
    (request : Request) (attempt : ℕ) (state : RetryState) :
    (request.deadlineAtMs ≤ surroundings.clock state.readings ∧
      requestAttempt surroundings request attempt state =
        ([.reads (surroundings.clock state.readings)], .inl (.error (deadlineError none)))) ∨
    surroundings.clock state.readings < request.deadlineAtMs ∧
      ((∃ now outcome, handle surroundings attempt now
          (settlementOf surroundings request attempt) = .inl outcome ∧
        requestAttempt surroundings request attempt state =
          (requestEvents surroundings request attempt state.readings, .inl outcome)) ∨
      ∃ now failure time exhausted late next,
        handle surroundings attempt now (settlementOf surroundings request attempt) =
          .inr failure ∧
        (failure = .plain .network → time = surroundings.clock (state.readings + 1)) ∧
        transportAttemptCount exhausted = some attempt ∧
        transportAttemptCount late = some attempt ∧
        requestAttempt surroundings request attempt state =
          (requestEvents surroundings request attempt state.readings ++
            ((rateLimitReading now failure).map .reads ++
              (backOff request.policy.maxAttempts request.deadlineAtMs time
                (delayOf surroundings attempt failure) attempt exhausted late next).1),
            (backOff (ω := RequestSettlement JsonValue) request.policy.maxAttempts
              request.deadlineAtMs time (delayOf surroundings attempt failure) attempt exhausted
              late next).2)) := by
  unfold requestAttempt
  dsimp only
  split
  · next hstop => exact .inl ⟨sub_nonpos.mp hstop, rfl⟩
  · next hgo =>
    refine .inr ⟨sub_pos.mp (not_le.mp hgo), ?_⟩
    split
    · next outcome hhandle => exact .inl ⟨_, outcome, hhandle, rfl⟩
    · next failure hhandle =>
      refine .inr ⟨_, failure, _, _, _, _, hhandle, ?_, rfl, rfl, rfl⟩
      rintro rfl
      rfl

theorem front_quiet (time : ℚ) :
    ∀ event ∈ [RetryEvent.reads (ω := RequestSettlement JsonValue) time],
      event.isQuiet = true := by
  simp [RetryEvent.isQuiet]

theorem middle_quiet (window : ℚ) :
    ∀ event ∈ [RetryEvent.arms (ω := RequestSettlement JsonValue) window],
      event.isQuiet = true := by
  simp [RetryEvent.isQuiet]

theorem isAttempt_requestAttempt (attempt : ℕ) (state : RetryState) :
    IsAttempt (requestAttempt surroundings request attempt state) := by
  rcases requestAttempt_cases surroundings request attempt state with ⟨-, h⟩ |
    ⟨-, ⟨now, outcome, -, h⟩ | ⟨now, failure, time, exhausted, late, next, -, -, -, -, h⟩⟩
  · rw [h]
    exact isAttempt_stopped _
  · rw [h]
    exact isAttempt_requested (front_quiet _) (middle_quiet _) ⟨_, _, rfl⟩ _
  · rw [h]
    exact isAttempt_backOff (front_quiet _) (middle_quiet _) ⟨_, _, rfl⟩
      (rateLimitReading_quiet now failure) _ _ _

/-- An attempt keeps the budget exactly when it spares the deadline and the final responses. -/
theorem keepsAttempt_iff (hattempt : 1 ≤ attempt) (state : RetryState) :
    KeepsAttempt request.deadlineAtMs isFinal transportAttemptCount attempt
        (requestAttempt surroundings request attempt state) ↔
      Spares surroundings request attempt state.readings := by
  rcases requestAttempt_cases surroundings request attempt state with ⟨hstop, h⟩ |
    ⟨hgo, ⟨now, outcome, hhandle, h⟩ |
      ⟨now, failure, time, exhausted, late, next, hhandle, htime, hexhausted, hlate, h⟩⟩
  · -- the error at the deadline counts no request, which is right for the first attempt only
    rw [h, keepsAttempt_stopped_iff]
    constructor
    · intro hcount
      have hzero : 0 = attempt - 1 := hcount 0 rfl
      exact ⟨fun hlater => absurd hzero (by omega),
        fun hlt => absurd hlt (not_lt.mpr hstop)⟩
    · intro hspares n hn
      cases hn
      have hfirst : ¬ 1 < attempt := fun hlater =>
        absurd (hspares.enters hlater) (not_lt.mpr hstop)
      show 0 = attempt - 1
      omega
  · have hiff := @keepsAttempt_requested_iff _ RetryState _ request.deadlineAtMs isFinal
      transportAttemptCount _ _ (settlementOf surroundings request attempt) _ attempt
      (front_quiet (surroundings.clock state.readings))
      (middle_quiet (max 1 (min request.policy.attemptTimeoutMs
        (request.deadlineAtMs - surroundings.clock state.readings))))
      rfl hattempt outcome (by simp [count_of_handle hhandle, eq_comm])
    rw [h]
    refine hiff.trans ⟨fun hlt => ⟨fun _ => hlt, fun _ hsettlement => ?_⟩, fun _ => hgo⟩
    rw [hsettlement] at hhandle
    cases hhandle
  · have hiff := @keepsAttempt_backOff_iff _ RetryState _ request.deadlineAtMs isFinal
      transportAttemptCount _ _ _ (settlementOf surroundings request attempt) _ time
      (delayOf surroundings attempt failure) request.policy.maxAttempts attempt
      (front_quiet (surroundings.clock state.readings))
      (middle_quiet (max 1 (min request.policy.attemptTimeoutMs
        (request.deadlineAtMs - surroundings.clock state.readings))))
      rfl hattempt (rateLimitReading_quiet now failure) exhausted late
      (by simp [hexhausted, eq_comm]) (by simp [hlate, eq_comm]) next
    rw [h]
    refine hiff.trans ⟨fun ⟨hlt, hgives⟩ => ⟨fun _ => hlt, fun _ hsettlement => ?_⟩,
      fun hspares => ⟨hgo, fun hfinal => ?_⟩⟩
    · rw [hsettlement] at hhandle hgives
      cases hhandle
      rw [← htime rfl]
      exact hgives rfl
    · obtain ⟨hsettlement, rfl⟩ := uncancelled_of_handle hhandle hfinal
      rw [htime rfl]
      exact hspares.cancels hgo hsettlement

/-- A run keeps its budget exactly when all its attempts spare the deadline and the final
responses. -/
theorem requestTranscriptionWithRetry_keepsBudget_iff
    (surroundings : RequestSurroundings AttemptBehaviour) (request : Request) :
    KeepsBudget request.deadlineAtMs isFinal transportAttemptCount request.policy.maxAttempts
        (requestTranscriptionWithRetry surroundings request) ↔
      ∀ entered ∈ enteredAttempts (requestAttempt surroundings request) request.policy.maxAttempts 1
        ⟨0, none⟩, Spares surroundings request entered.1 entered.2.readings :=
  keepsBudget_iff_forall isAttempt_requestAttempt (fun _ => rfl)
    (fun _ state hnumber => keepsAttempt_iff hnumber state) ⟨0, none⟩

end Attempts

/-- The first request meets a network error, and the sleep behind it ends at the deadline. -/
def lateSurroundings : RequestSurroundings AttemptBehaviour where
  clock n := if n ≤ 1 then 0 else 1000
  random _ := some 0
  behaviour _ := ⟨.silent, .networkError⟩
  platform := ⟨fun _ => none, fun _ => none⟩
  jsonParse _ := none

def lateRequest : Request := ⟨1000, 3, 30000, 256 * 1024, by decide, by decide, by decide⟩

theorem lateSurroundings_counts :
    resolvePolicy ⟨none, none, none⟩ = some lateRequest.policy ∧
    ((requestTranscriptionWithRetry lateSurroundings lateRequest).1.countP RetryEvent.isRequest,
      transportAttemptCount (requestTranscriptionWithRetry lateSurroundings lateRequest).2) =
        (1, some 0) := by
  refine ⟨resolveRetryPolicy_self 30000 (256 * 1024) lateRequest.policy, ?_⟩
  decide +kernel

end OpenRouterTranscription

/-! ## Both loops -/

/-- The run of the semantic loop and the run of the transcription loop keep their budgets exactly
when all the attempts that they make spare the deadline and the final responses. -/
theorem retryLoops_keepBudget_iff
    (semantic : RequestSurroundings HetznerSemantic.AttemptBehaviour)
    (semanticRequest : HetznerSemantic.Request)
    (transcription : RequestSurroundings OpenRouterTranscription.AttemptBehaviour)
    (transcriptionRequest : OpenRouterTranscription.Request) :
    (KeepsBudget semanticRequest.deadlineAtMs HetznerSemantic.Settled.isFinal
        HetznerSemantic.transportAttemptCount semanticRequest.policy.maxAttempts
        (HetznerSemantic.requestStreamWithRetry semantic semanticRequest) ∧
      KeepsBudget transcriptionRequest.deadlineAtMs OpenRouterTranscription.isFinal
        OpenRouterTranscription.transportAttemptCount transcriptionRequest.policy.maxAttempts
        (OpenRouterTranscription.requestTranscriptionWithRetry transcription
          transcriptionRequest)) ↔
      (∀ entered ∈ enteredAttempts (HetznerSemantic.requestAttempt semantic semanticRequest)
          semanticRequest.policy.maxAttempts 1 ⟨0, none⟩,
        HetznerSemantic.Spares semantic semanticRequest entered.1 entered.2.readings) ∧
      ∀ entered ∈ enteredAttempts
          (OpenRouterTranscription.requestAttempt transcription transcriptionRequest)
          transcriptionRequest.policy.maxAttempts 1 ⟨0, none⟩,
        OpenRouterTranscription.Spares transcription transcriptionRequest entered.1
          entered.2.readings :=
  and_congr (HetznerSemantic.requestStreamWithRetry_keepsBudget_iff semantic semanticRequest)
    (OpenRouterTranscription.requestTranscriptionWithRetry_keepsBudget_iff transcription
      transcriptionRequest)

/-- A clock that never goes back does not make every run of the transcription loop keep its
budget: the error of a sleep that overshoots the deadline counts no request. -/
theorem not_every_retry_keepsBudget :
    Monotone OpenRouterTranscription.lateSurroundings.clock ∧
    ¬ KeepsBudget OpenRouterTranscription.lateRequest.deadlineAtMs OpenRouterTranscription.isFinal
      OpenRouterTranscription.transportAttemptCount
      OpenRouterTranscription.lateRequest.policy.maxAttempts
      (OpenRouterTranscription.requestTranscriptionWithRetry
        OpenRouterTranscription.lateSurroundings OpenRouterTranscription.lateRequest) := by
  constructor
  · intro earlier later hle
    simp only [OpenRouterTranscription.lateSurroundings]
    split <;> split <;> first | omega | norm_num
  · intro hkeeps
    obtain ⟨-, hcounts⟩ := OpenRouterTranscription.lateSurroundings_counts
    obtain ⟨hrequests, hcount⟩ := Prod.ext_iff.mp hcounts
    exact absurd ((hkeeps.counts 0 hcount).trans hrequests) (by decide)

end Providers

end UnderstandProof
