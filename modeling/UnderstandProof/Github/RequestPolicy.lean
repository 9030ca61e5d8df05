import Mathlib.Algebra.Order.Floor.Ring
import Mathlib.Data.Rat.Floor
import UnderstandProof.Foundation.Attempts
import UnderstandProof.Foundation.JsSchema
import UnderstandProof.Github.Lifecycle

/-!
# Requests to GitHub

Every request runs under a policy: at most three attempts, each with a timer, within one deadline.
A failure is classified by its status and its headers; a retryable one is tried again behind a
delay, as long as the deadline lies behind the delay. The clock is read one time after the other,
so time may pass between any two readings; the events of a request tell when it was read.
-/

open Foundation
open Foundation.JsValue (get natural)

namespace UnderstandProof

namespace Github

/-! ## Failures -/

inductive GithubControlErrorCode where
  | invalidInput
  | invalidKeyFile
  | invalidResponse
  | limitExceeded
  | staleHead
  | rateLimited
  | timeout
  | unavailable
  | rejected
  | ambiguousWrite
  deriving DecidableEq, Repr

structure GithubControlError where
  code : GithubControlErrorCode
  status : Option ℕ
  retryAfterMs : Option ℚ
  deriving DecidableEq, Repr

/-- An error with a code alone. -/
def GithubControlError.plain (code : GithubControlErrorCode) : GithubControlError :=
  ⟨code, none, none⟩

structure Failure where
  code : GithubControlErrorCode
  retryable : Bool
  status : Option ℕ
  retryAfterMs : Option ℚ
  deriving DecidableEq, Repr

def toControlError (failure : Failure) : GithubControlError :=
  ⟨failure.code, failure.status, failure.retryAfterMs⟩

mutual

/-- `String(value)` -/
def stringOf : JsValue → JsString
  | .undefined => js "undefined"
  | .null => js "null"
  | .bool true => js "true"
  | .bool false => js "false"
  | .num n => JsString.decimal n
  | .str s => s
  | .arr items => joinItems items
  | .obj _ => js "[object Object]"
  | .other text => text

/-- `items.join(",")` -/
def joinItems : List JsValue → JsString
  | [] => []
  | [item] => itemText item
  | item :: next :: items => itemText item ++ 0x2c :: joinItems (next :: items)

/-- The text of an item within a join. -/
def itemText : JsValue → JsString
  | .undefined => []
  | .null => []
  | item => stringOf item

end

/-- `Number(text)` where it is finite, and `Date.parse(text)` where it is a number. -/
structure NumberPlatform where
  number : JsString → Option ℚ
  dateParse : JsString → Option ℚ

/-- The members of an object; an array has none of those that are read. -/
def members : JsValue → Option (List (JsString × JsValue))
  | .obj fields => some fields
  | .arr _ => some []
  | _ => none

def header (headers : Option (List (JsString × JsValue))) (name : JsString) : Option JsString :=
  match (headers.getD []).find? fun entry => toLowerCase entry.1 == name with
  | none => none
  | some entry => if entry.2.isUndefined then none else some (stringOf entry.2)

/-- `Math.round` -/
def round (value : ℚ) : ℤ := ⌊value + 1 / 2⌋

def readRetryAfter (platform : NumberPlatform) (headers : Option (List (JsString × JsValue)))
    (now : ℚ) : Option ℚ :=
  let retryAfter := header headers (js "retry-after")
  match retryAfter.bind platform.number with
  | some seconds => if 0 ≤ seconds then some (round (seconds * 1000)) else orDate retryAfter
  | none => orDate retryAfter
where
  /-- The header as a date, and else the reset of an exhausted limit. -/
  orDate (retryAfter : Option JsString) : Option ℚ :=
    match retryAfter.bind platform.dateParse with
    | some date => some (max 0 (date - now))
    | none =>
        if header headers (js "x-ratelimit-remaining") = some (js "0") then
          match (header headers (js "x-ratelimit-reset")).bind platform.number with
          | some resetSeconds =>
              if 0 ≤ resetSeconds then some (max 0 (round (resetSeconds * 1000 - now))) else none
          | none => none
        else none

def secondaryRateLimitMarkers : List JsString :=
  [js "You have exceeded a secondary rate limit.",
    js "You have exceeded a secondary rate limit and have been temporarily blocked",
    js "You have triggered an abuse detection mechanism."]

def isSecondaryRateLimitMessage : JsValue → Bool
  | .str message => secondaryRateLimitMarkers.any fun marker => marker.isPrefixOf message
  | _ => false

structure HttpFailure where
  status : Option ℕ
  headers : Option (List (JsString × JsValue))
  secondaryRateLimit : Bool

/-- `first ?? second` -/
def orElse : JsValue → JsValue → JsValue
  | .undefined, second => second
  | .null, second => second
  | first, _ => first

def readHttpFailure (error : JsValue) : HttpFailure :=
  match members error with
  | none => ⟨none, none, false⟩
  | some record =>
      let response := (members (get (js "response") record)).getD []
      let responseData := (members (get (js "data") response)).getD []
      { status := natural 400 599 (orElse (get (js "status") record) (get (js "status") response))
        headers := members (orElse (get (js "headers") response) (get (js "headers") record))
        secondaryRateLimit := isSecondaryRateLimitMessage (get (js "message") responseData) }

def secondaryRateLimitMinimumRetryMs : ℚ := 60000

def classifyFailure (platform : NumberPlatform) (error : JsValue) (now : ℚ) : Failure :=
  let failure := readHttpFailure error
  match failure.status with
  | none => ⟨.unavailable, true, none, none⟩
  | some status =>
      let retryAfterMs := readRetryAfter platform failure.headers now
      let exhaustedPrimaryLimit :=
        header failure.headers (js "x-ratelimit-remaining") = some (js "0")
      if status = 429 ∨ status = 403 ∧
          (retryAfterMs ≠ none ∨ exhaustedPrimaryLimit ∨ failure.secondaryRateLimit = true) then
        ⟨.rateLimited, true, some status, retryAfterMs.or
          (if failure.secondaryRateLimit then some secondaryRateLimitMinimumRetryMs else none)⟩
      else if 500 ≤ status then ⟨.unavailable, true, some status, none⟩
      else ⟨.rejected, false, some status, none⟩

/-! ## The policy -/

/-- The numbers of a policy before they are checked; one that is not finite is never accepted. -/
structure GithubRequestPolicy where
  maxAttempts : Option ℚ
  deadlineMs : Option ℚ
  attemptTimeoutMs : Option ℚ
  deriving DecidableEq, Repr

structure ResolvedPolicy where
  maxAttempts : ℕ
  deadlineMs : ℚ
  attemptTimeoutMs : ℚ
  maxAttempts_bounds : 1 ≤ maxAttempts ∧ maxAttempts ≤ 3
  one_le_deadlineMs : 1 ≤ deadlineMs
  one_le_attemptTimeoutMs : 1 ≤ attemptTimeoutMs
  deriving DecidableEq

def resolvePolicy (policy : GithubRequestPolicy) : Option ResolvedPolicy :=
  let maxAttempts := policy.maxAttempts.getD 3
  let deadlineMs := policy.deadlineMs.getD 25000
  let attemptTimeoutMs := policy.attemptTimeoutMs.getD 10000
  if h : maxAttempts.den = 1 ∧ (1 ≤ maxAttempts.num.toNat ∧ maxAttempts.num.toNat ≤ 3) ∧
      1 ≤ deadlineMs ∧ 1 ≤ attemptTimeoutMs then
    some ⟨maxAttempts.num.toNat, deadlineMs, attemptTimeoutMs, h.2.1, h.2.2.1, h.2.2.2⟩
  else none

/-- A draw that is not a number gives a delay that is none; infinite draws are clamped like 0
and 1. -/
def jitteredBackoff (attempt : ℕ) (random : Option ℚ) : Option ℚ :=
  random.map fun random =>
    let base : ℚ := min (150 * 2 ^ (attempt - 1)) 1000
    round (base * (3 / 4 + max 0 (min 1 random) * (1 / 2)))

/-! ## Requests -/

/-- How the race of a request and its timer ends. -/
inductive AttemptEnd where
  | response (data : JsValue)
  | controlError (error : GithubControlError)
  | thrown (error : JsValue)
  | timeout

/-- What surrounds the requests: the readings of the clock, the draws, and what becomes of each
call that is made. -/
structure World (Call : Type) where
  clock : ℕ → ℚ
  random : ℕ → Option ℚ
  answer : ℕ → Call → AttemptEnd
  platform : NumberPlatform

/-- How often the clock has been read, how many calls were made, and how many a budget has
counted. -/
structure Cursor where
  readings : ℕ
  calls : ℕ
  apiCalls : ℕ
  deriving DecidableEq, Repr

/-- What the `catch` of an attempt sees. -/
inductive Settlement where
  | response
  | controlError
  | failure (failure : Failure)
  deriving DecidableEq, Repr

inductive RequestEvent (Call : Type) where
  | reads (time : ℚ)
  | arms (timeout : ℚ)
  | requests (call : Call)
  | settles (settlement : Settlement)
  | sleeps (delay : Option ℚ)
  deriving DecidableEq, Repr

section Execute

variable {Call : Type} (world : World Call)

/-- The callback of a request; a budget counts every call, and refuses those beyond it. -/
def request (maxApiCalls : Option ℕ) (call : Call) (cursor : Cursor) :
    List (RequestEvent Call) × AttemptEnd × Cursor :=
  let counted := { cursor with apiCalls := cursor.apiCalls + maxApiCalls.toList.length }
  if ∃ limit ∈ maxApiCalls, limit < counted.apiCalls then
    ([], .controlError (.plain .limitExceeded), counted)
  else ([.requests call], world.answer counted.calls call, { counted with calls := counted.calls + 1 })

/-- The failure of an attempt, behind a reading of the clock where an error is classified. -/
def failureOf (error : Option JsValue) (now : ℚ) : Failure :=
  match error with
  | none => ⟨.timeout, true, none, none⟩
  | some error => classifyFailure world.platform error now

/-- The result of a request with what has been read and counted. -/
abbrev Requested := Except GithubControlError JsValue × Cursor

/-- What an attempt hands on. -/
abbrev Continuation := Cursor × Option Failure

/-- The end of an attempt that failed: it gives up, or sleeps and hands on. -/
def backOff (policy : ResolvedPolicy) (deadlineAt : ℚ) (attempt : ℕ) (failure : Failure)
    (cursor : Cursor) : List (RequestEvent Call) × (Requested ⊕ Continuation) :=
  if failure.retryable = false ∨ attempt = policy.maxAttempts then
    ([], .inl (.error (toControlError failure), cursor))
  else
    let now := world.clock cursor.readings
    let next := { cursor with readings := cursor.readings + 1 }
    let delay := (jitteredBackoff attempt (world.random cursor.calls)).map
      (max · (failure.retryAfterMs.getD 0))
    if ∃ delay' ∈ delay, deadlineAt - now ≤ delay' then
      ([.reads now], .inl (.error (toControlError failure), next))
    else ([.reads now, .sleeps delay], .inr (next, some failure))

/-- The `catch` of an attempt. -/
def handleFailure (policy : ResolvedPolicy) (deadlineAt : ℚ) (attempt : ℕ) (error : Option JsValue)
    (cursor : Cursor) : List (RequestEvent Call) × (Requested ⊕ Continuation) :=
  let now := world.clock cursor.readings
  let failure := failureOf world error now
  let reading : List (RequestEvent Call) := if error.isSome then [.reads now] else []
  let rest := backOff world policy deadlineAt attempt failure
    { cursor with readings := cursor.readings + reading.length }
  (reading ++ .settles (.failure failure) :: rest.1, rest.2)

/-- The body of the loop. -/
def requestAttempt (policy : ResolvedPolicy) (deadlineAt : ℚ) (maxApiCalls : Option ℕ) (call : Call)
    (attempt : ℕ) (state : Continuation) :
    List (RequestEvent Call) × (Requested ⊕ Continuation) :=
  let now := world.clock state.1.readings
  let cursor := { state.1 with readings := state.1.readings + 1 }
  let remaining := deadlineAt - now
  if remaining ≤ 0 then ([.reads now], .inl (.error (.plain .timeout), cursor))
  else
    let made := request world maxApiCalls call cursor
    let front := [.reads now, .arms (max 1 (min policy.attemptTimeoutMs remaining))] ++ made.1
    match made.2.1 with
    | .response data => (front ++ [.settles .response], .inl (.ok data, made.2.2))
    | .controlError error => (front ++ [.settles .controlError], .inl (.error error, made.2.2))
    | .thrown error =>
        let rest := handleFailure world policy deadlineAt attempt (some error) made.2.2
        (front ++ rest.1, rest.2)
    | .timeout =>
        let rest := handleFailure world policy deadlineAt attempt none made.2.2
        (front ++ rest.1, rest.2)

/-- The events of a request, and what it returns or throws. -/
def executeGithubRequest (policy : GithubRequestPolicy) (maxApiCalls : Option ℕ) (call : Call)
    (cursor : Cursor) : List (RequestEvent Call) × Requested :=
  match resolvePolicy policy with
  | none => ([], .error (.plain .invalidInput), cursor)
  | some resolved =>
      let now := world.clock cursor.readings
      let run := runAttempts
        (requestAttempt world resolved (now + resolved.deadlineMs) maxApiCalls call)
        (fun state => (.error (toControlError (state.2.getD ⟨.unavailable, true, none, none⟩)),
          state.1))
        resolved.maxAttempts 1 ({ cursor with readings := cursor.readings + 1 }, none)
      (.reads now :: run.1, run.2)

end Execute

end Github

end UnderstandProof
