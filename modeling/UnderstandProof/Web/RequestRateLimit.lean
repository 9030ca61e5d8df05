import UnderstandProof.Foundation.Except
import UnderstandProof.Foundation.JsString
import UnderstandProof.Foundation.SlidingWindow

/-!
# The request rate limit

The table of admitted requests and the two statements that a reservation runs in
its transaction: a cleanup of expired rows, and the decision, which counts the
rows of the window and inserts one when neither quota is full. Times are the
microseconds of the database clock.
-/

open Foundation

namespace UnderstandProof

namespace Web

inductive WebRequestRateLimitAction where
  | closedBetaSignup
  | handoffCreate
  | handoffExchange
  | uploadStart
  | uploadPartUrl
  | uploadPartComplete
  | uploadFinalize
  | reviewQueue
  | reviewDetail
  | reviewContext
  | evidenceCapability
  | evidenceStream
  | reviewDecision
  deriving DecidableEq, Repr

structure RateLimitPolicy where
  maximumEvents : ℕ
  globalMaximumEvents : ℕ
  windowSeconds : ℕ
  retentionSeconds : ℕ
  deriving DecidableEq, Repr

def policy (maximumEvents globalMaximumEvents windowSeconds : ℕ) : RateLimitPolicy where
  maximumEvents
  globalMaximumEvents
  windowSeconds
  retentionSeconds := windowSeconds + 5 * 60

def webRequestRateLimitPolicies : WebRequestRateLimitAction → RateLimitPolicy
  | .closedBetaSignup => policy 5 1000 (10 * 60)
  | .handoffCreate => policy 6 1000 (5 * 60)
  | .handoffExchange => policy 20 2000 (5 * 60)
  | .uploadStart => policy 8 1000 (10 * 60)
  | .uploadPartUrl => policy 128 20000 (10 * 60)
  | .uploadPartComplete => policy 128 20000 (10 * 60)
  | .uploadFinalize => policy 12 2000 (10 * 60)
  | .reviewQueue => policy 60 10000 (5 * 60)
  | .reviewDetail => policy 60 10000 (5 * 60)
  | .reviewContext => policy 30 5000 (5 * 60)
  | .evidenceCapability => policy 20 3000 (5 * 60)
  | .evidenceStream => policy 30 3000 (5 * 60)
  | .reviewDecision => policy 10 1000 (10 * 60)

def cleanupBatchSize : ℕ := 500

/-- `interval '1 second'`. -/
def second : ℤ := 1000000

/-- `CEIL(EXTRACT(EPOCH FROM …))` of a difference of times. -/
def ceilSeconds (difference : ℤ) : ℤ := -(-difference / second)

def subjectKeyHashAccepted (value : JsString) : Bool :=
  value.length == 64 && value.all isLowerHex

/-! ## The table -/

structure RateLimitEvent where
  action : WebRequestRateLimitAction
  subjectKeyHash : JsString
  occurredAt : ℤ
  deriving DecidableEq, Repr

structure RateLimitRow extends RateLimitEvent where
  id : ℕ
  expiresAt : ℤ
  deriving DecidableEq, Repr

/-- The rows in the order of their insertion, and the next value of their serial. -/
structure RateLimitTable where
  rows : List RateLimitRow
  nextId : ℕ
  deriving DecidableEq, Repr

def RateLimitTable.empty : RateLimitTable := ⟨[], 1⟩

/-- `ORDER BY expires_at, id`. -/
def expiresBefore (row row' : RateLimitRow) : Prop :=
  row.expiresAt < row'.expiresAt ∨ row.expiresAt = row'.expiresAt ∧ row.id ≤ row'.id

instance : DecidableRel expiresBefore := fun _ _ => inferInstanceAs (Decidable (_ ∨ _))

/-- The readings of the clock during a cleanup: the clock is volatile, so it is
read for every row, and the statement finishes after all readings. -/
structure CleanupClock where
  reading : RateLimitRow → ℤ
  finishedAt : ℤ
  reading_le : ∀ row, reading row ≤ finishedAt

/-- The expired rows that a cleanup deletes. -/
def expiredBatch (clock : CleanupClock) (rows : List RateLimitRow) : List RateLimitRow :=
  ((rows.filter fun row => row.expiresAt ≤ clock.reading row).insertionSort
    expiresBefore).take cleanupBatchSize

/-- `DELETE FROM web_request_rate_limits WHERE id IN (…)`. -/
def RateLimitTable.cleanup (clock : CleanupClock) (table : RateLimitTable) : RateLimitTable :=
  { table with
    rows := table.rows.filter fun row =>
      row.id ∉ (expiredBatch clock table.rows).map RateLimitRow.id }

/-! ## The decision -/

/-- The earliest times, at most `limit` of them, of the rows that match and lie
behind `since`. -/
def recentTimes (rows : List RateLimitRow) (selected : RateLimitRow → Bool) (since : ℤ)
    (limit : ℕ) : List ℤ :=
  (((rows.filter fun row => selected row && decide (since < row.occurredAt)).map
    fun row => row.occurredAt).insertionSort (· ≤ ·)).take limit

/-- `GREATEST`, which ignores a null. -/
def greatest : Option ℤ → Option ℤ → Option ℤ
  | some a, some b => some (max a b)
  | some a, none => some a
  | none, b => b

structure RateLimitCounts where
  occurredAt : ℤ
  subjectCount : ℕ
  subjectOldest : Option ℤ
  globalCount : ℕ
  globalOldest : Option ℤ
  deriving DecidableEq, Repr

def RateLimitTable.counts (table : RateLimitTable) (action : WebRequestRateLimitAction)
    (subjectKeyHash : JsString) (occurredAt : ℤ) : RateLimitCounts :=
  let quota := webRequestRateLimitPolicies action
  let since := occurredAt - quota.windowSeconds * second
  let recentSubject := recentTimes table.rows
    (fun row => row.action = action ∧ row.subjectKeyHash = subjectKeyHash) since
    quota.maximumEvents
  let recentGlobal := recentTimes table.rows (fun row => row.action = action) since
    quota.globalMaximumEvents
  { occurredAt
    subjectCount := recentSubject.length
    subjectOldest := recentSubject.min?
    globalCount := recentGlobal.length
    globalOldest := recentGlobal.min? }

/-- When a quota has room again: now, or when the oldest counted row has left the
window. -/
def quotaFreeAt (count limit : ℕ) (oldest : Option ℤ) (windowSeconds : ℕ)
    (occurredAt : ℤ) : Option ℤ :=
  if limit ≤ count then oldest.map (· + windowSeconds * second) else some occurredAt

def RateLimitCounts.retryAfterSeconds (counts : RateLimitCounts) (quota : RateLimitPolicy) :
    ℤ :=
  let freeAt := greatest
    (quotaFreeAt counts.subjectCount quota.maximumEvents counts.subjectOldest
      quota.windowSeconds counts.occurredAt)
    (quotaFreeAt counts.globalCount quota.globalMaximumEvents counts.globalOldest
      quota.windowSeconds counts.occurredAt)
  match freeAt with
  | some time =>
      max 1 (min quota.windowSeconds (ceilSeconds (time - counts.occurredAt)))
  | none => max 1 quota.windowSeconds

/-- What a reservation ends with. -/
inductive Reservation where
  | admitted
  | exceeded (retryAfterSeconds : ℤ)
  | unavailable
  deriving DecidableEq, Repr

/-- `INSERT INTO web_request_rate_limits`. -/
def RateLimitTable.insertEvent (table : RateLimitTable) (action : WebRequestRateLimitAction)
    (subjectKeyHash : JsString) (occurredAt : ℤ) : RateLimitTable where
  rows := table.rows ++
    [{ id := table.nextId, action, subjectKeyHash, occurredAt
       expiresAt := occurredAt +
        (webRequestRateLimitPolicies action).retentionSeconds * second }]
  nextId := table.nextId + 1

/-- The decision at `occurredAt`: one row more, or the seconds to wait. -/
def RateLimitTable.decide (table : RateLimitTable) (action : WebRequestRateLimitAction)
    (subjectKeyHash : JsString) (occurredAt : ℤ) : RateLimitTable × Reservation :=
  let quota := webRequestRateLimitPolicies action
  let counts := table.counts action subjectKeyHash occurredAt
  if counts.subjectCount < quota.maximumEvents ∧
      counts.globalCount < quota.globalMaximumEvents then
    (table.insertEvent action subjectKeyHash occurredAt, .admitted)
  else
    let retryAfterSeconds := counts.retryAfterSeconds quota
    if (maxSafeInteger : ℤ) < retryAfterSeconds ∨ retryAfterSeconds < 1 ∨
        (quota.windowSeconds : ℤ) < retryAfterSeconds then (table, .unavailable)
    else (table, .exceeded retryAfterSeconds)

/-- The two statements of a reservation, in a transaction of their own. `none` is
the rejection of a key that is no hash, before the first statement. -/
def reserveWebRequestRateLimit (table : RateLimitTable) (action : WebRequestRateLimitAction)
    (subjectKeyHash : JsString) (clock : CleanupClock) (occurredAt : ℤ) :
    RateLimitTable × Option Reservation :=
  if subjectKeyHashAccepted subjectKeyHash = false then (table, none)
  else
    let decision := (table.cleanup clock).decide action subjectKeyHash occurredAt
    (decision.1, some decision.2)

end Web

end UnderstandProof
