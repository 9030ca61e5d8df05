import UnderstandProof.Foundation.History
import UnderstandProof.Foundation.JsString
import UnderstandProof.Foundation.SlidingWindow

/-!
# The limit of OAuth starts

The table of admitted starts, and a call of the limiter: a cleanup of expired rows and the
decision, in one transaction under an advisory lock. Every call brings the clock of its caller, so
the rows may have clocks that are ahead of a later call. The log of all admitted starts stands
beside the table, and no cleanup removes a start that counts for a later call.
-/

open Foundation Foundation.SlidingWindow

namespace UnderstandProof

namespace Web

def rateLimitWindowMs : ℤ := 5 * 60000

def rateLimitClientMaxStarts : ℕ := 4

def rateLimitGlobalMaxStarts : ℕ := 600

def rateLimitRetentionMs : ℤ := 10 * 60000

def rateLimitCleanupBatchSize : ℕ := 500

/-- `ClientKeyHashSchema` -/
def isClientKeyHash (value : JsString) : Bool :=
  value.length = 64 ∧ value.all isLowerHex

/-- A start that has been admitted. -/
structure OAuthStart where
  clientKeyHash : JsString
  occurredAt : ℤ
  deriving DecidableEq

/-- A row of `oauth_start_rate_limits`. -/
structure OAuthStartRow extends OAuthStart where
  id : ℕ
  expiresAt : ℤ
  deriving DecidableEq

/-- The rows in the order of their insertion, and the next value of their serial. -/
structure OAuthStartTable where
  rows : List OAuthStartRow
  nextId : ℕ
  deriving DecidableEq

inductive OAuthStartResult where
  | admitted
  | rateLimitExceeded (retryAfterSeconds : ℤ)
  /-- The input is rejected. -/
  | protectionError
  | unavailable
  deriving DecidableEq

/-- A call, with whether the database fails it. -/
structure OAuthStartCall where
  clientKeyHash : JsString
  now : ℤ
  fails : Bool
  deriving DecidableEq

/-! ## The statements -/

/-- `ORDER BY expires_at, id` -/
def startExpiresBefore (row row' : OAuthStartRow) : Prop :=
  row.expiresAt < row'.expiresAt ∨ row.expiresAt = row'.expiresAt ∧ row.id ≤ row'.id

instance : DecidableRel startExpiresBefore := fun _ _ => inferInstanceAs (Decidable (_ ∨ _))

namespace OAuthStartTable

/-- The rows that a cleanup deletes. -/
def expiredStarts (now : ℤ) (table : OAuthStartTable) : List OAuthStartRow :=
  ((table.rows.filter fun row => row.expiresAt ≤ now).insertionSort startExpiresBefore).take
    rateLimitCleanupBatchSize

/-- `DELETE FROM oauth_start_rate_limits WHERE id IN (…)` -/
def cleanup (now : ℤ) (table : OAuthStartTable) : OAuthStartTable :=
  { table with
    rows := table.rows.filter fun row => row.id ∉ (table.expiredStarts now).map OAuthStartRow.id }

/-- The earliest times, at most `limit` of them, of the rows that match, from a time on. -/
def recentStarts (selected : OAuthStart → Bool) (windowStart : ℤ) (limit : ℕ)
    (table : OAuthStartTable) : List ℤ :=
  (((table.rows.filter fun row =>
    selected row.toOAuthStart = true ∧ windowStart ≤ row.occurredAt).map
      fun row => row.occurredAt).insertionSort (· ≤ ·)).take limit

/-- `INSERT INTO oauth_start_rate_limits` -/
def insertStart (clientKeyHash : JsString) (now : ℤ) (table : OAuthStartTable) :
    OAuthStartTable where
  rows := table.rows ++
    [{ clientKeyHash := clientKeyHash
       occurredAt := now
       id := table.nextId
       expiresAt := now + rateLimitRetentionMs }]
  nextId := table.nextId + 1

end OAuthStartTable

/-- `Math.ceil` of milliseconds as seconds. -/
def ceilToSeconds (milliseconds : ℤ) : ℤ := -(-milliseconds / 1000)

def retryAfterSeconds (oldest now : ℤ) : ℤ :=
  max 1 (min (ceilToSeconds rateLimitWindowMs) (ceilToSeconds (oldest + rateLimitWindowMs - now)))

inductive OAuthStartQuota where
  | client
  | global
  deriving DecidableEq

namespace OAuthStartQuota

/-- The starts that a quota counts for a client. -/
def selects (clientKeyHash : JsString) : OAuthStartQuota → OAuthStart → Bool
  | client, start => start.clientKeyHash = clientKeyHash
  | global, _ => true

def limit : OAuthStartQuota → ℕ
  | client => rateLimitClientMaxStarts
  | global => rateLimitGlobalMaxStarts

theorem limit_pos (quota : OAuthStartQuota) : 0 < quota.limit := by cases quota <;> decide

end OAuthStartQuota

/-- The decision of a call, on the table after its cleanup. -/
def decideOAuthStart (clientKeyHash : JsString) (now : ℤ) (table : OAuthStartTable) :
    OAuthStartTable × OAuthStartResult :=
  let recent (quota : OAuthStartQuota) :=
    table.recentStarts (quota.selects clientKeyHash) (now - rateLimitWindowMs) quota.limit
  let recentClient := recent .client
  let recentGlobal := recent .global
  if recentClient.length < OAuthStartQuota.client.limit ∧
      recentGlobal.length < OAuthStartQuota.global.limit then
    (table.insertStart clientKeyHash now, .admitted)
  else
    match (if OAuthStartQuota.client.limit ≤ recentClient.length then recentClient.min?
        else recentGlobal.min?) with
    | none => (table, .unavailable)
    | some oldest => (table, .rateLimitExceeded (retryAfterSeconds oldest now))

/-- `consumeOAuthStartRateLimit` -/
def consumeOAuthStartRateLimit (call : OAuthStartCall) (table : OAuthStartTable) :
    OAuthStartTable × OAuthStartResult :=
  if isClientKeyHash call.clientKeyHash = false then (table, .protectionError)
  else if call.fails then (table, .unavailable)
  else decideOAuthStart call.clientKeyHash call.now (table.cleanup call.now)

/-! ## Histories -/

/-- The table, and all starts that have been admitted, in their order. -/
structure OAuthStartHistory where
  table : OAuthStartTable
  log : List OAuthStart

namespace OAuthStartHistory

def start : OAuthStartHistory := ⟨⟨[], 1⟩, []⟩

def step (history : OAuthStartHistory) (call : OAuthStartCall) : OAuthStartHistory :=
  let consumed := consumeOAuthStartRateLimit call history.table
  { table := consumed.1
    log :=
      if consumed.2 = .admitted then
        history.log ++ [{ clientKeyHash := call.clientKeyHash, occurredAt := call.now }]
      else history.log }

/-- The history of calls in the order of the lock. -/
abbrev afterStarts (calls : List OAuthStartCall) : OAuthStartHistory := after step start calls

/-- No earlier call is ahead of the time by the length of the window. -/
def IsLaterThan (calls : List OAuthStartCall) (now : ℤ) : Prop :=
  ∀ call ∈ calls, call.now < now + rateLimitWindowMs

/-- The starts of a list that count at a time. -/
def counted (now : ℤ) (starts : List OAuthStart) : List OAuthStart :=
  starts.filter fun start => now - rateLimitWindowMs ≤ start.occurredAt

/-- The table and the log agree on what counts for a later call. -/
structure Exact (calls : List OAuthStartCall) (history : OAuthStartHistory) : Prop where
  expiresAt : ∀ row ∈ history.table.rows, row.expiresAt = row.occurredAt + rateLimitRetentionMs
  id_lt : ∀ row ∈ history.table.rows, row.id < history.table.nextId
  id_nodup : (history.table.rows.map OAuthStartRow.id).Nodup
  counted : ∀ now, IsLaterThan calls now →
    counted now (history.table.rows.map OAuthStartRow.toOAuthStart) = counted now history.log

variable {calls : List OAuthStartCall} {call : OAuthStartCall} {history : OAuthStartHistory}
  {now : ℤ} {table : OAuthStartTable}

theorem exact_start : Exact [] start where
  expiresAt := fun _ h => nomatch h
  id_lt := fun _ h => nomatch h
  id_nodup := List.nodup_nil
  counted := fun _ _ => rfl

theorem Exact.later (h : Exact calls history) : Exact (calls ++ [call]) history where
  expiresAt := h.expiresAt
  id_lt := h.id_lt
  id_nodup := h.id_nodup
  counted := fun now hlater => h.counted now fun earlier hmem =>
    hlater earlier (List.mem_append_left _ hmem)

/-- A row that a cleanup deletes does not count for a call that comes later. -/
theorem Exact.not_counts_of_deleted (h : Exact calls history) {row : OAuthStartRow}
    (hrow : row ∈ history.table.rows) (hdeleted : row ∉ (history.table.cleanup call.now).rows)
    (hlater : call.now < now + rateLimitWindowMs) :
    row.occurredAt < now - rateLimitWindowMs := by
  have hid : row.id ∈ (history.table.expiredStarts call.now).map OAuthStartRow.id := by
    by_contra hid
    exact hdeleted (List.mem_filter.mpr ⟨hrow, decide_eq_true hid⟩)
  obtain ⟨expired, hexpired, hsame⟩ := List.mem_map.mp hid
  have hmem := (List.mem_insertionSort _).mp (List.mem_of_mem_take hexpired)
  obtain ⟨hexpiredRow, htime⟩ := List.mem_filter.mp hmem
  obtain rfl : expired = row := List.inj_on_of_nodup_map h.id_nodup hexpiredRow hrow hsame
  have hover : expired.expiresAt ≤ call.now := of_decide_eq_true htime
  rw [h.expiresAt expired hrow] at hover
  unfold rateLimitRetentionMs at hover
  unfold rateLimitWindowMs at hlater ⊢
  omega

theorem Exact.cleanup (h : Exact calls history) :
    Exact (calls ++ [call]) { history with table := history.table.cleanup call.now } where
  expiresAt := fun row hmem => h.expiresAt row (List.mem_filter.mp hmem).1
  id_lt := fun row hmem => h.id_lt row (List.mem_filter.mp hmem).1
  id_nodup := h.id_nodup.sublist (List.filter_sublist.map _)
  counted := by
    intro now hlater
    have hlast : call.now < now + rateLimitWindowMs :=
      hlater call (List.mem_append_right _ (List.mem_singleton_self _))
    have hcounted := h.later.counted now hlater
    rw [← hcounted]
    unfold OAuthStartHistory.counted
    rw [List.filter_map, List.filter_map]
    refine congrArg _ ?_
    unfold OAuthStartTable.cleanup
    rw [List.filter_filter]
    refine List.filter_congr fun row hrow => ?_
    rw [Bool.eq_iff_iff, Bool.and_eq_true]
    refine ⟨And.left, fun hcounts => ⟨hcounts, ?_⟩⟩
    by_contra hid
    have hdeleted : row ∉ (history.table.cleanup call.now).rows := fun hmem =>
      hid (List.mem_filter.mp hmem).2
    exact absurd (of_decide_eq_true hcounts)
      (not_le.mpr (h.not_counts_of_deleted hrow hdeleted hlast))

/-! ## The decision -/

theorem countSince_eq {selected : OAuthStart → Bool} {starts : List OAuthStart} :
    countSince OAuthStart.occurredAt selected (now - rateLimitWindowMs) starts =
      (counted now starts).countP selected := by
  unfold countSince OAuthStartHistory.counted
  rw [List.countP_filter]
  refine List.countP_congr fun start _ => ?_
  rw [decide_eq_true_eq, Bool.and_eq_true, decide_eq_true_eq]

theorem recentStarts_length {selected : OAuthStart → Bool} {since : ℤ} {limit : ℕ} :
    (table.recentStarts selected since limit).length =
      min limit (countSince OAuthStart.occurredAt selected since
        (table.rows.map OAuthStartRow.toOAuthStart)) := by
  unfold OAuthStartTable.recentStarts countSince
  rw [List.length_take, List.length_insertionSort, List.length_map, List.countP_map,
    List.countP_eq_length_filter]
  rfl

/-- The oldest of the starts that fill a quota. -/
theorem exists_oldest {selected : OAuthStart → Bool} {since : ℤ} {limit : ℕ} (hlimit : 0 < limit)
    (h : limit ≤ (table.recentStarts selected since limit).length) :
    ∃ row ∈ table.rows, selected row.toOAuthStart = true ∧ since ≤ row.occurredAt ∧
      (table.recentStarts selected since limit).min? = some row.occurredAt := by
  have hne : table.recentStarts selected since limit ≠ [] :=
    List.ne_nil_of_length_pos (hlimit.trans_le h)
  obtain ⟨oldest, holdest⟩ := Option.isSome_iff_exists.mp (List.isSome_min?_of_ne_nil hne)
  have hmem := (List.mem_insertionSort _).mp (List.mem_of_mem_take (List.min?_mem holdest))
  obtain ⟨row, hrow, rfl⟩ := List.mem_map.mp hmem
  obtain ⟨hmem, hcounts⟩ := List.mem_filter.mp hrow
  obtain ⟨hselected, hsince⟩ := of_decide_eq_true hcounts
  exact ⟨row, hmem, hselected, hsince, holdest⟩

/-- The starts that a quota counts for a client at a time. -/
def startCount (quota : OAuthStartQuota) (clientKeyHash : JsString) (now : ℤ)
    (history : OAuthStartHistory) : ℕ :=
  countSince OAuthStart.occurredAt (quota.selects clientKeyHash) (now - rateLimitWindowMs)
    history.log

/-- The quotas have room for a call. -/
def HasRoom (call : OAuthStartCall) (history : OAuthStartHistory) : Prop :=
  ∀ quota, history.startCount quota call.clientKeyHash call.now < quota.limit

/-- A call that comes to its decision. -/
def IsDecided (call : OAuthStartCall) : Prop :=
  isClientKeyHash call.clientKeyHash = true ∧ call.fails = false

theorem Exact.recentStarts_lt (h : Exact calls history) (hlater : IsLaterThan calls now)
    {quota : OAuthStartQuota} {clientKeyHash : JsString} :
    (history.table.recentStarts (quota.selects clientKeyHash) (now - rateLimitWindowMs)
      quota.limit).length < quota.limit ↔
      history.startCount quota clientKeyHash now < quota.limit := by
  unfold startCount
  rw [recentStarts_length, countSince_eq, countSince_eq, h.counted now hlater, min_lt_iff,
    or_iff_right (lt_irrefl _)]

theorem isLaterThan_concat (hlater : IsLaterThan calls call.now) :
    IsLaterThan (calls ++ [call]) call.now := by
  intro earlier hmem
  rcases List.mem_append.mp hmem with hmem | hmem
  · exact hlater earlier hmem
  · rw [List.mem_singleton.mp hmem]
    exact Int.lt_add_of_pos_right _ (by decide)

/-- A start of the table that counts is one of the log. -/
theorem Exact.mem_log (h : Exact calls history) (hlater : IsLaterThan calls now)
    {row : OAuthStartRow} (hmem : row ∈ history.table.rows)
    (hcounts : now - rateLimitWindowMs ≤ row.occurredAt) : row.toOAuthStart ∈ history.log := by
  have hfound : row.toOAuthStart ∈ OAuthStartHistory.counted now
      (history.table.rows.map OAuthStartRow.toOAuthStart) :=
    List.mem_filter.mpr ⟨List.mem_map_of_mem hmem, decide_eq_true hcounts⟩
  rw [h.counted now hlater] at hfound
  exact (List.mem_filter.mp hfound).1

/-- What a rejection is about: a full quota, which is that of the client if it is full, and a start
that it counts. -/
structure IsRejected (call : OAuthStartCall) (history : OAuthStartHistory)
    (quota : OAuthStartQuota) (oldest : OAuthStart) : Prop where
  full : quota.limit ≤ history.startCount quota call.clientKeyHash call.now
  first : quota = .global →
    history.startCount .client call.clientKeyHash call.now < OAuthStartQuota.client.limit
  mem : oldest ∈ history.log
  selected : quota.selects call.clientKeyHash oldest = true
  counted : call.now - rateLimitWindowMs ≤ oldest.occurredAt

/-- A decision admits exactly when both quotas have room. -/
theorem Exact.decide (h : Exact calls history) (hlater : IsLaterThan calls call.now)
    (hdecided : IsDecided call) :
    (history.HasRoom call ∧ consumeOAuthStartRateLimit call history.table =
      ((history.table.cleanup call.now).insertStart call.clientKeyHash call.now, .admitted)) ∨
    ¬history.HasRoom call ∧ ∃ quota oldest, IsRejected call history quota oldest ∧
      consumeOAuthStartRateLimit call history.table =
        (history.table.cleanup call.now,
          .rateLimitExceeded (retryAfterSeconds oldest.occurredAt call.now)) := by
  have hclean := @Exact.cleanup _ call _ h
  have hlast := isLaterThan_concat hlater
  have hroom : ∀ quota : OAuthStartQuota,
      ((history.table.cleanup call.now).recentStarts (quota.selects call.clientKeyHash)
        (call.now - rateLimitWindowMs) quota.limit).length < quota.limit ↔
        history.startCount quota call.clientKeyHash call.now < quota.limit :=
    fun _ => hclean.recentStarts_lt hlast
  have hrejected : ∀ quota : OAuthStartQuota,
      ¬history.startCount quota call.clientKeyHash call.now < quota.limit →
      (quota = .global →
        history.startCount .client call.clientKeyHash call.now < OAuthStartQuota.client.limit) →
      ∃ oldest, IsRejected call history quota oldest ∧
        ((history.table.cleanup call.now).recentStarts (quota.selects call.clientKeyHash)
          (call.now - rateLimitWindowMs) quota.limit).min? = some oldest.occurredAt := by
    intro quota hfull hfirst
    obtain ⟨row, hmem, hselected, hsince, hmin⟩ := exists_oldest quota.limit_pos
      (not_lt.mp fun hlt => hfull ((hroom quota).mp hlt))
    exact ⟨row.toOAuthStart, ⟨not_lt.mp hfull, hfirst, hclean.mem_log hlast hmem hsince, hselected,
      hsince⟩, hmin⟩
  have hconsume : consumeOAuthStartRateLimit call history.table =
      decideOAuthStart call.clientKeyHash call.now (history.table.cleanup call.now) := by
    unfold consumeOAuthStartRateLimit
    rw [hdecided.1, hdecided.2]
    rfl
  rw [hconsume]
  unfold decideOAuthStart
  dsimp only
  by_cases hclient : history.startCount .client call.clientKeyHash call.now <
      OAuthStartQuota.client.limit
  · by_cases hglobal : history.startCount .global call.clientKeyHash call.now <
        OAuthStartQuota.global.limit
    · refine .inl ⟨fun quota => ?_, if_pos ⟨(hroom .client).mpr hclient,
        (hroom .global).mpr hglobal⟩⟩
      cases quota with
      | client => exact hclient
      | global => exact hglobal
    · obtain ⟨oldest, hoverfull, hmin⟩ := hrejected .global hglobal fun _ => hclient
      refine .inr ⟨fun hall => hglobal (hall .global), .global, oldest, hoverfull, ?_⟩
      rw [if_neg fun hboth => hglobal ((hroom .global).mp hboth.2),
        if_neg (not_le.mpr ((hroom .client).mpr hclient)), hmin]
  · obtain ⟨oldest, hoverfull, hmin⟩ := hrejected .client hclient (nomatch ·)
    refine .inr ⟨fun hall => hclient (hall .client), .client, oldest, hoverfull, ?_⟩
    rw [if_neg fun hboth => hclient ((hroom .client).mp hboth.1),
      if_pos (not_lt.mp fun hlt => hclient ((hroom .client).mp hlt)), hmin]

/-! ## The run -/

theorem consume_of_not_decided (h : ¬IsDecided call) :
    (consumeOAuthStartRateLimit call table).1 = table ∧
      (consumeOAuthStartRateLimit call table).2 ≠ .admitted := by
  unfold consumeOAuthStartRateLimit
  split
  · exact ⟨rfl, nofun⟩
  · next hhash =>
    split
    · exact ⟨rfl, nofun⟩
    · next hfails =>
      exact absurd ⟨(Bool.not_eq_false _).mp hhash, (Bool.not_eq_true _).mp hfails⟩ h

theorem Exact.insertStart (h : Exact calls history) {clientKeyHash : JsString} :
    Exact calls
      { table := history.table.insertStart clientKeyHash now
        log := history.log ++ [{ clientKeyHash := clientKeyHash, occurredAt := now }] } where
  expiresAt := by
    intro row hmem
    rcases List.mem_append.mp hmem with hmem | hmem
    · exact h.expiresAt row hmem
    · rw [List.mem_singleton.mp hmem]
  id_lt := by
    intro row hmem
    rcases List.mem_append.mp hmem with hmem | hmem
    · exact (h.id_lt row hmem).trans (Nat.lt_succ_self _)
    · rw [List.mem_singleton.mp hmem]
      exact Nat.lt_succ_self _
  id_nodup := by
    unfold OAuthStartTable.insertStart
    rw [List.map_append, List.nodup_append]
    refine ⟨h.id_nodup, List.nodup_singleton _, fun id hid other hother => ?_⟩
    obtain ⟨row, hrow, rfl⟩ := List.mem_map.mp hid
    rw [List.mem_singleton.mp hother]
    exact (h.id_lt row hrow).ne
  counted := by
    intro later hlater
    have hcounted := h.counted later hlater
    unfold OAuthStartTable.insertStart OAuthStartHistory.counted at *
    rw [List.map_append, List.filter_append, List.filter_append, hcounted]
    rfl

/-- What holds of a history of calls that are not too far out of order. -/
structure Limited (calls : List OAuthStartCall) (history : OAuthStartHistory) : Prop where
  exact : Exact calls history
  fewer : ∀ quota clientKeyHash, SeesFewer OAuthStart.occurredAt
    (OAuthStartQuota.selects clientKeyHash quota) rateLimitWindowMs quota.limit history.log

theorem Limited.step (h : Limited calls history) (hlater : IsLaterThan calls call.now) :
    Limited (calls ++ [call]) (history.step call) := by
  by_cases hdecided : IsDecided call
  · obtain ⟨hroom, hadmitted⟩ | ⟨-, quota, oldest, -, hrejected⟩ :=
      h.exact.decide hlater hdecided
    · unfold OAuthStartHistory.step
      rw [hadmitted]
      refine ⟨h.exact.cleanup.insertStart, fun quota clientKeyHash => ?_⟩
      refine seesFewer_concat (h.fewer quota clientKeyHash) fun hselected => ?_
      cases quota with
      | client =>
          obtain rfl : call.clientKeyHash = clientKeyHash := of_decide_eq_true hselected
          exact hroom .client
      | global => exact hroom .global
    · unfold OAuthStartHistory.step
      rw [hrejected]
      exact ⟨h.exact.cleanup, h.fewer⟩
  · obtain ⟨htable, hresult⟩ := @consume_of_not_decided call history.table hdecided
    unfold OAuthStartHistory.step
    dsimp only
    rw [if_neg hresult, htable]
    exact ⟨h.exact.later, h.fewer⟩

/-- Each call has its own clock, and no call is ahead of a later one by five minutes. -/
def IsNearlyOrdered (calls : List OAuthStartCall) : Prop :=
  calls.Pairwise fun earlier later => earlier.now < later.now + rateLimitWindowMs

instance : DecidablePred IsNearlyOrdered := fun _ => inferInstanceAs (Decidable (List.Pairwise _ _))

theorem IsNearlyOrdered.isLaterThan {front rest : List OAuthStartCall}
    (h : IsNearlyOrdered (front ++ call :: rest)) : IsLaterThan front call.now := by
  obtain ⟨-, -, hbefore⟩ := List.pairwise_append.mp h
  exact fun earlier hmem => hbefore earlier hmem call List.mem_cons_self

theorem limited_after (h : IsNearlyOrdered calls) : Limited calls (afterStarts calls) := by
  induction calls using List.reverseRecOn with
  | nil => exact ⟨exact_start, fun _ _ => seesFewer_nil⟩
  | append_singleton calls call ih =>
      unfold afterStarts
      rw [after_concat]
      exact (ih (List.pairwise_append.mp h).1).step (@IsNearlyOrdered.isLaterThan call calls [] h)

/-! ## Retries -/

/-- A start that is not ahead has left the window when the time to wait is over. -/
theorem lt_of_waited {oldest later : ℤ} (hahead : oldest ≤ now)
    (hwaited : now + retryAfterSeconds oldest now * 1000 < later) :
    oldest < later - rateLimitWindowMs := by
  unfold retryAfterSeconds ceilToSeconds at hwaited
  unfold rateLimitWindowMs at hwaited ⊢
  omega

theorem now_lt_of_waited {oldest later : ℤ}
    (hwaited : now + retryAfterSeconds oldest now * 1000 < later) : now < later := by
  unfold retryAfterSeconds at hwaited
  omega

/-- After a rejection at which one quota has room and no start is ahead, there is room when the
time to wait is over. -/
theorem Limited.hasRoom_of_waited (h : Limited calls history) {later : OAuthStartCall}
    {quota : OAuthStartQuota} {oldest : OAuthStart}
    (hrejected : IsRejected call history quota oldest)
    (hahead : ∀ start ∈ history.log, start.occurredAt ≤ call.now)
    (hother : ∃ quota : OAuthStartQuota,
      history.startCount quota call.clientKeyHash call.now < quota.limit)
    (hclient : later.clientKeyHash = call.clientKeyHash)
    (hwaited : call.now + retryAfterSeconds oldest.occurredAt call.now * 1000 < later.now) :
    history.HasRoom later := by
  have hle : call.now - rateLimitWindowMs ≤ later.now - rateLimitWindowMs :=
    sub_le_sub_right (now_lt_of_waited hwaited).le _
  have hleft := lt_of_waited (hahead oldest hrejected.mem) hwaited
  intro other
  unfold startCount
  rw [hclient]
  by_cases hroom : history.startCount other call.clientKeyHash call.now < other.limit
  · exact (countSince_anti hle).trans_lt hroom
  · obtain rfl : other = quota := by
      obtain ⟨free, hfree⟩ := hother
      have hfull := not_lt.mpr hrejected.full
      cases other with
      | client =>
          cases quota with
          | client => rfl
          | global => exact absurd (hrejected.first rfl) hroom
      | global =>
          cases quota with
          | global => rfl
          | client =>
              cases free with
              | client => exact absurd hfree hfull
              | global => exact absurd hfree hroom
    refine (countSince_lt hle hrejected.mem hrejected.selected hrejected.counted hleft).trans_le ?_
    exact countSince_le (h.fewer other call.clientKeyHash) hahead

/-- What the limiter keeps to in a history of calls. -/
structure IsExact (calls : List OAuthStartCall) : Prop where
  /-- No closed interval of five minutes has more starts than a quota lets pass. -/
  bounded : ∀ quota clientKeyHash start,
    countWithin OAuthStart.occurredAt (OAuthStartQuota.selects clientKeyHash quota)
      rateLimitWindowMs start (afterStarts calls).log ≤ quota.limit
  /-- A call is admitted when the quotas have room in the five minutes up to its own clock, with
  what is ahead of it, and rejected when they have not. -/
  decides : ∀ front call rest, calls = front ++ call :: rest → IsDecided call →
    ((afterStarts front).HasRoom call ∧
      (consumeOAuthStartRateLimit call (afterStarts front).table).2 = .admitted) ∨
    (¬(afterStarts front).HasRoom call ∧ ∃ retryAfter,
      (consumeOAuthStartRateLimit call (afterStarts front).table).2 =
        .rateLimitExceeded retryAfter)
  /-- What a cleanup deletes does not count for the call or a later one. -/
  keeps : ∀ front call rest, calls = front ++ call :: rest →
    ∀ row ∈ (afterStarts front).table.rows,
      row ∉ ((afterStarts front).table.cleanup call.now).rows →
      ∀ later ∈ call :: rest, row.occurredAt < later.now - rateLimitWindowMs
  /-- After a rejection with one quota full and no start ahead of the call, the client is admitted
  when more than the time to wait is over and nothing has been admitted in between. -/
  retries : ∀ front call between later rest retryAfter,
    calls = front ++ call :: (between ++ later :: rest) → IsDecided call →
    (consumeOAuthStartRateLimit call (afterStarts front).table).2 =
      .rateLimitExceeded retryAfter →
    (∃ quota : OAuthStartQuota,
      (afterStarts front).startCount quota call.clientKeyHash call.now < quota.limit) →
    (∀ start ∈ (afterStarts front).log, start.occurredAt ≤ call.now) →
    (afterStarts (front ++ call :: between)).log = (afterStarts front).log →
    IsDecided later → later.clientKeyHash = call.clientKeyHash →
    call.now + retryAfter * 1000 < later.now →
    (consumeOAuthStartRateLimit later (afterStarts (front ++ call :: between)).table).2 =
      .admitted

theorem oauth_start_limiter_exact (calls : List OAuthStartCall) (h : IsNearlyOrdered calls) :
    IsExact calls where
  bounded := fun quota clientKeyHash start =>
    countWithin_le ((limited_after h).fewer quota clientKeyHash) start
  decides := by
    rintro front call rest rfl hdecided
    have hfront := limited_after (List.pairwise_append.mp h).1
    obtain ⟨hroom, hadmitted⟩ | ⟨hroom, quota, oldest, -, hrejected⟩ :=
      hfront.exact.decide h.isLaterThan hdecided
    · exact .inl ⟨hroom, by rw [hadmitted]⟩
    · exact .inr ⟨hroom, _, by rw [hrejected]⟩
  keeps := by
    rintro front call rest rfl row hrow hdeleted later hlater
    have hfront := limited_after (List.pairwise_append.mp h).1
    refine hfront.exact.not_counts_of_deleted hrow hdeleted ?_
    rcases List.mem_cons.mp hlater with rfl | hmem
    · exact Int.lt_add_of_pos_right _ (by decide)
    · exact List.rel_of_pairwise_cons (List.pairwise_append.mp h).2.1 hmem
  retries := by
    rintro front call between later rest retryAfter rfl hdecided hresult hother hahead hlog hlater
      hclient hwaited
    have hfront := limited_after (List.pairwise_append.mp h).1
    have hsplit : front ++ call :: (between ++ later :: rest) =
        (front ++ call :: between) ++ later :: rest := by
      rw [List.append_assoc, List.cons_append]
    rw [hsplit] at h
    have hbefore := limited_after (List.pairwise_append.mp h).1
    obtain ⟨-, hadmitted⟩ | ⟨-, quota, oldest, hrejected, hexceeded⟩ :=
      hfront.exact.decide (IsNearlyOrdered.isLaterThan (hsplit ▸ h)) hdecided
    · rw [hadmitted] at hresult
      cases hresult
    · rw [hexceeded] at hresult
      cases hresult
      have hroom := hfront.hasRoom_of_waited hrejected hahead hother hclient hwaited
      have hroom' : (afterStarts (front ++ call :: between)).HasRoom later := by
        intro quota
        unfold startCount
        rw [hlog]
        exact hroom quota
      obtain ⟨-, hadmitted⟩ | ⟨hfull, -⟩ := hbefore.exact.decide h.isLaterThan hlater
      · rw [hadmitted]
      · exact absurd hroom' hfull

/-! ## A clock behind, and a retry in time -/

def sampleStart (now : ℤ) : OAuthStartCall where
  clientKeyHash := js "aaaaaaaaaaaaaaaaaaaaaaaaaaaaaaaaaaaaaaaaaaaaaaaaaaaaaaaaaaaaaaaa"
  now := now
  fails := false

def sampleStarts : List OAuthStartCall := List.replicate 4 (sampleStart 100000)

theorem oauth_start_limiter_exact_sample :
    (consumeOAuthStartRateLimit (sampleStart 400001)
      (afterStarts (sampleStarts ++ [sampleStart 150000])).table).2 = .admitted :=
  (oauth_start_limiter_exact (sampleStarts ++ [sampleStart 150000, sampleStart 400001])
    (by decide)).retries sampleStarts (sampleStart 150000) [] (sampleStart 400001) [] 250 rfl
      ⟨by decide, rfl⟩ (by decide) ⟨.global, by decide⟩
      (by decide) (by decide) ⟨by decide, rfl⟩ rfl (by decide)

/-- A call whose clock is behind is rejected although no start is in the five minutes up to its
clock; and a client that comes back when exactly the time to wait is over is rejected again. -/
theorem rejected_behind_and_in_time :
    (IsNearlyOrdered (sampleStarts ++ [sampleStart 50000]) ∧
      (∀ quota : OAuthStartQuota, countWithin OAuthStart.occurredAt
        (quota.selects (sampleStart 0).clientKeyHash) rateLimitWindowMs
        (50000 - rateLimitWindowMs) (afterStarts sampleStarts).log = 0) ∧
      (consumeOAuthStartRateLimit (sampleStart 50000) (afterStarts sampleStarts).table).2 =
        .rateLimitExceeded 300) ∧
    (consumeOAuthStartRateLimit (sampleStart 150000) (afterStarts sampleStarts).table).2 =
      .rateLimitExceeded 250 ∧
    (consumeOAuthStartRateLimit (sampleStart (150000 + 250 * 1000))
      (afterStarts (sampleStarts ++ [sampleStart 150000])).table).2 = .rateLimitExceeded 1 := by
  refine ⟨⟨by decide, fun quota => ?_, by decide⟩, by decide, by decide⟩
  cases quota <;> decide

end OAuthStartHistory

end Web

end UnderstandProof
