import UnderstandProof.Domain.Advance
import UnderstandProof.Foundation.Run

/-!
# Runs of an attempt

An attempt lives through `createAttempt` and any number of calls of
`transitionAttempt`, each applied to the attempt that the last successful call
returned; a failed call leaves it as it is. `AttemptInvariant` collects what
holds of every attempt reached that way. It is kept by one advance, hence by
one call, hence along every run.
-/

open Foundation

namespace UnderstandProof

namespace Domain

/-- A call of `transitionAttempt` without the attempt it is applied to. -/
structure TransitionCall where
  expectedStatus : AttemptStatus
  targetStatus : AttemptStatus
  expectedHeadSha : JsString
  currentHeadSha : JsString
  actor : RawActor
  artifacts : ArtifactRefsOf JsString
  idempotencyKey : JsString
  dependencies : AttemptDependencies
  maxAuthorizationAgeMs : Option Int

namespace TransitionCall

/-- The command of the call, with its attempt field filled in. -/
def command (call : TransitionCall) (attempt : Attempt) : RawCommand where
  attempt := Attempt.raw attempt
  expectedStatus := call.expectedStatus
  targetStatus := call.targetStatus
  expectedHeadSha := call.expectedHeadSha
  currentHeadSha := call.currentHeadSha
  actor := call.actor
  artifacts := call.artifacts
  idempotencyKey := call.idempotencyKey

def run (call : TransitionCall) (attempt : Attempt) :
    Except AttemptFailure AttemptTransitionResult × AttemptDependencies :=
  (transitionAttempt (call.command attempt) call.maxAuthorizationAgeMs).run
    call.dependencies

end TransitionCall

/-- The attempt after a call. -/
def afterCall (attempt : Attempt) (call : TransitionCall) : Attempt :=
  match (call.run attempt).1 with
  | .ok result => result.attempt
  | .error _ => attempt

/-- One step of a run. -/
def CallStep (attempt : Attempt) (call : TransitionCall) (next : Attempt) : Prop :=
  afterCall attempt call = next

/-- The attempt is the result of some `createAttempt`. -/
def Created (attempt : Attempt) : Prop :=
  ∃ input d, ((createAttempt input).run d).1 = .ok attempt

theorem run_foldl (attempt : Attempt) (calls : List TransitionCall) :
    Run CallStep attempt calls (calls.foldl afterCall attempt) := by
  induction calls using List.reverseRecOn with
  | nil => exact Run.nil
  | append_singleton calls call ih =>
      rw [List.foldl_concat]
      exact Run.snoc ih rfl

/-- A parsed call works on the attempt it was applied to. -/
theorem parse_command {call : TransitionCall} {attempt : Attempt}
    {command : AttemptTransitionCommand}
    (h : AttemptTransitionCommandSchema.parse (call.command attempt) = .ok command) :
    command.attempt = attempt ∧
      AttemptArtifactRefsSchema.parse call.artifacts = .ok command.artifacts ∧
      ∀ other, AttemptTransitionCommandSchema.parse (call.command other) =
        .ok { command with attempt := other } := by
  simp only [AttemptTransitionCommandSchema.parse, TransitionCall.command,
    AttemptSchema.parse_raw, except_ok_bind, except_pure, bind_eq_ok,
    Except.ok.injEq] at h
  obtain ⟨expectedSha, hexpected, currentSha, hcurrent, actor, hactor, artifacts,
    hartifacts, key, hkey, rfl⟩ := h
  refine ⟨rfl, hartifacts, fun other => ?_⟩
  simp only [AttemptTransitionCommandSchema.parse, TransitionCall.command,
    AttemptSchema.parse_raw, hexpected, hcurrent, hactor, hartifacts, hkey,
    except_ok_bind, except_pure]

theorem run_eq_ok {call : TransitionCall} {attempt : Attempt}
    {result : AttemptTransitionResult} (h : (call.run attempt).1 = .ok result) :
    ∃ command, AttemptTransitionCommandSchema.parse (call.command attempt) =
        .ok command ∧ command.attempt = attempt ∧
      ((result.replayed = true ∧ result.attempt = attempt) ∨
        (result.replayed = false ∧
          ∃ now, Advance command now result.attempt result.receipt)) := by
  obtain ⟨command, hparse, hcases⟩ := transitionAttempt_eq_ok h
  have hattempt := (parse_command hparse).1
  refine ⟨command, hparse, hattempt, ?_⟩
  rcases hcases with ⟨hreplayed, hsame, -⟩ | ⟨hreplayed, now, -, hadvance⟩
  · exact Or.inl ⟨hreplayed, hsame.trans hattempt⟩
  · exact Or.inr ⟨hreplayed, now, hadvance⟩

/-- A call leaves the attempt as it is, or advances it. -/
theorem callStep_cases {attempt next : Attempt} {call : TransitionCall}
    (h : CallStep attempt call next) :
    next = attempt ∨ ∃ command now receipt,
      AttemptTransitionCommandSchema.parse (call.command attempt) = .ok command ∧
        command.attempt = attempt ∧ Advance command now next receipt := by
  unfold CallStep afterCall at h
  cases hrun : (call.run attempt).1 with
  | error e =>
      rw [hrun] at h
      exact Or.inl h.symm
  | ok result =>
      rw [hrun] at h
      subst h
      obtain ⟨command, hparse, hattempt, hcases⟩ := run_eq_ok hrun
      rcases hcases with ⟨-, hsame⟩ | ⟨-, now, hadvance⟩
      · exact Or.inl hsame
      · exact Or.inr ⟨command, now, result.receipt, hparse, hattempt, hadvance⟩

/-! ## The chain of receipts -/

/-- The receipts lead from `s` to `t` along allowed transitions. -/
def ReceiptChain :
    AttemptStatus → List AttemptTransitionReceipt → AttemptStatus → Prop
  | s, [], t => s = t
  | s, r :: receipts, t =>
      r.from = s ∧ r.to ∈ allowedAttemptTransitions s ∧ ReceiptChain r.to receipts t

theorem receiptChain_append_singleton {s t : AttemptStatus}
    {receipts : List AttemptTransitionReceipt} {r : AttemptTransitionReceipt}
    (h : ReceiptChain s receipts t) (hfrom : r.from = t)
    (hto : r.to ∈ allowedAttemptTransitions t) :
    ReceiptChain s (receipts ++ [r]) r.to := by
  induction receipts generalizing s with
  | nil =>
      obtain rfl : s = t := h
      exact ⟨hfrom, hto, rfl⟩
  | cons q receipts ih => exact ⟨h.1, h.2.1, ih h.2.2⟩

/-- How far a status is from the start; every terminal status is last. -/
def statusRank : AttemptStatus → ℕ
  | .preparing => 0
  | .ready => 1
  | .active => 2
  | .uploading => 3
  | .processing => 4
  | .reviewRequired => 5
  | _ => 6

theorem statusRank_lt_of_allowed {s t : AttemptStatus}
    (h : t ∈ allowedAttemptTransitions s) : statusRank s < statusRank t := by
  cases s <;> cases t <;> revert h <;> decide

theorem statusRank_le (s : AttemptStatus) : statusRank s ≤ 6 := by
  cases s <;> decide

/-- Every receipt of a chain ends at or before its last status, and the ranks
grow by at least one for each receipt. -/
theorem receiptChain_rank {s t : AttemptStatus}
    {receipts : List AttemptTransitionReceipt} (h : ReceiptChain s receipts t) :
    statusRank s + receipts.length ≤ statusRank t ∧
      ∀ r ∈ receipts, statusRank r.to ≤ statusRank t := by
  induction receipts generalizing s with
  | nil =>
      obtain rfl : s = t := h
      simp
  | cons q receipts ih =>
      have hlt := statusRank_lt_of_allowed h.2.1
      obtain ⟨hlength, hmem⟩ := ih h.2.2
      refine ⟨by rw [List.length_cons]; omega, ?_⟩
      intro r hr
      rcases List.mem_cons.mp hr with rfl | hr
      · omega
      · exact hmem r hr

/-! ## The invariant -/

/-- What holds of each receipt of an attempt. -/
structure ReceiptInvariant (attempt : Attempt) (r : AttemptTransitionReceipt) :
    Prop where
  attemptId : r.attemptId = attempt.id
  expectedHeadSha : r.expectedHeadSha = attempt.headSha
  currentHeadSha : r.to = .invalidated ↔ r.currentHeadSha ≠ attempt.headSha
  beforeExpiry : r.to ≠ .expired → r.to ≠ .invalidated →
    r.occurredAt < attempt.expiresAt
  due : r.to = .expired → attempt.expiresAt ≤ r.occurredAt
  byAuthor : r.to = .active ∨ r.to = .uploading →
    r.actorRole = .author ∧ r.actorId = attempt.authorId
  byMaintainer : r.to = .passed ∨ r.to = .retryRequired → r.actorRole = .maintainer

structure AttemptInvariant (attempt : Attempt) : Prop where
  chain : ReceiptChain .preparing attempt.transitionReceipts attempt.status
  keys : (attempt.transitionReceipts.map fun r => r.idempotencyKey).Nodup
  receipts : ∀ r ∈ attempt.transitionReceipts, ReceiptInvariant attempt r
  completed : attempt.completedAt.get.isSome ↔ isTerminalAttemptStatus attempt.status
  invalidated : attempt.invalidatedAt.get.isSome ↔ attempt.status = .invalidated
  started : ∀ t, attempt.startedAt.get = some t ↔
    ∃ r ∈ attempt.transitionReceipts, r.to = .active ∧ r.occurredAt = t

/-- The fields that no transition touches. -/
structure SameIdentity (attempt next : Attempt) : Prop where
  id : next.id = attempt.id
  headSha : next.headSha = attempt.headSha
  repositoryId : next.repositoryId = attempt.repositoryId
  authorId : next.authorId = attempt.authorId
  expiresAt : next.expiresAt = attempt.expiresAt
  createdAt : next.createdAt = attempt.createdAt

theorem SameIdentity.refl (attempt : Attempt) : SameIdentity attempt attempt :=
  ⟨rfl, rfl, rfl, rfl, rfl, rfl⟩

theorem SameIdentity.trans {a b c : Attempt} (h : SameIdentity a b)
    (h' : SameIdentity b c) : SameIdentity a c :=
  ⟨h'.id.trans h.id, h'.headSha.trans h.headSha,
    h'.repositoryId.trans h.repositoryId, h'.authorId.trans h.authorId,
    h'.expiresAt.trans h.expiresAt, h'.createdAt.trans h.createdAt⟩

theorem attemptInvariant_of_created {attempt : Attempt} (h : Created attempt) :
    AttemptInvariant attempt := by
  obtain ⟨raw, d, hok⟩ := h
  obtain ⟨now, -, id, input, rfl⟩ := createAttempt_eq_ok hok
  exact {
    chain := rfl
    keys := List.nodup_nil
    receipts := fun r hr => absurd hr List.not_mem_nil
    completed := by simp [isTerminalAttemptStatus, terminalAttemptStatuses]
    invalidated := by simp
    started := by simp }

section Advance

variable {command : AttemptTransitionCommand} {now : Timestamp} {next : Attempt}
  {receipt : AttemptTransitionReceipt}

theorem Advance.sameIdentity (h : Advance command now next receipt) :
    SameIdentity command.attempt next := by
  rw [h.next_eq]
  exact ⟨rfl, rfl, rfl, rfl, rfl, rfl⟩

theorem Advance.receipts_eq (h : Advance command now next receipt) :
    next.transitionReceipts = command.attempt.transitionReceipts ++ [receipt] := by
  rw [h.next_eq]

theorem Advance.status_eq (h : Advance command now next receipt) :
    next.status = receipt.to := by
  rw [h.next_eq, h.receipt_eq]

/-- The new receipt meets what is asked of every receipt. -/
theorem Advance.receiptInvariant (h : Advance command now next receipt) :
    ReceiptInvariant next receipt := by
  have hrole := h.role
  have hauthor := h.author
  rw [h.next_eq, h.receipt_eq]
  refine {
    attemptId := rfl
    expectedHeadSha := h.boundSha
    currentHeadSha := h.invalidated_iff
    beforeExpiry := h.notExpired
    due := h.due
    byAuthor := ?_
    byMaintainer := ?_ }
  · rintro (htarget | htarget)
    · have hr : command.actor.role = .author := by
        change command.targetStatus = _ at htarget
        simpa [htarget, transitionAuthorization] using hrole
      exact ⟨hr, hauthor hr⟩
    · have hr : command.actor.role = .author := by
        change command.targetStatus = _ at htarget
        simpa [htarget, transitionAuthorization] using hrole
      exact ⟨hr, hauthor hr⟩
  · rintro (htarget | htarget) <;>
      · change command.targetStatus = _ at htarget
        simpa [htarget, transitionAuthorization] using hrole

/-- An earlier receipt stays valid, since it only looks at fields that do not
change. -/
theorem ReceiptInvariant.of_sameIdentity {attempt next : Attempt}
    {r : AttemptTransitionReceipt} (h : ReceiptInvariant attempt r)
    (hsame : SameIdentity attempt next) : ReceiptInvariant next r where
  attemptId := h.attemptId.trans hsame.id.symm
  expectedHeadSha := h.expectedHeadSha.trans hsame.headSha.symm
  currentHeadSha := by rw [hsame.headSha]; exact h.currentHeadSha
  beforeExpiry := by rw [hsame.expiresAt]; exact h.beforeExpiry
  due := by rw [hsame.expiresAt]; exact h.due
  byAuthor := by rw [hsame.authorId]; exact h.byAuthor
  byMaintainer := h.byMaintainer

theorem get_spread_if {p : Property Timestamp} {c : Prop} [Decidable c]
    {t : Timestamp} (hp : p.get = none) :
    (p.spread (if c then .value t else .absent)).get = if c then some t else none := by
  by_cases hc : c <;> simp [hc, hp]

/-- A running attempt has neither been completed nor invalidated. -/
theorem AttemptInvariant.open_of_running {attempt : Attempt}
    (h : AttemptInvariant attempt)
    (hrunning : isTerminalAttemptStatus attempt.status = false) :
    attempt.completedAt.get = none ∧ attempt.invalidatedAt.get = none := by
  constructor
  · have hnot := h.completed.not
    simpa [hrunning] using hnot
  · have hnot : ¬ attempt.status = .invalidated := by
      intro hinv
      rw [hinv] at hrunning
      cases hrunning
    simpa [hnot] using h.invalidated.not

/-- The start time is set by the receipt into `active` and by nothing else: an
attempt enters `active` from `ready`, where no receipt into `active` can lie
behind it. -/
theorem Advance.started (h : Advance command now next receipt)
    (hinv : AttemptInvariant command.attempt) (t : Timestamp) :
    next.startedAt.get = some t ↔
      ∃ r ∈ next.transitionReceipts, r.to = .active ∧ r.occurredAt = t := by
  have hrank := (receiptChain_rank hinv.chain).2
  have hto : receipt.to = command.targetStatus := by rw [h.receipt_eq]
  have htime : receipt.occurredAt = now := by rw [h.receipt_eq]
  have hstarted : next.startedAt = command.attempt.startedAt.spread
      (if command.targetStatus = .active ∧ command.attempt.startedAt.get = none
        then .value now else .absent) := by rw [h.next_eq]
  rw [hstarted, h.receipts_eq]
  simp only [List.mem_append, List.mem_singleton, or_and_right, exists_or,
    exists_eq_left, hto, htime]
  by_cases htarget : command.targetStatus = .active
  · have hlt := statusRank_lt_of_allowed h.allowed
    have hearlier : ¬ ∃ r ∈ command.attempt.transitionReceipts,
        r.to = .active ∧ r.occurredAt = t := by
      rintro ⟨r, hr, hactive, -⟩
      have hle := hrank r hr
      rw [hactive] at hle
      rw [htarget] at hlt
      omega
    have hnone : command.attempt.startedAt.get = none := by
      cases hget : command.attempt.startedAt.get with
      | none => rfl
      | some u =>
          obtain ⟨r, hr, hactive, -⟩ := (hinv.started u).mp hget
          have hle := hrank r hr
          rw [hactive] at hle
          rw [htarget] at hlt
          omega
    simp [htarget, hnone, hearlier]
  · simpa [htarget] using hinv.started t

theorem Advance.attemptInvariant (h : Advance command now next receipt)
    (hinv : AttemptInvariant command.attempt) : AttemptInvariant next := by
  have hsame := h.sameIdentity
  have hto : receipt.to = command.targetStatus := by rw [h.receipt_eq]
  have hfrom : receipt.from = command.attempt.status := by rw [h.receipt_eq]
  have hkey : receipt.idempotencyKey = command.idempotencyKey := by rw [h.receipt_eq]
  obtain ⟨hcompleted, hinvalidated⟩ := hinv.open_of_running h.running
  refine {
    chain := ?_
    keys := ?_
    receipts := ?_
    completed := ?_
    invalidated := ?_
    started := h.started hinv }
  · rw [h.receipts_eq, h.status_eq]
    exact receiptChain_append_singleton hinv.chain hfrom (hto ▸ h.allowed)
  · rw [h.receipts_eq, List.map_append, List.map_singleton, ← List.concat_eq_append,
      List.nodup_concat]
    refine ⟨?_, hinv.keys⟩
    intro hmem
    obtain ⟨r, hr, hrkey⟩ := List.mem_map.mp hmem
    exact h.freshKey r hr (hrkey.trans hkey)
  · intro r hr
    rw [h.receipts_eq] at hr
    rcases List.mem_append.mp hr with hr | hr
    · exact (hinv.receipts r hr).of_sameIdentity hsame
    · obtain rfl := List.mem_singleton.mp hr
      exact h.receiptInvariant
  · rw [h.next_eq]
    simp only [get_spread_if hcompleted]
    by_cases hterminal : isTerminalAttemptStatus command.targetStatus <;>
      simp [hterminal]
  · rw [h.next_eq]
    simp only [get_spread_if hinvalidated]
    by_cases htarget : command.targetStatus = .invalidated <;> simp [htarget]

end Advance

/-! ## Along a run -/

theorem callStep_attemptInvariant (attempt : Attempt) (call : TransitionCall)
    (next : Attempt) (hinv : AttemptInvariant attempt)
    (h : CallStep attempt call next) : AttemptInvariant next := by
  rcases callStep_cases h with rfl | ⟨command, now, receipt, -, rfl, hadvance⟩
  · exact hinv
  · exact hadvance.attemptInvariant hinv

theorem callStep_sameIdentity (attempt : Attempt) (call : TransitionCall)
    (next : Attempt) (h : CallStep attempt call next) : SameIdentity attempt next := by
  rcases callStep_cases h with rfl | ⟨command, now, receipt, -, rfl, hadvance⟩
  · exact SameIdentity.refl _
  · exact hadvance.sameIdentity

theorem callStep_receipts_isPrefix (attempt : Attempt) (call : TransitionCall)
    (next : Attempt) (h : CallStep attempt call next) :
    attempt.transitionReceipts <+: next.transitionReceipts := by
  rcases callStep_cases h with rfl | ⟨command, now, receipt, -, rfl, hadvance⟩
  · exact List.prefix_refl _
  · rw [hadvance.receipts_eq]
    exact List.prefix_append _ _

theorem run_attemptInvariant {attempt next : Attempt} {calls : List TransitionCall}
    (h : Run CallStep attempt calls next) (hinv : AttemptInvariant attempt) :
    AttemptInvariant next :=
  h.invariant callStep_attemptInvariant hinv

theorem run_sameIdentity {attempt next : Attempt} {calls : List TransitionCall}
    (h : Run CallStep attempt calls next) : SameIdentity attempt next :=
  h.relates (I := fun _ => True) SameIdentity.refl (fun _ _ _ => SameIdentity.trans)
    (fun _ _ _ _ _ => trivial) (fun a c b _ => callStep_sameIdentity a c b) trivial

/-- No receipt is ever lost or changed. -/
theorem run_receipts_isPrefix {attempt next : Attempt} {calls : List TransitionCall}
    (h : Run CallStep attempt calls next) :
    attempt.transitionReceipts <+: next.transitionReceipts :=
  h.relates (I := fun _ => True)
    (R := fun a b => a.transitionReceipts <+: b.transitionReceipts)
    (fun _ => List.prefix_refl _) (fun _ _ _ => List.IsPrefix.trans)
    (fun _ _ _ _ _ => trivial) (fun a c b _ => callStep_receipts_isPrefix a c b) trivial

/-- The history of every attempt: its receipts, the times that follow from them,
and the fields that stay as created. -/
theorem attempt_history {created attempt : Attempt} {calls : List TransitionCall}
    (hcreated : Created created) (hrun : Run CallStep created calls attempt) :
    AttemptInvariant attempt ∧ attempt.transitionReceipts.length ≤ 6 ∧
      SameIdentity created attempt := by
  have hinv := run_attemptInvariant hrun (attemptInvariant_of_created hcreated)
  have hlength := (receiptChain_rank hinv.chain).1
  have hrank := statusRank_le attempt.status
  refine ⟨hinv, ?_, run_sameIdentity hrun⟩
  simp only [statusRank] at hlength hrank
  omega

/-! A run in which an attempt is prepared, started and then given up for a
technical reason. -/

def sampleDependencies (t : Timestamp) (id : String) : AttemptDependencies where
  clock := fun _ => some t
  ids := fun _ => js id

def sampleInput : RawCreateAttemptInput where
  repositoryId := js "10000000-0000-4000-8000-000000000001"
  revisionId := js "10000000-0000-4000-8000-000000000002"
  proofPlanId := js "10000000-0000-4000-8000-000000000003"
  authorId := js " github-user-42 "
  headSha := js "aaaaaaaaaaaaaaaaaaaaaaaaaaaaaaaaaaaaaaaa"
  expiresAt := some 3600000

def sampleAttempt : Attempt where
  id := ⟨js "00000000-0000-4000-8000-000000000001", by decide⟩
  repositoryId := ⟨sampleInput.repositoryId, by decide⟩
  revisionId := ⟨sampleInput.revisionId, by decide⟩
  proofPlanId := ⟨sampleInput.proofPlanId, by decide⟩
  authorId := ⟨js "github-user-42", by decide⟩
  headSha := ⟨sampleInput.headSha, by decide⟩
  status := .preparing
  expiresAt := 3600000
  createdAt := 0
  updatedAt := 0
  startedAt := .absent
  completedAt := .absent
  invalidatedAt := .absent
  artifacts := fun _ => .absent
  transitionReceipts := []

theorem created_sampleAttempt : Created sampleAttempt :=
  ⟨sampleInput, sampleDependencies 0 "00000000-0000-4000-8000-000000000001",
    by decide⟩

/-- A call on the sample attempt, by a fresh and well authorized actor. -/
def sampleCall (source target : AttemptStatus) (role : ActorRole) (actorId : String)
    (scope : AuthorizationScope) (artifacts : ArtifactRefsOf JsString)
    (key id : String) (t : Timestamp) : TransitionCall where
  expectedStatus := source
  targetStatus := target
  expectedHeadSha := sampleInput.headSha
  currentHeadSha := sampleInput.headSha
  actor := {
    actorId := js actorId, role
    authorization := {
      authorized := true, repositoryId := sampleInput.repositoryId
      scopes := [scope], checkedAt := some t, expiresAt := some (t + 60000) } }
  artifacts
  idempotencyKey := js key
  dependencies := sampleDependencies t id
  maxAuthorizationAgeMs := none

def sampleReady : TransitionCall :=
  sampleCall .preparing .ready .worker "worker-1" .prepare (fun _ => .absent)
    "attempt:ready:1" "00000000-0000-4000-8000-000000000002" 1000

def sampleStart : TransitionCall :=
  sampleCall .ready .active .author "github-user-42" .start
    (fun key => match key with
      | .handoffTokenId => .value (js "20000000-0000-4000-8000-000000000001")
      | .mobileSessionId => .value (js "20000000-0000-4000-8000-000000000002")
      | _ => .absent)
    "attempt:start:1" "00000000-0000-4000-8000-000000000003" 2000

theorem attempt_history_sample :
    ∃ attempt, Run CallStep sampleAttempt [sampleReady, sampleStart] attempt ∧
      attempt.status = .active ∧ AttemptInvariant attempt ∧
      attempt.transitionReceipts.length ≤ 6 ∧ SameIdentity sampleAttempt attempt :=
  ⟨_, run_foldl sampleAttempt [sampleReady, sampleStart], by decide,
    attempt_history created_sampleAttempt (run_foldl sampleAttempt _)⟩

end Domain

end UnderstandProof
