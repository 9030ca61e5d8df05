import UnderstandProof.Domain.Transition

/-!
# What a successful transition does

`Advance attempt command now merged next receipt` lists everything that holds
of a transition which is not a replay: the guards that have let it through and
the fields of the attempt and the receipt it produces. A successful
`transitionAttempt` is a replay that changes nothing, or it is such an advance;
every invariant of the attempt is derived from this one lemma.
-/

open Foundation

namespace UnderstandProof

namespace Domain

variable {α β ε ε' : Type}

@[simp] theorem mapError_eq_ok {x : Except ε α} {f : ε → ε'} {a : α} :
    x.mapError f = .ok a ↔ x = .ok a := by
  cases x <;> simp [Except.mapError]

theorem parsing_bind_eq_ok {x : Except SchemaError α} {f : α → AttemptM β}
    {d d' : AttemptDependencies} {b : β} :
    (AttemptM.parsing x >>= f).run d = (.ok b, d') ↔
      ∃ a, x = .ok a ∧ (f a).run d = (.ok b, d') := by
  simp [AttemptM.parsing, Stateful.run_lift_bind_eq_ok]

theorem checking_bind_eq_ok {x : Except AttemptTransitionError α}
    {f : α → AttemptM β} {d d' : AttemptDependencies} {b : β} :
    (AttemptM.checking x >>= f).run d = (.ok b, d') ↔
      ∃ a, x = .ok a ∧ (f a).run d = (.ok b, d') := by
  simp [AttemptM.checking, Stateful.run_lift_bind_eq_ok]

theorem now_bind_run (f : JsDate → AttemptM β) (d : AttemptDependencies) :
    (AttemptM.now >>= f).run d =
      (f (d.clock 0)).run { d with clock := fun n => d.clock (n + 1) } := rfl

theorem nextId_bind_run (f : JsString → AttemptM β) (d : AttemptDependencies) :
    (AttemptM.nextId >>= f).run d =
      (f (d.ids 0)).run { d with ids := fun n => d.ids (n + 1) } := rfl

theorem forM_rejectIf_eq_ok {c : α → Prop} [DecidablePred c] {e : α → ε}
    {l : List α} {u : PUnit} :
    (l.forM fun a => rejectIf (c a) (e a)) = .ok u ↔ ∀ a ∈ l, ¬ c a := by
  induction l with
  | nil => simp
  | cons a l ih =>
      change (rejectIf (c a) (e a) >>= fun _ =>
        l.forM fun a => rejectIf (c a) (e a)) = .ok u ↔ _
      rw [bind_eq_ok]
      simp only [rejectIf_eq_ok, ih, List.forall_mem_cons]
      constructor
      · rintro ⟨-, h, h'⟩
        exact ⟨h, h'⟩
      · rintro ⟨h, h'⟩
        exact ⟨(), h, h'⟩

theorem DateSchema.parse_eq_ok {d : JsDate} {t : Timestamp} :
    DateSchema.parse d = .ok t ↔ d = some t := by
  cases d <;> simp [DateSchema.parse]

/-- The merge of the artifacts of a command over those of the attempt. -/
def mergedArtifacts (attempt : Attempt) (command : AttemptTransitionCommand) :
    AttemptArtifactRefs :=
  fun key => (attempt.artifacts key).spread (command.artifacts key)

/-- A transition that is not a replay: `now` is the time it was made at. -/
structure Advance (command : AttemptTransitionCommand) (now : Timestamp)
    (next : Attempt) (receipt : AttemptTransitionReceipt) : Prop where
  freshKey : ∀ r ∈ command.attempt.transitionReceipts,
    r.idempotencyKey ≠ command.idempotencyKey
  running : isTerminalAttemptStatus command.attempt.status = false
  current : command.attempt.status = command.expectedStatus
  allowed : command.targetStatus ∈ allowedAttemptTransitions command.attempt.status
  boundSha : command.expectedHeadSha = command.attempt.headSha
  invalidated_iff : command.targetStatus = .invalidated ↔
    command.currentHeadSha ≠ command.attempt.headSha
  due : command.targetStatus = .expired → command.attempt.expiresAt ≤ now
  notExpired : command.targetStatus ≠ .expired →
    command.targetStatus ≠ .invalidated → now < command.attempt.expiresAt
  role : command.actor.role ∈ (transitionAuthorization command.targetStatus).roles
  author : command.actor.role = .author →
    command.actor.actorId = command.attempt.authorId
  required : ∀ key ∈ requiredArtifacts command.targetStatus,
    (mergedArtifacts command.attempt command key).get ≠ none
  receipt_eq : receipt = {
    id := receipt.id, attemptId := command.attempt.id
    idempotencyKey := command.idempotencyKey
    «from» := command.attempt.status, «to» := command.targetStatus
    expectedHeadSha := command.expectedHeadSha
    currentHeadSha := command.currentHeadSha
    actorId := command.actor.actorId, actorRole := command.actor.role
    occurredAt := now }
  next_eq : next = { command.attempt with
    status := command.targetStatus
    updatedAt := now
    artifacts := mergedArtifacts command.attempt command
    transitionReceipts := command.attempt.transitionReceipts ++ [receipt]
    startedAt := command.attempt.startedAt.spread
      (if command.targetStatus = .active ∧ command.attempt.startedAt.get = none
        then .value now else .absent)
    completedAt := command.attempt.completedAt.spread
      (if isTerminalAttemptStatus command.targetStatus then .value now else .absent)
    invalidatedAt := command.attempt.invalidatedAt.spread
      (if command.targetStatus = .invalidated then .value now else .absent) }

theorem findIdempotentReplay_eq_none {command : AttemptTransitionCommand}
    (h : findIdempotentReplay command = .ok none) :
    ∀ r ∈ command.attempt.transitionReceipts,
      r.idempotencyKey ≠ command.idempotencyKey := by
  unfold findIdempotentReplay at h
  split at h
  · next hfind =>
      intro r hr
      have hnot := List.find?_eq_none.mp hfind r hr
      simpa using hnot
  · split at h <;> cases h

theorem Property.parse_spread_date (p : Property Timestamp) (c : Prop) [Decidable c]
    (t : Timestamp) :
    ((p.map some).spread (if c then .value (some t) else .absent)).parse
      DateSchema.parse = .ok (p.spread (if c then .value t else .absent)) := by
  by_cases hc : c
  · simp only [hc, if_true, Property.spread_value]
    rfl
  · simp only [hc, if_false, Property.spread_absent]
    exact Property.parse_map DateSchema.parse_some p

/-- The schema accepts the advanced attempt and returns it field by field. -/
theorem parse_advancedAttempt (attempt : Attempt) (targetStatus : AttemptStatus)
    (t : Timestamp) (artifacts : AttemptArtifactRefs)
    (receipt : AttemptTransitionReceipt) :
    AttemptSchema.parse
        (advancedAttempt attempt targetStatus (some t) artifacts receipt) =
      .ok { attempt with
        status := targetStatus
        updatedAt := t
        artifacts := artifacts
        transitionReceipts := attempt.transitionReceipts ++ [receipt]
        startedAt := attempt.startedAt.spread
          (if targetStatus = .active ∧ attempt.startedAt.get = none
            then .value t else .absent)
        completedAt := attempt.completedAt.spread
          (if isTerminalAttemptStatus targetStatus then .value t else .absent)
        invalidatedAt := attempt.invalidatedAt.spread
          (if targetStatus = .invalidated then .value t else .absent) } := by
  simp only [AttemptSchema.parse, advancedAttempt, Attempt.raw,
    Property.parse_spread_date, mapM_parse_raw, UuidSchema.parse_val,
    NonEmptyIdentifierSchema.parse_val, GitShaSchema.parse_val,
    DateSchema.parse_some, AttemptArtifactRefsSchema.parse_raw, except_ok_bind,
    except_pure]

theorem parsing_run_eq_ok {x : Except SchemaError α} {d d' : AttemptDependencies}
    {a : α} :
    (AttemptM.parsing x).run d = (.ok a, d') ↔ x = .ok a ∧ d = d' := by
  simp [AttemptM.parsing]

/-- A created attempt is in its first state and has not expired yet. -/
theorem createAttempt_eq_ok {raw : RawCreateAttemptInput}
    {d : AttemptDependencies} {attempt : Attempt}
    (hok : ((createAttempt raw).run d).1 = .ok attempt) :
    ∃ now : Timestamp, now < attempt.expiresAt ∧ ∃ id, ∃ input : CreateAttemptInput,
      attempt = {
        id, repositoryId := input.repositoryId, revisionId := input.revisionId
        proofPlanId := input.proofPlanId, authorId := input.authorId
        headSha := input.headSha, status := .preparing
        expiresAt := input.expiresAt, createdAt := now, updatedAt := now
        startedAt := .absent, completedAt := .absent, invalidatedAt := .absent
        artifacts := fun _ => .absent, transitionReceipts := [] } := by
  obtain ⟨d', h⟩ : ∃ d', (createAttempt raw).run d = (.ok attempt, d') :=
    ⟨_, Prod.ext hok rfl⟩
  simp only [createAttempt, parsing_bind_eq_ok, now_bind_run, checking_bind_eq_ok,
    rejectIf_eq_ok, nextId_bind_run, parsing_run_eq_ok] at h
  obtain ⟨input, -, _, hexpires, id, -, hparse, -⟩ := h
  have hartifacts : AttemptArtifactRefsSchema.parse (fun _ => .absent) =
      .ok fun _ => .absent :=
    AttemptArtifactRefsSchema.parse_raw fun _ => .absent
  cases hnow : d.clock 0 with
  | none =>
      simp [hnow, AttemptSchema.parse, DateSchema.parse] at hparse
  | some now =>
      simp only [hnow, AttemptSchema.parse, UuidSchema.parse_val,
        NonEmptyIdentifierSchema.parse_val, GitShaSchema.parse_val,
        DateSchema.parse_some, Property.parse, hartifacts, List.mapM_nil,
        except_ok_bind, except_pure, Except.ok.injEq] at hparse
      refine ⟨now, ?_, id, input, hparse.symm⟩
      rw [← hparse]
      simpa [hnow, JsDate.le] using hexpires

theorem findIdempotentReplay_eq_some {command : AttemptTransitionCommand}
    {receipt : AttemptTransitionReceipt}
    (h : findIdempotentReplay command = .ok (some receipt)) :
    receipt ∈ command.attempt.transitionReceipts ∧
      receipt.idempotencyKey = command.idempotencyKey := by
  unfold findIdempotentReplay at h
  split at h
  · cases h
  · next found hfind =>
      split at h
      · cases h
        have hkey := List.find?_some hfind
        exact ⟨List.mem_of_find?_eq_some hfind, by simpa using hkey⟩
      · cases h

/-- The guards that do not read the clock. -/
theorem assertTransition_eq_ok {command : AttemptTransitionCommand} {u : Unit} :
    assertTransition command = .ok u ↔
      isTerminalAttemptStatus command.attempt.status = false ∧
      command.attempt.status = command.expectedStatus ∧
      command.targetStatus ∈ allowedAttemptTransitions command.attempt.status ∧
      command.expectedHeadSha = command.attempt.headSha ∧
      (command.targetStatus = .invalidated ↔
        command.currentHeadSha ≠ command.attempt.headSha) := by
  simp only [assertTransition, bind_eq_ok, rejectIf_eq_ok, canTransitionAttempt,
    List.contains_iff_mem, exists_const, Bool.not_eq_true, not_not, ne_eq]
  constructor
  · rintro ⟨h₁, h₂, h₃, h₄, h₅, h₆⟩
    exact ⟨h₁, h₂, h₃, h₄, by tauto⟩
  · rintro ⟨h₁, h₂, h₃, h₄, h₅⟩
    exact ⟨h₁, h₂, h₃, h₄, by tauto, by tauto⟩

theorem assertExpiry_eq_ok {attempt : Attempt} {target : AttemptStatus}
    {now : Timestamp} {u : Unit} :
    assertExpiry attempt target (some now) = .ok u ↔
      (target = .expired → attempt.expiresAt ≤ now) ∧
      (target ≠ .expired → target ≠ .invalidated → now < attempt.expiresAt) := by
  simp only [assertExpiry, bind_eq_ok, rejectIf_eq_ok, exists_const, JsDate.le,
    decide_eq_true_eq, not_and, not_not]
  constructor
  · rintro ⟨h₁, h₂⟩
    exact ⟨h₁, fun he hi => not_le.mp fun hle => hi (h₂ he hle)⟩
  · rintro ⟨h₁, h₂⟩
    exact ⟨h₁, fun he hle => by_contra fun hi => not_lt.mpr hle (h₂ he hi)⟩

/-- A successful call is a replay, which leaves the attempt as it is, or an
advance. -/
theorem transitionAttempt_eq_ok {raw : RawCommand} {age : Option Int}
    {d : AttemptDependencies} {result : AttemptTransitionResult}
    (hok : ((transitionAttempt raw age).run d).1 = .ok result) :
    ∃ command, AttemptTransitionCommandSchema.parse raw = .ok command ∧
      ((result.replayed = true ∧ result.attempt = command.attempt ∧
          findIdempotentReplay command = .ok (some result.receipt)) ∨
        (result.replayed = false ∧ ∃ now, d.clock 0 = some now ∧
          Advance command now result.attempt result.receipt)) := by
  obtain ⟨d', h⟩ : ∃ d', (transitionAttempt raw age).run d = (.ok result, d') :=
    ⟨_, Prod.ext hok rfl⟩
  simp only [transitionAttempt, parsing_bind_eq_ok, checking_bind_eq_ok] at h
  obtain ⟨command, hparse, replay, hreplay, h⟩ := h
  refine ⟨command, hparse, ?_⟩
  cases replay with
  | some receipt =>
      left
      simp only [Stateful.run_pure, Prod.mk.injEq, Except.ok.injEq] at h
      obtain ⟨rfl, -⟩ := h
      exact ⟨rfl, rfl, hreplay⟩
  | none =>
      right
      simp only [checking_bind_eq_ok, parsing_bind_eq_ok, now_bind_run,
        nextId_bind_run, AttemptArtifactRefsSchema.parse_raw] at h
      obtain ⟨_, hguards, _, hexpiry, _, hauth, artifacts, hartifacts, _, hrequired,
        receipt, hreceipt, next, hnext, hresult⟩ := h
      cases hartifacts
      simp only [Stateful.run_pure, Prod.mk.injEq, Except.ok.injEq] at hresult
      obtain ⟨rfl, -⟩ := hresult
      cases hnow : d.clock 0 with
      | none => simp [hnow, AttemptTransitionReceiptSchema.parse, DateSchema.parse,
          bind_eq_ok] at hreceipt
      | some now =>
          obtain ⟨hrunning, hcurrent, hallowed, hbound, hinvalidated⟩ :=
            assertTransition_eq_ok.mp hguards
          rw [hnow] at hexpiry hauth hreceipt hnext
          obtain ⟨hdue, hnotExpired⟩ := assertExpiry_eq_ok.mp hexpiry
          simp only [assertAuthorization, bind_eq_ok, rejectIf_eq_ok, exists_const,
            not_not, not_and] at hauth
          obtain ⟨-, -, -, -, hrole, -, hauthor⟩ := hauth
          rw [parse_advancedAttempt] at hnext
          simp only [AttemptTransitionReceiptSchema.parse, UuidSchema.parse_val,
            IdempotencyKeySchema.parse_val, GitShaSchema.parse_val,
            NonEmptyIdentifierSchema.parse_val, DateSchema.parse_some,
            except_ok_bind, except_pure, bind_eq_ok, Except.ok.injEq] at hreceipt
          obtain ⟨id, -, rfl⟩ := hreceipt
          cases hnext
          exact ⟨rfl, now, rfl, {
            freshKey := findIdempotentReplay_eq_none hreplay
            running := hrunning
            current := hcurrent
            allowed := hallowed
            boundSha := hbound
            invalidated_iff := hinvalidated
            due := hdue
            notExpired := hnotExpired
            role := hrole
            author := hauthor
            required := forM_rejectIf_eq_ok.mp hrequired
            receipt_eq := rfl
            next_eq := rfl }⟩

end Domain

end UnderstandProof
