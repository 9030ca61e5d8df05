import UnderstandProof.Db.GithubCheckIntents
import UnderstandProof.Web.MaintainerReview

/-!
# Maintainer decisions over all histories

Calls of any maintainers are interleaved with the transitions of the attempt, the changes of its
revision, the intents of other transactions and retention. A decision is written once, on an
attempt in review of a current revision, and its call is replayed when its explanation comes
back from the database as it was sent, which a text with a lone surrogate does not.
-/

open Foundation

namespace UnderstandProof

namespace Web

open Domain (AttemptStatus Timestamp allowedAttemptTransitions)
open Db (CheckRun GithubCheckIntent persistGithubCheckIntent)
open Db.CheckSync (CollisionFree)
open Github (isLive)
open Github.PullRequestRows (bound_of_persist written_of_persist)

inductive ReviewEvent where
  | decide (call : ReviewCall)
  /-- Another transition of the attempt, with the key, the actor and the role of its row. -/
  | transition (now : Timestamp) (status : AttemptStatus)
      (record : Option (JsString × JsString × JsString))
  | writeCheck (now : Timestamp) (advanced passed : Bool) (intent : GithubCheckIntent)
  /-- Another pair of a head and a base becomes current. -/
  | leaveRevision (now : Timestamp) (intent : GithubCheckIntent)
  | returnToRevision
  /-- The pull request is closed. -/
  | close (now : Timestamp) (intent : GithubCheckIntent)
  /-- A retention transaction leaves this deletion job. -/
  | retention (deletion : EvidenceDeletion)
  /-- A request that is no decision on the attempt reserves its rate limit. -/
  | reserve (action : WebRequestRateLimitAction) (subjectKeyHash : JsString)
      (clock : CleanupClock) (occurredAt : ℤ)

namespace ReviewRows

variable {Digest : Type}

/-- An attempt that is not decided yet is invalidated. -/
def invalidate (now : Timestamp) (s : ReviewRows Digest) : ReviewRows Digest :=
  if isLive s.status then { s with status := .invalidated, completedAt := some now } else s

/-- A transition, and its row. -/
def transition (environment : ReviewEnvironment Digest) (now : Timestamp) (status : AttemptStatus)
    (record : Option (JsString × JsString × JsString)) (s : ReviewRows Digest) :
    Option (ReviewRows Digest) :=
  (s.updateStatus now status).bind fun updated =>
    match record with
    | none => some updated
    | some (idempotencyKey, actorId, actorRole) =>
        updated.insertTransition
          { idempotencyKey := idempotencyKey
            fromStatus := s.status
            toStatus := status
            headSha := environment.headSha
            actorId := actorId
            actorRole := actorRole
            occurredAt := now }

variable [DecidableEq Digest]

def step (environment : ReviewEnvironment Digest) (s : ReviewRows Digest) :
    ReviewEvent → ReviewRows Digest
  | .decide call => (s.decideReview environment call).1
  | .transition now status record => (s.transition environment now status record).getD s
  | .writeCheck now advanced passed intent =>
      (s.writeCheck environment now advanced passed intent).getD s
  | .leaveRevision now intent =>
      (({ s with isCurrent := false }.invalidate now).writeCheck environment now true
        (s.status = AttemptStatus.passed) intent).getD s
  | .returnToRevision => { s with isCurrent := true }
  | .close now intent =>
      ((s.invalidate now).writeCheck environment now true (s.status = AttemptStatus.passed) intent).getD s
  | .retention deletion => { s with deletion := some deletion }
  | .reserve action subjectKeyHash clock occurredAt =>
      { s with
        rateLimits :=
          (reserveWebRequestRateLimit s.rateLimits action subjectKeyHash clock occurredAt).1 }

def rowsAfter (environment : ReviewEnvironment Digest) (events : List ReviewEvent) :
    ReviewRows Digest :=
  after (step environment) start events

/-! ## The law of decisions -/

/-- The call writes a decision. -/
def Writes (environment : ReviewEnvironment Digest) (s : ReviewRows Digest) (call : ReviewCall) :
    Prop :=
  (s.decideReview environment call).1.decisions ≠ s.decisions

/-- The rate limit and the authorization let the call through. -/
def Admits (environment : ReviewEnvironment Digest) (s : ReviewRows Digest) (call : ReviewCall) :
    Prop :=
  (s.reserve environment call).2 = some .admitted ∧ call.authorized = true

/-- The same maintainer with the same key and content. -/
def Repeats (call first : ReviewCall) : Prop :=
  call.actorId = first.actorId ∧ call.request.parse = first.request.parse

/-- The answers of a call that has been refused. -/
def isRefusal : ReviewAnswer → Bool
  | .decided _ _ _ _ => false
  | _ => true

/-- A decision is written in the current revision only, with the status and the check of its
action. -/
structure Written (environment : ReviewEnvironment Digest) (s t : ReviewRows Digest)
    (input : ReviewDecisionInput) : Prop where
  current : s.isCurrent = true
  headSha : input.expectedHeadSha = environment.headSha
  inReview : s.status = .reviewRequired
  first : s.decisions = []
  status : t.status = (planReviewDecision input.action input.expectedHeadSha).targetStatus
  check : ∃ row, t.checkRun = some row ∧ row.status = .completed ∧
    row.conclusion =
      some (planReviewDecision input.action input.expectedHeadSha).checkConclusion

/-- The call has written a decision. -/
def WrittenBy (environment : ReviewEnvironment Digest) (events : List ReviewEvent)
    (first : ReviewCall) : Prop :=
  Once (step environment) start
    (fun s event => event = .decide first ∧ Writes environment s first) events

/-- What holds after a history of the decisions on one attempt. -/
structure DecisionsAreFinal (environment : ReviewEnvironment Digest) (events : List ReviewEvent) :
    Prop where
  atMostOne : (rowsAfter environment events).decisions.length ≤ 1
  decided : (rowsAfter environment events).decisions ≠ [] →
    ∃ first input, WrittenBy environment events first ∧ first.request.parse = some input ∧
      ((rowsAfter environment events).status = .passed ↔ input.action = .approve) ∧
      ((rowsAfter environment events).status = .retryRequired ↔ input.action = .reject) ∧
      ((rowsAfter environment events).status = .technicalRetry ↔ input.action = .manualRetry)
  written : ∀ event, ((rowsAfter environment events).step environment event).decisions ≠
      (rowsAfter environment events).decisions →
    ∃ call input, event = .decide call ∧ call.request.parse = some input ∧
      Written environment (rowsAfter environment events)
        ((rowsAfter environment events).step environment event) input
  replayed : ∀ first call, WrittenBy environment events first → Repeats call first →
    (rowsAfter environment events).isCurrent = true →
    Admits environment (rowsAfter environment events) call →
    ∃ action status headSha,
      (rowsAfter environment events).decideReview environment call =
        (((rowsAfter environment events).reserve environment call).1,
          .decided true action status headSha)
  refused : ∀ first call, WrittenBy environment events first →
    (¬ Repeats call first ∨ (rowsAfter environment events).isCurrent = false ∨
      ¬ Admits environment (rowsAfter environment events) call) →
    isRefusal ((rowsAfter environment events).decideReview environment call).2 = true ∧
      ∃ rateLimits, ((rowsAfter environment events).decideReview environment call).1 =
        { rowsAfter environment events with rateLimits := rateLimits }

/-- The explanation of a call that reaches an attempt in review has no lone surrogate. -/
def ExplainsWell (environment : ReviewEnvironment Digest) (s : ReviewRows Digest) :
    ReviewEvent → Prop
  | .decide call =>
      Admits environment s call → s.status = .reviewRequired →
        ∀ input text, call.request.parse = some input → input.explanation = some text →
          JsString.isWellFormed text = true
  | _ => True

/-! ## What a call does -/

variable {environment : ReviewEnvironment Digest} {s t : ReviewRows Digest} {call first : ReviewCall}
  {input : ReviewDecisionInput} {now : Timestamp} {advanced passed : Bool}
  {intent : GithubCheckIntent}

theorem writeCheck_eq_some (h : s.writeCheck environment now advanced passed intent = some t) :
    ∃ write, persistGithubCheckIntent environment.sha256 now
        { headSha := environment.headSha, isCurrent := s.isCurrent } advanced s.checkRun intent =
          .ok write ∧
      t = { s with checkRun := some write.row } := by
  unfold writeCheck at h
  split at h
  · cases h
  · next write hwrite =>
    split at h
    · cases h
    · cases h
      exact ⟨write, hwrite, rfl⟩

/-- The rows that a decision leaves. -/
structure Leaves (environment : ReviewEnvironment Digest) (call : ReviewCall)
    (input : ReviewDecisionInput) (s t : ReviewRows Digest) : Prop where
  decisions : ∃ explanation, storedExplanation input.explanation = some explanation ∧
    t.decisions = s.decisions ++
      [{ maintainerId := call.actorId
         decision := (planReviewDecision input.action input.expectedHeadSha).databaseDecision
         reasonCode := (planReviewDecision input.action input.expectedHeadSha).reasonCode
         explanation := explanation
         headSha := environment.headSha
         decidedAt := call.now }]
  transitions : t.transitions = s.transitions ++
    [{ idempotencyKey := input.idempotencyKey
       fromStatus := .reviewRequired
       toStatus := (planReviewDecision input.action input.expectedHeadSha).targetStatus
       headSha := environment.headSha
       actorId := call.actorId
       actorRole := js "maintainer"
       occurredAt := call.now }]
  status : t.status = (planReviewDecision input.action input.expectedHeadSha).targetStatus
  isCurrent : t.isCurrent = s.isCurrent
  check : ∃ write, persistGithubCheckIntent environment.sha256 call.now
      { headSha := environment.headSha, isCurrent := s.isCurrent } true s.checkRun
      (decisionIntent environment input) = .ok write ∧
    t.checkRun = some write.row

omit [DecidableEq Digest] in
theorem insertDecision_eq_some {decision : ReviewDecision} {headSha : JsString}
    (h : s.insertDecision decision headSha = some t) :
    ∃ explanation, storedExplanation decision.explanation = some explanation ∧
      t = { s with decisions := s.decisions ++ [{ decision with explanation := explanation }] } := by
  unfold insertDecision at h
  split at h
  · cases h
  · next explanation hstored =>
    split at h
    · cases h
      exact ⟨explanation, hstored, rfl⟩
    · cases h

omit [DecidableEq Digest] in
theorem insertTransition_eq_some {row : ReviewTransition} (h : s.insertTransition row = some t) :
    s.findTransition row.idempotencyKey = none ∧
      t = { s with transitions := s.transitions ++ [row] } := by
  unfold insertTransition at h
  split at h
  · next hfresh =>
    cases h
    exact ⟨hfresh, rfl⟩
  · cases h

omit [DecidableEq Digest] in
theorem updateStatus_eq_some {status : AttemptStatus} (h : s.updateStatus now status = some t) :
    status ∈ allowedAttemptTransitions s.status ∧ ∃ completedAt,
      t = { s with status := status, completedAt := completedAt } := by
  unfold updateStatus at h
  split at h
  · next hallowed =>
    cases h
    exact ⟨hallowed, _, rfl⟩
  · cases h

theorem leaves_of_writeDecision {deleteAfterMaintainerPass : Bool}
    (h : s.writeDecision environment call input deleteAfterMaintainerPass = some t) :
    Leaves environment call input s t := by
  unfold writeDecision at h
  obtain ⟨decided, hdecided, h⟩ := Option.bind_eq_some_iff.mp h
  obtain ⟨recorded, hrecorded, h⟩ := Option.bind_eq_some_iff.mp h
  obtain ⟨updated, hupdated, h⟩ := Option.bind_eq_some_iff.mp h
  obtain ⟨checked, hchecked, h⟩ := Option.bind_eq_some_iff.mp h
  obtain ⟨explanation, hstored, rfl⟩ := insertDecision_eq_some hdecided
  obtain ⟨-, rfl⟩ := insertTransition_eq_some hrecorded
  obtain ⟨-, completedAt, rfl⟩ := updateStatus_eq_some hupdated
  obtain ⟨write, hwrite, rfl⟩ := writeCheck_eq_some hchecked
  have hkept : Leaves environment call input s
      { s with
        status := (planReviewDecision input.action input.expectedHeadSha).targetStatus
        completedAt := completedAt
        decisions := _
        transitions := _
        checkRun := some write.row } :=
    ⟨⟨explanation, hstored, rfl⟩, rfl, rfl, rfl, write, hwrite, rfl⟩
  dsimp only at h
  split at h
  · cases h
  · cases h
    split
    · exact ⟨hkept.decisions, hkept.transitions, hkept.status, hkept.isCurrent, hkept.check⟩
    · exact ⟨hkept.decisions, hkept.transitions, hkept.status, hkept.isCurrent, hkept.check⟩

/-- What a call comes to. -/
inductive Outcome (environment : ReviewEnvironment Digest) (call : ReviewCall)
    (s : ReviewRows Digest) : ReviewRows Digest × ReviewAnswer → Prop where
  | refused {rateLimits : RateLimitTable} {answer : ReviewAnswer}
      (hanswer : isRefusal answer = true) :
      Outcome environment call s ({ s with rateLimits := rateLimits }, answer)
  | replayed {input : ReviewDecisionInput} {transition : ReviewTransition}
      (hparse : call.request.parse = some input) (hadmits : Admits environment s call)
      (hcurrent : s.isCurrent = true) (hhead : input.expectedHeadSha = environment.headSha)
      (hfound : s.findTransition input.idempotencyKey = some transition)
      (hreplays : s.replays environment call.actorId input transition = true) :
      Outcome environment call s
        ((s.reserve environment call).1,
          .decided true input.action
            (planReviewDecision input.action input.expectedHeadSha).targetStatus
            environment.headSha)
  | written {input : ReviewDecisionInput} {t : ReviewRows Digest}
      (hparse : call.request.parse = some input) (hadmits : Admits environment s call)
      (hcurrent : s.isCurrent = true) (hhead : input.expectedHeadSha = environment.headSha)
      (hpolicy : environment.policy.isSome = true)
      (hfresh : s.findTransition input.idempotencyKey = none)
      (hreview : s.status = .reviewRequired) (hfirst : s.decisions = [])
      (hleaves : Leaves environment call input s t) :
      Outcome environment call s
        (t, .decided false input.action
          (planReviewDecision input.action input.expectedHeadSha).targetStatus
          environment.headSha)

theorem outcome_decideReview (environment : ReviewEnvironment Digest) (call : ReviewCall)
    (s : ReviewRows Digest) : Outcome environment call s (s.decideReview environment call) := by
  unfold decideReview
  split
  · exact .refused rfl
  · next input hparse =>
    split
    · next hadmitted =>
      unfold decide
      split
      · exact .refused rfl
      · next hauthorized =>
        split
        · exact .refused rfl
        · next hbound =>
          obtain ⟨hcurrent, hhead⟩ := not_or.mp hbound
          have hcurrent : s.isCurrent = true := Bool.not_eq_false _ ▸ hcurrent
          have hhead := (not_not.mp hhead).symm
          have hadmits : Admits environment s call := ⟨hadmitted, by simpa using hauthorized⟩
          split
          · exact .refused rfl
          · next deleteAfterMaintainerPass hpolicy =>
            split
            · next transition hfound =>
              split
              · next hreplays =>
                exact .replayed hparse hadmits hcurrent hhead hfound hreplays
              · exact .refused rfl
            · next hfresh =>
              split
              · exact .refused rfl
              · next hopen =>
                obtain ⟨hreview, hfirst⟩ := not_or.mp hopen
                split
                · exact .refused rfl
                · next t ht =>
                  have hleaves := leaves_of_writeDecision ht
                  exact .written hparse hadmits hcurrent hhead (hpolicy ▸ rfl) hfresh
                    (not_not.mp hreview) (not_not.mp hfirst)
                    ⟨hleaves.decisions, hleaves.transitions, hleaves.status, hleaves.isCurrent,
                      hleaves.check⟩
    · exact .refused rfl

/-- A call that writes a decision is the first one, on an attempt in review. -/
theorem Writes.cases (h : Writes environment s call) :
    ∃ input, call.request.parse = some input ∧ Admits environment s call ∧ s.isCurrent = true ∧
      input.expectedHeadSha = environment.headSha ∧ environment.policy.isSome = true ∧
      s.findTransition input.idempotencyKey = none ∧ s.status = .reviewRequired ∧
      s.decisions = [] ∧ Leaves environment call input s (s.decideReview environment call).1 := by
  unfold Writes at h
  have hcases := outcome_decideReview environment call s
  generalize s.decideReview environment call = outcome at h hcases
  cases hcases with
  | refused _ => exact absurd rfl h
  | replayed _ _ _ _ _ _ => exact absurd rfl h
  | written hparse hadmits hcurrent hhead hpolicy hfresh hreview hfirst hleaves =>
      exact ⟨_, hparse, hadmits, hcurrent, hhead, hpolicy, hfresh, hreview, hfirst, hleaves⟩

/-- A call that writes no decision writes nothing but its rate limit. -/
theorem keeps_of_not_writes (h : ¬ Writes environment s call) :
    ∃ rateLimits, (s.decideReview environment call).1 = { s with rateLimits := rateLimits } := by
  unfold Writes at h
  have hcases := outcome_decideReview environment call s
  generalize s.decideReview environment call = outcome at h hcases
  cases hcases with
  | refused _ => exact ⟨_, rfl⟩
  | replayed _ _ _ _ _ _ => exact ⟨_, rfl⟩
  | written _ _ _ _ _ _ _ _ hleaves =>
      obtain ⟨explanation, -, hdecisions⟩ := hleaves.decisions
      exact absurd (hdecisions.symm.trans (not_not.mp h)) (by simp)

/-! ## What other events do -/

/-- What an event that is no decision keeps. -/
structure Others (environment : ReviewEnvironment Digest) (s t : ReviewRows Digest) : Prop where
  decisions : t.decisions = s.decisions
  ended : isLive s.status = false → t.status = s.status ∧ t.transitions = s.transitions
  live : isLive t.status = true → isLive s.status = true ∧
    ((∀ row ∈ s.transitions, isLive row.toStatus = true) →
      ∀ row ∈ t.transitions, isLive row.toStatus = true)
  checks : (∀ row, s.checkRun = some row → row.Bound environment.sha256) →
    ∀ row, t.checkRun = some row → row.Bound environment.sha256

omit [DecidableEq Digest] in
theorem others_refl (environment : ReviewEnvironment Digest) (s : ReviewRows Digest) :
    Others environment s s := ⟨rfl, fun _ => ⟨rfl, rfl⟩, fun h => ⟨h, id⟩, id⟩

omit [DecidableEq Digest] in
theorem Others.trans {u : ReviewRows Digest} (h : Others environment s t)
    (h' : Others environment t u) : Others environment s u where
  decisions := h'.decisions.trans h.decisions
  ended := by
    intro hended
    obtain ⟨hstatus, htransitions⟩ := h.ended hended
    obtain ⟨hstatus', htransitions'⟩ := h'.ended (hstatus ▸ hended)
    exact ⟨hstatus'.trans hstatus, htransitions'.trans htransitions⟩
  live := fun hlive =>
    ⟨(h.live (h'.live hlive).1).1, (h'.live hlive).2 ∘ (h.live (h'.live hlive).1).2⟩
  checks := h'.checks ∘ h.checks

theorem others_of_writeCheck
    (h : s.writeCheck environment now advanced passed intent = some t) :
    Others environment s t := by
  obtain ⟨write, hwrite, rfl⟩ := writeCheck_eq_some h
  refine ⟨rfl, fun _ => ⟨rfl, rfl⟩, fun hlive => ⟨hlive, id⟩, fun hchecks row hrow => ?_⟩
  exact Option.some_inj.mp hrow ▸ bound_of_persist hwrite hchecks

omit [DecidableEq Digest] in
theorem others_invalidate : Others environment s (s.invalidate now) := by
  unfold invalidate
  split
  · next hlive =>
    exact ⟨rfl, fun hended => absurd hlive (by simp [hended]), fun h => (nomatch h), id⟩
  · exact others_refl environment s

omit [DecidableEq Digest] in
/-- An attempt that has ended has no transitions, and no transition leads back to one. -/
theorem live_of_allowed {a b : AttemptStatus} (h : b ∈ allowedAttemptTransitions a) :
    isLive a = true := by
  cases a <;> first | rfl | cases h

omit [DecidableEq Digest] in
theorem others_of_transition {status : AttemptStatus}
    {record : Option (JsString × JsString × JsString)}
    (h : s.transition environment now status record = some t) : Others environment s t := by
  unfold transition at h
  obtain ⟨updated, hupdated, h⟩ := Option.bind_eq_some_iff.mp h
  obtain ⟨hallowed, completedAt, rfl⟩ := updateStatus_eq_some hupdated
  have hlive := live_of_allowed hallowed
  cases record with
  | none =>
      cases h
      exact ⟨rfl, fun hended => absurd hlive (by simp [hended]), fun _ => ⟨hlive, id⟩, id⟩
  | some record =>
      obtain ⟨-, rfl⟩ := insertTransition_eq_some h
      refine ⟨rfl, fun hended => absurd hlive (by simp [hended]), fun hstatus => ⟨hlive, ?_⟩, id⟩
      intro htransitions row hrow
      rcases List.mem_append.mp hrow with hrow | hrow
      · exact htransitions row hrow
      · obtain rfl := List.mem_singleton.mp hrow
        exact hstatus

omit [DecidableEq Digest] in
/-- A transaction that is rolled back leaves the rows. -/
theorem others_getD {next : Option (ReviewRows Digest)}
    (h : ∀ t, next = some t → Others environment s t) : Others environment s (next.getD s) := by
  cases next with
  | none => exact others_refl environment s
  | some t => exact h t rfl

/-- One case for each event that is no decision. -/
theorem others_step {event : ReviewEvent} (h : ∀ call, event ≠ .decide call) :
    Others environment s (s.step environment event) := by
  cases event with
  | decide call => exact absurd rfl (h call)
  | transition now status record => exact others_getD fun t ht => others_of_transition ht
  | writeCheck now advanced passed intent =>
      exact others_getD fun t ht => others_of_writeCheck ht
  | leaveRevision now intent =>
      have hleft : Others environment s { s with isCurrent := false } :=
        ⟨rfl, fun _ => ⟨rfl, rfl⟩, fun hlive => ⟨hlive, id⟩, id⟩
      exact others_getD fun t ht => (hleft.trans others_invalidate).trans (others_of_writeCheck ht)
  | returnToRevision => exact ⟨rfl, fun _ => ⟨rfl, rfl⟩, fun hlive => ⟨hlive, id⟩, id⟩
  | close now intent =>
      exact others_getD fun t ht => others_invalidate.trans (others_of_writeCheck ht)
  | retention deletion => exact ⟨rfl, fun _ => ⟨rfl, rfl⟩, fun hlive => ⟨hlive, id⟩, id⟩
  | reserve action subjectKeyHash clock occurredAt =>
      exact ⟨rfl, fun _ => ⟨rfl, rfl⟩, fun hlive => ⟨hlive, id⟩, id⟩

/-! ## The invariant -/

/-- The attempt carries the decision of a call. -/
structure Decided (environment : ReviewEnvironment Digest) (first : ReviewCall)
    (input : ReviewDecisionInput) (s : ReviewRows Digest) : Prop where
  decisions : ∃ explanation, storedExplanation input.explanation = some explanation ∧
    s.decisions =
      [{ maintainerId := first.actorId
         decision := (planReviewDecision input.action input.expectedHeadSha).databaseDecision
         reasonCode := (planReviewDecision input.action input.expectedHeadSha).reasonCode
         explanation := explanation
         headSha := environment.headSha
         decidedAt := first.now }]
  status : s.status = (planReviewDecision input.action input.expectedHeadSha).targetStatus
  headSha : input.expectedHeadSha = environment.headSha
  policy : environment.policy.isSome = true
  found : ∃ transition, s.findTransition input.idempotencyKey = some transition ∧
    transition.toStatus = (planReviewDecision input.action input.expectedHeadSha).targetStatus ∧
    transition.actorId = first.actorId
  only : ∀ transition ∈ s.transitions,
    transition.toStatus = (planReviewDecision input.action input.expectedHeadSha).targetStatus →
    transition.idempotencyKey = input.idempotencyKey

/-- What a history leaves. -/
structure Reviewed (environment : ReviewEnvironment Digest) (events : List ReviewEvent)
    (s : ReviewRows Digest) : Prop where
  checks : ∀ row, s.checkRun = some row → row.Bound environment.sha256
  undecided : (∀ first, ¬ WrittenBy environment events first) →
    s.decisions = [] ∧
      (isLive s.status = true → ∀ row ∈ s.transitions, isLive row.toStatus = true)
  decided : ∀ first, WrittenBy environment events first →
    ∃ input, first.request.parse = some input ∧ Decided environment first input s

theorem isLive_targetStatus (action : ReviewAction) (headSha : JsString) :
    isLive (planReviewDecision action headSha).targetStatus = false := by
  cases action <;> rfl

theorem targetStatus_injective {a b : ReviewAction} {headSha headSha' : JsString}
    (h : (planReviewDecision a headSha).targetStatus =
      (planReviewDecision b headSha').targetStatus) : a = b := by
  cases a <;> cases b <;> first | rfl | cases h

omit [DecidableEq Digest] in
theorem Decided.others (h : Decided environment first input s) (hsame : Others environment s t) :
    Decided environment first input t := by
  have hended : isLive s.status = false := h.status ▸ isLive_targetStatus _ _
  obtain ⟨hstatus, htransitions⟩ := hsame.ended hended
  exact
    { decisions := hsame.decisions ▸ h.decisions
      status := hstatus.trans h.status
      headSha := h.headSha
      policy := h.policy
      found := by
        unfold findTransition
        rw [htransitions]
        exact h.found
      only := htransitions ▸ h.only }

/-- A call that writes nothing is another event. -/
theorem others_of_not_writes (h : ¬ Writes environment s call) :
    Others environment s (s.decideReview environment call).1 := by
  obtain ⟨rateLimits, hsame⟩ := keeps_of_not_writes h
  rw [hsame]
  exact ⟨rfl, fun _ => ⟨rfl, rfl⟩, fun hlive => ⟨hlive, id⟩, id⟩

theorem writtenBy_concat {events : List ReviewEvent} {event : ReviewEvent} :
    WrittenBy environment (events ++ [event]) first ↔ WrittenBy environment events first ∨
      (event = .decide first ∧ Writes environment (rowsAfter environment events) first) :=
  once_concat

theorem Reviewed.others {events : List ReviewEvent} {event : ReviewEvent}
    (h : Reviewed environment events (rowsAfter environment events))
    (hnot : ∀ call, event = .decide call → ¬ Writes environment (rowsAfter environment events) call)
    (hsame : Others environment (rowsAfter environment events) t) :
    Reviewed environment (events ++ [event]) t where
  checks := hsame.checks h.checks
  undecided := by
    intro hnone
    obtain ⟨hdecisions, htransitions⟩ :=
      h.undecided fun first hfirst => hnone first (writtenBy_concat.mpr (.inl hfirst))
    refine ⟨hsame.decisions.trans hdecisions, fun hlive => ?_⟩
    obtain ⟨hbefore, hkeeps⟩ := hsame.live hlive
    exact hkeeps (htransitions hbefore)
  decided := by
    intro first hfirst
    rcases writtenBy_concat.mp hfirst with hfirst | ⟨hevent, hwrites⟩
    · obtain ⟨input, hparse, hdecided⟩ := h.decided first hfirst
      exact ⟨input, hparse, hdecided.others hsame⟩
    · exact absurd hwrites (hnot first hevent)

omit [DecidableEq Digest] in
theorem findTransition_concat {transitions : List ReviewTransition} {row : ReviewTransition}
    (hs : s.transitions = transitions ++ [row])
    (hfresh : transitions.find? (fun other => other.idempotencyKey = row.idempotencyKey) = none) :
    s.findTransition row.idempotencyKey = some row := by
  unfold findTransition
  rw [hs, List.find?_append, hfresh]
  simp

theorem Reviewed.writes {events : List ReviewEvent}
    (h : Reviewed environment events (rowsAfter environment events))
    (hwrites : Writes environment (rowsAfter environment events) call) :
    Reviewed environment (events ++ [.decide call])
      ((rowsAfter environment events).decideReview environment call).1 := by
  obtain ⟨input, hparse, -, -, hhead, hpolicy, hfresh, hreview, hfirst, hleaves⟩ :=
    hwrites.cases
  have hnone : ∀ first, ¬ WrittenBy environment events first := by
    intro first hwritten
    obtain ⟨before, hbefore, hdecided⟩ := h.decided first hwritten
    obtain ⟨explanation, hstored, hdecisions⟩ := hdecided.decisions
    rw [hfirst] at hdecisions
    cases hdecisions
  have hlive := (h.undecided hnone).2 (hreview ▸ rfl)
  refine ⟨?_, fun hnot => ?_, fun first hwritten => ?_⟩
  · obtain ⟨write, hwrite, hrow⟩ := hleaves.check
    intro row hstored
    rw [hrow] at hstored
    exact Option.some_inj.mp hstored ▸ bound_of_persist hwrite h.checks
  · exact absurd (writtenBy_concat.mpr (.inr ⟨rfl, hwrites⟩)) (hnot call)
  · rcases writtenBy_concat.mp hwritten with hbefore | ⟨hsame, -⟩
    · exact absurd hbefore (hnone first)
    · cases hsame
      obtain ⟨explanation, hstored, hdecisions⟩ := hleaves.decisions
      refine ⟨input, hparse, ⟨explanation, hstored, ?_⟩, hleaves.status, hhead, hpolicy,
        ⟨_, findTransition_concat hleaves.transitions hfresh, rfl, rfl⟩, ?_⟩
      · rw [hdecisions, hfirst, List.nil_append]
      · intro row hrow hstatus
        rw [hleaves.transitions] at hrow
        rcases List.mem_append.mp hrow with hrow | hrow
        · have hended := isLive_targetStatus input.action input.expectedHeadSha
          rw [← hstatus, hlive row hrow] at hended
          cases hended
        · obtain rfl := List.mem_singleton.mp hrow
          rfl

theorem reviewed_reached (environment : ReviewEnvironment Digest) (events : List ReviewEvent) :
    Reviewed environment events (rowsAfter environment events) := by
  induction events using List.reverseRecOn with
  | nil =>
      exact ⟨fun _ h => (nomatch h), fun _ => ⟨rfl, fun _ _ hrow => (nomatch hrow)⟩,
        fun _ h => absurd h not_once_nil⟩
  | append_singleton events event ih =>
      have hstep : rowsAfter environment (events ++ [event]) =
        (rowsAfter environment events).step environment event := after_concat
      rw [hstep]
      by_cases hdecide : ∃ call, event = .decide call
      · obtain ⟨call, rfl⟩ := hdecide
        by_cases hwrites : Writes environment (rowsAfter environment events) call
        · exact ih.writes hwrites
        · refine ih.others (fun other hother => ?_) (others_of_not_writes hwrites)
          cases hother
          exact hwrites
      · exact ih.others (fun call hcall => absurd ⟨call, hcall⟩ hdecide)
          (others_step fun call hcall => hdecide ⟨call, hcall⟩)

/-! ## Replays -/

omit [DecidableEq Digest] in
theorem storedText_eq_some {text stored : JsString} (h : storedText text = some stored) :
    stored = JsString.toWellFormed text := by
  unfold storedText at h
  split at h
  · cases h
  · rw [JsString.feed_utf8Encode_toWellFormed] at h
    exact (Option.some_inj.mp h).symm

/-- An explanation is stored as it was sent exactly when it has no lone surrogate. -/
theorem storedExplanation_eq_self_iff {explanation stored : Option JsString}
    (h : storedExplanation explanation = some stored) :
    stored = explanation ↔
      ∀ text, explanation = some text → JsString.isWellFormed text = true := by
  cases explanation with
  | none =>
      cases h
      exact ⟨fun _ text htext => (nomatch htext), fun _ => rfl⟩
  | some text =>
      obtain ⟨written, hwritten, rfl⟩ := Option.map_eq_some_iff.mp h
      rw [storedText_eq_some hwritten, Option.some_inj, JsString.toWellFormed_eq_self_iff]
      exact ⟨fun hwell other hother => Option.some_inj.mp hother ▸ hwell, fun hwell => hwell text rfl⟩

omit [DecidableEq Digest] in
/-- The call with which a decided attempt answers. -/
theorem Decided.replays_iff (h : Decided environment first input s)
    {again : ReviewDecisionInput} {actorId : JsString} {transition : ReviewTransition}
    (hfound : s.findTransition again.idempotencyKey = some transition) :
    s.replays environment actorId again transition = true ↔
      actorId = first.actorId ∧ again.action = input.action ∧
        again.idempotencyKey = input.idempotencyKey ∧
        storedExplanation input.explanation = some again.explanation := by
  obtain ⟨explanation, hstored, hdecisions⟩ := h.decisions
  obtain ⟨row, hrow, hstatus, hactor⟩ := h.found
  have hmem : transition ∈ s.transitions := List.mem_of_find?_eq_some hfound
  have hkey : transition.idempotencyKey = again.idempotencyKey := by
    simpa using List.find?_some hfound
  unfold replays
  rw [hdecisions, List.head?_cons]
  dsimp only
  rw [decide_eq_true_eq, h.status, hstored, Option.some_inj]
  constructor
  · rintro ⟨hto, hby, -, -, hsame, -, hstill⟩
    have haction := targetStatus_injective hstill
    have hagain : again.idempotencyKey = input.idempotencyKey :=
      hkey.symm.trans (h.only transition hmem (hto.trans hstill.symm))
    rw [hagain, hrow, Option.some_inj] at hfound
    exact ⟨hby.symm.trans (hfound ▸ hactor), haction.symm, hagain, hsame⟩
  · rintro ⟨rfl, haction, hagain, hsame⟩
    rw [hagain, hrow, Option.some_inj] at hfound
    obtain rfl := hfound
    have hplan (action : ReviewAction) (a b : JsString) :
        (planReviewDecision action a).targetStatus = (planReviewDecision action b).targetStatus ∧
        (planReviewDecision action a).databaseDecision =
          (planReviewDecision action b).databaseDecision ∧
        (planReviewDecision action a).reasonCode = (planReviewDecision action b).reasonCode := by
      cases action <;> exact ⟨rfl, rfl, rfl⟩
    obtain ⟨htarget, hdecision, hreason⟩ :=
      hplan input.action input.expectedHeadSha again.expectedHeadSha
    rw [haction]
    exact ⟨hstatus.trans htarget, hactor, hdecision, hreason, hsame, rfl, htarget⟩

/-- The call that wrote the decision, once more: it is a replay exactly when its explanation
has no lone surrogate. -/
theorem Decided.replayed_iff (h : Decided environment first input s)
    (hparse : call.request.parse = some input) (hactor : call.actorId = first.actorId)
    (hcurrent : s.isCurrent = true) (hadmits : Admits environment s call) :
    s.decideReview environment call =
        ((s.reserve environment call).1,
          .decided true input.action
            (planReviewDecision input.action input.expectedHeadSha).targetStatus
            environment.headSha) ↔
      ∀ text, input.explanation = some text → JsString.isWellFormed text = true := by
  obtain ⟨explanation, hstored, hdecisions⟩ := h.decisions
  obtain ⟨transition, hfound, -⟩ := h.found
  obtain ⟨deleteAfterMaintainerPass, hpolicy⟩ := Option.isSome_iff_exists.mp h.policy
  have hreserved : (s.reserve environment call).1.findTransition input.idempotencyKey =
      some transition := hfound
  have hsame : (s.reserve environment call).1.replays environment call.actorId input transition =
      s.replays environment call.actorId input transition := rfl
  have hiff : s.replays environment call.actorId input transition = true ↔ _ :=
    h.replays_iff hfound
  rw [← storedExplanation_eq_self_iff hstored]
  unfold decideReview
  rw [hparse]
  dsimp only
  rw [if_pos hadmits.1]
  unfold decide
  dsimp only
  rw [if_neg (by simp [hadmits.2]), if_neg (by simp [reserve, hcurrent, h.headSha]), hpolicy]
  dsimp only
  rw [hreserved]
  dsimp only
  rw [hsame]
  constructor
  · intro hanswer
    split at hanswer
    · next hreplays =>
      exact Option.some_inj.mp (hstored.symm.trans (hiff.mp hreplays).2.2.2)
    · cases hanswer
  · intro hself
    rw [if_pos (hiff.mpr ⟨hactor, rfl, rfl, hself ▸ hstored⟩)]

/-- Every other call is refused. -/
theorem Decided.refused (h : Decided environment first input s)
    (hfirst : first.request.parse = some input)
    (hwell : ∀ text, input.explanation = some text → JsString.isWellFormed text = true)
    (hother : ¬ Repeats call first ∨ s.isCurrent = false ∨ ¬ Admits environment s call) :
    isRefusal (s.decideReview environment call).2 = true ∧
      ∃ rateLimits, (s.decideReview environment call).1 = { s with rateLimits := rateLimits } := by
  obtain ⟨explanation, hstored, hdecisions⟩ := h.decisions
  have hcases := outcome_decideReview environment call s
  generalize s.decideReview environment call = outcome at hcases ⊢
  cases hcases with
  | refused hanswer => exact ⟨hanswer, _, rfl⟩
  | @replayed again transition hparse hadmits hcurrent hhead hfound hreplays =>
      obtain ⟨hactor, haction, hkey, hsame⟩ := (h.replays_iff hfound).mp hreplays
      rw [hstored, Option.some_inj, (storedExplanation_eq_self_iff hstored).mpr hwell] at hsame
      have hagain : again = input := ReviewDecisionInput.ext haction
        (hhead.trans h.headSha.symm) hsame.symm hkey
      refine absurd hother (not_or.mpr ⟨?_, not_or.mpr ⟨by simp [hcurrent], not_not.mpr hadmits⟩⟩)
      exact not_not.mpr ⟨hactor, hparse.trans (hagain ▸ hfirst.symm)⟩
  | written _ _ _ _ _ _ _ hnone _ =>
      rw [hnone] at hdecisions
      cases hdecisions

/-- The call that wrote the decision has said its explanation well. -/
theorem wellFormed_of_explainsWell {events : List ReviewEvent}
    (hwell : Throughout (step environment) start (ExplainsWell environment) events)
    (hwritten : WrittenBy environment events first) (hparse : first.request.parse = some input) :
    ∀ text, input.explanation = some text → JsString.isWellFormed text = true := by
  obtain ⟨front, event, rest, hevents, rfl, hwrites⟩ := hwritten
  obtain ⟨-, -, hadmits, -, -, -, -, hreview, -⟩ := hwrites.cases
  exact fun text => hwell front _ rest hevents hadmits hreview input text hparse

/-- A decision is written on an attempt in review, with the check of its action. -/
theorem written_of_writes (hhash : CollisionFree environment.sha256)
    (hchecks : ∀ row, s.checkRun = some row → row.Bound environment.sha256)
    (hwrites : Writes environment s call) :
    ∃ input, call.request.parse = some input ∧
      Written environment s (s.decideReview environment call).1 input := by
  obtain ⟨input, hparse, -, hcurrent, hhead, -, -, hreview, hfirst, hleaves⟩ := hwrites.cases
  obtain ⟨write, hwrite, hrow⟩ := hleaves.check
  exact ⟨input, hparse, hcurrent, hhead, hreview, hfirst, hleaves.status, write.row, hrow,
    written_of_persist hwrite hhash hchecks (by simp [decisionIntent])⟩

/-- At most one decision is ever written, in review and for the current revision; it decides
the attempt and its check, and its call alone is answered again. -/
theorem decisions_are_final (environment : ReviewEnvironment Digest)
    (hhash : CollisionFree environment.sha256) (events : List ReviewEvent)
    (hwell : Throughout (step environment) start (ExplainsWell environment) events) :
    DecisionsAreFinal environment events := by
  have hreviewed := reviewed_reached environment events
  have hdecided (hsome : ∃ first, WrittenBy environment events first) :
      ∃ first input, WrittenBy environment events first ∧ first.request.parse = some input ∧
        Decided environment first input (rowsAfter environment events) := by
    obtain ⟨first, hfirst⟩ := hsome
    obtain ⟨input, hparse, hinput⟩ := hreviewed.decided first hfirst
    exact ⟨first, input, hfirst, hparse, hinput⟩
  constructor
  · by_cases hsome : ∃ first, WrittenBy environment events first
    · obtain ⟨first, input, -, -, hinput⟩ := hdecided hsome
      obtain ⟨explanation, -, hdecisions⟩ := hinput.decisions
      rw [hdecisions, List.length_singleton]
    · rw [(hreviewed.undecided (not_exists.mp hsome)).1]
      exact Nat.zero_le 1
  · intro hne
    have hsome : ∃ first, WrittenBy environment events first := by
      by_contra hnone
      exact hne (hreviewed.undecided (not_exists.mp hnone)).1
    obtain ⟨first, input, hfirst, hparse, hinput⟩ := hdecided hsome
    refine ⟨first, input, hfirst, hparse, ?_⟩
    rw [hinput.status]
    cases input.action <;> simp [planReviewDecision]
  · intro event hchanged
    by_cases hdecide : ∃ call, event = .decide call
    · obtain ⟨call, rfl⟩ := hdecide
      obtain ⟨input, hparse, hwritten⟩ := written_of_writes hhash hreviewed.checks hchanged
      exact ⟨call, input, rfl, hparse, hwritten⟩
    · have hsame : Others environment (rowsAfter environment events) _ :=
        others_step fun call hcall => hdecide ⟨call, hcall⟩
      exact absurd hsame.decisions hchanged
  · intro first call hfirst hrepeats hcurrent hadmits
    obtain ⟨input, hparse, hinput⟩ := hreviewed.decided first hfirst
    exact ⟨_, _, _, (hinput.replayed_iff (hrepeats.2.trans hparse) hrepeats.1 hcurrent
      hadmits).mpr (wellFormed_of_explainsWell hwell hfirst hparse)⟩
  · intro first call hfirst hother
    obtain ⟨input, hparse, hinput⟩ := hreviewed.decided first hfirst
    exact hinput.refused hparse (wellFormed_of_explainsWell hwell hfirst hparse) hother

/-! ## A decision and its repetition -/

def sampleReview : ReviewEnvironment (List UInt8) where
  sha256 := id
  subjectKeyHash := fun _ => List.replicate 64 0x61
  revisionId := js "r1"
  headSha := List.replicate 40 0x61
  detailsUrl := js "https://proof.example/revisions/r1"
  policy := some true

/-- An approval with an explanation. -/
def sampleApproval (explanation : JsString) : ReviewCall where
  now := 10
  clock := { reading := fun _ => 10, finishedAt := 10, reading_le := fun _ => le_rfl }
  occurredAt := 10
  actorId := js "maintainer"
  authorized := true
  request :=
    { action := js "approve"
      expectedHeadSha := List.replicate 40 0x61
      explanation := some explanation
      idempotencyKey := js "decision-1" }
  deletionId := js "d1"
  fails := false

/-- An attempt that comes into review, and its approval. -/
def sampleDecided (explanation : JsString) : List ReviewEvent :=
  [.transition 1 .ready none, .transition 2 .active none, .transition 3 .uploading none,
    .transition 4 .processing none, .transition 5 .reviewRequired none,
    .decide (sampleApproval explanation)]

theorem decisions_are_final_sample :
    (rowsAfter sampleReview (sampleDecided (js "fine"))).status = .passed ∧
      DecisionsAreFinal sampleReview (sampleDecided (js "fine")) := by
  refine ⟨by decide, decisions_are_final sampleReview Db.CheckSync.collisionFree_id _ ?_⟩
  iterate 5 refine throughout_cons.mpr ⟨trivial, ?_⟩
  refine throughout_cons.mpr ⟨fun _ _ input text hparse htext => ?_, throughout_nil⟩
  have hinput : (sampleApproval (js "fine")).request.parse =
      some
        { action := .approve
          expectedHeadSha := List.replicate 40 0x61
          explanation := some (js "fine")
          idempotencyKey := js "decision-1" } := by decide
  rw [hinput, Option.some_inj] at hparse
  obtain rfl := hparse
  obtain rfl := Option.some_inj.mp htext
  decide

/-- An explanation with a lone surrogate is stored with U+FFFD in its place, and the same call
conflicts with its own decision. -/
theorem repetition_conflicts :
    ¬ ∀ events, DecisionsAreFinal sampleReview events := by
  intro hfinal
  have hwritten : WrittenBy sampleReview (sampleDecided [0xd800]) (sampleApproval [0xd800]) := by
    refine ⟨(sampleDecided [0xd800]).take 5, _, [], rfl, rfl, ?_⟩
    unfold Writes
    decide
  obtain ⟨action, status, headSha, hanswer⟩ :=
    (hfinal (sampleDecided [0xd800])).replayed _ (sampleApproval [0xd800]) hwritten ⟨rfl, rfl⟩
      (by decide) (by unfold Admits; decide)
  have hconflict : ((rowsAfter sampleReview (sampleDecided [0xd800])).decideReview sampleReview
      (sampleApproval [0xd800])).2 = .conflict := by decide
  rw [hanswer] at hconflict
  cases hconflict

end ReviewRows

end Web

end UnderstandProof
