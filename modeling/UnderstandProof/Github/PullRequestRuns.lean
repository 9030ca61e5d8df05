import UnderstandProof.Db.GithubCheckIntents
import UnderstandProof.Foundation.History
import UnderstandProof.Github.PullRequestSteps

/-!
# Pull requests over all histories

After the first snapshot one revision is current, that of the last committed snapshot; no
passed attempt changes; and a snapshot of an open pull request with a passed attempt leaves
the check of its revision successful. The live attempts are on the current revision, and on
an open pull request in every history in which no attempt is replaced while the pull request
is closed.
-/

open Foundation

namespace UnderstandProof

namespace Github

open Domain (AttemptStatus Timestamp allowedAttemptTransitions)
open Db (CheckRun GithubCheckIntent)
open Db.CheckSync (CollisionFree)

def CommittedSnapshot.pair (snapshot : CommittedSnapshot) : JsString × JsString :=
  (snapshot.headSha, snapshot.baseSha)

namespace PullRequestRows

variable {Digest : Type} {environment : RevisionEnvironment Digest}
  {s t u : PullRequestRows Digest} {current : Option (JsString × JsString)} {now : Timestamp}
  {revisionId : JsString} {payload : VerifiedSnapshot} {event : RevisionEvent}
  {attempt : Attempt}

/-- The id of an attempt is derived from a text, and is that of a replacement only when the
attempt has the revision and the author of the one that it replaces. -/
def Minted (environment : RevisionEnvironment Digest) (s : PullRequestRows Digest) : Prop :=
  ∀ attempt ∈ s.attempts,
    (∃ text, attempt.id = environment.deterministicUuid text ∧
        ¬ js "replacement:" <+: text) ∨
      ∃ source ∈ s.attempts, ∃ idempotencyKey headSha,
        attempt.id = replacementId environment source.id idempotencyKey headSha ∧
          attempt.revisionId = source.revisionId ∧ attempt.authorId = source.authorId

/-- No attempt goes away, those that are not live stay as they are, and the ids of new ones
are minted. -/
structure KeepsAttempts (environment : RevisionEnvironment Digest)
    (s t : PullRequestRows Digest) : Prop where
  follows : ∀ attempt ∈ s.attempts, ∃ attempt' ∈ t.attempts, Follows attempt attempt'
  minted : Minted environment s → Minted environment t

/-- No attempt is live. -/
def IsIdle (s : PullRequestRows Digest) : Prop :=
  ∀ attempt ∈ s.attempts, isLive attempt.status = false

theorem keepsAttempts_of_eq (h : t.attempts = s.attempts) : KeepsAttempts environment s t where
  follows := fun attempt hmem => ⟨attempt, h ▸ hmem, follows_refl⟩
  minted := by
    unfold Minted
    rw [h]
    exact id

theorem KeepsAttempts.trans (h : KeepsAttempts environment s t)
    (h' : KeepsAttempts environment t u) : KeepsAttempts environment s u where
  follows := by
    intro attempt hmem
    obtain ⟨attempt', hmem', hfollows⟩ := h.follows attempt hmem
    obtain ⟨attempt'', hmem'', hfollows'⟩ := h'.follows attempt' hmem'
    exact ⟨attempt'', hmem'', hfollows.trans hfollows'⟩
  minted := fun hminted => h'.minted (h.minted hminted)

theorem keepsAttempts_of_winds {change : Attempt → Attempt}
    (h : Winds s.attempts t.attempts change) : KeepsAttempts environment s t where
  follows := fun attempt hmem =>
    ⟨change attempt, h.eq ▸ List.mem_map_of_mem hmem, h.follows attempt hmem⟩
  minted := by
    intro hminted attempt' hmem'
    rw [h.eq] at hmem'
    obtain ⟨attempt, hmem, rfl⟩ := List.mem_map.mp hmem'
    have hfollows := h.follows attempt hmem
    rcases hminted attempt hmem with ⟨text, hid, htext⟩ |
      ⟨source, hsource, key, headSha, hid, hrevision, hauthor⟩
    · exact .inl ⟨text, hfollows.id.trans hid, htext⟩
    · have hsame := h.follows source hsource
      refine .inr ⟨change source, h.eq ▸ List.mem_map_of_mem hsource, key, headSha, ?_, ?_, ?_⟩
      · rw [hfollows.id, hid, hsame.id]
      · rw [hfollows.revisionId, hrevision, hsame.revisionId]
      · rw [hfollows.authorId, hauthor, hsame.authorId]

/-- A new attempt with a minted id. -/
theorem keepsAttempts_of_insert (h : t.attempts = s.attempts ++ [attempt])
    (hid : (∃ text, attempt.id = environment.deterministicUuid text ∧
        ¬ js "replacement:" <+: text) ∨
      ∃ source ∈ s.attempts, ∃ idempotencyKey headSha,
        attempt.id = replacementId environment source.id idempotencyKey headSha ∧
          attempt.revisionId = source.revisionId ∧ attempt.authorId = source.authorId) :
    KeepsAttempts environment s t where
  follows := fun other hmem => ⟨other, h ▸ List.mem_append_left _ hmem, follows_refl⟩
  minted := by
    intro hminted other hmem
    rw [h] at hmem ⊢
    have hor : (∃ text, other.id = environment.deterministicUuid text ∧
          ¬ js "replacement:" <+: text) ∨
        ∃ source ∈ s.attempts, ∃ idempotencyKey headSha,
          other.id = replacementId environment source.id idempotencyKey headSha ∧
            other.revisionId = source.revisionId ∧ other.authorId = source.authorId := by
      rcases List.mem_append.mp hmem with hmem | hmem
      · exact hminted other hmem
      · cases List.mem_singleton.mp hmem
        exact hid
    exact hor.imp id fun ⟨source, hsource, hrest⟩ =>
      ⟨source, List.mem_append_left _ hsource, hrest⟩

/-- An attempt that is not live stays as it is. -/
theorem KeepsAttempts.ended (h : KeepsAttempts environment s t) (hmem : attempt ∈ s.attempts)
    (hended : isLive attempt.status = false) : attempt ∈ t.attempts := by
  obtain ⟨attempt', hmem', hfollows⟩ := h.follows attempt hmem
  exact hfollows.ended hended ▸ hmem'

theorem IsIdle.of_winds {change : Attempt → Attempt} (h : s.IsIdle)
    (hwinds : Winds s.attempts t.attempts change) : t.IsIdle := by
  intro attempt hmem
  by_contra hlive
  rw [Bool.not_eq_false] at hlive
  obtain ⟨before, hbefore, hwas, -⟩ := hwinds.live hmem hlive
  exact nomatch (h before hbefore).symm.trans hwas

/-! ## Snapshots -/

section Snapshots

/-- A revision has the id and is the current one. -/
def IsCurrentId (s : PullRequestRows Digest) (revisionId : JsString) : Prop :=
  ∃ revision ∈ s.revisions, revision.isCurrent = true ∧ revision.id = revisionId

/-- What is so once a snapshot has switched to its pair. -/
structure Switched (environment : RevisionEnvironment Digest) (s t : PullRequestRows Digest)
    (pair : JsString × JsString) (revisionId : JsString) : Prop where
  settled : Settled environment t (some pair)
  revision : t.IsCurrentId revisionId
  passed : KeepsAttempts environment s t
  state : t.state = s.state
  committed : t.committed = s.committed

theorem switched_of_upsert {headSha baseSha new : JsString} (h : Settled environment s none)
    (hupsert : s.upsertRevision headSha baseSha new = some (t, revisionId)) :
    Switched environment s t (headSha, baseSha) revisionId := by
  obtain ⟨hsettled, hupserted⟩ := h.upsertRevision hupsert
  obtain ⟨revision, hmem, hcurrent, hid, -⟩ := hupserted.revision
  exact ⟨hsettled, ⟨revision, hmem, hcurrent, hid⟩, keepsAttempts_of_eq hupserted.attempts,
    hupserted.state, hupserted.committed⟩

section Switch

variable [DecidableEq Digest]

theorem Settled.switchRevision {new : JsString} {reactivated : Bool}
    (h : Settled environment s current)
    (hswitch : s.switchRevision environment now payload new =
      some (t, revisionId, reactivated)) :
    Switched environment s t (payload.headSha, payload.baseSha) revisionId := by
  unfold PullRequestRows.switchRevision at hswitch
  split at hswitch
  · next hnone =>
    obtain ⟨switched, hupsert, heq⟩ := Option.map_eq_some_iff.mp hswitch
    cases heq
    exact switched_of_upsert (h.none_of_currentRevision hnone) hupsert
  · next left hleft =>
    obtain ⟨hmem, hcurrent⟩ := currentRevision_eq_some hleft
    split at hswitch
    · obtain ⟨given, hgiven, hmap⟩ := Option.bind_eq_some_iff.mp hswitch
      obtain ⟨switched, hupsert, heq⟩ := Option.map_eq_some_iff.mp hmap
      cases heq
      have hchecks : ChecksOnly environment (s.withoutCurrent now left) given :=
        checksOnly_of_writeCheck hgiven
      have hsettled := (h.withoutCurrent hmem hcurrent).of_checksOnly hchecks
      have hswitched := switched_of_upsert hsettled hupsert
      have hpassed : KeepsAttempts environment s (s.withoutCurrent now left) :=
        keepsAttempts_of_winds winds_invalidation
      exact ⟨hswitched.settled, hswitched.revision,
        (hpassed.trans (keepsAttempts_of_eq hchecks.attempts)).trans hswitched.passed,
        hswitched.state.trans hchecks.state, hswitched.committed.trans hchecks.committed⟩
    · next hsame =>
      cases hswitch
      rw [not_or, not_not, not_not] at hsame
      have hpair : left.pair = (payload.headSha, payload.baseSha) := Prod.ext hsame.1 hsame.2
      exact ⟨hpair ▸ h.some_of_currentRevision hleft, ⟨left, hmem, hcurrent, rfl⟩,
        keepsAttempts_of_eq rfl, rfl, rfl⟩

end Switch

/-- What a snapshot leaves once its revision is current. -/
structure Applied (environment : RevisionEnvironment Digest) (s t : PullRequestRows Digest)
    (payload : VerifiedSnapshot) (revisionId : JsString) : Prop where
  settled : ∀ current, Settled environment s current → Settled environment t current
  revisions : t.revisions = s.revisions
  passed : KeepsAttempts environment s t
  state : t.state = s.state
  committed : t.committed = s.committed
  idle : ∀ current, Settled environment s current → payload.action = .closed → t.IsIdle
  success : ∀ current, Settled environment s current → CollisionFree environment.sha256 →
    payload.action ≠ .closed → t.hasPassed revisionId = true →
      ∃ row, t.checkRuns revisionId = some row ∧ row.status = .completed ∧
        row.conclusion = some .success

/-- The rows of a snapshot before its check is written. -/
def awake (now : Timestamp) (payload : VerifiedSnapshot) (reactivates : Bool)
    (revisionId : JsString) (s : PullRequestRows Digest) : PullRequestRows Digest :=
  let closed := if payload.action = .closed then s.invalidateAttempts now revisionId else s
  if reactivates then closed.reactivateInactive now revisionId payload.headSha else closed

/-- The rows before the check is written, as compared with those after it has switched. -/
structure Awake (environment : RevisionEnvironment Digest) (s t : PullRequestRows Digest)
    (payload : VerifiedSnapshot) (revisionId : JsString) : Prop where
  settled : ∀ current, Settled environment s current → Settled environment t current
  revisions : t.revisions = s.revisions
  passed : KeepsAttempts environment s t
  state : t.state = s.state
  committed : t.committed = s.committed
  idle : ∀ current, Settled environment s current → payload.action = .closed → t.IsIdle
  open_ : payload.action ≠ .closed → t.attempts = s.attempts

theorem awake_spec {reactivates : Bool} (hrevision : s.IsCurrentId revisionId) :
    Awake environment s (s.awake now payload reactivates revisionId) payload revisionId := by
  have hclosed : Awake environment s
      (if payload.action = .closed then s.invalidateAttempts now revisionId else s) payload
      revisionId := by
    split
    · next haction =>
      exact ⟨fun _ h => h.invalidateAttempts, rfl, keepsAttempts_of_winds winds_invalidation, rfl,
        rfl, fun _ h _ => not_live_of_invalidateAttempts h hrevision,
        fun hopen => absurd haction hopen⟩
    · next haction =>
      exact ⟨fun _ h => h, rfl, keepsAttempts_of_eq rfl, rfl, rfl,
        fun _ _ hclosed => absurd hclosed haction, fun _ => rfl⟩
  unfold awake
  dsimp only
  generalize (if payload.action = .closed then s.invalidateAttempts now revisionId else s) =
    closed at hclosed ⊢
  split
  · have hchecks : ChecksOnly environment closed
        (closed.reactivateInactive now revisionId payload.headSha) :=
      checksOnly_reactivateInactive
    refine ⟨fun _ h => (hclosed.settled _ h).of_checksOnly hchecks,
      hchecks.revisions.trans hclosed.revisions,
      hclosed.passed.trans (keepsAttempts_of_eq hchecks.attempts),
      hchecks.state.trans hclosed.state, hchecks.committed.trans hclosed.committed,
      fun _ h haction => ?_, fun haction => hchecks.attempts.trans (hclosed.open_ haction)⟩
    intro attempt hmem
    rw [hchecks.attempts] at hmem
    exact hclosed.idle _ h haction attempt hmem
  · exact hclosed

theorem hasPassed_congr (h : t.attempts = s.attempts) :
    t.hasPassed revisionId = s.hasPassed revisionId := by
  unfold hasPassed
  rw [h]

variable [DecidableEq Digest]

theorem applied_of_applySnapshot {reactivates reactivated : Bool}
    (hrevision : s.IsCurrentId revisionId)
    (h : s.applySnapshot environment now payload reactivates reactivated revisionId = some t) :
    Applied environment s t payload revisionId := by
  have hawake : Awake environment s (s.awake now payload reactivates revisionId) payload
      revisionId := awake_spec hrevision
  unfold applySnapshot at h
  dsimp only at h
  generalize halready : decide (payload.action ≠ .closed ∧
    (if payload.action = .closed then s.invalidateAttempts now revisionId else s).hasPassed
      revisionId = true) = alreadyPassed at h
  have hpassed : payload.action ≠ .closed → s.hasPassed revisionId = true →
      alreadyPassed = true := by
    intro haction hhas
    rw [← halready, decide_eq_true_eq, if_neg haction]
    exact ⟨haction, hhas⟩
  split at h
  · have hchecks : ChecksOnly environment (s.awake now payload reactivates revisionId) t :=
      checksOnly_of_writeCheck h
    obtain ⟨revision, advanced, write, hwrite, rfl⟩ := writeCheck_eq_some h
    refine ⟨fun _ hs => (hawake.settled _ hs).of_checksOnly hchecks, hawake.revisions,
      hawake.passed.trans (keepsAttempts_of_eq hchecks.attempts), hawake.state, hawake.committed, hawake.idle, fun _ hs hhash haction hhas => ?_⟩
    have hbefore : s.hasPassed revisionId = true :=
      (hasPassed_congr (hawake.open_ haction)).symm.trans hhas
    have hintent : webhookIntent environment payload alreadyPassed revisionId =
        checkIntent environment revisionId payload.headSha .completed (some .success)
          (js "understanding confirmed for head " ++ payload.headSha) .webhookIngested
          (js "check:webhook:" ++ revisionId ++ js ":" ++ actionText payload.action) := by
      unfold webhookIntent
      rw [if_neg haction, if_pos (hpassed haction hbefore)]
    rw [hintent] at hwrite ⊢
    have hwritten := written_of_persist hwrite hhash
      (fun row hrow => (hawake.settled _ hs).checks _ row hrow) (by simp [checkIntent])
    exact ⟨write.row, Table.set_self, hwritten.1, hwritten.2⟩
  · next hrefused =>
    cases h
    refine ⟨hawake.settled, hawake.revisions, hawake.passed, hawake.state, hawake.committed,
      hawake.idle, fun _ _ _ haction hhas => ?_⟩
    refine absurd ?_ hrefused
    have hbefore : s.hasPassed revisionId = true :=
      (hasPassed_congr (hawake.open_ haction)).symm.trans hhas
    simp [canApplyWebhookCheck, hpassed haction hbefore]

/-- The transaction of a snapshot switches to its pair and then applies it. -/
theorem processSnapshot_eq_some {new : JsString} {reactivates fails : Bool}
    (h : s.processSnapshot environment now payload new reactivates fails = some t) :
    ∃ (switched applied : PullRequestRows Digest) (id : JsString) (reactivated : Bool),
      PullRequestRows.switchRevision environment now payload new
        { s with state := some payload.state } = some (switched, id, reactivated) ∧
      switched.applySnapshot environment now payload reactivates reactivated id =
        some applied ∧
      t = { applied with
        committed := applied.committed ++
          [{ headSha := payload.headSha
             baseSha := payload.baseSha
             state := payload.state }] } := by
  unfold processSnapshot at h
  split at h
  · cases h
  · obtain ⟨⟨switched, id, reactivated⟩, hswitch, hmap⟩ := Option.bind_eq_some_iff.mp h
    obtain ⟨applied, happly, rfl⟩ := Option.map_eq_some_iff.mp hmap
    exact ⟨switched, applied, id, reactivated, hswitch, happly, rfl⟩

end Snapshots

/-! ## The other transactions -/

/-- A transaction that is no snapshot. -/
structure Carries (environment : RevisionEnvironment Digest) (s t : PullRequestRows Digest) :
    Prop where
  settled : ∀ current, Settled environment s current → Settled environment t current
  passed : KeepsAttempts environment s t
  state : t.state = s.state
  committed : t.committed = s.committed

theorem carries_refl : Carries environment s s := ⟨fun _ h => h, keepsAttempts_of_eq rfl, rfl, rfl⟩

theorem Carries.trans (h : Carries environment s t) (h' : Carries environment t u) :
    Carries environment s u where
  settled := fun current hs => h'.settled current (h.settled current hs)
  passed := h.passed.trans h'.passed
  state := h'.state.trans h.state
  committed := h'.committed.trans h.committed

theorem carries_of_checksOnly (h : ChecksOnly environment s t) : Carries environment s t where
  settled := fun _ hs => hs.of_checksOnly h
  passed := keepsAttempts_of_eq h.attempts
  state := h.state
  committed := h.committed

theorem carries_insertProofPlan {planId : JsString} :
    Carries environment s (s.insertProofPlan planId revisionId) := by
  refine ⟨fun _ hs => hs.insertProofPlan, ?_, ?_, ?_⟩
  all_goals
    unfold insertProofPlan
    split
  · exact keepsAttempts_of_eq rfl
  · exact keepsAttempts_of_eq rfl
  · rfl
  · rfl
  · rfl
  · rfl

theorem carries_insertAttempt (h : s.insertAttempt attempt = some t)
    (hrevision : s.IsCurrentId attempt.revisionId)
    (hid : (∃ text, attempt.id = environment.deterministicUuid text ∧
        ¬ js "replacement:" <+: text) ∨
      ∃ source ∈ s.attempts, ∃ idempotencyKey headSha,
        attempt.id = replacementId environment source.id idempotencyKey headSha ∧
          attempt.revisionId = source.revisionId ∧ attempt.authorId = source.authorId) :
    Carries environment s t := by
  obtain ⟨rfl, -⟩ := insertAttempt_eq_some h
  exact ⟨fun _ hs => hs.insertAttempt h hrevision, keepsAttempts_of_insert rfl hid, rfl, rfl⟩

/-- The id of the next attempt on a plan is not that of a replacement. -/
theorem nextAttemptId_minted {label : JsString} {run : SemanticRun} (first : UInt16)
    (hlabel : label.head? = some first) (hfirst : first ≠ 114) :
    ∃ text, s.nextAttemptId environment label run = environment.deterministicUuid text ∧
      ¬ js "replacement:" <+: text := by
  refine ⟨_, rfl, ?_⟩
  rintro ⟨rest, hrest⟩
  have hhead := congrArg List.head? hrest
  have hreplacement : (js "replacement:").head? = some 114 := by decide
  simp only [List.head?_append, hlabel, hreplacement, Option.some_or, Option.some_inj] at hhead
  exact hfirst hhead.symm

theorem insertProofPlan_isCurrentId {planId : JsString} {planRevision : JsString}
    (h : s.IsCurrentId revisionId) :
    (s.insertProofPlan planId planRevision).IsCurrentId revisionId := by
  unfold insertProofPlan
  split
  · exact h
  · exact h

theorem isCurrentId_of_findRevision {revision : PullRequestRevision}
    (h : s.findRevision revisionId = some revision) (hcurrent : revision.isCurrent = true) :
    s.IsCurrentId revisionId := by
  obtain ⟨hmem, hid⟩ := findRevision_eq_some h
  exact ⟨revision, hmem, hcurrent, hid⟩

section Others

variable [DecidableEq Digest]

theorem persistProofPlan_cases {run : SemanticRun} {bindingActive fails : Bool}
    (h : s.persistProofPlanAndCreateAttempt environment now run bindingActive fails = some t) :
    s.state = some .open ∧ Carries environment s t := by
  unfold persistProofPlanAndCreateAttempt at h
  split at h
  · cases h
  · next hguard =>
    simp only [not_or, ne_eq, not_not] at hguard
    obtain ⟨-, -, hopen, hrevision⟩ := hguard
    refine ⟨hopen, ?_⟩
    split at h
    · cases h
      exact carries_refl
    · split at h
      · cases h
      · obtain ⟨created, hcreated, hwrite⟩ := Option.bind_eq_some_iff.mp h
        have hcurrent : s.IsCurrentId run.revisionId := by
          cases hfind : s.findRevision run.revisionId with
          | none =>
              rw [hfind] at hrevision
              exact absurd rfl hrevision
          | some revision =>
              rw [hfind, Option.all_some, decide_eq_true_eq, not_or, Bool.not_eq_false] at hrevision
              exact isCurrentId_of_findRevision hfind hrevision.1
        exact (carries_insertProofPlan.trans
          (carries_insertAttempt hcreated (insertProofPlan_isCurrentId hcurrent)
            (.inl (nextAttemptId_minted 115 (by decide) (by decide))))).trans
            (carries_of_checksOnly (checksOnly_of_writeCheck hwrite))

theorem prepareRevision_cases {run : SemanticRun} {fails : Bool}
    (h : s.prepareRevision environment now run fails = some t) :
    s.state = some .open ∧ Carries environment s t := by
  unfold prepareRevision at h
  split at h
  · cases h
  · next revision hfind =>
    split at h
    · cases h
    · next hguard =>
      simp only [not_or, ne_eq, not_not, Bool.not_eq_false] at hguard
      obtain ⟨-, hcurrent, -, hopen⟩ := hguard
      refine ⟨hopen, ?_⟩
      have hplanned : Carries environment s (s.insertProofPlan run.planId revision.id) :=
        carries_insertProofPlan
      have hisCurrent : (s.insertProofPlan run.planId revision.id).IsCurrentId run.revisionId :=
        insertProofPlan_isCurrentId (isCurrentId_of_findRevision hfind hcurrent)
      dsimp only at h
      split at h
      · cases h
        exact hplanned
      · next prepared hprepared =>
        obtain ⟨created, hcreated, hwrite⟩ := Option.bind_eq_some_iff.mp h
        refine (hplanned.trans ?_).trans (carries_of_checksOnly (checksOnly_of_writeCheck hwrite))
        subst hcreated
        unfold prepareAttempt at hprepared
        split at hprepared
        · cases hprepared
          exact carries_refl
        · split at hprepared
          · cases hprepared
          · dsimp only at hprepared
            split at hprepared
            · cases hprepared
              exact carries_refl
            · exact carries_insertAttempt (Option.some_inj.mp hprepared) hisCurrent
                (.inl (nextAttemptId_minted 97 (by decide) (by decide)))

/-- A replacement is asked for an attempt that may be replaced, on the current revision, with
no live sibling, under an id that is new. -/
def MayReplace (environment : RevisionEnvironment Digest) (s : PullRequestRows Digest)
    (sourceAttemptId expectedHeadSha idempotencyKey : JsString) (authorized : Bool) : Prop :=
  ∃ source, s.attempts.find? (·.id = sourceAttemptId) = some source ∧ authorized = true ∧
    s.IsCurrentId source.revisionId ∧ source.headSha = expectedHeadSha ∧
    isRetryable source.status = true ∧
    s.liveAttempt source.revisionId source.authorId = none ∧
    s.attempts.find? (·.id =
      replacementId environment sourceAttemptId idempotencyKey expectedHeadSha) = none

theorem createReplacement_cases {sourceAttemptId expectedHeadSha idempotencyKey : JsString}
    {authorized fails : Bool} {result : ReplacementResult}
    (h : s.createReplacementAttempt environment now sourceAttemptId expectedHeadSha idempotencyKey
      authorized fails = some (t, result)) :
    Carries environment s t ∧ (t = s ∨ fails = false ∧
      MayReplace environment s sourceAttemptId expectedHeadSha idempotencyKey authorized) := by
  unfold createReplacementAttempt at h
  split at h
  · cases h
  · next source hsource =>
    split at h
    · cases h
    · next hguard =>
      simp only [not_or, ne_eq, not_not, Bool.not_eq_false] at hguard
      obtain ⟨hauthorized, hrevision, hhead, hretryable⟩ := hguard
      have hcurrent : s.IsCurrentId source.revisionId := by
        cases hfind : s.findRevision source.revisionId with
        | none =>
            rw [hfind] at hrevision
            exact absurd rfl hrevision
        | some revision =>
            rw [hfind, Option.all_some, decide_eq_true_eq, Bool.not_eq_false] at hrevision
            exact isCurrentId_of_findRevision hfind hrevision
      split at h
      · cases h
        exact ⟨carries_refl, .inl rfl⟩
      · next hsibling =>
        dsimp only at h
        split at h
        · split at h
          · cases h
          · cases h
            exact ⟨carries_refl, .inl rfl⟩
        · next hnew =>
          split at h
          · cases h
          · next hfails =>
            obtain ⟨written, hbind, heq⟩ := Option.map_eq_some_iff.mp h
            cases heq
            obtain ⟨created, hcreated, hwrite⟩ := Option.bind_eq_some_iff.mp hbind
            have hmem := List.mem_of_find?_eq_some hsource
            have hid : source.id = sourceAttemptId := by simpa using List.find?_some hsource
            have hminted : Carries environment s created :=
              carries_insertAttempt hcreated hcurrent (.inr ⟨source, hmem, idempotencyKey,
                expectedHeadSha, by rw [hid]; rfl, rfl, rfl⟩)
            exact ⟨hminted.trans
              (carries_of_checksOnly (checksOnly_of_writeCheck hwrite)),
              .inr ⟨Bool.not_eq_true _ ▸ hfails, source, hsource, hauthorized, hcurrent, hhead,
                hretryable, hsibling, hnew⟩⟩

/-- The change of a transition. -/
def moved (now : Timestamp) (attemptId : JsString) (status : AttemptStatus)
    (attempt : Attempt) : Attempt :=
  if attempt.id = attemptId then attempt.withStatus now status else attempt

omit [DecidableEq Digest] in
theorem winds_moved {attemptId : JsString} {status : AttemptStatus}
    (h : s.attempts.all (fun attempt =>
      attempt.id ≠ attemptId ∨ status ∈ allowedAttemptTransitions attempt.status) = true) :
    Winds s.attempts (s.attempts.map (moved now attemptId status))
      (moved now attemptId status) where
  eq := rfl
  follows := by
    intro attempt hmem
    unfold moved
    split
    · next hsame =>
      refine ⟨rfl, rfl, rfl, rfl, fun hended => ?_⟩
      have hall := List.all_eq_true.mp h attempt hmem
      rw [decide_eq_true_eq] at hall
      have hallowed := hall.resolve_left (not_not.mpr hsame)
      revert hended hallowed
      cases attempt.status <;> simp [isLive, allowedAttemptTransitions]
    · exact follows_refl

theorem transition_cases {attemptId : JsString} {status : AttemptStatus}
    {intent : Option GithubCheckIntent}
    (h : s.transition environment now attemptId status intent = some t) :
    Carries environment s t ∧ ∃ change, Winds s.attempts t.attempts change := by
  unfold transition at h
  split at h
  · next hall =>
    have hwinds : Winds s.attempts (s.attempts.map (moved now attemptId status))
        (moved now attemptId status) := winds_moved hall
    have hmoved : Carries environment s
        { s with attempts := s.attempts.map (moved now attemptId status) } := by
      refine ⟨fun current hs => ⟨hs.pairs, hs.revisionIds, hs.isCurrent, hs.known,
        fun attempt hmem hlive => ?_,
        hwinds.single hs.single, hwinds.ids hs.ids, hs.checks⟩, keepsAttempts_of_winds hwinds,
        rfl, rfl⟩
      obtain ⟨before, hbefore, hwas, -, hfollows⟩ := hwinds.live hmem hlive
      obtain ⟨revision, hrevision, hcurrent, hid⟩ := hs.live before hbefore hwas
      exact ⟨revision, hrevision, hcurrent, hid.trans hfollows.revisionId.symm⟩
    dsimp only at h
    split at h
    · cases h
      exact ⟨hmoved, _, hwinds⟩
    · have hchecks : ChecksOnly environment
          { s with attempts := s.attempts.map (moved now attemptId status) } t :=
        checksOnly_of_writeCheck h
      refine ⟨hmoved.trans (carries_of_checksOnly hchecks), moved now attemptId status, ?_⟩
      rw [hchecks.attempts]
      exact hwinds
  · cases h

end Others


/-! ## Histories -/

section Histories

variable [DecidableEq Digest]

/-- What every reachable state keeps. -/
structure Kept (environment : RevisionEnvironment Digest) (s : PullRequestRows Digest) :
    Prop where
  settled : Settled environment s (s.committed.getLast?.map CommittedSnapshot.pair)
  state : s.state = s.committed.getLast?.map CommittedSnapshot.state

omit [DecidableEq Digest] in
theorem kept_start : Kept environment (start : PullRequestRows Digest) :=
  ⟨settled_start, rfl⟩

omit [DecidableEq Digest] in
theorem Kept.of_carries (h : Kept environment s) (hcarries : Carries environment s t) :
    Kept environment t := by
  constructor
  · rw [hcarries.committed]
    exact hcarries.settled _ h.settled
  · rw [hcarries.committed, hcarries.state]
    exact h.state

/-- What a committed snapshot does. -/
theorem Kept.snapshot {new : JsString} {reactivates fails : Bool} (h : Kept environment s)
    (hnext : s.processSnapshot environment now payload new reactivates fails = some t) :
    Kept environment t ∧ KeepsAttempts environment s t ∧
      t.committed = s.committed ++
        [{ headSha := payload.headSha
           baseSha := payload.baseSha
           state := payload.state }] ∧
      (payload.action = .closed → t.IsIdle) ∧
      (CollisionFree environment.sha256 → payload.action ≠ .closed →
        ∀ revision ∈ t.revisions, revision.isCurrent = true → t.hasPassed revision.id = true →
          ∃ row, t.checkRuns revision.id = some row ∧ row.status = .completed ∧
            row.conclusion = some .success) := by
  obtain ⟨switched, applied, id, reactivated, hswitch, happly, rfl⟩ :=
    processSnapshot_eq_some hnext
  have hseen : Settled environment { s with state := some payload.state }
      (s.committed.getLast?.map CommittedSnapshot.pair) :=
    ⟨h.settled.pairs, h.settled.revisionIds, h.settled.isCurrent, h.settled.known, h.settled.live,
      h.settled.single, h.settled.ids, h.settled.checks⟩
  have hswitched := hseen.switchRevision hswitch
  have happlied := applied_of_applySnapshot hswitched.revision happly
  have hsettled := happlied.settled _ hswitched.settled
  have hcommitted : applied.committed = s.committed :=
    happlied.committed.trans hswitched.committed
  have hseenAttempts : KeepsAttempts environment s { s with state := some payload.state } :=
    keepsAttempts_of_eq rfl
  have hpassed : KeepsAttempts environment s applied :=
    hseenAttempts.trans (hswitched.passed.trans happlied.passed)
  refine ⟨⟨?_, ?_⟩, hpassed.trans (keepsAttempts_of_eq rfl), by rw [hcommitted], happlied.idle _ hswitched.settled,
    fun hhash haction revision hmem hcurrent hhas => ?_⟩
  · rw [List.getLast?_concat]
    exact ⟨hsettled.pairs, hsettled.revisionIds, hsettled.isCurrent, hsettled.known, hsettled.live,
      hsettled.single, hsettled.ids, hsettled.checks⟩
  · rw [List.getLast?_concat]
    exact happlied.state.trans hswitched.state
  · obtain ⟨found, hfound, hfoundCurrent, hid⟩ := hswitched.revision
    rw [← happlied.revisions] at hfound
    obtain rfl := hsettled.eq_of_isCurrent hmem hfound hcurrent hfoundCurrent
    rw [hid] at hhas ⊢
    exact happlied.success _ hswitched.settled hhash haction hhas

/-- Every step keeps the invariant and the passed attempts. -/
theorem Kept.next (h : Kept environment s) (hnext : s.next environment event = some t) :
    Kept environment t ∧ KeepsAttempts environment s t := by
  cases event with
  | snapshot now payload new reactivates fails =>
      obtain ⟨hkept, hpassed, -⟩ := h.snapshot hnext
      exact ⟨hkept, hpassed⟩
  | persistProofPlan now run bindingActive fails =>
      have hcarries := (persistProofPlan_cases hnext).2
      exact ⟨h.of_carries hcarries, hcarries.passed⟩
  | prepareRevision now run fails =>
      have hcarries := (prepareRevision_cases hnext).2
      exact ⟨h.of_carries hcarries, hcarries.passed⟩
  | createReplacement now sourceAttemptId expectedHeadSha idempotencyKey authorized fails =>
      obtain ⟨⟨u, result⟩, hcreate, rfl⟩ := Option.map_eq_some_iff.mp hnext
      have hcarries := (createReplacement_cases hcreate).1
      exact ⟨h.of_carries hcarries, hcarries.passed⟩
  | transition now attemptId status intent =>
      have hcarries := (transition_cases hnext).1
      exact ⟨h.of_carries hcarries, hcarries.passed⟩

theorem Kept.step (h : Kept environment s) :
    Kept environment (s.step environment event) ∧ KeepsAttempts environment s (s.step environment event) := by
  unfold PullRequestRows.step
  cases hnext : s.next environment event with
  | none => exact ⟨h, keepsAttempts_of_eq rfl⟩
  | some t => exact h.next hnext

/-- The action of a snapshot is `closed` exactly when its state is, and no attempt is replaced
while the pull request is closed. -/
def IsRegular (environment : RevisionEnvironment Digest) (s : PullRequestRows Digest) :
    RevisionEvent → Prop
  | .snapshot _ payload _ _ _ => payload.action = .closed ↔ payload.state = .closed
  | .createReplacement _ sourceAttemptId expectedHeadSha idempotencyKey authorized fails =>
      fails = false → s.state = some .closed →
        ¬ MayReplace environment s sourceAttemptId expectedHeadSha idempotencyKey authorized
  | _ => True

/-- While the pull request is closed, no attempt is live. -/
def IsIdleWhenClosed (s : PullRequestRows Digest) : Prop :=
  s.state = some .closed → s.IsIdle

theorem isIdle_step (h : Kept environment s) (hidle : s.IsIdleWhenClosed)
    (hregular : s.IsRegular environment event) :
    (s.step environment event).IsIdleWhenClosed := by
  unfold PullRequestRows.step
  cases hnext : s.next environment event with
  | none => exact hidle
  | some t =>
      intro hclosed
      change t.state = some .closed at hclosed
      change t.IsIdle
      cases event with
      | snapshot now payload new reactivates fails =>
          obtain ⟨hkept, -, hcommitted, hended, -⟩ := h.snapshot hnext
          rw [hkept.state, hcommitted, List.getLast?_concat] at hclosed
          exact hended (hregular.mpr (Option.some_inj.mp hclosed))
      | persistProofPlan now run bindingActive fails =>
          obtain ⟨hopen, hcarries⟩ := persistProofPlan_cases hnext
          rw [hcarries.state, hopen] at hclosed
          cases hclosed
      | prepareRevision now run fails =>
          obtain ⟨hopen, hcarries⟩ := prepareRevision_cases hnext
          rw [hcarries.state, hopen] at hclosed
          cases hclosed
      | createReplacement now sourceAttemptId expectedHeadSha idempotencyKey authorized fails =>
          obtain ⟨⟨u, result⟩, hcreate, rfl⟩ := Option.map_eq_some_iff.mp hnext
          obtain ⟨hcarries, heq | ⟨hfails, hreplace⟩⟩ := createReplacement_cases hcreate
          · cases heq
            exact hidle hclosed
          · exact absurd hreplace (hregular hfails (hcarries.state.symm.trans hclosed))
      | transition now attemptId status intent =>
          obtain ⟨hcarries, change, hwinds⟩ := transition_cases hnext
          exact (hidle (hcarries.state.symm.trans hclosed)).of_winds hwinds

/-- The rows after a history. -/
abbrev rowsAfter (environment : RevisionEnvironment Digest) (events : List RevisionEvent) :
    PullRequestRows Digest :=
  after (PullRequestRows.step environment) start events

theorem kept_after {events : List RevisionEvent} :
    Kept environment (rowsAfter environment events) :=
  after_keeps kept_start (fun _ _ h => h.step.1) events

theorem idle_after {events : List RevisionEvent}
    (h : Throughout (PullRequestRows.step environment) start (IsRegular environment) events) :
    (rowsAfter environment events).IsIdleWhenClosed :=
  after_invariant (I := fun _ s => s.IsIdleWhenClosed) (fun hclosed => nomatch hclosed)
    (fun _ _ hidle hregular => isIdle_step kept_after hidle hregular) h

theorem keepsAttempts_after {events more : List RevisionEvent} :
    KeepsAttempts environment (rowsAfter environment events) (rowsAfter environment (events ++ more)) := by
  induction more using List.reverseRecOn with
  | nil => simpa using keepsAttempts_of_eq rfl
  | append_singleton more event ih =>
      rw [← List.append_assoc]
      unfold rowsAfter
      rw [after_concat]
      exact ih.trans kept_after.step.2

/-- The laws of a pull request over every history in which the action of a snapshot fits its
state and no attempt is replaced while the pull request is closed: the current revision is the
last committed one, the live attempts are on it and on an open pull request, a passed attempt
stays as it is, and a snapshot of an open pull request with a passed attempt leaves a
successful check. -/
theorem revision_laws (environment : RevisionEnvironment Digest)
    (hhash : CollisionFree environment.sha256) (events : List RevisionEvent)
    (hregular : Throughout (PullRequestRows.step environment) start (IsRegular environment)
      events) :
    let s := rowsAfter environment events
    (∀ snapshot, s.committed.getLast? = some snapshot →
      ∃! revision, (revision ∈ s.revisions ∧ revision.isCurrent = true) ∧
        revision.pair = snapshot.pair) ∧
    (s.committed = [] → s.revisions.all (·.isCurrent = false) = true) ∧
    (∀ revision ∈ s.revisions, revision.isCurrent = true →
      (s.committed.getLast?.map CommittedSnapshot.pair) = some revision.pair) ∧
    (∀ attempt ∈ s.attempts, isLive attempt.status = true →
      s.committed.getLast?.map CommittedSnapshot.state = some .open ∧
        s.IsCurrentId attempt.revisionId) ∧
    (s.attempts.map Attempt.id).Nodup ∧
    (∀ more, ∀ attempt ∈ s.attempts, attempt.status = .passed →
      attempt ∈ (rowsAfter environment (events ++ more)).attempts) ∧
    ∀ front rest now payload new reactivates fails,
      events = front ++ .snapshot now payload new reactivates fails :: rest →
      ∀ t, (rowsAfter environment front).next environment
          (.snapshot now payload new reactivates fails) = some t →
        t.committed.getLast?.map CommittedSnapshot.state = some .open →
        ∀ revision ∈ t.revisions, revision.isCurrent = true → t.hasPassed revision.id = true →
          ∃ row, t.checkRuns revision.id = some row ∧ row.status = .completed ∧
            row.conclusion = some .success := by
  have hkept : Kept environment (rowsAfter environment events) := kept_after
  have hsettled := hkept.settled
  refine ⟨fun snapshot hlast => ?_, fun hnone => ?_, fun revision hmem hcurrent => ?_,
    fun attempt hmem hlive => ⟨?_, hsettled.live attempt hmem hlive⟩, hsettled.ids,
    fun more attempt hmem hpassed => keepsAttempts_after.ended hmem (by rw [hpassed]; rfl), ?_⟩
  · rw [hlast] at hsettled
    obtain ⟨revision, hmem, hpair⟩ := hsettled.known snapshot.pair rfl
    refine ⟨revision, ⟨⟨hmem, (hsettled.isCurrent revision hmem).mpr (by rw [hpair]; rfl)⟩, hpair⟩,
      fun other hother => ?_⟩
    exact hsettled.eq_of_pair hother.1.1 hmem (hother.2.trans hpair.symm)
  · rw [hnone] at hsettled
    refine List.all_eq_true.mpr fun revision hmem => ?_
    simpa using hsettled.isCurrent revision hmem
  · exact (hsettled.isCurrent revision hmem).mp hcurrent
  · rw [← hkept.state]
    cases hstate : (rowsAfter environment events).state with
    | none =>
        obtain ⟨revision, hrevision, hcurrent, -⟩ := hsettled.live attempt hmem hlive
        have hpair := (hsettled.isCurrent revision hrevision).mp hcurrent
        obtain ⟨snapshot, hlast, -⟩ := Option.map_eq_some_iff.mp hpair
        rw [hkept.state, hlast] at hstate
        cases hstate
    | some state =>
        cases state with
        | «open» => rfl
        | closed => exact nomatch (idle_after hregular hstate attempt hmem).symm.trans hlive
  · rintro front rest now payload new reactivates fails rfl t hnext hopen
    have hfront : Kept environment (rowsAfter environment front) := kept_after
    obtain ⟨-, -, hcommitted, -, hsuccess⟩ := hfront.snapshot hnext
    rw [hcommitted, List.getLast?_concat] at hopen
    have hstate : payload.state = .open := Option.some_inj.mp hopen
    refine hsuccess hhash fun haction => ?_
    have hclosed := (hregular front _ rest rfl).mp haction
    rw [hstate] at hclosed
    cases hclosed

end Histories

section Samples

def sampleUrls : RevisionEnvironment (List UInt8) where
  sha256 := id
  deterministicUuid := id
  detailsUrl revisionId := js "https://proof.example/revisions/" ++ revisionId

def sampleSnapshot (now : Timestamp) (action : PullRequestAction) (state : PullRequestState)
    (headSha revisionId : JsString) : RevisionEvent :=
  .snapshot now
    { action := action
      state := state
      headSha := headSha
      baseSha := js "b1" }
    revisionId false false

def sampleRun : SemanticRun where
  revisionId := js "r1"
  authorId := js "author"
  contextHeadSha := js "h1"
  planId := js "p1"
  planHeadSha := js "h1"
  idempotencyKey := js "proof"

def sampleAttemptId : JsString := js "semantic-attempt-v1:r1:author:p1:1"

/-- A snapshot, and an attempt on its revision. -/
def samplePrepared : List RevisionEvent :=
  [sampleSnapshot 1 .opened .open (js "h1") (js "r1"), .persistProofPlan 2 sampleRun true false]

/-- The attempt is aborted, the pull request is closed, and the attempt is replaced. -/
theorem replacement_on_closed :
    let s := rowsAfter sampleUrls (samplePrepared ++
      [.transition 3 sampleAttemptId .technicalRetry none,
        sampleSnapshot 4 .closed .closed (js "h1") (js "r2"),
        .createReplacement 5 sampleAttemptId (js "h1") (js "retry") true false])
    s.committed.getLast?.map CommittedSnapshot.state = some .closed ∧
      s.attempts.map Attempt.status = [.technicalRetry, .ready] := by
  decide

/-- The attempt passes, and the head moves away. -/
def sampleAway : List RevisionEvent :=
  samplePrepared ++
    ([.active, .uploading, .processing, .reviewRequired, .passed].map fun status =>
      .transition 3 sampleAttemptId status none) ++
    [sampleSnapshot 4 .synchronize .open (js "h2") (js "r2")]

/-- The head moves back. -/
def sampleBack : RevisionEvent := sampleSnapshot 5 .synchronize .open (js "h1") (js "r3")

theorem revision_laws_sample :
    ∃ row, (rowsAfter sampleUrls (sampleAway ++ [sampleBack])).checkRuns (js "r1") = some row ∧
      row.status = .completed ∧ row.conclusion = some .success := by
  have hregular : Throughout (PullRequestRows.step sampleUrls) start (IsRegular sampleUrls)
      (sampleAway ++ [sampleBack]) := by
    refine throughout_cons.mpr ⟨iff_of_false (by decide) (by decide), ?_⟩
    iterate 6 refine throughout_cons.mpr ⟨trivial, ?_⟩
    iterate 2 refine throughout_cons.mpr ⟨iff_of_false (by decide) (by decide), ?_⟩
    exact throughout_nil
  have hlaws := revision_laws sampleUrls Db.CheckSync.collisionFree_id (sampleAway ++ [sampleBack])
    hregular
  obtain ⟨-, -, -, -, -, -, hsuccess⟩ := hlaws
  have hnext : ((rowsAfter sampleUrls sampleAway).next sampleUrls sampleBack).isSome = true := by
    decide
  obtain ⟨t, ht⟩ := Option.isSome_iff_exists.mp hnext
  have hafter : rowsAfter sampleUrls (sampleAway ++ [sampleBack]) = t := by
    unfold rowsAfter
    rw [after_concat, PullRequestRows.step, ht, Option.getD_some]
  have hcurrent : (rowsAfter sampleUrls (sampleAway ++ [sampleBack])).revisions.any
      (fun revision => revision.id = js "r1" ∧ revision.isCurrent = true) = true := by
    decide
  have hpassed : (rowsAfter sampleUrls (sampleAway ++ [sampleBack])).hasPassed (js "r1") = true := by
    decide
  have hopen : (rowsAfter sampleUrls (sampleAway ++ [sampleBack])).committed.getLast?.map
      CommittedSnapshot.state = some .open := by decide
  obtain ⟨revision, hmem, hrevision⟩ := List.any_eq_true.mp hcurrent
  rw [decide_eq_true_eq] at hrevision
  rw [hafter] at hmem hpassed hopen ⊢
  rw [← hrevision.1] at hpassed ⊢
  exact hsuccess sampleAway [] 5 _ (js "r3") false false rfl t ht hopen revision hmem hrevision.2
    hpassed

end Samples

end PullRequestRows

end Github

end UnderstandProof
