import UnderstandProof.Db.GithubCheckClaims

/-!
# Check intents over all histories

A row that waits for its synchronization has a job, or will be swept, in every history in
which no publication for a row that becomes pending is refused without a job for it, and in
which the queue gives up no last job of a pending row. A worker that is between its claim
and its completion gets such a publication refused, and a pending row is not swept.
-/

open Foundation

namespace UnderstandProof

namespace Db

open Domain (Timestamp)

namespace CheckSync

variable {Digest : Type} {sha256 : List UInt8 → Digest} {s t : CheckSync Digest}

/-- The job waits, or a worker has it and has not claimed with it yet. -/
def IsOpen (s : CheckSync Digest) (job : ReconcileCheckJob) : Prop :=
  job ∈ s.waiting ∨ ∃ worker, s.active worker = some ⟨job, .fresh⟩

/-- An open job has the reason. -/
def IsAwaited (s : CheckSync Digest) (reason : CheckReason) : Prop :=
  ∃ job : ReconcileCheckJob, job.reason = reason ∧ job.expectedHeadSha = s.revision.headSha ∧
    s.IsOpen job

/-- A runnable or an active job has the row's reason. -/
def IsCarried (s : CheckSync Digest) (row : CheckRun Digest) : Prop :=
  ∃ job : ReconcileCheckJob, row.intentReason = some job.reason ∧
    (job ∈ s.waiting ∨ ∃ worker phase, s.active worker = some ⟨job, phase⟩)

/-- The intent transaction leaves the row as it is. -/
def leavesRow (advanced : Bool) (input : GithubCheckIntent) (row : CheckRun Digest) : Bool :=
  if row.intentIdempotencyKey = some input.idempotencyKey then row.isInactive = false
  else input.reason = .analysisReady ∧ (row.intentReason.any isLaterStage = true ∨ advanced = true)

/-- A refused publication finds another job for the row, or leaves the row alone, and a job
that is given up is not the last one of a pending row. -/
def KeepsJob (s : CheckSync Digest) : CheckEvent → Prop
  | .persist _ _ advanced input (.refused _) =>
      s.row.any (leavesRow advanced input) = true ∨ s.IsAwaited input.reason
  | .reactivate _ _ (.refused _) =>
      ∀ row reason, s.row = some row → row.isInactive = true →
        row.intentReason = some reason → s.IsAwaited reason
  | .giveUp worker =>
      ∀ row reason, s.row = some row → row.syncStatus = .pending →
        row.intentReason = some reason →
        IsAwaited { s with active := Function.update s.active worker none } reason
  | _ => True

variable [DecidableEq Digest]

/-! ## The job of a pending row -/

/-- A pending row has an open job with its reason. -/
def Awaited (s : CheckSync Digest) : Prop :=
  ∀ row reason, s.row = some row → row.syncStatus = .pending → row.intentReason = some reason →
    s.IsAwaited reason

omit [DecidableEq Digest] in
theorem IsAwaited.imp {reason : CheckReason} (h : s.IsAwaited reason)
    (hhead : t.revision.headSha = s.revision.headSha)
    (hopen : ∀ job, s.IsOpen job → job.reason = reason →
      job.expectedHeadSha = s.revision.headSha → t.IsOpen job) : t.IsAwaited reason := by
  obtain ⟨job, hreason, hjob, hjobOpen⟩ := h
  exact ⟨job, hreason, hjob.trans hhead.symm, hopen job hjobOpen hreason hjob⟩

omit [DecidableEq Digest] in
/-- Open jobs stay open when the waiting ones do and the job of one worker was not open. -/
theorem isOpen_of_update {worker : ℕ} {phase : Option ActiveJob} {job : ReconcileCheckJob}
    (h : s.IsOpen job) (hwaiting : job ∈ s.waiting → job ∈ t.waiting)
    (hactive : t.active = Function.update s.active worker phase)
    (hworker : s.active worker = some ⟨job, .fresh⟩ → t.IsOpen job) : t.IsOpen job := by
  rcases h with hmem | ⟨other, hother⟩
  · exact .inl (hwaiting hmem)
  · by_cases hsame : other = worker
    · exact hworker (hsame ▸ hother)
    · refine .inr ⟨other, ?_⟩
      rw [hactive, Function.update_of_ne hsame]
      exact hother

omit [DecidableEq Digest] in
theorem awaited_of_settle {worker : ℕ}
    {statement : ℕ → CheckRun Digest → Option (CheckRun Digest)} (h : s.Awaited)
    (hends : EndsClaim statement) (hsettle : s.settle worker statement = some t) :
    t.Awaited := by
  obtain ⟨job, attempt, hactive, rfl⟩ := settle_eq_some hsettle
  intro row' reason hrow' hpending hreason
  obtain ⟨row, hrow, hgetD⟩ := Option.map_eq_some_iff.mp hrow'
  cases hstatement : statement attempt row with
  | some new =>
      rw [hstatement, Option.getD_some] at hgetD
      exact absurd (hgetD ▸ hpending) (hends.ends hstatement).2.2.2.1
  | none =>
      rw [hstatement, Option.getD_none] at hgetD
      obtain rfl := hgetD
      refine (h row reason hrow hpending hreason).imp rfl fun other hother _ _ => ?_
      exact isOpen_of_update hother id rfl fun hfresh => by
        rw [hactive] at hfresh
        cases hfresh

/-- An intent that is not superseded leaves its own reason in the row. -/
theorem reason_of_persist {now : Timestamp} {revision : CheckRevision} {advanced : Bool}
    {input : GithubCheckIntent} {write : IntentWrite Digest} (h : Sound sha256 s)
    (hhash : CollisionFree sha256)
    (hwrite : persistGithubCheckIntent sha256 now revision advanced s.row input = .ok write) :
    (write.publishes = false ∧ s.row = some write.row) ∨
      (write.publishes = true ∧ write.row.intentReason = some input.reason) := by
  obtain ⟨-, -, ⟨row, hrow, -, hsame, -, hnot⟩ | ⟨row, hrow, hstored, hsame, -, hyes⟩ |
    ⟨-, hyes, ⟨-, hsame⟩ | ⟨row, -, hsame, -⟩⟩⟩ := persistGithubCheckIntent_eq_ok hwrite
  · exact .inl ⟨hnot, hsame ▸ hrow⟩
  · refine .inr ⟨hyes, ?_⟩
    have hreason := (bound_of_hash hhash (h.bound row hrow) hstored).1
    rcases hsame with hsame | hsame
    · exact hsame ▸ hreason
    · exact hsame ▸ hreason
  · exact .inr ⟨hyes, by rw [hsame]; rfl⟩
  · exact .inr ⟨hyes, by rw [hsame]; rfl⟩

theorem row_of_leavesRow {now : Timestamp} {revision : CheckRevision} {advanced : Bool}
    {input : GithubCheckIntent} {write : IntentWrite Digest}
    (hleaves : s.row.any (leavesRow advanced input) = true)
    (hwrite : persistGithubCheckIntent sha256 now revision advanced s.row input = .ok write) :
    s.row = some write.row := by
  obtain ⟨row, hrow, hrowLeaves⟩ := Option.any_eq_true _ _ |>.mp hleaves
  rw [hrow] at hwrite ⊢
  unfold persistGithubCheckIntent at hwrite
  unfold leavesRow at hrowLeaves
  split at hwrite
  · cases hwrite
  · split at hwrite
    · cases hwrite
    · dsimp only at hwrite
      split at hwrite
      · next hkey =>
        rw [if_pos hkey, decide_eq_true_eq] at hrowLeaves
        split at hwrite
        · cases hwrite
        · cases hwrite
          simp [hrowLeaves]
      · next hkey =>
        rw [if_neg hkey, decide_eq_true_eq] at hrowLeaves
        rw [if_pos hrowLeaves] at hwrite
        cases hwrite
        rfl

theorem awaited_of_persist {now : Timestamp} {isCurrent : Option Bool} {advanced : Bool}
    {input : GithubCheckIntent} {publication : Publication} (h : s.Awaited)
    (hsound : Sound sha256 s) (hhash : CollisionFree sha256)
    (hkeeps : s.KeepsJob (.persist now isCurrent advanced input publication))
    (hpersist : s.persist sha256 now isCurrent advanced input publication = some t) :
    t.Awaited := by
  obtain ⟨write, waiting, -, hwrite, hpublish, hsilent, rfl⟩ := persist_eq_some hpersist
  intro row reason hrow hpending hreason
  obtain rfl := Option.some_inj.mp hrow
  have hhead : s.revision.headSha = input.expectedHeadSha := by
    have hstale := (persistGithubCheckIntent_eq_ok hwrite).2.1
    simp only [isStaleIntent, decide_eq_false_iff_not, not_or, not_not] at hstale
    exact hstale.1
  rcases reason_of_persist hsound hhash hwrite with ⟨hnot, hsame⟩ | ⟨hyes, hnew⟩
  · refine (h _ reason hsame hpending hreason).imp rfl fun job hjob _ _ => ?_
    rcases hjob with hmem | hactive
    · exact .inl (by rw [hsilent hnot]; exact hmem)
    · exact .inr hactive
  · rw [hnew, Option.some_inj] at hreason
    obtain rfl := hreason
    rcases publish_eq_some (hpublish hyes) with ⟨rfl, hmem⟩ | ⟨worker, rfl, rfl⟩
    · exact ⟨_, rfl, hhead.symm, .inl hmem⟩
    · rcases hkeeps with hleaves | hawaited
      · exact (h _ _ (row_of_leavesRow hleaves hwrite) hpending hnew).imp rfl
          fun job hjob _ _ => hjob
      · exact hawaited.imp rfl fun job hjob _ _ => hjob

omit [DecidableEq Digest] in
theorem jobOf_eq_some {revisionId : JsString} {revision : CheckRevision}
    {row : CheckRun Digest} {job : ReconcileCheckJob}
    (h : jobOf revisionId revision row = some job) :
    row.intentReason = some job.reason ∧ job.expectedHeadSha = revision.headSha := by
  unfold jobOf at h
  split at h
  · next hreason =>
    cases h
    exact ⟨hreason, rfl⟩
  · cases h

omit [DecidableEq Digest] in
theorem awaited_of_reactivate {now : Timestamp} {expectedHeadSha : JsString}
    {publication : Publication}
    (hkeeps : s.KeepsJob (.reactivate now expectedHeadSha publication))
    (hreactivate : s.reactivate now expectedHeadSha publication = some t) : t.Awaited := by
  obtain ⟨old, job, waiting, hold, -, hinactive, hjob, hpublish, rfl⟩ :=
    reactivate_eq_some hreactivate
  intro row reason hrow hpending hreason
  obtain rfl := Option.some_inj.mp hrow
  obtain ⟨hjobReason, hjobHead⟩ := jobOf_eq_some hjob
  rcases publish_eq_some hpublish with ⟨rfl, hmem⟩ | ⟨worker, rfl, rfl⟩
  · exact ⟨job, Option.some_inj.mp (hjobReason.symm.trans hreason), hjobHead, .inl hmem⟩
  · exact (hkeeps old reason hold hinactive hreason).imp rfl fun job hjob _ _ => hjob

omit [DecidableEq Digest] in
theorem awaited_of_sweep {now : Timestamp} {publication : Publication} (h : s.Awaited)
    (hsweep : s.sweep now publication = some t) : t.Awaited := by
  obtain ⟨old, row, waiting, hold, hrow, hwaiting, rfl⟩ := sweep_eq_some hsweep
  intro row' reason hrow' hpending hreason
  obtain rfl := Option.some_inj.mp hrow'
  have hreleased : row = old.released now := by
    rcases hrow with hrow | ⟨rfl, hdue⟩
    · exact hrow
    · simp only [CheckRun.isDue, decide_eq_true_eq] at hdue
      exact absurd (hdue.1.symm.trans hpending) (by simp)
  rcases hwaiting with rfl | ⟨job, hjob, hmem⟩
  · have hold' : row = old := by
      rw [hreleased] at hpending ⊢
      unfold CheckRun.released at hpending ⊢
      split at hpending
      · cases hpending
      · next hnot => rw [if_neg hnot]
    exact (h old reason hold (hold' ▸ hpending) (hold' ▸ hreason)).imp rfl fun job hjob _ _ => hjob
  · obtain ⟨hjobReason, hjobHead⟩ := jobOf_eq_some hjob
    rw [← hreleased] at hjobReason
    exact ⟨job, Option.some_inj.mp (hjobReason.symm.trans hreason), hjobHead, .inl hmem⟩

omit [DecidableEq Digest] in
/-- A worker with the job of a pending row claims it. -/
theorem claim_of_pending {now : Timestamp} {row : CheckRun Digest} {job : ReconcileCheckJob}
    (h : Sound sha256 s) (hrow : s.row = some row) (hpending : row.syncStatus = .pending)
    (hreason : row.intentReason = some job.reason)
    (hhead : job.expectedHeadSha = s.revision.headSha) :
    (claimGithubCheckSync now s.revision job row).isSome = true := by
  have hnext : row.nextSyncAfter = none := by
    by_contra hne
    exact absurd ((h.bound row hrow).retry hne) (by simp [hpending])
  have hcurrent : s.revision.isCurrent = true ∨ row.isInvalidation = true := by
    cases hc : s.revision.isCurrent with
    | true => exact .inl rfl
    | false => exact .inr (h.invalidated row hrow hc)
  unfold claimGithubCheckSync
  rw [if_pos ⟨hhead.symm, hreason, by rw [hnext]; rfl, hcurrent, .inl hpending⟩]
  rfl

/-- Every step that keeps its jobs keeps one for a pending row. -/
theorem awaited_step {event : CheckEvent} (h : s.Awaited) (hsound : Sound sha256 s)
    (hhash : CollisionFree sha256) (hkeeps : s.KeepsJob event) :
    (s.step sha256 event).Awaited := by
  unfold CheckSync.step
  cases event with
  | persist now isCurrent advanced input publication =>
      dsimp only
      cases hnext : s.persist sha256 now isCurrent advanced input publication with
      | none => exact h
      | some t => exact awaited_of_persist h hsound hhash hkeeps hnext
  | reactivate now expectedHeadSha publication =>
      dsimp only
      cases hnext : s.reactivate now expectedHeadSha publication with
      | none => exact h
      | some t => exact awaited_of_reactivate hkeeps hnext
  | sweep now publication =>
      dsimp only
      cases hnext : s.sweep now publication with
      | none => exact h
      | some t => exact awaited_of_sweep h hnext
  | take worker taken =>
      dsimp only
      split
      · next hguard =>
        intro row reason hrow hpending hreason
        refine (h row reason hrow hpending hreason).imp rfl fun job hjob _ _ => ?_
        by_cases hsame : job = taken
        · exact .inr ⟨worker, by rw [hsame]; exact Table.set_self⟩
        · refine isOpen_of_update hjob (fun hmem => (List.mem_erase_of_ne hsame).mpr hmem) rfl
            fun hfresh => ?_
          rw [hguard.2] at hfresh
          cases hfresh
      · exact h
  | claim now worker =>
      dsimp only
      cases hnext : s.claim now worker with
      | none => exact h
      | some t =>
          obtain ⟨freshJob, hactive, ⟨old, new, hold, hclaim, rfl⟩ | ⟨hnone, rfl⟩⟩ :=
            claim_eq_some hnext
          · intro row reason hrow hpending hreason
            obtain rfl := Option.some_inj.mp hrow
            exact absurd ((claimGithubCheckSync_eq_some hclaim).2.2.1.symm.trans hpending) (by simp)
          · intro row reason hrow hpending hreason
            refine (h row reason hrow hpending hreason).imp rfl
              fun job hjob hjobReason hjobHead => ?_
            refine isOpen_of_update hjob id rfl fun hfresh => ?_
            rw [hactive, Option.some_inj, ActiveJob.mk.injEq] at hfresh
            have hsome : (claimGithubCheckSync now s.revision freshJob row).isSome = true :=
              claim_of_pending hsound hrow hpending
                (by rw [hfresh.1, hjobReason]; exact hreason) (by rw [hfresh.1]; exact hjobHead)
            rw [hnone row hrow] at hsome
            cases hsome
  | complete now worker githubCheckRunId =>
      dsimp only
      cases hnext : s.settle worker fun attempt =>
          completeGithubCheckSync now attempt githubCheckRunId with
      | none => exact h
      | some t =>
          exact awaited_of_settle h (completeGithubCheckSync_endsClaim now githubCheckRunId) hnext
  | skip now worker =>
      dsimp only
      cases hnext : s.settle worker (completeSkippedGithubInvalidationSync now) with
      | none => exact h
      | some t => exact awaited_of_settle h (completeSkipped_endsClaim now) hnext
  | inactive now worker bindingInactive =>
      dsimp only
      cases hnext : s.settle worker fun attempt =>
          completeInactiveGithubCheckSync now attempt bindingInactive with
      | none => exact h
      | some t => exact awaited_of_settle h (completeInactive_endsClaim now bindingInactive) hnext
  | fail now worker errorClass nextSyncAfter =>
      dsimp only
      cases hnext : s.settle worker fun attempt =>
          failGithubCheckSync now attempt errorClass nextSyncAfter with
      | none => exact h
      | some t =>
          exact awaited_of_settle h (failGithubCheckSync_endsClaim now errorClass nextSyncAfter)
            hnext
  | expire worker =>
      dsimp only
      cases hactive : s.active worker with
      | none => exact h
      | some active =>
          intro row reason hrow hpending hreason
          refine (h row reason hrow hpending hreason).imp rfl fun job hjob _ _ => ?_
          exact hjob.imp_left (List.mem_cons_of_mem _)
  | crash worker =>
      dsimp only
      cases hactive : s.active worker with
      | none => exact h
      | some active =>
          intro row reason hrow hpending hreason
          refine (h row reason hrow hpending hreason).imp rfl fun job hjob _ _ => ?_
          refine isOpen_of_update hjob (List.mem_cons_of_mem _) rfl fun hfresh => ?_
          rw [hactive, Option.some_inj] at hfresh
          exact .inl (by rw [hfresh]; exact List.mem_cons_self)
  | finish worker =>
      dsimp only
      split
      · next hguard =>
        intro row reason hrow hpending hreason
        refine (h row reason hrow hpending hreason).imp rfl fun job hjob _ _ => ?_
        refine isOpen_of_update hjob id rfl fun hfresh => ?_
        rw [hfresh] at hguard
        simp at hguard
      · exact h
  | giveUp worker =>
      dsimp only
      cases hactive : s.active worker with
      | none => exact h
      | some active =>
          exact fun row reason hrow hpending hreason => hkeeps row reason hrow hpending hreason

theorem awaited_reached (hhash : CollisionFree sha256) {revisionId headSha : JsString}
    {events : List CheckEvent}
    (hkeeps : Throughout (step sha256) (start revisionId headSha) KeepsJob events) :
    (reached sha256 revisionId headSha events).Awaited := by
  induction events using List.reverseRecOn with
  | nil => exact fun _ _ hrow => nomatch hrow
  | append_singleton events event ih =>
      obtain ⟨hevents, hevent⟩ := throughout_concat.mp hkeeps
      unfold reached
      rw [after_concat]
      exact awaited_step (ih hevents) (sound_reached hhash revisionId headSha events) hhash hevent

omit [DecidableEq Digest] in
/-- A row that was claimed, or waits for its retry, is selected by every late enough sweep. -/
theorem isSelected_late {row : CheckRun Digest} (h : row.Bound sha256)
    (hpending : row.syncStatus ≠ .pending) (hsynchronized : row.syncStatus ≠ .synchronized)
    (hpermanent : row.syncStatus ≠ .permanentFailure) :
    ∃ T : Timestamp, ∀ now, T ≤ now → row.isSelected now = true := by
  obtain ⟨input, -, hreason, -⟩ := h.intent
  have hkey := h.key
  cases hstatus : row.syncStatus with
  | pending => exact absurd hstatus hpending
  | synchronized => exact absurd hstatus hsynchronized
  | permanentFailure => exact absurd hstatus hpermanent
  | syncing =>
      have hnext : row.nextSyncAfter = none := by
        by_contra hne
        exact absurd (h.retry hne) (by simp [hstatus])
      refine ⟨row.updatedAt + syncLeaseMs + 1, fun now hnow => ?_⟩
      have habandoned : row.isAbandoned now = true := by
        simp only [CheckRun.isAbandoned, decide_eq_true_eq]
        have hlate : row.updatedAt + syncLeaseMs + 1 ≤ now := hnow
        exact ⟨hstatus, by linarith⟩
      simp [CheckRun.isSelected, CheckRun.released, habandoned, CheckRun.isDue, hnext, hreason,
        hkey]
  | retryRequired =>
      refine ⟨row.nextSyncAfter.getD 0, fun now hnow => ?_⟩
      have habandoned : row.isAbandoned now = false := by
        simp [CheckRun.isAbandoned, hstatus]
      cases hnext : row.nextSyncAfter with
      | none =>
          simp [CheckRun.isSelected, CheckRun.released, habandoned, CheckRun.isDue, hnext,
            hreason, hkey, hstatus]
      | some time =>
          rw [hnext, Option.getD_some] at hnow
          simp [CheckRun.isSelected, CheckRun.released, habandoned, CheckRun.isDue, hnext,
            hreason, hkey, hstatus, hnow]

omit [DecidableEq Digest] in
theorem IsAwaited.isCarried {row : CheckRun Digest} {reason : CheckReason}
    (h : s.IsAwaited reason) (hreason : row.intentReason = some reason) : s.IsCarried row := by
  obtain ⟨job, rfl, -, hopen⟩ := h
  exact ⟨job, hreason, hopen.imp_right fun ⟨worker, hactive⟩ => ⟨worker, .fresh, hactive⟩⟩

/-- In every history the row becomes synchronized only by the latest claim, with no intent
written since, and an analysis leaves a later intent alone; in a history that keeps its
jobs, a row that is neither synchronized nor failed has a job, or will be swept. -/
theorem check_intents_kept (hhash : CollisionFree sha256) (revisionId headSha : JsString)
    (events : List CheckEvent) :
    (∀ event row',
      (∀ row, (reached sha256 revisionId headSha events).row = some row →
        row.syncStatus ≠ .synchronized) →
      ((reached sha256 revisionId headSha events).step sha256 event).row = some row' →
      row'.syncStatus = .synchronized →
      ∃ worker attempt, synchronizer event = some worker ∧
        LatestClaim sha256 (start revisionId headSha) events worker attempt) ∧
    (∀ now isCurrent advanced input publication row row',
      (reached sha256 revisionId headSha events).row = some row →
      row.intentReason.any isLaterStage = true → input.reason = .analysisReady →
      ((reached sha256 revisionId headSha events).step sha256
        (.persist now isCurrent advanced input publication)).row = some row' →
      row.SameIntent row') ∧
    (Throughout (step sha256) (start revisionId headSha) KeepsJob events →
      ∀ row, (reached sha256 revisionId headSha events).row = some row →
        row.syncStatus ≠ .synchronized → row.syncStatus ≠ .permanentFailure →
        (reached sha256 revisionId headSha events).IsCarried row ∨
          ∃ T : Timestamp, ∀ now, T ≤ now → row.isSelected now = true) := by
  have hsound := sound_reached hhash revisionId headSha events
  refine ⟨fun event row' hbefore hrow' hsync => ?_, fun _ _ _ _ _ _ _ hrow hlater hreason hrow' =>
    sameIntent_of_analysisReady hrow hlater hreason hrow',
    fun hkeeps row hrow hsynchronized hpermanent => ?_⟩
  · obtain ⟨worker, job, attempt, row, hevent, hactive, hrow, hopen, hnumber⟩ :=
      claimed_of_synchronizes hbefore hrow' hsync
    exact ⟨worker, attempt, hevent, fenced_reached hhash revisionId headSha events worker job
      attempt row hactive hrow hopen hnumber⟩
  · by_cases hpending : row.syncStatus = .pending
    · obtain ⟨input, -, hreason, -⟩ := (hsound.bound row hrow).intent
      exact .inl ((awaited_reached hhash hkeeps row input.reason hrow hpending
        hreason).isCarried hreason)
    · exact .inr (isSelected_late (hsound.bound row hrow) hpending hsynchronized hpermanent)

/-! ## A refused publication -/

/-- The worker that takes the step. -/
def worker : CheckEvent → Option ℕ
  | .persist .. => none
  | .reactivate .. => none
  | .sweep .. => none
  | .take worker _ => some worker
  | .claim _ worker => some worker
  | .complete _ worker _ => some worker
  | .skip _ worker => some worker
  | .inactive _ worker _ => some worker
  | .fail _ worker _ _ => some worker
  | .expire worker => some worker
  | .crash worker => some worker
  | .finish worker => some worker
  | .giveUp worker => some worker

omit [DecidableEq Digest] in
theorem active_of_settle {other actor : ℕ} (hne : other ≠ actor)
    {statement : ℕ → CheckRun Digest → Option (CheckRun Digest)} :
    ((s.settle actor statement).getD s).active other = s.active other := by
  cases hnext : s.settle actor statement with
  | none => rfl
  | some t =>
      obtain ⟨job, attempt, -, rfl⟩ := settle_eq_some hnext
      exact Table.set_of_ne hne

/-- A step leaves the jobs of the other workers alone. -/
theorem active_of_ne {event : CheckEvent} {other : ℕ} (hne : worker event ≠ some other) :
    (s.step sha256 event).active other = s.active other := by
  have hactor : ∀ actor, worker event = some actor → other ≠ actor :=
    fun actor hactor hsame => hne (hsame ▸ hactor)
  unfold CheckSync.step
  cases event with
  | persist now isCurrent advanced input publication =>
      dsimp only
      cases hnext : s.persist sha256 now isCurrent advanced input publication with
      | none => rfl
      | some t =>
          obtain ⟨write, waiting, -, -, -, -, rfl⟩ := persist_eq_some hnext
          rfl
  | reactivate now expectedHeadSha publication =>
      dsimp only
      cases hnext : s.reactivate now expectedHeadSha publication with
      | none => rfl
      | some t =>
          obtain ⟨old, job, waiting, -, -, -, -, -, rfl⟩ := reactivate_eq_some hnext
          rfl
  | sweep now publication =>
      dsimp only
      cases hnext : s.sweep now publication with
      | none => rfl
      | some t =>
          obtain ⟨old, row, waiting, -, -, -, rfl⟩ := sweep_eq_some hnext
          rfl
  | take actor job =>
      dsimp only
      split
      · exact Table.set_of_ne (hactor actor rfl)
      · rfl
  | claim now actor =>
      dsimp only
      cases hnext : s.claim now actor with
      | none => rfl
      | some t =>
          obtain ⟨job, -, ⟨old, row, -, -, rfl⟩ | ⟨-, rfl⟩⟩ := claim_eq_some hnext
          · exact Table.set_of_ne (hactor actor rfl)
          · exact Table.set_of_ne (hactor actor rfl)
  | complete now actor githubCheckRunId => exact active_of_settle (hactor actor rfl)
  | skip now actor => exact active_of_settle (hactor actor rfl)
  | inactive now actor bindingInactive => exact active_of_settle (hactor actor rfl)
  | fail now actor errorClass nextSyncAfter => exact active_of_settle (hactor actor rfl)
  | expire actor =>
      dsimp only
      cases s.active actor <;> rfl
  | crash actor =>
      dsimp only
      cases s.active actor with
      | none => rfl
      | some active => exact Function.update_of_ne (hactor actor rfl) ..
  | finish actor =>
      dsimp only
      split
      · exact Function.update_of_ne (hactor actor rfl) ..
      · rfl
  | giveUp actor =>
      dsimp only
      cases s.active actor with
      | none => rfl
      | some active => exact Function.update_of_ne (hactor actor rfl) ..

theorem active_reached {revisionId headSha : JsString} {events : List CheckEvent} {other : ℕ}
    (h : ∀ event ∈ events, worker event ≠ some other) :
    (reached sha256 revisionId headSha events).active other = none := by
  induction events using List.reverseRecOn with
  | nil => rfl
  | append_singleton events event ih =>
      unfold reached
      rw [after_concat, active_of_ne (h event (by simp))]
      exact ih fun event hmem => h event (by simp [hmem])

section Samples

def sampleHead : JsString := js "aaaaaaaaaaaaaaaaaaaaaaaaaaaaaaaaaaaaaaaa"

def ingested : GithubCheckIntent where
  revisionId := js "r1"
  expectedHeadSha := sampleHead
  idempotencyKey := js "ingested"
  reason := .webhookIngested
  name := js "SlopProof"
  status := .queued
  conclusion := none
  publicSummary := js "Waiting"
  detailsUrl := js "https://slopproof.dev/r1"

def ready : GithubCheckIntent :=
  { ingested with
    idempotencyKey := js "ready"
    reason := .analysisReady
    status := .inProgress }

def jobFor (intent : GithubCheckIntent) : ReconcileCheckJob where
  idempotencyKey := intent.idempotencyKey
  revisionId := intent.revisionId
  expectedHeadSha := intent.expectedHeadSha
  reason := intent.reason

/-- A first intent is written and its job claimed. -/
def claimedHistory : List CheckEvent :=
  [.persist 0 none false ingested (.runnable [jobFor ingested]), .take 7 (jobFor ingested),
    .claim 1 7]

theorem collisionFree_id : CollisionFree id :=
  fun _ _ h => Json.utf8Encode_stringify_injective h

theorem check_intents_kept_sample :
    (∃ worker attempt, synchronizer (.complete 2 7 (js "88")) = some worker ∧
      LatestClaim id (start (js "r1") sampleHead) claimedHistory worker attempt) ∧
    ∃ row, (reached id (js "r1") sampleHead claimedHistory).row = some row ∧
      ((reached id (js "r1") sampleHead claimedHistory).IsCarried row ∨
        ∃ T : Timestamp, ∀ now, T ≤ now → row.isSelected now = true) := by
  obtain ⟨hlatest, -, hkept⟩ :=
    check_intents_kept collisionFree_id (js "r1") sampleHead claimedHistory
  have hrow : (reached id (js "r1") sampleHead claimedHistory).row.map CheckRun.syncStatus =
      some .syncing := by decide
  have hdone : ((reached id (js "r1") sampleHead claimedHistory).step id
      (.complete 2 7 (js "88"))).row.map CheckRun.syncStatus = some .synchronized := by
    decide
  obtain ⟨row, hrow, hsyncing⟩ := Option.map_eq_some_iff.mp hrow
  obtain ⟨row', hrow', hsync⟩ := Option.map_eq_some_iff.mp hdone
  refine ⟨hlatest _ row' (fun other hother => ?_) hrow' hsync, row, hrow, ?_⟩
  · rw [hrow, Option.some_inj] at hother
    rw [← hother, hsyncing]
    exact fun h => nomatch h
  · refine hkept ?_ row hrow (by simp [hsyncing]) (by simp [hsyncing])
    simp [claimedHistory, throughout_cons, throughout_nil, KeepsJob]

/-- The next intent is written before the worker of the first one completes, and the queue
refuses its job since the worker's is active. -/
def refusedHistory : List CheckEvent :=
  claimedHistory ++ [.persist 2 none false ready (.refused 7), .complete 3 7 (js "88"),
    .finish 7]

/-- The row is pending, no job has its reason, and no sweep will select it. -/
theorem refused_intent_lost :
    ∃ row, (reached id (js "r1") sampleHead refusedHistory).row = some row ∧
      row.syncStatus = .pending ∧ row.intentReason = some .analysisReady ∧
      ¬ (reached id (js "r1") sampleHead refusedHistory).IsCarried row ∧
      ∀ now, row.isSelected now = false := by
  have hrow : (reached id (js "r1") sampleHead refusedHistory).row.map
      (fun row => (row.syncStatus, row.intentReason)) = some (.pending, some .analysisReady) := by
    decide
  have hwaiting : (reached id (js "r1") sampleHead refusedHistory).waiting = [] := by
    decide
  have hworker : (reached id (js "r1") sampleHead refusedHistory).active 7 = none := by
    decide
  obtain ⟨row, hrow, hpair⟩ := Option.map_eq_some_iff.mp hrow
  obtain ⟨hpending, hreason⟩ := Prod.mk.inj hpair
  refine ⟨row, hrow, hpending, hreason, ?_, fun now => ?_⟩
  · rintro ⟨job, -, hmem | ⟨other, phase, hactive⟩⟩
    · rw [hwaiting] at hmem
      cases hmem
    · by_cases hseven : other = 7
      · rw [hseven, hworker] at hactive
        cases hactive
      · rw [active_reached] at hactive
        · cases hactive
        · simpa [refusedHistory, claimedHistory, worker] using Ne.symm hseven
  · simp [CheckRun.isSelected, CheckRun.released, CheckRun.isAbandoned, hpending,
      CheckRun.isDue]

end Samples

end CheckSync

end Db

end UnderstandProof
