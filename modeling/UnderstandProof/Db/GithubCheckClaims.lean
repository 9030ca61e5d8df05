import UnderstandProof.Db.GithubCheckSafety

/-!
# The latest claim of a check row

A row becomes synchronized only by the worker of the latest claim, and only when no intent
was written since: the number of a claim is a fence, and a written intent ends the claim.
An analysis leaves the intent of a later stage alone.
-/

open Foundation

namespace UnderstandProof

namespace Db

open Domain (Timestamp)

namespace CheckSync

variable {Digest : Type} {sha256 : List UInt8 → Digest} {s t : CheckSync Digest}

/-- The worker whose statement synchronizes the row. -/
def synchronizer : CheckEvent → Option ℕ
  | .complete _ worker _ => some worker
  | .skip _ worker => some worker
  | _ => none

/-- The event claims the row. -/
def claims (s : CheckSync Digest) : CheckEvent → Bool
  | .claim now worker =>
      (s.active worker).any fun active =>
        active.phase = .fresh ∧
          (s.row.bind (claimGithubCheckSync now s.revision active.job)).isSome = true
  | _ => false

variable [DecidableEq Digest]

/-- The event writes an intent that is no replay. -/
def writesIntent (sha256 : List UInt8 → Digest) (s : CheckSync Digest) : CheckEvent → Bool
  | .persist now isCurrent advanced input publication =>
      (s.persist sha256 now isCurrent advanced input publication).isSome ∧
        (persistGithubCheckIntent sha256 now
          { s.revision with isCurrent := isCurrent.getD s.revision.isCurrent } advanced s.row
          input).toOption.any (fun write => write.replay = false) = true
  | _ => false

/-- The worker claimed the row with this number, and the row was neither claimed nor
written since. -/
def LatestClaim (sha256 : List UInt8 → Digest) (start : CheckSync Digest)
    (events : List CheckEvent) (worker attempt : ℕ) : Prop :=
  ∃ front now rest job, events = front ++ .claim now worker :: rest ∧
    (after (step sha256) start front).active worker = some ⟨job, .fresh⟩ ∧
    (after (step sha256) start (front ++ [.claim now worker])).active worker =
      some ⟨job, .claimed attempt⟩ ∧
    Throughout (step sha256) (after (step sha256) start (front ++ [.claim now worker]))
      (fun s event => claims s event = false ∧ writesIntent sha256 s event = false) rest

/-- The state that a history leads to. -/
def reached (sha256 : List UInt8 → Digest) (revisionId headSha : JsString)
    (events : List CheckEvent) : CheckSync Digest :=
  after (step sha256) (start revisionId headSha) events

theorem sound_reached (hhash : CollisionFree sha256) (revisionId headSha : JsString)
    (events : List CheckEvent) : Sound sha256 (reached sha256 revisionId headSha events) :=
  after_keeps (sound_start revisionId headSha) (fun _ event h => h.step hhash event) events

/-! ## What one step does to the row and the claims -/

/-- A step that neither claims the row nor writes an intent starts no claim, and leaves an
open claim its number. -/
structure Steady (s t : CheckSync Digest) : Prop where
  row : ∀ row', t.row = some row' → row'.syncStatus = .syncing →
    ∃ row, s.row = some row ∧ row.syncStatus = .syncing ∧ row'.syncAttempts = row.syncAttempts
  active : ∀ worker job attempt, t.active worker = some ⟨job, .claimed attempt⟩ →
    s.active worker = some ⟨job, .claimed attempt⟩

omit [DecidableEq Digest] in
theorem Steady.refl : Steady s s where
  row := fun row hrow hsyncing => ⟨row, hrow, hsyncing, rfl⟩
  active := fun _ _ _ h => h

omit [DecidableEq Digest] in
/-- Only a worker's job changes, and it is not claimed with afterwards. -/
theorem Steady.of_active {worker : ℕ} {phase : Option ActiveJob} (hrow : t.row = s.row)
    (hactive : t.active = Function.update s.active worker phase)
    (hphase : ∀ job attempt, phase ≠ some ⟨job, .claimed attempt⟩) : Steady s t where
  row := fun row h hsyncing => ⟨row, hrow ▸ h, hsyncing, rfl⟩
  active := by
    intro other job attempt h
    rw [hactive, Function.update_apply] at h
    split at h
    · exact absurd h (hphase job attempt)
    · exact h

omit [DecidableEq Digest] in
theorem Steady.of_settle {worker : ℕ}
    {statement : ℕ → CheckRun Digest → Option (CheckRun Digest)}
    (hends : EndsClaim statement) (hsettle : s.settle worker statement = some t) :
    Steady s t := by
  obtain ⟨job, attempt, hactive, rfl⟩ := settle_eq_some hsettle
  constructor
  · intro row' hrow' hsyncing
    obtain ⟨row, hrow, rfl⟩ := Option.map_eq_some_iff.mp hrow'
    cases hstatement : statement attempt row with
    | none =>
        rw [hstatement, Option.getD_none] at hsyncing
        exact ⟨row, hrow, hsyncing, rfl⟩
    | some new =>
        rw [hstatement, Option.getD_some] at hsyncing
        exact absurd hsyncing (hends.ends hstatement).2.2.2.2.1
  · intro other job' attempt' hother
    dsimp only at hother
    rw [Table.set_apply] at hother
    split at hother
    · cases hother
    · exact hother

theorem Steady.of_persist {now : Timestamp} {isCurrent : Option Bool} {advanced : Bool}
    {input : GithubCheckIntent} {publication : Publication}
    (hpersist : s.persist sha256 now isCurrent advanced input publication = some t)
    (hwrites : writesIntent sha256 s
      (.persist now isCurrent advanced input publication) = false) : Steady s t := by
  obtain ⟨write, waiting, -, hwrite, -, -, rfl⟩ := persist_eq_some hpersist
  refine ⟨fun row' hrow' hsyncing => ?_, fun _ _ _ h => h⟩
  obtain rfl := Option.some_inj.mp hrow'
  obtain ⟨-, -, ⟨row, hrow, -, hsame, -⟩ | ⟨row, hrow, -, hsame | hsame, -⟩ | ⟨hreplay, -⟩⟩ :=
    persistGithubCheckIntent_eq_ok hwrite
  · exact ⟨row, hrow, hsame ▸ hsyncing, by rw [hsame]⟩
  · exact ⟨row, hrow, hsame ▸ hsyncing, by rw [hsame]⟩
  · rw [hsame] at hsyncing
    cases hsyncing
  · simp [writesIntent, hpersist, hwrite, Except.toOption, hreplay] at hwrites

omit [DecidableEq Digest] in
theorem Steady.of_sweep {now : Timestamp} {publication : Publication}
    (hsweep : s.sweep now publication = some t) : Steady s t := by
  obtain ⟨old, row, waiting, hold, hrow, -, rfl⟩ := sweep_eq_some hsweep
  refine ⟨fun row' hrow' hsyncing => ?_, fun _ _ _ h => h⟩
  obtain rfl := Option.some_inj.mp hrow'
  rcases hrow with rfl | ⟨rfl, hdue⟩
  · unfold CheckRun.released at hsyncing ⊢
    split at hsyncing
    · cases hsyncing
    · next hnot =>
      rw [if_neg hnot]
      exact ⟨old, hold, hsyncing, rfl⟩
  · simp only [CheckRun.isDue, decide_eq_true_eq] at hdue
    have hretry : ((old.released now).replayed now).syncStatus = .retryRequired := hdue.1
    rw [hretry] at hsyncing
    cases hsyncing

/-- A step that neither claims nor writes is steady. -/
theorem steady_step {event : CheckEvent} (hclaims : claims s event = false)
    (hwrites : writesIntent sha256 s event = false) : Steady s (s.step sha256 event) := by
  unfold CheckSync.step
  cases event with
  | persist now isCurrent advanced input publication =>
      dsimp only
      cases hnext : s.persist sha256 now isCurrent advanced input publication with
      | none => exact .refl
      | some t => exact .of_persist hnext hwrites
  | reactivate now expectedHeadSha publication =>
      dsimp only
      cases hnext : s.reactivate now expectedHeadSha publication with
      | none => exact .refl
      | some t =>
          obtain ⟨old, job, waiting, hold, -, -, -, -, rfl⟩ := reactivate_eq_some hnext
          refine ⟨fun row' hrow' hsyncing => ?_, fun _ _ _ h => h⟩
          obtain rfl := Option.some_inj.mp hrow'
          cases hsyncing
  | sweep now publication =>
      dsimp only
      cases hnext : s.sweep now publication with
      | none => exact .refl
      | some t => exact .of_sweep hnext
  | take worker job =>
      dsimp only
      split
      · exact .of_active rfl rfl (by simp)
      · exact .refl
  | claim now worker =>
      dsimp only
      cases hnext : s.claim now worker with
      | none => exact .refl
      | some t =>
          obtain ⟨job, hactive, ⟨old, row, hold, hclaim, rfl⟩ | ⟨-, rfl⟩⟩ := claim_eq_some hnext
          · simp [claims, hactive, hold, hclaim] at hclaims
          · exact .of_active rfl rfl (by simp)
  | complete now worker githubCheckRunId =>
      dsimp only
      cases hnext : s.settle worker fun attempt =>
          completeGithubCheckSync now attempt githubCheckRunId with
      | none => exact .refl
      | some t => exact .of_settle (completeGithubCheckSync_endsClaim now githubCheckRunId) hnext
  | skip now worker =>
      dsimp only
      cases hnext : s.settle worker (completeSkippedGithubInvalidationSync now) with
      | none => exact .refl
      | some t => exact .of_settle (completeSkipped_endsClaim now) hnext
  | inactive now worker bindingInactive =>
      dsimp only
      cases hnext : s.settle worker fun attempt =>
          completeInactiveGithubCheckSync now attempt bindingInactive with
      | none => exact .refl
      | some t => exact .of_settle (completeInactive_endsClaim now bindingInactive) hnext
  | fail now worker errorClass nextSyncAfter =>
      dsimp only
      cases hnext : s.settle worker fun attempt =>
          failGithubCheckSync now attempt errorClass nextSyncAfter with
      | none => exact .refl
      | some t => exact .of_settle (failGithubCheckSync_endsClaim now errorClass nextSyncAfter) hnext
  | expire worker =>
      dsimp only
      cases hactive : s.active worker with
      | none => exact .refl
      | some active =>
          exact ⟨fun row hrow hsyncing => ⟨row, hrow, hsyncing, rfl⟩, fun _ _ _ h => h⟩
  | crash worker =>
      dsimp only
      cases hactive : s.active worker with
      | none => exact .refl
      | some active => exact .of_active rfl rfl (by simp)
  | finish worker =>
      dsimp only
      split
      · exact .of_active rfl rfl (by simp)
      · exact .refl
  | giveUp worker =>
      dsimp only
      cases hactive : s.active worker with
      | none => exact .refl
      | some active => exact .of_active rfl rfl (by simp)

/-- A written intent leaves the row pending. -/
theorem pending_of_writesIntent {event : CheckEvent}
    (h : writesIntent sha256 s event = true) {row : CheckRun Digest}
    (hrow : (s.step sha256 event).row = some row) : row.syncStatus = .pending := by
  cases event with
  | persist now isCurrent advanced input publication =>
      cases hnext : s.persist sha256 now isCurrent advanced input publication with
      | none => simp [writesIntent, hnext] at h
      | some t =>
          simp only [CheckSync.step, hnext, Option.getD_some] at hrow
          obtain ⟨write, waiting, -, hwrite, -, -, rfl⟩ := persist_eq_some hnext
          obtain rfl := Option.some_inj.mp hrow
          have hreplay : write.replay = false := by
            simpa [writesIntent, hnext, hwrite, Except.toOption] using h
          obtain ⟨-, -, ⟨_, -, -, -, hyes, -⟩ | ⟨_, -, -, -, hyes, -⟩ |
            ⟨-, -, ⟨-, hnew⟩ | ⟨_, -, hnew, -⟩⟩⟩ := persistGithubCheckIntent_eq_ok hwrite
          · exact absurd (hyes.symm.trans hreplay) (by simp)
          · exact absurd (hyes.symm.trans hreplay) (by simp)
          · rw [hnew]
            rfl
          · rw [hnew]
            rfl
  | _ => cases h

/-! ## The latest claim -/

section Fence

variable {start : CheckSync Digest} {events : List CheckEvent}

/-- The worker of an open claim with the row's number holds the latest claim. -/
def Fenced (sha256 : List UInt8 → Digest) (start : CheckSync Digest)
    (events : List CheckEvent) (s : CheckSync Digest) : Prop :=
  ∀ worker job attempt row, s.active worker = some ⟨job, .claimed attempt⟩ →
    s.row = some row → row.syncStatus = .syncing → row.syncAttempts = attempt →
    LatestClaim sha256 start events worker attempt

theorem LatestClaim.concat {worker attempt : ℕ} {event : CheckEvent}
    (h : LatestClaim sha256 start events worker attempt)
    (hclaims : claims (after (step sha256) start events) event = false)
    (hwrites : writesIntent sha256 (after (step sha256) start events) event = false) :
    LatestClaim sha256 start (events ++ [event]) worker attempt := by
  obtain ⟨front, now, rest, job, rfl, hfresh, hclaimed, hrest⟩ := h
  refine ⟨front, now, rest ++ [event], job, by simp, hfresh, hclaimed, ?_⟩
  rw [throughout_concat]
  refine ⟨hrest, ?_⟩
  rw [← after_append, List.append_assoc, List.singleton_append]
  exact ⟨hclaims, hwrites⟩

/-- A claim by its own worker is the latest one, and closes all others. -/
theorem fenced_claim {now : Timestamp} {worker : ℕ}
    (hsound : Sound sha256 (after (step sha256) start events))
    (hclaims : claims (after (step sha256) start events) (.claim now worker) = true) :
    Fenced sha256 start (events ++ [.claim now worker])
      ((after (step sha256) start events).step sha256 (.claim now worker)) := by
  intro other job attempt row hactive hrow hsyncing hattempt
  cases hnext : (after (step sha256) start events).claim now worker with
  | none =>
      simp only [claims, Option.any_eq_true, decide_eq_true_eq] at hclaims
      obtain ⟨⟨freshJob, phase⟩, hfresh, rfl, hbind⟩ := hclaims
      obtain ⟨new, hnew⟩ := Option.isSome_iff_exists.mp hbind
      simp [CheckSync.claim, hfresh, hnew] at hnext
  | some t =>
      have hstep : (after (step sha256) start events).step sha256 (.claim now worker) = t := by
        simp [CheckSync.step, hnext]
      rw [hstep] at hactive hrow
      obtain ⟨freshJob, hfresh, ⟨old, new, hold, hclaim, rfl⟩ | ⟨hnone, -⟩⟩ :=
        claim_eq_some hnext
      · obtain rfl := Option.some_inj.mp hrow
        obtain ⟨-, hnumber, -, -⟩ := claimGithubCheckSync_eq_some hclaim
        dsimp only at hactive
        rw [Table.set_apply] at hactive
        split at hactive
        · next hsame =>
          cases hactive
          obtain rfl := hsame
          refine ⟨events, now, [], _, rfl, hfresh, ?_, throughout_nil⟩
          rw [after_concat, hstep]
          exact Table.set_self
        · obtain ⟨row', hrow', hle⟩ := hsound.attempts other job attempt hactive
          rw [hold, Option.some_inj] at hrow'
          rw [hrow'] at hnumber
          omega
      · simp only [claims, hfresh, Option.any_some, decide_eq_true_eq] at hclaims
        obtain ⟨new, hbind⟩ := Option.isSome_iff_exists.mp hclaims.2
        obtain ⟨old, hold, hnew⟩ := Option.bind_eq_some_iff.mp hbind
        rw [hnone old hold] at hnew
        cases hnew

theorem fenced_step {event : CheckEvent}
    (h : Fenced sha256 start events (after (step sha256) start events))
    (hsound : Sound sha256 (after (step sha256) start events)) :
    Fenced sha256 start (events ++ [event])
      ((after (step sha256) start events).step sha256 event) := by
  cases hclaims : claims (after (step sha256) start events) event with
  | true =>
      cases event with
      | claim now worker => exact fenced_claim hsound hclaims
      | _ => cases hclaims
  | false =>
      intro worker job attempt row hactive hrow hsyncing hattempt
      cases hwrites : writesIntent sha256 (after (step sha256) start events) event with
      | true =>
          have hpending := pending_of_writesIntent hwrites hrow
          rw [hpending] at hsyncing
          cases hsyncing
      | false =>
          have hsteady := steady_step hclaims hwrites
          obtain ⟨old, hold, hopen, hnumber⟩ := hsteady.row row hrow hsyncing
          exact (h worker job attempt old (hsteady.active worker job attempt hactive) hold hopen
            (hnumber ▸ hattempt)).concat hclaims hwrites

end Fence

theorem fenced_reached (hhash : CollisionFree sha256) (revisionId headSha : JsString)
    (events : List CheckEvent) :
    Fenced sha256 (start revisionId headSha) events
      (reached sha256 revisionId headSha events) := by
  induction events using List.reverseRecOn with
  | nil => exact fun _ _ _ _ _ hrow => nomatch hrow
  | append_singleton events event ih =>
      unfold reached
      rw [after_concat]
      exact fenced_step ih (sound_reached hhash revisionId headSha events)

/-! ## Synchronization -/

omit [DecidableEq Digest] in
/-- A statement that synchronizes rows synchronizes the row of its own claim only. -/
theorem claimed_of_settle {worker : ℕ}
    {statement : ℕ → CheckRun Digest → Option (CheckRun Digest)} (hends : EndsClaim statement)
    (hsettle : s.settle worker statement = some t) {row' : CheckRun Digest}
    (hbefore : ∀ row, s.row = some row → row.syncStatus ≠ .synchronized)
    (hrow' : t.row = some row') (hsync : row'.syncStatus = .synchronized) :
    ∃ job attempt row, s.active worker = some ⟨job, .claimed attempt⟩ ∧ s.row = some row ∧
      statement attempt row = some row' ∧ row.syncStatus = .syncing ∧
      row.syncAttempts = attempt := by
  obtain ⟨job, attempt, hactive, rfl⟩ := settle_eq_some hsettle
  obtain ⟨row, hrow, hgetD⟩ := Option.map_eq_some_iff.mp hrow'
  cases hstatement : statement attempt row with
  | none =>
      rw [hstatement, Option.getD_none] at hgetD
      exact absurd (hgetD ▸ hsync) (hbefore row hrow)
  | some new =>
      rw [hstatement, Option.getD_some] at hgetD
      have hholds := (hends.ends hstatement).1
      simp only [CheckRun.holds, decide_eq_true_eq] at hholds
      exact ⟨job, attempt, row, hactive, hrow, hgetD ▸ hstatement, hholds.2, hholds.1⟩

omit [DecidableEq Digest] in
theorem not_synchronized_of_fail {now : Timestamp} {attempt : ℕ} {errorClass : JsString}
    {nextSyncAfter : Option Timestamp} {row row' : CheckRun Digest}
    (h : failGithubCheckSync now attempt errorClass nextSyncAfter row = some row') :
    row'.syncStatus ≠ .synchronized := by
  unfold failGithubCheckSync at h
  split at h
  · cases h
    cases nextSyncAfter <;> simp
  · cases h

omit [DecidableEq Digest] in
theorem not_synchronized_of_inactive {now : Timestamp} {attempt : ℕ} {bindingInactive : Bool}
    {row row' : CheckRun Digest}
    (h : completeInactiveGithubCheckSync now attempt bindingInactive row = some row') :
    row'.syncStatus ≠ .synchronized := by
  unfold completeInactiveGithubCheckSync at h
  split at h
  · cases h
    simp
  · cases h

omit [DecidableEq Digest] in
/-- A sweep does not synchronize a row. -/
theorem not_synchronized_of_sweep {now : Timestamp} {publication : Publication}
    (h : s.sweep now publication = some t)
    (hbefore : ∀ row, s.row = some row → row.syncStatus ≠ .synchronized) :
    ∀ row, t.row = some row → row.syncStatus ≠ .synchronized := by
  obtain ⟨old, row, waiting, hold, hrow, -, rfl⟩ := sweep_eq_some h
  have hreleased : (old.released now).syncStatus ≠ .synchronized := by
    unfold CheckRun.released
    split
    · simp
    · exact hbefore old hold
  intro row' hrow'
  obtain rfl := Option.some_inj.mp hrow'
  rcases hrow with rfl | ⟨rfl, -⟩
  · exact hreleased
  · exact hreleased

theorem not_synchronized_of_persist {now : Timestamp} {isCurrent : Option Bool}
    {advanced : Bool} {input : GithubCheckIntent} {publication : Publication}
    (h : s.persist sha256 now isCurrent advanced input publication = some t)
    (hbefore : ∀ row, s.row = some row → row.syncStatus ≠ .synchronized) :
    ∀ row, t.row = some row → row.syncStatus ≠ .synchronized := by
  obtain ⟨write, waiting, -, hwrite, -, -, rfl⟩ := persist_eq_some h
  intro row' hrow'
  obtain rfl := Option.some_inj.mp hrow'
  obtain ⟨-, -, ⟨row, hrow, -, hsame, -⟩ | ⟨row, hrow, -, hsame | hsame, -⟩ |
    ⟨-, -, ⟨-, hsame⟩ | ⟨_, -, hsame, -⟩⟩⟩ := persistGithubCheckIntent_eq_ok hwrite
  · exact hsame ▸ hbefore row hrow
  · exact hsame ▸ hbefore row hrow
  all_goals
    rw [hsame]
    exact fun hsync => nomatch hsync

/-- A step that synchronizes the row is taken by the worker of an open claim with the row's
number. -/
theorem claimed_of_synchronizes {event : CheckEvent} {row' : CheckRun Digest}
    (hbefore : ∀ row, s.row = some row → row.syncStatus ≠ .synchronized)
    (hrow' : (s.step sha256 event).row = some row') (hsync : row'.syncStatus = .synchronized) :
    ∃ worker job attempt row, synchronizer event = some worker ∧
      s.active worker = some ⟨job, .claimed attempt⟩ ∧ s.row = some row ∧
      row.syncStatus = .syncing ∧ row.syncAttempts = attempt := by
  have hsame : s.row ≠ some row' := fun hrow => hbefore row' hrow hsync
  unfold CheckSync.step at hrow'
  cases event with
  | persist now isCurrent advanced input publication =>
      dsimp only at hrow'
      cases hnext : s.persist sha256 now isCurrent advanced input publication with
      | none => exact absurd (by simpa [hnext] using hrow') hsame
      | some t =>
          rw [hnext, Option.getD_some] at hrow'
          exact absurd hsync (not_synchronized_of_persist hnext hbefore row' hrow')
  | reactivate now expectedHeadSha publication =>
      dsimp only at hrow'
      cases hnext : s.reactivate now expectedHeadSha publication with
      | none => exact absurd (by simpa [hnext] using hrow') hsame
      | some t =>
          rw [hnext, Option.getD_some] at hrow'
          obtain ⟨old, job, waiting, hold, -, -, -, -, rfl⟩ := reactivate_eq_some hnext
          obtain rfl := Option.some_inj.mp hrow'
          cases hsync
  | sweep now publication =>
      dsimp only at hrow'
      cases hnext : s.sweep now publication with
      | none => exact absurd (by simpa [hnext] using hrow') hsame
      | some t =>
          rw [hnext, Option.getD_some] at hrow'
          exact absurd hsync (not_synchronized_of_sweep hnext hbefore row' hrow')
  | take worker job =>
      dsimp only at hrow'
      split at hrow' <;> exact absurd hrow' hsame
  | claim now worker =>
      dsimp only at hrow'
      cases hnext : s.claim now worker with
      | none => exact absurd (by simpa [hnext] using hrow') hsame
      | some t =>
          rw [hnext, Option.getD_some] at hrow'
          obtain ⟨job, hactive, ⟨old, row, hold, hclaim, rfl⟩ | ⟨-, rfl⟩⟩ := claim_eq_some hnext
          · obtain rfl := Option.some_inj.mp hrow'
            rw [(claimGithubCheckSync_eq_some hclaim).2.2.1] at hsync
            cases hsync
          · exact absurd hrow' hsame
  | complete now worker githubCheckRunId =>
      dsimp only at hrow'
      cases hnext : s.settle worker fun attempt =>
          completeGithubCheckSync now attempt githubCheckRunId with
      | none => exact absurd (by simpa [hnext] using hrow') hsame
      | some t =>
          rw [hnext, Option.getD_some] at hrow'
          obtain ⟨job, attempt, row, hactive, hrow, -, hopen⟩ := claimed_of_settle
            (completeGithubCheckSync_endsClaim now githubCheckRunId) hnext hbefore hrow' hsync
          exact ⟨worker, job, attempt, row, rfl, hactive, hrow, hopen⟩
  | skip now worker =>
      dsimp only at hrow'
      cases hnext : s.settle worker (completeSkippedGithubInvalidationSync now) with
      | none => exact absurd (by simpa [hnext] using hrow') hsame
      | some t =>
          rw [hnext, Option.getD_some] at hrow'
          obtain ⟨job, attempt, row, hactive, hrow, -, hopen⟩ :=
            claimed_of_settle (completeSkipped_endsClaim now) hnext hbefore hrow' hsync
          exact ⟨worker, job, attempt, row, rfl, hactive, hrow, hopen⟩
  | inactive now worker bindingInactive =>
      dsimp only at hrow'
      cases hnext : s.settle worker fun attempt =>
          completeInactiveGithubCheckSync now attempt bindingInactive with
      | none => exact absurd (by simpa [hnext] using hrow') hsame
      | some t =>
          rw [hnext, Option.getD_some] at hrow'
          obtain ⟨job, attempt, row, -, -, hstatement, -⟩ := claimed_of_settle
            (completeInactive_endsClaim now bindingInactive) hnext hbefore hrow' hsync
          exact absurd hsync (not_synchronized_of_inactive hstatement)
  | fail now worker errorClass nextSyncAfter =>
      dsimp only at hrow'
      cases hnext : s.settle worker fun attempt =>
          failGithubCheckSync now attempt errorClass nextSyncAfter with
      | none => exact absurd (by simpa [hnext] using hrow') hsame
      | some t =>
          rw [hnext, Option.getD_some] at hrow'
          obtain ⟨job, attempt, row, -, -, hstatement, -⟩ := claimed_of_settle
            (failGithubCheckSync_endsClaim now errorClass nextSyncAfter) hnext hbefore hrow' hsync
          exact absurd hsync (not_synchronized_of_fail hstatement)
  | expire worker =>
      dsimp only at hrow'
      cases hactive : s.active worker <;> rw [hactive] at hrow' <;> exact absurd hrow' hsame
  | crash worker =>
      dsimp only at hrow'
      cases hactive : s.active worker <;> rw [hactive] at hrow' <;> exact absurd hrow' hsame
  | finish worker =>
      dsimp only at hrow'
      split at hrow' <;> exact absurd hrow' hsame
  | giveUp worker =>
      dsimp only at hrow'
      cases hactive : s.active worker <;> rw [hactive] at hrow' <;> exact absurd hrow' hsame

/-- An analysis leaves the intent of a later stage alone. -/
theorem sameIntent_of_analysisReady {now : Timestamp} {isCurrent : Option Bool}
    {advanced : Bool} {input : GithubCheckIntent} {publication : Publication}
    {row row' : CheckRun Digest} (hrow : s.row = some row)
    (hlater : row.intentReason.any isLaterStage = true) (hreason : input.reason = .analysisReady)
    (hrow' : (s.step sha256 (.persist now isCurrent advanced input publication)).row =
      some row') : row.SameIntent row' := by
  unfold CheckSync.step at hrow'
  dsimp only at hrow'
  cases hnext : s.persist sha256 now isCurrent advanced input publication with
  | none =>
      rw [hnext, Option.getD_none, hrow, Option.some_inj] at hrow'
      exact hrow' ▸ .refl
  | some t =>
      rw [hnext, Option.getD_some] at hrow'
      obtain ⟨write, waiting, -, hwrite, -, -, rfl⟩ := persist_eq_some hnext
      obtain rfl := Option.some_inj.mp hrow'
      rw [hrow] at hwrite
      obtain ⟨-, -, ⟨old, hold, -, hsame, -⟩ | ⟨old, hold, -, hsame | hsame, -⟩ |
        ⟨-, -, ⟨hnone, -⟩ | ⟨old, hold, -, hnot⟩⟩⟩ := persistGithubCheckIntent_eq_ok hwrite
      · cases hold
        rw [hsame]
        exact .refl
      · cases hold
        rw [hsame]
        exact .refl
      · cases hold
        rw [hsame]
        exact rowKeeps_requestAgain.same
      · cases hnone
      · cases hold
        rw [hnot hreason] at hlater
        cases hlater

end CheckSync

end Db

end UnderstandProof
