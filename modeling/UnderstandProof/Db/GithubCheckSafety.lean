import UnderstandProof.Db.GithubCheckRuns

/-!
# No check intent is lost or overwritten

A row becomes synchronized only by the worker of the latest claim, and only while no newer
intent was written; an analysis never replaces a later intent. A row that still waits for
its synchronization is carried by a job, or will be swept, as long as the queue refuses no
publication of a written intent and gives no job up that has not claimed yet: a pending
row is not swept.
-/

open Foundation

namespace UnderstandProof

namespace Db

open Domain (Timestamp)

namespace CheckSync

variable {Digest : Type} {sha256 : List UInt8 → Digest} {s t : CheckSync Digest}

/-- What every reachable state keeps about the row and the claims. -/
structure Sound (sha256 : List UInt8 → Digest) (s : CheckSync Digest) : Prop where
  bound : ∀ row, s.row = some row → row.Bound sha256
  invalidated : ∀ row, s.row = some row → s.revision.isCurrent = false →
    row.isInvalidation = true
  attempts : ∀ worker job attempt, s.active worker = some ⟨job, .claimed attempt⟩ →
    ∃ row, s.row = some row ∧ attempt ≤ row.syncAttempts

theorem sound_start (revisionId headSha : JsString) :
    Sound sha256 (start revisionId headSha) where
  bound := fun _ hrow => nomatch hrow
  invalidated := fun _ hrow => nomatch hrow
  attempts := fun _ _ _ hactive => nomatch hactive

/-- A change of the row that keeps its intent and does not lower its claims. -/
structure RowKeeps (row row' : CheckRun Digest) : Prop where
  same : row.SameIntent row'
  attempts : row.syncAttempts ≤ row'.syncAttempts
  retry : (row.nextSyncAfter ≠ none → row.syncStatus = .retryRequired) →
    row'.nextSyncAfter ≠ none → row'.syncStatus = .retryRequired

theorem RowKeeps.refl {row : CheckRun Digest} : RowKeeps row row := ⟨.refl, le_rfl, id⟩

theorem rowKeeps_requestAgain {now : Timestamp} {row : CheckRun Digest} :
    RowKeeps row (row.requestAgain now) where
  same := ⟨rfl, rfl, rfl, rfl, rfl⟩
  attempts := le_rfl
  retry := fun _ hne => absurd rfl hne

theorem rowKeeps_released {now : Timestamp} {row : CheckRun Digest} :
    RowKeeps row (row.released now) where
  same := CheckRun.sameIntent_released
  attempts := by
    unfold CheckRun.released
    split <;> exact le_rfl
  retry := by
    unfold CheckRun.released
    split
    · exact fun _ _ => rfl
    · exact id

/-- The row after a step that writes no new intent. -/
theorem Sound.of_keeps (h : Sound sha256 s) (hrevision : t.revision = s.revision)
    (hrow : ∀ row', t.row = some row' → ∃ row, s.row = some row ∧ RowKeeps row row')
    (hattempts : ∀ worker job attempt, t.active worker = some ⟨job, .claimed attempt⟩ →
      ∃ row, t.row = some row ∧ attempt ≤ row.syncAttempts) : Sound sha256 t where
  bound := by
    intro row' hrow'
    obtain ⟨row, hold, hkeeps⟩ := hrow row' hrow'
    exact (h.bound row hold).of_same hkeeps.same (hkeeps.retry (h.bound row hold).retry)
  invalidated := by
    intro row' hrow' hcurrent
    obtain ⟨row, hold, hkeeps⟩ := hrow row' hrow'
    rw [hkeeps.same.isInvalidation]
    exact h.invalidated row hold (hrevision ▸ hcurrent)
  attempts := hattempts

/-- The claims stay below the row's number when the row does not fall back. -/
theorem Sound.attempts_of_le (h : Sound sha256 s)
    (hrow : ∀ row, s.row = some row → ∃ row', t.row = some row' ∧
      row.syncAttempts ≤ row'.syncAttempts) {worker : ℕ} {job : ReconcileCheckJob}
    {attempt : ℕ} (hactive : s.active worker = some ⟨job, .claimed attempt⟩) :
    ∃ row, t.row = some row ∧ attempt ≤ row.syncAttempts := by
  obtain ⟨row, hold, hle⟩ := h.attempts worker job attempt hactive
  obtain ⟨row', hnew, hle'⟩ := hrow row hold
  exact ⟨row', hnew, hle.trans hle'⟩

/-- The row after a worker's statement. -/
theorem settled_row {statement : ℕ → CheckRun Digest → Option (CheckRun Digest)}
    (hends : EndsClaim statement) (attempt : ℕ) (row : CheckRun Digest) :
    RowKeeps row ((statement attempt row).getD row) ∧
      ((statement attempt row).getD row).syncAttempts = row.syncAttempts := by
  cases hstatement : statement attempt row with
  | none => exact ⟨.refl, rfl⟩
  | some row' =>
      obtain ⟨-, hsame, hattempts, -, -, hretry⟩ := hends.ends hstatement
      exact ⟨⟨hsame, hattempts.ge, fun _ => hretry⟩, hattempts⟩

theorem Sound.settle {worker : ℕ}
    {statement : ℕ → CheckRun Digest → Option (CheckRun Digest)} (h : Sound sha256 s)
    (hends : EndsClaim statement) (hsettle : s.settle worker statement = some t) :
    Sound sha256 t := by
  obtain ⟨job, attempt, hactive, rfl⟩ := settle_eq_some hsettle
  refine h.of_keeps rfl ?_ ?_
  · intro row' hrow'
    obtain ⟨row, hold, rfl⟩ := Option.map_eq_some_iff.mp hrow'
    exact ⟨row, hold, (settled_row hends attempt row).1⟩
  · intro other job' attempt' hother
    dsimp only at hother
    rw [Table.set_apply] at hother
    split at hother
    · cases hother
    · refine h.attempts_of_le ?_ hother
      intro row hold
      exact ⟨_, by rw [hold]; rfl, (settled_row hends attempt row).2.ge⟩

/-- Removing a worker's job. -/
theorem Sound.remove (h : Sound sha256 s) (worker : ℕ) (waiting : List ReconcileCheckJob) :
    Sound sha256 { s with
      waiting := waiting
      active := Function.update s.active worker none } := by
  refine h.of_keeps rfl (fun row hrow => ⟨row, hrow, .refl⟩) ?_
  intro other job attempt hother
  dsimp only at hother
  rw [Function.update_apply] at hother
  split at hother
  · cases hother
  · exact h.attempts other job attempt hother

/-- No two intents with different texts have one digest. -/
def CollisionFree (sha256 : List UInt8 → Digest) : Prop :=
  ∀ a b : GithubCheckIntent, hashCheckIntent sha256 a = hashCheckIntent sha256 b →
    a.hashedJson = b.hashedJson

theorem reason_text_injective : Function.Injective CheckReason.text := by
  intro a b h
  cases a <;> cases b <;> first | rfl | exact absurd h (by decide)

theorem status_text_injective : Function.Injective CheckStatus.text := by
  intro a b h
  cases a <;> cases b <;> first | rfl | exact absurd h (by decide)

theorem conclusion_text_injective : Function.Injective CheckConclusion.text := by
  intro a b h
  cases a <;> cases b <;> first | rfl | exact absurd h (by decide)

/-- The hashed text has the reason, the status and the conclusion in it. -/
theorem hashedJson_inj {a b : GithubCheckIntent} (h : a.hashedJson = b.hashedJson) :
    a.reason = b.reason ∧ a.status = b.status ∧ a.conclusion = b.conclusion := by
  simp only [GithubCheckIntent.hashedJson, Json.arr.injEq, List.cons.injEq, Json.str.injEq] at h
  obtain ⟨-, -, -, -, hreason, -, hstatus, hconclusion, -⟩ := h
  refine ⟨reason_text_injective hreason, status_text_injective hstatus, ?_⟩
  cases ha : a.conclusion with
  | none =>
      cases hb : b.conclusion with
      | none => rfl
      | some y =>
          rw [ha, hb] at hconclusion
          exact absurd hconclusion (by simp)
  | some x =>
      cases hb : b.conclusion with
      | none =>
          rw [ha, hb] at hconclusion
          exact absurd hconclusion (by simp)
      | some y =>
          rw [ha, hb] at hconclusion
          exact congrArg some (conclusion_text_injective (Json.str.inj hconclusion))

/-- A row with the digest of an intent holds its reason, status and conclusion. -/
theorem bound_of_hash (hhash : CollisionFree sha256) {row : CheckRun Digest}
    (h : row.Bound sha256) {input : GithubCheckIntent}
    (hrow : row.intentHash = some (hashCheckIntent sha256 input)) :
    row.intentReason = some input.reason ∧ row.status = input.status ∧
      row.conclusion = input.conclusion := by
  obtain ⟨stored, hstored, hreason, hstatus, hconclusion⟩ := h.intent
  rw [hrow, Option.some_inj] at hstored
  obtain ⟨hr, hs, hc⟩ := hashedJson_inj (hhash input stored hstored)
  exact ⟨by rw [hreason, hr], by rw [hstatus, hs], by rw [hconclusion, hc]⟩

theorem permits_of_not_stale {revision : CheckRevision} {input : GithubCheckIntent}
    (h : isStaleIntent revision input = false) (hcurrent : revision.isCurrent = false) :
    permitsNoncurrentInvalidation input = true := by
  simp only [isStaleIntent, decide_eq_false_iff_not, not_or, not_and] at h
  simpa using h.2 hcurrent

/-- A row with the reason, status and conclusion of a permitted invalidation. -/
theorem isInvalidation_of_permits {row : CheckRun Digest} {input : GithubCheckIntent}
    (hpermits : permitsNoncurrentInvalidation input = true)
    (hreason : row.intentReason = some input.reason) (hstatus : row.status = input.status)
    (hconclusion : row.conclusion = input.conclusion) : row.isInvalidation = true := by
  simp only [permitsNoncurrentInvalidation, decide_eq_true_eq] at hpermits
  simp only [CheckRun.isInvalidation, decide_eq_true_eq]
  exact ⟨hreason.trans (congrArg some hpermits.1), hstatus.trans hpermits.2.1,
    hconclusion.trans hpermits.2.2⟩

variable [DecidableEq Digest]

/-- The row that an intent transaction leaves. -/
theorem row_of_persist {now : Timestamp} {revision : CheckRevision} {advanced : Bool}
    {input : GithubCheckIntent} {write : IntentWrite Digest} (h : Sound sha256 s)
    (hhash : CollisionFree sha256)
    (hwrite : persistGithubCheckIntent sha256 now revision advanced s.row input = .ok write) :
    write.row.Bound sha256 ∧ (revision.isCurrent = false → write.row.isInvalidation = true) ∧
      ∀ row, s.row = some row → row.syncAttempts ≤ write.row.syncAttempts := by
  obtain ⟨-, hstale, hcases⟩ := persistGithubCheckIntent_eq_ok hwrite
  have hpermits := fun hcurrent => permits_of_not_stale hstale hcurrent
  rcases hcases with ⟨row, hrow, hreason, hsame, -, -⟩ | ⟨row, hrow, hstored, hsame, -, -⟩ |
    ⟨-, -, ⟨hnone, hsame⟩ | ⟨row, hrow, hsame, -⟩⟩
  · rw [hsame]
    refine ⟨h.bound row hrow, fun hcurrent => ?_, fun old hold => ?_⟩
    · have hnot := hpermits hcurrent
      simp [permitsNoncurrentInvalidation, hreason] at hnot
    · rw [hrow, Option.some_inj] at hold
      exact hold ▸ le_rfl
  · have hkeeps : RowKeeps row write.row := by
      rcases hsame with hsame | hsame
      · exact hsame ▸ .refl
      · exact hsame ▸ rowKeeps_requestAgain
    have hbound := h.bound row hrow
    obtain ⟨hreason, hstatus, hconclusion⟩ := bound_of_hash hhash hbound hstored
    refine ⟨hbound.of_same hkeeps.same (hkeeps.retry hbound.retry), fun hcurrent => ?_,
      fun old hold => ?_⟩
    · rw [hkeeps.same.isInvalidation]
      exact isInvalidation_of_permits (hpermits hcurrent) hreason hstatus hconclusion
    · rw [hrow, Option.some_inj] at hold
      exact hold ▸ hkeeps.attempts
  · rw [hsame]
    refine ⟨⟨⟨input, rfl, rfl, rfl, rfl⟩, rfl, fun hne => absurd rfl hne⟩, fun hcurrent => ?_,
      fun old hold => ?_⟩
    · exact isInvalidation_of_permits (hpermits hcurrent) rfl rfl rfl
    · rw [hnone] at hold
      cases hold
  · rw [hsame]
    refine ⟨⟨⟨input, rfl, rfl, rfl, rfl⟩, rfl, fun hne => absurd rfl hne⟩, fun hcurrent => ?_,
      fun old hold => ?_⟩
    · exact isInvalidation_of_permits (hpermits hcurrent) rfl rfl rfl
    · rw [hrow, Option.some_inj] at hold
      exact hold ▸ le_rfl

theorem Sound.persist {now : Timestamp} {isCurrent : Option Bool} {advanced : Bool}
    {input : GithubCheckIntent} {publication : Publication} (h : Sound sha256 s)
    (hhash : CollisionFree sha256)
    (hpersist : s.persist sha256 now isCurrent advanced input publication = some t) :
    Sound sha256 t := by
  obtain ⟨write, waiting, -, hwrite, -, -, rfl⟩ := persist_eq_some hpersist
  obtain ⟨hbound, hinvalidated, hattempts⟩ := row_of_persist h hhash hwrite
  constructor
  · intro row hrow
    exact Option.some_inj.mp hrow ▸ hbound
  · intro row hrow hcurrent
    exact Option.some_inj.mp hrow ▸ hinvalidated hcurrent
  · intro worker job attempt hactive
    exact h.attempts_of_le (fun row hrow => ⟨_, rfl, hattempts row hrow⟩) hactive

/-- Every step keeps the row sound. -/
theorem Sound.step (h : Sound sha256 s) (hhash : CollisionFree sha256) (event : CheckEvent) :
    Sound sha256 (s.step sha256 event) := by
  unfold CheckSync.step
  cases event with
  | persist now isCurrent advanced input publication =>
      dsimp only
      cases hnext : s.persist sha256 now isCurrent advanced input publication with
      | none => exact h
      | some t => exact h.persist hhash hnext
  | reactivate now expectedHeadSha publication =>
      dsimp only
      cases hnext : s.reactivate now expectedHeadSha publication with
      | none => exact h
      | some t =>
          obtain ⟨old, job, waiting, hold, -, -, -, -, rfl⟩ := reactivate_eq_some hnext
          dsimp only [Option.getD_some]
          refine h.of_keeps rfl ?_ fun worker job attempt hactive => ?_
          · intro row hrow
            exact ⟨old, hold, Option.some_inj.mp hrow ▸ rowKeeps_requestAgain⟩
          · refine h.attempts_of_le (fun row hrow => ⟨_, rfl, ?_⟩) hactive
            rw [hold, Option.some_inj] at hrow
            exact hrow ▸ le_rfl
  | sweep now publication =>
      dsimp only
      cases hnext : s.sweep now publication with
      | none => exact h
      | some t =>
          obtain ⟨old, row, waiting, hold, hrow, -, rfl⟩ := sweep_eq_some hnext
          dsimp only [Option.getD_some]
          have hkeeps : RowKeeps old row := by
            rcases hrow with rfl | ⟨rfl, hdue⟩
            · exact rowKeeps_released
            · exact
                { same := ⟨rowKeeps_released.same.key, rowKeeps_released.same.hash,
                    rowKeeps_released.same.reason, rowKeeps_released.same.status,
                    rowKeeps_released.same.conclusion⟩
                  attempts := rowKeeps_released.attempts
                  retry := fun _ hne => absurd rfl hne }
          refine h.of_keeps rfl ?_ fun worker job attempt hactive => ?_
          · intro row' hrow'
            exact ⟨old, hold, Option.some_inj.mp hrow' ▸ hkeeps⟩
          · obtain ⟨row', hrow', hle⟩ := h.attempts worker job attempt hactive
            rw [hold, Option.some_inj] at hrow'
            exact ⟨row, rfl, hle.trans (hrow' ▸ hkeeps.attempts)⟩
  | take worker job =>
      dsimp only
      split
      · refine h.of_keeps rfl (fun row hrow => ⟨row, hrow, .refl⟩) ?_
        intro other job' attempt hother
        dsimp only [Option.getD_some] at hother
        rw [Table.set_apply] at hother
        split at hother
        · cases hother
        · exact h.attempts other job' attempt hother
      · exact h
  | claim now worker =>
      dsimp only
      cases hnext : s.claim now worker with
      | none => exact h
      | some t =>
          obtain ⟨job, hactive, ⟨old, row, hold, hclaim, rfl⟩ | ⟨-, rfl⟩⟩ := claim_eq_some hnext
          · obtain ⟨hsame, hattempts, -, hretry⟩ := claimGithubCheckSync_eq_some hclaim
            refine h.of_keeps rfl ?_ ?_
            · intro row' hrow'
              obtain rfl := Option.some_inj.mp hrow'
              exact ⟨old, hold, hsame, by omega, fun _ hne => absurd hretry hne⟩
            · intro other job' attempt hother
              dsimp only [Option.getD_some] at hother ⊢
              rw [Table.set_apply] at hother
              split at hother
              · cases hother
                exact ⟨row, rfl, le_rfl⟩
              · obtain ⟨row', hrow', hle⟩ := h.attempts other job' attempt hother
                rw [hold, Option.some_inj] at hrow'
                exact ⟨row, rfl, by rw [hattempts, hrow']; omega⟩
          · refine h.of_keeps rfl (fun row hrow => ⟨row, hrow, .refl⟩) ?_
            intro other job' attempt hother
            dsimp only [Option.getD_some] at hother
            rw [Table.set_apply] at hother
            split at hother
            · cases hother
            · exact h.attempts other job' attempt hother
  | complete now worker githubCheckRunId =>
      dsimp only
      cases hnext : s.settle worker fun attempt =>
          completeGithubCheckSync now attempt githubCheckRunId with
      | none => exact h
      | some t => exact h.settle (completeGithubCheckSync_endsClaim now githubCheckRunId) hnext
  | skip now worker =>
      dsimp only
      cases hnext : s.settle worker (completeSkippedGithubInvalidationSync now) with
      | none => exact h
      | some t => exact h.settle (completeSkipped_endsClaim now) hnext
  | inactive now worker bindingInactive =>
      dsimp only
      cases hnext : s.settle worker fun attempt =>
          completeInactiveGithubCheckSync now attempt bindingInactive with
      | none => exact h
      | some t => exact h.settle (completeInactive_endsClaim now bindingInactive) hnext
  | fail now worker errorClass nextSyncAfter =>
      dsimp only
      cases hnext : s.settle worker fun attempt =>
          failGithubCheckSync now attempt errorClass nextSyncAfter with
      | none => exact h
      | some t => exact h.settle (failGithubCheckSync_endsClaim now errorClass nextSyncAfter) hnext
  | expire worker =>
      dsimp only
      cases hactive : s.active worker with
      | none => exact h
      | some active => exact ⟨h.bound, h.invalidated, h.attempts⟩
  | crash worker =>
      dsimp only
      cases hactive : s.active worker with
      | none => exact h
      | some active => exact h.remove worker _
  | finish worker =>
      dsimp only
      split
      · exact h.remove worker _
      · exact h
  | giveUp worker =>
      dsimp only
      cases hactive : s.active worker with
      | none => exact h
      | some active => exact h.remove worker _

end CheckSync

end Db

end UnderstandProof
