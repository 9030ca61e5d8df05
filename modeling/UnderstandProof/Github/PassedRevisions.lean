import UnderstandProof.Github.Replacements

/-!
# The checks of passed revisions

A revision with a passed attempt has no live one, and while it is current on an open pull request
its check shows the success. A snapshot of the open pull request writes that check again, an
intent of the analysis is superseded by the pass, and every other writer has an attempt to write
for, of which there is none. That the preparation has failed is in a check only when it was
written there.
-/

open Foundation

namespace UnderstandProof

namespace Github

open Domain (AttemptStatus Timestamp allowedAttemptTransitions)
open Db (CheckReason CheckRevision CheckRun GithubCheckIntent IntentWrite persistGithubCheckIntent
  persistGithubCheckIntent_eq_ok reactivateInactiveGithubCheckIntent)
open Db.CheckSync (CollisionFree)

namespace PullRequestRows

variable {Digest : Type} {environment : RevisionEnvironment Digest}
  {s t u : PullRequestRows Digest} {now : Timestamp} {revisionId authorId : JsString}
  {attempt : Attempt} {intent : GithubCheckIntent}

/-! ## Failed preparations -/

/-- No check comes to say that the preparation of its revision has failed. -/
def BlamesNone (s t : PullRequestRows Digest) : Prop :=
  ∀ revisionId, (∀ row, s.checkRuns revisionId = some row →
      row.intentReason ≠ some .preparationFailed) →
    ∀ row, t.checkRuns revisionId = some row → row.intentReason ≠ some .preparationFailed

theorem blamesNone_of_eq (h : t.checkRuns = s.checkRuns) : BlamesNone s t := by
  intro revisionId hbefore row hrow
  exact hbefore row (h ▸ hrow)

theorem BlamesNone.trans (h : BlamesNone s t) (h' : BlamesNone t u) : BlamesNone s u :=
  fun revisionId hbefore => h' revisionId (h revisionId hbefore)

/-- The check of one revision is replaced by one without the reason. -/
theorem blamesNone_of_set {row : CheckRun Digest}
    (h : t.checkRuns = s.checkRuns.set revisionId row)
    (hrow : (∀ row, s.checkRuns revisionId = some row →
        row.intentReason ≠ some .preparationFailed) →
      row.intentReason ≠ some .preparationFailed) : BlamesNone s t := by
  intro other hbefore row' hrow'
  rw [h, Table.set_apply] at hrow'
  split at hrow'
  · next hsame =>
    subst hsame
    exact Option.some_inj.mp hrow' ▸ hrow hbefore
  · exact hbefore row' hrow'

theorem blamesNone_reactivateInactive {headSha : JsString} :
    BlamesNone s (s.reactivateInactive now revisionId headSha) := by
  unfold reactivateInactive
  split
  · next revision row hrevision hrow =>
    split
    · next row' hrow' =>
      refine blamesNone_of_set rfl fun hbefore => ?_
      unfold reactivateInactiveGithubCheckIntent at hrow'
      split at hrow'
      · cases hrow'
        exact hbefore row hrow
      · cases hrow'
    · exact blamesNone_of_eq rfl
  · exact blamesNone_of_eq rfl

section Writes

variable [DecidableEq Digest]

theorem blamesNone_of_writeCheck (h : s.writeCheck environment now intent = some t)
    (hreason : intent.reason ≠ .preparationFailed) : BlamesNone s t := by
  obtain ⟨revision, advanced, write, hwrite, rfl⟩ := writeCheck_eq_some h
  refine blamesNone_of_set rfl fun hbefore => ?_
  obtain ⟨-, -, ⟨row, hrow, -, hsame, -⟩ | ⟨row, hrow, -, hsame | hsame, -⟩ |
    ⟨-, -, ⟨-, hsame⟩ | ⟨row, -, hsame, -⟩⟩⟩ := persistGithubCheckIntent_eq_ok hwrite
  · exact hsame ▸ hbefore row hrow
  · exact hsame ▸ hbefore row hrow
  · rw [hsame]
    exact hbefore row hrow
  · rw [hsame]
    exact fun hsome => hreason (Option.some_inj.mp hsome)
  · rw [hsame]
    exact fun hsome => hreason (Option.some_inj.mp hsome)

omit [DecidableEq Digest] in
theorem upsertRevision_checkRuns {headSha baseSha new id : JsString}
    (h : s.upsertRevision headSha baseSha new = some (t, id)) : t.checkRuns = s.checkRuns := by
  unfold upsertRevision at h
  split at h
  · cases h
    rfl
  · split at h
    · cases h
      rfl
    · cases h

theorem blamesNone_of_switchRevision {payload : VerifiedSnapshot} {new id : JsString}
    {reactivated : Bool}
    (h : s.switchRevision environment now payload new = some (t, id, reactivated)) :
    BlamesNone s t := by
  unfold switchRevision at h
  split at h
  · obtain ⟨switched, hupsert, heq⟩ := Option.map_eq_some_iff.mp h
    cases heq
    exact blamesNone_of_eq (upsertRevision_checkRuns hupsert)
  · next left hleft =>
    split at h
    · obtain ⟨given, hgiven, hmap⟩ := Option.bind_eq_some_iff.mp h
      obtain ⟨switched, hupsert, heq⟩ := Option.map_eq_some_iff.mp hmap
      cases heq
      have hgone : BlamesNone s (s.withoutCurrent now left) := blamesNone_of_eq rfl
      have hwritten : BlamesNone (s.withoutCurrent now left) given :=
        blamesNone_of_writeCheck hgiven (fun hreason => nomatch hreason)
      exact (hgone.trans hwritten).trans (blamesNone_of_eq (upsertRevision_checkRuns hupsert))
    · cases h
      exact blamesNone_of_eq rfl

omit [DecidableEq Digest] in
theorem webhookIntent_reason {payload : VerifiedSnapshot} {alreadyPassed : Bool} :
    (webhookIntent environment payload alreadyPassed revisionId).reason = .webhookIngested := by
  unfold webhookIntent
  dsimp only
  split
  · rfl
  · split <;> rfl

theorem blamesNone_of_applySnapshot {payload : VerifiedSnapshot}
    {reactivates reactivated : Bool}
    (h : s.applySnapshot environment now payload reactivates reactivated revisionId = some t) :
    BlamesNone s t := by
  unfold applySnapshot at h
  dsimp only at h
  have hclosed : BlamesNone s
      (if payload.action = .closed then s.invalidateAttempts now revisionId else s) := by
    split
    · exact blamesNone_of_eq rfl
    · exact blamesNone_of_eq rfl
  generalize (if payload.action = .closed then s.invalidateAttempts now revisionId else s) =
    closed at hclosed h
  have hawake : BlamesNone s
      (if reactivates then closed.reactivateInactive now revisionId payload.headSha
        else closed) := by
    split
    · exact hclosed.trans blamesNone_reactivateInactive
    · exact hclosed
  split at h
  · refine hawake.trans (blamesNone_of_writeCheck h ?_)
    rw [webhookIntent_reason]
    decide
  · cases h
    exact hawake

theorem blamesNone_of_snapshot {payload : VerifiedSnapshot} {new : JsString}
    {reactivates fails : Bool}
    (h : s.processSnapshot environment now payload new reactivates fails = some t) :
    BlamesNone s t := by
  obtain ⟨switched, applied, id, reactivated, hswitch, happly, rfl⟩ := processSnapshot_eq_some h
  have hseen : BlamesNone s { s with state := some payload.state } := blamesNone_of_eq rfl
  exact (hseen.trans (blamesNone_of_switchRevision hswitch)).trans
    ((blamesNone_of_applySnapshot happly).trans (blamesNone_of_eq rfl))

theorem blamesNone_of_transition {attemptId : JsString} {status : AttemptStatus}
    {intent : Option GithubCheckIntent}
    (hreason : ∀ written, intent = some written → written.reason ≠ .preparationFailed)
    (h : s.transition environment now attemptId status intent = some t) : BlamesNone s t := by
  unfold PullRequestRows.transition at h
  split at h
  · dsimp only at h
    split at h
    · cases h
      exact blamesNone_of_eq rfl
    · next written =>
      have hwritten := blamesNone_of_writeCheck h (hreason written rfl)
      exact (blamesNone_of_eq rfl).trans hwritten
  · cases h

end Writes

/-! ## New attempts -/

/-- At most the check of one revision is other than before. -/
structure Aside (revisionId : JsString) (s t : PullRequestRows Digest) : Prop where
  revisions : t.revisions = s.revisions
  state : t.state = s.state
  checkRuns : ∀ other, other ≠ revisionId → t.checkRuns other = s.checkRuns other

/-- One attempt is new, and at most the check of its revision is written with it. -/
structure Admits (revisionId authorId : JsString) (s t : PullRequestRows Digest) : Prop where
  attempts : ∃ created : Attempt, t.attempts = s.attempts ++ [created] ∧ created.status = .ready ∧
    created.revisionId = revisionId ∧ created.authorId = authorId
  aside : Aside revisionId s t
  blames : BlamesNone s t

section Attempts

variable [DecidableEq Digest]

theorem aside_of_writeCheck (h : s.writeCheck environment now intent = some t) :
    Aside intent.revisionId s t := by
  obtain ⟨revision, advanced, write, hwrite, rfl⟩ := writeCheck_eq_some h
  exact ⟨rfl, rfl, fun other hother => Table.set_of_ne hother⟩

/-- The insert of a ready attempt with the intent of its proof. -/
theorem admits_of_insert {created : PullRequestRows Digest} {reason : CheckReason}
    {id proofPlanId headSha idempotencyKey : JsString}
    (hinsert : s.insertAttempt
      (readyAttempt now id revisionId authorId proofPlanId headSha) = some created)
    (hwrite : created.writeCheck environment now
      (proofReadyIntent environment revisionId headSha reason idempotencyKey) = some t)
    (hreason : reason ≠ .preparationFailed) : Admits revisionId authorId s t := by
  obtain ⟨rfl, -⟩ := insertAttempt_eq_some hinsert
  have hchecks := checksOnly_of_writeCheck hwrite
  have haside := aside_of_writeCheck hwrite
  have hblames := blamesNone_of_writeCheck hwrite
    (show (proofReadyIntent environment revisionId headSha reason idempotencyKey).reason ≠
      .preparationFailed from hreason)
  exact ⟨⟨_, hchecks.attempts, rfl, rfl, rfl⟩,
    ⟨haside.revisions, haside.state, haside.checkRuns⟩, (blamesNone_of_eq rfl).trans hblames⟩

/-- A plan is persisted for the author's live attempt on it, or for a new one where the newest of
the author is invalidated. -/
theorem persistProofPlan_admits {run : SemanticRun} {bindingActive fails : Bool}
    (h : s.persistProofPlanAndCreateAttempt environment now run bindingActive fails = some t) :
    t = s ∨ (s.latestAttempt run.revisionId run.authorId).all (·.status = .invalidated) = true ∧
      Admits run.revisionId run.authorId s t := by
  unfold persistProofPlanAndCreateAttempt at h
  split at h
  · cases h
  · split at h
    · cases h
      exact .inl rfl
    · split at h
      · cases h
      · next hlatest =>
        obtain ⟨created, hcreated, hwrite⟩ := Option.bind_eq_some_iff.mp h
        have hadmits := admits_of_insert hcreated hwrite (by decide)
        have hplanned : (s.insertProofPlan run.planId run.revisionId).attempts = s.attempts ∧
            (s.insertProofPlan run.planId run.revisionId).revisions = s.revisions ∧
            (s.insertProofPlan run.planId run.revisionId).state = s.state ∧
            (s.insertProofPlan run.planId run.revisionId).checkRuns = s.checkRuns := by
          unfold insertProofPlan
          split <;> exact ⟨rfl, rfl, rfl, rfl⟩
        obtain ⟨hattempts, hrevisions, hstate, hchecks⟩ := hplanned
        refine .inr ⟨?_, ?_, ⟨hadmits.aside.revisions.trans hrevisions,
          hadmits.aside.state.trans hstate, fun other hother =>
            (hadmits.aside.checkRuns other hother).trans (congrFun hchecks other)⟩, ?_⟩
        · cases hnewest : s.latestAttempt run.revisionId run.authorId with
          | none => rfl
          | some prior =>
              rw [hnewest, Option.any_some, decide_eq_true_eq, not_or, not_or, not_not,
                not_not, not_not] at hlatest
              rw [Option.all_some, decide_eq_true_eq]
              exact hlatest.2.2
        · rw [← hattempts]
          exact hadmits.attempts
        · exact (blamesNone_of_eq hchecks).trans hadmits.blames

/-- A replacement is the author's live attempt, or a new one on the revision of its source. -/
theorem createReplacement_admits
    {sourceAttemptId expectedHeadSha idempotencyKey : JsString} {authorized fails : Bool}
    {result : ReplacementResult}
    (h : s.createReplacementAttempt environment now sourceAttemptId expectedHeadSha idempotencyKey
      authorized fails = some (t, result)) :
    t = s ∨ ∃ source, s.attempts.find? (·.id = sourceAttemptId) = some source ∧
      Admits source.revisionId source.authorId s t := by
  unfold createReplacementAttempt at h
  split at h
  · cases h
  · next source hsource =>
    split at h
    · cases h
    · split at h
      · cases h
        exact .inl rfl
      · dsimp only at h
        split at h
        · split at h
          · cases h
          · cases h
            exact .inl rfl
        · split at h
          · cases h
          · obtain ⟨written, hbind, heq⟩ := Option.map_eq_some_iff.mp h
            cases heq
            obtain ⟨created, hcreated, hwrite⟩ := Option.bind_eq_some_iff.mp hbind
            exact .inr ⟨source, hsource, admits_of_insert hcreated hwrite (by decide)⟩

end Attempts

/-! ## Finished revisions -/

/-- The check of the revision is a success. -/
def ShowsSuccess (s : PullRequestRows Digest) (revisionId : JsString) : Prop :=
  ∃ row, s.checkRuns revisionId = some row ∧ row.status = .completed ∧
    row.conclusion = some .success

/-- The attempts are those of one author. A revision with a passed one has no live one, and shows
the success while it is current on an open pull request. -/
structure Finished (authorId : JsString) (s : PullRequestRows Digest) : Prop where
  author : ∀ attempt ∈ s.attempts, attempt.authorId = authorId
  ended : ∀ attempt ∈ s.attempts, s.hasPassed attempt.revisionId = true →
    isLive attempt.status = false
  success : s.state = some .open → ∀ revision ∈ s.revisions, revision.isCurrent = true →
    s.hasPassed revision.id = true → s.ShowsSuccess revision.id

theorem finished_start : Finished authorId (start : PullRequestRows Digest) where
  author := fun _ hmem => nomatch hmem
  ended := fun _ hmem => nomatch hmem
  success := fun hopen => nomatch hopen

theorem hasPassed_eq_true :
    s.hasPassed revisionId = true ↔
      ∃ attempt ∈ s.attempts, attempt.revisionId = revisionId ∧ attempt.status = .passed := by
  simp [hasPassed]

theorem hasPassed_append {created : Attempt} (h : t.attempts = s.attempts ++ [created])
    (hstatus : created.status ≠ .passed) : t.hasPassed revisionId = s.hasPassed revisionId := by
  unfold hasPassed
  rw [h, List.any_append]
  simp [hstatus]

/-- An attempt on a revision without a pass. -/
theorem Finished.admits (h : Finished authorId s) (hadmits : Admits revisionId authorId s t)
    (hpassed : s.hasPassed revisionId = false) : Finished authorId t := by
  obtain ⟨created, hattempts, hready, hrevision, hauthor⟩ := hadmits.attempts
  have hsame : ∀ other, t.hasPassed other = s.hasPassed other := fun other =>
    hasPassed_append hattempts (by rw [hready]; decide)
  refine ⟨fun attempt hmem => ?_, fun attempt hmem hhas => ?_, fun hopen revision hmem hcurrent
    hhas => ?_⟩
  · rw [hattempts] at hmem
    rcases List.mem_append.mp hmem with hmem | hmem
    · exact h.author attempt hmem
    · exact List.mem_singleton.mp hmem ▸ hauthor
  · rw [hattempts] at hmem
    rw [hsame] at hhas
    rcases List.mem_append.mp hmem with hmem | hmem
    · exact h.ended attempt hmem hhas
    · rw [List.mem_singleton.mp hmem, hrevision, hpassed] at hhas
      cases hhas
  · rw [hsame] at hhas
    rw [hadmits.aside.revisions] at hmem
    rw [hadmits.aside.state] at hopen
    have hother : revision.id ≠ revisionId := by
      rintro rfl
      exact nomatch hhas.symm.trans hpassed
    obtain ⟨row, hrow, hrest⟩ := h.success hopen revision hmem hcurrent hhas
    exact ⟨row, (hadmits.aside.checkRuns _ hother).trans hrow, hrest⟩

/-- The attempts stay, and so do the checks of passed revisions. -/
theorem Finished.of_checks (h : Finished authorId s) (hattempts : t.attempts = s.attempts)
    (hrevisions : t.revisions = s.revisions) (hstate : t.state = s.state)
    (hchecks : ∀ other, s.hasPassed other = true → s.ShowsSuccess other → t.ShowsSuccess other) :
    Finished authorId t := by
  refine ⟨by rw [hattempts]; exact h.author, fun attempt hmem hhas => ?_,
    fun hopen revision hmem hcurrent hhas => ?_⟩
  · rw [hasPassed_congr hattempts] at hhas
    exact h.ended attempt (hattempts ▸ hmem) hhas
  · rw [hasPassed_congr hattempts] at hhas
    rw [hstate] at hopen
    exact hchecks _ hhas (h.success hopen revision (hrevisions ▸ hmem) hcurrent hhas)

section Steps

variable [DecidableEq Digest]

theorem Finished.writeCheck (h : Finished authorId s)
    (hwrite : s.writeCheck environment now intent = some t)
    (hpassed : s.hasPassed intent.revisionId = true → s.ShowsSuccess intent.revisionId →
      t.ShowsSuccess intent.revisionId) : Finished authorId t := by
  have hchecks := checksOnly_of_writeCheck hwrite
  have haside := aside_of_writeCheck hwrite
  refine h.of_checks hchecks.attempts haside.revisions haside.state fun other hhas hshows => ?_
  by_cases hother : other = intent.revisionId
  · subst hother
    exact hpassed hhas hshows
  · obtain ⟨row, hrow, hrest⟩ := hshows
    exact ⟨row, (haside.checkRuns other hother).trans hrow, hrest⟩

/-- A pass supersedes the intents of the analysis. -/
theorem showsSuccess_of_analysis (hwrite : s.writeCheck environment now intent = some t)
    (hreason : intent.reason = .analysisReady) (hpassed : s.hasPassed intent.revisionId = true)
    (hshows : s.ShowsSuccess intent.revisionId) : t.ShowsSuccess intent.revisionId := by
  obtain ⟨row, hrow, hstatus, hconclusion⟩ := hshows
  obtain ⟨attempt, hmem, hrevision, hpass⟩ := hasPassed_eq_true.mp hpassed
  have hadvanced : s.isAdvanced intent.revisionId = true :=
    List.any_eq_true.mpr ⟨attempt, hmem, by simp [hrevision, hpass]⟩
  unfold PullRequestRows.writeCheck at hwrite
  split at hwrite
  · cases hwrite
  · split at hwrite
    · cases hwrite
    · next write hpersist =>
      split at hwrite
      · cases hwrite
      · cases hwrite
        refine ⟨write.row, Table.set_self, ?_⟩
        rw [hrow, hadvanced] at hpersist
        unfold persistGithubCheckIntent at hpersist
        split at hpersist
        · cases hpersist
        · split at hpersist
          · cases hpersist
          · dsimp only at hpersist
            split at hpersist
            · split at hpersist
              · cases hpersist
              · cases hpersist
                dsimp only
                split
                · exact ⟨hstatus, hconclusion⟩
                · exact ⟨hstatus, hconclusion⟩
            · rw [if_pos ⟨hreason, .inr rfl⟩] at hpersist
              cases hpersist
              exact ⟨hstatus, hconclusion⟩

/-- The attempts of a snapshot are those before, some of them invalidated. -/
def Ends (s t : PullRequestRows Digest) : Prop :=
  ∀ attempt ∈ t.attempts, ∃ before ∈ s.attempts, attempt.revisionId = before.revisionId ∧
    attempt.authorId = before.authorId ∧ (attempt = before ∨ attempt.status = .invalidated)

omit [DecidableEq Digest] in
theorem ends_of_eq (h : t.attempts = s.attempts) : Ends s t :=
  fun attempt hmem => ⟨attempt, h ▸ hmem, rfl, rfl, .inl rfl⟩

omit [DecidableEq Digest] in
theorem Ends.trans (h : Ends s t) (h' : Ends t u) : Ends s u := by
  intro attempt hmem
  obtain ⟨middle, hmiddle, hrevision, hauthor, hsame⟩ := h' attempt hmem
  obtain ⟨before, hbefore, hrevision', hauthor', hsame'⟩ := h middle hmiddle
  refine ⟨before, hbefore, hrevision.trans hrevision', hauthor.trans hauthor', ?_⟩
  rcases hsame with rfl | hinvalidated
  · exact hsame'
  · exact .inr hinvalidated

omit [DecidableEq Digest] in
theorem ends_invalidation (h : t.attempts = s.attempts.map (invalidation now revisionId)) :
    Ends s t := by
  intro attempt hmem
  rw [h] at hmem
  obtain ⟨before, hbefore, rfl⟩ := List.mem_map.mp hmem
  refine ⟨before, hbefore, ?_⟩
  unfold invalidation
  split
  · exact ⟨rfl, rfl, .inr rfl⟩
  · exact ⟨rfl, rfl, .inl rfl⟩

theorem ends_switchRevision {payload : VerifiedSnapshot} {new id : JsString}
    {reactivated : Bool} {current : Option (JsString × JsString)}
    (hsettled : Settled environment s current)
    (h : s.switchRevision environment now payload new = some (t, id, reactivated)) :
    Ends s t := by
  unfold switchRevision at h
  split at h
  · next hnone =>
    obtain ⟨switched, hupsert, heq⟩ := Option.map_eq_some_iff.mp h
    cases heq
    exact ends_of_eq
      ((hsettled.none_of_currentRevision hnone).upsertRevision hupsert).2.attempts
  · next left hleft =>
    obtain ⟨hmem, hcurrent⟩ := currentRevision_eq_some hleft
    split at h
    · obtain ⟨given, hgiven, hmap⟩ := Option.bind_eq_some_iff.mp h
      obtain ⟨switched, hupsert, heq⟩ := Option.map_eq_some_iff.mp hmap
      cases heq
      have hgone : Ends s (s.withoutCurrent now left) := ends_invalidation rfl
      have hchecks : ChecksOnly environment (s.withoutCurrent now left) given :=
        checksOnly_of_writeCheck hgiven
      have hleftSettled := (hsettled.withoutCurrent hmem hcurrent).of_checksOnly hchecks
      exact (hgone.trans (ends_of_eq hchecks.attempts)).trans
        (ends_of_eq (hleftSettled.upsertRevision hupsert).2.attempts)
    · cases h
      exact ends_of_eq rfl

theorem ends_applySnapshot {payload : VerifiedSnapshot} {reactivates reactivated : Bool}
    (h : s.applySnapshot environment now payload reactivates reactivated revisionId = some t) :
    Ends s t := by
  unfold applySnapshot at h
  dsimp only at h
  have hclosed : Ends s
      (if payload.action = .closed then s.invalidateAttempts now revisionId else s) := by
    split
    · exact ends_invalidation rfl
    · exact ends_of_eq rfl
  generalize (if payload.action = .closed then s.invalidateAttempts now revisionId else s) =
    closed at hclosed h
  have hawake : Ends s
      (if reactivates then closed.reactivateInactive now revisionId payload.headSha
        else closed) := by
    split
    · have hchecks : ChecksOnly environment closed
          (closed.reactivateInactive now revisionId payload.headSha) :=
        checksOnly_reactivateInactive
      exact hclosed.trans (ends_of_eq hchecks.attempts)
    · exact hclosed
  split at h
  · exact hawake.trans (ends_of_eq (checksOnly_of_writeCheck h).attempts)
  · cases h
    exact hawake

theorem ends_snapshot {payload : VerifiedSnapshot} {new : JsString} {reactivates fails : Bool}
    (hkept : Kept environment s)
    (h : s.processSnapshot environment now payload new reactivates fails = some t) : Ends s t := by
  obtain ⟨switched, applied, id, reactivated, hswitch, happly, rfl⟩ := processSnapshot_eq_some h
  have hseen : Settled environment { s with state := some payload.state }
      (s.committed.getLast?.map CommittedSnapshot.pair) :=
    ⟨hkept.settled.pairs, hkept.settled.revisionIds, hkept.settled.isCurrent, hkept.settled.known,
      hkept.settled.live, hkept.settled.single, hkept.settled.ids, hkept.settled.checks⟩
  have hstart : Ends s { s with state := some payload.state } := ends_of_eq rfl
  exact ((hstart.trans (ends_switchRevision hseen hswitch)).trans
    (ends_applySnapshot happly)).trans (ends_of_eq rfl)

/-- A snapshot whose action is `closed` only when its state is. -/
theorem Finished.snapshot {payload : VerifiedSnapshot} {new : JsString}
    {reactivates fails : Bool} (h : Finished authorId s) (hkept : Kept environment s)
    (hhash : CollisionFree environment.sha256)
    (hregular : payload.action = .closed → payload.state = .closed)
    (hnext : s.processSnapshot environment now payload new reactivates fails = some t) :
    Finished authorId t := by
  obtain ⟨hafter, -, hcommitted, -, hsuccess⟩ := hkept.snapshot hnext
  have hends := ends_snapshot hkept hnext
  refine ⟨fun attempt hmem => ?_, fun attempt hmem hhas => ?_, fun hopen => ?_⟩
  · obtain ⟨before, hbefore, -, hauthor, -⟩ := hends attempt hmem
    exact hauthor.trans (h.author before hbefore)
  · obtain ⟨before, hbefore, hrevision, -, rfl | hinvalidated⟩ := hends attempt hmem
    · refine h.ended attempt hbefore (hasPassed_eq_true.mpr ?_)
      obtain ⟨passed, hpassedMem, hpassedRevision, hpassed⟩ := hasPassed_eq_true.mp hhas
      obtain ⟨found, hfound, -, -, rfl | hinvalidated⟩ := hends passed hpassedMem
      · exact ⟨passed, hfound, hpassedRevision, hpassed⟩
      · exact nomatch hpassed.symm.trans hinvalidated
    · rw [hinvalidated]
      rfl
  · rw [hafter.state, hcommitted, List.getLast?_concat] at hopen
    refine hsuccess hhash fun hclosed => ?_
    have hstate := hregular hclosed
    rw [Option.map_some, hstate] at hopen
    cases hopen

omit [DecidableEq Digest] in
theorem isLive_of_allowed {a b : AttemptStatus} (h : b ∈ allowedAttemptTransitions a) :
    isLive a = true := by
  revert h
  cases a <;> simp [isLive, allowedAttemptTransitions]

omit [DecidableEq Digest] in
/-- After a transition of a live attempt, a revision has a passed attempt when it had one, or when
the attempt is its and passes. -/
theorem hasPassed_of_moved {status : AttemptStatus} (hmem : attempt ∈ s.attempts)
    (hlive : isLive attempt.status = true)
    (hids : (s.attempts.map Attempt.id).Nodup)
    (h : t.attempts = s.attempts.map (moved now attempt.id status)) :
    t.hasPassed revisionId = true ↔ s.hasPassed revisionId = true ∨
      attempt.revisionId = revisionId ∧ status = .passed := by
  rw [hasPassed_eq_true, hasPassed_eq_true, h]
  constructor
  · rintro ⟨after, hafter, hrevision, hpassed⟩
    obtain ⟨before, hbefore, rfl⟩ := List.mem_map.mp hafter
    unfold moved at hrevision hpassed
    split at hpassed
    · next hsame =>
      obtain rfl := List.inj_on_of_nodup_map hids hbefore hmem hsame
      rw [if_pos rfl] at hrevision
      exact .inr ⟨hrevision, hpassed⟩
    · next hother =>
      rw [if_neg hother] at hrevision
      exact .inl ⟨before, hbefore, hrevision, hpassed⟩
  · rintro (⟨before, hbefore, hrevision, hpassed⟩ | ⟨hrevision, hpassed⟩)
    · refine ⟨moved now attempt.id status before, List.mem_map_of_mem hbefore, ?_⟩
      have hother : before.id ≠ attempt.id := by
        intro hsame
        obtain rfl := List.inj_on_of_nodup_map hids hbefore hmem hsame
        rw [hpassed] at hlive
        cases hlive
      unfold moved
      rw [if_neg hother]
      exact ⟨hrevision, hpassed⟩
    · refine ⟨moved now attempt.id status attempt, List.mem_map_of_mem hmem, ?_⟩
      unfold moved
      rw [if_pos rfl]
      exact ⟨hrevision, hpassed⟩

/-- A transition with an intent of the attempt's revision, which is a success when the attempt
passes. -/
theorem Finished.transition {status : AttemptStatus} {intent : Option GithubCheckIntent}
    {current : Option (JsString × JsString)} (h : Finished authorId s)
    (hsettled : Settled environment s current) (hhash : CollisionFree environment.sha256)
    (hmem : attempt ∈ s.attempts)
    (hrevision : ∀ written, intent = some written → written.revisionId = attempt.revisionId)
    (hpass : status = .passed → ∃ written, intent = some written ∧
      written.reason ≠ .analysisReady ∧ written.status = .completed ∧
      written.conclusion = some .success)
    (hnext : s.transition environment now attempt.id status intent = some t) :
    Finished authorId t := by
  unfold PullRequestRows.transition at hnext
  split at hnext
  · next hall =>
    have hallowed : status ∈ allowedAttemptTransitions attempt.status := by
      have hattempt := List.all_eq_true.mp hall attempt hmem
      simpa using hattempt
    have hlive := isLive_of_allowed hallowed
    have hunpassed : s.hasPassed attempt.revisionId = false := by
      by_contra hhas
      exact nomatch (h.ended attempt hmem (Bool.not_eq_false _ ▸ hhas)).symm.trans hlive
    have hwinds : Winds s.attempts (s.attempts.map (moved now attempt.id status))
        (moved now attempt.id status) := winds_moved hall
    have hwritten : t.attempts = s.attempts.map (moved now attempt.id status) ∧
        Aside attempt.revisionId s t ∧ (status = .passed → t.ShowsSuccess attempt.revisionId) := by
      dsimp only at hnext
      split at hnext
      · next hnone =>
        cases hnext
        refine ⟨rfl, ⟨rfl, rfl, fun _ _ => rfl⟩, fun hpassed => ?_⟩
        obtain ⟨written, hsome, -⟩ := hpass hpassed
        cases hsome
      · next written =>
        have hchecks := checksOnly_of_writeCheck hnext
        have haside := aside_of_writeCheck hnext
        rw [hrevision written rfl] at haside
        refine ⟨hchecks.attempts, ⟨haside.revisions, haside.state, haside.checkRuns⟩,
          fun hpassed => ?_⟩
        obtain ⟨other, hsome, hreason, hstatus, hconclusion⟩ := hpass hpassed
        obtain rfl := Option.some_inj.mp hsome
        obtain ⟨revision, advanced, write, hwrite, rfl⟩ := writeCheck_eq_some hnext
        have hrow := written_of_persist hwrite hhash
          (fun row hrow => hsettled.checks _ row hrow) hreason
        rw [← hrevision written rfl]
        exact ⟨write.row, Table.set_self, hrow.1.trans hstatus, hrow.2.trans hconclusion⟩
    obtain ⟨hattempts, haside, hshows⟩ := hwritten
    have hhas : ∀ {other}, t.hasPassed other = true ↔ s.hasPassed other = true ∨
        attempt.revisionId = other ∧ status = .passed :=
      hasPassed_of_moved hmem hlive hsettled.ids hattempts
    refine ⟨fun after hafter => ?_, fun after hafter hpassed => ?_,
      fun hopen revision hrevisionMem hcurrent hpassed => ?_⟩
    · rw [hattempts] at hafter
      obtain ⟨before, hbefore, rfl⟩ := List.mem_map.mp hafter
      exact (hwinds.follows before hbefore).authorId.trans (h.author before hbefore)
    · by_contra hafterLive
      rw [Bool.not_eq_false] at hafterLive
      obtain ⟨before, hbefore, hwas, rfl, hfollows⟩ :=
        hwinds.live (hattempts ▸ hafter) hafterLive
      rw [hfollows.revisionId] at hpassed
      rcases hhas.mp hpassed with hbeforePassed | ⟨hsame, hstatus⟩
      · exact nomatch (h.ended before hbefore hbeforePassed).symm.trans hwas
      · -- the live attempt of the revision is the one that has passed
        have heq := hsettled.single attempt hmem before hbefore hlive hwas hsame
          ((h.author attempt hmem).trans (h.author before hbefore).symm)
        subst heq hstatus
        unfold moved at hafterLive
        rw [if_pos rfl] at hafterLive
        cases hafterLive
    · rw [haside.revisions] at hrevisionMem
      rw [haside.state] at hopen
      rcases hhas.mp hpassed with hbefore | ⟨hsame, hstatus⟩
      · have hother : revision.id ≠ attempt.revisionId := by
          intro hsame
          rw [hsame, hunpassed] at hbefore
          cases hbefore
        obtain ⟨row, hrow, hrest⟩ := h.success hopen revision hrevisionMem hcurrent hbefore
        exact ⟨row, (haside.checkRuns _ hother).trans hrow, hrest⟩
      · exact hsame ▸ hshows hstatus
  · cases hnext

end Steps

end PullRequestRows

end Github

end UnderstandProof
