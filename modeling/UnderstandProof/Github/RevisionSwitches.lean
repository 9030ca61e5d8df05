import UnderstandProof.Github.PullRequestRuns

/-!
# What becomes of the revisions

Only a snapshot writes the revisions of a pull request. Each of them keeps its head and its base.
The current one is left by a snapshot of another pair, and its time of invalidation is then the
one at which the transaction of the snapshot has begun.
-/

open Foundation

namespace UnderstandProof

namespace Github

open Domain (Timestamp)
open Db (GithubCheckIntent)

/-- When the transaction has begun that leaves the revision, if an event is one. -/
def leavesAt (revision : PullRequestRevision) : RevisionEvent → Option Timestamp
  | .snapshot now payload _ _ _ =>
      if revision.pair = (payload.headSha, payload.baseSha) then none else some now
  | _ => none

namespace PullRequestRows

/-- What a revision is after an event. -/
structure RevisionKept (event : RevisionEvent) (revision revision' : PullRequestRevision) :
    Prop where
  pair : revision'.pair = revision.pair
  left : revision.isCurrent = true → revision'.isCurrent = false →
    ∃ now, leavesAt revision event = some now ∧ revision'.invalidatedAt = some now

theorem revisionKept_refl {event : RevisionEvent} {revision : PullRequestRevision} :
    RevisionKept event revision revision :=
  ⟨rfl, fun hcurrent hnot => (nomatch hcurrent.symm.trans hnot)⟩

variable {Digest : Type} {environment : RevisionEnvironment Digest} {s t : PullRequestRows Digest}
  {now : Timestamp} {revisionId : JsString} {revision : PullRequestRevision}

theorem findRevision_of_eq (h : t.revisions = s.revisions) :
    t.findRevision revisionId = s.findRevision revisionId := by
  unfold findRevision
  rw [h]

/-- A change that keeps the identifiers is found where the revision was. -/
theorem findRevision_map {change : PullRequestRevision → PullRequestRevision}
    (hid : ∀ revision, (change revision).id = revision.id)
    (hrows : t.revisions = s.revisions.map change) :
    t.findRevision revisionId = (s.findRevision revisionId).map change := by
  unfold findRevision
  rw [hrows, List.find?_map]
  congr 2
  funext revision
  rw [Function.comp_apply, hid]

theorem reactivated_of_not_current {headSha baseSha : JsString}
    (h : (reactivated headSha baseSha revision).isCurrent = false) :
    reactivated headSha baseSha revision = revision ∧ revision.pair ≠ (headSha, baseSha) := by
  unfold reactivated at h ⊢
  split at h
  · cases h
  · next hother =>
    exact ⟨if_neg hother, fun hpair => hother (Prod.mk.injEq .. ▸ hpair)⟩

theorem upsertRevision_findRevision {headSha baseSha new id : JsString}
    (h : s.upsertRevision headSha baseSha new = some (t, id))
    (hfind : s.findRevision revisionId = some revision) :
    t.findRevision revisionId = some (reactivated headSha baseSha revision) := by
  unfold upsertRevision at h
  split at h
  · cases h
    have hmap : ({ s with revisions := s.revisions.map (reactivated headSha baseSha) } :
        PullRequestRows Digest).findRevision revisionId =
        (s.findRevision revisionId).map (reactivated headSha baseSha) :=
      findRevision_map (fun _ => reactivated_id) rfl
    rw [hfind, Option.map_some] at hmap
    exact hmap
  · next hnone =>
    split at h
    · cases h
      have hother := List.find?_eq_none.mp hnone revision (findRevision_eq_some hfind).1
      unfold reactivated
      rw [if_neg (by simpa using hother)]
      unfold findRevision at hfind ⊢
      rw [List.find?_append, hfind, Option.some_or]
    · cases h

variable [DecidableEq Digest]

/-- A snapshot that switches leaves the current revision, unless it is of its pair. -/
theorem switchRevision_revision {payload : VerifiedSnapshot} {new id : JsString}
    {reactivated fails : Bool} {reactivates : Bool}
    (h : s.switchRevision environment now payload new = some (t, id, reactivated))
    (hfind : s.findRevision revisionId = some revision) :
    ∃ revision', t.findRevision revisionId = some revision' ∧
      RevisionKept (.snapshot now payload new reactivates fails) revision revision' := by
  unfold switchRevision at h
  split at h
  · obtain ⟨switched, hupsert, heq⟩ := Option.map_eq_some_iff.mp h
    cases heq
    refine ⟨_, upsertRevision_findRevision hupsert hfind, reactivated_pair, fun hcurrent hnot => ?_⟩
    rw [(reactivated_of_not_current hnot).1] at hnot
    exact nomatch hcurrent.symm.trans hnot
  · next current hcurrent =>
    split at h
    · obtain ⟨left, hleft, hmap⟩ := Option.bind_eq_some_iff.mp h
      obtain ⟨switched, hupsert, heq⟩ := Option.map_eq_some_iff.mp hmap
      cases heq
      have hrows := (checksOnly_of_writeCheck hleft).revisions
      have hgone : left.findRevision revisionId =
          (s.findRevision revisionId).map fun revision =>
            if revision.id = current.id then
              { revision with isCurrent := false, invalidatedAt := some now }
            else revision :=
        findRevision_map (fun revision => by split <;> rfl) hrows
      rw [hfind, Option.map_some] at hgone
      by_cases hid : revision.id = current.id
      · rw [if_pos hid] at hgone
        refine ⟨_, upsertRevision_findRevision hupsert hgone, reactivated_pair, fun _ hnot => ?_⟩
        obtain ⟨hsame, hother⟩ := reactivated_of_not_current hnot
        exact ⟨now, if_neg hother, by rw [hsame]⟩
      · rw [if_neg hid] at hgone
        refine ⟨_, upsertRevision_findRevision hupsert hgone, reactivated_pair, fun hwas hnot => ?_⟩
        rw [(reactivated_of_not_current hnot).1] at hnot
        exact nomatch hwas.symm.trans hnot
    · cases h
      exact ⟨revision, hfind, revisionKept_refl⟩

/-! ## The other transactions -/

omit [DecidableEq Digest] in
theorem insertProofPlan_revisions {planId : JsString} :
    (s.insertProofPlan planId revisionId).revisions = s.revisions := by
  unfold insertProofPlan
  split <;> rfl

omit [DecidableEq Digest] in
theorem insertAttempt_revisions {attempt : Attempt} (h : s.insertAttempt attempt = some t) :
    t.revisions = s.revisions := by
  obtain ⟨rfl, -⟩ := insertAttempt_eq_some h
  rfl

theorem persistProofPlan_revisions {run : SemanticRun} {bindingActive fails : Bool}
    (h : s.persistProofPlanAndCreateAttempt environment now run bindingActive fails = some t) :
    t.revisions = s.revisions := by
  unfold persistProofPlanAndCreateAttempt at h
  split at h
  · cases h
  · split at h
    · cases h
      rfl
    · split at h
      · cases h
      · obtain ⟨created, hcreated, hwrite⟩ := Option.bind_eq_some_iff.mp h
        exact ((checksOnly_of_writeCheck hwrite).revisions.trans
          (insertAttempt_revisions hcreated)).trans insertProofPlan_revisions

theorem prepareRevision_revisions {run : SemanticRun} {fails : Bool}
    (h : s.prepareRevision environment now run fails = some t) : t.revisions = s.revisions := by
  unfold prepareRevision at h
  split at h
  · cases h
  · next current hcurrent =>
    have hplanned : (s.insertProofPlan run.planId current.id).revisions = s.revisions :=
      insertProofPlan_revisions
    split at h
    · cases h
    · dsimp only at h
      split at h
      · cases h
        exact hplanned
      · next prepared hprepared =>
        obtain ⟨created, hcreated, hwrite⟩ := Option.bind_eq_some_iff.mp h
        refine ((checksOnly_of_writeCheck hwrite).revisions.trans ?_).trans hplanned
        subst hcreated
        unfold prepareAttempt at hprepared
        split at hprepared
        · cases hprepared
          rfl
        · split at hprepared
          · cases hprepared
          · dsimp only at hprepared
            split at hprepared
            · cases hprepared
              rfl
            · exact insertAttempt_revisions (Option.some_inj.mp hprepared)

theorem createReplacement_revisions {sourceAttemptId expectedHeadSha idempotencyKey : JsString}
    {authorized fails : Bool} {result : ReplacementResult}
    (h : s.createReplacementAttempt environment now sourceAttemptId expectedHeadSha idempotencyKey
      authorized fails = some (t, result)) : t.revisions = s.revisions := by
  unfold createReplacementAttempt at h
  split at h
  · cases h
  · split at h
    · cases h
    · split at h
      · cases h
        rfl
      · dsimp only at h
        split at h
        · split at h
          · cases h
          · cases h
            rfl
        · split at h
          · cases h
          · obtain ⟨written, hbind, heq⟩ := Option.map_eq_some_iff.mp h
            cases heq
            obtain ⟨created, hcreated, hwrite⟩ := Option.bind_eq_some_iff.mp hbind
            exact (checksOnly_of_writeCheck hwrite).revisions.trans
              (insertAttempt_revisions hcreated)

theorem transition_revisions {attemptId : JsString} {status : Domain.AttemptStatus}
    {intent : Option GithubCheckIntent}
    (h : s.transition environment now attemptId status intent = some t) :
    t.revisions = s.revisions := by
  unfold transition at h
  split at h
  · dsimp only at h
    split at h
    · cases h
      rfl
    · exact (checksOnly_of_writeCheck h).revisions
  · cases h

/-- What a revision is after any event. -/
theorem Kept.findRevision {event : RevisionEvent} (h : Kept environment s)
    (hnext : s.next environment event = some t)
    (hfind : s.findRevision revisionId = some revision) :
    ∃ revision', t.findRevision revisionId = some revision' ∧
      RevisionKept event revision revision' := by
  cases event with
  | snapshot now payload new reactivates fails =>
      obtain ⟨switched, applied, id, reactivated, hswitch, happly, rfl⟩ :=
        processSnapshot_eq_some hnext
      have hseen : Settled environment { s with state := some payload.state }
          (s.committed.getLast?.map CommittedSnapshot.pair) :=
        ⟨h.settled.pairs, h.settled.revisionIds, h.settled.isCurrent, h.settled.known,
          h.settled.live, h.settled.single, h.settled.ids, h.settled.checks⟩
      have happlied := applied_of_applySnapshot (hseen.switchRevision hswitch).revision happly
      obtain ⟨revision', hfind', hkept⟩ := switchRevision_revision hswitch
        ((findRevision_of_eq rfl).trans hfind)
      exact ⟨revision', (findRevision_of_eq happlied.revisions).trans hfind', hkept⟩
  | persistProofPlan now run bindingActive fails =>
      exact ⟨revision, (findRevision_of_eq (persistProofPlan_revisions hnext)).trans hfind,
        revisionKept_refl⟩
  | prepareRevision now run fails =>
      exact ⟨revision, (findRevision_of_eq (prepareRevision_revisions hnext)).trans hfind,
        revisionKept_refl⟩
  | createReplacement now sourceAttemptId expectedHeadSha idempotencyKey authorized fails =>
      obtain ⟨⟨u, result⟩, hcreate, rfl⟩ := Option.map_eq_some_iff.mp hnext
      exact ⟨revision, (findRevision_of_eq (createReplacement_revisions hcreate)).trans hfind,
        revisionKept_refl⟩
  | transition now attemptId status intent =>
      exact ⟨revision, (findRevision_of_eq (transition_revisions hnext)).trans hfind,
        revisionKept_refl⟩

end PullRequestRows

end Github

end UnderstandProof
