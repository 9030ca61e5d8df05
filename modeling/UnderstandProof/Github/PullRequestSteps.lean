import UnderstandProof.Db.GithubCheckSafety
import UnderstandProof.Github.PullRequestRevisions

/-!
# What the statements on a pull request keep

At every time at most one pair of a head and a base is current, no two revisions have one
pair, the live attempts are on the current revision, and the check rows hold the intents that
were written to them. Each statement of a transaction keeps this, with the pair that it
leaves current.
-/

open Foundation

namespace UnderstandProof

namespace Github

open Domain (AttemptStatus Timestamp allowedAttemptTransitions)
open Db (CheckRun CheckRevision GithubCheckIntent IntentWrite insertedCheckRun
  overwrittenCheckRun persistGithubCheckIntent persistGithubCheckIntent_eq_ok
  reactivateInactiveGithubCheckIntent)
open Db.CheckSync (CollisionFree bound_of_hash RowKeeps rowKeeps_requestAgain)

/-- The head and the base of a revision. -/
def PullRequestRevision.pair (revision : PullRequestRevision) : JsString × JsString :=
  (revision.headSha, revision.baseSha)

namespace PullRequestRows

variable {Digest : Type} {environment : RevisionEnvironment Digest}
  {s t : PullRequestRows Digest} {current : Option (JsString × JsString)} {now : Timestamp}
  {revisionId headSha baseSha : JsString} {attempt : Attempt}

/-- What holds of the rows while one pair, or none, is current. -/
structure Settled (environment : RevisionEnvironment Digest) (s : PullRequestRows Digest)
    (current : Option (JsString × JsString)) : Prop where
  pairs : (s.revisions.map PullRequestRevision.pair).Nodup
  revisionIds : (s.revisions.map PullRequestRevision.id).Nodup
  isCurrent : ∀ revision ∈ s.revisions, (revision.isCurrent = true ↔ current = some revision.pair)
  known : ∀ pair, current = some pair → ∃ revision ∈ s.revisions, revision.pair = pair
  live : ∀ attempt ∈ s.attempts, isLive attempt.status = true →
    ∃ revision ∈ s.revisions, revision.isCurrent = true ∧ revision.id = attempt.revisionId
  single : ∀ attempt ∈ s.attempts, ∀ other ∈ s.attempts, isLive attempt.status = true →
    isLive other.status = true → attempt.revisionId = other.revisionId →
    attempt.authorId = other.authorId → attempt = other
  ids : (s.attempts.map Attempt.id).Nodup
  checks : ∀ revisionId row, s.checkRuns revisionId = some row → row.Bound environment.sha256

theorem settled_start : Settled environment (start : PullRequestRows Digest) none where
  pairs := List.nodup_nil
  revisionIds := List.nodup_nil
  isCurrent := fun _ hmem => nomatch hmem
  known := fun _ h => nomatch h
  live := fun _ hmem => nomatch hmem
  single := fun _ hmem => nomatch hmem
  ids := List.nodup_nil
  checks := fun _ _ h => nomatch h

/-- Two revisions with one pair are one. -/
theorem Settled.eq_of_pair (h : Settled environment s current) {a b : PullRequestRevision}
    (ha : a ∈ s.revisions) (hb : b ∈ s.revisions) (hpair : a.pair = b.pair) : a = b :=
  List.inj_on_of_nodup_map h.pairs ha hb hpair

/-- Two current revisions are one. -/
theorem Settled.eq_of_isCurrent (h : Settled environment s current) {a b : PullRequestRevision}
    (ha : a ∈ s.revisions) (hb : b ∈ s.revisions) (hca : a.isCurrent = true)
    (hcb : b.isCurrent = true) : a = b :=
  h.eq_of_pair ha hb
    (Option.some_inj.mp (((h.isCurrent a ha).mp hca).symm.trans ((h.isCurrent b hb).mp hcb)))

/-! ## Checks -/

/-- A step that writes check rows only. -/
structure ChecksOnly (environment : RevisionEnvironment Digest)
    (s t : PullRequestRows Digest) : Prop where
  state : t.state = s.state
  revisions : t.revisions = s.revisions
  attempts : t.attempts = s.attempts
  committed : t.committed = s.committed
  checks : (∀ revisionId row, s.checkRuns revisionId = some row → row.Bound environment.sha256) →
    ∀ revisionId row, t.checkRuns revisionId = some row → row.Bound environment.sha256

theorem Settled.of_checksOnly (h : Settled environment s current)
    (hsame : ChecksOnly environment s t) : Settled environment t current where
  pairs := hsame.revisions ▸ h.pairs
  revisionIds := hsame.revisions ▸ h.revisionIds
  isCurrent := hsame.revisions ▸ h.isCurrent
  known := hsame.revisions ▸ h.known
  live := by
    rw [hsame.revisions, hsame.attempts]
    exact h.live
  single := hsame.attempts ▸ h.single
  ids := hsame.attempts ▸ h.ids
  checks := hsame.checks h.checks

section Checks

variable {sha256 : List UInt8 → Digest} {row : CheckRun Digest} {intent : GithubCheckIntent}

theorem checks_set {checkRuns : Table JsString (CheckRun Digest)}
    (h : ∀ revisionId row, checkRuns revisionId = some row → row.Bound sha256)
    (hrow : row.Bound sha256) :
    ∀ other row', checkRuns.set revisionId row other = some row' → row'.Bound sha256 := by
  intro other row' hrow'
  rw [Table.set_apply] at hrow'
  split at hrow'
  · exact Option.some_inj.mp hrow' ▸ hrow
  · exact h other row' hrow'

variable [DecidableEq Digest]

/-- The row that an intent transaction leaves holds an intent. -/
theorem bound_of_persist {revision : CheckRevision} {advanced : Bool}
    {stored : Option (CheckRun Digest)} {write : IntentWrite Digest}
    (h : persistGithubCheckIntent sha256 now revision advanced stored intent = .ok write)
    (hstored : ∀ row, stored = some row → row.Bound sha256) : write.row.Bound sha256 := by
  obtain ⟨-, -, ⟨row, hrow, -, hsame, -⟩ | ⟨row, hrow, -, hsame, -⟩ |
    ⟨-, -, ⟨-, hsame⟩ | ⟨row, -, hsame, -⟩⟩⟩ := persistGithubCheckIntent_eq_ok h
  · exact hsame ▸ hstored row hrow
  · rcases hsame with hsame | hsame
    · exact hsame ▸ hstored row hrow
    · have hkeeps : RowKeeps row (row.requestAgain now) := rowKeeps_requestAgain
      rw [hsame]
      exact (hstored row hrow).of_same hkeeps.same (hkeeps.retry (hstored row hrow).retry)
  · rw [hsame]
    exact ⟨⟨intent, rfl, rfl, rfl, rfl⟩, rfl, fun hne => absurd rfl hne⟩
  · rw [hsame]
    exact ⟨⟨intent, rfl, rfl, rfl, rfl⟩, rfl, fun hne => absurd rfl hne⟩

/-- After an intent that no later one supersedes, the row has its status and conclusion. -/
theorem written_of_persist {revision : CheckRevision} {advanced : Bool}
    {stored : Option (CheckRun Digest)} {write : IntentWrite Digest}
    (h : persistGithubCheckIntent sha256 now revision advanced stored intent = .ok write)
    (hhash : CollisionFree sha256) (hstored : ∀ row, stored = some row → row.Bound sha256)
    (hreason : intent.reason ≠ .analysisReady) :
    write.row.status = intent.status ∧ write.row.conclusion = intent.conclusion := by
  obtain ⟨-, -, ⟨row, hrow, hanalysis, -⟩ | ⟨row, hrow, hdigest, hsame, -⟩ |
    ⟨-, -, ⟨-, hsame⟩ | ⟨row, -, hsame, -⟩⟩⟩ := persistGithubCheckIntent_eq_ok h
  · exact absurd hanalysis hreason
  · have hbound := bound_of_hash hhash (hstored row hrow) hdigest
    rcases hsame with hsame | hsame
    · exact hsame ▸ hbound.2
    · rw [hsame]
      exact hbound.2
  · rw [hsame]
    exact ⟨rfl, rfl⟩
  · rw [hsame]
    exact ⟨rfl, rfl⟩

theorem writeCheck_eq_some (h : s.writeCheck environment now intent = some t) :
    ∃ revision advanced write,
      persistGithubCheckIntent environment.sha256 now revision advanced
        (s.checkRuns intent.revisionId) intent = .ok write ∧
      t = { s with checkRuns := s.checkRuns.set intent.revisionId write.row } := by
  unfold writeCheck at h
  split at h
  · cases h
  · split at h
    · cases h
    · next write hwrite =>
      split at h
      · cases h
      · cases h
        exact ⟨_, _, write, hwrite, rfl⟩

theorem checksOnly_of_writeCheck (h : s.writeCheck environment now intent = some t) :
    ChecksOnly environment s t := by
  obtain ⟨revision, advanced, write, hwrite, rfl⟩ := writeCheck_eq_some h
  exact ⟨rfl, rfl, rfl, rfl, fun hchecks =>
    checks_set hchecks (bound_of_persist hwrite fun row hrow => hchecks _ row hrow)⟩

omit [DecidableEq Digest] in
theorem checksOnly_reactivateInactive :
    ChecksOnly environment s (s.reactivateInactive now revisionId headSha) := by
  unfold reactivateInactive
  split
  · next revision row hrevision hrow =>
    split
    · next row' hrow' =>
      refine ⟨rfl, rfl, rfl, rfl, fun hchecks => checks_set hchecks ?_⟩
      unfold reactivateInactiveGithubCheckIntent at hrow'
      split at hrow'
      · cases hrow'
        have hkeeps : RowKeeps row (row.requestAgain now) := rowKeeps_requestAgain
        have hbound := hchecks revisionId row hrow
        exact hbound.of_same hkeeps.same (hkeeps.retry hbound.retry)
      · cases hrow'
    · exact ⟨rfl, rfl, rfl, rfl, id⟩
  · exact ⟨rfl, rfl, rfl, rfl, id⟩

end Checks

/-! ## Attempts -/

/-- What an attempt becomes: it keeps what it is bound to, and stays as it is when it is not
live. -/
structure Follows (attempt attempt' : Attempt) : Prop where
  id : attempt'.id = attempt.id
  revisionId : attempt'.revisionId = attempt.revisionId
  authorId : attempt'.authorId = attempt.authorId
  headSha : attempt'.headSha = attempt.headSha
  ended : isLive attempt.status = false → attempt' = attempt

theorem follows_refl : Follows attempt attempt := ⟨rfl, rfl, rfl, rfl, fun _ => rfl⟩

theorem Follows.trans {a b c : Attempt} (h : Follows a b) (h' : Follows b c) : Follows a c where
  id := h'.id.trans h.id
  revisionId := h'.revisionId.trans h.revisionId
  authorId := h'.authorId.trans h.authorId
  headSha := h'.headSha.trans h.headSha
  ended := by
    intro hended
    obtain rfl := h.ended hended
    exact h'.ended hended

/-- The attempts become others, one by one. -/
structure Winds (attempts attempts' : List Attempt) (change : Attempt → Attempt) : Prop where
  eq : attempts' = attempts.map change
  follows : ∀ attempt ∈ attempts, Follows attempt (change attempt)

theorem Winds.ids {attempts attempts' : List Attempt} {change : Attempt → Attempt}
    (h : Winds attempts attempts' change) (hids : (attempts.map Attempt.id).Nodup) :
    (attempts'.map Attempt.id).Nodup := by
  have hsame : (attempts.map change).map Attempt.id = attempts.map Attempt.id := by
    rw [List.map_map]
    exact List.map_congr_left fun attempt hmem => (h.follows attempt hmem).id
  rw [h.eq, hsame]
  exact hids

/-- A live attempt was live before. -/
theorem Winds.live {attempts attempts' : List Attempt} {change : Attempt → Attempt}
    (h : Winds attempts attempts' change) (hmem : attempt ∈ attempts')
    (hlive : isLive attempt.status = true) :
    ∃ before ∈ attempts, isLive before.status = true ∧ change before = attempt ∧
      Follows before attempt := by
  rw [h.eq] at hmem
  obtain ⟨before, hbefore, rfl⟩ := List.mem_map.mp hmem
  refine ⟨before, hbefore, ?_, rfl, h.follows before hbefore⟩
  by_contra hended
  rw [(h.follows before hbefore).ended (Bool.not_eq_true _ ▸ hended)] at hlive
  exact hended hlive

theorem Winds.single {attempts attempts' : List Attempt} {change : Attempt → Attempt}
    (h : Winds attempts attempts' change)
    (hsingle : ∀ attempt ∈ attempts, ∀ other ∈ attempts, isLive attempt.status = true →
      isLive other.status = true → attempt.revisionId = other.revisionId →
      attempt.authorId = other.authorId → attempt = other) :
    ∀ attempt ∈ attempts', ∀ other ∈ attempts', isLive attempt.status = true →
      isLive other.status = true → attempt.revisionId = other.revisionId →
      attempt.authorId = other.authorId → attempt = other := by
  intro attempt hmem other hother hlive hotherLive hrevision hauthor
  obtain ⟨a, ha, hwas, rfl, hfollows⟩ := h.live hmem hlive
  obtain ⟨b, hb, hotherWas, rfl, hotherFollows⟩ := h.live hother hotherLive
  rw [hfollows.revisionId, hotherFollows.revisionId] at hrevision
  rw [hfollows.authorId, hotherFollows.authorId] at hauthor
  rw [hsingle a ha b hb hwas hotherWas hrevision hauthor]

/-- The change of `invalidateAttempts`. -/
def invalidation (now : Timestamp) (revisionId : JsString) (attempt : Attempt) : Attempt :=
  if attempt.revisionId = revisionId ∧ isLive attempt.status then attempt.invalidate now
  else attempt

theorem winds_invalidation {attempts : List Attempt} :
    Winds attempts (attempts.map (invalidation now revisionId)) (invalidation now revisionId) where
  eq := rfl
  follows := by
    intro attempt _
    unfold invalidation
    split
    · next hlive => exact ⟨rfl, rfl, rfl, rfl, fun hended => by simp [hended] at hlive⟩
    · exact follows_refl

/-- A live attempt after the invalidation is on another revision. -/
theorem revisionId_ne_of_invalidation
    (hlive : isLive (invalidation now revisionId attempt).status = true) :
    attempt.revisionId ≠ revisionId := by
  intro hsame
  unfold invalidation at hlive
  split at hlive
  · cases hlive
  · next hkept => exact hkept ⟨hsame, hlive⟩

theorem Settled.invalidateAttempts (h : Settled environment s current) :
    Settled environment (s.invalidateAttempts now revisionId) current where
  pairs := h.pairs
  revisionIds := h.revisionIds
  isCurrent := h.isCurrent
  known := h.known
  live := by
    intro attempt hmem hlive
    obtain ⟨before, hbefore, hwas, -, hfollows⟩ := winds_invalidation.live hmem hlive
    obtain ⟨revision, hrevision, hcurrent, hid⟩ := h.live before hbefore hwas
    exact ⟨revision, hrevision, hcurrent, hid.trans hfollows.revisionId.symm⟩
  single := winds_invalidation.single h.single
  ids := winds_invalidation.ids h.ids
  checks := h.checks

/-- The invalidation of the current revision leaves no attempt live. -/
theorem not_live_of_invalidateAttempts (h : Settled environment s current)
    (hrevision : ∃ revision ∈ s.revisions, revision.isCurrent = true ∧ revision.id = revisionId) :
    ∀ attempt ∈ (s.invalidateAttempts now revisionId).attempts, isLive attempt.status = false := by
  intro attempt hmem
  by_contra hlive
  rw [Bool.not_eq_false] at hlive
  obtain ⟨before, hbefore, hwas, rfl, -⟩ := winds_invalidation.live hmem hlive
  obtain ⟨found, hfound, hcurrent, hid⟩ := h.live before hbefore hwas
  obtain ⟨revision, hmemRevision, hisCurrent, rfl⟩ := hrevision
  cases h.eq_of_isCurrent hfound hmemRevision hcurrent hisCurrent
  exact revisionId_ne_of_invalidation hlive hid.symm

theorem insertAttempt_eq_some (h : s.insertAttempt attempt = some t) :
    t = { s with attempts := s.attempts ++ [attempt] } ∧
      (∀ other ∈ s.attempts, other.id ≠ attempt.id) ∧
      ∀ other ∈ s.attempts, other.revisionId = attempt.revisionId →
        other.authorId = attempt.authorId → isLive other.status = false := by
  unfold insertAttempt at h
  split at h
  · next hguard =>
    obtain ⟨-, -, hall, hany, -⟩ := hguard
    cases h
    refine ⟨rfl, fun other hmem => ?_, fun other hmem hrevision hauthor => ?_⟩
    · simpa using List.all_eq_true.mp hall other hmem
    · have hnot := List.any_eq_false.mp hany other hmem
      simpa [Attempt.isOf, hrevision, hauthor] using hnot
  · cases h

/-- A new attempt is on the current revision. -/
theorem Settled.insertAttempt (h : Settled environment s current)
    (hinsert : s.insertAttempt attempt = some t)
    (hrevision : ∃ revision ∈ s.revisions, revision.isCurrent = true ∧
      revision.id = attempt.revisionId) : Settled environment t current := by
  obtain ⟨rfl, hnew, hsibling⟩ := insertAttempt_eq_some hinsert
  refine ⟨h.pairs, h.revisionIds, h.isCurrent, h.known, fun other hmem hlive => ?_, ?_, ?_, h.checks⟩
  · rcases List.mem_append.mp hmem with hmem | hmem
    · exact h.live other hmem hlive
    · cases List.mem_singleton.mp hmem
      exact hrevision
  · intro a ha b hb hlive hother hsame hauthor
    rcases List.mem_append.mp ha with ha | ha <;> rcases List.mem_append.mp hb with hb | hb
    · exact h.single a ha b hb hlive hother hsame hauthor
    · cases List.mem_singleton.mp hb
      exact nomatch (hsibling a ha hsame hauthor).symm.trans hlive
    · cases List.mem_singleton.mp ha
      exact nomatch (hsibling b hb hsame.symm hauthor.symm).symm.trans hother
    · rw [List.mem_singleton.mp ha, List.mem_singleton.mp hb]
  · rw [List.map_append]
    refine List.nodup_append.mpr ⟨h.ids, List.nodup_singleton _, fun id hid other hother => ?_⟩
    obtain ⟨found, hfound, rfl⟩ := List.mem_map.mp hid
    cases List.mem_singleton.mp hother
    exact hnew found hfound

theorem Settled.insertProofPlan (h : Settled environment s current) {planId : JsString} :
    Settled environment (s.insertProofPlan planId revisionId) current := by
  unfold PullRequestRows.insertProofPlan
  split
  · exact ⟨h.pairs, h.revisionIds, h.isCurrent, h.known, h.live, h.single, h.ids, h.checks⟩
  · exact h

/-! ## Revisions -/

theorem findRevision_eq_some {revision : PullRequestRevision}
    (h : s.findRevision revisionId = some revision) :
    revision ∈ s.revisions ∧ revision.id = revisionId :=
  ⟨List.mem_of_find?_eq_some h, by simpa using List.find?_some h⟩

theorem currentRevision_eq_some {revision : PullRequestRevision}
    (h : s.currentRevision = some revision) :
    revision ∈ s.revisions ∧ revision.isCurrent = true :=
  ⟨List.mem_of_find?_eq_some h, List.find?_some h⟩

/-- Without a current revision there is no current pair. -/
theorem Settled.none_of_currentRevision (h : Settled environment s current)
    (hnone : s.currentRevision = none) : Settled environment s none := by
  have hcurrent : current = none := by
    by_contra hsome
    obtain ⟨pair, rfl⟩ := Option.ne_none_iff_exists'.mp hsome
    obtain ⟨revision, hmem, hpair⟩ := h.known pair rfl
    have hisCurrent := (h.isCurrent revision hmem).mpr (by rw [hpair])
    exact List.find?_eq_none.mp hnone revision hmem hisCurrent
  exact hcurrent ▸ h

theorem Settled.some_of_currentRevision (h : Settled environment s current)
    {revision : PullRequestRevision} (hsome : s.currentRevision = some revision) :
    Settled environment s (some revision.pair) := by
  obtain ⟨hmem, hisCurrent⟩ := currentRevision_eq_some hsome
  exact (h.isCurrent revision hmem).mp hisCurrent ▸ h

/-- The rows after the current revision has given way, up to its check. -/
def withoutCurrent (now : Timestamp) (left : PullRequestRevision) (s : PullRequestRows Digest) :
    PullRequestRows Digest :=
  invalidateAttempts now left.id
    { s with
      revisions := s.revisions.map fun revision =>
        if revision.id = left.id then
          { revision with isCurrent := false, invalidatedAt := some now }
        else revision }

theorem Settled.withoutCurrent (h : Settled environment s current) {left : PullRequestRevision}
    (hleft : left ∈ s.revisions) (hisCurrent : left.isCurrent = true) :
    Settled environment (s.withoutCurrent now left) none := by
  have hnone : ∀ revision ∈ (s.withoutCurrent now left).revisions,
      revision.isCurrent = false := by
    intro revision hmem
    obtain ⟨before, hbefore, rfl⟩ := List.mem_map.mp hmem
    split
    · rfl
    · next hother =>
      by_contra hcurrent
      rw [Bool.not_eq_false] at hcurrent
      exact hother (congrArg _ (h.eq_of_isCurrent hbefore hleft hcurrent hisCurrent))
  have hpairs : (s.withoutCurrent now left).revisions.map PullRequestRevision.pair =
      s.revisions.map PullRequestRevision.pair := by
    unfold PullRequestRows.withoutCurrent PullRequestRows.invalidateAttempts
    rw [List.map_map]
    refine List.map_congr_left fun revision _ => ?_
    rw [Function.comp_apply]
    split <;> rfl
  have hids : (s.withoutCurrent now left).revisions.map PullRequestRevision.id =
      s.revisions.map PullRequestRevision.id := by
    unfold PullRequestRows.withoutCurrent PullRequestRows.invalidateAttempts
    rw [List.map_map]
    refine List.map_congr_left fun revision _ => ?_
    rw [Function.comp_apply]
    split <;> rfl
  refine ⟨hpairs ▸ h.pairs, hids ▸ h.revisionIds, fun revision hmem => ?_, fun _ hpair => ?_, fun attempt hmem hlive => ?_,
    winds_invalidation.single h.single, winds_invalidation.ids h.ids, h.checks⟩
  · simp [hnone revision hmem]
  · cases hpair
  · have hended : isLive attempt.status = false :=
      not_live_of_invalidateAttempts h ⟨left, hleft, hisCurrent, rfl⟩ attempt hmem
    rw [hended] at hlive
    cases hlive

/-- While nothing is current, no attempt is live. -/
theorem Settled.not_live (h : Settled environment s none) (hmem : attempt ∈ s.attempts) :
    isLive attempt.status = false := by
  by_contra hlive
  rw [Bool.not_eq_false] at hlive
  obtain ⟨revision, hrevision, hcurrent, -⟩ := h.live attempt hmem hlive
  cases (h.isCurrent revision hrevision).mp hcurrent

/-- What the upsert of a revision leaves, and the revision that is then current. -/
structure Upserted (s t : PullRequestRows Digest) (pair : JsString × JsString)
    (revisionId : JsString) : Prop where
  revision : ∃ revision ∈ t.revisions, revision.isCurrent = true ∧ revision.id = revisionId ∧
    revision.pair = pair
  attempts : t.attempts = s.attempts
  state : t.state = s.state
  committed : t.committed = s.committed

/-- The change of a reactivation. -/
def reactivated (headSha baseSha : JsString) (revision : PullRequestRevision) :
    PullRequestRevision :=
  if revision.headSha = headSha ∧ revision.baseSha = baseSha then
    { revision with isCurrent := true, invalidatedAt := none }
  else revision

theorem reactivated_pair {revision : PullRequestRevision} :
    (reactivated headSha baseSha revision).pair = revision.pair := by
  unfold reactivated
  split <;> rfl

theorem reactivated_id {revision : PullRequestRevision} :
    (reactivated headSha baseSha revision).id = revision.id := by
  unfold reactivated
  split <;> rfl

theorem reactivated_isCurrent {revision : PullRequestRevision}
    (h : revision.isCurrent = false) :
    (reactivated headSha baseSha revision).isCurrent = true ↔
      revision.pair = (headSha, baseSha) := by
  unfold reactivated PullRequestRevision.pair
  rw [Prod.mk.injEq]
  split
  · next hpair => simp [hpair]
  · next hpair => simp [hpair, h]

theorem Settled.reactivate (h : Settled environment s none)
    (hfound : ∃ revision ∈ s.revisions, revision.pair = (headSha, baseSha)) :
    Settled environment
      { s with revisions := s.revisions.map (reactivated headSha baseSha) }
      (some (headSha, baseSha)) := by
  have hended : ∀ revision ∈ s.revisions, revision.isCurrent = false := fun revision hmem => by
    simpa using h.isCurrent revision hmem
  refine ⟨?_, ?_, fun revision hmem => ?_, fun pair hpair => ?_, fun attempt hmem hlive => ?_,
    h.single, h.ids, h.checks⟩
  · have hpairs : (s.revisions.map (reactivated headSha baseSha)).map PullRequestRevision.pair =
        s.revisions.map PullRequestRevision.pair := by
      rw [List.map_map]
      exact List.map_congr_left fun revision _ => reactivated_pair
    exact hpairs ▸ h.pairs
  · have hids : (s.revisions.map (reactivated headSha baseSha)).map PullRequestRevision.id =
        s.revisions.map PullRequestRevision.id := by
      rw [List.map_map]
      exact List.map_congr_left fun revision _ => reactivated_id
    exact hids ▸ h.revisionIds
  · obtain ⟨before, hbefore, rfl⟩ := List.mem_map.mp hmem
    rw [reactivated_isCurrent (hended before hbefore), reactivated_pair, Option.some_inj, eq_comm]
  · cases hpair
    obtain ⟨revision, hmem, hpair⟩ := hfound
    exact ⟨_, List.mem_map_of_mem hmem, reactivated_pair.trans hpair⟩
  · rw [h.not_live hmem] at hlive
    cases hlive

theorem Settled.insertRevision (h : Settled environment s none)
    (hnew : ∀ revision ∈ s.revisions, revision.pair ≠ (headSha, baseSha))
    (hid : ∀ revision ∈ s.revisions, revision.id ≠ revisionId) :
    Settled environment
      { s with
        revisions := s.revisions ++
          [{ id := revisionId
             headSha := headSha
             baseSha := baseSha
             isCurrent := true
             invalidatedAt := none }] }
      (some (headSha, baseSha)) := by
  refine ⟨?_, ?_, fun revision hmem => ?_, fun pair hpair => ?_, fun attempt hmem hlive => ?_,
    h.single, h.ids, h.checks⟩
  · rw [List.map_append]
    refine List.nodup_append.mpr ⟨h.pairs, List.nodup_singleton _, fun pair hpair other hother => ?_⟩
    obtain ⟨revision, hmem, rfl⟩ := List.mem_map.mp hpair
    cases List.mem_singleton.mp hother
    exact hnew revision hmem
  · rw [List.map_append]
    refine List.nodup_append.mpr
      ⟨h.revisionIds, List.nodup_singleton _, fun id hold other hother => ?_⟩
    obtain ⟨revision, hmem, rfl⟩ := List.mem_map.mp hold
    cases List.mem_singleton.mp hother
    exact hid revision hmem
  · rcases List.mem_append.mp hmem with hmem | hmem
    · have hended : revision.isCurrent = false := by simpa using h.isCurrent revision hmem
      simp [hended, (hnew revision hmem).symm]
    · cases List.mem_singleton.mp hmem
      simp [PullRequestRevision.pair]
  · cases hpair
    exact ⟨_, List.mem_append_right _ List.mem_cons_self, rfl⟩
  · rw [h.not_live hmem] at hlive
    cases hlive

/-- The upsert of a revision makes its pair the current one. -/
theorem Settled.upsertRevision {new : JsString} (h : Settled environment s none)
    (hupsert : s.upsertRevision headSha baseSha new = some (t, revisionId)) :
    Settled environment t (some (headSha, baseSha)) ∧
      Upserted s t (headSha, baseSha) revisionId := by
  unfold PullRequestRows.upsertRevision at hupsert
  split at hupsert
  · next found hfound =>
    cases hupsert
    have hmem := List.mem_of_find?_eq_some hfound
    have hpair : found.pair = (headSha, baseSha) := by
      have hmatch := List.find?_some hfound
      rw [decide_eq_true_eq] at hmatch
      exact Prod.ext hmatch.1 hmatch.2
    have hended : found.isCurrent = false := by simpa using h.isCurrent found hmem
    refine ⟨h.reactivate ⟨found, hmem, hpair⟩, ⟨reactivated headSha baseSha found,
      List.mem_map_of_mem hmem, (reactivated_isCurrent hended).mpr hpair, ?_,
      reactivated_pair.trans hpair⟩, rfl, rfl, rfl⟩
    unfold reactivated
    split <;> rfl
  · next hnone =>
    split at hupsert
    · next hall =>
      cases hupsert
      refine ⟨h.insertRevision (fun revision hmem hpair => ?_) (fun revision hmem => ?_),
        ⟨_, List.mem_append_right _ List.mem_cons_self, rfl, rfl, rfl⟩, rfl, rfl, rfl⟩
      · have hmatch := List.find?_eq_none.mp hnone revision hmem
        rw [decide_eq_true_eq] at hmatch
        exact hmatch ⟨congrArg Prod.fst hpair, congrArg Prod.snd hpair⟩
      · simpa using List.all_eq_true.mp hall revision hmem
    · cases hupsert

end PullRequestRows

end Github

end UnderstandProof
