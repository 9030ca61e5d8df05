import UnderstandProof.Foundation.Table
import UnderstandProof.Github.RevisionSwitches
import UnderstandProof.Worker.PracticeTables

/-!
# What the steps on private rows leave

No private row goes away: it keeps everything but its payload, which stays as it is or is
shredded. A session keeps everything but its times of invalidation and deletion. Every step maps
the rows that are there in this way and appends the ones that it makes.
-/

open Foundation

namespace UnderstandProof

namespace Worker

open Domain (Timestamp)
open Github (PullRequestRevision PullRequestRows leavesAt)
open Github.PullRequestRows (RevisionKept checksOnly_of_writeCheck findRevision_of_eq
  persistProofPlan_revisions revisionKept_refl)

/-- When the transaction has begun that leaves the revision, if an event of a preparation is
one. -/
def preparationLeavesAt (revision : PullRequestRevision) : PreparationEvent → Option Timestamp
  | .rows event => leavesAt revision event
  | _ => none

namespace PreparationSystem

/-- What an event leaves of the budgets and of the revisions. -/
structure Frame {Digest : Type} (event : PreparationEvent) (s t : PreparationSystem Digest) :
    Prop where
  budgets : ∀ generationContextId budget, s.budgets generationContextId = some budget →
    t.budgets generationContextId = some budget
  revisions : ∀ revisionId revision, s.rows.findRevision revisionId = some revision →
    ∃ revision', t.rows.findRevision revisionId = some revision' ∧
      revision'.pair = revision.pair ∧
      (revision.isCurrent = true → revision'.isCurrent = false →
        ∃ now, preparationLeavesAt revision event = some now ∧
          revision'.invalidatedAt = some now)

variable {Digest : Type} {environment : PreparationEnvironment Digest}
  {s t : PreparationSystem Digest} {event : PreparationEvent}

theorem frame_of_eq (hbudgets : t.budgets = s.budgets)
    (hrows : t.rows.revisions = s.rows.revisions) : Frame event s t where
  budgets := fun _ _ h => hbudgets ▸ h
  revisions := fun _ revision h => ⟨revision, (findRevision_of_eq hrows).trans h, rfl,
    fun hcurrent hnot => (nomatch hcurrent.symm.trans hnot)⟩

theorem storePlan_budgets {run : SemanticRunContext} {plan : ProofQuestionPlan}
    (h : s.storePlan run plan = some t) : t.budgets = s.budgets := by
  unfold storePlan at h
  split at h
  · cases h
  · dsimp only at h
    split at h
    · cases h
    · split at h
      · split at h
        · cases h
          rfl
        · cases h
      · split at h
        · cases h
          rfl
        · cases h

variable [DecidableEq Digest]

theorem persistProofPlan_frame {now : Timestamp} {run : SemanticRunContext}
    {plan : ProofQuestionPlan} {fails : Bool}
    (h : s.persistProofPlanAndCreateAttempt environment now run plan fails = some t) :
    t.budgets = s.budgets ∧ t.rows.revisions = s.rows.revisions := by
  obtain ⟨rows, hrows, rfl | ⟨stored, hstored, rfl⟩⟩ := persist_cases h
  · exact ⟨rfl, persistProofPlan_revisions hrows⟩
  · have hbudgets : stored.budgets = s.budgets := storePlan_budgets hstored
    exact ⟨hbudgets, persistProofPlan_revisions hrows⟩

theorem failProofPreparation_frame {now : Timestamp} {payload : ProofPayload} {first : Bool} :
    (s.failProofPreparation environment now first payload).1.budgets = s.budgets ∧
      (s.failProofPreparation environment now first payload).1.rows.revisions =
        s.rows.revisions := by
  unfold failProofPreparation
  split
  · split
    · next rows hwrite => exact ⟨rfl, (checksOnly_of_writeCheck hwrite).revisions⟩
    · exact ⟨rfl, rfl⟩
  · exact ⟨rfl, rfl⟩

/-- What any event leaves. -/
theorem Prepared.frame (h : Prepared environment s) (hnext : s.next environment event = some t) :
    Frame event s t := by
  cases event with
  | rows event =>
      simp only [PreparationSystem.next] at hnext
      split at hnext
      · obtain ⟨rows, hrows, rfl⟩ := Option.map_eq_some_iff.mp hnext
        refine ⟨fun _ _ hbudget => hbudget, fun revisionId revision hfind => ?_⟩
        obtain ⟨revision', hfind', hkept⟩ := h.kept.findRevision hrows hfind
        exact ⟨revision', hfind', hkept.pair, hkept.left⟩
      · cases hnext
  | binding active =>
      cases hnext
      exact frame_of_eq rfl rfl
  | schedule generationContextId budget =>
      simp only [PreparationSystem.next] at hnext
      split at hnext
      · next hnew =>
        cases hnext
        refine ⟨fun other found hfound => ?_, (frame_of_eq rfl rfl).revisions⟩
        dsimp only
        rw [Table.set_apply]
        split
        · next heq =>
          rw [heq] at hfound
          rw [hfound] at hnew
          cases hnew.1
        · exact hfound
      · cases hnext
  | reserve job payload =>
      simp only [PreparationSystem.next] at hnext
      split at hnext
      · split at hnext
        · cases hnext
        · cases hnext
          exact frame_of_eq rfl rfl
        · next u run hreserve =>
          cases hnext
          obtain ⟨row, -, rfl, -⟩ := reserveRun_cases hreserve
          exact frame_of_eq rfl rfl
      · cases hnext
  | generate job result =>
      obtain ⟨value, -, hgenerate⟩ := Option.bind_eq_some_iff.mp hnext
      unfold PreparationSystem.generate at hgenerate
      split at hgenerate
      · split at hgenerate
        · cases result <;> cases hgenerate <;> exact frame_of_eq rfl rfl
        · cases hgenerate
      · cases hgenerate
  | replay job =>
      obtain ⟨value, -, hreplay⟩ := Option.bind_eq_some_iff.mp hnext
      unfold PreparationSystem.replay at hreplay
      split at hreplay
      · split at hreplay
        · cases hreplay
        · split at hreplay <;> cases hreplay <;> exact frame_of_eq rfl rfl
      · cases hreplay
  | persist job now fails =>
      obtain ⟨value, -, hpersist⟩ := Option.bind_eq_some_iff.mp hnext
      split at hpersist
      · next run plan hplanned =>
        cases hpersist
        cases hstored : s.persistProofPlanAndCreateAttempt environment now run plan fails with
        | none => exact frame_of_eq rfl rfl
        | some u =>
            obtain ⟨hbudgets, hrows⟩ := persistProofPlan_frame hstored
            exact frame_of_eq hbudgets hrows
      · cases hpersist
  | fail job now first =>
      obtain ⟨value, -, hfail⟩ := Option.bind_eq_some_iff.mp hnext
      split at hfail
      · cases hfail
        obtain ⟨hbudgets, hrows⟩ := @failProofPreparation_frame _ environment s _ now value.payload
          first
        exact frame_of_eq hbudgets hrows
      · cases hfail
  | crash job =>
      obtain ⟨value, -, rfl⟩ := Option.map_eq_some_iff.mp hnext
      exact frame_of_eq rfl rfl

end PreparationSystem

/-! ## Rows -/

namespace PrivateRow

variable {α β : Type}

/-- What a row becomes. -/
structure Follows (row row' : PrivateRow α β) : Prop where
  id : row'.id = row.id
  revisionId : row'.revisionId = row.revisionId
  generationContextId : row'.generationContextId = row.generationContextId
  binding : row'.binding = row.binding
  deleteAfter : row'.deleteAfter = row.deleteAfter
  createdAt : row'.createdAt = row.createdAt
  held : row'.isHeld = true → row' = row
  shredded : row.isHeld = false → row' = row

theorem follows_refl (row : PrivateRow α β) : Follows row row :=
  ⟨rfl, rfl, rfl, rfl, rfl, rfl, fun _ => rfl, fun _ => rfl⟩

theorem Follows.trans {a b c : PrivateRow α β} (h : Follows a b) (h' : Follows b c) :
    Follows a c where
  id := h'.id.trans h.id
  revisionId := h'.revisionId.trans h.revisionId
  generationContextId := h'.generationContextId.trans h.generationContextId
  binding := h'.binding.trans h.binding
  deleteAfter := h'.deleteAfter.trans h.deleteAfter
  createdAt := h'.createdAt.trans h.createdAt
  held := by
    intro hheld
    obtain rfl := h'.held hheld
    exact h.held hheld
  shredded := by
    intro hshredded
    obtain rfl := h.shredded hshredded
    exact h'.shredded hshredded

theorem follows_shred (invalidatedAt : Option Timestamp) (now : Timestamp)
    (row : PrivateRow α β) : Follows row (row.shred invalidatedAt now) := by
  unfold shred
  split
  · next payload hcontent =>
    refine ⟨rfl, rfl, rfl, rfl, rfl, rfl, fun hheld => ?_, fun hshredded => ?_⟩
    · cases hheld
    · simp [isHeld, hcontent] at hshredded
  · exact follows_refl row

theorem isHeld_shred (invalidatedAt : Option Timestamp) (now : Timestamp)
    (row : PrivateRow α β) : (row.shred invalidatedAt now).isHeld = false := by
  unfold shred
  split
  · rfl
  · next deletedAt hcontent => simp [isHeld, hcontent]

theorem isHeld_of_payload {row : PrivateRow α β} {payload : α}
    (h : row.payload = some payload) : row.isHeld = true := by
  unfold PrivateRow.payload at h
  unfold isHeld
  cases hcontent : row.content with
  | held content => rfl
  | shredded deletedAt =>
      rw [hcontent] at h
      cases h

/-- A payload that a row has, it has had. -/
theorem Follows.payload {row row' : PrivateRow α β} {payload : α} (h : Follows row row')
    (hpayload : row'.payload = some payload) : row.payload = some payload :=
  h.held (isHeld_of_payload hpayload) ▸ hpayload

end PrivateRow

namespace PracticeSession

/-- What a session becomes. -/
structure Ends (session session' : PracticeSession) : Prop where
  id : session'.id = session.id
  revisionId : session'.revisionId = session.revisionId
  generationContextId : session'.generationContextId = session.generationContextId
  learningBundleId : session'.learningBundleId = session.learningBundleId
  userId : session'.userId = session.userId
  deleteAfter : session'.deleteAfter = session.deleteAfter
  isActive : session'.isActive = true → session' = session

theorem ends_refl (session : PracticeSession) : Ends session session :=
  ⟨rfl, rfl, rfl, rfl, rfl, rfl, fun _ => rfl⟩

theorem Ends.trans {a b c : PracticeSession} (h : Ends a b) (h' : Ends b c) : Ends a c where
  id := h'.id.trans h.id
  revisionId := h'.revisionId.trans h.revisionId
  generationContextId := h'.generationContextId.trans h.generationContextId
  learningBundleId := h'.learningBundleId.trans h.learningBundleId
  userId := h'.userId.trans h.userId
  deleteAfter := h'.deleteAfter.trans h.deleteAfter
  isActive := by
    intro hactive
    obtain rfl := h'.isActive hactive
    exact h.isActive hactive

/-- A session with a time of invalidation. -/
theorem ends_invalidated (session : PracticeSession) (invalidatedAt : Timestamp)
    (deletedAt : Option Timestamp) :
    Ends session { session with invalidatedAt := some invalidatedAt, deletedAt := deletedAt } :=
  ⟨rfl, rfl, rfl, rfl, rfl, rfl, fun hactive => by simp [isActive] at hactive⟩

end PracticeSession

namespace PracticeSystem

variable {Digest : Type} {s t u : PracticeSystem Digest}

/-- What becomes of the private rows, and the rows that are new. -/
structure Grows (s t : PracticeSystem Digest) (bundles : List LearningBundle)
    (sessions : List PracticeSession) (answers : List PracticeAnswer)
    (feedback : List PracticeFeedback) : Prop where
  bundles : Grown PrivateRow.Follows s.bundles t.bundles bundles
  sessions : Grown PracticeSession.Ends s.sessions t.sessions sessions
  answers : Grown PrivateRow.Follows s.answers t.answers answers
  feedback : Grown PrivateRow.Follows s.feedback t.feedback feedback

theorem grows_of_eq (hbundles : t.bundles = s.bundles) (hsessions : t.sessions = s.sessions)
    (hanswers : t.answers = s.answers) (hfeedback : t.feedback = s.feedback) :
    Grows s t [] [] [] [] where
  bundles := hbundles ▸ grown_refl PrivateRow.follows_refl
  sessions := hsessions ▸ grown_refl PracticeSession.ends_refl
  answers := hanswers ▸ grown_refl PrivateRow.follows_refl
  feedback := hfeedback ▸ grown_refl PrivateRow.follows_refl

theorem follows_invalidatePrivate {α β : Type} {left : JsString → Option Timestamp}
    (row : PrivateRow α β) : PrivateRow.Follows row (invalidatePrivate left row) := by
  unfold invalidatePrivate
  split
  · exact PrivateRow.follows_refl row
  · exact PrivateRow.follows_shred _ _ row

theorem ends_invalidateSession {left : JsString → Option Timestamp}
    (session : PracticeSession) :
    PracticeSession.Ends session (invalidateSession left session) := by
  unfold invalidateSession
  split
  · exact PracticeSession.ends_refl session
  · split
    · exact PracticeSession.ends_invalidated session _ _
    · exact PracticeSession.ends_refl session

/-- What the trigger of a switch writes. -/
theorem invalidateSemanticPrivate_eq_some {left : JsString → Option Timestamp}
    (h : s.invalidateSemanticPrivate left = some t) :
    t = { s with
      bundles := s.bundles.map (invalidatePrivate left)
      answers := s.answers.map (invalidatePrivate left)
      feedback := s.feedback.map (invalidatePrivate left)
      sessions := s.sessions.map (invalidateSession left) } ∧ Grows s t [] [] [] [] := by
  unfold invalidateSemanticPrivate at h
  split at h
  · cases h
    exact ⟨rfl, grown_map follows_invalidatePrivate, grown_map ends_invalidateSession,
      grown_map follows_invalidatePrivate, grown_map follows_invalidatePrivate⟩
  · cases h

theorem grown_shredRows {α β : Type} {chosen : PrivateRow α β → Bool}
    {shredding : PrivateRow α β → PrivateRow α β} {now : Timestamp}
    {rows rows' : List (PrivateRow α β)}
    (h : shredRows chosen shredding now rows = some rows')
    (hshredding : ∀ row, PrivateRow.Follows row (shredding row)) :
    Grown PrivateRow.Follows rows rows' [] := by
  unfold shredRows at h
  split at h
  · cases h
    refine grown_map fun row => ?_
    split
    · exact hshredding row
    · exact PrivateRow.follows_refl row
  · cases h

/-- An expiry only shreds. -/
theorem expirePrivate_eq_some {now : Timestamp} {kind : PrivateKind} {artifactId : JsString}
    (h : s.expirePrivate now kind artifactId = some t) :
    (∃ bundles sessions answers feedback, t =
      { s with bundles := bundles, sessions := sessions, answers := answers,
               feedback := feedback }) ∧ Grows s t [] [] [] [] := by
  unfold expirePrivate at h
  cases kind with
  | learningBundle =>
      obtain ⟨invalidatedAt, -, hshred⟩ := Option.bind_eq_some_iff.mp h
      obtain ⟨bundles, hbundles, hrest⟩ := Option.bind_eq_some_iff.mp hshred
      obtain ⟨answers, hanswers, hmap⟩ := Option.bind_eq_some_iff.mp hrest
      obtain ⟨feedback, hfeedback, rfl⟩ := Option.map_eq_some_iff.mp hmap
      refine ⟨⟨_, _, _, _, rfl⟩, grown_shredRows hbundles (PrivateRow.follows_shred _ _),
        grown_map fun session => ?_, grown_shredRows hanswers fun row => ?_,
        grown_shredRows hfeedback fun row => ?_⟩
      · split
        · exact PracticeSession.ends_invalidated session _ _
        · exact PracticeSession.ends_refl session
      · exact PrivateRow.follows_shred _ _ row
      · exact PrivateRow.follows_shred _ _ row
  | practiceAnswer =>
      obtain ⟨invalidatedAt, -, hmap⟩ := Option.bind_eq_some_iff.mp h
      obtain ⟨answers, hanswers, rfl⟩ := Option.map_eq_some_iff.mp hmap
      exact ⟨⟨_, _, _, _, rfl⟩, grown_refl PrivateRow.follows_refl,
        grown_refl PracticeSession.ends_refl,
        grown_shredRows hanswers (PrivateRow.follows_shred _ _),
        grown_refl PrivateRow.follows_refl⟩
  | practiceFeedback =>
      obtain ⟨invalidatedAt, -, hmap⟩ := Option.bind_eq_some_iff.mp h
      obtain ⟨feedback, hfeedback, rfl⟩ := Option.map_eq_some_iff.mp hmap
      exact ⟨⟨_, _, _, _, rfl⟩, grown_refl PrivateRow.follows_refl,
        grown_refl PracticeSession.ends_refl, grown_refl PrivateRow.follows_refl,
        grown_shredRows hfeedback (PrivateRow.follows_shred _ _)⟩

end PracticeSystem

end Worker

end UnderstandProof
