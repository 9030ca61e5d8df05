import UnderstandProof.Worker.PracticeSessions

/-!
# The erasure of private rows

When a revision stops to be current, a trigger shreds its private rows, at the time at which the
transaction of the snapshot has begun. The guard of the rows refuses a deletion before their
creation, and an insert that is not committed is out of the sight of the trigger. While neither
comes in the way, every row that is not shredded is one of a current revision, and what has been
erased is not read again, whatever becomes current later.
-/

open Foundation

namespace UnderstandProof

namespace Worker

open Domain (Timestamp)
open Github (PullRequestRevision PullRequestRows)
open Github.PullRequestRows (findRevision_of_eq prepareRevision_revisions)

/-- The revision of what is inserted. -/
def PrivateInsert.revisionId : PrivateInsert → JsString
  | .learningBundle row => row.revisionId
  | .feedback row => row.revisionId

namespace PracticeSystem

variable {Digest : Type} {environment : PreparationEnvironment Digest} {s t : PracticeSystem Digest}
  {revisionId : JsString}

def IsCurrent (s : PracticeSystem Digest) (revisionId : JsString) : Prop :=
  ∃ revision, s.preparation.rows.findRevision revisionId = some revision ∧
    revision.isCurrent = true

/-- The rows of the revision that are not shredded were created by the time. -/
def IsOlder {α β : Type} (revisionId : JsString) (begunAt : Timestamp)
    (rows : List (PrivateRow α β)) : Prop :=
  ∀ row ∈ rows, row.revisionId = revisionId → row.isHeld = true → row.createdAt ≤ begunAt

/-- Nothing of the revision comes in the way of a deletion at the time. -/
structure ErasableAt (s : PracticeSystem Digest) (revisionId : JsString) (begunAt : Timestamp) :
    Prop where
  bundles : IsOlder revisionId begunAt s.bundles
  answers : IsOlder revisionId begunAt s.answers
  feedback : IsOlder revisionId begunAt s.feedback
  inserted : ∀ key row, s.inserted key = some row → row.revisionId ≠ revisionId

/-- When a snapshot leaves a revision, the private rows of the revision were created before its
transaction has begun, and no insert of one is open. -/
def SwitchesInTime [DecidableEq Digest] (environment : PreparationEnvironment Digest)
    (s : PracticeSystem Digest) : PracticeEvent → Prop
  | .preparation event =>
      (s.preparation.next environment event).isSome = true → ∀ revisionId revision begunAt,
        s.preparation.rows.findRevision revisionId = some revision → revision.isCurrent = true →
        preparationLeavesAt revision event = some begunAt → s.ErasableAt revisionId begunAt
  | _ => True

def HeldOnCurrent {α β : Type} (s : PracticeSystem Digest) (rows : List (PrivateRow α β)) : Prop :=
  ∀ row ∈ rows, row.isHeld = true → s.IsCurrent row.revisionId

/-- Only what is of a current revision is not shredded. -/
structure OnCurrent (s : PracticeSystem Digest) : Prop where
  bundles : s.HeldOnCurrent s.bundles
  answers : s.HeldOnCurrent s.answers
  feedback : s.HeldOnCurrent s.feedback
  inserted : ∀ key row, s.inserted key = some row → s.IsCurrent row.revisionId

theorem onCurrent_start {clock : Timestamp} : OnCurrent (start clock : PracticeSystem Digest) where
  bundles := fun _ h => nomatch h
  answers := fun _ h => nomatch h
  feedback := fun _ h => nomatch h
  inserted := fun _ _ h => nomatch h

/-! ## Steps that leave the revisions -/

theorem isCurrent_of_eq (h : t.preparation.rows.revisions = s.preparation.rows.revisions) :
    t.IsCurrent revisionId ↔ s.IsCurrent revisionId := by
  unfold IsCurrent
  rw [findRevision_of_eq h]

theorem isCurrent_of_open {revision : PullRequestRevision}
    (h : s.openRevision revisionId = some revision) : s.IsCurrent revisionId :=
  ⟨revision, (openRevision_eq_some h).1, (openRevision_eq_some h).2.1⟩

/-- A row that is held was held before, or is new. -/
theorem held_of_grown {α β : Type} {rows rows' new : List (PrivateRow α β)}
    {row : PrivateRow α β} (h : Grown PrivateRow.Follows rows rows' new) (hmem : row ∈ rows')
    (hheld : row.isHeld = true) : row ∈ rows ∨ row ∈ new := by
  obtain ⟨old, hold, hfollows⟩ | hnew := h.backward hmem
  · rw [hfollows.held hheld]
    exact .inl hold
  · exact .inr hnew

theorem HeldOnCurrent.of_grown {α β : Type} {rows rows' new : List (PrivateRow α β)}
    (h : s.HeldOnCurrent rows)
    (hrevisions : t.preparation.rows.revisions = s.preparation.rows.revisions)
    (hgrown : Grown PrivateRow.Follows rows rows' new)
    (hnew : ∀ row ∈ new, s.IsCurrent row.revisionId) : t.HeldOnCurrent rows' := by
  intro row hmem hheld
  rw [isCurrent_of_eq hrevisions]
  rcases held_of_grown hgrown hmem hheld with hold | hmem
  · exact h row hold hheld
  · exact hnew row hmem

/-- A step without new rows. -/
theorem OnCurrent.of_quiet (h : OnCurrent s)
    (hrevisions : t.preparation.rows.revisions = s.preparation.rows.revisions)
    (hinserted : ∀ key row, t.inserted key = some row → s.inserted key = some row)
    (hgrows : Grows s t [] [] [] []) : OnCurrent t where
  bundles := h.bundles.of_grown hrevisions hgrows.bundles fun _ hmem => nomatch hmem
  answers := h.answers.of_grown hrevisions hgrows.answers fun _ hmem => nomatch hmem
  feedback := h.feedback.of_grown hrevisions hgrows.feedback fun _ hmem => nomatch hmem
  inserted := fun key row hrow =>
    (isCurrent_of_eq hrevisions).mpr (h.inserted key row (hinserted key row hrow))

theorem OnCurrent.of_jobs (h : OnCurrent s)
    (heq : t = { s with runs := t.runs, jobs := t.jobs, clock := t.clock }) : OnCurrent t := by
  have hgrows : Grows s t [] [] [] [] := by
    rw [heq]
    exact grows_of_eq rfl rfl rfl rfl
  refine h.of_quiet ?_ (fun key row hrow => ?_) hgrows
  · rw [heq]
  · rw [heq] at hrow
    exact hrow

theorem revisionId_insertedRow {key headSha id : JsString} {outcome : GenerationOutcome}
    {material : LearningMaterial} {run : PrivateRun} :
    (insertedRow key headSha id outcome material run).revisionId = run.revisionId := by
  unfold insertedRow
  split <;> rfl

theorem OnCurrent.persist {job : ℕ} {value : PracticeJob} {outcome : GenerationOutcome}
    {content : JsString} (h : OnCurrent s) :
    OnCurrent (s.persist environment job value outcome content) := by
  unfold PracticeSystem.persist
  split
  · exact h.of_jobs rfl
  · next row hrow =>
    obtain ⟨run, -, -, haccepts, rfl⟩ := persistPrivateArtifact_eq_some hrow
    refine ⟨h.bundles, h.answers, h.feedback, fun key row hinserted => ?_⟩
    dsimp only [withoutJob] at hinserted
    rw [Table.set_apply] at hinserted
    split at hinserted
    · obtain rfl := Option.some_inj.mp hinserted
      obtain ⟨revision, hrevision⟩ := (acceptsArtifact_hasHead haccepts).2
      rw [revisionId_insertedRow]
      exact isCurrent_of_open hrevision
    · exact h.inserted key row hinserted

theorem inserted_of_update {key other : JsString} {row : PrivateInsert}
    (h : Function.update s.inserted key none other = some row) : s.inserted other = some row := by
  rw [Function.update_apply] at h
  split at h
  · cases h
  · exact h

theorem OnCurrent.commit {key : JsString} (h : OnCurrent s) (hcommit : s.commitInsert key = some t) :
    OnCurrent t := by
  obtain ⟨row, hrow, -, rfl⟩ | ⟨row, hrow, -, rfl⟩ := commitInsert_eq_some hcommit
  · refine ⟨h.bundles.of_grown rfl (grown_append PrivateRow.follows_refl) fun new hnew => ?_,
      h.answers, h.feedback, fun key row hinserted => h.inserted key row
        (inserted_of_update hinserted)⟩
    rw [List.mem_singleton.mp hnew]
    exact h.inserted key _ hrow
  · refine ⟨h.bundles, h.answers,
      h.feedback.of_grown rfl (grown_append PrivateRow.follows_refl) fun new hnew => ?_,
      fun key row hinserted => h.inserted key row (inserted_of_update hinserted)⟩
    rw [List.mem_singleton.mp hnew]
    exact h.inserted key _ hrow

theorem OnCurrent.start {now : Timestamp} {sessionId id : JsString}
    {input : StartPracticeSessionInput} (h : OnCurrent s)
    (hstart : s.startPracticeSession environment now sessionId input = some (t, id)) :
    OnCurrent { t with clock := now } := by
  obtain ⟨rates, material, -, rfl | ⟨sessions, u, -, hinsert, rfl⟩⟩ :=
    startPracticeSession_eq_some hstart
  · exact ⟨h.bundles, h.answers, h.feedback, h.inserted⟩
  · obtain ⟨rfl, -⟩ := insertSession_eq_some hinsert
    exact ⟨h.bundles, h.answers, h.feedback, h.inserted⟩

theorem answerable_isOpen {now : Timestamp} {input : SubmitPracticeAnswerInput}
    {found : PracticeSession × BundleBinding × LearningMaterial}
    (h : s.answerable environment now input = some found) :
    ∃ revision, s.openRevision input.revisionId = some revision := by
  unfold answerable at h
  split at h
  · next revision session hrevision hsession => exact ⟨revision, hrevision⟩
  · cases h

theorem OnCurrent.submit {begunAt now : Timestamp} {replayed : Bool}
    {input : SubmitPracticeAnswerInput} (h : OnCurrent s)
    (hsubmit : s.submitPracticeAnswer environment begunAt now input = some (t, replayed)) :
    OnCurrent { t with clock := now } := by
  obtain ⟨rates, session, binding, learning, hanswerable, -, ⟨-, rfl, -⟩ | ⟨-, -, rfl⟩⟩ :=
    submitPracticeAnswer_eq_some hsubmit
  · exact ⟨h.bundles, h.answers, h.feedback, h.inserted⟩
  · refine ⟨h.bundles, h.answers.of_grown rfl (grown_append PrivateRow.follows_refl)
      fun new hnew => ?_, h.feedback, h.inserted⟩
    obtain ⟨revision, hrevision⟩ := answerable_isOpen hanswerable
    rw [List.mem_singleton.mp hnew]
    exact isCurrent_of_open hrevision

/-! ## Switches -/

section Switches

variable [DecidableEq Digest] {event : PreparationEvent} {preparation : PreparationSystem Digest}

/-- A current revision that an event leaves. -/
theorem Practiced.leftAt (hs : Practiced environment s)
    (hnext : s.preparation.next environment event = some preparation)
    {revision : PullRequestRevision}
    (hfind : s.preparation.rows.findRevision revisionId = some revision)
    (hcurrent : revision.isCurrent = true)
    (hleft : ¬({ s with preparation := preparation } : PracticeSystem Digest).IsCurrent revisionId) :
    ∃ begunAt, preparationLeavesAt revision event = some begunAt ∧
      PracticeSystem.leftAt s.preparation.rows preparation.rows revisionId = some begunAt := by
  obtain ⟨revision', hfind', -, hswitch⟩ :=
    (hs.prepared.frame hnext).revisions revisionId revision hfind
  have hgone : revision'.isCurrent = false := by
    rw [← Bool.not_eq_true]
    exact fun hnot => hleft ⟨revision', hfind', hnot⟩
  obtain ⟨begunAt, hleaves, hinvalidated⟩ := hswitch hcurrent hgone
  refine ⟨begunAt, hleaves, ?_⟩
  unfold PracticeSystem.leftAt
  rw [hfind, hfind']
  exact (if_pos ⟨hcurrent, hgone⟩).trans hinvalidated

/-- The other way round: what the trigger takes for left, an event has left. -/
theorem Practiced.leaves_of_leftAt (hs : Practiced environment s)
    (hnext : s.preparation.next environment event = some preparation) {begunAt : Timestamp}
    (hleft : PracticeSystem.leftAt s.preparation.rows preparation.rows revisionId =
      some begunAt) :
    ∃ revision, s.preparation.rows.findRevision revisionId = some revision ∧
      revision.isCurrent = true ∧ preparationLeavesAt revision event = some begunAt := by
  unfold PracticeSystem.leftAt at hleft
  split at hleft
  · next old new hold hnew =>
    obtain ⟨⟨hcurrent, hgone⟩, hinvalidated⟩ := Option.ite_none_right_eq_some.mp hleft
    obtain ⟨found, hfound, -, hswitch⟩ := (hs.prepared.frame hnext).revisions revisionId old hold
    obtain rfl := Option.some_inj.mp (hnew.symm.trans hfound)
    obtain ⟨now, hleaves, hnow⟩ := hswitch hcurrent hgone
    obtain rfl := Option.some_inj.mp (hinvalidated.symm.trans hnow)
    exact ⟨old, hold, hcurrent, hleaves⟩
  · cases hleft

theorem passesGuard_of_isOlder {α β : Type} {left : JsString → Option Timestamp}
    {rows : List (PrivateRow α β)}
    (h : ∀ revisionId begunAt, left revisionId = some begunAt → IsOlder revisionId begunAt rows) :
    passesGuard left rows = true := by
  refine List.all_eq_true.mpr fun row hmem => ?_
  cases hleft : left row.revisionId with
  | none => rfl
  | some begunAt => exact decide_eq_true fun hheld => h _ begunAt hleft row hmem rfl hheld

/-- The guard refuses no switch in time. -/
theorem Practiced.switch_isSome (hs : Practiced environment s)
    (hin : SwitchesInTime environment s (.preparation event))
    (hnext : s.preparation.next environment event = some preparation) :
    (s.next environment (.preparation event)).isSome = true := by
  have herasable : ∀ revisionId begunAt,
      PracticeSystem.leftAt s.preparation.rows preparation.rows revisionId = some begunAt →
        s.ErasableAt revisionId begunAt := by
    intro revisionId begunAt hleft
    obtain ⟨revision, hfind, hcurrent, hleaves⟩ := hs.leaves_of_leftAt hnext hleft
    exact hin (by rw [hnext]; rfl) revisionId revision begunAt hfind hcurrent hleaves
  have htrigger : (({ s with preparation := preparation } :
      PracticeSystem Digest).invalidateSemanticPrivate
        (PracticeSystem.leftAt s.preparation.rows preparation.rows)).isSome = true := by
    unfold invalidateSemanticPrivate
    rw [if_pos]
    · rfl
    · exact ⟨passesGuard_of_isOlder fun _ _ hleft => (herasable _ _ hleft).bundles,
        passesGuard_of_isOlder fun _ _ hleft => (herasable _ _ hleft).answers,
        passesGuard_of_isOlder fun _ _ hleft => (herasable _ _ hleft).feedback⟩
  have hclock : (practiceReading (.preparation event)).all (s.clock ≤ ·) = true := rfl
  unfold PracticeSystem.next
  rw [if_pos hclock, Option.isSome_map]
  simp only [nextRows]
  rw [hnext, Option.bind_some]
  exact htrigger

/-- What the trigger lets held is of a revision that is still current. -/
theorem HeldOnCurrent.invalidate {α β : Type} {rows : List (PrivateRow α β)}
    (h : s.HeldOnCurrent rows) (hs : Practiced environment s)
    (hnext : s.preparation.next environment event = some preparation) :
    ({ s with preparation := preparation } : PracticeSystem Digest).HeldOnCurrent
      (rows.map (invalidatePrivate
        (PracticeSystem.leftAt s.preparation.rows preparation.rows))) := by
  intro row hmem hheld
  obtain ⟨old, hold, rfl⟩ := List.mem_map.mp hmem
  cases hleft : PracticeSystem.leftAt s.preparation.rows preparation.rows old.revisionId with
  | some begunAt =>
      unfold invalidatePrivate at hheld
      rw [hleft] at hheld
      exact absurd (hheld.symm.trans (PrivateRow.isHeld_shred _ _ old)) (nomatch ·)
  | none =>
      have hsame := (follows_invalidatePrivate old).held hheld
      rw [hsame] at hheld ⊢
      obtain ⟨revision, hfind, hcurrent⟩ := h old hold hheld
      by_contra hnot
      obtain ⟨begunAt, -, hsome⟩ := hs.leftAt hnext hfind hcurrent hnot
      cases hleft.symm.trans hsome

theorem OnCurrent.switch (h : OnCurrent s) (hs : Practiced environment s)
    (hin : SwitchesInTime environment s (.preparation event))
    (hnext : s.preparation.next environment event = some preparation)
    (htrigger : ({ s with preparation := preparation } :
      PracticeSystem Digest).invalidateSemanticPrivate
        (PracticeSystem.leftAt s.preparation.rows preparation.rows) = some t) : OnCurrent t := by
  obtain ⟨rfl, -⟩ := invalidateSemanticPrivate_eq_some htrigger
  refine ⟨h.bundles.invalidate hs hnext, h.answers.invalidate hs hnext,
    h.feedback.invalidate hs hnext, fun key row hrow => ?_⟩
  obtain ⟨revision, hfind, hcurrent⟩ := h.inserted key row hrow
  by_contra hnot
  obtain ⟨begunAt, hleaves, -⟩ := hs.leftAt hnext hfind hcurrent hnot
  have herasable := hin (by rw [hnext]; rfl) _ revision begunAt hfind hcurrent hleaves
  exact herasable.inserted key row hrow rfl

/-! ## Any step -/

theorem OnCurrent.next {event : PracticeEvent} (h : OnCurrent s) (hs : Practiced environment s)
    (hin : SwitchesInTime environment s event) (hnext : s.next environment event = some t) :
    OnCurrent t := by
  obtain ⟨u, hrows, rfl, -⟩ := next_eq_some hnext
  cases event with
  | preparation event =>
      obtain ⟨preparation, hprepared, htrigger⟩ := Option.bind_eq_some_iff.mp hrows
      have hu := h.switch hs hin hprepared htrigger
      exact ⟨hu.bundles, hu.answers, hu.feedback, hu.inserted⟩
  | prepareRevision now run plan fails =>
      obtain ⟨rows, hprepared, hplan⟩ := Option.bind_eq_some_iff.mp hrows
      obtain ⟨-, heq⟩ := Option.ite_none_right_eq_some.mp hplan
      obtain rfl := Option.some_inj.mp heq
      exact h.of_quiet (prepareRevision_revisions hprepared) (fun _ _ hrow => hrow)
        (grows_of_eq rfl rfl rfl rfl)
  | reserve job now payload =>
      simp only [nextRows] at hrows
      split at hrows
      · split at hrows
        · next v headSha run hreserve =>
          cases hrows
          obtain ⟨rfl, -⟩ := reserveRun_eq_reserved hreserve
          exact h.of_jobs rfl
        · cases hrows
      · cases hrows
  | load job now =>
      obtain ⟨value, hjob, hload⟩ := Option.bind_eq_some_iff.mp hrows
      split at hload
      · cases hload
        refine h.of_jobs ?_
        unfold PracticeSystem.load
        split <;> rfl
      · cases hload
  | generate job outcome content =>
      obtain ⟨value, hjob, hgenerate⟩ := Option.bind_eq_some_iff.mp hrows
      refine h.of_jobs ?_
      split at hgenerate
      · cases hgenerate
        rfl
      · split at hgenerate
        · cases hgenerate
          rfl
        · cases hgenerate
      · cases hgenerate
  | persist job =>
      obtain ⟨value, hjob, hpersist⟩ := Option.bind_eq_some_iff.mp hrows
      split at hpersist
      · next outcome content hphase =>
        split at hpersist
        · cases hpersist
          have hu := @OnCurrent.persist _ environment s job value outcome content h
          exact ⟨hu.bundles, hu.answers, hu.feedback, hu.inserted⟩
        · cases hpersist
      · cases hpersist
  | crash job =>
      obtain ⟨value, hjob, rfl⟩ := Option.map_eq_some_iff.mp hrows
      exact h.of_jobs rfl
  | commit key =>
      have hu := h.commit hrows
      exact ⟨hu.bundles, hu.answers, hu.feedback, hu.inserted⟩
  | rollback key =>
      obtain ⟨row, hrow, rfl⟩ := Option.map_eq_some_iff.mp hrows
      exact h.of_quiet rfl (fun _ _ hinserted => inserted_of_update hinserted)
        (grows_of_eq rfl rfl rfl rfl)
  | start now sessionId input =>
      obtain ⟨⟨v, id⟩, hstart, rfl⟩ := Option.map_eq_some_iff.mp hrows
      exact h.start hstart
  | submit begunAt now input =>
      simp only [nextRows] at hrows
      split at hrows
      · obtain ⟨⟨v, replayed⟩, hsubmit, rfl⟩ := Option.map_eq_some_iff.mp hrows
        exact h.submit hsubmit
      · cases hrows
  | expire now kind artifactId =>
      obtain ⟨⟨bundles, sessions, answers, feedback, rfl⟩, hgrows⟩ := expirePrivate_eq_some hrows
      exact h.of_quiet rfl (fun _ _ hrow => hrow)
        ⟨hgrows.bundles, hgrows.sessions, hgrows.answers, hgrows.feedback⟩
  | view now input =>
      cases hrows
      exact h.of_jobs rfl

theorem OnCurrent.step {event : PracticeEvent} (h : OnCurrent s) (hs : Practiced environment s)
    (hin : SwitchesInTime environment s event) : OnCurrent (s.step environment event) := by
  unfold PracticeSystem.step
  cases hnext : s.next environment event with
  | none => exact h
  | some t => exact h.next hs hin hnext

/-- What is held after a history of switches in time. -/
theorem onCurrent_after {clock : Timestamp} {events : List PracticeEvent}
    (hin : Throughout (PracticeSystem.step environment) (start clock)
      (SwitchesInTime environment) events) :
    OnCurrent (practiceAfter environment clock events) := by
  induction events using List.reverseRecOn with
  | nil => exact onCurrent_start
  | append_singleton events event ih =>
      obtain ⟨hevents, hlast⟩ := throughout_concat.mp hin
      unfold practiceAfter
      rw [after_concat]
      exact (ih hevents).step (practiced_after events) hlast

end Switches

/-! ## Rows that are due -/

/-- What a row becomes is there, and it is shredded. -/
def IsShredded {α β : Type} (row : PrivateRow α β) (rows : List (PrivateRow α β)) : Prop :=
  ∃ row' ∈ rows, PrivateRow.Follows row row' ∧ row'.isHeld = false

/-- Every row that is due is shredded by its expiry. -/
structure ExpiresDue (s : PracticeSystem Digest) : Prop where
  bundles : ∀ row ∈ s.bundles, ∀ now, s.clock ≤ now → s.isDue now row = true →
    ∃ t, s.expirePrivate now .learningBundle row.id = some t ∧ IsShredded row t.bundles
  answers : ∀ row ∈ s.answers, ∀ now, s.clock ≤ now → s.isDue now row = true →
    ∃ t, s.expirePrivate now .practiceAnswer row.id = some t ∧ IsShredded row t.answers
  feedback : ∀ row ∈ s.feedback, ∀ now, s.clock ≤ now → s.isDue now row = true →
    ∃ t, s.expirePrivate now .practiceFeedback row.id = some t ∧ IsShredded row t.feedback

section Expiry

variable {now : Timestamp} {α β : Type} {rows : List (PrivateRow α β)} {row : PrivateRow α β}
  {chosen : PrivateRow α β → Bool} {shredding : PrivateRow α β → PrivateRow α β}

theorem expiryOf_of_isDue (h : s.isDue now row = true) :
    ∃ invalidatedAt, s.expiryOf now row = some invalidatedAt := by
  obtain ⟨hheld, hdue⟩ := of_decide_eq_true h
  obtain ⟨revision, hfind, hlate⟩ := (Option.any_eq_true ..).mp hdue
  unfold expiryOf
  rw [hfind]
  dsimp only
  rw [if_neg (by rw [hheld]; exact Bool.noConfusion)]
  split
  · next hearly =>
    rcases of_decide_eq_true hlate with hover | hgone
    · exact absurd hover (not_le.mpr hearly.2)
    · cases hearly.1.symm.trans hgone
  · split
    · exact ⟨_, rfl⟩
    · exact ⟨_, rfl⟩

/-- The guard lets rows be shredded that are there already. -/
theorem shredRows_of_created (h : ∀ row ∈ rows, row.createdAt ≤ now) :
    shredRows chosen shredding now rows =
      some (rows.map fun row => if chosen row then shredding row else row) := by
  unfold shredRows
  rw [if_pos]
  refine List.all_eq_true.mpr fun row hmem => decide_eq_true fun _ => ?_
  exact decide_eq_true fun _ => h row hmem

theorem isShredded_of_chosen (hmem : row ∈ rows) (hchosen : chosen row = true)
    (hfollows : PrivateRow.Follows row (shredding row))
    (hshredded : (shredding row).isHeld = false) :
    IsShredded row (rows.map fun row => if chosen row then shredding row else row) := by
  refine ⟨shredding row, List.mem_map.mpr ⟨row, hmem, ?_⟩, hfollows, hshredded⟩
  rw [if_pos hchosen]

theorem Practiced.bundle_created (hs : Practiced environment s) (hclock : s.clock ≤ now) :
    ∀ bundle ∈ s.bundles, bundle.createdAt ≤ now := by
  intro bundle hmem
  obtain ⟨run, hrun, -, -, -, -, hcreated, -⟩ := (hs.bundles bundle hmem).run
  exact hcreated.le.trans ((hs.runs _ run hrun).created.trans hclock)

theorem Practiced.feedback_created (hs : Practiced environment s) (hclock : s.clock ≤ now) :
    ∀ feedback ∈ s.feedback, feedback.createdAt ≤ now := by
  intro feedback hmem
  obtain ⟨run, target, hrun, -, -, -, -, hcreated⟩ := (hs.feedback feedback hmem).run
  exact hcreated.le.trans ((hs.runs _ run hrun).created.trans hclock)

theorem Practiced.answer_created (hs : Practiced environment s) (hclock : s.clock ≤ now) :
    ∀ answer ∈ s.answers, answer.createdAt ≤ now :=
  fun answer hmem => (hs.answers answer hmem).created.trans hclock

theorem Practiced.expiresDue (hs : Practiced environment s) : ExpiresDue s where
  bundles := by
    intro row hmem now hclock hdue
    obtain ⟨invalidatedAt, hexpiry⟩ := expiryOf_of_isDue hdue
    have hfind : s.findBundle row.id = some row := find_of_mem hs.bundleIds hmem
    unfold expirePrivate shredBundle
    rw [hfind, Option.bind_some, hexpiry, Option.bind_some,
      shredRows_of_created (hs.bundle_created hclock), Option.bind_some,
      shredRows_of_created (hs.answer_created hclock), Option.bind_some,
      shredRows_of_created (hs.feedback_created hclock), Option.map_some]
    exact ⟨_, rfl, isShredded_of_chosen hmem (decide_eq_true rfl)
      (PrivateRow.follows_shred _ _ row) (PrivateRow.isHeld_shred _ _ row)⟩
  answers := by
    intro row hmem now hclock hdue
    obtain ⟨invalidatedAt, hexpiry⟩ := expiryOf_of_isDue hdue
    unfold expirePrivate
    dsimp only
    rw [find_of_mem hs.answerIds hmem, Option.bind_some, hexpiry, Option.bind_some,
      shredRows_of_created (hs.answer_created hclock), Option.map_some]
    exact ⟨_, rfl, isShredded_of_chosen hmem (decide_eq_true rfl)
      (PrivateRow.follows_shred _ _ row) (PrivateRow.isHeld_shred _ _ row)⟩
  feedback := by
    intro row hmem now hclock hdue
    obtain ⟨invalidatedAt, hexpiry⟩ := expiryOf_of_isDue hdue
    unfold expirePrivate
    dsimp only
    rw [find_of_mem hs.feedbackIds hmem, Option.bind_some, hexpiry, Option.bind_some,
      shredRows_of_created (hs.feedback_created hclock), Option.map_some]
    exact ⟨_, rfl, isShredded_of_chosen hmem (decide_eq_true rfl)
      (PrivateRow.follows_shred _ _ row) (PrivateRow.isHeld_shred _ _ row)⟩

end Expiry

/-! ## What is read -/

section Reading

variable {now : Timestamp} {request : ReadPracticeViewInput}

theorem preferredBundle_mem {bundles : List LearningBundle} {bundle : LearningBundle}
    (h : preferredBundle bundles = some bundle) : bundle ∈ bundles := by
  induction bundles using List.reverseRecOn with
  | nil => cases h
  | append_singleton bundles last ih =>
      unfold preferredBundle at h ih
      rw [List.foldl_append, List.foldl_cons, List.foldl_nil] at h
      split at h
      · cases h
        exact List.mem_append_right _ (List.mem_singleton_self _)
      · exact List.mem_append_left _ (ih h)

/-- A view of material is that of a readable bundle. -/
theorem readPracticeView_eq_ready {bundleId : JsString} {learning : LearningMaterial}
    {session : Option PracticeSessionView}
    (h : s.readPracticeView environment now request = .ready bundleId learning session) :
    (∃ bundle ∈ s.bundles, bundle.id = bundleId ∧ bundle.isHeld = true) ∧
      ∀ view, session = some view → ∃ sessionId,
        s.viewSession now request bundleId learning sessionId = some view := by
  unfold readPracticeView at h
  split at h
  · cases h
  · split at h
    · cases h
    · next bundle hbundle =>
      have hmem := List.mem_filter.mp (preferredBundle_mem hbundle)
      have hheld : bundle.isHeld = true := by
        have hreadable := (of_decide_eq_true hmem.2).2.2
        unfold PrivateRow.isReadable at hreadable
        exact (of_decide_eq_true hreadable).1
      split at h
      · split at h
        · cases h
        · split at h <;> cases h
      · split at h
        · cases h
        · split at h
          · cases h
            exact ⟨⟨bundle, hmem.1, rfl, hheld⟩, fun _ hview => nomatch hview⟩
          · next sessionId hsessionId =>
            split at h
            · cases h
            · next found hfound =>
              cases h
              refine ⟨⟨bundle, hmem.1, rfl, hheld⟩, ?_⟩
              rintro view ⟨⟩
              exact ⟨sessionId, hfound⟩

/-- What a view of a session shows is of answers and feedback that are held. -/
theorem viewSession_eq_some {bundleId sessionId : JsString} {learning : LearningMaterial}
    {view : PracticeSessionView}
    (h : s.viewSession now request bundleId learning sessionId = some view) :
    (∀ questionId content, (questionId, content) ∈ view.answersByQuestionId →
      ∃ answer ∈ s.answers, answer.binding = { sessionId := view.id, questionId := questionId } ∧
        answer.payload = some content) ∧
      ∀ questionId content, (questionId, content) ∈ view.feedbackByQuestionId →
        ∃ feedback ∈ s.feedback, feedback.binding.sessionId = view.id ∧
          feedback.binding.questionId = questionId ∧ feedback.payload = some content := by
  obtain ⟨session, -, rfl⟩ := Option.map_eq_some_iff.mp h
  refine ⟨fun questionId content hmem => ?_, fun questionId content hmem => ?_⟩
  · obtain ⟨answer, hanswer, hshown⟩ := List.mem_filterMap.mp hmem
    obtain ⟨⟨hsession, -⟩, hmap⟩ := Option.ite_none_right_eq_some.mp hshown
    obtain ⟨found, hpayload, heq⟩ := Option.map_eq_some_iff.mp hmap
    cases heq
    refine ⟨answer, hanswer, ?_, hpayload⟩
    rw [← hsession]
  · obtain ⟨feedback, hfeedback, hshown⟩ := List.mem_filterMap.mp hmem
    obtain ⟨⟨hsession, -⟩, hmap⟩ := Option.ite_none_right_eq_some.mp hshown
    obtain ⟨found, hpayload, heq⟩ := Option.map_eq_some_iff.mp hmap
    cases heq
    exact ⟨feedback, hfeedback, hsession, rfl, hpayload⟩

theorem loadPracticeQuestionAndAnswer_eq_some {payload : PrivatePayload} {target : PracticeTarget}
    {content : JsString}
    (h : s.loadPracticeQuestionAndAnswer environment now payload target = some content) :
    ∃ session answer bundle, s.findSession target.practiceSessionId = some session ∧
      answer ∈ s.answers ∧ answer.id = target.practiceAnswerId ∧ answer.isHeld = true ∧
      bundle ∈ s.bundles ∧ bundle.id = session.learningBundleId ∧ bundle.isHeld = true := by
  unfold loadPracticeQuestionAndAnswer at h
  split at h
  · next revision session answer hrevision htarget =>
    obtain ⟨⟨-, hasks⟩, hpayload⟩ := Option.ite_none_right_eq_some.mp h
    obtain ⟨hsession, hanswer, -⟩ := openTarget_eq_some htarget
    obtain ⟨hmem, hid⟩ := find_id_eq_some hanswer
    obtain ⟨learning, hlearning, -⟩ := (Option.any_eq_true ..).mp hasks
    obtain ⟨bundle, hbundle, hbundlePayload⟩ := Option.bind_eq_some_iff.mp hlearning
    obtain ⟨hbundleMem, hbundleId⟩ := findBundle_eq_some hbundle
    exact ⟨session, answer, bundle, hsession, hmem, hid, PrivateRow.isHeld_of_payload hpayload,
      hbundleMem, hbundleId, PrivateRow.isHeld_of_payload hbundlePayload⟩
  · cases h

end Reading

/-! ## What is erased -/

/-- The rows are shredded, and stay as they are. -/
def StaysShredded {α β : Type} (revisionId : JsString) (rows later : List (PrivateRow α β)) :
    Prop :=
  ∀ row ∈ rows, row.revisionId = revisionId → row.isHeld = false ∧ row ∈ later

/-- What there was of a revision is shredded, and nothing of it is read in a later state. -/
structure Erased (environment : PreparationEnvironment Digest) (revisionId : JsString)
    (s t : PracticeSystem Digest) : Prop where
  bundles : StaysShredded revisionId s.bundles t.bundles
  answers : StaysShredded revisionId s.answers t.answers
  feedback : StaysShredded revisionId s.feedback t.feedback
  view : ∀ now request bundleId learning session,
    t.readPracticeView environment now request = .ready bundleId learning session →
      ∀ row ∈ s.bundles, row.revisionId = revisionId → row.id ≠ bundleId
  viewSession : ∀ now request bundleId learning view,
    t.readPracticeView environment now request = .ready bundleId learning (some view) →
      (∀ row ∈ s.answers, row.revisionId = revisionId → row.binding.sessionId = view.id →
        ∀ content, (row.binding.questionId, content) ∉ view.answersByQuestionId) ∧
      ∀ row ∈ s.feedback, row.revisionId = revisionId → row.binding.sessionId = view.id →
        ∀ content, (row.binding.questionId, content) ∉ view.feedbackByQuestionId
  load : ∀ now payload target content session,
    t.loadPracticeQuestionAndAnswer environment now payload target = some content →
      t.findSession target.practiceSessionId = some session →
      (∀ row ∈ s.answers, row.revisionId = revisionId → row.id ≠ target.practiceAnswerId) ∧
      ∀ row ∈ s.bundles, row.revisionId = revisionId → row.id ≠ session.learningBundleId

theorem staysShredded_of_heldOnCurrent {α β : Type} {rows later : List (PrivateRow α β)}
    (hheld : s.HeldOnCurrent rows) (hleft : ¬s.IsCurrent revisionId)
    (hlater : ∀ row ∈ rows, ∃ row' ∈ later, PrivateRow.Follows row row') :
    StaysShredded revisionId rows later := by
  intro row hmem hrevision
  have hshredded : row.isHeld = false := by
    rw [← Bool.not_eq_true]
    exact fun hnot => hleft (hrevision ▸ hheld row hmem hnot)
  obtain ⟨row', hmem', hfollows⟩ := hlater row hmem
  exact ⟨hshredded, hfollows.shredded hshredded ▸ hmem'⟩

/-- A row that is shredded is not one that is held. -/
theorem StaysShredded.ne {α β : Type} {rows later : List (PrivateRow α β)}
    {row other : PrivateRow α β} (h : StaysShredded revisionId rows later) (hmem : row ∈ rows)
    (hrevision : row.revisionId = revisionId) (hheld : other.isHeld = true) : row ≠ other := by
  rintro rfl
  cases hheld.symm.trans (h row hmem hrevision).1

/-- What is of a revision that is not current is erased from every later state. -/
theorem OnCurrent.erased (h : OnCurrent s) (hleft : ¬s.IsCurrent revisionId) (hkeeps : Keeps s t)
    (ht : Practiced environment t) : Erased environment revisionId s t := by
  have hbundles := staysShredded_of_heldOnCurrent h.bundles hleft hkeeps.bundles
  have hanswers := staysShredded_of_heldOnCurrent h.answers hleft hkeeps.answers
  have hfeedback := staysShredded_of_heldOnCurrent h.feedback hleft hkeeps.feedback
  refine ⟨hbundles, hanswers, hfeedback, ?_, ?_, ?_⟩
  · intro now request bundleId learning session hview row hmem hrevision hid
    obtain ⟨⟨bundle, hbundle, hbundleId, hheld⟩, -⟩ := readPracticeView_eq_ready hview
    exact hbundles.ne hmem hrevision hheld
      (ht.eq_bundle (hbundles row hmem hrevision).2 hbundle (hid.trans hbundleId.symm))
  · intro now request bundleId learning view hview
    obtain ⟨sessionId, hsession⟩ := (readPracticeView_eq_ready hview).2 view rfl
    obtain ⟨hshownAnswers, hshownFeedback⟩ := viewSession_eq_some hsession
    refine ⟨fun row hmem hrevision hid content hshown => ?_,
      fun row hmem hrevision hid content hshown => ?_⟩
    · obtain ⟨answer, hanswer, hbinding, hpayload⟩ := hshownAnswers _ content hshown
      refine hanswers.ne hmem hrevision (PrivateRow.isHeld_of_payload hpayload)
        (List.inj_on_of_nodup_map ht.answerKeys (hanswers row hmem hrevision).2 hanswer ?_)
      rw [hbinding, ← hid]
    · obtain ⟨feedback, hmem', hsame, hquestion, hpayload⟩ := hshownFeedback _ content hshown
      exact hfeedback.ne hmem hrevision (PrivateRow.isHeld_of_payload hpayload)
        (ht.eq_feedback (hfeedback row hmem hrevision).2 hmem' (hid.trans hsame.symm)
          hquestion.symm)
  · intro now payload target content session hload hfind
    obtain ⟨found, answer, bundle, hfound, hanswer, hanswerId, hanswerHeld, hbundle, hbundleId,
      hbundleHeld⟩ := loadPracticeQuestionAndAnswer_eq_some hload
    obtain rfl := Option.some_inj.mp (hfind.symm.trans hfound)
    refine ⟨fun row hmem hrevision hid => ?_, fun row hmem hrevision hid => ?_⟩
    · exact hanswers.ne hmem hrevision hanswerHeld (List.inj_on_of_nodup_map ht.answerIds
        (hanswers row hmem hrevision).2 hanswer (hid.trans hanswerId.symm))
    · exact hbundles.ne hmem hrevision hbundleHeld
        (ht.eq_bundle (hbundles row hmem hrevision).2 hbundle (hid.trans hbundleId.symm))

/-- In every history the expiry of a row that is due succeeds. When all switches of the history
are in time, the guard refuses none of them, and what a revision has had when it was not current
is shredded and is not read again. -/
theorem erased_on_switch [DecidableEq Digest] (environment : PreparationEnvironment Digest)
    (clock : Timestamp) (events : List PracticeEvent) :
    ExpiresDue (practiceAfter environment clock events) ∧
    (Throughout (PracticeSystem.step environment) (start clock) (SwitchesInTime environment)
        events →
      (∀ front event rest preparation, events = front ++ .preparation event :: rest →
        (practiceAfter environment clock front).preparation.next environment event =
          some preparation →
        ((practiceAfter environment clock front).next environment
          (.preparation event)).isSome = true) ∧
      ∀ front rest revisionId, events = front ++ rest →
        ¬(practiceAfter environment clock front).IsCurrent revisionId →
        Erased environment revisionId (practiceAfter environment clock front)
          (practiceAfter environment clock events)) := by
  refine ⟨(practiced_after events).expiresDue, fun hin => ⟨?_, ?_⟩⟩
  · rintro front event rest preparation rfl hnext
    exact (practiced_after front).switch_isSome (hin front (.preparation event) rest rfl) hnext
  · rintro front rest revisionId rfl hleft
    have hfront : Throughout (PracticeSystem.step environment) (start clock)
        (SwitchesInTime environment) front := fun before event more hmore =>
      hin before event (more ++ rest) (by rw [hmore, List.append_assoc, List.cons_append])
    exact (onCurrent_after hfront).erased hleft (keeps_after front rest) (practiced_after _)

/-! ## The head goes away and comes back -/

/-- The key that an event reserves. -/
def reservedKey : PracticeEvent → Option JsString
  | .reserve _ _ payload => some payload.idempotencyKey
  | _ => none

def isOlder {α β : Type} (revisionId : JsString) (begunAt : Timestamp)
    (rows : List (PrivateRow α β)) : Bool :=
  rows.all fun row => row.revisionId = revisionId → row.isHeld = true → row.createdAt ≤ begunAt

theorem isOlder_of_check {α β : Type} {begunAt : Timestamp} {rows : List (PrivateRow α β)}
    (h : isOlder revisionId begunAt rows = true) : IsOlder revisionId begunAt rows :=
  fun row hmem => of_decide_eq_true (List.all_eq_true.mp h row hmem)

section Samples

variable [DecidableEq Digest] {key : JsString} {run : PrivateRun}

omit [DecidableEq Digest] in
theorem run_of_completeRun {other artifactId : JsString} {outcome : GenerationOutcome}
    (h : (s.completeRun other artifactId outcome).runs key = some run) :
    ∃ old, s.runs key = some old := by
  change Function.update s.runs other _ key = some run at h
  rw [Function.update_apply] at h
  split at h
  · next heq =>
    obtain ⟨old, hold, -⟩ := Option.map_eq_some_iff.mp h
    exact ⟨old, heq ▸ hold⟩
  · exact ⟨run, h⟩

/-- A run is there already, or is reserved. -/
theorem runs_of_next {event : PracticeEvent} (hnext : s.next environment event = some t)
    (hrun : t.runs key = some run) :
    (∃ old, s.runs key = some old) ∨ reservedKey event = some key := by
  obtain ⟨u, hrows, rfl, -⟩ := next_eq_some hnext
  have hsame : u.runs = s.runs → ∃ old, s.runs key = some old := fun h => ⟨run, h ▸ hrun⟩
  cases event with
  | preparation event =>
      obtain ⟨preparation, hprepared, htrigger⟩ := Option.bind_eq_some_iff.mp hrows
      obtain ⟨rfl, -⟩ := invalidateSemanticPrivate_eq_some htrigger
      exact .inl (hsame rfl)
  | prepareRevision now run plan fails =>
      obtain ⟨rows, hprepared, hplan⟩ := Option.bind_eq_some_iff.mp hrows
      obtain ⟨-, heq⟩ := Option.ite_none_right_eq_some.mp hplan
      obtain rfl := Option.some_inj.mp heq
      exact .inl (hsame rfl)
  | reserve job now payload =>
      simp only [nextRows] at hrows
      split at hrows
      · split at hrows
        · next v headSha found hreserve =>
          cases hrows
          obtain ⟨rfl, -⟩ := reserveRun_eq_reserved hreserve
          change Table.set s.runs payload.idempotencyKey found key = some run at hrun
          rw [Table.set_apply] at hrun
          split at hrun
          · next heq => exact .inr (congrArg some heq.symm)
          · exact .inl ⟨run, hrun⟩
        · cases hrows
      · cases hrows
  | load job now =>
      obtain ⟨value, hjob, hload⟩ := Option.bind_eq_some_iff.mp hrows
      split at hload
      · cases hload
        refine .inl (hsame ?_)
        unfold PracticeSystem.load
        split <;> rfl
      · cases hload
  | generate job outcome content =>
      obtain ⟨value, hjob, hgenerate⟩ := Option.bind_eq_some_iff.mp hrows
      refine .inl (hsame ?_)
      split at hgenerate
      · cases hgenerate
        rfl
      · split at hgenerate
        · cases hgenerate
          rfl
        · cases hgenerate
      · cases hgenerate
  | persist job =>
      obtain ⟨value, hjob, hpersist⟩ := Option.bind_eq_some_iff.mp hrows
      split at hpersist
      · split at hpersist
        · cases hpersist
          refine .inl (hsame ?_)
          unfold PracticeSystem.persist
          split <;> rfl
        · cases hpersist
      · cases hpersist
  | crash job =>
      obtain ⟨value, hjob, rfl⟩ := Option.map_eq_some_iff.mp hrows
      exact .inl (hsame rfl)
  | commit other =>
      obtain ⟨row, hrow, -, rfl⟩ | ⟨row, hrow, -, rfl⟩ := commitInsert_eq_some hrows
      · exact .inl (run_of_completeRun hrun)
      · exact .inl (run_of_completeRun hrun)
  | rollback other =>
      obtain ⟨row, hrow, rfl⟩ := Option.map_eq_some_iff.mp hrows
      exact .inl (hsame rfl)
  | start now sessionId input =>
      obtain ⟨⟨v, id⟩, hstart, rfl⟩ := Option.map_eq_some_iff.mp hrows
      obtain ⟨rates, material, -, rfl | ⟨sessions, w, -, hinsert, rfl⟩⟩ :=
        startPracticeSession_eq_some hstart
      · exact .inl (hsame rfl)
      · obtain ⟨rfl, -⟩ := insertSession_eq_some hinsert
        exact .inl (hsame rfl)
  | submit begunAt now input =>
      simp only [nextRows] at hrows
      split at hrows
      · obtain ⟨⟨v, replayed⟩, hsubmit, rfl⟩ := Option.map_eq_some_iff.mp hrows
        obtain ⟨rates, session, binding, learning, -, -, ⟨-, rfl, -⟩ | ⟨-, -, rfl⟩⟩ :=
          submitPracticeAnswer_eq_some hsubmit
        · exact .inl (hsame rfl)
        · exact .inl (hsame rfl)
      · cases hrows
  | expire now kind artifactId =>
      obtain ⟨⟨bundles, sessions, answers, feedback, rfl⟩, -⟩ := expirePrivate_eq_some hrows
      exact .inl (hsame rfl)
  | view now input =>
      cases hrows
      exact .inl (hsame rfl)

/-- The key of a run has been reserved. -/
theorem reserved_of_run {clock : Timestamp} {events : List PracticeEvent}
    (h : (practiceAfter environment clock events).runs key = some run) :
    key ∈ events.filterMap reservedKey := by
  induction events using List.reverseRecOn generalizing run with
  | nil => cases h
  | append_singleton events event ih =>
      unfold practiceAfter at h
      rw [after_concat] at h
      change ((practiceAfter environment clock events).step environment event).runs key =
        some run at h
      have hstep : (∃ old, (practiceAfter environment clock events).runs key = some old) ∨
          reservedKey event = some key := by
        unfold PracticeSystem.step at h
        cases hnext : (practiceAfter environment clock events).next environment event with
        | none =>
            rw [hnext] at h
            exact .inl ⟨run, h⟩
        | some t =>
            rw [hnext] at h
            exact runs_of_next hnext h
      rw [List.filterMap_append]
      rcases hstep with ⟨old, hold⟩ | hreserved
      · exact List.mem_append_left _ (ih hold)
      · refine List.mem_append_right _ (List.mem_filterMap.mpr ⟨event, ?_, hreserved⟩)
        exact List.mem_singleton_self _

/-- Checks that a switch is in time, on the keys that a history may have inserts of. -/
def isInTime (keys : List JsString) (s : PracticeSystem Digest) : PracticeEvent → Bool
  | .preparation event =>
      s.preparation.rows.revisions.all fun revision =>
        revision.isCurrent = true → (preparationLeavesAt revision event).all fun begunAt =>
          isOlder revision.id begunAt s.bundles ∧ isOlder revision.id begunAt s.answers ∧
            isOlder revision.id begunAt s.feedback ∧
            keys.all fun key => (s.inserted key).all fun row => row.revisionId ≠ revision.id
  | _ => true

/-- A history is checked on the keys that it reserves. -/
theorem switchesInTime_of_check {clock : Timestamp} {events : List PracticeEvent}
    (h : checkAll (PracticeSystem.step environment) (isInTime (events.filterMap reservedKey))
      (start clock) events = true) :
    Throughout (PracticeSystem.step environment) (start clock) (SwitchesInTime environment)
      events := by
  intro front event rest hevents
  have hcheck := throughout_iff_checkAll.mpr h front event rest hevents
  cases event with
  | preparation event =>
      intro _ revisionId revision begunAt hfind hcurrent hleaves
      obtain ⟨hmem, rfl⟩ := Github.PullRequestRows.findRevision_eq_some hfind
      have hchecked := of_decide_eq_true (List.all_eq_true.mp hcheck revision hmem) hcurrent
      rw [hleaves] at hchecked
      obtain ⟨hbundles, hanswers, hfeedback, hkeys⟩ := of_decide_eq_true hchecked
      refine ⟨isOlder_of_check hbundles, isOlder_of_check hanswers, isOlder_of_check hfeedback,
        fun key row hrow => ?_⟩
      obtain ⟨run, hrun, -⟩ := ((practiced_after front).inserted key row hrow).run
      have hreserved : key ∈ events.filterMap reservedKey := by
        rw [hevents, List.filterMap_append]
        exact List.mem_append_left _ (reserved_of_run hrun)
      have hkey := List.all_eq_true.mp hkeys key hreserved
      rw [hrow] at hkey
      exact of_decide_eq_true hkey
  | _ => trivial

end Samples

/-- The material is there before the head moves. -/
def sampleErased : List PracticeEvent :=
  sampleContexts ++ [sampleHead 20 (js "h2") (js "r5")]

theorem erased_on_switch_sample :
    Erased PreparationSystem.sampleEnvironment (js "r1")
      (practiceAfter PreparationSystem.sampleEnvironment 0 sampleErased)
      (practiceAfter PreparationSystem.sampleEnvironment 0
        (sampleErased ++ [sampleHead 21 (js "h1") (js "r6")])) := by
  refine ((erased_on_switch PreparationSystem.sampleEnvironment 0
    (sampleErased ++ [sampleHead 21 (js "h1") (js "r6")])).2
      (switchesInTime_of_check (by decide +kernel))).2 sampleErased _ (js "r1") rfl ?_
  rintro ⟨revision, hfind, hcurrent⟩
  have hleft : ((practiceAfter PreparationSystem.sampleEnvironment 0
      sampleErased).preparation.rows.findRevision (js "r1")).all (fun revision =>
        revision.isCurrent = false) = true := by
    decide +kernel
  rw [hfind] at hleft
  cases hcurrent.symm.trans (of_decide_eq_true hleft)

/-- A snapshot whose transaction has begun before the material is there. -/
def sampleEarly : PreparationEvent :=
  .rows (PullRequestRows.sampleSnapshot 5 .synchronize .open (js "h2") (js "r5"))

/-- The insert of material is open while the head goes away. -/
def sampleInsertOpen : List PracticeEvent :=
  sampleContexts.take 7 ++ (sampleLearned 10 (js "c1")).take 4 ++
    [sampleHead 20 (js "h2") (js "r5"), .commit (learningKey (js "c1"))]

def sampleOpenSystem : PracticeSystem (List UInt8) :=
  practiceAfter PreparationSystem.sampleEnvironment 0 sampleInsertOpen

def sampleBackSystem : PracticeSystem (List UInt8) :=
  practiceAfter PreparationSystem.sampleEnvironment 0
    (sampleInsertOpen ++ [sampleHead 21 (js "h1") (js "r6")])

def sampleRequest : ReadPracticeViewInput where
  revisionId := js "r1"
  generationContextId := js "c1"
  userId := js "author"
  practiceSessionId := none

/-- The guard refuses the switch that has begun early; and the material whose insert is open at
a switch is there when the revision is not current, and is read when it is current again. -/
theorem switch_refused_and_survived :
    ((sampleLearnedSystem.preparation.next PreparationSystem.sampleEnvironment
        sampleEarly).isSome = true ∧
      (sampleLearnedSystem.next PreparationSystem.sampleEnvironment
        (.preparation sampleEarly)).isSome = false) ∧
    (sampleOpenSystem.preparation.rows.findRevision (js "r1")).any (fun revision =>
      revision.isCurrent = false) = true ∧
    ∃ row ∈ sampleOpenSystem.bundles, row.revisionId = js "r1" ∧
      ∃ learning, row.payload = some learning ∧
        sampleBackSystem.readPracticeView PreparationSystem.sampleEnvironment 22 sampleRequest =
          .ready row.id learning none := by
  refine ⟨by decide +kernel, by decide +kernel, ?_⟩
  have hread : (sampleOpenSystem.bundles.any fun row => row.revisionId = js "r1" ∧
      (row.payload.any fun learning =>
        sampleBackSystem.readPracticeView PreparationSystem.sampleEnvironment 22 sampleRequest =
          .ready row.id learning none) = true) = true := by
    decide
  obtain ⟨row, hmem, hrow⟩ := List.any_eq_true.mp hread
  obtain ⟨hrevision, hview⟩ := of_decide_eq_true hrow
  obtain ⟨learning, hlearning, hready⟩ := (Option.any_eq_true ..).mp hview
  exact ⟨row, hmem, hrevision, learning, hlearning, of_decide_eq_true hready⟩

end PracticeSystem

end Worker

end UnderstandProof
