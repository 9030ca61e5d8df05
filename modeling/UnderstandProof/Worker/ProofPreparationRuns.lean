import UnderstandProof.Worker.ProofPreparation

/-!
# Preparations over all histories

A run keeps its seed from its reservation on, and the id of its plan is derived from the seed, so
all jobs with one idempotency key arrive at the same plan. An attempt is created only in the
transaction that persists a plan. That transaction writes the check of the revision, but an intent
after the analysis stands, and the failure of a preparation is one.
-/

open Foundation

namespace UnderstandProof

namespace Worker

open Domain (Timestamp)
open Db (CheckReason CheckRun GithubCheckIntent persistGithubCheckIntent_eq_ok)
open Github (Attempt PullRequestRevision PullRequestRows RevisionEnvironment RevisionEvent
  SemanticRun isLive)
open Github.PullRequestRows (Kept carries_of_checksOnly checksOnly_of_writeCheck insertAttempt_eq_some
  kept_start persistProofPlan_cases writeCheck_eq_some)

variable {Digest : Type} [DecidableEq Digest]

section Checks

variable {environment : RevisionEnvironment Digest} {rows rows' : PullRequestRows Digest}
  {now : Timestamp}

/-- An intent of another reason does not leave a failed preparation where there was none. -/
theorem not_failed_of_writeCheck {intent : GithubCheckIntent}
    (h : rows.writeCheck environment now intent = some rows')
    (hreason : intent.reason ≠ .preparationFailed)
    (hbefore : ∀ row, rows.checkRuns intent.revisionId = some row →
      row.intentReason ≠ some .preparationFailed) :
    ∀ row, rows'.checkRuns intent.revisionId = some row →
      row.intentReason ≠ some .preparationFailed := by
  obtain ⟨revision, advanced, write, hwrite, rfl⟩ := writeCheck_eq_some h
  intro row' hrow'
  dsimp only at hrow'
  rw [Table.set_self] at hrow'
  obtain rfl := Option.some_inj.mp hrow'
  obtain ⟨-, -, ⟨row, hrow, -, hsame, -⟩ | ⟨row, hrow, -, hsame | hsame, -⟩ |
    ⟨-, -, ⟨-, hsame⟩ | ⟨row, -, hsame, -⟩⟩⟩ := persistGithubCheckIntent_eq_ok hwrite
  · exact hsame ▸ hbefore row hrow
  · exact hsame ▸ hbefore row hrow
  · rw [hsame]
    exact hbefore row hrow
  · rw [hsame]
    exact fun hsome => hreason (Option.some_inj.mp hsome)
  · rw [hsame]
    exact fun hsome => hreason (Option.some_inj.mp hsome)

/-- A new attempt is on the revision of the run, whose check says no more than before that the
preparation has failed. -/
theorem created_of_persist {run : SemanticRun} {bindingActive fails : Bool} {attempt : Attempt}
    (h : rows.persistProofPlanAndCreateAttempt environment now run bindingActive fails = some rows')
    (hmem : attempt ∈ rows'.attempts) (hnew : attempt ∉ rows.attempts) :
    fails = false ∧ bindingActive = true ∧ attempt.revisionId = run.revisionId ∧
      ((∀ row, rows.checkRuns run.revisionId = some row →
          row.intentReason ≠ some .preparationFailed) →
        ∀ row, rows'.checkRuns run.revisionId = some row →
          row.intentReason ≠ some .preparationFailed) := by
  unfold PullRequestRows.persistProofPlanAndCreateAttempt at h
  split at h
  · cases h
  · next hguard =>
    rw [not_or, not_or] at hguard
    split at h
    · cases h
      exact absurd hmem hnew
    · split at h
      · cases h
      · obtain ⟨created, hcreated, hwrite⟩ := Option.bind_eq_some_iff.mp h
        obtain ⟨rfl, -⟩ := insertAttempt_eq_some hcreated
        obtain ⟨revision, advanced, write, hpersist, hsame⟩ := writeCheck_eq_some hwrite
        have hplanned : (rows.insertProofPlan run.planId run.revisionId).attempts = rows.attempts ∧
            (rows.insertProofPlan run.planId run.revisionId).checkRuns = rows.checkRuns := by
          unfold PullRequestRows.insertProofPlan
          split <;> exact ⟨rfl, rfl⟩
        refine ⟨by simpa using hguard.1, by simpa using hguard.2.1, ?_, fun hbefore => ?_⟩
        · rw [hsame, List.mem_append, hplanned.1] at hmem
          rw [List.mem_singleton.mp (hmem.resolve_left hnew)]
          rfl
        · refine not_failed_of_writeCheck hwrite (by simp [Github.PullRequestRows.proofReadyIntent,
            Github.PullRequestRows.checkIntent]) ?_
          intro row hrow
          exact hbefore row (hplanned.2 ▸ hrow)

end Checks

namespace PreparationSystem

variable {environment : PreparationEnvironment Digest} {s t : PreparationSystem Digest}
  {run : SemanticRunContext} {plan : ProofQuestionPlan} {now : Timestamp}
  {event : PreparationEvent}

/-! ## Seeds -/

/-- No run goes away, and each keeps its seed. -/
def KeepsSeeds (s t : PreparationSystem Digest) : Prop :=
  ∀ key row, s.runs key = some row →
    ∃ row', t.runs key = some row' ∧ row'.artifactSeed = row.artifactSeed

/-- The ids in a row are that of the plan of its seed. -/
structure RowBound (environment : PreparationEnvironment Digest) (row : GenerationRun) : Prop where
  artifactId : ∀ id, row.artifactId = some id → id = proofPlanId environment row.artifactSeed
  plan : ∀ plan, row.plan = some plan → plan.id = proofPlanId environment row.artifactSeed

/-- A job's run is in the table, with its seed. -/
def RunBound (environment : PreparationEnvironment Digest) (s : PreparationSystem Digest)
    (run : SemanticRunContext) : Prop :=
  ∃ row, s.runs run.idempotencyKey = some row ∧ run.artifactSeed = row.artifactSeed ∧
    ∀ id, run.completedArtifactId = some id → id = proofPlanId environment row.artifactSeed

def PhaseBound (environment : PreparationEnvironment Digest) (s : PreparationSystem Digest) :
    PreparationPhase → Prop
  | .reserved run => RunBound environment s run
  | .planned run plan =>
      RunBound environment s run ∧ plan.id = proofPlanId environment run.artifactSeed
  | .failing => True

/-- What every reachable state keeps. -/
structure Prepared (environment : PreparationEnvironment Digest) (s : PreparationSystem Digest) :
    Prop where
  kept : Kept environment.toRevisionEnvironment s.rows
  row : ∀ key row, s.runs key = some row → RowBound environment row
  job : ∀ job value, s.jobs job = some value → PhaseBound environment s value.phase

omit [DecidableEq Digest] in
theorem keepsSeeds_of_eq (h : t.runs = s.runs) : KeepsSeeds s t :=
  fun _ row hrow => ⟨row, h ▸ hrow, rfl⟩

omit [DecidableEq Digest] in
theorem KeepsSeeds.trans {u : PreparationSystem Digest} (h : KeepsSeeds s t)
    (h' : KeepsSeeds t u) : KeepsSeeds s u := by
  intro key row hrow
  obtain ⟨row', hrow', hseed⟩ := h key row hrow
  obtain ⟨row'', hrow'', hseed'⟩ := h' key row' hrow'
  exact ⟨row'', hrow'', hseed'.trans hseed⟩

omit [DecidableEq Digest] in
theorem RunBound.mono (h : RunBound environment s run) (hkeeps : KeepsSeeds s t) :
    RunBound environment t run := by
  obtain ⟨row, hrow, hseed, hcompleted⟩ := h
  obtain ⟨row', hrow', hsame⟩ := hkeeps _ row hrow
  exact ⟨row', hrow', hseed.trans hsame.symm, fun id hid => hsame ▸ hcompleted id hid⟩

omit [DecidableEq Digest] in
theorem PhaseBound.mono {phase : PreparationPhase} (h : PhaseBound environment s phase)
    (hkeeps : KeepsSeeds s t) : PhaseBound environment t phase := by
  cases phase with
  | reserved run => exact RunBound.mono h hkeeps
  | planned run plan => exact ⟨h.1.mono hkeeps, h.2⟩
  | failing => trivial

section Keeps

omit [DecidableEq Digest]

theorem Prepared.withJob (h : Prepared environment s) {job : ℕ} {value : PreparationJob}
    (hphase : PhaseBound environment s value.phase) : Prepared environment (s.withJob job value) where
  kept := h.kept
  row := h.row
  job := by
    intro other value' hvalue'
    unfold PreparationSystem.withJob at hvalue'
    dsimp only at hvalue'
    rw [Table.set_apply] at hvalue'
    split at hvalue'
    · exact Option.some_inj.mp hvalue' ▸ hphase
    · exact h.job other value' hvalue'

theorem Prepared.withoutJob (h : Prepared environment s) {job : ℕ} :
    Prepared environment (s.withoutJob job) where
  kept := h.kept
  row := h.row
  job := by
    intro other value hvalue
    unfold PreparationSystem.withoutJob at hvalue
    dsimp only at hvalue
    rw [Function.update_apply] at hvalue
    split at hvalue
    · cases hvalue
    · exact h.job other value hvalue

theorem Prepared.withRows (h : Prepared environment s) {rows : PullRequestRows Digest}
    (hkept : Kept environment.toRevisionEnvironment rows) :
    Prepared environment { s with rows := rows } where
  kept := hkept
  row := h.row
  job := h.job

/-- One run is written. -/
theorem Prepared.withRun (h : Prepared environment s) {key : JsString} {row : GenerationRun}
    {plans : Table JsString FrozenPlan} (hrow : RowBound environment row)
    (hseed : ∀ old, s.runs key = some old → row.artifactSeed = old.artifactSeed) :
    Prepared environment { s with runs := s.runs.set key row, plans := plans } ∧
      KeepsSeeds s { s with runs := s.runs.set key row, plans := plans } := by
  have hkeeps : KeepsSeeds s { s with runs := s.runs.set key row, plans := plans } := by
    intro other old hold
    by_cases hother : other = key
    · subst hother
      exact ⟨row, Table.set_self, hseed old hold⟩
    · exact ⟨old, (Table.set_of_ne hother).trans hold, rfl⟩
  refine ⟨⟨h.kept, ?_, fun job value hvalue => (h.job job value hvalue).mono hkeeps⟩, hkeeps⟩
  intro other row' hrow'
  dsimp only at hrow'
  rw [Table.set_apply] at hrow'
  split at hrow'
  · exact Option.some_inj.mp hrow' ▸ hrow
  · exact h.row other row' hrow'

theorem reserveRun_cases {payload : ProofPayload}
    (h : s.reserveRun environment payload = .reserved t run) :
    ∃ row, (s.runs payload.idempotencyKey = some row ∨
        s.runs payload.idempotencyKey = none ∧ row.artifactId = none ∧ row.plan = none) ∧
      t = { s with runs := s.runs.set payload.idempotencyKey row } ∧
      run.idempotencyKey = payload.idempotencyKey ∧ run.artifactSeed = row.artifactSeed ∧
      run.completedArtifactId = row.artifactId := by
  unfold reserveRun at h
  split at h
  · cases h
  · next revision budget hbinding =>
    dsimp only at h
    split at h
    · cases h
    · cases h
      refine ⟨_, ?_, rfl, rfl, rfl, rfl⟩
      cases hrun : s.runs payload.idempotencyKey with
      | some row => exact .inl rfl
      | none => exact .inr ⟨rfl, rfl, rfl⟩

/-- A reservation writes the row that is there, or a new one. -/
theorem Prepared.reserve (h : Prepared environment s) {payload : ProofPayload}
    (hreserve : s.reserveRun environment payload = .reserved t run) :
    Prepared environment t ∧ KeepsSeeds s t ∧ RunBound environment t run := by
  obtain ⟨row, hrow, rfl, hkey, hseed, hcompleted⟩ := reserveRun_cases hreserve
  have hbound : RowBound environment row := by
    rcases hrow with hrow | ⟨-, hartifact, hplan⟩
    · exact h.row _ row hrow
    · constructor
      · intro id hid
        exact nomatch hartifact.symm.trans hid
      · intro plan hsome
        exact nomatch hplan.symm.trans hsome
  have hold : ∀ old, s.runs payload.idempotencyKey = some old →
      row.artifactSeed = old.artifactSeed := by
    intro old hsome
    rcases hrow with hrow | ⟨hnone, -⟩
    · rw [Option.some_inj.mp (hrow.symm.trans hsome)]
    · exact nomatch hnone.symm.trans hsome
  obtain ⟨hprepared, hkeeps⟩ := @Prepared.withRun _ environment s h _ row s.plans hbound hold
  refine ⟨hprepared, hkeeps, row, hkey ▸ Table.set_self, hseed, fun id hid => ?_⟩
  exact hbound.artifactId id (hcompleted ▸ hid)

/-- The plan of the run is stored in its row. -/
theorem Prepared.storePlan (h : Prepared environment s)
    (hplan : plan.id = proofPlanId environment run.artifactSeed) (hrun : RunBound environment s run)
    (hstore : s.storePlan run plan = some t) :
    Prepared environment t ∧ KeepsSeeds s t ∧ t.rows = s.rows := by
  obtain ⟨row, hrow, hseed, -⟩ := hrun
  have hbound := h.row _ row hrow
  rw [hseed] at hplan
  have hor : ∀ other, row.plan.or (some plan) = some other →
      other.id = proofPlanId environment row.artifactSeed := by
    intro other hother
    cases hstored : row.plan with
    | some stored =>
        rw [hstored] at hother
        exact Option.some_inj.mp hother ▸ hbound.plan stored hstored
    | none =>
        rw [hstored] at hother
        exact Option.some_inj.mp hother ▸ hplan
  have hold : ∀ old, s.runs run.idempotencyKey = some old → row.artifactSeed = old.artifactSeed :=
    fun old hsome => by rw [Option.some_inj.mp (hrow.symm.trans hsome)]
  unfold PreparationSystem.storePlan at hstore
  rw [hrow] at hstore
  dsimp only at hstore
  split at hstore
  · cases hstore
  · split at hstore
    · split at hstore
      · cases hstore
        have hcompleted : RowBound environment
            { row with plan := row.plan.or (some plan), artifactId := some plan.id } :=
          ⟨fun id hid => Option.some_inj.mp hid ▸ hplan, hor⟩
        obtain ⟨hprepared, hkeeps⟩ := h.withRun hcompleted hold
        exact ⟨hprepared, hkeeps, rfl⟩
      · cases hstore
    · split at hstore
      · cases hstore
        have hkeptRow : RowBound environment { row with plan := row.plan.or (some plan) } :=
          ⟨hbound.artifactId, hor⟩
        obtain ⟨hprepared, hkeeps⟩ := h.withRun hkeptRow hold
        exact ⟨hprepared, hkeeps, rfl⟩
      · cases hstore

end Keeps

theorem persist_cases {fails : Bool}
    (h : s.persistProofPlanAndCreateAttempt environment now run plan fails = some t) :
    ∃ rows, s.rows.persistProofPlanAndCreateAttempt environment.toRevisionEnvironment now
        (semanticRun environment run plan) s.bindingActive fails = some rows ∧
      (t = { s with rows := rows } ∨
        ∃ stored, s.storePlan run plan = some stored ∧ t = { stored with rows := rows }) := by
  unfold persistProofPlanAndCreateAttempt at h
  split at h
  · cases h
  · obtain ⟨rows, hrows, hrest⟩ := Option.bind_eq_some_iff.mp h
    refine ⟨rows, hrows, ?_⟩
    split at hrest
    · exact .inl (Option.some_inj.mp hrest).symm
    · obtain ⟨stored, hstored, rfl⟩ := Option.map_eq_some_iff.mp hrest
      exact .inr ⟨stored, hstored, rfl⟩

theorem Prepared.persist (h : Prepared environment s) {fails : Bool}
    (hrun : RunBound environment s run)
    (hplan : plan.id = proofPlanId environment run.artifactSeed)
    (hpersist : s.persistProofPlanAndCreateAttempt environment now run plan fails = some t) :
    Prepared environment t ∧ KeepsSeeds s t := by
  obtain ⟨rows, hrows, rfl | ⟨stored, hstored, rfl⟩⟩ := persist_cases hpersist
  · exact ⟨h.withRows (h.kept.of_carries (persistProofPlan_cases hrows).2), keepsSeeds_of_eq rfl⟩
  · obtain ⟨hprepared, hkeeps, -⟩ := h.storePlan hplan hrun hstored
    exact ⟨hprepared.withRows (h.kept.of_carries (persistProofPlan_cases hrows).2), hkeeps⟩

theorem Prepared.fail (h : Prepared environment s) {payload : ProofPayload} {first : Bool} :
    Prepared environment (s.failProofPreparation environment now first payload).1 ∧
      (s.failProofPreparation environment now first payload).1.runs = s.runs := by
  unfold failProofPreparation
  split
  · split
    · next rows hwrite =>
      exact ⟨h.withRows (h.kept.of_carries (carries_of_checksOnly (checksOnly_of_writeCheck hwrite))),
        rfl⟩
    · exact ⟨h, rfl⟩
  · exact ⟨h, rfl⟩

/-! ## Steps -/

omit [DecidableEq Digest] in
theorem Prepared.generate (h : Prepared environment s) {job : ℕ} {value : PreparationJob}
    {result : GenerationResult} (hjob : s.jobs job = some value)
    (hnext : s.generate environment job value result = some t) :
    Prepared environment t ∧ KeepsSeeds s t := by
  have hphase := h.job job value hjob
  unfold PreparationSystem.generate at hnext
  split at hnext
  · next run hrun =>
    rw [hrun] at hphase
    split at hnext
    · cases result with
      | generated content =>
          cases hnext
          exact ⟨h.withJob ⟨hphase, rfl⟩, keepsSeeds_of_eq rfl⟩
      | retryableError =>
          cases hnext
          exact ⟨h.withoutJob, keepsSeeds_of_eq rfl⟩
      | error =>
          cases hnext
          exact ⟨h.withJob trivial, keepsSeeds_of_eq rfl⟩
    · cases hnext
  · cases hnext

omit [DecidableEq Digest] in
/-- The plan that a replay recovers is that of the completed run. -/
theorem replayCompletedProof_recovers (h : s.replayCompletedProof run = .recovers plan) :
    run.completedArtifactId = some plan.id := by
  unfold replayCompletedProof at h
  split at h
  · cases h
  · split at h
    · cases h
    · split at h
      · cases h
      · split at h
        · cases h
        · next hsame =>
          rw [not_or, not_not] at hsame
          split at h
          · cases h
          · split at h
            · cases h
            · split at h
              · cases h
              · cases h
                exact hsame.1

omit [DecidableEq Digest] in
theorem Prepared.replay (h : Prepared environment s) {job : ℕ} {value : PreparationJob}
    (hjob : s.jobs job = some value) (hnext : s.replay job value = some t) :
    Prepared environment t ∧ KeepsSeeds s t := by
  have hphase := h.job job value hjob
  unfold PreparationSystem.replay at hnext
  split at hnext
  · next run hrun =>
    rw [hrun] at hphase
    obtain ⟨row, hrow, hseed, hcompleted⟩ := hphase
    split at hnext
    · cases hnext
    · split at hnext
      · next plan hrecovers =>
        cases hnext
        refine ⟨h.withJob ⟨⟨row, hrow, hseed, hcompleted⟩, ?_⟩, keepsSeeds_of_eq rfl⟩
        rw [hseed]
        exact hcompleted _ (replayCompletedProof_recovers hrecovers)
      · cases hnext
        exact ⟨h.withoutJob, keepsSeeds_of_eq rfl⟩
  · cases hnext

theorem Prepared.next (h : Prepared environment s) (hnext : s.next environment event = some t) :
    Prepared environment t ∧ KeepsSeeds s t := by
  cases event with
  | rows event =>
      simp only [PreparationSystem.next] at hnext
      split at hnext
      · obtain ⟨rows, hrows, rfl⟩ := Option.map_eq_some_iff.mp hnext
        exact ⟨h.withRows (h.kept.next hrows).1, keepsSeeds_of_eq rfl⟩
      · cases hnext
  | binding active =>
      cases hnext
      exact ⟨⟨h.kept, h.row, h.job⟩, keepsSeeds_of_eq rfl⟩
  | schedule generationContextId budget =>
      simp only [PreparationSystem.next] at hnext
      split at hnext
      · cases hnext
        exact ⟨⟨h.kept, h.row, h.job⟩, keepsSeeds_of_eq rfl⟩
      · cases hnext
  | reserve job payload =>
      simp only [PreparationSystem.next] at hnext
      split at hnext
      · split at hnext
        · cases hnext
        · cases hnext
          exact ⟨h.withJob trivial, keepsSeeds_of_eq rfl⟩
        · next u run hreserve =>
          cases hnext
          obtain ⟨hprepared, hkeeps, hrun⟩ := h.reserve hreserve
          exact ⟨hprepared.withJob hrun, hkeeps⟩
      · cases hnext
  | generate job result =>
      obtain ⟨value, hjob, hgenerate⟩ := Option.bind_eq_some_iff.mp hnext
      exact h.generate hjob hgenerate
  | replay job =>
      obtain ⟨value, hjob, hreplay⟩ := Option.bind_eq_some_iff.mp hnext
      exact h.replay hjob hreplay
  | persist job now fails =>
      obtain ⟨value, hjob, hpersist⟩ := Option.bind_eq_some_iff.mp hnext
      have hphase := h.job job value hjob
      split at hpersist
      · next run plan hplanned =>
        rw [hplanned] at hphase
        cases hpersist
        cases hstored : s.persistProofPlanAndCreateAttempt environment now run plan fails with
        | none => exact ⟨h.withoutJob, keepsSeeds_of_eq rfl⟩
        | some u =>
            obtain ⟨hprepared, hkeeps⟩ := h.persist hphase.1 hphase.2 hstored
            exact ⟨hprepared.withoutJob, hkeeps⟩
      · cases hpersist
  | fail job now first =>
      obtain ⟨value, hjob, hfail⟩ := Option.bind_eq_some_iff.mp hnext
      split at hfail
      · cases hfail
        obtain ⟨hprepared, hruns⟩ := @Prepared.fail _ _ environment s now h value.payload first
        exact ⟨hprepared.withoutJob, keepsSeeds_of_eq hruns⟩
      · cases hfail
  | crash job =>
      obtain ⟨value, hjob, rfl⟩ := Option.map_eq_some_iff.mp hnext
      exact ⟨h.withoutJob, keepsSeeds_of_eq rfl⟩

theorem Prepared.step (h : Prepared environment s) (event : PreparationEvent) :
    Prepared environment (s.step environment event) ∧ KeepsSeeds s (s.step environment event) := by
  unfold PreparationSystem.step
  cases hnext : s.next environment event with
  | none => exact ⟨h, keepsSeeds_of_eq rfl⟩
  | some t => exact h.next hnext

/-! ## One outcome -/

/-- A step of a job. -/
def isJobEvent : PreparationEvent → Bool
  | .rows _ => false
  | .binding _ => false
  | .schedule .. => false
  | _ => true

/-- The plan of a job with the idempotency key, or of its completed run. -/
def Yields (s : PreparationSystem Digest) (key planId : JsString) : Prop :=
  (∃ job value run plan, s.jobs job = some value ∧ value.phase = .planned run plan ∧
    run.idempotencyKey = key ∧ plan.id = planId) ∨
  (∃ job value run, s.jobs job = some value ∧ value.phase = .reserved run ∧
    run.idempotencyKey = key ∧ run.completedArtifactId = some planId) ∨
  ∃ row, s.runs key = some row ∧ row.artifactId = some planId

/-- No plan is persisted while the check of its revision says that the preparation has failed. -/
def PersistsInTime (s : PreparationSystem Digest) : PreparationEvent → Prop
  | .persist job _ fails => ∀ value run plan, s.jobs job = some value →
      value.phase = .planned run plan →
      fails = true ∨ s.bindingActive = false ∨ s.hasFailedPreparation run.revisionId = false
  | _ => True

omit [DecidableEq Digest] in
/-- A plan has the id of its run's seed. -/
theorem Prepared.yields (h : Prepared environment s) {key planId : JsString}
    (hyields : s.Yields key planId) :
    ∃ row, s.runs key = some row ∧ planId = proofPlanId environment row.artifactSeed := by
  rcases hyields with ⟨job, value, run, plan, hjob, hphase, rfl, rfl⟩ |
    ⟨job, value, run, hjob, hphase, rfl, hcompleted⟩ | ⟨row, hrow, hartifact⟩
  · have hbound := h.job job value hjob
    rw [hphase] at hbound
    obtain ⟨⟨row, hrow, hseed, -⟩, hplan⟩ := hbound
    exact ⟨row, hrow, hseed ▸ hplan⟩
  · have hbound := h.job job value hjob
    rw [hphase] at hbound
    obtain ⟨row, hrow, -, hid⟩ := hbound
    exact ⟨row, hrow, hid _ hcompleted⟩
  · exact ⟨row, hrow, (h.row key row hrow).artifactId _ hartifact⟩

omit [DecidableEq Digest] in
theorem hasFailedPreparation_eq_false {revisionId : JsString} :
    s.hasFailedPreparation revisionId = false ↔
      ∀ row, s.rows.checkRuns revisionId = some row →
        row.intentReason ≠ some .preparationFailed := by
  unfold hasFailedPreparation
  cases s.rows.checkRuns revisionId with
  | none => simp
  | some row => simp

theorem attempts_of_fail {payload : ProofPayload} {first : Bool} :
    (s.failProofPreparation environment now first payload).1.rows.attempts = s.rows.attempts := by
  unfold failProofPreparation
  split
  · split
    · next rows hwrite => exact (checksOnly_of_writeCheck hwrite).attempts
    · rfl
  · rfl

/-- Of the steps of jobs, only the persistence of a plan writes attempts. -/
theorem attempts_of_job (hevent : isJobEvent event = true)
    (hnext : s.next environment event = some t) :
    t.rows.attempts = s.rows.attempts ∨
      ∃ job now fails value run plan u, event = .persist job now fails ∧ s.jobs job = some value ∧
        value.phase = .planned run plan ∧
        s.persistProofPlanAndCreateAttempt environment now run plan fails = some u ∧
        t = u.withoutJob job := by
  cases event with
  | rows event => cases hevent
  | binding active => cases hevent
  | schedule generationContextId budget => cases hevent
  | reserve job payload =>
      simp only [PreparationSystem.next] at hnext
      split at hnext
      · split at hnext
        · cases hnext
        · cases hnext
          exact .inl rfl
        · next u run hreserve =>
          cases hnext
          obtain ⟨row, -, rfl, -⟩ := reserveRun_cases hreserve
          exact .inl rfl
      · cases hnext
  | generate job result =>
      obtain ⟨value, -, hgenerate⟩ := Option.bind_eq_some_iff.mp hnext
      unfold PreparationSystem.generate at hgenerate
      split at hgenerate
      · split at hgenerate
        · cases result <;> cases hgenerate <;> exact .inl rfl
        · cases hgenerate
      · cases hgenerate
  | replay job =>
      obtain ⟨value, -, hreplay⟩ := Option.bind_eq_some_iff.mp hnext
      unfold PreparationSystem.replay at hreplay
      split at hreplay
      · split at hreplay
        · cases hreplay
        · split at hreplay <;> cases hreplay <;> exact .inl rfl
      · cases hreplay
  | persist job now fails =>
      obtain ⟨value, hjob, hpersist⟩ := Option.bind_eq_some_iff.mp hnext
      split at hpersist
      · next run plan hplanned =>
        cases hpersist
        cases hstored : s.persistProofPlanAndCreateAttempt environment now run plan fails with
        | none => exact .inl rfl
        | some u =>
            exact .inr ⟨job, now, fails, value, run, plan, u, rfl, hjob, hplanned, hstored, rfl⟩
      · cases hpersist
  | fail job now first =>
      obtain ⟨value, -, hfail⟩ := Option.bind_eq_some_iff.mp hnext
      split at hfail
      · cases hfail
        exact .inl attempts_of_fail
      · cases hfail
  | crash job =>
      obtain ⟨value, -, rfl⟩ := Option.map_eq_some_iff.mp hnext
      exact .inl rfl

/-- An attempt that a job creates is not left with a failed preparation. -/
theorem created_of_step {attempt : Attempt} (hevent : isJobEvent event = true)
    (hmem : attempt ∈ (s.step environment event).rows.attempts)
    (hnew : attempt ∉ s.rows.attempts) (htime : s.PersistsInTime event) :
    (s.step environment event).hasFailedPreparation attempt.revisionId = false := by
  unfold PreparationSystem.step at hmem ⊢
  cases hnext : s.next environment event with
  | none =>
      rw [hnext] at hmem
      exact absurd hmem hnew
  | some t =>
      rw [hnext, Option.getD_some] at hmem
      rw [Option.getD_some]
      rcases attempts_of_job hevent hnext with hsame |
        ⟨job, now, fails, value, run, plan, u, rfl, hjob, hphase, hpersist, rfl⟩
      · exact absurd (hsame ▸ hmem) hnew
      · obtain ⟨rows, hrows, hu⟩ := persist_cases hpersist
        have hwritten : u.rows = rows := by
          rcases hu with rfl | ⟨stored, -, rfl⟩ <;> rfl
        change attempt ∈ u.rows.attempts at hmem
        change u.hasFailedPreparation attempt.revisionId = false
        rw [hwritten] at hmem
        obtain ⟨hfails, hactive, hrevision, hcheck⟩ := created_of_persist hrows hmem hnew
        have hbefore : s.hasFailedPreparation run.revisionId = false := by
          rcases htime value run plan hjob hphase with hfailed | hinactive | hbefore
          · exact nomatch hfails.symm.trans hfailed
          · exact nomatch hactive.symm.trans hinactive
          · exact hbefore
        rw [hasFailedPreparation_eq_false, hwritten, hrevision]
        exact hcheck (hasFailedPreparation_eq_false.mp hbefore)

/-- Once an attempt of the revision exists, no failure is recorded. -/
theorem failProofPreparation_of_attempt {payload : ProofPayload} {first : Bool} {attempt : Attempt}
    (hmem : attempt ∈ s.rows.attempts) (hrevision : attempt.revisionId = payload.revisionId) :
    s.failProofPreparation environment now first payload = (s, .stale) := by
  unfold failProofPreparation
  rw [if_neg]
  rintro ⟨-, -, -, hnone⟩
  have hsome : s.rows.attempts.any (·.revisionId = payload.revisionId) = true :=
    List.any_eq_true.mpr ⟨attempt, hmem, decide_eq_true hrevision⟩
  exact nomatch hsome.symm.trans hnone

/-! ## Histories -/

section Histories

variable (environment : PreparationEnvironment Digest)

/-- The system after a history. -/
abbrev preparationAfter (events : List PreparationEvent) : PreparationSystem Digest :=
  after (PreparationSystem.step environment) start events

variable {environment}

theorem prepared_after (events : List PreparationEvent) :
    Prepared environment (preparationAfter environment events) := by
  refine after_keeps (I := fun s : PreparationSystem Digest => Prepared environment s) ?_
    (fun s event h => (h.step event).1) events
  exact ⟨kept_start, fun _ _ hrow => (nomatch hrow), fun _ _ hjob => (nomatch hjob)⟩

theorem keepsSeeds_after (events more : List PreparationEvent) :
    KeepsSeeds (preparationAfter environment events)
      (preparationAfter environment (events ++ more)) := by
  induction more using List.reverseRecOn with
  | nil =>
      rw [List.append_nil]
      exact keepsSeeds_of_eq rfl
  | append_singleton more event ih =>
      rw [← List.append_assoc]
      unfold preparationAfter
      rw [after_concat]
      exact ih.trans ((prepared_after (events ++ more)).step event).2

/-- In every history in which no plan is persisted while the check of its revision says that the
preparation has failed: a revision and an author have one live attempt at most, no failure is
recorded once the revision has an attempt, no job creates an attempt that it leaves with a failed
preparation, and what is yielded for an idempotency key is one plan, in every state reached. -/
theorem one_outcome (environment : PreparationEnvironment Digest) (events : List PreparationEvent)
    (htime : Throughout (PreparationSystem.step environment) start PersistsInTime events) :
    (∀ attempt ∈ (preparationAfter environment events).rows.attempts,
      ∀ other ∈ (preparationAfter environment events).rows.attempts,
      isLive attempt.status = true → isLive other.status = true →
      attempt.revisionId = other.revisionId → attempt.authorId = other.authorId →
      attempt = other) ∧
    (∀ attempt ∈ (preparationAfter environment events).rows.attempts, ∀ payload now first,
      attempt.revisionId = payload.revisionId →
      (preparationAfter environment events).failProofPreparation environment now first payload =
        (preparationAfter environment events, .stale)) ∧
    (∀ front event rest, events = front ++ event :: rest → isJobEvent event = true →
      ∀ attempt ∈ (preparationAfter environment (front ++ [event])).rows.attempts,
      attempt ∉ (preparationAfter environment front).rows.attempts →
      (preparationAfter environment (front ++ [event])).hasFailedPreparation attempt.revisionId =
        false) ∧
    ∀ front rest key planId planId', events = front ++ rest →
      (preparationAfter environment front).Yields key planId →
      (preparationAfter environment events).Yields key planId' → planId = planId' := by
  refine ⟨(prepared_after events).kept.settled.single, ?_, ?_, ?_⟩
  · intro attempt hmem payload now first hrevision
    exact failProofPreparation_of_attempt hmem hrevision
  · rintro front event rest rfl hevent attempt hmem hnew
    have hstep := htime front event rest rfl
    unfold preparationAfter at hmem ⊢
    rw [after_concat] at hmem ⊢
    exact created_of_step hevent hmem hnew hstep
  · rintro front rest key planId planId' rfl hfirst hlast
    obtain ⟨row, hrow, rfl⟩ := (prepared_after front).yields hfirst
    obtain ⟨row', hrow', rfl⟩ := (prepared_after (front ++ rest)).yields hlast
    obtain ⟨row'', hrow'', hseed⟩ := keepsSeeds_after front rest key row hrow
    rw [← hseed, Option.some_inj.mp (hrow'.symm.trans hrow'')]

end Histories

/-! ## Histories with two deliveries -/

def sampleEnvironment : PreparationEnvironment (List UInt8) where
  toRevisionEnvironment := PullRequestRows.sampleUrls
  sha256Hex := id
  repositoryId := js "repository"
  authorId := js "author"

def samplePayload : ProofPayload where
  idempotencyKey := js "semantic.proof.v2:c1"
  revisionId := js "r1"
  generationContextId := js "c1"
  expectedHeadSha := js "h1"

/-- Two deliveries of one payload have reserved its run. -/
def sampleReserved : List PreparationEvent :=
  [.rows (PullRequestRows.sampleSnapshot 1 .opened .open (js "h1") (js "r1")),
    .schedule (js "c1")
      { revisionId := js "r1"
        headSha := js "h1"
        repositoryPolicyId := js "policy"
        questionBudget := 1 },
    .reserve 0 samplePayload,
    .reserve 1 samplePayload]

/-- The first delivery persists its plan. -/
def samplePersisted : List PreparationEvent :=
  [.generate 0 (.generated
      [{ intent := js "behavior"
         prompt := js "Why?"
         anchorIds := [js "a1"]
         requiredPoints := [js "retry"] }]),
    .persist 0 4 false]

/-- The second delivery records a failure. -/
def sampleFailed : List PreparationEvent :=
  [.generate 1 .error, .fail 1 3 true]

theorem one_outcome_sample :
    let s := preparationAfter sampleEnvironment (sampleReserved ++ samplePersisted ++ sampleFailed)
    s.rows.attempts.length = 1 ∧ s.hasFailedPreparation (js "r1") = false ∧
      ∀ planId, s.Yields (js "semantic.proof.v2:c1") planId →
        planId = proofPlanId sampleEnvironment
          (artifactSeed sampleEnvironment
            { revisionId := js "r1"
              headSha := js "h1"
              repositoryPolicyId := js "policy"
              questionBudget := 1 } samplePayload) := by
  have htime : Throughout (PreparationSystem.step sampleEnvironment) start PersistsInTime
      (sampleReserved ++ samplePersisted ++ sampleFailed) := by
    iterate 5 refine throughout_cons.mpr ⟨trivial, ?_⟩
    refine throughout_cons.mpr ⟨?_, ?_⟩
    · intro value run plan hjob hphase
      cases hjob
      cases hphase
      exact .inr (.inr (by decide))
    · iterate 2 refine throughout_cons.mpr ⟨trivial, ?_⟩
      exact throughout_nil
  obtain ⟨-, -, -, hyields⟩ := one_outcome sampleEnvironment
    (sampleReserved ++ samplePersisted ++ sampleFailed) htime
  refine ⟨by decide, by decide, fun planId hplan => ?_⟩
  have hcompleted : ((preparationAfter sampleEnvironment
      (sampleReserved ++ samplePersisted ++ sampleFailed)).runs (js "semantic.proof.v2:c1")).bind
        GenerationRun.artifactId =
      some (proofPlanId sampleEnvironment
        (artifactSeed sampleEnvironment
          { revisionId := js "r1"
            headSha := js "h1"
            repositoryPolicyId := js "policy"
            questionBudget := 1 } samplePayload)) := by
    decide
  obtain ⟨row, hrow, hartifact⟩ := Option.bind_eq_some_iff.mp hcompleted
  exact hyields (sampleReserved ++ samplePersisted ++ sampleFailed) [] _ planId _
    (List.append_nil _).symm hplan (.inr (.inr ⟨row, hrow, hartifact⟩))

/-- The first delivery persists its plan behind the failure of the second, which stands. -/
theorem attempt_after_failure :
    let failed := preparationAfter sampleEnvironment (sampleReserved ++ sampleFailed)
    let persisted := preparationAfter sampleEnvironment
      (sampleReserved ++ sampleFailed ++ samplePersisted)
    failed.rows.attempts = [] ∧ failed.hasFailedPreparation (js "r1") = true ∧
      persisted.rows.attempts.map (fun attempt => (attempt.revisionId, attempt.status)) =
        [(js "r1", .ready)] ∧
      persisted.hasFailedPreparation (js "r1") = true := by
  decide

end PreparationSystem

end Worker

end UnderstandProof
