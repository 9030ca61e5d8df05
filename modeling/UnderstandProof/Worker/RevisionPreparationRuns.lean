import UnderstandProof.Github.PassedRevisions
import UnderstandProof.Worker.ProofPreparationRuns
import UnderstandProof.Worker.RevisionPreparation

/-!
# Failed preparations over all histories

The failure of a preparation is recorded whether or not the revision has attempts, so it overrides
the proof of a revision that is prepared again and fails. A preparation fails again when the
policy that is active now is not the one that the budget was frozen under, and in few other ways.
In every history in which the revisions with attempts are spared from these, no failure is
recorded for one of them, and a passed revision keeps its successful check.
-/

open Foundation

namespace UnderstandProof

namespace Worker

open Db (GithubCheckIntent hashCheckIntent persistGithubCheckIntent)
open Db.CheckSync (CollisionFree)
open Domain (Timestamp)
open Github (PullRequestRevision PullRequestRows RevisionEvent isLive)
open Github.PullRequestRows (Admits BlamesNone Ends Finished MayReplace ShowsSuccess
  aside_of_writeCheck blamesNone_of_eq blamesNone_of_snapshot blamesNone_of_transition
  blamesNone_of_writeCheck carries_of_checksOnly checkIntent checksOnly_of_writeCheck
  createReplacement_admits createReplacement_cases ends_snapshot finished_start hasPassed_eq_true
  kept_start persistProofPlan_admits showsSuccess_of_analysis transition_cases)
open Policy (RepositoryPolicyV1)

namespace RevisionPreparations

variable {Digest : Type} [DecidableEq Digest] {environment : PreparationEnvironment Digest}
  {s t : RevisionPreparations Digest} {now : Timestamp} {payload : RevisionPayload}
  {policyVersion : ℕ} {policy : RepositoryPolicyV1} {source : PreparedSource}
  {policyId revisionId : JsString} {fails : Bool} {event : RevisionPreparationEvent}

/-! ## When a preparation goes through -/

/-- The revision's check takes an intent of the analysis. -/
def IntentFits (environment : PreparationEnvironment Digest) (intent : GithubCheckIntent)
    (s : RevisionPreparations Digest) : Prop :=
  match s.rows.checkRuns intent.revisionId with
  | none => s.rows.isAdvanced intent.revisionId = false
  | some row => row.intentIdempotencyKey = some intent.idempotencyKey →
      row.intentHash = some (hashCheckIntent environment.sha256 intent)

/-- The budget that is planned is valid under the active policy, and is the one that is stored for
the context, if any is. -/
structure BudgetFits (generationContextId : JsString) (budget : GenerationBudget)
    (s : RevisionPreparations Digest) : Prop where
  count : 1 ≤ budget.questionBudget ∧ budget.questionBudget ≤ 5
  valid : s.validatesBudget budget = true
  stored : ∀ row, s.budgets generationContextId = some row → row = budget

/-- The transaction of a preparation finds what it needs. -/
def PreparationFits (environment : PreparationEnvironment Digest) (payload : RevisionPayload)
    (policy : RepositoryPolicyV1) (source : PreparedSource) (policyId : JsString) (fails : Bool)
    (s : RevisionPreparations Digest) : Prop :=
  fails = false ∧ ∃ frozen, s.ensureDefaultPolicy policy policyId = some frozen ∧
    match planProofBudget policy source with
    | none => IntentFits environment (splitIntent environment.toRevisionEnvironment payload) s
    | some questionBudget =>
        BudgetFits source.generationContextId
            { revisionId := payload.revisionId
              headSha := payload.expectedHeadSha
              repositoryPolicyId := frozen.2
              questionBudget := questionBudget } frozen.1 ∧
          (s.budgets source.generationContextId = none →
            IntentFits environment
              (queuedIntent environment.toRevisionEnvironment payload source.generationContextId) s)

omit [DecidableEq Digest] in
theorem isPreparable_eq_true :
    s.isPreparable payload = true ↔
      ∃ revision, s.rows.findRevision payload.revisionId = some revision ∧
        revision.isCurrent = true ∧ revision.headSha = payload.expectedHeadSha ∧
        s.rows.state = some .open := by
  unfold isPreparable
  cases s.rows.findRevision payload.revisionId with
  | none => simp
  | some revision => simp [and_assoc]

/-- An intent of the analysis for a revision that may be prepared is written if it fits. -/
theorem writeIntent_isSome_iff {intent : GithubCheckIntent} (hrows : t.rows = s.rows)
    (hpreparable : s.isPreparable payload = true) (hrevision : intent.revisionId = payload.revisionId)
    (hhead : intent.expectedHeadSha = payload.expectedHeadSha) (haccepts : intent.accepts = true)
    (hreason : intent.reason = .analysisReady) (hconclusion : intent.conclusion ≠ some .success) :
    (t.writeIntent environment now intent).isSome = true ↔ IntentFits environment intent s := by
  obtain ⟨revision, hfind, hcurrent, hsame, -⟩ := isPreparable_eq_true.mp hpreparable
  have hstale : Db.isStaleIntent ⟨revision.headSha, revision.isCurrent⟩ intent = false := by
    simp [Db.isStaleIntent, hcurrent, hsame, hhead]
  unfold writeIntent PullRequestRows.writeCheck IntentFits
  rw [Option.isSome_map, hrows, hrevision, hfind]
  dsimp only
  unfold persistGithubCheckIntent
  rw [if_neg (by rw [haccepts]; decide), if_neg (by rw [hstale]; decide)]
  cases s.rows.checkRuns payload.revisionId with
  | none =>
      by_cases hadvanced : s.rows.isAdvanced payload.revisionId = true
      · simp [hreason, hadvanced]
      · simp [hreason, hadvanced, hconclusion]
  | some row =>
      dsimp only
      by_cases hkey : row.intentIdempotencyKey = some intent.idempotencyKey
      · by_cases hhash :
          row.intentHash = some (hashCheckIntent environment.sha256 intent)
        · simp [hkey, hhash]
        · simp [hkey, hhash]
      · rw [if_neg hkey]
        by_cases hlater : row.intentReason.any Db.isLaterStage = true ∨
          s.rows.isAdvanced payload.revisionId = true
        · simp [hkey, hreason, hlater]
        · simp [hkey, hreason, hlater, hconclusion]

/-- Policies and budgets apart, at most the check of the payload's revision is written, with an
intent of the analysis. -/
structure Stores (environment : PreparationEnvironment Digest) (payload : RevisionPayload)
    (s t : RevisionPreparations Digest) : Prop where
  revisionJobs : t.revisionJobs = s.revisionJobs
  runs : t.runs = s.runs
  jobs : t.jobs = s.jobs
  rows : t.rows = s.rows ∨ ∃ now intent, intent.reason = .analysisReady ∧
    s.rows.writeCheck environment.toRevisionEnvironment now intent = some t.rows

theorem stores_of_writeIntent {intent : GithubCheckIntent} (hreason : intent.reason = .analysisReady)
    (h : s.writeIntent environment now intent = some t) : Stores environment payload s t := by
  obtain ⟨rows, hwrite, rfl⟩ := Option.map_eq_some_iff.mp h
  exact ⟨rfl, rfl, rfl, .inr ⟨now, intent, hreason, hwrite⟩⟩

omit [DecidableEq Digest] in
theorem ensureDefaultPolicy_eq_some {frozen : RevisionPreparations Digest × JsString}
    (h : s.ensureDefaultPolicy policy policyId = some frozen) :
    ∃ policies, frozen.1 = { s with policies := policies } := by
  unfold ensureDefaultPolicy at h
  split at h
  · cases h
    exact ⟨s.policies, rfl⟩
  · split at h
    · cases h
      exact ⟨_, rfl⟩
    · cases h

omit [DecidableEq Digest] in
theorem schedule_eq_some_iff {generationContextId : JsString} {budget : GenerationBudget}
    {scheduled : RevisionPreparations Digest × Bool} :
    s.scheduleRevisionSemanticGeneration generationContextId budget = some scheduled ↔
      BudgetFits generationContextId budget s ∧
        scheduled = match s.budgets generationContextId with
          | none => ({ s with budgets := s.budgets.set generationContextId budget }, true)
          | some _ => (s, false) := by
  unfold scheduleRevisionSemanticGeneration
  constructor
  · intro h
    split at h
    · cases h
    · next hguard =>
      rw [not_or, not_or, Nat.not_lt, Nat.not_lt, Bool.not_eq_false] at hguard
      split at h
      · next hnone =>
        cases h
        exact ⟨⟨⟨hguard.1, hguard.2.1⟩, hguard.2.2,
            fun row hrow => absurd (hnone.symm.trans hrow) (Option.some_ne_none row).symm⟩,
          by simp only [hnone]⟩
      · next row hrow =>
        split at h
        · next hsame =>
          cases h
          refine ⟨⟨⟨hguard.1, hguard.2.1⟩, hguard.2.2, fun other hother => ?_⟩,
            by simp only [hrow]⟩
          exact (Option.some_inj.mp (hother.symm.trans hrow)).trans hsame
        · cases h
  · rintro ⟨⟨hcount, hvalid, hstored⟩, rfl⟩
    rw [if_neg (by rw [not_or, not_or, Nat.not_lt, Nat.not_lt, Bool.not_eq_false]
                   exact ⟨hcount.1, hcount.2, hvalid⟩)]
    cases hrow : s.budgets generationContextId with
    | none => rfl
    | some row => simp [hstored row hrow]

theorem stores_of_storePreparation
    (h : s.storePreparation environment now payload policy source policyId = some t) :
    Stores environment payload s t := by
  unfold storePreparation at h
  split at h
  · exact stores_of_writeIntent rfl h
  · obtain ⟨scheduled, hscheduled, hwrite⟩ := Option.bind_eq_some_iff.mp h
    obtain ⟨-, rfl⟩ := schedule_eq_some_iff.mp hscheduled
    cases hrow : s.budgets source.generationContextId with
    | none =>
        rw [hrow] at hwrite
        dsimp only at hwrite
        rw [if_pos rfl] at hwrite
        have hstores : Stores environment payload _ t := stores_of_writeIntent rfl hwrite
        exact ⟨hstores.revisionJobs, hstores.runs, hstores.jobs, hstores.rows⟩
    | some row =>
        rw [hrow] at hwrite
        cases hwrite
        exact ⟨rfl, rfl, rfl, .inl rfl⟩

theorem stores_of_commit
    (h : s.commitPreparation environment now payload policyVersion policy source policyId fails =
      .committed t) : Stores environment payload s t := by
  unfold commitPreparation at h
  split at h
  · cases h
  · split at h
    · cases h
    · split at h
      · cases h
      · next stored hstored =>
        cases h
        obtain ⟨frozen, hfrozen, hstore⟩ := Option.bind_eq_some_iff.mp hstored
        obtain ⟨policies, hsame⟩ := ensureDefaultPolicy_eq_some hfrozen
        have hstores := stores_of_storePreparation hstore
        rw [hsame] at hstores
        exact ⟨hstores.revisionJobs, hstores.runs, hstores.jobs, hstores.rows⟩

/-- What is stored once the policy is frozen is stored when it fits. -/
theorem storePreparation_isSome_iff {frozen : RevisionPreparations Digest × JsString}
    (hpreparable : s.isPreparable payload = true)
    (hfrozen : s.ensureDefaultPolicy policy policyId = some frozen) :
    (frozen.1.storePreparation environment now payload policy source frozen.2).isSome = true ↔
      match planProofBudget policy source with
      | none => IntentFits environment (splitIntent environment.toRevisionEnvironment payload) s
      | some questionBudget =>
          BudgetFits source.generationContextId
              { revisionId := payload.revisionId
                headSha := payload.expectedHeadSha
                repositoryPolicyId := frozen.2
                questionBudget := questionBudget } frozen.1 ∧
            (s.budgets source.generationContextId = none →
              IntentFits environment (queuedIntent environment.toRevisionEnvironment payload
                source.generationContextId) s) := by
  obtain ⟨u, id⟩ := frozen
  obtain ⟨policies, rfl⟩ := ensureDefaultPolicy_eq_some hfrozen
  have hqueued : ∀ t : RevisionPreparations Digest, t.rows = s.rows →
      ((t.writeIntent environment now (queuedIntent environment.toRevisionEnvironment payload
          source.generationContextId)).isSome = true ↔
        IntentFits environment (queuedIntent environment.toRevisionEnvironment payload
          source.generationContextId) s) := fun t hrows =>
    writeIntent_isSome_iff hrows hpreparable rfl rfl rfl rfl (by simp [queuedIntent, checkIntent])
  unfold storePreparation
  cases planProofBudget policy source with
  | none =>
      exact writeIntent_isSome_iff rfl hpreparable rfl rfl rfl rfl
        (by simp [splitIntent, checkIntent])
  | some questionBudget =>
      dsimp only
      constructor
      · intro hsome
        obtain ⟨stored, hbind⟩ := Option.isSome_iff_exists.mp hsome
        obtain ⟨scheduled, hscheduled, hwrite⟩ := Option.bind_eq_some_iff.mp hbind
        obtain ⟨hfits, rfl⟩ := schedule_eq_some_iff.mp hscheduled
        refine ⟨hfits, fun hnone => ?_⟩
        dsimp only at hwrite
        rw [hnone] at hwrite
        dsimp only at hwrite
        rw [if_pos rfl] at hwrite
        refine (hqueued _ ?_).mp (Option.isSome_iff_exists.mpr ⟨_, hwrite⟩)
        rfl
      · rintro ⟨hfits, hintent⟩
        rw [schedule_eq_some_iff.mpr ⟨hfits, rfl⟩, Option.bind_some]
        dsimp only
        cases hrow : s.budgets source.generationContextId with
        | none =>
            dsimp only
            rw [if_pos rfl]
            refine (hqueued _ ?_).mpr (hintent hrow)
            rfl
        | some row => rfl

/-- The transaction of a preparation that is not stale throws exactly when it does not find what
it needs. -/
theorem commit_eq_error_iff (hpreparable : s.isPreparable payload = true)
    (hversion : s.activePolicyVersion = policyVersion) :
    s.commitPreparation environment now payload policyVersion policy source policyId fails =
      .error ↔ ¬ PreparationFits environment payload policy source policyId fails s := by
  unfold commitPreparation PreparationFits
  rw [if_neg (by simp [hpreparable, hversion])]
  cases fails with
  | true => simp
  | false =>
      cases hfrozen : s.ensureDefaultPolicy policy policyId with
      | none => simp
      | some frozen =>
          have hiff : (frozen.1.storePreparation environment now payload policy source
              frozen.2).isSome = true ↔ _ := storePreparation_isSome_iff hpreparable hfrozen
          simp only [Option.bind_some, Option.some_inj, true_and, exists_eq_left',
            Bool.false_eq_true, if_false]
          rw [← hiff]
          cases frozen.1.storePreparation environment now payload policy source frozen.2 with
          | none => simp
          | some stored => simp

theorem persistPreparationFailure_cases :
    (s.persistPreparationFailure environment now payload).1 = s ∨
      (s.persistPreparationFailure environment now payload).2 = .preparationFailed ∧
        ∃ rows, s.rows.writeCheck environment.toRevisionEnvironment now
            (failureIntent environment.toRevisionEnvironment payload) = some rows ∧
          (s.persistPreparationFailure environment now payload).1 = s.withRows rows := by
  unfold persistPreparationFailure
  split
  · split
    · next t hwrite =>
      obtain ⟨rows, hrows, rfl⟩ := Option.map_eq_some_iff.mp hwrite
      exact .inr ⟨rfl, rows, hrows, rfl⟩
    · exact .inl rfl
  · exact .inl rfl

/-! ## The jobs that generate the questions -/

/-- What an event of the others does to the rows of the pull request. -/
inductive OtherRows (environment : PreparationEnvironment Digest) (s : PreparationSystem Digest) :
    PreparationEvent → PullRequestRows Digest → Prop where
  | same (event : PreparationEvent) : OtherRows environment s event s.rows
  | snapshot {now : Timestamp} {payload : Github.VerifiedSnapshot} {new : JsString}
      {reactivates fails : Bool} {rows : PullRequestRows Digest}
      (h : s.rows.processSnapshot environment.toRevisionEnvironment now payload new reactivates
        fails = some rows) :
      OtherRows environment s (.rows (.snapshot now payload new reactivates fails)) rows
  | replaced {now : Timestamp} {sourceAttemptId expectedHeadSha idempotencyKey : JsString}
      {authorized fails : Bool} {rows : PullRequestRows Digest}
      {result : PullRequestRows.ReplacementResult}
      (h : s.rows.createReplacementAttempt environment.toRevisionEnvironment now sourceAttemptId
        expectedHeadSha idempotencyKey authorized fails = some (rows, result)) :
      OtherRows environment s (.rows (.createReplacement now sourceAttemptId expectedHeadSha
        idempotencyKey authorized fails)) rows
  | persisted {job : ℕ} {now : Timestamp} {fails : Bool} {value : PreparationJob}
      {run : SemanticRunContext} {plan : ProofQuestionPlan} {rows : PullRequestRows Digest}
      (hjob : s.jobs job = some value) (hphase : value.phase = .planned run plan)
      (h : s.rows.persistProofPlanAndCreateAttempt environment.toRevisionEnvironment now
        (semanticRun environment run plan) s.bindingActive fails = some rows) :
      OtherRows environment s (.persist job now fails) rows
  | failed {job : ℕ} {now : Timestamp} {first : Bool} {value : PreparationJob}
      {intent : GithubCheckIntent} {rows : PullRequestRows Digest}
      (hjob : s.jobs job = some value) (hphase : value.phase = .failing)
      (hresult : (s.failProofPreparation environment now first value.payload).2 = .failed)
      (hrevision : intent.revisionId = value.payload.revisionId)
      (hnone : s.rows.attempts.any (·.revisionId = value.payload.revisionId) = false)
      (h : s.rows.writeCheck environment.toRevisionEnvironment now intent = some rows) :
      OtherRows environment s (.fail job now first) rows

/-- A failure is written for a revision without attempts. -/
theorem failProofPreparation_cases {s : PreparationSystem Digest} {payload : ProofPayload}
    {first : Bool} :
    (s.failProofPreparation environment now first payload).1 = s ∨
      (s.failProofPreparation environment now first payload).2 = .failed ∧
        s.rows.attempts.any (·.revisionId = payload.revisionId) = false ∧
        ∃ intent rows, intent.revisionId = payload.revisionId ∧
          s.rows.writeCheck environment.toRevisionEnvironment now intent = some rows ∧
          (s.failProofPreparation environment now first payload).1 = { s with rows := rows } := by
  unfold PreparationSystem.failProofPreparation
  split
  · next hguard =>
    split
    · next rows hwrite => exact .inr ⟨rfl, hguard.2.2.2, _, rows, rfl, hwrite, rfl⟩
    · exact .inl rfl
  · exact .inl rfl

theorem otherRows_of_next {s t : PreparationSystem Digest} {event : PreparationEvent}
    (hother : isOther event = true) (h : s.next environment event = some t) :
    OtherRows environment s event t.rows := by
  cases event with
  | rows event =>
      simp only [PreparationSystem.next] at h
      split at h
      · next hforeign =>
        obtain ⟨rows, hrows, rfl⟩ := Option.map_eq_some_iff.mp h
        cases event with
        | snapshot now payload new reactivates fails => exact .snapshot hrows
        | persistProofPlan now run bindingActive fails => cases hforeign
        | prepareRevision now run fails => cases hforeign
        | createReplacement now sourceAttemptId expectedHeadSha idempotencyKey authorized fails =>
            obtain ⟨⟨u, result⟩, hcreate, rfl⟩ := Option.map_eq_some_iff.mp hrows
            exact .replaced hcreate
        | transition now attemptId status intent => cases hother
      · cases h
  | binding active =>
      cases h
      exact .same _
  | schedule generationContextId budget => cases hother
  | reserve job payload =>
      simp only [PreparationSystem.next] at h
      split at h
      · split at h
        · cases h
        · cases h
          exact .same _
        · next u run hreserve =>
          cases h
          obtain ⟨row, -, rfl, -⟩ := PreparationSystem.reserveRun_cases hreserve
          exact .same _
      · cases h
  | generate job result =>
      obtain ⟨value, -, hgenerate⟩ := Option.bind_eq_some_iff.mp h
      unfold PreparationSystem.generate at hgenerate
      split at hgenerate
      · split at hgenerate
        · cases result <;> cases hgenerate <;> exact .same _
        · cases hgenerate
      · cases hgenerate
  | replay job =>
      obtain ⟨value, -, hreplay⟩ := Option.bind_eq_some_iff.mp h
      unfold PreparationSystem.replay at hreplay
      split at hreplay
      · split at hreplay
        · cases hreplay
        · split at hreplay <;> cases hreplay <;> exact .same _
      · cases hreplay
  | persist job now fails =>
      obtain ⟨value, hjob, hpersist⟩ := Option.bind_eq_some_iff.mp h
      split at hpersist
      · next run plan hphase =>
        cases hpersist
        cases hstored : s.persistProofPlanAndCreateAttempt environment now run plan fails with
        | none => exact .same _
        | some u =>
            obtain ⟨rows, hrows, rfl | ⟨stored, -, rfl⟩⟩ := PreparationSystem.persist_cases hstored
            · exact .persisted hjob hphase hrows
            · exact .persisted hjob hphase hrows
      · cases hpersist
  | fail job now first =>
      obtain ⟨value, hjob, hfail⟩ := Option.bind_eq_some_iff.mp h
      split at hfail
      · next hphase =>
        cases hfail
        rcases failProofPreparation_cases (s := s) with hsame |
          ⟨hresult, hnone, intent, rows, hrevision, hwrite, hsame⟩
        · rw [hsame]
          exact .same _
        · rw [hsame]
          exact .failed hjob hphase hresult hrevision hnone hwrite
      · cases hfail
  | crash job =>
      obtain ⟨value, -, rfl⟩ := Option.map_eq_some_iff.mp h
      exact .same _

/-- The failure of the questions apart, no check comes to say that its revision's preparation has
failed. -/
theorem OtherRows.blames {s : PreparationSystem Digest} {event : PreparationEvent}
    {rows : PullRequestRows Digest} (h : OtherRows environment s event rows) :
    BlamesNone s.rows rows ∨ ∃ job now first value intent, event = .fail job now first ∧
      s.jobs job = some value ∧ value.phase = .failing ∧
      (s.failProofPreparation environment now first value.payload).2 = .failed ∧
      intent.revisionId = value.payload.revisionId ∧
      s.rows.attempts.any (·.revisionId = value.payload.revisionId) = false ∧
      s.rows.writeCheck environment.toRevisionEnvironment now intent = some rows := by
  cases h with
  | same => exact .inl (blamesNone_of_eq rfl)
  | snapshot h => exact .inl (blamesNone_of_snapshot h)
  | replaced h =>
      rcases createReplacement_admits h with rfl | ⟨source, -, hadmits⟩
      · exact .inl (blamesNone_of_eq rfl)
      · exact .inl hadmits.blames
  | persisted hjob hphase h =>
      rcases persistProofPlan_admits h with rfl | ⟨-, hadmits⟩
      · exact .inl (blamesNone_of_eq rfl)
      · exact .inl hadmits.blames
  | failed hjob hphase hresult hrevision hnone h =>
      exact .inr ⟨_, _, _, _, _, rfl, hjob, hphase, hresult, hrevision, hnone, h⟩

omit [DecidableEq Digest] in
theorem progress_intent_reason {progress : AttemptProgress} {attempt : Github.Attempt}
    {idempotencyKey : JsString} : ∀ written,
      progress.intent environment.toRevisionEnvironment attempt idempotencyKey = some written →
        written.reason ≠ .preparationFailed := by
  intro written hwritten
  cases progress <;> cases hwritten <;> exact fun hreason => nomatch hreason

/-! ## Steps -/

/-- The step throws an error that is not retried: the active policy is missing or invalid, the
source or its analysis fails, or the transaction does not find what it needs. -/
def Throws (environment : PreparationEnvironment Digest) (s : RevisionPreparations Digest) :
    RevisionPreparationEvent → RevisionPayload → Prop
  | .load _ loaded, payload =>
      loaded = payload ∧ s.isPreparable payload = true ∧ s.loadPolicy = none
  | .analyse job .error, payload =>
      ∃ value, s.revisionJobs job = some value ∧ value.payload = payload ∧
        ∃ policyVersion policy, value.phase = .loaded policyVersion policy
  | .commit job _ policyId fails, payload =>
      ∃ value, s.revisionJobs job = some value ∧ value.payload = payload ∧
        ∃ policyVersion policy source, value.phase = .analysed policyVersion policy source ∧
          s.isPreparable payload = true ∧ s.activePolicyVersion = policyVersion ∧
          ¬ PreparationFits environment payload policy source policyId fails s
  | _, _ => False

/-- What a step can do. -/
inductive Moves (environment : PreparationEnvironment Digest) (s : RevisionPreparations Digest) :
    RevisionPreparationEvent → RevisionPreparations Digest → Prop where
  | preparation {event : PreparationEvent} {system : PreparationSystem Digest}
      (hother : isOther event = true)
      (h : s.toPreparationSystem.next environment event = some system) :
      Moves environment s (.preparation event) { s with toPreparationSystem := system }
  | progress {now : Timestamp} {attemptId idempotencyKey : JsString}
      {progress : AttemptProgress} {attempt : Github.Attempt} {rows : PullRequestRows Digest}
      (hfound : s.rows.attempts.find? (·.id = attemptId) = some attempt)
      (h : s.rows.transition environment.toRevisionEnvironment now attemptId progress.status
        (progress.intent environment.toRevisionEnvironment attempt idempotencyKey) = some rows) :
      Moves environment s (.progress now attemptId progress idempotencyKey) (s.withRows rows)
  | others {event : RevisionPreparationEvent} {t : RevisionPreparations Digest}
      (hsystem : t.toPreparationSystem = s.toPreparationSystem)
      (hjobs : ∀ job value, t.revisionJobs job = some value → value.phase = .failing →
        s.revisionJobs job = some value) : Moves environment s event t
  | throws {event : RevisionPreparationEvent} {payload : RevisionPayload} {job : ℕ}
      (h : Throws environment s event payload) :
      Moves environment s event (s.withRevisionJob job ⟨payload, .failing⟩)
  | commits {job : ℕ} {now : Timestamp} {policyId : JsString} {fails : Bool}
      {payload : RevisionPayload} {t : RevisionPreparations Digest}
      (h : Stores environment payload s t) :
      Moves environment s (.commit job now policyId fails) (t.withoutRevisionJob job)
  | records {job : ℕ} {now : Timestamp} {value : RevisionJob} {rows : PullRequestRows Digest}
      (hjob : s.revisionJobs job = some value) (hphase : value.phase = .failing)
      (hresult : (s.persistPreparationFailure environment now value.payload).2 =
        .preparationFailed)
      (h : s.rows.writeCheck environment.toRevisionEnvironment now
        (failureIntent environment.toRevisionEnvironment value.payload) = some rows) :
      Moves environment s (.persistFailure job now) ((s.withRows rows).withoutRevisionJob job)

omit [DecidableEq Digest] in
theorem failing_of_withRevisionJob {job : ℕ} {value : RevisionJob} (h : value.phase ≠ .failing) :
    ∀ other found, (s.withRevisionJob job value).revisionJobs other = some found →
      found.phase = .failing → s.revisionJobs other = some found := by
  intro other found hfound hphase
  unfold withRevisionJob at hfound
  dsimp only at hfound
  rw [Table.set_apply] at hfound
  split at hfound
  · exact absurd hphase (Option.some_inj.mp hfound ▸ h)
  · exact hfound

omit [DecidableEq Digest] in
theorem failing_of_withoutRevisionJob {job : ℕ} :
    ∀ other found, (s.withoutRevisionJob job).revisionJobs other = some found →
      found.phase = .failing → s.revisionJobs other = some found := by
  intro other found hfound _
  unfold withoutRevisionJob at hfound
  dsimp only at hfound
  rw [Function.update_apply] at hfound
  split at hfound
  · cases hfound
  · exact hfound

theorem moves_of_next (h : s.next environment event = some t) : Moves environment s event t := by
  cases event with
  | preparation event =>
      unfold RevisionPreparations.next at h
      dsimp only at h
      split at h
      · next hother =>
        obtain ⟨system, hsystem, rfl⟩ := Option.map_eq_some_iff.mp h
        exact .preparation hother hsystem
      · cases h
  | progress now attemptId progress idempotencyKey =>
      obtain ⟨attempt, hfound, hmap⟩ := Option.bind_eq_some_iff.mp h
      obtain ⟨rows, hrows, rfl⟩ := Option.map_eq_some_iff.mp hmap
      exact .progress hfound hrows
  | activatePolicy row =>
      unfold RevisionPreparations.next activatePolicy at h
      dsimp only at h
      split at h
      · cases h
        exact .others rfl fun _ _ hjob _ => hjob
      · cases h
  | load job payload =>
      unfold RevisionPreparations.next at h
      dsimp only at h
      split at h
      · split at h
        · cases h
        · next hload =>
          cases h
          refine .throws ?_
          unfold loadRevision at hload
          split at hload
          · next hpreparable =>
            split at hload
            · next hpolicy => exact ⟨rfl, hpreparable, hpolicy⟩
            · cases hload
          · cases hload
        · cases h
          exact .others rfl (failing_of_withRevisionJob (fun hphase => nomatch hphase))
      · cases h
  | analyse job result =>
      obtain ⟨⟨payload, phase⟩, hjob, hvalue⟩ := Option.bind_eq_some_iff.mp h
      dsimp only at hvalue
      split at hvalue
      · cases hvalue
        exact .others rfl (failing_of_withRevisionJob (fun hphase => nomatch hphase))
      · cases hvalue
        exact .others rfl failing_of_withoutRevisionJob
      · cases hvalue
        exact .throws ⟨_, hjob, rfl, _, _, rfl⟩
      · cases hvalue
  | commit job now policyId fails =>
      obtain ⟨⟨payload, phase⟩, hjob, hvalue⟩ := Option.bind_eq_some_iff.mp h
      dsimp only at hvalue
      split at hvalue
      · next policyVersion policy source =>
        split at hvalue
        · cases hvalue
          exact .others rfl failing_of_withoutRevisionJob
        · next herror =>
          cases hvalue
          have hcurrent : ¬ (s.isPreparable payload = false ∨
              s.activePolicyVersion ≠ policyVersion) := by
            intro hstale
            unfold commitPreparation at herror
            rw [if_pos hstale] at herror
            cases herror
          rw [not_or, Bool.not_eq_false, not_not] at hcurrent
          exact .throws ⟨_, hjob, rfl, _, _, _, rfl, hcurrent.1, hcurrent.2,
            (commit_eq_error_iff hcurrent.1 hcurrent.2).mp herror⟩
        · next u hcommit =>
          cases hvalue
          exact .commits (stores_of_commit hcommit)
      · cases hvalue
  | persistFailure job now =>
      obtain ⟨value, hjob, hvalue⟩ := Option.bind_eq_some_iff.mp h
      split at hvalue
      · next hphase =>
        cases hvalue
        rcases persistPreparationFailure_cases (s := s) with hsame |
          ⟨hresult, rows, hwrite, hsame⟩
        · rw [hsame]
          exact .others rfl failing_of_withoutRevisionJob
        · rw [hsame]
          exact .records hjob hphase hresult hwrite
      · cases hvalue
  | crash job =>
      obtain ⟨value, -, rfl⟩ := Option.map_eq_some_iff.mp h
      exact .others rfl failing_of_withoutRevisionJob

/-- The rows after a step are those before when nothing happens. -/
theorem moves_step : Moves environment s event (s.step environment event) := by
  unfold step
  cases hnext : s.next environment event with
  | none => exact .others rfl fun _ _ hjob _ => hjob
  | some t => exact moves_of_next hnext

/-! ## Who records a failure -/

/-- A failure that is recorded is the only way for a check to come to say it. -/
theorem recordsFailure_of_failed (hbefore : s.hasFailedPreparation revisionId = false)
    (hafter : (s.step environment event).hasFailedPreparation revisionId = true) :
    s.recordsFailure environment event = some revisionId := by
  have hmoves : Moves environment s event (s.step environment event) := moves_step
  generalize s.step environment event = t at hafter hmoves
  rw [PreparationSystem.hasFailedPreparation_eq_false] at hbefore
  have hnot : ¬ ∀ row, t.rows.checkRuns revisionId = some row →
      row.intentReason ≠ some .preparationFailed := by
    rw [← PreparationSystem.hasFailedPreparation_eq_false, hafter]
    decide
  have hblames : BlamesNone s.rows t.rows → s.recordsFailure environment event =
      some revisionId := fun hrows => absurd (hrows revisionId hbefore) hnot
  have hwrites : ∀ {now : Timestamp} {intent : GithubCheckIntent},
      s.rows.writeCheck environment.toRevisionEnvironment now intent = some t.rows →
        intent.revisionId = revisionId := by
    intro now intent hwrite
    by_contra hother
    rw [(aside_of_writeCheck hwrite).checkRuns revisionId (Ne.symm hother)] at hnot
    exact hnot hbefore
  cases hmoves with
  | preparation hother h =>
      rcases (otherRows_of_next hother h).blames with hrows |
        ⟨job, now, first, value, intent, rfl, hjob, hphase, hresult, hrevision, -, hwrite⟩
      · exact hblames hrows
      · rw [← hwrites hwrite, hrevision]
        simp [recordsFailure, hjob, hphase, hresult]
  | progress hfound h => exact hblames (blamesNone_of_transition progress_intent_reason h)
  | others hsystem hjobs =>
      refine hblames (blamesNone_of_eq ?_)
      rw [hsystem]
  | throws h => exact hblames (blamesNone_of_eq rfl)
  | commits h =>
      rcases h.rows with hsame | ⟨now, intent, hreason, hwrite⟩
      · exact hblames (blamesNone_of_eq (congrArg _ hsame))
      · exact hblames (blamesNone_of_writeCheck hwrite (by rw [hreason]; decide))
  | records hjob hphase hresult h =>
      rw [← hwrites h]
      simp [recordsFailure, hjob, hphase, hresult, failureIntent, checkIntent]

/-! ## Revisions with attempts are spared -/

/-- A job has caught an error for the revision. -/
def AwaitsFailure (s : RevisionPreparations Digest) (revisionId : JsString) : Prop :=
  ∃ job value, s.revisionJobs job = some value ∧ value.phase = .failing ∧
    value.payload.revisionId = revisionId

/-- A preparation that throws is one of a revision without attempts, and the revision gets none
before the failure is recorded. -/
def SparesAttempts (environment : PreparationEnvironment Digest) (s : RevisionPreparations Digest)
    (event : RevisionPreparationEvent) : Prop :=
  (∀ payload, Throws environment s event payload → s.hasAttempt payload.revisionId = false) ∧
    ∀ job now fails value run plan, event = .preparation (.persist job now fails) →
      s.jobs job = some value → value.phase = .planned run plan →
        ¬ s.AwaitsFailure run.revisionId

/-- Every failure that is to be recorded is one of a revision without attempts. -/
structure Spared (environment : PreparationEnvironment Digest) (s : RevisionPreparations Digest) :
    Prop where
  prepared : PreparationSystem.Prepared environment s.toPreparationSystem
  failing : ∀ job value, s.revisionJobs job = some value → value.phase = .failing →
    s.hasAttempt value.payload.revisionId = false

omit [DecidableEq Digest] in
theorem hasAttempt_eq_true :
    s.hasAttempt revisionId = true ↔
      ∃ attempt ∈ s.rows.attempts, attempt.revisionId = revisionId := by
  simp [hasAttempt]

omit [DecidableEq Digest] in
theorem hasAttempt_of_mem (h : ∀ attempt ∈ t.rows.attempts, ∃ before ∈ s.rows.attempts,
      before.revisionId = attempt.revisionId) (hbefore : s.hasAttempt revisionId = false) :
    t.hasAttempt revisionId = false := by
  by_contra hafter
  obtain ⟨attempt, hmem, rfl⟩ := hasAttempt_eq_true.mp (Bool.not_eq_false _ ▸ hafter)
  obtain ⟨before, hbeforeMem, hrevision⟩ := h attempt hmem
  have hhas := hasAttempt_eq_true.mpr ⟨before, hbeforeMem, hrevision⟩
  exact nomatch hhas.symm.trans hbefore

/-- A revision gets its first attempt when its plan is persisted. -/
theorem OtherRows.attempts {s : PreparationSystem Digest} {event : PreparationEvent}
    {rows : PullRequestRows Digest} (h : OtherRows environment s event rows)
    (hkept : Github.PullRequestRows.Kept environment.toRevisionEnvironment s.rows)
    {attempt : Github.Attempt}
    (hmem : attempt ∈ rows.attempts) :
    (∃ before ∈ s.rows.attempts, before.revisionId = attempt.revisionId) ∨
      ∃ job now fails value run plan, event = .persist job now fails ∧ s.jobs job = some value ∧
        value.phase = .planned run plan ∧ run.revisionId = attempt.revisionId := by
  cases h with
  | same => exact .inl ⟨attempt, hmem, rfl⟩
  | snapshot h =>
      obtain ⟨before, hbefore, hrevision, -⟩ := ends_snapshot hkept h attempt hmem
      exact .inl ⟨before, hbefore, hrevision.symm⟩
  | replaced h =>
      rcases createReplacement_admits h with rfl | ⟨source, hsource, hadmits⟩
      · exact .inl ⟨attempt, hmem, rfl⟩
      · obtain ⟨created, hattempts, -, hrevision, -⟩ := hadmits.attempts
        rw [hattempts] at hmem
        rcases List.mem_append.mp hmem with hmem | hmem
        · exact .inl ⟨attempt, hmem, rfl⟩
        · rw [List.mem_singleton.mp hmem, hrevision]
          exact .inl ⟨source, List.mem_of_find?_eq_some hsource, rfl⟩
  | persisted hjob hphase h =>
      rcases persistProofPlan_admits h with rfl | ⟨-, hadmits⟩
      · exact .inl ⟨attempt, hmem, rfl⟩
      · obtain ⟨created, hattempts, -, hrevision, -⟩ := hadmits.attempts
        rw [hattempts] at hmem
        rcases List.mem_append.mp hmem with hmem | hmem
        · exact .inl ⟨attempt, hmem, rfl⟩
        · rw [List.mem_singleton.mp hmem, hrevision]
          exact .inr ⟨_, _, _, _, _, _, rfl, hjob, hphase, rfl⟩
  | failed hjob hphase hresult hrevision hnone h =>
      exact .inl ⟨attempt, (checksOnly_of_writeCheck h).attempts ▸ hmem, rfl⟩

omit [DecidableEq Digest] in
theorem prepared_of_rows {s t : PreparationSystem Digest}
    (h : PreparationSystem.Prepared environment s)
    (hkept : Github.PullRequestRows.Kept environment.toRevisionEnvironment t.rows)
    (hruns : t.runs = s.runs)
    (hjobs : t.jobs = s.jobs) : PreparationSystem.Prepared environment t := by
  refine ⟨hkept, by rw [hruns]; exact h.row, fun job value hjob => ?_⟩
  rw [hjobs] at hjob
  exact (h.job job value hjob).mono (PreparationSystem.keepsSeeds_of_eq hruns)

theorem Spared.step (h : Spared environment s) (hspares : SparesAttempts environment s event) :
    Spared environment (s.step environment event) := by
  have hmoves : Moves environment s event (s.step environment event) := moves_step
  generalize s.step environment event = t at hmoves
  cases hmoves with
  | preparation hother hnext =>
      refine ⟨(h.prepared.next hnext).1, fun job value hjob hphase => ?_⟩
      have hbefore := h.failing job value hjob hphase
      by_contra hafter
      obtain ⟨attempt, hmem, hrevision⟩ := hasAttempt_eq_true.mp (Bool.not_eq_false _ ▸ hafter)
      rcases (otherRows_of_next hother hnext).attempts h.prepared.kept hmem with
        ⟨before, hbeforeMem, hsame⟩ | ⟨other, now, fails, found, run, plan, rfl, hfound, hplanned,
          hrun⟩
      · have hhas := hasAttempt_eq_true.mpr ⟨before, hbeforeMem, hsame.trans hrevision⟩
        exact nomatch hhas.symm.trans hbefore
      · exact hspares.2 other now fails found run plan rfl hfound hplanned
          ⟨job, value, hjob, hphase, (hrun.trans hrevision).symm⟩
  | progress hfound hnext =>
      have hcarries := (transition_cases hnext).1
      obtain ⟨change, hwinds⟩ := (transition_cases hnext).2
      refine ⟨prepared_of_rows h.prepared (h.prepared.kept.of_carries hcarries) rfl rfl,
        fun job value hjob hphase => hasAttempt_of_mem (fun attempt hmem => ?_)
          (h.failing job value hjob hphase)⟩
      change attempt ∈ _ at hmem
      rw [withRows, hwinds.eq] at hmem
      obtain ⟨before, hbefore, rfl⟩ := List.mem_map.mp hmem
      exact ⟨before, hbefore, (hwinds.follows before hbefore).revisionId.symm⟩
  | others hsystem hjobs =>
      refine ⟨hsystem ▸ h.prepared, fun job value hjob hphase => ?_⟩
      refine hasAttempt_of_mem (fun attempt hmem => ⟨attempt, ?_, rfl⟩)
        (h.failing job value (hjobs job value hjob hphase) hphase)
      rw [hsystem] at hmem
      exact hmem
  | throws hthrows =>
      refine ⟨h.prepared, fun job value hjob hphase => ?_⟩
      unfold withRevisionJob at hjob
      dsimp only at hjob
      rw [Table.set_apply] at hjob
      split at hjob
      · cases hjob
        exact hspares.1 _ hthrows
      · exact h.failing job value hjob hphase
  | commits hstores =>
      have hattempts : ∀ {u : RevisionPreparations Digest}, u.rows = s.rows ∨ (∃ now intent,
          intent.reason = .analysisReady ∧ s.rows.writeCheck environment.toRevisionEnvironment now
            intent = some u.rows) →
          Github.PullRequestRows.Kept environment.toRevisionEnvironment u.rows ∧
              u.rows.attempts = s.rows.attempts := by
        rintro u (hsame | ⟨now, intent, -, hwrite⟩)
        · rw [hsame]
          exact ⟨h.prepared.kept, rfl⟩
        · have hchecks := checksOnly_of_writeCheck hwrite
          exact ⟨h.prepared.kept.of_carries (carries_of_checksOnly hchecks), hchecks.attempts⟩
      obtain ⟨hkept, hsame⟩ := hattempts hstores.rows
      refine ⟨prepared_of_rows h.prepared hkept hstores.runs hstores.jobs,
        fun job value hjob hphase => ?_⟩
      have hbefore := failing_of_withoutRevisionJob job value hjob hphase
      rw [hstores.revisionJobs] at hbefore
      exact hasAttempt_of_mem (fun attempt hmem => ⟨attempt, hsame ▸ hmem, rfl⟩)
        (h.failing job value hbefore hphase)
  | records hjob hphase hresult hwrite =>
      have hchecks := checksOnly_of_writeCheck hwrite
      refine ⟨prepared_of_rows h.prepared
        (h.prepared.kept.of_carries (carries_of_checksOnly hchecks)) rfl rfl,
        fun other value hother hfailing => ?_⟩
      exact hasAttempt_of_mem (fun attempt hmem => ⟨attempt, hchecks.attempts ▸ hmem, rfl⟩)
        (h.failing other value (failing_of_withoutRevisionJob other value hother hfailing) hfailing)

/-- While every failure that is to be recorded is one of a revision without attempts, so is every
one that is recorded. -/
theorem Spared.recordsFailure (h : Spared environment s)
    (hrecords : s.recordsFailure environment event = some revisionId) :
    s.hasAttempt revisionId = false := by
  unfold RevisionPreparations.recordsFailure at hrecords
  split at hrecords
  · obtain ⟨value, hjob, hvalue⟩ := Option.bind_eq_some_iff.mp hrecords
    split at hvalue
    · next hphase =>
      split at hvalue
      · cases hvalue
        exact h.failing _ value hjob hphase
      · cases hvalue
    · cases hvalue
  · obtain ⟨value, hjob, hvalue⟩ := Option.bind_eq_some_iff.mp hrecords
    split at hvalue
    · split at hvalue
      · next hresult =>
        cases hvalue
        unfold PreparationSystem.failProofPreparation at hresult
        split at hresult
        · next hguard => exact hguard.2.2.2
        · cases hresult
      · cases hvalue
    · cases hvalue
  · cases hrecords

/-! ## Passed revisions keep their check -/

/-- The action of a snapshot is `closed` only when its state is, and on a revision with a passed
attempt neither a replacement is asked for nor a plan persisted over an invalidated attempt that is
the newest one. -/
def KeepsPasses (environment : PreparationEnvironment Digest) (s : RevisionPreparations Digest) :
    RevisionPreparationEvent → Prop
  | .preparation (.rows (.snapshot _ payload _ _ _)) =>
      payload.action = .closed → payload.state = .closed
  | .preparation (.rows (.createReplacement _ sourceAttemptId expectedHeadSha idempotencyKey
      authorized fails)) =>
      fails = false → ∀ source, s.rows.attempts.find? (·.id = sourceAttemptId) = some source →
        s.rows.hasPassed source.revisionId = true →
          ¬ MayReplace environment.toRevisionEnvironment s.rows sourceAttemptId expectedHeadSha
            idempotencyKey authorized
  | .preparation (.persist job _ _) =>
      ∀ value run plan, s.jobs job = some value → value.phase = .planned run plan →
        s.rows.hasPassed run.revisionId = true →
          ∃ prior, s.rows.latestAttempt run.revisionId environment.authorId = some prior ∧
            prior.status ≠ .invalidated
  | _ => True

omit [DecidableEq Digest] in
theorem not_passed_of_hasAttempt {rows : PullRequestRows Digest}
    (h : rows.attempts.any (·.revisionId = revisionId) = false) :
    rows.hasPassed revisionId = false := by
  by_contra hpassed
  obtain ⟨attempt, hmem, hrevision, -⟩ := hasPassed_eq_true.mp (Bool.not_eq_false _ ▸ hpassed)
  have hhas : rows.attempts.any (·.revisionId = revisionId) = true :=
    List.any_eq_true.mpr ⟨attempt, hmem, decide_eq_true hrevision⟩
  exact nomatch hhas.symm.trans h

/-- An intent for a revision without attempts. -/
theorem finished_of_writeCheck {rows rows' : PullRequestRows Digest} {authorId : JsString}
    {intent : GithubCheckIntent} (h : Finished authorId rows)
    (hnone : rows.attempts.any (·.revisionId = intent.revisionId) = false)
    (hwrite : rows.writeCheck environment.toRevisionEnvironment now intent = some rows') :
    Finished authorId rows' :=
  h.writeCheck hwrite fun hpassed =>
    absurd hpassed (Bool.not_eq_true _ ▸ not_passed_of_hasAttempt hnone)

theorem finished_of_other {event : PreparationEvent} {rows : PullRequestRows Digest}
    (h : OtherRows environment s.toPreparationSystem event rows) (hspared : Spared environment s)
    (hhash : CollisionFree environment.sha256)
    (hkeeps : KeepsPasses environment s (.preparation event))
    (hfinished : Finished environment.authorId s.rows) : Finished environment.authorId rows := by
  cases h with
  | same => exact hfinished
  | snapshot h => exact hfinished.snapshot hspared.prepared.kept hhash hkeeps h
  | replaced h =>
      rcases (createReplacement_cases h).2 with rfl | ⟨hfails, hmay⟩
      · exact hfinished
      · rcases createReplacement_admits h with rfl | ⟨source, hsource, hadmits⟩
        · exact hfinished
        · obtain ⟨created, -, -, -, hauthor⟩ := hadmits.attempts
          have hsourceAuthor := hfinished.author source (List.mem_of_find?_eq_some hsource)
          rw [hsourceAuthor] at hadmits
          refine hfinished.admits hadmits ?_
          by_contra hpassed
          exact hkeeps hfails source hsource (Bool.not_eq_false _ ▸ hpassed) hmay
  | @persisted job now fails value run plan rows hjob hphase h =>
      rcases persistProofPlan_admits h with rfl | ⟨hlatest, hadmits⟩
      · exact hfinished
      · refine hfinished.admits hadmits ?_
        by_contra hpassed
        obtain ⟨prior, hprior, hstatus⟩ :=
          hkeeps value run plan hjob hphase (Bool.not_eq_false _ ▸ hpassed)
        have hall : (s.rows.latestAttempt run.revisionId environment.authorId).all
          (·.status = .invalidated) = true := hlatest
        rw [hprior, Option.all_some, decide_eq_true_eq] at hall
        exact hstatus hall
  | failed hjob hphase hresult hrevision hnone h =>
      exact finished_of_writeCheck hfinished (by rw [hrevision]; exact hnone) h

omit [DecidableEq Digest] in
/-- An attempt passes with the intent of its decision. -/
theorem progress_passes {progress : AttemptProgress} {attempt : Github.Attempt}
    {idempotencyKey : JsString} (h : progress.status = .passed) :
    ∃ written, progress.intent environment.toRevisionEnvironment attempt idempotencyKey =
        some written ∧ written.reason ≠ .analysisReady ∧ written.status = .completed ∧
      written.conclusion = some .success := by
  cases progress with
  | decided action =>
      cases action with
      | approve => exact ⟨_, rfl, (fun hreason => nomatch hreason), rfl, rfl⟩
      | reject => cases h
      | manualRetry => cases h
  | started => cases h
  | uploading => cases h
  | processing => cases h
  | reviewRequired => cases h
  | technicalRetry => cases h
  | expired => cases h

omit [DecidableEq Digest] in
theorem progress_revision {progress : AttemptProgress} {attempt : Github.Attempt}
    {idempotencyKey : JsString} : ∀ written,
      progress.intent environment.toRevisionEnvironment attempt idempotencyKey = some written →
        written.revisionId = attempt.revisionId := by
  intro written hwritten
  cases progress <;> cases hwritten <;> rfl

theorem finished_step (hspared : Spared environment s)
    (hhash : CollisionFree environment.sha256) (hkeeps : KeepsPasses environment s event)
    (h : Finished environment.authorId s.rows) :
    Finished environment.authorId (s.step environment event).rows := by
  have hmoves : Moves environment s event (s.step environment event) := moves_step
  generalize s.step environment event = t at hmoves
  cases hmoves with
  | preparation hother hnext =>
      exact finished_of_other (otherRows_of_next hother hnext) hspared hhash hkeeps h
  | progress hfound hnext =>
      have hmem := List.mem_of_find?_eq_some hfound
      have hid := List.find?_some hfound
      rw [decide_eq_true_eq] at hid
      subst hid
      exact h.transition hspared.prepared.kept.settled hhash hmem progress_revision progress_passes
        hnext
  | others hsystem hjobs =>
      rw [hsystem]
      exact h
  | throws hthrows => exact h
  | commits hstores =>
      rcases hstores.rows with hsame | ⟨now, intent, hreason, hwrite⟩
      · change Finished _ _
        rw [withoutRevisionJob, hsame]
        exact h
      · exact h.writeCheck hwrite (showsSuccess_of_analysis hwrite hreason)
  | records hjob hphase hresult hwrite =>
      refine finished_of_writeCheck h ?_ hwrite
      exact hspared.failing _ _ hjob hphase

/-! ## Histories -/

/-- The system after a history. -/
abbrev preparationsAfter (environment : PreparationEnvironment Digest)
    (events : List RevisionPreparationEvent) : RevisionPreparations Digest :=
  after (RevisionPreparations.step environment) start events

theorem spared_after {events : List RevisionPreparationEvent}
    (h : Throughout (RevisionPreparations.step environment) start (SparesAttempts environment)
      events) : Spared environment (preparationsAfter environment events) := by
  refine after_invariant (I := fun _ s => Spared environment s) ?_
    (fun _ _ hspared hspares => hspared.step hspares) h
  exact ⟨⟨kept_start, fun _ _ hrow => (nomatch hrow), fun _ _ hjob => (nomatch hjob)⟩,
    fun _ _ hjob => nomatch hjob⟩

section Samples

open PreparationSystem (sampleEnvironment samplePayload)

def sampleSource : PreparedSource := ⟨js "c1", .small, 3, 2⟩

def sampleRevisionPayload : RevisionPayload := ⟨js "analysis:r1", js "r1", js "h1"⟩

/-- A delivery for the first revision up to its transaction. -/
def sampleDelivery (job : ℕ) : List RevisionPreparationEvent :=
  [.load job sampleRevisionPayload, .analyse job (.prepared sampleSource),
    .commit job 2 (js "policy1") false]

/-- The first revision is prepared, and its questions are generated. -/
def sampleGenerated : List RevisionPreparationEvent :=
  .preparation (.rows (PullRequestRows.sampleSnapshot 1 .opened .open (js "h1") (js "r1"))) ::
    sampleDelivery 0 ++
    [.preparation (.reserve 0 samplePayload),
      .preparation (.generate 0 (.generated
        [{ intent := js "behavior"
           prompt := js "Why?"
           anchorIds := [js "a1"]
           requiredPoints := [js "retry"] }]))]

def sampleProofAttemptId : JsString :=
  js "semantic-attempt-v1:r1:author:" ++
    js "semantic-artifact-seed-v1:proof_questions:repository:r1:c1:policy1:1:" ++
    js "semantic.proof.v2:c1:proof-question-plan:1"

/-- The attempt comes to its review and passes. -/
def samplePass : List RevisionPreparationEvent :=
  .preparation (.persist 0 3 false) ::
    ([AttemptProgress.started, .uploading, .processing, .reviewRequired].map fun progress =>
      .progress 4 sampleProofAttemptId progress (js "evaluated")) ++
    [.progress 4 sampleProofAttemptId (.decided .approve) (js "approved")]

/-- Another policy becomes the active one, and the head moves away and back. -/
def sampleReturn : List RevisionPreparationEvent :=
  [.activatePolicy ⟨js "policy2", 2, defaultRepositoryPolicyV1⟩,
    .preparation (.rows (PullRequestRows.sampleSnapshot 5 .synchronize .open (js "h2") (js "r2"))),
    .preparation (.rows (PullRequestRows.sampleSnapshot 6 .synchronize .open (js "h1") (js "r3")))]

end Samples

end RevisionPreparations

end Worker

end UnderstandProof
