import UnderstandProof.Worker.PracticeKept

/-!
# The steps of the practice tables

Each step says which rows it makes and why they are bound; that the others stay bound is the same
for all of them.
-/

open Foundation

namespace UnderstandProof

namespace Worker

open Domain (Timestamp)
open Github (PullRequestRevision PullRequestRows)
open Github.PullRequestRows (findRevision_eq_some findRevision_of_eq prepareRevision_cases
  prepareRevision_revisions)

namespace PracticeSystem

variable {Digest : Type} {environment : PreparationEnvironment Digest} {s t : PracticeSystem Digest}
  {bundle : Option LearningBundle} {session : Option PracticeSession}
  {answer : Option PracticeAnswer} {feedback : Option PracticeFeedback}

/-- A step with the rows that it makes. -/
structure Advances (environment : PreparationEnvironment Digest) (s t : PracticeSystem Digest)
    (bundle : Option LearningBundle) (session : Option PracticeSession)
    (answer : Option PracticeAnswer) (feedback : Option PracticeFeedback) : Prop where
  prepared : t.preparation.Prepared environment
  clock : s.clock ≤ t.clock
  budgets : ∀ generationContextId budget,
    s.preparation.budgets generationContextId = some budget →
      t.preparation.budgets generationContextId = some budget
  heads : ∀ revisionId headSha, s.HasHead revisionId headSha → t.HasHead revisionId headSha
  runs : KeepsRuns s t
  grows : Grows s t bundle.toList session.toList answer.toList feedback.toList
  newRun : ∀ key run, s.runs key = none → t.runs key = some run → RunBound environment t key run
  newInsert : ∀ key row, t.inserted key = some row →
    s.inserted key = some row ∧ t.runs key = s.runs key ∨ InsertBound environment t key row
  newPayload : ∀ payload ∈ t.scheduled, payload ∈ s.scheduled ∨ ScheduledBound t payload
  newBundle : ∀ new, bundle = some new → BundleBound environment t new ∧
    ∀ other ∈ s.bundles, other.id ≠ new.id
  newSession : ∀ new, session = some new → SessionBound t new ∧
    (∀ other ∈ s.sessions, other.id ≠ new.id) ∧
    ∀ other ∈ t.sessions, other.isActive = true → other.revisionId = new.revisionId →
      other.userId = new.userId → other = new
  newAnswer : ∀ new, answer = some new → AnswerBound environment t new ∧
    ∀ other ∈ s.answers, other.id ≠ new.id ∧ other.binding ≠ new.binding
  newFeedback : ∀ new, feedback = some new → FeedbackBound t new ∧
    ∀ other ∈ s.feedback, other.id ≠ new.id ∧ other.binding.runKey ≠ new.binding.runKey

theorem Advances.keeps (h : Advances environment s t bundle session answer feedback) :
    Keeps s t where
  clock := h.clock
  budgets := h.budgets
  heads := h.heads
  runs := h.runs
  bundles := fun _ hmem => h.grows.bundles.forward hmem
  sessions := fun _ hmem => h.grows.sessions.forward hmem
  answers := fun _ hmem => h.grows.answers.forward hmem
  feedback := fun _ hmem => h.grows.feedback.forward hmem

/-- The bindings of all rows are kept when those of the new ones hold. -/
theorem Practiced.advance (hs : Practiced environment s)
    (h : Advances environment s t bundle session answer feedback) : Practiced environment t where
  prepared := h.prepared
  runs := by
    intro key run hrun
    cases hold : s.runs key with
    | none => exact h.newRun key run hold hrun
    | some old =>
        obtain ⟨completed, hkept, -⟩ := h.runs key old hold
        obtain rfl := Option.some_inj.mp (hrun.symm.trans hkept)
        exact (hs.runs key old hold).mono h.keeps
  inserted := by
    intro key row hrow
    obtain ⟨hold, hsame⟩ | hnew := h.newInsert key row hrow
    · obtain ⟨⟨run, hrun, hopen⟩, hbound⟩ := hs.inserted key row hold
      exact ⟨⟨run, hsame.trans hrun, hopen⟩, hbound.mono h.keeps⟩
    · exact hnew
  bundles := by
    intro new hmem
    obtain ⟨old, hold, hfollows⟩ | hnew := h.grows.bundles.backward hmem
    · exact (hs.bundles old hold).mono h.keeps hfollows
    · exact (h.newBundle new (Option.mem_toList.mp hnew)).1
  sessions := by
    intro new hmem
    obtain ⟨old, hold, hends⟩ | hnew := h.grows.sessions.backward hmem
    · exact (hs.sessions old hold).mono h.keeps hends
    · exact (h.newSession new (Option.mem_toList.mp hnew)).1
  answers := by
    intro new hmem
    obtain ⟨old, hold, hfollows⟩ | hnew := h.grows.answers.backward hmem
    · exact (hs.answers old hold).mono h.keeps hfollows
    · exact (h.newAnswer new (Option.mem_toList.mp hnew)).1
  feedback := by
    intro new hmem
    obtain ⟨old, hold, hfollows⟩ | hnew := h.grows.feedback.backward hmem
    · exact (hs.feedback old hold).mono h.keeps hfollows
    · exact (h.newFeedback new (Option.mem_toList.mp hnew)).1
  scheduled := by
    intro payload hmem
    obtain hold | hnew := h.newPayload payload hmem
    · exact (hs.scheduled payload hold).mono h.keeps
    · exact hnew
  bundleIds := h.grows.bundles.nodup_toList (fun _ _ hfollows => hfollows.id) hs.bundleIds
    fun new hnew => (h.newBundle new hnew).2
  sessionIds := h.grows.sessions.nodup_toList (fun _ _ hends => hends.id) hs.sessionIds
    fun new hnew => (h.newSession new hnew).2.1
  answerIds := h.grows.answers.nodup_toList (fun _ _ hfollows => hfollows.id) hs.answerIds
    fun new hnew other hmem => ((h.newAnswer new hnew).2 other hmem).1
  answerKeys := h.grows.answers.nodup_toList (fun _ _ hfollows => hfollows.binding)
    hs.answerKeys fun new hnew other hmem => ((h.newAnswer new hnew).2 other hmem).2
  feedbackIds := h.grows.feedback.nodup_toList (fun _ _ hfollows => hfollows.id)
    hs.feedbackIds fun new hnew other hmem => ((h.newFeedback new hnew).2 other hmem).1
  feedbackKeys := h.grows.feedback.nodup_toList
    (fun _ _ hfollows => congrArg FeedbackBinding.runKey hfollows.binding) hs.feedbackKeys
    fun new hnew other hmem => ((h.newFeedback new hnew).2 other hmem).2
  active := by
    intro a ha b hb hactive hactive' hrevision huser
    obtain ⟨old, hold, hends⟩ | hnew := h.grows.sessions.backward ha
    · obtain ⟨old', hold', hends'⟩ | hnew' := h.grows.sessions.backward hb
      · obtain rfl := hends.isActive hactive
        obtain rfl := hends'.isActive hactive'
        exact hs.active a hold b hold' hactive hactive' hrevision huser
      · exact (h.newSession b (Option.mem_toList.mp hnew')).2.2 a ha hactive hrevision huser
    · exact ((h.newSession a (Option.mem_toList.mp hnew)).2.2 b hb hactive' hrevision.symm
        huser.symm).symm

/-! ## What the lookups find -/

theorem openRevision_eq_some {revisionId : JsString} {revision : PullRequestRevision}
    (h : s.openRevision revisionId = some revision) :
    s.preparation.rows.findRevision revisionId = some revision ∧ revision.isCurrent = true ∧
      s.preparation.rows.state = some .open ∧ s.preparation.bindingActive = true := by
  obtain ⟨hfind, hopen⟩ := Option.filter_eq_some_iff.mp h
  exact ⟨hfind, by simpa using hopen⟩

theorem findSession_eq_some {sessionId : JsString} {session : PracticeSession}
    (h : s.findSession sessionId = some session) :
    session ∈ s.sessions ∧ session.id = sessionId :=
  ⟨List.mem_of_find?_eq_some h, by simpa using List.find?_some h⟩

theorem findBundle_eq_some {bundleId : JsString} {bundle : LearningBundle}
    (h : s.findBundle bundleId = some bundle) :
    bundle ∈ s.bundles ∧ bundle.id = bundleId :=
  ⟨List.mem_of_find?_eq_some h, by simpa using List.find?_some h⟩

theorem find_id_eq_some {α β : Type} {rows : List (PrivateRow α β)} {id : JsString}
    {row : PrivateRow α β} (h : rows.find? (fun row => row.id = id) = some row) :
    row ∈ rows ∧ row.id = id :=
  ⟨List.mem_of_find?_eq_some h, by simpa using List.find?_some h⟩

theorem Practiced.eq_session (h : Practiced environment s) {a b : PracticeSession}
    (ha : a ∈ s.sessions) (hb : b ∈ s.sessions) (hid : a.id = b.id) : a = b :=
  List.inj_on_of_nodup_map h.sessionIds ha hb hid

theorem Practiced.eq_bundle (h : Practiced environment s) {a b : LearningBundle}
    (ha : a ∈ s.bundles) (hb : b ∈ s.bundles) (hid : a.id = b.id) : a = b :=
  List.inj_on_of_nodup_map h.bundleIds ha hb hid

theorem openTarget_eq_some {now : Timestamp} {payload : PrivatePayload} {target : PracticeTarget}
    {session : PracticeSession} {answer : PracticeAnswer}
    (h : s.openTarget now payload target = some (session, answer)) :
    s.findSession target.practiceSessionId = some session ∧
      s.answers.find? (fun answer => answer.id = target.practiceAnswerId) = some answer ∧
      answer.binding.sessionId = session.id ∧
      answer.binding.questionId = target.practiceQuestionId ∧
      session.revisionId = payload.revisionId ∧
      session.generationContextId = payload.generationContextId ∧ session.isActive = true ∧
      answer.isHeld = true ∧ now < session.deleteAfter := by
  unfold openTarget at h
  split at h
  · next found other hfound hother =>
    split at h
    · next hopen =>
      cases h
      exact ⟨hfound, hother, hopen⟩
    · cases h
  · cases h

/-- The answer of a target is there until its session is over. -/
theorem Practiced.hasAnswer (h : Practiced environment s) {now maximum : Timestamp}
    {payload : PrivatePayload} {target : PracticeTarget} (htarget : payload.target = some target)
    (hmaximum : s.maximumDeleteAfter now payload = some maximum) :
    s.HasAnswer target maximum := by
  unfold maximumDeleteAfter at hmaximum
  rw [htarget] at hmaximum
  obtain ⟨⟨session, answer⟩, hopen, rfl⟩ := Option.map_eq_some_iff.mp hmaximum
  obtain ⟨hsession, hanswer, hbound, hquestion, -⟩ := openTarget_eq_some hopen
  obtain ⟨hmem, hid⟩ := findSession_eq_some hsession
  obtain ⟨hanswerMem, hanswerId⟩ := find_id_eq_some hanswer
  obtain ⟨owner, howner, hownerId, -, -, hdelete, -⟩ := (h.answers answer hanswerMem).session
  obtain rfl := h.eq_session howner hmem (hownerId.trans hbound)
  refine ⟨answer, hanswerMem, hanswerId, ?_, hdelete.le⟩
  rw [← hid, ← hbound, ← hquestion]

/-! ## Reservations -/

theorem loadRunBinding_eq_some {preparation : PreparationSystem Digest} {payload : ProofPayload}
    {revision : PullRequestRevision} {budget : GenerationBudget}
    (h : preparation.loadRunBinding payload = some (revision, budget)) :
    preparation.rows.findRevision payload.revisionId = some revision ∧
      preparation.budgets payload.generationContextId = some budget ∧
      budget.revisionId = revision.id ∧ budget.headSha = revision.headSha ∧
      revision.headSha = payload.expectedHeadSha ∧ preparation.bindingActive = true ∧
      preparation.hasFailedPreparation revision.id = false ∧ revision.isCurrent = true ∧
      preparation.rows.state = some .open := by
  unfold PreparationSystem.loadRunBinding at h
  split at h
  · next found row hfound hrow =>
    split at h
    · next hbound =>
      cases h
      exact ⟨hfound, hrow, hbound⟩
    · cases h
  · cases h

/-- The run that a reservation leaves. -/
structure Reserves (environment : PreparationEnvironment Digest) (now : Timestamp)
    (payload : PrivatePayload) (s : PracticeSystem Digest) (run : PrivateRun)
    (budget : GenerationBudget) (maximum : Timestamp) : Prop where
  hasBudget : s.preparation.budgets payload.generationContextId = some budget
  hasMaximum : s.maximumDeleteAfter now payload = some maximum
  revisionId : run.revisionId = budget.revisionId
  generationContextId : run.generationContextId = payload.generationContextId
  target : run.target = payload.target
  questionCount : run.questionCount = runQuestionCount budget run.target
  artifactSeed : run.artifactSeed =
    privateSeed environment budget (runPayload payload.idempotencyKey run) run.questionCount
  row : s.runs payload.idempotencyKey = some run ∨
    s.runs payload.idempotencyKey = none ∧ run.createdAt = now ∧
      run.deleteAfter = min (now + privateRetentionMs) maximum ∧ run.completed = none

theorem reserveRun_eq_reserved {now : Timestamp} {payload : PrivatePayload} {headSha : JsString}
    {run : PrivateRun} (h : s.reserveRun environment now payload = .reserved t headSha run) :
    t = { s with runs := s.runs.set payload.idempotencyKey run } ∧
      ∃ budget maximum, Reserves environment now payload s run budget maximum := by
  unfold reserveRun at h
  split at h
  · next revision budget maximum hbinding hmaximum =>
    obtain ⟨hfind, hbudget, hrevision, -⟩ := loadRunBinding_eq_some hbinding
    have hid : revision.id = payload.revisionId := (findRevision_eq_some hfind).2
    have hquestions : (if payload.target.isSome then budget.questionBudget
        else max 3 budget.questionBudget) = runQuestionCount budget payload.target := rfl
    dsimp only at h
    rw [hquestions] at h
    generalize hrow : (s.runs payload.idempotencyKey).getD _ = row at h
    split at h
    · cases h
    · split at h
      · cases h
      · next hsame =>
        simp only [not_or, ne_eq, not_not] at hsame
        obtain ⟨hrun, hcontext, htarget, hseed, hcount⟩ := hsame
        cases h
        refine ⟨rfl, budget, maximum, hbudget, hmaximum, hrun.trans hrevision.symm, hcontext,
          htarget, htarget ▸ hcount, ?_, ?_⟩
        · rw [hseed, hcount]
          unfold privateSeed runPayload
          dsimp only
          rw [hrun, hcontext, htarget, hid]
        · cases hold : s.runs payload.idempotencyKey with
          | some old =>
              rw [hold] at hrow
              exact .inl (congrArg some hrow)
          | none =>
              rw [hold, Option.getD_none] at hrow
              subst hrow
              exact .inr ⟨rfl, rfl, rfl, rfl⟩
  · cases h

/-! ## Steps without new rows -/

theorem advances_of_quiet (hs : Practiced environment s) (hclock : s.clock ≤ t.clock)
    (hpreparation : t.preparation = s.preparation) (hruns : t.runs = s.runs)
    (hinserted : ∀ key row, t.inserted key = some row →
      s.inserted key = some row ∨ InsertBound environment t key row)
    (hscheduled : t.scheduled = s.scheduled) (hgrows : Grows s t [] [] [] []) :
    Advances environment s t none none none none where
  prepared := hpreparation ▸ hs.prepared
  clock := hclock
  budgets := fun _ _ h => hpreparation ▸ h
  heads := fun _ _ ⟨revision, hfind, hhead⟩ => ⟨revision, hpreparation ▸ hfind, hhead⟩
  runs := keepsRuns_of_eq hruns
  grows := hgrows
  newRun := by
    intro key run hnone hrun
    rw [hruns, hnone] at hrun
    cases hrun
  newInsert := fun key row hrow => (hinserted key row hrow).imp_left fun h => ⟨h, by rw [hruns]⟩
  newPayload := fun _ h => .inl (hscheduled ▸ h)
  newBundle := fun _ h => nomatch h
  newSession := fun _ h => nomatch h
  newAnswer := fun _ h => nomatch h
  newFeedback := fun _ h => nomatch h

theorem advances_of_jobs (hs : Practiced environment s) (hclock : s.clock ≤ t.clock)
    (h : t = { s with jobs := t.jobs, clock := t.clock }) :
    Advances environment s t none none none none := by
  have hgrows : Grows s t [] [] [] [] := by
    rw [h]
    exact grows_of_eq rfl rfl rfl rfl
  refine advances_of_quiet hs hclock ?_ ?_ (fun key row hrow => .inl ?_) ?_ hgrows
  · rw [h]
  · rw [h]
  · rw [h] at hrow
    exact hrow
  · rw [h]

/-- A step of the pull request, with the trigger of a switch. -/
theorem advances_preparation [DecidableEq Digest] {event : PreparationEvent}
    {preparation : PreparationSystem Digest} {left : JsString → Option Timestamp}
    (hs : Practiced environment s) (hnext : s.preparation.next environment event = some preparation)
    (h : ({ s with preparation := preparation } :
      PracticeSystem Digest).invalidateSemanticPrivate left = some t) :
    Advances environment s t none none none none := by
  have hframe := hs.prepared.frame hnext
  obtain ⟨rfl, hgrows⟩ := invalidateSemanticPrivate_eq_some h
  exact
    { prepared := (hs.prepared.next hnext).1
      clock := le_rfl
      budgets := hframe.budgets
      heads := by
        rintro revisionId headSha ⟨revision, hfind, hhead⟩
        obtain ⟨revision', hfind', hpair, -⟩ := hframe.revisions revisionId revision hfind
        exact ⟨revision', hfind', (congrArg Prod.fst hpair).trans hhead⟩
      runs := keepsRuns_of_eq rfl
      grows := ⟨hgrows.bundles, hgrows.sessions, hgrows.answers, hgrows.feedback⟩
      newRun := fun key run hnone hrun => (nomatch (hnone.symm.trans hrun))
      newInsert := fun key row hrow => .inl ⟨hrow, rfl⟩
      newPayload := fun _ hmem => .inl hmem
      newBundle := fun _ hnew => nomatch hnew
      newSession := fun _ hnew => nomatch hnew
      newAnswer := fun _ hnew => nomatch hnew
      newFeedback := fun _ hnew => nomatch hnew }

/-- A deterministic plan with its attempt. -/
theorem advances_prepareRevision [DecidableEq Digest] {now : Timestamp} {run : DeterministicRun}
    {plan : FrozenPlan} {fails : Bool} (hs : Practiced environment s)
    (h : s.prepareRevision environment now run plan fails = some t) :
    Advances environment s t none none none none := by
  obtain ⟨rows, hrows, hplan⟩ := Option.bind_eq_some_iff.mp h
  obtain ⟨-, heq⟩ := Option.ite_none_right_eq_some.mp hplan
  obtain rfl := Option.some_inj.mp heq
  have hrevisions := prepareRevision_revisions hrows
  exact
    { prepared :=
        ⟨hs.prepared.kept.of_carries (prepareRevision_cases hrows).2, hs.prepared.row,
          hs.prepared.job⟩
      clock := le_rfl
      budgets := fun _ _ hbudget => hbudget
      heads := fun _ _ ⟨revision, hfind, hhead⟩ =>
        ⟨revision, (findRevision_of_eq hrevisions).trans hfind, hhead⟩
      runs := keepsRuns_of_eq rfl
      grows := grows_of_eq rfl rfl rfl rfl
      newRun := fun key run hnone hrun => (nomatch (hnone.symm.trans hrun))
      newInsert := fun key row hrow => .inl ⟨hrow, rfl⟩
      newPayload := fun _ hmem => .inl hmem
      newBundle := fun _ hnew => nomatch hnew
      newSession := fun _ hnew => nomatch hnew
      newAnswer := fun _ hnew => nomatch hnew
      newFeedback := fun _ hnew => nomatch hnew }

theorem advances_expire {now : Timestamp} {kind : PrivateKind} {artifactId : JsString}
    (hs : Practiced environment s) (hclock : s.clock ≤ now)
    (h : s.expirePrivate now kind artifactId = some t) :
    Advances environment s { t with clock := now } none none none none := by
  obtain ⟨⟨bundles, sessions, answers, feedback, rfl⟩, hgrows⟩ := expirePrivate_eq_some h
  exact advances_of_quiet hs hclock rfl rfl (fun _ _ hrow => .inl hrow) rfl
    ⟨hgrows.bundles, hgrows.sessions, hgrows.answers, hgrows.feedback⟩

/-! ## Runs and their artifacts -/

theorem advances_reserve {now : Timestamp} {payload : PrivatePayload} {headSha : JsString}
    {run : PrivateRun} {jobs : Table ℕ PracticeJob} (hs : Practiced environment s)
    (hclock : s.clock ≤ now) (hopen : s.inserted payload.idempotencyKey = none)
    (hpayload : isLearningPayload payload = true ∨ payload ∈ s.scheduled)
    (h : s.reserveRun environment now payload = .reserved t headSha run) :
    Advances environment s { t with jobs := jobs, clock := now } none none none none := by
  obtain ⟨rfl, budget, maximum, hreserves⟩ := reserveRun_eq_reserved h
  have hkey : ∀ target, payload.target = some target →
      payload.idempotencyKey = feedbackKey target.practiceAnswerId := by
    intro target htarget
    rcases hpayload with hlearning | hscheduled
    · rw [isLearningPayload, decide_eq_true_eq, htarget] at hlearning
      cases hlearning.1
    · obtain ⟨found, hfound, hkey, -⟩ := hs.scheduled payload hscheduled
      obtain rfl := Option.some_inj.mp (htarget.symm.trans hfound)
      exact hkey
  have hlearning : payload.target = none →
      payload.idempotencyKey = learningKey payload.generationContextId ∨
        ¬learningKeyPrefix <+: payload.idempotencyKey ∧
          ¬feedbackKeyPrefix <+: payload.idempotencyKey := by
    intro htarget
    rcases hpayload with hlearning | hscheduled
    · rw [isLearningPayload, decide_eq_true_eq] at hlearning
      exact hlearning.2
    · obtain ⟨found, hfound, -⟩ := hs.scheduled payload hscheduled
      cases htarget.symm.trans hfound
  exact
    { prepared := hs.prepared
      clock := hclock
      budgets := fun _ _ hbudget => hbudget
      heads := fun _ _ hhead => hhead
      runs := by
        intro key old hold
        dsimp only
        rw [Table.set_apply]
        split
        · next heq =>
          subst heq
          rcases hreserves.row with hrow | ⟨hnone, -⟩
          · rw [hold] at hrow
            obtain rfl := Option.some_inj.mp hrow
            exact ⟨_, rfl, fun _ => rfl⟩
          · cases hold.symm.trans hnone
        · exact ⟨_, hold, fun _ => rfl⟩
      grows := grows_of_eq rfl rfl rfl rfl
      newRun := by
        intro key new hnone hnew
        dsimp only at hnew
        rw [Table.set_apply] at hnew
        split at hnew
        · next heq =>
          subst heq
          obtain rfl := Option.some_inj.mp hnew
          rcases hreserves.row with hrow | ⟨-, hcreated, hdelete, -⟩
          · cases hnone.symm.trans hrow
          · refine ⟨⟨budget, ?_, hreserves.revisionId, hreserves.questionCount,
              hreserves.artifactSeed⟩, hcreated.le, ?_, fun htarget => ?_, fun target htarget => ?_⟩
            · rw [hreserves.generationContextId]
              exact hreserves.hasBudget
            · rw [hdelete, hcreated]
              exact min_le_left _ _
            · rw [hreserves.generationContextId]
              exact hlearning (hreserves.target ▸ htarget)
            · rw [hreserves.target] at htarget
              refine ⟨hkey target htarget, ?_⟩
              obtain ⟨answer, hmem, hid, hbinding, hlast⟩ :=
                hs.hasAnswer htarget hreserves.hasMaximum
              exact ⟨answer, hmem, hid, hbinding,
                (hdelete.trans_le (min_le_right _ _)).trans hlast⟩
        · cases hnone.symm.trans hnew
      newInsert := by
        intro key row hrow
        refine .inl ⟨hrow, ?_⟩
        dsimp only at hrow ⊢
        rw [Table.set_apply, if_neg]
        rintro rfl
        cases hopen.symm.trans hrow
      newPayload := fun _ hmem => .inl hmem
      newBundle := fun _ hnew => nomatch hnew
      newSession := fun _ hnew => nomatch hnew
      newAnswer := fun _ hnew => nomatch hnew
      newFeedback := fun _ hnew => nomatch hnew }

theorem acceptsArtifact_hasHead {revisionId headSha : JsString}
    (h : s.acceptsArtifact revisionId headSha = true) :
    s.HasHead revisionId headSha ∧ ∃ revision, s.openRevision revisionId = some revision := by
  obtain ⟨revision, hopen, hhead⟩ := (Option.any_eq_true ..).mp h
  exact ⟨⟨revision, (openRevision_eq_some hopen).1, of_decide_eq_true hhead⟩, revision, hopen⟩

/-- The row that is inserted for a run. -/
theorem insertBound_of_run {key headSha id content : JsString} {outcome : GenerationOutcome}
    {run : PrivateRun} (hrun : s.runs key = some run) (hcompleted : run.completed = none)
    (hhead : s.HasHead run.revisionId headSha) :
    InsertBound environment s key
      (insertedRow key headSha id outcome
        { questionIds := practiceQuestionIds environment run, content := content } run) where
  run := ⟨run, hrun, hcompleted⟩
  row := by
    unfold insertedRow
    cases htarget : run.target with
    | none =>
        refine ⟨rfl, hhead, run, hrun, htarget, rfl, rfl, rfl, rfl, fun material hpayload => ?_⟩
        obtain rfl := Option.some_inj.mp hpayload
        rfl
    | some target => exact ⟨rfl, run, target, hrun, htarget, rfl, rfl, rfl, rfl⟩

theorem persistPrivateArtifact_eq_some {job : PracticeJob} {outcome : GenerationOutcome}
    {content : JsString} {row : PrivateInsert}
    (h : s.persistPrivateArtifact environment job outcome content = some row) :
    ∃ run, s.runs job.payload.idempotencyKey = some run ∧ run.completed = none ∧
      s.acceptsArtifact run.revisionId job.headSha = true ∧
      row = insertedRow job.payload.idempotencyKey job.headSha (privateArtifactId environment run)
        outcome { questionIds := practiceQuestionIds environment run, content := content } run := by
  obtain ⟨run, hrun, hinsert⟩ := Option.bind_eq_some_iff.mp h
  split at hinsert
  · next hopen =>
    exact ⟨run, hrun, Option.isNone_iff_eq_none.mp hopen.1, hopen.2,
      (Option.some_inj.mp hinsert).symm⟩
  · cases hinsert

theorem advances_persist {job : ℕ} {value : PracticeJob} {outcome : GenerationOutcome}
    {content : JsString} (hs : Practiced environment s) :
    Advances environment s (s.persist environment job value outcome content) none none none
      none := by
  unfold persist
  split
  · exact advances_of_jobs hs le_rfl rfl
  · next row hrow =>
    obtain ⟨run, hrun, hcompleted, haccepts, rfl⟩ := persistPrivateArtifact_eq_some hrow
    refine advances_of_quiet hs le_rfl rfl rfl (fun key row hinserted => ?_) rfl
      (grows_of_eq rfl rfl rfl rfl)
    dsimp only [withoutJob] at hinserted
    rw [Table.set_apply] at hinserted
    split at hinserted
    · next heq =>
      subst heq
      obtain rfl := Option.some_inj.mp hinserted
      exact .inr (insertBound_of_run hrun hcompleted (acceptsArtifact_hasHead haccepts).1)
    · exact .inl hinserted

theorem advances_rollback {key : JsString} (hs : Practiced environment s) :
    Advances environment s { s with inserted := Function.update s.inserted key none } none none
      none none := by
  refine advances_of_quiet hs le_rfl rfl rfl (fun other row hrow => .inl ?_) rfl
    (grows_of_eq rfl rfl rfl rfl)
  dsimp only at hrow
  rw [Function.update_apply] at hrow
  split at hrow
  · cases hrow
  · exact hrow

theorem keeps_of_grows {bundles : List LearningBundle} {sessions : List PracticeSession}
    {answers : List PracticeAnswer} {feedback : List PracticeFeedback} (hclock : s.clock ≤ t.clock)
    (hpreparation : t.preparation = s.preparation) (hruns : KeepsRuns s t)
    (hgrows : Grows s t bundles sessions answers feedback) : Keeps s t where
  clock := hclock
  budgets := fun _ _ h => hpreparation ▸ h
  heads := fun _ _ ⟨revision, hfind, hhead⟩ => ⟨revision, hpreparation ▸ hfind, hhead⟩
  runs := hruns
  bundles := fun _ hmem => hgrows.bundles.forward hmem
  sessions := fun _ hmem => hgrows.sessions.forward hmem
  answers := fun _ hmem => hgrows.answers.forward hmem
  feedback := fun _ hmem => hgrows.feedback.forward hmem

theorem keepsRuns_completeRun {key artifactId : JsString} {outcome : GenerationOutcome}
    {run : PrivateRun} (hrun : s.runs key = some run) (hopen : run.completed = none) :
    KeepsRuns s (s.completeRun key artifactId outcome) := by
  intro other old hold
  unfold completeRun
  dsimp only
  rw [Function.update_apply]
  split
  · next heq =>
    subst heq
    obtain rfl := Option.some_inj.mp (hrun.symm.trans hold)
    rw [hrun, Option.map_some]
    exact ⟨_, rfl, fun hsome => by rw [hopen] at hsome; cases hsome⟩
  · exact ⟨_, hold, fun _ => rfl⟩

/-- A commit makes the row that is inserted, and completes its run. -/
theorem commitInsert_eq_some {key : JsString} (h : s.commitInsert key = some t) :
    (∃ row, s.inserted key = some (.learningBundle row) ∧
      (∀ other ∈ s.bundles, other.id ≠ row.id ∧ other.binding.runKey ≠ row.binding.runKey) ∧
      t = ({ s with bundles := s.bundles ++ [row] } : PracticeSystem Digest).completeRun key row.id
        row.binding.outcome) ∨
    ∃ row, s.inserted key = some (.feedback row) ∧
      (∀ other ∈ s.feedback, other.id ≠ row.id ∧ other.binding.runKey ≠ row.binding.runKey) ∧
      t = ({ s with feedback := s.feedback ++ [row] } : PracticeSystem Digest).completeRun key
        row.id row.binding.outcome := by
  unfold commitInsert at h
  split at h
  · cases h
  · next row hrow =>
    split at h
    · next hunique =>
      cases h
      exact .inl ⟨row, hrow, fun other hmem => by
        simpa using List.all_eq_true.mp hunique other hmem, rfl⟩
    · cases h
  · next row hrow =>
    split at h
    · next hunique =>
      cases h
      exact .inr ⟨row, hrow, fun other hmem => by
        simpa using List.all_eq_true.mp hunique other hmem, rfl⟩
    · cases h

/-- The tables of runs and of inserts after a completion. -/
theorem completeRun_rows {key artifactId other : JsString} {outcome : GenerationOutcome} :
    (∀ run, s.runs other = none → (s.completeRun key artifactId outcome).runs other ≠ some run) ∧
    ∀ row, (s.completeRun key artifactId outcome).inserted other = some row →
      s.inserted other = some row ∧
        (s.completeRun key artifactId outcome).runs other = s.runs other := by
  unfold completeRun
  dsimp only
  rw [Function.update_apply, Function.update_apply]
  split
  · next heq =>
    subst heq
    refine ⟨fun run hnone => ?_, fun row hrow => (nomatch hrow)⟩
    rw [hnone]
    exact nofun
  · refine ⟨fun run hnone hrun => ?_, fun row hrow => ⟨hrow, rfl⟩⟩
    cases hnone.symm.trans hrun

theorem advances_commit {key : JsString} (hs : Practiced environment s)
    (h : s.commitInsert key = some t) :
    ∃ bundle feedback, Advances environment s t bundle none none feedback := by
  obtain ⟨row, hrow, hunique, rfl⟩ | ⟨row, hrow, hunique, rfl⟩ := commitInsert_eq_some h
  · obtain ⟨⟨run, hrun, hopen⟩, hkey, hbound⟩ := hs.inserted key _ hrow
    have hgrows : Grows s (({ s with bundles := s.bundles ++ [row] } :
        PracticeSystem Digest).completeRun key row.id row.binding.outcome) [row] [] [] [] :=
      ⟨grown_append PrivateRow.follows_refl, grown_refl PracticeSession.ends_refl,
        grown_refl PrivateRow.follows_refl, grown_refl PrivateRow.follows_refl⟩
    have hruns : KeepsRuns s (({ s with bundles := s.bundles ++ [row] } :
        PracticeSystem Digest).completeRun key row.id row.binding.outcome) :=
      @keepsRuns_completeRun _ { s with bundles := s.bundles ++ [row] } _ _ _ _ hrun hopen
    exact ⟨some row, none,
      { prepared := hs.prepared
        clock := le_rfl
        budgets := fun _ _ hbudget => hbudget
        heads := fun _ _ hhead => hhead
        runs := hruns
        grows := hgrows
        newRun := fun other new hnone hnew => absurd hnew (completeRun_rows.1 new hnone)
        newInsert := fun other new hnew => .inl (completeRun_rows.2 new hnew)
        newPayload := fun _ hmem => .inl hmem
        newBundle := by
          rintro new ⟨⟩
          exact ⟨hbound.mono (keeps_of_grows le_rfl rfl hruns hgrows)
            (PrivateRow.follows_refl row), fun other hmem => (hunique other hmem).1⟩
        newSession := fun _ hnew => nomatch hnew
        newAnswer := fun _ hnew => nomatch hnew
        newFeedback := fun _ hnew => nomatch hnew }⟩
  · obtain ⟨⟨run, hrun, hopen⟩, hkey, hbound⟩ := hs.inserted key _ hrow
    have hgrows : Grows s (({ s with feedback := s.feedback ++ [row] } :
        PracticeSystem Digest).completeRun key row.id row.binding.outcome) [] [] [] [row] :=
      ⟨grown_refl PrivateRow.follows_refl, grown_refl PracticeSession.ends_refl,
        grown_refl PrivateRow.follows_refl, grown_append PrivateRow.follows_refl⟩
    have hruns : KeepsRuns s (({ s with feedback := s.feedback ++ [row] } :
        PracticeSystem Digest).completeRun key row.id row.binding.outcome) :=
      @keepsRuns_completeRun _ { s with feedback := s.feedback ++ [row] } _ _ _ _ hrun hopen
    exact ⟨none, some row,
      { prepared := hs.prepared
        clock := le_rfl
        budgets := fun _ _ hbudget => hbudget
        heads := fun _ _ hhead => hhead
        runs := hruns
        grows := hgrows
        newRun := fun other new hnone hnew => absurd hnew (completeRun_rows.1 new hnone)
        newInsert := fun other new hnew => .inl (completeRun_rows.2 new hnew)
        newPayload := fun _ hmem => .inl hmem
        newBundle := fun _ hnew => nomatch hnew
        newSession := fun _ hnew => nomatch hnew
        newAnswer := fun _ hnew => nomatch hnew
        newFeedback := by
          rintro new ⟨⟩
          exact ⟨hbound.mono (keeps_of_grows le_rfl rfl hruns hgrows)
            (PrivateRow.follows_refl row), hunique⟩ }⟩

/-! ## Sessions -/

theorem reserveRateLimit_eq_some {now : Timestamp} {revisionId actorKeyHash : JsString}
    {isAnswer : Bool} (h : s.reserveRateLimit now revisionId actorKeyHash isAnswer = some t) :
    (∃ rates, t = { s with rates := rates }) ∧ (s.openRevision revisionId).isSome = true := by
  obtain ⟨hopen, heq⟩ := Option.ite_none_right_eq_some.mp h
  exact ⟨⟨_, (Option.some_inj.mp heq).symm⟩, hopen.1⟩

theorem startableBundle_eq_some {now : Timestamp} {input : StartPracticeSessionInput}
    {material : LearningBundle} (h : s.startableBundle environment now input = some material) :
    s.findBundle input.learningBundleId = some material ∧
      material.revisionId = input.revisionId ∧
      material.generationContextId = input.generationContextId ∧ material.isReadable now = true ∧
      environment.authorId = input.userId := by
  unfold startableBundle at h
  split at h
  · next revision bundle hrevision hbundle =>
    split at h
    · next hbound =>
      cases h
      exact ⟨hbundle, hbound.1, hbound.2.1, hbound.2.2.1, hbound.2.2.2.2⟩
    · cases h
  · cases h

theorem insertSession_eq_some {session : PracticeSession} (h : s.insertSession session = some t) :
    t = { s with sessions := s.sessions ++ [session] } ∧
      (∀ other ∈ s.sessions, other.id ≠ session.id) ∧
      (∀ other ∈ s.sessions, other.isActive = true → other.revisionId = session.revisionId →
        other.userId ≠ session.userId) := by
  unfold insertSession at h
  split at h
  · next hguard =>
    cases h
    refine ⟨rfl, fun other hmem => by simpa using List.all_eq_true.mp hguard.1 other hmem,
      fun other hmem hactive hrevision huser => ?_⟩
    have hnone := List.any_eq_false.mp hguard.2.1 other hmem
    exact hnone (decide_eq_true ⟨hrevision, huser, hactive⟩)
  · cases h

/-- The session that a start makes. -/
def startedSession (now : Timestamp) (sessionId : JsString) (input : StartPracticeSessionInput)
    (material : LearningBundle) : PracticeSession where
  id := sessionId
  revisionId := input.revisionId
  generationContextId := input.generationContextId
  learningBundleId := input.learningBundleId
  userId := input.userId
  startedAt := now
  deleteAfter := material.deleteAfter
  invalidatedAt := none
  deletedAt := none

/-- The sessions once the one that is active has given way. -/
def superseded (now : Timestamp) (active : PracticeSession) (sessions : List PracticeSession) :
    List PracticeSession :=
  sessions.map fun other =>
    if other.id = active.id then { other with invalidatedAt := some now } else other

theorem grown_superseded {now : Timestamp} {active : PracticeSession}
    {sessions : List PracticeSession} :
    Grown PracticeSession.Ends sessions (superseded now active sessions) [] := by
  refine grown_map fun session => ?_
  split
  · exact PracticeSession.ends_invalidated session now session.deletedAt
  · exact PracticeSession.ends_refl session

/-- A start returns the active session of the bundle, or makes one in the place of another. -/
theorem startPracticeSession_eq_some {now : Timestamp} {sessionId id : JsString}
    {input : StartPracticeSessionInput}
    (h : s.startPracticeSession environment now sessionId input = some (t, id)) :
    ∃ rates material, s.startableBundle environment now input = some material ∧
      (t = { s with rates := rates } ∨
        ∃ sessions u, Grown PracticeSession.Ends s.sessions sessions [] ∧
          ({ s with rates := rates, sessions := sessions } : PracticeSystem Digest).insertSession
            (startedSession now sessionId input material) = some u ∧ t = u) := by
  unfold startPracticeSession at h
  obtain ⟨limited, hlimit, hbind⟩ := Option.bind_eq_some_iff.mp h
  obtain ⟨⟨rates, rfl⟩, -⟩ := reserveRateLimit_eq_some hlimit
  obtain ⟨material, hmaterial, hrest⟩ := Option.bind_eq_some_iff.mp hbind
  refine ⟨rates, material, hmaterial, ?_⟩
  dsimp only at hrest
  split at hrest
  · obtain ⟨u, hinsert, heq⟩ := Option.map_eq_some_iff.mp hrest
    cases heq
    exact .inr ⟨s.sessions, t, grown_refl PracticeSession.ends_refl, hinsert, rfl⟩
  · next active hactive =>
    split at hrest
    · cases hrest
      exact .inl rfl
    · obtain ⟨u, hinsert, heq⟩ := Option.map_eq_some_iff.mp hrest
      cases heq
      exact .inr ⟨superseded now active s.sessions, t, grown_superseded, hinsert, rfl⟩

theorem advances_start {now : Timestamp} {sessionId id : JsString}
    {input : StartPracticeSessionInput} (hs : Practiced environment s) (hclock : s.clock ≤ now)
    (h : s.startPracticeSession environment now sessionId input = some (t, id)) :
    ∃ session, Advances environment s { t with clock := now } none session none none := by
  obtain ⟨rates, material, hmaterial, rfl | ⟨sessions, u, hsessions, hinsert, rfl⟩⟩ :=
    startPracticeSession_eq_some h
  · exact ⟨none, advances_of_quiet hs hclock rfl rfl (fun _ _ hrow => .inl hrow) rfl
      (grows_of_eq rfl rfl rfl rfl)⟩
  · obtain ⟨rfl, hfresh, hsingle⟩ := insertSession_eq_some hinsert
    obtain ⟨hbundle, hrevision, hcontext, -, -⟩ := startableBundle_eq_some hmaterial
    obtain ⟨hmem, hid⟩ := findBundle_eq_some hbundle
    have hids : sessions.map PracticeSession.id = s.sessions.map PracticeSession.id := by
      have hkeys := hsessions.keys fun _ _ hends => PracticeSession.Ends.id hends
      rwa [List.map_nil, List.append_nil] at hkeys
    have hgrown : Grown PracticeSession.Ends s.sessions
        (sessions ++ [startedSession now sessionId input material])
        [startedSession now sessionId input material] := by
      obtain ⟨change, hchange, hsame⟩ := hsessions
      rw [List.append_nil] at hsame
      exact ⟨change, hchange, by rw [hsame]⟩
    refine ⟨some (startedSession now sessionId input material),
      { prepared := hs.prepared
        clock := hclock
        budgets := fun _ _ hbudget => hbudget
        heads := fun _ _ hhead => hhead
        runs := keepsRuns_of_eq rfl
        grows := ⟨grown_refl PrivateRow.follows_refl, hgrown,
          grown_refl PrivateRow.follows_refl, grown_refl PrivateRow.follows_refl⟩
        newRun := fun key run hnone hrun => (nomatch (hnone.symm.trans hrun))
        newInsert := fun key row hrow => .inl ⟨hrow, rfl⟩
        newPayload := fun _ hmem => .inl hmem
        newBundle := fun _ hnew => nomatch hnew
        newSession := ?_
        newAnswer := fun _ hnew => nomatch hnew
        newFeedback := fun _ hnew => nomatch hnew }⟩
    rintro new ⟨⟩
    refine ⟨⟨material, hmem, hid, hrevision, hcontext, rfl⟩, fun other hother => ?_,
      fun other hother hactive hsame huser => ?_⟩
    · have hkept : other.id ∈ sessions.map PracticeSession.id :=
        hids ▸ List.mem_map_of_mem hother
      obtain ⟨found, hfound, hfoundId⟩ := List.mem_map.mp hkept
      exact hfoundId ▸ hfresh found hfound
    · rcases List.mem_append.mp hother with hother | hother
      · exact absurd huser (hsingle other hother hactive hsame)
      · exact List.mem_singleton.mp hother

/-! ## Answers -/

theorem answerable_eq_some {now : Timestamp} {input : SubmitPracticeAnswerInput}
    {session : PracticeSession} {binding : BundleBinding} {learning : LearningMaterial}
    (h : s.answerable environment now input = some (session, binding, learning)) :
    s.findSession input.practiceSessionId = some session ∧
      session.revisionId = input.revisionId ∧
      session.generationContextId = input.generationContextId ∧ session.userId = input.userId ∧
      session.isActive = true ∧ now < session.deleteAfter ∧
      ∃ bundle, s.findBundle session.learningBundleId = some bundle ∧
        bundle.payload = some learning := by
  unfold answerable at h
  split at h
  · next revision found hrevision hfound =>
    split at h
    · next hopen =>
      obtain ⟨bundle, hbundle, hmap⟩ := Option.bind_eq_some_iff.mp h
      obtain ⟨payload, hpayload, heq⟩ := Option.map_eq_some_iff.mp hmap
      cases heq
      exact ⟨hfound, hopen.1, hopen.2.1, hopen.2.2.1, hopen.2.2.2.1, hopen.2.2.2.2.1, bundle,
        hbundle, hpayload⟩
    · cases h
  · cases h

/-- The answer that a submission makes. -/
def submittedAnswer (environment : PreparationEnvironment Digest) (begunAt : Timestamp)
    (input : SubmitPracticeAnswerInput) (session : PracticeSession) : PracticeAnswer where
  id := practiceAnswerId environment input.practiceSessionId input.practiceQuestionId
  revisionId := input.revisionId
  generationContextId := input.generationContextId
  binding := { sessionId := input.practiceSessionId, questionId := input.practiceQuestionId }
  content := .held input.answer
  deleteAfter := session.deleteAfter
  invalidatedAt := none
  createdAt := begunAt

/-- The feedback job that a submission schedules. -/
def submittedJob (environment : PreparationEnvironment Digest)
    (input : SubmitPracticeAnswerInput) (headSha : JsString) : PrivatePayload where
  idempotencyKey :=
    feedbackKey (practiceAnswerId environment input.practiceSessionId input.practiceQuestionId)
  revisionId := input.revisionId
  generationContextId := input.generationContextId
  expectedHeadSha := headSha
  target := some
    { practiceSessionId := input.practiceSessionId
      practiceQuestionId := input.practiceQuestionId
      practiceAnswerId :=
        practiceAnswerId environment input.practiceSessionId input.practiceQuestionId }

/-- The question of a submission has no answer yet. -/
structure IsUnanswered (environment : PreparationEnvironment Digest) (s : PracticeSystem Digest)
    (input : SubmitPracticeAnswerInput) : Prop where
  key : ∀ other ∈ s.answers, other.binding ≠
    { sessionId := input.practiceSessionId, questionId := input.practiceQuestionId }
  id : ∀ other ∈ s.answers, other.id ≠
    practiceAnswerId environment input.practiceSessionId input.practiceQuestionId

/-- A submission replays the answer that is there, or makes one and schedules its job. -/
theorem submitPracticeAnswer_eq_some {begunAt now : Timestamp} {replayed : Bool}
    {input : SubmitPracticeAnswerInput}
    (h : s.submitPracticeAnswer environment begunAt now input = some (t, replayed)) :
    ∃ rates session binding learning,
      s.answerable environment now input = some (session, binding, learning) ∧
      input.practiceQuestionId ∈ learning.questionIds ∧
      (replayed = true ∧ t = { s with rates := rates } ∧
        (s.answers.find? fun answer => answer.id =
          practiceAnswerId environment input.practiceSessionId input.practiceQuestionId).bind
            PrivateRow.payload = some input.answer ∨
      replayed = false ∧ IsUnanswered environment s input ∧
        t =
          { s with
            rates := rates
            answers := s.answers ++ [submittedAnswer environment begunAt input session]
            scheduled := s.scheduled ++ [submittedJob environment input binding.headSha] }) := by
  unfold submitPracticeAnswer at h
  obtain ⟨limited, hlimit, hbind⟩ := Option.bind_eq_some_iff.mp h
  obtain ⟨⟨rates, rfl⟩, -⟩ := reserveRateLimit_eq_some hlimit
  obtain ⟨⟨session, binding, learning⟩, hanswerable, hrest⟩ := Option.bind_eq_some_iff.mp hbind
  refine ⟨rates, session, binding, learning, hanswerable, ?_⟩
  dsimp only at hrest
  split at hrest
  · cases hrest
  · next hquestion =>
    refine ⟨not_not.mp hquestion, ?_⟩
    split at hrest
    · split at hrest
      · cases hrest
      · next prior hprior =>
        split at hrest
        · next hsame =>
          cases hrest
          exact .inl ⟨rfl, rfl, hsame ▸ hprior⟩
        · cases hrest
    · next hnone =>
      split at hrest
      · next hfresh =>
        cases hrest
        refine .inr ⟨rfl, ⟨fun other hmem hsame => hnone ?_, fun other hmem => ?_⟩, rfl⟩
        · refine List.any_eq_true.mpr ⟨other, hmem, decide_eq_true ?_⟩
          rw [hsame]
          exact ⟨rfl, rfl⟩
        · simpa using List.all_eq_true.mp hfresh other hmem
      · cases hrest

theorem advances_submit {begunAt now : Timestamp} {replayed : Bool}
    {input : SubmitPracticeAnswerInput} (hs : Practiced environment s) (hclock : s.clock ≤ now)
    (hbegun : begunAt ≤ now)
    (h : s.submitPracticeAnswer environment begunAt now input = some (t, replayed)) :
    ∃ answer, Advances environment s { t with clock := now } none none answer none := by
  obtain ⟨rates, session, binding, learning, hanswerable, hquestion,
    ⟨-, rfl, -⟩ | ⟨-, hunanswered, rfl⟩⟩ := submitPracticeAnswer_eq_some h
  · exact ⟨none, advances_of_quiet hs hclock rfl rfl (fun _ _ hrow => .inl hrow) rfl
      (grows_of_eq rfl rfl rfl rfl)⟩
  · obtain ⟨hsession, hrevision, hcontext, -, -, -, bundle, hbundle, hpayload⟩ :=
      answerable_eq_some hanswerable
    obtain ⟨hmem, hid⟩ := findSession_eq_some hsession
    obtain ⟨hbundleMem, hbundleId⟩ := findBundle_eq_some hbundle
    obtain ⟨run, hrun, -, -, -, -, -, hmaterial⟩ := (hs.bundles bundle hbundleMem).run
    refine ⟨some (submittedAnswer environment begunAt input session),
      { prepared := hs.prepared
        clock := hclock
        budgets := fun _ _ hbudget => hbudget
        heads := fun _ _ hhead => hhead
        runs := keepsRuns_of_eq rfl
        grows := ⟨grown_refl PrivateRow.follows_refl, grown_refl PracticeSession.ends_refl,
          grown_append PrivateRow.follows_refl, grown_refl PrivateRow.follows_refl⟩
        newRun := fun key run hnone hrun => (nomatch (hnone.symm.trans hrun))
        newInsert := fun key row hrow => .inl ⟨hrow, rfl⟩
        newPayload := ?_
        newBundle := fun _ hnew => nomatch hnew
        newSession := fun _ hnew => nomatch hnew
        newAnswer := ?_
        newFeedback := fun _ hnew => nomatch hnew }⟩
    · intro payload hpayload
      rcases List.mem_append.mp hpayload with hold | hnew
      · exact .inl hold
      · rw [List.mem_singleton.mp hnew]
        exact .inr ⟨_, rfl, rfl, _, List.mem_append_right _ (List.mem_singleton_self _), rfl, rfl⟩
    · rintro new ⟨⟩
      refine ⟨⟨rfl, hbegun, session, hmem, hid, hrevision, hcontext, rfl, bundle, hbundleMem,
        hbundleId, run, hrun, hmaterial learning hpayload ▸ hquestion⟩, fun other hother => ?_⟩
      exact ⟨hunanswered.id other hother, hunanswered.key other hother⟩

/-! ## Any step -/

section Steps

variable [DecidableEq Digest] {event : PracticeEvent}

theorem next_eq_some (h : s.next environment event = some t) :
    ∃ u, s.nextRows environment event = some u ∧
      t = { u with clock := (practiceReading event).getD s.clock } ∧
      s.clock ≤ (practiceReading event).getD s.clock := by
  unfold PracticeSystem.next at h
  split at h
  · next hclock =>
    obtain ⟨u, hrows, rfl⟩ := Option.map_eq_some_iff.mp h
    refine ⟨u, hrows, rfl, ?_⟩
    cases hreading : practiceReading event with
    | none => exact le_rfl
    | some now =>
        rw [hreading] at hclock
        exact of_decide_eq_true hclock
  · cases h

theorem Practiced.advances (hs : Practiced environment s)
    (h : s.next environment event = some t) :
    ∃ bundle session answer feedback,
      Advances environment s t bundle session answer feedback := by
  obtain ⟨u, hrows, rfl, hclock⟩ := next_eq_some h
  cases event with
  | preparation event =>
      obtain ⟨preparation, hnext, htrigger⟩ := Option.bind_eq_some_iff.mp hrows
      have hu : u.clock = s.clock := by
        rw [(invalidateSemanticPrivate_eq_some htrigger).1]
      refine ⟨none, none, none, none, ?_⟩
      change Advances environment s { u with clock := s.clock } none none none none
      rw [← hu]
      exact advances_preparation hs hnext htrigger
  | prepareRevision now run plan fails =>
      have hadvances := advances_prepareRevision hs hrows
      have hu : u.clock = s.clock := by
        obtain ⟨rows, -, hplan⟩ := Option.bind_eq_some_iff.mp hrows
        obtain ⟨-, heq⟩ := Option.ite_none_right_eq_some.mp hplan
        rw [← Option.some_inj.mp heq]
      refine ⟨none, none, none, none, ?_⟩
      change Advances environment s { u with clock := s.clock } none none none none
      rw [← hu]
      exact hadvances
  | reserve job now payload =>
      simp only [nextRows] at hrows
      split at hrows
      · next hguard =>
        split at hrows
        · next v headSha run hreserve =>
          cases hrows
          refine ⟨none, none, none, none, ?_⟩
          change Advances environment s { v with jobs := v.jobs.set job _, clock := now } _ _ _ _
          exact advances_reserve hs hclock (Option.isNone_iff_eq_none.mp hguard.2.1) hguard.2.2
            hreserve
        · cases hrows
      · cases hrows
  | load job now =>
      obtain ⟨value, hjob, hload⟩ := Option.bind_eq_some_iff.mp hrows
      split at hload
      · cases hload
        refine ⟨none, none, none, none, advances_of_jobs hs hclock ?_⟩
        unfold PracticeSystem.load
        split <;> rfl
      · cases hload
  | generate job outcome content =>
      obtain ⟨value, hjob, hgenerate⟩ := Option.bind_eq_some_iff.mp hrows
      refine ⟨none, none, none, none, advances_of_jobs hs hclock ?_⟩
      split at hgenerate
      · cases hgenerate
        rfl
      · split at hgenerate
        · cases hgenerate
          rfl
        · cases hgenerate
      · cases hgenerate
  | persist job =>
      obtain ⟨value, hjob, hpersist⟩ := Option.bind_eq_some_iff.mp hrows
      split at hpersist
      · next outcome content hphase =>
        split at hpersist
        · cases hpersist
          refine ⟨none, none, none, none, ?_⟩
          have hadvances := @advances_persist _ environment s job value outcome content hs
          have hsame : (s.persist environment job value outcome content).clock = s.clock := by
            unfold PracticeSystem.persist
            split <;> rfl
          change Advances environment s
            { s.persist environment job value outcome content with clock := s.clock } _ _ _ _
          rw [← hsame]
          exact hadvances
        · cases hpersist
      · cases hpersist
  | crash job =>
      obtain ⟨value, hjob, rfl⟩ := Option.map_eq_some_iff.mp hrows
      exact ⟨none, none, none, none, advances_of_jobs hs hclock rfl⟩
  | commit key =>
      obtain ⟨bundle, feedback, hadvances⟩ := advances_commit hs hrows
      have hu : u.clock = s.clock := by
        obtain ⟨row, -, -, rfl⟩ | ⟨row, -, -, rfl⟩ := commitInsert_eq_some hrows <;> rfl
      refine ⟨bundle, none, none, feedback, ?_⟩
      change Advances environment s { u with clock := s.clock } _ _ _ _
      rw [← hu]
      exact hadvances
  | rollback key =>
      obtain ⟨row, hrow, rfl⟩ := Option.map_eq_some_iff.mp hrows
      exact ⟨none, none, none, none, advances_rollback hs⟩
  | start now sessionId input =>
      obtain ⟨⟨v, id⟩, hstart, rfl⟩ := Option.map_eq_some_iff.mp hrows
      obtain ⟨session, hadvances⟩ := advances_start hs hclock hstart
      exact ⟨none, session, none, none, hadvances⟩
  | submit begunAt now input =>
      simp only [nextRows] at hrows
      split at hrows
      · next hbegun =>
        obtain ⟨⟨v, replayed⟩, hsubmit, rfl⟩ := Option.map_eq_some_iff.mp hrows
        obtain ⟨answer, hadvances⟩ := advances_submit hs hclock hbegun hsubmit
        exact ⟨none, none, answer, none, hadvances⟩
      · cases hrows
  | expire now kind artifactId =>
      exact ⟨none, none, none, none, advances_expire hs hclock hrows⟩
  | view now input =>
      cases hrows
      exact ⟨none, none, none, none, advances_of_jobs hs hclock rfl⟩

/-- Every step keeps the bindings, and every row. -/
theorem Practiced.step (hs : Practiced environment s) (event : PracticeEvent) :
    Practiced environment (s.step environment event) ∧ Keeps s (s.step environment event) := by
  unfold PracticeSystem.step
  cases hnext : s.next environment event with
  | none => exact ⟨hs, keeps_refl s⟩
  | some t =>
      obtain ⟨bundle, session, answer, feedback, hadvances⟩ := hs.advances hnext
      exact ⟨hs.advance hadvances, hadvances.keeps⟩

variable (environment) (clock : Timestamp)

/-- The system after a history. -/
abbrev practiceAfter (events : List PracticeEvent) : PracticeSystem Digest :=
  after (PracticeSystem.step environment) (start clock) events

variable {environment clock}

theorem practiced_after (events : List PracticeEvent) :
    Practiced environment (practiceAfter environment clock events) :=
  after_keeps (I := fun s : PracticeSystem Digest => Practiced environment s) practiced_start
    (fun _ event h => (h.step event).1) events

/-- What a history leaves, the rest of it keeps. -/
theorem keeps_after (events more : List PracticeEvent) :
    Keeps (practiceAfter environment clock events)
      (practiceAfter environment clock (events ++ more)) := by
  induction more using List.reverseRecOn with
  | nil =>
      rw [List.append_nil]
      exact keeps_refl _
  | append_singleton more event ih =>
      rw [← List.append_assoc]
      unfold practiceAfter
      rw [after_concat]
      exact ih.trans ((practiced_after (events ++ more)).step event).2

end Steps

end PracticeSystem

end Worker

end UnderstandProof
