import UnderstandProof.Worker.PracticeFrames

/-!
# What the practice tables keep

Every private row is bound to the rows that it has been made from: a bundle to its run, a session
to its bundle, an answer to its session and to a question of the bundle's run, feedback to the run
of its answer. The identifiers of answers and the keys of their feedback jobs are derived from the
session and the question, and so each question of a session has one answer and one feedback.
-/

open Foundation

namespace UnderstandProof

namespace Worker

open Domain (Timestamp)
open Github (PullRequestRevision PullRequestRows)

/-- The number of questions of a run. -/
def runQuestionCount (budget : GenerationBudget) (target : Option PracticeTarget) : ℕ :=
  if target.isSome then budget.questionBudget else max 3 budget.questionBudget

/-- A payload that the run could have been reserved with. -/
def runPayload (key : JsString) (run : PrivateRun) : PrivatePayload where
  idempotencyKey := key
  revisionId := run.revisionId
  generationContextId := run.generationContextId
  expectedHeadSha := []
  target := run.target

namespace PracticeSystem

variable {Digest : Type}

/-! ## Bindings -/

def HasHead (s : PracticeSystem Digest) (revisionId headSha : JsString) : Prop :=
  ∃ revision, s.preparation.rows.findRevision revisionId = some revision ∧
    revision.headSha = headSha

/-- An answer of the target is there. -/
def HasAnswer (s : PracticeSystem Digest) (target : PracticeTarget) (deleteAfter : Timestamp) :
    Prop :=
  ∃ answer ∈ s.answers, answer.id = target.practiceAnswerId ∧
    answer.binding =
      { sessionId := target.practiceSessionId, questionId := target.practiceQuestionId } ∧
    deleteAfter ≤ answer.deleteAfter

/-- What binds a run to its budget, its key and its answer. -/
structure RunBound (environment : PreparationEnvironment Digest) (s : PracticeSystem Digest)
    (key : JsString) (run : PrivateRun) : Prop where
  budget : ∃ budget, s.preparation.budgets run.generationContextId = some budget ∧
    run.revisionId = budget.revisionId ∧
    run.questionCount = runQuestionCount budget run.target ∧
    run.artifactSeed = privateSeed environment budget (runPayload key run) run.questionCount
  created : run.createdAt ≤ s.clock
  deleteAfter : run.deleteAfter ≤ run.createdAt + privateRetentionMs
  learning : run.target = none → key = learningKey run.generationContextId ∨
    ¬learningKeyPrefix <+: key ∧ ¬feedbackKeyPrefix <+: key
  feedback : ∀ target, run.target = some target →
    key = feedbackKey target.practiceAnswerId ∧ s.HasAnswer target run.deleteAfter

structure BundleBound (environment : PreparationEnvironment Digest) (s : PracticeSystem Digest)
    (bundle : LearningBundle) : Prop where
  head : s.HasHead bundle.revisionId bundle.binding.headSha
  run : ∃ run, s.runs bundle.binding.runKey = some run ∧ run.target = none ∧
    bundle.revisionId = run.revisionId ∧ bundle.generationContextId = run.generationContextId ∧
    bundle.deleteAfter = run.deleteAfter ∧ bundle.createdAt = run.createdAt ∧
    ∀ material, bundle.payload = some material →
      material.questionIds = practiceQuestionIds environment run

structure FeedbackBound (s : PracticeSystem Digest) (feedback : PracticeFeedback) : Prop where
  run : ∃ run target, s.runs feedback.binding.runKey = some run ∧ run.target = some target ∧
    feedback.binding.sessionId = target.practiceSessionId ∧
    feedback.binding.questionId = target.practiceQuestionId ∧
    feedback.deleteAfter = run.deleteAfter ∧ feedback.createdAt = run.createdAt

structure SessionBound (s : PracticeSystem Digest) (session : PracticeSession) : Prop where
  bundle : ∃ bundle ∈ s.bundles, bundle.id = session.learningBundleId ∧
    bundle.revisionId = session.revisionId ∧
    bundle.generationContextId = session.generationContextId ∧
    bundle.deleteAfter = session.deleteAfter

/-- The question is one of those that the bundle's run has made. -/
def AsksQuestion (environment : PreparationEnvironment Digest) (s : PracticeSystem Digest)
    (bundleId questionId : JsString) : Prop :=
  ∃ bundle ∈ s.bundles, bundle.id = bundleId ∧
    ∃ run, s.runs bundle.binding.runKey = some run ∧
      questionId ∈ practiceQuestionIds environment run

structure AnswerBound (environment : PreparationEnvironment Digest) (s : PracticeSystem Digest)
    (answer : PracticeAnswer) : Prop where
  id : answer.id =
    practiceAnswerId environment answer.binding.sessionId answer.binding.questionId
  created : answer.createdAt ≤ s.clock
  session : ∃ session ∈ s.sessions, session.id = answer.binding.sessionId ∧
    session.revisionId = answer.revisionId ∧
    session.generationContextId = answer.generationContextId ∧
    session.deleteAfter = answer.deleteAfter ∧
    s.AsksQuestion environment session.learningBundleId answer.binding.questionId

/-- A feedback job that is scheduled is that of an answer. -/
def ScheduledBound (s : PracticeSystem Digest) (payload : PrivatePayload) : Prop :=
  ∃ target, payload.target = some target ∧
    payload.idempotencyKey = feedbackKey target.practiceAnswerId ∧
    ∃ answer ∈ s.answers, answer.id = target.practiceAnswerId ∧
      answer.binding =
        { sessionId := target.practiceSessionId, questionId := target.practiceQuestionId }

def RowBound (environment : PreparationEnvironment Digest) (s : PracticeSystem Digest)
    (key : JsString) : PrivateInsert → Prop
  | .learningBundle row => row.binding.runKey = key ∧ BundleBound environment s row
  | .feedback row => row.binding.runKey = key ∧ FeedbackBound s row

/-- What is inserted is that of a run which is not completed. -/
structure InsertBound (environment : PreparationEnvironment Digest) (s : PracticeSystem Digest)
    (key : JsString) (row : PrivateInsert) : Prop where
  run : ∃ run, s.runs key = some run ∧ run.completed = none
  row : RowBound environment s key row

/-- What every reachable state keeps. -/
structure Practiced (environment : PreparationEnvironment Digest) (s : PracticeSystem Digest) :
    Prop where
  prepared : s.preparation.Prepared environment
  runs : ∀ key run, s.runs key = some run → RunBound environment s key run
  inserted : ∀ key row, s.inserted key = some row → InsertBound environment s key row
  bundles : ∀ bundle ∈ s.bundles, BundleBound environment s bundle
  sessions : ∀ session ∈ s.sessions, SessionBound s session
  answers : ∀ answer ∈ s.answers, AnswerBound environment s answer
  feedback : ∀ feedback ∈ s.feedback, FeedbackBound s feedback
  scheduled : ∀ payload ∈ s.scheduled, ScheduledBound s payload
  bundleIds : (s.bundles.map PrivateRow.id).Nodup
  sessionIds : (s.sessions.map PracticeSession.id).Nodup
  answerIds : (s.answers.map PrivateRow.id).Nodup
  answerKeys : (s.answers.map PrivateRow.binding).Nodup
  feedbackIds : (s.feedback.map PrivateRow.id).Nodup
  feedbackKeys : (s.feedback.map fun feedback => feedback.binding.runKey).Nodup
  active : ∀ session ∈ s.sessions, ∀ other ∈ s.sessions, session.isActive = true →
    other.isActive = true → session.revisionId = other.revisionId →
    session.userId = other.userId → session = other

theorem practiced_start [DecidableEq Digest] {environment : PreparationEnvironment Digest}
    {clock : Timestamp} : Practiced environment (start clock : PracticeSystem Digest) where
  prepared := PreparationSystem.prepared_after []
  runs := fun _ _ h => nomatch h
  inserted := fun _ _ h => nomatch h
  bundles := fun _ h => nomatch h
  sessions := fun _ h => nomatch h
  answers := fun _ h => nomatch h
  feedback := fun _ h => nomatch h
  scheduled := fun _ h => nomatch h
  bundleIds := List.nodup_nil
  sessionIds := List.nodup_nil
  answerIds := List.nodup_nil
  answerKeys := List.nodup_nil
  feedbackIds := List.nodup_nil
  feedbackKeys := List.nodup_nil
  active := fun _ h => nomatch h

/-! ## What a step carries over -/

/-- No run goes away, and it changes by its completion only, which comes once. -/
def KeepsRuns (s t : PracticeSystem Digest) : Prop :=
  ∀ key run, s.runs key = some run → ∃ completed,
    t.runs key = some { run with completed := completed } ∧
      (run.completed.isSome = true → completed = run.completed)

theorem keepsRuns_of_eq {s t : PracticeSystem Digest} (h : t.runs = s.runs) : KeepsRuns s t :=
  fun _ run hrun => ⟨run.completed, h ▸ hrun, fun _ => rfl⟩

/-- What the bindings of the rows rest on, from one state to a later one. -/
structure Keeps (s t : PracticeSystem Digest) : Prop where
  clock : s.clock ≤ t.clock
  budgets : ∀ generationContextId budget,
    s.preparation.budgets generationContextId = some budget →
      t.preparation.budgets generationContextId = some budget
  heads : ∀ revisionId headSha, s.HasHead revisionId headSha → t.HasHead revisionId headSha
  runs : KeepsRuns s t
  bundles : ∀ bundle ∈ s.bundles, ∃ bundle' ∈ t.bundles, PrivateRow.Follows bundle bundle'
  sessions : ∀ session ∈ s.sessions, ∃ session' ∈ t.sessions,
    PracticeSession.Ends session session'
  answers : ∀ answer ∈ s.answers, ∃ answer' ∈ t.answers, PrivateRow.Follows answer answer'
  feedback : ∀ feedback ∈ s.feedback, ∃ feedback' ∈ t.feedback,
    PrivateRow.Follows feedback feedback'

theorem keeps_refl (s : PracticeSystem Digest) : Keeps s s where
  clock := le_rfl
  budgets := fun _ _ h => h
  heads := fun _ _ h => h
  runs := keepsRuns_of_eq rfl
  bundles := fun bundle h => ⟨bundle, h, PrivateRow.follows_refl bundle⟩
  sessions := fun session h => ⟨session, h, PracticeSession.ends_refl session⟩
  answers := fun answer h => ⟨answer, h, PrivateRow.follows_refl answer⟩
  feedback := fun feedback h => ⟨feedback, h, PrivateRow.follows_refl feedback⟩

theorem Keeps.trans {s t u : PracticeSystem Digest} (h : Keeps s t) (h' : Keeps t u) :
    Keeps s u where
  clock := h.clock.trans h'.clock
  budgets := fun _ _ hbudget => h'.budgets _ _ (h.budgets _ _ hbudget)
  heads := fun _ _ hhead => h'.heads _ _ (h.heads _ _ hhead)
  runs := by
    intro key run hrun
    obtain ⟨first, hfirst, hsame⟩ := h.runs key run hrun
    obtain ⟨completed, hcompleted, hlast⟩ := h'.runs key _ hfirst
    refine ⟨completed, hcompleted, fun hsome => ?_⟩
    have heq := hsame hsome
    exact (hlast (heq ▸ hsome)).trans heq
  bundles := by
    intro bundle hmem
    obtain ⟨bundle', hmem', hfollows⟩ := h.bundles bundle hmem
    obtain ⟨bundle'', hmem'', hfollows'⟩ := h'.bundles bundle' hmem'
    exact ⟨bundle'', hmem'', hfollows.trans hfollows'⟩
  sessions := by
    intro session hmem
    obtain ⟨session', hmem', hends⟩ := h.sessions session hmem
    obtain ⟨session'', hmem'', hends'⟩ := h'.sessions session' hmem'
    exact ⟨session'', hmem'', hends.trans hends'⟩
  answers := by
    intro answer hmem
    obtain ⟨answer', hmem', hfollows⟩ := h.answers answer hmem
    obtain ⟨answer'', hmem'', hfollows'⟩ := h'.answers answer' hmem'
    exact ⟨answer'', hmem'', hfollows.trans hfollows'⟩
  feedback := by
    intro feedback hmem
    obtain ⟨feedback', hmem', hfollows⟩ := h.feedback feedback hmem
    obtain ⟨feedback'', hmem'', hfollows'⟩ := h'.feedback feedback' hmem'
    exact ⟨feedback'', hmem'', hfollows.trans hfollows'⟩

section Mono

variable {environment : PreparationEnvironment Digest} {s t : PracticeSystem Digest}

theorem HasAnswer.mono {target : PracticeTarget} {deleteAfter : Timestamp}
    (h : s.HasAnswer target deleteAfter) (hkeeps : Keeps s t) :
    t.HasAnswer target deleteAfter := by
  obtain ⟨answer, hmem, hid, hbinding, hdelete⟩ := h
  obtain ⟨answer', hmem', hfollows⟩ := hkeeps.answers answer hmem
  exact ⟨answer', hmem', hfollows.id.trans hid, hfollows.binding.trans hbinding,
    hfollows.deleteAfter ▸ hdelete⟩

theorem RunBound.mono {key : JsString} {run : PrivateRun} {completed : Option CompletedRun}
    (h : RunBound environment s key run) (hkeeps : Keeps s t) :
    RunBound environment t key { run with completed := completed } where
  budget := by
    obtain ⟨budget, hbudget, hrest⟩ := h.budget
    exact ⟨budget, hkeeps.budgets _ _ hbudget, hrest⟩
  created := h.created.trans hkeeps.clock
  deleteAfter := h.deleteAfter
  learning := h.learning
  feedback := fun target htarget =>
    ⟨(h.feedback target htarget).1, (h.feedback target htarget).2.mono hkeeps⟩

theorem BundleBound.mono {bundle bundle' : LearningBundle} (h : BundleBound environment s bundle)
    (hkeeps : Keeps s t) (hfollows : PrivateRow.Follows bundle bundle') :
    BundleBound environment t bundle' where
  head := by
    rw [hfollows.revisionId, hfollows.binding]
    exact hkeeps.heads _ _ h.head
  run := by
    obtain ⟨run, hrun, htarget, hrevision, hcontext, hdelete, hcreated, hquestions⟩ := h.run
    obtain ⟨completed, hrun', -⟩ := hkeeps.runs _ run hrun
    rw [hfollows.binding, hfollows.revisionId, hfollows.generationContextId,
      hfollows.deleteAfter, hfollows.createdAt]
    exact ⟨_, hrun', htarget, hrevision, hcontext, hdelete, hcreated,
      fun material hpayload => hquestions material (hfollows.payload hpayload)⟩

theorem FeedbackBound.mono {feedback feedback' : PracticeFeedback} (h : FeedbackBound s feedback)
    (hkeeps : Keeps s t) (hfollows : PrivateRow.Follows feedback feedback') :
    FeedbackBound t feedback' where
  run := by
    obtain ⟨run, target, hrun, hrest⟩ := h.run
    obtain ⟨completed, hrun', -⟩ := hkeeps.runs _ run hrun
    rw [hfollows.binding, hfollows.deleteAfter, hfollows.createdAt]
    exact ⟨_, target, hrun', hrest⟩

theorem SessionBound.mono {session session' : PracticeSession} (h : SessionBound s session)
    (hkeeps : Keeps s t) (hends : PracticeSession.Ends session session') :
    SessionBound t session' where
  bundle := by
    obtain ⟨bundle, hmem, hid, hrevision, hcontext, hdelete⟩ := h.bundle
    obtain ⟨bundle', hmem', hfollows⟩ := hkeeps.bundles bundle hmem
    rw [hends.learningBundleId, hends.revisionId, hends.generationContextId, hends.deleteAfter]
    exact ⟨bundle', hmem', hfollows.id.trans hid, hfollows.revisionId.trans hrevision,
      hfollows.generationContextId.trans hcontext, hfollows.deleteAfter.trans hdelete⟩

theorem AsksQuestion.mono {bundleId questionId : JsString}
    (h : s.AsksQuestion environment bundleId questionId) (hkeeps : Keeps s t) :
    t.AsksQuestion environment bundleId questionId := by
  obtain ⟨bundle, hmem, hid, run, hrun, hquestion⟩ := h
  obtain ⟨bundle', hmem', hfollows⟩ := hkeeps.bundles bundle hmem
  obtain ⟨completed, hrun', -⟩ := hkeeps.runs _ run hrun
  rw [← hfollows.binding] at hrun'
  exact ⟨bundle', hmem', hfollows.id.trans hid, _, hrun', hquestion⟩

theorem AnswerBound.mono {answer answer' : PracticeAnswer} (h : AnswerBound environment s answer)
    (hkeeps : Keeps s t) (hfollows : PrivateRow.Follows answer answer') :
    AnswerBound environment t answer' where
  id := by
    rw [hfollows.id, hfollows.binding]
    exact h.id
  created := by
    rw [hfollows.createdAt]
    exact h.created.trans hkeeps.clock
  session := by
    obtain ⟨session, hmem, hid, hrevision, hcontext, hdelete, hasks⟩ := h.session
    obtain ⟨session', hmem', hends⟩ := hkeeps.sessions session hmem
    rw [hfollows.binding, hfollows.revisionId, hfollows.generationContextId,
      hfollows.deleteAfter]
    exact ⟨session', hmem', hends.id.trans hid, hends.revisionId.trans hrevision,
      hends.generationContextId.trans hcontext, hends.deleteAfter.trans hdelete,
      hends.learningBundleId ▸ hasks.mono hkeeps⟩

theorem ScheduledBound.mono {payload : PrivatePayload} (h : ScheduledBound s payload)
    (hkeeps : Keeps s t) : ScheduledBound t payload := by
  obtain ⟨target, htarget, hkey, answer, hmem, hid, hbinding⟩ := h
  obtain ⟨answer', hmem', hfollows⟩ := hkeeps.answers answer hmem
  exact ⟨target, htarget, hkey, answer', hmem', hfollows.id.trans hid,
    hfollows.binding.trans hbinding⟩

theorem RowBound.mono {key : JsString} {row : PrivateInsert}
    (h : RowBound environment s key row) (hkeeps : Keeps s t) :
    RowBound environment t key row := by
  cases row with
  | learningBundle row => exact ⟨h.1, h.2.mono hkeeps (PrivateRow.follows_refl row)⟩
  | feedback row => exact ⟨h.1, h.2.mono hkeeps (PrivateRow.follows_refl row)⟩

end Mono

end PracticeSystem

end Worker

end UnderstandProof
