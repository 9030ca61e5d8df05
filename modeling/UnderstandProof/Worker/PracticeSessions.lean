import UnderstandProof.Worker.PracticeSteps

/-!
# Practice sessions

A revision has one active session for each user. A start looks for it among the sessions of its
own generation context, and supersedes the one that it finds there; the session of another context
it does not see, and then the unique index refuses the new one. Answers, feedback and their
deadlines follow the bundle of the session in every history.
-/

open Foundation

namespace UnderstandProof

namespace Worker

open Domain (Timestamp)
open Github (PullRequestRows)

namespace PracticeSystem

variable {Digest : Type} {environment : PreparationEnvironment Digest} {s t : PracticeSystem Digest}
  {now : Timestamp} {sessionId : JsString} {input : StartPracticeSessionInput}

/-! ## Starts -/

/-- The author starts a session on a readable bundle of the current revision, within the rate
limit and under an identifier that is new. -/
structure MayStart (environment : PreparationEnvironment Digest) (now : Timestamp)
    (sessionId : JsString) (input : StartPracticeSessionInput) (s : PracticeSystem Digest) :
    Prop where
  clock : s.clock ≤ now
  limit : (s.reserveRateLimit now input.revisionId input.actorKeyHash false).isSome = true
  author : input.userId = environment.authorId
  bundle : ∃ bundle, s.findBundle input.learningBundleId = some bundle ∧
    bundle.revisionId = input.revisionId ∧
    bundle.generationContextId = input.generationContextId ∧ bundle.isReadable now = true
  fresh : ∀ session ∈ s.sessions, session.id ≠ sessionId

/-- The active sessions of the user on the revision are of the context of the start. -/
def HasNoOtherContext (s : PracticeSystem Digest) (input : StartPracticeSessionInput) : Prop :=
  ∀ session ∈ s.sessions, session.isActive = true → session.revisionId = input.revisionId →
    session.userId = input.userId → session.generationContextId = input.generationContextId

theorem insertSession_isSome {session : PracticeSession}
    (hfresh : ∀ other ∈ s.sessions, other.id ≠ session.id)
    (hbefore : session.startedAt < session.deleteAfter)
    (hwithin : session.deleteAfter ≤ session.startedAt + privateRetentionMs) :
    (s.insertSession session).isSome = true ↔
      ∀ other ∈ s.sessions, other.isActive = true → other.revisionId = session.revisionId →
        other.userId ≠ session.userId := by
  constructor
  · intro h
    obtain ⟨t, hinsert⟩ := Option.isSome_iff_exists.mp h
    exact (insertSession_eq_some hinsert).2.2
  · intro h
    unfold insertSession
    rw [if_pos]
    · rfl
    · refine ⟨List.all_eq_true.mpr fun other hmem => decide_eq_true (hfresh other hmem),
        List.any_eq_false.mpr fun other hmem => ?_, hbefore, hwithin⟩
      intro hsame
      obtain ⟨hrevision, huser, hactive⟩ := of_decide_eq_true hsame
      exact h other hmem hactive hrevision huser

theorem activeSession_eq_some {session : PracticeSession}
    (h : s.activeSession input = some session) :
    session ∈ s.sessions ∧ session.revisionId = input.revisionId ∧
      session.userId = input.userId ∧
      session.generationContextId = input.generationContextId ∧ session.isActive = true :=
  ⟨List.mem_of_find?_eq_some h, by simpa using List.find?_some h⟩

/-- The bundle of a start is found, under the head of the revision. -/
theorem MayStart.startableBundle (h : MayStart environment now sessionId input s)
    (hs : Practiced environment s) :
    ∃ material, s.startableBundle environment now input = some material ∧
      now < material.deleteAfter ∧ material.deleteAfter ≤ now + privateRetentionMs := by
  obtain ⟨limited, hlimit⟩ := Option.isSome_iff_exists.mp h.limit
  obtain ⟨revision, hrevision⟩ := Option.isSome_iff_exists.mp (reserveRateLimit_eq_some hlimit).2
  obtain ⟨bundle, hbundle, hbundleRevision, hcontext, hreadable⟩ := h.bundle
  obtain ⟨hmem, -⟩ := findBundle_eq_some hbundle
  obtain ⟨found, hfound, hhead⟩ := (hs.bundles bundle hmem).head
  obtain ⟨run, hrun, -, -, -, hdelete, -⟩ := (hs.bundles bundle hmem).run
  have hbound := hs.runs _ run hrun
  rw [hbundleRevision, (openRevision_eq_some hrevision).1] at hfound
  obtain rfl := Option.some_inj.mp hfound
  refine ⟨bundle, ?_, ?_, ?_⟩
  · unfold PracticeSystem.startableBundle
    rw [hrevision, hbundle]
    exact if_pos ⟨hbundleRevision, hcontext, hreadable, hhead, h.author.symm⟩
  · unfold PrivateRow.isReadable at hreadable
    exact (of_decide_eq_true hreadable).2
  · have hcreated : run.createdAt ≤ now := hbound.created.trans h.clock
    exact hdelete.le.trans (hbound.deleteAfter.trans (Int.add_le_add_right hcreated _))

/-- A start fails exactly when the user has an active session of another context. -/
theorem MayStart.isSome_iff (h : MayStart environment now sessionId input s)
    (hs : Practiced environment s) :
    (s.startPracticeSession environment now sessionId input).isSome = true ↔
      s.HasNoOtherContext input := by
  obtain ⟨limited, hlimit⟩ := Option.isSome_iff_exists.mp h.limit
  obtain ⟨material, hmaterial, hbefore, hwithin⟩ := h.startableBundle hs
  obtain ⟨⟨rates, rfl⟩, -⟩ := reserveRateLimit_eq_some hlimit
  have hbound : ({ s with rates := rates } : PracticeSystem Digest).startableBundle environment now
      input = some material := hmaterial
  have hactive : ({ s with rates := rates } : PracticeSystem Digest).activeSession input =
      s.activeSession input := rfl
  unfold startPracticeSession
  rw [hlimit, Option.bind_some, hbound, Option.bind_some]
  dsimp only
  rw [hactive]
  split
  · next hnone =>
    rw [Option.isSome_map, insertSession_isSome h.fresh hbefore hwithin]
    constructor
    · intro hfree session hmem hlive hrevision huser
      exact absurd huser (hfree session hmem hlive hrevision)
    · intro hsame other hmem hlive hrevision huser
      have hother := List.find?_eq_none.mp hnone other hmem
      exact hother (decide_eq_true
        ⟨hrevision, huser, hsame other hmem hlive hrevision huser, hlive⟩)
  · next active hfound =>
    obtain ⟨hmem, hrevision, huser, hcontext, hlive⟩ := activeSession_eq_some hfound
    have honly : ∀ session ∈ s.sessions, session.isActive = true →
        session.revisionId = input.revisionId → session.userId = input.userId →
          session = active := by
      intro session hsession hsessionLive hsessionRevision hsessionUser
      exact hs.active session hsession active hmem hsessionLive hlive
        (hsessionRevision.trans hrevision.symm) (hsessionUser.trans huser.symm)
    have hcontexts : s.HasNoOtherContext input := by
      intro session hsession hsessionLive hsessionRevision hsessionUser
      rw [honly session hsession hsessionLive hsessionRevision hsessionUser]
      exact hcontext
    refine iff_of_true ?_ hcontexts
    split
    · rfl
    · rw [Option.isSome_map]
      have hsuperseded : ∀ other ∈ superseded now active s.sessions, ∃ session ∈ s.sessions,
          other.id = session.id ∧ (other.isActive = true → other = session ∧
            session.id ≠ active.id) := by
        intro other hother
        obtain ⟨session, hsession, rfl⟩ := List.mem_map.mp hother
        refine ⟨session, hsession, ?_⟩
        split
        · exact ⟨rfl, fun hnot => by simp [PracticeSession.isActive] at hnot⟩
        · next hid => exact ⟨rfl, fun _ => ⟨rfl, hid⟩⟩
      refine (insertSession_isSome ?_ hbefore hwithin).mpr ?_
      · intro other hother
        obtain ⟨session, hsession, hid, -⟩ := hsuperseded other hother
        rw [hid]
        exact h.fresh session hsession
      · intro other hother hotherLive hotherRevision hotherUser
        obtain ⟨session, hsession, -, hlast⟩ := hsuperseded other hother
        obtain ⟨rfl, hid⟩ := hlast hotherLive
        exact hid (congrArg _ (honly other hsession hotherLive hotherRevision hotherUser))

/-! ## Answers -/

theorem find_of_mem {α β : Type} {rows : List (PrivateRow α β)} {row : PrivateRow α β}
    (hids : (rows.map PrivateRow.id).Nodup) (hmem : row ∈ rows) :
    rows.find? (fun other => other.id = row.id) = some row := by
  cases hfind : rows.find? (fun other => other.id = row.id) with
  | none => exact absurd (decide_eq_true rfl) (List.find?_eq_none.mp hfind row hmem)
  | some other =>
      obtain ⟨hother, hid⟩ := find_id_eq_some hfind
      rw [List.inj_on_of_nodup_map hids hother hmem hid]

section Submissions

variable {begunAt : Timestamp} {submission : SubmitPracticeAnswerInput} {answer : PracticeAnswer}

/-- A submission for a question that has an answer replays it. -/
theorem Practiced.replayed (hs : Practiced environment s) {replayed : Bool}
    (hsubmit : s.submitPracticeAnswer environment begunAt now submission = some (t, replayed))
    (hmem : answer ∈ s.answers)
    (hbinding : answer.binding =
      { sessionId := submission.practiceSessionId
        questionId := submission.practiceQuestionId }) :
    replayed = true ∧ answer.payload = some submission.answer ∧ t.answers = s.answers ∧
      t.scheduled = s.scheduled := by
  obtain ⟨rates, session, binding, learning, -, -, ⟨hreplayed, rfl, hprior⟩ |
    ⟨-, hunanswered, -⟩⟩ := submitPracticeAnswer_eq_some hsubmit
  · have hid := (hs.answers answer hmem).id
    rw [hbinding] at hid
    rw [← hid, find_of_mem hs.answerIds hmem] at hprior
    exact ⟨hreplayed, hprior, rfl, rfl⟩
  · exact absurd hbinding (hunanswered.key answer hmem)

/-- A submission that is admitted for a question with an answer succeeds exactly with the content
of the answer. -/
theorem Practiced.replays_iff (hs : Practiced environment s) {content : JsString}
    {session : PracticeSession} {binding : BundleBinding} {learning : LearningMaterial}
    (hlimit : (s.reserveRateLimit now submission.revisionId submission.actorKeyHash true).isSome =
      true)
    (hanswerable : s.answerable environment now submission = some (session, binding, learning))
    (hquestion : submission.practiceQuestionId ∈ learning.questionIds)
    (hmem : answer ∈ s.answers)
    (hbinding : answer.binding =
      { sessionId := submission.practiceSessionId
        questionId := submission.practiceQuestionId })
    (hcontent : answer.payload = some content) :
    (s.submitPracticeAnswer environment begunAt now submission).isSome = true ↔
      content = submission.answer := by
  obtain ⟨limited, hlimited⟩ := Option.isSome_iff_exists.mp hlimit
  obtain ⟨⟨rates, rfl⟩, -⟩ := reserveRateLimit_eq_some hlimited
  have hbound : ({ s with rates := rates } : PracticeSystem Digest).answerable environment now
      submission = some (session, binding, learning) := hanswerable
  have hid := (hs.answers answer hmem).id
  rw [hbinding] at hid
  have hfind : (s.answers.find? fun answer => answer.id =
      practiceAnswerId environment submission.practiceSessionId submission.practiceQuestionId).bind
        PrivateRow.payload = some content := by
    rw [← hid, find_of_mem hs.answerIds hmem]
    exact hcontent
  have hany : (s.answers.any fun answer =>
      answer.binding.sessionId = submission.practiceSessionId ∧
        answer.binding.questionId = submission.practiceQuestionId) = true := by
    refine List.any_eq_true.mpr ⟨answer, hmem, decide_eq_true ?_⟩
    rw [hbinding]
    exact ⟨rfl, rfl⟩
  unfold submitPracticeAnswer
  rw [hlimited, Option.bind_some, hbound, Option.bind_some]
  dsimp only
  rw [if_neg (not_not.mpr hquestion), if_pos hany, hfind]
  dsimp only
  split
  · next hsame => exact iff_of_true rfl hsame
  · next hother => exact iff_of_false Bool.false_ne_true hother

end Submissions

/-! ## Feedback -/

/-- The feedback of a question of a session is one. -/
theorem Practiced.eq_feedback (hs : Practiced environment s) {a b : PracticeFeedback}
    (ha : a ∈ s.feedback) (hb : b ∈ s.feedback)
    (hsession : a.binding.sessionId = b.binding.sessionId)
    (hquestion : a.binding.questionId = b.binding.questionId) : a = b := by
  obtain ⟨run, target, hrun, htarget, haSession, haQuestion, -⟩ := (hs.feedback a ha).run
  obtain ⟨run', target', hrun', htarget', hbSession, hbQuestion, -⟩ := (hs.feedback b hb).run
  obtain ⟨hkey, answer, hmem, hid, hbinding, -⟩ := (hs.runs _ run hrun).feedback target htarget
  obtain ⟨hkey', answer', hmem', hid', hbinding', -⟩ :=
    (hs.runs _ run' hrun').feedback target' htarget'
  have hsame : answer.binding = answer'.binding := by
    rw [hbinding, hbinding', ← haSession, ← haQuestion, ← hbSession, ← hbQuestion, hsession,
      hquestion]
  obtain rfl := List.inj_on_of_nodup_map hs.answerKeys hmem hmem' hsame
  refine List.inj_on_of_nodup_map hs.feedbackKeys ha hb ?_
  rw [hkey, hkey', ← hid, ← hid']

/-- The answer that feedback is about. -/
theorem Practiced.answer_of_feedback (hs : Practiced environment s) {feedback : PracticeFeedback}
    (hmem : feedback ∈ s.feedback) :
    ∃ answer ∈ s.answers, answer.binding.sessionId = feedback.binding.sessionId ∧
      answer.binding.questionId = feedback.binding.questionId ∧
      feedback.deleteAfter ≤ answer.deleteAfter := by
  obtain ⟨run, target, hrun, htarget, hsession, hquestion, hdelete, -⟩ :=
    (hs.feedback feedback hmem).run
  obtain ⟨-, answer, hanswer, -, hbinding, hlast⟩ := (hs.runs _ run hrun).feedback target htarget
  refine ⟨answer, hanswer, ?_, ?_, hdelete.trans_le hlast⟩
  · rw [hbinding, hsession]
  · rw [hbinding, hquestion]

/-! ## Questions and deadlines -/

/-- The question is one of the bundle of the session, also once the bundle is shredded. -/
def IsBundleQuestion (environment : PreparationEnvironment Digest) (s : PracticeSystem Digest)
    (sessionId questionId : JsString) : Prop :=
  ∃ session ∈ s.sessions, session.id = sessionId ∧ ∃ bundle ∈ s.bundles,
    bundle.id = session.learningBundleId ∧
      (∃ run, s.runs bundle.binding.runKey = some run ∧
        questionId ∈ practiceQuestionIds environment run) ∧
      ∀ material, bundle.payload = some material → questionId ∈ material.questionIds

/-- A time of deletion that is not behind that of the session's bundle. -/
def EndsWithBundle (s : PracticeSystem Digest) (sessionId : JsString) (deleteAfter : Timestamp) :
    Prop :=
  ∃ session ∈ s.sessions, session.id = sessionId ∧ ∃ bundle ∈ s.bundles,
    bundle.id = session.learningBundleId ∧ deleteAfter ≤ bundle.deleteAfter

/-- The bundle of the session is not over yet. -/
def IsBeforeEnd (s : PracticeSystem Digest) (sessionId : JsString) (now : Timestamp) : Prop :=
  ∃ deleteAfter, s.EndsWithBundle sessionId deleteAfter ∧ now < deleteAfter

theorem Practiced.isBundleQuestion (hs : Practiced environment s) {answer : PracticeAnswer}
    (hmem : answer ∈ s.answers) :
    s.IsBundleQuestion environment answer.binding.sessionId answer.binding.questionId := by
  obtain ⟨session, hsession, hid, -, -, -, bundle, hbundle, hbundleId, run, hrun, hquestion⟩ :=
    (hs.answers answer hmem).session
  refine ⟨session, hsession, hid, bundle, hbundle, hbundleId, ⟨run, hrun, hquestion⟩,
    fun material hmaterial => ?_⟩
  obtain ⟨found, hfound, -, -, -, -, -, hquestions⟩ := (hs.bundles bundle hbundle).run
  obtain rfl := Option.some_inj.mp (hrun.symm.trans hfound)
  exact hquestions material hmaterial ▸ hquestion

theorem Practiced.endsWithBundle (hs : Practiced environment s) {session : PracticeSession}
    (hmem : session ∈ s.sessions) : s.EndsWithBundle session.id session.deleteAfter := by
  obtain ⟨bundle, hbundle, hid, -, -, hdelete⟩ := (hs.sessions session hmem).bundle
  exact ⟨session, hmem, rfl, bundle, hbundle, hid, hdelete.ge⟩

theorem Practiced.answer_endsWithBundle (hs : Practiced environment s) {answer : PracticeAnswer}
    (hmem : answer ∈ s.answers) :
    s.EndsWithBundle answer.binding.sessionId answer.deleteAfter := by
  obtain ⟨session, hsession, hid, -, -, hdelete, -⟩ := (hs.answers answer hmem).session
  have hends := hs.endsWithBundle hsession
  rwa [hid, hdelete] at hends

theorem EndsWithBundle.le {sessionId : JsString} {a b : Timestamp}
    (h : s.EndsWithBundle sessionId b) (hle : a ≤ b) : s.EndsWithBundle sessionId a := by
  obtain ⟨session, hsession, hid, bundle, hbundle, hbundleId, hdelete⟩ := h
  exact ⟨session, hsession, hid, bundle, hbundle, hbundleId, hle.trans hdelete⟩

theorem Practiced.feedback_endsWithBundle (hs : Practiced environment s)
    {feedback : PracticeFeedback} (hmem : feedback ∈ s.feedback) :
    s.EndsWithBundle feedback.binding.sessionId feedback.deleteAfter := by
  obtain ⟨answer, hanswer, hsession, -, hdelete⟩ := hs.answer_of_feedback hmem
  rw [← hsession]
  exact (hs.answer_endsWithBundle hanswer).le hdelete

/-! ## Reading -/

/-- A view of a session is before the end of its bundle. -/
theorem Practiced.isBeforeEnd_of_view (hs : Practiced environment s)
    {request : ReadPracticeViewInput} {bundleId : JsString} {learning : LearningMaterial}
    {view : PracticeSessionView}
    (h : s.readPracticeView environment now request = .ready bundleId learning (some view)) :
    s.IsBeforeEnd view.id now := by
  unfold readPracticeView at h
  split at h
  · cases h
  · split at h
    · cases h
    · split at h
      · split at h
        · cases h
        · split at h <;> cases h
      · split at h
        · cases h
        · split at h
          · cases h
          · next sessionId hsessionId =>
            split at h
            · cases h
            · next found hfound =>
              cases h
              obtain ⟨session, hfilter, rfl⟩ := Option.map_eq_some_iff.mp hfound
              obtain ⟨hsession, hopen⟩ := Option.filter_eq_some_iff.mp hfilter
              have hlate : now < session.deleteAfter := (of_decide_eq_true hopen).2.2.2.2.2
              exact ⟨session.deleteAfter, hs.endsWithBundle (findSession_eq_some hsession).1, hlate⟩

theorem Practiced.isBeforeEnd_of_load (hs : Practiced environment s) {payload : PrivatePayload}
    {target : PracticeTarget} {content : JsString}
    (h : s.loadPracticeQuestionAndAnswer environment now payload target = some content) :
    s.IsBeforeEnd target.practiceSessionId now := by
  unfold loadPracticeQuestionAndAnswer at h
  split at h
  · next revision session answer hrevision htarget =>
    obtain ⟨hfound, -, -, -, -, -, -, -, hlate⟩ := openTarget_eq_some htarget
    obtain ⟨hmem, hid⟩ := findSession_eq_some hfound
    exact ⟨session.deleteAfter, hid ▸ hs.endsWithBundle hmem, hlate⟩
  · cases h

theorem Practiced.isBeforeEnd_of_submit (hs : Practiced environment s) {begunAt : Timestamp}
    {submission : SubmitPracticeAnswerInput} {replayed : Bool}
    (h : s.submitPracticeAnswer environment begunAt now submission = some (t, replayed)) :
    s.IsBeforeEnd submission.practiceSessionId now := by
  obtain ⟨rates, session, binding, learning, hanswerable, -⟩ := submitPracticeAnswer_eq_some h
  obtain ⟨hfound, -, -, -, -, hlate, -⟩ := answerable_eq_some hanswerable
  obtain ⟨hmem, hid⟩ := findSession_eq_some hfound
  exact ⟨session.deleteAfter, hid ▸ hs.endsWithBundle hmem, hlate⟩

/-! ## The protocol -/

/-- What holds of the answers. -/
structure AnswersOnce (environment : PreparationEnvironment Digest) (s : PracticeSystem Digest) :
    Prop where
  single : ∀ answer ∈ s.answers, ∀ other ∈ s.answers, answer.binding = other.binding →
    answer = other
  replayed : ∀ begunAt now submission replayed t, ∀ answer ∈ s.answers,
    s.submitPracticeAnswer environment begunAt now submission = some (t, replayed) →
    answer.binding =
      { sessionId := submission.practiceSessionId
        questionId := submission.practiceQuestionId } →
    replayed = true ∧ answer.payload = some submission.answer ∧ t.answers = s.answers ∧
      t.scheduled = s.scheduled
  replays : ∀ begunAt now submission session binding learning content, ∀ answer ∈ s.answers,
    (s.reserveRateLimit now submission.revisionId submission.actorKeyHash true).isSome = true →
    s.answerable environment now submission = some (session, binding, learning) →
    submission.practiceQuestionId ∈ learning.questionIds →
    answer.binding =
      { sessionId := submission.practiceSessionId
        questionId := submission.practiceQuestionId } →
    answer.payload = some content →
    ((s.submitPracticeAnswer environment begunAt now submission).isSome = true ↔
      content = submission.answer)

/-- What holds of the questions that are answered, and of the feedback to them. -/
structure BundleQuestions (environment : PreparationEnvironment Digest)
    (s : PracticeSystem Digest) : Prop where
  answers : ∀ answer ∈ s.answers,
    s.IsBundleQuestion environment answer.binding.sessionId answer.binding.questionId
  feedback : ∀ feedback ∈ s.feedback,
    s.IsBundleQuestion environment feedback.binding.sessionId feedback.binding.questionId
  single : ∀ feedback ∈ s.feedback, ∀ other ∈ s.feedback,
    feedback.binding.sessionId = other.binding.sessionId →
    feedback.binding.questionId = other.binding.questionId → feedback = other

/-- What is kept, and what is read, no longer than the bundle of the session. -/
structure EndsInTime (environment : PreparationEnvironment Digest) (s : PracticeSystem Digest) :
    Prop where
  sessions : ∀ session ∈ s.sessions, s.EndsWithBundle session.id session.deleteAfter
  answers : ∀ answer ∈ s.answers, s.EndsWithBundle answer.binding.sessionId answer.deleteAfter
  feedback : ∀ feedback ∈ s.feedback,
    s.EndsWithBundle feedback.binding.sessionId feedback.deleteAfter
  view : ∀ now request bundleId learning view,
    s.readPracticeView environment now request = .ready bundleId learning (some view) →
      s.IsBeforeEnd view.id now
  load : ∀ now payload target content,
    s.loadPracticeQuestionAndAnswer environment now payload target = some content →
      s.IsBeforeEnd target.practiceSessionId now
  submit : ∀ begunAt now submission t replayed,
    s.submitPracticeAnswer environment begunAt now submission = some (t, replayed) →
      s.IsBeforeEnd submission.practiceSessionId now

def samplePlan (generationContextId : JsString) : FrozenPlan where
  generationContextId := generationContextId
  questionBudget := 1
  questions :=
    [{ id := js "q1"
       ordinal := 0
       type := js "behavior"
       prompt := js "Why?"
       anchorId := some (js "a1")
       requiredPoints := [js "retry"] }]

def samplePlanned (now : Timestamp) (planId generationContextId : JsString) : PracticeEvent :=
  .prepareRevision now
    { revisionId := js "r1"
      headSha := js "h1"
      planId := planId
      idempotencyKey := planId } (samplePlan generationContextId) false

def sampleBudget (generationContextId : JsString) : PracticeEvent :=
  .preparation (.schedule generationContextId
    { revisionId := js "r1"
      headSha := js "h1"
      repositoryPolicyId := js "policy"
      questionBudget := 1 })

/-- The learning material of a context is generated. -/
def sampleLearned (now : Timestamp) (generationContextId : JsString) : List PracticeEvent :=
  [.reserve 0 now (learningJob (js "r1") generationContextId (js "h1")),
    .load 0 now,
    .generate 0 .generated (js "material"),
    .persist 0,
    .commit (learningKey generationContextId)]

/-- The pull request on one head and then on another. -/
def sampleHead (now : Timestamp) (headSha revisionId : JsString) : PracticeEvent :=
  .preparation (.rows (PullRequestRows.sampleSnapshot now .synchronize .open headSha revisionId))

/-- The head moves away between the plans of two contexts, and both have their material. -/
def sampleContexts : List PracticeEvent :=
  [sampleHead 1 (js "h1") (js "r1"), samplePlanned 2 (js "p1") (js "c1"),
    sampleHead 3 (js "h2") (js "r2"), sampleHead 4 (js "h1") (js "r3"),
    samplePlanned 5 (js "p2") (js "c2"), sampleBudget (js "c1"), sampleBudget (js "c2")] ++
    sampleLearned 10 (js "c1") ++ sampleLearned 11 (js "c2")

def sampleStart (s : PracticeSystem (List UInt8)) (generationContextId : JsString) :
    StartPracticeSessionInput where
  revisionId := js "r1"
  generationContextId := generationContextId
  learningBundleId :=
    ((s.bundles.find? fun bundle => bundle.generationContextId = generationContextId).map
      PrivateRow.id).getD []
  userId := js "author"
  actorKeyHash := js "actor"

def sampleLearnedSystem : PracticeSystem (List UInt8) :=
  practiceAfter PreparationSystem.sampleEnvironment 0 sampleContexts

def sampleStarted : List PracticeEvent :=
  sampleContexts ++ [.start 20 (js "s1") (sampleStart sampleLearnedSystem (js "c1"))]

def sampleStartedSystem : PracticeSystem (List UInt8) :=
  practiceAfter PreparationSystem.sampleEnvironment 0 sampleStarted

theorem mayStart_sample (generationContextId : JsString)
    (hcontext : generationContextId = js "c1" ∨ generationContextId = js "c2") :
    MayStart PreparationSystem.sampleEnvironment 21 (js "s2")
      (sampleStart sampleLearnedSystem generationContextId) sampleStartedSystem := by
  have hlimit : (sampleStartedSystem.reserveRateLimit 21 (js "r1") (js "actor") false).isSome =
      true := by
    decide +kernel
  refine ⟨by decide +kernel, hlimit, rfl, ?_, ?_⟩
  · have hfound : ((sampleStartedSystem.findBundle
        (sampleStart sampleLearnedSystem generationContextId).learningBundleId).any fun bundle =>
          bundle.revisionId = js "r1" ∧ bundle.generationContextId = generationContextId ∧
            bundle.isReadable 21 = true) = true := by
      rcases hcontext with rfl | rfl <;> decide +kernel
    obtain ⟨bundle, hbundle, hbound⟩ := (Option.any_eq_true ..).mp hfound
    exact ⟨bundle, hbundle, of_decide_eq_true hbound⟩
  · have hfresh : (sampleStartedSystem.sessions.all fun session => session.id ≠ js "s2") = true := by
      decide +kernel
    intro session hmem
    exact of_decide_eq_true (List.all_eq_true.mp hfresh session hmem)

end PracticeSystem

end Worker

end UnderstandProof
