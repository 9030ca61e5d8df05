import UnderstandProof.Worker.PrivateErasure

/-!
# What a view of learning material promises

A view answers that material is being generated while no bundle is readable, or while the best one
is a fallback whose retry is open. Whether the material comes is decided by other rows: the run of
the context, which is completed once and never again; the sweep, which looks at every run of the
context and at the check of the revision; and the frozen proof, without which the job does not
call the provider.
-/

open Foundation

namespace UnderstandProof

namespace Worker

open Domain (Timestamp)
open Github (PullRequestRevision)
open Github.PullRequestRows (findRevision_eq_some)

namespace PracticeSystem

variable {Digest : Type} {environment : PreparationEnvironment Digest} {s : PracticeSystem Digest}
  {now : Timestamp} {revisionId generationContextId : JsString}
  {revision : PullRequestRevision} {budget : GenerationBudget}

/-! ## The job of a view -/

/-- A job that is delivered now reserves its run, loads its input and calls the provider. -/
def CallsProvider (environment : PreparationEnvironment Digest) (now : Timestamp)
    (revisionId generationContextId : JsString) (s : PracticeSystem Digest) : Prop :=
  ∃ revision t headSha run, s.openRevision revisionId = some revision ∧
    s.reserveRun environment now
      (learningJob revisionId generationContextId revision.headSha) = .reserved t headSha run ∧
    t.loadInput environment now
      { payload := learningJob revisionId generationContextId revision.headSha
        headSha := headSha
        run := run
        phase := .reserved } = true ∧
    now < run.deadlineAt

/-- The frozen proof that the job waits for is there. -/
def isProofFrozen (environment : PreparationEnvironment Digest)
    (revisionId generationContextId : JsString) (s : PracticeSystem Digest) : Bool :=
  (s.openRevision revisionId).any fun revision =>
    s.hasFrozenProof environment revision.id generationContextId revision.headSha

/-- The run comes after the proof, and the sweep schedules the proof. -/
def AwaitsProof (environment : PreparationEnvironment Digest)
    (revisionId generationContextId : JsString) (s : PracticeSystem Digest) : Prop :=
  s.runs (learningKey generationContextId) = none ∧
    s.isProofFrozen environment revisionId generationContextId = false ∧
    s.SweepsProof generationContextId

/-- What a view is about: the budget of a context of an open revision. -/
structure IsBudget (s : PracticeSystem Digest) (revisionId generationContextId : JsString)
    (revision : PullRequestRevision) (budget : GenerationBudget) : Prop where
  opened : s.openRevision revisionId = some revision
  found : s.preparation.budgets generationContextId = some budget
  bound : budget.revisionId = revisionId

theorem learningKey_ne_feedbackKey {answerId : JsString} :
    learningKey generationContextId ≠ feedbackKey answerId := by
  intro h
  have hfront := congrArg (List.take 10) h
  unfold learningKey feedbackKey at hfront
  rw [List.take_append_of_le_length (by decide), List.take_append_of_le_length (by decide)] at hfront
  exact absurd hfront (by decide)

/-- The run of a context's key is one for its learning material. -/
theorem Practiced.learningRun (hs : Practiced environment s) {run : PrivateRun}
    (hrun : s.runs (learningKey generationContextId) = some run) :
    run.target = none ∧ run.generationContextId = generationContextId := by
  have hbound := hs.runs _ run hrun
  cases htarget : run.target with
  | some target =>
      exact absurd (hbound.feedback target htarget).1 learningKey_ne_feedbackKey
  | none =>
      refine ⟨rfl, ?_⟩
      rcases hbound.learning htarget with hkey | ⟨hother, -⟩
      · exact (List.append_cancel_left hkey).symm
      · exact absurd ⟨generationContextId, rfl⟩ hother

theorem IsBudget.id_eq (h : IsBudget s revisionId generationContextId revision budget) :
    revision.id = revisionId :=
  (findRevision_eq_some (openRevision_eq_some h.opened).1).2

theorem IsBudget.isSwept_iff (h : IsBudget s revisionId generationContextId revision budget) :
    s.isSwept generationContextId = true ↔
      revision.headSha = budget.headSha ∧ s.preparation.hasFailedPreparation revisionId = false := by
  unfold PracticeSystem.isSwept
  rw [h.found, Option.any_some, h.bound, h.opened, Option.any_some, decide_eq_true_eq,
    decide_eq_true_eq]

/-- A job of the context is bound exactly when the sweep looks at its budget. -/
theorem IsBudget.loadRunBinding (h : IsBudget s revisionId generationContextId revision budget) :
    s.preparation.loadRunBinding
      { idempotencyKey := learningKey generationContextId
        revisionId := revisionId
        generationContextId := generationContextId
        expectedHeadSha := revision.headSha } =
      if s.isSwept generationContextId = true then some (revision, budget) else none := by
  obtain ⟨hfind, hcurrent, hstate, hactive⟩ := openRevision_eq_some h.opened
  unfold PreparationSystem.loadRunBinding
  rw [hfind, h.found]
  dsimp only
  refine if_congr ?_ rfl rfl
  rw [h.isSwept_iff, h.id_eq]
  constructor
  · rintro ⟨-, hhead, -, -, hfailed, -⟩
    exact ⟨hhead.symm, hfailed⟩
  · rintro ⟨hhead, hfailed⟩
    exact ⟨h.bound, hhead.symm, rfl, hactive, hfailed, hcurrent, hstate⟩

/-- The run that a job of the context works on. -/
def learningRun (environment : PreparationEnvironment Digest) (now : Timestamp)
    (revisionId generationContextId headSha : JsString) (budget : GenerationBudget)
    (s : PracticeSystem Digest) : PrivateRun :=
  (s.runs (learningKey generationContextId)).getD
    { revisionId := revisionId
      generationContextId := generationContextId
      target := none
      artifactSeed := privateSeed environment budget
        (learningJob revisionId generationContextId headSha) (max 3 budget.questionBudget)
      questionCount := max 3 budget.questionBudget
      createdAt := now
      deadlineAt := now + generationDeadlineMs
      deleteAfter := min (now + privateRetentionMs) (now + privateRetentionMs)
      completed := none }

/-- The columns of a run that a reservation compares. -/
structure IsLearningRun (environment : PreparationEnvironment Digest)
    (revisionId generationContextId headSha : JsString) (budget : GenerationBudget)
    (run : PrivateRun) : Prop where
  revision : run.revisionId = revisionId
  context : run.generationContextId = generationContextId
  target : run.target = none
  seed : run.artifactSeed = privateSeed environment budget
    (learningJob revisionId generationContextId headSha) (max 3 budget.questionBudget)
  count : run.questionCount = max 3 budget.questionBudget

theorem Practiced.isLearningRun (hs : Practiced environment s)
    (h : IsBudget s revisionId generationContextId revision budget) {headSha : JsString} :
    IsLearningRun environment revisionId generationContextId headSha budget
      (s.learningRun environment now revisionId generationContextId headSha budget) := by
  unfold PracticeSystem.learningRun
  cases hrun : s.runs (learningKey generationContextId) with
  | none => exact ⟨rfl, rfl, rfl, rfl, rfl⟩
  | some run =>
      obtain ⟨htarget, hcontext⟩ := hs.learningRun hrun
      obtain ⟨found, hfound, hrevision, hcount, hseed⟩ := (hs.runs _ run hrun).budget
      rw [hcontext, h.found] at hfound
      obtain rfl := Option.some_inj.mp hfound
      rw [htarget] at hcount
      have hquestions : run.questionCount = max 3 budget.questionBudget := hcount
      rw [Option.getD_some]
      refine ⟨hrevision.trans h.bound, hcontext, htarget, ?_, hquestions⟩
      rw [hseed, hquestions]
      unfold privateSeed runPayload learningJob
      dsimp only
      rw [htarget, hcontext, hrevision, h.bound]

theorem IsBudget.isProofFrozen (h : IsBudget s revisionId generationContextId revision budget) :
    s.isProofFrozen environment revisionId generationContextId =
      s.hasFrozenProof environment revisionId generationContextId revision.headSha := by
  unfold PracticeSystem.isProofFrozen
  rw [h.opened, Option.any_some, h.id_eq]

/-- What the reservation of a job of the context is. No run is in conflict with it. -/
theorem Practiced.reserveRun_learning (hs : Practiced environment s)
    (h : IsBudget s revisionId generationContextId revision budget) :
    s.reserveRun environment now (learningJob revisionId generationContextId revision.headSha) =
      if s.isSwept generationContextId = true then
        if (s.runs (learningKey generationContextId)).isNone = true ∧
            s.isProofFrozen environment revisionId generationContextId = false then .proofPending
        else
          .reserved
            { s with
              runs := s.runs.set (learningKey generationContextId)
                (s.learningRun environment now revisionId generationContextId revision.headSha
                  budget) }
            revision.headSha
            (s.learningRun environment now revisionId generationContextId revision.headSha budget)
      else .stale := by
  obtain rfl := h.id_eq
  have hsame : IsLearningRun environment revision.id generationContextId revision.headSha budget
      (s.learningRun environment now revision.id generationContextId revision.headSha budget) :=
    hs.isLearningRun h
  rw [h.isProofFrozen]
  unfold PracticeSystem.reserveRun
  have hmaximum : s.maximumDeleteAfter now
      (learningJob revision.id generationContextId revision.headSha) =
      some (now + privateRetentionMs) := rfl
  rw [hmaximum]
  dsimp only [learningJob]
  rw [h.loadRunBinding]
  by_cases hswept : s.isSwept generationContextId = true
  · rw [if_pos hswept, if_pos hswept]
    dsimp only
    refine if_congr Iff.rfl rfl ((if_neg ?_).trans rfl)
    rintro (hother | hother | hother | hother | hother)
    · exact hother hsame.revision
    · exact hother hsame.context
    · exact hother hsame.target
    · exact hother hsame.seed
    · exact hother hsame.count
  · rw [if_neg hswept, if_neg hswept]

/-- A job of the context calls the provider while the sweep looks at the budget, the proof is
frozen, and the run is open and in time, if there is one. -/
theorem Practiced.callsProvider_iff (hs : Practiced environment s)
    (h : IsBudget s revisionId generationContextId revision budget) :
    s.CallsProvider environment now revisionId generationContextId ↔
      s.isSwept generationContextId = true ∧
        s.isProofFrozen environment revisionId generationContextId = true ∧
        ∀ run, s.runs (learningKey generationContextId) = some run →
          run.completed = none ∧ now < run.deadlineAt := by
  have hsame : IsLearningRun environment revisionId generationContextId revision.headSha budget
      (s.learningRun environment now revisionId generationContextId revision.headSha budget) :=
    hs.isLearningRun h
  constructor
  · rintro ⟨found, t, headSha, run, hopen, hreserve, hload, hlate⟩
    obtain rfl := Option.some_inj.mp (h.opened.symm.trans hopen)
    rw [hs.reserveRun_learning h] at hreserve
    split_ifs at hreserve with hswept hpending
    cases hreserve
    obtain ⟨hcompleted, -, hfrozen⟩ := of_decide_eq_true hload
    refine ⟨hswept, ?_, fun stored hstored => ?_⟩
    · rw [h.isProofFrozen]
      dsimp only at hfrozen
      rw [hsame.revision, hsame.context] at hfrozen
      exact hfrozen
    · have hrow : s.learningRun environment now revisionId generationContextId revision.headSha
          budget = stored := by
        unfold PracticeSystem.learningRun
        rw [hstored, Option.getD_some]
      rw [hrow] at hcompleted hlate
      exact ⟨Option.isNone_iff_eq_none.mp hcompleted, hlate⟩
  · rintro ⟨hswept, hfrozen, hrun⟩
    have hopen : (s.learningRun environment now revisionId generationContextId revision.headSha
        budget).completed = none ∧
        now < (s.learningRun environment now revisionId generationContextId revision.headSha
          budget).deadlineAt := by
      unfold PracticeSystem.learningRun
      cases hstored : s.runs (learningKey generationContextId) with
      | none => exact ⟨rfl, Int.lt_add_of_pos_right now (by decide)⟩
      | some stored => exact hrun stored hstored
    have hreserve : s.reserveRun environment now
        (learningJob revisionId generationContextId revision.headSha) = _ :=
      hs.reserveRun_learning h
    rw [if_pos hswept, if_neg (fun hpending => by cases hfrozen.symm.trans hpending.2)] at hreserve
    refine ⟨revision, _, _, _, h.opened, hreserve, ?_, hopen.2⟩
    unfold loadInput
    refine decide_eq_true ⟨Option.isNone_iff_eq_none.mpr hopen.1, rfl, ?_⟩
    dsimp only
    rw [hsame.revision, hsame.context]
    rw [h.isProofFrozen] at hfrozen
    exact hfrozen

/-! ## What a view shows -/

/-- The bundle that a view shows, or whose retry it waits for. -/
def readableBundle (now : Timestamp) (request : ReadPracticeViewInput)
    (s : PracticeSystem Digest) : Option LearningBundle :=
  preferredBundle (s.bundles.filter fun bundle =>
    bundle.revisionId = request.revisionId ∧
      bundle.generationContextId = request.generationContextId ∧ bundle.isReadable now)

/-- The author reads the view of a context of an open revision. -/
def IsViewable (environment : PreparationEnvironment Digest) (request : ReadPracticeViewInput)
    (s : PracticeSystem Digest) : Prop :=
  environment.authorId = request.userId ∧
    ∃ revision budget, IsBudget s request.revisionId request.generationContextId revision budget

variable {request : ReadPracticeViewInput}

theorem readPracticeView_of_viewable (h : s.IsViewable environment request) :
    s.readPracticeView environment now request =
      match s.readableBundle now request with
      | none => .generating false
      | some bundle =>
          if bundle.binding.outcome = .fallback then
            match (s.runs (learningKey request.generationContextId)).bind PrivateRun.completed with
            | none => .generating true
            | some completed => if completed.degraded then .generationFailed else .error
          else
            match bundle.payload with
            | none => .error
            | some learning =>
                match request.practiceSessionId with
                | none => .ready bundle.id learning none
                | some sessionId =>
                    match s.viewSession now request bundle.id learning sessionId with
                    | none => .unavailable
                    | some session => .ready bundle.id learning (some session) := by
  obtain ⟨hauthor, revision, budget, hbudget⟩ := h
  unfold readPracticeView
  rw [if_neg]
  · rfl
  · rintro (hclosed | hother | hall)
    · rw [hbudget.opened] at hclosed
      cases hclosed
    · exact hother hauthor
    · rw [hbudget.found, Option.all_some] at hall
      exact of_decide_eq_true hall hbudget.bound

theorem readPracticeView_of_not_viewable (h : ¬s.IsViewable environment request) :
    s.readPracticeView environment now request = .unavailable := by
  unfold readPracticeView
  refine if_pos ?_
  by_contra hnot
  simp only [not_or, ne_eq, not_not] at hnot
  obtain ⟨hopen, hauthor, hbudgets⟩ := hnot
  refine h ⟨hauthor, ?_⟩
  cases hopened : s.openRevision request.revisionId with
  | none =>
      rw [hopened] at hopen
      exact absurd rfl hopen
  | some revision =>
      cases hfound : s.preparation.budgets request.generationContextId with
      | none =>
          rw [hfound] at hbudgets
          exact absurd rfl hbudgets
      | some budget =>
          rw [hfound, Option.all_some, decide_eq_true_eq, not_not] at hbudgets
          exact ⟨revision, budget, hopened, hfound, hbudgets⟩

/-! ## Promises -/

/-- What the answer of a view promises: the material is not reported as being generated when the
run of the context is completed, its job is queued or will be scheduled by the view or the next
sweep, and comes to a call of the provider; and the view does not throw. -/
structure KeepsPromise (environment : PreparationEnvironment Digest) (isQueued : Prop)
    (now : Timestamp) (request : ReadPracticeViewInput) (s : PracticeSystem Digest) : Prop where
  generating : ∀ schedules,
    s.readPracticeView environment now request = .generating schedules →
      (∀ run, s.runs (learningKey request.generationContextId) = some run →
        run.completed = none) ∧
      (isQueued ∨ schedules = true ∨ s.SweepsLearning request.generationContextId) ∧
      (s.CallsProvider environment now request.revisionId request.generationContextId ∨
        s.AwaitsProof environment request.revisionId request.generationContextId)
  readable : s.readPracticeView environment now request ≠ .error

/-- The run of the context is not completed and in time, or waits for a proof to come. -/
def GoesOn (environment : PreparationEnvironment Digest) (now : Timestamp)
    (request : ReadPracticeViewInput) (s : PracticeSystem Digest) : Prop :=
  s.isProofFrozen environment request.revisionId request.generationContextId = true ∧
      (∀ run, s.runs (learningKey request.generationContextId) = some run →
        run.completed = none ∧ now < run.deadlineAt) ∨
    s.AwaitsProof environment request.revisionId request.generationContextId

/-- The work of a view that shows no material will be done. -/
structure HasWork (environment : PreparationEnvironment Digest) (isQueued : Prop)
    (now : Timestamp) (request : ReadPracticeViewInput) (s : PracticeSystem Digest) : Prop where
  generates : s.readableBundle now request = none →
    s.isSwept request.generationContextId = true ∧
      (isQueued ∨ ¬s.HasLearning request.generationContextId) ∧ s.GoesOn environment now request
  retries : ∀ bundle, s.readableBundle now request = some bundle →
    bundle.binding.outcome = .fallback →
      (∃ completed, (s.runs (learningKey request.generationContextId)).bind
        PrivateRun.completed = some completed ∧ completed.degraded = true) ∨
      (s.runs (learningKey request.generationContextId)).bind PrivateRun.completed = none ∧
        s.isSwept request.generationContextId = true ∧ s.GoesOn environment now request

theorem readableBundle_isHeld {bundle : LearningBundle}
    (h : s.readableBundle now request = some bundle) :
    ∃ learning, bundle.payload = some learning := by
  have hreadable := (of_decide_eq_true (List.mem_filter.mp (preferredBundle_mem h)).2).2.2
  have hheld : bundle.isHeld = true := (of_decide_eq_true hreadable).1
  unfold PrivateRow.isHeld at hheld
  unfold PrivateRow.payload
  cases hcontent : bundle.content with
  | held payload => exact ⟨payload, rfl⟩
  | shredded deletedAt =>
      rw [hcontent] at hheld
      cases hheld

/-- A run comes to the call of the provider when the sweep looks at the budget and it goes on. -/
theorem Practiced.goesOn_iff (hs : Practiced environment s)
    (h : IsBudget s request.revisionId request.generationContextId revision budget) :
    (s.CallsProvider environment now request.revisionId request.generationContextId ∨
      s.AwaitsProof environment request.revisionId request.generationContextId) ↔
      s.isSwept request.generationContextId = true ∧ s.GoesOn environment now request := by
  rw [hs.callsProvider_iff h]
  unfold GoesOn
  constructor
  · rintro (⟨hswept, hcalls⟩ | hawaits)
    · exact ⟨hswept, .inl hcalls⟩
    · exact ⟨hawaits.2.2.1, .inr hawaits⟩
  · rintro ⟨hswept, hcalls | hawaits⟩
    · exact .inl ⟨hswept, hcalls⟩
    · exact .inr hawaits

theorem GoesOn.completed (h : s.GoesOn environment now request) {run : PrivateRun}
    (hrun : s.runs (learningKey request.generationContextId) = some run) :
    run.completed = none := by
  rcases h with ⟨-, hopen⟩ | hawaits
  · exact (hopen run hrun).1
  · cases hrun.symm.trans hawaits.1

/-- In every reachable state, at every time and whatever the queue has, a view keeps what it
promises exactly when there is work behind it. -/
theorem learning_promised [DecidableEq Digest] (environment : PreparationEnvironment Digest)
    (clock : Timestamp) (events : List PracticeEvent) (isQueued : Prop) (now : Timestamp)
    (request : ReadPracticeViewInput) :
    KeepsPromise environment isQueued now request (practiceAfter environment clock events) ↔
      (IsViewable environment request (practiceAfter environment clock events) →
        HasWork environment isQueued now request (practiceAfter environment clock events)) := by
  have hs : Practiced environment (practiceAfter environment clock events) :=
    practiced_after events
  generalize practiceAfter environment clock events = s at hs ⊢
  by_cases hviewable : s.IsViewable environment request
  · have hview : s.readPracticeView environment now request = _ :=
      readPracticeView_of_viewable hviewable
    obtain ⟨revision, budget, hbudget⟩ := hviewable.2
    constructor
    · rintro ⟨hgenerating, hreadable⟩ -
      refine ⟨fun hnone => ?_, fun bundle hbundle hfallback => ?_⟩
      · rw [hnone] at hview
        obtain ⟨hcompleted, hscheduled, hcalls⟩ := hgenerating false hview
        obtain ⟨hswept, hgoes⟩ := (hs.goesOn_iff hbudget).mp hcalls
        refine ⟨hswept, ?_, hgoes⟩
        rcases hscheduled with hqueued | hschedules | hsweeps
        · exact .inl hqueued
        · cases hschedules
        · exact .inr hsweeps.2
      · rw [hbundle] at hview
        dsimp only at hview
        rw [if_pos hfallback] at hview
        cases hretry : (s.runs (learningKey request.generationContextId)).bind
            PrivateRun.completed with
        | none =>
            rw [hretry] at hview
            obtain ⟨-, -, hcalls⟩ := hgenerating true hview
            exact .inr ⟨rfl, (hs.goesOn_iff hbudget).mp hcalls⟩
        | some completed =>
            rw [hretry] at hview
            dsimp only at hview
            split at hview
            · next hdegraded => exact .inl ⟨completed, rfl, hdegraded⟩
            · exact absurd hview hreadable
    · intro hwork
      obtain ⟨hnone, hfallback⟩ := hwork hviewable
      cases hbundle : s.readableBundle now request with
      | none =>
          rw [hbundle] at hview
          obtain ⟨hswept, hlearning, hgoes⟩ := hnone hbundle
          refine ⟨fun schedules _ => ?_, fun herror => ?_⟩
          · refine ⟨fun run hrun => hgoes.completed hrun, ?_,
              (hs.goesOn_iff hbudget).mpr ⟨hswept, hgoes⟩⟩
            exact hlearning.imp_right fun hno => .inr ⟨hswept, hno⟩
          · cases hview.symm.trans herror
      | some bundle =>
          rw [hbundle] at hview
          dsimp only at hview
          by_cases hout : bundle.binding.outcome = .fallback
          · rw [if_pos hout] at hview
            rcases hfallback bundle hbundle hout with ⟨completed, hretry, hdegraded⟩ |
              ⟨hretry, hswept, hgoes⟩
            · rw [hretry] at hview
              dsimp only at hview
              rw [if_pos hdegraded] at hview
              refine ⟨fun schedules hgenerating => ?_, fun herror => ?_⟩
              · cases hview.symm.trans hgenerating
              · cases hview.symm.trans herror
            · rw [hretry] at hview
              refine ⟨fun schedules hgenerating => ?_, fun herror => ?_⟩
              · cases hview.symm.trans hgenerating
                exact ⟨fun run hrun => hgoes.completed hrun, .inr (.inl rfl),
                  (hs.goesOn_iff hbudget).mpr ⟨hswept, hgoes⟩⟩
              · cases hview.symm.trans herror
          · obtain ⟨learning, hpayload⟩ := readableBundle_isHeld hbundle
            rw [if_neg hout, hpayload] at hview
            dsimp only at hview
            refine ⟨fun schedules hgenerating => ?_, fun herror => ?_⟩
            · rw [hgenerating] at hview
              split at hview
              · cases hview
              · split at hview <;> cases hview
            · rw [herror] at hview
              split at hview
              · cases hview
              · split at hview <;> cases hview
  · have hview : s.readPracticeView environment now request = .unavailable :=
      readPracticeView_of_not_viewable hviewable
    refine iff_of_true ⟨fun schedules hgenerating => ?_, fun herror => ?_⟩
      fun hnot => absurd hnot hviewable
    · cases hview.symm.trans hgenerating
    · cases hview.symm.trans herror

/-- An earlier job of the context comes late, and takes the fallback. -/
def sampleLate : List PracticeEvent :=
  [.reserve 0 20
      { learningJob (js "r1") (js "c1") (js "h1") with
        idempotencyKey := js "semantic.learning.v2:c1" },
    .load 0 20,
    .generate 0 .fallback (js "fallback"),
    .persist 0,
    .commit (js "semantic.learning.v2:c1")]

/-- When its day is over, material whose run is completed is reported as being generated, and the
sweep does not schedule it; and with a fallback of another run beside it the view throws. -/
theorem generating_after_completion :
    sampleLearnedSystem.readPracticeView PreparationSystem.sampleEnvironment
        (10 + privateRetentionMs) sampleRequest = .generating false ∧
      sampleLearnedSystem.HasLearning (js "c1") ∧
      (practiceAfter PreparationSystem.sampleEnvironment 0
        (sampleContexts ++ sampleLate)).readPracticeView PreparationSystem.sampleEnvironment
          (10 + privateRetentionMs) sampleRequest = .error := by
  refine ⟨by decide +kernel, ?_, by decide +kernel⟩
  have hcompleted : (sampleLearnedSystem.runs (learningKey (js "c1"))).any (fun run =>
      run.target = none ∧ run.generationContextId = js "c1" ∧ run.completed.isSome = true) =
        true := by
    decide +kernel
  obtain ⟨run, hrun, hbound⟩ := (Option.any_eq_true ..).mp hcompleted
  exact ⟨_, run, hrun, of_decide_eq_true hbound⟩

end PracticeSystem

end Worker

end UnderstandProof
