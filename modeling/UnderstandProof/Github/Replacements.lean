import UnderstandProof.Github.PullRequestRuns

/-!
# Replacements of attempts

An author replaces an attempt that has failed; the answer is the live attempt of the author on
the revision, if there is one, and a new attempt otherwise. While no replacement is asked for
after a pass, the pass is final: no attempt and no check intent is written for the author on
the revision again.
-/

open Foundation

namespace UnderstandProof

namespace Github

open Domain (Timestamp)

namespace PullRequestRows

/-! ## The newest attempt -/

theorem foldl_newest {attempts : List Attempt} {first : Attempt} :
    ∃ attempt, (attempt = first ∨ attempt ∈ attempts) ∧
      attempts.foldl (fun latest attempt =>
        if latest.all attempt.isNewer then some attempt else latest) (some first) =
          some attempt := by
  induction attempts generalizing first with
  | nil => exact ⟨first, .inl rfl, rfl⟩
  | cons next attempts ih =>
      rw [List.foldl_cons]
      split
      · obtain ⟨attempt, hmem, heq⟩ := @ih next
        refine ⟨attempt, .inr ?_, heq⟩
        rcases hmem with rfl | hmem
        · exact List.mem_cons_self
        · exact List.mem_cons_of_mem _ hmem
      · obtain ⟨attempt, hmem, heq⟩ := @ih first
        exact ⟨attempt, hmem.imp_right (List.mem_cons_of_mem _), heq⟩

theorem newestAttempt_cons (first : Attempt) (attempts : List Attempt) :
    ∃ attempt ∈ first :: attempts, newestAttempt (first :: attempts) = some attempt := by
  obtain ⟨attempt, hmem, heq⟩ := @foldl_newest attempts first
  refine ⟨attempt, List.mem_cons.mpr hmem, ?_⟩
  unfold newestAttempt
  rw [List.foldl_cons, Option.all_none, if_pos rfl]
  exact heq

theorem newestAttempt_eq_none {attempts : List Attempt} (h : newestAttempt attempts = none) :
    attempts = [] := by
  cases attempts with
  | nil => rfl
  | cons first attempts =>
      obtain ⟨attempt, -, heq⟩ := newestAttempt_cons first attempts
      rw [heq] at h
      cases h

theorem newestAttempt_eq_some {attempts : List Attempt} {attempt : Attempt}
    (h : newestAttempt attempts = some attempt) : attempt ∈ attempts := by
  cases attempts with
  | nil => cases h
  | cons first attempts =>
      obtain ⟨newest, hmem, heq⟩ := newestAttempt_cons first attempts
      exact Option.some_inj.mp (heq.symm.trans h) ▸ hmem

variable {Digest : Type} {environment : RevisionEnvironment Digest}
  {s t : PullRequestRows Digest} {revisionId authorId : JsString} {attempt : Attempt}
  {current : Option (JsString × JsString)} {now : Timestamp}
  {sourceAttemptId expectedHeadSha idempotencyKey : JsString} {authorized fails : Bool}
  {result : ReplacementResult}

theorem liveAttempt_eq_some (h : s.liveAttempt revisionId authorId = some attempt) :
    attempt ∈ s.attempts ∧ attempt.revisionId = revisionId ∧ attempt.authorId = authorId ∧
      isLive attempt.status = true := by
  have hmem := newestAttempt_eq_some h
  simp only [List.mem_filter, Attempt.isOf, decide_eq_true_eq] at hmem
  exact ⟨hmem.1, hmem.2.1.1, hmem.2.1.2, hmem.2.2⟩

theorem not_live_of_liveAttempt (h : s.liveAttempt revisionId authorId = none)
    (hmem : attempt ∈ s.attempts) (hrevision : attempt.revisionId = revisionId)
    (hauthor : attempt.authorId = authorId) : isLive attempt.status = false := by
  have hnil := List.filter_eq_nil_iff.mp (newestAttempt_eq_none h) attempt hmem
  simpa [Attempt.isOf, hrevision, hauthor] using hnil

/-- The live attempt of an author on a revision is the only one. -/
theorem liveAttempt_of_live (hsettled : Settled environment s current)
    (hmem : attempt ∈ s.attempts) (hlive : isLive attempt.status = true) :
    s.liveAttempt attempt.revisionId attempt.authorId = some attempt := by
  cases hfound : s.liveAttempt attempt.revisionId attempt.authorId with
  | none => exact nomatch (not_live_of_liveAttempt hfound hmem rfl rfl).symm.trans hlive
  | some other =>
      obtain ⟨hother, hrevision, hauthor, hotherLive⟩ := liveAttempt_eq_some hfound
      rw [hsettled.single other hother attempt hmem hotherLive hlive hrevision hauthor]

/-! ## What a replacement answers -/

/-- The ids that are derived from texts: different texts have different ids, and no id has a
colon in it. -/
structure DerivesIds (environment : RevisionEnvironment Digest) : Prop where
  injective : Function.Injective environment.deterministicUuid
  noColon : ∀ text, 58 ∉ environment.deterministicUuid text

theorem append_colon_inj {a b c d : JsString} (ha : 58 ∉ a) (hb : 58 ∉ b)
    (h : a ++ 58 :: c = b ++ 58 :: d) : a = b := by
  induction a generalizing b with
  | nil =>
      cases b with
      | nil => rfl
      | cons y b =>
          have hhead : 58 = y := (List.cons_eq_cons.mp h).1
          exact absurd (hhead ▸ List.mem_cons_self) hb
  | cons x a ih =>
      cases b with
      | nil =>
          have hhead : x = 58 := (List.cons_eq_cons.mp h).1
          exact absurd (hhead ▸ List.mem_cons_self) ha
      | cons y b =>
          obtain ⟨hhead, htail⟩ := List.cons_eq_cons.mp h
          rw [hhead, ih (fun hmem => ha (List.mem_cons_of_mem _ hmem))
            (fun hmem => hb (List.mem_cons_of_mem _ hmem)) htail]

theorem replacementId_inj (hids : DerivesIds environment)
    {source other key key' headSha headSha' : JsString} (hsource : 58 ∉ source)
    (hother : 58 ∉ other)
    (h : replacementId environment source key headSha =
      replacementId environment other key' headSha') : source = other := by
  have htext := hids.injective h
  simp only [List.append_assoc, List.append_cancel_left_eq] at htext
  exact append_colon_inj hsource hother htext

/-- An attempt with the id of a replacement has the revision and the author of its source. -/
theorem Minted.of_replacementId (h : Minted environment s) (hids : DerivesIds environment)
    (hnodup : (s.attempts.map Attempt.id).Nodup) {source : Attempt} {key headSha : JsString}
    (hsource : source ∈ s.attempts) (hmem : attempt ∈ s.attempts)
    (hid : attempt.id = replacementId environment source.id key headSha) :
    attempt.revisionId = source.revisionId ∧ attempt.authorId = source.authorId := by
  have hcolon : ∀ found ∈ s.attempts, 58 ∉ found.id := by
    intro found hfound
    rcases h found hfound with ⟨text, hfoundId, -⟩ | ⟨_, -, _, _, hfoundId, -⟩
    · exact hfoundId ▸ hids.noColon text
    · exact hfoundId ▸ hids.noColon _
  rcases h attempt hmem with ⟨text, hattempt, hlabel⟩ |
    ⟨other, hother, key', headSha', hattempt, hrevision, hauthor⟩
  · have htext := hids.injective (hattempt.symm.trans hid)
    refine absurd ?_ hlabel
    rw [htext]
    simp only [List.append_assoc]
    exact List.prefix_append _ _
  · have hsame : other.id = source.id :=
      replacementId_inj hids (hcolon other hother) (hcolon source hsource)
        (hattempt.symm.trans hid)
    obtain rfl := List.inj_on_of_nodup_map hnodup hother hsource hsame
    exact ⟨hrevision, hauthor⟩

section Answers

variable [DecidableEq Digest]

/-- A replacement answers with an attempt of the same author on the same revision. -/
theorem createReplacement_answer (hkept : Kept environment s) (hminted : Minted environment s)
    (hids : DerivesIds environment)
    (h : s.createReplacementAttempt environment now sourceAttemptId expectedHeadSha idempotencyKey
      authorized fails = some (t, result)) :
    ∃ source ∈ s.attempts, source.id = sourceAttemptId ∧ source.headSha = expectedHeadSha ∧
      isRetryable source.status = true ∧
      ∃ attempt ∈ t.attempts, attempt.id = result.attemptId ∧
        attempt.revisionId = source.revisionId ∧ attempt.authorId = source.authorId := by
  unfold createReplacementAttempt at h
  split at h
  · cases h
  · next source hsource =>
    have hmem := List.mem_of_find?_eq_some hsource
    have hid : source.id = sourceAttemptId := by simpa using List.find?_some hsource
    split at h
    · cases h
    · next hguard =>
      simp only [not_or, ne_eq, not_not, Bool.not_eq_false] at hguard
      obtain ⟨-, -, hhead, hretryable⟩ := hguard
      refine ⟨source, hmem, hid, hhead, hretryable, ?_⟩
      split at h
      · next existing hexisting =>
        cases h
        obtain ⟨hexistingMem, hrevision, hauthor, -⟩ := liveAttempt_eq_some hexisting
        exact ⟨existing, hexistingMem, rfl, hrevision, hauthor⟩
      · dsimp only at h
        split at h
        · next replay hreplay =>
          have hreplayMem := List.mem_of_find?_eq_some hreplay
          have hreplayId : replay.id =
              replacementId environment source.id idempotencyKey expectedHeadSha := by
            rw [hid]
            simpa using List.find?_some hreplay
          split at h
          · cases h
          · cases h
            obtain ⟨hrevision, hauthor⟩ :=
              hminted.of_replacementId hids hkept.settled.ids hmem hreplayMem hreplayId
            exact ⟨replay, hreplayMem, by rw [hreplayId, hid], hrevision, hauthor⟩
        · split at h
          · cases h
          · obtain ⟨written, hbind, heq⟩ := Option.map_eq_some_iff.mp h
            cases heq
            obtain ⟨created, hcreated, hwrite⟩ := Option.bind_eq_some_iff.mp hbind
            have hchecks : ChecksOnly environment created t := checksOnly_of_writeCheck hwrite
            obtain ⟨rfl, -⟩ := insertAttempt_eq_some hcreated
            rw [hchecks.attempts]
            exact ⟨_, List.mem_append_right _ List.mem_cons_self, rfl, rfl, rfl⟩

omit [DecidableEq Digest] in
theorem findRevision_of_mem (hsettled : Settled environment s current)
    {revision : PullRequestRevision} (hmem : revision ∈ s.revisions) :
    s.findRevision revision.id = some revision := by
  cases hfind : s.findRevision revision.id with
  | none =>
      have hnot := List.find?_eq_none.mp hfind revision hmem
      simp at hnot
  | some found =>
      obtain ⟨hfound, hid⟩ := findRevision_eq_some hfind
      rw [List.inj_on_of_nodup_map hsettled.revisionIds hfound hmem hid]

omit [DecidableEq Digest] in
theorem find_of_mem (hsettled : Settled environment s current) (hmem : attempt ∈ s.attempts) :
    s.attempts.find? (·.id = attempt.id) = some attempt := by
  cases hfind : s.attempts.find? (·.id = attempt.id) with
  | none =>
      have hnot := List.find?_eq_none.mp hfind attempt hmem
      simp at hnot
  | some found =>
      have hid : found.id = attempt.id := by simpa using List.find?_some hfind
      rw [List.inj_on_of_nodup_map hsettled.ids (List.mem_of_find?_eq_some hfind) hmem hid]

/-- While an attempt is live, every replacement of another one of its author on its revision
answers with it. -/
theorem createReplacement_live (hkept : Kept environment s) {source : Attempt}
    (hsource : source ∈ s.attempts) (hretryable : isRetryable source.status = true)
    (hmem : attempt ∈ s.attempts) (hlive : isLive attempt.status = true)
    (hrevision : attempt.revisionId = source.revisionId)
    (hauthor : attempt.authorId = source.authorId) :
    s.createReplacementAttempt environment now source.id source.headSha idempotencyKey true
      fails = some (s, { attemptId := attempt.id, replay := true }) := by
  obtain ⟨revision, hrevisionMem, hcurrent, hid⟩ := hkept.settled.live attempt hmem hlive
  have hfind : s.findRevision source.revisionId = some revision := by
    rw [← hrevision, ← hid]
    exact findRevision_of_mem hkept.settled hrevisionMem
  have hexisting : s.liveAttempt source.revisionId source.authorId = some attempt := by
    rw [← hrevision, ← hauthor]
    exact liveAttempt_of_live hkept.settled hmem hlive
  unfold createReplacementAttempt
  rw [find_of_mem hkept.settled hsource]
  dsimp only
  rw [if_neg (by simp [hfind, hcurrent, hretryable]), hexisting]

/-! ## A pass is final -/

/-- What a run keeps from any kept state on. -/
theorem Kept.run (h : Kept environment s) (more : List RevisionEvent) :
    Kept environment (after (PullRequestRows.step environment) s more) ∧
      KeepsAttempts environment s (after (PullRequestRows.step environment) s more) := by
  induction more using List.reverseRecOn with
  | nil => exact ⟨h, keepsAttempts_of_eq rfl⟩
  | append_singleton more event ih =>
      rw [after_concat]
      obtain ⟨hkept, hattempts⟩ := ih
      have hstep := @Kept.step Digest environment _ event _ hkept
      exact ⟨hstep.1, hattempts.trans hstep.2⟩

theorem minted_after {events : List RevisionEvent} :
    Minted environment (rowsAfter environment events) :=
  (kept_start.run events).2.minted fun _ hmem => nomatch hmem

/-- The technical aborts, expiries and decisions, and the replacements. -/
def IsAttemptEvent : RevisionEvent → Prop
  | .createReplacement _ _ _ _ _ _ => True
  | .transition _ _ _ _ => True
  | _ => False

def HasPassedOf (s : PullRequestRows Digest) (revisionId authorId : JsString) : Prop :=
  ∃ attempt ∈ s.attempts, attempt.revisionId = revisionId ∧ attempt.authorId = authorId ∧
    attempt.status = .passed

def IsSourceOf (s : PullRequestRows Digest) (revisionId authorId sourceAttemptId : JsString) :
    Prop :=
  ∃ source, s.attempts.find? (·.id = sourceAttemptId) = some source ∧
    source.revisionId = revisionId ∧ source.authorId = authorId

/-- No attempt of the author on the revision is replaced after a pass. -/
def SparesPassed (environment : RevisionEnvironment Digest) (revisionId authorId : JsString)
    (s : PullRequestRows Digest) : RevisionEvent → Prop
  | .createReplacement _ sourceAttemptId expectedHeadSha idempotencyKey authorized fails =>
      fails = false → s.IsSourceOf revisionId authorId sourceAttemptId →
        s.HasPassedOf revisionId authorId →
        ¬ MayReplace environment s sourceAttemptId expectedHeadSha idempotencyKey authorized
  | _ => True

/-- A replacement leaves the rows as they are, or adds an attempt of the author and the
revision of its source. -/
theorem createReplacement_attempts
    (h : s.createReplacementAttempt environment now sourceAttemptId expectedHeadSha idempotencyKey
      authorized fails = some (t, result)) :
    t = s ∨ ∃ source created, s.attempts.find? (·.id = sourceAttemptId) = some source ∧
      t.attempts = s.attempts ++ [created] ∧ created.revisionId = source.revisionId ∧
      created.authorId = source.authorId := by
  unfold createReplacementAttempt at h
  split at h
  · cases h
  · next source hsource =>
    split at h
    · cases h
    · split at h
      · cases h
        exact .inl rfl
      · dsimp only at h
        split at h
        · split at h
          · cases h
          · cases h
            exact .inl rfl
        · split at h
          · cases h
          · obtain ⟨written, hbind, heq⟩ := Option.map_eq_some_iff.mp h
            cases heq
            obtain ⟨created, hcreated, hwrite⟩ := Option.bind_eq_some_iff.mp hbind
            have hchecks : ChecksOnly environment created t := checksOnly_of_writeCheck hwrite
            obtain ⟨rfl, -⟩ := insertAttempt_eq_some hcreated
            exact .inr ⟨source, _, hsource, hchecks.attempts, rfl, rfl⟩

/-- A replacement after a pass changes nothing. -/
theorem step_of_passed (hspares : SparesPassed environment revisionId authorId s
      (.createReplacement now sourceAttemptId expectedHeadSha idempotencyKey authorized fails))
    (hsource : s.IsSourceOf revisionId authorId sourceAttemptId)
    (hpassed : s.HasPassedOf revisionId authorId) :
    s.step environment (.createReplacement now sourceAttemptId expectedHeadSha idempotencyKey
      authorized fails) = s := by
  unfold PullRequestRows.step
  cases hnext : s.next environment (.createReplacement now sourceAttemptId expectedHeadSha
      idempotencyKey authorized fails) with
  | none => rfl
  | some t =>
      obtain ⟨⟨u, result⟩, hcreate, rfl⟩ := Option.map_eq_some_iff.mp hnext
      rcases (createReplacement_cases hcreate).2 with heq | ⟨hfails, hreplace⟩
      · exact heq
      · exact absurd hreplace (hspares hfails hsource hpassed)

/-- After a pass no attempt of the author on the revision is new. -/
theorem not_new_of_passed {event : RevisionEvent} (hevent : IsAttemptEvent event)
    (hspares : SparesPassed environment revisionId authorId s event)
    (hpassed : s.HasPassedOf revisionId authorId)
    (hmem : attempt ∈ (s.step environment event).attempts)
    (hrevision : attempt.revisionId = revisionId) (hauthor : attempt.authorId = authorId) :
    ∃ before ∈ s.attempts, before.id = attempt.id := by
  cases event with
  | snapshot now payload new reactivates fails => cases hevent
  | persistProofPlan now run bindingActive fails => cases hevent
  | prepareRevision now run fails => cases hevent
  | createReplacement now sourceAttemptId expectedHeadSha idempotencyKey authorized fails =>
      by_cases hsource : s.IsSourceOf revisionId authorId sourceAttemptId
      · rw [step_of_passed hspares hsource hpassed] at hmem
        exact ⟨attempt, hmem, rfl⟩
      · unfold PullRequestRows.step at hmem
        cases hnext : s.next environment (.createReplacement now sourceAttemptId expectedHeadSha
            idempotencyKey authorized fails) with
        | none =>
            rw [hnext] at hmem
            exact ⟨attempt, hmem, rfl⟩
        | some t =>
            rw [hnext] at hmem
            obtain ⟨⟨u, result⟩, hcreate, rfl⟩ := Option.map_eq_some_iff.mp hnext
            change attempt ∈ u.attempts at hmem
            rcases createReplacement_attempts hcreate with rfl |
              ⟨source, created, hfound, hattempts, hsameRevision, hsameAuthor⟩
            · exact ⟨attempt, hmem, rfl⟩
            · rw [hattempts] at hmem
              rcases List.mem_append.mp hmem with hmem | hmem
              · exact ⟨attempt, hmem, rfl⟩
              · cases List.mem_singleton.mp hmem
                exact absurd ⟨source, hfound, hsameRevision.symm.trans hrevision,
                  hsameAuthor.symm.trans hauthor⟩ hsource
  | transition now attemptId status intent =>
      unfold PullRequestRows.step at hmem
      cases hnext : s.next environment (.transition now attemptId status intent) with
      | none =>
          rw [hnext] at hmem
          exact ⟨attempt, hmem, rfl⟩
      | some t =>
          rw [hnext] at hmem
          obtain ⟨-, change, hwinds⟩ := transition_cases hnext
          change attempt ∈ t.attempts at hmem
          rw [hwinds.eq] at hmem
          obtain ⟨before, hbefore, rfl⟩ := List.mem_map.mp hmem
          exact ⟨before, hbefore, (hwinds.follows before hbefore).id.symm⟩

/-- After any history, in every sequence of transitions and replacements in which no attempt
of the author on the revision is replaced after a pass: at most one of them is live; after a
pass none is new, and a replacement writes nothing; and while the attempt that a replacement
has answered with is live, the same call answers with it again. -/
theorem pass_is_final (environment : RevisionEnvironment Digest) (hids : DerivesIds environment)
    (revisionId authorId : JsString) (front more : List RevisionEvent)
    (hevents : ∀ event ∈ more, IsAttemptEvent event)
    (hspares : Throughout (PullRequestRows.step environment) (rowsAfter environment front)
      (SparesPassed environment revisionId authorId) more) :
    ∀ done rest, more = done ++ rest →
      let s := rowsAfter environment (front ++ done)
      (∀ attempt ∈ s.attempts, ∀ other ∈ s.attempts, isLive attempt.status = true →
        isLive other.status = true → attempt.isOf revisionId authorId = true →
        other.isOf revisionId authorId = true → attempt = other) ∧
      (∀ event later, rest = event :: later → s.HasPassedOf revisionId authorId →
        (s.step environment event).HasPassedOf revisionId authorId ∧
        (∀ attempt ∈ (s.step environment event).attempts,
          attempt.isOf revisionId authorId = true → ∃ before ∈ s.attempts,
            before.id = attempt.id) ∧
        ∀ now sourceAttemptId expectedHeadSha idempotencyKey authorized fails,
          event = .createReplacement now sourceAttemptId expectedHeadSha idempotencyKey authorized
            fails →
          s.IsSourceOf revisionId authorId sourceAttemptId → s.step environment event = s) ∧
      ∀ now sourceAttemptId expectedHeadSha idempotencyKey authorized fails t result,
        s.createReplacementAttempt environment now sourceAttemptId expectedHeadSha idempotencyKey
          authorized fails = some (t, result) →
        ∀ later, let u := after (PullRequestRows.step environment) t later
          ∀ attempt ∈ u.attempts, attempt.id = result.attemptId →
            isLive attempt.status = true → ∀ now' fails',
            u.createReplacementAttempt environment now' sourceAttemptId expectedHeadSha
              idempotencyKey true fails' =
                some (u, { attemptId := result.attemptId, replay := true }) := by
  rintro done rest rfl
  have hkept : Kept environment (rowsAfter environment (front ++ done)) := kept_after
  refine ⟨fun attempt hmem other hother hlive hotherLive hof hotherOf => ?_,
    fun event later hrest hpassed => ?_, ?_⟩
  · simp only [Attempt.isOf, decide_eq_true_eq] at hof hotherOf
    exact hkept.settled.single attempt hmem other hother hlive hotherLive
      (hof.1.trans hotherOf.1.symm) (hof.2.trans hotherOf.2.symm)
  · subst hrest
    have hspare : SparesPassed environment revisionId authorId
        (rowsAfter environment (front ++ done)) event := by
      have hat := hspares done event later rfl
      rwa [← after_append] at hat
    have hevent := hevents event (List.mem_append_right _ List.mem_cons_self)
    refine ⟨?_, fun attempt hmem hof => ?_, ?_⟩
    · obtain ⟨passed, hmem, hrevision, hauthor, hstatus⟩ := hpassed
      exact ⟨passed, hkept.step.2.ended hmem (by rw [hstatus]; rfl), hrevision, hauthor, hstatus⟩
    · simp only [Attempt.isOf, decide_eq_true_eq] at hof
      exact not_new_of_passed hevent hspare hpassed hmem hof.1 hof.2
    · rintro now sourceAttemptId expectedHeadSha idempotencyKey authorized fails rfl hsource
      exact step_of_passed hspare hsource hpassed
  · intro now sourceAttemptId expectedHeadSha idempotencyKey authorized fails t result hcreate
      later u attempt hmem hid hlive now' fails'
    obtain ⟨source, hsource, rfl, rfl, hretryable, answered, hanswered, hansweredId, hrevision,
      hauthor⟩ := createReplacement_answer hkept minted_after hids hcreate
    have hcarries := (createReplacement_cases hcreate).1
    obtain ⟨hrun, hrunAttempts⟩ := (hkept.of_carries hcarries).run later
    have hended : isLive source.status = false := by
      revert hretryable
      cases source.status <;> simp [isRetryable, isLive]
    obtain ⟨answer, hanswer, hfollows⟩ := hrunAttempts.follows answered hanswered
    have hsame : attempt = answer := List.inj_on_of_nodup_map hrun.settled.ids hmem hanswer
      (hid.trans (hansweredId.symm.trans hfollows.id.symm))
    rw [← hid]
    exact createReplacement_live hrun
      (hrunAttempts.ended (hcarries.passed.ended hsource hended) hended) hretryable hmem hlive
      (hsame ▸ hfollows.revisionId.trans hrevision) (hsame ▸ hfollows.authorId.trans hauthor)

end Answers

section Samples

/-- A text without its colons. -/
def escaped : JsString → JsString
  | [] => []
  | c :: text =>
      if c = 58 then 1 :: 1 :: escaped text
      else if c = 1 then 1 :: 2 :: escaped text
      else c :: escaped text

def unescaped : JsString → JsString
  | [] => []
  | [c] => [c]
  | c :: d :: text =>
      if c = 1 then (if d = 1 then 58 else 1) :: unescaped text
      else c :: unescaped (d :: text)

theorem unescaped_escaped (text : JsString) : unescaped (escaped text) = text := by
  induction text with
  | nil => rfl
  | cons c text ih =>
      unfold escaped
      split
      · next hcolon => simp [unescaped, ih, hcolon]
      · split
        · next hone => simp [unescaped, ih, hone]
        · next hone =>
          cases hrest : escaped text with
          | nil =>
              rw [hrest] at ih
              rw [← ih]
              rfl
          | cons d rest =>
              rw [hrest] at ih
              simp [unescaped, hone, ih]

theorem escaped_noColon (text : JsString) : 58 ∉ escaped text := by
  induction text with
  | nil => exact List.not_mem_nil
  | cons c text ih =>
      unfold escaped
      split
      · simpa using ih
      · split
        · simpa using ih
        · next hcolon hone => simpa [eq_comm] using ⟨hcolon, ih⟩

/-- The addresses of the samples, with ids that tell their texts apart. -/
def sampleIds : RevisionEnvironment (List UInt8) :=
  { sampleUrls with deterministicUuid := escaped }

theorem derivesIds_sample : DerivesIds sampleIds := ⟨Function.LeftInverse.injective unescaped_escaped, escaped_noColon⟩

def firstAttemptId : JsString := escaped (js "semantic-attempt-v1:r1:author:p1:1")

def secondAttemptId : JsString := replacementId sampleIds firstAttemptId (js "k1") (js "h1")

/-- An attempt fails and is replaced. -/
def sampleReplaced : List RevisionEvent :=
  [.transition 3 firstAttemptId .technicalRetry none,
    .createReplacement 4 firstAttemptId (js "h1") (js "k1") true false]

/-- The replacement passes. -/
def samplePassed : List RevisionEvent :=
  [Domain.AttemptStatus.active, .uploading, .processing, .reviewRequired, .passed].map fun status =>
    .transition 5 secondAttemptId status none

/-- The failed attempt is replaced again after the pass. -/
theorem replaced_after_pass :
    let passed := rowsAfter sampleIds (samplePrepared ++ sampleReplaced ++ samplePassed)
    let s := passed.step sampleIds
      (.createReplacement 6 firstAttemptId (js "h1") (js "k2") true false)
    passed.attempts.map Attempt.status = [.technicalRetry, .passed] ∧
      s.attempts.map Attempt.status = [.technicalRetry, .passed, .ready] ∧
      (s.checkRuns (js "r1")).map (fun row => (row.status, row.intentReason)) =
        some (.inProgress, some .contributorRetry) := by
  decide

theorem pass_is_final_sample :
    let s := rowsAfter sampleIds samplePrepared
    (after (PullRequestRows.step sampleIds) s
        (sampleReplaced ++ samplePassed)).HasPassedOf (js "r1") (js "author") ∧
      ∀ attempt ∈ (after (PullRequestRows.step sampleIds) s
          (sampleReplaced ++ samplePassed ++
            [.transition 7 secondAttemptId .expired none])).attempts,
        attempt.isOf (js "r1") (js "author") = true →
          ∃ before ∈ (after (PullRequestRows.step sampleIds) s
            (sampleReplaced ++ samplePassed)).attempts, before.id = attempt.id := by
  have hevents : ∀ event ∈ sampleReplaced ++ samplePassed ++
      [.transition 7 secondAttemptId .expired none], IsAttemptEvent event := by
    simp [sampleReplaced, samplePassed, IsAttemptEvent]
  have hspares : Throughout (PullRequestRows.step sampleIds) (rowsAfter sampleIds samplePrepared)
      (SparesPassed sampleIds (js "r1") (js "author"))
      (sampleReplaced ++ samplePassed ++ [.transition 7 secondAttemptId .expired none]) := by
    refine throughout_cons.mpr ⟨trivial, throughout_cons.mpr ⟨fun _ _ hpassed => ?_, ?_⟩⟩
    · have hnone : ((rowsAfter sampleIds samplePrepared).step sampleIds
          (.transition 3 firstAttemptId .technicalRetry none)).attempts.all
            (fun attempt => attempt.status ≠ .passed) = true := by decide
      obtain ⟨attempt, hmem, -, -, hstatus⟩ := hpassed
      have hnot := List.all_eq_true.mp hnone attempt hmem
      simp [hstatus] at hnot
    · iterate 6 refine throughout_cons.mpr ⟨trivial, ?_⟩
      exact throughout_nil
  have hpassed : ((after (PullRequestRows.step sampleIds) (rowsAfter sampleIds samplePrepared)
      (sampleReplaced ++ samplePassed)).attempts.any fun attempt =>
        attempt.revisionId = js "r1" ∧ attempt.authorId = js "author" ∧
          attempt.status = .passed) = true := by decide
  obtain ⟨attempt, hmem, hattempt⟩ := List.any_eq_true.mp hpassed
  have hhas : (after (PullRequestRows.step sampleIds) (rowsAfter sampleIds samplePrepared)
      (sampleReplaced ++ samplePassed)).HasPassedOf (js "r1") (js "author") :=
    ⟨attempt, hmem, of_decide_eq_true hattempt⟩
  have hfinal := pass_is_final sampleIds derivesIds_sample (js "r1") (js "author") samplePrepared
    _ hevents hspares (sampleReplaced ++ samplePassed) [_] rfl
  refine ⟨hhas, fun found hfound hof => ?_⟩
  rw [after_concat] at hfound
  dsimp only [rowsAfter] at hfinal
  rw [after_append] at hfinal
  exact (hfinal.2.1 _ [] rfl hhas).2.1 found hfound hof

end Samples

end PullRequestRows

end Github

end UnderstandProof
