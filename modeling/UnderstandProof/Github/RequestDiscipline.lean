import UnderstandProof.Github.RequestPolicy

/-!
# The discipline of a request

What one attempt can do is said once. From that a whole request makes no more calls than its policy
allows, each of them behind a reading before the deadline and under a timer that ends with it, tries
nothing again that must not be, and sleeps only where the deadline lies behind the delay.
-/

open Foundation

namespace UnderstandProof

namespace Github

namespace RequestEvent

variable {Call : Type}

def isRequest : RequestEvent Call → Bool
  | .requests _ => true
  | _ => false

/-- Nothing is tried again behind a response, a control error or a failure that is not
retryable. -/
def isFinal : RequestEvent Call → Bool
  | .settles (.failure failure) => !failure.retryable
  | .settles _ => true
  | _ => false

/-- A call is made behind a reading before the deadline, under a timer within the time left; a sleep
ends before the deadline. -/
def Timely (deadlineAt : ℚ) (before : List (RequestEvent Call)) : RequestEvent Call → Prop
  | .requests _ => ∃ front now timeout, before = front ++ [.reads now, .arms timeout] ∧
      now < deadlineAt ∧ timeout ≤ max 1 (deadlineAt - now)
  | .sleeps delay => ∃ front now, before = front ++ [.reads now] ∧
      ∀ delay' ∈ delay, now + delay' < deadlineAt
  | _ => True

/-- An event of a request at its place. -/
def Disciplined (deadlineAt : ℚ) (before : List (RequestEvent Call)) (event : RequestEvent Call)
    (after : List (RequestEvent Call)) : Prop :=
  event.Timely deadlineAt before ∧
    (event.isFinal = true → ∀ later ∈ after, later.isRequest = false)

theorem Disciplined.of_not_isFinal {deadlineAt : ℚ} {before after : List (RequestEvent Call)}
    {event : RequestEvent Call} (htimely : event.Timely deadlineAt before)
    (hfinal : event.isFinal = false) : event.Disciplined deadlineAt before after :=
  ⟨htimely, fun h => absurd (hfinal.symm.trans h) Bool.false_ne_true⟩

theorem Timely.prepend {deadlineAt : ℚ} {before : List (RequestEvent Call)}
    {event : RequestEvent Call} (h : event.Timely deadlineAt before)
    (earlier : List (RequestEvent Call)) : event.Timely deadlineAt (earlier ++ before) := by
  cases event with
  | requests call =>
      obtain ⟨front, now, timeout, rfl, hnow, htimeout⟩ := h
      exact ⟨earlier ++ front, now, timeout, (List.append_assoc ..).symm, hnow, htimeout⟩
  | sleeps delay =>
      obtain ⟨front, now, rfl, hdelay⟩ := h
      exact ⟨earlier ++ front, now, (List.append_assoc ..).symm, hdelay⟩
  | reads | arms | settles => trivial

end RequestEvent

open RequestEvent

variable {Call : Type} {world : World Call} {policy : ResolvedPolicy} {deadlineAt : ℚ}
  {maxApiCalls : Option ℕ} {call : Call}

/-! ## One attempt -/

/-- A failed attempt gives up, at once or behind a reading, or sleeps before the deadline. -/
theorem backOff_cases {attempt : ℕ} {failure : Failure} {cursor : Cursor}
    {events : List (RequestEvent Call)} {verdict : Requested ⊕ Continuation}
    (h : backOff world policy deadlineAt attempt failure cursor = (events, verdict)) :
    (∃ outcome, verdict = .inl outcome ∧ ∃ error, outcome.1 = .error error ∧
      (events = [] ∨ ∃ now, events = [.reads now])) ∨
    ∃ next now delay, verdict = .inr next ∧ failure.retryable = true ∧
      events = [.reads now, .sleeps delay] ∧ ∀ delay' ∈ delay, now + delay' < deadlineAt := by
  simp only [backOff] at h
  split at h
  · obtain ⟨rfl, rfl⟩ := Prod.mk.inj h
    exact .inl ⟨_, rfl, _, rfl, .inl rfl⟩
  split at h
  · obtain ⟨rfl, rfl⟩ := Prod.mk.inj h
    exact .inl ⟨_, rfl, _, rfl, .inr ⟨_, rfl⟩⟩
  · rename_i hretry hdeadline
    obtain ⟨rfl, rfl⟩ := Prod.mk.inj h
    refine .inr ⟨_, _, _, rfl, ?_, rfl, fun delay' hdelay => ?_⟩
    · exact Bool.of_not_eq_false (not_or.mp hretry).1
    · have hlt := not_le.mp fun hle => hdeadline ⟨delay', hdelay, hle⟩
      linarith

/-- What an attempt does behind its call, or instead of it. -/
inductive Behind (deadlineAt : ℚ) : List (RequestEvent Call) → Requested ⊕ Continuation → Prop
  | ended {settlement outcome} (hfinal : (settles settlement : RequestEvent Call).isFinal = true) :
      Behind deadlineAt [settles settlement] (.inl outcome)
  | gaveUp {reading failure rest outcome} (hreading : reading = [] ∨ ∃ now, reading = [reads now])
      (hrest : rest = [] ∨ ∃ now, rest = [reads now]) :
      Behind deadlineAt (reading ++ settles (.failure failure) :: rest) (.inl outcome)
  | slept {reading failure now delay next} (hreading : reading = [] ∨ ∃ now, reading = [reads now])
      (hfailure : failure.retryable = true) (hdelay : ∀ delay' ∈ delay, now + delay' < deadlineAt) :
      Behind deadlineAt (reading ++ settles (.failure failure) :: [reads now, sleeps delay])
        (.inr next)

theorem handleFailure_behind (attempt : ℕ) (error : Option JsValue) (cursor : Cursor) :
    Behind deadlineAt (handleFailure world policy deadlineAt attempt error cursor).1
      (handleFailure world policy deadlineAt attempt error cursor).2 := by
  have hreading (now : ℚ) {reading : List (RequestEvent Call)}
      (h : reading = if error.isSome then [reads now] else []) :
      reading = [] ∨ ∃ now, reading = [reads now] := by
    split at h
    · exact .inr ⟨now, h⟩
    · exact .inl h
  simp only [handleFailure]
  generalize hback : backOff world policy deadlineAt attempt _ _ = back
  obtain ⟨rest, verdict⟩ := back
  rcases backOff_cases hback with ⟨outcome, rfl, error, -, hrest⟩ |
    ⟨next, now, delay, rfl, hretry, rfl, hdelay⟩
  · exact .gaveUp (hreading _ rfl) hrest
  · exact .slept (hreading _ rfl) hretry hdelay

/-- An attempt stops at the deadline, or arms its timer, makes its call or is refused it, and goes
on. -/
theorem requestAttempt_cases {attempt : ℕ} {state : Continuation} {events : List (RequestEvent Call)}
    {verdict : Requested ⊕ Continuation}
    (h : requestAttempt world policy deadlineAt maxApiCalls call attempt state =
      (events, verdict)) :
    (∃ now outcome, events = [reads now] ∧ verdict = .inl outcome) ∨
    ∃ now timeout made rest, events = reads now :: arms timeout :: (made ++ rest) ∧
      now < deadlineAt ∧ timeout ≤ max 1 (deadlineAt - now) ∧ (made = [] ∨ made = [requests call]) ∧
      Behind deadlineAt rest verdict := by
  simp only [requestAttempt] at h
  split at h
  · obtain ⟨rfl, rfl⟩ := Prod.mk.inj h
    exact .inl ⟨_, _, rfl, rfl⟩
  · rename_i hremaining
    have hnow : world.clock state.1.readings < deadlineAt := sub_pos.mp (not_le.mp hremaining)
    have htimeout : max 1 (min policy.attemptTimeoutMs (deadlineAt - world.clock state.1.readings)) ≤
        max 1 (deadlineAt - world.clock state.1.readings) := max_le_max le_rfl (min_le_right _ _)
    have hmade (cursor : Cursor) : (request world maxApiCalls call cursor).1 = [] ∨
        (request world maxApiCalls call cursor).1 = [requests call] := by
      rw [request]
      split
      · exact .inl rfl
      · exact .inr rfl
    generalize hmake : request world maxApiCalls call _ = make at h
    have hcall := hmade { state.1 with readings := state.1.readings + 1 }
    rw [hmake] at hcall
    have hgo {rest : List (RequestEvent Call)} {verdict' : Requested ⊕ Continuation}
        (hrest : Behind deadlineAt rest verdict')
        (h : ([reads (world.clock state.1.readings), arms (max 1 (min policy.attemptTimeoutMs
          (deadlineAt - world.clock state.1.readings)))] ++ make.1 ++ rest, verdict') =
            (events, verdict)) :
        ∃ now timeout made rest, events = reads now :: arms timeout :: (made ++ rest) ∧
          now < deadlineAt ∧ timeout ≤ max 1 (deadlineAt - now) ∧
          (made = [] ∨ made = [requests call]) ∧ Behind deadlineAt rest verdict := by
      obtain ⟨rfl, rfl⟩ := Prod.mk.inj h
      exact ⟨_, _, make.1, rest, by simp, hnow, htimeout, hcall, hrest⟩
    refine .inr ?_
    split at h
    · exact hgo (.ended rfl) h
    · exact hgo (.ended rfl) h
    · exact hgo (handleFailure_behind _ _ _) h
    · exact hgo (handleFailure_behind _ _ _) h

/-! ## A whole request -/

/-- What follows a call stands in its place behind anything; other events may follow only where the
attempt hands on. -/
theorem Behind.disciplined {rest : List (RequestEvent Call)} {verdict : Requested ⊕ Continuation}
    (h : Behind deadlineAt rest verdict) (front : List (RequestEvent Call))
    {later : List (RequestEvent Call)} (hlater : later = [] ∨ ∃ next, verdict = .inr next) :
    rest.countP isRequest = 0 ∧ AtEach (fun before event after =>
      Disciplined deadlineAt (front ++ before) event (after ++ later)) rest := by
  cases h with
  | ended hfinal =>
      obtain rfl : later = [] := hlater.resolve_right nofun
      exact ⟨by simp [isRequest], by simp [Disciplined, Timely]⟩
  | gaveUp hreading hrest =>
      obtain rfl : later = [] := hlater.resolve_right nofun
      rcases hreading with rfl | ⟨now, rfl⟩ <;> rcases hrest with rfl | ⟨now, rfl⟩ <;>
        exact ⟨by simp [isRequest], by simp [Disciplined, Timely, isFinal, isRequest]⟩
  | @slept reading failure now delay next hreading hfailure hdelay =>
      have hsleep (before : List (RequestEvent Call)) :
          (sleeps delay).Timely deadlineAt (before ++ [reads now]) :=
        ⟨before, now, rfl, hdelay⟩
      rcases hreading with rfl | ⟨read, rfl⟩
      · have htimely := hsleep (front ++ [settles (.failure failure)])
        exact ⟨by simp [isRequest],
          by simpa [Disciplined, isFinal, hfailure, Timely] using htimely⟩
      · have htimely := hsleep (front ++ [reads read, settles (.failure failure)])
        exact ⟨by simp [isRequest],
          by simpa [Disciplined, isFinal, hfailure, Timely] using htimely⟩

/-- The calls of an attempt and its events; others may follow only where it hands on. -/
theorem requestAttempt_disciplined {attempt : ℕ} {state : Continuation}
    {events : List (RequestEvent Call)} {verdict : Requested ⊕ Continuation}
    (h : requestAttempt world policy deadlineAt maxApiCalls call attempt state =
      (events, verdict)) {later : List (RequestEvent Call)}
    (hlater : later = [] ∨ ∃ next, verdict = .inr next) :
    events.countP isRequest ≤ 1 ∧ AtEach (fun before event after =>
      Disciplined deadlineAt before event (after ++ later)) events := by
  rcases requestAttempt_cases h with ⟨now, outcome, rfl, rfl⟩ |
    ⟨now, timeout, made, rest, rfl, hnow, htimeout, hmade, hrest⟩
  · exact ⟨by simp [isRequest], by simp [Disciplined, Timely, isFinal]⟩
  · have htimely : (requests call).Timely deadlineAt [reads now, arms timeout] :=
      ⟨[], now, timeout, rfl, hnow, htimeout⟩
    rcases hmade with rfl | rfl
    · obtain ⟨hcount, hplaced⟩ := hrest.disciplined [reads now, arms timeout] hlater
      refine ⟨?_, ?_⟩
      · simp [isRequest, hcount]
      · simp only [List.nil_append, atEach_cons]
        exact ⟨.of_not_isFinal trivial rfl, .of_not_isFinal trivial rfl, hplaced⟩
    · obtain ⟨hcount, hplaced⟩ :=
        hrest.disciplined [reads now, arms timeout, requests call] hlater
      refine ⟨?_, ?_⟩
      · simp only [List.singleton_append, List.countP_cons, hcount]
        simp [isRequest]
      · simp only [List.singleton_append, atEach_cons]
        exact ⟨.of_not_isFinal trivial rfl, .of_not_isFinal trivial rfl, .of_not_isFinal htimely rfl,
          hplaced⟩

/-- The attempts of a request keep to the policy and its deadline. -/
theorem runAttempts_disciplined (world : World Call) (policy : ResolvedPolicy) (deadlineAt : ℚ)
    (maxApiCalls : Option ℕ) (call : Call) (exhausted : Continuation → Requested) (left number : ℕ)
    (state : Continuation) :
    (runAttempts (requestAttempt world policy deadlineAt maxApiCalls call) exhausted left number
        state).1.countP isRequest ≤ left ∧
      AtEach (Disciplined deadlineAt) (runAttempts
        (requestAttempt world policy deadlineAt maxApiCalls call) exhausted left number state).1 := by
  refine runAttempts_induction (P := fun left _ _ run => run.1.countP isRequest ≤ left ∧
    AtEach (Disciplined deadlineAt) run.1) (fun _ _ => ⟨le_rfl, atEach_nil⟩)
    (fun left number state events result h => ?_)
    (fun left number state events next rest h hrest => ?_) left number state
  · obtain ⟨hcount, hplaced⟩ := requestAttempt_disciplined h (.inl rfl)
    simp only [List.append_nil] at hplaced
    exact ⟨hcount.trans (Nat.succ_le_succ (Nat.zero_le left)), hplaced⟩
  · obtain ⟨hcount, hplaced⟩ := requestAttempt_disciplined h (.inr ⟨next, rfl⟩)
    refine ⟨?_, atEach_append.mpr ⟨hplaced, ?_⟩⟩
    · rw [List.countP_append]
      omega
    · exact hrest.2.imp fun before event after hevent =>
        ⟨hevent.1.prepend events, hevent.2⟩

/-- A request makes at most the attempts of its policy, each of them before the deadline and under a
timer that ends with it, tries nothing again that must not be, and never sleeps past the deadline. -/
theorem executeGithubRequest_disciplined (world : World Call) {policy : GithubRequestPolicy}
    {resolved : ResolvedPolicy} (hpolicy : resolvePolicy policy = some resolved)
    (maxApiCalls : Option ℕ) (call : Call) (cursor : Cursor) :
    let events := (executeGithubRequest world policy maxApiCalls call cursor).1
    let deadlineAt := world.clock cursor.readings + resolved.deadlineMs
    events.countP isRequest ≤ resolved.maxAttempts ∧ AtEach (Disciplined deadlineAt) events := by
  simp only [executeGithubRequest, hpolicy]
  obtain ⟨hcount, hplaced⟩ := runAttempts_disciplined world resolved
    (world.clock cursor.readings + resolved.deadlineMs) maxApiCalls call
    (fun state => (.error (toControlError (state.2.getD ⟨.unavailable, true, none, none⟩)), state.1))
    resolved.maxAttempts 1 ({ cursor with readings := cursor.readings + 1 }, none)
  refine ⟨?_, atEach_cons.mpr ⟨.of_not_isFinal trivial rfl, ?_⟩⟩
  · rw [List.countP_cons_of_neg (by simp [isRequest])]
    exact hcount
  · exact hplaced.imp fun before event after hevent =>
      ⟨hevent.1.prepend [reads (world.clock cursor.readings)], hevent.2⟩

/-! ## What a request returns -/

theorem not_ok_of_handleFailure {attempt : ℕ} {error : Option JsValue} {cursor next : Cursor}
    {data : JsValue} :
    (handleFailure world policy deadlineAt attempt error cursor).2 ≠ .inl (.ok data, next) := by
  intro h
  simp only [handleFailure] at h
  generalize hback : backOff world policy deadlineAt attempt _ _ = back at h
  obtain ⟨rest, verdict⟩ := back
  rcases backOff_cases hback with ⟨outcome, rfl, error, herror, -⟩ | ⟨next, now, delay, rfl, -⟩
  · obtain rfl := Sum.inl.inj h
    cases herror
  · cases h

/-- The data of an attempt is what its call was answered with. -/
theorem answer_of_requestAttempt {attempt : ℕ} {state : Continuation} {next : Cursor}
    {events : List (RequestEvent Call)} {data : JsValue}
    (h : requestAttempt world policy deadlineAt maxApiCalls call attempt state =
      (events, .inl (.ok data, next))) :
    requests call ∈ events ∧ ∃ n, world.answer n call = .response data := by
  simp only [requestAttempt] at h
  split at h
  · cases h
  · generalize hmake : request world maxApiCalls call _ = make at h
    split at h
    · rename_i data' hdata
      simp only [Prod.mk.injEq, Sum.inl.injEq, Except.ok.injEq] at h
      obtain ⟨rfl, rfl, rfl⟩ := h
      rw [request] at hmake
      split at hmake
      · rw [← hmake] at hdata
        cases hdata
      · rw [← hmake] at hdata ⊢
        exact ⟨by simp, _, hdata⟩
    · cases h
    · exact (not_ok_of_handleFailure (congrArg Prod.snd h)).elim
    · exact (not_ok_of_handleFailure (congrArg Prod.snd h)).elim

/-- What a request returns is what one of its calls was answered with. -/
theorem answer_of_executeGithubRequest {world : World Call} {policy : GithubRequestPolicy}
    {maxApiCalls : Option ℕ} {call : Call} {cursor : Cursor} {data : JsValue}
    (h : (executeGithubRequest world policy maxApiCalls call cursor).2.1 = .ok data) :
    requests call ∈ (executeGithubRequest world policy maxApiCalls call cursor).1 ∧
      ∃ n, world.answer n call = .response data := by
  simp only [executeGithubRequest] at h ⊢
  split at h
  · cases h
  · rename_i resolved _
    have hrun := fun exhausted => @runAttempts_induction _ _ _
      (requestAttempt world resolved (world.clock cursor.readings + resolved.deadlineMs) maxApiCalls
        call) exhausted
      (fun _ _ _ run => (∀ state, ∃ error, (exhausted state).1 = .error error) →
        run.2.1 = .ok data → requests call ∈ run.1 ∧ ∃ n, world.answer n call = .response data)
      (fun number state hexhausted hok => by
        obtain ⟨error, herror⟩ := hexhausted state
        rw [herror] at hok
        cases hok)
      (fun left number state events result hattempt _ hok => by
        obtain ⟨outcome, next⟩ := result
        obtain rfl : outcome = .ok data := hok
        exact answer_of_requestAttempt hattempt)
      (fun left number state events next rest _ hrest hexhausted hok => by
        obtain ⟨hmem, hanswer⟩ := hrest hexhausted hok
        exact ⟨List.mem_append_right events hmem, hanswer⟩)
    obtain ⟨hmem, hanswer⟩ := hrun _ _ _ _ (fun state => ⟨_, rfl⟩) h
    exact ⟨List.mem_cons_of_mem _ hmem, hanswer⟩

end Github

end UnderstandProof
