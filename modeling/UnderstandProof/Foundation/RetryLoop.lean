import Mathlib.Algebra.Order.Ring.Rat
import Mathlib.Tactic.Linarith
import UnderstandProof.Foundation.Attempts

/-!
# Retries under a deadline

What a loop of attempts does beside its result: it reads a clock, arms timers, makes requests
that settle in some outcome, and sleeps between two attempts. `KeepsBudget` says that a run
makes no more requests than it may, none of them at the deadline, that no sleep reaches the
deadline, that nothing is tried again behind a final outcome, and that the run counts its
requests. A run keeps its budget exactly when every attempt that it makes does.
-/

namespace Foundation

inductive RetryEvent (ω : Type*) where
  | reads (time : ℚ)
  | arms (window : ℚ)
  | requests
  | settles (outcome : ω)
  /-- A delay that is no number is `none`. -/
  | sleeps (delay : Option ℚ)
  deriving DecidableEq, Repr

namespace RetryEvent

variable {ω : Type*}

def time? : RetryEvent ω → Option ℚ
  | reads time => some time
  | _ => none

def isRequest : RetryEvent ω → Bool
  | requests => true
  | _ => false

/-- A request or a sleep, the beginning of a retry. -/
def isRetry : RetryEvent ω → Bool
  | requests => true
  | sleeps _ => true
  | _ => false

/-- An event that only reads the clock or arms a timer. -/
def isQuiet : RetryEvent ω → Bool
  | reads _ => true
  | arms _ => true
  | _ => false

/-- The last reading of the clock. -/
def lastReading (events : List (RetryEvent ω)) : Option ℚ := (events.filterMap time?).getLast?

/-- An event that meets the budget, with the events before it and after it. -/
def Disciplined (deadline : ℚ) (isFinal : ω → Bool) (before : List (RetryEvent ω)) :
    RetryEvent ω → List (RetryEvent ω) → Prop
  | requests, _ => ∃ time, lastReading before = some time ∧ time < deadline
  | sleeps delay, _ =>
      ∀ delay' ∈ delay, ∃ time, lastReading before = some time ∧ time + delay' < deadline
  | settles outcome, after =>
      isFinal outcome = true → ∀ event ∈ after, event.isRetry = false
  | _, _ => True

theorem lastReading_append {earlier before : List (RetryEvent ω)}
    (h : (lastReading before).isSome = true) :
    lastReading (earlier ++ before) = lastReading before := by
  unfold lastReading at h ⊢
  rw [List.filterMap_append, List.getLast?_append]
  obtain ⟨time, htime⟩ := Option.isSome_iff_exists.mp h
  rw [htime]
  rfl

theorem lastReading_isSome (time : ℚ) (before : List (RetryEvent ω)) :
    (lastReading (reads time :: before)).isSome = true := by
  simp [lastReading, time?]

section Quiet

variable {events : List (RetryEvent ω)} (h : ∀ event ∈ events, event.isQuiet = true)

include h

theorem countP_of_quiet : events.countP isRequest = 0 := by
  rw [List.countP_eq_zero]
  intro event hevent
  have hquiet := h event hevent
  cases event with
  | reads time => exact Bool.false_ne_true
  | arms window => exact Bool.false_ne_true
  | requests => cases hquiet
  | settles outcome => cases hquiet
  | sleeps delay => cases hquiet

theorem isRetry_of_quiet : ∀ event ∈ events, event.isRetry = false := by
  intro event hevent
  have hquiet := h event hevent
  cases event with
  | reads time => rfl
  | arms window => rfl
  | requests => cases hquiet
  | settles outcome => cases hquiet
  | sleeps delay => cases hquiet

theorem disciplined_of_quiet (deadline : ℚ) (isFinal : ω → Bool)
    (earlier later : List (RetryEvent ω)) :
    AtEach (fun before event after => Disciplined deadline isFinal (earlier ++ before) event
      (after ++ later)) events := by
  intro before event after hevents
  have hquiet := h event (by rw [hevents]; simp)
  cases event with
  | reads time => trivial
  | arms window => trivial
  | requests => cases hquiet
  | settles outcome => cases hquiet
  | sleeps delay => cases hquiet

end Quiet

end RetryEvent

open RetryEvent

/-- The end of an attempt that may be tried again: the last attempt gives up, a delay that
reaches the deadline comes too late, and any other one is slept. -/
def backOff {ω σ β : Type*} (maxAttempts : ℕ) (deadline time : ℚ) (delay : Option ℚ)
    (attempt : ℕ) (exhausted late : β) (next : σ) : List (RetryEvent ω) × (β ⊕ σ) :=
  if attempt = maxAttempts then ([], .inl exhausted)
  else if ∃ delay' ∈ delay, deadline - time ≤ delay' then ([.reads time], .inl late)
  else ([.reads time, .sleeps delay], .inr next)

/-- The events of an attempt up to the outcome of its request. -/
def requested {ω : Type*} (front middle : List (RetryEvent ω)) (outcome : ω) :
    List (RetryEvent ω) :=
  front ++ .requests :: (middle ++ [.settles outcome])

/-- There is no further attempt. -/
def GivesUp (maxAttempts : ℕ) (deadline time : ℚ) (delay : Option ℚ) (attempt : ℕ) : Prop :=
  attempt = maxAttempts ∨ ∃ delay' ∈ delay, deadline - time ≤ delay'

section Tails

variable {ω σ β : Type*} {maxAttempts attempt : ℕ} {deadline time : ℚ} {delay : Option ℚ}
  {exhausted late : β} {next : σ} {isFinal : ω → Bool}

/-- The back-off gives up, with a quiet end, or sleeps short of the deadline and hands on. -/
theorem backOff_cases (maxAttempts attempt : ℕ) (deadline time : ℚ) (delay : Option ℚ)
    (exhausted late : β) (next : σ) :
    (GivesUp maxAttempts deadline time delay attempt ∧
      ∃ events outcome, (outcome = exhausted ∨ outcome = late) ∧
        (∀ event ∈ events, event.isQuiet = true) ∧
        backOff (ω := ω) maxAttempts deadline time delay attempt exhausted late next =
          (events, .inl outcome)) ∨
    ¬ GivesUp maxAttempts deadline time delay attempt ∧
      (∀ delay' ∈ delay, time + delay' < deadline) ∧
      backOff (ω := ω) maxAttempts deadline time delay attempt exhausted late next =
        ([.reads time, .sleeps delay], .inr next) := by
  unfold backOff GivesUp
  split
  · next hlast => exact .inl ⟨.inl hlast, [], exhausted, .inl rfl, by simp, rfl⟩
  · next hlast =>
    split
    · next hlate =>
      refine .inl ⟨.inr hlate, [.reads time], late, .inr rfl, ?_, rfl⟩
      simp [isQuiet]
    · next hlate =>
      refine .inr ⟨fun h => h.elim hlast hlate, fun delay' hdelay => ?_, rfl⟩
      have hlt := not_le.mp fun hle => hlate ⟨delay', hdelay, hle⟩
      linarith

/-- A sleep right behind a reading from which it does not reach the deadline. -/
theorem disciplined_sleep (hdelay : ∀ delay' ∈ delay, time + delay' < deadline)
    (earlier : List (RetryEvent ω)) :
    AtEach (fun before => Disciplined deadline isFinal (earlier ++ before))
      [.reads time, .sleeps delay] := by
  refine atEach_cons.mpr ⟨trivial, atEach_cons.mpr ⟨?_, atEach_nil⟩⟩
  intro delay' hmem
  exact ⟨time, by simp [lastReading, time?], hdelay delay' hmem⟩

/-- The events of an attempt that makes its request: before it and while it is under way the
clock is read and timers are armed, and behind its outcome stands a disciplined tail. -/
theorem disciplined_requested_iff {front middle tail : List (RetryEvent ω)} {outcome : ω}
    (hfront : ∀ event ∈ front, event.isQuiet = true)
    (hmiddle : ∀ event ∈ middle, event.isQuiet = true) (hreading : lastReading front = some time)
    (htail : AtEach (fun before => Disciplined deadline isFinal
      (requested front middle outcome ++ before)) tail) :
    AtEach (Disciplined deadline isFinal) (requested front middle outcome ++ tail) ↔
      time < deadline ∧ (isFinal outcome = true → ∀ event ∈ tail, event.isRetry = false) := by
  unfold requested at htail ⊢
  constructor
  · intro h
    refine ⟨?_, fun hfinal => ?_⟩
    · obtain ⟨last, hlast, hlt⟩ := h front .requests (middle ++ [.settles outcome] ++ tail)
        (by simp)
      rw [hreading] at hlast
      cases hlast
      exact hlt
    · exact h (front ++ .requests :: middle) (.settles outcome) tail (by simp) hfinal
  · rintro ⟨hlt, hfinal⟩
    refine atEach_append.mpr ⟨atEach_append.mpr ⟨?_, atEach_cons.mpr ⟨?_, ?_⟩⟩, htail⟩
    · simpa using disciplined_of_quiet hfront deadline isFinal [] _
    · rw [List.append_nil]
      exact ⟨time, hreading, hlt⟩
    · refine atEach_append.mpr ⟨?_, atEach_cons.mpr ⟨?_, atEach_nil⟩⟩
      · refine AtEach.imp (fun before event after h => ?_)
          (disciplined_of_quiet hmiddle deadline isFinal (front ++ [.requests])
            ([.settles outcome] ++ tail))
        rw [List.append_assoc, ← List.append_assoc after] at h
        exact h
      · simpa [Disciplined] using hfinal

end Tails

section Runs

variable {ω σ β : Type*} (attempt : ℕ → σ → List (RetryEvent ω) × (β ⊕ σ)) (exhausted : σ → β)
  (deadline : ℚ) (isFinal : ω → Bool) (count : β → Option ℕ)

/-- A run of at most `maxAttempts` attempts with its result. -/
structure KeepsBudget (maxAttempts : ℕ) (run : List (RetryEvent ω) × β) : Prop where
  requests : run.1.countP isRequest ≤ maxAttempts
  disciplined : AtEach (Disciplined deadline isFinal) run.1
  counts : ∀ n ∈ count run.2, n = run.1.countP isRequest

/-- The attempts that a run makes, each with the state in which it is made. -/
def enteredAttempts : ℕ → ℕ → σ → List (ℕ × σ)
  | 0, _, _ => []
  | left + 1, number, state =>
      (number, state) ::
        match (attempt number state).2 with
        | .inl _ => []
        | .inr next => enteredAttempts left (number + 1) next

/-- What every attempt does: it starts with a reading of the clock and makes one request at
most, and exactly one and a sleep at its end when it hands on. -/
structure IsAttempt (result : List (RetryEvent ω) × (β ⊕ σ)) : Prop where
  starts : ∃ time rest, result.1 = .reads time :: rest
  atMostOne : result.1.countP isRequest ≤ 1
  handsOn : ∀ next, result.2 = .inr next → result.1.countP isRequest = 1 ∧
    ∃ front delay, result.1 = front ++ [.sleeps delay]

/-- An attempt that keeps the budget. -/
structure KeepsAttempt (number : ℕ) (result : List (RetryEvent ω) × (β ⊕ σ)) : Prop where
  disciplined : AtEach (Disciplined deadline isFinal) result.1
  counts : ∀ outcome, result.2 = .inl outcome →
    ∀ n ∈ count outcome, n = number - 1 + result.1.countP isRequest

variable {attempt exhausted deadline isFinal count}

section Requested

variable {front middle reading : List (RetryEvent ω)} {outcome : ω} {entry time : ℚ}
  {delay : Option ℚ} {maxAttempts number : ℕ}

/-- An attempt that stops before its request, at its reading of the clock. -/
theorem isAttempt_stopped (result : β) :
    IsAttempt (σ := σ) ([RetryEvent.reads (ω := ω) time], .inl result) :=
  ⟨⟨time, [], rfl⟩, by simp [isRequest], fun _ hnext => nomatch hnext⟩

theorem keepsAttempt_stopped_iff (result : β) :
    KeepsAttempt (σ := σ) deadline isFinal count number
        ([RetryEvent.reads (ω := ω) time], .inl result) ↔
      ∀ n ∈ count result, n = number - 1 := by
  constructor
  · exact fun h n hn => h.counts result rfl n hn
  · intro h
    refine ⟨by simp [Disciplined], fun result' heq n hn => ?_⟩
    cases heq
    exact h n hn

variable (hfront : ∀ event ∈ front, event.isQuiet = true)
  (hmiddle : ∀ event ∈ middle, event.isQuiet = true)

include hfront hmiddle

theorem countP_requested :
    (requested front middle outcome).countP isRequest = 1 := by
  rw [requested, List.countP_append, countP_of_quiet hfront, List.countP_cons_of_pos rfl,
    List.countP_append, countP_of_quiet hmiddle]
  rfl

variable (hstarts : ∃ first rest, front = .reads first :: rest)

section

include hstarts

/-- An attempt that ends behind its request. -/
theorem isAttempt_requested (result : β) :
    IsAttempt (σ := σ) (requested front middle outcome, .inl result) := by
  obtain ⟨first, rest, rfl⟩ := hstarts
  exact ⟨⟨first, _, rfl⟩, (countP_requested hfront hmiddle).le, fun _ hnext => nomatch hnext⟩

/-- An attempt whose request is followed by a reading and the back-off. -/
theorem isAttempt_backOff (hreading : ∀ event ∈ reading, event.isQuiet = true)
    (exhausted late : β) (next : σ) :
    IsAttempt (requested front middle outcome ++
      (reading ++ (backOff maxAttempts deadline time delay number exhausted late next).1),
      (backOff (ω := ω) maxAttempts deadline time delay number exhausted late next).2) := by
  obtain ⟨first, rest, rfl⟩ := hstarts
  have hone := @countP_requested ω (.reads first :: rest) middle outcome hfront hmiddle
  rcases backOff_cases (ω := ω) maxAttempts number deadline time delay exhausted late next with
    ⟨-, tail, result, -, hquiet, hback⟩ | ⟨-, -, hback⟩
  · rw [hback]
    refine ⟨⟨first, _, rfl⟩, ?_, fun _ hnext => nomatch hnext⟩
    dsimp only
    rw [List.countP_append, List.countP_append, hone, countP_of_quiet hreading,
      countP_of_quiet hquiet]
  · rw [hback]
    have hcount : (requested (.reads first :: rest) middle outcome ++
        (reading ++ [RetryEvent.reads time, .sleeps delay])).countP isRequest = 1 := by
      rw [List.countP_append, List.countP_append, hone, countP_of_quiet hreading]
      rfl
    refine ⟨⟨first, _, rfl⟩, hcount.le, fun _ _ => ⟨hcount, ?_⟩⟩
    refine ⟨requested (.reads first :: rest) middle outcome ++
      (reading ++ [.reads time]), delay, ?_⟩
    simp only [List.append_assoc, List.cons_append, List.nil_append]

end

variable (hentry : lastReading front = some entry) (hnumber : 1 ≤ number)

include hentry hnumber

/-- An attempt that ends behind its request keeps the budget when it made it in time. -/
theorem keepsAttempt_requested_iff {result : β} (hcount : ∀ n ∈ count result, n = number) :
    KeepsAttempt (σ := σ) deadline isFinal count number
        (requested front middle outcome, .inl result) ↔
      entry < deadline := by
  have hiff := @disciplined_requested_iff ω deadline entry isFinal front middle [] outcome hfront
    hmiddle hentry atEach_nil
  rw [List.append_nil] at hiff
  constructor
  · exact fun h => (hiff.mp h.disciplined).1
  · intro hlt
    refine ⟨hiff.mpr ⟨hlt, fun _ event hevent => nomatch hevent⟩, fun result' heq n hn => ?_⟩
    cases heq
    dsimp only
    rw [countP_requested hfront hmiddle, hcount n hn]
    omega

/-- An attempt that goes on to the back-off keeps the budget when it made its request in time and
gives up behind a final outcome. -/
theorem keepsAttempt_backOff_iff (hreading : ∀ event ∈ reading, event.isQuiet = true)
    {exhausted late : β} (hexhausted : ∀ n ∈ count exhausted, n = number)
    (hlate : ∀ n ∈ count late, n = number) (next : σ) :
    KeepsAttempt deadline isFinal count number
        (requested front middle outcome ++
          (reading ++ (backOff maxAttempts deadline time delay number exhausted late next).1),
          (backOff (ω := ω) maxAttempts deadline time delay number exhausted late next).2) ↔
      entry < deadline ∧
        (isFinal outcome = true → GivesUp maxAttempts deadline time delay number) := by
  rcases backOff_cases (ω := ω) maxAttempts number deadline time delay exhausted late next with
    ⟨hgives, tail, result, hresult, hquiet, hback⟩ | ⟨hgives, hdelay, hback⟩
  · rw [hback]
    have hall : ∀ event ∈ reading ++ tail, event.isQuiet = true :=
      List.forall_mem_append.mpr ⟨hreading, hquiet⟩
    have hiff := @disciplined_requested_iff ω deadline entry isFinal front middle (reading ++ tail)
      outcome hfront hmiddle hentry (by
        simpa using disciplined_of_quiet hall deadline isFinal
          (requested front middle outcome) [])
    constructor
    · exact fun h => ⟨(hiff.mp h.disciplined).1, fun _ => hgives⟩
    · rintro ⟨hlt, -⟩
      refine ⟨hiff.mpr ⟨hlt, fun _ => isRetry_of_quiet hall⟩, fun result' heq n hn => ?_⟩
      cases heq
      have hnumber' : n = number := by
        rcases hresult with rfl | rfl
        · exact hexhausted n hn
        · exact hlate n hn
      dsimp only
      rw [List.countP_append, countP_requested hfront hmiddle, countP_of_quiet hall, hnumber']
      omega
  · rw [hback]
    have htail : AtEach (fun before => Disciplined deadline isFinal
        (requested front middle outcome ++ before))
        (reading ++ [.reads time, .sleeps delay]) := by
      refine atEach_append.mpr ⟨disciplined_of_quiet hreading deadline isFinal _ _, ?_⟩
      have hsleep := @disciplined_sleep ω deadline time delay isFinal hdelay
        (requested front middle outcome ++ reading)
      simpa only [List.append_assoc] using hsleep
    have hiff := disciplined_requested_iff hfront hmiddle hentry htail
    have hsleeps : .sleeps delay ∈ reading ++ [.reads time, .sleeps delay] := by simp
    constructor
    · intro h
      obtain ⟨hlt, hfinal⟩ := hiff.mp h.disciplined
      exact ⟨hlt, fun hout => nomatch hfinal hout _ hsleeps⟩
    · rintro ⟨hlt, hfinal⟩
      exact ⟨hiff.mpr ⟨hlt, fun hout => absurd (hfinal hout) hgives⟩, fun _ heq => nomatch heq⟩

end Requested

/-- The events of an attempt are disciplined among others when they are on their own. -/
theorem IsAttempt.disciplined_iff {result : List (RetryEvent ω) × (β ⊕ σ)}
    (h : IsAttempt result) (earlier : List (RetryEvent ω)) {later : List (RetryEvent ω)}
    (hlater : ∀ outcome, result.2 = .inl outcome → later = []) :
    AtEach (fun before event after =>
      Disciplined deadline isFinal (earlier ++ before) event (after ++ later)) result.1 ↔
    AtEach (Disciplined deadline isFinal) result.1 := by
  obtain ⟨time, rest, hstarts⟩ := h.starts
  have hreading : ∀ before event after, result.1 = before ++ event :: after →
      before = [] ∧ event = .reads time ∨ lastReading (earlier ++ before) = lastReading before := by
    intro before event after hevents
    cases before with
    | nil =>
        rw [hstarts] at hevents
        cases hevents
        exact .inl ⟨rfl, rfl⟩
    | cons first before =>
        rw [hstarts] at hevents
        cases hevents
        exact .inr (lastReading_append (lastReading_isSome time before))
  -- behind a settled attempt that hands on there is a sleep of its own
  have hretry : ∀ before outcome after, result.1 = before ++ .settles outcome :: after →
      ((∀ event ∈ after ++ later, event.isRetry = false) ↔
        ∀ event ∈ after, event.isRetry = false) := by
    intro before outcome after hevents
    cases hverdict : result.2 with
    | inl result => rw [hlater result hverdict, List.append_nil]
    | inr next =>
        obtain ⟨-, front, delay, hsleep⟩ := h.handsOn next hverdict
        have hmem : .sleeps delay ∈ after := by
          rcases List.eq_nil_or_concat after with rfl | ⟨after, last, rfl⟩
          · rw [hsleep] at hevents
            exact nomatch (List.append_singleton_inj.mp hevents).2
          · rw [hsleep, List.concat_eq_append, ← List.cons_append, ← List.append_assoc] at hevents
            obtain ⟨-, rfl⟩ := List.append_singleton_inj.mp hevents
            simp
        exact ⟨fun hall => (nomatch hall _ (List.mem_append_left _ hmem)),
          fun hall => (nomatch hall _ hmem)⟩
  have hsame : ∀ before event after, result.1 = before ++ event :: after →
      (Disciplined deadline isFinal (earlier ++ before) event (after ++ later) ↔
        Disciplined deadline isFinal before event after) := by
    intro before event after hevents
    rcases hreading before event after hevents with ⟨rfl, rfl⟩ | hlast
    · exact Iff.rfl
    · cases event with
      | reads time => exact Iff.rfl
      | arms window => exact Iff.rfl
      | requests =>
          simp only [Disciplined]
          rw [hlast]
      | sleeps delay =>
          simp only [Disciplined]
          rw [hlast]
      | settles outcome =>
          simp only [Disciplined]
          rw [hretry before outcome after hevents]
  exact ⟨fun hall before event after hevents =>
      (hsame before event after hevents).mp (hall before event after hevents),
    fun hall before event after hevents =>
      (hsame before event after hevents).mpr (hall before event after hevents)⟩

theorem enteredAttempts_succ (left number : ℕ) (state : σ) :
    enteredAttempts attempt (left + 1) number state = (number, state) ::
      match (attempt number state).2 with
      | .inl _ => []
      | .inr next => enteredAttempts attempt left (number + 1) next := rfl

/-- The events of a run are disciplined when those of each of its attempts are. -/
theorem disciplined_run_iff (hattempt : ∀ number state, IsAttempt (attempt number state))
    (left number : ℕ) (state : σ) (earlier : List (RetryEvent ω)) :
    AtEach (fun before => Disciplined deadline isFinal (earlier ++ before))
        (runAttempts attempt exhausted left number state).1 ↔
      ∀ entered ∈ enteredAttempts attempt left number state,
        AtEach (Disciplined deadline isFinal) (attempt entered.1 entered.2).1 := by
  induction left generalizing number state earlier with
  | zero => simp [runAttempts, enteredAttempts]
  | succ left ih =>
      have hshape := hattempt number state
      rw [runAttempts, enteredAttempts_succ]
      cases hresult : attempt number state with
      | mk events verdict =>
          rw [hresult] at hshape
          cases verdict with
          | inl outcome =>
              have hown := @IsAttempt.disciplined_iff ω σ β deadline isFinal _ hshape earlier []
                (fun _ _ => rfl)
              simp only [List.append_nil] at hown
              simp [hown, hresult]
          | inr next =>
              have hown := @IsAttempt.disciplined_iff ω σ β deadline isFinal _ hshape earlier
                (runAttempts attempt exhausted left (number + 1) next).1 (fun _ h => by cases h)
              have hrest := ih (number + 1) next (earlier ++ events)
              simp only [List.append_assoc] at hrest
              simp only [List.forall_mem_cons, hresult]
              rw [atEach_append, hown, hrest]

/-- A run makes one request for each attempt at most, and counts its requests when each of its
attempts does. -/
theorem count_run_iff (hattempt : ∀ number state, IsAttempt (attempt number state))
    {maxAttempts : ℕ} (hexhausted : ∀ state, count (exhausted state) = some maxAttempts)
    (left number : ℕ) (state : σ) (hnumber : 1 ≤ number) (hleft : number + left = maxAttempts + 1) :
    (runAttempts attempt exhausted left number state).1.countP isRequest ≤ left ∧
    ((∀ n ∈ count (runAttempts attempt exhausted left number state).2,
        n = number - 1 + (runAttempts attempt exhausted left number state).1.countP isRequest) ↔
      ∀ entered ∈ enteredAttempts attempt left number state,
        ∀ outcome, (attempt entered.1 entered.2).2 = .inl outcome → ∀ n ∈ count outcome,
          n = entered.1 - 1 + (attempt entered.1 entered.2).1.countP isRequest) := by
  induction left generalizing number state with
  | zero =>
      refine ⟨le_rfl, ?_⟩
      simp only [runAttempts, enteredAttempts, hexhausted, Option.mem_some_iff,
        List.countP_nil, List.not_mem_nil, false_implies, implies_true, iff_true]
      omega
  | succ left ih =>
      have hshape := hattempt number state
      rw [runAttempts, enteredAttempts_succ]
      cases hresult : attempt number state with
      | mk events verdict =>
          rw [hresult] at hshape
          cases verdict with
          | inl outcome =>
              refine ⟨hshape.atMostOne.trans (by omega), ?_⟩
              simp [hresult]
          | inr next =>
              obtain ⟨hle, hiff⟩ := ih (number + 1) next (by omega) (by omega)
              obtain ⟨hone, -⟩ := hshape.handsOn next rfl
              dsimp only at hone ⊢
              rw [List.countP_append, hone]
              refine ⟨by omega, ?_⟩
              simp only [List.forall_mem_cons, hresult, reduceCtorEq, false_implies, implies_true,
                true_and]
              rw [← hiff]
              have hsum : ∀ made, number - 1 + (1 + made) = number + 1 - 1 + made := by omega
              simp only [hsum]

/-- A run keeps its budget exactly when every attempt that it makes does. -/
theorem keepsBudget_iff (hattempt : ∀ number state, IsAttempt (attempt number state))
    {maxAttempts : ℕ} (hexhausted : ∀ state, count (exhausted state) = some maxAttempts)
    (start : σ) :
    KeepsBudget deadline isFinal count maxAttempts
        (runAttempts attempt exhausted maxAttempts 1 start) ↔
      ∀ entered ∈ enteredAttempts attempt maxAttempts 1 start,
        KeepsAttempt deadline isFinal count entered.1 (attempt entered.1 entered.2) := by
  have hdisciplined := @disciplined_run_iff ω σ β attempt exhausted deadline isFinal hattempt
    maxAttempts 1 start []
  obtain ⟨hle, hcount⟩ := @count_run_iff ω σ β attempt exhausted count hattempt maxAttempts
    hexhausted maxAttempts 1 start le_rfl (by omega)
  simp only [Nat.sub_self, Nat.zero_add] at hcount
  constructor
  · exact fun h entered hentered =>
      ⟨hdisciplined.mp h.disciplined entered hentered, hcount.mp h.counts entered hentered⟩
  · exact fun h => ⟨hle, hdisciplined.mpr fun entered hentered => (h entered hentered).disciplined,
      hcount.mpr fun entered hentered => (h entered hentered).counts⟩

theorem le_of_mem_enteredAttempts {left number : ℕ} {state : σ} {entered : ℕ × σ}
    (h : entered ∈ enteredAttempts attempt left number state) : number ≤ entered.1 := by
  induction left generalizing number state with
  | zero => cases h
  | succ left ih =>
      rw [enteredAttempts_succ] at h
      rcases List.mem_cons.mp h with rfl | h
      · exact le_rfl
      · cases hverdict : (attempt number state).2 with
        | inl outcome =>
            rw [hverdict] at h
            cases h
        | inr next =>
            rw [hverdict] at h
            exact (Nat.le_succ number).trans (ih h)

/-- A run keeps its budget exactly when every attempt that it makes meets the condition under
which an attempt does. -/
theorem keepsBudget_iff_forall (hattempt : ∀ number state, IsAttempt (attempt number state))
    {maxAttempts : ℕ} (hexhausted : ∀ state, count (exhausted state) = some maxAttempts)
    {condition : ℕ → σ → Prop}
    (hcondition : ∀ number state, 1 ≤ number →
      (KeepsAttempt deadline isFinal count number (attempt number state) ↔
        condition number state))
    (start : σ) :
    KeepsBudget deadline isFinal count maxAttempts
        (runAttempts attempt exhausted maxAttempts 1 start) ↔
      ∀ entered ∈ enteredAttempts attempt maxAttempts 1 start, condition entered.1 entered.2 := by
  rw [keepsBudget_iff hattempt hexhausted]
  exact forall₂_congr fun entered hentered =>
    hcondition entered.1 entered.2 (le_of_mem_enteredAttempts hentered)

end Runs

end Foundation
