import Mathlib.Data.List.Induction

/-!
# Histories of a state machine

A machine with a total step function is driven by the list of the events it has seen;
`after` is the state they lead to. `Once` says that some event of a history met a
condition in the state in which it was taken, and `Throughout` that every event did.
An invariant may speak about the history as well as about the state, and is carried
to the end of a history by one induction.
-/

namespace Foundation

variable {σ α : Type*} (step : σ → α → σ) (start : σ)

/-- The state that a list of events leads to. -/
def after (events : List α) : σ := events.foldl step start

/-- Some event met the condition in the state in which it was taken. -/
def Once (p : σ → α → Prop) (events : List α) : Prop :=
  ∃ front event rest, events = front ++ event :: rest ∧ p (after step start front) event

/-- Every event met the condition in the state in which it was taken. -/
def Throughout (p : σ → α → Prop) (events : List α) : Prop :=
  ∀ front event rest, events = front ++ event :: rest → p (after step start front) event

/-- No event met the condition after another one had met it. -/
def AtMostOnce (p : σ → α → Prop) (events : List α) : Prop :=
  ∀ front event rest, events = front ++ event :: rest → p (after step start front) event →
    ¬ Once step start p front

variable {step start} {p q : σ → α → Prop} {events : List α} {event : α}

@[simp] theorem after_nil : after step start [] = start := rfl

@[simp] theorem after_concat :
    after step start (events ++ [event]) = step (after step start events) event := by
  simp [after]

theorem after_append {more : List α} :
    after step start (events ++ more) = after step (after step start events) more := by
  simp [after]

theorem after_cons {rest : List α} :
    after step start (event :: rest) = after step (step start event) rest := rfl

@[simp] theorem not_once_nil : ¬ Once step start p [] := by
  rintro ⟨front, event, rest, h, -⟩
  cases front <;> cases h

theorem once_concat :
    Once step start p (events ++ [event]) ↔
      Once step start p events ∨ p (after step start events) event := by
  constructor
  · rintro ⟨front, found, rest, h, hp⟩
    rcases List.eq_nil_or_concat rest with rfl | ⟨rest, last, rfl⟩
    · obtain ⟨rfl, rfl⟩ := List.append_singleton_inj.mp h
      exact .inr hp
    · rw [List.concat_eq_append, ← List.cons_append, ← List.append_assoc] at h
      obtain ⟨rfl, -⟩ := List.append_singleton_inj.mp h
      exact .inl ⟨front, found, rest, rfl, hp⟩
  · rintro (⟨front, found, rest, rfl, hp⟩ | hp)
    · exact ⟨front, found, rest ++ [event], by simp, hp⟩
    · exact ⟨events, event, [], rfl, hp⟩

theorem throughout_nil : Throughout step start p [] := by
  intro front event rest h
  cases front <;> cases h

theorem throughout_concat :
    Throughout step start p (events ++ [event]) ↔
      Throughout step start p events ∧ p (after step start events) event := by
  constructor
  · intro h
    exact ⟨fun front found rest hevents => h front found (rest ++ [event]) (by simp [hevents]),
      h events event [] rfl⟩
  · rintro ⟨hevents, hp⟩ front found rest h
    rcases List.eq_nil_or_concat rest with rfl | ⟨rest, last, rfl⟩
    · obtain ⟨rfl, rfl⟩ := List.append_singleton_inj.mp h
      exact hp
    · rw [List.concat_eq_append, ← List.cons_append, ← List.append_assoc] at h
      obtain ⟨rfl, -⟩ := List.append_singleton_inj.mp h
      exact hevents front found rest rfl

/-- What every event of a history met, every event of its front met. -/
theorem throughout_front {front rest : List α}
    (h : Throughout step start p (front ++ event :: rest)) : Throughout step start p front :=
  fun before found more hmore => h before found (more ++ event :: rest)
    (by rw [hmore, List.append_assoc, List.cons_append])

theorem Throughout.imp (himp : ∀ s e, p s e → q s e) (h : Throughout step start p events) :
    Throughout step start q events :=
  fun front event rest hevents => himp _ _ (h front event rest hevents)

/-- An invariant of histories and states that every admitted event keeps holds at the
end of a history of admitted events. -/
theorem after_invariant {I : List α → σ → Prop} (hstart : I [] start)
    (hstep : ∀ events event, I events (after step start events) →
      p (after step start events) event →
      I (events ++ [event]) (step (after step start events) event))
    (h : Throughout step start p events) : I events (after step start events) := by
  induction events using List.reverseRecOn with
  | nil => exact hstart
  | append_singleton events event ih =>
      obtain ⟨hevents, hp⟩ := throughout_concat.mp h
      rw [after_concat]
      exact hstep events event (ih hevents) hp

/-- An invariant of the states that every event keeps holds after every history. -/
theorem after_keeps {I : σ → Prop} (hstart : I start) (hstep : ∀ s e, I s → I (step s e))
    (events : List α) : I (after step start events) := by
  induction events using List.reverseRecOn with
  | nil => exact hstart
  | append_singleton events event ih =>
      rw [after_concat]
      exact hstep _ _ ih

/-- What an event of a history brings about, and every later event keeps, holds at the end. -/
theorem after_of_once {I J : σ → Prop} (hstart : I start) (hI : ∀ s e, I s → I (step s e))
    (hp : ∀ s e, I s → p s e → J (step s e)) (hJ : ∀ s e, J s → J (step s e))
    (h : Once step start p events) : J (after step start events) := by
  obtain ⟨front, event, rest, rfl, hevent⟩ := h
  rw [after_append, after_cons]
  exact after_keeps (hp _ _ (after_keeps hstart hI front) hevent) hJ rest

/-- Runs through a history and checks every event in the state in which it is taken. -/
def checkAll (step : σ → α → σ) (p : σ → α → Bool) : σ → List α → Bool
  | _, [] => true
  | s, event :: rest => p s event && checkAll step p (step s event) rest

theorem throughout_cons {start : σ} {rest : List α} :
    Throughout step start p (event :: rest) ↔
      p start event ∧ Throughout step (step start event) p rest := by
  constructor
  · intro h
    refine ⟨h [] event rest rfl, fun front found more hrest => ?_⟩
    exact h (event :: front) found more (by rw [hrest, List.cons_append])
  · rintro ⟨hp, hrest⟩ front found more h
    cases front with
    | nil =>
        cases h
        exact hp
    | cons first front =>
        cases h
        exact hrest front found more rfl

theorem throughout_append {start : σ} {more : List α} :
    Throughout step start p (events ++ more) ↔
      Throughout step start p events ∧ Throughout step (after step start events) p more := by
  induction events generalizing start with
  | nil => exact ⟨fun h => ⟨throughout_nil, h⟩, fun h => h.2⟩
  | cons first events ih =>
      rw [List.cons_append, throughout_cons, throughout_cons, ih, and_assoc, after_cons]

/-- The check decides whether every event met its condition. -/
theorem throughout_iff_checkAll {p : σ → α → Bool} {start : σ} {events : List α} :
    Throughout step start (fun s e => p s e = true) events ↔
      checkAll step p start events = true := by
  induction events generalizing start with
  | nil => exact ⟨fun _ => rfl, fun _ => throughout_nil⟩
  | cons event rest ih => rw [throughout_cons, ih, checkAll, Bool.and_eq_true]

/-- No event met the condition when each failed it. -/
theorem not_once_of_throughout (h : Throughout step start (fun s e => ¬ p s e) events) :
    ¬ Once step start p events := by
  rintro ⟨front, event, rest, hevents, hp⟩
  exact h front event rest hevents hp

end Foundation
