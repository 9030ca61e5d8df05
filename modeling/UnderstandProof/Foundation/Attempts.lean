import Mathlib.Data.List.Basic
import Mathlib.Logic.Basic

/-!
# Bounded attempts

Attempts are made until one gives a result or their number is used up. Every attempt
leaves events behind, and the next one starts from the state that it hands on. A
condition on the events of a run looks at an event, at what came before it and at what
came after it; `AtEach` says that every event meets it.
-/

namespace Foundation

variable {σ α β : Type*}

/-- Makes at most `left` attempts, numbered from `number` on. -/
def runAttempts (attempt : ℕ → σ → List α × (β ⊕ σ)) (exhausted : σ → β) :
    ℕ → ℕ → σ → List α × β
  | 0, _, state => ([], exhausted state)
  | left + 1, number, state =>
      match attempt number state with
      | (events, .inl result) => (events, result)
      | (events, .inr next) =>
          let rest := runAttempts attempt exhausted left (number + 1) next
          (events ++ rest.1, rest.2)

/-- What the last attempt establishes, and every earlier one carries back, holds of a run. -/
theorem runAttempts_induction {attempt : ℕ → σ → List α × (β ⊕ σ)} {exhausted : σ → β}
    {P : ℕ → ℕ → σ → List α × β → Prop}
    (hexhausted : ∀ number state, P 0 number state ([], exhausted state))
    (hstop : ∀ left number state events result, attempt number state = (events, .inl result) →
      P (left + 1) number state (events, result))
    (hnext : ∀ left number state events next rest,
      attempt number state = (events, .inr next) → P left (number + 1) next rest →
      P (left + 1) number state (events ++ rest.1, rest.2))
    (left number : ℕ) (state : σ) :
    P left number state (runAttempts attempt exhausted left number state) := by
  induction left generalizing number state with
  | zero => exact hexhausted number state
  | succ left ih =>
      rw [runAttempts]
      split
      · rename_i events result h
        exact hstop left number state events result h
      · rename_i events next h
        exact hnext left number state events next _ h (ih (number + 1) next)

/-! ## Conditions on every event -/

/-- Every event meets the condition, with the events before it and after it. -/
def AtEach (P : List α → α → List α → Prop) (events : List α) : Prop :=
  ∀ before event after, events = before ++ event :: after → P before event after

variable {P : List α → α → List α → Prop}

@[simp] theorem atEach_nil : AtEach P [] := by
  intro before event after h
  cases before <;> cases h

@[simp] theorem atEach_cons {event : α} {events : List α} :
    AtEach P (event :: events) ↔
      P [] event events ∧ AtEach (fun before => P (event :: before)) events := by
  constructor
  · intro h
    exact ⟨h [] event events rfl,
      fun before found after hevents => h (event :: before) found after (by rw [hevents]; rfl)⟩
  · rintro ⟨hfirst, hrest⟩ before found after h
    cases before with
    | nil =>
        cases h
        exact hfirst
    | cons first before =>
        cases h
        exact hrest before found after rfl

theorem atEach_append {first second : List α} :
    AtEach P (first ++ second) ↔
      AtEach (fun before event after => P before event (after ++ second)) first ∧
        AtEach (fun before => P (first ++ before)) second := by
  induction first generalizing P with
  | nil => simp
  | cons event first ih =>
      rw [List.cons_append, atEach_cons, atEach_cons, ih, and_assoc]
      rfl

theorem AtEach.imp {Q : List α → α → List α → Prop} {events : List α}
    (himp : ∀ before event after, P before event after → Q before event after)
    (h : AtEach P events) : AtEach Q events :=
  fun before event after hevents => himp _ _ _ (h before event after hevents)

end Foundation
