import Mathlib.Data.List.Induction

/-!
# Runs of a labelled transition relation

`Run step s l t` says that the labels of `l`, taken in order, lead from `s` to
`t`. A run is built from its last step, so an invariant that one step keeps is
carried to the end of a run by one induction, and a reflexive and transitive
relation that one step respects relates the two ends of a run.
-/

namespace Foundation

variable {σ α : Type*} {step : σ → α → σ → Prop}

/-- `Run step s l t`: the labels of `l` lead from `s` to `t`. -/
inductive Run (step : σ → α → σ → Prop) (s : σ) : List α → σ → Prop
  | nil : Run step s [] s
  | snoc {l : List α} {t u : σ} {a : α} :
      Run step s l t → step t a u → Run step s (l ++ [a]) u

namespace Run

theorem single {s t : σ} {a : α} (h : step s a t) : Run step s [a] t :=
  Run.snoc (l := []) Run.nil h

theorem append {s t u : σ} {l m : List α} (h : Run step s l t)
    (h' : Run step t m u) : Run step s (l ++ m) u := by
  induction h' with
  | nil => simpa using h
  | snoc _ hstep ih =>
      rw [← List.append_assoc]
      exact Run.snoc ih hstep

theorem cons {s t u : σ} {a : α} {l : List α} (h : step s a t)
    (h' : Run step t l u) : Run step s (a :: l) u :=
  (single h).append h'

/-- A run splits wherever its label list does. -/
theorem split {s u : σ} {l m : List α} (h : Run step s (l ++ m) u) :
    ∃ t, Run step s l t ∧ Run step t m u := by
  induction m using List.reverseRecOn generalizing u with
  | nil => exact ⟨u, by simpa using h, Run.nil⟩
  | append_singleton m a ih =>
      rw [← List.append_assoc] at h
      generalize hk : l ++ m ++ [a] = k at h
      cases h with
      | nil => simp at hk
      | snoc hrun hstep =>
          obtain ⟨rfl, rfl⟩ := List.append_singleton_inj.mp hk
          obtain ⟨t, hl, hm⟩ := ih hrun
          exact ⟨t, hl, Run.snoc hm hstep⟩

/-- An invariant that every step keeps holds at the end of a run. -/
theorem invariant {I : σ → Prop} (hstep : ∀ s a t, I s → step s a t → I t)
    {s t : σ} {l : List α} (h : Run step s l t) (hs : I s) : I t := by
  induction h with
  | nil => exact hs
  | snoc _ hlast ih => exact hstep _ _ _ ih hlast

/-- A reflexive and transitive relation that every step respects, from states
that keep an invariant, relates the two ends of a run. -/
theorem relates {I : σ → Prop} {R : σ → σ → Prop} (hrefl : ∀ s, R s s)
    (htrans : ∀ s t u, R s t → R t u → R s u)
    (hinv : ∀ s a t, I s → step s a t → I t)
    (hstep : ∀ s a t, I s → step s a t → R s t)
    {s t : σ} {l : List α} (h : Run step s l t) (hs : I s) : R s t := by
  induction h with
  | nil => exact hrefl s
  | snoc hrun hlast ih =>
      exact htrans _ _ _ ih (hstep _ _ _ (invariant hinv hrun hs) hlast)

/-- A run of steps that all lie in a second relation is a run of it. -/
theorem mono {step' : σ → α → σ → Prop}
    (hsub : ∀ s a t, step s a t → step' s a t) {s t : σ} {l : List α}
    (h : Run step s l t) : Run step' s l t := by
  induction h with
  | nil => exact Run.nil
  | snoc _ hlast ih => exact Run.snoc ih (hsub _ _ _ hlast)

end Run

end Foundation
