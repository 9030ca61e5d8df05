import Mathlib.Data.List.Basic
import Mathlib.Logic.Basic

/-!
# Computations that can fail

Inversion lemmas for `Except` and for a state carried through computations that
can fail: a sequence succeeds exactly when each of its parts does. Guards are
written `rejectIf c e`, which fails with `e` when `c` holds, so that a sequence
of guards inverts to the list of the negated conditions. A computation that only adds to
the log of its state is described by what it adds and how it ends; two computations run in
lockstep when they fail alike or both succeed with related results. A refinement of a schema
does not fail at once but reports issues.
-/

namespace Foundation

universe u

variable {ε : Type*}

/-- Fails with `e` when `c` holds. -/
def rejectIf (c : Prop) [Decidable c] (e : ε) : Except ε Unit :=
  if c then .error e else .ok ()

@[simp] theorem rejectIf_eq_ok {c : Prop} [Decidable c] {e : ε} {u : Unit} :
    rejectIf c e = .ok u ↔ ¬ c := by
  unfold rejectIf
  split <;> simp_all

@[simp] theorem rejectIf_eq_error {c : Prop} [Decidable c] {e e' : ε} :
    rejectIf c e = .error e' ↔ c ∧ e = e' := by
  unfold rejectIf
  split <;> simp_all

theorem rejectIf_of_not {c : Prop} [Decidable c] {e : ε} (h : ¬ c) :
    rejectIf c e = .ok () := if_neg h

theorem rejectIf_of {c : Prop} [Decidable c] {e : ε} (h : c) :
    rejectIf c e = .error e := if_pos h

section Except

variable {α β : Type u}

@[simp] theorem except_ok_bind (a : α) (f : α → Except ε β) :
    (Except.ok a >>= f) = f a := rfl

@[simp] theorem except_error_bind (e : ε) (f : α → Except ε β) :
    ((Except.error e : Except ε α) >>= f) = .error e := rfl

@[simp] theorem except_map_ok (f : α → β) (a : α) :
    (f <$> (Except.ok a : Except ε α)) = .ok (f a) := rfl

@[simp] theorem except_map_error (f : α → β) (e : ε) :
    (f <$> (Except.error e : Except ε α)) = .error e := rfl

@[simp] theorem except_pure (a : α) : (pure a : Except ε α) = .ok a := rfl

@[simp] theorem except_throw (e : ε) : (throw e : Except ε α) = .error e := rfl

theorem bind_eq_ok {x : Except ε α} {f : α → Except ε β} {b : β} :
    (x >>= f) = .ok b ↔ ∃ a, x = .ok a ∧ f a = .ok b := by
  cases x with
  | error e => simp
  | ok a => simp

theorem map_eq_ok {x : Except ε α} {f : α → β} {b : β} :
    (f <$> x) = .ok b ↔ ∃ a, x = .ok a ∧ f a = b := by
  cases x with
  | error e => simp
  | ok a => simp

theorem bind_eq_error {x : Except ε α} {f : α → Except ε β} {e : ε} :
    (x >>= f) = .error e ↔ x = .error e ∨ ∃ a, x = .ok a ∧ f a = .error e := by
  cases x with
  | error e' => simp
  | ok a => simp

/-- A guard in front of a sequence: the sequence succeeds exactly when the guard
lets it through and the rest succeeds. -/
theorem rejectIf_bind_eq_ok {c : Prop} [Decidable c] {e : ε}
    {γ : Type} {f : Unit → Except ε γ} {b : γ} :
    (rejectIf c e >>= f) = .ok b ↔ ¬ c ∧ f () = .ok b := by
  by_cases hc : c
  · rw [rejectIf_of hc]
    simp [hc]
  · rw [rejectIf_of_not hc]
    simp [hc]

/-- What each step keeps, a whole loop keeps. -/
theorem foldlM_keeps {σ : Type u} {α : Type*} {step : σ → α → Except ε σ} {P : σ → Prop}
    (hstep : ∀ s a t, P s → step s a = .ok t → P t) {l : List α} {s t : σ} (hs : P s)
    (h : l.foldlM step s = .ok t) : P t := by
  induction l generalizing s with
  | nil =>
      cases h
      exact hs
  | cons a l ih =>
      rw [List.foldlM_cons, bind_eq_ok] at h
      obtain ⟨next, hnext, hrest⟩ := h
      exact ih (hstep s a next hs hnext) hrest

theorem rejectIf_bind_eq_error {c : Prop} [Decidable c] {e e' : ε}
    {γ : Type} {f : Unit → Except ε γ} :
    (rejectIf c e >>= f) = .error e' ↔ (c ∧ e = e') ∨ (¬ c ∧ f () = .error e') := by
  by_cases hc : c
  · rw [rejectIf_of hc]
    simp [hc]
  · rw [rejectIf_of_not hc]
    simp [hc]

end Except

/-- Computations over a state of type `σ` that can fail with `ε`; the state
reached is kept on failure. -/
def Stateful (ε σ α : Type) := σ → Except ε α × σ

namespace Stateful

variable {ε σ α β : Type}

/-- Runs the computation from a state. -/
def run (x : Stateful ε σ α) (s : σ) : Except ε α × σ := x s

/-- A computation that neither reads nor changes the state. -/
def lift (x : Except ε α) : Stateful ε σ α := fun s => (x, s)

def bind (x : Stateful ε σ α) (f : α → Stateful ε σ β) : Stateful ε σ β :=
  fun s => match x s with
    | (.ok a, t) => f a t
    | (.error e, t) => (.error e, t)

instance : Monad (Stateful ε σ) where
  pure a := lift (.ok a)
  bind := bind

@[simp] theorem run_pure (a : α) (s : σ) :
    (pure a : Stateful ε σ α).run s = (.ok a, s) := rfl

@[simp] theorem run_lift (x : Except ε α) (s : σ) :
    (lift x : Stateful ε σ α).run s = (x, s) := rfl

/-- The rest of a sequence, run from the outcome of its first part. -/
theorem run_bind (x : Stateful ε σ α) (f : α → Stateful ε σ β) (s : σ) :
    (x >>= f).run s = match x.run s with
      | (.ok a, t) => (f a).run t
      | (.error e, t) => (.error e, t) := rfl

theorem run_bind_eq_ok {x : Stateful ε σ α} {f : α → Stateful ε σ β} {s t : σ}
    {b : β} :
    (x >>= f).run s = (.ok b, t) ↔
      ∃ a s', x.run s = (.ok a, s') ∧ (f a).run s' = (.ok b, t) := by
  rw [run_bind]
  rcases x.run s with ⟨e | a, s'⟩ <;> simp

theorem run_lift_bind_eq_ok {x : Except ε α} {f : α → Stateful ε σ β} {s t : σ}
    {b : β} :
    (lift x >>= f).run s = (.ok b, t) ↔
      ∃ a, x = .ok a ∧ (f a).run s = (.ok b, t) := by
  rw [run_bind, run_lift]
  cases x <;> simp

/-! ## Invariants of the state -/

/-- The state keeps `P`, whatever the outcome, and a result has `Q`. -/
def Ensures (P : σ → Prop) (x : Stateful ε σ α) (Q : α → Prop) : Prop :=
  ∀ s, P s → P (x.run s).2 ∧ ∀ a, (x.run s).1 = .ok a → Q a

variable {P : σ → Prop} {Q : α → Prop} {R : β → Prop}

theorem Ensures.lift {x : Except ε α} (h : ∀ a, x = .ok a → Q a) :
    Ensures P (Stateful.lift x : Stateful ε σ α) Q :=
  fun _ hs => ⟨hs, h⟩

theorem Ensures.pure {a : α} (h : Q a) : Ensures P (Pure.pure a : Stateful ε σ α) Q :=
  fun _ hs => ⟨hs, fun _ hb => Except.ok.inj hb ▸ h⟩

theorem Ensures.bind {x : Stateful ε σ α} {f : α → Stateful ε σ β} (hx : Ensures P x Q)
    (hf : ∀ a, Q a → Ensures P (f a) R) : Ensures P (x >>= f) R := by
  intro s hs
  obtain ⟨hstate, hresult⟩ := hx s hs
  rw [run_bind]
  generalize hrun : x.run s = run at hstate hresult
  obtain ⟨e | a, t⟩ := run
  · exact ⟨hstate, nofun⟩
  · exact hf a (hresult a rfl) t hstate

theorem Ensures.weaken {Q' : α → Prop} {x : Stateful ε σ α} (h : Ensures P x Q)
    (himp : ∀ a, Q a → Q' a) : Ensures P x Q' :=
  fun s hs => ⟨(h s hs).1, fun a ha => himp a ((h s hs).2 a ha)⟩

end Stateful

/-! ## Computations with a log -/

namespace Stateful

variable {ε σ α β γ : Type} {log : σ → List γ}

/-- The computation adds to the log, and `Q` holds of what it adds and of its outcome. -/
def Logs (log : σ → List γ) (x : Stateful ε σ α) (Q : List γ → Except ε α → Prop) : Prop :=
  ∀ s, ∃ new, log (x.run s).2 = log s ++ new ∧ Q new (x.run s).1

variable {Q : List γ → Except ε α → Prop} {R : List γ → Except ε β → Prop}

theorem Logs.lift {x : Except ε α} (h : Q [] x) : Logs log (Stateful.lift x : Stateful ε σ α) Q :=
  fun s => ⟨[], (List.append_nil (log s)).symm, h⟩

theorem Logs.pure {a : α} (h : Q [] (.ok a)) : Logs log (Pure.pure a : Stateful ε σ α) Q :=
  .lift h

/-- The log of a sequence is that of its first part, with that of the rest behind it unless the
first part has failed. -/
theorem Logs.bind {x : Stateful ε σ α} {f : α → Stateful ε σ β} (hx : Logs log x Q)
    (herror : ∀ new e, Q new (.error e) → R new (.error e))
    (hf : ∀ new a, Q new (.ok a) → Logs log (f a) fun more result => R (new ++ more) result) :
    Logs log (x >>= f) R := by
  intro s
  obtain ⟨new, hnew, hresult⟩ := hx s
  rw [run_bind]
  generalize hrun : x.run s = run at hnew hresult
  obtain ⟨e | a, t⟩ := run
  · exact ⟨new, hnew, herror new e hresult⟩
  · obtain ⟨more, hmore, hrest⟩ := hf new a hresult t
    refine ⟨new ++ more, ?_, hrest⟩
    rw [hmore, hnew, List.append_assoc]

theorem Logs.weaken {Q' : List γ → Except ε α → Prop} {x : Stateful ε σ α} (h : Logs log x Q)
    (himp : ∀ new result, Q new result → Q' new result) : Logs log x Q' := by
  intro s
  obtain ⟨new, hnew, hresult⟩ := h s
  exact ⟨new, hnew, himp new _ hresult⟩

end Stateful

/-! ## Two computations in lockstep -/

section

variable {α β γ δ : Type u}

/-- Both fail with the same error, or both succeed with related results. -/
inductive Lockstep (R : α → β → Prop) : Except ε α → Except ε β → Prop where
  | ok {a : α} {b : β} (h : R a b) : Lockstep R (.ok a) (.ok b)
  | error (e : ε) : Lockstep R (.error e) (.error e)

namespace Lockstep

theorem refl {R : α → α → Prop} (hR : ∀ a, R a a) (x : Except ε α) : Lockstep R x x := by
  cases x with
  | ok a => exact .ok (hR a)
  | error e => exact .error e

/-- Related by equality, the outcomes are equal. -/
theorem eq {x y : Except ε α} (h : Lockstep Eq x y) : x = y := by
  cases h with
  | ok h => rw [h]
  | error e => rfl

theorem mono {R S : α → β → Prop} {x : Except ε α} {y : Except ε β} (h : Lockstep R x y)
    (hRS : ∀ a b, R a b → S a b) : Lockstep S x y := by
  cases h with
  | ok h => exact .ok (hRS _ _ h)
  | error e => exact .error e

theorem bind {R : α → β → Prop} {S : γ → δ → Prop} {x : Except ε α} {y : Except ε β}
    {f : α → Except ε γ} {g : β → Except ε δ} (h : Lockstep R x y)
    (hrest : ∀ a b, R a b → Lockstep S (f a) (g b)) : Lockstep S (x >>= f) (y >>= g) := by
  cases h with
  | ok h => exact hrest _ _ h
  | error e => exact .error e

/-- The same guard in front of both. -/
theorem rejectIf_bind {α β : Type} {R : α → β → Prop} {c : Prop} [Decidable c] {e : ε}
    {f : Unit → Except ε α} {g : Unit → Except ε β} (h : Lockstep R (f ()) (g ())) :
    Lockstep R (rejectIf c e >>= f) (rejectIf c e >>= g) := by
  by_cases hc : c
  · rw [rejectIf_of hc]
    exact .error e
  · rw [rejectIf_of_not hc]
    exact h

/-- Two loops over one list; the relation may speak of the elements so far. -/
theorem foldlM {ι : Type*} {R : List ι → α → β → Prop} {f : α → ι → Except ε α}
    {g : β → ι → Except ε β} {l : List ι} (done : List ι) {a : α} {b : β} (h : R done a b)
    (hstep : ∀ front x back a b, l = front ++ x :: back → R (done ++ front) a b →
      Lockstep (R (done ++ front ++ [x])) (f a x) (g b x)) :
    Lockstep (R (done ++ l)) (l.foldlM f a) (l.foldlM g b) := by
  induction l generalizing done a b with
  | nil =>
      rw [List.append_nil]
      exact .ok h
  | cons x l ih =>
      rw [List.foldlM_cons, List.foldlM_cons]
      have hfirst := hstep [] x l a b rfl ((List.append_nil done).symm ▸ h)
      rw [List.append_nil] at hfirst
      refine hfirst.bind fun a' b' h' => ?_
      rw [List.append_cons]
      refine ih _ h' fun front y back a'' b'' hl hR => ?_
      have hnext := hstep (x :: front) y back a'' b'' (by rw [hl, List.cons_append])
      rw [List.append_cons] at hnext
      exact hnext hR

end Lockstep

end

/-! ## Issues of a schema -/

/-- `Number.MAX_SAFE_INTEGER` -/
def maxSafeInteger : ℕ := 9007199254740991

/-- A step of the path at which a refinement reports an issue. -/
inductive PathItem where
  | key (name : String)
  | index (i : ℕ)
  deriving DecidableEq, Repr

/-- An issue that a refinement adds. -/
structure Issue where
  message : String
  path : List PathItem
  deriving DecidableEq, Repr

/-- Adds an issue when `c` holds. -/
def issueIf (c : Prop) [Decidable c] (message : String) (path : List PathItem) :
    List Issue :=
  if c then [⟨message, path⟩] else []

@[simp] theorem issueIf_eq_nil {c : Prop} [Decidable c] {message : String}
    {path : List PathItem} : issueIf c message path = [] ↔ ¬ c := by
  unfold issueIf
  split <;> simp_all

end Foundation
