import Mathlib.Data.List.Basic
import Mathlib.Logic.Basic

/-!
# Draining a buffer

A consumer looks at the front of a buffer and waits for more, fails, or consumes
some elements and goes on in a new state. `drain` repeats this until the consumer
waits or fails. A consumer is stable when more input behind the buffer changes
none of its decisions; for a stable consumer it does not matter how the input was
cut into pieces.
-/

namespace Foundation

/-- What a consumer decides at the front of a buffer. -/
inductive Verdict (σ ε : Type) where
  | wait
  | fail (e : ε)
  | consume (count : ℕ) (next : σ)

/-- A consumer of elements of type `β`: when it consumes, it makes progress within
the buffer. -/
structure Consumer (σ β ε : Type) where
  step : σ → List β → Verdict σ ε
  progress : ∀ {s : σ} {input : List β} {count : ℕ} {next : σ},
    step s input = .consume count next → 0 < count ∧ count ≤ input.length

/-- How draining ends: the state, what is left of the buffer, and the failure. -/
structure Drained (σ β ε : Type) where
  state : σ
  rest : List β
  outcome : Except ε Unit

namespace Consumer

variable {σ τ β ε ε' : Type} (c : Consumer σ β ε)

def drainFuel : ℕ → σ → List β → Drained σ β ε
  | 0, s, input => ⟨s, input, .ok ()⟩
  | fuel + 1, s, input =>
      match c.step s input with
      | .wait => ⟨s, input, .ok ()⟩
      | .fail e => ⟨s, input, .error e⟩
      | .consume count next => drainFuel fuel next (input.drop count)

/-- Repeats the step. Every step consumes an element, so the length of the buffer
bounds the number of steps. -/
def drain (s : σ) (input : List β) : Drained σ β ε :=
  c.drainFuel (input.length + 1) s input

theorem drainFuel_eq {fuel fuel' : ℕ} {s : σ} {input : List β} (h : input.length < fuel)
    (h' : input.length < fuel') : c.drainFuel fuel s input = c.drainFuel fuel' s input := by
  induction fuel generalizing fuel' s input with
  | zero => omega
  | succ fuel ih =>
      cases fuel' with
      | zero => omega
      | succ fuel' =>
          rw [drainFuel, drainFuel]
          split
          · rfl
          · rfl
          · next count next hstep =>
            obtain ⟨hpos, hle⟩ := c.progress hstep
            apply ih
            · rw [List.length_drop]
              omega
            · rw [List.length_drop]
              omega

variable {c} {s : σ} {input : List β}

theorem drain_of_wait (h : c.step s input = .wait) : c.drain s input = ⟨s, input, .ok ()⟩ := by
  rw [drain, drainFuel, h]

theorem drain_of_fail {e : ε} (h : c.step s input = .fail e) :
    c.drain s input = ⟨s, input, .error e⟩ := by
  rw [drain, drainFuel, h]

theorem drain_of_consume {count : ℕ} {next : σ} (h : c.step s input = .consume count next) :
    c.drain s input = c.drain next (input.drop count) := by
  obtain ⟨hpos, hle⟩ := c.progress h
  rw [drain, drainFuel, h]
  apply drainFuel_eq
  · rw [List.length_drop]
    omega
  · omega

/-- What holds when the consumer waits or fails, and is carried back over every
step, holds of every drained buffer. -/
theorem drain_induction {P : σ → List β → Drained σ β ε → Prop}
    (wait : ∀ s input, c.step s input = .wait → P s input ⟨s, input, .ok ()⟩)
    (fail : ∀ s input e, c.step s input = .fail e → P s input ⟨s, input, .error e⟩)
    (consume : ∀ s input count next d, c.step s input = .consume count next →
      P next (input.drop count) d → P s input d) (s : σ) (input : List β) :
    P s input (c.drain s input) := by
  generalize hn : input.length = n
  induction n using Nat.strongRecOn generalizing s input with
  | ind n ih =>
      cases hstep : c.step s input with
      | wait =>
          rw [drain_of_wait hstep]
          exact wait s input hstep
      | fail e =>
          rw [drain_of_fail hstep]
          exact fail s input e hstep
      | consume count next =>
          obtain ⟨hpos, hle⟩ := c.progress hstep
          rw [drain_of_consume hstep]
          refine consume s input count next _ hstep (ih _ ?_ next _ rfl)
          rw [List.length_drop]
          omega

/-- A consumer that waits on the empty buffer has left nothing there. -/
theorem drain_nil (h : c.step s [] = .wait) : c.drain s [] = ⟨s, [], .ok ()⟩ :=
  drain_of_wait h

/-- A reflexive and transitive relation that every step respects relates the state
before and after draining. -/
theorem drain_relates {R : σ → σ → Prop} (hrefl : ∀ s, R s s)
    (htrans : ∀ s t u, R s t → R t u → R s u)
    (hstep : ∀ s input count next, c.step s input = .consume count next → R s next)
    (s : σ) (input : List β) : R s (c.drain s input).state := by
  refine drain_induction (P := fun s _ d => R s d.state) ?_ ?_ ?_ s input
  · exact fun s _ _ => hrefl s
  · exact fun s _ _ _ => hrefl s
  · exact fun s input count next d h hnext => htrans _ _ _ (hstep s input count next h) hnext

variable (c) in
/-- More input changes no decision. -/
def Stable : Prop :=
  ∀ s input more, c.step s input ≠ .wait → c.step s (input ++ more) = c.step s input

/-- Draining a longer buffer goes on where draining its front has stopped. -/
theorem drain_append (hc : c.Stable) (s : σ) (input more : List β) :
    c.drain s (input ++ more) = match (c.drain s input).outcome with
      | .ok () => c.drain (c.drain s input).state ((c.drain s input).rest ++ more)
      | .error e => ⟨(c.drain s input).state, (c.drain s input).rest ++ more, .error e⟩ := by
  refine drain_induction (P := fun s input d => c.drain s (input ++ more) = match d.outcome with
      | .ok () => c.drain d.state (d.rest ++ more)
      | .error e => ⟨d.state, d.rest ++ more, .error e⟩) ?_ ?_ ?_ s input
  · intro s input _
    rfl
  · intro s input e h
    have hmore : c.step s (input ++ more) = .fail e := by
      rw [hc s input more (by simp [h]), h]
    exact drain_of_fail hmore
  · intro s input count next d h hd
    have hmore : c.step s (input ++ more) = .consume count next := by
      rw [hc s input more (by simp [h]), h]
    rw [drain_of_consume hmore, List.drop_append_of_le_length (c.progress h).2]
    exact hd

theorem drain_append_of_ok (hc : c.Stable) {more rest : List β} {next : σ}
    (h : c.drain s input = ⟨next, rest, .ok ()⟩) :
    c.drain s (input ++ more) = c.drain next (rest ++ more) := by
  rw [drain_append hc, h]

theorem drain_append_of_error (hc : c.Stable) {more rest : List β} {next : σ} {e : ε}
    (h : c.drain s input = ⟨next, rest, .error e⟩) :
    c.drain s (input ++ more) = ⟨next, rest ++ more, .error e⟩ := by
  rw [drain_append hc, h]

/-- When a second consumer takes every step that the first one takes, draining with
the second passes through the states where the first one stops. -/
theorem drain_simulates {c' : Consumer τ β ε'} {R : σ → τ → Prop}
    (hstep : ∀ s t input count next, R s t → c.step s input = .consume count next →
      ∃ next', c'.step t input = .consume count next' ∧ R next next')
    (s : σ) (input : List β) : ∀ t, R s t → ∃ t', R (c.drain s input).state t' ∧
      c'.drain t input = c'.drain t' (c.drain s input).rest := by
  refine drain_induction (P := fun s input d => ∀ t, R s t →
    ∃ t', R d.state t' ∧ c'.drain t input = c'.drain t' d.rest) ?_ ?_ ?_ s input
  · exact fun s input _ t ht => ⟨t, ht, rfl⟩
  · exact fun s input e _ t ht => ⟨t, ht, rfl⟩
  · intro s input count next d h hd t ht
    obtain ⟨next', hnext', hrelated⟩ := hstep s t input count next ht h
    rw [drain_of_consume hnext']
    exact hd next' hrelated

end Consumer

end Foundation
