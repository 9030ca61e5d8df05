import Mathlib.Data.List.TakeDrop
import UnderstandProof.Foundation.Tiling

/-!
# A queue of numbered blocks

`remaining i blocks s` is the queue that holds the blocks, numbered from `i` on,
after `s` elements have been taken off its front: exhausted blocks have left the
queue, and the block that is cut keeps its number. Taking elements off the front
moves `s`, and the number of the front block is the block that holds position
`s`.
-/

namespace Foundation

namespace BlockQueue

open Tiling

variable {α : Type*}

def remaining : ℕ → List (List α) → ℕ → List (ℕ × List α)
  | _, [], _ => []
  | i, block :: blocks, s =>
      if block.length ≤ s then remaining (i + 1) blocks (s - block.length)
      else (i, block.drop s) :: remaining (i + 1) blocks 0

/-- The lengths of the blocks. -/
def lengths (blocks : List (List α)) : List ℕ := blocks.map List.length

@[simp] theorem length_lengths (blocks : List (List α)) :
    (lengths blocks).length = blocks.length := by
  simp [lengths]

theorem sum_lengths (blocks : List (List α)) : (lengths blocks).sum = blocks.flatten.length := by
  rw [List.length_flatten, lengths]

theorem offset_lengths_cons (block : List α) (blocks : List (List α)) (k : ℕ) :
    offset (lengths (block :: blocks)) (k + 1) =
      block.length + offset (lengths blocks) k := by
  simp [offset, lengths]

variable {blocks : List (List α)} {i s : ℕ}

/-- The queue holds the elements behind the first `s` ones. -/
theorem flatMap_remaining : (remaining i blocks s).flatMap Prod.snd = blocks.flatten.drop s := by
  induction blocks generalizing i s with
  | nil => simp [remaining]
  | cons block blocks ih =>
      rw [remaining, List.flatten_cons, List.drop_append]
      split
      · next hle => rw [ih, List.drop_of_length_le hle, List.nil_append]
      · next hlt =>
          rw [List.flatMap_cons, ih, show s - block.length = 0 by omega]

/-- The queue is empty exactly when all elements have been taken. -/
theorem remaining_eq_nil_iff : remaining i blocks s = [] ↔ blocks.flatten.length ≤ s := by
  constructor
  · intro h
    have hflat : (remaining i blocks s).flatMap Prod.snd = blocks.flatten.drop s :=
      flatMap_remaining
    rw [h] at hflat
    exact List.drop_eq_nil_iff.mp hflat.symm
  · induction blocks generalizing i s with
    | nil => simp [remaining]
    | cons block blocks ih =>
        intro hle
        rw [List.flatten_cons, List.length_append] at hle
        rw [remaining, if_pos (by omega)]
        exact ih (by omega)

/-- A block is appended at the end of the queue. -/
theorem remaining_concat {block : List α} (hs : s ≤ blocks.flatten.length)
    (hblock : block ≠ []) :
    remaining i (blocks ++ [block]) s =
      remaining i blocks s ++ [(i + blocks.length, block)] := by
  have hpos := List.length_pos_of_ne_nil hblock
  induction blocks generalizing i s with
  | nil =>
      obtain rfl : s = 0 := by simpa using hs
      simp [remaining, hblock]
  | cons first blocks ih =>
      rw [List.flatten_cons, List.length_append] at hs
      rw [List.cons_append, remaining, remaining]
      have hnumber : i + 1 + blocks.length = i + (first :: blocks).length := by
        rw [List.length_cons]
        omega
      split
      · rw [ih (by omega), hnumber]
      · rw [ih (Nat.zero_le _), hnumber, List.cons_append]

/-- What is at the front of the queue, and how taking elements moves it. -/
structure Front (i : ℕ) (blocks : List (List α)) (s k : ℕ) (front : List α)
    (queue : List (ℕ × List α)) : Prop where
  number : ∃ j, k = i + j ∧ offset (lengths blocks) j ≤ s ∧
    s + front.length = offset (lengths blocks) (j + 1)
  ne_nil : front ≠ []
  take : ∀ n < front.length, remaining i blocks (s + n) = (k, front.drop n) :: queue
  pop : remaining i blocks (s + front.length) = queue

theorem front_of_cons {k : ℕ} {front : List α} {queue : List (ℕ × List α)}
    (h : remaining i blocks s = (k, front) :: queue) : Front i blocks s k front queue := by
  induction blocks generalizing i s with
  | nil => cases h
  | cons block blocks ih =>
      rw [remaining] at h
      split at h
      · next hle =>
          obtain ⟨⟨j, hk, hj, hj'⟩, hne, htake, hpop⟩ := ih h
          have hskip : ∀ n, remaining i (block :: blocks) (s + n) =
              remaining (i + 1) blocks (s - block.length + n) := by
            intro n
            rw [remaining, if_pos (by omega), show s + n - block.length =
              s - block.length + n by omega]
          refine ⟨⟨j + 1, by omega, ?_, ?_⟩, hne, ?_, ?_⟩
          · rw [offset_lengths_cons]
            omega
          · rw [offset_lengths_cons]
            omega
          · intro n hn
            rw [hskip, htake n hn]
          · rw [hskip, hpop]
      · next hlt =>
          rw [List.cons.injEq, Prod.mk.injEq] at h
          obtain ⟨⟨rfl, rfl⟩, rfl⟩ := h
          have hlength : (block.drop s).length = block.length - s := List.length_drop
          refine ⟨⟨0, rfl, by simp, ?_⟩, ?_, ?_, ?_⟩
          · rw [offset_lengths_cons, offset_zero, hlength]
            omega
          · apply List.ne_nil_of_length_pos
            omega
          · intro n hn
            rw [remaining, if_neg (by omega), List.drop_drop]
          · rw [remaining, if_pos (by omega), hlength,
              show s + (block.length - s) - block.length = 0 by omega]

end BlockQueue

end Foundation
