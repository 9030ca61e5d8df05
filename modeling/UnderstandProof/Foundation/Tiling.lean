import Mathlib.Algebra.BigOperators.Group.List.Basic
import Mathlib.Algebra.Order.BigOperators.Group.List
import Mathlib.Tactic.Linarith

/-!
# Blocks and windows of a line

A list `L` of block lengths cuts the line from `0` to `L.sum` into half-open
blocks; `offset L i` is where block `i` starts. `Window L s e a b` says that the
half-open window from `s` to `e` starts inside block `a` and ends inside block
`b`. When all blocks are non-empty a window meets exactly the blocks from `a` to
`b`, these two numbers are determined by the window, and two adjacent windows
share at most the block that their common boundary cuts.
-/

namespace Foundation

/-- A property of every element and its position, of a list and of one more element. -/
theorem forall_getElem_concat {α : Type} {P : α → ℕ → Prop} {l : List α} {a : α} :
    (∀ i (hi : i < (l ++ [a]).length), P (l ++ [a])[i] i) ↔
      (∀ i (hi : i < l.length), P l[i] i) ∧ P a l.length := by
  constructor
  · intro h
    constructor
    · intro i hi
      have hP := h i (by rw [List.length_append]; omega)
      rwa [List.getElem_append_left hi] at hP
    · simpa using h l.length (by simp)
  · rintro ⟨hbefore, hlast⟩ i hi
    by_cases hlt : i < l.length
    · rw [List.getElem_append_left hlt]
      exact hbefore i hlt
    · obtain rfl : i = l.length := by
        rw [List.length_append, List.length_singleton] at hi
        omega
      simpa using hlast

namespace Tiling

/-- Where block `i` starts. -/
def offset (L : List ℕ) (i : ℕ) : ℕ := (L.take i).sum

variable {L : List ℕ}

@[simp] theorem offset_zero (L : List ℕ) : offset L 0 = 0 := rfl

theorem offset_succ {i : ℕ} (hi : i < L.length) :
    offset L (i + 1) = offset L i + L[i] := by
  rw [offset, offset, List.sum_take_succ _ _ hi]

@[simp] theorem offset_length (L : List ℕ) : offset L L.length = L.sum := by
  simp [offset]

theorem offset_of_length_le {i : ℕ} (hi : L.length ≤ i) : offset L i = L.sum := by
  rw [offset, List.take_of_length_le hi]

theorem offset_append_of_le {M : List ℕ} {i : ℕ} (hi : i ≤ L.length) :
    offset (L ++ M) i = offset L i := by
  rw [offset, offset, List.take_append_of_le_length hi]

theorem offset_mono : Monotone (offset L) := by
  apply monotone_nat_of_le_succ
  intro i
  by_cases hi : i < L.length
  · rw [offset_succ hi]
    exact Nat.le_add_right _ _
  · rw [offset_of_length_le (by omega), offset_of_length_le (by omega)]

theorem offset_le_sum (i : ℕ) : offset L i ≤ L.sum := by
  by_cases hi : i ≤ L.length
  · rw [← offset_length L]
    exact offset_mono hi
  · rw [offset_of_length_le (by omega)]

/-- Non-empty blocks start at strictly growing offsets. -/
theorem offset_lt_offset (hpos : ∀ n ∈ L, 0 < n) {i j : ℕ} (hij : i < j)
    (hi : i < L.length) : offset L i < offset L j := by
  have hstep : offset L i < offset L (i + 1) := by
    rw [offset_succ hi]
    exact Nat.lt_add_of_pos_right (hpos _ (List.getElem_mem hi))
  exact hstep.trans_le (offset_mono hij)

/-- Block `i` and the window from `s` to `e` have a position in common. -/
def Meets (L : List ℕ) (i s e : ℕ) : Prop :=
  i < L.length ∧ ∃ x, offset L i ≤ x ∧ x < offset L (i + 1) ∧ s ≤ x ∧ x < e

/-- The window from `s` to `e` starts in block `a` and ends in block `b`. -/
structure Window (L : List ℕ) (s e a b : ℕ) : Prop where
  nonempty : s < e
  first_le : offset L a ≤ s
  lt_first : s < offset L (a + 1)
  last_lt : offset L b < e
  le_last : e ≤ offset L (b + 1)

namespace Window

variable {s e a b : ℕ}

theorem le_sum (h : Window L s e a b) : e ≤ L.sum :=
  h.le_last.trans (offset_le_sum _)

theorem first_le_last (h : Window L s e a b) : a ≤ b := by
  by_contra hlt
  have hba : b + 1 ≤ a := by omega
  have hle := offset_mono (L := L) hba
  have h₁ := h.nonempty
  have h₂ := h.first_le
  have h₃ := h.le_last
  omega

theorem last_lt_length (h : Window L s e a b) : b < L.length := by
  by_contra hge
  have hb : offset L b = L.sum := offset_of_length_le (by omega)
  have h₁ := h.last_lt
  have h₂ := h.le_sum
  omega

theorem first_lt_length (h : Window L s e a b) : a < L.length :=
  h.first_le_last.trans_lt h.last_lt_length

/-- A window with no empty block around it meets exactly the blocks between its
first and its last one. -/
theorem meets_iff (h : Window L s e a b) (hpos : ∀ n ∈ L, 0 < n) (i : ℕ) :
    Meets L i s e ↔ a ≤ i ∧ i ≤ b := by
  have hs := h.first_le
  have hs' := h.lt_first
  have he := h.last_lt
  have he' := h.le_last
  have hne := h.nonempty
  constructor
  · rintro ⟨hi, x, hx₁, hx₂, hx₃, hx₄⟩
    constructor
    · by_contra hlt
      have hle := offset_mono (L := L) (show i + 1 ≤ a by omega)
      omega
    · by_contra hlt
      have hle := offset_mono (L := L) (show b + 1 ≤ i by omega)
      omega
  · rintro ⟨hai, hib⟩
    have hi : i < L.length := hib.trans_lt h.last_lt_length
    have hgrow := offset_lt_offset hpos (Nat.lt_succ_self i) hi
    have hstart := offset_mono (L := L) (show a + 1 ≤ i + 1 by omega)
    have hend := offset_mono (L := L) hib
    refine ⟨hi, max (offset L i) s, le_max_left _ _, ?_, le_max_right _ _, ?_⟩
    · exact max_lt hgrow (by omega)
    · exact max_lt (by omega) hne

/-- The two blocks of a window are determined by the window. -/
theorem unique (h : Window L s e a b) {a' b' : ℕ} (h' : Window L s e a' b') :
    a = a' ∧ b = b' := by
  have hs := h.first_le
  have hs' := h.lt_first
  have he := h.last_lt
  have he' := h.le_last
  have ht := h'.first_le
  have ht' := h'.lt_first
  have hf := h'.last_lt
  have hf' := h'.le_last
  constructor
  · rcases lt_trichotomy a a' with hlt | heq | hgt
    · have hle := offset_mono (L := L) (show a + 1 ≤ a' by omega)
      omega
    · exact heq
    · have hle := offset_mono (L := L) (show a' + 1 ≤ a by omega)
      omega
  · rcases lt_trichotomy b b' with hlt | heq | hgt
    · have hle := offset_mono (L := L) (show b + 1 ≤ b' by omega)
      omega
    · exact heq
    · have hle := offset_mono (L := L) (show b' + 1 ≤ b by omega)
      omega

/-- The next window starts in the block that the boundary cuts, or in the block
after it when the boundary falls between two blocks. -/
theorem next_first (h : Window L s e a b) (hpos : ∀ n ∈ L, 0 < n) {t a' b' : ℕ}
    (h' : Window L e t a' b') : a' = b ∨ a' = b + 1 := by
  have he := h.last_lt
  have he' := h.le_last
  have ht := h'.first_le
  have ht' := h'.lt_first
  by_contra hne
  rcases lt_or_gt_of_ne (show a' ≠ b by tauto) with hlt | hgt
  · have hle := offset_mono (L := L) (show a' + 1 ≤ b by omega)
    omega
  · have ha' := h'.first_lt_length
    have hgrow := offset_lt_offset hpos (show b + 1 < a' by omega) (by omega)
    omega

/-- A window at the start of the line starts in the first block. -/
theorem first_eq_zero (h : Window L 0 e a b) (hpos : ∀ n ∈ L, 0 < n) : a = 0 := by
  by_contra hne
  have hgrow := offset_lt_offset hpos (show 0 < a by omega) (by
    have := h.first_lt_length
    omega)
  have hle := h.first_le
  rw [offset_zero] at hgrow
  omega

/-- A window at the end of the line ends in the last block. -/
theorem last_eq_length (h : Window L s L.sum a b) (hpos : ∀ n ∈ L, 0 < n) :
    b + 1 = L.length := by
  have hb := h.last_lt_length
  by_contra hne
  have hgrow := offset_lt_offset hpos (show b + 1 < L.length by omega) (by omega)
  have hle := h.le_last
  rw [offset_length] at hgrow
  omega

/-- A window stays when blocks are appended. -/
theorem append (h : Window L s e a b) (M : List ℕ) : Window (L ++ M) s e a b := by
  have ha := h.first_lt_length
  have hb := h.last_lt_length
  constructor
  · exact h.nonempty
  · rw [offset_append_of_le ha.le]
    exact h.first_le
  · rw [offset_append_of_le ha]
    exact h.lt_first
  · rw [offset_append_of_le hb.le]
    exact h.last_lt
  · rw [offset_append_of_le hb]
    exact h.le_last

end Window

/-- Every position below the total lies in a block. -/
theorem exists_block {x : ℕ} (hx : x < L.sum) :
    ∃ i < L.length, offset L i ≤ x ∧ x < offset L (i + 1) := by
  have hex : ∃ i, x < offset L (i + 1) := by
    refine ⟨L.length, ?_⟩
    rwa [offset_of_length_le (Nat.le_succ _)]
  classical
  refine ⟨Nat.find hex, ?_, ?_, Nat.find_spec hex⟩
  · by_contra hge
    cases hn : Nat.find hex with
    | zero =>
        have hlength : L.length = 0 := by omega
        rw [List.length_eq_zero_iff.mp hlength] at hx
        simp at hx
    | succ n =>
        have hmin := Nat.find_min hex (show n < Nat.find hex by omega)
        rw [offset_of_length_le (by omega)] at hmin
        exact hmin hx
  · cases hn : Nat.find hex with
    | zero => simp
    | succ n =>
        have hmin := Nat.find_min hex (show n < Nat.find hex by omega)
        omega

/-- Every non-empty window inside the line has a first and a last block. -/
theorem exists_window {s e : ℕ} (hse : s < e) (he : e ≤ L.sum) :
    ∃ a b, Window L s e a b := by
  obtain ⟨a, -, ha, ha'⟩ := exists_block (L := L) (x := s) (by omega)
  obtain ⟨b, -, hb, hb'⟩ := exists_block (L := L) (x := e - 1) (by omega)
  exact ⟨a, b, hse, ha, ha', by omega, by omega⟩

/-- The offsets of all blocks, and the total as the last entry. -/
def offsets (L : List ℕ) : List ℕ := (List.range (L.length + 1)).map (offset L)

@[simp] theorem offsets_nil : offsets [] = [0] := rfl

@[simp] theorem length_offsets (L : List ℕ) : (offsets L).length = L.length + 1 := by
  simp [offsets]

theorem getElem_offsets {i : ℕ} (hi : i < (offsets L).length) :
    (offsets L)[i] = offset L i := by
  simp [offsets]

theorem getElem?_offsets {i : ℕ} (hi : i ≤ L.length) :
    (offsets L)[i]? = some (offset L i) := by
  rw [List.getElem?_eq_getElem (by rw [length_offsets]; omega), getElem_offsets]

theorem offsets_concat (L : List ℕ) (n : ℕ) :
    offsets (L ++ [n]) = offsets L ++ [L.sum + n] := by
  have hlast : offset (L ++ [n]) (L.length + 1) = L.sum + n := by
    rw [offset_of_length_le (by simp), List.sum_append, List.sum_singleton]
  rw [offsets, List.length_append, List.length_singleton, List.range_succ, List.map_append,
    List.map_singleton, hlast]
  refine congrArg (· ++ _) (List.map_congr_left ?_)
  intro i hi
  rw [List.mem_range] at hi
  exact offset_append_of_le (by omega)

end Tiling

end Foundation
