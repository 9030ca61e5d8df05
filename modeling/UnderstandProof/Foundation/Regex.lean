import Mathlib.Data.List.TakeWhile

/-!
# Regular expressions as tests

The part of the regular expressions of the language that a Boolean test needs:
letters up to a notion of sameness (which is how the flags enter), classes, runs of
a class, alternatives, and assertions about the position. `ends` is the list of the
positions where a match from a position can end, and `test` says whether there is
one anywhere.

A coarser notion of sameness finds at least as much, and an expression without
assertions finds in a longer text what it finds in a piece of it.
-/

namespace Foundation

inductive Regex (α : Type) where
  | empty
  | letter (c : α)
  | one (p : α → Bool)
  | many (p : α → Bool) (least : ℕ) (most : Option ℕ)
  | seq (r s : Regex α)
  | alt (r s : Regex α)
  | start
  | stop
  | boundary (isWord : α → Bool)

namespace Regex

variable {α : Type}

/-- One or more elements of a class. -/
def some₁ (p : α → Bool) : Regex α := .many p 1 none

/-- An expression that may be left out. -/
def opt (r : Regex α) : Regex α := .alt r .empty

/-- The letters of a list, one after the other. -/
def word : List α → Regex α
  | [] => .empty
  | [c] => .letter c
  | c :: d :: l => .seq (.letter c) (word (d :: l))

/-- Expressions one after the other. -/
def seqs : List (Regex α) → Regex α
  | [] => .empty
  | [r] => r
  | r :: s :: l => .seq r (seqs (s :: l))

/-- One of several words. -/
def anyOf : List (List α) → Regex α
  | [] => .one fun _ => false
  | [w] => word w
  | w :: v :: l => .alt (word w) (anyOf (v :: l))

/-- The elements of a class from position `i` on. -/
def run (p : α → Bool) (text : List α) (i : ℕ) : List α := (text.drop i).takeWhile p

/-- The positions where a match from `i` can end. -/
def ends (same : α → α → Bool) (text : List α) : Regex α → ℕ → List ℕ
  | .empty, i => [i]
  | .letter c, i => if (text[i]?).any (same c) then [i + 1] else []
  | .one p, i => if (text[i]?).any p then [i + 1] else []
  | .many p least most, i =>
      ((List.range ((run p text i).length + 1)).filter fun k =>
        decide (least ≤ k) && most.all fun m => decide (k ≤ m)).map (i + ·)
  | .seq r s, i => (ends same text r i).flatMap (ends same text s)
  | .alt r s, i => ends same text r i ++ ends same text s i
  | .start, i => if i = 0 then [i] else []
  | .stop, i => if i = text.length then [i] else []
  | .boundary isWord, i =>
      if (decide (0 < i) && (text[i - 1]?).any isWord) ≠ (text[i]?).any isWord then [i]
      else []

/-- `RegExp.prototype.test`. -/
def test (same : α → α → Bool) (r : Regex α) (text : List α) : Bool :=
  (List.range (text.length + 1)).any fun i => !(ends same text r i).isEmpty

variable {same same' : α → α → Bool} {text : List α} {r s : Regex α} {i j : ℕ}

theorem mem_ite_singleton {c : Prop} [Decidable c] {k : ℕ} :
    j ∈ (if c then [k] else []) ↔ c ∧ j = k := by
  split
  · next h => rw [List.mem_singleton, and_iff_right h]
  · next h => exact ⟨fun hj => absurd hj List.not_mem_nil, fun hj => absurd hj.1 h⟩

@[simp] theorem mem_ends_empty : j ∈ ends same text .empty i ↔ j = i := List.mem_singleton

@[simp] theorem mem_ends_letter {c : α} :
    j ∈ ends same text (.letter c) i ↔ (∃ d, text[i]? = some d ∧ same c d) ∧ j = i + 1 :=
  mem_ite_singleton.trans (by rw [Option.any_eq_true])

@[simp] theorem mem_ends_one {p : α → Bool} :
    j ∈ ends same text (.one p) i ↔ (∃ d, text[i]? = some d ∧ p d) ∧ j = i + 1 :=
  mem_ite_singleton.trans (by rw [Option.any_eq_true])

@[simp] theorem mem_ends_many {p : α → Bool} {least : ℕ} {most : Option ℕ} :
    j ∈ ends same text (.many p least most) i ↔
      ∃ k, k ≤ (run p text i).length ∧ least ≤ k ∧ (∀ m ∈ most, k ≤ m) ∧ j = i + k := by
  change j ∈ ((List.range ((run p text i).length + 1)).filter fun k =>
    decide (least ≤ k) && most.all fun m => decide (k ≤ m)).map (i + ·) ↔ _
  simp only [List.mem_map, List.mem_filter, List.mem_range, Bool.and_eq_true,
    decide_eq_true_eq, Option.all_eq_true]
  constructor
  · rintro ⟨k, ⟨hk, hleast, hmost⟩, rfl⟩
    exact ⟨k, by omega, hleast, hmost, rfl⟩
  · rintro ⟨k, hk, hleast, hmost, rfl⟩
    exact ⟨k, ⟨by omega, hleast, hmost⟩, rfl⟩

@[simp] theorem mem_ends_seq :
    j ∈ ends same text (.seq r s) i ↔
      ∃ k ∈ ends same text r i, j ∈ ends same text s k := List.mem_flatMap

@[simp] theorem mem_ends_alt :
    j ∈ ends same text (.alt r s) i ↔
      j ∈ ends same text r i ∨ j ∈ ends same text s i := List.mem_append

@[simp] theorem mem_ends_start : j ∈ ends same text .start i ↔ i = 0 ∧ j = i := mem_ite_singleton

@[simp] theorem mem_ends_stop : j ∈ ends same text .stop i ↔ i = text.length ∧ j = i :=
  mem_ite_singleton

/-- There is a match when one can start somewhere in the text. -/
theorem test_eq_true_iff :
    test same r text = true ↔ ∃ i ≤ text.length, ∃ j, j ∈ ends same text r i := by
  simp only [test, List.any_eq_true, List.mem_range, Bool.not_eq_true',
    List.isEmpty_eq_false_iff_exists_mem, Nat.lt_succ_iff]

/-- A coarser notion of sameness keeps the matches. -/
theorem ends_mono (hsame : ∀ c d, same c d → same' c d) :
    j ∈ ends same text r i → j ∈ ends same' text r i := by
  induction r generalizing i j with
  | letter c =>
      simp only [mem_ends_letter]
      rintro ⟨⟨d, hd, h⟩, rfl⟩
      exact ⟨⟨d, hd, hsame c d h⟩, rfl⟩
  | seq r s ihr ihs =>
      simp only [mem_ends_seq]
      rintro ⟨k, hr, hs⟩
      exact ⟨k, ihr hr, ihs hs⟩
  | alt r s ihr ihs =>
      simp only [mem_ends_alt]
      exact Or.imp ihr ihs
  | empty | one | many | start | stop | boundary => exact id

theorem test_mono (hsame : ∀ c d, same c d → same' c d) (h : test same r text = true) :
    test same' r text = true := by
  rw [test_eq_true_iff] at h ⊢
  obtain ⟨i, hi, j, hj⟩ := h
  exact ⟨i, hi, j, ends_mono hsame hj⟩

/-- An expression without assertions about the position. -/
def Plain : Regex α → Prop
  | .empty | .letter _ | .one _ | .many _ _ _ => True
  | .seq r s | .alt r s => Plain r ∧ Plain s
  | .start | .stop | .boundary _ => False

/-- What a plain expression finds in a piece of a text, it finds in the text. -/
theorem ends_of_plain {before after : List α} (hplain : r.Plain) :
    j ∈ ends same text r i →
      before.length + j ∈ ends same (before ++ text ++ after) r (before.length + i) := by
  have hget : ∀ i d, text[i]? = some d →
      (before ++ text ++ after)[before.length + i]? = some d := by
    intro i d hd
    obtain ⟨hi, -⟩ := List.getElem?_eq_some_iff.mp hd
    rw [List.append_assoc, List.getElem?_append_right (Nat.le_add_right _ _),
      Nat.add_sub_cancel_left, List.getElem?_append_left hi, hd]
  induction r generalizing i j with
  | empty =>
      simp only [mem_ends_empty]
      rintro rfl
      rfl
  | letter c =>
      simp only [mem_ends_letter]
      rintro ⟨⟨d, hd, h⟩, rfl⟩
      exact ⟨⟨d, hget i d hd, h⟩, rfl⟩
  | one p =>
      simp only [mem_ends_one]
      rintro ⟨⟨d, hd, h⟩, rfl⟩
      exact ⟨⟨d, hget i d hd, h⟩, rfl⟩
  | many p least most =>
      simp only [mem_ends_many]
      rintro ⟨k, hk, hleast, hmost, rfl⟩
      refine ⟨k, hk.trans ?_, hleast, hmost, (Nat.add_assoc _ _ _).symm⟩
      rw [run, run, List.append_assoc, List.drop_length_add_append]
      by_cases hi : i ≤ text.length
      · rw [List.drop_append_of_le_length hi, List.takeWhile_append]
        split
        · rw [List.length_append]
          exact (List.takeWhile_prefix p).length_le.trans (Nat.le_add_right _ _)
        · exact le_rfl
      · rw [List.drop_eq_nil_of_le (by omega)]
        exact Nat.zero_le _
  | seq r s ihr ihs =>
      simp only [mem_ends_seq]
      rintro ⟨k, hr, hs⟩
      exact ⟨_, ihr hplain.1 hr, ihs hplain.2 hs⟩
  | alt r s ihr ihs =>
      simp only [mem_ends_alt]
      exact Or.imp (ihr hplain.1) (ihs hplain.2)
  | start | stop | boundary => exact hplain.elim

end Regex

end Foundation
