import Mathlib.Data.List.Dedup
import Mathlib.Data.List.Perm.Subperm

/-!
# Sets in the order of insertion

A JavaScript `Set` is the list of its elements in the order in which they were added.
Adding an element again changes nothing, so the elements of a list keep the places
where they come first, which is `List.eraseDups`.
-/

namespace Foundation

variable {α : Type*} [DecidableEq α]

/-- `if (c) set.add(a)` -/
def addIf (set : List α) (c : Prop) [Decidable c] (a : α) : List α :=
  if c ∧ a ∉ set then set ++ [a] else set

@[simp] theorem addIf_eq_nil {set : List α} {c : Prop} [Decidable c] {a : α} :
    addIf set c a = [] ↔ set = [] ∧ ¬ c := by
  unfold addIf
  split
  · next h => simp [h.1]
  · next h =>
      constructor
      · rintro rfl
        exact ⟨rfl, fun hc => h ⟨hc, List.not_mem_nil⟩⟩
      · exact fun h => h.1

theorem mem_addIf {set : List α} {c : Prop} [Decidable c] {a b : α} :
    b ∈ addIf set c a ↔ b ∈ set ∨ c ∧ b = a := by
  unfold addIf
  split
  · next h => simp [h.1]
  · next h =>
      constructor
      · exact .inl
      · rintro (hb | ⟨hc, rfl⟩)
        · exact hb
        · by_contra hb
          exact h ⟨hc, hb⟩

theorem addIf_of_not {set : List α} {c : Prop} [Decidable c] {a : α} (h : ¬ c) :
    addIf set c a = set := if_neg fun hc => h hc.1

section Fold

variable {β : Type*} {p : β → Prop} [DecidablePred p] {a b : α}

theorem mem_foldl_addIf {l : List β} {set : List α} :
    b ∈ l.foldl (fun set x => addIf set (p x) a) set ↔ b ∈ set ∨ (∃ x ∈ l, p x) ∧ b = a := by
  induction l generalizing set with
  | nil => simp
  | cons x l ih =>
      rw [List.foldl_cons, ih, mem_addIf, or_assoc, ← or_and_right, List.exists_mem_cons_iff]

theorem foldl_addIf_eq_nil {l : List β} {set : List α} :
    l.foldl (fun set x => addIf set (p x) a) set = [] ↔ set = [] ∧ ∀ x ∈ l, ¬ p x := by
  induction l generalizing set with
  | nil => simp
  | cons x l ih => rw [List.foldl_cons, ih, addIf_eq_nil, and_assoc, List.forall_mem_cons]

end Fold

theorem forall_zipIdx {γ : Type*} {p : γ → Prop} {l : List γ} :
    (∀ entry ∈ l.zipIdx, p entry.1) ↔ ∀ x ∈ l, p x := by
  constructor
  · intro h x hx
    obtain ⟨i, hi⟩ := List.mem_iff_getElem?.mp hx
    exact h (x, i) (List.mem_zipIdx_iff_getElem?.mpr hi)
  · exact fun h entry hentry => h _ (List.fst_mem_of_mem_zipIdx hentry)

/-- In a list without repetitions no element comes again. -/
theorem not_mem_take_of_nodup {γ : Type*} {f : γ → α} {l : List γ} (h : (l.map f).Nodup)
    {entry : γ × ℕ} (hentry : entry ∈ l.zipIdx) : f entry.1 ∉ (l.take entry.2).map f := by
  obtain ⟨x, i⟩ := entry
  rw [List.mem_zipIdx_iff_getElem?] at hentry
  induction l generalizing i with
  | nil => simp at hentry
  | cons y l ih =>
      rw [List.map_cons, List.nodup_cons] at h
      cases i with
      | zero => simp
      | succ i =>
          rw [List.getElem?_cons_succ] at hentry
          rw [List.take_succ_cons, List.map_cons, List.mem_cons, not_or]
          refine ⟨fun heq => h.1 (heq ▸ List.mem_map_of_mem (List.mem_of_getElem? hentry)), ?_⟩
          exact ih h.2 i hentry

/-- A list in which no element comes again has no repetitions. -/
theorem nodup_of_not_mem_take {γ : Type*} {f : γ → α} {l : List γ}
    (h : ∀ entry ∈ l.zipIdx, f entry.1 ∉ (l.take entry.2).map f) : (l.map f).Nodup := by
  rw [List.Nodup, List.pairwise_iff_getElem]
  intro i j hi hj hlt heq
  rw [List.length_map] at hi hj
  rw [List.getElem_map, List.getElem_map] at heq
  refine h (l[j], j) (List.mem_zipIdx_iff_getElem?.mpr (List.getElem?_eq_getElem hj)) ?_
  rw [← heq]
  exact List.mem_map_of_mem (List.mem_take_iff_getElem.mpr ⟨i, by omega, rfl⟩)

section Dups

variable {β : Type*} [BEq β] [LawfulBEq β]

theorem mem_eraseDups {a : β} : ∀ {l : List β}, a ∈ l.eraseDups ↔ a ∈ l
  | [] => by simp
  | b :: l => by
      rw [List.eraseDups_cons, List.mem_cons, List.mem_cons, mem_eraseDups, List.mem_filter]
      by_cases h : a = b <;> simp [h]
  termination_by l => l.length
  decreasing_by exact Nat.lt_succ_of_le (List.length_filter_le _ _)

theorem nodup_eraseDups : ∀ l : List β, l.eraseDups.Nodup
  | [] => by simp
  | b :: l => by
      rw [List.eraseDups_cons, List.nodup_cons, mem_eraseDups]
      exact ⟨by simp, nodup_eraseDups _⟩
  termination_by l => l.length
  decreasing_by exact Nat.lt_succ_of_le (List.length_filter_le _ _)

/-- A set of elements of a list is no longer than the list. -/
theorem length_eraseDups_le {l m : List β} (h : ∀ a ∈ l, a ∈ m) :
    l.eraseDups.length ≤ m.length :=
  (List.subperm_of_subset (nodup_eraseDups l) fun a ha => h a (mem_eraseDups.mp ha)).length_le

/-- A list without repetitions has as many elements as its set. -/
theorem length_eraseDups_of_nodup {l : List β} (h : l.Nodup) : l.eraseDups.length = l.length :=
  Nat.le_antisymm (length_eraseDups_le fun _ ha => ha)
    (List.subperm_of_subset h fun _ ha => mem_eraseDups.mpr ha).length_le

end Dups

end Foundation
