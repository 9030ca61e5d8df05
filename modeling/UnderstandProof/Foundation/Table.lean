import Mathlib.Data.List.Nodup
import Mathlib.Data.Option.Basic
import Mathlib.Logic.Function.Basic

/-!
# Tables

A table with a unique key is a partial function from the keys to the rows. `upsert` is
`INSERT … ON CONFLICT (key) DO UPDATE … WHERE … RETURNING`: it inserts a row where there
is none, updates the row that is there when the condition lets it, and returns the row
written; `updateAll` is `UPDATE … WHERE` over the whole table.

Where the order of the inserts matters, a table is the list of its rows. `Grown R xs ys new` says
that statements have replaced each row of `xs` by one that `R` relates it to, and have inserted
`new`.
-/

namespace Foundation

/-- The rows of a table by their unique key. -/
abbrev Table (κ ρ : Type*) := κ → Option ρ

namespace Table

variable {κ ρ : Type*} [DecidableEq κ]

/-- The table with the row of one key replaced. -/
def set (table : Table κ ρ) (key : κ) (row : ρ) : Table κ ρ :=
  Function.update table key (some row)

/-- Inserts `inserted`, or puts `updated old` in the place of `old`; `none` is an update
that the `WHERE` clause rejects. Returns the row written. -/
def upsert (table : Table κ ρ) (key : κ) (inserted : ρ) (updated : ρ → Option ρ) :
    Table κ ρ × Option ρ :=
  match (table key).elim (some inserted) updated with
  | some row => (table.set key row, some row)
  | none => (table, none)

/-- `UPDATE … WHERE condition` -/
def updateAll (table : Table κ ρ) (condition : κ → ρ → Bool) (change : ρ → ρ) : Table κ ρ :=
  fun key => (table key).map fun row => if condition key row then change row else row

variable {table : Table κ ρ} {key other : κ} {row inserted : ρ} {updated : ρ → Option ρ}

@[simp] theorem set_self : table.set key row key = some row := Function.update_self ..

theorem set_of_ne (h : other ≠ key) : table.set key row other = table other :=
  Function.update_of_ne h ..

theorem set_apply : table.set key row other = if other = key then some row else table other :=
  Function.update_apply ..

/-- An upsert writes the row it returns, or nothing. -/
theorem eq_or_of_set (h : table.set key row other = some found) :
    other = key ∧ found = row ∨ table other = some found := by
  rw [set_apply] at h
  split at h
  · next hkey => exact .inl ⟨hkey, (Option.some.inj h).symm⟩
  · exact .inr h

theorem upsert_eq (table : Table κ ρ) (key : κ) (inserted : ρ) (updated : ρ → Option ρ) :
    (∃ row, (table key).elim (some inserted) updated = some row ∧
      table.upsert key inserted updated = (table.set key row, some row)) ∨
    (∃ old, table key = some old ∧ updated old = none ∧
      table.upsert key inserted updated = (table, none)) := by
  unfold upsert
  cases hrow : (table key).elim (some inserted) updated with
  | some row => exact .inl ⟨row, rfl, rfl⟩
  | none =>
      cases hold : table key with
      | none =>
          rw [hold] at hrow
          cases hrow
      | some old =>
          rw [hold] at hrow
          exact .inr ⟨old, rfl, hrow, rfl⟩

/-- An upsert leaves the other keys alone. -/
theorem upsert_of_ne (h : other ≠ key) :
    (table.upsert key inserted updated).1 other = table other := by
  rcases table.upsert_eq key inserted updated with ⟨row, -, heq⟩ | ⟨old, -, -, heq⟩
  · rw [heq]
    exact set_of_ne h
  · rw [heq]

/-- Every row after an upsert was there before, or is the row returned. -/
theorem eq_or_of_upsert (h : (table.upsert key inserted updated).1 other = some row) :
    table other = some row ∨
      other = key ∧ (table.upsert key inserted updated).2 = some row ∧
        (table key).elim (some inserted) updated = some row := by
  rcases table.upsert_eq key inserted updated with ⟨new, hnew, heq⟩ | ⟨old, -, -, heq⟩
  · rw [heq] at h
    change table.set key new other = some row at h
    rw [set_apply] at h
    split at h
    · next hkey =>
      obtain rfl := Option.some_inj.mp h
      exact .inr ⟨hkey, by rw [heq], hnew⟩
    · exact .inl h
  · rw [heq] at h
    exact .inl h

omit [DecidableEq κ] in
theorem updateAll_eq_some {condition : κ → ρ → Bool} {change : ρ → ρ} :
    table.updateAll condition change key = some row ↔
      ∃ old, table key = some old ∧ (if condition key old then change old else old) = row := by
  simp [updateAll]

end Table

/-! ## Tables that only grow -/

section

variable {α κ : Type*} {R : α → α → Prop} {xs ys new : List α} {x y : α} {key : α → κ}

/-- The rows `ys` are those of `xs`, each changed along `R`, and then those of `new`. -/
def Grown (R : α → α → Prop) (xs ys new : List α) : Prop :=
  ∃ change : α → α, (∀ x, R x (change x)) ∧ ys = xs.map change ++ new

theorem grown_append (hrefl : ∀ x, R x x) : Grown R xs (xs ++ new) new :=
  ⟨id, hrefl, by rw [List.map_id]⟩

theorem grown_refl (hrefl : ∀ x, R x x) : Grown R xs xs [] :=
  ⟨id, hrefl, by rw [List.map_id, List.append_nil]⟩

theorem grown_map {change : α → α} (h : ∀ x, R x (change x)) : Grown R xs (xs.map change) [] :=
  ⟨change, h, by rw [List.append_nil]⟩

namespace Grown

theorem append_map {change : α → α} (h : ∀ x, R x (change x)) :
    Grown R xs (xs.map change ++ new) new :=
  ⟨change, h, rfl⟩

/-- Every row is still there, changed. -/
theorem forward (h : Grown R xs ys new) (hmem : x ∈ xs) : ∃ y ∈ ys, R x y := by
  obtain ⟨change, hchange, rfl⟩ := h
  exact ⟨change x, List.mem_append_left _ (List.mem_map_of_mem hmem), hchange x⟩

/-- Every row was there before, or is new. -/
theorem backward (h : Grown R xs ys new) (hmem : y ∈ ys) : (∃ x ∈ xs, R x y) ∨ y ∈ new := by
  obtain ⟨change, hchange, rfl⟩ := h
  rcases List.mem_append.mp hmem with hmem | hmem
  · obtain ⟨x, hx, rfl⟩ := List.mem_map.mp hmem
    exact .inl ⟨x, hx, hchange x⟩
  · exact .inr hmem

/-- A key that no change touches. -/
theorem keys (h : Grown R xs ys new) (hkey : ∀ x y, R x y → key y = key x) :
    ys.map key = xs.map key ++ new.map key := by
  obtain ⟨change, hchange, rfl⟩ := h
  rw [List.map_append, List.map_map]
  congr 1
  exact List.map_congr_left fun x _ => hkey x _ (hchange x)

/-- A unique key stays unique while the new rows have one that no row has. -/
theorem nodup (h : Grown R xs ys new) (hkey : ∀ x y, R x y → key y = key x)
    (hxs : (xs.map key).Nodup) (hnew : (new.map key).Nodup)
    (hfresh : ∀ x ∈ xs, ∀ y ∈ new, key x ≠ key y) : (ys.map key).Nodup := by
  rw [h.keys hkey, List.nodup_append]
  refine ⟨hxs, hnew, fun a ha b hb => ?_⟩
  obtain ⟨x, hx, rfl⟩ := List.mem_map.mp ha
  obtain ⟨y, hy, rfl⟩ := List.mem_map.mp hb
  exact hfresh x hx y hy

/-- The same for one new row at most. -/
theorem nodup_toList {row : Option α} (h : Grown R xs ys row.toList)
    (hkey : ∀ x y, R x y → key y = key x) (hxs : (xs.map key).Nodup)
    (hfresh : ∀ new, row = some new → ∀ x ∈ xs, key x ≠ key new) : (ys.map key).Nodup := by
  refine h.nodup hkey hxs ?_ fun x hx new hnew => hfresh new (Option.mem_toList.mp hnew) x hx
  cases row with
  | none => exact List.nodup_nil
  | some new => exact List.nodup_singleton _

end Grown

end

end Foundation
