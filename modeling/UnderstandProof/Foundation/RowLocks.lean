import UnderstandProof.Foundation.Table

/-!
# Row locks of transactions

A table of phases, one for each transaction, and a table of locks, one for each locked row. A phase
says which row its transaction has locked. `LockedBy` couples the two: a transaction holds the lock
of its row, and every lock is held by a transaction of that row. It survives the three steps of a
transaction: one without a lock before and after, one that takes a free lock, and one that gives
its lock back.
-/

namespace Foundation

variable {τ κ π : Type*} [DecidableEq τ] [DecidableEq κ]

namespace Table

/-- The table with no row under one key. -/
def erase (table : Table κ π) (key : κ) : Table κ π :=
  Function.update table key none

@[simp] theorem erase_self {table : Table κ π} {key : κ} : table.erase key key = none :=
  Function.update_self ..

theorem erase_of_ne {table : Table κ π} {key other : κ} (h : other ≠ key) :
    table.erase key other = table other :=
  Function.update_of_ne h ..

end Table

/-- The locks are those of the rows that the transactions have locked. -/
structure LockedBy (held : π → Option κ) (phases : Table τ π) (locks : Table κ τ) : Prop where
  locked : ∀ call phase key, phases call = some phase → held phase = some key →
    locks key = some call
  holder : ∀ key call, locks key = some call →
    ∃ phase, phases call = some phase ∧ held phase = some key

namespace LockedBy

variable {held : π → Option κ} {phases : Table τ π} {locks : Table κ τ} {call : τ}
  {old phase : π} {key : κ}

omit [DecidableEq τ] [DecidableEq κ] in
/-- No transaction is under way. -/
theorem start : LockedBy held (fun _ : τ => none) (fun _ : κ => none) where
  locked _ _ _ hphase := absurd hphase (Option.some_ne_none _).symm
  holder _ _ hlock := absurd hlock (Option.some_ne_none _).symm

omit [DecidableEq τ] [DecidableEq κ] in
/-- Two transactions never hold the lock of one row. -/
theorem eq_of_held (h : LockedBy held phases locks) {other : τ} {otherPhase : π}
    (hphase : phases call = some phase) (hother : phases other = some otherPhase)
    (hkey : held phase = some key) (hotherKey : held otherPhase = some key) : call = other :=
  Option.some.inj ((h.locked call phase key hphase hkey).symm.trans
    (h.locked other otherPhase key hother hotherKey))

omit [DecidableEq κ] in
/-- A transaction without a lock moves on to a phase without one. -/
theorem move (h : LockedBy held phases locks)
    (hold : ∀ phase, phases call = some phase → held phase = none) (hnew : held phase = none) :
    LockedBy held (phases.set call phase) locks where
  locked other otherPhase key hother hkey := by
    rcases Table.eq_or_of_set hother with ⟨-, rfl⟩ | hold
    · rw [hnew] at hkey
      cases hkey
    · exact h.locked other otherPhase key hold hkey
  holder key other hlock := by
    obtain ⟨otherPhase, hother, hkey⟩ := h.holder key other hlock
    refine ⟨otherPhase, (Table.set_of_ne ?_).trans hother, hkey⟩
    rintro rfl
    rw [hold otherPhase hother] at hkey
    cases hkey

/-- A transaction without a lock takes one that is free. -/
theorem acquire (h : LockedBy held phases locks)
    (hold : ∀ phase, phases call = some phase → held phase = none) (hfree : locks key = none)
    (hnew : held phase = some key) :
    LockedBy held (phases.set call phase) (locks.set key call) where
  locked other otherPhase otherKey hother hkey := by
    rcases Table.eq_or_of_set hother with ⟨rfl, rfl⟩ | hother
    · rw [hnew] at hkey
      cases hkey
      exact Table.set_self
    · have hlock := h.locked other otherPhase otherKey hother hkey
      refine (Table.set_of_ne ?_).trans hlock
      rintro rfl
      rw [hfree] at hlock
      cases hlock
  holder otherKey other hlock := by
    rcases Table.eq_or_of_set hlock with ⟨rfl, rfl⟩ | hlock
    · exact ⟨phase, Table.set_self, hnew⟩
    · obtain ⟨otherPhase, hother, hkey⟩ := h.holder otherKey other hlock
      refine ⟨otherPhase, (Table.set_of_ne ?_).trans hother, hkey⟩
      rintro rfl
      rw [hold otherPhase hother] at hkey
      cases hkey

/-- A transaction gives its lock back. -/
theorem release (h : LockedBy held phases locks) (hphase : phases call = some old)
    (hold : held old = some key) (hnew : held phase = none) :
    LockedBy held (phases.set call phase) (locks.erase key) where
  locked other otherPhase otherKey hother hkey := by
    rcases Table.eq_or_of_set hother with ⟨-, rfl⟩ | hother'
    · rw [hnew] at hkey
      cases hkey
    · refine (Table.erase_of_ne ?_).trans (h.locked other otherPhase otherKey hother' hkey)
      rintro rfl
      obtain rfl := h.eq_of_held hphase hother' hold hkey
      obtain rfl := Option.some.inj (Table.set_self.symm.trans hother)
      rw [hnew] at hkey
      cases hkey
  holder otherKey other hlock := by
    by_cases hsame : otherKey = key
    · rw [hsame, Table.erase_self] at hlock
      cases hlock
    · rw [Table.erase_of_ne hsame] at hlock
      obtain ⟨otherPhase, hother, hkey⟩ := h.holder otherKey other hlock
      refine ⟨otherPhase, (Table.set_of_ne ?_).trans hother, hkey⟩
      rintro rfl
      rw [hphase] at hother
      cases hother
      exact hsame (Option.some.inj (hkey.symm.trans hold))

end LockedBy

end Foundation
