import Mathlib.Algebra.Order.Group.Defs
import Mathlib.Data.List.Induction
import Mathlib.Data.List.Sort
import Mathlib.Tactic.Linarith

/-!
# Events in a sliding window

The events that count at a time are those of the half-open window that ends
there. When every event that is added has seen fewer events than the limit in its
own window, no window at any time holds more than the limit. A full window holds
one event less as soon as its oldest one has left it.
-/

namespace Foundation

namespace SlidingWindow

variable {T : Type*} [AddCommGroup T] [LinearOrder T]

/-- The times in the window of this length that ends at `now`. -/
def recent (window now : T) (times : List T) : List T :=
  times.filter fun time => now - window < time ∧ time ≤ now

variable {window now later : T} {times : List T}

theorem mem_recent {time : T} :
    time ∈ recent window now times ↔ time ∈ times ∧ now - window < time ∧ time ≤ now := by
  simp [recent]

theorem recent_append (more : List T) :
    recent window now (times ++ more) = recent window now times ++ recent window now more :=
  List.filter_append _ _

variable [IsOrderedAddMonoid T]

/-- What a later window keeps of times that have passed. -/
theorem recent_later (htimes : ∀ time ∈ times, time ≤ now) (hlater : now ≤ later) :
    recent window later times =
      (recent window now times).filter fun time => later - window < time := by
  rw [recent, recent, List.filter_filter]
  apply List.filter_congr
  intro time htime
  have hle := htimes time htime
  have hle' := hle.trans hlater
  rw [Bool.eq_iff_iff]
  simp only [decide_eq_true_eq, Bool.and_eq_true, hle, hle', and_true]
  constructor
  · intro h
    exact ⟨h, (sub_le_sub_right hlater window).trans_lt h⟩
  · rintro ⟨h, -⟩
    exact h

theorem length_recent_later_le (htimes : ∀ time ∈ times, time ≤ now) (hlater : now ≤ later) :
    (recent window later times).length ≤ (recent window now times).length := by
  rw [recent_later htimes hlater]
  exact List.length_filter_le _ _

/-- Once an event has left the window, fewer events count. -/
theorem length_recent_later_lt (htimes : ∀ time ∈ times, time ≤ now) (hlater : now ≤ later)
    {oldest : T} (hmem : oldest ∈ recent window now times)
    (hleft : oldest ≤ later - window) :
    (recent window later times).length < (recent window now times).length := by
  rw [recent_later htimes hlater]
  refine lt_of_le_of_ne (List.length_filter_le _ _) ?_
  intro hlength
  have hall := List.length_filter_eq_length_iff.mp hlength oldest hmem
  rw [decide_eq_true_eq] at hall
  exact absurd hall (not_lt.mpr hleft)

/-- An event that sees fewer than the limit in its own window leaves every window
within the limit. -/
theorem length_recent_concat_le {limit : ℕ} (htimes : ∀ time ∈ times, time ≤ now)
    (hbound : ∀ t, (recent window t times).length ≤ limit)
    (hroom : (recent window now times).length < limit) (t : T) :
    (recent window t (times ++ [now])).length ≤ limit := by
  rw [recent_append, List.length_append]
  by_cases ht : now ≤ t
  · have hle : (recent window t times).length ≤ (recent window now times).length :=
      length_recent_later_le htimes ht
    have hone : (recent window t [now]).length ≤ 1 := List.length_filter_le _ _
    omega
  · have hnone : recent window t [now] = [] := by
      rw [List.eq_nil_iff_forall_not_mem]
      intro time htime
      obtain ⟨hmem, -, hle⟩ := mem_recent.mp htime
      rw [List.mem_singleton.mp hmem] at hle
      exact ht hle
    rw [hnone, List.length_nil, Nat.add_zero]
    exact hbound t

/-! ## Clocks out of order

Each event of a log has a clock of its own, and the log is in the order in which the events were
added. An event counts the earlier ones of the log from the start of its own window on, also those
whose clocks are ahead of its own. -/

section Log

variable {α : Type*} {time : α → T} {selected : α → Bool} {log : List α} {limit : ℕ}

/-- The selected events from a time on. -/
def countSince (time : α → T) (selected : α → Bool) (since : T) (log : List α) : ℕ :=
  log.countP fun event => selected event = true ∧ since ≤ time event

/-- The selected events of the closed interval of this length. -/
def countWithin (time : α → T) (selected : α → Bool) (window start : T) (log : List α) : ℕ :=
  log.countP fun event => selected event = true ∧ start ≤ time event ∧ time event ≤ start + window

/-- Every selected event has seen fewer than the limit. -/
def SeesFewer (time : α → T) (selected : α → Bool) (window : T) (limit : ℕ) (log : List α) :
    Prop :=
  ∀ front event rest, log = front ++ event :: rest → selected event = true →
    countSince time selected (time event - window) front < limit

omit [IsOrderedAddMonoid T] in
theorem seesFewer_nil : SeesFewer time selected window limit [] := by
  intro front event rest h
  cases front <;> cases h

omit [IsOrderedAddMonoid T] in
theorem seesFewer_concat {event : α} (h : SeesFewer time selected window limit log)
    (hevent : selected event = true →
      countSince time selected (time event - window) log < limit) :
    SeesFewer time selected window limit (log ++ [event]) := by
  intro front found rest heq hselected
  rcases List.eq_nil_or_concat rest with rfl | ⟨rest, last, rfl⟩
  · obtain ⟨rfl, rfl⟩ := List.append_singleton_inj.mp heq
    exact hevent hselected
  · rw [List.concat_eq_append, ← List.cons_append, ← List.append_assoc] at heq
    obtain ⟨heq, -⟩ := List.append_singleton_inj.mp heq
    exact h front found rest heq hselected

omit [IsOrderedAddMonoid T] in
theorem SeesFewer.front {front rest : List α}
    (h : SeesFewer time selected window limit (front ++ rest)) :
    SeesFewer time selected window limit front :=
  fun before event more hmore => h before event (more ++ rest)
    (by rw [hmore, List.append_assoc, List.cons_append])

/-- Then no closed interval of the length of the window has more than the limit: its last event
has counted all the others. -/
theorem countWithin_le (h : SeesFewer time selected window limit log) (start : T) :
    countWithin time selected window start log ≤ limit := by
  induction log using List.reverseRecOn with
  | nil => exact Nat.zero_le limit
  | append_singleton log event ih =>
      rw [countWithin, List.countP_append, List.countP_singleton]
      split
      · next hevent =>
        obtain ⟨hselected, -, hlast⟩ := of_decide_eq_true hevent
        have hfewer := h log event [] rfl hselected
        have hcounted : countWithin time selected window start log ≤
            countSince time selected (time event - window) log := by
          refine List.countP_mono_left fun other _ hother => ?_
          obtain ⟨hsame, hfirst, -⟩ := of_decide_eq_true hother
          refine decide_eq_true ⟨hsame, ?_⟩
          exact (sub_le_iff_le_add.mpr hlast).trans hfirst
        exact hcounted.trans_lt hfewer
      · exact ih h.front

omit [IsOrderedAddMonoid T] [AddCommGroup T] in
theorem countSince_anti {since later : T} (h : since ≤ later) :
    countSince time selected later log ≤ countSince time selected since log := by
  refine List.countP_mono_left fun event _ hevent => ?_
  obtain ⟨hselected, hlater⟩ := of_decide_eq_true hevent
  exact decide_eq_true ⟨hselected, h.trans hlater⟩

omit [IsOrderedAddMonoid T] [AddCommGroup T] in
/-- An event that does not count any more makes room. -/
theorem countSince_lt {since later : T} {event : α} (h : since ≤ later) (hmem : event ∈ log)
    (hselected : selected event = true) (hcounted : since ≤ time event)
    (hleft : time event < later) :
    countSince time selected later log < countSince time selected since log := by
  obtain ⟨front, rest, rfl⟩ := List.append_of_mem hmem
  have hfront : countSince time selected later front ≤ countSince time selected since front :=
    countSince_anti h
  have hrest : countSince time selected later rest ≤ countSince time selected since rest :=
    countSince_anti h
  unfold countSince at hfront hrest ⊢
  rw [List.countP_append, List.countP_append, List.countP_cons_of_neg,
    List.countP_cons_of_pos]
  · omega
  · exact decide_eq_true ⟨hselected, hcounted⟩
  · simpa using fun _ => hleft

/-- While no clock is ahead, what counts is within the window. -/
theorem countSince_le (h : SeesFewer time selected window limit log)
    (hahead : ∀ event ∈ log, time event ≤ now) :
    countSince time selected (now - window) log ≤ limit := by
  refine le_trans (List.countP_mono_left fun event hmem hevent => ?_)
    (countWithin_le h (now - window))
  obtain ⟨hselected, hcounted⟩ := of_decide_eq_true hevent
  refine decide_eq_true ⟨hselected, hcounted, ?_⟩
  rw [sub_add_cancel]
  exact hahead event hmem

end Log

end SlidingWindow

end Foundation
