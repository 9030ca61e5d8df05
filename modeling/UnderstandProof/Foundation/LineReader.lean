import UnderstandProof.Foundation.Drain
import UnderstandProof.Foundation.Except
import UnderstandProof.Foundation.Text

/-!
# Reading a text line by line

A reader that hands every complete line to a function and keeps the unfinished
line as its rest. What it does with a text is a fold over the lines of the text,
however the text arrives.
-/

namespace Foundation

open JsString

namespace JsString

/-- The lines of a text whose first line is complete. -/
theorem lines_append_newline {line : JsString} (h : newline ∉ line) (rest : JsString) :
    lines (line ++ newline :: rest) = line :: lines rest := by
  have hjoin : line ++ newline :: rest = joinLines (line :: lines rest) := by
    obtain ⟨first, more, hlines⟩ := List.exists_cons_of_ne_nil (lines_ne_nil rest)
    rw [hlines, joinLines_cons_cons, ← hlines, joinLines_lines]
  rw [hjoin]
  refine lines_joinLines ?_ (List.cons_ne_nil _ _)
  intro other hother
  rcases List.mem_cons.mp hother with rfl | hother
  · exact h
  · exact newline_not_mem_of_mem_lines hother

theorem lines_of_not_mem {text : JsString} (h : newline ∉ text) : lines text = [text] := by
  have hlines := lines_joinLines (l := [text]) (by simpa using h) (List.cons_ne_nil _ _)
  rwa [joinLines_singleton] at hlines

/-- A text with more than one line is its first line and a rest. -/
theorem exists_rest_of_lines {text line : JsString} {more : List JsString}
    (h : lines text = line :: more) (hne : more ≠ []) :
    ∃ rest, text = line ++ newline :: rest ∧ newline ∉ line ∧ lines rest = more := by
  have hline : newline ∉ line := newline_not_mem_of_mem_lines (h ▸ List.mem_cons_self)
  obtain ⟨next, others, rfl⟩ := List.exists_cons_of_ne_nil hne
  have htext := joinLines_lines text
  rw [h, joinLines_cons_cons] at htext
  refine ⟨_, htext.symm, hline, lines_joinLines ?_ hne⟩
  intro other hother
  exact newline_not_mem_of_mem_lines (h ▸ List.mem_cons_of_mem _ hother)

theorem eq_of_lines_singleton {text line : JsString} (h : lines text = [line]) :
    text = line ∧ newline ∉ text := by
  have htext := joinLines_lines text
  rw [h, joinLines_singleton] at htext
  subst htext
  exact ⟨rfl, newline_not_mem_of_mem_lines (h ▸ List.mem_cons_self)⟩

/-- More text goes on with the last line. -/
theorem lines_append {text : JsString} {complete : List JsString} {last : JsString}
    (h : lines text = complete ++ [last]) (more : JsString) :
    lines (text ++ more) = complete ++ lines (last ++ more) := by
  induction complete generalizing text with
  | nil => rw [(eq_of_lines_singleton h).1, List.nil_append]
  | cons line complete ih =>
      obtain ⟨rest, rfl, hline, hrest⟩ := exists_rest_of_lines h (by simp)
      rw [List.append_assoc, List.cons_append, lines_append_newline hline, ih hrest,
        List.cons_append]

end JsString

variable {σ ε : Type} (accept : σ → JsString → Except ε σ)

/-- Hands the first complete line to `accept`. -/
def lineReader : Consumer σ UInt16 ε where
  step state buffer :=
    if newline ∈ buffer then
      match accept state (buffer.takeWhile (· != newline)) with
      | .ok next => .consume ((buffer.takeWhile (· != newline)).length + 1) next
      | .error e => .fail e
    else .wait
  progress := by
    intro state buffer count next h
    split at h
    · next hmem =>
        split at h
        · cases h
          refine ⟨Nat.succ_pos _, ?_⟩
          have hne : buffer.takeWhile (· != newline) ≠ buffer := by
            intro heq
            have hall := List.takeWhile_eq_self_iff.mp heq newline hmem
            simp at hall
          have hsub := List.takeWhile_sublist (l := buffer) (· != newline)
          have hlt : (buffer.takeWhile (· != newline)).length ≠ buffer.length :=
            fun heq => hne (hsub.eq_of_length heq)
          have hle := hsub.length_le
          omega
        · cases h
    · cases h

variable {accept}

theorem takeWhile_line {line : JsString} (h : newline ∉ line) (rest : JsString) :
    (line ++ newline :: rest).takeWhile (· != newline) = line := by
  rw [List.takeWhile_append_of_pos, List.takeWhile_cons_of_neg (by simp), List.append_nil]
  intro c hc
  have hne : c ≠ newline := fun heq => h (heq ▸ hc)
  simpa using hne

theorem lineReader_step_line {line : JsString} (h : newline ∉ line) (state : σ)
    (rest : JsString) :
    (lineReader accept).step state (line ++ newline :: rest) = match accept state line with
      | .ok next => .consume (line.length + 1) next
      | .error e => .fail e := by
  have hmem : newline ∈ line ++ newline :: rest := by simp
  simp only [lineReader, if_pos hmem, takeWhile_line h]

theorem lineReader_step_wait {text : JsString} (h : newline ∉ text) (state : σ) :
    (lineReader accept).step state text = .wait := by
  simp only [lineReader, if_neg h]

/-- A line that is complete stays the first line. -/
theorem lineReader_stable : (lineReader accept).Stable := by
  intro state input more hwait
  by_cases hmem : newline ∈ input
  · obtain ⟨line, rest, rfl, hline⟩ := List.eq_append_cons_of_mem hmem
    rw [List.append_assoc, List.cons_append, lineReader_step_line hline,
      lineReader_step_line hline]
  · exact absurd (lineReader_step_wait hmem state) hwait

theorem drain_lineReader_line {line : JsString} (h : newline ∉ line) {state next : σ}
    (haccept : accept state line = .ok next) (rest : JsString) :
    (lineReader accept).drain state (line ++ newline :: rest) =
      (lineReader accept).drain next rest := by
  have hstep : (lineReader accept).step state _ = _ := lineReader_step_line h state rest
  rw [haccept] at hstep
  rw [Consumer.drain_of_consume hstep]
  simp

/-- The complete lines are handed over in their order, and the last one is left. -/
theorem drain_lineReader_of_ok {text last : JsString} {complete : List JsString}
    {state final : σ} (hlines : lines text = complete ++ [last])
    (h : complete.foldlM accept state = .ok final) :
    (lineReader accept).drain state text = ⟨final, last, .ok ()⟩ := by
  induction complete generalizing text state with
  | nil =>
      obtain ⟨rfl, hmem⟩ := eq_of_lines_singleton hlines
      cases h
      exact Consumer.drain_of_wait (lineReader_step_wait hmem _)
  | cons line complete ih =>
      obtain ⟨rest, rfl, hline, hrest⟩ := exists_rest_of_lines hlines (by simp)
      rw [List.foldlM_cons, bind_eq_ok] at h
      obtain ⟨next, hnext, h⟩ := h
      rw [drain_lineReader_line hline hnext, ih hrest h]

theorem drain_lineReader_of_error {text last : JsString} {complete : List JsString}
    {state : σ} {e : ε} (hlines : lines text = complete ++ [last])
    (h : complete.foldlM accept state = .error e) :
    ((lineReader accept).drain state text).outcome = .error e := by
  induction complete generalizing text state with
  | nil => cases h
  | cons line complete ih =>
      obtain ⟨rest, rfl, hline, hrest⟩ := exists_rest_of_lines hlines (by simp)
      rw [List.foldlM_cons, bind_eq_error] at h
      rcases h with h | ⟨next, hnext, h⟩
      · have hstep : (lineReader accept).step state _ = _ :=
          lineReader_step_line hline state rest
        rw [h] at hstep
        rw [Consumer.drain_of_fail hstep]
      · rw [drain_lineReader_line hline hnext, ih hrest h]

end Foundation
