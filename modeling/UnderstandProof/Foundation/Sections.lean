import Mathlib.Data.List.Basic

/-!
# Reading a sequence in sections

A loop that keeps an open section: an element that starts a section closes the
open one and opens the next, every other element is added to the open section,
and elements before the first section are passed over. On a sequence that is
made of sections the loop is a fold over them.
-/

namespace Foundation

/-- What a loop over sections does with an element and with a closed section. -/
structure SectionReader (α σ β : Type*) where
  start : α → Option σ
  add : σ → α → σ
  emit : β → σ → β

namespace SectionReader

variable {α σ β : Type*} (reader : SectionReader α σ β)

/-- The open section goes into the result. -/
def flush (out : β) (current : Option σ) : β := current.elim out (reader.emit out)

def step (state : β × Option σ) (a : α) : β × Option σ :=
  match reader.start a with
  | some opened => (reader.flush state.1 state.2, some opened)
  | none => (state.1, state.2.map fun current => reader.add current a)

/-- The end of the sequence closes the open section. -/
def close (state : β × Option σ) : β := reader.flush state.1 state.2

def run (out : β) (l : List α) : β := reader.close (l.foldl reader.step (out, none))

variable {reader}

theorem foldl_step_of_body {body : List α} (hbody : ∀ a ∈ body, reader.start a = none)
    (out : β) (current : Option σ) :
    body.foldl reader.step (out, current) =
      (out, current.map fun section₀ => body.foldl reader.add section₀) := by
  induction body generalizing current with
  | nil => cases current <;> rfl
  | cons a body ih =>
      rw [List.forall_mem_cons] at hbody
      rw [List.foldl_cons, step, hbody.1, ih hbody.2]
      cases current <;> rfl

section Joined

variable {ι : Type*} {head : ι → α} {body : ι → List α} {first : ι → σ} {sections : List ι}

/-- A sequence made of sections, each with its first element and the others. -/
def joined (head : ι → α) (body : ι → List α) (sections : List ι) : List α :=
  sections.flatMap fun s => head s :: body s

theorem close_foldl_joined
    (hstart : ∀ s ∈ sections, reader.start (head s) = some (first s))
    (hbody : ∀ s ∈ sections, ∀ a ∈ body s, reader.start a = none)
    (state : β × Option σ) :
    reader.close ((joined head body sections).foldl reader.step state) =
      sections.foldl (fun out s => reader.emit out ((body s).foldl reader.add (first s)))
        (reader.close state) := by
  induction sections generalizing state with
  | nil => rfl
  | cons s sections ih =>
      rw [List.forall_mem_cons] at hstart hbody
      have hjoined : joined head body (s :: sections) =
        head s :: (body s ++ joined head body sections) := rfl
      rw [hjoined, List.foldl_cons, List.foldl_append, step, hstart.1,
        foldl_step_of_body hbody.1, ih hstart.2 hbody.2, List.foldl_cons]
      rfl

/-- Every section is emitted once, in order. -/
theorem run_joined (hstart : ∀ s ∈ sections, reader.start (head s) = some (first s))
    (hbody : ∀ s ∈ sections, ∀ a ∈ body s, reader.start a = none) (out : β) :
    reader.run out (joined head body sections) =
      sections.foldl (fun out s => reader.emit out ((body s).foldl reader.add (first s)))
        out :=
  close_foldl_joined hstart hbody (out, none)

end Joined

end SectionReader

end Foundation
