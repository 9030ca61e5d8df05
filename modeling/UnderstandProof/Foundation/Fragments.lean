import Mathlib.Data.List.DropRight

/-!
# Fragments of a text

Pieces stand in a text, one behind the other, with gaps of given units before, between and behind
them. A piece starts with a unit that is in no gap and ends with a unit of its own kind, so what is
cut off a text in front or behind leaves its pieces where they are as long as it has no such units.
-/

namespace Foundation

variable {α β : Type*}

/-- The pieces `bs` stand in a text. -/
inductive Fragments (isGap : α → Bool) (Piece : β → List α → Prop) : List β → List α → Prop
  | none {gap} (hgap : ∀ c ∈ gap, isGap c = true) : Fragments isGap Piece [] gap
  | piece {gap b text bs rest} (hgap : ∀ c ∈ gap, isGap c = true) (h : Piece b text)
      (hrest : Fragments isGap Piece bs rest) :
      Fragments isGap Piece (b :: bs) (gap ++ (text ++ rest))

/-- Every piece starts with a unit that is in no gap, and ends with a closing unit. -/
def Delimited (isGap isEnd : α → Bool) (Piece : β → List α → Prop) : Prop :=
  ∀ b text, Piece b text →
    ∃ first inner last, text = first :: (inner ++ [last]) ∧ isGap first = false ∧ isEnd last = true

namespace Fragments

variable {isGap isEnd : α → Bool} {Piece : β → List α → Prop} {bs : List β}

theorem not_mem_of_gap {c : α} (hc : isGap c = false) {gap : List α}
    (hgap : ∀ d ∈ gap, isGap d = true) : c ∉ gap := by
  intro hmem
  rw [hgap c hmem] at hc
  cases hc

section Cuts

variable (hdelimited : Delimited isGap isEnd Piece)

include hdelimited

/-- The same pieces stand behind a text of gap units. -/
theorem of_append_left {a b : List α} (ha : ∀ c ∈ a, isGap c = true)
    (h : Fragments isGap Piece bs (a ++ b)) : Fragments isGap Piece bs b := by
  generalize htext : a ++ b = text at h
  cases h with
  | none hgap => exact .none fun c hc => hgap c (htext ▸ List.mem_append_right a hc)
  | @piece gap _ text _ rest hgap h hrest =>
      obtain ⟨first, inner, last, rfl, hfirst, -⟩ := hdelimited _ _ h
      obtain ⟨c, rfl, rfl⟩ | ⟨c, rfl, hc⟩ := List.append_eq_append_iff.mp htext
      · exact .piece (fun d hd => hgap d (List.mem_append_right _ hd)) h hrest
      · cases c with
        | nil =>
            obtain rfl : _ = b := hc
            exact @Fragments.piece _ _ _ _ [] _ _ _ _ (List.forall_mem_nil _) h hrest
        | cons d c =>
            obtain rfl : first = d := by simpa using congrArg List.head? hc
            exact (not_mem_of_gap hfirst ha (List.mem_append_right gap List.mem_cons_self)).elim

/-- The same pieces stand before a text without closing units. -/
theorem of_append_right {a b : List α} (hb : ∀ c ∈ b, isEnd c = false)
    (h : Fragments isGap Piece bs (a ++ b)) : Fragments isGap Piece bs a := by
  generalize htext : a ++ b = text at h
  induction h generalizing a with
  | none hgap => exact .none fun c hc => hgap c (htext ▸ List.mem_append_left b hc)
  | @piece gap _ text _ rest hgap h hrest ih =>
      obtain ⟨first, inner, last, rfl, -, hlast⟩ := hdelimited _ _ h
      have hassoc : gap ++ (first :: (inner ++ [last]) ++ rest) =
          gap ++ first :: inner ++ ([last] ++ rest) := by simp
      rw [hassoc] at htext
      have hclosed : last ∉ b := fun hmem => by
        rw [hb last hmem] at hlast
        cases hlast
      obtain ⟨c, _, rfl⟩ | ⟨c, rfl, hc⟩ := List.append_eq_append_iff.mp htext
      · exact (hclosed (by simp)).elim
      · cases c with
        | nil =>
            obtain rfl : last :: rest = b := hc
            exact (hclosed List.mem_cons_self).elim
        | cons d c =>
            rw [List.singleton_append, List.cons_append] at hc
            injection hc with hd hc
            have htail := Fragments.piece hgap h (ih hc.symm)
            rw [← hd]
            simpa using htail

/-- Gap units are stripped in front. -/
theorem dropWhile {p : α → Bool} (hp : ∀ c, p c = true → isGap c = true) {text : List α}
    (h : Fragments isGap Piece bs text) : Fragments isGap Piece bs (text.dropWhile p) := by
  rw [← List.takeWhile_append_dropWhile (p := p) (l := text)] at h
  exact of_append_left hdelimited (fun c hc => hp c (List.mem_takeWhile_imp hc)) h

/-- Units that close nothing are stripped behind. -/
theorem rdropWhile {p : α → Bool} (hp : ∀ c, p c = true → isEnd c = false) {text : List α}
    (h : Fragments isGap Piece bs text) : Fragments isGap Piece bs (text.rdropWhile p) := by
  rw [← @List.rdropWhile_append_rtakeWhile _ p text] at h
  exact of_append_right hdelimited (fun c hc => hp c (List.mem_rtakeWhile_imp hc)) h

theorem eq_nil {text : List α} (h : Fragments isGap Piece bs text)
    (htext : ∀ c ∈ text, isGap c = true) : bs = [] := by
  cases h with
  | none _ => rfl
  | piece _ h _ =>
      obtain ⟨first, inner, last, rfl, hfirst, -⟩ := hdelimited _ _ h
      exact (not_mem_of_gap hfirst htext (by simp)).elim

end Cuts

end Fragments

end Foundation
