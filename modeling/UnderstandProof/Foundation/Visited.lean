import Mathlib.Data.Fintype.Card
import Mathlib.Logic.Relation

/-!
# Searching along a chain

A chain goes from a node to the next one, as long as there is one. It may run into itself; a search
that remembers where it has been ends, and finds what lies on the chain.
-/

namespace Foundation

variable {V : Type*}

/-- Whether a node of the chain from `start` on has the property, up to the first one in `seen`. -/
def anyAlong [Fintype V] [DecidableEq V] (next : V → Option V) (p : V → Bool) (seen : Finset V)
    (start : Option V) : Bool :=
  match start with
  | none => false
  | some v =>
      if _hseen : v ∈ seen then false
      else p v || anyAlong next p (insert v seen) (next v)
termination_by Fintype.card V - seen.card
decreasing_by
  have hcard : (insert v seen).card ≤ Fintype.card V := Finset.card_le_univ _
  rw [Finset.card_insert_of_notMem _hseen] at hcard ⊢
  omega

/-- The nodes of a chain. -/
def OnChain (next : V → Option V) (start : Option V) (v : V) : Prop :=
  ∃ first ∈ start, Relation.ReflTransGen (fun a b => next a = some b) first v

variable {next : V → Option V} {p : V → Bool} {seen : Finset V} {start : Option V}

theorem onChain_of_anyAlong [Fintype V] [DecidableEq V]
    (h : anyAlong next p seen start = true) :
    ∃ v, OnChain next start v ∧ p v = true := by
  fun_induction anyAlong next p seen start with
  | case1 => cases h
  | case2 => cases h
  | case3 seen first _ ih =>
      rcases Bool.or_eq_true_iff.mp h with hp | hrest
      · exact ⟨first, ⟨first, rfl, .refl⟩, hp⟩
      · obtain ⟨v, ⟨second, hsecond, hchain⟩, hp⟩ := ih hrest
        exact ⟨v, ⟨first, rfl, hchain.head hsecond⟩, hp⟩

/-- What has been seen lacks the property and leads to what has been seen or to the start. -/
structure Explored (next : V → Option V) (p : V → Bool) (seen : Finset V) (start : Option V) :
    Prop where
  lacks : ∀ v ∈ seen, p v = false
  leads : ∀ v ∈ seen, ∀ w, next v = some w → w ∈ seen ∨ start = some w

/-- Nothing on a chain has the property where it has been explored to its end. -/
theorem lacks_of_explored (h : Explored next p seen start) (hend : ∀ w ∈ start, w ∈ seen) {v : V}
    (hv : OnChain next start v) : p v = false := by
  obtain ⟨first, hfirst, hchain⟩ := hv
  refine h.lacks v ?_
  induction hchain with
  | refl => exact hend first hfirst
  | @tail b c _ hstep ih =>
      rcases h.leads b ih c hstep with hmem | hstart
      · exact hmem
      · exact hend c hstart

theorem lacks_of_anyAlong [Fintype V] [DecidableEq V]
    (hexplored : Explored next p seen start)
    (h : anyAlong next p seen start = false) {v : V} (hv : OnChain next start v) :
    p v = false := by
  fun_induction anyAlong next p seen start with
  | case1 => exact lacks_of_explored hexplored nofun hv
  | case2 seen first hseen =>
      exact lacks_of_explored hexplored (fun w hw => Option.some.inj hw ▸ hseen) hv
  | case3 seen first _ ih =>
      obtain ⟨hfirst, hrest⟩ := Bool.or_eq_false_iff.mp h
      have hnext : Explored next p (insert first seen) (next first) := by
        refine ⟨fun w hw => ?_, fun w hw u hu => ?_⟩
        · rcases Finset.mem_insert.mp hw with rfl | hw
          · exact hfirst
          · exact hexplored.lacks w hw
        · rcases Finset.mem_insert.mp hw with rfl | hw
          · exact .inr hu
          · rcases hexplored.leads w hw u hu with hmem | hstart
            · exact .inl (Finset.mem_insert_of_mem hmem)
            · exact .inl (Finset.mem_insert.mpr (.inl (Option.some.inj hstart).symm))
      obtain ⟨start, hstart, hchain⟩ := hv
      obtain rfl := Option.some.inj hstart
      rcases Relation.ReflTransGen.cases_head hchain with rfl | ⟨second, hsecond, hchain⟩
      · exact hfirst
      · exact ih hnext hrest ⟨second, hsecond, hchain⟩

/-- The search finds the property exactly where some node of the chain has it. -/
theorem anyAlong_iff [Fintype V] [DecidableEq V] :
    anyAlong next p ∅ start = true ↔ ∃ v, OnChain next start v ∧ p v = true := by
  refine ⟨onChain_of_anyAlong, fun ⟨v, hv, hp⟩ => ?_⟩
  by_contra hnone
  have hexplored : Explored next p ∅ start :=
    ⟨fun v hv => absurd hv (Finset.notMem_empty v), fun v hv => absurd hv (Finset.notMem_empty v)⟩
  rw [lacks_of_anyAlong hexplored (Bool.of_not_eq_true hnone) hv] at hp
  cases hp

end Foundation
