import Mathlib.Data.List.Chain
import Mathlib.Logic.Relation

/-!
# Circuits of a relation

A circuit is a walk along a relation that ends where it began. A relation whose successors all lead
to an end has none.
-/

namespace Formwork

variable {α : Type} {R S : α → α → Prop}

/-- A walk of one step or more that ends where it began. -/
structure Circuit (R : α → α → Prop) (walk : List α) : Prop where
  long : 2 ≤ walk.length
  chain : walk.IsChain R
  closed : walk.head? = walk.getLast?

/-- There is no circuit. -/
def Acyclic (R : α → α → Prop) : Prop := ∀ walk, ¬ Circuit R walk

/-- A walk whose steps are also steps of another relation is a walk along that. -/
theorem Circuit.of_steps {walk : List α} (h : Circuit R walk)
    (hs : ∀ x y, [x, y] <:+: walk → S x y) : Circuit S walk := by
  refine ⟨h.long, ?_, h.closed⟩
  rw [List.isChain_iff_forall_rel_of_append_cons_cons]
  rintro x y front back rfl
  exact hs x y ⟨front, back, by simp⟩

theorem Circuit.transGen {walk : List α} (h : Circuit R walk) :
    ∃ x, Relation.TransGen R x x := by
  obtain ⟨hlong, hchain, hclosed⟩ := h
  match walk, hlong with
  | x :: y :: rest, _ =>
    have hlast : x ∈ y :: rest := by
      rw [List.head?_cons, List.getLast?_cons_cons] at hclosed
      exact List.mem_of_getLast? hclosed.symm
    have hpair : (x :: y :: rest).Pairwise (Relation.TransGen R) :=
      List.isChain_iff_pairwise.mp (hchain.imp fun _ _ => Relation.TransGen.single)
    exact ⟨x, (List.pairwise_cons.mp hpair).1 x hlast⟩

/-- Where no walk goes on for ever there is no circuit. -/
theorem acyclic_of_acc (h : ∀ x, Acc (fun y x => R x y) x) : Acyclic R := by
  intro walk hw
  obtain ⟨x, hx⟩ := hw.transGen
  have hwf : WellFounded (Relation.TransGen fun y x => R x y) :=
    (WellFounded.intro h).transGen
  have hx' : Relation.TransGen (fun y x => R x y) x x := Relation.transGen_swap.mpr hx
  exact hwf.asymmetric x x hx' hx'

end Formwork
