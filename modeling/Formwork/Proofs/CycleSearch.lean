import Formwork.Proofs.Circuits
import Formwork.Proofs.SearchInvariant

/-!
# The cycles that are found

`findCycles_complete`: whatever circuit the references of a form have, one of its references closes
a cycle that is found, and every cycle that is found is closed by a reference of its own. The ids
are done in an order in which all other references lead back, so without the closing references
no circuit is left.
-/

namespace Formwork

namespace Search

/-- The references of settled ids that close no cycle lead to an end. -/
theorem Settled.acc {g : ReferenceGraph} {cs : List (List String)} {done : List String}
    (h : Settled g cs done) :
    ∀ x ∈ done, Acc (fun y x => (y ∈ g.references x ∧ y ∈ g.ids) ∧ ¬ Closes cs x y) x := by
  induction done with
  | nil => simp
  | cons z earlier ih =>
    obtain ⟨hz, hearlier⟩ := h
    intro x hx
    rcases List.mem_cons.mp hx with rfl | hx
    · refine Acc.intro x fun y ⟨⟨href, hid⟩, hopen⟩ => ?_
      exact ih hearlier y ((hz y href hid).resolve_right hopen)
    · exact ih hearlier x hx

/-- A loop is closed by one reference. -/
theorem Loop.exists_closing {g : ReferenceGraph} {c : List String} (h : Loop g c) :
    ∃ x y, [x, y] <:+ c := by
  obtain ⟨x, mid, rfl, -⟩ := h.closed
  obtain ⟨init, y, hy⟩ := List.eq_nil_or_concat (x :: mid) |>.resolve_left (by simp)
  exact ⟨y, x, init, by simp [hy]⟩

end Search

variable {fields : List Field}

open Search ReferenceGraph

/-- The search through the references of some fields, when it is over. -/
theorem exists_search (fields : List Field) :
    ∃ done, Inv (ofFields fields) done (complete (ofFields fields)) ∧
      ∀ x, Declared fields x → x ∈ done := by
  obtain ⟨done, h, -, hall⟩ := Inv.complete (nodup_references_ofFields fields)
  exact ⟨done, h, fun x hx => hall x (mem_ids_ofFields.mpr hx)⟩

/-- Every cycle that is found is one. -/
theorem loop_of_mem_findCycles {c : List String} (hc : c ∈ findCycles fields) :
    Loop (ofFields fields) c := by
  obtain ⟨done, h, -⟩ := exists_search fields
  exact h.loops c hc

/-- Every step of a loop is a reference to an id. -/
theorem circuit_of_loop {c : List String} (h : Loop (ofFields fields) c) :
    Circuit (Refers fields) c := by
  refine ⟨?_, ?_, ?_⟩
  · obtain ⟨x, mid, rfl, -⟩ := h.closed
    simp
  · rw [List.isChain_iff_forall_rel_of_append_cons_cons]
    rintro x y front back rfl
    have hxy : y ∈ (ofFields fields).references x :=
      (List.isChain_append_cons_cons.mp h.chain).2.1
    exact ⟨mem_references_ofFields.mp hxy, mem_ids_ofFields.mp (h.ids y (by simp))⟩
  · obtain ⟨x, mid, rfl, -⟩ := h.closed
    rw [List.getLast?_concat]
    rfl

/-- No reference closes two of the cycles. -/
theorem findCycles_apart (fields : List Field) :
    (findCycles fields).Pairwise fun c d => ∀ x y, [x, y] <:+ c → ¬ [x, y] <:+ d := by
  obtain ⟨done, h, -⟩ := exists_search fields
  exact h.apart

/-- Without the closing references there is no circuit. -/
theorem acyclic_without_closing (fields : List Field) :
    Acyclic fun x y => Refers fields x y ∧ ∀ c ∈ findCycles fields, ¬ [x, y] <:+ c := by
  -- Every id that is referred to is done in the end, and from done ids the rest lead nowhere.
  obtain ⟨done, h, hall⟩ := exists_search fields
  have hacc := h.settled.acc
  refine acyclic_of_acc fun x => Acc.intro x fun y ⟨⟨_, hy⟩, _⟩ => ?_
  refine Subrelation.accessible (fun {z x} hz => ?_) (hacc y (hall y hy))
  obtain ⟨⟨htests, hdeclared⟩, hopen⟩ := hz
  refine ⟨⟨mem_references_ofFields.mpr htests, mem_ids_ofFields.mpr hdeclared⟩, ?_⟩
  rintro ⟨c, hc, hsuf⟩
  exact hopen c hc hsuf

/-- Some reference of every circuit closes a cycle. -/
theorem exists_closing_of_circuit {walk : List String} (hw : Circuit (Refers fields) walk) :
    ∃ c ∈ findCycles fields, ∃ x y, [x, y] <:+ c ∧ [x, y] <:+: walk := by
  by_contra hnone
  refine acyclic_without_closing fields walk (hw.of_steps fun x y hxy => ⟨?_, ?_⟩)
  · obtain ⟨front, back, rfl⟩ := hxy
    have hchain := hw.chain
    simp only [List.append_assoc, List.cons_append, List.nil_append] at hchain
    exact (List.isChain_append_cons_cons.mp hchain).2.1
  · exact fun c hc hsuf => hnone ⟨c, hc, x, y, hsuf, hxy⟩

/-- No cycle is found exactly where there is none. -/
theorem findCycles_eq_nil_iff : findCycles fields = [] ↔ Acyclic (Refers fields) := by
  constructor
  · intro hnil walk hw
    obtain ⟨c, hc, -⟩ := exists_closing_of_circuit hw
    rw [hnil] at hc
    cases hc
  · intro hacyclic
    refine List.eq_nil_iff_forall_not_mem.mpr fun c hc => ?_
    exact hacyclic c (circuit_of_loop (loop_of_mem_findCycles hc))

theorem acyclic_of_no_references (h : ∀ f ∈ fields, f.references = []) :
    Acyclic (Refers fields) := by
  refine acyclic_of_acc fun x => Acc.intro x fun y ⟨⟨f, hf, _, hy⟩, _⟩ => ?_
  rw [← Field.mem_references_iff, h f hf] at hy
  cases hy

/-- Every circuit of the references has one that closes a cycle which is found, every cycle is
closed by a reference that closes no other, the references that close none have no circuit, and
cycles are found exactly where there is a circuit. -/
theorem findCycles_complete (fields : List Field) :
    (∀ walk, Circuit (Refers fields) walk →
      ∃ c ∈ findCycles fields, ∃ u v, [u, v] <:+ c ∧ [u, v] <:+: walk) ∧
    (∀ c ∈ findCycles fields, ∃ u v, [u, v] <:+ c ∧ Refers fields u v) ∧
    (findCycles fields).Pairwise (fun c d => ∀ u v, [u, v] <:+ c → ¬ [u, v] <:+ d) ∧
    (Acyclic fun u v => Refers fields u v ∧ ∀ c ∈ findCycles fields, ¬ [u, v] <:+ c) ∧
    (findCycles fields = [] ↔ Acyclic (Refers fields)) := by
  refine ⟨fun walk hw => exists_closing_of_circuit hw, fun c hc => ?_, findCycles_apart fields,
    acyclic_without_closing fields, findCycles_eq_nil_iff⟩
  have hloop := loop_of_mem_findCycles hc
  obtain ⟨u, v, init, rfl⟩ := hloop.exists_closing
  have hchain := (circuit_of_loop hloop).chain
  exact ⟨u, v, ⟨init, rfl⟩, (List.isChain_append_cons_cons.mp hchain).2.1⟩

end Formwork
