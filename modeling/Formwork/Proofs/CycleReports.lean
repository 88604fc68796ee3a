import Formwork.Proofs.WellFormed

/-!
# The cycles that are reported

`findCycles_sound`: every cycle that is found is a simple one. It leads from the id of a field from
test to test back to that id and meets no id twice on the way. The issues about circular references
are the cycles one by one, and each is placed at the first field that has the id where its cycle
begins. There is such a field, since a cycle is made of the ids of fields only.
-/

namespace Formwork

/-! ## Simple cycles -/

/-- A way from an id over tests back to it, along which no id is met twice. -/
structure SimpleCycle (fields : List Field) (c : List String) : Prop where
  long : 2 ≤ c.length
  closed : c.head? = c.getLast?
  simple : c.dropLast.Nodup
  declared : ∀ x ∈ c, Declared fields x
  tested : c.IsChain (Tests fields)

namespace SimpleCycle

variable {fields : List Field} {c : List String}

theorem of_loop (h : Search.Loop (ReferenceGraph.ofFields fields) c) : SimpleCycle fields c := by
  have hcircuit : Circuit (Refers fields) c := circuit_of_loop h
  refine ⟨hcircuit.long, hcircuit.closed, ?_, ?_, ?_⟩
  · obtain ⟨x, mid, rfl, hnodup⟩ := h.closed
    rwa [List.dropLast_concat]
  · exact fun x hx => ReferenceGraph.mem_ids_ofFields.mp (h.ids x hx)
  · exact hcircuit.chain.imp fun x y hxy => hxy.1

/-- A cycle begins with the id of a field. -/
theorem exists_head (h : SimpleCycle fields c) : ∃ x, c.head? = some x ∧ Declared fields x := by
  cases c with
  | nil => exact absurd h.long (by decide)
  | cons x rest => exact ⟨x, rfl, h.declared x List.mem_cons_self⟩

end SimpleCycle

/-! ## The places of the cycles -/

/-- The first field with an id is at a position. -/
structure FirstAt (fields : List Field) (x : String) (i : Nat) : Prop where
  at_position : ∃ f, fields[i]? = some f ∧ f.id = x
  before : ∀ j < i, ∀ f, fields[j]? = some f → f.id ≠ x

/-- The search for an id that is declared finds its first field. -/
theorem firstAt_findIdx {fields : List Field} {x : String} (h : Declared fields x) :
    FirstAt fields x (fields.findIdx fun f => some x == some f.id) := by
  have hlt : fields.findIdx (fun f => some x == some f.id) < fields.length := by
    obtain ⟨f, hf, hid⟩ := h
    exact List.findIdx_lt_length_of_exists ⟨f, hf, by simp [hid]⟩
  refine ⟨⟨_, List.getElem?_eq_getElem hlt, ?_⟩, fun j hj f hf => ?_⟩
  · have hfound := List.findIdx_getElem (w := hlt)
    simpa using (eq_of_beq hfound).symm
  · obtain ⟨hj', rfl⟩ := List.getElem?_eq_some_iff.mp hf
    have hnot := List.not_of_lt_findIdx hj
    intro hid
    simp [hid] at hnot

/-- The issue tells the cycle, at the first field that has its first id. -/
structure Reports (fields : List Field) (c : List String) (e : Issue) : Prop where
  code : e.code = "CIRCULAR_REFERENCE"
  message : e.message = "Circular condition reference: " ++ " -> ".intercalate c
  place : ∃ x i, c.head? = some x ∧ FirstAt fields x i ∧ e.place = s!"fields[{i}].condition"

theorem reports_of_simpleCycle {fields : List Field} {c : List String} (h : SimpleCycle fields c) :
    Reports fields c (.circularReference (fields.findIdx fun f => c.head? == some f.id) c) := by
  obtain ⟨x, hx, hdeclared⟩ := h.exists_head
  refine ⟨rfl, rfl, x, _, hx, ?_, String.append_assoc ..⟩
  rw [hx]
  exact firstAt_findIdx hdeclared

namespace Form

/-- The issues about circular references are those of the cycles. -/
theorem filter_circular (form : Form) :
    form.allIssues.filter (·.code == "CIRCULAR_REFERENCE") =
      cycleIssues form.fields (findCycles form.fields) := by
  have hflaws : (form.flaws.map Prod.snd).filter (·.code == "CIRCULAR_REFERENCE") = [] := by
    rw [List.filter_eq_nil_iff, List.forall_mem_map]
    rintro ⟨x, e⟩ hxe
    rw [(mem_flaws_iff.mp hxe).told.1, beq_iff_eq]
    exact x.code_ne
  have hcycles : ∀ e ∈ cycleIssues form.fields (findCycles form.fields),
      (e.code == "CIRCULAR_REFERENCE") = true := by
    rw [cycleIssues, List.forall_mem_map]
    exact fun c _ => rfl
  rw [allIssues_eq_flaws, List.filter_append, hflaws, List.nil_append,
    List.filter_eq_self.mpr hcycles]

end Form

/-- Every cycle that is found is a simple cycle of tests between the fields, and the issues about
circular references report the cycles one by one, each at the first field with its first id. Where
the issues of the form can be told, they are among them. -/
theorem findCycles_sound (form : Form) :
    (∀ c ∈ findCycles form.fields, SimpleCycle form.fields c) ∧
    List.Forall₂ (Reports form.fields) (findCycles form.fields)
      (form.allIssues.filter (·.code == "CIRCULAR_REFERENCE")) ∧
    ∀ issues, form.issues = .ok issues → issues = form.allIssues := by
  have hsimple : ∀ c ∈ findCycles form.fields, SimpleCycle form.fields c :=
    fun c hc => .of_loop (loop_of_mem_findCycles hc)
  refine ⟨hsimple, ?_, fun issues h => (Form.issues_eq_ok_iff.mp h).2⟩
  rw [form.filter_circular, Form.cycleIssues, List.forall₂_map_right_iff, List.forall₂_same]
  exact fun c hc => reports_of_simpleCycle (hsimple c hc)

-- The way into a cycle is no part of it, and a reference that leads nowhere is none of a cycle.
example :
    let hidden (id other : String) : Field :=
      ⟨id, id, "text", "", false, none, none, some (.leaf other .isEmpty .null), none, false⟩
    findCycles [hidden "c" "a", hidden "a" "b", hidden "b" "a", hidden "d" "e"] =
      [["a", "b", "a"]] := by cbv

end Formwork
