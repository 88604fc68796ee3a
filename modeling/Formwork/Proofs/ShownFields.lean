import Formwork.Form.Visibility
import Formwork.Proofs.CycleReports

/-!
# Which answers a field is shown by

Whether a field is shown depends on the values of the fields that its condition refers to and on
nothing else: a test reads the value of one field, a group its members, and the references are those
of the tests at any depth. So answers without a value, and answers to fields that no condition
refers to, can be left out, and fields in another order are shown as before.
-/

namespace Formwork

variable {fields fields' : List Field} {f : Field} {answers answers' : Answers}

/-! ## Conditions -/

namespace Condition

variable {c : Condition} {cs : List Condition}

theorem allHold_eq_all (cs : List Condition) : allHold answers cs = cs.all (holds answers) := by
  induction cs with
  | nil => rfl
  | cons c cs ih => rw [allHold, List.all_cons, ih]

theorem anyHolds_eq_any (cs : List Condition) : anyHolds answers cs = cs.any (holds answers) := by
  induction cs with
  | nil => rfl
  | cons c cs ih => rw [anyHolds, List.any_cons, ih]

/-- A condition holds alike for answers that agree on the fields that it tests. -/
theorem holds_congr (h : ∀ id, c.Tests id → answers.get id = answers'.get id) :
    c.holds answers = c.holds answers' := by
  induction c using Condition.induction with
  | ofLeaf field operator value =>
    rw [holds, holds, h field (.leaf operator value)]
  | ofGroup combinator cs ih =>
    have hmembers : ∀ c ∈ cs, c.holds answers = c.holds answers' :=
      fun c hc => ih c hc fun id hid => h id (.group hc hid)
    cases combinator with
    | all =>
      rw [holds, holds, allHold_eq_all, allHold_eq_all, Bool.eq_iff_iff, List.all_eq_true,
        List.all_eq_true]
      exact forall₂_congr fun c hc => by rw [hmembers c hc]
    | any =>
      rw [holds, holds, anyHolds_eq_any, anyHolds_eq_any, Bool.eq_iff_iff, List.any_eq_true,
        List.any_eq_true]
      exact exists_congr fun c => and_congr_right fun hc => by rw [hmembers c hc]

end Condition

/-! ## Fields -/

/-- A field is shown alike for answers that agree on the fields that it refers to. -/
theorem isVisible_congr (h : ∀ id ∈ f.references, answers.get id = answers'.get id) :
    f.isVisible answers = f.isVisible answers' := by
  unfold Field.isVisible
  cases hcondition : f.condition with
  | none => rfl
  | some c =>
    exact Condition.holds_congr fun id hid => h id (Field.mem_references_iff.mpr ⟨c, hcondition, hid⟩)

/-- Fields with different ids are told one by one, in their order. -/
theorem visibility_eq (hids : (fields.map Field.id).Nodup) (answers : Answers) :
    visibility fields answers = fields.map fun f => (f.id, f.isVisible answers) := by
  let told (f : Field) : String × Bool := (f.id, f.isVisible answers)
  have hkeys : (([] ++ fields.map told).map Prod.fst).Nodup := by
    rw [List.nil_append, List.map_map]
    exact hids
  have hput := foldl_putEntry hkeys
  rwa [List.foldl_map, List.nil_append] at hput

theorem lookup_visibility (hids : (fields.map Field.id).Nodup) (hf : f ∈ fields)
    (answers : Answers) :
    (visibility fields answers).lookup f.id = some (f.isVisible answers) := by
  rw [visibility_eq hids]
  refine lookup_of_mem ?_ (List.mem_map_of_mem hf)
  rw [List.map_map]
  exact hids

/-! ## Answers that are left out -/

/-- Where only null is left out under an id, the value of the field stays the same. -/
theorem get_filter {keep : String × Value → Bool} {id : String}
    (hkeys : (answers.map Prod.fst).Nodup)
    (hdropped : ∀ v, (id, v) ∈ answers → keep (id, v) = false → v = .null) :
    Answers.get (answers.filter keep) id = answers.get id := by
  have hkept : ((answers.filter keep).map Prod.fst).Nodup :=
    hkeys.sublist (List.filter_sublist.map Prod.fst)
  unfold Answers.get
  cases hv : answers.lookup id with
  | none =>
    have hnone : (answers.filter keep).lookup id = none := by
      rw [lookup_eq_none_iff_notMem] at hv ⊢
      exact fun hmem => hv ((List.filter_sublist.map Prod.fst).subset hmem)
    rw [hnone]
  | some v =>
    have hmem := mem_of_lookup hv
    cases hkeep : keep (id, v) with
    | true => rw [lookup_of_mem hkept (List.mem_filter.mpr ⟨hmem, hkeep⟩)]
    | false =>
      -- The entry that is left out is the only one under the id.
      have hnone : (answers.filter keep).lookup id = none := by
        rw [lookup_eq_none_iff_notMem]
        intro hid
        obtain ⟨w, hw⟩ := exists_lookup_of_mem_keys hid
        obtain ⟨hw, hkeep'⟩ := List.mem_filter.mp (mem_of_lookup hw)
        obtain rfl : v = w := Option.some.inj (hv.symm.trans (lookup_of_mem hkeys hw))
        rw [hkeep] at hkeep'
        cases hkeep'
      rw [hnone, hdropped v hmem hkeep]
      rfl

/-- A field is shown as before if what is left out is null or under an id that it does not refer
to. -/
theorem isVisible_filter {keep : String × Value → Bool} (hkeys : (answers.map Prod.fst).Nodup)
    (hdropped : ∀ e ∈ answers, keep e = false → e.2 = .null ∨ e.1 ∉ f.references) :
    f.isVisible (answers.filter keep) = f.isVisible answers := by
  refine isVisible_congr fun id hid => get_filter hkeys fun v hv hkeep => ?_
  exact (hdropped _ hv hkeep).resolve_right (not_not_intro hid)

/-! ## Visibility -/

/-- Which fields are shown depends on the answers to the fields that they refer to only. A field
that does not refer to an id is shown alike for answers that differ under that id; answers that are
null or that no field refers to can be left out; and fields in another order are told in that order
as they were before. -/
theorem visibility_by_references (hids : (fields.map Field.id).Nodup) :
    (∀ (x : String) (answers answers' : Answers),
      (∀ id, id ≠ x → answers.get id = answers'.get id) →
      ∀ f ∈ fields, x ∉ f.references →
        ∃ shown, (visibility fields answers).lookup f.id = some shown ∧
          (visibility fields answers').lookup f.id = some shown) ∧
    (∀ (answers : Answers) (keep : String × Value → Bool), (answers.map Prod.fst).Nodup →
      (∀ e ∈ answers, keep e = false → e.2 = .null ∨ ∀ f ∈ fields, e.1 ∉ f.references) →
      visibility fields (answers.filter keep) = visibility fields answers) ∧
    ∀ (fields' : List Field) (answers : Answers), fields'.Perm fields →
      (visibility fields' answers).map Prod.fst = fields'.map Field.id ∧
      (visibility fields' answers).Perm (visibility fields answers) := by
  refine ⟨?_, ?_, ?_⟩
  · intro x answers answers' hagree f hf hx
    have hshown : f.isVisible answers = f.isVisible answers' := by
      refine isVisible_congr fun id hid => hagree id ?_
      rintro rfl
      exact hx hid
    refine ⟨_, lookup_visibility hids hf answers, ?_⟩
    rw [lookup_visibility hids hf, hshown]
  · intro answers keep hkeys hdropped
    rw [visibility_eq hids, visibility_eq hids]
    refine List.map_congr_left fun f hf => ?_
    rw [isVisible_filter hkeys fun e he hkeep => (hdropped e he hkeep).imp_right (· f hf)]
  · intro fields' answers hperm
    have hids' : (fields'.map Field.id).Nodup := (hperm.map Field.id).nodup_iff.mpr hids
    rw [visibility_eq hids', visibility_eq hids]
    refine ⟨?_, hperm.map _⟩
    rw [List.map_map]
    rfl

/-- Who attends is asked for a number of guests, and a note is asked of everybody. -/
def gathering : List Field :=
  [⟨"g", "guests", "number", "Guests", false, none, none,
      some (.group .all [.leaf "a" .equals (.bool true), .leaf "n" .isEmpty .null]), none, false⟩,
    ⟨"a", "attending", "checkbox", "Attending", false, none, none, none, none, false⟩,
    ⟨"n", "note", "text", "Note", false, none, none, none, none, false⟩]

/-- The guests are asked for whether or not there is an empty note. -/
theorem visibility_by_references_gathering :
    (gathering.map Field.id).Nodup ∧
    (([("n", .null), ("a", .bool true)] : Answers).map Prod.fst).Nodup ∧
    visibility gathering [("a", .bool true)] =
      visibility gathering [("n", .null), ("a", .bool true)] ∧
    (visibility gathering [("a", .bool true)]).lookup "g" = some true := by
  have hids : (gathering.map Field.id).Nodup := by decide
  have hkeys : (([("n", .null), ("a", .bool true)] : Answers).map Prod.fst).Nodup := by decide
  refine ⟨hids, hkeys, ?_, rfl⟩
  refine (visibility_by_references hids).2.1 _ (fun e => e.1 == "a") hkeys fun e he hdrop => ?_
  simp only [List.mem_cons, List.not_mem_nil, or_false] at he
  rcases he with rfl | rfl
  · exact Or.inl rfl
  · cases hdrop

end Formwork
