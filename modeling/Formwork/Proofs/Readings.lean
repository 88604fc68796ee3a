import Formwork.Form.Reader
import Formwork.Proofs.Encoding

/-!
# Readings

What it takes for a document to be read. A record is read where every one of its entries is, so what
was read tells what each entry holds. The values of a form stand in the document that it was read
from, but for the null of a test without a value.
-/

namespace Formwork

namespace Reading

variable {α β : Type} {a : α} {b : β}

theorem map_eq_ok_iff {f : α → β} {r : Reading α} :
    r.map f = .ok b ↔ ∃ a, r = .ok a ∧ f a = b := by
  cases r with
  | error fs =>
    constructor
    · rintro ⟨⟩
    · rintro ⟨a, ⟨⟩, -⟩
  | ok a =>
    constructor
    · rintro ⟨⟩
      exact ⟨a, rfl, rfl⟩
    · rintro ⟨a, ⟨⟩, rfl⟩
      rfl

theorem apply_eq_ok_iff {r : Reading (α → β)} {s : Reading α} :
    (r <*> s) = .ok b ↔ ∃ f a, r = .ok f ∧ s = .ok a ∧ f a = b := by
  cases r with
  | error fs =>
    constructor
    · intro h
      cases s <;> cases h
    · rintro ⟨f, a, ⟨⟩, -⟩
  | ok f =>
    cases s with
    | error gs =>
      constructor
      · rintro ⟨⟩
      · rintro ⟨f, a, -, ⟨⟩, -⟩
    | ok a =>
      constructor
      · rintro ⟨⟩
        exact ⟨f, a, rfl, rfl, rfl⟩
      · rintro ⟨f, a, ⟨⟩, ⟨⟩, rfl⟩
        rfl

theorem mapped_eq_ok_iff {f : α → β} {r : Reading α} :
    (f <$> r) = .ok b ↔ ∃ a, r = .ok a ∧ f a = b := map_eq_ok_iff

theorem inside_eq_ok_iff {step : PathStep} {r : Reading α} : r.inside step = .ok a ↔ r = .ok a := by
  cases r with
  | error fs =>
    constructor
    · rintro ⟨⟩
    · rintro ⟨⟩
  | ok a => exact Iff.rfl

theorem fail_ne_ok {kind : FaultKind} {v : Value} : Reading.fail kind v ≠ .ok a := by
  rintro ⟨⟩

end Reading

namespace Document

variable {α : Type} {a fallback : α} {keys : List String} {read : Value → Reading α}
  {es : List (String × Value)} {v : Value}

theorem entry_eq_ok_iff :
    entry keys read es = .ok a ↔ ∃ k v, find? keys es = some (k, v) ∧ read v = .ok a := by
  rw [entry]
  cases find? keys es with
  | none =>
    constructor
    · intro h
      exact absurd (Reading.inside_eq_ok_iff.mp h) Reading.fail_ne_ok
    · rintro ⟨k, v, ⟨⟩, -⟩
  | some e =>
    obtain ⟨k, v⟩ := e
    constructor
    · intro h
      exact ⟨k, v, rfl, Reading.inside_eq_ok_iff.mp h⟩
    · rintro ⟨k, v, ⟨⟩, h⟩
      exact Reading.inside_eq_ok_iff.mpr h

theorem optionalEntry_eq_ok_iff {o : Option α} :
    optionalEntry keys read es = .ok o ↔
      (find? keys es = none ∧ o = none) ∨
      ∃ k v a, find? keys es = some (k, v) ∧ read v = .ok a ∧ o = some a := by
  rw [optionalEntry]
  cases find? keys es with
  | none =>
    constructor
    · rintro ⟨⟩
      exact .inl ⟨rfl, rfl⟩
    · rintro (⟨-, rfl⟩ | ⟨k, v, a, ⟨⟩, -⟩)
      rfl
  | some e =>
    obtain ⟨k, v⟩ := e
    rw [Reading.map_eq_ok_iff]
    constructor
    · rintro ⟨a, ha, rfl⟩
      exact .inr ⟨k, v, a, rfl, Reading.inside_eq_ok_iff.mp ha, rfl⟩
    · rintro (⟨⟨⟩, -⟩ | ⟨k, v, a, ⟨⟩, ha, rfl⟩)
      exact ⟨a, Reading.inside_eq_ok_iff.mpr ha, rfl⟩

theorem entryOr_eq_ok_iff :
    entryOr fallback keys read es = .ok a ↔
      (find? keys es = none ∧ a = fallback) ∨
      ∃ k v, find? keys es = some (k, v) ∧ read v = .ok a := by
  rw [entryOr, Reading.map_eq_ok_iff]
  constructor
  · rintro ⟨o, ho, rfl⟩
    rcases optionalEntry_eq_ok_iff.mp ho with ⟨hnone, rfl⟩ | ⟨k, v, b, hfind, hread, rfl⟩
    · exact .inl ⟨hnone, rfl⟩
    · exact .inr ⟨k, v, hfind, hread⟩
  · rintro (⟨hnone, rfl⟩ | ⟨k, v, hfind, hread⟩)
    · exact ⟨none, optionalEntry_eq_ok_iff.mpr (.inl ⟨hnone, rfl⟩), rfl⟩
    · exact ⟨some a, optionalEntry_eq_ok_iff.mpr (.inr ⟨k, v, a, hfind, hread, rfl⟩), rfl⟩

theorem nullable_eq_ok_iff {o : Option α} :
    nullable read v = .ok o ↔
      (v = .null ∧ o = none) ∨ (v ≠ .null ∧ ∃ a, read v = .ok a ∧ o = some a) := by
  unfold nullable
  split
  · constructor
    · rintro ⟨⟩
      exact .inl ⟨rfl, rfl⟩
    · rintro (⟨-, rfl⟩ | ⟨hv, -⟩)
      · rfl
      · exact absurd rfl hv
  · rename_i hv
    rw [Reading.map_eq_ok_iff]
    constructor
    · rintro ⟨a, ha, rfl⟩
      exact .inr ⟨hv, a, ha, rfl⟩
    · rintro (⟨hnull, -⟩ | ⟨-, a, ha, rfl⟩)
      · exact absurd hnull hv
      · exact ⟨a, ha, rfl⟩

theorem inOrder_eq_ok_iff {i : Nat} {rs : List (Reading α)} {as : List α} :
    inOrder i rs = .ok as ↔ List.Forall₂ (fun r a => r = Reading.ok a) rs as := by
  induction rs generalizing i as with
  | nil =>
    constructor
    · rintro ⟨⟩
      exact .nil
    · rintro ⟨⟩
      rfl
  | cons r rs ih =>
    rw [inOrder, Reading.apply_eq_ok_iff]
    constructor
    · rintro ⟨f, bs, hf, hbs, rfl⟩
      obtain ⟨b, hb, rfl⟩ := Reading.mapped_eq_ok_iff.mp hf
      exact .cons (Reading.inside_eq_ok_iff.mp hb) (ih.mp hbs)
    · rintro (_ | ⟨hb, hbs⟩)
      exact ⟨_, _, Reading.mapped_eq_ok_iff.mpr ⟨_, Reading.inside_eq_ok_iff.mpr hb, rfl⟩,
        ih.mpr hbs, rfl⟩

theorem list_eq_ok_iff {as : List α} :
    list read v = .ok as ↔
      ∃ xs, v.elements? = some xs ∧ List.Forall₂ (fun x a => read x = .ok a) xs as := by
  rw [list]
  cases v.elements? with
  | none =>
    constructor
    · intro h
      exact absurd h Reading.fail_ne_ok
    · rintro ⟨xs, ⟨⟩, -⟩
  | some xs =>
    dsimp only
    rw [inOrder_eq_ok_iff, List.forall₂_map_left_iff]
    constructor
    · exact fun h => ⟨xs, rfl, h⟩
    · rintro ⟨xs, ⟨⟩, h⟩
      exact h

theorem record_eq_ok_iff {model : String} {read : List (String × Value) → Reading α} :
    record model read v = .ok a ↔ ∃ es, v = .object es ∧ read es = .ok a := by
  cases v with
  | object es =>
    constructor
    · exact fun h => ⟨es, rfl, h⟩
    · rintro ⟨es, ⟨⟩, h⟩
      exact h
  | _ =>
    constructor
    · intro h
      exact absurd h Reading.fail_ne_ok
    · rintro ⟨es, ⟨⟩, -⟩

end Document

/-- Whatever was read of some values was read of one of them. -/
theorem exists_of_mem_read {α : Type} {read : Value → Reading α} {xs : List Value} {as : List α}
    (h : List.Forall₂ (fun x a => read x = .ok a) xs as) {a : α} (ha : a ∈ as) :
    ∃ x ∈ xs, read x = .ok a := by
  induction h with
  | nil => cases ha
  | cons hx _ ih =>
    rcases List.mem_cons.mp ha with rfl | ha
    · exact ⟨_, List.mem_cons_self, hx⟩
    · obtain ⟨x, hmem, hx⟩ := ih ha
      exact ⟨x, List.mem_cons_of_mem _ hmem, hx⟩

/-! ## The parts of a form -/

variable {es : List (String × Value)} {v : Value} {levels : Nat}

/-- What the entries of a choice hold. -/
structure Choice.Reads (es : List (String × Value)) (c : Choice) : Prop where
  label : Document.entry ["label"] Document.text es = .ok c.label
  value : Document.entry ["value"] .ok es = .ok c.value

theorem Choice.read_eq_ok_iff {c : Choice} :
    Choice.read v = .ok c ↔ ∃ es, v = .object es ∧ Choice.Reads es c := by
  rw [Choice.read, Document.record_eq_ok_iff]
  refine exists_congr fun es => and_congr_right fun _ => ?_
  simp only [Reading.apply_eq_ok_iff, Reading.mapped_eq_ok_iff]
  constructor
  · rintro ⟨_, value, ⟨label, hlabel, rfl⟩, hvalue, rfl⟩
    exact ⟨hlabel, hvalue⟩
  · rintro ⟨hlabel, hvalue⟩
    exact ⟨_, _, ⟨_, hlabel, rfl⟩, hvalue, rfl⟩

namespace Condition

variable {c : Condition}

theorem readAll_eq_map (levels : Nat) (xs : List Value) :
    readAll levels xs = xs.map (read levels) := by
  induction xs with
  | nil => rfl
  | cons x xs ih => rw [readAll, ih, List.map_cons]

theorem readList_eq (levels : Nat) (v : Value) :
    readList levels v = Document.list (read levels) v := by
  cases v with
  | list xs | tuple xs | set xs =>
    rw [readList, readAll_eq_map]
    rfl
  | _ => rfl

theorem readChildren_eq (levels : Nat) (es : List (String × Value)) :
    readChildren levels es = (es.lookup "children").map (Document.list (read levels)) := by
  induction es with
  | nil => rfl
  | cons e es ih =>
    obtain ⟨k, v⟩ := e
    rw [readChildren, List.lookup_cons]
    by_cases hk : k = "children"
    · rw [if_pos (beq_iff_eq.mpr hk), hk, beq_self_eq_true, readList_eq]
      rfl
    · rw [if_neg (mt beq_iff_eq.mp hk), beq_false_of_ne (Ne.symm hk), ih]

/-- What the entries of a test or of a group hold. -/
inductive Reads (levels : Nat) (es : List (String × Value)) : Condition → Prop
  | leaf {field : String} {operator : Operator} {value : Value} (hop : es.lookup "op" = none)
      (hfield : Document.entry ["fieldId", "field_id"] Document.nonEmptyText es = .ok field)
      (hoperator : Document.entry ["operator"] (Document.oneOf Operator.words) es = .ok operator)
      (hvalue : Document.entryOr .null ["value"] .ok es = .ok value) :
      Reads levels es (.leaf field operator value)
  | group {combinator : Combinator} {children : List Condition} (hop : es.lookup "op" ≠ none)
      (hcombinator : Document.entry ["op"] (Document.oneOf Combinator.words) es = .ok combinator)
      (hchildren :
        Document.entryOr [] ["children"] (Document.list (read levels)) es = .ok children) :
      Reads levels es (.group combinator children)

theorem children_eq_ok_iff {cs : List Condition} :
    (((readChildren levels es).getD (.ok [])).inside (.key "children")) = .ok cs ↔
      Document.entryOr [] ["children"] (Document.list (read levels)) es = .ok cs := by
  rw [Reading.inside_eq_ok_iff, readChildren_eq, Document.entryOr_eq_ok_iff]
  simp only [Document.find?, List.findSome?_cons, List.findSome?_nil]
  cases es.lookup "children" with
  | none =>
    constructor
    · rintro ⟨⟩
      exact .inl ⟨rfl, rfl⟩
    · rintro (⟨-, rfl⟩ | ⟨k, v, ⟨⟩, -⟩)
      rfl
  | some v =>
    constructor
    · exact fun h => .inr ⟨"children", v, rfl, h⟩
    · rintro (⟨⟨⟩, -⟩ | ⟨k, v, ⟨⟩, h⟩)
      exact h

theorem readLeaf_eq_ok_iff :
    readLeaf es = .ok c ↔ ∃ field operator value, c = .leaf field operator value ∧
      Document.entry ["fieldId", "field_id"] Document.nonEmptyText es = .ok field ∧
      Document.entry ["operator"] (Document.oneOf Operator.words) es = .ok operator ∧
      Document.entryOr .null ["value"] .ok es = .ok value := by
  rw [readLeaf]
  simp only [Reading.apply_eq_ok_iff, Reading.mapped_eq_ok_iff]
  constructor
  · rintro ⟨_, value, ⟨_, operator, ⟨field, hfield, rfl⟩, hoperator, rfl⟩, hvalue, rfl⟩
    exact ⟨field, operator, value, rfl, hfield, hoperator, hvalue⟩
  · rintro ⟨field, operator, value, rfl, hfield, hoperator, hvalue⟩
    exact ⟨_, _, ⟨_, _, ⟨_, hfield, rfl⟩, hoperator, rfl⟩, hvalue, rfl⟩

theorem read_object_eq_ok_iff :
    read levels (.object es) = .ok c ↔ levels ≠ 0 ∧ Reads (levels - 1) es c := by
  rw [read, Reading.inside_eq_ok_iff]
  split
  · rename_i hlevels
    exact ⟨fun h => absurd h Reading.fail_ne_ok, fun h => absurd hlevels h.1⟩
  rename_i hlevels
  rw [and_iff_right hlevels]
  split
  · rename_i hop
    simp only [Reading.apply_eq_ok_iff, Reading.mapped_eq_ok_iff, children_eq_ok_iff]
    constructor
    · rintro ⟨_, cs, ⟨k, hk, rfl⟩, hcs, rfl⟩
      exact .group (Option.isSome_iff_ne_none.mp hop) hk hcs
    · intro h
      cases h with
      | leaf hnone =>
        rw [hnone] at hop
        cases hop
      | group _ hk hcs => exact ⟨_, _, ⟨_, hk, rfl⟩, hcs, rfl⟩
  · rename_i hop
    rw [readLeaf_eq_ok_iff]
    constructor
    · rintro ⟨field, operator, value, rfl, hfield, hoperator, hvalue⟩
      exact .leaf (Option.not_isSome_iff_eq_none.mp hop) hfield hoperator hvalue
    · intro h
      cases h with
      | leaf _ hfield hoperator hvalue => exact ⟨_, _, _, rfl, hfield, hoperator, hvalue⟩
      | group hsome => exact absurd (Option.isSome_iff_ne_none.mpr hsome) hop

theorem read_eq_ok_iff :
    read levels v = .ok c ↔ ∃ es, v = .object es ∧ levels ≠ 0 ∧ Reads (levels - 1) es c := by
  cases v with
  | object es =>
    rw [read_object_eq_ok_iff]
    constructor
    · exact fun h => ⟨es, rfl, h⟩
    · rintro ⟨es, ⟨⟩, h⟩
      exact h
  | _ =>
    constructor
    · rintro ⟨⟩
    · rintro ⟨es, ⟨⟩, -⟩

end Condition

/-- What the entries of a field hold. -/
structure Field.Reads (levels : Nat) (es : List (String × Value)) (f : Field) : Prop where
  id : Document.entry ["id"] Document.nonEmptyText es = .ok f.id
  name : Document.entry ["name"] Document.nonEmptyText es = .ok f.name
  kindName : Document.entry ["type"] Document.text es = .ok f.kindName
  label : Document.entry ["label"] Document.text es = .ok f.label
  required : Document.entryOr false ["required"] Document.bool es = .ok f.required
  placeholder :
    Document.entryOr none ["placeholder"] (Document.nullable Document.text) es = .ok f.placeholder
  options :
    Document.entryOr none ["options"] (Document.nullable (Document.list Choice.read)) es =
      .ok f.options
  condition :
    Document.entryOr none ["condition"] (Document.nullable (Condition.read levels)) es =
      .ok f.condition
  fallback : Document.optionalEntry ["defaultValue", "default_value"] .ok es = .ok f.fallback
  multiple : Document.entryOr false ["multiple"] Document.bool es = .ok f.multiple

theorem Field.readWithin_eq_ok_iff {f : Field} :
    Field.readWithin levels v = .ok f ↔ ∃ es, v = .object es ∧ Field.Reads levels es f := by
  rw [Field.readWithin, Document.record_eq_ok_iff]
  refine exists_congr fun es => and_congr_right fun _ => ?_
  simp only [Reading.apply_eq_ok_iff, Reading.mapped_eq_ok_iff]
  constructor
  · rintro ⟨_, multiple, ⟨_, fallback, ⟨_, condition, ⟨_, options, ⟨_, placeholder, ⟨_, required,
      ⟨_, label, ⟨_, kindName, ⟨_, name, ⟨id, hid, rfl⟩, hname, rfl⟩, hkind, rfl⟩, hlabel, rfl⟩,
      hrequired, rfl⟩, hplaceholder, rfl⟩, hoptions, rfl⟩, hcondition, rfl⟩, hfallback, rfl⟩,
      hmultiple, rfl⟩
    exact ⟨hid, hname, hkind, hlabel, hrequired, hplaceholder, hoptions, hcondition, hfallback,
      hmultiple⟩
  · intro h
    exact ⟨_, _, ⟨_, _, ⟨_, _, ⟨_, _, ⟨_, _, ⟨_, _, ⟨_, _, ⟨_, _, ⟨_, _, ⟨_, h.id, rfl⟩, h.name,
      rfl⟩, h.kindName, rfl⟩, h.label, rfl⟩, h.required, rfl⟩, h.placeholder, rfl⟩, h.options,
      rfl⟩, h.condition, rfl⟩, h.fallback, rfl⟩, h.multiple, rfl⟩

/-- What the entries of a form hold. -/
structure Form.Reads (levels : Nat) (es : List (String × Value)) (f : Form) : Prop where
  version : Document.entry ["version"] Document.text es = .ok f.version
  fields :
    Document.entryOr [] ["fields"] (Document.list (Field.readWithin levels)) es = .ok f.fields

theorem Form.readWithin_eq_ok_iff {f : Form} :
    Form.readWithin levels v = .ok f ↔ ∃ es, v = .object es ∧ Form.Reads levels es f := by
  rw [Form.readWithin, Document.record_eq_ok_iff]
  refine exists_congr fun es => and_congr_right fun _ => ?_
  simp only [Reading.apply_eq_ok_iff, Reading.mapped_eq_ok_iff]
  constructor
  · rintro ⟨_, fields, ⟨version, hversion, rfl⟩, hfields, rfl⟩
    exact ⟨hversion, hfields⟩
  · rintro ⟨hversion, hfields⟩
    exact ⟨_, _, ⟨_, hversion, rfl⟩, hfields, rfl⟩

/-! ## Values in the document -/

section Held

variable {w : Value}

theorem Document.mem_of_find? {keys : List String} {k : String}
    (h : Document.find? keys es = some (k, v)) : (k, v) ∈ es := by
  obtain ⟨key, -, hkey⟩ := List.exists_of_findSome?_eq_some h
  obtain ⟨_, hlookup, heq⟩ := Option.map_eq_some_iff.mp hkey
  injection heq with hk hv
  exact hk ▸ hv ▸ mem_of_lookup hlookup

/-- What is found in an object is held by it, and so is all that it holds. -/
theorem Document.holds_of_find? {keys : List String} {k : String}
    (h : Document.find? keys es = some (k, v)) (hw : v.Holds w) : (Value.object es).Holds w :=
  .object (Document.mem_of_find? h) hw

theorem Document.holds_of_list {α : Type} {read : Value → Reading α} {as : List α} {a : α}
    (h : Document.list read v = .ok as) (ha : a ∈ as) (hread : ∀ x, read x = .ok a → x.Holds w) :
    v.Holds w := by
  obtain ⟨xs, hxs, has⟩ := Document.list_eq_ok_iff.mp h
  obtain ⟨x, hx, hxa⟩ := exists_of_mem_read has ha
  have hholds := hread x hxa
  cases v <;> cases hxs
  · exact .list hx hholds
  · exact .tuple hx hholds
  · exact .set hx hholds

theorem Choice.holds_of_read {c : Choice} (h : Choice.read v = .ok c) : v.Holds c.value := by
  obtain ⟨es, rfl, hreads⟩ := Choice.read_eq_ok_iff.mp h
  obtain ⟨k, x, hfind, hx⟩ := Document.entry_eq_ok_iff.mp hreads.value
  injection hx with hx
  exact Document.holds_of_find? hfind (hx ▸ .self _)

/-- A value that a condition compares with stands in the document, unless it is null. -/
theorem Condition.holds_of_read {c : Condition} (h : Condition.read levels v = .ok c)
    (hw : w ∈ c.values) (hnull : w ≠ .null) : v.Holds w := by
  induction c using Condition.induction generalizing v levels with
  | ofLeaf field operator value =>
    obtain rfl := List.mem_singleton.mp hw
    obtain ⟨es, rfl, -, hreads⟩ := Condition.read_eq_ok_iff.mp h
    cases hreads with
    | leaf _ _ _ hvalue =>
      rcases Document.entryOr_eq_ok_iff.mp hvalue with ⟨-, hdefault⟩ | ⟨k, x, hfind, hx⟩
      · exact absurd hdefault hnull
      · injection hx with hx
        exact Document.holds_of_find? hfind (hx ▸ .self _)
  | ofGroup combinator cs ih =>
    obtain ⟨es, rfl, -, hreads⟩ := Condition.read_eq_ok_iff.mp h
    rw [Condition.values_group, List.mem_flatMap] at hw
    obtain ⟨c, hc, hw⟩ := hw
    cases hreads with
    | group _ _ hchildren =>
      rcases Document.entryOr_eq_ok_iff.mp hchildren with ⟨-, rfl⟩ | ⟨k, x, hfind, hx⟩
      · cases hc
      · refine Document.holds_of_find? hfind (Document.holds_of_list hx hc fun y hy => ?_)
        exact ih c hc hy hw

theorem Field.holds_of_read {f : Field} (h : Field.readWithin levels v = .ok f)
    (hw : w ∈ f.values) (hnull : w ≠ .null) : v.Holds w := by
  obtain ⟨es, rfl, hreads⟩ := Field.readWithin_eq_ok_iff.mp h
  obtain ⟨cs, hcs, c, hc, rfl⟩ | ⟨c, hc, hw⟩ | hw := Field.mem_values_iff.mp hw
  · rcases Document.entryOr_eq_ok_iff.mp hreads.options with ⟨-, hnone⟩ | ⟨k, x, hfind, hx⟩
    · rw [hnone] at hcs
      cases hcs
    · rcases Document.nullable_eq_ok_iff.mp hx with ⟨-, hnone⟩ | ⟨-, cs', hlist, hsome⟩
      · rw [hnone] at hcs
        cases hcs
      · obtain rfl : cs' = cs := Option.some.inj (hsome.symm.trans hcs)
        exact Document.holds_of_find? hfind
          (Document.holds_of_list hlist hc fun y hy => Choice.holds_of_read hy)
  · rcases Document.entryOr_eq_ok_iff.mp hreads.condition with ⟨-, hnone⟩ | ⟨k, x, hfind, hx⟩
    · rw [hnone] at hc
      cases hc
    · rcases Document.nullable_eq_ok_iff.mp hx with ⟨-, hnone⟩ | ⟨-, c', hread, hsome⟩
      · rw [hnone] at hc
        cases hc
      · obtain rfl : c' = c := Option.some.inj (hsome.symm.trans hc)
        exact Document.holds_of_find? hfind (Condition.holds_of_read hread hw hnull)
  · rcases Document.optionalEntry_eq_ok_iff.mp hreads.fallback with
      ⟨-, hnone⟩ | ⟨k, x, a, hfind, hx, hsome⟩
    · rw [hnone] at hw
      cases hw
    · injection hx with hx
      obtain rfl : a = w := Option.some.inj (hsome.symm.trans hw)
      exact Document.holds_of_find? hfind (hx ▸ .self _)

/-- A value of a form stands in the document of the form, unless it is null. -/
theorem Form.holds_of_read {f : Form} (h : Form.readWithin levels v = .ok f) (hw : w ∈ f.values)
    (hnull : w ≠ .null) : v.Holds w := by
  obtain ⟨es, rfl, hreads⟩ := Form.readWithin_eq_ok_iff.mp h
  obtain ⟨a, ha, hw⟩ := List.mem_flatMap.mp hw
  rcases Document.entryOr_eq_ok_iff.mp hreads.fields with ⟨-, hnone⟩ | ⟨k, x, hfind, hx⟩
  · rw [hnone] at ha
    cases ha
  · refine Document.holds_of_find? hfind (Document.holds_of_list hx ha fun y hy => ?_)
    exact Field.holds_of_read hy hw hnull

end Held

end Formwork
