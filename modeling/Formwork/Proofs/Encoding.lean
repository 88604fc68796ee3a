import Formwork.Form.Canonical
import Formwork.Proofs.CanonicalText
import Formwork.Proofs.Entries
import Formwork.Proofs.Tests

/-!
# The encoding of a form

`Form.Same` relates forms that agree in everything but the order of keys inside the values that they
hold. Forms that are the same have one encoding, and when their values are JSON values, only those.
-/

namespace Formwork

open Value (IsJson SameEntry same_object_iff same_list_iff sameAll_iff sameUnder_iff)

variable {f g : Form}

/-! ## Forms that are the same -/

namespace Condition

mutual

/-- The same tests in the same groups, but for the order of keys in what they compare with. -/
inductive Same : Condition → Condition → Prop
  | leaf {field : String} {operator : Operator} {v w : Value} (h : v.Same w) :
      Same (.leaf field operator v) (.leaf field operator w)
  | group {combinator : Combinator} {cs ds : List Condition} (h : SameAll cs ds) :
      Same (.group combinator cs) (.group combinator ds)

/-- The same one by one. -/
inductive SameAll : List Condition → List Condition → Prop
  | nil : SameAll [] []
  | cons {c d : Condition} {cs ds : List Condition} (h : Same c d) (hs : SameAll cs ds) :
      SameAll (c :: cs) (d :: ds)

end

theorem sameAll_iff {cs ds : List Condition} : SameAll cs ds ↔ List.Forall₂ Same cs ds := by
  induction cs generalizing ds with
  | nil =>
    constructor
    · rintro ⟨⟩
      exact .nil
    · rintro ⟨⟩
      exact .nil
  | cons c cs ih =>
    constructor
    · rintro (_ | ⟨h, hs⟩)
      exact .cons h (ih.mp hs)
    · rintro (_ | ⟨h, hs⟩)
      exact .cons h (ih.mpr hs)

/-- What the tests compare with. -/
def values (c : Condition) : List Value := c.leaves.map (·.2.2)

end Condition

/-- The same label and value, but for the order of keys. -/
structure Choice.Same (c d : Choice) : Prop where
  label : c.label = d.label
  value : c.value.Same d.value

/-- Fields that agree in everything but the order of keys inside values. -/
structure Field.Same (f g : Field) : Prop where
  id : f.id = g.id
  name : f.name = g.name
  kindName : f.kindName = g.kindName
  label : f.label = g.label
  required : f.required = g.required
  placeholder : f.placeholder = g.placeholder
  options : Option.Rel (List.Forall₂ Choice.Same) f.options g.options
  condition : Option.Rel Condition.Same f.condition g.condition
  fallback : Option.Rel Value.Same f.fallback g.fallback
  multiple : f.multiple = g.multiple

/-- Forms with one version and the same fields in the same order. -/
structure Form.Same (f g : Form) : Prop where
  version : f.version = g.version
  fields : List.Forall₂ Field.Same f.fields g.fields

/-- The values that a field holds: those of its choices, of its condition, and its default. -/
def Field.values (f : Field) : List Value :=
  f.choices ++ (f.condition.map Condition.values).getD [] ++ f.fallback.toList

def Form.values (f : Form) : List Value := f.fields.flatMap Field.values

/-! ## Parts side by side -/

section Parts

variable {α β : Type} {R S : α → β → Prop} {a : Option α} {b : Option β}

theorem forall₂_mem {xs : List α} {ys : List β} (h : List.Forall₂ R xs ys) :
    List.Forall₂ (fun x y => x ∈ xs ∧ y ∈ ys ∧ R x y) xs ys := by
  induction h with
  | nil => exact .nil
  | cons hxy _ ih =>
    refine .cons ⟨List.mem_cons_self, List.mem_cons_self, hxy⟩ (ih.imp ?_)
    rintro x y ⟨hx, hy, hxy⟩
    exact ⟨List.mem_cons_of_mem _ hx, List.mem_cons_of_mem _ hy, hxy⟩

theorem rel_mem (h : Option.Rel R a b) :
    Option.Rel (fun x y => a = some x ∧ b = some y ∧ R x y) a b := by
  cases h with
  | some h => exact .some ⟨rfl, rfl, h⟩
  | none => exact .none

theorem rel_imp (h : ∀ a b, R a b → S a b) (hab : Option.Rel R a b) : Option.Rel S a b := by
  cases hab with
  | some hab => exact .some (h _ _ hab)
  | none => exact .none

theorem rel_congr (h : ∀ a b, R a b ↔ S a b) : Option.Rel R a b ↔ Option.Rel S a b :=
  ⟨rel_imp fun _ _ => (h _ _).mp, rel_imp fun _ _ => (h _ _).mpr⟩

theorem rel_refl {R : α → α → Prop} (h : ∀ a, R a a) (a : Option α) : Option.Rel R a a := by
  cases a with
  | none => exact .none
  | some a => exact .some (h a)

theorem rel_eq_iff {a b : Option α} : Option.Rel (· = ·) a b ↔ a = b := by
  constructor
  · rintro (hab | _)
    · exact congrArg some hab
    · rfl
  · rintro rfl
    exact rel_refl (fun _ => rfl) a

end Parts

/-! ## Objects with known keys -/

section Keys

variable {es fs : List (String × Value)}

theorem lookup_of_perm (horder : es.Perm fs) (hkeys : (es.map Prod.fst).Nodup) (k : String) :
    es.lookup k = fs.lookup k := by
  have hkeys' : (fs.map Prod.fst).Nodup := (horder.map Prod.fst).nodup_iff.mp hkeys
  cases h : es.lookup k with
  | some v => exact (lookup_of_mem hkeys' (horder.mem_iff.mp (mem_of_lookup h))).symm
  | none =>
    rw [lookup_eq_none_iff_notMem, (horder.map Prod.fst).mem_iff] at h
    exact (lookup_eq_none_iff_notMem.mpr h).symm

/-- Entries under different keys are known from their keys and from what is found under each. -/
theorem eq_map_lookup (hkeys : (es.map Prod.fst).Nodup) :
    es = (es.map Prod.fst).map fun k => (k, (es.lookup k).getD .null) := by
  rw [List.map_map]
  refine (List.map_id _).symm.trans (List.map_congr_left fun e he => ?_)
  rw [Function.comp, lookup_of_mem hkeys he]
  rfl

theorem Value.Same.keys_perm (h : Value.Same (.object es) (.object fs)) :
    (es.map Prod.fst).Perm (fs.map Prod.fst) := by
  obtain ⟨fs', gs, hfs, horder, hsame⟩ := same_object_iff.mp h
  injection hfs with hfs
  rw [hfs, Value.map_eq_of_forall₂ (hsame.imp fun e g heg => heg.1)]
  exact (horder.map Prod.fst).symm

/-- Objects with the same keys in the same order are the same entry by entry. -/
theorem Value.same_object_iff_of_keys (hkeys : es.map Prod.fst = fs.map Prod.fst)
    (hnodup : (es.map Prod.fst).Nodup) :
    Value.Same (.object es) (.object fs) ↔ List.Forall₂ SameEntry es fs := by
  constructor
  · intro h
    obtain ⟨fs', gs, hfs, horder, hsame⟩ := same_object_iff.mp h
    injection hfs with hfs
    subst hfs
    have hkeys' : gs.map Prod.fst = fs.map Prod.fst :=
      (Value.map_eq_of_forall₂ (hsame.imp fun e g heg => heg.1)).symm.trans hkeys
    have hgs : gs = fs := by
      rw [eq_map_lookup (hkeys' ▸ hkeys ▸ hnodup : (gs.map Prod.fst).Nodup),
        eq_map_lookup (hkeys ▸ hnodup : (fs.map Prod.fst).Nodup), hkeys']
      refine List.map_congr_left fun k _ => ?_
      rw [lookup_of_perm horder (hkeys ▸ hnodup) k]
    rw [← hgs]
    exact hsame
  · intro h
    exact .object (.refl _) (sameUnder_iff.mpr h)

end Keys

theorem Value.same_text_iff {s t : String} : Value.Same (.text s) (.text t) ↔ s = t := by
  rw [Value.same_scalar_iff rfl, Value.text.injEq]

theorem Value.same_bool_iff {a b : Bool} : Value.Same (.bool a) (.bool b) ↔ a = b := by
  rw [Value.same_scalar_iff rfl, Value.bool.injEq]

/-! ## Documents of conditions -/

theorem Operator.word_injective : Function.Injective Operator.word := by
  intro a b h
  cases a <;> cases b <;> simp_all [word]

theorem Combinator.word_injective : Function.Injective Combinator.word := by
  intro a b h
  cases a <;> cases b <;> simp_all [word]

namespace Condition

theorem toValueAll_eq_map (cs : List Condition) : toValueAll cs = cs.map toValue := by
  induction cs with
  | nil => rfl
  | cons c cs ih => rw [toValueAll, ih, List.map_cons]

theorem values_group (k : Combinator) (cs : List Condition) :
    values (.group k cs) = cs.flatMap values := by
  rw [values, leaves, leavesAll_eq_flatMap, List.map_flatMap]
  rfl

variable {field field' : String} {operator operator' : Operator} {combinator combinator' : Combinator}
  {v w : Value} {cs ds : List Condition} {c d : Condition}

theorem same_toValue_leaf_iff :
    (toValue (.leaf field operator v)).Same (toValue (.leaf field' operator' w)) ↔
      field = field' ∧ operator = operator' ∧ v.toJson.Same w.toJson := by
  have hkeys : ["fieldId", "operator", "value"].Nodup := by decide
  refine Iff.trans (Value.same_object_iff_of_keys rfl hkeys) ?_
  simp [SameEntry, Value.same_text_iff, Operator.word_injective.eq_iff]

theorem same_toValue_group_iff :
    (toValue (.group combinator cs)).Same (toValue (.group combinator' ds)) ↔
      combinator = combinator' ∧
        List.Forall₂ (fun c d => c.toValue.Same d.toValue) cs ds := by
  rw [toValue, toValue, toValueAll_eq_map, toValueAll_eq_map]
  have hkeys : ["op", "children"].Nodup := by decide
  refine Iff.trans (Value.same_object_iff_of_keys rfl hkeys) ?_
  simp [SameEntry, Value.same_text_iff, Combinator.word_injective.eq_iff, same_list_iff]

theorem not_same_toValue_leaf_group :
    ¬ (toValue (.leaf field operator v)).Same (toValue (.group combinator ds)) := by
  intro h
  rw [toValue, toValue] at h
  exact absurd h.keys_perm.length_eq (by simp)

theorem not_same_toValue_group_leaf :
    ¬ (toValue (.group combinator ds)).Same (toValue (.leaf field operator v)) := by
  intro h
  rw [toValue, toValue] at h
  exact absurd h.keys_perm.length_eq (by simp)

theorem Same.toValue : ∀ {d}, c.Same d → c.toValue.Same d.toValue := by
  induction c using Condition.induction with
  | ofLeaf field operator v =>
    rintro d (h | _)
    exact same_toValue_leaf_iff.mpr ⟨rfl, rfl, h.toJson⟩
  | ofGroup k cs ih =>
    rintro d (_ | h)
    refine same_toValue_group_iff.mpr ⟨rfl, (forall₂_mem (sameAll_iff.mp h)).imp ?_⟩
    rintro c d ⟨hc, -, hcd⟩
    exact ih c hc hcd

/-- Conditions on JSON values are told apart by their documents. -/
theorem Same.of_toValue : ∀ {d}, (∀ v ∈ c.values, IsJson v) → (∀ v ∈ d.values, IsJson v) →
    c.toValue.Same d.toValue → c.Same d := by
  induction c using Condition.induction with
  | ofLeaf field operator v =>
    rintro (⟨field', operator', w⟩ | ⟨k, ds⟩) hv hw h
    · obtain ⟨rfl, rfl, hvalues⟩ := same_toValue_leaf_iff.mp h
      have hjson : IsJson v := hv v (by simp [values, leaves])
      have hjson' : IsJson w := hw w (by simp [values, leaves])
      rw [hjson.toJson_eq, hjson'.toJson_eq] at hvalues
      exact .leaf hvalues
    · exact absurd h not_same_toValue_leaf_group
  | ofGroup k cs ih =>
    rintro (⟨field', operator', w⟩ | ⟨k', ds⟩) hv hw h
    · exact absurd h not_same_toValue_group_leaf
    · obtain ⟨rfl, hall⟩ := same_toValue_group_iff.mp h
      rw [values_group, List.forall_mem_flatMap] at hv hw
      refine .group (sameAll_iff.mpr ((forall₂_mem hall).imp ?_))
      rintro c d ⟨hc, hd, hcd⟩
      exact ih c hc (hv c hc) (hw d hd) hcd

end Condition

/-! ## Documents of fields -/

theorem Choice.same_toValue_iff {c d : Choice} :
    c.toValue.Same d.toValue ↔ c.label = d.label ∧ c.value.toJson.Same d.value.toJson := by
  have hkeys : ["label", "value"].Nodup := by decide
  refine Iff.trans (Value.same_object_iff_of_keys rfl hkeys) ?_
  simp [SameEntry, Value.same_text_iff]

theorem same_null_iff {v : Value} : v.Same .null ↔ v = .null := by
  constructor
  · rintro ⟨⟩
    rfl
  · rintro rfl
    exact .refl _

/-- A part that is null when it is left out tells whether it was. -/
theorem same_getD_null_iff {α : Type} {F : α → Value} (hF : ∀ a, F a ≠ .null) {a b : Option α} :
    ((a.map F).getD .null).Same ((b.map F).getD .null) ↔
      Option.Rel (fun a b => (F a).Same (F b)) a b := by
  cases a with
  | none =>
    cases b with
    | none => exact ⟨fun _ => .none, fun _ => .refl _⟩
    | some b =>
      refine ⟨fun h => ?_, fun h => by cases h⟩
      exact absurd ((Value.same_scalar_iff rfl).mp h).symm (hF b)
  | some a =>
    cases b with
    | none =>
      refine ⟨fun h => ?_, fun h => by cases h⟩
      exact absurd (same_null_iff.mp h) (hF a)
    | some b =>
      refine ⟨fun h => .some h, ?_⟩
      rintro ⟨⟩
      assumption

namespace Field

variable {f g : Field}

theorem same_placeholder_iff {a b : Option String} :
    ((a.map Value.text).getD .null).Same ((b.map Value.text).getD .null) ↔ a = b :=
  (same_getD_null_iff fun _ => by simp).trans
    ((rel_congr fun _ _ => Value.same_text_iff).trans rel_eq_iff)

theorem same_options_iff {a b : Option (List Choice)} :
    ((a.map fun cs => Value.list (cs.map Choice.toValue)).getD .null).Same
        ((b.map fun cs => Value.list (cs.map Choice.toValue)).getD .null) ↔
      Option.Rel (List.Forall₂ fun c d : Choice => c.toValue.Same d.toValue) a b := by
  refine (same_getD_null_iff fun _ => by simp).trans (rel_congr fun cs ds => ?_)
  rw [same_list_iff]
  simp

theorem same_condition_iff {a b : Option Condition} :
    ((a.map Condition.toValue).getD .null).Same ((b.map Condition.toValue).getD .null) ↔
      Option.Rel (fun c d : Condition => c.toValue.Same d.toValue) a b :=
  same_getD_null_iff fun c => by cases c <;> simp [Condition.toValue]

/-- What the document of a field shows. -/
structure SameDocument (f g : Field) : Prop where
  id : f.id = g.id
  name : f.name = g.name
  kindName : f.kindName = g.kindName
  label : f.label = g.label
  required : f.required = g.required
  placeholder : f.placeholder = g.placeholder
  options :
    Option.Rel (List.Forall₂ fun c d : Choice => c.toValue.Same d.toValue) f.options g.options
  condition : Option.Rel (fun c d : Condition => c.toValue.Same d.toValue) f.condition g.condition
  fallback : Option.Rel (fun v w : Value => v.toJson.Same w.toJson) f.fallback g.fallback
  multiple : f.multiple = g.multiple

/-- The keys of the document of a field in front of its default value. -/
def frontKeys : List String :=
  ["id", "name", "type", "label", "required", "placeholder", "options", "condition"]

theorem same_toValue_iff : f.toValue.Same g.toValue ↔ f.SameDocument g := by
  have hkeys : (frontKeys ++ ["multiple"]).Nodup := by decide
  have hkeysWith : (frontKeys ++ ["defaultValue", "multiple"]).Nodup := by decide
  obtain ⟨_, _, _, _, _, _, _, _, fallback, _⟩ := f
  obtain ⟨_, _, _, _, _, _, _, _, fallback', _⟩ := g
  -- With a default value the document has one key more.
  cases fallback <;> cases fallback'
  case none.none =>
    refine Iff.trans (Value.same_object_iff_of_keys rfl hkeys) ?_
    simp only [Option.map_none, Option.getD_none, List.append_nil, List.cons_append,
      List.nil_append, List.forall₂_cons, List.Forall₂.nil, SameEntry, true_and, and_true,
      Value.same_text_iff, Value.same_bool_iff, same_placeholder_iff, same_options_iff,
      same_condition_iff]
    constructor
    · rintro ⟨hid, hname, hkind, hlabel, hrequired, hplaceholder, hoptions, hcondition, hmultiple⟩
      exact ⟨hid, hname, hkind, hlabel, hrequired, hplaceholder, hoptions, hcondition, .none,
        hmultiple⟩
    · rintro ⟨hid, hname, hkind, hlabel, hrequired, hplaceholder, hoptions, hcondition, -, hmultiple⟩
      exact ⟨hid, hname, hkind, hlabel, hrequired, hplaceholder, hoptions, hcondition, hmultiple⟩
  case some.some v w =>
    refine Iff.trans (Value.same_object_iff_of_keys rfl hkeysWith) ?_
    simp only [Option.map_some, Option.getD_some, List.cons_append,
      List.nil_append, List.forall₂_cons, List.Forall₂.nil, SameEntry, true_and, and_true,
      Value.same_text_iff, Value.same_bool_iff, same_placeholder_iff, same_options_iff,
      same_condition_iff]
    constructor
    · rintro ⟨hid, hname, hkind, hlabel, hrequired, hplaceholder, hoptions, hcondition, hdefault,
        hmultiple⟩
      exact ⟨hid, hname, hkind, hlabel, hrequired, hplaceholder, hoptions, hcondition,
        .some hdefault, hmultiple⟩
    · rintro ⟨hid, hname, hkind, hlabel, hrequired, hplaceholder, hoptions, hcondition,
        ⟨hdefault⟩, hmultiple⟩
      exact ⟨hid, hname, hkind, hlabel, hrequired, hplaceholder, hoptions, hcondition, hdefault,
        hmultiple⟩
  all_goals
    constructor
    · intro h
      exact absurd (Value.Same.keys_perm h).length_eq (by simp)
    · intro h
      cases h.fallback

end Field

/-! ## Documents of forms -/

theorem Form.same_toValue_iff :
    f.toValue.Same g.toValue ↔
      f.version = g.version ∧ List.Forall₂ Field.SameDocument f.fields g.fields := by
  have hkeys : ["version", "fields"].Nodup := by decide
  refine Iff.trans (Value.same_object_iff_of_keys rfl hkeys) ?_
  simp only [SameEntry, List.forall₂_cons, List.Forall₂.nil, true_and, and_true,
    Value.same_text_iff, same_list_iff, Value.list.injEq, exists_eq_left', List.forall₂_map_left_iff,
    List.forall₂_map_right_iff, Field.same_toValue_iff]

theorem Choice.Same.toValue {c d : Choice} (h : c.Same d) : c.toValue.Same d.toValue :=
  same_toValue_iff.mpr ⟨h.label, h.value.toJson⟩

theorem Field.Same.sameDocument {f g : Field} (h : f.Same g) : f.SameDocument g where
  id := h.id
  name := h.name
  kindName := h.kindName
  label := h.label
  required := h.required
  placeholder := h.placeholder
  options := rel_imp (fun _ _ hcs => hcs.imp fun _ _ hc => hc.toValue) h.options
  condition := rel_imp (fun _ _ hc => hc.toValue) h.condition
  fallback := rel_imp (fun _ _ hv => hv.toJson) h.fallback
  multiple := h.multiple

theorem Form.Same.toValue (h : f.Same g) : f.toValue.Same g.toValue :=
  same_toValue_iff.mpr ⟨h.version, h.fields.imp fun _ _ hf => hf.sameDocument⟩

namespace Field

variable {f : Field} {v : Value}

theorem mem_values_iff :
    v ∈ f.values ↔ (∃ cs, f.options = some cs ∧ ∃ c ∈ cs, c.value = v) ∨
      (∃ c, f.condition = some c ∧ v ∈ c.values) ∨ f.fallback = some v := by
  rw [values, List.mem_append, List.mem_append, or_assoc]
  refine or_congr ?_ (or_congr ?_ Option.mem_toList)
  · rw [choices, List.mem_map]
    cases f.options <;> simp
  · cases f.condition <;> simp

theorem mem_values_of_choice (h : v ∈ f.choices) : v ∈ f.values :=
  List.mem_append_left _ (List.mem_append_left _ h)

theorem mem_values_of_fallback (h : f.fallback = some v) : v ∈ f.values :=
  mem_values_iff.mpr (.inr (.inr h))

/-- Fields that hold JSON values are told apart by their documents. -/
theorem SameDocument.same {g : Field} (h : f.SameDocument g) (hf : ∀ v ∈ f.values, IsJson v)
    (hg : ∀ v ∈ g.values, IsJson v) : f.Same g where
  id := h.id
  name := h.name
  kindName := h.kindName
  label := h.label
  required := h.required
  placeholder := h.placeholder
  options := by
    refine rel_imp ?_ (rel_mem h.options)
    rintro cs ds ⟨hcs, hds, hall⟩
    refine (forall₂_mem hall).imp ?_
    rintro c d ⟨hc, hd, hcd⟩
    obtain ⟨hlabel, hvalue⟩ := Choice.same_toValue_iff.mp hcd
    have hjson := hf c.value (mem_values_iff.mpr (.inl ⟨cs, hcs, c, hc, rfl⟩))
    have hjson' := hg d.value (mem_values_iff.mpr (.inl ⟨ds, hds, d, hd, rfl⟩))
    rw [hjson.toJson_eq, hjson'.toJson_eq] at hvalue
    exact ⟨hlabel, hvalue⟩
  condition := by
    refine rel_imp ?_ (rel_mem h.condition)
    rintro c d ⟨hc, hd, hcd⟩
    exact .of_toValue (fun v hv => hf v (mem_values_iff.mpr (.inr (.inl ⟨c, hc, hv⟩))))
      (fun v hv => hg v (mem_values_iff.mpr (.inr (.inl ⟨d, hd, hv⟩)))) hcd
  fallback := by
    refine rel_imp ?_ (rel_mem h.fallback)
    rintro v w ⟨hv, hw, hvw⟩
    have hjson := hf v (mem_values_iff.mpr (.inr (.inr hv)))
    have hjson' := hg w (mem_values_iff.mpr (.inr (.inr hw)))
    rw [hjson.toJson_eq, hjson'.toJson_eq] at hvw
    exact hvw
  multiple := h.multiple

end Field

/-! ## The document of a form, part by part -/

/-- A property of values that texts, Booleans and null have, and that lists and objects with
different keys have when what they hold has it. -/
structure Documented (P : Value → Prop) : Prop where
  null : P .null
  bool : ∀ b, P (.bool b)
  text : ∀ s, P (.text s)
  list : ∀ xs : List Value, (∀ x ∈ xs, P x) → P (.list xs)
  object : ∀ es : List (String × Value), (es.map Prod.fst).Nodup → (∀ e ∈ es, P e.2) → P (.object es)

section Documented

variable {P : Value → Prop}

theorem Documented.condition (hP : Documented P) {c : Condition} :
    (∀ v ∈ c.values, P v.toJson) → P c.toValue := by
  induction c using Condition.induction with
  | ofLeaf field operator v =>
    intro hv
    refine hP.object _ (by decide : ["fieldId", "operator", "value"].Nodup) ?_
    simp only [List.forall_mem_cons]
    exact ⟨hP.text _, hP.text _, hv v (by simp [Condition.values, Condition.leaves]),
      List.forall_mem_nil _⟩
  | ofGroup k cs ih =>
    intro hv
    rw [Condition.values_group, List.forall_mem_flatMap] at hv
    refine hP.object _ (by decide : ["op", "children"].Nodup) ?_
    simp only [List.forall_mem_cons]
    refine ⟨hP.text _, hP.list _ ?_, List.forall_mem_nil _⟩
    rw [Condition.toValueAll_eq_map]
    exact List.forall_mem_map.mpr fun c hc => ih c hc (hv c hc)

theorem Documented.choice (hP : Documented P) {c : Choice} (hv : P c.value.toJson) :
    P c.toValue := by
  refine hP.object _ (by decide : ["label", "value"].Nodup) ?_
  simp only [List.forall_mem_cons]
  exact ⟨hP.text _, hv, List.forall_mem_nil _⟩

theorem Documented.getD {α : Type} (hP : Documented P) {F : α → Value} {a : Option α}
    (h : ∀ x, a = some x → P (F x)) : P ((a.map F).getD .null) := by
  cases a with
  | none => exact hP.null
  | some x => exact h x rfl

theorem Documented.field (hP : Documented P) {f : Field} (hv : ∀ v ∈ f.values, P v.toJson) :
    P f.toValue := by
  have hplaceholder : P ((f.placeholder.map Value.text).getD .null) :=
    hP.getD fun _ _ => hP.text _
  have hoptions : P ((f.options.map fun cs => Value.list (cs.map Choice.toValue)).getD .null) := by
    refine hP.getD fun cs hcs => hP.list _ (List.forall_mem_map.mpr fun c hc => hP.choice ?_)
    exact hv _ (Field.mem_values_iff.mpr (.inl ⟨cs, hcs, c, hc, rfl⟩))
  have hcondition : P ((f.condition.map Condition.toValue).getD .null) := by
    refine hP.getD fun c hc => hP.condition fun v hvc => ?_
    exact hv v (Field.mem_values_iff.mpr (.inr (.inl ⟨c, hc, hvc⟩)))
  have hkeys : (Field.frontKeys ++ ["multiple"]).Nodup := by decide
  have hkeysWith : (Field.frontKeys ++ ["defaultValue", "multiple"]).Nodup := by decide
  rw [Field.toValue]
  cases hfallback : f.fallback with
  | none =>
    refine hP.object _ hkeys ?_
    simp only [Option.map_none, Option.getD_none, List.append_nil, List.cons_append,
      List.nil_append, List.forall_mem_cons]
    exact ⟨hP.text _, hP.text _, hP.text _, hP.text _, hP.bool _, hplaceholder, hoptions,
      hcondition, hP.bool _, List.forall_mem_nil _⟩
  | some v =>
    have hdefault : P v.toJson := hv v (Field.mem_values_iff.mpr (.inr (.inr hfallback)))
    refine hP.object _ hkeysWith ?_
    simp only [Option.map_some, Option.getD_some, List.cons_append, List.nil_append,
      List.forall_mem_cons]
    exact ⟨hP.text _, hP.text _, hP.text _, hP.text _, hP.bool _, hplaceholder, hoptions,
      hcondition, hdefault, hP.bool _, List.forall_mem_nil _⟩

theorem Documented.form (hP : Documented P) (hv : ∀ v ∈ f.values, P v.toJson) : P f.toValue := by
  refine hP.object _ (by decide : ["version", "fields"].Nodup) ?_
  simp only [List.forall_mem_cons]
  refine ⟨hP.text _, hP.list _ ?_, List.forall_mem_nil _⟩
  rw [Form.values, List.forall_mem_flatMap] at hv
  exact List.forall_mem_map.mpr fun f hf => hP.field (hv f hf)

end Documented

theorem documented_isJson : Documented IsJson where
  null := .null
  bool := .bool
  text := .text
  list _ h := .list h
  object _ hkeys h := .object hkeys h

theorem documented_distinctKeys : Documented Value.DistinctKeys where
  null := .scalar rfl
  bool _ := .scalar rfl
  text _ := .scalar rfl
  list _ h := .list h
  object _ hkeys h := .object hkeys h

theorem isJson_toValue (hf : ∀ v ∈ f.values, IsJson v) : IsJson f.toValue :=
  documented_isJson.form fun v hv => by
    rw [(hf v hv).toJson_eq]
    exact hf v hv

theorem documented_short : Documented Value.Short where
  null := Value.short_null
  bool := Value.short_bool
  text := Value.short_text
  list _ h := Value.short_list_iff.mpr h
  object _ _ h := Value.short_object_iff.mpr h

/-! ## What stands in a document -/

section Held

variable {v : Value}

theorem Condition.holds_toValue {c : Condition} : v ∈ c.values → c.toValue.Holds v.toJson := by
  induction c using Condition.induction with
  | ofLeaf field operator w =>
    intro hv
    obtain rfl := List.mem_singleton.mp hv
    exact .object (.tail _ (.tail _ (.head _))) (.self _)
  | ofGroup k cs ih =>
    intro hv
    rw [Condition.values_group, List.mem_flatMap] at hv
    obtain ⟨c, hc, hv⟩ := hv
    refine .object (.tail _ (.head _)) (.list ?_ (ih c hc hv))
    rw [Condition.toValueAll_eq_map]
    exact List.mem_map_of_mem hc

theorem Choice.holds_toValue (c : Choice) : c.toValue.Holds c.value.toJson :=
  .object (.tail _ (.head _)) (.self _)

theorem Field.holds_toValue {f : Field} (hv : v ∈ f.values) : f.toValue.Holds v.toJson := by
  rw [Field.toValue]
  obtain ⟨cs, hcs, c, hc, rfl⟩ | ⟨c, hc, hv⟩ | hv := Field.mem_values_iff.mp hv
  · refine .object (e := ("options", .list (cs.map Choice.toValue))) (by simp [hcs]) ?_
    exact .list (List.mem_map_of_mem hc) c.holds_toValue
  · exact .object (e := ("condition", c.toValue)) (by simp [hc]) (Condition.holds_toValue hv)
  · exact .object (e := ("defaultValue", v.toJson)) (by simp [hv]) (.self _)

theorem Form.holds_toValue (hv : v ∈ f.values) : f.toValue.Holds v.toJson := by
  obtain ⟨a, ha, hv⟩ := List.mem_flatMap.mp hv
  exact .object (.tail _ (.head _)) (.list (List.mem_map_of_mem ha) (Field.holds_toValue hv))

/-- A form has no other integers than its values. -/
theorem Form.short_toValue_iff : f.toValue.Short ↔ ∀ v ∈ f.values, v.Short := by
  constructor
  · exact fun h v hv => Value.short_toJson_iff.mp (h.inside (holds_toValue hv))
  · exact fun h => documented_short.form fun v hv => Value.short_toJson_iff.mpr (h v hv)

end Held

/-! ## Forms without a document -/

/-- A form has a document if every field has one and every integer can be written. -/
theorem Form.noJson?_eq_none_iff :
    f.noJson? = none ↔ (∀ a ∈ f.fields, a.noJson? = none) ∧ ∀ v ∈ f.values, v.Short := by
  rw [Form.noJson?, Option.or_eq_none_iff, List.findSome?_eq_none_iff, ← Form.short_toValue_iff,
    ← Value.hasShortIntegers_iff]
  cases f.toValue.hasShortIntegers <;> simp

namespace Condition

theorem noJsonAmong?_eq_none_iff {groups : Nat} {cs : List Condition} :
    noJsonAmong? groups cs = none ↔ ∀ c ∈ cs, c.noJson? groups = none := by
  induction cs with
  | nil => simp [noJsonAmong?]
  | cons c cs ih => rw [noJsonAmong?, Option.or_eq_none_iff, ih, List.forall_mem_cons]

theorem Same.noJson?_eq_none_iff {c : Condition} : ∀ {d}, c.Same d →
    ∀ groups, c.noJson? groups = none ↔ d.noJson? groups = none := by
  induction c using Condition.induction with
  | ofLeaf field operator v =>
    rintro d (h | _) groups
    rw [Condition.noJson?, Condition.noJson?, Option.map_eq_none_iff, Option.map_eq_none_iff]
    exact h.noJson?_eq_none_iff _
  | ofGroup k cs ih =>
    rintro d (_ | h) groups
    rw [Condition.noJson?, Condition.noJson?, noJsonAmong?_eq_none_iff, noJsonAmong?_eq_none_iff]
    refine Value.forall_mem_iff_of_forall₂ ((forall₂_mem (sameAll_iff.mp h)).imp ?_)
    rintro c d ⟨hc, -, hcd⟩
    exact ih c hc hcd _

end Condition

theorem bind_eq_none_iff_of_rel {α β γ : Type} {R : α → β → Prop} {f : α → Option γ}
    {g : β → Option γ} {a : Option α} {b : Option β} (h : Option.Rel R a b)
    (hfg : ∀ x y, R x y → (f x = none ↔ g y = none)) : a.bind f = none ↔ b.bind g = none := by
  cases h with
  | some h => exact hfg _ _ h
  | none => exact Iff.rfl

theorem Field.Same.choices {f g : Field} (h : f.Same g) :
    List.Forall₂ Value.Same f.choices g.choices := by
  have hoptions := h.options
  rw [Field.choices, Field.choices]
  generalize f.options = cs at *
  generalize g.options = ds at *
  cases hoptions with
  | none => exact .nil
  | some hall =>
    rw [Option.getD_some, Option.getD_some, List.forall₂_map_left_iff, List.forall₂_map_right_iff]
    exact hall.imp fun c d hcd => hcd.value

theorem Field.Same.noJson?_eq_none_iff {f g : Field} (h : f.Same g) :
    f.noJson? = none ↔ g.noJson? = none := by
  rw [Field.noJson?, Field.noJson?, Option.or_eq_none_iff, Option.or_eq_none_iff,
    Option.or_eq_none_iff, Option.or_eq_none_iff, List.findSome?_eq_none_iff,
    List.findSome?_eq_none_iff]
  refine and_congr ?_ (and_congr ?_ ?_)
  · exact Value.forall_mem_iff_of_forall₂ (h.choices.imp fun v w hvw => hvw.noJson?_eq_none_iff _)
  · exact bind_eq_none_iff_of_rel h.condition fun c d hcd => hcd.noJson?_eq_none_iff _
  · exact bind_eq_none_iff_of_rel h.fallback fun v w hvw => hvw.noJson?_eq_none_iff _

/-- Whether a form has a document does not depend on the order of keys. -/
theorem Form.Same.noJson?_eq_none_iff (h : f.Same g) : f.noJson? = none ↔ g.noJson? = none := by
  rw [Form.noJson?_eq_none_iff, Form.noJson?_eq_none_iff, ← Form.short_toValue_iff,
    ← Form.short_toValue_iff, h.toValue.short_iff]
  refine and_congr_left' (Value.forall_mem_iff_of_forall₂ ?_)
  exact h.fields.imp fun a b hab => hab.noJson?_eq_none_iff

/-! ## The encoding -/

/-- Forms that are the same have one encoding, whatever their values. -/
theorem Form.Same.encoding_eq (h : f.Same g) (hf : ∀ v ∈ f.values, v.DistinctKeys) :
    f.encoding = g.encoding := by
  have hdistinct : f.toValue.DistinctKeys :=
    documented_distinctKeys.form fun v hv => (hf v hv).toJson
  rw [Form.encoding, Form.encoding, Value.canonical, Value.canonical,
    h.toValue.canonicalChars_eq hdistinct]

/-- On forms that hold JSON values the encoding loses nothing but the order of keys. -/
theorem encoding_injective (hf : ∀ v ∈ f.values, IsJson v) (hg : ∀ v ∈ g.values, IsJson v) :
    f.encoding = g.encoding ↔ f.Same g := by
  rw [Form.encoding, Form.encoding,
    Value.canonical_eq_iff (isJson_toValue hf) (isJson_toValue hg)]
  constructor
  · intro h
    obtain ⟨hversion, hfields⟩ := Form.same_toValue_iff.mp h
    refine ⟨hversion, (forall₂_mem hfields).imp ?_⟩
    rintro a b ⟨ha, hb, hab⟩
    rw [Form.values, List.forall_mem_flatMap] at hf hg
    exact hab.same (hf a ha) (hg b hb)
  · exact Form.Same.toValue

/-- A form with one number and a default value for it. -/
def sized (v : Value) : Form :=
  ⟨"1", [⟨"a", "size", "number", "Size", false, none, none, none, some v, false⟩]⟩

/-- The order of keys is lost; that one number is an integer and an equal one is not, is kept. -/
theorem encoding_injective_sized :
    (sized (.object [("w", .int 1), ("h", .null)])).encoding =
      (sized (.object [("h", .null), ("w", .int 1)])).encoding ∧
    (sized (.int 0)).encoding ≠ (sized (.float .zero)).encoding := by
  have hvalues : ∀ {v}, IsJson v → ∀ w ∈ (sized v).values, IsJson w := fun hv w hw => by
    rwa [List.mem_singleton.mp hw]
  have hone : ∀ e ∈ [("w", Value.int 1), ("h", Value.null)], IsJson e.2 := by
    simp only [List.forall_mem_cons]
    exact ⟨.int 1, .null, List.forall_mem_nil _⟩
  have hother : ∀ e ∈ [("h", Value.null), ("w", Value.int 1)], IsJson e.2 := by
    simp only [List.forall_mem_cons]
    exact ⟨.null, .int 1, List.forall_mem_nil _⟩
  constructor
  · refine (encoding_injective (hvalues (.object (by decide) hone))
      (hvalues (.object (by decide) hother))).mpr ?_
    have hsame : Value.Same (.object [("w", .int 1), ("h", .null)])
        (.object [("h", .null), ("w", .int 1)]) :=
      .object (.swap ..) (sameUnder_iff.mpr (List.forall₂_same.mpr fun e _ => ⟨rfl, .refl _⟩))
    exact ⟨rfl, .cons ⟨rfl, rfl, rfl, rfl, rfl, rfl, .none, .none, .some hsame, rfl⟩ .nil⟩
  · intro h
    obtain ⟨-, _ | ⟨hfield, -⟩⟩ := (encoding_injective (hvalues (.int 0))
      (hvalues (.float ⟨false, 0, representable_zero⟩))).mp h
    rcases hfield.fallback with ⟨⟨⟩⟩

end Formwork
