import Formwork.Proofs.Encoding
import Formwork.Proofs.Naming
import Formwork.Proofs.Readings
import Mathlib.Data.List.Pairwise
import Mathlib.Logic.Relation

/-!
# Respelled documents

One form can be written in many ways: the order of keys is free, keys that mean nothing may be added,
some keys have a second name, and what is left out may be spelled out. A step from one spelling to
another keeps, under every name that a record reads, what is found there. So whatever is read from
the first document is read from the second, but for the order of keys, and has the same name.
-/

namespace Formwork

open Document (find?)

/-! ## Spellings -/

/-- A place in the document of a form, by what stands there. -/
inductive Place where
  | plain
  | value
  | choice
  | condition
  | field
  | form
  | many (p : Place)

/-- An entry that a record reads: the names that it may stand under, what it means to leave it out
where that may be done, and what stands there. -/
structure Place.Slot where
  names : List String
  usual : Option Value
  place : Place

/-- The entries that a record reads. A condition with a combinator is a group. -/
def Place.slots (isGroup : Bool) : Place → List Place.Slot
  | plain | value | many _ => []
  | choice => [⟨["label"], none, plain⟩, ⟨["value"], none, value⟩]
  | condition =>
    if isGroup then [⟨["op"], none, plain⟩, ⟨["children"], some (.list []), many condition⟩]
    else [⟨["fieldId", "field_id"], none, plain⟩, ⟨["operator"], none, plain⟩,
      ⟨["value"], some .null, value⟩]
  | field => [⟨["id"], none, plain⟩, ⟨["name"], none, plain⟩, ⟨["type"], none, plain⟩,
      ⟨["label"], none, plain⟩, ⟨["required"], some (.bool false), plain⟩,
      ⟨["placeholder"], some .null, plain⟩, ⟨["options"], some .null, many choice⟩,
      ⟨["condition"], some .null, condition⟩, ⟨["defaultValue", "default_value"], none, value⟩,
      ⟨["multiple"], some (.bool false), plain⟩]
  | form => [⟨["version"], none, plain⟩, ⟨["fields"], some (.list []), many field⟩]

/-- The entries that a record reads from an object. -/
def Place.slotsOf (p : Place) (es : List (String × Value)) : List Place.Slot :=
  p.slots (es.lookup "op").isSome

/-- Whether an object is read entry by entry. -/
def Place.isRecord : Place → Bool
  | choice | condition | field | form => true
  | plain | value | many _ => false

/-- An object with a key written in another way. -/
def renameKey (a b : String) (es : List (String × Value)) : List (String × Value) :=
  es.map fun e => (if e.1 = a then b else e.1, e.2)

/-- One step from a spelling of what stands at a place to another. -/
inductive Respelled : Place → Value → Value → Prop
  /-- Keys inside a value that a form holds are put in another order. -/
  | reordered {v w : Value} (h : v.Same w) : Respelled .value v w
  /-- The entries of a record are put in another order. -/
  | permuted {p : Place} {es fs : List (String × Value)} (hp : p.isRecord = true)
      (h : es.Perm fs) : Respelled p (.object es) (.object fs)
  /-- A key is added that means nothing at the place. -/
  | added {p : Place} {es : List (String × Value)} {k : String} {v : Value}
      (hp : p.isRecord = true) (hv : v.DistinctKeys) (hnew : k ∉ es.map Prod.fst)
      (hunknown : ∀ s ∈ p.slotsOf es, k ∉ s.names) (hop : p = .condition → k ≠ "op") :
      Respelled p (.object es) (.object (es ++ [(k, v)]))
  /-- A key is written by its other name. -/
  | renamed {p : Place} {es : List (String × Value)} {s : Place.Slot} {a b : String}
      (hs : s ∈ p.slotsOf es) (hnames : s.names = [a, b] ∨ s.names = [b, a])
      (hnew : b ∉ es.map Prod.fst) :
      Respelled p (.object es) (.object (renameKey a b es))
  /-- What is left out is spelled out. -/
  | spelled {p : Place} {es : List (String × Value)} {s : Place.Slot} {k : String} {v : Value}
      (hs : s ∈ p.slotsOf es) (husual : s.usual = some v) (hk : k ∈ s.names)
      (hnone : ∀ j ∈ s.names, j ∉ es.map Prod.fst) :
      Respelled p (.object es) (.object (es ++ [(k, v)]))
  /-- A step is taken inside an entry. -/
  | inside {p : Place} {front back : List (String × Value)} {s : Place.Slot} {k : String} {v w : Value}
      (hs : s ∈ p.slotsOf (front ++ (k, v) :: back)) (hk : k ∈ s.names)
      (h : Respelled s.place v w) :
      Respelled p (.object (front ++ (k, v) :: back)) (.object (front ++ (k, w) :: back))
  /-- A step is taken inside a member of a list. -/
  | member {p : Place} {front back : List Value} {v w : Value} (h : Respelled p v w) :
      Respelled (.many p) (.list (front ++ v :: back)) (.list (front ++ w :: back))
  /-- A step is taken inside a member of a tuple. -/
  | tupleMember {p : Place} {front back : List Value} {v w : Value} (h : Respelled p v w) :
      Respelled (.many p) (.tuple (front ++ v :: back)) (.tuple (front ++ w :: back))

/-! ## Looking up after a step -/

section Lookup

variable {es fs : List (String × Value)} {names : List String} {a b j k : String} {v w : Value}

theorem find?_eq_none_iff : find? names es = none ↔ ∀ j ∈ names, j ∉ es.map Prod.fst := by
  rw [find?, List.findSome?_eq_none_iff]
  simp only [Option.map_eq_none_iff, lookup_eq_none_iff_notMem]

/-- What is found under some names goes by what is found under each. -/
theorem find?_rel {R : Value → Value → Prop}
    (h : ∀ j ∈ names, Option.Rel R (es.lookup j) (fs.lookup j)) :
    Option.Rel (fun e f => R e.2 f.2) (find? names es) (find? names fs) := by
  induction names with
  | nil => exact .none
  | cons j names ih =>
    rw [List.forall_mem_cons] at h
    rw [find?, find?, List.findSome?_cons, List.findSome?_cons]
    have hj := h.1
    cases hes : es.lookup j with
    | none =>
      cases hfs : fs.lookup j with
      | none => exact ih h.2
      | some w =>
        rw [hes, hfs] at hj
        cases hj
    | some v =>
      cases hfs : fs.lookup j with
      | none =>
        rw [hes, hfs] at hj
        cases hj
      | some w =>
        rw [hes, hfs] at hj
        cases hj with
        | some hvw => exact .some hvw

/-- The only one of some names that an object has is found. -/
theorem find?_eq_some (hk : k ∈ names) (hv : es.lookup k = some v)
    (hother : ∀ j ∈ names, j ≠ k → es.lookup j = none) : find? names es = some (k, v) := by
  induction names with
  | nil => cases hk
  | cons j names ih =>
    rw [List.forall_mem_cons] at hother
    rw [find?, List.findSome?_cons]
    by_cases hjk : j = k
    · rw [hjk, hv]
      rfl
    · rw [hother.1 hjk]
      exact ih ((List.mem_cons.mp hk).resolve_left (Ne.symm hjk)) hother.2

theorem lookup_append_of_ne (h : j ≠ k) : (es ++ [(k, v)]).lookup j = es.lookup j := by
  rw [List.lookup_append, List.lookup_cons, beq_false_of_ne h]
  exact Option.or_none

theorem lookup_append_new (h : k ∉ es.map Prod.fst) : (es ++ [(k, v)]).lookup k = some v := by
  rw [List.lookup_append, lookup_eq_none_iff_notMem.mpr h, List.lookup_cons, beq_self_eq_true]
  rfl

theorem lookup_renameKey_of_ne (ha : j ≠ a) (hb : j ≠ b) :
    (renameKey a b es).lookup j = es.lookup j := by
  induction es with
  | nil => rfl
  | cons e es ih =>
    rw [renameKey] at ih ⊢
    rw [List.map_cons, List.lookup_cons, List.lookup_cons, ih]
    by_cases he : e.1 = a
    · rw [if_pos he, beq_false_of_ne hb, he, beq_false_of_ne ha]
    · rw [if_neg he]

theorem lookup_renameKey_new (hnew : b ∉ es.map Prod.fst) :
    (renameKey a b es).lookup b = es.lookup a := by
  induction es with
  | nil => rfl
  | cons e es ih =>
    rw [List.map_cons, List.mem_cons, not_or] at hnew
    rw [renameKey] at ih ⊢
    rw [List.map_cons, List.lookup_cons, List.lookup_cons, ih hnew.2]
    by_cases he : e.1 = a
    · rw [if_pos he, beq_self_eq_true, he, beq_self_eq_true]
    · rw [if_neg he, beq_false_of_ne hnew.1, beq_false_of_ne (Ne.symm he)]

theorem lookup_renameKey_old (hab : a ≠ b) : (renameKey a b es).lookup a = none := by
  rw [lookup_eq_none_iff_notMem, renameKey, List.map_map]
  intro h
  obtain ⟨e, -, he⟩ := List.mem_map.mp h
  dsimp only [Function.comp] at he
  split at he
  · exact hab he.symm
  · rename_i hea
    exact hea he

theorem lookup_changed_of_ne {front back : List (String × Value)} (h : j ≠ k) :
    (front ++ (k, w) :: back).lookup j = (front ++ (k, v) :: back).lookup j := by
  rw [List.lookup_append, List.lookup_append, List.lookup_cons, List.lookup_cons,
    beq_false_of_ne h]

end Lookup

/-! ## What a step keeps -/

/-- Whatever is read from the first value at a place is read from the second, but for the order of
keys. -/
def Agree : Place → Value → Value → Prop
  | .plain, v, w => v = w
  | .value, v, w => v.Same w
  | .choice, v, w => ∀ c, Choice.read v = .ok c → ∃ d, Choice.read w = .ok d ∧ c.Same d
  | .condition, v, w => ∀ levels c, Condition.read levels v = .ok c →
      ∃ d, Condition.read levels w = .ok d ∧ c.Same d
  | .field, v, w => ∀ levels f, Field.readWithin levels v = .ok f →
      ∃ g, Field.readWithin levels w = .ok g ∧ f.Same g
  | .form, v, w => ∀ levels f, Form.readWithin levels v = .ok f →
      ∃ g, Form.readWithin levels w = .ok g ∧ f.Same g
  | .many p, v, w => ∀ xs, v.elements? = some xs →
      ∃ ys, w.elements? = some ys ∧ List.Forall₂ (Agree p) xs ys

/-- The two values agree at a place, and neither or both of them are null. -/
structure Keeps (p : Place) (v w : Value) : Prop where
  agree : Agree p v w
  null : v = .null ↔ w = .null

namespace Place.Slot

/-- What two objects hold in a slot: the same, or nothing, or in the second what the first means. -/
inductive Matches (s : Place.Slot) (es fs : List (String × Value)) : Prop
  | both {e f : String × Value} (hes : find? s.names es = some e) (hfs : find? s.names fs = some f)
      (h : Keeps s.place e.2 f.2)
  | neither (hes : find? s.names es = none) (hfs : find? s.names fs = none)
  | spelled {f : String × Value} (hes : find? s.names es = none)
      (hfs : find? s.names fs = some f) (husual : s.usual = some f.2)

end Place.Slot

theorem Condition.Same.refl (c : Condition) : c.Same c := by
  induction c using Condition.induction with
  | ofLeaf field operator v => exact .leaf (.refl v)
  | ofGroup k cs ih => exact .group (Condition.sameAll_iff.mpr (List.forall₂_same.mpr ih))

theorem Choice.Same.refl (c : Choice) : c.Same c := ⟨rfl, .refl _⟩

theorem Field.Same.refl (f : Field) : f.Same f :=
  ⟨rfl, rfl, rfl, rfl, rfl, rfl, rel_refl (fun _ => List.forall₂_same.mpr fun c _ => .refl c) _,
    rel_refl .refl _, rel_refl .refl _, rfl⟩

theorem Form.Same.refl (f : Form) : f.Same f :=
  ⟨rfl, List.forall₂_same.mpr fun g _ => .refl g⟩

theorem Agree.refl (p : Place) (v : Value) : Agree p v v := by
  induction p generalizing v with
  | plain => rfl
  | value => exact Value.Same.refl v
  | choice => exact fun c hc => ⟨c, hc, .refl c⟩
  | condition => exact fun levels c hc => ⟨c, hc, .refl c⟩
  | field => exact fun levels f hf => ⟨f, hf, .refl f⟩
  | form => exact fun levels f hf => ⟨f, hf, .refl f⟩
  | many p ih => exact fun xs hxs => ⟨xs, hxs, List.forall₂_same.mpr fun x _ => ih x⟩

theorem Keeps.refl (p : Place) (v : Value) : Keeps p v v := ⟨.refl p v, Iff.rfl⟩

/-! ## Steps on the entries of a record -/

theorem Place.names_nodup (p : Place) (isGroup : Bool) :
    ((p.slots isGroup).flatMap Place.Slot.names).Nodup := by
  cases p
  case many => exact List.nodup_nil
  all_goals cases isGroup <;> decide

/-- No name belongs to two slots. -/
theorem Place.slot_eq_of_mem {p : Place} {isGroup : Bool} {s t : Place.Slot} {k : String}
    (hs : s ∈ p.slots isGroup) (ht : t ∈ p.slots isGroup) (hks : k ∈ s.names)
    (hkt : k ∈ t.names) : s = t := by
  by_contra hne
  obtain ⟨-, hdisjoint⟩ := List.nodup_flatMap.mp (p.names_nodup isGroup)
  have hsymm : Std.Symm (Function.onFun List.Disjoint Place.Slot.names) :=
    ⟨fun _ _ hst _ ht hs => hst hs ht⟩
  exact hdisjoint.forall hs ht hne hks hkt

/-- The combinator of a group is none of the keys of a test. -/
theorem Place.op_notMem_names {s : Place.Slot} (hs : s ∈ Place.condition.slots false) :
    "op" ∉ s.names := by
  intro hop
  have hmem : "op" ∈ (Place.condition.slots false).flatMap Place.Slot.names :=
    List.mem_flatMap.mpr ⟨s, hs, hop⟩
  exact absurd hmem (by decide)

section Record

variable {p : Place} {es fs : List (String × Value)} {s t : Place.Slot} {a b k : String}
  {v w : Value}

namespace Place.Slot

theorem Matches.of_lookup
    (h : ∀ j ∈ s.names, Option.Rel (Keeps s.place) (es.lookup j) (fs.lookup j)) :
    s.Matches es fs := by
  have hrel := find?_rel h
  cases hes : find? s.names es with
  | none =>
    cases hfs : find? s.names fs with
    | none => exact .neither hes hfs
    | some f =>
      rw [hes, hfs] at hrel
      cases hrel
  | some e =>
    cases hfs : find? s.names fs with
    | none =>
      rw [hes, hfs] at hrel
      cases hrel
    | some f =>
      rw [hes, hfs] at hrel
      cases hrel with
      | some hef => exact .both hes hfs hef

theorem Matches.of_lookup_eq (h : ∀ j ∈ s.names, fs.lookup j = es.lookup j) : s.Matches es fs :=
  .of_lookup fun j hj => by
    rw [h j hj]
    exact rel_refl (Keeps.refl s.place) _

end Place.Slot

/-- Every slot holds the same after a step, and no test becomes a group. -/
structure RecordKeeps (p : Place) (es fs : List (String × Value)) : Prop where
  slots : ∀ s ∈ p.slotsOf es, s.Matches es fs
  leaf : p = .condition → es.lookup "op" = none → fs.lookup "op" = none

theorem op_ne_of_leaf (hs : s ∈ p.slotsOf es) (hp : p = .condition)
    (hop : es.lookup "op" = none) (hk : k ∈ s.names) : "op" ≠ k := by
  subst hp
  rintro rfl
  rw [Place.slotsOf, hop] at hs
  exact Place.op_notMem_names hs hk

theorem RecordKeeps.permuted (hkeys : (es.map Prod.fst).Nodup) (h : es.Perm fs) :
    RecordKeeps p es fs where
  slots _ _ := .of_lookup_eq fun j _ => (lookup_of_perm h hkeys j).symm
  leaf _ hop := by rw [← lookup_of_perm h hkeys, hop]

theorem RecordKeeps.added (hunknown : ∀ s ∈ p.slotsOf es, k ∉ s.names)
    (hop : p = .condition → k ≠ "op") : RecordKeeps p es (es ++ [(k, v)]) where
  slots s hs := .of_lookup_eq fun j hj => lookup_append_of_ne fun h => hunknown s hs (h ▸ hj)
  leaf hp hnone := by rw [lookup_append_of_ne (hop hp).symm, hnone]

theorem RecordKeeps.renamed (hs : s ∈ p.slotsOf es) (hnames : s.names = [a, b] ∨ s.names = [b, a])
    (hnew : b ∉ es.map Prod.fst) : RecordKeeps p es (renameKey a b es) := by
  have ha : a ∈ s.names := by rcases hnames with h | h <;> simp [h]
  have hb : b ∈ s.names := by rcases hnames with h | h <;> simp [h]
  have hab : a ≠ b := by
    have hnodup := (List.nodup_flatMap.mp (p.names_nodup (es.lookup "op").isSome)).1 s hs
    rcases hnames with h | h <;> rw [h] at hnodup <;> simp at hnodup
    · exact hnodup
    · exact Ne.symm hnodup
  refine ⟨fun t ht => ?_, fun hp hop => ?_⟩
  · by_cases hst : t = s
    · subst hst
      -- Of the two names the object has the first at most before, and the second at most after.
      have hother : ∀ j ∈ t.names, j = a ∨ j = b := by
        intro j hj
        rcases hnames with h | h <;> rw [h] at hj <;> simpa [or_comm] using hj
      have hold : es.lookup b = none := lookup_eq_none_iff_notMem.mpr hnew
      have hmoved := lookup_renameKey_new (a := a) hnew
      have hgone : (renameKey a b es).lookup a = none := lookup_renameKey_old hab
      cases hv : es.lookup a with
      | none =>
        refine .neither (find?_eq_none_iff.mpr ?_) (find?_eq_none_iff.mpr ?_)
        · intro j hj
          rw [← lookup_eq_none_iff_notMem]
          rcases hother j hj with rfl | rfl
          · exact hv
          · exact hold
        · intro j hj
          rw [← lookup_eq_none_iff_notMem]
          rcases hother j hj with rfl | rfl
          · exact hgone
          · rw [hmoved, hv]
      | some v =>
        refine .both (find?_eq_some ha hv ?_) (find?_eq_some hb (hmoved.trans hv) ?_) (.refl _ _)
        · intro j hj hja
          rw [(hother j hj).resolve_left hja, hold]
        · intro j hj hjb
          rw [(hother j hj).resolve_right hjb, hgone]
    · refine .of_lookup_eq fun j hj => lookup_renameKey_of_ne ?_ ?_
      · rintro rfl
        exact hst (Place.slot_eq_of_mem ht hs hj ha)
      · rintro rfl
        exact hst (Place.slot_eq_of_mem ht hs hj hb)
  · rw [lookup_renameKey_of_ne (op_ne_of_leaf hs hp hop ha) (op_ne_of_leaf hs hp hop hb), hop]

theorem RecordKeeps.spelled (hs : s ∈ p.slotsOf es) (husual : s.usual = some v) (hk : k ∈ s.names)
    (hnone : ∀ j ∈ s.names, j ∉ es.map Prod.fst) : RecordKeeps p es (es ++ [(k, v)]) where
  slots t ht := by
    by_cases hst : t = s
    · subst hst
      refine .spelled (find?_eq_none_iff.mpr hnone)
        (find?_eq_some hk (lookup_append_new (hnone k hk)) ?_) husual
      intro j hj hjk
      rw [lookup_append_of_ne hjk, lookup_eq_none_iff_notMem.mpr (hnone j hj)]
    · refine .of_lookup_eq fun j hj => lookup_append_of_ne ?_
      rintro rfl
      exact hst (Place.slot_eq_of_mem ht hs hj hk)
  leaf hp hop := by
    rw [lookup_append_of_ne (op_ne_of_leaf hs hp hop hk), hop]

theorem RecordKeeps.inside {front back : List (String × Value)}
    (hkeys : ((front ++ (k, v) :: back).map Prod.fst).Nodup)
    (hs : s ∈ p.slotsOf (front ++ (k, v) :: back)) (hk : k ∈ s.names) (h : Keeps s.place v w) :
    RecordKeeps p (front ++ (k, v) :: back) (front ++ (k, w) :: back) where
  slots t ht := by
    refine .of_lookup fun j hj => ?_
    by_cases hjk : j = k
    · have hst : t = s := Place.slot_eq_of_mem ht hs hj (hjk ▸ hk)
      have hkeys' : ((front ++ (k, w) :: back).map Prod.fst).Nodup := by simpa using hkeys
      rw [hjk, lookup_of_mem hkeys (a := v) (by simp), lookup_of_mem hkeys' (a := w) (by simp), hst]
      exact .some h
    · rw [lookup_changed_of_ne hjk]
      exact rel_refl (Keeps.refl t.place) _
  leaf hp hop := by
    rw [lookup_changed_of_ne (op_ne_of_leaf hs hp hop hk), hop]

/-! ## Reading after a step -/

/-- What is read from the first value is read from the second, up to a relation. -/
def Follows {α : Type} (read : Value → Reading α) (R : α → α → Prop) (v w : Value) : Prop :=
  ∀ a, read v = .ok a → ∃ b, read w = .ok b ∧ R a b

variable {α : Type} {read : Value → Reading α} {R : α → α → Prop} {x fallback : α}

theorem Follows.of_eq (hR : ∀ a, R a a) : Follows read R v v := fun a ha => ⟨a, ha, hR a⟩

theorem Keeps.follows_plain (h : Keeps .plain v w) : Follows read (· = ·) v w :=
  h.agree ▸ .of_eq fun _ => rfl

theorem Keeps.follows_value (h : Keeps .value v w) : Follows .ok Value.Same v w := by
  rintro a ⟨⟩
  exact ⟨w, rfl, h.agree⟩

theorem Keeps.follows_nullable (h : Keeps p v w) (hread : Follows read R v w) :
    Follows (Document.nullable read) (Option.Rel R) v w := by
  intro o ho
  rcases Document.nullable_eq_ok_iff.mp ho with ⟨hv, rfl⟩ | ⟨hv, a, ha, rfl⟩
  · exact ⟨none, Document.nullable_eq_ok_iff.mpr (.inl ⟨h.null.mp hv, rfl⟩), .none⟩
  · obtain ⟨b, hb, hab⟩ := hread a ha
    exact ⟨some b, Document.nullable_eq_ok_iff.mpr (.inr ⟨mt h.null.mpr hv, b, hb, rfl⟩),
      .some hab⟩

theorem follows_all {xs ys : List Value} {as : List α} (hxy : List.Forall₂ (Follows read R) xs ys)
    (has : List.Forall₂ (fun x a => read x = .ok a) xs as) :
    ∃ bs, List.Forall₂ (fun y b => read y = .ok b) ys bs ∧ List.Forall₂ R as bs := by
  induction hxy generalizing as with
  | nil =>
    cases has
    exact ⟨[], .nil, .nil⟩
  | cons hxy _ ih =>
    cases has with
    | cons ha has =>
      obtain ⟨b, hb, hab⟩ := hxy _ ha
      obtain ⟨bs, hbs, habs⟩ := ih has
      exact ⟨b :: bs, .cons hb hbs, .cons hab habs⟩

theorem follows_list (h : Agree (.many p) v w) (hread : ∀ x y, Agree p x y → Follows read R x y) :
    Follows (Document.list read) (List.Forall₂ R) v w := by
  intro as has
  obtain ⟨xs, hxs, has⟩ := Document.list_eq_ok_iff.mp has
  obtain ⟨ys, hys, hxy⟩ := h xs hxs
  obtain ⟨bs, hbs, hab⟩ := follows_all (hxy.imp hread) has
  exact ⟨bs, Document.list_eq_ok_iff.mpr ⟨ys, hys, hbs⟩, hab⟩

namespace Place.Slot

theorem Matches.entry (h : s.Matches es fs) (ha : Document.entry s.names read es = .ok x)
    (hread : ∀ v w, Keeps s.place v w → Follows read R v w) :
    ∃ y, Document.entry s.names read fs = .ok y ∧ R x y := by
  obtain ⟨k, v, hfind, hv⟩ := Document.entry_eq_ok_iff.mp ha
  rcases h with ⟨hes, hfs, hkeeps⟩ | ⟨hes, hfs⟩ | ⟨hes, hfs, hspelled⟩
  · rw [hes] at hfind
    injection hfind with hfind
    rw [hfind] at hkeeps
    obtain ⟨b, hb, hab⟩ := hread _ _ hkeeps x hv
    exact ⟨b, Document.entry_eq_ok_iff.mpr ⟨_, _, hfs, hb⟩, hab⟩
  · rw [hes] at hfind
    cases hfind
  · rw [hes] at hfind
    cases hfind

theorem Matches.optionalEntry {o : Option α} (h : s.Matches es fs) (husual : s.usual = none)
    (ha : Document.optionalEntry s.names read es = .ok o)
    (hread : ∀ v w, Keeps s.place v w → Follows read R v w) :
    ∃ o', Document.optionalEntry s.names read fs = .ok o' ∧ Option.Rel R o o' := by
  rcases h with ⟨hes, hfs, hkeeps⟩ | ⟨hes, hfs⟩ | ⟨hes, hfs, hspelled⟩
  · rcases Document.optionalEntry_eq_ok_iff.mp ha with ⟨hnone, -⟩ | ⟨k, v, a, hfind, hv, rfl⟩
    · rw [hes] at hnone
      cases hnone
    · rw [hes] at hfind
      injection hfind with hfind
      rw [hfind] at hkeeps
      obtain ⟨b, hb, hab⟩ := hread _ _ hkeeps a hv
      exact ⟨some b, Document.optionalEntry_eq_ok_iff.mpr (.inr ⟨_, _, b, hfs, hb, rfl⟩),
        .some hab⟩
  · rcases Document.optionalEntry_eq_ok_iff.mp ha with ⟨-, rfl⟩ | ⟨k, v, a, hfind, -⟩
    · exact ⟨none, Document.optionalEntry_eq_ok_iff.mpr (.inl ⟨hfs, rfl⟩), .none⟩
    · rw [hes] at hfind
      cases hfind
  · rw [husual] at hspelled
    cases hspelled

theorem Matches.entryOr {u : Value} (h : s.Matches es fs) (husual : s.usual = some u)
    (ha : Document.entryOr fallback s.names read es = .ok x)
    (hread : ∀ v w, Keeps s.place v w → Follows read R v w) (hfallback : R fallback fallback)
    (hspelled : read u = .ok fallback) :
    ∃ y, Document.entryOr fallback s.names read fs = .ok y ∧ R x y := by
  rcases h with ⟨hes, hfs, hkeeps⟩ | ⟨hes, hfs⟩ | ⟨hes, hfs, hmeant⟩
  · rcases Document.entryOr_eq_ok_iff.mp ha with ⟨hnone, -⟩ | ⟨k, v, hfind, hv⟩
    · rw [hes] at hnone
      cases hnone
    · rw [hes] at hfind
      injection hfind with hfind
      rw [hfind] at hkeeps
      obtain ⟨b, hb, hab⟩ := hread _ _ hkeeps x hv
      exact ⟨b, Document.entryOr_eq_ok_iff.mpr (.inr ⟨_, _, hfs, hb⟩), hab⟩
  · rcases Document.entryOr_eq_ok_iff.mp ha with ⟨-, rfl⟩ | ⟨k, v, hfind, -⟩
    · exact ⟨x, Document.entryOr_eq_ok_iff.mpr (.inl ⟨hfs, rfl⟩), hfallback⟩
    · rw [hes] at hfind
      cases hfind
  · -- What is spelled out is read as what it means to leave it out.
    rcases Document.entryOr_eq_ok_iff.mp ha with ⟨-, rfl⟩ | ⟨k, v, hfind, -⟩
    · rw [husual] at hmeant
      injection hmeant with hmeant
      exact ⟨x, Document.entryOr_eq_ok_iff.mpr (.inr ⟨_, _, hfs, hmeant ▸ hspelled⟩), hfallback⟩
    · rw [hes] at hfind
      cases hfind

end Place.Slot

/-! ## Records after a step -/

namespace RecordKeeps

/-- What stands in a plain slot is read as before. -/
theorem plain_entry (h : RecordKeeps p es fs) {names : List String} {u : Option Value}
    (hs : ⟨names, u, .plain⟩ ∈ p.slotsOf es) (hx : Document.entry names read es = .ok x) :
    Document.entry names read fs = .ok x := by
  obtain ⟨y, hy, rfl⟩ := (h.slots _ hs).entry hx fun _ _ hk => hk.follows_plain
  exact hy

theorem plain_entryOr (h : RecordKeeps p es fs) {names : List String} {u : Value}
    (hs : ⟨names, some u, .plain⟩ ∈ p.slotsOf es) (hspelled : read u = .ok fallback)
    (hx : Document.entryOr fallback names read es = .ok x) :
    Document.entryOr fallback names read fs = .ok x := by
  obtain ⟨y, hy, rfl⟩ := (h.slots _ hs).entryOr rfl hx (fun _ _ hk => hk.follows_plain) rfl
    hspelled
  exact hy

theorem agree_choice (h : RecordKeeps .choice es fs) : Agree .choice (.object es) (.object fs) := by
  intro c hc
  obtain ⟨_, ⟨⟩, hlabel, hvalue⟩ := Choice.read_eq_ok_iff.mp hc
  obtain ⟨w, hw, hsame⟩ := (h.slots ⟨["value"], none, .value⟩ (by simp [Place.slotsOf,
    Place.slots])).entry hvalue fun _ _ hk => hk.follows_value
  have hlabel' := h.plain_entry (u := none) (by simp [Place.slotsOf, Place.slots]) hlabel
  exact ⟨⟨c.label, w⟩, Choice.read_eq_ok_iff.mpr ⟨fs, rfl, hlabel', hw⟩, rfl, hsame⟩

theorem follows_conditions {levels : Nat} (h : Keeps (.many .condition) v w) :
    Follows (Document.list (Condition.read levels)) (List.Forall₂ Condition.Same) v w :=
  follows_list h.agree fun _ _ hxy => hxy levels

theorem agree_condition (h : RecordKeeps .condition es fs) :
    Agree .condition (.object es) (.object fs) := by
  intro levels c hc
  obtain ⟨_, ⟨⟩, hlevels, hreads⟩ := Condition.read_eq_ok_iff.mp hc
  cases hreads with
  | @leaf field operator value hop hfield hoperator hvalue =>
    have hslots : Place.condition.slotsOf es = Place.condition.slots false := by
      rw [Place.slotsOf, hop]
      rfl
    have hfield' := h.plain_entry (u := none) (by simp [hslots, Place.slots]) hfield
    have hoperator' := h.plain_entry (u := none) (by simp [hslots, Place.slots]) hoperator
    obtain ⟨w, hw, hsame⟩ := (h.slots ⟨["value"], some .null, .value⟩ (by simp [hslots,
      Place.slots])).entryOr rfl hvalue (fun _ _ hk => hk.follows_value) (.refl _) rfl
    exact ⟨.leaf field operator w, Condition.read_eq_ok_iff.mpr
      ⟨fs, rfl, hlevels, .leaf (h.leaf rfl hop) hfield' hoperator' hw⟩, .leaf hsame⟩
  | @group combinator children hop hcombinator hchildren =>
    have hslots : Place.condition.slotsOf es = Place.condition.slots true := by
      rw [Place.slotsOf, Option.isSome_iff_ne_none.mpr hop]
    have hcombinator' := h.plain_entry (u := none) (by simp [hslots, Place.slots]) hcombinator
    obtain ⟨ds, hds, hsame⟩ := (h.slots ⟨["children"], some (.list []), .many .condition⟩
      (by simp [hslots, Place.slots])).entryOr rfl hchildren (fun _ _ => follows_conditions)
      .nil rfl
    -- The combinator is found again, so the second object is a group, too.
    have hop' : fs.lookup "op" ≠ none := by
      obtain ⟨k, v, hfind, -⟩ := Document.entry_eq_ok_iff.mp hcombinator'
      intro hnone
      rw [Document.find?, List.findSome?_cons, hnone] at hfind
      cases hfind
    exact ⟨.group combinator ds, Condition.read_eq_ok_iff.mpr
      ⟨fs, rfl, hlevels, .group hop' hcombinator' hds⟩, .group (Condition.sameAll_iff.mpr hsame)⟩

theorem follows_choices (h : Keeps (.many .choice) v w) :
    Follows (Document.nullable (Document.list Choice.read))
      (Option.Rel (List.Forall₂ Choice.Same)) v w :=
  h.follows_nullable (follows_list h.agree fun _ _ hxy => hxy)

theorem follows_condition {levels : Nat} (h : Keeps .condition v w) :
    Follows (Document.nullable (Condition.read levels)) (Option.Rel Condition.Same) v w :=
  h.follows_nullable (h.agree levels)

theorem agree_field (h : RecordKeeps .field es fs) : Agree .field (.object es) (.object fs) := by
  intro levels f hf
  obtain ⟨_, ⟨⟩, hreads⟩ := Field.readWithin_eq_ok_iff.mp hf
  have hslot : ∀ {s}, s ∈ Place.field.slots false → s ∈ Place.field.slotsOf es := id
  obtain ⟨options, hoptions, hchoices⟩ := (h.slots ⟨["options"], some .null, .many .choice⟩
    (hslot (by simp [Place.slots]))).entryOr rfl hreads.options (fun _ _ => follows_choices)
    .none rfl
  obtain ⟨condition, hcondition, htree⟩ := (h.slots ⟨["condition"], some .null, .condition⟩
    (hslot (by simp [Place.slots]))).entryOr rfl hreads.condition (fun _ _ => follows_condition)
    .none rfl
  obtain ⟨fallback, hfallback, hdefault⟩ :=
    (h.slots ⟨["defaultValue", "default_value"], none, .value⟩
      (hslot (by simp [Place.slots]))).optionalEntry rfl hreads.fallback
      fun _ _ hk => hk.follows_value
  refine ⟨{ f with options := options, condition := condition, fallback := fallback },
    Field.readWithin_eq_ok_iff.mpr ⟨fs, rfl, ?_⟩,
    ⟨rfl, rfl, rfl, rfl, rfl, rfl, hchoices, htree, hdefault, rfl⟩⟩
  exact {
    id := h.plain_entry (u := none) (hslot (by simp [Place.slots])) hreads.id
    name := h.plain_entry (u := none) (hslot (by simp [Place.slots])) hreads.name
    kindName := h.plain_entry (u := none) (hslot (by simp [Place.slots])) hreads.kindName
    label := h.plain_entry (u := none) (hslot (by simp [Place.slots])) hreads.label
    required := h.plain_entryOr (u := .bool false) (hslot (by simp [Place.slots])) rfl
      hreads.required
    placeholder := h.plain_entryOr (u := .null) (hslot (by simp [Place.slots])) rfl
      hreads.placeholder
    options := hoptions
    condition := hcondition
    fallback := hfallback
    multiple := h.plain_entryOr (u := .bool false) (hslot (by simp [Place.slots])) rfl
      hreads.multiple }

theorem agree_form (h : RecordKeeps .form es fs) : Agree .form (.object es) (.object fs) := by
  intro levels f hf
  obtain ⟨_, ⟨⟩, hversion, hfields⟩ := Form.readWithin_eq_ok_iff.mp hf
  have hversion' := h.plain_entry (u := none) (by simp [Place.slotsOf, Place.slots]) hversion
  obtain ⟨gs, hgs, hsame⟩ := (h.slots ⟨["fields"], some (.list []), .many .field⟩
    (by simp [Place.slotsOf, Place.slots])).entryOr rfl hfields
    (fun _ _ hk => follows_list hk.agree fun _ _ hxy => hxy levels) .nil rfl
  exact ⟨⟨f.version, gs⟩, Form.readWithin_eq_ok_iff.mpr ⟨fs, rfl, hversion', hgs⟩, rfl, hsame⟩

theorem agree (hp : p.isRecord = true) (h : RecordKeeps p es fs) :
    Agree p (.object es) (.object fs) := by
  cases p with
  | choice => exact h.agree_choice
  | condition => exact h.agree_condition
  | field => exact h.agree_field
  | form => exact h.agree_form
  | plain | value | many => cases hp

end RecordKeeps

end Record

/-! ## Every step -/

theorem Place.isRecord_of_mem_slots {p : Place} {isGroup : Bool} {s : Place.Slot}
    (hs : s ∈ p.slots isGroup) : p.isRecord = true := by
  cases p with
  | plain | value | many => cases hs
  | choice | condition | field | form => rfl

theorem Place.Slot.distinctKeys_usual {p : Place} {isGroup : Bool} {s : Place.Slot} {v : Value}
    (hs : s ∈ p.slots isGroup) (h : s.usual = some v) : v.DistinctKeys := by
  have hnull : Value.DistinctKeys .null := .scalar rfl
  have hbool : Value.DistinctKeys (.bool false) := .scalar rfl
  have hlist : Value.DistinctKeys (.list []) := .list (List.forall_mem_nil _)
  have hall : ∀ t ∈ p.slots isGroup, ∀ u ∈ t.usual, u.DistinctKeys := by
    cases p <;> cases isGroup <;> simp [Place.slots, hnull, hbool, hlist]
  exact hall s hs v h

theorem nodup_keys_renameKey {es : List (String × Value)} {a b : String}
    (hkeys : (es.map Prod.fst).Nodup) (hnew : b ∉ es.map Prod.fst) :
    ((renameKey a b es).map Prod.fst).Nodup := by
  have hmap : (renameKey a b es).map Prod.fst =
      (es.map Prod.fst).map fun k => if k = a then b else k := by
    rw [renameKey, List.map_map, List.map_map]
    rfl
  rw [hmap]
  refine List.Nodup.map_on (fun j hj k hk hjk => ?_) hkeys
  by_cases hja : j = a <;> by_cases hka : k = a
  · rw [hja, hka]
  · rw [if_pos hja, if_neg hka] at hjk
    exact absurd hk (hjk ▸ hnew)
  · rw [if_neg hja, if_pos hka] at hjk
    exact absurd hj (hjk ▸ hnew)
  · rwa [if_neg hja, if_neg hka] at hjk

theorem distinctKeys_append {es : List (String × Value)} {k : String} {v : Value}
    (hes : Value.DistinctKeys (.object es)) (hnew : k ∉ es.map Prod.fst) (hv : v.DistinctKeys) :
    Value.DistinctKeys (.object (es ++ [(k, v)])) := by
  obtain ⟨hkeys, hvalues⟩ := Value.distinctKeys_object_iff.mp hes
  refine .object ?_ ?_
  · rw [List.map_append, List.nodup_append]
    refine ⟨hkeys, List.nodup_singleton k, ?_⟩
    rintro j hj _ hk rfl
    obtain rfl : j = k := List.mem_singleton.mp hk
    exact hnew hj
  · rw [List.forall_mem_append]
    exact ⟨hvalues, List.forall_mem_singleton.mpr hv⟩

theorem forall_mem_changed {α : Type} {P : α → Prop} {front back : List α} {a b : α}
    (h : ∀ x ∈ front ++ a :: back, P x) (hb : P b) : ∀ x ∈ front ++ b :: back, P x := by
  rw [List.forall_mem_append, List.forall_mem_cons] at h ⊢
  exact ⟨h.1, hb, h.2.2⟩

theorem forall₂_changed {α : Type} {R : α → α → Prop} (hR : ∀ a, R a a) {front back : List α}
    {a b : α} (h : R a b) : List.Forall₂ R (front ++ a :: back) (front ++ b :: back) :=
  List.rel_append (List.forall₂_same.mpr fun x _ => hR x)
    (.cons h (List.forall₂_same.mpr fun x _ => hR x))

/-- A step keeps what is read at its place, and different keys stay different. -/
theorem Respelled.keeps {p : Place} {v w : Value} (h : Respelled p v w) (hv : v.DistinctKeys) :
    Keeps p v w ∧ w.DistinctKeys := by
  induction h with
  | @reordered v w h =>
    refine ⟨⟨h, ?_⟩, h.distinctKeys hv⟩
    constructor
    · rintro rfl
      exact ((Value.same_scalar_iff rfl).mp h).symm
    · rintro rfl
      exact same_null_iff.mp h
  | @permuted p es fs hp h =>
    obtain ⟨hkeys, hvalues⟩ := Value.distinctKeys_object_iff.mp hv
    refine ⟨⟨(RecordKeeps.permuted hkeys h).agree hp, nofun, nofun⟩, .object ?_ ?_⟩
    · exact (h.map Prod.fst).nodup_iff.mp hkeys
    · exact fun e he => hvalues e (h.mem_iff.mpr he)
  | added hp hvalue hnew hunknown hop =>
    exact ⟨⟨(RecordKeeps.added hunknown hop).agree hp, nofun, nofun⟩,
      distinctKeys_append hv hnew hvalue⟩
  | @renamed p es s a b hs hnames hnew =>
    obtain ⟨hkeys, hvalues⟩ := Value.distinctKeys_object_iff.mp hv
    refine ⟨⟨(RecordKeeps.renamed hs hnames hnew).agree (Place.isRecord_of_mem_slots hs), nofun,
      nofun⟩, .object (nodup_keys_renameKey hkeys hnew) ?_⟩
    exact List.forall_mem_map.mpr hvalues
  | spelled hs husual hk hnone =>
    exact ⟨⟨(RecordKeeps.spelled hs husual hk hnone).agree (Place.isRecord_of_mem_slots hs), nofun,
      nofun⟩, distinctKeys_append hv (hnone _ hk) (Place.Slot.distinctKeys_usual hs husual)⟩
  | @inside p front back s k v w hs hk h ih =>
    obtain ⟨hkeys, hvalues⟩ := Value.distinctKeys_object_iff.mp hv
    obtain ⟨hkeeps, hw⟩ := ih (hvalues (k, v) (by simp))
    refine ⟨⟨(RecordKeeps.inside hkeys hs hk hkeeps).agree (Place.isRecord_of_mem_slots hs), nofun,
      nofun⟩, .object ?_ (forall_mem_changed hvalues hw)⟩
    simpa using hkeys
  | @member p front back v w h ih =>
    have hvalues := Value.distinctKeys_list_iff.mp hv
    obtain ⟨hkeeps, hw⟩ := ih (hvalues v (by simp))
    refine ⟨⟨?_, nofun, nofun⟩, .list (forall_mem_changed hvalues hw)⟩
    rintro xs ⟨⟩
    exact ⟨_, rfl, forall₂_changed (.refl p) hkeeps.agree⟩
  | @tupleMember p front back v w h ih =>
    have hvalues := Value.distinctKeys_tuple_iff.mp hv
    obtain ⟨hkeeps, hw⟩ := ih (hvalues v (by simp))
    refine ⟨⟨?_, nofun, nofun⟩, .tuple (forall_mem_changed hvalues hw)⟩
    rintro xs ⟨⟩
    exact ⟨_, rfl, forall₂_changed (.refl p) hkeeps.agree⟩

/-! ## Values of what is read -/

section Values

variable {es : List (String × Value)} {names : List String} {k : String} {v : Value} {levels : Nat}

theorem mem_of_find? (h : find? names es = some (k, v)) : (k, v) ∈ es := by
  obtain ⟨j, -, hj⟩ := List.exists_of_findSome?_eq_some h
  obtain ⟨w, hw, hjw⟩ := Option.map_eq_some_iff.mp hj
  rw [← hjw]
  exact mem_of_lookup hw

theorem distinctKeys_of_find? (hes : Value.DistinctKeys (.object es))
    (h : find? names es = some (k, v)) : v.DistinctKeys :=
  (Value.distinctKeys_object_iff.mp hes).2 _ (mem_of_find? h)

theorem elements?_eq_none (h : v.isContainer = false) : v.elements? = none := by
  cases v <;> cases h <;> rfl

theorem distinctKeys_of_mem_elements {xs : List Value} {x : Value} (hv : v.DistinctKeys)
    (hxs : v.elements? = some xs) (hx : x ∈ xs) : x.DistinctKeys := by
  cases hv with
  | list h | tuple h | set h =>
    injection hxs with hxs
    exact h x (hxs ▸ hx)
  | object => cases hxs
  | scalar hv =>
    rw [elements?_eq_none hv] at hxs
    cases hxs

theorem Choice.distinctKeys_of_read {c : Choice} (h : Choice.read v = .ok c)
    (hv : v.DistinctKeys) : c.value.DistinctKeys := by
  obtain ⟨es, rfl, hreads⟩ := Choice.read_eq_ok_iff.mp h
  obtain ⟨k, w, hfind, hw⟩ := Document.entry_eq_ok_iff.mp hreads.value
  injection hw with hw
  exact hw ▸ distinctKeys_of_find? hv hfind

theorem exists_of_mem_list {α : Type} {read : Value → Reading α} {as : List α}
    (h : Document.list read v = .ok as) (hv : v.DistinctKeys) {a : α} (ha : a ∈ as) :
    ∃ x, x.DistinctKeys ∧ read x = .ok a := by
  obtain ⟨xs, hxs, has⟩ := Document.list_eq_ok_iff.mp h
  obtain ⟨x, hx, hread⟩ := exists_of_mem_read has ha
  exact ⟨x, distinctKeys_of_mem_elements hv hxs hx, hread⟩

theorem Condition.distinctKeys_of_read {c : Condition} : ∀ {v levels},
    Condition.read levels v = .ok c → v.DistinctKeys → ∀ w ∈ c.values, w.DistinctKeys := by
  induction c using Condition.induction with
  | ofLeaf field operator value =>
    intro v levels h hv w hw
    obtain ⟨es, rfl, -, hreads⟩ := Condition.read_eq_ok_iff.mp h
    obtain rfl : w = value := by simpa [Condition.values, Condition.leaves] using hw
    cases hreads with
    | leaf _ _ _ hvalue =>
      rcases Document.entryOr_eq_ok_iff.mp hvalue with ⟨-, rfl⟩ | ⟨k, u, hfind, hu⟩
      · exact .scalar rfl
      · injection hu with hu
        exact hu ▸ distinctKeys_of_find? hv hfind
  | ofGroup combinator cs ih =>
    intro v levels h hv w hw
    obtain ⟨es, rfl, -, hreads⟩ := Condition.read_eq_ok_iff.mp h
    rw [Condition.values_group] at hw
    obtain ⟨c, hc, hwc⟩ := List.mem_flatMap.mp hw
    cases hreads with
    | group _ _ hchildren =>
      rcases Document.entryOr_eq_ok_iff.mp hchildren with ⟨-, rfl⟩ | ⟨k, u, hfind, hu⟩
      · cases hc
      · obtain ⟨x, hx, hread⟩ := exists_of_mem_list hu (distinctKeys_of_find? hv hfind) hc
        exact ih c hc hread hx w hwc

theorem Field.distinctKeys_of_read {f : Field} (h : Field.readWithin levels v = .ok f)
    (hv : v.DistinctKeys) : ∀ w ∈ f.values, w.DistinctKeys := by
  obtain ⟨es, rfl, hreads⟩ := Field.readWithin_eq_ok_iff.mp h
  intro w hw
  rcases Field.mem_values_iff.mp hw with ⟨cs, hcs, c, hc, rfl⟩ | ⟨c, hc, hwc⟩ | hw
  · have hoptions := hreads.options
    rw [hcs] at hoptions
    rcases Document.entryOr_eq_ok_iff.mp hoptions with ⟨-, ⟨⟩⟩ | ⟨k, u, hfind, hu⟩
    rcases Document.nullable_eq_ok_iff.mp hu with ⟨-, ⟨⟩⟩ | ⟨-, ds, hds, hsome⟩
    injection hsome with hsome
    obtain ⟨x, hx, hread⟩ :=
      exists_of_mem_list hds (distinctKeys_of_find? hv hfind) (hsome ▸ hc)
    exact Choice.distinctKeys_of_read hread hx
  · have hcondition := hreads.condition
    rw [hc] at hcondition
    rcases Document.entryOr_eq_ok_iff.mp hcondition with ⟨-, ⟨⟩⟩ | ⟨k, u, hfind, hu⟩
    rcases Document.nullable_eq_ok_iff.mp hu with ⟨-, ⟨⟩⟩ | ⟨-, d, hd, hsome⟩
    injection hsome with hsome
    exact Condition.distinctKeys_of_read (hsome ▸ hd) (distinctKeys_of_find? hv hfind) w hwc
  · have hfallback := hreads.fallback
    rw [hw] at hfallback
    rcases Document.optionalEntry_eq_ok_iff.mp hfallback with ⟨-, ⟨⟩⟩ | ⟨k, u, a, hfind, hu, hsome⟩
    injection hsome with hsome
    injection hu with hu
    exact hsome ▸ hu ▸ distinctKeys_of_find? hv hfind

theorem Form.distinctKeys_of_read {f : Form} (h : Form.readWithin levels v = .ok f)
    (hv : v.DistinctKeys) : ∀ w ∈ f.values, w.DistinctKeys := by
  obtain ⟨es, rfl, hreads⟩ := Form.readWithin_eq_ok_iff.mp h
  intro w hw
  obtain ⟨g, hg, hwg⟩ := List.mem_flatMap.mp hw
  rcases Document.entryOr_eq_ok_iff.mp hreads.fields with ⟨-, hnone⟩ | ⟨k, u, hfind, hu⟩
  · rw [hnone] at hg
    cases hg
  · obtain ⟨x, hx, hread⟩ := exists_of_mem_list hu (distinctKeys_of_find? hv hfind) hg
    exact Field.distinctKeys_of_read hread hx w hwg

end Values

/-! ## The name of a form -/

theorem Form.Same.contentHash_eq_ok_iff {f g : Form} (h : f.Same g)
    (hf : ∀ v ∈ f.values, v.DistinctKeys) (name : String) :
    f.contentHash = .ok name ↔ g.contentHash = .ok name := by
  rw [Formwork.contentHash_eq_ok_iff, Formwork.contentHash_eq_ok_iff, h.noJson?_eq_none_iff,
    h.encoding_eq hf]

/-- However a document is respelled, what is read from it has one name, or none; and there is a name
where there is a JSON text. -/
theorem respelled_contentHash {x y : Value} {f : Form} (hx : x.DistinctKeys)
    (hread : Form.read x = .ok f) (h : Relation.ReflTransGen (Respelled .form) x y) :
    ∃ g, Form.read y = .ok g ∧ (∀ name, f.contentHash = .ok name ↔ g.contentHash = .ok name) ∧
      ((∃ name, f.contentHash = .ok name) ↔ f.noJson? = none) := by
  suffices hall : y.DistinctKeys ∧ ∃ g, Form.read y = .ok g ∧
      ∀ name, f.contentHash = .ok name ↔ g.contentHash = .ok name by
    obtain ⟨-, g, hg, hname⟩ := hall
    exact ⟨g, hg, hname, exists_contentHash_iff⟩
  induction h with
  | refl => exact ⟨hx, f, hread, fun _ => Iff.rfl⟩
  | @tail y z _ hstep ih =>
    obtain ⟨hy, g, hg, hname⟩ := ih
    obtain ⟨hkeeps, hz⟩ := hstep.keeps hy
    obtain ⟨g', hg', hsame⟩ := hkeeps.agree Condition.mostLevels g hg
    refine ⟨hz, g', hg', fun name => (hname name).trans ?_⟩
    exact hsame.contentHash_eq_ok_iff (Form.distinctKeys_of_read hg hy) name

/-- A form with a default value, written with no more than it needs. -/
def brief : Value :=
  .object [("version", .text "1"), ("fields", .list [.object [("id", .text "a"),
    ("name", .text "x"), ("type", .text "text"), ("label", .text "X"),
    ("defaultValue", .object [("p", .int 1), ("q", .int 2)])]])]

/-- The same form with the other name of the default value, its keys in another order, something
spelled out and something added. -/
def wordy : Value :=
  .object [("version", .text "1"), ("fields", .list [.object [("id", .text "a"),
    ("name", .text "x"), ("type", .text "text"), ("label", .text "X"),
    ("default_value", .object [("q", .int 2), ("p", .int 1)]), ("required", .bool false)]]),
    ("note", .text "for later")]

theorem respelled_brief_wordy : Relation.ReflTransGen (Respelled .form) brief wordy := by
  -- The steps inside the only field.
  have hfield : ∀ {v w : Value}, Respelled .field v w →
      Respelled .form (.object [("version", .text "1"), ("fields", .list [v])])
        (.object [("version", .text "1"), ("fields", .list [w])]) := by
    intro v w h
    exact @Respelled.inside _ [("version", .text "1")] []
      ⟨["fields"], some (.list []), .many .field⟩ _ _ _ (by simp [Place.slotsOf, Place.slots])
      List.mem_cons_self (@Respelled.member _ [] [] _ _ h)
  have hslot : ∀ {es : List (String × Value)} {s}, s ∈ Place.field.slots false →
      s ∈ Place.field.slotsOf es := id
  have hother : (⟨["defaultValue", "default_value"], none, .value⟩ : Place.Slot) ∈
      Place.field.slots false := by simp [Place.slots]
  have hrequired : (⟨["required"], some (.bool false), .plain⟩ : Place.Slot) ∈
      Place.field.slots false := by simp [Place.slots]
  have hnote : ∀ s ∈ Place.form.slots false, "note" ∉ s.names := by simp [Place.slots]
  refine .tail (.tail (.tail (.tail .refl
    (hfield (.renamed (hslot hother) (.inl rfl) (by decide))))
    (hfield (@Respelled.inside _ [("id", .text "a"), ("name", .text "x"), ("type", .text "text"),
      ("label", .text "X")] [] _ _ _ _ (hslot hother) (by decide) (.reordered ?_))))
    (hfield (.spelled (hslot hrequired) rfl List.mem_cons_self (by decide))))
    (.added rfl (.scalar rfl) (by decide) hnote fun h => by cases h)
  exact .object (.swap ..) (Value.sameUnder_iff.mpr
    (List.forall₂_same.mpr fun e _ => ⟨rfl, .refl e.2⟩))

theorem distinctKeys_brief : brief.DistinctKeys := by
  have htext : ∀ s, Value.DistinctKeys (.text s) := fun _ => .scalar rfl
  have hint : ∀ n, Value.DistinctKeys (.int n) := fun _ => .scalar rfl
  have hdefault : Value.DistinctKeys (.object [("p", .int 1), ("q", .int 2)]) :=
    .object (by decide) (by simp [hint])
  have hfield : Value.DistinctKeys (.object [("id", .text "a"), ("name", .text "x"),
      ("type", .text "text"), ("label", .text "X"),
      ("defaultValue", .object [("p", .int 1), ("q", .int 2)])]) :=
    .object (by decide) (by simp [htext, hdefault])
  have hfields := Value.DistinctKeys.list (List.forall_mem_singleton.mpr hfield)
  exact .object (by decide) (by simp [htext, hfields])

/-- The two spellings have one name, the name of the form below. -/
theorem respelled_contentHash_brief :
    brief.DistinctKeys ∧ Relation.ReflTransGen (Respelled .form) brief wordy ∧
    ∃ f, Form.read brief = .ok f ∧ ∃ g, Form.read wordy = .ok g ∧
      ∃ name, f.contentHash = .ok name ∧ g.contentHash = .ok name := by
  have hread : Form.read brief = .ok ⟨"1", [⟨"a", "x", "text", "X", false, none, none, none,
      some (.object [("p", .int 1), ("q", .int 2)]), false⟩]⟩ := rfl
  obtain ⟨g, hg, hname, hexists⟩ :=
    respelled_contentHash distinctKeys_brief hread respelled_brief_wordy
  have hvalue : (Value.object [("p", .int 1), ("q", .int 2)]).Short := by
    rw [Value.short_object_iff, List.forall_mem_cons, List.forall_mem_singleton]
    exact ⟨Value.short_digit (by decide), Value.short_digit (by decide)⟩
  obtain ⟨name, hf⟩ := hexists.mpr (Form.noJson?_eq_none_iff.mpr
    ⟨List.forall_mem_singleton.mpr rfl, List.forall_mem_singleton.mpr hvalue⟩)
  exact ⟨distinctKeys_brief, respelled_brief_wordy, _, hread, g, hg, name, hf, (hname name).mp hf⟩

end Formwork
