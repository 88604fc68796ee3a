import Formwork.Proofs.JsonValues
import Formwork.Export.JsonSchema

/-!
# The meaning of a schema

`Value.meets` reads a document as a schema of draft 07, as far as the schemas of forms go: of the
keywords that assert something it knows those that a form uses, and all others are annotations. A
document is met if the keywords that it was made of allow the value one by one.
-/

namespace Formwork

/-- The keywords that assert something. -/
inductive Assertion where
  | type
  | enum
  | properties
  | required
  | additionalProperties
  | items
  | uniqueItems
  | minItems
  | minLength

namespace Assertion

def words : List (String × Assertion) :=
  [("type", type), ("enum", enum), ("properties", properties), ("required", required),
    ("additionalProperties", additionalProperties), ("items", items),
    ("uniqueItems", uniqueItems), ("minItems", minItems), ("minLength", minLength)]

def ofName? (name : String) : Option Assertion := words.lookup name

end Assertion

namespace Value

/-- The names of the types that a value is of. -/
def typeNames : Value → List String
  | null => ["null"]
  | bool _ => ["boolean"]
  | int _ => ["number", "integer"]
  | float (.finite x) => if x.whole?.isSome then ["number", "integer"] else ["number"]
  | text _ => ["string"]
  | list _ => ["array"]
  | object _ => ["object"]
  | _ => []

/-- No member is equal to an earlier one. -/
def areDistinct : List Value → Bool
  | [] => true
  | x :: xs => xs.all (fun y => !y.jsonEq x) && areDistinct xs

end Value

/-- Whether a value satisfies an assertion with an argument. The argument may be a schema for parts
of the value, or hold such schemas, and whether these are met is given; so are the names of the
properties that have schemas of their own. An assertion about values of another type is satisfied,
and one with an argument that makes no sense is not. -/
def Assertion.holds (names : List String) (argument : Value) (meetsIt meetsParts : Value → Bool)
    (v : Value) : Assertion → Bool
  | type =>
    match argument with
    | .text name => v.typeNames.contains name
    | .list options => options.any fun o =>
      match o with
      | .text name => v.typeNames.contains name
      | _ => false
    | _ => false
  | enum =>
    match argument with
    | .list options => options.any v.jsonEq
    | _ => false
  | properties => meetsParts v
  | required =>
    match v, argument with
    | .object es, .list keys => keys.all fun k =>
      match k with
      | .text name => (es.lookup name).isSome
      | _ => false
    | .object _, _ => false
    | _, _ => true
  | additionalProperties =>
    match v with
    | .object es => es.all fun (k, x) => names.contains k || meetsIt x
    | _ => true
  | items =>
    match v with
    | .list xs => xs.all meetsIt
    | _ => true
  | uniqueItems =>
    match v, argument with
    | .list xs, .bool b => !b || Value.areDistinct xs
    | .list _, _ => false
    | _, _ => true
  | minItems =>
    match v, argument with
    | .list xs, .int n => n ≤ xs.length
    | .list _, _ => false
    | _, _ => true
  | minLength =>
    match v, argument with
    | .text s, .int n => n ≤ s.length
    | .text _, _ => false
    | _, _ => true

namespace Value

/-- The names of the properties that keywords speak of. -/
def propertyNames (keywords : List (String × Value)) : List String :=
  match keywords.lookup "properties" with
  | some (.object parts) => parts.map Prod.fst
  | _ => []

mutual

/-- Whether a value meets a schema. -/
def meets : Value → Value → Bool
  | bool b, _ => b
  | object keywords, v => meetsAll (propertyNames keywords) keywords v
  | _, _ => false
termination_by structural s => s

/-- Whether a value meets keywords. -/
def meetsAll (names : List String) : List (String × Value) → Value → Bool
  | [], _ => true
  | (k, a) :: keywords, v =>
    (match Assertion.ofName? k with
      | some assertion => assertion.holds names a (meets a) (meetsParts a) v
      | none => true) && meetsAll names keywords v
termination_by structural keywords => keywords

/-- Whether the properties of a value meet their schemas. -/
def meetsParts : Value → Value → Bool
  | object parts, object es => meetsUnder parts es
  | object _, _ => true
  | _, _ => false
termination_by structural parts => parts

def meetsUnder : List (String × Value) → List (String × Value) → Bool
  | [], _ => true
  | (k, s) :: parts, es => (es.lookup k).all (meets s) && meetsUnder parts es
termination_by structural parts => parts

end

variable {v : Value} {names : List String} {keywords parts es : List (String × Value)}

theorem meetsAll_iff :
    meetsAll names keywords v = true ↔ ∀ e ∈ keywords, ∀ assertion,
      Assertion.ofName? e.1 = some assertion →
        assertion.holds names e.2 (meets e.2) (meetsParts e.2) v = true := by
  induction keywords with
  | nil => simp [meetsAll]
  | cons e keywords ih =>
    obtain ⟨k, a⟩ := e
    rw [meetsAll, Bool.and_eq_true, ih, List.forall_mem_cons]
    refine and_congr_left fun _ => ?_
    cases Assertion.ofName? k <;> simp

theorem meetsUnder_iff :
    meetsUnder parts es = true ↔
      ∀ e ∈ parts, ∀ x, es.lookup e.1 = some x → meets e.2 x = true := by
  induction parts with
  | nil => simp [meetsUnder]
  | cons e parts ih =>
    obtain ⟨k, s⟩ := e
    rw [meetsUnder, Bool.and_eq_true, ih, List.forall_mem_cons]
    refine and_congr_left fun _ => ?_
    cases es.lookup k <;> simp

theorem areDistinct_iff {xs : List Value} :
    areDistinct xs = true ↔ xs.Pairwise fun x y => y.jsonEq x = false := by
  induction xs with
  | nil => simp [areDistinct]
  | cons x xs ih => simp [areDistinct, ih]

end Value

/-! ## Keywords of a field -/

/-- A keyword of a field allows a value. -/
def Keyword.Allows (v : Value) : Keyword → Prop
  | .type name => name ∈ v.typeNames
  | .choices values => ∃ c ∈ values, v.jsonEq c = true
  | .members values => ∀ xs, v = .list xs → ∀ x ∈ xs, ∃ c ∈ values, x.jsonEq c = true
  | .uniqueMembers => ∀ xs, v = .list xs → xs.Pairwise fun x y => y.jsonEq x = false
  | .minMembers n => ∀ xs, v = .list xs → n ≤ xs.length
  | .minLength n => ∀ s, v = .text s → n ≤ s.length
  | .title _ | .format _ | .examples _ | .default _ => True

/-- A value meets an enumeration if it is equal to a member of it. -/
theorem meets_choices_iff {v : Value} {values : List Value} :
    (Value.object [("enum", .list values)]).meets v = true ↔
      ∃ c ∈ values, v.jsonEq c = true := by
  have hname : Assertion.ofName? "enum" = some .enum := rfl
  simp [Value.meets, Value.meetsAll, hname, Assertion.holds]

example : (Value.object [("enum", .list [.bool true])]).meets (.int 1) = false := by decide

/-- A value meets the schema of some keywords if each of them allows it. -/
theorem meets_of_allowed {v : Value} {keywords : List Keyword} (h : ∀ k ∈ keywords, k.Allows v) :
    (Value.object (keywords.map Keyword.entry)).meets v = true := by
  rw [Value.meets, Value.meetsAll_iff]
  intro e he assertion hassertion
  obtain ⟨k, hk, rfl⟩ := List.mem_map.mp he
  have hallows := h k hk
  cases k with
  | type name =>
    obtain rfl : Assertion.type = assertion := Option.some.inj hassertion
    exact List.contains_iff_mem.mpr hallows
  | choices values =>
    obtain rfl : Assertion.enum = assertion := Option.some.inj hassertion
    exact List.any_eq_true.mpr hallows
  | members values =>
    obtain rfl : Assertion.items = assertion := Option.some.inj hassertion
    cases v with
    | list xs =>
      exact List.all_eq_true.mpr fun x hx => meets_choices_iff.mpr (hallows xs rfl x hx)
    | _ => rfl
  | uniqueMembers =>
    obtain rfl : Assertion.uniqueItems = assertion := Option.some.inj hassertion
    cases v with
    | list xs => exact Value.areDistinct_iff.mpr (hallows xs rfl)
    | _ => rfl
  | minMembers n =>
    obtain rfl : Assertion.minItems = assertion := Option.some.inj hassertion
    cases v with
    | list xs => exact decide_eq_true (Int.ofNat_le.mpr (hallows xs rfl))
    | _ => rfl
  | minLength n =>
    obtain rfl : Assertion.minLength = assertion := Option.some.inj hassertion
    cases v with
    | text s => exact decide_eq_true (Int.ofNat_le.mpr (hallows s rfl))
    | _ => rfl
  | title _ | format _ | examples _ | default _ => cases hassertion

/-! ## Whole schemas -/

theorem JsonSchema.propertyNames_toValue (s : JsonSchema) :
    ∃ entries, s.toValue = .object entries ∧
      Value.propertyNames entries = s.properties.map Prod.fst := by
  refine ⟨_, rfl, ?_⟩
  show (s.properties.map fun p => (p.1, Value.object (p.2.map Keyword.entry))).map Prod.fst = _
  rw [List.map_map]
  rfl

/-- An object meets the schema of a form if it has the keys that it must have, and what it has under
a key meets the keywords for that; there are no other keys unless the schema is open. -/
theorem JsonSchema.meets_toValue {s : JsonSchema} {es : List (String × Value)}
    (hclosed : s.isOpen = true ∨ ∀ k ∈ es.map Prod.fst, k ∈ s.properties.map Prod.fst)
    (hproperties : ∀ p ∈ s.properties, ∀ x, es.lookup p.1 = some x → ∀ k ∈ p.2, k.Allows x)
    (hrequired : ∀ k ∈ s.required, k ∈ es.map Prod.fst) :
    s.toValue.meets (.object es) = true := by
  obtain ⟨entries, hentries, hnames⟩ := s.propertyNames_toValue
  rw [hentries, Value.meets, hnames, Value.meetsAll_iff]
  injection hentries with hentries
  subst hentries
  intro e he assertion hassertion
  simp only [List.mem_append, List.mem_cons, List.not_mem_nil, or_false] at he
  rcases he with (rfl | rfl | rfl | rfl | rfl | rfl) | he
  · cases hassertion
  · cases hassertion
  · cases hassertion
  · obtain rfl : Assertion.type = assertion := Option.some.inj hassertion
    rfl
  · obtain rfl : Assertion.properties = assertion := Option.some.inj hassertion
    refine Value.meetsUnder_iff.mpr fun part hpart x hx => ?_
    obtain ⟨p, hp, rfl⟩ := List.mem_map.mp hpart
    exact meets_of_allowed (hproperties p hp x hx)
  · obtain rfl : Assertion.additionalProperties = assertion := Option.some.inj hassertion
    refine List.all_eq_true.mpr fun e he => ?_
    rw [Bool.or_eq_true]
    rcases hclosed with hopen | hclosed
    · exact Or.inr hopen
    · exact Or.inl (List.contains_iff_mem.mpr (hclosed _ (List.mem_map_of_mem he)))
  · split at he
    · cases he
    · obtain rfl := List.mem_singleton.mp he
      obtain rfl : Assertion.required = assertion := Option.some.inj hassertion
      refine List.all_eq_true.mpr fun key hkey => ?_
      obtain ⟨name, hname, rfl⟩ := List.mem_map.mp hkey
      obtain ⟨x, hx⟩ := exists_lookup_of_mem_keys (hrequired name hname)
      exact Option.isSome_iff_exists.mpr ⟨x, hx⟩

end Formwork
