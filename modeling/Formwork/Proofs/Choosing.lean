import Formwork.Proofs.Equivalence
import Formwork.Proofs.Operations
import Formwork.Proofs.Soundness
import Formwork.Proofs.Untold
import Mathlib

/-!
# Choosing

A field of an accepted form offers no choice twice, so an entry equals one choice at most, and two
entries equal each other exactly if they have the same choice. A list of entries is read up to its
first fault: an entry that equals no choice, or one that equals an entry before it.

A single choice that is entered is kept, unless it counts as nothing. Null and blank texts do,
even where they are offered.
-/

namespace Formwork

variable {form : Form} {f : Field} {item : Item} {hash : Option String} {v : Validator}
variable {choices selected xs cs : List Value} {x y c d w : Value} {e : Violation}
variable {locale : Locale} {today : Date} {entries : List (String × Value)}

/-! ## The choice for an entry -/

/-- The one choice that an entry equals. -/
structure IsChoiceFor (choices : List Value) (x c : Value) : Prop where
  mem : c ∈ choices
  equal : x.strictEq c = true
  unique : ∀ d ∈ choices, x.strictEq d = true → d = c

/-- Choices that one entry equals are the same where none is offered twice. -/
theorem eq_of_strictEq (hapart : choices.Pairwise Apart) (hx : x.Genuine) (hc : c ∈ choices)
    (hd : d ∈ choices) (hxc : x.strictEq c = true) (hxd : x.strictEq d = true) : c = d := by
  have hone : choices.Pairwise fun c d => ¬ (x.strictEq c = true ∧ x.strictEq d = true) := by
    -- Of two such choices the later one would equal the earlier one.
    refine hapart.imp fun {c d} hcd ⟨hxc, hxd⟩ => ?_
    rw [Apart, Value.strictEq_trans (Value.strictEq_symm hx hxd) hxc] at hcd
    cases hcd
  have : Std.Symm fun c d => ¬ (x.strictEq c = true ∧ x.strictEq d = true) :=
    ⟨fun _ _ h hcd => h hcd.symm⟩
  by_contra hne
  exact hone.forall hc hd hne ⟨hxc, hxd⟩

theorem isChoiceFor (hapart : choices.Pairwise Apart) (hx : x.Genuine) (hc : c ∈ choices)
    (hxc : x.strictEq c = true) : IsChoiceFor choices x c where
  mem := hc
  equal := hxc
  unique _ hd hxd := eq_of_strictEq hapart hx hd hc hxd hxc

namespace Entry

theorem choice_eq_ok_iff (hapart : choices.Pairwise Apart) (hx : x.Genuine) :
    choice choices x = .ok c ↔ IsChoiceFor choices x c := by
  constructor
  · intro h
    obtain ⟨hc, heq⟩ := mem_of_choice h
    exact isChoiceFor hapart hx hc heq
  · rintro ⟨hc, heq, hunique⟩
    rw [choice]
    cases hfind : choices.find? (x.strictEq ·) with
    | some d =>
      have hd : d = c := hunique d (List.mem_of_find?_eq_some hfind) (List.find?_some hfind)
      rw [hd]
    | none => exact absurd heq (List.find?_eq_none.mp hfind c hc)

theorem choice_eq_error_iff :
    choice choices x = .error e ↔
      (∀ c ∈ choices, x.strictEq c = false) ∧ e = .notOffered choices := by
  rw [choice]
  cases hfind : choices.find? (x.strictEq ·) with
  | some c =>
    refine iff_of_false (by simp) fun h => ?_
    have hxc : x.strictEq c = true := List.find?_some hfind
    rw [h.1 c (List.mem_of_find?_eq_some hfind)] at hxc
    cases hxc
  | none =>
    have hnone : ∀ c ∈ choices, x.strictEq c = false := by
      simpa using List.find?_eq_none.mp hfind
    simp only [Except.error.injEq]
    exact ⟨fun h => ⟨hnone, h.symm⟩, fun h => h.2.symm⟩

/-- A list that is refused is read up to an entry without a choice or with one selected before. -/
theorem exists_of_choicesFrom_error (h : choicesFrom choices selected xs = .error e) :
    ∃ front x back more, xs = front ++ x :: back ∧
      choicesFrom choices selected front = .ok more ∧
      (choice choices x = .error e ∨
        ∃ c, choice choices x = .ok c ∧ c.isAmong more = true ∧ e = .selectedTwice c) := by
  induction xs generalizing selected with
  | nil => cases h
  | cons x xs ih =>
    rw [choicesFrom] at h
    rcases bind_eq_error_iff.mp h with hx | ⟨c, hc, h⟩
    · exact ⟨[], x, xs, selected, rfl, rfl, Or.inl hx⟩
    · split at h
      · rename_i hamong
        injection h with h
        exact ⟨[], x, xs, selected, rfl, rfl, Or.inr ⟨c, hc, hamong, h.symm⟩⟩
      · rename_i hnew
        -- The choice joins what is selected, and with that the rest is read.
        obtain ⟨front, y, back, more, rfl, hfront, hy⟩ := ih h
        refine ⟨x :: front, y, back, more, rfl, ?_, hy⟩
        rw [choicesFrom, hc]
        exact (if_neg hnew).trans hfront

end Entry

/-! ## Lists of entries -/

/-- Entries equal each other exactly if their choices do. -/
theorem apart_iff (hx : x.Genuine) (hy : y.Genuine) (hc : IsChoiceFor choices x c)
    (hd : IsChoiceFor choices y d) : Apart x y ↔ Apart c d := by
  have h : y.strictEq x = true ↔ d.strictEq c = true := by
    constructor
    · intro hyx
      exact Value.strictEq_trans (Value.strictEq_symm hy hd.equal)
        (Value.strictEq_trans hyx hc.equal)
    · intro hdc
      exact Value.strictEq_trans (Value.strictEq_trans hd.equal hdc)
        (Value.strictEq_symm hx hc.equal)
  simp only [Apart, ← Bool.not_eq_true, h]

theorem pairwise_apart_iff (hxs : ∀ x ∈ xs, x.Genuine)
    (h : List.Forall₂ (IsChoiceFor choices) xs cs) :
    xs.Pairwise Apart ↔ cs.Pairwise Apart := by
  obtain ⟨hlen, hchoice⟩ := List.forall₂_iff_get.mp h
  have happ : ∀ i j (hi : i < xs.length) (hj : j < xs.length),
      Apart xs[i] xs[j] ↔ Apart cs[i] cs[j] := fun i j hi hj =>
    apart_iff (hxs _ (List.getElem_mem hi)) (hxs _ (List.getElem_mem hj))
      (hchoice i hi (hlen ▸ hi)) (hchoice j hj (hlen ▸ hj))
  rw [List.pairwise_iff_getElem, List.pairwise_iff_getElem]
  constructor
  · intro hapart i j hi hj hij
    exact (happ i j (hlen ▸ hi) (hlen ▸ hj)).mp (hapart i j _ _ hij)
  · intro hapart i j hi hj hij
    exact (happ i j hi hj).mpr (hapart i j _ _ hij)

namespace Entry

theorem mapM_choice_eq_ok_iff (hapart : choices.Pairwise Apart) (hxs : ∀ x ∈ xs, x.Genuine) :
    xs.mapM (choice choices) = .ok cs ↔ List.Forall₂ (IsChoiceFor choices) xs cs := by
  rw [mapM_eq_ok_iff]
  constructor
  · intro h
    have hgenuine := (List.forall₂_and_left _ _).mpr ⟨hxs, h⟩
    exact hgenuine.imp fun x c hc => (choice_eq_ok_iff hapart hc.1).mp hc.2
  · intro h
    have hgenuine := (List.forall₂_and_left _ _).mpr ⟨hxs, h⟩
    exact hgenuine.imp fun x c hc => (choice_eq_ok_iff hapart hc.1).mpr hc.2

/-- A list of entries is read as their choices where no two of them equal each other. -/
theorem choicesFrom_nil_eq_ok_iff (hapart : choices.Pairwise Apart)
    (hxs : ∀ x ∈ xs, x.Genuine) :
    choicesFrom choices [] xs = .ok cs ↔
      List.Forall₂ (IsChoiceFor choices) xs cs ∧ xs.Pairwise Apart := by
  simp only [choicesFrom_eq_ok_iff List.Pairwise.nil, mapM_choice_eq_ok_iff hapart hxs,
    List.nil_append]
  constructor
  · rintro ⟨more, hmore, rfl, hcs⟩
    exact ⟨hmore, (pairwise_apart_iff hxs hmore).mpr hcs⟩
  · rintro ⟨hcs, hxs'⟩
    exact ⟨cs, hcs, rfl, (pairwise_apart_iff hxs hcs).mp hxs'⟩

/-- Entries are read where each equals a choice and no two equal each other. -/
theorem exists_choicesFrom_iff (hapart : choices.Pairwise Apart) (hxs : ∀ x ∈ xs, x.Genuine) :
    (∃ cs, choicesFrom choices [] xs = .ok cs) ↔
      (∀ x ∈ xs, ∃ c ∈ choices, x.strictEq c = true) ∧ xs.Pairwise Apart := by
  simp only [choicesFrom_nil_eq_ok_iff hapart hxs, ← mapM_choice_eq_ok_iff hapart hxs,
    exists_and_right, exists_mapM_eq_ok_iff]
  refine and_congr_left fun _ => forall₂_congr fun x hx => ?_
  simp only [choice_eq_ok_iff hapart (hxs x hx)]
  constructor
  · rintro ⟨c, hc⟩
    exact ⟨c, hc.mem, hc.equal⟩
  · rintro ⟨c, hc, hxc⟩
    exact ⟨c, isChoiceFor hapart (hxs x hx) hc hxc⟩

/-- A choice that is among those of other entries is the choice of an entry that equals one of
these. -/
theorem exists_strictEq_of_isAmong (hapart : choices.Pairwise Apart) (hxs : ∀ x ∈ xs, x.Genuine)
    (h : choicesFrom choices [] xs = .ok cs) (hxc : x.strictEq c = true)
    (hamong : c.isAmong cs = true) : ∃ y ∈ xs, x.strictEq y = true := by
  obtain ⟨d, hd, hcd⟩ : ∃ d ∈ cs, c.strictEq d = true := by simpa [Value.isAmong] using hamong
  obtain ⟨hcs, -⟩ := (choicesFrom_nil_eq_ok_iff hapart hxs).mp h
  obtain ⟨y, hy, hd⟩ := exists_of_mem_mapM ((mapM_choice_eq_ok_iff hapart hxs).mpr hcs) hd
  have hdy := Value.strictEq_symm (hxs y hy) (mem_of_choice hd).2
  exact ⟨y, hy, Value.strictEq_trans hxc (Value.strictEq_trans hcd hdy)⟩

end Entry

/-! ## The first fault -/

/-- The entry at a place equals no choice. -/
def Unoffered (choices xs : List Value) (i : Nat) : Prop :=
  ∃ x, xs[i]? = some x ∧ ∀ c ∈ choices, x.strictEq c = false

/-- The entry at a place equals an entry before it. -/
def Repeated (xs : List Value) (i : Nat) : Prop :=
  ∃ j < i, ∃ x y, xs[j]? = some x ∧ xs[i]? = some y ∧ y.strictEq x = true

/-- The places that are at fault. -/
def faults (choices xs : List Value) : Set Nat := {i | Unoffered choices xs i ∨ Repeated xs i}

theorem mem_faults_iff {i : Nat} :
    i ∈ faults choices xs ↔ Unoffered choices xs i ∨ Repeated xs i := Iff.rfl

section Place

variable {front back : List Value}

theorem unoffered_iff :
    Unoffered choices (front ++ x :: back) front.length ↔
      ∀ c ∈ choices, x.strictEq c = false := by
  simp [Unoffered]

theorem repeated_iff :
    Repeated (front ++ x :: back) front.length ↔ ∃ y ∈ front, x.strictEq y = true := by
  constructor
  · rintro ⟨j, hj, y, x', hy, hx, heq⟩
    rw [List.getElem?_append_left hj] at hy
    simp only [List.getElem?_append_right le_rfl, Nat.sub_self, List.getElem?_cons_zero,
      Option.some.injEq] at hx
    subst hx
    exact ⟨y, List.mem_of_getElem? hy, heq⟩
  · rintro ⟨y, hy, heq⟩
    obtain ⟨j, hj, rfl⟩ := List.getElem_of_mem hy
    have hy' : (front ++ x :: back)[j]? = some front[j] := by
      rw [List.getElem?_append_left hj, List.getElem?_eq_getElem hj]
    exact ⟨j, hj, front[j], x, hy', by simp, heq⟩

/-- There is no fault among entries that are read. -/
theorem notMem_faults (hoffered : ∀ x ∈ front, ∃ c ∈ choices, x.strictEq c = true)
    (hapart : front.Pairwise Apart) {j : Nat} (hj : j < front.length) :
    j ∉ faults choices (front ++ back) := by
  obtain ⟨before, y, after, rfl, rfl⟩ :
      ∃ before y after, front = before ++ y :: after ∧ before.length = j :=
    ⟨front.take j, front[j], front.drop (j + 1), by simp, by simp; omega⟩
  rw [mem_faults_iff, List.append_assoc, List.cons_append, unoffered_iff, repeated_iff]
  rintro (hnone | ⟨z, hz, heq⟩)
  · obtain ⟨c, hc, heq⟩ := hoffered y (by simp)
    rw [hnone c hc] at heq
    cases heq
  · have hzy : Apart z y := (List.pairwise_append.mp hapart).2.2 z hz y List.mem_cons_self
    rw [Apart, heq] at hzy
    cases hzy

/-- The first entry that is not read is at the least of the faults if it is at fault. -/
theorem isLeast_faults (hoffered : ∀ x ∈ front, ∃ c ∈ choices, x.strictEq c = true)
    (hapart : front.Pairwise Apart) (h : front.length ∈ faults choices (front ++ back)) :
    IsLeast (faults choices (front ++ back)) front.length :=
  ⟨h, fun _ hi => Nat.le_of_not_lt fun hlt => notMem_faults hoffered hapart hlt hi⟩

end Place

/-- Entries that are refused are refused for the first of them at fault. -/
theorem exists_first_fault (hapart : choices.Pairwise Apart) (hxs : ∀ x ∈ xs, x.Genuine)
    (h : Entry.choicesFrom choices [] xs = .error e) :
    ∃ i, IsLeast (faults choices xs) i ∧
      ((Unoffered choices xs i ∧ ¬ Repeated xs i ∧ e = .notOffered choices) ∨
        (¬ Unoffered choices xs i ∧ Repeated xs i ∧
          ∃ x c, xs[i]? = some x ∧ IsChoiceFor choices x c ∧ e = .selectedTwice c)) := by
  obtain ⟨front, x, back, more, rfl, hfront, hx⟩ := Entry.exists_of_choicesFrom_error h
  rw [List.forall_mem_append, List.forall_mem_cons] at hxs
  obtain ⟨hgenuine, hxgenuine, -⟩ := hxs
  obtain ⟨hoffered, hnew⟩ := (Entry.exists_choicesFrom_iff hapart hgenuine).mp ⟨more, hfront⟩
  refine ⟨front.length, ?_⟩
  rw [unoffered_iff, repeated_iff]
  rcases hx with hx | ⟨c, hc, hamong, rfl⟩
  · obtain ⟨hnone, rfl⟩ := Entry.choice_eq_error_iff.mp hx
    refine ⟨isLeast_faults hoffered hnew (Or.inl (unoffered_iff.mpr hnone)),
      Or.inl ⟨hnone, ?_, rfl⟩⟩
    -- An entry before has a choice, which this one would equal as well.
    rintro ⟨y, hy, hxy⟩
    obtain ⟨c, hc, hyc⟩ := hoffered y hy
    have hxc := Value.strictEq_trans hxy hyc
    rw [hnone c hc] at hxc
    cases hxc
  · have hchoice := (Entry.choice_eq_ok_iff hapart hxgenuine).mp hc
    have htwice := Entry.exists_strictEq_of_isAmong hapart hgenuine hfront hchoice.equal hamong
    refine ⟨isLeast_faults hoffered hnew (Or.inr (repeated_iff.mpr htwice)),
      Or.inr ⟨fun hnone => ?_, htwice, x, c, by simp, hchoice, rfl⟩⟩
    have hxc := hnone c hchoice.mem
    rw [hchoice.equal] at hxc
    cases hxc

/-! ## Fields of several choices -/

theorem content_of_isMulti {kind : FieldKind} (hkind : f.kind? = some kind)
    (hmulti : f.isMulti = true) : Content.ofKind f kind = .selection f.choices := by
  by_cases hselect : f.kindName = "select"
  · obtain rfl : kind = .select :=
      Option.some.inj (hkind.symm.trans (kind?_eq_select_iff.mpr hselect))
    exact if_pos hmulti
  · have hgroup : f.isCheckboxGroup = true := by
      rwa [Field.isMulti, if_neg (by simpa using hselect)] at hmulti
    have hcheckbox : f.kindName = "checkbox" := by
      simp only [Field.isCheckboxGroup, Bool.and_eq_true, beq_iff_eq] at hgroup
      exact hgroup.1
    obtain rfl : kind = .checkbox :=
      Option.some.inj (hkind.symm.trans (kind?_eq_checkbox_iff.mpr hcheckbox))
    exact if_pos hgroup

theorem eq_of_items? (hw : w.items? = some xs) : w = .list xs ∨ w = .tuple xs := by
  cases w <;> simp_all [Value.items?]

theorem choices_apart_of_isMulti (hcheck : form.check = .ok ()) (hf : f ∈ form.fields)
    (hmulti : f.isMulti = true) : f.choices.Pairwise Apart := by
  obtain ⟨kind, hkind⟩ := exists_kind_of_check hcheck hf
  have h := offered_apart hcheck hf hkind
  rwa [content_of_isMulti hkind hmulti] at h

/-- What becomes of a list of entries for a field of several choices. -/
structure Judges (f : Field) (xs : List Value) (r : Except Violation (Option Value)) : Prop where
  accepts_iff : (∃ kept, r = .ok kept) ↔
    (∀ x ∈ xs, ∃ c ∈ f.choices, x.strictEq c = true) ∧ xs.Pairwise Apart ∧
      (xs ≠ [] ∨ f.required = false)
  keeps : ∀ kept, r = .ok kept →
    ∃ cs, kept = some (.list cs) ∧ List.Forall₂ (IsChoiceFor f.choices) xs cs
  empty_iff : ∀ e, r = .error e →
    (e.reason.code = "empty_selection" ↔ xs = [] ∧ f.required = true)
  first : ∀ e, r = .error e → xs ≠ [] →
    ∃ i, IsLeast (faults f.choices xs) i ∧
      (e.reason.code = "invalid_option" ↔ Unoffered f.choices xs i) ∧
      (e.reason.code = "duplicate_selection" ↔ Repeated xs i)

/-- A list of entries is kept as their choices, but nothing only where nothing is required. -/
theorem readSelection_eq_ok_iff_of_items (hapart : choices.Pairwise Apart)
    (hxs : ∀ x ∈ xs, x.Genuine) (hw : w.items? = some xs) {required : Bool} {kept : Value} :
    Content.readSelection required choices w = .ok kept ↔
      ∃ cs, Entry.choicesFrom choices [] xs = .ok cs ∧ (xs ≠ [] ∨ required = false) ∧
        kept = .list cs := by
  rw [Content.readSelection_eq_ok_iff, Entry.selection, hw]
  refine exists_congr fun cs => and_congr_right fun hcs => and_congr_left fun _ => ?_
  have hlen := ((Entry.choicesFrom_nil_eq_ok_iff hapart hxs).mp hcs).1.length_eq
  rw [← List.length_pos_iff_ne_nil, ← List.length_pos_iff_ne_nil, hlen]
  cases required <;> simp

/-- A list of entries is refused for a fault, or where it is empty and one is required. -/
theorem readSelection_eq_error_iff_of_items (hapart : choices.Pairwise Apart)
    (hxs : ∀ x ∈ xs, x.Genuine) (hw : w.items? = some xs) {required : Bool} :
    Content.readSelection required choices w = .error e ↔
      Entry.choicesFrom choices [] xs = .error e ∨
        xs = [] ∧ required = true ∧ e = .nothingSelected := by
  rw [Content.readSelection]
  simp only [bind_eq_error_iff, Entry.selection, hw]
  refine or_congr_right ⟨?_, ?_⟩
  · rintro ⟨cs, hcs, h⟩
    split at h
    · rename_i hnone
      injection h with h
      obtain ⟨hrequired, rfl⟩ : required = true ∧ cs = [] := by simpa using hnone
      have hchoices := ((Entry.choicesFrom_nil_eq_ok_iff hapart hxs).mp hcs).1
      exact ⟨List.forall₂_nil_right_iff.mp hchoices, hrequired, h.symm⟩
    · cases h
  · rintro ⟨rfl, rfl, rfl⟩
    exact ⟨[], rfl, rfl⟩

theorem judges_readSelection (hapart : f.choices.Pairwise Apart) (hxs : ∀ x ∈ xs, x.Genuine)
    (hw : w.items? = some xs) :
    Judges f xs ((Content.readSelection f.required f.choices w).map some) where
  accepts_iff := by
    rw [← and_assoc, ← Entry.exists_choicesFrom_iff hapart hxs]
    simp only [map_eq_ok_iff, readSelection_eq_ok_iff_of_items hapart hxs hw]
    constructor
    · rintro ⟨-, -, ⟨cs, hcs, hsome, -⟩, -⟩
      exact ⟨⟨cs, hcs⟩, hsome⟩
    · rintro ⟨⟨cs, hcs⟩, hsome⟩
      exact ⟨_, _, ⟨cs, hcs, hsome, rfl⟩, rfl⟩
  keeps kept h := by
    obtain ⟨u, hu, rfl⟩ := map_eq_ok_iff.mp h
    obtain ⟨cs, hcs, -, rfl⟩ := (readSelection_eq_ok_iff_of_items hapart hxs hw).mp hu
    exact ⟨cs, rfl, ((Entry.choicesFrom_nil_eq_ok_iff hapart hxs).mp hcs).1⟩
  empty_iff e h := by
    rcases (readSelection_eq_error_iff_of_items hapart hxs hw).mp (map_eq_error_iff.mp h) with
      h | ⟨rfl, hrequired, rfl⟩
    · have hsome : xs ≠ [] := by
        rintro rfl
        cases h
      refine iff_of_false ?_ fun hnone => hsome hnone.1
      obtain ⟨i, -, ⟨-, -, rfl⟩ | ⟨-, -, x, c, -, -, rfl⟩⟩ := exists_first_fault hapart hxs h <;>
        simp [Violation.reason, Reason.code]
    · exact iff_of_true rfl ⟨rfl, hrequired⟩
  first e h hsome := by
    rcases (readSelection_eq_error_iff_of_items hapart hxs hw).mp (map_eq_error_iff.mp h) with
      h | ⟨hnone, -, -⟩
    · obtain ⟨i, hleast, ⟨hoffered, hrepeated, rfl⟩ | ⟨hoffered, hrepeated, x, c, -, -, rfl⟩⟩ :=
        exists_first_fault hapart hxs h
      · refine ⟨i, hleast, iff_of_true rfl hoffered, iff_of_false ?_ hrepeated⟩
        simp [Violation.reason, Reason.code]
      · refine ⟨i, hleast, iff_of_false ?_ hoffered, iff_of_true rfl hrepeated⟩
        simp [Violation.reason, Reason.code]
    · exact absurd hnone hsome

/-- A field of several choices keeps every list of entries that equal different choices, as a list
of these, and refuses any other for its first fault or for being empty. There is no refusal of an
entry that equals no choice where one of the choices is too long to be written. -/
theorem judges_selection (hcheck : form.check = .ok ()) (hf : f ∈ form.fields)
    (hmulti : f.isMulti = true) :
    ∃ item, Item.ofField f = .ok item ∧
      ∀ (today : Date) (w : Value) (xs : List Value), w.items? = some xs →
        (∀ x ∈ xs, x.Genuine) →
        ∃ r, Judges f xs r ∧
          ((item.accept today (some w) = .ok r ∧ ¬ Item.Untellable f.choices r) ∨
            (item.accept today (some w) = .error .longInteger ∧
              Item.Untellable f.choices r)) := by
  obtain ⟨kind, hkind⟩ := exists_kind_of_check hcheck hf
  refine ⟨_, ofField_eq_ok_iff.mpr ⟨kind, hkind, rfl⟩, fun today w xs hw hxs => ?_⟩
  have hcontent := content_of_isMulti hkind hmulti
  have hsome : (Content.selection f.choices).isNothing w = false ∧ w ≠ .missing := by
    rcases eq_of_items? hw with rfl | rfl <;> exact ⟨rfl, nofun⟩
  have hjudge : Item.judge today ⟨f, Content.ofKind f kind⟩ (some w) =
      .ok ((Content.readSelection f.required f.choices w).map some) := by
    rw [Item.judge_of_entered hsome.2, hcontent, hsome.1]
    rfl
  refine ⟨_, judges_readSelection (choices_apart_of_isMulti hcheck hf hmulti) hxs hw, ?_⟩
  have haccept := Item.accept_of_judge_eq hjudge
  rwa [show (Content.ofKind f kind).offered = f.choices from congrArg Content.offered hcontent]
    at haccept

/-- A tuple of a color, something that is none, and the color again is refused for what is
none. -/
theorem judges_selection_survey :
    let f : Field := ⟨"c", "colors", "select", "Colors", true, none,
      some [⟨"Red", .text "red"⟩, ⟨"Blue", .text "blue"⟩], none, none, true⟩
    let xs := [Value.text "blue", .int 1, .text "blue"]
    survey.check = .ok () ∧ f ∈ survey.fields ∧ f.isMulti = true ∧ (∀ x ∈ xs, x.Genuine) ∧
      ∃ item, Item.ofField f = .ok item ∧
        item.accept ⟨2024, 1, 31, by decide⟩ (some (.tuple xs)) =
          .ok (.error (.notOffered f.choices)) ∧
        Judges f xs (.error (.notOffered f.choices)) := by
  intro f xs
  have hf : f ∈ survey.fields := by simp [survey, f]
  have hmulti : f.isMulti = true := rfl
  have hxs : ∀ x ∈ xs, x.Genuine := by
    intro x hx
    refine Value.genuine_of_scalar ?_
    simp only [xs, List.mem_cons, List.not_mem_nil, or_false] at hx
    rcases hx with rfl | rfl | rfl <;> rfl
  obtain ⟨item, hitem, hjudges⟩ := judges_selection check_survey hf hmulti
  obtain ⟨r, hjudged, haccept⟩ := hjudges ⟨2024, 1, 31, by decide⟩ (.tuple xs) xs rfl hxs
  have hrefused : item.accept ⟨2024, 1, 31, by decide⟩ (some (.tuple xs)) =
      .ok (.error (.notOffered f.choices)) := by
    injection hitem with hitem
    subst hitem
    rfl
  obtain rfl : r = .error (.notOffered f.choices) := by
    rw [hrefused] at haccept
    rcases haccept with ⟨hr, -⟩ | ⟨hr, -⟩
    · exact (Except.ok.inj hr).symm
    · cases hr
  exact ⟨check_survey, hf, hmulti, hxs, item, hitem, hrefused, hjudged⟩

/-- A list of something else than the choice is neither kept nor refused where the choice is too
long to be written. -/
theorem long_choice_unjudged :
    let f := Validator.offering true Value.long
    let xs := [Value.text "red"]
    Form.check ⟨"1", [f]⟩ = .ok () ∧ f.isMulti = true ∧ (∀ c ∈ f.choices, c.isNaN = false) ∧
      (∀ x ∈ xs, x.Genuine) ∧
      ∃ item, Item.ofField f = .ok item ∧
        item.accept ⟨2024, 1, 31, by decide⟩ (some (.list xs)) = .error .longInteger := by
  intro f xs
  refine ⟨Validator.check_offering _ _, rfl, List.forall_mem_singleton.mpr Value.isNaN_long,
    List.forall_mem_singleton.mpr (Value.genuine_of_scalar rfl),
    ⟨f, .selection [Value.long]⟩, rfl, ?_⟩
  rw [Item.accept_eq_longInteger_iff]
  refine ⟨[Value.long], ?_, _, .head _, Value.not_short_long⟩
  have hthere : (Content.selection [Value.long]).isNothing (.list xs) = false := rfl
  have hread : Content.readSelection false [Value.long] (.list xs) =
      .error (.notOffered [Value.long]) := by
    refine bind_eq_error_iff.mpr (Or.inl ?_)
    exact bind_eq_error_iff.mpr (Or.inl Validator.choice_long)
  rw [Item.judge_of_entered (by simp), hthere, Content.read]
  exact congrArg (fun r => Except.ok (r.map some)) hread

/-! ## A single choice -/

/-- Null and blank texts count as nothing where a choice is expected. -/
def CountsAsNothing (c : Value) : Prop := c = .null ∨ ∃ s, c = .text s ∧ Text.isBlankText s = true

theorem isNothing_choice_iff :
    (Content.choice choices).isNothing c = true ↔ CountsAsNothing c := by
  cases c <;> simp [Content.isNothing, CountsAsNothing]

theorem content_of_select {kind : FieldKind} (hkind : f.kind? = some kind)
    (hselect : f.kindName = "select") (hsingle : f.multiple = false) :
    Content.ofKind f kind = .choice f.choices := by
  obtain rfl : kind = .select :=
    Option.some.inj (hkind.symm.trans (kind?_eq_select_iff.mpr hselect))
  exact if_neg (by simp [isMulti_of_select hselect, hsingle])

theorem accept_choice (hcontent : item.content = .choice choices) (hapart : choices.Pairwise Apart)
    (hc : c ∈ choices) (hkeys : c.DistinctKeys) (hnan : c.isNaN = false) (hmark : c ≠ .missing)
    (hsome : ¬ CountsAsNothing c) : item.accept today (some c) = .ok (.ok (some c)) := by
  have hthere : (Content.choice choices).isNothing c = false := by
    rwa [← Bool.not_eq_true, isNothing_choice_iff]
  rw [Item.accept_eq_kept_iff, Item.judge_of_entered hmark, hcontent, hthere, Content.read,
    Entry.choice_self hapart hc hkeys hnan]
  rfl

theorem accept_of_countsAsNothing (hcontent : item.content = .choice choices)
    (h : CountsAsNothing c) :
    item.accept today (some c) =
      .ok (if item.field.required then .error .absent else .ok none) := by
  have hmark : c ≠ .missing := by
    rintro rfl
    rcases h with h | ⟨s, h, -⟩ <;> cases h
  refine Item.accept_of_judge ?_ fun choices => by split <;> exact nofun
  rw [Item.judge_of_entered hmark, hcontent, isNothing_choice_iff.mpr h, if_pos rfl,
    Item.acceptNothing, hcontent]
  rfl

/-- An answer tells of an item what the item makes of its entry. -/
theorem Validator.lookup_of_accept {r : Except Violation (Option Value)} {o : Outcome}
    (hkeys : (v.items.map Item.key).Nodup) (hitem : item ∈ v.items)
    (hr : item.accept today (entries.lookup item.key) = .ok r)
    (ho : v.validate locale today (.object entries) = .ok o) :
    o.codes.lookup item.key = (violation? (item, r)).map (·.reason.code) ∧
      ∀ data, o.data? = some data → data.lookup item.key = value? (item, r) := by
  obtain ⟨findings, hfinds, rfl⟩ := validate_eq_ok_iff.mp ho
  obtain ⟨r', hmem⟩ := hfinds.exists_finding hitem
  obtain rfl : r' = r := Except.ok.inj ((hfinds.accept _ hmem).symm.trans hr)
  refine ⟨hfinds.lookup_codes hkeys hmem, fun data hdata => ?_⟩
  rw [data?_outcome hdata]
  exact hfinds.lookup_kept hkeys hmem

/-- Every choice of a select can be chosen unless it counts as nothing: in every submission that can
be told there is no complaint about the field, and the choice is kept. One that counts as nothing is
treated as none. -/
theorem validate_choice (hcheck : form.check = .ok ())
    (hbuild : Validator.build form hash = .ok v) (hf : f ∈ form.fields)
    (hselect : f.kindName = "select") (hsingle : f.multiple = false) (hc : c ∈ f.choices)
    (hkeys : c.DistinctKeys) (hnan : c.isNaN = false) (hmark : c ≠ .missing)
    (hentry : entries.lookup f.name = some c) (locale : Locale) :
    ((∃ o, v.validate locale today (.object entries) = .ok o) ↔
      v.Tells today (.object entries)) ∧
    ∀ o, v.validate locale today (.object entries) = .ok o →
      (¬ CountsAsNothing c → o.codes.lookup f.name = none ∧
        ∀ data, o.data? = some data → data.lookup f.name = some c) ∧
      (CountsAsNothing c → o.codes.lookup f.name = (if f.required then some "required" else none) ∧
        ∀ data, o.data? = some data → data.lookup f.name = none) := by
  have hnames := nodup_keys hcheck hbuild
  have hapart := choices_apart hcheck hf (Or.inl hselect)
  obtain ⟨item, hitem, rfl⟩ := exists_item hbuild hf
  obtain ⟨kind, hkind, hcontent⟩ := content_of_item hbuild hitem
  rw [content_of_select hkind hselect hsingle] at hcontent
  refine ⟨Validator.exists_answer_iff_tells, fun o ho =>
    ⟨fun hsome => ?_, fun hnothing => ?_⟩⟩
  · have haccept : item.accept today (entries.lookup item.key) = .ok (.ok (some c)) :=
      (congrArg _ hentry).trans (accept_choice hcontent hapart hc hkeys hnan hmark hsome)
    exact Validator.lookup_of_accept hnames hitem haccept ho
  · have haccept : item.accept today (entries.lookup item.key) =
        .ok (if item.field.required then .error .absent else .ok none) :=
      (congrArg _ hentry).trans (accept_of_countsAsNothing hcontent hnothing)
    have htold := Validator.lookup_of_accept hnames hitem haccept ho
    cases hrequired : item.field.required <;> rw [hrequired] at htold <;> exact htold

/-- A select of a color where null, the empty text and the mark for no value are offered too. -/
def palette : Form :=
  ⟨"1", [⟨"c", "color", "select", "Color", true, none,
    some [⟨"Any", .null⟩, ⟨"None", .text ""⟩, ⟨"Missing", .missing⟩, ⟨"Red", .text "red"⟩],
    none, none, false⟩]⟩

def paletteItems : List Item :=
  List.zipWith Item.mk palette.fields [.choice [.null, .text "", .missing, .text "red"]]

theorem check_palette : palette.check = .ok () := by cbv

theorem build_palette :
    Validator.build palette (some "palette") = .ok ⟨"palette", paletteItems⟩ := by cbv

/-- The color is kept. -/
theorem validate_choice_palette :
    ∃ f ∈ palette.fields, f.kindName = "select" ∧ f.multiple = false ∧
      Value.text "red" ∈ f.choices ∧ (Value.text "red").DistinctKeys ∧
      ¬ CountsAsNothing (.text "red") ∧ palette.check = .ok () ∧
      ∃ v, Validator.build palette (some "palette") = .ok v ∧
        ∃ o, v.validate .english ⟨2024, 1, 31, by decide⟩ (.object [("color", .text "red")]) =
            .ok o ∧
          o.codes.lookup "color" = none ∧
          ∀ data, o.data? = some data → data.lookup "color" = some (.text "red") := by
  have hmem : palette.fields[0] ∈ palette.fields := List.getElem_mem _
  have hred : Value.text "red" ∈ palette.fields[0].choices := by simp [palette, Field.choices]
  have hkeys : (Value.text "red").DistinctKeys := .scalar rfl
  have hsome : ¬ CountsAsNothing (.text "red") := fun h =>
    absurd (isNothing_choice_iff.mpr h : (Content.choice []).isNothing (.text "red") = true)
      (by decide)
  have hshort : palette.OffersShort := by
    refine List.forall_mem_singleton.mpr fun _ c hc => Value.hasShortIntegers_iff.mp ?_
    have hall : ∀ c ∈ palette.fields[0].choices, c.hasShortIntegers = true := by decide
    exact hall c hc
  have hreadable : palette.Readable ⟨2024, 1, 31, by decide⟩ [("color", .text "red")] := by
    refine Form.readable_of_digitCount (List.forall_mem_singleton.mpr ?_)
    rintro _ ⟨⟩
    decide
  have htells := (Validator.tells_iff_readable build_palette hshort).mpr hreadable
  have hentry : [("color", Value.text "red")].lookup "color" = some (.text "red") := rfl
  have hmark : Value.text "red" ≠ .missing := by simp
  obtain ⟨hanswer, htold⟩ := validate_choice check_palette build_palette hmem rfl rfl hred hkeys rfl
    hmark hentry .english
  obtain ⟨o, ho⟩ := hanswer.mpr htells
  exact ⟨_, hmem, rfl, rfl, hred, hkeys, hsome, check_palette, _, build_palette, o, ho,
    (htold o ho).1 hsome⟩

/-- Null, the empty text and the mark for no value are refused where they are offered, as if
nothing had been entered. -/
theorem null_refused_where_offered :
    palette.check = .ok () ∧
    ∃ v, Validator.build palette (some "palette") = .ok v ∧
      ∃ f ∈ palette.fields, f.kindName = "select" ∧ f.multiple = false ∧
        ∀ c ∈ [Value.null, .text "", .missing], c ∈ f.choices ∧ c.isNaN = false ∧
          ∃ o, v.validate .english ⟨2024, 1, 31, by decide⟩ (.object [(f.name, c)]) = .ok o ∧
            o.codes = [(f.name, "required")] := by
  refine ⟨check_palette, _, build_palette, palette.fields[0], List.getElem_mem _, rfl, rfl,
    fun c hc => ?_⟩
  simp only [List.mem_cons, List.not_mem_nil, or_false] at hc
  rcases hc with rfl | rfl | rfl <;>
    exact ⟨by simp [palette, Field.choices], rfl, _, rfl, rfl⟩

end Formwork
