import Formwork.Proofs.DecimalText
import Formwork.Proofs.Independence

/-!
# What messages say

The language of a validator decides about the words of its complaints and about nothing else. The
text of a reason in a catalog has names in braces. `Filled` says what it is to fill such a text in:
each name in braces becomes the text for its slot, which is not looked at again, and every other
character stays. No more than one text comes of that, and none where a slot has no text.
`worded_by_catalog`: every message is the text of its reason filled in with the label of the field
and with what the violation itself has to tell, so that in each language each violation has a text
for every slot of its template.
-/

namespace Formwork

variable {told : Slot → String → Prop} {texts : Slot → Option String} {s : Slot} {x : String}
variable {c : Char}
variable {ws cs ds m : List Char} {locale : Locale}

/-! ## Filling in -/

/-- The second text is the first one with every slot filled in. -/
inductive Filled (told : Slot → String → Prop) : List Char → List Char → Prop
  | done : Filled told [] []
  | slot {s : Slot} {x : String} {cs ds : List Char} (hx : told s x) (rest : Filled told cs ds) :
      Filled told ('\x7b' :: (s.name.toList ++ '\x7d' :: cs)) (x.toList ++ ds)
  | char {c : Char} {cs ds : List Char} (hc : c ≠ '\x7b') (rest : Filled told cs ds) :
      Filled told (c :: cs) (c :: ds)

theorem Slot.name_injective : Function.Injective Slot.name := by
  intro s s' h
  cases s <;> cases s' <;> simp_all [name]

/-- A name is read up to the brace behind it. -/
theorem Slot.name_append_inj {s s' : Slot}
    (h : s.name.toList ++ '\x7d' :: cs = s'.name.toList ++ '\x7d' :: ds) : s = s' ∧ cs = ds := by
  have hname : ∀ s : Slot, ∀ c ∈ s.name.toList, (c != '\x7d') = true := by
    intro s
    cases s <;> simp [name]
  have htake : ∀ (s : Slot) (cs : List Char),
      (s.name.toList ++ '\x7d' :: cs).takeWhile (· != '\x7d') = s.name.toList :=
    fun s cs => Literal.takeWhile_append_cons (hname s) (by simp) cs
  have hsame : s.name.toList = s'.name.toList := by rw [← htake s cs, h, htake]
  obtain rfl : s = s' := Slot.name_injective (String.toList_inj.mp hsame)
  have hrest := List.append_cancel_left h
  injection hrest with _ hrest
  exact ⟨rfl, hrest⟩

theorem filled_nil_iff : Filled told [] m ↔ m = [] := by
  constructor
  · intro h
    cases h
    rfl
  · rintro rfl
    exact .done

theorem filled_char_iff (hc : c ≠ '\x7b') :
    Filled told (c :: cs) m ↔ ∃ ds, m = c :: ds ∧ Filled told cs ds := by
  constructor
  · intro h
    cases h with
    | slot _ _ => exact absurd rfl hc
    | char _ rest => exact ⟨_, rfl, rest⟩
  · rintro ⟨ds, rfl, rest⟩
    exact .char hc rest

/-- Words without a brace stay as they are. -/
theorem filled_words_iff (hws : ∀ c ∈ ws, c ≠ '\x7b') :
    Filled told (ws ++ cs) m ↔ ∃ ds, m = ws ++ ds ∧ Filled told cs ds := by
  induction ws generalizing m with
  | nil => simp
  | cons w ws ih =>
    obtain ⟨hw, hws⟩ := List.forall_mem_cons.mp hws
    rw [List.cons_append, filled_char_iff hw]
    simp only [ih hws]
    constructor
    · rintro ⟨_, rfl, ds, rfl, rest⟩
      exact ⟨ds, rfl, rest⟩
    · rintro ⟨ds, rfl, rest⟩
      exact ⟨_, rfl, ds, rfl, rest⟩

/-- A name in braces becomes the text for its slot, which may have braces of its own. -/
theorem filled_slot_iff :
    Filled told ('\x7b' :: (s.name.toList ++ '\x7d' :: cs)) m ↔
      ∃ x ds, told s x ∧ m = x.toList ++ ds ∧ Filled told cs ds := by
  constructor
  · intro h
    generalize htext : '\x7b' :: (s.name.toList ++ '\x7d' :: cs) = text at h
    cases h with
    | done => cases htext
    | slot hx rest =>
      injection htext with _ htext
      obtain ⟨rfl, rfl⟩ := Slot.name_append_inj htext
      exact ⟨_, _, hx, rfl, rest⟩
    | char hc _ =>
      injection htext with hbrace _
      exact absurd hbrace.symm hc
  · rintro ⟨x, ds, hx, rfl, rest⟩
    exact .slot hx rest

/-! ## Templates -/

namespace Template

variable {p : Piece} {t : Template}

/-- No words of the template have a brace. -/
def isPlain (t : Template) : Bool :=
  t.all fun
    | .words s => s.toList.all (· != '\x7b')
    | .slot _ => true

theorem unfilled_cons : unfilled (p :: t) = p.shown ++ unfilled t := by
  rw [unfilled, List.map_cons, String.join_cons, unfilled]

theorem fill?_cons :
    fill? texts (p :: t) = (p.text? texts).bind fun x => (fill? texts t).map (x ++ ·) := by
  unfold fill?
  rw [List.mapM_cons]
  cases p.text? texts with
  | none => rfl
  | some x =>
    cases t.mapM (Piece.text? texts) with
    | none => rfl
    | some xs => exact congrArg some String.join_cons

/-- What comes of a template is its text filled in. -/
theorem filled_unfilled_iff (hplain : t.isPlain = true)
    (htexts : ∀ s x, told s x ↔ texts s = some x) :
    Filled told t.unfilled.toList m ↔ ∃ x, t.fill? texts = some x ∧ m = x.toList := by
  induction t generalizing m with
  | nil =>
    have hempty : unfilled [] = "" := rfl
    have hfill : fill? texts [] = some "" := rfl
    simp [hempty, hfill, filled_nil_iff]
  | cons p t ih =>
    have hrest : isPlain t = true := by
      unfold isPlain at hplain ⊢
      rw [List.all_cons, Bool.and_eq_true] at hplain
      exact hplain.2
    rw [unfilled_cons, fill?_cons, String.toList_append]
    cases p with
    | words s =>
      have hwords : ∀ c ∈ s.toList, c ≠ '\x7b' := by
        unfold isPlain at hplain
        simp only [List.all_cons, Bool.and_eq_true, List.all_eq_true, bne_iff_ne] at hplain
        exact hplain.1
      rw [Piece.shown, filled_words_iff hwords]
      simp only [ih hrest, Piece.text?, Option.bind_some, Option.map_eq_some_iff]
      constructor
      · rintro ⟨_, rfl, x, hx, rfl⟩
        exact ⟨_, ⟨x, hx, rfl⟩, (String.toList_append ..).symm⟩
      · rintro ⟨_, ⟨x, hx, rfl⟩, rfl⟩
        exact ⟨_, String.toList_append .., x, hx, rfl⟩
    | slot s =>
      have hshown : (Piece.slot s).shown.toList ++ (unfilled t).toList =
          '\x7b' :: (s.name.toList ++ '\x7d' :: (unfilled t).toList) := by
        simp [Piece.shown]
      rw [hshown, filled_slot_iff]
      simp only [ih hrest, htexts, Piece.text?, Option.bind_eq_some_iff, Option.map_eq_some_iff]
      constructor
      · rintro ⟨y, _, hy, rfl, x, hx, rfl⟩
        exact ⟨_, ⟨y, hy, x, hx, rfl⟩, (String.toList_append ..).symm⟩
      · rintro ⟨_, ⟨y, hy, x, hx, rfl⟩, rfl⟩
        exact ⟨y, _, hy, String.toList_append .., x, hx, rfl⟩

end Template

/-! ## Catalogs -/

/-- The text of a reason in the catalog of a language. -/
def Reason.wording (r : Reason) (locale : Locale) : String := (r.template locale).unfilled

theorem Reason.ofCode?_code (r : Reason) : ofCode? r.code = some r := by
  cases r <;> rfl

theorem Reason.isPlain_template (r : Reason) (locale : Locale) :
    (r.template locale).isPlain = true := by
  cases r <;> cases locale <;> decide +kernel

/-- A violation has a text for every slot of its template in each language. -/
theorem Violation.exists_fill? (e : Violation) (locale : Locale) (label : String) :
    ∃ x, (e.reason.template locale).fill? (e.slotText label) = some x := by
  cases e <;> cases locale <;> exact ⟨_, rfl⟩

/-- What a violation has to say about a field with a label: the label itself, and what it tells of
its own. -/
inductive Violation.Told (label : String) : Violation → Slot → String → Prop
  | label (e : Violation) : Told label e .label label
  | text : Told label .notText .expected "text"
  | list : Told label .notList .expected "a list of options"
  | boolean (received : String) : Told label (.notBoolean received) .received received
  | number (received : String) : Told label (.notNumber received) .received received
  | date (received : String) : Told label (.notDate received) .received received
  | choices (cs : List Value) :
      Told label (.notOffered cs) .allowed (", ".intercalate (cs.map Value.display))
  | choice (c : Value) : Told label (.selectedTwice c) .value c.display
  | least (n : Int) : Told label (.below n) .minimum (toString n)
  | greatest (n : Int) : Told label (.above n) .maximum (toString n)

theorem Value.display_int (n : Int) : (int n).display = toString n := by
  show String.ofList (numberChars n) = n.repr
  rw [numberChars]
  cases n with
  | ofNat n => exact Nat.repr_eq_ofList_toDigits.symm
  | negSucc n =>
    rw [if_pos (Int.negSucc_lt_zero n), Int.repr, Nat.repr_eq_ofList_toDigits]
    exact String.toList_inj.mp (by simp [Text.decimalDigits])

theorem Violation.told_of_mem_details {e : Violation} {label : String} {w : Value}
    (h : (s, w) ∈ e.details) : e.Told label s w.display := by
  cases e
  case absent | nothingSelected | notEmail | notUrl | notPhone => cases h
  all_goals obtain ⟨rfl, rfl⟩ := Prod.mk.inj (List.mem_singleton.mp h)
  case notText => exact .text
  case notList => exact .list
  case notBoolean received => exact .boolean received
  case notNumber received => exact .number received
  case notDate received => exact .date received
  case notOffered choices => exact .choices choices
  case selectedTwice => exact .choice w
  case below n => exact Value.display_int n ▸ .least n
  case above n => exact Value.display_int n ▸ .greatest n

/-- The text for a slot is what the violation has to say there. -/
theorem Violation.told_iff {e : Violation} {label : String} :
    e.Told label s x ↔ e.slotText label s = some x := by
  constructor
  · intro h
    cases h with
    | least n => exact congrArg some (Value.display_int n)
    | greatest n => exact congrArg some (Value.display_int n)
    | _ => rfl
  · intro h
    unfold slotText at h
    split at h
    · rename_i hlabel
      injection h with h
      rw [← h, hlabel]
      exact .label e
    · obtain ⟨w, hw, rfl⟩ := Option.map_eq_some_iff.mp h
      exact told_of_mem_details (mem_of_lookup hw)

/-- The message of a violation is what comes of filling in the text of its reason. -/
theorem Violation.filled_iff (e : Violation) (locale : Locale) (label : String) :
    Filled (e.Told label) (e.reason.wording locale).toList m ↔
      m = (e.message locale label).toList := by
  obtain ⟨x, hx⟩ := e.exists_fill? locale label
  have htold : ∀ s x, e.Told label s x ↔ e.slotText label s = some x := fun _ _ => told_iff
  rw [Reason.wording, Template.filled_unfilled_iff (e.reason.isPlain_template locale) htold,
    Violation.message, Template.fill, hx]
  simp

/-- There is nothing to fill in for something that is no submission. -/
theorem filled_invalidPayload_iff (locale : Locale) :
    Filled (fun _ _ => False) (Reason.invalidPayload.wording locale).toList m ↔
      m = (Validator.notASubmission locale).message.toList := by
  have hfill : (Reason.invalidPayload.template locale).fill? (fun _ => none) =
      some (Validator.notASubmission locale).message := by
    cases locale <;> rfl
  have htold : ∀ (s : Slot) (x : String), False ↔ (none : Option String) = some x := by simp
  rw [Reason.wording, Template.filled_unfilled_iff (Reason.isPlain_template _ locale) htold, hfill]
  simp

/-! ## Answers -/

/-- What an answer tells besides words: whether the submission is accepted, the data, and the codes
under the names of the fields. -/
def Outcome.facts (o : Outcome) :
    Bool × Option (List (String × Value)) × List (String × String) :=
  (o.isSuccess, o.data?, o.codes)

namespace Validator

variable {v : Validator} {today : Date} {submission : Value} {entries : List (String × Value)}
variable {complaint : Complaint}

/-- The complaint tells what became of the submission, in the words of a catalog. -/
inductive Explains (v : Validator) (locale : Locale) (today : Date) :
    Value → Complaint → Prop
  | noSubmission {submission : Value} {c : Complaint}
      (hsubmission : ∀ entries, submission ≠ .object entries) (hfield : c.field = "_root")
      (hreason : Reason.ofCode? c.code = some .invalidPayload)
      (hmessage : ∀ m, Filled (fun _ _ => False) (Reason.invalidPayload.wording locale).toList m ↔
        m = c.message.toList) : Explains v locale today submission c
  /-- A field without a label is told by its name. -/
  | violation {entries : List (String × Value)} {item : Item} {e : Violation} {label : String}
      {c : Complaint} (hitem : item ∈ v.items)
      (haccept : item.accept today (entries.lookup item.key) = .ok (.error e))
      (hfield : c.field = item.field.name) (hreason : Reason.ofCode? c.code = some e.reason)
      (hlabel : label = if item.field.label = "" then item.field.name else item.field.label)
      (hmessage : ∀ m, Filled (e.Told label) (e.reason.wording locale).toList m ↔
        m = c.message.toList) : Explains v locale today (.object entries) c

/-- The same findings are the same facts in every language. -/
theorem facts_outcome (locale locale' : Locale) (findings : List Finding) :
    (outcome locale findings).facts = (outcome locale' findings).facts := by
  have hcodes : (outcome locale findings).codes = (outcome locale' findings).codes := by
    rw [codes_outcome, codes_outcome]
  have haccepted : ∀ {l l' : Locale} {data : List (String × Value)},
      outcome l findings = .accepted data → outcome l' findings = .accepted data :=
    fun h => outcome_eq_accepted_iff.mpr (outcome_eq_accepted_iff.mp h)
  unfold Outcome.facts
  rw [hcodes]
  cases h : outcome locale findings with
  | accepted data =>
    rw [haccepted h]
  | rejected cs =>
    cases h' : outcome locale' findings with
    | accepted data =>
      rw [haccepted h'] at h
      cases h
    | rejected cs' => rfl

theorem facts_validate (v : Validator) (locale locale' : Locale) (today : Date)
    (submission : Value) :
    (v.validate locale today submission).map Outcome.facts =
      (v.validate locale' today submission).map Outcome.facts := by
  cases submission
  case object entries =>
    rw [validate, validate]
    cases v.items.mapM (finding today entries) with
    | error e => rfl
    | ok findings => exact congrArg Except.ok (facts_outcome locale locale' findings)
  all_goals rfl

/-- A complaint is that of a violation by some item. -/
theorem explains_of_mem {findings : List Finding} (h : v.Finds today entries findings)
    (hc : complaint ∈ (outcome locale findings).complaints) :
    v.Explains locale today (.object entries) complaint := by
  rw [complaints_outcome, complaints_eq, List.mem_filterMap] at hc
  obtain ⟨x, hx, hc⟩ := hc
  obtain ⟨e, he, rfl⟩ := Option.map_eq_some_iff.mp hc
  have haccept := h.accept x hx
  rw [violation?_eq_some_iff.mp he] at haccept
  have hlabel : x.1.label =
      if x.1.field.label = "" then x.1.field.name else x.1.field.label := by
    simp only [Item.label, String.isEmpty_iff]
  exact .violation (h.item_mem hx) haccept rfl (Reason.ofCode?_code _) hlabel
    fun _ => e.filled_iff locale x.1.label

/-- In any two languages a submission meets with the same facts: the same success, data, fields and
codes, or none. Every message is what comes of filling in the text that the catalog of its language
has for the code. -/
theorem worded_by_catalog (v : Validator) (today : Date) (submission : Value)
    (tag tag' : Option String) :
    (v.validate (.resolve tag) today submission).map Outcome.facts =
      (v.validate (.resolve tag') today submission).map Outcome.facts ∧
    ∀ o, v.validate (.resolve tag) today submission = .ok o →
      ∀ c ∈ o.complaints, v.Explains (.resolve tag) today submission c := by
  refine ⟨facts_validate v _ _ today submission, fun o ho c hc => ?_⟩
  by_cases hsubmission : ∃ entries, submission = .object entries
  · obtain ⟨entries, rfl⟩ := hsubmission
    obtain ⟨findings, hfinds, rfl⟩ := validate_eq_ok_iff.mp ho
    exact explains_of_mem hfinds hc
  · have hnone : ∀ entries, submission ≠ .object entries := not_exists.mp hsubmission
    rw [validate_of_not_object hnone] at ho
    injection ho with ho
    subst ho
    obtain rfl := List.mem_singleton.mp hc
    exact .noSubmission hnone rfl (Reason.ofCode?_code .invalidPayload)
      fun _ => filled_invalidPayload_iff _

/-- Braces in a label or in a choice are words like any other. -/
example : (Violation.selectedTwice (.text "\x7blabel\x7d")).message .english "\x7bvalue\x7d" =
    "\x7bvalue\x7d contains \x7blabel\x7d more than once" := by decide +kernel

end Validator

end Formwork
