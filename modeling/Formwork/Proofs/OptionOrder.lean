import Formwork.Proofs.Choosing

/-!
# The order of options

An entry equals one choice of an accepted field at the most, so which choice is the first that it
equals does not depend on their order. That holds for every member of a list as well, with the same
members selected before it. So a field whose options are put into another order keeps the same value
of every entry, or refuses it for the same reason: `accept_reordered`. Only what is told about a
refusal can differ, as it lists the choices.
-/

namespace Formwork

variable {α β : Type} {form : Form} {f : Field} {os : List Choice} {item item' : Item}
variable {choices choices' xs : List Value} {x : Value} {required : Bool} {today : Date}

/-! ## Attempts that end alike -/

/-- Both succeed with the same value, or both fail with the same code. -/
inductive EndAlike : Except Violation α → Except Violation α → Prop
  | ok (a : α) : EndAlike (.ok a) (.ok a)
  | error {e e' : Violation} (h : e.reason.code = e'.reason.code) : EndAlike (.error e) (.error e')

namespace EndAlike

variable {r r' : Except Violation α}

theorem refl (r : Except Violation α) : EndAlike r r := by
  cases r with
  | ok a => exact .ok a
  | error e => exact .error rfl

theorem map (g : α → β) (h : EndAlike r r') : EndAlike (r.map g) (r'.map g) := by
  cases h with
  | ok a => exact .ok (g a)
  | error h => exact .error h

theorem bind {k k' : α → Except Violation β} (h : EndAlike r r')
    (hk : ∀ a, EndAlike (k a) (k' a)) : EndAlike (r >>= k) (r' >>= k') := by
  cases h with
  | ok a => exact hk a
  | error h => exact .error h

end EndAlike

/-! ## Choices in another order -/

namespace Entry

/-- The choice for an entry is the same in every order. -/
theorem choice_alike (hapart : choices.Pairwise Apart) (hperm : choices'.Perm choices)
    (hx : x.Genuine) : EndAlike (choice choices x) (choice choices' x) := by
  cases hchoice : choice choices x with
  | ok c =>
    have hc := (choice_eq_ok_iff hapart hx).mp hchoice
    have hc' : choice choices' x = .ok c := by
      cases hchoice' : choice choices' x with
      | ok d =>
        obtain ⟨hd, hxd⟩ := mem_of_choice hchoice'
        rw [hc.unique d (hperm.mem_iff.mp hd) hxd]
      | error e =>
        have hnone := (choice_eq_error_iff.mp hchoice').1 c (hperm.mem_iff.mpr hc.mem)
        rw [hc.equal] at hnone
        cases hnone
    rw [hc']
    exact .ok c
  | error e =>
    obtain ⟨hnone, rfl⟩ := choice_eq_error_iff.mp hchoice
    have hchoice' : choice choices' x = .error (.notOffered choices') :=
      choice_eq_error_iff.mpr ⟨fun c hc => hnone c (hperm.mem_iff.mp hc), rfl⟩
    rw [hchoice']
    exact .error rfl

theorem choicesFrom_alike (hapart : choices.Pairwise Apart) (hperm : choices'.Perm choices)
    (hxs : ∀ x ∈ xs, x.Genuine) (selected : List Value) :
    EndAlike (choicesFrom choices selected xs) (choicesFrom choices' selected xs) := by
  induction xs generalizing selected with
  | nil => exact .refl _
  | cons x xs ih =>
    obtain ⟨hx, hxs⟩ := List.forall_mem_cons.mp hxs
    simp only [choicesFrom]
    refine (choice_alike hapart hperm hx).bind fun c => ?_
    split
    · exact .refl _
    · exact ih hxs (selected ++ [c])

end Entry

theorem Value.Genuine.items (hx : x.Genuine) (hxs : x.items? = some xs) :
    ∀ y ∈ xs, y.Genuine := by
  intro y hy
  rcases eq_of_items? hxs with rfl | rfl
  · exact hx.inside (.list hy (.self y))
  · exact hx.inside (.tuple hy (.self y))

namespace Content

/-- The same choices in another order, none of them offered twice. -/
inductive Reordered : Content → Content → Prop
  | choice {choices choices' : List Value} (hapart : choices.Pairwise Apart)
      (hperm : choices'.Perm choices) : Reordered (.choice choices) (.choice choices')
  | selection {choices choices' : List Value} (hapart : choices.Pairwise Apart)
      (hperm : choices'.Perm choices) : Reordered (.selection choices) (.selection choices')

theorem readSelection_alike (hapart : choices.Pairwise Apart) (hperm : choices'.Perm choices)
    (hx : x.Genuine) :
    EndAlike (readSelection required choices x) (readSelection required choices' x) := by
  simp only [readSelection]
  refine EndAlike.bind ?_ fun _ => .refl _
  simp only [Entry.selection]
  cases hxs : x.items? with
  | some xs => exact Entry.choicesFrom_alike hapart hperm (hx.items hxs) []
  | none => exact .refl _

namespace Reordered

variable {content content' : Content} (h : Reordered content content')

include h

theorem isNothing_eq (x : Value) : content.isNothing x = content'.isNothing x := by
  cases h <;> cases x <;> rfl

theorem ifAbsent_eq : content.ifAbsent = content'.ifAbsent := by
  cases h <;> rfl

theorem read_alike (today : Date) (required : Bool) (hx : x.Genuine) :
    ∃ r r', content.read today required x = .ok r ∧ content'.read today required x = .ok r' ∧
      EndAlike r r' := by
  cases h with
  | choice hapart hperm => exact ⟨_, _, rfl, rfl, Entry.choice_alike hapart hperm hx⟩
  | selection hapart hperm => exact ⟨_, _, rfl, rfl, readSelection_alike hapart hperm hx⟩

theorem offered_perm : content'.offered.Perm content.offered := by
  cases h with
  | choice _ hperm => exact hperm
  | selection _ hperm => exact hperm

/-- Refusals alike can both be told or neither. -/
theorem untellable_iff {r r' : Except Violation (Option Value)} (hr : EndAlike r r') :
    Item.Untellable content.offered r ↔ Item.Untellable content'.offered r' := by
  have hlong : (∃ c ∈ content.offered, ¬ c.Short) ↔ ∃ c ∈ content'.offered, ¬ c.Short := by
    simp only [h.offered_perm.mem_iff]
  rw [Item.Untellable, Item.Untellable, hlong]
  refine and_congr_left fun _ => ?_
  cases hr with
  | ok _ => exact iff_of_false nofun nofun
  | error hcode => simp [hcode]

end Reordered

end Content

/-! ## Fields with their options in another order -/

/-- The field with other options. -/
def Field.withOptions (f : Field) (os : List Choice) : Field := { f with options := some os }

theorem choices_withOptions_perm (hos : os.Perm (f.options.getD [])) :
    (f.withOptions os).choices.Perm f.choices := hos.map Choice.value

theorem isCheckboxGroup_withOptions (hos : os.Perm (f.options.getD [])) :
    (f.withOptions os).isCheckboxGroup = f.isCheckboxGroup := by
  rw [Field.isCheckboxGroup, (choices_withOptions_perm hos).length_eq]
  rfl

/-- A field that offers choices expects one of them, or several. -/
theorem content_of_offers {kind : FieldKind} (hkind : f.kind? = some kind)
    (hoffers : f.kindName = "select" ∨ f.isCheckboxGroup = true) :
    Content.ofKind f kind =
      if f.isMulti then .selection f.choices else .choice f.choices := by
  split
  · rename_i hmulti
    exact content_of_isMulti hkind hmulti
  · rename_i hmulti
    have hselect : f.kindName = "select" := by
      refine hoffers.resolve_right fun hgroup => hmulti ?_
      have hcheckbox : f.kindName = "checkbox" := by
        simp only [Field.isCheckboxGroup, Bool.and_eq_true, beq_iff_eq] at hgroup
        exact hgroup.1
      rw [Field.isMulti, hcheckbox]
      exact hgroup
    have hsingle : f.multiple = false := by
      rwa [isMulti_of_select hselect, Bool.not_eq_true] at hmulti
    exact content_of_select hkind hselect hsingle

theorem offered_of_offers {kind : FieldKind} (hkind : f.kind? = some kind)
    (hoffers : f.kindName = "select" ∨ f.isCheckboxGroup = true) :
    (Content.ofKind f kind).offered = f.choices := by
  rw [content_of_offers hkind hoffers]
  split <;> rfl

/-- A field that offers choices expects the same ones in another order. -/
theorem reordered_ofKind {kind : FieldKind} (hcheck : form.check = .ok ()) (hf : f ∈ form.fields)
    (hoffers : f.kindName = "select" ∨ f.isCheckboxGroup = true) (hkind : f.kind? = some kind)
    (hos : os.Perm (f.options.getD [])) :
    (Content.ofKind f kind).Reordered (Content.ofKind (f.withOptions os) kind) := by
  have hperm := choices_withOptions_perm hos
  have hgroup := isCheckboxGroup_withOptions hos
  have hoffers' : (f.withOptions os).kindName = "select" ∨
      (f.withOptions os).isCheckboxGroup = true := hgroup ▸ hoffers
  have hmulti : (f.withOptions os).isMulti = f.isMulti := by
    rw [Field.isMulti, hgroup]
    rfl
  have hapart : f.choices.Pairwise Apart := offered_of_offers hkind hoffers ▸
    offered_apart hcheck hf hkind
  rw [content_of_offers hkind hoffers, content_of_offers (f := f.withOptions os) hkind hoffers',
    hmulti]
  split
  · exact .selection hapart hperm
  · exact .choice hapart hperm

theorem judge_alike {entered : Option Value}
    (hfallback : item.field.fallback = item'.field.fallback)
    (hrequired : item.field.required = item'.field.required)
    (hcontent : item.content.Reordered item'.content)
    (hgenuine : ∀ x, entered = some x → x.Genuine) :
    ∃ r r', item.judge today entered = .ok r ∧ item'.judge today entered = .ok r' ∧
      EndAlike r r' := by
  have hnothing : item.acceptNothing = item'.acceptNothing := by
    rw [Item.acceptNothing, Item.acceptNothing, hrequired, hcontent.ifAbsent_eq]
  by_cases habsent : entered.getD .missing = .missing
  · rw [Item.judge_of_absent habsent, Item.judge_of_absent habsent, hfallback, hnothing]
    split <;> exact ⟨_, _, rfl, rfl, .refl _⟩
  · obtain ⟨x, rfl⟩ := Item.exists_of_not_absent habsent
    have hmark : x ≠ .missing := habsent
    rw [Item.judge_of_entered hmark, Item.judge_of_entered hmark, hcontent.isNothing_eq,
      hnothing, hrequired]
    split
    · exact ⟨_, _, rfl, rfl, .refl _⟩
    · obtain ⟨r, r', hr, hr', halike⟩ :=
        hcontent.read_alike today item'.field.required (hgenuine x rfl)
      exact ⟨_, _, by rw [hr]; rfl, by rw [hr']; rfl, halike.map some⟩

/-- A field of an accepted form that offers choices keeps the same of every entry in whatever order
it offers them, or refuses it with the same code. There is neither, in both orders, where the
refusal of what is none of the choices would tell one that is too long to be written. -/
theorem accept_reordered (hcheck : form.check = .ok ()) (hf : f ∈ form.fields)
    (hoffers : f.kindName = "select" ∨ f.isCheckboxGroup = true)
    (hos : os.Perm (f.options.getD [])) :
    ∃ item item', Item.ofField f = .ok item ∧ Item.ofField (f.withOptions os) = .ok item' ∧
      ∀ (today : Date) (entered : Option Value), (∀ x, entered = some x → x.Genuine) →
        ∃ r r', EndAlike r r' ∧
          ((item.accept today entered = .ok r ∧ item'.accept today entered = .ok r' ∧
              ¬ Item.Untellable f.choices r) ∨
            (item.accept today entered = .error .longInteger ∧
              item'.accept today entered = .error .longInteger ∧
              Item.Untellable f.choices r)) := by
  obtain ⟨kind, hkind⟩ := exists_kind_of_check hcheck hf
  have hreordered := reordered_ofKind hcheck hf hoffers hkind hos
  refine ⟨_, _, ofField_eq_ok_iff.mpr ⟨kind, hkind, rfl⟩,
    ofField_eq_ok_iff.mpr ⟨kind, hkind, rfl⟩, fun today entered hgenuine => ?_⟩
  obtain ⟨r, r', hr, hr', halike⟩ :=
    @judge_alike ⟨f, Content.ofKind f kind⟩
      ⟨f.withOptions os, Content.ofKind (f.withOptions os) kind⟩ today entered rfl rfl hreordered
      hgenuine
  have huntold := hreordered.untellable_iff halike
  rw [← offered_of_offers hkind hoffers]
  refine ⟨r, r', halike, ?_⟩
  rcases Item.accept_of_judge_eq hr with ⟨h, htold⟩ | ⟨h, hlong⟩ <;>
    rcases Item.accept_of_judge_eq hr' with ⟨h', htold'⟩ | ⟨h', hlong'⟩
  · exact Or.inl ⟨h, h', htold⟩
  · exact absurd (huntold.mpr hlong') htold
  · exact absurd (huntold.mp hlong) htold'
  · exact Or.inr ⟨h, h', hlong⟩

/-- Two colors are kept as they were entered, whichever of them is offered first. -/
theorem accept_reordered_survey :
    let f : Field := ⟨"c", "colors", "select", "Colors", true, none,
      some [⟨"Red", .text "red"⟩, ⟨"Blue", .text "blue"⟩], none, none, true⟩
    let os : List Choice := [⟨"Blue", .text "blue"⟩, ⟨"Red", .text "red"⟩]
    let entry := Value.list [.text "blue", .text "red"]
    survey.check = .ok () ∧ f ∈ survey.fields ∧ f.kindName = "select" ∧
      os.Perm (f.options.getD []) ∧ entry.Genuine ∧
      ∃ item item', Item.ofField f = .ok item ∧ Item.ofField (f.withOptions os) = .ok item' ∧
        item.accept ⟨2024, 1, 31, by decide⟩ (some entry) = .ok (.ok (some entry)) ∧
        item'.accept ⟨2024, 1, 31, by decide⟩ (some entry) = .ok (.ok (some entry)) := by
  intro f os entry
  have hf : f ∈ survey.fields := by simp [survey, f]
  have hos : os.Perm (f.options.getD []) := List.Perm.swap ..
  have hentry : entry.Genuine := by
    refine Value.genuine_list fun x hx => Value.genuine_of_scalar ?_
    simp only [List.mem_cons, List.not_mem_nil, or_false] at hx
    rcases hx with rfl | rfl <;> rfl
  obtain ⟨item, item', hitem, hitem', halike⟩ :=
    accept_reordered check_survey hf (Or.inl rfl) hos
  obtain ⟨r, r', h, haccept⟩ := halike ⟨2024, 1, 31, by decide⟩ (some entry) (by
    rintro x ⟨⟩
    exact hentry)
  have hkept : item.accept ⟨2024, 1, 31, by decide⟩ (some entry) = .ok (.ok (some entry)) := by
    injection hitem with hitem
    subst hitem
    rfl
  refine ⟨check_survey, hf, rfl, hos, hentry, item, item', hitem, hitem', hkept, ?_⟩
  rw [hkept] at haccept
  rcases haccept with ⟨hr, hr', -⟩ | ⟨hr, -⟩
  · injection hr with hr
    subst hr
    cases h with
    | ok => exact hr'
  · cases hr

/-- Something else than the choices has no code in either order of them where one is too long to be
written. -/
theorem long_option_without_code :
    let f := Validator.offering false Value.long
    Form.check ⟨"1", [f]⟩ = .ok () ∧ f.kindName = "select" ∧ (∀ c ∈ f.choices, c.isNaN = false) ∧
      ∀ os, os.Perm (f.options.getD []) →
        ∃ item, Item.ofField (f.withOptions os) = .ok item ∧
          item.accept ⟨2024, 1, 31, by decide⟩ (some (.text "red")) = .error .longInteger := by
  intro f
  refine ⟨Validator.check_offering _ _, rfl, List.forall_mem_singleton.mpr Value.isNaN_long,
    fun os hos => ?_⟩
  obtain rfl : os = [⟨"Red", Value.long⟩] := List.perm_singleton.mp hos
  exact ⟨_, rfl, Validator.accept_offering_long _⟩

end Formwork
