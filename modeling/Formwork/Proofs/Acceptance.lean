import Formwork.Proofs.Attempts
import Formwork.Proofs.Equality
import Formwork.Proofs.WellFormed
import Formwork.Submission.Item

/-!
# What an item accepts

`Item.Makes` says case by case what an item makes of its entry, and `Content.Keeps` which values are
kept of what was entered. Every value that is read is one that is kept, and a value that is kept is
read as itself, as long as no choice is offered twice: the first choice that equals a choice is the
choice itself.

An item can tell what it makes of an entry, `Item.Tells`, unless the text of a date has a number that
is too long to be worked with, or a choice that is to be told is too long to be written. Where all
choices are short, only the first can happen.
-/

namespace Formwork

variable {today : Date} {required : Bool} {choices : List Value} {v w c : Value}

theorem canBeTold_iff {e : Violation} : e.canBeTold = true ↔ ∀ c ∈ e.shown, c.Short := by
  rw [Violation.canBeTold, List.all_eq_true]
  exact forall₂_congr fun c _ => Value.hasShortIntegers_iff

/-! ## Choices -/

/-- The later value does not strictly equal the earlier one. -/
def Apart (earlier later : Value) : Prop := later.strictEq earlier = false

theorem isAmong_eq_false_iff {ws : List Value} :
    v.isAmong ws = false ↔ ∀ w ∈ ws, Apart w v := by
  simp [Value.isAmong, Apart]

namespace Entry

/-- The choice for a value is offered, and the value equals it. -/
theorem mem_of_choice (h : choice choices v = .ok c) : c ∈ choices ∧ v.strictEq c = true := by
  rw [choice] at h
  split at h
  · rename_i c' hc
    injection h with h
    subst h
    exact ⟨List.mem_of_find?_eq_some hc, List.find?_some hc⟩
  · cases h

/-- Where no choice is offered twice, each is the choice for itself. -/
theorem choice_self (hapart : choices.Pairwise Apart) (hc : c ∈ choices)
    (hkeys : c.DistinctKeys) (hnan : c.isNaN = false) : choice choices c = .ok c := by
  obtain ⟨front, back, rfl⟩ := List.append_of_mem hc
  have hfront : ∀ w ∈ front, Apart w c := fun w hw =>
    (List.pairwise_append.mp hapart).2.2 w hw c List.mem_cons_self
  have hfind : (front ++ c :: back).find? (c.strictEq ·) = some c := by
    rw [List.find?_eq_some_iff_append]
    refine ⟨Value.strictEq_refl hkeys hnan, front, back, rfl, fun w hw => ?_⟩
    rw [hfront w hw, Bool.not_false]
  rw [choice, hfind]

theorem choice_nan (choices : List Value) :
    choice choices (.float (.nan 0)) = .error (.notOffered choices) := by
  have hnone : choices.find? ((Value.float (.nan 0)).strictEq ·) = none := by
    rw [List.find?_eq_none]
    intro c _ h
    exact absurd (Value.strictEq_iff.mp h).2.1 (by simp [Value.isNaN])
  rw [choice, hnone]

/-- Choices are made one by one, and no two of them are equal. -/
theorem choicesFrom_eq_ok_iff {selected vs cs : List Value} (hselected : selected.Pairwise Apart) :
    choicesFrom choices selected vs = .ok cs ↔
      ∃ more, vs.mapM (choice choices) = .ok more ∧ cs = selected ++ more ∧ cs.Pairwise Apart := by
  induction vs generalizing selected with
  | nil =>
    have hnil : ([] : List Value).mapM (choice choices) = .ok [] := rfl
    rw [choicesFrom, hnil]
    constructor
    · intro h
      injection h with h
      exact ⟨[], rfl, by rw [List.append_nil, h], h ▸ hselected⟩
    · rintro ⟨more, hmore, rfl, -⟩
      injection hmore with hmore
      rw [← hmore, List.append_nil]
  | cons v vs ih =>
    simp only [choicesFrom, List.mapM_cons, bind_eq_ok_iff]
    constructor
    · rintro ⟨c, hc, h⟩
      split at h
      · cases h
      · rename_i hamong
        have hc' : ∀ w ∈ selected, Apart w c := isAmong_eq_false_iff.mp (by simpa using hamong)
        have hmore : (selected ++ [c]).Pairwise Apart := by
          simpa [List.pairwise_append] using ⟨hselected, hc'⟩
        obtain ⟨more, hvs, rfl, hcs⟩ := (ih hmore).mp h
        exact ⟨c :: more, ⟨c, hc, more, hvs, rfl⟩, (List.append_cons ..).symm, hcs⟩
    · rintro ⟨more, ⟨c, hc, more', hvs, hmore⟩, rfl, hcs⟩
      injection hmore with hmore
      subst hmore
      have hcons : selected ++ c :: more' = selected ++ [c] ++ more' := List.append_cons ..
      have hsel : (selected ++ [c]).Pairwise Apart :=
        (hcons ▸ hcs).sublist (List.sublist_append_left ..)
      have hamong : c.isAmong selected = false := by
        refine isAmong_eq_false_iff.mpr fun w hw => ?_
        exact (List.pairwise_append.mp hsel).2.2 w hw c List.mem_cons_self
      refine ⟨c, hc, ?_⟩
      rw [if_neg (by simp [hamong])]
      exact (ih hsel).mpr ⟨more', hvs, hcons, hcs⟩

theorem selection_eq_ok_iff {cs : List Value} :
    selection choices v = .ok cs ↔
      ∃ vs, v.items? = some vs ∧ vs.mapM (choice choices) = .ok cs ∧ cs.Pairwise Apart := by
  rw [selection]
  cases hv : v.items? with
  | none => simp
  | some vs => simp [choicesFrom_eq_ok_iff List.Pairwise.nil]

/-! ## Numbers, texts, dates -/

theorem number_eq_ok_iff {n : Number} : number v = .ok n ↔ v.toNumber? = some n := by
  rw [number]
  cases v.toNumber? <;> simp

theorem text_eq_ok_iff {formats : List TextFormat} {s : String} :
    text formats v = .ok s ↔
      v = .text s ∧ ∀ format ∈ formats, format.accepts s = true := by
  cases v
  case text t =>
    rw [text]
    cases hfind : formats.find? fun format => !format.accepts t with
    | none =>
      simp only [Except.ok.injEq, Value.text.injEq]
      rw [List.find?_eq_none] at hfind
      constructor
      · rintro rfl
        exact ⟨rfl, fun format hformat => by simpa using hfind format hformat⟩
      · exact And.left
    | some format =>
      have hmem := List.mem_of_find?_eq_some hfind
      have hrefused := List.find?_some hfind
      refine iff_of_false (by cases format <;> simp) ?_
      rintro ⟨hts, hall⟩
      injection hts with hts
      subst hts
      rw [hall format hmem] at hrefused
      cases hrefused
  all_goals simp [text]

/-- The date that a value names, if any. -/
def dateOf? (today : Date) : Value → Except DateText.Overlong (Option Value)
  | .date d => .ok (some (.date d))
  | .dateTime t => .ok (some (.dateTime t))
  | .text s => (DateText.read today (Text.trim s)).map (·.map .dateTime)
  | v => .ok ((v.number?.bind DateTime.ofEpochMilliseconds?).map .dateTime)

theorem date_eq (today : Date) (v : Value) :
    date today v =
      (dateOf? today v).map fun found => found.elim (.error (.notDate v.kindName)) .ok := by
  cases v
  case text s =>
    rw [date, dateOf?]
    rcases DateText.read today (Text.trim s) with _ | _ | _ <;> rfl
  case date d => rfl
  case dateTime t => rfl
  all_goals
    simp only [date, dateOf?, Except.map, pure, Except.pure, bind, Except.bind]
    generalize Option.map Value.dateTime _ = found
    cases found <;> rfl

theorem dateOf?_cases (h : dateOf? today v = .ok (some w)) :
    (∃ d, w = .date d) ∨ ∃ t, w = .dateTime t := by
  have htime : ∀ {x : Option DateTime}, x.map Value.dateTime = some w → ∃ t, w = .dateTime t := by
    intro x hx
    obtain ⟨t, -, rfl⟩ := Option.map_eq_some_iff.mp hx
    exact ⟨t, rfl⟩
  cases v
  all_goals simp only [dateOf?, Except.ok.injEq, Option.some.injEq, map_eq_ok_iff] at h
  case date d => exact Or.inl ⟨d, h.symm⟩
  case dateTime t => exact Or.inr ⟨t, h.symm⟩
  case text s =>
    obtain ⟨x, -, hx⟩ := h
    exact Or.inr (htime hx)
  all_goals exact Or.inr (htime h)

/-- A date that is kept has a time of day or has none. -/
theorem date_cases (h : date today v = .ok (.ok w)) :
    (∃ d, w = .date d) ∨ ∃ t, w = .dateTime t := by
  rw [date_eq] at h
  obtain ⟨found, hfound, h⟩ := map_eq_ok_iff.mp h
  cases found with
  | none => cases h
  | some u =>
    injection h with h
    subst h
    exact dateOf?_cases hfound

/-- Only a text can be impossible to tell as a date. -/
theorem exists_date_iff :
    (∃ r, date today v = .ok r) ↔
      ∀ s, v = .text s → ∃ r, DateText.read today (Text.trim s) = .ok r := by
  simp only [date_eq, map_eq_ok_iff]
  cases v
  case text s =>
    simp only [Value.text.injEq, forall_eq', dateOf?, map_eq_ok_iff]
    simp
  all_goals simp [dateOf?]

/-! ## What a violation shows -/

variable {e : Violation}

theorem eq_of_choice_error (h : choice choices v = .error e) : e = .notOffered choices := by
  rw [choice] at h
  split at h
  · cases h
  · exact (Except.error.inj h).symm

theorem mem_of_choicesFrom_error {selected vs : List Value}
    (h : choicesFrom choices selected vs = .error e) : ∀ c ∈ e.shown, c ∈ choices := by
  induction vs generalizing selected with
  | nil => cases h
  | cons v vs ih =>
    rw [choicesFrom] at h
    rcases bind_eq_error_iff.mp h with hchoice | ⟨c, hchoice, h⟩
    · rw [eq_of_choice_error hchoice]
      exact fun c hc => hc
    · split at h
      · rw [← Except.error.inj h]
        exact List.forall_mem_singleton.mpr (mem_of_choice hchoice).1
      · exact ih h

/-- What a refusal for something that is no choice shows are the choices. -/
theorem eq_of_choicesFrom_notOffered {selected vs cs : List Value}
    (h : choicesFrom choices selected vs = .error (.notOffered cs)) : cs = choices := by
  induction vs generalizing selected with
  | nil => cases h
  | cons v vs ih =>
    rw [choicesFrom] at h
    rcases bind_eq_error_iff.mp h with hchoice | ⟨c, -, h⟩
    · exact Violation.notOffered.inj (eq_of_choice_error hchoice)
    · split at h
      · cases h
      · exact ih h

theorem shown_text {formats : List TextFormat} (h : text formats v = .error e) : e.shown = [] := by
  unfold text at h
  split at h
  · split at h
    all_goals
      cases h
      try rfl
  · cases h
    rfl

theorem shown_number (h : number v = .error e) : e.shown = [] := by
  unfold number at h
  split at h
  all_goals cases h
  rfl

theorem shown_flag (h : flag v = .error e) : e.shown = [] := by
  unfold flag at h
  split at h
  all_goals cases h
  rfl

theorem shown_date (h : date today v = .ok (.error e)) : e.shown = [] := by
  rw [date_eq] at h
  obtain ⟨found, -, h⟩ := map_eq_ok_iff.mp h
  cases found with
  | none => exact Except.error.inj h ▸ rfl
  | some w => cases h

end Entry

theorem Bounds.shown_check {b : Bounds} {n : Number} {e : Violation} (h : b.check n = .error e) :
    e.shown = [] := by
  unfold Bounds.check at h
  split at h
  all_goals cases h
  all_goals rfl

theorem Value.toNumber?_ofNumber (n : Number) : (Value.ofNumber n).toNumber? = some n := by
  cases n <;> rfl

/-- A number is within the bounds, by value. -/
def Bounds.Allows (b : Bounds) (n : Number) : Prop :=
  (∀ least, b.least = some least → (Number.whole least).scaled ≤ n.scaled) ∧
  ∀ greatest, b.greatest = some greatest → n.scaled ≤ (Number.whole greatest).scaled

theorem Bounds.check_eq_ok_iff {b : Bounds} {n : Number} : b.check n = .ok () ↔ b.Allows n := by
  obtain ⟨least, greatest⟩ := b
  rw [Bounds.check, Bounds.Allows]
  have hleast : (least.filter fun l => n.lt (.whole l)) = none ↔
      ∀ l, least = some l → (Number.whole l).scaled ≤ n.scaled := by
    cases least <;> simp [Option.filter, Number.lt]
  have hgreatest : (greatest.filter fun g => Number.lt (.whole g) n) = none ↔
      ∀ g, greatest = some g → n.scaled ≤ (Number.whole g).scaled := by
    cases greatest <;> simp [Option.filter, Number.lt]
  rw [← hleast, ← hgreatest]
  split
  · rename_i l _ hl
    simp [hl]
  · rename_i g hl hg
    simp [hl, hg]
  · rename_i hl hg
    simp [hl, hg]

/-! ## Values that are kept -/

namespace Content

/-- The choices that are offered, where only they are taken. -/
def offered : Content → List Value
  | choice choices | selection choices => choices
  | _ => []

/-- The values that are kept of what is entered. -/
inductive Keeps (required : Bool) : Content → Value → Prop
  | text {formats : List TextFormat} {s : String} (hblank : Text.isBlankText s = false)
      (hformats : ∀ format ∈ formats, format.accepts s = true) :
      Keeps required (.text formats) (.text s)
  | number {bounds : Bounds} {n : Number} (hbounds : bounds.Allows n) :
      Keeps required (.number bounds) (Value.ofNumber n)
  | date (d : Date) : Keeps required .date (.date d)
  | dateTime (t : DateTime) : Keeps required .date (.dateTime t)
  /-- A choice that could be entered. -/
  | choice {choices : List Value} {c : Value} (hc : c ∈ choices) (hnan : c.isNaN = false)
      (hsome : (Content.choice choices).isNothing c = false) (hmark : c ≠ .missing) :
      Keeps required (.choice choices) c
  | selection {choices cs : List Value} (hcs : ∀ c ∈ cs, c ∈ choices ∧ c.isNaN = false)
      (hapart : cs.Pairwise Apart) (hsome : required = true → cs ≠ []) :
      Keeps required (.selection choices) (.list cs)
  | flag (b : Bool) : Keeps required .flag (.bool b)

variable {content : Content}

theorem readNumber_eq_ok_iff {bounds : Bounds} :
    readNumber bounds v = .ok w ↔
      ∃ n, v.toNumber? = some n ∧ bounds.Allows n ∧ w = Value.ofNumber n := by
  rw [readNumber]
  simp only [bind_eq_ok_iff, Entry.number_eq_ok_iff, ← Bounds.check_eq_ok_iff]
  constructor
  · rintro ⟨n, hn, ⟨⟩, hbounds, h⟩
    injection h with h
    exact ⟨n, hn, hbounds, h.symm⟩
  · rintro ⟨n, hn, hbounds, rfl⟩
    exact ⟨n, hn, (), hbounds, rfl⟩

theorem readSelection_eq_ok_iff :
    readSelection required choices v = .ok w ↔
      ∃ cs, Entry.selection choices v = .ok cs ∧ (required = true → cs ≠ []) ∧ w = .list cs := by
  rw [readSelection]
  simp only [bind_eq_ok_iff]
  refine exists_congr fun cs => and_congr_right fun _ => ?_
  cases required <;> cases cs <;> simp [eq_comm]

/-- Only a date can be impossible to tell. -/
theorem exists_read_iff :
    (∃ r, content.read today required v = .ok r) ↔
      ∀ s, content = .date → v = .text s →
        ∃ r, DateText.read today (Text.trim s) = .ok r := by
  cases content
  case date =>
    rw [read, Entry.exists_date_iff]
    simp
  all_goals simp [read]

theorem ofNumber_isSome (bounds : Bounds) (n : Number) :
    (number bounds).isNothing (Value.ofNumber n) = false ∧ Value.ofNumber n ≠ .missing := by
  cases n <;> exact ⟨rfl, nofun⟩

/-- Something that is no text equals none of the choices that are offered. -/
theorem exists_unmatched (hc : c ∈ content.offered) :
    ∃ v, (∀ s, v ≠ .text s) ∧ v ≠ .missing ∧ content.isNothing v = false ∧
      ∀ today required, content.read today required v =
        .ok (.error (.notOffered content.offered)) := by
  cases content with
  | choice choices =>
    exact ⟨.float (.nan 0), nofun, nofun, rfl, fun _ _ => congrArg _ (Entry.choice_nan choices)⟩
  | selection choices =>
    refine ⟨.list [.float (.nan 0)], nofun, nofun, rfl, fun today required => ?_⟩
    rw [read, readSelection, Entry.selection]
    simp only [Value.items?, Entry.choicesFrom, Entry.choice_nan]
    rfl
  | text | number | date | flag => cases hc

/-- What strictly equals something that is there is there itself. -/
theorem isSome_of_strictEq (hsome : (choice choices).isNothing v = false) (hmark : v ≠ .missing)
    (h : v.strictEq c = true) : (choice choices).isNothing c = false ∧ c ≠ .missing := by
  have heqv := (Value.strictEq_iff.mp h).2.2
  cases c
  case text s =>
    rw [Value.scalar?_eq_text_iff.mp (Value.scalar?_of_eqv rfl heqv)] at hsome
    exact ⟨hsome, nofun⟩
  case null =>
    rw [Value.scalar?_eq_null_iff.mp (Value.scalar?_of_eqv rfl heqv)] at hsome
    cases hsome
  case missing =>
    exact absurd (Value.scalar?_eq_missing_iff.mp (Value.scalar?_of_eqv rfl heqv)) hmark
  all_goals exact ⟨rfl, nofun⟩

/-- What is read of something that is there is kept. -/
theorem keeps_of_read (hsome : content.isNothing v = false) (hmark : v ≠ .missing)
    (h : content.read today required v = .ok (.ok w)) : content.Keeps required w := by
  cases content with
  | text formats =>
    injection h with h
    obtain ⟨s, hs, rfl⟩ := map_eq_ok_iff.mp h
    obtain ⟨rfl, hformats⟩ := Entry.text_eq_ok_iff.mp hs
    exact .text hsome hformats
  | number bounds =>
    injection h with h
    obtain ⟨n, -, hbounds, rfl⟩ := readNumber_eq_ok_iff.mp h
    exact .number hbounds
  | date =>
    rcases Entry.date_cases h with ⟨d, rfl⟩ | ⟨t, rfl⟩
    · exact .date d
    · exact .dateTime t
  | choice choices =>
    injection h with h
    obtain ⟨hc, heq⟩ := Entry.mem_of_choice h
    obtain ⟨hsome, hmark⟩ := isSome_of_strictEq hsome hmark heq
    exact .choice hc (Value.isNaN_of_strictEq heq) hsome hmark
  | selection choices =>
    injection h with h
    obtain ⟨cs, hcs, hnonempty, rfl⟩ := readSelection_eq_ok_iff.mp h
    obtain ⟨vs, -, hvs, hapart⟩ := Entry.selection_eq_ok_iff.mp hcs
    refine .selection (fun c hc => ?_) hapart hnonempty
    obtain ⟨u, -, hu⟩ := exists_of_mem_mapM hvs hc
    obtain ⟨hc, heq⟩ := Entry.mem_of_choice hu
    exact ⟨hc, Value.isNaN_of_strictEq heq⟩
  | flag =>
    injection h with h
    obtain ⟨b, -, rfl⟩ := map_eq_ok_iff.mp h
    exact .flag b

/-- Of the choices that are offered, and of no other value, a violation tells the text. -/
theorem shown_offered {e : Violation} (h : content.read today required v = .ok (.error e)) :
    ∀ c ∈ e.shown, c ∈ content.offered := by
  have hnone : e.shown = [] → ∀ c ∈ e.shown, c ∈ content.offered := fun hnil c hc => by
    rw [hnil] at hc
    cases hc
  cases content with
  | text formats => exact hnone (Entry.shown_text (map_eq_error_iff.mp (Except.ok.inj h)))
  | number bounds =>
    refine hnone ?_
    rcases bind_eq_error_iff.mp (Except.ok.inj h) with h | ⟨n, -, h⟩
    · exact Entry.shown_number h
    · rcases bind_eq_error_iff.mp h with h | ⟨_, -, h⟩
      · exact Bounds.shown_check h
      · cases h
  | date => exact hnone (Entry.shown_date h)
  | choice choices =>
    rw [Entry.eq_of_choice_error (Except.ok.inj h)]
    exact fun c hc => hc
  | selection choices =>
    rcases bind_eq_error_iff.mp (Except.ok.inj h) with h | ⟨cs, -, h⟩
    · unfold Entry.selection at h
      split at h
      · exact Entry.mem_of_choicesFrom_error h
      · exact hnone (Except.error.inj h ▸ rfl)
    · refine hnone ?_
      split at h
      · exact Except.error.inj h ▸ rfl
      · cases h
  | flag => exact hnone (Entry.shown_flag (map_eq_error_iff.mp (Except.ok.inj h)))

theorem eq_offered_of_read {cs : List Value}
    (h : content.read today required v = .ok (.error (.notOffered cs))) : cs = content.offered := by
  have hshown : ∀ w ∈ cs, w ∈ content.offered := shown_offered h
  cases content with
  | text | number | date | flag =>
    exact List.eq_nil_iff_forall_not_mem.mpr fun w hw => List.not_mem_nil (hshown w hw)
  | choice choices =>
    exact Violation.notOffered.inj (Entry.eq_of_choice_error (Except.ok.inj h))
  | selection choices =>
    rcases bind_eq_error_iff.mp (Except.ok.inj h) with h | ⟨_, -, h⟩
    · unfold Entry.selection at h
      split at h
      · exact Entry.eq_of_choicesFrom_notOffered h
      · cases h
    · split at h <;> cases h

/-- A value that is kept is there. -/
theorem Keeps.isSome (h : content.Keeps required w) :
    content.isNothing w = false ∧ w ≠ .missing := by
  cases h with
  | text hblank _ => exact ⟨hblank, nofun⟩
  | number _ => exact ofNumber_isSome _ _
  | date d => exact ⟨rfl, nofun⟩
  | dateTime t => exact ⟨rfl, nofun⟩
  | choice _ _ hsome hmark => exact ⟨hsome, hmark⟩
  | selection _ _ _ => exact ⟨rfl, nofun⟩
  | flag b => exact ⟨rfl, nofun⟩

/-- A value that is kept is read as itself. -/
theorem Keeps.read (h : content.Keeps required w) (hapart : content.offered.Pairwise Apart)
    (hkeys : ∀ c ∈ content.offered, c.DistinctKeys) :
    content.read today required w = .ok (.ok w) := by
  cases h with
  | text _ hformats =>
    rw [Content.read, Entry.text_eq_ok_iff.mpr ⟨rfl, hformats⟩]
    rfl
  | number hbounds =>
    rw [Content.read,
      readNumber_eq_ok_iff.mpr ⟨_, Value.toNumber?_ofNumber _, hbounds, rfl⟩]
  | date d => rfl
  | dateTime t => rfl
  | choice hc hnan _ _ =>
    have hself := Entry.choice_self hapart hc (hkeys _ hc) hnan
    exact congrArg Except.ok hself
  | @selection choices cs hcs hcsapart hsome =>
    have hself : cs.mapM (Entry.choice choices) = .ok cs := by
      rw [mapM_eq_ok_iff, List.forall₂_same]
      exact fun c hc => Entry.choice_self hapart (hcs c hc).1 (hkeys c (hcs c hc).1) (hcs c hc).2
    have hselection : Entry.selection choices (.list cs) = .ok cs :=
      Entry.selection_eq_ok_iff.mpr ⟨cs, rfl, hself, hcsapart⟩
    rw [Content.read, readSelection_eq_ok_iff.mpr ⟨cs, hselection, hsome, rfl⟩]
  | flag b => rfl

end Content

/-! ## What items make of entries -/

namespace Item

/-- What an item makes of an entry, if that can be told. -/
inductive Makes (today : Date) (item : Item) :
    Option Value → Except Violation (Option Value) → Prop
  | fallback {entered : Option Value} {w : Value} (habsent : entered.getD .missing = .missing)
      (hw : item.field.fallback = some w) (hmark : w ≠ .missing) :
      Makes today item entered (.ok (some w))
  /-- A default value that is the mark for no value keeps nothing. -/
  | mark {entered : Option Value} (habsent : entered.getD .missing = .missing)
      (hw : item.field.fallback = some .missing) : Makes today item entered (.ok none)
  | absent {entered : Option Value} (habsent : entered.getD .missing = .missing)
      (hnone : item.field.fallback = none) : Makes today item entered item.acceptNothing
  | nothing {v : Value} (hmark : v ≠ .missing) (hnothing : item.content.isNothing v = true) :
      Makes today item (some v) item.acceptNothing
  | read {v : Value} {r : Except Violation Value} (hmark : v ≠ .missing)
      (hsome : item.content.isNothing v = false)
      (hread : item.content.read today item.field.required v = .ok r) :
      Makes today item (some v) (r.map some)

variable {item : Item} {entered : Option Value} {r : Except Violation (Option Value)}

theorem exists_of_not_absent (h : entered.getD .missing ≠ .missing) :
    ∃ v, entered = some v := by
  cases entered with
  | none => exact absurd rfl h
  | some v => exact ⟨v, rfl⟩

/-! ### Judgement -/

theorem judge_of_absent (habsent : entered.getD .missing = .missing) :
    item.judge today entered =
      match item.field.fallback with
      | some .missing => .ok (.ok none)
      | some w => .ok (.ok (some w))
      | none => .ok item.acceptNothing := by
  unfold judge
  generalize entered.getD .missing = e at habsent
  subst habsent
  rfl

theorem judge_of_entered (hmark : v ≠ .missing) :
    item.judge today (some v) =
      if item.content.isNothing v then .ok item.acceptNothing
      else (item.content.read today item.field.required v).map (·.map some) := by
  rw [judge, Option.getD_some]
  split
  · exact absurd rfl hmark
  · rfl

/-- A text that is there is read in the formats that are expected. -/
theorem judge_text {formats : List TextFormat} {s : String}
    (hcontent : item.content = .text formats) (hblank : Text.isBlankText s = false) :
    item.judge today (some (.text s)) =
      .ok ((Entry.text formats (.text s)).map fun t => some (.text t)) := by
  have hsome : (Content.text formats).isNothing (.text s) = false := hblank
  rw [judge_of_entered (by simp), hcontent, hsome, if_neg Bool.false_ne_true, Content.read]
  cases Entry.text formats (.text s) <;> rfl

/-- What an item keeps it takes for itself. -/
theorem judge_of_keeps (h : item.content.Keeps item.field.required w)
    (hapart : item.content.offered.Pairwise Apart)
    (hkeys : ∀ c ∈ item.content.offered, c.DistinctKeys) :
    item.judge today (some w) = .ok (.ok (some w)) := by
  obtain ⟨hsome, hmark⟩ := h.isSome
  rw [judge_of_entered hmark, hsome, h.read hapart hkeys]
  rfl

theorem judge_eq_ok_iff : item.judge today entered = .ok r ↔ item.Makes today entered r := by
  constructor
  · intro h
    by_cases habsent : entered.getD .missing = .missing
    · rw [judge_of_absent habsent] at h
      split at h
      all_goals
        rename_i hfallback
        injection h with h
        subst h
      · exact .mark habsent hfallback
      · rename_i hmark
        exact .fallback habsent hfallback hmark
      · exact .absent habsent hfallback
    · obtain ⟨v, rfl⟩ := exists_of_not_absent habsent
      have hmark : v ≠ .missing := habsent
      rw [judge_of_entered hmark] at h
      split at h
      · rename_i hnothing
        injection h with h
        subst h
        exact .nothing hmark hnothing
      · rename_i hsome
        obtain ⟨r, hread, rfl⟩ := map_eq_ok_iff.mp h
        exact .read hmark (by simpa using hsome) hread
  · intro h
    cases h with
    | fallback habsent hw hmark =>
      rw [judge_of_absent habsent, hw]
      split
      · rename_i heq
        injection heq with heq
        exact absurd heq hmark
      · rename_i heq
        injection heq with heq
        rw [heq]
      · rename_i heq
        cases heq
    | mark habsent hw => rw [judge_of_absent habsent, hw]
    | absent habsent hnone => rw [judge_of_absent habsent, hnone]
    | nothing hmark hnothing => rw [judge_of_entered hmark, if_pos hnothing]
    | read hmark hsome hread =>
      rw [judge_of_entered hmark, if_neg (by simp [hsome]), hread]
      rfl

/-! ### Acceptance -/

/-- An item accepts or refuses as it judges, but the choices that a refusal tells must be short. -/
theorem accept_eq_ok_iff_judge :
    item.accept today entered = .ok r ↔ item.judge today entered = .ok r ∧
      ∀ choices, r = .error (.notOffered choices) →
        (Violation.notOffered choices).canBeTold = true := by
  rw [accept]
  cases item.judge today entered with
  | error e => exact iff_of_false nofun fun h => nomatch h.1
  | ok r' =>
    simp only [mapError_ok, bind, Except.bind]
    split
    · rename_i choices
      by_cases htold : (Violation.notOffered choices).canBeTold = true
      · rw [if_pos htold, Except.ok.injEq, Except.ok.injEq]
        refine (and_iff_left_of_imp fun hr choices' hr' => ?_).symm
        rw [← hr] at hr'
        cases hr'
        exact htold
      · rw [if_neg htold]
        refine iff_of_false nofun fun h => htold (h.2 choices ?_)
        exact (Except.ok.inj h.1).symm
    · rename_i hoffered
      rw [Except.ok.injEq, Except.ok.injEq]
      refine (and_iff_left_of_imp fun hr choices hr' => ?_).symm
      exact absurd (hr.trans hr') (hoffered choices)

theorem accept_eq_ok_iff : item.accept today entered = .ok r ↔ item.Makes today entered r ∧
    ∀ choices, r = .error (.notOffered choices) →
      (Violation.notOffered choices).canBeTold = true := by
  rw [accept_eq_ok_iff_judge, judge_eq_ok_iff]

theorem accept_of_judge (h : item.judge today entered = .ok r)
    (hr : ∀ choices, r ≠ .error (.notOffered choices)) : item.accept today entered = .ok r :=
  accept_eq_ok_iff_judge.mpr ⟨h, fun choices heq => absurd heq (hr choices)⟩

/-- What cannot be judged is neither accepted nor refused. -/
theorem accept_of_overlong (h : item.judge today entered = .error ⟨⟩) :
    item.accept today entered = .error .overlong := by
  rw [accept, h]
  rfl

/-- A refusal that would have to tell a long choice is none. -/
theorem accept_eq_longInteger_iff :
    item.accept today entered = .error .longInteger ↔
      ∃ choices, item.judge today entered = .ok (.error (.notOffered choices)) ∧
        ∃ c ∈ choices, ¬ c.Short := by
  have hlong : ∀ choices, (Violation.notOffered choices).canBeTold ≠ true ↔
      ∃ c ∈ choices, ¬ c.Short := by
    simp [canBeTold_iff, Violation.shown]
  simp only [← hlong]
  rw [accept]
  cases item.judge today entered with
  | error e => exact iff_of_false nofun nofun
  | ok r =>
    simp only [mapError_ok, bind, Except.bind, Except.ok.injEq]
    split
    · rename_i choices
      simp only [Except.error.injEq, Violation.notOffered.injEq, exists_eq_left']
      split
      · rename_i htold
        exact iff_of_false nofun fun h => h htold
      · rename_i hlong
        exact iff_of_true rfl hlong
    · rename_i hoffered
      exact iff_of_false nofun fun ⟨choices, hr, _⟩ => hoffered choices hr

/-- A violation is that there is nothing, or comes of reading something. -/
theorem Makes.absent_or_read (h : Makes today item entered r) {e : Violation} (hr : r = .error e) :
    e = .absent ∨ ∃ v, item.content.read today item.field.required v = .ok (.error e) := by
  have hnothing : item.acceptNothing = .error e → e = .absent := by
    intro hnothing
    rw [acceptNothing] at hnothing
    split at hnothing
    · exact (Except.error.inj hnothing).symm
    · cases hnothing
  cases h with
  | fallback _ _ _ => cases hr
  | mark _ _ => cases hr
  | absent _ _ => exact Or.inl (hnothing hr)
  | nothing _ _ => exact Or.inl (hnothing hr)
  | @read v _ _ _ hread =>
    rw [map_eq_error_iff.mp hr] at hread
    exact Or.inr ⟨v, hread⟩

/-- What is none of the choices is refused with all that are offered. -/
theorem Makes.eq_offered (h : Makes today item entered r) {choices : List Value}
    (hr : r = .error (.notOffered choices)) : choices = item.content.offered := by
  rcases h.absent_or_read hr with habsent | ⟨v, hread⟩
  · cases habsent
  · exact Content.eq_offered_of_read hread

/-- Something is refused for being none of the choices, and one of these is too long to be
written. -/
def Untellable (choices : List Value) (r : Except Violation (Option Value)) : Prop :=
  (∃ e, r = .error e ∧ e.reason.code = "invalid_option") ∧ ∃ c ∈ choices, ¬ c.Short

/-- An item accepts or refuses as it judges, unless the refusal cannot be told. -/
theorem accept_of_judge_eq (h : item.judge today entered = .ok r) :
    (item.accept today entered = .ok r ∧ ¬ Untellable item.content.offered r) ∨
      (item.accept today entered = .error .longInteger ∧
        Untellable item.content.offered r) := by
  have hcode : ∀ e : Violation, e.reason.code = "invalid_option" ↔ ∃ cs, e = .notOffered cs := by
    intro e
    cases e <;> simp [Violation.reason, Reason.code]
  have hoffered : ∀ choices, r = .error (.notOffered choices) → choices = item.content.offered :=
    fun _ => (judge_eq_ok_iff.mp h).eq_offered
  by_cases hlong : Untellable item.content.offered r
  · refine Or.inr ⟨?_, hlong⟩
    obtain ⟨⟨e, rfl, he⟩, hc⟩ := hlong
    obtain ⟨choices, rfl⟩ := (hcode e).mp he
    rw [accept_eq_longInteger_iff]
    exact ⟨choices, h, hoffered choices rfl ▸ hc⟩
  · refine Or.inl ⟨accept_eq_ok_iff_judge.mpr ⟨h, ?_⟩, hlong⟩
    rintro choices rfl
    rw [canBeTold_iff]
    intro c hc
    by_contra hlongc
    exact hlong ⟨⟨_, rfl, rfl⟩, c, hoffered choices rfl ▸ hc, hlongc⟩

/-- What is kept is kept as it was judged. -/
theorem accept_eq_kept_iff {o : Option Value} :
    item.accept today entered = .ok (.ok o) ↔ item.judge today entered = .ok (.ok o) :=
  ⟨fun h => (accept_eq_ok_iff_judge.mp h).1, fun h => accept_of_judge h nofun⟩

theorem makes_of_accept (h : item.accept today entered = .ok r) : item.Makes today entered r :=
  (accept_eq_ok_iff.mp h).1

/-- What an item keeps it accepts. -/
theorem accept_of_keeps (h : item.content.Keeps item.field.required w)
    (hapart : item.content.offered.Pairwise Apart)
    (hkeys : ∀ c ∈ item.content.offered, c.DistinctKeys) :
    item.accept today (some w) = .ok (.ok (some w)) :=
  accept_eq_kept_iff.mpr (judge_of_keeps h hapart hkeys)

/-- There is something entered that is not the mark for no value. -/
def Entered (entered : Option Value) : Prop := ∃ v, entered = some v ∧ v ≠ .missing

theorem not_entered (habsent : entered.getD .missing = .missing) : ¬ Entered entered := by
  rintro ⟨v, rfl, hmark⟩
  exact hmark habsent

/-- Nothing is accepted where it does not have to be something, and a flag is then not set. -/
theorem acceptNothing_eq_ok_iff {o : Option Value} :
    item.acceptNothing = .ok o ↔ item.field.required = false ∧ item.content.ifAbsent = o := by
  rw [acceptNothing]
  cases item.field.required <;> simp

theorem keeps_of_acceptNothing (h : item.acceptNothing = .ok (some w)) :
    item.content.Keeps item.field.required w := by
  obtain ⟨-, habsent⟩ := acceptNothing_eq_ok_iff.mp h
  cases hcontent : item.content
  case flag =>
    rw [hcontent] at habsent
    injection habsent with habsent
    rw [← habsent]
    exact .flag false
  all_goals
    rw [hcontent] at habsent
    cases habsent

/-- A value that is not the default value is kept by what the item expects. -/
theorem Makes.keeps (h : Makes today item entered r) (hr : r = .ok (some w))
    (hown : item.field.fallback = none ∨ Entered entered) :
    item.content.Keeps item.field.required w := by
  cases h with
  | fallback habsent hw _ =>
    rcases hown with hnone | hentered
    · rw [hnone] at hw
      cases hw
    · exact absurd hentered (not_entered habsent)
  | mark _ _ => cases hr
  | absent _ _ => exact keeps_of_acceptNothing hr
  | nothing _ _ => exact keeps_of_acceptNothing hr
  | read hmark hsome hread =>
    obtain ⟨w', rfl, hw⟩ := map_eq_ok_iff.mp hr
    injection hw with hw
    subst hw
    exact Content.keeps_of_read hsome hmark hread

/-- An item that is required keeps a value, unless its default value is the mark for none. -/
theorem Makes.exists_of_required {o : Option Value} (h : Makes today item entered r)
    (hr : r = .ok o) (hrequired : item.field.required = true)
    (hmark : item.field.fallback ≠ some .missing) : ∃ w, o = some w := by
  have hnothing : item.acceptNothing = .error .absent := by
    rw [acceptNothing, if_pos hrequired]
  cases h with
  | fallback _ _ _ =>
    injection hr with hr
    exact ⟨_, hr.symm⟩
  | mark _ hw => exact absurd hw hmark
  | absent _ _ =>
    rw [hnothing] at hr
    cases hr
  | nothing _ _ =>
    rw [hnothing] at hr
    cases hr
  | read _ _ _ =>
    obtain ⟨w, -, hw⟩ := map_eq_ok_iff.mp hr
    exact ⟨w, hw.symm⟩

/-- Without a default value nothing is kept only where nothing has to be. -/
theorem Makes.acceptNothing_eq (h : Makes today item entered r) (hr : r = .ok none)
    (hfallback : item.field.fallback = none) : item.acceptNothing = .ok none := by
  cases h with
  | fallback _ hw _ =>
    rw [hfallback] at hw
    cases hw
  | mark _ hw =>
    rw [hfallback] at hw
    cases hw
  | absent _ _ => exact hr
  | nothing _ _ => exact hr
  | read _ _ _ =>
    obtain ⟨w, -, hw⟩ := map_eq_ok_iff.mp hr
    cases hw

/-- Only the text of a date can be impossible to judge. -/
theorem exists_judge_iff :
    (∃ r, item.judge today entered = .ok r) ↔
      ∀ s, item.content = .date → entered = some (.text s) → Text.isBlankText s = false →
        ∃ r, DateText.read today (Text.trim s) = .ok r := by
  by_cases habsent : entered.getD .missing = .missing
  · refine iff_of_true ?_ fun s _ hs _ => ?_
    · rw [judge_of_absent habsent]
      split <;> exact ⟨_, rfl⟩
    · rw [hs] at habsent
      cases habsent
  · obtain ⟨v, rfl⟩ := exists_of_not_absent habsent
    have hmark : v ≠ .missing := habsent
    rw [judge_of_entered hmark]
    split
    · rename_i hnothing
      refine iff_of_true ⟨_, rfl⟩ fun s hdate hs hblank => ?_
      injection hs with hs
      rw [hs, hdate] at hnothing
      exact absurd hnothing (by simp [Content.isNothing, hblank])
    · rename_i hsome
      have hmap : (∃ r, (item.content.read today item.field.required v).map (·.map some) = .ok r) ↔
          ∃ r, item.content.read today item.field.required v = .ok r := by
        simp [map_eq_ok_iff]
      rw [hmap, Content.exists_read_iff]
      constructor
      · intro h s hdate hs _
        injection hs with hs
        exact h s hdate hs
      · intro h s hdate hs
        refine h s hdate (congrArg some hs) ?_
        rw [hs, hdate] at hsome
        simpa [Content.isNothing] using hsome

/-! ### What can be told -/

/-- An item can tell what it makes of an entry: the text of a date has no number that is too long to
be worked with, and no value that a violation shows is too long to be written. -/
structure Tells (today : Date) (item : Item) (entered : Option Value) : Prop where
  date : ∀ s, item.content = .date → entered = some (.text s) → Text.isBlankText s = false →
    ∃ r, DateText.read today (Text.trim s) = .ok r
  shown : ∀ e, item.Makes today entered (.error e) → ∀ c ∈ e.shown, c.Short

theorem tells_iff :
    item.Tells today entered ↔
      ∃ r, item.judge today entered = .ok r ∧ ∀ e, r = .error e → e.canBeTold = true := by
  constructor
  · intro h
    obtain ⟨r, hr⟩ := exists_judge_iff.mpr h.date
    refine ⟨r, hr, fun e he => canBeTold_iff.mpr (h.shown e ?_)⟩
    exact he ▸ judge_eq_ok_iff.mp hr
  · rintro ⟨r, hr, htold⟩
    refine ⟨exists_judge_iff.mp ⟨r, hr⟩, fun e he => canBeTold_iff.mp (htold e ?_)⟩
    rw [judge_eq_ok_iff.mpr he] at hr
    exact (Except.ok.inj hr).symm

/-- Only choices that are offered are shown. -/
theorem Makes.shown_offered {e : Violation} (h : item.Makes today entered r) (hr : r = .error e) :
    ∀ c ∈ e.shown, c ∈ item.content.offered := by
  rcases h.absent_or_read hr with rfl | ⟨v, hread⟩
  · exact List.forall_mem_nil _
  · exact Content.shown_offered hread

/-- Where all choices that are offered are short, only the text of a date can be a hindrance. -/
theorem tells_iff_of_short (hshort : ∀ c ∈ item.content.offered, c.Short) :
    item.Tells today entered ↔
      ∀ s, item.content = .date → entered = some (.text s) → Text.isBlankText s = false →
        ∃ r, DateText.read today (Text.trim s) = .ok r :=
  ⟨Tells.date, fun h => ⟨h, fun _ he c hc => hshort c (he.shown_offered rfl c hc)⟩⟩

end Item

/-! ## No choice is offered twice -/

theorem choices_apart {form : Form} {f : Field} (hcheck : form.check = .ok ())
    (hf : f ∈ form.fields) (hkind : f.kindName = "select" ∨ f.kindName = "checkbox") :
    f.choices.Pairwise Apart := by
  have hflaw := (Form.check_ok_iff.mp hcheck).1
  obtain ⟨i, hi, hfi⟩ := List.getElem_of_mem hf
  have hfi : form.fields[i]? = some f := by rw [List.getElem?_eq_getElem hi, hfi]
  rw [List.pairwise_iff_getElem]
  intro j k hj hk hjk
  have hcj : f.choices[j]? = some f.choices[j] := List.getElem?_eq_getElem hj
  have hck : f.choices[k]? = some f.choices[k] := List.getElem?_eq_getElem hk
  by_contra hequal
  exact hflaw _ _ (.option hfi hkind hck hjk hcj (by simpa [Apart] using hequal))

/-- What is offered are the choices of the field, and only a select or a checkbox offers them. -/
theorem Content.offered_ofKind (f : Field) (kind : FieldKind) :
    (ofKind f kind).offered = [] ∨
      ((ofKind f kind).offered = f.choices ∧ (kind = .select ∨ kind = .checkbox)) := by
  cases kind with
  | select =>
    refine Or.inr ⟨?_, Or.inl rfl⟩
    rw [ofKind]
    split <;> rfl
  | checkbox =>
    rw [ofKind]
    split
    · exact Or.inr ⟨rfl, Or.inr rfl⟩
    · exact Or.inl rfl
  | text | textarea | number | date => exact Or.inl rfl

/-- A select offers its choices, and so does a checkbox that has more than one. -/
theorem mem_offered_iff {f : Field} {kind : FieldKind} (hkind : f.kind? = some kind) :
    c ∈ (Content.ofKind f kind).offered ↔
      c ∈ f.choices ∧ (f.kindName = "select" ∨ f.kindName = "checkbox" ∧ 1 < f.choices.length) := by
  rw [← kind?_eq_select_iff, ← kind?_eq_checkbox_iff, hkind]
  cases kind with
  | select =>
    rw [Content.ofKind]
    split <;> simp [Content.offered]
  | checkbox =>
    have hgroup : f.isCheckboxGroup = true ↔ 1 < f.choices.length := by
      rw [Field.isCheckboxGroup, kind?_eq_checkbox_iff.mp hkind]
      simp
    rw [Content.ofKind, ← hgroup]
    split <;> simp_all [Content.offered]
  | text | textarea | number | date => simp [Content.ofKind, Content.offered]

theorem offered_apart {form : Form} {f : Field} {kind : FieldKind} (hcheck : form.check = .ok ())
    (hf : f ∈ form.fields) (hkind : f.kind? = some kind) :
    (Content.ofKind f kind).offered.Pairwise Apart := by
  rcases Content.offered_ofKind f kind with hnone | ⟨hchoices, rfl | rfl⟩
  · rw [hnone]
    exact .nil
  · rw [hchoices]
    exact choices_apart hcheck hf (Or.inl (kind?_eq_select_iff.mp hkind))
  · rw [hchoices]
    exact choices_apart hcheck hf (Or.inr (kind?_eq_checkbox_iff.mp hkind))

theorem mem_choices_of_offered {f : Field} {kind : FieldKind}
    (h : c ∈ (Content.ofKind f kind).offered) : c ∈ f.choices := by
  rcases Content.offered_ofKind f kind with hnone | ⟨hchoices, -⟩
  · rw [hnone] at h
    cases h
  · rwa [← hchoices]

end Formwork
