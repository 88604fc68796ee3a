import Formwork.Proofs.Acceptance
import Formwork.Proofs.DecimalText
import Formwork.Proofs.Findings

/-!
# Email addresses

`Email.Matches` is the pattern of an email address, parts around an `@` and a point, and
`Email.Address` says by its characters what an address is: no blanks, a single `@`, something before
it, and a point inside of what is behind it. Both are the same, since the parts of the pattern take
any character but these. The end of the pattern is also found before a last line end, so an address
with a line end behind it is accepted as well. This is the only text that is, besides the addresses
themselves: `accept_email_iff_address`.
-/

namespace Formwork

namespace Email

/-- An address as its characters tell. -/
structure Address (cs : List Char) : Prop where
  no_blank : ∀ c ∈ cs, Text.isBlank c = false
  one_at : cs.count '@' = 1
  /-- There is something before the `@`, and on either side of a point behind it. -/
  parts : ∃ name domain, cs = name ++ '@' :: domain ∧ name ≠ [] ∧
    ∃ front back, domain = front ++ '.' :: back ∧ front ≠ [] ∧ back ≠ []

/-- An address with a line end behind it. -/
def LineEnded (cs : List Char) : Prop := ∃ ds, cs = ds ++ ['\n'] ∧ Address ds

/-- Something without a blank and an `@`. -/
def IsRun (cs : List Char) : Prop := cs ≠ [] ∧ ∀ c ∈ cs, isPart c = true

/-- The pattern of an address: a run, an `@`, a run, a point and a run. -/
def Matches (cs : List Char) : Prop :=
  ∃ name front back, cs = name ++ '@' :: (front ++ '.' :: back) ∧
    IsRun name ∧ IsRun front ∧ IsRun back

variable {c : Char} {cs name domain front back : List Char}

/-! ## Parts -/

theorem isPart_iff : isPart c = true ↔ c ≠ '@' ∧ Text.isBlank c = false := by
  simp [isPart]

theorem isPart_at : isPart '@' = false := rfl

theorem forall_isPart_point :
    (∀ c ∈ front ++ '.' :: back, isPart c = true) ↔
      (∀ c ∈ front, isPart c = true) ∧ ∀ c ∈ back, isPart c = true := by
  have hpoint : isPart '.' = true := rfl
  simp only [List.forall_mem_append, List.forall_mem_cons, hpoint, true_and]

/-- A character inside of a text has something on either side. -/
theorem mem_inside_iff :
    c ∈ (cs.drop 1).dropLast ↔ ∃ front back, cs = front ++ c :: back ∧ front ≠ [] ∧ back ≠ [] := by
  constructor
  · intro hc
    cases cs with
    | nil => cases hc
    | cons d ds =>
      have hc : c ∈ ds.dropLast := hc
      obtain ⟨front, back, hinside⟩ := List.append_of_mem hc
      have hds : ds ≠ [] := List.ne_nil_of_mem (List.dropLast_subset ds hc)
      refine ⟨d :: front, back ++ [ds.getLast hds], ?_, by simp, by simp⟩
      calc d :: ds = d :: (ds.dropLast ++ [ds.getLast hds]) := by
            rw [List.dropLast_append_getLast]
        _ = d :: front ++ c :: (back ++ [ds.getLast hds]) := by
            rw [hinside, List.append_assoc, List.cons_append, List.cons_append]
  · rintro ⟨front, back, rfl, hfront, hback⟩
    obtain ⟨d, front, rfl⟩ := List.exists_cons_of_ne_nil hfront
    rw [List.cons_append, List.drop_one, List.tail_cons,
      List.dropLast_append_of_ne_nil (List.cons_ne_nil _ _), List.dropLast_cons_of_ne_nil hback]
    simp

/-- The first `@` ends the first run. -/
theorem isAddress_iff_matches : isAddress cs = true ↔ Matches cs := by
  constructor
  · intro h
    unfold isAddress at h
    split at h
    · rename_i domain hdrop
      simp only [Bool.and_eq_true, Bool.not_eq_true', List.isEmpty_eq_false_iff, List.all_eq_true,
        List.contains_iff_mem] at h
      obtain ⟨⟨hname, hdomain⟩, hpoint⟩ := h
      obtain ⟨front, back, rfl, hfront, hback⟩ := mem_inside_iff.mp hpoint
      obtain ⟨hfrontParts, hbackParts⟩ := forall_isPart_point.mp hdomain
      refine ⟨cs.takeWhile isPart, front, back, ?_, ⟨hname, ?_⟩, ⟨hfront, hfrontParts⟩,
        ⟨hback, hbackParts⟩⟩
      · rw [← hdrop, List.takeWhile_append_dropWhile]
      · exact fun c hc => List.mem_takeWhile_imp hc
    · cases h
  · rintro ⟨name, front, back, rfl, hname, hfront, hback⟩
    have hdomain := forall_isPart_point.mpr ⟨hfront.2, hback.2⟩
    have hpoint : '.' ∈ ((front ++ '.' :: back).drop 1).dropLast :=
      mem_inside_iff.mpr ⟨front, back, rfl, hfront.1, hback.1⟩
    rw [isAddress, Literal.dropWhile_append_cons hname.2 isPart_at,
      Literal.takeWhile_append_cons hname.2 isPart_at]
    simp only [Bool.and_eq_true, Bool.not_eq_true', List.isEmpty_eq_false_iff, List.all_eq_true,
      List.contains_iff_mem]
    exact ⟨⟨hname.1, hdomain⟩, hpoint⟩

/-! ## Characters of an address -/

/-- A single `@` has none before it and none behind it. -/
theorem count_at_iff :
    (name ++ '@' :: domain).count '@' = 1 ↔ '@' ∉ name ∧ '@' ∉ domain := by
  rw [List.count_append, List.count_cons_self, ← List.count_eq_zero, ← List.count_eq_zero]
  omega

/-- Around an `@` there are only parts exactly if it is the only one and nothing is blank. -/
theorem forall_isPart_iff :
    (∀ c ∈ name, isPart c = true) ∧ (∀ c ∈ domain, isPart c = true) ↔
      (∀ c ∈ name ++ '@' :: domain, Text.isBlank c = false) ∧
        (name ++ '@' :: domain).count '@' = 1 := by
  rw [count_at_iff]
  simp only [isPart_iff, List.forall_mem_append, List.forall_mem_cons]
  constructor
  · rintro ⟨hname, hdomain⟩
    exact ⟨⟨fun c hc => (hname c hc).2, rfl, fun c hc => (hdomain c hc).2⟩,
      fun hat => (hname _ hat).1 rfl, fun hat => (hdomain _ hat).1 rfl⟩
  · rintro ⟨⟨hname, -, hdomain⟩, hat, hat'⟩
    exact ⟨fun c hc => ⟨fun h => hat (h ▸ hc), hname c hc⟩,
      fun c hc => ⟨fun h => hat' (h ▸ hc), hdomain c hc⟩⟩

/-- The pattern matches what is an address by its characters. -/
theorem matches_iff_address : Matches cs ↔ Address cs := by
  constructor
  · rintro ⟨name, front, back, rfl, hname, hfront, hback⟩
    obtain ⟨hblank, hat⟩ :=
      forall_isPart_iff.mp ⟨hname.2, forall_isPart_point.mpr ⟨hfront.2, hback.2⟩⟩
    exact ⟨hblank, hat, name, _, rfl, hname.1, front, back, rfl, hfront.1, hback.1⟩
  · rintro ⟨hblank, hat, name, _, rfl, hname, front, back, rfl, hfront, hback⟩
    obtain ⟨hnameParts, hdomain⟩ := forall_isPart_iff.mpr ⟨hblank, hat⟩
    obtain ⟨hfrontParts, hbackParts⟩ := forall_isPart_point.mp hdomain
    exact ⟨name, front, back, rfl, ⟨hname, hnameParts⟩, ⟨hfront, hfrontParts⟩,
      ⟨hback, hbackParts⟩⟩

/-- What is accepted is an address, perhaps with a line end behind it. -/
theorem accepts_iff : accepts cs = true ↔ Address cs ∨ LineEnded cs := by
  simp only [accepts, Bool.or_eq_true, Bool.and_eq_true, isAddress_iff_matches,
    matches_iff_address, beq_iff_eq]
  refine or_congr_right ?_
  constructor
  · rintro ⟨hlast, hfront⟩
    obtain ⟨ds, rfl⟩ := List.getLast?_eq_some_iff.mp hlast
    rw [List.dropLast_concat] at hfront
    exact ⟨ds, rfl, hfront⟩
  · rintro ⟨ds, rfl, hds⟩
    rw [List.dropLast_concat]
    exact ⟨List.getLast?_concat, hds⟩

/-- A line end is blank, so an address has none. -/
theorem LineEnded.not_address (h : LineEnded cs) : ¬ Address cs := by
  obtain ⟨ds, rfl, -⟩ := h
  intro haddress
  exact absurd (haddress.no_blank '\n' (by simp)) (by decide)

end Email

/-! ## Fields for an email address -/

variable {f : Field} {item : Item} {today : Date} {s : String}

theorem ofField_of_text (hkind : f.kindName = "text" ∨ f.kindName = "textarea") :
    Item.ofField f = .ok ⟨f, .text f.formats⟩ := by
  rcases hkind with h | h
  · exact ofField_eq_ok_iff.mpr ⟨.text, kind?_eq_some_iff.mpr (by rw [h]; decide), rfl⟩
  · exact ofField_eq_ok_iff.mpr ⟨.textarea, kind?_eq_some_iff.mpr (by rw [h]; decide), rfl⟩

/-- Where the only format is that of an email address, it decides. -/
theorem accept_email (hcontent : item.content = .text [.email])
    (hblank : Text.isBlankText s = false) :
    item.accept today (some (.text s)) =
      .ok (if Email.accepts s.toList then .ok (some (.text s)) else .error .notEmail) := by
  have haccepts : TextFormat.email.accepts s = Email.accepts s.toList := rfl
  refine Item.accept_of_judge ?_ fun choices => ?_
  · rw [Item.judge_text hcontent hblank, Entry.text, List.find?_cons, List.find?_nil, haccepts]
    cases Email.accepts s.toList <;> rfl
  · split <;> simp

/-- A field for an email address keeps a text as it is or refuses it as no address. It keeps the
addresses and, of all other texts, those that are an address with a line end behind it. -/
theorem accept_email_iff_address (hkind : f.kindName = "text" ∨ f.kindName = "textarea")
    (hformats : f.formats = [.email]) (hblank : Text.isBlankText s = false) (today : Date) :
    ∃ item, Item.ofField f = .ok item ∧
      let kept := item.accept today (some (.text s)) = .ok (.ok (some (.text s)))
      (kept ∨ item.accept today (some (.text s)) = .ok (.error .notEmail)) ∧
      (kept ↔ Email.Address s.toList ∨ Email.LineEnded s.toList) ∧
      ((kept ↔ Email.Address s.toList) ↔ ¬ Email.LineEnded s.toList) := by
  have hcontent : (⟨f, .text f.formats⟩ : Item).content = .text [.email] := by rw [hformats]
  refine ⟨_, ofField_of_text hkind, ?_⟩
  intro kept
  have haccept : Item.accept today ⟨f, .text f.formats⟩ (some (.text s)) = _ :=
    accept_email hcontent hblank
  have hkept : kept ↔ Email.Address s.toList ∨ Email.LineEnded s.toList := by
    rw [← Email.accepts_iff]
    simp only [kept, haccept]
    cases Email.accepts s.toList <;> simp
  refine ⟨?_, hkept, ?_⟩
  · simp only [kept, haccept]
    cases Email.accepts s.toList <;> simp
  · rw [hkept]
    constructor
    · intro h hline
      exact hline.not_address (h.mp (Or.inr hline))
    · intro hline
      exact or_iff_left hline

/-- A text for an email address. -/
def mailField : Field := ⟨"e", "email", "text", "Email", true, none, none, none, none, false⟩

theorem formats_mailField : mailField.formats = [.email] := by decide +kernel

/-- A domain may have more than one point. -/
theorem address_ann : Email.Address "ann@mail.eu.org".toList := by
  have h : Email.isAddress "ann@mail.eu.org".toList = true := by decide +kernel
  exact Email.matches_iff_address.mp (Email.isAddress_iff_matches.mp h)

/-- An address is kept. -/
theorem accept_email_iff_address_ann :
    let s := "ann@mail.eu.org"
    (mailField.kindName = "text" ∨ mailField.kindName = "textarea") ∧
      mailField.formats = [.email] ∧ Text.isBlankText s = false ∧
      ∃ item, Item.ofField mailField = .ok item ∧
        item.accept ⟨2024, 1, 31, by decide⟩ (some (.text s)) = .ok (.ok (some (.text s))) := by
  intro s
  have hblank : Text.isBlankText s = false := by decide
  obtain ⟨item, hitem, -, hkept, -⟩ :=
    accept_email_iff_address (Or.inl rfl) formats_mailField hblank ⟨2024, 1, 31, by decide⟩
  exact ⟨Or.inl rfl, formats_mailField, hblank, item, hitem, hkept.mpr (Or.inl address_ann)⟩

/-- A text with a line end is kept although it holds a blank character. -/
theorem line_end_kept :
    let s := "ann@mail.eu.org\n"
    mailField.formats = [.email] ∧ Text.isBlankText s = false ∧ ¬ Email.Address s.toList ∧
      ∃ item, Item.ofField mailField = .ok item ∧
        item.accept ⟨2024, 1, 31, by decide⟩ (some (.text s)) = .ok (.ok (some (.text s))) := by
  intro s
  have hblank : Text.isBlankText s = false := by decide
  have hline : Email.LineEnded s.toList := ⟨_, by decide +kernel, address_ann⟩
  have haccepts : Email.accepts s.toList = true := Email.accepts_iff.mpr (Or.inr hline)
  have hcontent : (⟨mailField, .text mailField.formats⟩ : Item).content = .text [.email] :=
    congrArg Content.text formats_mailField
  refine ⟨formats_mailField, hblank, hline.not_address, _, ofField_of_text (Or.inl rfl), ?_⟩
  rw [accept_email hcontent hblank, haccepts]
  rfl

end Formwork
