import Formwork.Proofs.DecimalText
import Formwork.Proofs.Soundness

/-!
# Integers read back

An integer is written as its digits, with a minus sign in front of a negative one, and that is an
integer literal. Blanks around it are taken off before it is read. As integers are tried first, the
integer itself is read of the text and no decimal near it, however many digits it has up to the
limit for integer literals: `number_of_integer_text`.
-/

namespace Formwork

open Text

variable {c : Char} {cs front back : List Char} {n : Int} {p q s : String}
variable {f : Field} {item : Item} {today : Date} {bounds : Bounds}

/-! ## Blanks around a text -/

theorem isBlank_of_isDigit (h : c.isDigit = true) : isBlank c = false := by
  obtain ⟨hlow, hhigh⟩ := bounds_of_isDigit h
  simp only [isBlank, Bool.or_eq_false_iff, Bool.and_eq_false_iff, decide_eq_false_iff_not,
    beq_eq_false_iff_ne]
  omega

theorem dropWhile_blanks (hfront : ∀ c ∈ front, isBlank c = true) (hne : cs ≠ [])
    (hcs : ∀ c ∈ cs, isBlank c = false) :
    (front ++ (cs ++ back)).dropWhile isBlank = cs ++ back := by
  obtain ⟨c, rest, rfl⟩ := List.exists_cons_of_ne_nil hne
  exact Literal.dropWhile_append_cons hfront (hcs c List.mem_cons_self) _

/-- Blanks are taken off at both ends. -/
theorem trimEnds_blanks (hfront : ∀ c ∈ front, isBlank c = true)
    (hback : ∀ c ∈ back, isBlank c = true) (hne : cs ≠ [])
    (hcs : ∀ c ∈ cs, isBlank c = false) : trimEnds isBlank (front ++ (cs ++ back)) = cs := by
  have hback' : ∀ c ∈ back.reverse, isBlank c = true :=
    fun c hc => hback c (List.mem_reverse.mp hc)
  have hcs' : ∀ c ∈ cs.reverse, isBlank c = false :=
    fun c hc => hcs c (List.mem_reverse.mp hc)
  have hrest : (back.reverse ++ (cs.reverse ++ [])).dropWhile isBlank = cs.reverse ++ [] :=
    dropWhile_blanks hback' (by simpa using hne) hcs'
  rw [trimEnds, dropWhile_blanks hfront hne hcs, List.reverse_append]
  rw [List.append_nil] at hrest
  rw [hrest, List.reverse_reverse]

/-! ## The literal of an integer -/

namespace Literal

theorem sign_of_allDigits (h : AllDigits cs) : sign cs = (false, cs) := by
  unfold sign
  split
  · exact absurd (h '-' List.mem_cons_self) (by decide)
  · exact absurd (h '+' List.mem_cons_self) (by decide)
  · rfl

theorem sign_numberChars (n : Int) :
    sign (Value.numberChars n) = (decide (n < 0), decimalDigits n.natAbs) := by
  rw [Value.numberChars]
  split
  · rename_i hn
    rw [sign, decide_eq_true hn]
  · rename_i hn
    rw [sign_of_allDigits (allDigits_decimalDigits _), decide_eq_false hn]

theorem isGroupChar_of_isDigit (h : c.isDigit = true) : isGroupChar c = true := by
  rw [isGroupChar, digitValue?_of_isDigit h, Option.isSome_some, Bool.or_true]

theorem numberChars_ne_nil (n : Int) : Value.numberChars n ≠ [] := by
  rw [Value.numberChars]
  split
  · exact List.cons_ne_nil _ _
  · exact Nat.toDigits_ne_nil

theorem isBlank_of_mem_numberChars (h : c ∈ Value.numberChars n) : isBlank c = false := by
  rw [Value.numberChars] at h
  split at h
  · rcases List.mem_cons.mp h with rfl | h
    · rfl
    · exact isBlank_of_isDigit (allDigits_decimalDigits _ c h)
  · exact isBlank_of_isDigit (allDigits_decimalDigits _ c h)

theorem leadingDigits?_numberChars (hfront : ∀ c ∈ front, isBlank c = true)
    (hback : ∀ c ∈ back, isBlank c = true) (n : Int) :
    leadingDigits? (front ++ (Value.numberChars n ++ back)) =
      some (decide (n < 0), digitNumbers (decimalDigits n.natAbs), []) := by
  have hdigits := allDigits_decimalDigits n.natAbs
  have hgroup : ∀ c ∈ decimalDigits n.natAbs, isGroupChar c = true :=
    fun c hc => isGroupChar_of_isDigit (hdigits c hc)
  have hparsed : digitGroup? (decimalDigits n.natAbs) =
      some (digitNumbers (decimalDigits n.natAbs)) :=
    digitGroup?_of_allDigits Nat.toDigits_ne_nil hdigits
  rw [leadingDigits?, trimEnds_blanks hfront hback (numberChars_ne_nil n)
    fun c hc => isBlank_of_mem_numberChars hc, sign_numberChars]
  simp only [List.takeWhile_eq_self_iff.mpr hgroup, List.dropWhile_eq_nil_iff.mpr hgroup,
    hparsed, Option.map_some]

theorem integer?_numberChars (hfront : ∀ c ∈ front, isBlank c = true)
    (hback : ∀ c ∈ back, isBlank c = true)
    (hlength : (decimalDigits n.natAbs).length ≤ maxIntegerDigits) :
    integer? (front ++ (Value.numberChars n ++ back)) = some n := by
  have hcount : (digitNumbers (decimalDigits n.natAbs)).length ≤ maxIntegerDigits := by
    rwa [digitNumbers, List.length_map]
  rw [integer?, leadingDigits?_numberChars hfront hback]
  simp only [if_pos hcount, Option.some.injEq]
  exact Decimal.signed_digits n 0

end Literal

/-! ## The text of an integer -/

theorem forall_isBlank (h : isBlankText s = true) : ∀ c ∈ s.toList, isBlank c = true :=
  List.all_eq_true.mp h

theorem toList_integer_text (p q : String) (n : Int) :
    (p ++ (Value.int n).display ++ q).toList = p.toList ++ (Value.numberChars n ++ q.toList) := by
  have hdisplay : (Value.int n).display.toList = Value.numberChars n := String.toList_ofList
  rw [String.toList_append, String.toList_append, hdisplay, List.append_assoc]

theorem read?_integer_text (hp : isBlankText p = true) (hq : isBlankText q = true)
    (hlength : (decimalDigits n.natAbs).length ≤ Literal.maxIntegerDigits) :
    Number.read? (p ++ (Value.int n).display ++ q) = some (.whole n) := by
  rw [Number.read?, toList_integer_text,
    Literal.integer?_numberChars (forall_isBlank hp) (forall_isBlank hq) hlength]

/-- Where a number is expected, one that a text writes within the bounds is kept. -/
theorem accept_number_text {m : Number} (hcontent : item.content = .number bounds)
    (hblank : isBlankText s = false) (hm : Number.read? s = some m) (hallows : bounds.Allows m) :
    item.accept today (some (.text s)) = .ok (.ok (some (Value.ofNumber m))) := by
  have hsome : (Content.number bounds).isNothing (.text s) = false := hblank
  have hread := (Content.readNumber_eq_ok_iff (v := .text s)).mpr ⟨m, hm, hallows, rfl⟩
  rw [Item.accept_eq_kept_iff, Item.judge_of_entered (by simp), hcontent, hsome,
    if_neg Bool.false_ne_true, Content.read, hread]
  rfl

theorem isBlankText_integer_text (p q : String) (n : Int) :
    isBlankText (p ++ (Value.int n).display ++ q) = false := by
  obtain ⟨c, hc⟩ := List.exists_mem_of_ne_nil _ (Literal.numberChars_ne_nil n)
  refine isBlankText_eq_false_iff.mpr ⟨c, ?_, Literal.isBlank_of_mem_numberChars hc⟩
  rw [toList_integer_text]
  exact List.mem_append_right _ (List.mem_append_left _ hc)

/-- The text of an integer of at most 4300 digits, with any blanks around it, is read as the integer,
and a number field without bounds keeps the integer. -/
theorem number_of_integer_text (hp : isBlankText p = true) (hq : isBlankText q = true)
    (hlength : (decimalDigits n.natAbs).length ≤ 4300) :
    let v := Value.text (p ++ (Value.int n).display ++ q)
    v.toNumber? = some (.whole n) ∧ Entry.number v = .ok (.whole n) ∧
      ∀ f : Field, f.kindName = "number" → f.bounds = ⟨none, none⟩ →
        ∃ item, Item.ofField f = .ok item ∧
          ∀ today : Date, item.accept today (some v) = .ok (.ok (some (.int n))) := by
  intro v
  have hread : v.toNumber? = some (.whole n) := read?_integer_text hp hq hlength
  refine ⟨hread, Entry.number_eq_ok_iff.mpr hread, fun f hname hbounds => ?_⟩
  have hkind : f.kind? = some .number := kind?_eq_some_iff.mpr (by rw [hname]; decide)
  refine ⟨_, ofField_eq_ok_iff.mpr ⟨_, hkind, rfl⟩, fun today => ?_⟩
  have hallows : f.bounds.Allows (.whole n) := by
    rw [hbounds]
    exact ⟨nofun, nofun⟩
  exact accept_number_text rfl (isBlankText_integer_text p q n) hread hallows

/-- No digit of an integer is lost that lies between two binary64 numbers. -/
theorem number_of_integer_text_long :
    let n : Int := -9007199254740993
    let v := Value.text ("\t " ++ (Value.int n).display ++ "\n")
    let f : Field := ⟨"s", "serial", "number", "Serial", true, none, none, none, none, false⟩
    isBlankText "\t " = true ∧ isBlankText "\n" = true ∧
      (decimalDigits n.natAbs).length ≤ 4300 ∧
      v.toNumber? = some (.whole n) ∧ Entry.number v = .ok (.whole n) ∧
      f.kindName = "number" ∧ f.bounds = ⟨none, none⟩ ∧
      ∃ item, Item.ofField f = .ok item ∧
        item.accept ⟨2024, 1, 31, by decide⟩ (some v) = .ok (.ok (some (.int n))) := by
  intro n v f
  have hp : isBlankText "\t " = true := by decide
  have hq : isBlankText "\n" = true := by decide
  have hlength : (decimalDigits n.natAbs).length ≤ 4300 := by decide +kernel
  have hbounds : f.bounds = ⟨none, none⟩ := by decide +kernel
  obtain ⟨hread, hnumber, hkept⟩ := number_of_integer_text hp hq hlength
  obtain ⟨item, hitem, haccept⟩ := hkept f rfl hbounds
  exact ⟨hp, hq, hlength, hread, hnumber, rfl, hbounds, item, hitem, haccept _⟩

end Formwork
