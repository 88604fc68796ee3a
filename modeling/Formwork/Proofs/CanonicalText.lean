import Formwork.Proofs.KeyOrder
import Formwork.Proofs.ShortestDecimals

/-!
# Canonical texts read back

The first character of a canonical text tells the kind of the value, and where the text ends can be
told from what follows it: a comma, a closing bracket or nothing. So a canonical text in front of
such a rest determines both the value, up to the order of keys, and the rest.
-/

namespace Formwork

/-! ## Texts in quotes -/

/-- The character that an escape behind a backslash stands for, and the rest. -/
def escaped? : List Char → Option (Char × List Char)
  | 'u' :: a :: b :: c :: d :: rest =>
    (Text.baseValue? 16 [a, b, c, d]).map fun n => (Char.ofNat n, rest)
  | 'n' :: rest => some ('\n', rest)
  | 'r' :: rest => some ('\r', rest)
  | 't' :: rest => some ('\t', rest)
  | 'b' :: rest => some ('\x08', rest)
  | 'f' :: rest => some ('\x0c', rest)
  | c :: rest => some (c, rest)
  | [] => none

/-- The first character between double quotes, and the rest. -/
def unescape? : List Char → Option (Char × List Char)
  | '\\' :: rest => escaped? rest
  | c :: rest => some (c, rest)
  | [] => none

theorem hex_control : ∀ n < 32,
    (Text.hex 4 n).length = 4 ∧ Text.baseValue? 16 (Text.hex 4 n) = some n := by
  decide

theorem unescape?_jsonEscape (c : Char) (rest : List Char) :
    unescape? (Value.jsonEscape c ++ rest) = some (c, rest) := by
  unfold Value.jsonEscape
  -- The characters with an escape of their own.
  iterate 7
    split
    · rename_i h
      rw [beq_iff_eq.mp h]
      rfl
  split
  · rename_i h
    obtain ⟨hlength, hvalue⟩ := hex_control c.toNat h
    match hhex : Text.hex 4 c.toNat, hlength with
    | [x, y, z, w], _ =>
      rw [hhex] at hvalue
      change (Text.baseValue? 16 [x, y, z, w]).map (fun n => (Char.ofNat n, rest)) = _
      rw [hvalue, Option.map_some, Char.ofNat_toNat]
  · rename_i hslash _ _ _ _ _ _
    exact unescape?.eq_2 c rest fun h => hslash (beq_iff_eq.mpr h)

/-- No escape begins with the quote. -/
theorem exists_jsonEscape_eq_cons (c : Char) :
    ∃ d ds, Value.jsonEscape c = d :: ds ∧ d ≠ '\x22' := by
  unfold Value.jsonEscape
  iterate 7
    split
    · exact ⟨_, _, rfl, by decide⟩
  split
  · exact ⟨_, _, rfl, by decide⟩
  · rename_i hquote _ _ _ _ _ _ _
    exact ⟨_, _, rfl, fun h => hquote (beq_iff_eq.mpr h)⟩

/-- A text in quotes ends at its closing quote. -/
theorem escaped_inj {cs ds rest rest' : List Char}
    (h : cs.flatMap Value.jsonEscape ++ '\x22' :: rest =
      ds.flatMap Value.jsonEscape ++ '\x22' :: rest') : cs = ds ∧ rest = rest' := by
  induction cs generalizing ds with
  | nil =>
    cases ds with
    | nil =>
      injection h with _ h
      exact ⟨rfl, h⟩
    | cons d ds =>
      obtain ⟨e, es, hescape, hquote⟩ := exists_jsonEscape_eq_cons d
      rw [List.flatMap_cons, hescape] at h
      injection h with h
      exact absurd h.symm hquote
  | cons c cs ih =>
    cases ds with
    | nil =>
      obtain ⟨e, es, hescape, hquote⟩ := exists_jsonEscape_eq_cons c
      rw [List.flatMap_cons, hescape] at h
      injection h with h
      exact absurd h hquote
    | cons d ds =>
      rw [List.flatMap_cons, List.flatMap_cons, List.append_assoc, List.append_assoc] at h
      have hread := congrArg unescape? h
      rw [unescape?_jsonEscape, unescape?_jsonEscape] at hread
      injection hread with hread
      obtain ⟨rfl, hrest⟩ := Prod.mk.inj hread
      obtain ⟨rfl, hrests⟩ := ih hrest
      exact ⟨rfl, hrests⟩

theorem jsonQuoted_inj {s t : String} {rest rest' : List Char}
    (h : Value.jsonQuoted s ++ rest = Value.jsonQuoted t ++ rest') : s = t ∧ rest = rest' := by
  rw [Value.jsonQuoted, Value.jsonQuoted, List.cons_append, List.cons_append, List.append_assoc,
    List.append_assoc] at h
  injection h with _ h
  obtain ⟨hchars, hrests⟩ := escaped_inj h
  exact ⟨String.toList_inj.mp hchars, hrests⟩

/-! ## Where a text ends -/

/-- What may follow the text of a value: nothing, a comma or a closing bracket. -/
def Ended (rest : List Char) : Prop := ∀ c ∈ rest.head?, c = ',' ∨ c = ']' ∨ c = '\x7d'

theorem ended_cons {c : Char} {cs : List Char} (h : c = ',' ∨ c = ']' ∨ c = '\x7d') :
    Ended (c :: cs) := by
  rintro d ⟨⟩
  exact h

/-- Characters of one sort are told from a rest that begins with none. -/
theorem append_inj_of_all {p : Char → Bool} {cs ds rest rest' : List Char}
    (hcs : ∀ c ∈ cs, p c = true) (hds : ∀ c ∈ ds, p c = true)
    (hrest : ∀ c ∈ rest.head?, p c = false) (hrest' : ∀ c ∈ rest'.head?, p c = false)
    (h : cs ++ rest = ds ++ rest') : cs = ds ∧ rest = rest' := by
  have htake : ∀ {l r : List Char}, (∀ c ∈ l, p c = true) → (∀ c ∈ r.head?, p c = false) →
      (l ++ r).takeWhile p = l := by
    intro l r hl hr
    cases r with
    | nil =>
      rw [List.append_nil]
      exact List.takeWhile_eq_self_iff.mpr hl
    | cons c r => exact Literal.takeWhile_append_cons hl (hr c rfl) r
  have hsame : cs = ds := by rw [← htake hcs hrest, h, htake hds hrest']
  rw [hsame] at h
  exact ⟨hsame, List.append_cancel_left h⟩

theorem Ended.noNumberChar {rest : List Char} (h : Ended rest) :
    ∀ c ∈ rest.head?, Decimal.isNumberChar c = false := by
  intro c hc
  rcases h c hc with rfl | rfl | rfl <;> decide

section Joined

theorem joinChars_cons (x : List Char) (xs : List (List Char)) :
    Text.joinChars [','] (x :: xs) = x ++ xs.flatMap (',' :: ·) := by
  induction xs generalizing x with
  | nil => simp [Text.joinChars]
  | cons y ys ih =>
    have hjoin := ih y
    rw [Text.joinChars] at hjoin ⊢
    rw [List.intersperse_cons_cons, List.flatten_cons, List.flatten_cons, hjoin, List.flatMap_cons]
    rfl

variable {α : Type} {P : α → Prop} {R : α → α → Prop} {f : α → List Char} {xs ys : List α}
  {close : Char} {rest rest' : List Char}

/-- A text that determines what it is the text of, up to a relation, and the rest behind it. -/
def Determines (P : α → Prop) (R : α → α → Prop) (f : α → List Char) (x : α) : Prop :=
  ∀ y, P y → ∀ rest rest', Ended rest → Ended rest' → f x ++ rest = f y ++ rest' →
    R x y ∧ rest = rest'

theorem commas_inj (hclose : close = ']' ∨ close = '\x7d') (hxs : ∀ x ∈ xs, Determines P R f x)
    (hys : ∀ y ∈ ys, P y)
    (h : (xs.map f).flatMap (',' :: ·) ++ close :: rest =
      (ys.map f).flatMap (',' :: ·) ++ close :: rest') : List.Forall₂ R xs ys ∧ rest = rest' := by
  have hcomma : close ≠ ',' := by rcases hclose with rfl | rfl <;> decide
  have hended : ∀ (l : List α) r, Ended ((l.map f).flatMap (',' :: ·) ++ close :: r) := by
    intro l r
    cases l with
    | nil => exact ended_cons (.inr hclose)
    | cons x l => exact ended_cons (.inl rfl)
  induction xs generalizing ys with
  | nil =>
    cases ys with
    | nil =>
      injection h with _ h
      exact ⟨.nil, h⟩
    | cons y ys =>
      injection h with h
      exact absurd h hcomma
  | cons x xs ih =>
    cases ys with
    | nil =>
      injection h with h
      exact absurd h.symm hcomma
    | cons y ys =>
      rw [List.map_cons, List.map_cons, List.flatMap_cons, List.flatMap_cons, List.append_assoc,
        List.append_assoc] at h
      injection h with _ h
      rw [List.forall_mem_cons] at hxs hys
      obtain ⟨hxy, hrest⟩ := hxs.1 y hys.1 _ _ (hended xs rest) (hended ys rest') h
      obtain ⟨hall, hrests⟩ := ih hxs.2 hys.2 hrest
      exact ⟨.cons hxy hall, hrests⟩

/-- Texts between commas in front of a closing bracket are told apart one by one. -/
theorem joinChars_inj (hclose : close = ']' ∨ close = '\x7d')
    (hopen : ∀ x, ∃ c cs, f x = c :: cs ∧ c ≠ ']' ∧ c ≠ '\x7d')
    (hxs : ∀ x ∈ xs, Determines P R f x) (hys : ∀ y ∈ ys, P y)
    (h : Text.joinChars [','] (xs.map f) ++ close :: rest =
      Text.joinChars [','] (ys.map f) ++ close :: rest') : List.Forall₂ R xs ys ∧ rest = rest' := by
  have hnone : ∀ (l : List α) (x : α) (r r' : List Char),
      close :: r ≠ Text.joinChars [','] ((x :: l).map f) ++ close :: r' := by
    intro l x r r' hr
    obtain ⟨c, cs, hc, hbracket⟩ := hopen x
    rw [List.map_cons, joinChars_cons, hc] at hr
    injection hr with hr
    rcases hclose with rfl | rfl
    · exact hbracket.1 hr.symm
    · exact hbracket.2 hr.symm
  cases xs with
  | nil =>
    cases ys with
    | nil =>
      injection h with _ h
      exact ⟨.nil, h⟩
    | cons y ys => exact absurd h (hnone ys y _ _)
  | cons x xs =>
    cases ys with
    | nil => exact absurd h.symm (hnone xs x _ _)
    | cons y ys =>
      -- With a comma in front the first item is like the others.
      refine commas_inj hclose hxs hys ?_
      rw [List.map_cons, List.map_cons, joinChars_cons, joinChars_cons] at h
      rw [List.map_cons, List.map_cons, List.flatMap_cons, List.flatMap_cons, List.cons_append,
        List.cons_append, List.cons_append, List.cons_append, h]

end Joined

namespace Value

variable {v w : Value} {m n : Int} {rest rest' : List Char}

/-! ## Kinds of texts -/

/-- What the first character of a text tells. -/
inductive Opening where
  | null
  | bool
  | number
  | text
  | list
  | object

def Opening.ofChar? : Char → Option Opening
  | 'n' => some null
  | 't' => some bool
  | 'f' => some bool
  | '\x22' => some text
  | '[' => some list
  | '\x7b' => some object
  | c => if c.isDigit || c == '-' then some number else none

/-- How the text of a value opens. -/
def opening : Value → Opening
  | null | missing | float (.infinite _) | float (.nan _) => .null
  | bool _ => .bool
  | int _ | float (.finite _) => .number
  | text _ | date _ | dateTime _ => .text
  | list _ | tuple _ | set _ => .list
  | object _ => .object

theorem Opening.ofChar?_digit {c : Char} (h : c.isDigit = true) :
    Opening.ofChar? c = some .number := by
  unfold Opening.ofChar?
  split
  case h_7 => rw [h, Bool.true_or, if_pos rfl]
  all_goals exact absurd h (by decide)

theorem exists_numberChars_eq_cons (n : Int) :
    ∃ c cs, numberChars n = c :: cs ∧ Opening.ofChar? c = some .number := by
  rw [numberChars]
  split
  · exact ⟨_, _, rfl, rfl⟩
  · obtain ⟨c, cs, hdigits⟩ := List.exists_cons_of_ne_nil
      (show Text.decimalDigits n.natAbs ≠ [] from Nat.toDigits_ne_nil)
    refine ⟨c, cs, hdigits, Opening.ofChar?_digit ?_⟩
    exact allDigits_decimalDigits n.natAbs c (hdigits ▸ List.mem_cons_self)

theorem exists_floatText_eq_cons (x : Finite64) :
    ∃ c cs, x.text.toList = c :: cs ∧ Opening.ofChar? c = some .number := by
  rw [Finite64.text_toList]
  split
  · exact ⟨_, _, rfl, rfl⟩
  · obtain ⟨c, cs, htext, hc⟩ := x.magnitude.exists_text_eq_cons
    exact ⟨c, cs, htext, Opening.ofChar?_digit hc⟩

theorem exists_canonicalChars_eq_cons (v : Value) :
    ∃ c cs, v.canonicalChars = c :: cs ∧ Opening.ofChar? c = some v.opening := by
  rcases v with _ | b | n | (x | _ | _) | s | d | t | xs | xs | xs | _ | es
  case int => exact exists_numberChars_eq_cons n
  case float.finite => exact exists_floatText_eq_cons x
  case bool => cases b <;> exact ⟨_, _, rfl, rfl⟩
  case list | tuple | set | object =>
    rw [canonicalChars]
    exact ⟨_, _, rfl, rfl⟩
  all_goals exact ⟨_, _, rfl, rfl⟩

theorem opening_eq (h : v.canonicalChars ++ rest = w.canonicalChars ++ rest') :
    v.opening = w.opening := by
  obtain ⟨c, cs, hv, hc⟩ := v.exists_canonicalChars_eq_cons
  obtain ⟨d, ds, hw, hd⟩ := w.exists_canonicalChars_eq_cons
  rw [hv, hw] at h
  injection h with h
  rw [h, hd] at hc
  injection hc with hc
  exact hc.symm

/-! ## Numbers -/

theorem mem_numberChars {c : Char} (h : c ∈ numberChars n) : c.isDigit = true ∨ c = '-' := by
  rw [numberChars] at h
  split at h
  · rcases List.mem_cons.mp h with h | h
    · exact .inr h
    · exact .inl (allDigits_decimalDigits _ c h)
  · exact .inl (allDigits_decimalDigits _ c h)

theorem numberChars_injective : Function.Injective numberChars := by
  intro m n h
  have hsign : ∀ {a b : Nat}, '-' :: Text.decimalDigits a ≠ Text.decimalDigits b := by
    intro a b hab
    have hmem : '-' ∈ Text.decimalDigits b := hab ▸ List.mem_cons_self
    exact absurd (allDigits_decimalDigits b _ hmem) (by decide)
  rw [numberChars, numberChars] at h
  split at h <;> split at h
  · injection h with _ h
    have habs := decimalDigits_injective h
    omega
  · exact absurd h hsign
  · exact absurd h.symm hsign
  · have habs := decimalDigits_injective h
    omega

theorem numberChars_ne_text (n : Int) (x : Finite64) : numberChars n ≠ x.text.toList := by
  intro h
  obtain ⟨c, hc, hmark⟩ := x.exists_mark
  rw [← h] at hc
  rcases hmark with rfl | rfl <;> rcases mem_numberChars hc with hc | hc <;> cases hc

theorem numberChars_all : ∀ c ∈ numberChars n, Decimal.isNumberChar c = true := by
  intro c hc
  rcases mem_numberChars hc with hdigit | rfl
  · rw [Decimal.isNumberChar, hdigit]
    rfl
  · rfl

/-! ## Values -/

theorem exists_canonicalChars_head (v : Value) :
    ∃ c cs, v.canonicalChars = c :: cs ∧ c ≠ ']' ∧ c ≠ '\x7d' := by
  obtain ⟨c, cs, hv, hc⟩ := v.exists_canonicalChars_eq_cons
  refine ⟨c, cs, hv, ?_, ?_⟩
  · rintro rfl
    cases hc
  · rintro rfl
    cases hc

theorem determines_entry {e : String × Value}
    (h : Determines IsJson Same canonicalChars e.2) :
    Determines (fun f => IsJson f.2) SameEntry entryChars e := by
  intro f hf rest rest' hrest hrest' htext
  rw [entryChars, entryChars, List.append_assoc, List.append_assoc] at htext
  obtain ⟨hkey, htext⟩ := jsonQuoted_inj htext
  injection htext with _ htext
  obtain ⟨hvalue, hrests⟩ := h f.2 hf rest rest' hrest hrest' htext
  exact ⟨⟨hkey, hvalue⟩, hrests⟩

theorem determines_list {xs ys : List Value}
    (hxs : ∀ x ∈ xs, Determines IsJson Same canonicalChars x) (hys : ∀ y ∈ ys, IsJson y)
    (h : canonicalChars (.list xs) ++ rest = canonicalChars (.list ys) ++ rest') :
    Same (.list xs) (.list ys) ∧ rest = rest' := by
  rw [canonicalChars_list, canonicalChars_list, List.append_assoc, List.append_assoc] at h
  injection h with _ h
  obtain ⟨hall, hrests⟩ := joinChars_inj (.inl rfl) exists_canonicalChars_head hxs hys h
  exact ⟨.list (sameAll_iff.mpr hall), hrests⟩

theorem determines_object {es fs : List (String × Value)}
    (hes : ∀ e ∈ es, Determines IsJson Same canonicalChars e.2) (hfs : ∀ f ∈ fs, IsJson f.2)
    (h : canonicalChars (.object es) ++ rest = canonicalChars (.object fs) ++ rest') :
    Same (.object es) (.object fs) ∧ rest = rest' := by
  rw [canonicalChars_object, canonicalChars_object, List.append_assoc, List.append_assoc] at h
  injection h with _ h
  obtain ⟨hall, hrests⟩ := joinChars_inj (.inr rfl)
    (fun e => ⟨_, _, rfl, by decide, by decide⟩)
    (fun e he => determines_entry (hes e ((sortByKey_perm es).mem_iff.mp he)))
    (fun f hf => hfs f ((sortByKey_perm fs).mem_iff.mp hf)) h
  -- The entries in order are the entries, in some order.
  obtain ⟨gs, hsame, horder⟩ := List.perm_comp_forall₂ (sortByKey_perm es).symm hall
  exact ⟨.object ((sortByKey_perm fs).symm.trans horder.symm) (sameUnder_iff.mpr hsame), hrests⟩

theorem determines_bool {b c : Bool}
    (h : canonicalChars (.bool b) ++ rest = canonicalChars (.bool c) ++ rest') :
    Same (.bool b) (.bool c) ∧ rest = rest' := by
  cases b <;> cases c
  · exact ⟨.refl _, List.append_cancel_left h⟩
  · injection h with h
    exact absurd h (by decide)
  · injection h with h
    exact absurd h (by decide)
  · exact ⟨.refl _, List.append_cancel_left h⟩

/-- Numbers of either kind, of which none is written like another. -/
theorem determines_number (hv : IsJson v) (hw : IsJson w) (hnumber : v.opening = .number)
    (hnumber' : w.opening = .number) (hrest : Ended rest) (hrest' : Ended rest')
    (h : canonicalChars v ++ rest = canonicalChars w ++ rest') : Same v w ∧ rest = rest' := by
  have hall : ∀ {u}, IsJson u → u.opening = .number →
      ∀ c ∈ canonicalChars u, Decimal.isNumberChar c = true := by
    rintro _ (_ | _ | n | x | _ | _ | _) hu
    case int => exact numberChars_all
    case float => exact fun c hc => x.isNumberChar_of_mem_text hc
    all_goals cases hu
  obtain ⟨hchars, hrests⟩ := append_inj_of_all (hall hv hnumber) (hall hw hnumber')
    hrest.noNumberChar hrest'.noNumberChar h
  refine ⟨?_, hrests⟩
  cases hv <;> cases hnumber
  case int n =>
    cases hw <;> cases hnumber'
    case int m => exact numberChars_injective hchars ▸ .refl _
    case float x => exact absurd hchars (numberChars_ne_text n x)
  case float x =>
    cases hw <;> cases hnumber'
    case int m => exact absurd hchars.symm (numberChars_ne_text m x)
    case float y => exact Finite64.text_injective (String.toList_inj.mp hchars) ▸ .refl _

/-- A canonical text determines its value, but for the order of keys, and the rest behind it. -/
theorem IsJson.determines (hv : IsJson v) : Determines IsJson Same canonicalChars v := by
  induction hv with
  | null =>
    intro w hw rest rest' hrest hrest' h
    have hopening := opening_eq h
    cases hw with
    | null => exact ⟨.refl _, List.append_cancel_left h⟩
    | _ => cases hopening
  | bool b =>
    intro w hw rest rest' hrest hrest' h
    have hopening := opening_eq h
    cases hw with
    | bool c => exact determines_bool h
    | _ => cases hopening
  | int n =>
    intro w hw rest rest' hrest hrest' h
    exact determines_number (.int n) hw rfl (opening_eq h).symm hrest hrest' h
  | float x =>
    intro w hw rest rest' hrest hrest' h
    exact determines_number (.float x) hw rfl (opening_eq h).symm hrest hrest' h
  | text s =>
    intro w hw rest rest' hrest hrest' h
    have hopening := opening_eq h
    cases hw with
    | text t =>
      obtain ⟨rfl, hrests⟩ := jsonQuoted_inj h
      exact ⟨.refl _, hrests⟩
    | _ => cases hopening
  | @list xs _ ih =>
    intro w hw rest rest' hrest hrest' h
    have hopening := opening_eq h
    cases hw with
    | list hys => exact determines_list ih hys h
    | _ => cases hopening
  | @object es hkeys _ ih =>
    intro w hw rest rest' hrest hrest' h
    have hopening := opening_eq h
    cases hw with
    | object hkeys' hfs => exact determines_object ih hfs h
    | _ => cases hopening

theorem IsJson.distinctKeys (h : IsJson v) : v.DistinctKeys := by
  induction h with
  | null | bool _ | int _ | float _ | text _ => exact .scalar rfl
  | list _ ih => exact .list ih
  | object hkeys _ ih => exact .object hkeys ih

/-- JSON values have one canonical text exactly if they are the same, but for the order of keys. -/
theorem canonical_eq_iff (hv : IsJson v) (hw : IsJson w) :
    v.canonical = w.canonical ↔ Same v w := by
  constructor
  · intro h
    have hchars : v.canonicalChars = w.canonicalChars := String.ofList_injective h
    have hended : Ended [] := fun c hc => by cases hc
    exact (hv.determines w hw [] [] hended hended (congrArg (· ++ []) hchars)).1
  · intro h
    rw [canonical, canonical, h.canonicalChars_eq hv.distinctKeys]

end Value

end Formwork
