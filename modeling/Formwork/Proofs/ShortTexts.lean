import Formwork.DateText.Reader
import Formwork.Proofs.DecimalText

/-!
# Texts that can always be told

A date text is impossible to tell only for a number of more digits than arithmetic keeps. The
tokens of a text have no digits that the text has not, so a text of few digits is told to be a date
or none.
-/

namespace Formwork.DateText

/-! ## Digits of tokens -/

/-- How many digits there are among some characters. -/
def digitCount (cs : List Char) : Nat := cs.countP Text.isDigit

theorem digitCount_le_of_sublist {cs ds : List Char} (h : cs.Sublist ds) :
    digitCount cs ≤ digitCount ds := h.countP_le

theorem digitCount_cons (c : Char) (cs : List Char) :
    digitCount (c :: cs) = digitCount cs + if Text.isDigit c then 1 else 0 := List.countP_cons

theorem digitCount_reverse (cs : List Char) : digitCount cs.reverse = digitCount cs :=
  List.countP_reverse

variable {n : Nat} {cs : List Char} {t : Token} {today : Date}

/-- A comma that becomes a point was no digit. -/
theorem digitCount_commas (cs : List Char) :
    digitCount (cs.map fun c => if c == ',' then '.' else c) = digitCount cs := by
  induction cs with
  | nil => rfl
  | cons c cs ih =>
    rw [List.map_cons, digitCount_cons, digitCount_cons, ih]
    by_cases hc : c = ','
    · subst hc
      rfl
    · rw [if_neg (show ¬ (c == ',') = true by simpa using hc)]

/-- No piece has more digits than there are. -/
theorem digitCount_pieces (cs : List Char) : ∀ t ∈ Partial.pieces cs, digitCount t ≤ digitCount cs := by
  induction cs with
  | nil => simp [Partial.pieces]
  | cons c cs ih =>
    intro t ht
    have hsingle : digitCount [c] ≤ digitCount (c :: cs) :=
      digitCount_le_of_sublist (List.singleton_sublist.mpr List.mem_cons_self)
    have hold : ∀ u ∈ Partial.pieces cs, digitCount u ≤ digitCount (c :: cs) :=
      fun u hu => (ih u hu).trans (digitCount_le_of_sublist (List.sublist_cons_self c cs))
    rw [Partial.pieces, List.foldr_cons] at ht
    rw [Partial.pieces] at hold ih
    split at ht
    · rcases List.mem_cons.mp ht with rfl | ht
      · exact hsingle
      · exact hold t ht
    · split at ht
      · rename_i d ds rest hdone
        split at ht
        · rcases List.mem_cons.mp ht with rfl | ht
          · exact hsingle
          · exact hold t ht
        · rcases List.mem_cons.mp ht with rfl | ht
          · have hds := ih (d :: ds) (hdone ▸ List.mem_cons_self)
            rw [digitCount_cons, digitCount_cons c cs]
            omega
          · exact hold t (hdone ▸ List.mem_cons_of_mem _ ht)
      · rcases List.mem_cons.mp ht with rfl | ht
        · exact hsingle
        · exact hold t ht

/-- No token of a run has more digits than the run. -/
theorem digitCount_runTokens (p : Partial) (atEnd : Bool) :
    ∀ t ∈ p.tokens atEnd, digitCount t ≤ digitCount p.chars := by
  intro t ht
  rw [← digitCount_reverse p.chars]
  rw [Partial.tokens] at ht
  split at ht
  · exact digitCount_pieces _ t ht
  · split at ht
    · rw [List.mem_singleton.mp ht, digitCount_commas]
    · rw [List.mem_singleton.mp ht]

/-- What was scanned has at most some digits in every token, and in the run being read. -/
structure Scan.Within (s : Scan) (n : Nat) : Prop where
  done : ∀ t ∈ s.done, digitCount t ≤ n
  current : ∀ p, s.current = some p → digitCount p.chars ≤ n

theorem Scan.within_start {done : List Token} (hdone : ∀ t ∈ done, digitCount t ≤ n) (c : Char) :
    (Scan.start done c).Within (n + digitCount [c]) := by
  have hkept : ∀ t ∈ done, digitCount t ≤ n + digitCount [c] :=
    fun t ht => (hdone t ht).trans (Nat.le_add_right _ _)
  rw [Scan.start]
  split
  · exact ⟨hkept, fun p hp => by cases hp; exact Nat.le_add_left _ _⟩
  · split
    · exact ⟨hkept, fun p hp => by cases hp; exact Nat.le_add_left _ _⟩
    · split
      · refine ⟨fun t ht => ?_, fun p hp => by cases hp⟩
        rcases List.mem_cons.mp ht with rfl | ht
        · exact Nat.zero_le _
        · exact hkept t ht
      · refine ⟨fun t ht => ?_, fun p hp => by cases hp⟩
        rcases List.mem_cons.mp ht with rfl | ht
        · exact Nat.le_add_left _ _
        · exact hkept t ht

theorem Partial.extend?_chars {p q : Partial} {c : Char} (h : p.extend? c = some q) :
    q.chars = c :: p.chars := by
  simp only [Partial.extend?] at h
  split at h <;> split at h <;> try split at h
  all_goals cases h <;> rfl

theorem Scan.Within.feed {s : Scan} (h : s.Within n) (c : Char) :
    (s.feed c).Within (n + digitCount [c]) := by
  rw [Scan.feed]
  cases hcurrent : s.current with
  | none => exact within_start h.done c
  | some p =>
    have hp := h.current p hcurrent
    simp only
    cases hextend : p.extend? c with
    | some q =>
      refine ⟨fun t ht => (h.done t ht).trans (Nat.le_add_right _ _), fun q' hq' => ?_⟩
      injection hq' with hq'
      rw [← hq', Partial.extend?_chars hextend, digitCount_cons, digitCount_cons]
      simpa [digitCount] using hp
    | none =>
      refine within_start (fun t ht => ?_) c
      rcases List.mem_append.mp ht with ht | ht
      · exact (digitCount_runTokens p false t (List.mem_reverse.mp ht)).trans hp
      · exact h.done t ht

theorem Scan.Within.foldl {s : Scan} (h : s.Within n) (cs : List Char) :
    (cs.foldl Scan.feed s).Within (n + digitCount cs) := by
  induction cs generalizing s n with
  | nil => exact h
  | cons c cs ih =>
    have hcount : n + digitCount (c :: cs) = n + digitCount [c] + digitCount cs := by
      rw [digitCount_cons, digitCount_cons]
      simp only [digitCount, List.countP_nil]
      omega
    rw [hcount]
    exact ih (h.feed c)

/-- No token has more digits than the text. -/
theorem digitCount_le_of_mem_tokens (h : t ∈ tokens cs) : digitCount t ≤ digitCount cs := by
  have hwithin : ((cs.filter (· != '\x00')).foldl Scan.feed ⟨[], none⟩).Within (digitCount cs) := by
    have hstart : (⟨[], none⟩ : Scan).Within 0 := ⟨by simp, fun p hp => by cases hp⟩
    have hfold := hstart.foldl (cs.filter (· != '\x00'))
    have hcount := digitCount_le_of_sublist (List.filter_sublist (l := cs) (p := (· != '\x00')))
    exact ⟨fun t ht => (hfold.done t ht).trans (by omega),
      fun p hp => (hfold.current p hp).trans (by omega)⟩
  rw [tokens, Scan.finish] at h
  rcases List.mem_append.mp h with h | h
  · exact hwithin.done t (List.mem_reverse.mp h)
  · cases hcurrent : ((cs.filter (· != '\x00')).foldl Scan.feed ⟨[], none⟩).current with
    | none =>
      rw [hcurrent] at h
      cases h
    | some p =>
      rw [hcurrent] at h
      exact (digitCount_runTokens p true t h).trans (hwithin.current p hcurrent)

/-! ## Numbers of few digits -/

theorem digits_of_mapM {ds : List Nat} (h : t.mapM Text.digitValue? = some ds) :
    ds.length = digitCount t ∧ ∀ d ∈ ds, d < 10 := by
  induction t generalizing ds with
  | nil =>
    rw [List.mapM_nil] at h
    cases h
    exact ⟨rfl, by simp⟩
  | cons c t ih =>
    rw [List.mapM_cons] at h
    obtain ⟨d, hd, h⟩ := Option.bind_eq_some_iff.mp h
    obtain ⟨es, hes, h⟩ := Option.bind_eq_some_iff.mp h
    cases h
    obtain ⟨hlength, hsmall⟩ := ih hes
    have hdigit : Text.isDigit c = true := by
      rw [Text.isDigit, hd]
      rfl
    refine ⟨?_, List.forall_mem_cons.mpr ⟨digitValue?_lt hd, hsmall⟩⟩
    rw [digitCount_cons, if_pos hdigit, ← hlength, List.length_cons]

/-- What a token of digits writes is less than the power of ten of its digits. -/
theorem digits?_lt (h : digits? t = some n) : n < tenPow (digitCount t) := by
  simp only [digits?, Option.bind_eq_bind, Option.bind_eq_some_iff] at h
  obtain ⟨ds, hds, _, _, hn⟩ := h
  injection hn with hn
  obtain ⟨hlength, hsmall⟩ := digits_of_mapM hds
  rw [← hn, ← hlength]
  exact digitsValue_lt hsmall

/-- The whole part of a decimal has no more digits than its token. -/
theorem whole_lt {a : Amount} (h : Amount.ofToken? t = some a) : a.whole < tenPow (digitCount t) := by
  simp only [Amount.ofToken?, Option.bind_eq_bind, Option.bind_eq_some_iff] at h
  obtain ⟨whole, hwhole, h⟩ := h
  have heq : a.whole = whole := by
    split at h
    · cases h
      rfl
    · obtain ⟨ds, -, h⟩ := Option.bind_eq_some_iff.mp h
      cases h
      rfl
  have hle : digitCount (t.takeWhile (· != '.')) ≤ digitCount t :=
    digitCount_le_of_sublist (List.takeWhile_sublist _)
  rw [heq]
  exact (digits?_lt hwhole).trans_le (tenPow_le hle)

/-! ## Steps that cannot fail for a long number -/

/-- The number of the token is one that arithmetic keeps, if it is one. -/
def Short (t : Token) : Prop := ∀ a, Amount.ofToken? t = some a → a.whole < tenPow Amount.precision

/-- What was attempted did not meet a number that is too long. -/
def Fits {α : Type} (x : Except Trouble α) : Prop := x ≠ .error .overlong

variable {α β : Type}

theorem fits_pure (a : α) : Fits (pure a : Except Trouble α) := nofun

theorem fits_unreadable : Fits (throw .unreadable : Except Trouble α) := nofun

theorem fits_lift (o : Option α) : Fits (liftM o : Except Trouble α) := by
  cases o <;> exact nofun

theorem Fits.bind {x : Except Trouble α} {f : α → Except Trouble β} (h : Fits x)
    (hf : ∀ a, Fits (f a)) : Fits (x >>= f) := by
  cases x with
  | error e => exact fun he => h (by cases he; rfl)
  | ok a => exact hf a

theorem Fits.map {x : Except Trouble α} (h : Fits x) (f : α → β) : Fits (x.map f) := by
  cases x with
  | error e => exact fun he => h (by cases he; rfl)
  | ok a => exact nofun

theorem Fits.ite {p : Prop} [Decidable p] {x y : Except Trouble α} (hx : Fits x) (hy : Fits y) :
    Fits (if p then x else y) := by
  split
  · exact hx
  · exact hy

theorem fits_sixtieths {a : Amount} (ha : a.whole < tenPow Amount.precision) :
    Fits a.sixtieths := by
  rw [Amount.sixtieths, if_neg (Nat.not_le.mpr ha)]
  split <;> exact nofun

theorem fits_setMinute {a : Amount} (c : Clues) (ha : a.whole < tenPow Amount.precision) :
    Fits (c.setMinute a) :=
  (fits_sixtieths ha).bind fun _ => fits_pure _

theorem fits_labelled {a : Amount} (c : Clues) (t : Token) (unit : Nat)
    (ha : a.whole < tenPow Amount.precision) : Fits (labelled c t a unit) := by
  unfold labelled
  split
  · exact (fits_sixtieths ha).bind fun _ => fits_pure _
  · exact fits_setMinute c ha
  · exact fits_lift _
  · exact fits_pure _

theorem fits_clockTime {minutes : Token} (c : Clues) (a : Amount) (rest : List Token)
    (h : Short minutes) : Fits (clockTime c a minutes rest) := by
  rw [clockTime]
  cases hm : Amount.ofToken? minutes with
  | none => exact nofun
  | some m =>
    refine (fits_setMinute _ (h m hm)).bind fun c => ?_
    split
    · exact (fits_lift _).bind fun _ => fits_pure _
    · exact fits_pure _

theorem fits_separated (c : Clues) (t separator : Token) (rest : List Token) :
    Fits (separated c t separator rest) := by
  unfold separated
  refine (fits_lift _).bind fun p => ?_
  split
  · exact fits_pure _
  · split
    · exact fits_pure _
    · refine (fits_lift _).bind fun p => ?_
      split
      · split
        · exact (fits_lift _).bind fun third => (fits_lift _).bind fun p => fits_pure _
        · exact fits_pure _
      · exact fits_pure _

theorem fits_monthWord (c : Clues) (month : Nat) (rest : List Token) :
    Fits (monthWord today c month rest) := by
  unfold monthWord
  refine (fits_lift _).bind fun p => ?_
  split
  · split
    · split
      · exact (fits_lift _).bind fun n => (fits_lift _).bind fun p => fits_pure _
      · exact fits_pure _
    · exact fits_pure _
  · split
    · refine (fits_lift _).bind fun second => (fits_lift _).bind fun p => ?_
      split
      · split
        · exact (fits_lift _).bind fun third => (fits_lift _).bind fun p => fits_pure _
        · exact fits_pure _
      · exact fits_pure _
    · exact fits_pure _
  · exact fits_pure _

theorem fits_zoneOffset (c : Clues) (behindUtc : Bool) (rest : List Token) :
    Fits (zoneOffset c behindUtc rest) := by
  unfold zoneOffset
  refine (fits_lift _).bind fun t => .ite ?_ ?_
  · exact (fits_lift _).bind fun hours => (fits_lift _).bind fun minutes => fits_pure _
  · split
    · exact (fits_lift _).bind fun hours => (fits_lift _).bind fun t =>
        (fits_lift _).bind fun minutes => fits_pure _
    · exact .ite (fits_unreadable.bind fun _ => (fits_lift _).bind fun hours => fits_pure _)
        ((fits_lift _).bind fun hours => fits_pure _)

theorem fits_zoneWord (c : Clues) (t : Token) (rest : List Token) : Fits (zoneWord c t rest) := by
  unfold zoneWord
  split
  · exact .ite ((fits_zoneOffset _ _ _).map _) nofun
  · exact nofun

/-- A number fits if its token and those behind it are short. -/
theorem fits_number (c : Clues) (before : List Token) (t : Token) (rest : List Token)
    (ht : Short t) (hrest : ∀ u ∈ rest, Short u) : Fits (number c before t rest) := by
  unfold number
  cases ha : Amount.ofToken? t with
  | none => exact nofun
  | some a =>
    have hwhole := ht a ha
    refine .ite ((fits_lift _).bind fun c => fits_pure _)
      (.ite ((fits_lift _).bind fun c => fits_pure _)
      (.ite ((fits_lift _).bind fun c => fits_pure _) ?_))
    split
    · exact (fits_labelled _ _ _ hwhole).bind fun c => fits_pure _
    · split
      · rename_i minutes more _
        exact fits_clockTime c a more (hrest minutes (by simp))
      · refine .ite (fits_separated _ _ _ _) (.ite ?_ ?_)
        · split
          · exact fits_pure _
          · exact (fits_lift _).bind fun p => fits_pure _
        · split
          · exact fits_pure _
          · exact .ite ((fits_lift _).bind fun p => fits_pure _) fits_unreadable
      · exact (fits_lift _).bind fun p => fits_pure _

theorem fits_step (c : Clues) (before : List Token) (t : Token) (rest : List Token)
    (ht : Short t) (hrest : ∀ u ∈ rest, Short u) : Fits (step today c before t rest) := by
  unfold step
  split
  · exact fits_number _ _ _ _ ht hrest
  split
  · exact nofun
  split
  · exact nofun
  split
  · exact fits_monthWord _ _ _
  split
  · split <;> exact nofun
  · exact nofun
  · split
    · exact fits_zoneWord _ _ _
    split
    · exact fits_zoneOffset _ _ _
    split <;> exact nofun

/-- Tokens that are short are all read, or one of them is unreadable. -/
theorem fits_walk (c : Clues) (before ts : List Token) (hts : ∀ t ∈ ts, Short t) :
    Fits (walk today c before ts) := by
  induction c, before, ts using walk.induct today with
  | case1 c before =>
    rw [walk]
    exact nofun
  | case2 c before t rest c' taken hstep ih =>
    obtain ⟨ht, hrest⟩ := List.forall_mem_cons.mp hts
    rw [walk, hstep]
    exact ih fun u hu => hrest u (List.mem_of_mem_drop hu)
  | case3 c before t rest e hstep =>
    obtain ⟨ht, hrest⟩ := List.forall_mem_cons.mp hts
    have hfits : Fits (step today c before t rest) := fits_step c before t rest ht hrest
    rw [walk, hstep]
    rw [hstep] at hfits
    exact fun he => hfits (by cases he; rfl)

/-- A text of few digits names a date or none. -/
theorem exists_read_of_digitCount {s : String} (h : digitCount s.toList ≤ Amount.precision)
    (today : Date) : ∃ r, read today s = .ok r := by
  have hfits : Fits (walk today .none [] (tokens s.toList)) := by
    refine fits_walk _ _ _ fun t ht a ha => (whole_lt ha).trans_le ?_
    exact tenPow_le ((digitCount_le_of_mem_tokens ht).trans h)
  rw [read]
  cases hwalk : walk today .none [] (tokens s.toList) with
  | ok c => exact ⟨_, rfl⟩
  | error e =>
    cases e with
    | unreadable => exact ⟨_, rfl⟩
    | overlong => exact absurd hwalk hfits

/-- That a text of few digits names a date or none does not depend on the blanks at its ends. -/
theorem exists_read_trim {s : String} (h : digitCount s.toList ≤ Amount.precision) (today : Date) :
    ∃ r, read today (Text.trim s) = .ok r := by
  refine exists_read_of_digitCount ((?_ : _ ≤ digitCount s.toList).trans h) today
  rw [Text.trim, String.toList_ofList, Text.trimEnds, digitCount_reverse]
  refine (digitCount_le_of_sublist (List.dropWhile_sublist _)).trans ?_
  rw [digitCount_reverse]
  exact digitCount_le_of_sublist (List.dropWhile_sublist _)

end Formwork.DateText
