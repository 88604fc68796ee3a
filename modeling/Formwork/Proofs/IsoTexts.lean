import Formwork.DateText.Reader
import Formwork.Proofs.DecimalText
import Mathlib

/-!
# ISO texts read back

The ISO text of a time in UTC is a row of numbers with signs between them. `Scans` tells how a text
falls into tokens, and the tokens of the ISO text take the reader four steps: the date, the letter
behind it, the time of day, and the offset. So the text names the time that it was written for,
which is `read_iso`.
-/

namespace Formwork.DateText

variable {t : Token} {n : Nat} {c : Char} {cs ds : List Char} {ts done : List Token}

/-! ## Numerals -/

/-- A token of digits and the number that it writes. -/
structure Numeral (t : Token) (n : Nat) : Prop where
  ne_nil : t ≠ []
  digits : AllDigits t
  value : Nat.ofDigitChars 10 t 0 = n

theorem numeral_padded (width n : Nat) : Numeral (Text.padded width n) n where
  ne_nil := List.append_ne_nil_of_right_ne_nil _ Nat.toDigits_ne_nil
  digits := (allDigits_zeros _).append (allDigits_decimalDigits n)
  value := by rw [Text.padded, ofDigitChars_zeros_append, ofDigitChars_decimalDigits]

theorem length_padded {width : Nat} (hwidth : 0 < width) (h : n < tenPow width) :
    (Text.padded width n).length = width := by
  have hdigits : (Text.decimalDigits n).length ≤ width :=
    (Nat.length_toDigits_le_iff (by decide) hwidth).mpr h
  rw [Text.padded, List.length_append, List.length_replicate]
  omega

theorem mapM_digitValue? (h : AllDigits cs) : cs.mapM Text.digitValue? = some (digitNumbers cs) := by
  induction cs with
  | nil => rfl
  | cons c cs ih =>
    obtain ⟨hc, hcs⟩ := List.forall_mem_cons.mp h
    rw [List.mapM_cons, digitValue?_of_isDigit hc, ih hcs]
    rfl

namespace Numeral

theorem digits? (h : Numeral t n) : DateText.digits? t = some n := by
  have hsome : (!(digitNumbers t).isEmpty) = true := by
    simpa [digitNumbers] using h.ne_nil
  rw [DateText.digits?, mapM_digitValue? h.digits, Option.bind_eq_bind, Option.bind_some, hsome,
    digitsValue_digitNumbers, h.value]
  rfl

theorem natural? (h : Numeral t n) (hlength : t.length ≤ 6) : DateText.natural? t = some n := by
  rw [DateText.natural?, if_pos (hlength.trans (by decide)), h.digits?]

/-- A number without a point is a whole amount. -/
theorem amount? (h : Numeral t n) : Amount.ofToken? t = some ⟨n, []⟩ := by
  have hpoint := ne_of_allDigits (d := '.') h.digits rfl
  rw [Amount.ofToken?, List.takeWhile_eq_self_iff.mpr hpoint,
    List.dropWhile_eq_nil_iff.mpr hpoint, h.digits?]
  rfl

theorem exists_cons (h : Numeral t n) : ∃ c cs, t = c :: cs ∧ c.isDigit = true := by
  obtain ⟨c, cs, rfl⟩ := List.exists_cons_of_ne_nil h.ne_nil
  exact ⟨c, cs, rfl, h.digits c List.mem_cons_self⟩

end Numeral

/-! ## Numbers are no words -/

theorem not_isUpper_of_isDigit (h : c.isDigit = true) : ¬ c.isUpper = true := by
  have hbounds := bounds_of_isDigit h
  have hval : c.val.toNat = c.toNat := rfl
  simp [Char.isUpper, UInt32.le_iff_toNat_le]
  omega

/-- A token that begins with a digit is none of the words that begin with something else. -/
theorem contains_lower_eq_false {words : List String}
    (hwords : ∀ w ∈ words, w.toList.head?.all (!·.isDigit) = true) (hc : c.isDigit = true) :
    words.contains (Token.lower (c :: cs)) = false := by
  rw [← Bool.not_eq_true, List.contains_iff_mem]
  intro hmem
  have hhead := hwords _ hmem
  rw [Token.lower, String.toList_ofList, List.map_cons, List.head?_cons,
    Char.toLower_eq_of_not_isUpper (not_isUpper_of_isDigit hc), Option.all_some, hc] at hhead
  cases hhead

theorem indexIn_eq_none {groups : List (List String)}
    (hgroups : ∀ words ∈ groups, ∀ w ∈ words, w.toList.head?.all (!·.isDigit) = true)
    (hc : c.isDigit = true) : indexIn groups (c :: cs) = none := by
  rw [indexIn, List.findIdx?_eq_none_iff]
  exact fun words hwords => contains_lower_eq_false (hgroups words hwords) hc

theorem Numeral.month?_eq_none (h : Numeral t n) : month? t = none := by
  obtain ⟨c, cs, rfl, hc⟩ := h.exists_cons
  rw [month?, indexIn_eq_none (by decide) hc, Option.map_none]

theorem Numeral.isFiller_eq_false (h : Numeral t n) : isFiller t = false := by
  obtain ⟨c, cs, rfl, hc⟩ := h.exists_cons
  exact contains_lower_eq_false (by decide) hc

/-! ## Scanning -/

/-- How a text falls into tokens: signs that stand alone, and runs that end before a character that
does not belong to them. -/
inductive Scans : List Char → List Token → Prop
  | nil : Scans [] []
  | sign {c : Char} {cs : List Char} {ts : List Token}
      (hstart : ∀ done, Scan.start done c = ⟨[c] :: done, none⟩) (hcs : Scans cs ts) :
      Scans (c :: cs) ([c] :: ts)
  | run {t : Token} {p : Partial} {cs : List Char} {ts : List Token}
      (hrun : ∀ done, t.foldl Scan.feed ⟨done, none⟩ = ⟨done, some p⟩)
      (htokens : ∀ atEnd, p.tokens atEnd = [t])
      (hend : ∀ c ∈ cs.head?, p.extend? c = none) (hcs : Scans cs ts) :
      Scans (t ++ cs) (t :: ts)

theorem Scans.finish (h : Scans cs ts) (done : List Token) :
    (cs.foldl Scan.feed ⟨done, none⟩).finish = done.reverse ++ ts := by
  induction h generalizing done with
  | nil => rfl
  | sign hstart hcs ih =>
    rw [List.foldl_cons, Scan.feed, hstart, ih, List.reverse_cons, List.append_assoc]
    rfl
  | @run t p cs ts hrun htokens hend hcs ih =>
    -- What follows closes the run, so that it is scanned as if no run had been open.
    have hclose : (cs.foldl Scan.feed ⟨done, some p⟩).finish =
        (cs.foldl Scan.feed ⟨t :: done, none⟩).finish := by
      cases cs with
      | nil => simp [Scan.finish, htokens]
      | cons c cs =>
        have hfeed : Scan.feed ⟨done, some p⟩ c = Scan.feed ⟨t :: done, none⟩ c := by
          simp [Scan.feed, hend c rfl, htokens]
        rw [List.foldl_cons, List.foldl_cons, hfeed]
    rw [List.foldl_append, hrun, hclose, ih, List.reverse_cons, List.append_assoc]
    rfl

theorem Scans.tokens (h : Scans cs ts) (hnul : ∀ c ∈ cs, (c != '\x00') = true) :
    tokens cs = ts := by
  rw [DateText.tokens, List.filter_eq_self.mpr hnul, h.finish]
  rfl

/-! ## Runs of digits -/

theorem isDigitLike_of_isDigit (h : c.isDigit = true) : Text.isDigitLike c = true := by
  rw [Text.isDigitLike, Text.isDigit, digitValue?_of_isDigit h]
  rfl

theorem isLetter_of_isDigit (h : c.isDigit = true) : Text.isLetter c = false := by
  have hbounds := bounds_of_isDigit h
  have hval : c.val.toNat = c.toNat := rfl
  rw [Text.isLetter, if_pos (by omega)]
  simp [Char.isAlpha, Char.isUpper, Char.isLower, UInt32.le_iff_toNat_le]
  omega

theorem start_digit (h : c.isDigit = true) :
    Scan.start done c = ⟨done, some ⟨.number, false, [c]⟩⟩ := by
  rw [Scan.start, isLetter_of_isDigit h, isDigitLike_of_isDigit h]
  rfl

theorem foldl_digits {run : Run} (hrun : run = .number ∨ run = .dottedNumber)
    (h : AllDigits ds) (chars : List Char) :
    ds.foldl Scan.feed ⟨done, some ⟨run, false, chars⟩⟩ =
      ⟨done, some ⟨run, false, ds.reverse ++ chars⟩⟩ := by
  induction ds generalizing chars with
  | nil => rfl
  | cons d ds ih =>
    obtain ⟨hd, hds⟩ := List.forall_mem_cons.mp h
    have hextend : Partial.extend? ⟨run, false, chars⟩ d = some ⟨run, false, d :: chars⟩ := by
      rcases hrun with rfl | rfl <;> simp [Partial.extend?, isDigitLike_of_isDigit hd]
    rw [List.foldl_cons, Scan.feed]
    simp only [hextend]
    rw [ih hds, List.reverse_cons, List.append_assoc]
    rfl

/-- Digits are one run. -/
theorem foldl_number (hne : ds ≠ []) (h : AllDigits ds) (done : List Token) :
    ds.foldl Scan.feed ⟨done, none⟩ = ⟨done, some ⟨.number, false, ds.reverse⟩⟩ := by
  obtain ⟨d, ds, rfl⟩ := List.exists_cons_of_ne_nil hne
  obtain ⟨hd, hds⟩ := List.forall_mem_cons.mp h
  rw [List.foldl_cons, Scan.feed]
  simp only
  rw [start_digit hd, foldl_digits (.inl rfl) hds, List.reverse_cons]

/-- The characters that stand behind the numbers of an ISO text. -/
def isoSigns : List Char := ['-', 'T', ':', '+']

theorem extend?_number (hc : c ∈ isoSigns) (chars : List Char) :
    Partial.extend? ⟨.number, false, chars⟩ c = none := by
  simp only [isoSigns, List.mem_cons, List.not_mem_nil, or_false] at hc
  rcases hc with rfl | rfl | rfl | rfl <;> simp [Partial.extend?] <;> decide

theorem tokens_number (ds : List Char) (atEnd : Bool) :
    Partial.tokens ⟨.number, false, ds.reverse⟩ atEnd = [ds] := by
  simp [Partial.tokens]

theorem Scans.number (h : Numeral t n) (hc : c ∈ isoSigns) (hcs : Scans (c :: cs) ts) :
    Scans (t ++ c :: cs) (t :: ts) := by
  refine .run (foldl_number h.ne_nil h.digits) (tokens_number t) ?_ hcs
  rintro d ⟨⟩
  exact extend?_number hc _

theorem Scans.last (h : Numeral t n) : Scans t [t] := by
  have hrun := Scans.run (foldl_number h.ne_nil h.digits) (tokens_number t)
    (fun _ hc => by cases hc) .nil
  rwa [List.append_nil] at hrun

/-- Seconds: two digits, with six places or without. -/
inductive Seconds : Token → Nat → Nat → Prop
  | whole {t : Token} {second : Nat} (h : Numeral t second) (hlength : t.length = 2) :
      Seconds t second 0
  | places {t u : Token} {second microsecond : Nat} (h : Numeral t second) (hlength : t.length = 2)
      (hplaces : Numeral u microsecond) (hsix : u.length = 6) :
      Seconds (t ++ '.' :: u) second microsecond

/-- Digits with a point among them are one run. -/
theorem foldl_point (hne : ds ≠ []) (hds : AllDigits ds) (hcs : AllDigits cs)
    (done : List Token) :
    (ds ++ '.' :: cs).foldl Scan.feed ⟨done, none⟩ =
      ⟨done, some ⟨.dottedNumber, false, (ds ++ '.' :: cs).reverse⟩⟩ := by
  have hpoint : Scan.feed ⟨done, some ⟨.number, false, ds.reverse⟩⟩ '.' =
      ⟨done, some ⟨.dottedNumber, false, '.' :: ds.reverse⟩⟩ := rfl
  rw [List.foldl_append, foldl_number hne hds, List.foldl_cons, hpoint,
    foldl_digits (.inr rfl) hcs]
  simp

/-- A run with one point, which is not its last character, is not taken apart. -/
theorem tokens_point (hds : AllDigits ds) (hcs : AllDigits cs) (hne : cs ≠ []) (atEnd : Bool) :
    Partial.tokens ⟨.dottedNumber, false, (ds ++ '.' :: cs).reverse⟩ atEnd =
      [ds ++ '.' :: cs] := by
  have hcount : (ds ++ '.' :: cs).count '.' = 1 := by
    have hnone : ∀ {es}, AllDigits es → es.count '.' = 0 := fun hes =>
      List.count_eq_zero.mpr fun hmem => absurd (hes '.' hmem) (by decide)
    rw [List.count_append, List.count_cons_self, hnone hds, hnone hcs]
  have hlast : (ds ++ '.' :: cs).reverse.head? = some (cs.getLast hne) := by
    simp [List.getLast?_eq_some_getLast hne]
  have hdigit : (cs.getLast hne).isDigit = true := hcs _ (List.getLast_mem hne)
  have hpoint : cs.getLast hne ≠ '.' := fun h => absurd (h ▸ hdigit) (by decide)
  have hcomma : cs.getLast hne ≠ ',' := fun h => absurd (h ▸ hdigit) (by decide)
  unfold Partial.tokens
  simp only [hlast, List.reverse_reverse, hcount]
  simp [hpoint, hcomma]

theorem Scans.seconds {s u : Nat} (h : Seconds t s u) (hcs : Scans ('+' :: cs) ts) :
    Scans (t ++ '+' :: cs) (t :: ts) := by
  cases h with
  | whole h => exact .number h (by decide) hcs
  | places h hlength hplaces hsix =>
    refine .run (foldl_point h.ne_nil h.digits hplaces.digits)
      (tokens_point h.digits hplaces.digits hplaces.ne_nil) (fun c hc => ?_) hcs
    cases hc
    rfl

theorem Scans.letter (h : Numeral t n) (hcs : Scans (t ++ cs) ts) :
    Scans ('T' :: (t ++ cs)) (['T'] :: ts) := by
  obtain ⟨c, ds, rfl, hc⟩ := h.exists_cons
  refine .run (t := ['T']) (p := ⟨.word, false, ['T']⟩) (fun _ => rfl) (fun _ => rfl) ?_ hcs
  rintro d ⟨⟩
  have hpoint : c ≠ '.' := by
    rintro rfl
    cases hc
  simp [Partial.extend?, isLetter_of_isDigit hc, hpoint]

/-! ## The tokens of an ISO text -/

/-- The seconds of a time of day. -/
def secondsToken (t : TimeOfDay) : Token :=
  if t.microsecond = 0 then Text.padded 2 t.second
  else Text.padded 2 t.second ++ '.' :: Text.padded 6 t.microsecond

theorem seconds_secondsToken (t : TimeOfDay) :
    Seconds (secondsToken t) t.second t.microsecond := by
  obtain ⟨-, -, hsecond, hmicrosecond⟩ := t.valid
  have htwo : (Text.padded 2 t.second).length = 2 :=
    length_padded (by decide) (show t.second < 100 by omega)
  have hsix : (Text.padded 6 t.microsecond).length = 6 :=
    length_padded (by decide) (show t.microsecond < 1000000 by omega)
  unfold secondsToken
  split
  · rename_i hzero
    rw [hzero]
    exact .whole (numeral_padded _ _) htwo
  · exact .places (numeral_padded _ _) htwo (numeral_padded _ _) hsix

variable {now : DateTime} {today : Date}

theorem toList_iso (hutc : now.offset = some 0) :
    now.iso.toList =
      Text.padded 4 now.date.year ++ '-' :: (Text.padded 2 now.date.month ++
        '-' :: (Text.padded 2 now.date.day ++ 'T' :: (Text.padded 2 now.time.hour ++
          ':' :: (Text.padded 2 now.time.minute ++ ':' :: (secondsToken now.time ++
            '+' :: ['0', '0', ':', '0', '0']))))) := by
  have hoffset : DateTime.offsetChars 0 = ['+', '0', '0', ':', '0', '0'] := rfl
  rw [DateTime.iso, String.toList_ofList, DateTime.isoChars, hutc, Option.map_some,
    Option.getD_some, hoffset, Date.isoChars, DateTime.timeChars, secondsToken]
  by_cases hzero : now.time.microsecond = 0
  · simp [hzero]
  · simp [hzero]

/-- The tokens of the ISO text of a time in UTC. -/
def isoTokens (now : DateTime) : List Token :=
  [Text.padded 4 now.date.year, ['-'], Text.padded 2 now.date.month, ['-'],
    Text.padded 2 now.date.day, ['T'], Text.padded 2 now.time.hour, [':'],
    Text.padded 2 now.time.minute, [':'], secondsToken now.time, ['+'], ['0', '0'], [':'],
    ['0', '0']]

theorem scans_iso (hutc : now.offset = some 0) : Scans now.iso.toList (isoTokens now) := by
  rw [toList_iso hutc]
  have hzeros : Numeral ['0', '0'] 0 := ⟨by simp, allDigits_zeros 2, rfl⟩
  have hoffset : Scans ['0', '0', ':', '0', '0'] [['0', '0'], [':'], ['0', '0']] :=
    .number hzeros (by decide) (.sign (fun _ => rfl) (.last hzeros))
  have hnumber : ∀ {width n c cs ts}, c ∈ isoSigns → Scans (c :: cs) ts →
      Scans (Text.padded width n ++ c :: cs) (Text.padded width n :: ts) :=
    fun hc hcs => .number (numeral_padded _ _) hc hcs
  refine hnumber (by decide) (.sign (fun _ => rfl) ?_)
  refine hnumber (by decide) (.sign (fun _ => rfl) ?_)
  refine hnumber (by decide) (.letter (numeral_padded _ _) ?_)
  refine hnumber (by decide) (.sign (fun _ => rfl) ?_)
  refine hnumber (by decide) (.sign (fun _ => rfl) ?_)
  exact .seconds (seconds_secondsToken _) (.sign (fun _ => rfl) hoffset)

/-- A character of an ISO text. -/
def IsIsoChar (c : Char) : Prop := c.isDigit = true ∨ c ∈ '.' :: isoSigns

theorem IsIsoChar.isBlank_eq_false (h : IsIsoChar c) : Text.isBlank c = false := by
  rcases h with h | h
  · have hbounds := bounds_of_isDigit h
    simp [Text.isBlank]
    omega
  · simp only [isoSigns, List.mem_cons, List.not_mem_nil, or_false] at h
    rcases h with rfl | rfl | rfl | rfl | rfl <;> rfl

theorem IsIsoChar.ne_nul (h : IsIsoChar c) : (c != '\x00') = true := by
  rw [bne_iff_ne]
  rintro rfl
  exact absurd h (by simp [IsIsoChar, isoSigns])

theorem isIsoChar_of_mem (hutc : now.offset = some 0) : ∀ c ∈ now.iso.toList, IsIsoChar c := by
  have hpadded : ∀ width n, ∀ c ∈ Text.padded width n, IsIsoChar c :=
    fun width n c hc => .inl ((numeral_padded width n).digits c hc)
  have hsign : ∀ {c cs}, c ∈ '.' :: isoSigns → (∀ d ∈ cs, IsIsoChar d) →
      ∀ d ∈ c :: cs, IsIsoChar d :=
    fun hc hcs => List.forall_mem_cons.mpr ⟨.inr hc, hcs⟩
  have happend : ∀ {cs ds}, (∀ c ∈ cs, IsIsoChar c) → (∀ c ∈ ds, IsIsoChar c) →
      ∀ c ∈ cs ++ ds, IsIsoChar c :=
    fun hcs hds => List.forall_mem_append.mpr ⟨hcs, hds⟩
  have hseconds : ∀ c ∈ secondsToken now.time, IsIsoChar c := by
    unfold secondsToken
    split
    · exact hpadded _ _
    · exact happend (hpadded _ _) (hsign (by decide) (hpadded _ _))
  rw [toList_iso hutc]
  refine happend (hpadded _ _) (hsign (by decide) ?_)
  refine happend (hpadded _ _) (hsign (by decide) ?_)
  refine happend (hpadded _ _) (hsign (by decide) ?_)
  refine happend (hpadded _ _) (hsign (by decide) ?_)
  refine happend (hpadded _ _) (hsign (by decide) ?_)
  refine happend hseconds (hsign (by decide) ?_)
  have hzeros : ∀ c ∈ ['0', '0'], IsIsoChar c := fun c hc => .inl (allDigits_zeros 2 c hc)
  exact @happend ['0', '0'] [':', '0', '0'] hzeros (hsign (by decide) hzeros)

theorem trim_of_isBlank_eq_false {s : String} (h : ∀ c ∈ s.toList, Text.isBlank c = false) :
    Text.trim s = s := by
  have hkeep : ∀ {cs : List Char}, (∀ c ∈ cs, Text.isBlank c = false) →
      cs.dropWhile Text.isBlank = cs := by
    intro cs hcs
    cases cs with
    | nil => rfl
    | cons c cs => rw [List.dropWhile_cons, hcs c List.mem_cons_self, if_neg Bool.false_ne_true]
  rw [Text.trim, Text.trimEnds, hkeep h, hkeep (fun c hc => h c (List.mem_reverse.mp hc)),
    List.reverse_reverse, String.ofList_toList]

theorem trim_iso (hutc : now.offset = some 0) : Text.trim now.iso = now.iso :=
  trim_of_isBlank_eq_false fun c hc => (isIsoChar_of_mem hutc c hc).isBlank_eq_false

theorem tokens_iso (hutc : now.offset = some 0) : tokens now.iso.toList = isoTokens now :=
  (scans_iso hutc).tokens fun c hc => (isIsoChar_of_mem hutc c hc).ne_nul

/-! ## The steps of the reader -/

variable {clues clues' : Clues} {before rest : List Token}

theorem walk_of_step {taken : Nat} (h : step today clues before t rest = .ok (clues', taken)) :
    walk today clues before (t :: rest) =
      walk today clues' ((rest.take taken).reverse ++ t :: before) (rest.drop taken) := by
  rw [walk, h]

/-- What is found is gone on with. -/
theorem found_bind {α β : Type} (a : α) (f : α → Except Trouble β) :
    (liftM (some a) >>= f) = f a := rfl

/-- A token that is a number is read as one. -/
theorem step_numeral (h : Numeral t n) :
    step today clues before t rest = number clues before t rest := by
  obtain ⟨c, cs, rfl, hc⟩ := h.exists_cons
  have hdigit : Text.isDigit c = true := by
    rw [Text.isDigit, digitValue?_of_isDigit hc]
    rfl
  rw [step, if_pos (by simp [hdigit, h.amount?])]

theorem addToken?_two (h : Numeral t n) (htwo : t.length = 2) (p : Parts) :
    p.addToken? t = some (p.addPlain n) := by
  rw [Parts.addToken?, h.natural? (by omega), htwo]
  rfl

theorem addMember?_two (h : Numeral t n) (htwo : t.length = 2) (p : Parts) :
    addMember? p t = some (p.addPlain n) := by
  rw [addMember?, h.month?_eq_none]
  exact addToken?_two h htwo p

/-- Four digits tell the year with its century. -/
theorem addToken?_four (h : Numeral t n) (hfour : t.length = 4) :
    Parts.empty.addToken? t = some ⟨[n], some 0, none, true⟩ := by
  rw [Parts.addToken?, h.natural? (by omega), hfour]
  rfl

/-- The year, the month and the day. -/
def dateClues (d : Date) : Clues :=
  { Clues.none with parts := ⟨[d.year, d.month, d.day], some 0, none, true⟩ }

theorem step_date {y m d : Token} {date : Date} (hy : Numeral y date.year) (hfour : y.length = 4)
    (hm : Numeral m date.month) (hm2 : m.length = 2) (hd : Numeral d date.day)
    (hd2 : d.length = 2) :
    step today Clues.none [] y (['-'] :: m :: ['-'] :: d :: rest) = .ok (dateClues date, 4) := by
  have hunit : unitAround? [] (['-'] :: m :: ['-'] :: d :: rest) = none := rfl
  have hseparated : separated Clues.none y ['-'] (m :: ['-'] :: d :: rest) =
      .ok (dateClues date, 4) := by
    unfold separated
    simp only [hm.isFiller_eq_false]
    rw [Clues.none, addToken?_four hy hfour]
    simp only [found_bind, addMember?_two hm hm2, List.head?_cons, addMember?_two hd hd2]
    rfl
  rw [step_numeral hy, number, hy.amount?]
  simp only [hfour, hunit]
  exact hseparated

/-- A token that is neither a number nor a word of the vocabulary belongs to a zone or says
nothing. -/
theorem step_of_no_word (hdigit : t.head?.any Text.isDigit = false)
    (hnumber : isUnreadableNumber t = false) (hweekday : weekday? t = none)
    (hmonth : month? t = none) (hnoon : afterNoon? t = none) :
    step today clues before t rest =
      if clues.couldBeZone t && clues.zoneOffset.isNone then zoneWord clues t rest
      else if clues.hour.isSome && (t == ['+'] || t == ['-']) then
        zoneOffset clues (t == ['-']) rest
      else if isFiller t then .ok (clues, 0)
      else .error .unreadable := by
  unfold step
  simp only [hdigit, hnumber, hweekday, hmonth, hnoon]
  rfl

/-- The letter between the date and the time of day says nothing. -/
theorem step_letter (hhour : clues.hour = none) :
    step today clues before ['T'] rest = .ok (clues, 0) := by
  have hzone : clues.couldBeZone ['T'] = false := by
    rw [Clues.couldBeZone, hhour]
    rfl
  rw [step_of_no_word (by decide) (by decide) (by decide) (by decide) (by decide), hzone, hhour]
  rfl

theorem setSecond?_of_seconds {second microsecond : Nat} (h : Seconds t second microsecond)
    (clues : Clues) :
    clues.setSecond? t =
      some { clues with second := some second, microsecond := some microsecond } := by
  cases h with
  | whole h hlength =>
    have hpoint := ne_of_allDigits (d := '.') h.digits rfl
    rw [Clues.setSecond?, List.takeWhile_eq_self_iff.mpr hpoint,
      List.dropWhile_eq_nil_iff.mpr hpoint, h.natural? (by omega)]
    rfl
  | @places t u _ _ h hlength hplaces hsix =>
    have hpoint := ne_of_allDigits (d := '.') h.digits rfl
    have hmicro : (u ++ List.replicate (6 - u.length) '0').take 6 = u := by
      rw [hsix, Nat.sub_self, List.replicate_zero, List.append_nil, ← hsix, List.take_length]
    rw [Clues.setSecond?, Literal.takeWhile_append_cons hpoint rfl,
      Literal.dropWhile_append_cons hpoint rfl, h.natural? (by omega)]
    simp only [hmicro, hplaces.natural? hsix.le]
    rfl

/-- The clues with a time of day. -/
def withTime (clues : Clues) (t : TimeOfDay) : Clues :=
  { clues with
    hour := some t.hour, minute := some t.minute, second := some t.second,
    microsecond := some t.microsecond }

theorem setMinute_whole {minute : Nat} (h : minute < 60) (clues : Clues) :
    clues.setMinute ⟨minute, []⟩ =
      .ok { clues with minute := some minute, second := none } := by
  have hfits : ¬ tenPow Amount.precision ≤ minute := by
    have hmany : 60 ≤ tenPow Amount.precision := by decide
    omega
  rw [Clues.setMinute, Amount.sixtieths, if_neg hfits]
  rfl

theorem step_time {h m s : Token} {time : TimeOfDay} (hh : Numeral h time.hour)
    (hh2 : h.length = 2) (hm : Numeral m time.minute)
    (hs : Seconds s time.second time.microsecond) :
    step today clues (['T'] :: before) h ([':'] :: m :: [':'] :: s :: rest) =
      .ok (withTime clues time, 4) := by
  have hminute := time.valid.2.1
  have hunit : unitAround? (['T'] :: before) ([':'] :: m :: [':'] :: s :: rest) = none := rfl
  have hclock : clockTime clues ⟨time.hour, []⟩ m ([':'] :: s :: rest) =
      .ok (withTime clues time, 4) := by
    unfold clockTime
    rw [hm.amount?]
    simp only [found_bind, setMinute_whole hminute, setSecond?_of_seconds hs]
    rfl
  rw [step_numeral hh, number, hh.amount?]
  simp only [hh2, hunit, found_bind]
  rw [if_neg (by simp), if_neg (by simp), if_neg (by simp)]
  exact hclock

/-- The offset of a time in UTC. -/
theorem step_offset (hhour : clues.hour.isSome = true) :
    step today clues before ['+'] [['0', '0'], [':'], ['0', '0']] =
      .ok ({ clues with zoneOffset := some 0 }, 3) := by
  have hzone : clues.couldBeZone ['+'] = false := by
    rw [Clues.couldBeZone, show isZoneShaped ['+'] = false from rfl, Bool.and_false]
  rw [step_of_no_word (by decide) (by decide) (by decide) (by decide) (by decide), hzone, hhour]
  rfl

/-! ## The whole text -/

/-- The clues of an ISO text. -/
def isoClues (now : DateTime) : Clues :=
  { withTime (dateClues now.date) now.time with zoneOffset := some 0 }

theorem daysInMonth_le (year month : Nat) : daysInMonth year month ≤ 31 := by
  unfold daysInMonth
  split
  · split <;> decide
  all_goals decide

theorem walk_iso (now : DateTime) (today : Date) :
    walk today Clues.none [] (isoTokens now) = .ok (isoClues now) := by
  obtain ⟨⟨-, hyear⟩, ⟨-, hmonth⟩, -, hday⟩ := now.date.valid
  obtain ⟨hhour, hminute, -, -⟩ := now.time.valid
  have htwo : ∀ {n}, n < 100 → (Text.padded 2 n).length = 2 := fun h => length_padded (by decide) h
  have hlast := daysInMonth_le now.date.year now.date.month
  have hfour : (Text.padded 4 now.date.year).length = 4 :=
    length_padded (by decide) (show now.date.year < 10000 by omega)
  have hdate := fun rest => @step_date today rest _ _ _ now.date (numeral_padded 4 _) hfour
    (numeral_padded 2 _) (htwo (by omega)) (numeral_padded 2 _) (htwo (by omega))
  refine (walk_of_step (hdate _)).trans ?_
  refine (walk_of_step (step_letter rfl)).trans ?_
  refine (walk_of_step (step_time (numeral_padded 2 _) (htwo (by omega)) (numeral_padded 2 _)
    (seconds_secondsToken _))).trans ?_
  refine (walk_of_step (step_offset rfl)).trans ?_
  exact walk.eq_1 ..

theorem date?_isoClues (now : DateTime) (today : Date) :
    (isoClues now).date? today = some now.date := by
  have hmonth := now.date.valid.2.1
  have hparts : Date.ofParts? now.date.year now.date.month now.date.day = some now.date :=
    dif_pos now.date.valid
  -- The year is the first number and has its century.
  simp [Clues.date?, isoClues, withTime, dateClues, Parts.resolve?, Parts.resolveThree, fullYear,
    hmonth, hparts]

/-- The clues tell the time, whatever the day. -/
theorem dateTime?_isoClues (hutc : now.offset = some 0) (today : Date) :
    (isoClues now).dateTime? today = some now := by
  have htime : TimeOfDay.ofParts? now.time.hour now.time.minute now.time.second
      now.time.microsecond = some now.time := dif_pos now.time.valid
  have hoffset : (isoClues now).offset? = some (some 0) := rfl
  rw [Clues.dateTime?, date?_isoClues, hoffset]
  simp only [isoClues, withTime, Option.getD_some, htime]
  show some (DateTime.mk now.date now.time (some 0)) = some now
  rw [← hutc]

/-- The ISO text of a time in UTC is read as that time. -/
theorem read_iso (hutc : now.offset = some 0) (today : Date) :
    read today (Text.trim now.iso) = .ok (some now) := by
  rw [read, trim_iso hutc, tokens_iso hutc, walk_iso, ← dateTime?_isoClues hutc today]

end Formwork.DateText

/-- What is entered as an ISO text has an offset of less than a day, unlike what some other texts
name. -/
theorem Formwork.DateTime.hasText_of_ofIso? {s : String} {t : Formwork.DateTime}
    (h : ofIso? s = some t) : t.hasText = true :=
  (Option.filter_eq_some_iff.mp h).2
