import Formwork.Form.Expectation
import Mathlib

/-!
# Whole words

A text is taken apart into words in three steps. It is `spaced`, which puts a blank at every place
where a capital stands behind a small letter or a digit; it is put into lower case; and its runs of
small letters and digits are its words. The breaks are looked for one behind the other, and none is
missed, since a capital that ends one does not begin the next. Outside of ASCII a lower case may be
anything that `LowerCase` allows, for no such character is part of a word.

The blank between the name and the label of a field keeps the words of the two apart. So the words
of the field are those of its name and those of its label, and a format is expected exactly where a
word that hints at it is a whole run in one of them: `formats_by_whole_words`.
-/

namespace Formwork

namespace Words

/-- A text with a blank at every place where a capital stands behind a small letter or a digit. -/
def spaced (cs : List Char) : List Char :=
  cs.zipIdx.flatMap fun (c, i) =>
    if isSmall c && cs[i + 1]?.any Char.isUpper then [c, ' '] else [c]

/-- What a character may be in lower case. Of the characters outside of ASCII, the sign for kelvin
and the capital with a dot have an ASCII letter in it. All others have some characters outside of
ASCII, which may differ from place to place. -/
inductive LowersTo : Char → List Char → Prop
  | ascii {c} (hc : c.toNat < 128) : LowersTo c [c.toLower]
  | kelvin : LowersTo '\u212a' ['k']
  | dotted : LowersTo '\u0130' ['i', '\u0307']
  | foreign {c ds} (hc : 128 ≤ c.toNat) (hkelvin : c ≠ '\u212a') (hdotted : c ≠ '\u0130')
      (hne : ds ≠ []) (hds : ∀ d ∈ ds, 128 ≤ d.toNat) : LowersTo c ds

/-- What a text may be in lower case. -/
inductive LowerCase : List Char → List Char → Prop
  | nil : LowerCase [] []
  | cons {c cs ds es} (hc : LowersTo c ds) (hcs : LowerCase cs es) : LowerCase (c :: cs) (ds ++ es)

/-- A way to put texts into lower case. -/
structure LowerCasing where
  apply : List Char → List Char
  lowerCase : ∀ cs, LowerCase cs (apply cs)

/-- A longest run of characters of a class. -/
structure IsRun (keep : Char → Bool) (run cs : List Char) : Prop where
  ne_nil : run ≠ []
  kept : ∀ c ∈ run, keep c = true
  whole : ∃ front back, cs = front ++ (run ++ back) ∧
    (∀ c ∈ front.getLast?, keep c = false) ∧ ∀ c ∈ back.head?, keep c = false

namespace LowerCasing

/-- The text in which the words are looked for. -/
def text (casing : LowerCasing) (s : String) : List Char := casing.apply (spaced s.toList)

/-- The words of a text. -/
def words (casing : LowerCasing) (s : String) : Set String :=
  {w | IsRun isSmall w.toList (casing.text s)}

/-- The formats that the words of a text hint at. -/
def formats (casing : LowerCasing) (s : String) : Set TextFormat :=
  {format | ∃ w ∈ format.hints, w ∈ casing.words s}

/-- Wherever a text has a certain word in it, that is a proper part of a run: there is one more
letter or digit before or behind it. -/
def OnlyInside (casing : LowerCasing) (s w : String) : Prop :=
  ∀ front back, casing.text s = front ++ (w.toList ++ back) →
    (∃ c ∈ front.getLast?, isSmall c = true) ∨ ∃ c ∈ back.head?, isSmall c = true

end LowerCasing

variable {keep : Char → Bool} {c d : Char} {w run cs ds rest : List Char}
variable {more : List (List Char)}

/-! ## Characters -/

theorem isSmall_iff :
    isSmall c = true ↔ 97 ≤ c.toNat ∧ c.toNat ≤ 122 ∨ 48 ≤ c.toNat ∧ c.toNat ≤ 57 := by
  simp [isSmall, Char.isLower, Char.isDigit, UInt32.le_iff_toNat_le]

theorem not_isSmall_of_isUpper (h : c.isUpper = true) : isSmall c = false := by
  have hbounds : 65 ≤ c.toNat ∧ c.toNat ≤ 90 := by
    simpa [Char.isUpper, UInt32.le_iff_toNat_le] using h
  rw [Bool.eq_false_iff, Ne, isSmall_iff]
  omega

theorem not_isSmall_foreign (h : 128 ≤ c.toNat) : isSmall c = false := by
  rw [Bool.eq_false_iff, Ne, isSmall_iff]
  omega

theorem lower_foreign (h : 128 ≤ c.toNat) (hkelvin : c ≠ '\u212a') (hdotted : c ≠ '\u0130') :
    lower c = [c] := by
  have hlower : c.toLower = c := by
    have hval : c.val.toNat = c.toNat := rfl
    have hlast : 'Z'.val.toNat = 90 := rfl
    rw [Char.toLower, dif_neg]
    simp only [ge_iff_le, UInt32.le_iff_toNat_le]
    omega
  rw [lower, beq_false_of_ne hkelvin, beq_false_of_ne hdotted, hlower]
  rfl

theorem lower_ascii (h : c.toNat < 128) : lower c = [c.toLower] := by
  have hkelvin : c ≠ '\u212a' := by
    rintro rfl
    exact absurd h (by decide)
  have hdotted : c ≠ '\u0130' := by
    rintro rfl
    exact absurd h (by decide)
  rw [lower, beq_false_of_ne hkelvin, beq_false_of_ne hdotted]
  rfl

/-! ## Breaks -/

theorem breakUp_cons_of_not_small (hc : isSmall c = false) (cs : List Char) :
    breakUp (c :: cs) = c :: breakUp cs := by
  cases cs with
  | nil => rfl
  | cons d rest => rw [breakUp, hc, Bool.false_and, if_neg Bool.false_ne_true]

/-- No break is missed: the capital behind a break has none behind itself. -/
theorem breakUp_cons (c : Char) (cs : List Char) :
    breakUp (c :: cs) =
      (if isSmall c && cs.head?.any Char.isUpper then [c, ' '] else [c]) ++ breakUp cs := by
  cases cs with
  | nil => simp [breakUp]
  | cons d rest =>
    rw [breakUp, List.head?_cons, Option.any_some]
    split
    · rename_i h
      have hd : isSmall d = false := not_isSmall_of_isUpper (Bool.and_eq_true_iff.mp h).2
      rw [breakUp_cons_of_not_small hd]
      rfl
    · rfl

theorem spaced_cons (c : Char) (cs : List Char) :
    spaced (c :: cs) =
      (if isSmall c && cs.head?.any Char.isUpper then [c, ' '] else [c]) ++ spaced cs := by
  simp only [spaced, List.zipIdx_cons, List.flatMap_cons, Nat.zero_add, List.zipIdx_succ,
    List.flatMap_map, List.getElem?_cons_succ, List.head?_eq_getElem?]

theorem breakUp_eq_spaced (cs : List Char) : breakUp cs = spaced cs := by
  induction cs with
  | nil => rfl
  | cons c cs ih => rw [breakUp_cons, spaced_cons, ih]

/-- A blank has no break on either side. -/
theorem breakUp_append_blank (cs ds : List Char) :
    breakUp (cs ++ ' ' :: ds) = breakUp cs ++ ' ' :: breakUp ds := by
  induction cs with
  | nil => exact breakUp_cons_of_not_small rfl ds
  | cons c cs ih =>
    have hhead : (cs ++ ' ' :: ds).head?.any Char.isUpper = cs.head?.any Char.isUpper := by
      cases cs <;> rfl
    rw [List.cons_append, breakUp_cons, hhead, ih, breakUp_cons, List.append_assoc]

/-! ## Runs -/

/-- A text falls into runs of a class and single characters that are not of it. -/
theorem run_induction (keep : Char → Bool) {motive : List Char → Prop} (nil : motive [])
    (skip : ∀ c cs, keep c = false → motive cs → motive (c :: cs))
    (run : ∀ run rest, run ≠ [] → (∀ c ∈ run, keep c = true) →
      (∀ c ∈ rest.head?, keep c = false) → motive rest → motive (run ++ rest)) :
    ∀ cs, motive cs
  | [] => nil
  | c :: cs => by
    by_cases hc : keep c = true
    · have hrest : motive ((c :: cs).dropWhile keep) :=
        run_induction keep nil skip run _
      rw [← List.takeWhile_append_dropWhile (p := keep) (l := c :: cs)]
      refine run _ _ ?_ (fun d hd => List.mem_takeWhile_imp hd) ?_ hrest
      · rw [List.takeWhile_cons_of_pos hc]
        exact List.cons_ne_nil _ _
      · intro d hd
        have h := List.head?_dropWhile_not keep (c :: cs)
        rw [Option.mem_def.mp hd] at h
        exact h
    · exact skip c cs (Bool.eq_false_iff.mpr hc) (run_induction keep nil skip run cs)
termination_by cs => cs.length
decreasing_by
  · rw [List.dropWhile_cons_of_pos hc]
    exact Nat.lt_succ_of_le (List.dropWhile_suffix keep).length_le
  · exact Nat.lt_succ_self _

theorem runs_cons_of_not (hc : keep c = false) (cs : List Char) :
    runs keep (c :: cs) = runs keep cs := by
  rw [runs.eq_def]
  simp only [hc, Bool.false_eq_true, if_false]

theorem runs_cons_alone (hc : keep c = true) (hcs : ∀ d ∈ cs.head?, keep d = false) :
    runs keep (c :: cs) = [c] :: runs keep cs := by
  rw [runs.eq_def]
  simp only [hc, if_true]
  split
  · rename_i d rest run more heq
    rw [heq, hcs d rfl, if_neg Bool.false_ne_true]
  · rfl

theorem runs_cons_joined (hc : keep c = true) (hd : keep d = true)
    (h : runs keep (d :: cs) = run :: more) : runs keep (c :: d :: cs) = (c :: run) :: more := by
  rw [runs.eq_def]
  simp only [h, hc, hd, if_true]

theorem runs_append_of_run (hne : run ≠ []) (hrun : ∀ c ∈ run, keep c = true)
    (hrest : ∀ c ∈ rest.head?, keep c = false) :
    runs keep (run ++ rest) = run :: runs keep rest := by
  induction run with
  | nil => exact absurd rfl hne
  | cons c run ih =>
    obtain ⟨hc, hrun⟩ := List.forall_mem_cons.mp hrun
    cases run with
    | nil => exact runs_cons_alone hc hrest
    | cons d run =>
      exact runs_cons_joined hc (hrun d List.mem_cons_self) (ih (List.cons_ne_nil _ _) hrun)

/-- A character that is not of the class ends a run. -/
theorem runs_append_cons (hc : keep c = false) (cs ds : List Char) :
    runs keep (cs ++ c :: ds) = runs keep cs ++ runs keep ds := by
  induction cs using run_induction keep with
  | nil => exact runs_cons_of_not hc ds
  | skip d cs hd ih => rw [List.cons_append, runs_cons_of_not hd, ih, runs_cons_of_not hd]
  | run run rest hne hrun hrest ih =>
    have hrest' : ∀ d ∈ (rest ++ c :: ds).head?, keep d = false := by
      cases rest with
      | nil => simpa using hc
      | cons d rest => exact hrest
    rw [List.append_assoc, runs_append_of_run hne hrun hrest', ih,
      runs_append_of_run hne hrun hrest, List.cons_append]

theorem takeWhile_run (hrun : ∀ c ∈ run, keep c = true) (hrest : ∀ c ∈ rest.head?, keep c = false) :
    (run ++ rest).takeWhile keep = run := by
  rw [List.takeWhile_append_of_pos hrun]
  cases rest with
  | nil => simp
  | cons c rest => simp [hrest c rfl]

theorem forall_getLast?_of_append (h : ∀ c ∈ (cs ++ ds).getLast?, keep c = false) :
    ∀ c ∈ ds.getLast?, keep c = false := by
  intro c hc
  refine h c ?_
  rw [List.getLast?_append, Option.mem_def.mp hc]
  rfl

/-- A run stays one behind another text, unless it is lengthened by that. -/
theorem IsRun.append_left (h : IsRun keep w rest) (cs : List Char)
    (hapart : (∀ c ∈ cs.getLast?, keep c = false) ∨ ∀ c ∈ rest.head?, keep c = false) :
    IsRun keep w (cs ++ rest) := by
  obtain ⟨hne, hkept, front, back, rfl, hfront, hback⟩ := h
  refine ⟨hne, hkept, cs ++ front, back, (List.append_assoc ..).symm, fun c hc => ?_, hback⟩
  rw [List.getLast?_append] at hc
  cases hlast : front.getLast? with
  | none =>
    obtain rfl := List.getLast?_eq_none_iff.mp hlast
    rcases hapart with hcs | hhead
    · exact hcs c hc
    · -- The run is at the beginning, with a character of the class.
      obtain ⟨d, w, rfl⟩ := List.exists_cons_of_ne_nil hne
      exact absurd (hkept d List.mem_cons_self) (by simp [hhead d rfl])
  | some d =>
    rw [hlast] at hc
    exact Option.some.inj hc ▸ hfront d hlast

theorem isRun_cons_of_not (hc : keep c = false) : IsRun keep w (c :: cs) ↔ IsRun keep w cs := by
  constructor
  · rintro ⟨hne, hkept, front, back, hcs, hfront, hback⟩
    cases front with
    | nil =>
      obtain ⟨d, w, rfl⟩ := List.exists_cons_of_ne_nil hne
      obtain ⟨rfl, -⟩ := List.cons.inj hcs
      exact absurd (hkept c List.mem_cons_self) (by simp [hc])
    | cons d front =>
      have hfront : ∀ e ∈ ([d] ++ front).getLast?, keep e = false := hfront
      exact ⟨hne, hkept, front, back, (List.cons.inj hcs).2, forall_getLast?_of_append hfront,
        hback⟩
  · intro h
    exact h.append_left [c] (Or.inl (by simpa using hc))

theorem isRun_append_of_run (hne : run ≠ []) (hrun : ∀ c ∈ run, keep c = true)
    (hrest : ∀ c ∈ rest.head?, keep c = false) :
    IsRun keep w (run ++ rest) ↔ w = run ∨ IsRun keep w rest := by
  constructor
  · rintro ⟨hw, hkept, front, back, hcs, hfront, hback⟩
    rcases List.append_eq_append_iff.mp hcs.symm with ⟨more, rfl, hmore⟩ | ⟨more, rfl, hmore⟩
    · -- A run that began inside of the first one would have a character of the class before it.
      cases hlast : front.getLast? with
      | none =>
        obtain rfl := List.getLast?_eq_none_iff.mp hlast
        left
        calc w = (w ++ back).takeWhile keep := (takeWhile_run hkept hback).symm
          _ = more := by
            rw [hmore]
            exact takeWhile_run hrun hrest
      | some c =>
        have hc := hrun c (List.mem_append_left _ (List.mem_of_getLast? hlast))
        exact absurd hc (by simp [hfront c hlast])
    · exact Or.inr ⟨hw, hkept, more, back, hmore, forall_getLast?_of_append hfront, hback⟩
  · rintro (rfl | h)
    · exact ⟨hne, hrun, [], rest, rfl, nofun, hrest⟩
    · exact h.append_left run (Or.inr hrest)

/-- What `runs` finds are the runs. -/
theorem mem_runs_iff : w ∈ runs keep cs ↔ IsRun keep w cs := by
  induction cs using run_induction keep with
  | nil =>
    refine iff_of_false List.not_mem_nil fun h => ?_
    obtain ⟨front, back, hcs, -⟩ := h.whole
    simp only [List.nil_eq, List.append_eq_nil_iff] at hcs
    exact h.ne_nil hcs.2.1
  | skip c cs hc ih => rw [runs_cons_of_not hc, isRun_cons_of_not hc, ih]
  | run run rest hne hrun hrest ih =>
    rw [runs_append_of_run hne hrun hrest, isRun_append_of_run hne hrun hrest, List.mem_cons, ih]

theorem runs_append_of_not (hcs : ∀ c ∈ cs, keep c = false) (ds : List Char) :
    runs keep (cs ++ ds) = runs keep ds := by
  induction cs with
  | nil => rfl
  | cons c cs ih =>
    obtain ⟨hc, hcs⟩ := List.forall_mem_cons.mp hcs
    rw [List.cons_append, runs_cons_of_not hc, ih hcs]

/-- It does not matter what a gap between runs consists of. -/
theorem runs_append_gap {gap : List Char} (hne : gap ≠ []) (hgap : ∀ c ∈ gap, keep c = false)
    (cs ds : List Char) : runs keep (cs ++ (gap ++ ds)) = runs keep cs ++ runs keep ds := by
  obtain ⟨c, gap, rfl⟩ := List.exists_cons_of_ne_nil hne
  obtain ⟨hc, hgap⟩ := List.forall_mem_cons.mp hgap
  rw [List.cons_append, runs_append_cons hc, runs_append_of_not hgap]

/-! ## Lower case -/

theorem LowersTo.runs_eq (h : LowersTo c ds) (front rest : List Char) :
    runs isSmall (front ++ (ds ++ rest)) = runs isSmall (front ++ (lower c ++ rest)) := by
  cases h with
  | ascii hc => rw [lower_ascii hc]
  | kelvin => rfl
  | dotted => rfl
  | foreign hc hkelvin hdotted hne hds =>
    have hgap : ∀ d ∈ [c], isSmall d = false :=
      List.forall_mem_singleton.mpr (not_isSmall_foreign hc)
    rw [lower_foreign hc hkelvin hdotted, runs_append_gap (List.cons_ne_nil c []) hgap,
      runs_append_gap hne fun d hd => not_isSmall_foreign (hds d hd)]

/-- Whatever the characters outside of ASCII become in lower case, the runs are the same. -/
theorem LowerCase.runs_eq (h : LowerCase cs ds) (front : List Char) :
    runs isSmall (front ++ ds) = runs isSmall (front ++ cs.flatMap lower) := by
  induction h generalizing front with
  | nil => rfl
  | cons hc _ ih =>
    rw [hc.runs_eq, List.flatMap_cons, ← List.append_assoc, ih, List.append_assoc]

theorem lowersTo_lower (c : Char) : LowersTo c (lower c) := by
  by_cases hc : c.toNat < 128
  · rw [lower_ascii hc]
    exact .ascii hc
  by_cases hkelvin : c = '\u212a'
  · subst hkelvin
    exact .kelvin
  by_cases hdotted : c = '\u0130'
  · subst hdotted
    exact .dotted
  have hforeign : 128 ≤ c.toNat := Nat.le_of_not_lt hc
  rw [lower_foreign hforeign hkelvin hdotted]
  exact .foreign hforeign hkelvin hdotted (List.cons_ne_nil c [])
    (List.forall_mem_singleton.mpr hforeign)

theorem lowerCase_flatMap (cs : List Char) : LowerCase cs (cs.flatMap lower) := by
  induction cs with
  | nil => exact .nil
  | cons c cs ih => exact .cons (lowersTo_lower c) ih

/-- The lower case in which the characters outside of ASCII stay as they are. -/
def lowering : LowerCasing := ⟨fun cs => cs.flatMap lower, lowerCase_flatMap⟩

/-! ## Words of a text -/

theorem ofText_eq (casing : LowerCasing) (s : String) :
    ofText s = (runs isSmall (casing.text s)).map String.ofList := by
  have hruns := (casing.lowerCase (spaced s.toList)).runs_eq []
  rw [List.nil_append, List.nil_append] at hruns
  rw [ofText, breakUp_eq_spaced, LowerCasing.text, hruns]

theorem mem_ofText_iff {casing : LowerCasing} {s w : String} :
    w ∈ ofText s ↔ w ∈ casing.words s := by
  rw [ofText_eq casing, List.mem_map]
  constructor
  · rintro ⟨run, hrun, rfl⟩
    have hrun := mem_runs_iff.mp hrun
    rwa [← String.toList_ofList (l := run)] at hrun
  · intro hw
    exact ⟨w.toList, mem_runs_iff.mpr hw, String.ofList_toList⟩

/-- A blank between two texts keeps their words apart. -/
theorem ofText_append_blank (s t : String) : ofText (s ++ " " ++ t) = ofText s ++ ofText t := by
  have htext : (s ++ " " ++ t).toList = s.toList ++ ' ' :: t.toList := by
    simp [String.toList_append]
  rw [ofText, htext, breakUp_append_blank, List.flatMap_append, List.flatMap_cons,
    lower_ascii (by decide), List.singleton_append, runs_append_cons (by decide), List.map_append]
  rfl

/-- A word of letters and digits is no word of a text if it stands only inside of longer runs. -/
theorem notMem_words_iff {casing : LowerCasing} {s w : String} (hne : w.toList ≠ [])
    (hw : ∀ c ∈ w.toList, isSmall c = true) : w ∉ casing.words s ↔ casing.OnlyInside s w := by
  constructor
  · intro h front back htext
    by_contra hnone
    obtain ⟨hfront, hback⟩ := not_or.mp hnone
    refine h ⟨hne, hw, front, back, htext, fun c hc => ?_, fun c hc => ?_⟩
    · exact Bool.eq_false_iff.mpr fun hsmall => hfront ⟨c, hc, hsmall⟩
    · exact Bool.eq_false_iff.mpr fun hsmall => hback ⟨c, hc, hsmall⟩
  · rintro h ⟨-, -, front, back, htext, hfront, hback⟩
    rcases h front back htext with ⟨c, hc, hsmall⟩ | ⟨c, hc, hsmall⟩
    · exact absurd hsmall (by simp [hfront c hc])
    · exact absurd hsmall (by simp [hback c hc])

end Words

/-! ## Words of a field -/

theorem Field.words_eq_append (f : Field) : f.words = Words.ofText f.name ++ Words.ofText f.label :=
  Words.ofText_append_blank f.name f.label

theorem mem_formats_iff {f : Field} {format : TextFormat} :
    format ∈ f.formats ↔ ∃ w ∈ format.hints, w ∈ f.words := by
  have hlisted : format ∈ [TextFormat.email, .url, .phone] := by cases format <;> decide
  rw [Field.formats, List.mem_filter, and_iff_right hlisted, Field.mentions, List.any_eq_true]
  simp only [List.contains_iff_mem]

theorem hints_small (format : TextFormat) :
    ∀ w ∈ format.hints, w.toList ≠ [] ∧ w.toList.all Words.isSmall = true := by
  cases format <;> decide

/-- The words of a field are those of its name and those of its label, and so are the formats that
they hint at. A format is not expected exactly if every occurrence of a word that hints at it is
only a part of a longer run. -/
theorem formats_by_whole_words (casing : Words.LowerCasing) (f : Field) :
    {w | w ∈ f.words} = casing.words f.name ∪ casing.words f.label ∧
    {format | format ∈ f.formats} = casing.formats f.name ∪ casing.formats f.label ∧
    ∀ format, format ∉ f.formats ↔
      ∀ w ∈ format.hints, casing.OnlyInside f.name w ∧ casing.OnlyInside f.label w := by
  have hwords : ∀ w, w ∈ f.words ↔ w ∈ casing.words f.name ∨ w ∈ casing.words f.label := by
    intro w
    rw [Field.words_eq_append, List.mem_append, Words.mem_ofText_iff, Words.mem_ofText_iff]
  have hformats : ∀ format, format ∈ f.formats ↔
      ∃ w ∈ format.hints, w ∈ casing.words f.name ∨ w ∈ casing.words f.label := by
    intro format
    simp only [mem_formats_iff, hwords]
  refine ⟨Set.ext hwords, Set.ext fun format => ?_, fun format => ?_⟩
  · calc format ∈ f.formats
        ↔ ∃ w ∈ format.hints, w ∈ casing.words f.name ∨ w ∈ casing.words f.label := hformats format
      _ ↔ (∃ w ∈ format.hints, w ∈ casing.words f.name) ∨
          ∃ w ∈ format.hints, w ∈ casing.words f.label := by
        simp only [and_or_left, exists_or]
  · rw [hformats, not_exists]
    refine forall_congr' fun w => ?_
    rw [not_and, not_or]
    refine forall_congr' fun hw => ?_
    obtain ⟨hne, hall⟩ := hints_small format w hw
    have hsmall := List.all_eq_true.mp hall
    rw [Words.notMem_words_iff hne hsmall, Words.notMem_words_iff hne hsmall]

/-- A word that hints at a phone number is only a part of this name, and of this label. -/
theorem formats_by_whole_words_telescope :
    let f : Field :=
      ⟨"t", "telescopeMail", "text", "Telescope", false, none, none, none, none, false⟩
    let casing := Words.lowering
    TextFormat.email ∈ casing.formats f.name ∪ casing.formats f.label ∧
      TextFormat.phone ∉ f.formats ∧
      casing.OnlyInside f.name "tel" ∧ casing.OnlyInside f.label "tel" := by
  intro f casing
  have hemail : TextFormat.email ∈ f.formats := by decide +kernel
  have hphone : TextFormat.phone ∉ f.formats := by decide +kernel
  obtain ⟨-, hformats, hinside⟩ := formats_by_whole_words casing f
  exact ⟨hformats ▸ hemail, hphone, (hinside .phone).mp hphone "tel" (by decide)⟩

end Formwork
