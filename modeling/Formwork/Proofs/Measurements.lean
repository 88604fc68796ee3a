import Formwork.Proofs.Answers
import Formwork.Proofs.GivenCache

/-!
# What a measurement leaves behind

A measurement that is asked for a number of rounds is to take as many, or to be refused where that
is less than one. Its rounds of compilation are lookups of one form, and only the first of them can
miss: `Cache.serves_replicate` counts them. `Service.measured` says what a measurement of one round
or more leaves behind, and `measuresAsAsked_iff` that all is as asked but for two cases: zero rounds
stand for the usual number of them, and a form without a document cannot be compiled.
-/

namespace Formwork

namespace Cache

variable {c c' : Cache} {form : Form} {u : Use}

/-! ## Lookups of one form -/

theorem counts_of_use (huse : c.use form = .ok (u, c')) :
    c'.hits = c.hits + u.hit.toNat ∧ c'.misses = c.misses + (!u.hit).toNat := by
  obtain ⟨-, hlookup⟩ := use_eq_ok_iff.mp huse
  rcases lookup_cases hlookup with ⟨-, hhit, rfl⟩ | ⟨-, -, hhit, rfl⟩
  all_goals
    rw [hhit]
    exact ⟨rfl, rfl⟩

/-- What was used is found when it is looked up again. -/
theorem use_again (huse : c.use form = .ok (u, c')) :
    ∃ c'', c'.use form = .ok (⟨u.name, true, u.validator⟩, c'') := by
  obtain ⟨hname, -⟩ := use_eq_ok_iff.mp huse
  obtain ⟨front, hentries, hfront⟩ := exists_front_of_use huse
  have hfound : c'.entries.lookup u.name = some u.validator := by
    rw [hentries, List.lookup_append, lookup_eq_none_iff_notMem.mpr hfront]
    simp
  refine ⟨c'.hit u.name u.validator, use_eq_ok_iff.mpr ⟨hname, ?_⟩⟩
  rw [lookup, hfound]

/-- Lookups of one form count as the first of them does, and as hits after it. -/
theorem serves_replicate (huse : c.use form = .ok (u, c')) (n : Nat) :
    (c.serves (List.replicate (n + 1) (.lookup form))).hits = c.hits + (u.hit.toNat + n) ∧
      (c.serves (List.replicate (n + 1) (.lookup form))).misses = c.misses + (!u.hit).toNat ∧
      (c.serves (List.replicate (n + 1) (.lookup form))).names.getLast? = some u.name := by
  obtain ⟨hhits, hmisses⟩ := counts_of_use huse
  rw [List.replicate_succ, serves_cons, serve_lookup_of_ok huse]
  induction n generalizing c c' u with
  | zero =>
    obtain ⟨front, hentries, -⟩ := exists_front_of_use huse
    refine ⟨hhits, hmisses, ?_⟩
    show (c'.entries.map Prod.fst).getLast? = _
    rw [hentries]
    simp
  | succ n ih =>
    obtain ⟨c'', hagain⟩ := use_again huse
    obtain ⟨hhits', hmisses'⟩ := counts_of_use hagain
    obtain ⟨hallHits, hallMisses, hlast⟩ := ih hagain hhits' hmisses'
    rw [List.replicate_succ, serves_cons, serve_lookup_of_ok hagain]
    refine ⟨?_, ?_, hlast⟩
    · rw [hallHits, hhits]
      show _ + _ + (1 + n) = _
      omega
    · rw [hallMisses, hmisses]
      rfl

end Cache

namespace Service

open Http (noon dateDocument accepted_dateDocument)

variable {s s' : Service} {w : Surroundings} {source : Source} {form : Form} {n : Option Int}

/-! ## The rounds of a measurement -/

theorem length_returning {σ : Type} {step : σ → Except ServiceError σ}
    (h : ∀ x, ∃ y, step x = .ok y) (n : Nat) (x : σ) : (returning step n x).length = n := by
  induction n generalizing x with
  | zero => rfl
  | succ n ih =>
    obtain ⟨y, hy⟩ := h x
    rw [returning_ok hy, List.length_cons, ih]

theorem benchmark_of_few (hform : source.form? = .ok form) (hfew : s.roundsFor n < 1) :
    s.benchmark w source n = (.error (.tooFewRounds (s.roundsFor n)), s) := by
  rw [benchmark, hform]
  simp only [measure, if_pos hfew]

/-- A measurement shows how many rounds it took. -/
theorem rounds_of_benchmark {b : Benchmark} (h : (s.benchmark w source n).1 = .ok b) :
    b.rounds = (s.roundsFor n).toNat := by
  unfold benchmark at h
  split at h
  · cases h
  · unfold measure at h
    split at h
    · cases h
    · split at h
      · cases h
      · split at h
        · cases h
        · injection h with h
          rw [← h]

/-! ## What is left behind -/

/-- What some rounds of a measurement leave behind in the metrics, and in a cache that is in use. -/
structure Measured (s s' : Service) (form : Form) (n : Nat) : Prop where
  compilations : s'.metrics.compilations = s.metrics.compilations + n
  validations : s'.metrics.validations = s.metrics.validations + n
  hits : s.settings.keepsValidators = true →
    s'.cache.hits = s.cache.hits + if s.keeps form then n else n - 1
  misses : s.settings.keepsValidators = true →
    s'.cache.misses = s.cache.misses + if s.keeps form then 0 else 1
  last : s.settings.keepsValidators = true →
    ∃ name, form.contentHash = .ok name ∧ s'.cache.names.getLast? = some name

/-- Every round is one compilation and one validation. -/
theorem metrics_benchmark (h : source.Accepted form) (hjson : form.noJson? = none) {b : Benchmark}
    (hb : (s.benchmark w source n).1 = .ok b) :
    let s' := (s.benchmark w source n).2
    s'.metrics.compilations = s.metrics.compilations + (s.roundsFor n).toNat ∧
      s'.metrics.validations = s.metrics.validations + (s.roundsFor n).toNat := by
  intro s'
  have hgrow : Recorded s.metrics s'.metrics (s.share (.benchmark w source n)) :=
    (benchmark_grow s w source n).2.1
  have hrounds : (s.share (.benchmark w source n)).rounds = (s.roundsFor n).toNat := by
    show (s.compileRounds w source n).length = _
    unfold compileRounds
    rw [h.1]
    exact length_returning (exists_compileRound h hjson w s) _ s
  have htrials : (s.share (.benchmark w source n)).trials = (s.roundsFor n).toNat := by
    rw [← rounds_of_benchmark hb]
    simp only [share, hb]
  refine ⟨?_, ?_⟩
  · rw [hgrow.compilations, hrounds]
    show _ + (0 + _) = _
    omega
  · rw [hgrow.validations, htrials]
    show _ + (0 + _) = _
    omega

/-- Only the first round can miss, and the form is the one used last. -/
theorem counts_benchmark (h : source.Accepted form) (hjson : form.noJson? = none)
    (hkeeping : s.settings.keepsValidators = true) (w : Surroundings)
    (hrounds : 1 ≤ s.roundsFor n) :
    let s' := (s.benchmark w source n).2
    let k := (s.roundsFor n).toNat
    s'.cache.hits = s.cache.hits + (if s.keeps form then k else k - 1) ∧
      s'.cache.misses = s.cache.misses + (if s.keeps form then 0 else 1) ∧
      ∃ name, form.contentHash = .ok name ∧ s'.cache.names.getLast? = some name := by
  intro s' k
  obtain ⟨j, hj⟩ : ∃ j, k = j + 1 := Nat.exists_eq_succ_of_ne_zero (by omega)
  obtain ⟨u, c, huse, hhit⟩ := exists_use h hjson hkeeping
  obtain ⟨hhits, hmisses, hlast⟩ := Cache.serves_replicate huse j
  have hcache : s'.cache = s.cache.serves (List.replicate (j + 1) (.lookup form)) := by
    rw [← hj, ← lookups_of_admitted h.1 (check_of_accepted h.2 s)]
    exact cache_benchmark hkeeping w source n
  have hname : form.contentHash = .ok u.name := (Cache.use_eq_ok_iff.mp huse).1
  rw [hcache, hhits, hmisses, hj, hhit]
  refine ⟨?_, ?_, u.name, hname, hlast⟩
  all_goals cases s.keeps form
  · show _ + (0 + j) = _ + (j + 1 - 1)
    omega
  · show _ + (1 + j) = _ + (j + 1)
    omega
  · rfl
  · rfl

/-- A measurement of one round or more takes place, and all of its rounds count. -/
theorem measured (h : source.Accepted form) (hjson : form.noJson? = none)
    (hutc : w.now.offset = some 0) (hrounds : 1 ≤ s.roundsFor n) :
    ∃ b, (s.benchmark w source n).1 = .ok b ∧ b.rounds = (s.roundsFor n).toNat ∧
      Measured s (s.benchmark w source n).2 form (s.roundsFor n).toNat := by
  obtain ⟨b, hb, -⟩ := benchmark_of_accepted h hjson hutc hrounds
  obtain ⟨hcompilations, hvalidations⟩ := metrics_benchmark h hjson hb
  refine ⟨b, hb, rounds_of_benchmark hb, hcompilations, hvalidations, ?_, ?_, ?_⟩
  all_goals
    intro hkeeping
    obtain ⟨hhits, hmisses, hlast⟩ := counts_benchmark h hjson hkeeping w hrounds
  · exact hhits
  · exact hmisses
  · exact hlast

/-! ## Rounds that are asked for -/

/-- A measurement of a number of rounds is as asked: less than one are refused, and then nothing
changes; else there are as many. -/
structure MeasuresAsAsked (s : Service) (w : Surroundings) (source : Source) (form : Form)
    (n : Int) : Prop where
  refuses : n < 1 → s.benchmark w source (some n) = (.error (.tooFewRounds n), s)
  measures : 1 ≤ n → ∃ b, (s.benchmark w source (some n)).1 = .ok b ∧ b.rounds = n ∧
    Measured s (s.benchmark w source (some n)).2 form n.toNat

theorem roundsFor_of_ne_zero {n : Int} (hn : n ≠ 0) : s.roundsFor (some n) = n := by
  unfold roundsFor
  exact if_neg hn

theorem one_le_roundsFor_zero (s : Service) : 1 ≤ s.roundsFor (some 0) := by
  show (1 : Int) ≤ s.settings.rounds.1
  have := s.settings.rounds.2
  omega

/-- Zero rounds are not refused: a measurement takes the usual number of them. -/
theorem not_measuresAsAsked_zero (h : source.Accepted form) (hutc : w.now.offset = some 0) :
    ¬ s.MeasuresAsAsked w source form 0 := by
  intro hasked
  have hrefused := congrArg Prod.fst (hasked.refuses (by omega))
  cases hjson : form.noJson? with
  | some e =>
    rw [benchmark_without_document h hjson s.one_le_roundsFor_zero] at hrefused
    injection hrefused with hrefused
    cases hrefused
  | none =>
    obtain ⟨b, hb, -⟩ := measured h hjson hutc s.one_le_roundsFor_zero
    rw [hb] at hrefused
    cases hrefused

/-- A service with any past measures every form that passes the check as asked, except that zero
rounds stand for the usual number, and that a form needs a document to be compiled. -/
theorem measuresAsAsked_iff (h : source.Accepted form) (hutc : w.now.offset = some 0)
    (s : Service) (n : Int) :
    s.MeasuresAsAsked w source form n ↔ n ≠ 0 ∧ (1 ≤ n → form.noJson? = none) := by
  constructor
  · intro hasked
    refine ⟨?_, fun hn => ?_⟩
    · rintro rfl
      exact not_measuresAsAsked_zero h hutc hasked
    · obtain ⟨b, hb, -⟩ := hasked.measures hn
      cases hjson : form.noJson? with
      | none => rfl
      | some e =>
        have hrounds : 1 ≤ s.roundsFor (some n) := by
          rw [roundsFor_of_ne_zero (by omega)]
          exact hn
        rw [benchmark_without_document h hjson hrounds] at hb
        cases hb
  · rintro ⟨hne, hjson⟩
    have hn : s.roundsFor (some n) = n := roundsFor_of_ne_zero hne
    constructor
    · intro hfew
      have hrefused := @benchmark_of_few s w source form (some n) h.1 (by omega)
      rw [hn] at hrefused
      exact hrefused
    · intro hmany
      obtain ⟨b, hb, hrounds, hmeasured⟩ :=
        @measured s w source form (some n) h (hjson hmany) hutc (by omega)
      rw [hn] at hrounds hmeasured
      exact ⟨b, hb, by omega, hmeasured⟩

/-- Three rounds of a new service: the first misses, the others hit. -/
theorem measuresAsAsked_three :
    let s := start .standard none
    let source := Source.document dateDocument
    let form := withDefault .null
    let s' := (s.benchmark noon source (some 3)).2
    source.Accepted form ∧ noon.now.offset = some 0 ∧ s.MeasuresAsAsked noon source form 3 ∧
      s'.metrics.compilations = 3 ∧ s'.cache.hits = 2 ∧ s'.cache.misses = 1 := by
  intro s source form s'
  have hname : form.contentHash = .ok _ := contentHash_eq_ok_iff.mpr ⟨rfl, rfl⟩
  have hnew : s.keeps form = false := by
    unfold keeps
    rw [hname]
    rfl
  have hasked : s.MeasuresAsAsked noon source form 3 :=
    (measuresAsAsked_iff accepted_dateDocument rfl s 3).mpr ⟨by decide, fun _ => rfl⟩
  obtain ⟨b, -, -, hmeasured⟩ := hasked.measures (by decide)
  have hhits := hmeasured.hits rfl
  have hmisses := hmeasured.misses rfl
  rw [hnew] at hhits hmisses
  exact ⟨accepted_dateDocument, rfl, hasked, hmeasured.compilations, hhits, hmisses⟩

/-- Zero rounds are asked for, and a hundred are taken. -/
theorem hundred_rounds_for_none :
    let s := start .standard none
    let source := Source.document dateDocument
    let form := withDefault .null
    source.Accepted form ∧ noon.now.offset = some 0 ∧ form.noJson? = none ∧
      (∃ b, (s.benchmark noon source (some 0)).1 = .ok b ∧ b.rounds = 100) ∧
      (s.benchmark noon source (some 0)).2.metrics.compilations = 100 ∧
      ¬ s.MeasuresAsAsked noon source form 0 := by
  intro s source form
  obtain ⟨b, hb, hrounds, hmeasured⟩ :=
    @measured s noon source form (some 0) accepted_dateDocument rfl rfl s.one_le_roundsFor_zero
  exact ⟨accepted_dateDocument, rfl, rfl, ⟨b, hb, hrounds⟩, hmeasured.compilations,
    not_measuresAsAsked_zero accepted_dateDocument rfl⟩

end Service

end Formwork
