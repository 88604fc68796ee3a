import Formwork.Proofs.Transparency
import Formwork.Proofs.Untold

/-!
# The counters of a service

A service counts its work in two places: in its metrics and, where it keeps validators, in its
cache. `Service.tally` counts a run a third time, from the replies and from what the cache holds
when a form is asked for, and `Service.counters_agree` says that both tell the same as the tally.
Every action adds its own share, so this is one lemma about each kind of action, and the run follows
by induction. The one case in which calls and lookups do not add up is a submission that the
validator cannot tell: it has been looked up, and has failed nevertheless.
-/

namespace Formwork

/-! ## Tallies -/

/-- How much was done since the last reset. -/
structure Tally where
  /-- Compilations and validations that were asked for, whether they failed or not. -/
  calls : Nat
  /-- Rounds of compilation in measurements. -/
  rounds : Nat
  /-- Calls and rounds for which a validator was kept. -/
  served : Nat
  /-- Validations with a result. -/
  results : Nat
  /-- Rounds of validation in measurements. -/
  trials : Nat
  /-- Calls that failed. -/
  raised : Nat
  /-- Calls that failed although there was a validator. -/
  untold : Nat

namespace Tally

def zero : Tally := ⟨0, 0, 0, 0, 0, 0, 0⟩

instance : Add Tally where
  add t u := ⟨t.calls + u.calls, t.rounds + u.rounds, t.served + u.served, t.results + u.results,
    t.trials + u.trials, t.raised + u.raised, t.untold + u.untold⟩

theorem add_eq (t u : Tally) :
    t + u = ⟨t.calls + u.calls, t.rounds + u.rounds, t.served + u.served, t.results + u.results,
      t.trials + u.trials, t.raised + u.raised, t.untold + u.untold⟩ := rfl

end Tally

namespace Service

/-! ## Actions -/

/-- What is asked of a service. A schema and the visibility of fields leave no trace in it. -/
inductive Action where
  | request (step : Step)
  | jsonSchema (source : Source) (title : Option String) (strict : Bool)
  | visibility (form : Form) (values : List (String × Value))
  | resetMetrics

def after (s : Service) : Action → Service
  | .request step => (s.perform step).2
  | .jsonSchema _ _ _ | .visibility _ _ => s
  | .resetMetrics => s.resetMetrics

/-- The service after some actions. -/
def run (s : Service) (actions : List Action) : Service := actions.foldl after s

/-- The validator of a form is kept. -/
def keeps (s : Service) (form : Form) : Bool :=
  s.settings.keepsValidators && match form.contentHash with
    | .ok name => s.cache.contains name
    | .error _ => false

/-- The source is that of a form that is let through and the validator of which is kept. -/
def serves (s : Service) (source : Source) : Bool :=
  match source.form? with
  | .ok form => (s.check form).isOk && s.keeps form
  | .error _ => false

/-- The states in which those rounds start that return. -/
def returning {σ : Type} (step : σ → Except ServiceError σ) : Nat → σ → List σ
  | 0, _ => []
  | n + 1, x =>
    match step x with
    | .ok y => x :: returning step n y
    | .error _ => []

/-- The services before those rounds of compilation of a measurement that return. -/
def compileRounds (s : Service) (w : Surroundings) (source : Source) (n : Option Int) :
    List Service :=
  match source.form? with
  | .ok form =>
    returning (compileRound w (s.check form) form.contentHash form) (s.roundsFor n).toNat s
  | .error _ => []

/-- What a step adds to the tally. -/
def share (s : Service) : Step → Tally
  | .compile w source =>
    { Tally.zero with
      calls := 1
      served := (s.serves source).toNat
      raised := (!(s.compile w source).1.isOk).toNat }
  | .validate w source submission =>
    let result := (s.validate w source submission).1
    { Tally.zero with
      calls := 1
      served := (s.serves source).toNat
      results := result.isOk.toNat
      raised := (!result.isOk).toNat
      untold := ((s.compile w source).1.isOk && !result.isOk).toNat }
  | .benchmark w source n =>
    let rounds := s.compileRounds w source n
    { Tally.zero with
      rounds := rounds.length
      served := rounds.countP (·.serves source)
      trials := match (s.benchmark w source n).1 with
        | .ok b => b.rounds
        | .error _ => 0 }
  | .clearCache | .speak _ => Tally.zero

/-- The tally after an action. -/
def count (s : Service) (t : Tally) : Action → Tally
  | .request step => t + s.share step
  | .jsonSchema _ _ _ | .visibility _ _ => t
  | .resetMetrics => Tally.zero

/-- The tally after some actions. -/
def tally (s : Service) (t : Tally) : List Action → Tally
  | [] => t
  | a :: as => (s.after a).tally (s.count t a) as

variable {s s' s'' : Service} {form : Form} {source : Source} {w : Surroundings} {t t' : Tally}
variable {v : Validator} {b : Bool} {c : Cache} {step : Step}

/-! ## What grows by a share -/

/-- Metrics that have grown by a tally. -/
structure Recorded (m m' : Metrics) (t : Tally) : Prop where
  compilations : m'.compilations = m.compilations + (t.calls + t.rounds)
  validations : m'.validations = m.validations + (t.results + t.trials)
  hits : m'.hits = m.hits + t.served

/-- A cache the counts of which have grown by a tally. What failed was not looked up, unless it was
a submission that could not be told. -/
structure LookedUp (c c' : Cache) (t : Tally) : Prop where
  hits : c'.hits = c.hits + t.served
  lookups : c'.hits + c'.misses + t.raised =
    c.hits + c.misses + (t.calls + t.rounds + t.untold)

theorem Recorded.refl (m : Metrics) : Recorded m m .zero := ⟨rfl, rfl, rfl⟩

theorem LookedUp.refl (c : Cache) : LookedUp c c .zero := ⟨rfl, rfl⟩

theorem Recorded.trans {m m' m'' : Metrics} (h : Recorded m m' t) (h' : Recorded m' m'' t') :
    Recorded m m'' (t + t') := by
  refine ⟨?_, ?_, ?_⟩ <;> simp only [Tally.add_eq]
  · have := h.compilations
    have := h'.compilations
    omega
  · have := h.validations
    have := h'.validations
    omega
  · have := h.hits
    have := h'.hits
    omega

theorem LookedUp.trans {c c' c'' : Cache} (h : LookedUp c c' t) (h' : LookedUp c' c'' t') :
    LookedUp c c'' (t + t') := by
  have hhits := h.hits
  have hhits' := h'.hits
  have hlookups := h.lookups
  have hlookups' := h'.lookups
  refine ⟨?_, ?_⟩ <;> simp only [Tally.add_eq] <;> omega

/-! ## One fetch -/

theorem contains_iff {c : Cache} {name : String} :
    c.contains name = true ↔ ∃ v, c.entries.lookup name = some v := by
  rw [Cache.contains, Option.isSome_iff_exists]

/-- What is kept is fetched. -/
theorem fetch_of_keeps (h : s.keeps form = true) :
    ∃ v c, s.fetch form.contentHash form = .ok (v, true, c) := by
  rw [keeps, Bool.and_eq_true] at h
  obtain ⟨hkeeping, h⟩ := h
  cases hname : form.contentHash with
  | error e =>
    rw [hname] at h
    cases h
  | ok name =>
    rw [hname] at h
    obtain ⟨v, hv⟩ := contains_iff.mp h
    rw [← hname, fetch_of_keeping hkeeping hname, Cache.lookup, hv]
    exact ⟨v, _, rfl⟩

/-- A fetch tells whether the validator was kept. -/
theorem hit_eq_keeps (h : s.fetch form.contentHash form = .ok (v, b, c)) : b = s.keeps form := by
  cases hkeeping : s.settings.keepsValidators with
  | false =>
    rw [fetch_of_not_keeping hkeeping] at h
    obtain ⟨_, -, h⟩ := map_eq_ok_iff.mp (mapError_eq_ok_iff.mp h)
    injection h with _ h
    injection h with h _
    rw [← h, keeps, hkeeping, Bool.false_and]
  | true =>
    cases hname : form.contentHash with
    | error e =>
      rw [fetch_undocumented hkeeping hname] at h
      cases h
    | ok name =>
      rw [fetch_of_keeping hkeeping hname, mapError_eq_ok_iff] at h
      rw [keeps, hkeeping, Bool.true_and, hname]
      rcases Cache.lookup_cases h with ⟨hv, rfl, -⟩ | ⟨hnew, -, rfl, -⟩
      · exact (contains_iff.mpr ⟨v, hv⟩).symm
      · show false = (s.cache.entries.lookup name).isSome
        rw [lookup_eq_none_iff_notMem.mpr hnew]
        rfl

/-- A fetch from the cache counts there as a hit or as a miss. -/
theorem lookups_of_fetch (hkeeping : s.settings.keepsValidators = true)
    (h : s.fetch form.contentHash form = .ok (v, b, c)) :
    c.hits = s.cache.hits + b.toNat ∧ c.hits + c.misses = s.cache.hits + s.cache.misses + 1 := by
  cases hname : form.contentHash with
  | error e =>
    rw [fetch_undocumented hkeeping hname] at h
    cases h
  | ok name =>
    rw [fetch_of_keeping hkeeping hname, mapError_eq_ok_iff] at h
    rcases Cache.lookup_cases h with ⟨-, rfl, rfl⟩ | ⟨-, -, rfl, rfl⟩
    · exact ⟨rfl, Nat.add_right_comm _ _ _⟩
    · exact ⟨rfl, (Nat.add_assoc _ _ _).symm⟩

/-! ## One compilation -/

/-- How a compilation ends: with the validator that is fetched, or with an error, and then the
validator is not kept. -/
theorem compile_cases (s : Service) (w : Surroundings) (source : Source) :
    (∃ form v c, source.form? = .ok form ∧ s.check form = .ok () ∧
      s.fetch form.contentHash form = .ok (v, s.serves source, c) ∧
      s.compile w source = (.ok v, s.compiled w (s.serves source) c)) ∨
    ∃ e, s.serves source = false ∧ s.compile w source = (.error e, s.compiled w false s.cache) := by
  cases hform : source.form? with
  | error e =>
    exact Or.inr ⟨_, by rw [serves, hform], compile_malformed hform⟩
  | ok form =>
    cases hcheck : s.check form with
    | error e =>
      refine Or.inr ⟨e, ?_, compile_refused hform hcheck⟩
      simp only [serves, hform, hcheck]
      rfl
    | ok =>
      have hserves : s.serves source = s.keeps form := by
        simp only [serves, hform, hcheck]
        rfl
      have hcompile := compile_admitted (w := w) hform hcheck
      rcases hfetch : s.fetch form.contentHash form with e | ⟨v, b, c⟩
      · rw [hfetch] at hcompile
        refine Or.inr ⟨e, ?_, hcompile⟩
        rw [hserves, Bool.eq_false_iff]
        intro hkeeps
        obtain ⟨v, c, hv⟩ := fetch_of_keeps hkeeps
        rw [hfetch] at hv
        cases hv
      · rw [hfetch] at hcompile
        obtain rfl : b = s.serves source := (hit_eq_keeps hfetch).trans hserves.symm
        exact Or.inl ⟨form, v, c, rfl, hcheck, hfetch, hcompile⟩

theorem compile_metrics (s : Service) (w : Surroundings) (source : Source) :
    (s.compile w source).2.metrics = s.metrics.compiled w.elapsed (s.serves source) := by
  rcases compile_cases s w source with ⟨_, _, _, -, -, -, h⟩ | ⟨_, hserves, h⟩
  · rw [h]
    rfl
  · rw [h, hserves]
    rfl

/-- A compilation looks its validator up once, unless it fails. -/
theorem compile_lookups (hkeeping : s.settings.keepsValidators = true) (w : Surroundings)
    (source : Source) :
    (s.compile w source).2.cache.hits = s.cache.hits + (s.serves source).toNat ∧
      (s.compile w source).2.cache.hits + (s.compile w source).2.cache.misses +
        (!(s.compile w source).1.isOk).toNat = s.cache.hits + s.cache.misses + 1 := by
  rcases compile_cases s w source with ⟨_, _, c, -, -, hfetch, h⟩ | ⟨_, hserves, h⟩
  · rw [h]
    exact lookups_of_fetch hkeeping hfetch
  · rw [h, hserves]
    exact ⟨rfl, rfl⟩

theorem compiled_hits (m : Metrics) (elapsed : Binary64) (hit : Bool) :
    (m.compiled elapsed hit).hits = m.hits + hit.toNat := by
  cases hit <;> rfl

theorem recorded_compile (s : Service) (w : Surroundings) (source : Source) :
    Recorded s.metrics (s.compile w source).2.metrics (s.share (.compile w source)) := by
  rw [compile_metrics]
  exact ⟨rfl, rfl, compiled_hits _ _ _⟩

theorem lookedUp_compile (hkeeping : s.settings.keepsValidators = true) (w : Surroundings)
    (source : Source) :
    LookedUp s.cache (s.compile w source).2.cache (s.share (.compile w source)) :=
  let h := compile_lookups hkeeping w source
  ⟨h.1, h.2⟩

/-! ## One validation -/

/-- How a validation ends: without a validator, with a submission that cannot be told, or with a
result. -/
theorem validate_cases (s : Service) (w : Surroundings) (source : Source) (submission : Value) :
    ((s.compile w source).1.isOk = false ∧ (s.validate w source submission).1.isOk = false ∧
      (s.validate w source submission).2 = (s.compile w source).2) ∨
    ((s.compile w source).1.isOk = true ∧ (s.validate w source submission).1.isOk = false ∧
      (s.validate w source submission).2 = (s.compile w source).2) ∨
    ((s.compile w source).1.isOk = true ∧ (s.validate w source submission).1.isOk = true ∧
      (s.validate w source submission).2 = (s.compile w source).2.validated w) := by
  rw [validate]
  rcases s.compile w source with ⟨_ | v, s'⟩
  · exact Or.inl ⟨rfl, rfl, rfl⟩
  · simp only
    cases v.validate s'.locale w.now.date submission with
    | error e => exact Or.inr (Or.inl ⟨rfl, rfl, rfl⟩)
    | ok o => exact Or.inr (Or.inr ⟨rfl, rfl, rfl⟩)

theorem recorded_validate (s : Service) (w : Surroundings) (source : Source) (submission : Value) :
    Recorded s.metrics (s.validate w source submission).2.metrics
      (s.share (.validate w source submission)) := by
  have h := recorded_compile s w source
  have hvalidations : (s.compile w source).2.metrics.validations = s.metrics.validations :=
    h.validations
  rcases validate_cases s w source submission with ⟨-, hr, hs⟩ | ⟨-, hr, hs⟩ | ⟨-, hr, hs⟩
  all_goals
    refine ⟨?_, ?_, ?_⟩ <;> simp only [share, hr, hs]
    · exact h.compilations
    · simp [validated, Metrics.validated, hvalidations, Tally.zero]
    · exact h.hits

theorem lookedUp_validate (hkeeping : s.settings.keepsValidators = true) (w : Surroundings)
    (source : Source) (submission : Value) :
    LookedUp s.cache (s.validate w source submission).2.cache
      (s.share (.validate w source submission)) := by
  have hhits := (compile_lookups hkeeping w source).1
  have hlookups := (compile_lookups hkeeping w source).2
  rcases validate_cases s w source submission with ⟨hv, hr, hs⟩ | ⟨hv, hr, hs⟩ | ⟨hv, hr, hs⟩
  all_goals
    rw [hv] at hlookups
    refine ⟨?_, ?_⟩ <;> simp only [share, hv, hr, hs, validated]
    · exact hhits
    · simp [Tally.zero] at hlookups ⊢
      omega

/-! ## Measuring -/

theorem returning_ok {σ : Type} {step : σ → Except ServiceError σ} {x y : σ} (h : step x = .ok y)
    (n : Nat) : returning step (n + 1) x = x :: returning step n y := by
  rw [returning, h]

theorem returning_error {σ : Type} {step : σ → Except ServiceError σ} {x : σ} {e : ServiceError}
    (h : step x = .error e) (n : Nat) : returning step (n + 1) x = [] := by
  rw [returning, h]

/-- What some rounds add to the tally. -/
def roundsShare (source : Source) (rounds : List Service) : Tally :=
  { Tally.zero with rounds := rounds.length, served := rounds.countP (·.serves source) }

theorem roundsShare_cons (source : Source) (s : Service) (rounds : List Service) :
    roundsShare source (s :: rounds) = roundsShare source [s] + roundsShare source rounds := by
  simp only [roundsShare, Tally.add_eq, List.length_cons, List.countP_cons, List.length_nil,
    List.countP_nil]
  simp [Tally.zero, Nat.add_comm]

theorem roundsShare_singleton (source : Source) (s : Service) :
    roundsShare source [s] =
      { Tally.zero with rounds := 1, served := (s.serves source).toNat } := by
  rw [roundsShare, List.countP_singleton]
  cases s.serves source <;> rfl

/-- A round that returns fetches the validator. -/
theorem compileRound_eq_ok (hform : source.form? = .ok form)
    (h : compileRound w (s.check form) form.contentHash form s = .ok s') :
    ∃ v c, s.fetch form.contentHash form = .ok (v, s.serves source, c) ∧
      s' = s.compiled w (s.serves source) c := by
  rw [compileRound] at h
  obtain ⟨_, hcheck, h⟩ := bind_eq_ok_iff.mp h
  obtain ⟨⟨v, b, c⟩, hfetch, h⟩ := bind_eq_ok_iff.mp h
  injection h with h
  have hserves : s.serves source = s.keeps form := by
    simp only [serves, hform, hcheck]
    rfl
  obtain rfl : b = s.serves source := (hit_eq_keeps hfetch).trans hserves.symm
  exact ⟨v, c, hfetch, h.symm⟩

/-- Rounds keep the settings, and so what was checked before the first of them. -/
theorem rounds_grow (hform : source.form? = .ok form) (w : Surroundings) (n : Nat) (s : Service) :
    let step := compileRound w (s.check form) form.contentHash form
    let share := roundsShare source (returning step n s)
    (rounds step n s).2.settings = s.settings ∧
    Recorded s.metrics (rounds step n s).2.metrics share ∧
    (s.settings.keepsValidators = true → LookedUp s.cache (rounds step n s).2.cache share) := by
  induction n generalizing s with
  | zero => exact ⟨rfl, .refl _, fun _ => .refl _⟩
  | succ n ih =>
    cases hround : compileRound w (s.check form) form.contentHash form s with
    | error e =>
      simp only [rounds, returning_error hround, hround]
      exact ⟨trivial, .refl _, fun _ => .refl _⟩
    | ok s' =>
      obtain ⟨v, c, hfetch, rfl⟩ := compileRound_eq_ok hform hround
      obtain ⟨hsettings, hrecorded, hlookedUp⟩ := ih (s.compiled w (s.serves source) c)
      have hcheck : (s.compiled w (s.serves source) c).check form = s.check form := rfl
      rw [hcheck] at hsettings hrecorded hlookedUp
      simp only [rounds, returning_ok hround, hround]
      rw [roundsShare_cons, roundsShare_singleton]
      have hround : Recorded s.metrics (s.compiled w (s.serves source) c).metrics
          { Tally.zero with rounds := 1, served := (s.serves source).toNat } :=
        ⟨rfl, rfl, compiled_hits _ _ _⟩
      refine ⟨hsettings, hround.trans hrecorded, fun hkeeping => ?_⟩
      obtain ⟨hhits, hlookups⟩ := lookups_of_fetch hkeeping hfetch
      exact .trans ⟨hhits, hlookups⟩ (hlookedUp hkeeping)

/-- Rounds of validation are recorded and nothing else. -/
theorem repeat_validated (w : Surroundings) (n : Nat) (s : Service) :
    let s' := Nat.repeat (·.validated w) n s
    s'.settings = s.settings ∧ s'.cache = s.cache ∧
      Recorded s.metrics s'.metrics { Tally.zero with trials := n } := by
  induction n with
  | zero => exact ⟨rfl, rfl, .refl _⟩
  | succ n ih =>
    obtain ⟨hsettings, hcache, hrecorded⟩ := ih
    refine ⟨hsettings, hcache, hrecorded.compilations, ?_, hrecorded.hits⟩
    exact congrArg (· + 1) hrecorded.validations

/-- How a measurement ends: in its rounds of compilation, with as many rounds of validation, or
where the sample fails between them. -/
theorem benchmark_cases (hform : source.form? = .ok form) (w : Surroundings) (s : Service)
    (n : Option Int) :
    let last := (rounds (compileRound w (s.check form) form.contentHash form)
      (s.roundsFor n).toNat s).2
    (∃ e, s.benchmark w source n = (.error e, last)) ∨
    ∃ b, s.benchmark w source n = (.ok b, Nat.repeat (·.validated w) b.rounds last) := by
  intro last
  rw [benchmark, hform]
  simp only [measure]
  split
  · rename_i hfew
    have hzero : (s.roundsFor n).toNat = 0 := by omega
    refine Or.inl ⟨.tooFewRounds (s.roundsFor n), ?_⟩
    simp only [last, hzero]
    rfl
  · split
    · rename_i e s' hrounds
      refine Or.inl ⟨e, ?_⟩
      simp only [last, hrounds]
    · rename_i u s' hrounds
      split
      · rename_i e _
        refine Or.inl ⟨e, ?_⟩
        simp only [last, hrounds]
      · let timing := Timing.ofRounds w.elapsed (s.roundsFor n).toNat
        refine Or.inr ⟨⟨(s.roundsFor n).toNat, timing, timing⟩, ?_⟩
        simp only [last, hrounds]
        rfl

theorem benchmark_grow (s : Service) (w : Surroundings) (source : Source) (n : Option Int) :
    (s.benchmark w source n).2.settings = s.settings ∧
    Recorded s.metrics (s.benchmark w source n).2.metrics (s.share (.benchmark w source n)) ∧
    (s.settings.keepsValidators = true →
      LookedUp s.cache (s.benchmark w source n).2.cache (s.share (.benchmark w source n))) := by
  cases hform : source.form? with
  | error e =>
    simp only [share, compileRounds, benchmark, hform]
    exact ⟨trivial, .refl _, fun _ => .refl _⟩
  | ok form =>
    have hrounds := rounds_grow hform w (s.roundsFor n).toNat s
    obtain ⟨hsettings, hrecorded, hlookedUp⟩ := hrounds
    rcases benchmark_cases hform w s n with ⟨e, h⟩ | ⟨b, h⟩
    · simp only [share, compileRounds, hform, h]
      exact ⟨hsettings, hrecorded, hlookedUp⟩
    · obtain ⟨hsettings', hcache, hrecorded'⟩ := repeat_validated w b.rounds
        (rounds (compileRound w (s.check form) form.contentHash form)
          (s.roundsFor n).toNat s).2
      have htrans := hrecorded.trans hrecorded'
      simp only [share, compileRounds, hform, h]
      refine ⟨hsettings'.trans hsettings, ⟨htrans.compilations, ?_, htrans.hits⟩, ?_⟩
      · have hvalidations := htrans.validations
        simp only [Tally.add_eq, roundsShare, Tally.zero, Nat.zero_add, Nat.add_zero] at hvalidations ⊢
        exact hvalidations
      · rw [hcache]
        exact fun hkeeping => ⟨(hlookedUp hkeeping).hits, (hlookedUp hkeeping).lookups⟩

/-! ## Steps and runs -/

theorem perform_settings (s : Service) (step : Step) :
    (s.perform step).2.settings = s.settings := by
  cases step with
  | compile w source => exact compile_settings s w source
  | validate w source submission =>
    show (s.validate w source submission).2.settings = s.settings
    have hcompile := compile_settings s w source
    rcases validate_cases s w source submission with ⟨-, -, h⟩ | ⟨-, -, h⟩ | ⟨-, -, h⟩
    all_goals
      rw [h]
      exact hcompile
  | benchmark w source n => exact (benchmark_grow s w source n).1
  | clearCache => rfl
  | speak tag => rfl

/-- The metrics grow by the share of every step. -/
theorem recorded_perform (s : Service) (step : Step) :
    Recorded s.metrics (s.perform step).2.metrics (s.share step) := by
  cases step with
  | compile w source => exact recorded_compile s w source
  | validate w source submission => exact recorded_validate s w source submission
  | benchmark w source n => exact (benchmark_grow s w source n).2.1
  | clearCache => exact .refl _
  | speak tag => exact .refl _

/-- So do the counts of a cache that is not cleared. -/
theorem lookedUp_perform (hkeeping : s.settings.keepsValidators = true)
    (hstep : step ≠ .clearCache) :
    LookedUp s.cache (s.perform step).2.cache (s.share step) := by
  cases step with
  | compile w source => exact lookedUp_compile hkeeping w source
  | validate w source submission => exact lookedUp_validate hkeeping w source submission
  | benchmark w source n => exact (benchmark_grow s w source n).2.2 hkeeping
  | clearCache => exact absurd rfl hstep
  | speak tag => exact .refl _

theorem recorded_after (h : Recorded .start s.metrics t) (a : Action) :
    Recorded .start (s.after a).metrics (s.count t a) := by
  cases a with
  | request step => exact h.trans (recorded_perform s step)
  | jsonSchema source title strict => exact h
  | visibility form values => exact h
  | resetMetrics => exact .refl _

/-- Through any run the metrics tell what was done since the last reset. -/
theorem recorded_run (actions : List Action) (h : Recorded .start s.metrics t) :
    Recorded .start (s.run actions).metrics (s.tally t actions) := by
  induction actions generalizing s t with
  | nil => exact h
  | cons a actions ih => exact ih (recorded_after h a)

/-- The counters of neither the cache nor the metrics are set back. -/
def Action.Counts : Action → Prop
  | .request step => step ≠ .clearCache
  | .jsonSchema _ _ _ | .visibility _ _ => True
  | .resetMetrics => False

/-- Through a run that sets nothing back the cache tells what was done, too. -/
theorem lookedUp_run {c : Cache} (actions : List Action) (hactions : ∀ a ∈ actions, a.Counts)
    (hkeeping : s.settings.keepsValidators = true) (h : LookedUp c s.cache t) :
    LookedUp c (s.run actions).cache (s.tally t actions) := by
  induction actions generalizing s t with
  | nil => exact h
  | cons a actions ih =>
    have ha := hactions a List.mem_cons_self
    have hrest := fun a' h' => hactions a' (List.mem_cons_of_mem a h')
    cases a with
    | request step =>
      refine ih hrest ?_ (h.trans (lookedUp_perform hkeeping ha))
      show (s.perform step).2.settings.keepsValidators = true
      rw [perform_settings]
      exact hkeeping
    | jsonSchema source title strict => exact ih hrest hkeeping h
    | visibility form values => exact ih hrest hkeeping h
    | resetMetrics => exact absurd ha id

/-! ## Submissions that cannot be told -/

/-- Every submission of a run can be told by the validator that it is given to. -/
def TellsAll (s : Service) : List Action → Prop
  | [] => True
  | .request (.validate w source submission) :: actions =>
    (∀ v, (s.compile w source).1 = .ok v → v.Tells w.now.date submission) ∧
      (s.after (.request (.validate w source submission))).TellsAll actions
  | a :: actions => (s.after a).TellsAll actions

/-- A validation that fails with a validator at hand is one that the validator cannot tell. -/
theorem untold_validate (s : Service) (w : Surroundings) (source : Source) (submission : Value) :
    (s.share (.validate w source submission)).untold = 0 ↔
      ∀ v, (s.compile w source).1 = .ok v → v.Tells w.now.date submission := by
  simp only [share, validate_eq_bind]
  cases (s.compile w source).1 with
  | error e => exact iff_of_true rfl fun v hv => by cases hv
  | ok v =>
    have hisOk : ((Except.ok v : Except ServiceError Validator).bind fun v =>
        (v.validate s.locale w.now.date submission).mapError ServiceError.breakdown).isOk =
          (v.validate s.locale w.now.date submission).isOk := by
      simp only [Except.bind]
      cases v.validate s.locale w.now.date submission <;> rfl
    rw [hisOk]
    have htells : (v.validate s.locale w.now.date submission).isOk = true ↔
        v.Tells w.now.date submission := Validator.isOk_validate_iff
    constructor
    · rintro h _ ⟨⟩
      rw [← htells]
      cases hok : (v.validate s.locale w.now.date submission).isOk with
      | true => rfl
      | false =>
        rw [hok] at h
        cases h
    · intro h
      rw [htells.mpr (h v rfl)]
      rfl

theorem untold_eq_zero_iff (actions : List Action) (hactions : ∀ a ∈ actions, a.Counts) :
    (s.tally t actions).untold = 0 ↔ t.untold = 0 ∧ s.TellsAll actions := by
  induction actions generalizing s t with
  | nil => simp [tally, TellsAll]
  | cons a actions ih =>
    have ha := hactions a List.mem_cons_self
    rw [tally, ih fun a' h' => hactions a' (List.mem_cons_of_mem a h')]
    cases a with
    | request step =>
      cases step with
      | validate w source submission =>
        rw [TellsAll, ← untold_validate, count, Tally.add_eq, Nat.add_eq_zero_iff, and_assoc]
      | _ => rfl
    | jsonSchema source title strict => rfl
    | visibility form values => rfl
    | resetMetrics => exact absurd ha id

/-- After every run of a new service the metrics tell what was done since the last reset. Where
validators are kept and nothing is set back, the hits of the metrics are those of the cache; every
compilation was then a hit, a miss or a failure, exactly if all submissions could be told. -/
theorem counters_agree (settings : Settings) (actions : List Action) :
    let s := (start settings none).run actions
    let t := (start settings none).tally .zero actions
    s.report.lookup "total_compilations" = some (.int (t.calls + t.rounds : Nat)) ∧
    s.report.lookup "total_validations" = some (.int (t.results + t.trials : Nat)) ∧
    s.report.lookup "cache_hit_rate" =
      some (.float (Binary64.percentage t.served (t.calls + t.rounds))) ∧
    s.report.lookup "cache_size" = some (.int s.cache.size) ∧
    (settings.keepsValidators = true → (∀ a ∈ actions, a.Counts) →
      s.metrics.hits = s.cache.hits ∧
      (s.metrics.compilations = s.cache.hits + s.cache.misses + t.raised ↔
        (start settings none).TellsAll actions)) := by
  intro s t
  have hrecorded : Recorded .start s.metrics t := recorded_run actions (.refl .start)
  have hcompilations : s.metrics.compilations = t.calls + t.rounds := by
    simpa [Metrics.start] using hrecorded.compilations
  have hvalidations : s.metrics.validations = t.results + t.trials := by
    simpa [Metrics.start] using hrecorded.validations
  have hhits : s.metrics.hits = t.served := by
    simpa [Metrics.start] using hrecorded.hits
  refine ⟨?_, ?_, ?_, rfl, fun hkeeping hactions => ?_⟩
  · rw [← hcompilations]
    rfl
  · rw [← hvalidations]
    rfl
  · rw [← hcompilations, ← hhits]
    rfl
  · have hlookedUp : LookedUp (Cache.empty settings.capacity) s.cache t :=
      lookedUp_run actions hactions hkeeping (.refl _)
    have hcacheHits : s.cache.hits = t.served := by
      simpa [Cache.empty] using hlookedUp.hits
    have hlookups : s.cache.hits + s.cache.misses + t.raised = t.calls + t.rounds + t.untold := by
      simpa [Cache.empty] using hlookedUp.lookups
    have huntold : t.untold = 0 ↔ (start settings none).TellsAll actions :=
      (untold_eq_zero_iff actions hactions).trans (and_iff_right rfl)
    refine ⟨hhits.trans hcacheHits.symm, ?_⟩
    rw [← huntold]
    omega

/-! ## One validation of a new service -/

/-- The first validator that a service is asked for is built. -/
theorem compile_first {settings : Settings} {name : String}
    (hkeeping : settings.keepsValidators = true) (hform : source.form? = .ok form)
    (hadmits : settings.Admits form) (hname : form.contentHash = .ok name)
    (hbuild : Validator.build form none = .ok v) (w : Surroundings) :
    (start settings none).compile w source =
      (.ok v, (start settings none).compiled w false
        ((Cache.empty settings.capacity).miss name v)) := by
  have hempty : (start settings none).cache = Cache.empty settings.capacity := rfl
  rw [compile_admitted hform (check_eq_ok_iff.mpr hadmits), fetch_of_keeping hkeeping hname,
    Cache.lookup, hempty, build_contentHash hname, hbuild]
  rfl

/-- The next time it is the one that was kept. -/
theorem compile_second {settings : Settings} {name : String}
    (hkeeping : settings.keepsValidators = true) (hform : source.form? = .ok form)
    (hadmits : settings.Admits form) (hname : form.contentHash = .ok name)
    (hbuild : Validator.build form none = .ok v) (w : Surroundings) :
    (((start settings none).compile w source).2.compile w source).1 = .ok v := by
  have hkept : ((Cache.empty settings.capacity).miss name v).lookup name form =
      .ok (v, true, ((Cache.empty settings.capacity).miss name v).hit name v) := by
    simp [Cache.lookup, Cache.miss, Cache.empty]
  have hfetch : ((start settings none).compile w source).2.fetch form.contentHash form =
      .ok (v, true, ((Cache.empty settings.capacity).miss name v).hit name v) := by
    rw [compile_first hkeeping hform hadmits hname hbuild w, fetch_of_keeping hkeeping hname]
    exact mapError_eq_ok_iff.mpr hkept
  have hcheck : ((start settings none).compile w source).2.check form = .ok () := by
    rw [compile_first hkeeping hform hadmits hname hbuild w]
    exact check_eq_ok_iff.mpr hadmits
  rw [compile_admitted hform hcheck, hfetch]

/-- The validator of a form of one date under a name. -/
def dateValidator (name : String) : Validator :=
  ⟨name, (withDefault .null).fields.map fun f => ⟨f, .date⟩⟩

theorem exists_compile_date (hform : source.form? = .ok (withDefault .null)) (w : Surroundings) :
    ∃ name, (start .standard none).compile w source =
      (.ok (dateValidator name), (start .standard none).compiled w false
        ((Cache.empty Settings.standard.capacity).miss name (dateValidator name))) := by
  have hname : (withDefault .null).contentHash =
      .ok (Sha256.digest (withDefault .null).encoding.toUTF8.toList) :=
    contentHash_eq_ok_iff.mpr ⟨rfl, rfl⟩
  exact ⟨_, compile_first rfl hform (admits_withDefault _) hname (build_withDefault hname) w⟩

theorem exists_compile_date_again (hform : source.form? = .ok (withDefault .null))
    (w : Surroundings) :
    ∃ name, (((start .standard none).compile w source).2.compile w source).1 =
      .ok (dateValidator name) := by
  have hname : (withDefault .null).contentHash =
      .ok (Sha256.digest (withDefault .null).encoding.toUTF8.toList) :=
    contentHash_eq_ok_iff.mpr ⟨rfl, rfl⟩
  exact ⟨_, compile_second rfl hform (admits_withDefault _) hname (build_withDefault hname) w⟩

theorem dateValidator_validate (name : String) (locale : Locale) (today : Date) :
    (dateValidator name).validate locale today (.object [("x", .text DateText.manyHours)]) =
      .error .overlong := by
  have hblank : Content.date.isNothing (.text DateText.manyHours) = false := by decide
  have hread : Content.date.read today false (.text DateText.manyHours) = .error ⟨⟩ := by
    simp only [Content.read, Entry.date, DateText.read_manyHours]
    rfl
  refine Validator.validate_of_accept_error (Item.accept_of_overlong ?_)
  show Item.judge today _ (some (.text DateText.manyHours)) = _
  rw [Item.judge_of_entered (by simp), hblank]
  exact map_eq_error_iff.mpr hread

/-- A submission that cannot be told is a miss and a failure, but only one compilation. -/
theorem untold_counted_twice :
    let submission : Value := .object [("x", .text DateText.manyHours)]
    let actions : List Action :=
      [.request (.validate (momentOf someDay) (.form (withDefault .null)) submission)]
    let s := (start .standard none).run actions
    let t := (start .standard none).tally .zero actions
    Settings.standard.keepsValidators = true ∧ (∀ a ∈ actions, a.Counts) ∧
      s.metrics.compilations = 1 ∧ s.cache.hits = 0 ∧ s.cache.misses = 1 ∧ t.raised = 1 ∧
      s.metrics.compilations ≠ s.cache.hits + s.cache.misses + t.raised := by
  intro submission actions s t
  obtain ⟨name, hcompile⟩ := @exists_compile_date (.form (withDefault .null)) rfl (momentOf someDay)
  have hvalidate : (start .standard none).validate (momentOf someDay) (.form (withDefault .null))
      submission = (.error (.breakdown .overlong), (start .standard none).compiled (momentOf someDay) false
        ((Cache.empty Settings.standard.capacity).miss name (dateValidator name))) := by
    rw [validate, hcompile]
    simp only [submission, dateValidator_validate]
  have hs : s = (start .standard none).compiled (momentOf someDay) false
      ((Cache.empty Settings.standard.capacity).miss name (dateValidator name)) :=
    congrArg Prod.snd hvalidate
  have hraised : t.raised = 1 := by
    show 0 + (!((start .standard none).validate _ _ submission).1.isOk).toNat = 1
    rw [hvalidate]
    rfl
  rw [hs, hraised]
  refine ⟨rfl, ?_, rfl, rfl, rfl, rfl, ?_⟩
  · intro a ha
    rw [List.mem_singleton.mp ha]
    exact fun h => by cases h
  · show 1 ≠ 0 + 1 + 1
    decide

/-- The counters agree after a form was compiled and a submission with a day was validated. -/
theorem counters_agree_someDay :
    let actions : List Action :=
      [.request (.compile (momentOf someDay) (.form (withDefault .null))),
        .request (.validate (momentOf someDay) (.form (withDefault .null))
          (.object [("x", .text "2024-02-12")]))]
    let s := (start .standard none).run actions
    let t := (start .standard none).tally .zero actions
    Settings.standard.keepsValidators = true ∧ (∀ a ∈ actions, a.Counts) ∧
      s.report.lookup "total_compilations" = some (.int 2) ∧ s.metrics.hits = s.cache.hits ∧
      s.metrics.compilations = s.cache.hits + s.cache.misses + t.raised := by
  intro actions s t
  have hactions : ∀ a ∈ actions, a.Counts := by
    simp [actions, Action.Counts]
  obtain ⟨hcompilations, -, -, -, hagree⟩ := counters_agree .standard actions
  obtain ⟨hhits, htold⟩ := hagree rfl hactions
  have hread : ∃ r, DateText.read someDay (Text.trim "2024-02-12") = .ok r :=
    DateText.exists_read_trim (by decide) someDay
  have htells : (start .standard none).TellsAll actions := by
    refine ⟨fun v hv => ?_, trivial⟩
    obtain ⟨name, hsecond⟩ :=
      @exists_compile_date_again (.form (withDefault .null)) rfl (momentOf someDay)
    obtain rfl : v = dateValidator name := Except.ok.inj (hv.symm.trans hsecond)
    rw [Validator.tells_object_iff]
    refine List.forall_mem_singleton.mpr ((Item.tells_iff_of_short (List.forall_mem_nil _)).mpr ?_)
    intro text _ htext _
    obtain rfl : "2024-02-12" = text := by
      injection htext with htext
      injection htext
    exact hread
  exact ⟨rfl, hactions, hcompilations, hhits, htold.mpr htells⟩

end Service

end Formwork
