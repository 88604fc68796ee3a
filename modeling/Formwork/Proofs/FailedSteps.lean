import Formwork.Proofs.Bookkeeping

/-!
# Steps that fail because of their form

`Service.intact_of_failure`: a compilation, a validation or a schema that fails because the document
is malformed, the form has issues or no validator can be built leaves the service as it was, but for
one compilation more in the metrics, and none for a schema. So does a measurement of a form that is
refused, and that counts nothing. By induction this holds of any number of such steps in a row.

A compilation takes the cache over only when it has a validator, so the two places to look at are
where a validation can still fail behind its compilation and a measurement behind its first round.
There the error is another one: the submission cannot be told, there is no sample, or no validator.
-/

namespace Formwork

/-- An error that is the form's: its document is malformed, it has issues, which may be too long to
be told, or no validator can be built for it. -/
inductive ServiceError.AboutForm : ServiceError → Prop
  | form (e : FormError) : AboutForm (.form e)
  | untold : AboutForm .longInteger
  | build (e : BuildError) : AboutForm (.build e)

namespace Service

variable {s s' s'' : Service} {form : Form} {source : Source} {w : Surroundings} {e : ServiceError}

/-! ## What is left as it was -/

/-- The second service is the first one, but for some compilations that found no validator kept. -/
structure Intact (s s' : Service) (compilations : Nat) : Prop where
  settings : s'.settings = s.settings
  /-- The names in their order, the validators and the counts of hits and misses. -/
  cache : s'.cache = s.cache
  locale : s'.locale = s.locale
  validations : s'.metrics.validations = s.metrics.validations
  hits : s'.metrics.hits = s.metrics.hits
  compilations : s'.metrics.compilations = s.metrics.compilations + compilations

theorem Intact.refl (s : Service) : Intact s s 0 := ⟨rfl, rfl, rfl, rfl, rfl, rfl⟩

theorem Intact.trans {m n : Nat} (h : Intact s s' m) (h' : Intact s' s'' n) :
    Intact s s'' (m + n) where
  settings := h'.settings.trans h.settings
  cache := h'.cache.trans h.cache
  locale := h'.locale.trans h.locale
  validations := h'.validations.trans h.validations
  hits := h'.hits.trans h.hits
  compilations := by
    rw [h'.compilations, h.compilations, Nat.add_assoc]

/-- A compilation that came to nothing is counted. -/
theorem intact_compiled (s : Service) (w : Surroundings) :
    Intact s (s.compiled w false s.cache) 1 := ⟨rfl, rfl, rfl, rfl, rfl, rfl⟩

/-! ## Errors of the pieces -/

theorem check_error (h : s.check form = .error e) : e.AboutForm := by
  unfold check at h
  by_cases hchecks : s.settings.checksForms = true
  · rw [if_pos hchecks] at h
    obtain ⟨fault, -, rfl⟩ := mapError_eq_error_iff.mp h
    cases fault with
    | refused issues => exact .form issues
    | longInteger => exact .untold
  · rw [if_neg hchecks] at h
    cases h

theorem fetch_error {name : Except Value.NoJson String} (h : s.fetch name form = .error e) :
    ∃ fault, e = .build fault := by
  unfold fetch at h
  by_cases hkeeping : s.settings.keepsValidators = true
  · rw [if_pos hkeeping] at h
    obtain ⟨fault, -, rfl⟩ := mapError_eq_error_iff.mp h
    exact ⟨fault, rfl⟩
  · rw [if_neg hkeeping] at h
    obtain ⟨fault, -, rfl⟩ := mapError_eq_error_iff.mp h
    exact ⟨fault, rfl⟩

/-! ## Compiling and validating -/

/-- A compilation that fails keeps the cache. -/
theorem compile_error (h : (s.compile w source).1 = .error e) :
    (s.compile w source).2 = s.compiled w false s.cache := by
  rcases compile_cases s w source with ⟨form, v, c, -, -, -, hcompile⟩ | ⟨e', -, hcompile⟩
  · rw [hcompile] at h
    cases h
  · rw [hcompile]

/-- Whatever keeps a compilation from success is about the form. -/
theorem compile_aboutForm (h : (s.compile w source).1 = .error e) : e.AboutForm := by
  cases hform : source.form? with
  | error e' =>
    rw [compile_malformed hform] at h
    injection h with h
    exact h ▸ .form e'
  | ok form =>
    cases hcheck : s.check form with
    | error e' =>
      rw [compile_refused hform hcheck] at h
      injection h with h
      exact h ▸ check_error hcheck
    | ok =>
      rw [compile_admitted hform hcheck] at h
      cases hfetch : s.fetch form.contentHash form with
      | error e' =>
        rw [hfetch] at h
        injection h with h
        obtain ⟨fault, rfl⟩ := fetch_error hfetch
        exact h ▸ .build fault
      | ok found =>
        rw [hfetch] at h
        cases h

/-- A validation that fails because of the form has failed in its compilation. -/
theorem validate_error {submission : Value} (h : (s.validate w source submission).1 = .error e)
    (he : e.AboutForm) :
    (s.compile w source).1 = .error e ∧
      (s.validate w source submission).2 = (s.compile w source).2 := by
  rw [validate_eq_bind] at h
  rcases bind_eq_error_iff.mp h with hcompile | ⟨v, -, htold⟩
  · refine ⟨hcompile, ?_⟩
    rcases validate_cases s w source submission with ⟨-, -, hafter⟩ | ⟨hok, -⟩ | ⟨hok, -⟩
    · exact hafter
    all_goals
      rw [hcompile] at hok
      cases hok
  -- With a validator at hand only the submission can be at fault.
  · obtain ⟨entry, -, rfl⟩ := mapError_eq_error_iff.mp htold
    cases he

/-! ## Measuring -/

/-- Rounds fail with an error of their step. -/
theorem rounds_error {σ : Type} {step : σ → Except ServiceError σ} {P : ServiceError → Prop}
    (hstep : ∀ x e, step x = .error e → P e) {n : Nat} {x : σ}
    (h : (rounds step n x).1 = .error e) : P e := by
  induction n generalizing x with
  | zero => cases h
  | succ n ih =>
    rw [rounds] at h
    cases hx : step x with
    | error e' =>
      rw [hx] at h
      injection h with h
      exact h ▸ hstep x e' hx
    | ok y =>
      rw [hx] at h
      exact ih h

/-- A trial finds no issues in a form. -/
theorem trial_error {issues : FormError} : trial w form ≠ .error (.form issues) := by
  unfold trial
  intro h
  rcases bind_eq_error_iff.mp h with hsample | ⟨payload, -, h⟩
  · obtain ⟨lack, -, heq⟩ := mapError_eq_error_iff.mp hsample
    cases lack <;> cases heq
  · rcases bind_eq_error_iff.mp h with hnamed | ⟨v, -, htold⟩
    · obtain ⟨fault, -, heq⟩ := mapError_eq_error_iff.mp hnamed
      cases heq
    · obtain ⟨entry, -, heq⟩ := mapError_eq_error_iff.mp htold
      cases heq

/-- Behind the check a round fails for want of a validator only. -/
theorem compileRound_error {name : Except Value.NoJson String}
    (h : compileRound w (.ok ()) name form s = .error e) : ∃ fault, e = .build fault := by
  unfold compileRound at h
  rcases bind_eq_error_iff.mp h with hchecked | ⟨-, -, h⟩
  · cases hchecked
  · rcases bind_eq_error_iff.mp h with hfetch | ⟨found, -, hreturn⟩
    · exact fetch_error hfetch
    · cases hreturn

/-- A refused form is refused in the first round of compilation. -/
theorem rounds_refused {checked : Except ServiceError Unit} {name : Except Value.NoJson String}
    {n : Nat} {issues : FormError}
    (h : (rounds (compileRound w checked name form) n s).1 = .error (.form issues)) :
    (rounds (compileRound w checked name form) n s).2 = s := by
  cases checked with
  | error e =>
    cases n with
    | zero => rfl
    | succ n => rfl
  | ok =>
    -- The issues of a form are told before any round is through.
    obtain ⟨fault, hfault⟩ : ∃ fault, ServiceError.form issues = .build fault :=
      rounds_error (fun _ _ => compileRound_error) h
    cases hfault

/-- A measurement that ends with a refusal has ended in its rounds of compilation. -/
theorem measure_refused {σ : Type} {compile : σ → Except ServiceError σ} {validated : σ → σ}
    {n : Int} {x : σ} {issues : FormError}
    (h : (measure w form compile validated n x).1 = .error (.form issues)) :
    (rounds compile n.toNat x).1 = .error (.form issues) ∧
      (measure w form compile validated n x).2 = (rounds compile n.toNat x).2 := by
  unfold measure at h ⊢
  by_cases hfew : n < 1
  · rw [if_pos hfew] at h
    cases h
  · rw [if_neg hfew] at h ⊢
    generalize rounds compile n.toNat x = last at h ⊢
    obtain ⟨result, y⟩ := last
    cases result with
    | error e =>
      injection h with h
      exact ⟨congrArg Except.error h, rfl⟩
    | ok =>
      cases htrial : trial w form with
      | error e =>
        simp only [htrial] at h
        injection h with h
        exact absurd (h ▸ htrial) trial_error
      | ok o =>
        simp only [htrial] at h
        cases h

/-- A measurement of a refused form ends before anything is counted. -/
theorem benchmark_refused {n : Option Int} {issues : FormError}
    (h : (s.benchmark w source n).1 = .error (.form issues)) : (s.benchmark w source n).2 = s := by
  unfold benchmark at h ⊢
  cases hform : source.form? with
  | error e => rfl
  | ok form =>
    simp only [hform] at h ⊢
    obtain ⟨hrounds, hafter⟩ := measure_refused h
    rw [hafter]
    exact rounds_refused hrounds

/-! ## Steps and runs -/

/-- The action fails because of its form. A measurement may also find no validator, but only its
refusal is meant. -/
inductive Fails (s : Service) : Action → Prop
  | compile {w : Surroundings} {source : Source} {e : ServiceError}
      (h : (s.compile w source).1 = .error e) : Fails s (.request (.compile w source))
  | validate {w : Surroundings} {source : Source} {submission : Value} {e : ServiceError}
      (h : (s.validate w source submission).1 = .error e) (he : e.AboutForm) :
      Fails s (.request (.validate w source submission))
  | jsonSchema {source : Source} {title : Option String} {strict : Bool} {e : ServiceError}
      (h : s.jsonSchema source title strict = .error e) : Fails s (.jsonSchema source title strict)
  | benchmark {w : Surroundings} {source : Source} {n : Option Int} {issues : FormError}
      (h : (s.benchmark w source n).1 = .error (.form issues)) :
      Fails s (.request (.benchmark w source n))

/-- How many compilations an action counts when it fails because of its form. -/
def Action.attempts : Action → Nat
  | .request (.compile _ _) | .request (.validate _ _ _) => 1
  | _ => 0

/-- Every action of a run fails in its turn. -/
def AllFail (s : Service) : List Action → Prop
  | [] => True
  | a :: actions => s.Fails a ∧ (s.after a).AllFail actions

theorem Fails.intact {a : Action} (h : s.Fails a) : Intact s (s.after a) a.attempts := by
  cases h with
  | compile h =>
    show Intact s (s.compile _ _).2 1
    rw [compile_error h]
    exact intact_compiled s _
  | validate h he =>
    obtain ⟨hcompile, hafter⟩ := validate_error h he
    show Intact s (s.validate _ _ _).2 1
    rw [hafter, compile_error hcompile]
    exact intact_compiled s _
  | jsonSchema h => exact .refl s
  | benchmark h =>
    show Intact s (s.benchmark _ _ _).2 0
    rw [benchmark_refused h]
    exact .refl s

theorem AllFail.intact {actions : List Action} (h : s.AllFail actions) :
    Intact s (s.run actions) (actions.map Action.attempts).sum := by
  induction actions generalizing s with
  | nil => exact .refl s
  | cons a actions ih =>
    rw [List.map_cons, List.sum_cons]
    exact h.1.intact.trans (ih h.2)

/-- What fails because of its form, in whatever state, leaves a service intact: a compilation, which
fails for no other reason, or a validation counts once, a schema and the measurement of a refused
form not at all. So does a run in which every step fails. -/
theorem intact_of_failure (s : Service) :
    (∀ w source e, (s.compile w source).1 = .error e →
      e.AboutForm ∧ Intact s (s.compile w source).2 1) ∧
    (∀ w source submission e, (s.validate w source submission).1 = .error e → e.AboutForm →
      Intact s (s.validate w source submission).2 1) ∧
    (∀ source title strict e, s.jsonSchema source title strict = .error e →
      Intact s (s.after (.jsonSchema source title strict)) 0) ∧
    (∀ w source n issues, (s.benchmark w source n).1 = .error (.form issues) →
      Intact s (s.benchmark w source n).2 0) ∧
    ∀ actions, s.AllFail actions →
      Intact s (s.run actions) (actions.map Action.attempts).sum := by
  refine ⟨fun w source e h => ?_, fun w source submission e h he => ?_,
    fun source title strict e h => ?_, fun w source n issues h => ?_, fun actions h => h.intact⟩
  · exact ⟨compile_aboutForm h, (Fails.compile h).intact⟩
  · exact (Fails.validate h he).intact
  · exact (Fails.jsonSchema h).intact
  · exact (Fails.benchmark h).intact

/-- A form without checks and no form at all, in turn: only the first two attempts are counted. -/
theorem intact_of_failure_unchecked :
    let settings := { Settings.standard with checksForms := false, keepsValidators := false }
    let colored : Form := ⟨"1", [⟨"a", "x", "color", "X", false, none, none, none, none, false⟩]⟩
    let s := start settings none
    let actions : List Action :=
      [.request (.compile (momentOf someDay) (.form colored)),
        .request (.validate (momentOf someDay) (.document .null) (.object [])),
        .jsonSchema (.form colored) none true,
        .request (.benchmark (momentOf someDay) (.document .null) none)]
    s.AllFail actions ∧ Intact s (s.run actions) 2 := by
  intro settings colored s actions
  have hfail : s.AllFail actions :=
    ⟨.compile rfl, .validate rfl (.form _), .jsonSchema rfl, .benchmark rfl, trivial⟩
  exact ⟨hfail, (intact_of_failure s).2.2.2.2 actions hfail⟩

end Service

end Formwork
