import Formwork.Proofs.CycleSearch
import Formwork.Proofs.KeyOrder
import Formwork.Proofs.RecentUse
import Formwork.Service.Basic

/-!
# Whether a cache can be told from the answers

A service with a cache and one without answer the same requests alike as long as every validator
that is kept would be built alike for whatever form has its name. `Service.Matched` relates the two
services, and every request preserves it. The name of a form is a digest of its JSON document, so
forms that differ only in what their documents do not show are the exception:
`transparent_iff_separated` says that they are the only one, and `date_served_for_text` shows it.
-/

namespace Formwork

/-! ## Validators that are alike -/

/-- Validators of one name that make the same of every submission. -/
structure Validator.Alike (v w : Validator) : Prop where
  hash : v.hash = w.hash
  fieldNames : v.fieldNames = w.fieldNames
  validate : ∀ locale today submission,
    v.validate locale today submission = w.validate locale today submission

theorem Validator.Alike.refl (v : Validator) : v.Alike v := ⟨rfl, rfl, fun _ _ _ => rfl⟩

/-- The service checks the form and finds nothing, or does not check forms. -/
def Settings.Admits (settings : Settings) (form : Form) : Prop :=
  settings.checksForms = true → form.check = .ok ()

/-- The same settings with a cache or without one. -/
def Settings.keeping (settings : Settings) (b : Bool) : Settings :=
  { settings with keepsValidators := b }

/-- Different documents of some forms have different digests. -/
def DigestsApart (P : Form → Prop) : Prop :=
  ∀ f g, P f → P g →
    Sha256.digest f.encoding.toUTF8.toList = Sha256.digest g.encoding.toUTF8.toList →
    f.encoding = g.encoding

/-- What the name of a form shows of it is all that matters to its validator. -/
structure Separated (settings : Settings) (P : Form → Prop) : Prop where
  /-- Forms with one document have validators that are alike. -/
  alike : ∀ f g v, P f → P g → settings.Admits f → settings.Admits g →
    f.noJson? = none → g.noJson? = none → f.encoding = g.encoding →
    Validator.build f none = .ok v → ∃ w, Validator.build g none = .ok w ∧ v.Alike w
  /-- The lack of a document is the only fault of a form that has none. -/
  undocumented : ∀ f e, P f → settings.Admits f → f.noJson? = some e →
    Validator.build f none = .error (.noJson e)

namespace Service

/-! ## Requests and replies -/

/-- What is asked of a service. -/
inductive Step where
  | compile (w : Surroundings) (source : Source)
  | validate (w : Surroundings) (source : Source) (submission : Value)
  | benchmark (w : Surroundings) (source : Source) (rounds : Option Int)
  | clearCache
  | speak (tag : Option String)

/-- Every form that the step brings is one of some forms. -/
def Step.About (P : Form → Prop) : Step → Prop
  | .compile _ source | .validate _ source _ | .benchmark _ source _ =>
    ∀ form, source.form? = .ok form → P form
  | .clearCache | .speak _ => True

/-- What becomes of a compilation or a validation. -/
inductive Reply where
  | compiled (r : Except ServiceError (String × List String))
  | validated (r : Except ServiceError Outcome)

/-- A step of a service, with the reply to a compilation or a validation. -/
def perform (s : Service) : Step → Option Reply × Service
  | .compile w source =>
    match s.compile w source with
    | (r, s) => (some (.compiled (r.map fun v => (v.hash, v.fieldNames))), s)
  | .validate w source submission =>
    match s.validate w source submission with
    | (r, s) => (some (.validated r), s)
  | .benchmark w source rounds => (none, (s.benchmark w source rounds).2)
  | .clearCache => (none, s.clearCache)
  | .speak tag => (none, s.speak tag)

/-- The replies to some steps. -/
def replies (s : Service) : List Step → List (Option Reply)
  | [] => []
  | step :: steps => (s.perform step).1 :: (s.perform step).2.replies steps

/-- New services with and without a cache reply the same to all steps about some forms. -/
def Transparent (settings : Settings) (P : Form → Prop) : Prop :=
  ∀ steps : List Step, (∀ step ∈ steps, step.About P) →
    (start (settings.keeping true) none).replies steps =
      (start (settings.keeping false) none).replies steps

variable {settings : Settings} {P : Form → Prop} {form f g : Form} {name : String} {v w : Validator}
variable {s s' t : Service}

/-! ## Fetching a validator -/

/-- Every validator that is kept was built for one of some forms that is admitted. -/
def Sound (settings : Settings) (P : Form → Prop) (c : Cache) : Prop :=
  ∀ entry ∈ c.entries, ∃ f, P f ∧ settings.Admits f ∧ f.contentHash = .ok entry.1 ∧
    Validator.build f none = .ok entry.2

theorem Sound.hit {c : Cache} (h : Sound settings P c) (hv : c.entries.lookup name = some v) :
    Sound settings P (c.hit name v) := by
  intro entry hentry
  rcases List.mem_append.mp hentry with hentry | hentry
  · exact h entry (List.mem_of_mem_filter hentry)
  · rw [List.mem_singleton.mp hentry]
    exact h _ (mem_of_lookup hv)

theorem Sound.miss {c : Cache} (h : Sound settings P c) (hP : P form)
    (hadmits : settings.Admits form) (hname : form.contentHash = .ok name)
    (hbuild : Validator.build form none = .ok v) : Sound settings P (c.miss name v) := by
  intro entry hentry
  rcases List.mem_append.mp hentry with hentry | hentry
  · exact h entry (List.mem_of_mem_drop hentry)
  · rw [List.mem_singleton.mp hentry]
    exact ⟨form, hP, hadmits, hname, hbuild⟩

/-- What is fetched without a cache is built. -/
theorem fetch_of_not_keeping (h : s.settings.keepsValidators = false) :
    s.fetch form.contentHash form =
      ((Validator.build form none).map fun v => (v, false, s.cache)).mapError .build := by
  rw [fetch, if_neg (by simp [h])]
  rfl

/-- What is fetched with a cache is looked up under the name of the form. -/
theorem fetch_of_keeping (h : s.settings.keepsValidators = true)
    (hname : form.contentHash = .ok name) :
    s.fetch form.contentHash form = (s.cache.lookup name form).mapError .build := by
  rw [fetch, if_pos h, hname]
  rfl

/-- A form without a name has no validator that is kept. -/
theorem fetch_undocumented {e : Value.NoJson} (h : s.settings.keepsValidators = true)
    (hname : form.contentHash = .error e) :
    s.fetch form.contentHash form = .error (.build (.noJson e)) := by
  rw [fetch, if_pos h, hname]
  rfl

/-- A cache stays sound when a form is fetched. -/
theorem Sound.fetch {c : Cache} {b : Bool} (h : Sound settings P s.cache) (hP : P form)
    (hadmits : settings.Admits form) (hfetch : s.fetch form.contentHash form = .ok (v, b, c)) :
    Sound settings P c := by
  cases hs : s.settings.keepsValidators with
  | false =>
    rw [fetch_of_not_keeping hs] at hfetch
    obtain ⟨w, -, hw⟩ := map_eq_ok_iff.mp (mapError_eq_ok_iff.mp hfetch)
    injection hw with _ hw
    injection hw with _ hc
    rwa [← hc]
  | true =>
    cases hname : form.contentHash with
    | error e =>
      rw [fetch_undocumented hs hname] at hfetch
      cases hfetch
    | ok name =>
      rw [fetch_of_keeping hs hname, mapError_eq_ok_iff] at hfetch
      rcases Cache.lookup_cases hfetch with ⟨hv, -, rfl⟩ | ⟨-, hbuild, -, rfl⟩
      · exact h.hit hv
      · rw [build_contentHash hname] at hbuild
        exact h.miss hP hadmits hname hbuild

/-- A form is refused for the same reason with a cache as without one, and else has validators that
are alike. -/
theorem fetch_agree (hsep : Separated settings P) (hdigest : DigestsApart P)
    (hs : s.settings.keepsValidators = true) (ht : t.settings.keepsValidators = false)
    (hsound : Sound settings P s.cache) (hP : P form) (hadmits : settings.Admits form) :
    (∃ e, s.fetch form.contentHash form = .error e ∧ t.fetch form.contentHash form = .error e) ∨
    ∃ v w b c, s.fetch form.contentHash form = .ok (v, b, c) ∧
      t.fetch form.contentHash form = .ok (w, false, t.cache) ∧ v.Alike w := by
  rw [fetch_of_not_keeping ht]
  cases hname : form.contentHash with
  | error e =>
    have hbuild := hsep.undocumented form e hP hadmits (contentHash_eq_error_iff.mp hname)
    rw [← hname, fetch_undocumented hs hname, hbuild]
    exact Or.inl ⟨_, rfl, rfl⟩
  | ok name =>
    rw [← hname, fetch_of_keeping hs hname, Cache.lookup]
    cases hv : s.cache.entries.lookup name with
    | some v =>
      -- The validator may have been built for another form, but for one with the same document.
      obtain ⟨f, hPf, hf, hnamef, hbuild⟩ := hsound _ (mem_of_lookup hv)
      obtain ⟨hjson, hdigestform⟩ := contentHash_eq_ok_iff.mp hname
      obtain ⟨hjsonf, hdigestf⟩ := contentHash_eq_ok_iff.mp hnamef
      have hencoding : f.encoding = form.encoding :=
        hdigest f form hPf hP (hdigestf.trans hdigestform.symm)
      obtain ⟨w, hw, halike⟩ :=
        hsep.alike f form v hPf hP hf hadmits hjsonf hjson hencoding hbuild
      rw [hw]
      exact Or.inr ⟨v, w, _, _, rfl, rfl, halike⟩
    | none =>
      show (∃ e, ((Validator.build form (some name)).map _).mapError _ = .error e ∧ _) ∨ _
      rw [build_contentHash hname]
      cases Validator.build form none with
      | error e => exact Or.inl ⟨_, rfl, rfl⟩
      | ok v => exact Or.inr ⟨v, v, _, _, rfl, rfl, .refl v⟩

/-! ## Compiling forms -/

theorem compile_malformed {w : Surroundings} {source : Source} {e : FormError}
    (h : source.form? = .error e) :
    s.compile w source = (.error (.form e), s.compiled w false s.cache) := by
  rw [compile, h]
  rfl

theorem compile_refused {w : Surroundings} {source : Source} {e : ServiceError}
    (h : source.form? = .ok form) (hcheck : s.check form = .error e) :
    s.compile w source = (.error e, s.compiled w false s.cache) := by
  simp only [compile, h, mapError_ok, bind, Except.bind, hcheck]

theorem compile_admitted {w : Surroundings} {source : Source} (h : source.form? = .ok form)
    (hcheck : s.check form = .ok ()) :
    s.compile w source =
      match s.fetch form.contentHash form with
      | .ok (v, b, c) => (.ok v, s.compiled w b c)
      | .error e => (.error e, s.compiled w false s.cache) := by
  rcases hfetch : s.fetch form.contentHash form with e | ⟨v, b, c⟩ <;>
    simp only [compile, h, mapError_ok, bind, Except.bind, hcheck, hfetch]

theorem check_eq_ok_iff : s.check form = .ok () ↔ s.settings.Admits form := by
  rw [check, Settings.Admits]
  split
  · rename_i hchecks
    rw [mapError_eq_ok_iff]
    simp [hchecks]
  · rename_i hchecks
    simp [hchecks]

theorem check_of_admits {b : Bool} (hs : s.settings = settings.keeping b)
    (hadmits : settings.Admits form) : s.check form = .ok () := by
  rw [check_eq_ok_iff, hs]
  exact hadmits

/-- A service with a cache and one without, which else are in the same state. -/
structure Matched (settings : Settings) (P : Form → Prop) (s t : Service) : Prop where
  cached : s.settings = settings.keeping true
  uncached : t.settings = settings.keeping false
  locale : s.locale = t.locale
  sound : Sound settings P s.cache

theorem Matched.check_eq (h : Matched settings P s t) (form : Form) :
    s.check form = t.check form := by
  rw [check, check, h.cached, h.uncached]
  rfl

theorem Matched.start (settings : Settings) (P : Form → Prop) :
    Matched settings P (start (settings.keeping true) none)
      (start (settings.keeping false) none) where
  cached := rfl
  uncached := rfl
  locale := rfl
  sound := fun entry hentry => by cases hentry

/-- Two compilations fail for the same reason, or give validators that are alike. -/
inductive Agree : Except ServiceError Validator → Except ServiceError Validator → Prop
  | error (e : ServiceError) : Agree (.error e) (.error e)
  | ok {v w : Validator} (h : v.Alike w) : Agree (.ok v) (.ok w)

/-- Compilations with a cache and without one agree, and keep the services matched. -/
theorem Matched.compile (hsep : Separated settings P) (hdigest : DigestsApart P)
    (h : Matched settings P s t) (w : Surroundings) {source : Source}
    (hP : ∀ form, source.form? = .ok form → P form) :
    Agree (s.compile w source).1 (t.compile w source).1 ∧
      Matched settings P (s.compile w source).2 (t.compile w source).2 := by
  -- Neither service changes its cache when a form is refused.
  have hrefused : ∀ e, s.compile w source = (.error e, s.compiled w false s.cache) →
      t.compile w source = (.error e, t.compiled w false t.cache) →
      Agree (s.compile w source).1 (t.compile w source).1 ∧
        Matched settings P (s.compile w source).2 (t.compile w source).2 := by
    intro e hs ht
    rw [hs, ht]
    exact ⟨.error e, h.cached, h.uncached, h.locale, h.sound⟩
  cases hform : source.form? with
  | error e => exact hrefused _ (compile_malformed hform) (compile_malformed hform)
  | ok form =>
    cases hcheck : s.check form with
    | error e =>
      exact hrefused e (compile_refused hform hcheck)
        (compile_refused hform (h.check_eq form ▸ hcheck))
    | ok =>
      have hadmits : settings.Admits form := by
        have hs := check_eq_ok_iff.mp hcheck
        rwa [h.cached] at hs
      have hs := compile_admitted (w := w) hform hcheck
      have ht := compile_admitted (w := w) hform (h.check_eq form ▸ hcheck)
      rcases fetch_agree hsep hdigest (by rw [h.cached]; rfl) (by rw [h.uncached]; rfl) h.sound
        (hP form hform) hadmits with ⟨e, hsf, htf⟩ | ⟨v, v', b, c, hsf, htf, halike⟩
      · rw [hsf] at hs
        rw [htf] at ht
        exact hrefused e hs ht
      · rw [hsf] at hs
        rw [htf] at ht
        rw [hs, ht]
        exact ⟨.ok halike, h.cached, h.uncached, h.locale,
          h.sound.fetch (hP form hform) hadmits hsf⟩

/-! ## Measuring -/

theorem rounds_preserves {σ : Type} {I : σ → Prop} {step : σ → Except ServiceError σ}
    (hstep : ∀ x y, I x → step x = .ok y → I y) (n : Nat) {x : σ} (h : I x) :
    I (rounds step n x).2 := by
  induction n generalizing x with
  | zero => exact h
  | succ n ih =>
    rw [rounds]
    cases hx : step x with
    | error e => exact h
    | ok y => exact ih (hstep x y h hx)

theorem repeat_preserves {σ : Type} {I : σ → Prop} {step : σ → σ} (hstep : ∀ x, I x → I (step x))
    (n : Nat) {x : σ} (h : I x) : I (Nat.repeat step n x) := by
  induction n with
  | zero => exact h
  | succ n ih => exact hstep _ ih

/-- A measurement preserves what its compilations and validations preserve. -/
theorem measure_preserves {σ : Type} {I : σ → Prop} {compile : σ → Except ServiceError σ}
    {validated : σ → σ} (hcompile : ∀ x y, I x → compile x = .ok y → I y)
    (hvalidated : ∀ x, I x → I (validated x)) (w : Surroundings) (form : Form) (n : Int) {x : σ}
    (h : I x) : I (measure w form compile validated n x).2 := by
  have hrounds := rounds_preserves hcompile n.toNat h
  rw [measure]
  split
  · exact h
  · split
    · rename_i hx
      rwa [hx] at hrounds
    · rename_i hx
      rw [hx] at hrounds
      split
      · exact hrounds
      · exact repeat_preserves hvalidated n.toNat hrounds

/-- A measurement changes neither the settings nor the language, and leaves a sound cache sound. -/
theorem benchmark_preserves (settings : Settings) (s : Service)
    (hs : s.settings.checksForms = settings.checksForms) (w : Surroundings) {source : Source}
    (hP : ∀ form, source.form? = .ok form → P form) (n : Option Int) :
    (s.benchmark w source n).2.settings = s.settings ∧
    (s.benchmark w source n).2.locale = s.locale ∧
    (Sound settings P s.cache → Sound settings P (s.benchmark w source n).2.cache) := by
  rw [benchmark]
  cases hform : source.form? with
  | error e => exact ⟨rfl, rfl, id⟩
  | ok form =>
    -- Every round fetches the form that was checked before the first of them.
    refine measure_preserves (I := fun s' : Service => s'.settings = s.settings ∧
      s'.locale = s.locale ∧ (Sound settings P s.cache → Sound settings P s'.cache))
      ?_ ?_ w form _ ⟨rfl, rfl, id⟩
    · intro x y hx hround
      rw [compileRound] at hround
      obtain ⟨_, hcheck, hround⟩ := bind_eq_ok_iff.mp hround
      obtain ⟨⟨v, b, c⟩, hfetch, hy⟩ := bind_eq_ok_iff.mp hround
      injection hy with hy
      subst hy
      have hadmits : settings.Admits form := by
        have h := check_eq_ok_iff.mp hcheck
        rwa [Settings.Admits, hs] at h
      exact ⟨hx.1, hx.2.1, fun h => (hx.2.2 h).fetch (hP form hform) hadmits hfetch⟩
    · exact fun x hx => hx

/-! ## Runs -/

/-- Every step gets the same reply with a cache as without one, and keeps the services matched. -/
theorem Matched.perform (hsep : Separated settings P) (hdigest : DigestsApart P)
    (h : Matched settings P s t) {step : Step} (hP : step.About P) :
    (s.perform step).1 = (t.perform step).1 ∧
      Matched settings P (s.perform step).2 (t.perform step).2 := by
  cases step with
  | compile w source =>
    obtain ⟨hagree, hmatched⟩ := h.compile hsep hdigest w hP
    rcases hs : s.compile w source with ⟨r, s'⟩
    rcases ht : t.compile w source with ⟨r', t'⟩
    rw [hs, ht] at hagree hmatched
    simp only [Service.perform, hs, ht]
    refine ⟨?_, hmatched⟩
    cases hagree with
    | error e => rfl
    | ok halike => simp [Except.map, halike.hash, halike.fieldNames]
  | validate w source submission =>
    obtain ⟨hagree, hmatched⟩ := h.compile hsep hdigest w hP
    rcases hs : s.compile w source with ⟨r, s'⟩
    rcases ht : t.compile w source with ⟨r', t'⟩
    rw [hs, ht] at hagree hmatched
    simp only [Service.perform, Service.validate, hs, ht]
    cases hagree with
    | error e => exact ⟨rfl, hmatched⟩
    | @ok v v' halike =>
      have hlocale : s'.locale = t'.locale := hmatched.locale
      simp only [halike.validate, hlocale]
      cases v'.validate t'.locale w.now.date submission with
      | error e => exact ⟨rfl, hmatched⟩
      | ok outcome =>
        exact ⟨rfl, hmatched.cached, hmatched.uncached, hmatched.locale, hmatched.sound⟩
  | benchmark w source n =>
    obtain ⟨hs, hslocale, hsound⟩ := benchmark_preserves settings s
      (by rw [h.cached]; rfl) w hP n
    obtain ⟨ht, htlocale, -⟩ := benchmark_preserves settings t
      (by rw [h.uncached]; rfl) w hP n
    exact ⟨rfl, hs.trans h.cached, ht.trans h.uncached,
      hslocale.trans (h.locale.trans htlocale.symm), hsound h.sound⟩
  | clearCache =>
    exact ⟨rfl, h.cached, h.uncached, h.locale, fun entry hentry => by cases hentry⟩
  | speak tag => exact ⟨rfl, h.cached, h.uncached, rfl, h.sound⟩

/-- All replies are the same with a cache as without one. -/
theorem Matched.replies (hsep : Separated settings P) (hdigest : DigestsApart P)
    (h : Matched settings P s t) (steps : List Step) (hP : ∀ step ∈ steps, step.About P) :
    s.replies steps = t.replies steps := by
  induction steps generalizing s t with
  | nil => rfl
  | cons step steps ih =>
    obtain ⟨hreply, hmatched⟩ := h.perform hsep hdigest (hP step List.mem_cons_self)
    rw [Service.replies, Service.replies, hreply,
      ih hmatched fun step hstep => hP step (List.mem_cons_of_mem _ hstep)]

/-! ## What tells a cache from none -/

theorem compile_settings (s : Service) (w : Surroundings) (source : Source) :
    (s.compile w source).2.settings = s.settings := by
  simp only [compile]
  split <;> rfl

theorem compile_locale (s : Service) (w : Surroundings) (source : Source) :
    (s.compile w source).2.locale = s.locale := by
  simp only [compile]
  split <;> rfl

theorem perform_compile (s : Service) (w : Surroundings) (source : Source) :
    (s.perform (.compile w source)).1 =
      some (.compiled ((s.compile w source).1.map fun v => (v.hash, v.fieldNames))) := rfl

theorem perform_compile_snd (s : Service) (w : Surroundings) (source : Source) :
    (s.perform (.compile w source)).2 = (s.compile w source).2 := rfl

theorem perform_validate (s : Service) (w : Surroundings) (source : Source) (submission : Value) :
    (s.perform (.validate w source submission)).1 =
      some (.validated (s.validate w source submission).1) := rfl

/-- A submission is validated in the language of the service. -/
theorem validate_eq_bind (s : Service) (w : Surroundings) (source : Source) (submission : Value) :
    (s.validate w source submission).1 =
      (s.compile w source).1.bind fun v =>
        (v.validate s.locale w.now.date submission).mapError .breakdown := by
  rw [← compile_locale s w source, validate]
  rcases s.compile w source with ⟨_ | v, s'⟩
  · rfl
  · simp only [Except.bind]
    cases v.validate s'.locale w.now.date submission <;> rfl

theorem compile_uncached (ht : t.settings = settings.keeping false) (w : Surroundings)
    (hadmits : settings.Admits form) :
    (t.compile w (.form form)).1 = (Validator.build form none).mapError .build := by
  rw [compile_admitted rfl (check_of_admits ht hadmits), fetch_of_not_keeping (by rw [ht]; rfl)]
  cases Validator.build form none <;> rfl

/-- The validator that is kept under the name of a form is taken for that of the form. -/
theorem compile_kept (hs : s.settings = settings.keeping true) (w : Surroundings)
    (hadmits : settings.Admits form) (hname : form.contentHash = .ok name)
    (hv : s.cache.entries.lookup name = some v) : (s.compile w (.form form)).1 = .ok v := by
  rw [compile_admitted rfl (check_of_admits hs hadmits), fetch_of_keeping (by rw [hs]; rfl) hname,
    Cache.lookup, hv]
  rfl

theorem compile_undocumented {e : Value.NoJson} (hs : s.settings = settings.keeping true)
    (w : Surroundings) (hadmits : settings.Admits form) (hname : form.contentHash = .error e) :
    (s.compile w (.form form)).1 = .error (.build (.noJson e)) := by
  rw [compile_admitted rfl (check_of_admits hs hadmits),
    fetch_undocumented (by rw [hs]; rfl) hname]

/-- A moment of a day. -/
def momentOf (today : Date) : Surroundings :=
  ⟨⟨today, ⟨0, 0, 0, 0, by decide⟩, none⟩, Binary64.zero, Binary64.zero⟩

theorem eq_of_mapError {x y : Except Breakdown Outcome}
    (h : x.mapError ServiceError.breakdown = y.mapError ServiceError.breakdown) : x = y := by
  cases x with
  | error e =>
    cases y with
    | error e' =>
      injection h with h
      injection h with h
      rw [h]
    | ok b => cases h
  | ok a =>
    cases y with
    | error e' => cases h
    | ok b =>
      injection h with h
      rw [h]

/-- A new service in the language of a tag after the compilation of one form. -/
def afterFirst (settings : Settings) (tag : Option String) (w : Surroundings) (f : Form) :
    Service :=
  (((start settings none).speak tag).compile w (.form f)).2

theorem afterFirst_settings (settings : Settings) (tag : Option String) (w : Surroundings)
    (f : Form) : (afterFirst settings tag w f).settings = settings :=
  compile_settings _ w (.form f)

theorem afterFirst_locale (settings : Settings) (tag : Option String) (w : Surroundings)
    (f : Form) : (afterFirst settings tag w f).locale = Locale.resolve tag :=
  compile_locale _ w (.form f)

/-- The validator of the first form is kept. -/
theorem lookup_afterFirst (tag : Option String) (w : Surroundings) (hadmits : settings.Admits f)
    (hname : f.contentHash = .ok name) (hbuild : Validator.build f none = .ok v) :
    (afterFirst (settings.keeping true) tag w f).cache.entries.lookup name = some v := by
  have hcheck : ((start (settings.keeping true) none).speak tag).check f = .ok () :=
    check_of_admits rfl hadmits
  have hempty : ((start (settings.keeping true) none).speak tag).cache.entries = [] := rfl
  rw [afterFirst, compile_admitted rfl hcheck, fetch_of_keeping rfl hname, Cache.lookup, hempty,
    List.lookup_nil, build_contentHash hname, hbuild]
  simp [Except.map, compiled, Cache.miss, hempty]

theorem about_form {Q : Form → Prop} (hQ : Q form) :
    ∀ form', (Source.form form).form? = .ok form' → Q form' := by
  intro form' h
  injection h with h
  exact h ▸ hQ

/-- After the first form the next reply is the same with a cache as without one. -/
theorem Transparent.reply (h : Transparent settings P) (hP : P f) (tag : Option String)
    (w : Surroundings) (step : Step) (hstep : step.About P) :
    ((afterFirst (settings.keeping true) tag w f).perform step).1 =
      ((afterFirst (settings.keeping false) tag w f).perform step).1 := by
  have hreplies := h [.speak tag, .compile w (.form f), step] ?_
  · simp only [replies, List.cons.injEq] at hreplies
    exact hreplies.2.2.1
  · simp only [List.mem_cons, List.not_mem_nil, or_false]
    rintro _ (rfl | rfl | rfl)
    · trivial
    · exact about_form hP
    · exact hstep

section SameName

variable (h : Transparent settings P) (hPf : P f) (hPg : P g) (hf : settings.Admits f)
  (hg : settings.Admits g) (hnamef : f.contentHash = .ok name) (hnameg : g.contentHash = .ok name)
  (hbuild : Validator.build f none = .ok v)

include h hPf hPg hf hg hnamef hnameg hbuild

/-- A form with the name of the first one compiles to what is told of that one. -/
theorem Transparent.compiled (u : Surroundings) :
    (Except.ok (v.hash, v.fieldNames) : Except ServiceError (String × List String)) =
      ((Validator.build g none).mapError .build).map fun v => (v.hash, v.fieldNames) := by
  have hreply := h.reply hPf none u (.compile u (.form g)) (about_form hPg)
  rw [perform_compile, perform_compile, Option.some.injEq, Reply.compiled.injEq] at hreply
  have hcached : ((afterFirst (settings.keeping true) none u f).compile u (.form g)).1 = .ok v :=
    compile_kept (afterFirst_settings _ _ _ _) u hg hnameg
      (lookup_afterFirst none u hf hnamef hbuild)
  have huncached := compile_uncached (afterFirst_settings (settings.keeping false) none u f) u hg
  rw [← huncached, ← hreply, hcached]
  rfl

/-- It makes of a submission what the first one makes of it. -/
theorem Transparent.validated (u : Surroundings) (locale : Locale) (submission : Value) :
    (v.validate locale u.now.date submission).mapError ServiceError.breakdown =
      ((Validator.build g none).mapError .build).bind fun v =>
        (v.validate locale u.now.date submission).mapError .breakdown := by
  have hlocale : Locale.resolve (some locale.tag) = locale := by cases locale <;> rfl
  have hreply := h.reply hPf (some locale.tag) u (.validate u (.form g) submission)
    (about_form hPg)
  rw [perform_validate, perform_validate, Option.some.injEq, Reply.validated.injEq] at hreply
  have hcached : ((afterFirst (settings.keeping true) (some locale.tag) u f).compile u
      (.form g)).1 = .ok v :=
    compile_kept (afterFirst_settings _ _ _ _) u hg hnameg (lookup_afterFirst _ u hf hnamef hbuild)
  have huncached :=
    compile_uncached (afterFirst_settings (settings.keeping false) (some locale.tag) u f) u hg
  rw [validate_eq_bind, validate_eq_bind, hcached, huncached, afterFirst_locale, afterFirst_locale,
    hlocale] at hreply
  exact hreply

/-- Its validator is like that of the first one. -/
theorem Transparent.alike : ∃ v', Validator.build g none = .ok v' ∧ v.Alike v' := by
  have hcompiled := h.compiled hPf hPg hf hg hnamef hnameg hbuild (momentOf ⟨1, 1, 1, by decide⟩)
  have hvalidated := h.validated hPf hPg hf hg hnamef hnameg hbuild
  cases hv' : Validator.build g none with
  | error e =>
    rw [hv'] at hcompiled
    cases hcompiled
  | ok v' =>
    rw [hv'] at hcompiled hvalidated
    injection hcompiled with hcompiled
    injection hcompiled with hhash hnames
    refine ⟨v', rfl, hhash, hnames, fun locale today submission => ?_⟩
    exact eq_of_mapError (hvalidated (momentOf today) locale submission)

end SameName

/-- Where the replies do not tell a cache from none, the name of a form shows what matters. -/
theorem separated_of_transparent (h : Transparent settings P) : Separated settings P where
  alike f g v hPf hPg hf hg hjsonf hjsong hencoding hbuild :=
    h.alike hPf hPg hf hg (contentHash_eq_ok_iff.mpr ⟨hjsonf, rfl⟩)
      (contentHash_eq_ok_iff.mpr ⟨hjsong, by rw [hencoding]⟩) hbuild
  undocumented f e hP hf hjson := by
    have hname : f.contentHash = .error e := contentHash_eq_error_iff.mpr hjson
    let u := momentOf ⟨1, 1, 1, by decide⟩
    have hreply := h.reply hP none u (.compile u (.form f)) (about_form hP)
    rw [perform_compile, perform_compile, Option.some.injEq, Reply.compiled.injEq] at hreply
    have hcached : ((afterFirst (settings.keeping true) none u f).compile u (.form f)).1 =
        .error (.build (.noJson e)) :=
      compile_undocumented (afterFirst_settings _ _ _ _) u hf hname
    have huncached := compile_uncached (afterFirst_settings (settings.keeping false) none u f) u hf
    rw [hcached, huncached] at hreply
    cases hbuild : Validator.build f none with
    | ok v =>
      rw [hbuild] at hreply
      cases hreply
    | error e' =>
      rw [hbuild] at hreply
      injection hreply with hreply
      injection hreply with hreply
      rw [hreply]

/-- Where different documents have different digests, the replies do not tell a cache from none
exactly if the name of a form shows all that matters to its validator. -/
theorem transparent_iff_separated (settings : Settings) (P : Form → Prop)
    (hdigest : DigestsApart P) : Transparent settings P ↔ Separated settings P := by
  constructor
  · exact separated_of_transparent
  · exact fun hsep steps hP => (Matched.start settings P).replies hsep hdigest steps hP

/-! ## A default value that is a date, or its text -/

/-- A form of one date with a default value. -/
def withDefault (v : Value) : Form :=
  ⟨"1", [⟨"a", "x", "date", "X", false, none, none, none, some v, false⟩]⟩

def someDay : Date := ⟨2024, 1, 31, by decide⟩

theorem admits_withDefault (v : Value) : settings.Admits (withDefault v) := by
  intro _
  have hcycles : findCycles (withDefault v).fields = [] := by
    refine findCycles_eq_nil_iff.mpr (acyclic_of_no_references fun f hf => ?_)
    rw [List.mem_singleton.mp hf]
    rfl
  have hversion : Form.versionIssues (withDefault v).version = [] := by
    rw [Form.versionIssues, if_neg]
    show ¬ Text.isBlankText "1" = true
    decide
  have hfields : Form.fieldIssues [] (withDefault v).fields = [] := rfl
  have hdangling : Form.danglingIssues (withDefault v).fields = [] := rfl
  have hissues : (withDefault v).allIssues = [] := by
    rw [Form.allIssues, hcycles, hversion, hfields, hdangling]
    rfl
  rw [Form.check, Form.issues, hcycles, hissues]
  rfl

theorem build_withDefault {v : Value} (h : (withDefault v).contentHash = .ok name) :
    Validator.build (withDefault v) none =
      .ok ⟨name, (withDefault v).fields.map fun f => ⟨f, .date⟩⟩ := by
  rw [build_none, h]
  rfl

/-- To a cache a form with a date as its default value is the one with the text of the date: a
submission without the date is kept with the date where it should be kept with the text. -/
theorem date_served_for_text :
    let w := momentOf someDay
    let dated := withDefault (.date someDay)
    let written := withDefault (.text "2024-01-31")
    let steps := [.compile w (.form dated), .validate w (.form written) (.object [])]
    dated.encoding = written.encoding ∧
      (start (Settings.standard.keeping true) none).replies steps ≠
        (start (Settings.standard.keeping false) none).replies steps := by
  intro w dated written steps
  have hencoding : dated.encoding = written.encoding := rfl
  refine ⟨hencoding, fun h => ?_⟩
  simp only [steps, replies, List.cons.injEq] at h
  obtain ⟨-, h, -⟩ := h
  rw [perform_validate, perform_validate, Option.some.injEq, Reply.validated.injEq,
    validate_eq_bind, validate_eq_bind] at h
  have hdated : dated.contentHash = .ok (Sha256.digest written.encoding.toUTF8.toList) :=
    contentHash_eq_ok_iff.mpr ⟨rfl, by rw [hencoding]⟩
  have hwritten : written.contentHash = .ok (Sha256.digest written.encoding.toUTF8.toList) :=
    contentHash_eq_ok_iff.mpr ⟨rfl, rfl⟩
  have hkeeping : ((start (Settings.standard.keeping true) none).compile w
      (.form dated)).2.settings = Settings.standard.keeping true := compile_settings _ _ _
  have hplain : ((start (Settings.standard.keeping false) none).compile w
      (.form dated)).2.settings = Settings.standard.keeping false := compile_settings _ _ _
  have hcached := compile_kept hkeeping w (admits_withDefault _) hwritten
    (lookup_afterFirst (some "en-US") w (admits_withDefault _) hdated (build_withDefault hdated))
  have huncached := compile_uncached hplain w (admits_withDefault (.text "2024-01-31"))
  rw [build_withDefault hwritten] at huncached
  rw [perform_compile_snd, perform_compile_snd, hcached, huncached] at h
  have hdata : (Except.ok (.accepted [("x", .date someDay)]) : Except ServiceError Outcome) =
      .ok (.accepted [("x", .text "2024-01-31")]) := h
  cases hdata

/-! ## Forms that differ in their version -/

theorem loop_toList (bs : ByteArray) (i : Nat) (r : List UInt8) :
    ByteArray.toList.loop bs i r = r.reverse ++ bs.data.toList.drop i := by
  fun_induction ByteArray.toList.loop bs i r with
  | case1 i r h ih =>
    have hi : i < bs.data.toList.length := h
    have hget : bs.get! i = bs.data.toList[i] := getElem!_pos bs.data i h
    rw [ih, List.reverse_cons, List.append_assoc, List.drop_eq_getElem_cons hi, hget]
    rfl
  | case2 i r h =>
    have hi : bs.data.toList.length ≤ i := Nat.le_of_not_lt h
    rw [List.drop_eq_nil_of_le hi, List.append_nil]

/-- The bytes of a text are those of its characters. -/
theorem toList_toUTF8 (cs : List Char) :
    (String.ofList cs).toUTF8.toList = cs.flatMap String.utf8EncodeChar := by
  rw [ByteArray.toList, loop_toList]
  exact List.toList_data_toByteArray

/-- A form without fields. -/
def blank (version : String) : Form := ⟨version, []⟩

theorem encoding_blank (version : String) :
    (blank version).encoding = String.ofList ('\x7b' :: Text.joinChars [',']
      ([("fields", Value.list []), ("version", .text version)].map Value.entryChars)
        ++ ['\x7d']) := by
  have hkeys : "fields" < "version" := by decide
  rw [Form.encoding, Value.canonical, Form.toValue, Value.canonicalChars_object,
    sortByKey_swap hkeys]
  rfl

theorem digest_blank_ne :
    Sha256.digest (blank "1").encoding.toUTF8.toList ≠
      Sha256.digest (blank "2").encoding.toUTF8.toList := by
  rw [encoding_blank, encoding_blank, toList_toUTF8, toList_toUTF8, Sha256.digest, Sha256.digest,
    ne_eq, String.ofList_inj]
  decide +kernel

/-- With forms of two versions a cache cannot be told from none. -/
theorem transparent_blank :
    let P : Form → Prop := fun form => form = blank "1" ∨ form = blank "2"
    (blank "1").encoding ≠ (blank "2").encoding ∧ DigestsApart P ∧
      Transparent Settings.standard P := by
  intro P
  have hne : (blank "1").encoding ≠ (blank "2").encoding := fun h =>
    digest_blank_ne (by rw [h])
  have hdigest : DigestsApart P := by
    rintro f g (rfl | rfl) (rfl | rfl) h
    · rfl
    · exact absurd h digest_blank_ne
    · exact absurd h.symm digest_blank_ne
    · rfl
  refine ⟨hne, hdigest, (transparent_iff_separated _ _ hdigest).mpr ⟨?_, ?_⟩⟩
  · rintro f g v hf hg - - - - hencoding hbuild
    have hsame : f = g := by
      rcases hf with rfl | rfl <;> rcases hg with rfl | rfl
      · rfl
      · exact absurd hencoding hne
      · exact absurd hencoding.symm hne
      · rfl
    exact ⟨v, hsame ▸ hbuild, .refl v⟩
  · rintro f e (rfl | rfl) - hjson
    · cases hjson
    · cases hjson

end Service

end Formwork
