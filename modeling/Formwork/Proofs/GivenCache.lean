import Formwork.Proofs.Operations

/-!
# A cache that is given to a service

What an action asks of the cache is told by the settings alone: a compilation looks up a form that
is let through, a measurement does so once for each of its rounds, and a clearance clears.
`Service.cache_run` says that nothing else happens to the cache: through every run it is the one
that serves these requests in turn. So a service shows of the cache that it is given what that cache
would show by itself. The exception is its beginning. A new service does not take an empty cache but
makes one with the capacity of its settings, and `given_cache_used_iff` says when that can be told.
-/

namespace Formwork

namespace Cache

variable {c c' : Cache} {form : Form} {capacity : Count} {h : History}

/-! ## Requests in turn -/

/-- The cache after some requests. -/
def serves (c : Cache) (rs : List Request) : Cache := rs.foldl (fun c r => (c.serve r).2) c

@[simp] theorem serves_nil (c : Cache) : c.serves [] = c := rfl

@[simp] theorem serves_cons (c : Cache) (r : Request) (rs : List Request) :
    c.serves (r :: rs) = (c.serve r).2.serves rs := rfl

theorem serves_append (c : Cache) (rs rs' : List Request) :
    c.serves (rs ++ rs') = (c.serves rs).serves rs' := List.foldl_append

theorem serve_lookup_of_ok {u : Use} (huse : c.use form = .ok (u, c')) :
    (c.serve (.lookup form)).2 = c' := by
  rw [serve, huse]

theorem serve_lookup_of_error {e : BuildError} (huse : c.use form = .error e) :
    (c.serve (.lookup form)).2 = c := by
  rw [serve, huse]

/-- What was used is the last entry, and the only one of its name. -/
theorem exists_front_of_use {u : Use} (huse : c.use form = .ok (u, c')) :
    ∃ front, c'.entries = front ++ [(u.name, u.validator)] ∧ u.name ∉ front.map Prod.fst := by
  obtain ⟨-, hlookup⟩ := use_eq_ok_iff.mp huse
  rcases lookup_cases hlookup with ⟨-, -, rfl⟩ | ⟨hnew, -, -, rfl⟩
  · refine ⟨without u.name c.entries, rfl, ?_⟩
    have hwithout := names_without u.name c.entries
    rw [hwithout]
    simp
  · refine ⟨c.entries.drop (c.entries.length + 1 - c.capacity.1), rfl, ?_⟩
    rw [List.map_drop]
    exact fun hmem => hnew (List.mem_of_mem_drop hmem)

/-- A lookup that fails does so again. -/
theorem serves_of_error {e : BuildError} (huse : c.use form = .error e) (n : Nat) :
    c.serves (List.replicate n (.lookup form)) = c := by
  induction n with
  | zero => rfl
  | succ n ih => rw [List.replicate_succ, serves_cons, serve_lookup_of_error huse, ih]

/-- The cache of a history serves the requests. -/
theorem cache_next (h : History) (r : Request) : (h.next r).cache = (h.cache.serve r).2 := by
  unfold History.next
  split
  all_goals
    rename_i hserve
    rw [hserve]

theorem cache_after (capacity : Count) (rs : List Request) :
    (History.after capacity rs).cache = (empty capacity).serves rs := by
  have hrun : ∀ h : History, (rs.foldl History.next h).cache = h.cache.serves rs := by
    induction rs with
    | nil => exact fun h => rfl
    | cons r rs ih =>
      intro h
      rw [List.foldl_cons, ih, cache_next, serves_cons]
  exact hrun _

/-! ## Caches that were filled -/

theorem eq_nil_of_lastNames {n : Nat} {xs : List String} (hn : 0 < n)
    (hnone : lastNames n xs = []) : xs = [] := by
  unfold lastNames List.rtake at hnone
  have hlength := List.drop_eq_nil_iff.mp hnone
  have hdedup : xs.dedup.length = 0 := by omega
  rw [List.length_eq_zero_iff, List.eq_nil_iff_forall_not_mem] at hdedup
  exact List.eq_nil_iff_forall_not_mem.mpr fun x hx => hdedup x (List.mem_dedup.mpr hx)

/-- A cache without entries is a new one: whatever was used would be kept. -/
theorem Kept.eq_empty (hk : Kept capacity h) (hnone : h.cache.entries = []) :
    h.cache = .empty capacity := by
  have hnames := hk.names
  rw [Cache.names, hnone, List.map_nil] at hnames
  have huses : h.uses = [] :=
    List.map_eq_nil_iff.mp (eq_nil_of_lastNames capacity.2 hnames.symm)
  have hparts : h.cache = ⟨h.cache.capacity, h.cache.entries, h.cache.hits, h.cache.misses⟩ := rfl
  rw [hparts, hk.capacity, hnone, hk.hits, hk.misses, huses]
  rfl

/-- However a cache was used before: without entries it is a new one. -/
theorem eq_empty_of_serves {rs : List Request} (hc : (empty capacity).serves rs = c)
    (hnone : c.entries = []) : c = .empty capacity := by
  rw [← cache_after] at hc
  rw [← hc] at hnone ⊢
  exact (kept_after capacity rs).eq_empty hnone

/-- A cache has no more entries than it has room for. -/
theorem size_serves_le (capacity : Count) (rs : List Request) :
    ((empty capacity).serves rs).size ≤ capacity.1 := by
  have hk := kept_after capacity rs
  have hsize : (History.after capacity rs).cache.size =
      (History.after capacity rs).cache.names.length := (List.length_map _).symm
  rw [← cache_after, hsize, hk.names]
  exact length_lastNames_le _ _

theorem capacity_serve (c : Cache) (r : Request) : (c.serve r).2.capacity = c.capacity := by
  cases r with
  | lookup form | get form =>
    rcases huse : c.use form with e | ⟨u, c'⟩
    · rw [serve, huse]
    · rw [serve, huse]
      obtain ⟨-, hlookup⟩ := use_eq_ok_iff.mp huse
      rcases lookup_cases hlookup with ⟨-, -, rfl⟩ | ⟨-, -, -, rfl⟩ <;> rfl
  | contains name => rfl
  | clear => rfl

theorem capacity_serves (c : Cache) (rs : List Request) :
    (c.serves rs).capacity = c.capacity := by
  induction rs generalizing c with
  | nil => rfl
  | cons r rs ih => rw [serves_cons, ih, capacity_serve]

/-! ## What a cache shows -/

/-- Caches that look the same: by the names of their entries in the order of use, and by what they
tell about themselves. -/
structure Alike (c c' : Cache) : Prop where
  names : c.names = c'.names
  report : c.report = c'.report

theorem Alike.refl (c : Cache) : Alike c c := ⟨rfl, rfl⟩

theorem Alike.capacity_eq (h : Alike c c') : c.capacity = c'.capacity := by
  have hreport := h.report
  unfold Cache.report at hreport
  injection hreport with _ hreport
  injection hreport with hcapacity _
  injection hcapacity with _ hcapacity
  injection hcapacity with hcapacity
  exact Subtype.ext (Int.ofNat.inj hcapacity)

end Cache

namespace Service

open Cache (Request)

variable {s s' : Service} {form : Form} {source : Source} {w : Surroundings} {n : Nat}

/-! ## What is asked of the cache -/

/-- To look the form of a source up a number of times, if it is let through. -/
def lookups (s : Service) (source : Source) (n : Nat) : List Request :=
  match source.form? with
  | .ok form => if (s.check form).isOk then List.replicate n (.lookup form) else []
  | .error _ => []

/-- What an action asks of a cache that is in use. -/
def requests (s : Service) : Action → List Request
  | .request (.compile _ source) | .request (.validate _ source _) => s.lookups source 1
  | .request (.benchmark _ source n) => s.lookups source (s.roundsFor n).toNat
  | .request .clearCache => [.clear]
  | .request (.speak _) | .jsonSchema _ _ _ | .visibility _ _ | .resetMetrics => []

theorem lookups_of_error {e : FormError} (hform : source.form? = .error e) :
    s.lookups source n = [] := by
  rw [lookups, hform]

theorem lookups_of_refused {e : ServiceError} (hform : source.form? = .ok form)
    (hcheck : s.check form = .error e) : s.lookups source n = [] := by
  simp only [lookups, hform, hcheck]
  rfl

theorem lookups_of_admitted (hform : source.form? = .ok form) (hcheck : s.check form = .ok ()) :
    s.lookups source n = List.replicate n (.lookup form) := by
  simp only [lookups, hform, hcheck]
  rfl

/-- The requests of a service hang on its settings. -/
theorem requests_congr (h : s'.settings = s.settings) : s'.requests = s.requests := by
  have hcheck : s'.check = s.check := by
    funext form
    unfold check
    rw [h]
  have hlookups : s'.lookups = s.lookups := by
    funext source n
    unfold lookups
    rw [hcheck]
  have hrounds : s'.roundsFor = s.roundsFor := by
    funext n
    unfold roundsFor
    rw [h]
  funext a
  unfold requests
  rw [hlookups, hrounds]

/-! ## One action -/

/-- A form is fetched from the cache by a use of it. -/
theorem fetch_eq_use (hkeeping : s.settings.keepsValidators = true) (form : Form) :
    s.fetch form.contentHash form =
      ((s.cache.use form).map fun (u, c) => (u.validator, u.hit, c)).mapError
        ServiceError.build := by
  unfold fetch Cache.use
  rw [if_pos hkeeping]
  cases form.contentHash with
  | error e => rfl
  | ok name =>
    show (s.cache.lookup name form).mapError ServiceError.build = _
    rcases hlookup : s.cache.lookup name form with e | ⟨v, b, c⟩
    all_goals simp only [mapError_ok, bind, Except.bind, hlookup]
    all_goals rfl

/-- A form that passes the check can be looked up, and that is a hit where its validator is kept. -/
theorem exists_use (h : source.Accepted form) (hjson : form.noJson? = none)
    (hkeeping : s.settings.keepsValidators = true) :
    ∃ u c, s.cache.use form = .ok (u, c) ∧ u.hit = s.keeps form := by
  have hname : form.contentHash = .ok _ := contentHash_eq_ok_iff.mpr ⟨hjson, rfl⟩
  obtain ⟨v, b, c, hfetch⟩ := exists_fetch h.2 hname s
  have hkeeps : b = s.keeps form := hit_eq_keeps hfetch
  rw [fetch_eq_use hkeeping] at hfetch
  obtain ⟨⟨u, c'⟩, huse, heq⟩ := map_eq_ok_iff.mp (mapError_eq_ok_iff.mp hfetch)
  injection heq with _ heq
  injection heq with hhit _
  exact ⟨u, c', huse, hhit.trans hkeeps⟩

theorem cache_compile (hkeeping : s.settings.keepsValidators = true) (w : Surroundings)
    (source : Source) :
    (s.compile w source).2.cache = s.cache.serves (s.lookups source 1) := by
  cases hform : source.form? with
  | error e =>
    rw [compile_malformed hform, lookups_of_error hform]
    rfl
  | ok form =>
    cases hcheck : s.check form with
    | error e =>
      rw [compile_refused hform hcheck, lookups_of_refused hform hcheck]
      rfl
    | ok =>
      rw [compile_admitted hform hcheck, lookups_of_admitted hform hcheck, fetch_eq_use hkeeping,
        List.replicate_one, Cache.serves_cons, Cache.serves_nil]
      rcases huse : s.cache.use form with e | ⟨u, c⟩
      · rw [Cache.serve_lookup_of_error huse]
        rfl
      · rw [Cache.serve_lookup_of_ok huse]
        rfl

/-- Rounds look the form up, each of them once until one fails. -/
theorem cache_rounds (hkeeping : s.settings.keepsValidators = true) (w : Surroundings)
    (form : Form) (n : Nat) :
    (rounds (compileRound w (.ok ()) form.contentHash form) n s).2.cache =
      s.cache.serves (List.replicate n (.lookup form)) := by
  induction n generalizing s with
  | zero => rfl
  | succ n ih =>
    have hround : compileRound w (.ok ()) form.contentHash form s =
        (s.fetch form.contentHash form).map fun found => s.compiled w found.2.1 found.2.2 := by
      rcases hfetch : s.fetch form.contentHash form with e | ⟨v, b, c⟩
      all_goals simp only [compileRound, bind, Except.bind, hfetch]
      all_goals rfl
    rw [rounds, hround, fetch_eq_use hkeeping]
    rcases huse : s.cache.use form with e | ⟨u, c⟩
    · rw [Cache.serves_of_error huse]
      rfl
    · rw [List.replicate_succ, Cache.serves_cons, Cache.serve_lookup_of_ok huse]
      exact @ih (s.compiled w u.hit c) hkeeping

theorem cache_benchmark (hkeeping : s.settings.keepsValidators = true) (w : Surroundings)
    (source : Source) (n : Option Int) :
    (s.benchmark w source n).2.cache =
      s.cache.serves (s.lookups source (s.roundsFor n).toNat) := by
  cases hform : source.form? with
  | error e =>
    rw [lookups_of_error hform]
    simp only [benchmark, hform]
    rfl
  | ok form =>
    have hlast : (s.benchmark w source n).2.cache =
        (rounds (compileRound w (s.check form) form.contentHash form)
          (s.roundsFor n).toNat s).2.cache := by
      rcases benchmark_cases hform w s n with ⟨e, h⟩ | ⟨b, h⟩
      · rw [h]
      · obtain ⟨-, hcache, -⟩ := repeat_validated w b.rounds
          (rounds (compileRound w (s.check form) form.contentHash form)
            (s.roundsFor n).toNat s).2
        rw [h]
        exact hcache
    rw [hlast]
    cases hcheck : s.check form with
    | ok => rw [cache_rounds hkeeping, lookups_of_admitted hform hcheck]
    | error e =>
      rw [lookups_of_refused hform hcheck]
      cases (s.roundsFor n).toNat with
      | zero => rfl
      | succ k => rfl

/-- An action changes the cache by its requests. -/
theorem cache_action (hkeeping : s.settings.keepsValidators = true) (a : Action) :
    (s.after a).cache = s.cache.serves (s.requests a) := by
  cases a with
  | request step =>
    cases step with
    | compile w source => exact cache_compile hkeeping w source
    | validate w source submission =>
      show (s.validate w source submission).2.cache = _
      have hcompile := cache_compile hkeeping w source
      rcases validate_cases s w source submission with ⟨-, -, h⟩ | ⟨-, -, h⟩ | ⟨-, -, h⟩
      all_goals
        rw [h]
        exact hcompile
    | benchmark w source n => exact cache_benchmark hkeeping w source n
    | clearCache => rfl
    | speak tag => rfl
  | jsonSchema source title strict => rfl
  | visibility form values => rfl
  | resetMetrics => rfl

theorem settings_after (s : Service) (a : Action) : (s.after a).settings = s.settings := by
  cases a with
  | request step => exact perform_settings s step
  | _ => rfl

/-- Through a run the cache serves the requests of the actions in turn. -/
theorem cache_run (hkeeping : s.settings.keepsValidators = true) (actions : List Action) :
    (s.run actions).cache = s.cache.serves (actions.flatMap s.requests) := by
  induction actions generalizing s with
  | nil => rfl
  | cons a actions ih =>
    have hsettings := settings_after s a
    have hrest := @ih (s.after a) (by rw [hsettings]; exact hkeeping)
    rw [List.flatMap_cons, Cache.serves_append, ← cache_action hkeeping, ← requests_congr hsettings]
    exact hrest

/-! ## The beginning -/

variable {settings : Settings} {c : Cache}

theorem start_given (hc : c.entries ≠ []) : (start settings (some c)).cache = c := by
  have hsome : c.entries.isEmpty = false := List.isEmpty_eq_false_iff.mpr hc
  show (if c.entries.isEmpty then _ else c) = c
  rw [hsome]
  rfl

theorem start_empty (hc : c.entries = []) :
    (start settings (some c)).cache = .empty settings.capacity := by
  show (if c.entries.isEmpty then Cache.empty settings.capacity else c) = _
  rw [hc]
  rfl

/-- Whatever is asked of a service, its cache looks like the one that it was given would look after
the same requests, and has no more entries than that one has room for. -/
def UsesGiven (settings : Settings) (c : Cache) : Prop :=
  ∀ actions : List Action,
    Cache.Alike ((start settings (some c)).run actions).cache
        (c.serves (actions.flatMap (start settings (some c)).requests)) ∧
      ((start settings (some c)).run actions).cache.size ≤ c.capacity.1

/-- The cache that a service begins with is used. -/
theorem usesGiven_of_start (hkeeping : settings.keepsValidators = true) {room : Count}
    {filling : List Request} (hc : (Cache.empty room).serves filling = c)
    (hstart : (start settings (some c)).cache = c) : UsesGiven settings c := by
  intro actions
  have hrun := cache_run (s := start settings (some c)) hkeeping actions
  rw [hstart] at hrun
  rw [hrun]
  refine ⟨Cache.Alike.refl _, ?_⟩
  rw [← hc, ← Cache.serves_append, Cache.capacity_serves]
  exact Cache.size_serves_le room _

/-- A service uses a cache that it is given, whatever has happened to that one before, exactly if
there are entries in it or the settings ask for its capacity. -/
theorem given_cache_used_iff (hkeeping : settings.keepsValidators = true) (room : Count)
    (filling : List Request) :
    UsesGiven settings ((Cache.empty room).serves filling) ↔
      ((Cache.empty room).serves filling).entries ≠ [] ∨ settings.capacity = room := by
  generalize hc : (Cache.empty room).serves filling = c
  by_cases hentries : c.entries = []
  · have hempty : c = .empty room := Cache.eq_empty_of_serves hc hentries
    have hbegin : (start settings (some c)).cache = .empty settings.capacity :=
      start_empty hentries
    constructor
    · intro huses
      obtain ⟨halike, -⟩ := huses []
      have hcapacity : (start settings (some c)).cache.capacity = c.capacity := halike.capacity_eq
      rw [hbegin, hempty] at hcapacity
      exact Or.inr hcapacity
    · rintro (h | hcapacity)
      · exact absurd hentries h
      · apply usesGiven_of_start hkeeping hc
        rw [hbegin, hcapacity, hempty]
  · exact iff_of_true (usesGiven_of_start hkeeping hc (start_given hentries)) (Or.inl hentries)

/-- A cache with room for one validator is used when it holds one. -/
theorem given_cache_used_full :
    let c := (Cache.empty ⟨1, by decide⟩).serves [.lookup (withDefault .null)]
    Settings.standard.keepsValidators = true ∧ c.entries ≠ [] ∧ UsesGiven .standard c := by
  intro c
  have hc : c.entries ≠ [] := by
    have haccepted : (Source.form (withDefault .null)).Accepted (withDefault .null) :=
      ⟨rfl, @admits_withDefault .standard .null rfl⟩
    obtain ⟨u, c', huse, -⟩ :=
      @exists_use { start .standard none with cache := .empty ⟨1, by decide⟩ } _ _ haccepted rfl rfl
    obtain ⟨front, hentries, -⟩ := Cache.exists_front_of_use huse
    have hserves : c = c' := Cache.serve_lookup_of_ok huse
    rw [hserves, hentries]
    simp
  exact ⟨rfl, hc, (given_cache_used_iff rfl _ _).mpr (Or.inl hc)⟩

/-- The same cache without entries is not: the service has room for fifty. -/
theorem empty_cache_replaced :
    let c := Cache.empty ⟨1, by decide⟩
    let actions : List Action :=
      [.request (.compile (momentOf someDay) (.form (withDefault .null)))]
    let s := start .standard (some c)
    Settings.standard.keepsValidators = true ∧
      (s.run actions).cache.report.lookup "max_size" = some (.int 50) ∧
      (c.serves (actions.flatMap s.requests)).report.lookup "max_size" = some (.int 1) ∧
      ¬ UsesGiven .standard c := by
  intro c actions s
  have hserved : (c.serves (actions.flatMap s.requests)).capacity = ⟨1, by decide⟩ :=
    Cache.capacity_serves c _
  have hrun : (s.run actions).cache.capacity = ⟨50, by decide⟩ := by
    rw [cache_run rfl]
    exact Cache.capacity_serves _ _
  refine ⟨rfl, ?_, ?_, ?_⟩
  · show some (Value.int (s.run actions).cache.capacity.1) = _
    rw [hrun]
    rfl
  · show some (Value.int (c.serves (actions.flatMap s.requests)).capacity.1) = _
    rw [hserved]
    rfl
  · intro huses
    have hcapacity := (huses actions).1.capacity_eq
    rw [hrun, hserved] at hcapacity
    cases hcapacity

end Service

end Formwork
