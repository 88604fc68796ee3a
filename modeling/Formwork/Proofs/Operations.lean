import Formwork.Proofs.Bookkeeping
import Formwork.Proofs.Conformance
import Formwork.Proofs.IsoTexts

/-!
# When the operations of a service succeed

A form that passes the check of a service has a validator, a schema and a sample, unless its values
cannot be written as a JSON document: then it has no name, and neither a compilation nor a
measurement gets past that. Nothing else keeps them from success.
-/

namespace Formwork

variable {form : Form} {f : Field} {v : Validator}

/-! ## Forms that pass -/

/-- The source is that of a form without issues. -/
def Source.Accepted (source : Source) (form : Form) : Prop :=
  source.form? = .ok form ∧ form.check = .ok ()

/-- The source is no form, or that of a form which its check does not accept, for a reason. -/
def Source.Refused (source : Source) (e : ServiceError) : Prop :=
  (∃ e', source.form? = .error e' ∧ e = .form e') ∨
    ∃ form e', source.form? = .ok form ∧ form.check = .error e' ∧ e = e'.asError

theorem Source.accepted_or_refused (source : Source) :
    (∃ form, source.Accepted form) ∨ ∃ e, source.Refused e := by
  cases hform : source.form? with
  | error e => exact Or.inr ⟨_, Or.inl ⟨e, hform, rfl⟩⟩
  | ok form =>
    cases hcheck : form.check with
    | error e => exact Or.inr ⟨_, Or.inr ⟨form, e, hform, hcheck, rfl⟩⟩
    | ok => exact Or.inl ⟨form, hform, hcheck⟩

theorem Source.Accepted.unique {source : Source} {form form' : Form} (h : source.Accepted form)
    (h' : source.Accepted form') : form = form' := by
  have heq := h.1.symm.trans h'.1
  injection heq

theorem Source.Refused.not_accepted {source : Source} {e : ServiceError} (h : source.Refused e) :
    ¬ source.Accepted form := by
  rintro ⟨hform, hcheck⟩
  rcases h with ⟨e', h, -⟩ | ⟨form', e', h, hcheck', -⟩
  · rw [hform] at h
    cases h
  · rw [hform] at h
    injection h with h
    subst h
    rw [hcheck] at hcheck'
    cases hcheck'

theorem exists_kind_of_check (hcheck : form.check = .ok ()) (hf : f ∈ form.fields) :
    ∃ kind, f.kind? = some kind := by
  obtain ⟨i, hi⟩ := List.mem_iff_getElem?.mp hf
  cases hkind : f.kind? with
  | some kind => exact ⟨kind, rfl⟩
  | none =>
    have hflaw := Form.Flawed.kind hi (kind?_eq_none_iff.mp hkind)
    exact absurd hflaw ((Form.check_ok_iff.mp hcheck).1 _ _)

/-- A select field of such a form has choices. -/
theorem choices_ne_nil_of_check (hcheck : form.check = .ok ()) (hf : f ∈ form.fields)
    (hselect : f.kindName = "select") : f.choices ≠ [] := by
  obtain ⟨i, hi⟩ := List.mem_iff_getElem?.mp hf
  exact fun hnone => (Form.check_ok_iff.mp hcheck).1 _ _ (.options hi hselect hnone)

theorem exists_items (hcheck : form.check = .ok ()) :
    ∃ items, form.fields.mapM Item.ofField = .ok items := by
  refine exists_mapM_eq_ok_iff.mpr fun f hf => ?_
  obtain ⟨kind, hkind⟩ := exists_kind_of_check hcheck hf
  exact ⟨_, ofField_eq_ok_iff.mpr ⟨kind, hkind, rfl⟩⟩

/-- Such a form has a validator under any name. -/
theorem exists_named (hcheck : form.check = .ok ()) (name : String) :
    ∃ items, form.fields.mapM Item.ofField = .ok items ∧
      Validator.named form (.ok name) = .ok ⟨name, items⟩ := by
  obtain ⟨items, hitems⟩ := exists_items hcheck
  refine ⟨items, hitems, ?_⟩
  rw [Validator.named, hitems]
  rfl

/-! ## Samples -/

/-- The entry of a field in a sample. -/
def Field.sampleEntry (now : DateTime) (f : Field) : Except NoSample (String × Value) :=
  (f.sample now).map (f.name, ·)

theorem sampleEntry_eq_ok_iff {now : DateTime} {e : String × Value} :
    f.sampleEntry now = .ok e ↔ e.1 = f.name ∧ f.sample now = .ok e.2 := by
  rw [Field.sampleEntry, map_eq_ok_iff]
  constructor
  · rintro ⟨w, hw, rfl⟩
    exact ⟨rfl, hw⟩
  · rintro ⟨hname, hw⟩
    exact ⟨e.2, hw, by rw [← hname]⟩

/-- Fields with new names put their entries behind those that are there. -/
theorem foldlM_sample {now : DateTime} {fields : List Field} {es : List (String × Value)}
    (hnames : (es.map Prod.fst ++ fields.map Field.name).Nodup) :
    fields.foldlM (fun es f => (f.sample now).map (putEntry es f.name ·)) es =
      (fields.mapM (Field.sampleEntry now)).map (es ++ ·) := by
  induction fields generalizing es with
  | nil => exact congrArg Except.ok (List.append_nil es).symm
  | cons f fields ih =>
    rw [List.foldlM_cons, List.mapM_cons, Field.sampleEntry]
    cases f.sample now with
    | error e => rfl
    | ok w =>
      have hnew : f.name ∉ es.map Prod.fst := fun hmem =>
        (List.nodup_append.mp hnames).2.2 _ hmem _ List.mem_cons_self rfl
      have hnames' : ((es ++ [(f.name, w)]).map Prod.fst ++ fields.map Field.name).Nodup := by
        simpa using hnames
      have hrest := ih hnames'
      show fields.foldlM _ (putEntry es f.name w) = _
      rw [putEntry_of_notMem hnew, hrest]
      cases fields.mapM (Field.sampleEntry now) with
      | error e => rfl
      | ok more => exact congrArg Except.ok (List.append_assoc ..)

/-- Where the names are different, a sample has an entry for each field in their order. -/
theorem sample_eq (hnames : (form.fields.map Field.name).Nodup) (now : DateTime) :
    form.sample now = form.fields.mapM (Field.sampleEntry now) := by
  rw [Form.sample, @foldlM_sample now form.fields [] hnames]
  cases form.fields.mapM (Field.sampleEntry now) <;> rfl

/-- Every field of a form that passes its check has a sample. -/
theorem exists_field_sample (hcheck : form.check = .ok ()) (hf : f ∈ form.fields)
    (now : DateTime) : ∃ w, f.sample now = .ok w := by
  obtain ⟨kind, hkind⟩ := exists_kind_of_check hcheck hf
  have hitem : Item.ofField f = .ok ⟨f, .ofKind f kind⟩ := ofField_eq_ok_iff.mpr ⟨kind, hkind, rfl⟩
  rw [Field.sample, hitem]
  cases kind with
  | select =>
    have hchoices := choices_ne_nil_of_check hcheck hf (kind?_eq_select_iff.mp hkind)
    obtain ⟨c, cs, hcs⟩ := List.exists_cons_of_ne_nil hchoices
    simp only [Content.ofKind]
    split
    · exact ⟨_, rfl⟩
    · rw [hcs]
      exact ⟨c, rfl⟩
  | checkbox =>
    simp only [Content.ofKind]
    split <;> exact ⟨_, rfl⟩
  | _ => exact ⟨_, rfl⟩

theorem exists_sample (hcheck : form.check = .ok ()) (now : DateTime) :
    ∃ es, form.sample now = .ok es := by
  rw [sample_eq (nodup_names hcheck), exists_mapM_eq_ok_iff]
  intro f hf
  obtain ⟨w, hw⟩ := exists_field_sample hcheck hf now
  exact ⟨(f.name, w), sampleEntry_eq_ok_iff.mpr ⟨rfl, hw⟩⟩

/-- The keys of a sample are the names of the fields. -/
theorem keys_sample (hcheck : form.check = .ok ()) {now : DateTime} {es : List (String × Value)}
    (hsample : form.sample now = .ok es) : es.map Prod.fst = form.fields.map Field.name := by
  rw [sample_eq (nodup_names hcheck)] at hsample
  exact map_mapM (fun f e he => (sampleEntry_eq_ok_iff.mp he).1) hsample

/-- Under the name of a field is found the sample of the field. -/
theorem lookup_sample (hcheck : form.check = .ok ()) {now : DateTime} {es : List (String × Value)}
    (hsample : form.sample now = .ok es) (hf : f ∈ form.fields) :
    ∃ w, f.sample now = .ok w ∧ es.lookup f.name = some w := by
  have hkeys : (es.map Prod.fst).Nodup := by
    rw [keys_sample hcheck hsample]
    exact nodup_names hcheck
  rw [sample_eq (nodup_names hcheck)] at hsample
  obtain ⟨⟨k, w⟩, he, hentry⟩ := exists_mem_of_mapM hsample hf
  obtain ⟨rfl, hw⟩ := sampleEntry_eq_ok_iff.mp hentry
  exact ⟨w, hw, lookup_of_mem hkeys he⟩

/-- The only text in a sample for a date is the time of the sample. -/
theorem sample_of_date {now : DateTime} {item : Item} {s : String} (hdate : item.content = .date)
    (hitem : Item.ofField item.field = .ok item) (h : item.field.sample now = .ok (.text s)) :
    s = now.iso := by
  rw [Field.sample, hitem] at h
  simp only [hdate, Content.sample] at h
  injection h with h
  injection h with h
  exact h.symm

/-- A validator of a form with a document can tell the sample that is taken in UTC. -/
theorem tells_sample (hcheck : form.check = .ok ()) (hjson : form.noJson? = none) {name : String}
    {items : List Item} (hitems : form.fields.mapM Item.ofField = .ok items) {now : DateTime}
    (hutc : now.offset = some 0) {es : List (String × Value)} (hsample : form.sample now = .ok es)
    (today : Date) : Validator.Tells ⟨name, items⟩ today (.object es) := by
  rintro _ ⟨⟩ item hitem
  obtain ⟨f, hf, hof⟩ := exists_of_mem_mapM hitems hitem
  obtain ⟨kind, -, rfl⟩ := ofField_eq_ok_iff.mp hof
  have hoffered : ∀ c ∈ (Content.ofKind f kind).offered, c.Short := fun c hc =>
    Validator.short_choices hjson hf (mem_choices_of_offered hc)
  rw [Item.tells_iff_of_short hoffered]
  intro s hdate hs _
  obtain ⟨w, hw, hlookup⟩ := lookup_sample hcheck hsample hf
  obtain rfl : w = .text s := Option.some.inj (hlookup.symm.trans hs)
  rw [@sample_of_date now ⟨f, .ofKind f kind⟩ s hdate hof hw]
  exact ⟨_, DateText.read_iso hutc today⟩

/-- The trial of a form with a document succeeds. -/
theorem exists_trial (hcheck : form.check = .ok ()) (hjson : form.noJson? = none)
    {w : Surroundings} (hutc : w.now.offset = some 0) : ∃ o, trial w form = .ok o := by
  obtain ⟨es, hes⟩ := exists_sample hcheck w.now
  obtain ⟨items, hitems, hnamed⟩ := exists_named hcheck ""
  have htells : Validator.Tells ⟨"", items⟩ w.now.date (.object es) :=
    tells_sample hcheck hjson hitems hutc hes w.now.date
  obtain ⟨o, ho⟩ := (@Validator.exists_answer_iff_tells _ .english _ _).mpr htells
  refine ⟨o, ?_⟩
  simp only [trial, hes, hnamed, mapError_ok, bind, Except.bind, ho]

namespace Service

variable {s : Service} {source : Source} {w : Surroundings}

/-! ## Compiling -/

theorem exists_fetch (hcheck : form.check = .ok ()) {name : String}
    (hname : form.contentHash = .ok name) (s : Service) :
    ∃ v b c, s.fetch form.contentHash form = .ok (v, b, c) := by
  obtain ⟨items, -, hnamed⟩ := exists_named hcheck name
  have hbuild : Validator.build form none = .ok ⟨name, items⟩ := by
    rw [build_none, hname, hnamed]
  cases hkeeping : s.settings.keepsValidators with
  | false =>
    rw [fetch_of_not_keeping hkeeping, hbuild]
    exact ⟨_, _, _, rfl⟩
  | true =>
    rw [fetch_of_keeping hkeeping hname, Cache.lookup]
    split
    · exact ⟨_, _, _, rfl⟩
    · rw [build_contentHash hname, hbuild]
      exact ⟨_, _, _, rfl⟩

theorem fetch_without_document (hcheck : form.check = .ok ()) {e : Value.NoJson}
    (hname : form.contentHash = .error e) (s : Service) :
    s.fetch form.contentHash form = .error (.build (.noJson e)) := by
  cases hkeeping : s.settings.keepsValidators with
  | true => exact fetch_undocumented hkeeping hname
  | false =>
    obtain ⟨items, hitems⟩ := exists_items hcheck
    rw [fetch_of_not_keeping hkeeping, build_none, hname, Validator.named, hitems]
    rfl

theorem check_of_accepted (hcheck : form.check = .ok ()) (s : Service) : s.check form = .ok () :=
  check_eq_ok_iff.mpr fun _ => hcheck

theorem check_of_refused (hchecks : s.settings.checksForms = true) {e : CheckError}
    (hcheck : form.check = .error e) : s.check form = .error e.asError := by
  rw [check, if_pos hchecks, hcheck]
  rfl

theorem compile_of_refused (hchecks : s.settings.checksForms = true) {e : ServiceError}
    (h : source.Refused e) : (s.compile w source).1 = .error e := by
  rcases h with ⟨e, h, rfl⟩ | ⟨form, e, hform, hcheck, rfl⟩
  · rw [compile_malformed h]
  · rw [compile_refused hform (check_of_refused hchecks hcheck)]

theorem compile_of_accepted (h : source.Accepted form) (hjson : form.noJson? = none) :
    ∃ v, (s.compile w source).1 = .ok v := by
  obtain ⟨v, b, c, hfetch⟩ := exists_fetch h.2 (contentHash_eq_ok_iff.mpr ⟨hjson, rfl⟩) s
  rw [compile_admitted h.1 (check_of_accepted h.2 s), hfetch]
  exact ⟨v, rfl⟩

theorem compile_without_document (h : source.Accepted form) {e : Value.NoJson}
    (hjson : form.noJson? = some e) :
    (s.compile w source).1 = .error (.build (.noJson e)) := by
  rw [compile_admitted h.1 (check_of_accepted h.2 s),
    fetch_without_document h.2 (contentHash_eq_error_iff.mpr hjson)]

/-! ## Schemas -/

theorem jsonSchema_of_refused (hchecks : s.settings.checksForms = true) {e : ServiceError}
    (h : source.Refused e) (title : Option String) (strict : Bool) :
    s.jsonSchema source title strict = .error e := by
  rcases h with ⟨e, h, rfl⟩ | ⟨form, e, hform, hcheck, rfl⟩
  · rw [jsonSchema, h]
    rfl
  · rw [jsonSchema, hform]
    simp only [mapError_ok, bind, Except.bind, check_of_refused hchecks hcheck]

theorem jsonSchema_of_accepted (h : source.Accepted form) (title : Option String) (strict : Bool) :
    ∃ schema, s.jsonSchema source title strict = .ok schema ∧ schema.Describes form := by
  obtain ⟨schema, hschema, hdescribes, -⟩ := exists_jsonSchema (nodup_names h.2)
    (fun f hf => exists_kind_of_check h.2 hf) title strict
  refine ⟨schema, ?_, hdescribes⟩
  rw [jsonSchema, h.1]
  simp only [mapError_ok, bind, Except.bind, check_of_accepted h.2, hschema]

/-! ## Measuring -/

/-- Rounds that never fail come to their end. -/
theorem exists_rounds {σ : Type} {step : σ → Except ServiceError σ}
    (h : ∀ x, ∃ y, step x = .ok y) (n : Nat) (x : σ) : ∃ y, rounds step n x = (.ok (), y) := by
  induction n generalizing x with
  | zero => exact ⟨x, rfl⟩
  | succ n ih =>
    obtain ⟨y, hy⟩ := h x
    rw [rounds, hy]
    exact ih y

theorem benchmark_of_refused (hchecks : s.settings.checksForms = true) {e : ServiceError}
    (h : source.Refused e) {n : Option Int} (hrounds : 1 ≤ s.roundsFor n) :
    (s.benchmark w source n).1 = .error e := by
  rcases h with ⟨e, h, rfl⟩ | ⟨form, e, hform, hcheck, rfl⟩
  · rw [benchmark, h]
  · obtain ⟨k, hk⟩ : ∃ k, (s.roundsFor n).toNat = k + 1 :=
      Nat.exists_eq_succ_of_ne_zero (by omega)
    rw [benchmark, hform]
    simp only [measure, if_neg (Int.not_lt.mpr hrounds), hk, rounds, compileRound,
      check_of_refused hchecks hcheck, bind, Except.bind]

theorem benchmark_without_document (h : source.Accepted form) {e : Value.NoJson}
    (hjson : form.noJson? = some e) {n : Option Int} (hrounds : 1 ≤ s.roundsFor n) :
    (s.benchmark w source n).1 = .error (.build (.noJson e)) := by
  obtain ⟨k, hk⟩ : ∃ k, (s.roundsFor n).toNat = k + 1 :=
    Nat.exists_eq_succ_of_ne_zero (by omega)
  have hfetch := fetch_without_document h.2 (contentHash_eq_error_iff.mpr hjson) s
  rw [benchmark, h.1]
  simp only [measure, if_neg (Int.not_lt.mpr hrounds), hk, rounds, compileRound,
    check_of_accepted h.2, bind, Except.bind, hfetch]

/-- Every round of compilation returns, whatever the service keeps. -/
theorem exists_compileRound (h : source.Accepted form) (hjson : form.noJson? = none)
    (w : Surroundings) (s x : Service) :
    ∃ y, compileRound w (s.check form) form.contentHash form x = .ok y := by
  have hname : form.contentHash = .ok _ := contentHash_eq_ok_iff.mpr ⟨hjson, rfl⟩
  obtain ⟨v, b, c, hfetch⟩ := exists_fetch h.2 hname x
  refine ⟨x.compiled w b c, ?_⟩
  simp only [compileRound, check_of_accepted h.2, bind, Except.bind, hfetch]
  rfl

theorem benchmark_of_accepted (h : source.Accepted form) (hjson : form.noJson? = none)
    (hutc : w.now.offset = some 0) {n : Option Int} (hrounds : 1 ≤ s.roundsFor n) :
    ∃ b, (s.benchmark w source n).1 = .ok b ∧ (b.rounds : Int) = s.roundsFor n := by
  obtain ⟨last, hlast⟩ :=
    exists_rounds (exists_compileRound h hjson w s) (s.roundsFor n).toNat s
  obtain ⟨o, ho⟩ := exists_trial h.2 hjson hutc
  rw [benchmark, h.1]
  simp only [measure, if_neg (Int.not_lt.mpr hrounds), hlast, ho]
  exact ⟨_, rfl, Int.toNat_of_nonneg (by omega)⟩

/-! ## Validators that are served -/

/-- Every kept validator is that of a form with a document that passes the check. -/
def Vetted (s : Service) : Prop := Sound s.settings (fun _ => True) s.cache

/-- A validator that is served is that of a form with a document that passes the check. -/
theorem exists_form_of_compile (hchecks : s.settings.checksForms = true) (hvetted : s.Vetted)
    (h : (s.compile w source).1 = .ok v) :
    ∃ f, f.check = .ok () ∧ f.noJson? = none ∧ Validator.build f none = .ok v := by
  rcases compile_cases s w source with ⟨form, v', c, -, hcheck, hfetch, hcompile⟩ | ⟨e, -, hcompile⟩
  · rw [hcompile] at h
    injection h with h
    subst h
    have hadmits := check_eq_ok_iff.mp hcheck hchecks
    cases hkeeping : s.settings.keepsValidators with
    | false =>
      rw [fetch_of_not_keeping hkeeping] at hfetch
      obtain ⟨v, hbuild, hv⟩ := map_eq_ok_iff.mp (mapError_eq_ok_iff.mp hfetch)
      injection hv with hv _
      subst hv
      exact ⟨form, hadmits, noJson?_of_build hbuild, hbuild⟩
    | true =>
      cases hname : form.contentHash with
      | error e =>
        rw [fetch_undocumented hkeeping hname] at hfetch
        cases hfetch
      | ok name =>
        rw [fetch_of_keeping hkeeping hname, mapError_eq_ok_iff] at hfetch
        rcases Cache.lookup_cases hfetch with ⟨hv, -, -⟩ | ⟨-, hbuild, -, -⟩
        · obtain ⟨f, -, hf, -, hbuild⟩ := hvetted _ (mem_of_lookup hv)
          exact ⟨f, hf hchecks, noJson?_of_build hbuild, hbuild⟩
        · rw [build_contentHash hname] at hbuild
          exact ⟨form, hadmits, noJson?_of_build hbuild, hbuild⟩
  · rw [hcompile] at h
    cases h

theorem vetted_start (settings : Settings) : (start settings none).Vetted := fun _ h => by cases h

/-- A compilation keeps no other validators. -/
theorem Vetted.compile (h : s.Vetted) (w : Surroundings) (source : Source) :
    (s.compile w source).2.Vetted := by
  rw [Vetted, compile_settings]
  rcases compile_cases s w source with ⟨form, v, c, -, hcheck, hfetch, hcompile⟩ | ⟨e, -, hcompile⟩
  · rw [hcompile]
    exact Sound.fetch h trivial (check_eq_ok_iff.mp hcheck) hfetch
  · rw [hcompile]
    exact h

/-- Nor does any other request. -/
theorem Vetted.perform (h : s.Vetted) (step : Step) : (s.perform step).2.Vetted := by
  cases step with
  | compile w source => exact h.compile w source
  | validate w source submission =>
    show (s.validate w source submission).2.Vetted
    have hcompile := h.compile w source
    rcases validate_cases s w source submission with ⟨-, -, hs⟩ | ⟨-, -, hs⟩ | ⟨-, -, hs⟩
    all_goals
      rw [hs]
      exact hcompile
  | benchmark w source n =>
    obtain ⟨hsettings, -, hsound⟩ := benchmark_preserves s.settings s rfl w
      (fun _ _ => trivial) n
    show Sound (s.benchmark w source n).2.settings _ _
    rw [hsettings]
    exact hsound h
  | clearCache => exact fun _ h => by cases h
  | speak tag => exact h

end Service

end Formwork
