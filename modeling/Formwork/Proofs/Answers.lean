import Formwork.Http.Server
import Formwork.Proofs.Operations
import Formwork.Proofs.Readings
import Formwork.Proofs.Writable

/-!
# When a server fails

A server whose service checks forms answers every request, but for what `Breaks` tells: a fault at a
number that is not finite, a form with values too deep for a document, a submission that cannot be
told, a value that is kept and cannot be written, and a count that is too long to be written. Every
endpoint is shown to fail for these reasons only, and every request to leave a service of which that
holds again, so that it holds in every run.

A body with an integer that is too long is not taken in. So the values of every form that a client
sends are short, and so is what is kept of a submission.
-/

namespace Formwork

open Value (mostLevels)

variable {form : Form} {f : Field} {v : Validator} {s : Service} {w : Surroundings}

namespace Http

open Service (compile_of_accepted compile_of_refused compile_without_document
  jsonSchema_of_accepted jsonSchema_of_refused benchmark_of_accepted benchmark_of_refused
  benchmark_without_document exists_form_of_compile validate_eq_bind)

/-- A value can be shown in an answer that has some levels of its own. -/
def Shown (levels : Nat) (x : Value) : Prop := x.noJson? (mostLevels + levels) = none ∧ x.Short

theorem answer_shown {levels : Nat} {x : Value} (h : Shown levels x) :
    answer levels x = .json 200 x.toJson := by
  rw [answer, h.1]
  exact if_pos (Value.hasShortIntegers_iff.mpr h.2)

theorem answer_not_shown {levels : Nat} {x : Value} (h : ¬ Shown levels x) :
    answer levels x = .failure := by
  rw [answer]
  split
  · rename_i hnone
    exact if_neg fun hshort => h ⟨hnone, Value.hasShortIntegers_iff.mp hshort⟩
  · rfl

theorem status_answer (levels : Nat) (x : Value) :
    (answer levels x).status = 500 ↔ ¬ Shown levels x := by
  by_cases h : Shown levels x
  · rw [answer_shown h]
    exact iff_of_false (show ¬ 200 = 500 by decide) (not_not.mpr h)
  · rw [answer_not_shown h]
    exact iff_of_true rfl h

theorem shown_iff_short {levels : Nat} {x : Value} (h : x.noJson? (mostLevels + levels) = none) :
    Shown levels x ↔ x.Short := and_iff_right h

theorem status_shown {levels : Nat} {x : Value} (h : Shown levels x) :
    (answer levels x).status ≠ 500 := fun h500 => (status_answer levels x).mp h500 h

/-! ## Answers that can always be written -/

theorem shown_textList (texts : List String) (levels : Nat) :
    (textList texts).noJson? (levels + 2) = none ∧ (textList texts).Short := by
  refine ⟨Value.noJson?_list_iff.mpr fun c hc => ?_, Value.short_texts texts⟩
  obtain ⟨s, -, rfl⟩ := List.mem_map.mp hc
  rfl

theorem shown_validatorValue (v : Validator) : Shown 2 (validatorValue v) := by
  obtain ⟨hwritten, hshort⟩ := shown_textList v.fieldNames (mostLevels - 1)
  refine ⟨Value.noJson?_object_iff.mpr ?_, Value.short_object_iff.mpr ?_⟩
  all_goals simp only [List.forall_mem_cons]
  · exact ⟨rfl, hwritten, by simp⟩
  · exact ⟨Value.short_text _, hshort, by simp⟩

theorem shown_visibilityValue (shown : List (String × Bool)) :
    Shown 2 (visibilityValue shown) := by
  constructor
  · refine Value.noJson?_object_iff.mpr (List.forall_mem_singleton.mpr ?_)
    exact Value.noJson?_object_iff.mpr (List.forall_mem_map.mpr fun _ _ => rfl)
  · refine Value.short_object_iff.mpr (List.forall_mem_singleton.mpr ?_)
    refine Value.short_object_iff.mpr (List.forall_mem_map.mpr fun _ _ => ?_)
    exact Value.short_bool _

theorem shown_rejected (cs : List Complaint) : Shown 2 (outcomeValue (.rejected cs)) := by
  constructor
  · refine Value.noJson?_object_iff.mpr ?_
    simp only [List.forall_mem_cons]
    refine ⟨rfl, rfl, Value.noJson?_list_iff.mpr ?_, by simp⟩
    exact List.forall_mem_map.mpr fun _ _ => rfl
  · refine Value.short_object_iff.mpr ?_
    simp only [List.forall_mem_cons]
    refine ⟨Value.short_bool _, Value.short_null, Value.short_list_iff.mpr ?_, by simp⟩
    exact List.forall_mem_map.mpr fun _ _ => Value.hasShortIntegers_iff.mp rfl

theorem shown_accepted_iff {data : List (String × Value)} :
    Shown 2 (outcomeValue (.accepted data)) ↔
      ∀ e ∈ data, e.2.noJson? mostLevels = none ∧ e.2.Short := by
  have hdata : (Value.object data).noJson? (mostLevels + 1) = none ↔
      ∀ e ∈ data, e.2.noJson? mostLevels = none := Value.noJson?_object_iff
  have hwritten : (outcomeValue (.accepted data)).noJson? (mostLevels + 2) = none ↔
      ∀ e ∈ data, e.2.noJson? mostLevels = none := by
    rw [← hdata]
    refine Value.noJson?_object_iff.trans ?_
    simp only [List.forall_mem_cons]
    exact ⟨fun h => h.2.1, fun h => ⟨rfl, h, rfl, by simp⟩⟩
  have hshort : (outcomeValue (.accepted data)).Short ↔ ∀ e ∈ data, e.2.Short := by
    rw [outcomeValue, Value.short_object_iff, ← @Value.short_object_iff data]
    simp only [List.forall_mem_cons]
    exact ⟨fun h => h.2.1, fun h => ⟨Value.short_bool _, h,
      Value.hasShortIntegers_iff.mp rfl, by simp⟩⟩
  rw [Shown, hwritten, hshort]
  exact forall₂_and.symm

/-- Of a measurement only the number of rounds may be too long. -/
theorem shown_benchmarkValue_iff (w : Surroundings) (b : Benchmark) :
    Shown 2 (benchmarkValue w b) ↔ (Value.int b.rounds).Short := by
  have hshort : (benchmarkValue w b).Short ↔ (Value.int b.rounds).Short := by
    rw [benchmarkValue, Value.short_object_iff]
    simp only [List.forall_mem_cons]
    exact ⟨fun h => h.1, fun h => ⟨h, Value.hasShortIntegers_iff.mp rfl,
      Value.hasShortIntegers_iff.mp rfl, Value.hasShortIntegers_iff.mp rfl, by simp⟩⟩
  exact (shown_iff_short rfl).trans hshort

theorem short_cons_float {k : String} {x : Binary64} {es : List (String × Value)} :
    (Value.object ((k, .float x) :: es)).Short ↔ (Value.object es).Short := by
  rw [Value.short_object_iff, Value.short_object_iff, List.forall_mem_cons]
  exact and_iff_right (Value.short_of_scalar rfl nofun)

/-! ## Errors -/

theorem status_formErrorResponse (e : FormError) : (formErrorResponse e).status = 422 := by
  cases e <;> rfl

/-- Faults are told unless one of them was found at a number that is not finite. -/
theorem status_faultsResponse (fs : List Fault) :
    (faultsResponse fs).status = 500 ↔ ∃ fault ∈ fs, fault.found.HoldsNonFinite := by
  simp only [← Value.hasFiniteFloats_eq_false_iff]
  rw [faultsResponse]
  split
  · rename_i hall
    refine iff_of_false (show ¬ 422 = 500 by decide) ?_
    rintro ⟨fault, hfault, hnot⟩
    rw [List.all_eq_true.mp hall fault hfault] at hnot
    cases hnot
  · rename_i hnot
    exact iff_of_true rfl (by simpa using hnot)

/-! ## What breaks a server -/

/-- A body that is taken in breaks an endpoint if it is no payload and a fault was found at a number
that is not finite, or if it is a payload that does. -/
def BreaksBy {α : Type} (read : List (String × Value) → Reading α) (body : Option Value)
    (P : α → Prop) : Prop :=
  (∀ u, body = some u → u.Short) ∧
    ((∃ fs, (readBody read body).toExcept = .error fs ∧
        ∃ fault ∈ fs, fault.found.HoldsNonFinite) ∨
      ∃ p, (readBody read body).toExcept = .ok p ∧ P p)

/-- What makes the service fail at an endpoint. -/
def Breaks (w : Surroundings) (s : Service) (body : Option Value) : Endpoint → Prop
  | .compile => BreaksBy FormPayload.read body fun p =>
      ∃ form, (Source.document p.form).Accepted form ∧ form.noJson? ≠ none
  | .validate => BreaksBy SubmissionPayload.read body fun p =>
      ∃ form, (Source.document p.form).Accepted form ∧ (form.noJson? ≠ none ∨
        ∃ v, (s.compile w (.document p.form)).1 = .ok v ∧ (¬ v.Tells w.now.date p.data ∨
          ∃ data, v.validate s.locale w.now.date p.data = .ok (.accepted data) ∧
            ∃ e ∈ data, e.2.Unwritable))
  | .jsonSchema => BreaksBy SchemaPayload.read body fun p =>
      ∃ form, (Source.document p.form).Accepted form ∧ ∃ f ∈ form.fields, f.TooDeep
  | .benchmark => BreaksBy BenchmarkPayload.read body fun p =>
      ∃ form, (Source.document p.form).Accepted form ∧ (form.noJson? ≠ none ∨
        ¬ (Value.int (s.roundsFor (p.rounds.map fun c => (c.1 : Int)))).Short)
  | .visibility => BreaksBy VisibilityPayload.read body fun _ => False
  | .cacheStats => ¬ (Value.object s.cache.report).Short
  | .metrics => ¬ (Value.object s.report).Short
  | .health => ¬ (Value.int s.cache.size).Short
  | .clearCache | .resetMetrics => False

variable {body : Option Value} {α : Type} {read : List (String × Value) → Reading α}

theorem isTakenIn_iff : isTakenIn body = true ↔ ∀ u, body = some u → u.Short := by
  cases body <;> simp [isTakenIn, Value.hasShortIntegers_iff]

/-- A body that is no payload is told so. -/
theorem withPayload_faults {fs : List Fault} (htaken : isTakenIn body = true)
    (h : (readBody read body).toExcept = .error fs) (server : Server)
    (act : α → Service → Response × Service) :
    withPayload server read body act = (faultsResponse fs, server) := by
  rw [withPayload, if_pos htaken, h]

theorem withPayload_ok {p : α} (htaken : isTakenIn body = true)
    (h : (readBody read body).toExcept = .ok p) (s : Service)
    (act : α → Service → Response × Service) :
    withPayload (some s) read body act = ((act p s).1, some (act p s).2) := by
  rw [withPayload, if_pos htaken, h]
  rfl

theorem withPayload_unread (htaken : ¬ isTakenIn body = true) (server : Server)
    (act : α → Service → Response × Service) :
    withPayload server read body act = (unreadBody, server) := by
  rw [withPayload, if_neg htaken]

/-- What is read of a body that is taken in is read of an object with short entries. -/
theorem exists_of_readBody {p : α} (hbody : ∀ u, body = some u → u.Short)
    (h : (readBody read body).toExcept = .ok p) :
    ∃ es, read es = .ok p ∧ ∀ e ∈ es, e.2.Short := by
  have hread := Reading.inside_eq_ok_iff.mp h
  cases body with
  | none => exact absurd hread Reading.fail_ne_ok
  | some u =>
    obtain ⟨es, rfl, hp⟩ := Document.record_eq_ok_iff.mp hread
    exact ⟨es, hp, Value.short_object_iff.mp (hbody _ rfl)⟩

/-- An endpoint fails for a payload as its part of the work does. -/
theorem status_withPayload_iff {act : α → Service → Response × Service} {P : α → Prop}
    (h : ∀ es p, read es = .ok p → (∀ e ∈ es, e.2.Short) → ((act p s).1.status = 500 ↔ P p)) :
    (withPayload (some s) read body act).1.status = 500 ↔ BreaksBy read body P := by
  by_cases htaken : isTakenIn body = true
  · have hbody := isTakenIn_iff.mp htaken
    rw [BreaksBy, and_iff_right hbody]
    cases hread : (readBody read body).toExcept with
    | error fs =>
      rw [withPayload_faults htaken hread, status_faultsResponse]
      simp
    | ok p =>
      obtain ⟨es, hes, hshort⟩ := exists_of_readBody hbody hread
      rw [withPayload_ok htaken hread, h es p hes hshort]
      simp
  · rw [withPayload_unread htaken]
    exact iff_of_false (show ¬ 400 = 500 by decide) fun hbreaks =>
      htaken (isTakenIn_iff.mpr hbreaks.1)

/-! ## Payloads -/

section Payloads

variable {es : List (String × Value)} {u : Value}

theorem short_of_objectEntry {key : String} (h : objectEntry key es = .ok u)
    (hes : ∀ e ∈ es, e.2.Short) : u.Short := by
  obtain ⟨entries, hentries, rfl⟩ := Reading.map_eq_ok_iff.mp h
  obtain ⟨k, x, hfind, hx⟩ := Document.entry_eq_ok_iff.mp hentries
  have hshort := hes _ (Document.mem_of_find? hfind)
  cases x <;> cases hx
  exact hshort

theorem FormPayload.short {p : FormPayload} (h : FormPayload.read es = .ok p)
    (hes : ∀ e ∈ es, e.2.Short) : p.form.Short := by
  obtain ⟨u, hu, rfl⟩ := Reading.mapped_eq_ok_iff.mp h
  exact short_of_objectEntry hu hes

theorem SubmissionPayload.short {p : SubmissionPayload} (h : SubmissionPayload.read es = .ok p)
    (hes : ∀ e ∈ es, e.2.Short) : p.form.Short ∧ p.data.Short := by
  obtain ⟨_, data, hform, hdata, rfl⟩ := Reading.apply_eq_ok_iff.mp h
  obtain ⟨u, hu, rfl⟩ := Reading.mapped_eq_ok_iff.mp hform
  exact ⟨short_of_objectEntry hu hes, short_of_objectEntry hdata hes⟩

theorem SchemaPayload.short {p : SchemaPayload} (h : SchemaPayload.read es = .ok p)
    (hes : ∀ e ∈ es, e.2.Short) : p.form.Short := by
  obtain ⟨_, strict, htitled, -, rfl⟩ := Reading.apply_eq_ok_iff.mp h
  obtain ⟨_, title, hform, -, rfl⟩ := Reading.apply_eq_ok_iff.mp htitled
  obtain ⟨u, hu, rfl⟩ := Reading.mapped_eq_ok_iff.mp hform
  exact short_of_objectEntry hu hes

theorem BenchmarkPayload.short {p : BenchmarkPayload} (h : BenchmarkPayload.read es = .ok p)
    (hes : ∀ e ∈ es, e.2.Short) : p.form.Short := by
  obtain ⟨_, rounds, hform, -, rfl⟩ := Reading.apply_eq_ok_iff.mp h
  obtain ⟨u, hu, rfl⟩ := Reading.mapped_eq_ok_iff.mp hform
  exact short_of_objectEntry hu hes

/-- The values of a form that is read from a short document are short. -/
theorem short_values (hu : u.Short) (h : (Source.document u).form? = .ok form) :
    ∀ x ∈ form.values, x.Short := by
  intro x hx
  by_cases hnull : x = .null
  · rw [hnull]
    exact Value.short_null
  · have hread : Form.read u = .ok form := by
      rw [Source.form?] at h
      split at h
      · rename_i hread
        injection h with h
        exact h ▸ hread
      · cases h
    exact hu.inside (Form.holds_of_read hread hx hnull)

/-- Whatever refuses a form that is read from a short document can be told. -/
theorem exists_formError {e : ServiceError} (hu : u.Short) (h : (Source.document u).Refused e) :
    ∃ e', e = .form e' := by
  rcases h with ⟨e', -, rfl⟩ | ⟨form, e', hform, hcheck, rfl⟩
  · exact ⟨e', rfl⟩
  · cases e' with
    | refused e' => exact ⟨e', rfl⟩
    | longInteger =>
      refine absurd (Form.check_longInteger_iff.mp hcheck) (not_not.mpr ?_)
      refine Form.tellable_of_short fun f hf c hc => short_values hu hform c ?_
      exact List.mem_flatMap.mpr ⟨f, hf, Field.mem_values_of_choice hc⟩

end Payloads

section Endpoints

variable {levels : Nat} {shown : α → Value} {r : Except ServiceError α × Service} {u : Value}

theorem respondWith_ok {a : α} (h : r.1 = .ok a) :
    (respondWith levels shown r).1 = answer levels (shown a) := by
  obtain ⟨x, s⟩ := r
  obtain rfl : x = .ok a := h
  rfl

theorem respondWith_error {e : ServiceError} (h : r.1 = .error e) :
    (respondWith levels shown r).1 = errorResponse e := by
  obtain ⟨x, s⟩ := r
  obtain rfl : x = .error e := h
  rfl

theorem respondWith_snd : (respondWith levels shown r).2 = r.2 := by
  obtain ⟨x, s⟩ := r
  cases x <;> rfl

/-- Nothing fails for a form that is refused. -/
theorem status_of_refused {e : ServiceError} {P : Form → Prop} (hu : u.Short)
    (hrefused : (Source.document u).Refused e) (h : r.1 = .error e) :
    (respondWith levels shown r).1.status = 500 ↔
      ∃ form, (Source.document u).Accepted form ∧ P form := by
  obtain ⟨e, rfl⟩ := exists_formError hu hrefused
  rw [respondWith_error h]
  refine iff_of_false ?_ fun ⟨form, haccepted, _⟩ => hrefused.not_accepted haccepted
  show ¬ (formErrorResponse e).status = 500
  rw [status_formErrorResponse]
  decide

/-- For the one form that is accepted it may. -/
theorem exists_accepted_iff {source : Source} {P : Form → Prop} (h : source.Accepted form) :
    (∃ form, source.Accepted form ∧ P form) ↔ P form := by
  constructor
  · rintro ⟨form', h', hP⟩
    exact h'.unique h ▸ hP
  · exact fun hP => ⟨form, h, hP⟩

variable (hchecks : s.settings.checksForms = true)

include hchecks

theorem status_compile_iff (hu : u.Short) :
    (respondWith 2 validatorValue (s.compile w (.document u))).1.status = 500 ↔
      ∃ form, (Source.document u).Accepted form ∧ form.noJson? ≠ none := by
  rcases (Source.document u).accepted_or_refused with ⟨form, h⟩ | ⟨e, h⟩
  · rw [exists_accepted_iff h]
    cases hjson : form.noJson? with
    | none =>
      obtain ⟨v, hv⟩ := compile_of_accepted h hjson
      rw [respondWith_ok hv]
      exact iff_of_false (status_shown (shown_validatorValue v)) (by simp)
    | some e =>
      rw [respondWith_error (compile_without_document h hjson)]
      exact iff_of_true rfl (by simp)
  · exact status_of_refused hu h (compile_of_refused hchecks h)

theorem status_jsonSchema_iff (hu : u.Short) (title : Option String) (strict : Bool) :
    (respondWith 1 JsonSchema.toValue
      (s.jsonSchema (.document u) title strict, s)).1.status = 500 ↔
      ∃ form, (Source.document u).Accepted form ∧ ∃ f ∈ form.fields, f.TooDeep := by
  rcases (Source.document u).accepted_or_refused with ⟨form, h⟩ | ⟨e, h⟩
  · obtain ⟨schema, hschema, hdescribes⟩ := jsonSchema_of_accepted (s := s) h title strict
    rw [exists_accepted_iff h, respondWith_ok hschema, status_answer, Shown,
      and_iff_left (hdescribes.short (short_values hu h.1)),
      hdescribes.noJson?_iff (nodup_names h.2)]
    push Not
    rfl
  · exact status_of_refused hu h (jsonSchema_of_refused hchecks h title strict)

theorem status_benchmark_iff (hutc : w.now.offset = some 0) (hu : u.Short) {n : Option Int}
    (hrounds : 1 ≤ s.roundsFor n) :
    (respondWith 2 (benchmarkValue w) (s.benchmark w (.document u) n)).1.status = 500 ↔
      ∃ form, (Source.document u).Accepted form ∧
        (form.noJson? ≠ none ∨ ¬ (Value.int (s.roundsFor n)).Short) := by
  rcases (Source.document u).accepted_or_refused with ⟨form, h⟩ | ⟨e, h⟩
  · rw [exists_accepted_iff h]
    cases hjson : form.noJson? with
    | none =>
      obtain ⟨b, hb, hcount⟩ := benchmark_of_accepted h hjson hutc hrounds
      rw [respondWith_ok hb, status_answer, shown_benchmarkValue_iff, hcount]
      simp
    | some e =>
      rw [respondWith_error (benchmark_without_document h hjson hrounds)]
      exact iff_of_true rfl (by simp)
  · exact status_of_refused hu h (benchmark_of_refused hchecks h hrounds)

/-- A submission to a form with a document fails if it cannot be told, or if something that it
keeps cannot be written. -/
theorem status_validate_of_compile (hvetted : s.Vetted) {source : Source} {submission : Value}
    (hshort : submission.Short) (hv : (s.compile w source).1 = .ok v) :
    (respondWith 2 outcomeValue (s.validate w source submission)).1.status = 500 ↔
      ¬ v.Tells w.now.date submission ∨
        ∃ data, v.validate s.locale w.now.date submission = .ok (.accepted data) ∧
          ∃ e ∈ data, e.2.Unwritable := by
  obtain ⟨f, hcheck, hjson, hbuild⟩ := exists_form_of_compile hchecks hvetted hv
  have hresult : (s.validate w source submission).1 =
      (v.validate s.locale w.now.date submission).mapError .breakdown := by
    rw [validate_eq_bind, hv]
    rfl
  cases hvalidate : v.validate s.locale w.now.date submission with
  | error e =>
    rw [hvalidate] at hresult
    rw [respondWith_error hresult]
    refine iff_of_true rfl (Or.inl fun htells => ?_)
    obtain ⟨o, ho⟩ := (@Validator.exists_answer_iff_tells _ s.locale _ _).mpr htells
    rw [hvalidate] at ho
    cases ho
  | ok o =>
    rw [hvalidate] at hresult
    have htells := Validator.exists_answer_iff_tells.mp ⟨o, hvalidate⟩
    rw [respondWith_ok hresult, status_answer, or_iff_right (not_not.mpr htells)]
    cases o with
    | rejected cs =>
      refine iff_of_false (not_not.mpr (shown_rejected cs)) ?_
      rintro ⟨data, hdata, -⟩
      cases hdata
    | accepted data =>
      have hdata : ∀ e ∈ data, e.2.Short := fun e he =>
        short_of_accepted hcheck hbuild hvalidate hshort he
      rw [shown_accepted_iff, forall₂_congr fun e he => and_iff_left (hdata e he)]
      push Not
      constructor
      · rintro ⟨e, he, hnone⟩
        exact ⟨data, rfl, e, he,
          (written_or_of_accepted hcheck hjson hbuild hvalidate he).resolve_left hnone⟩
      · rintro ⟨_, ⟨⟩, e, he, hunwritable⟩
        exact ⟨e, he, hunwritable.noJson?⟩

theorem status_validate_iff (hvetted : s.Vetted) (hu : u.Short) {submission : Value}
    (hshort : submission.Short) :
    (respondWith 2 outcomeValue (s.validate w (.document u) submission)).1.status = 500 ↔
      ∃ form, (Source.document u).Accepted form ∧ (form.noJson? ≠ none ∨
        ∃ v, (s.compile w (.document u)).1 = .ok v ∧ (¬ v.Tells w.now.date submission ∨
          ∃ data, v.validate s.locale w.now.date submission = .ok (.accepted data) ∧
            ∃ e ∈ data, e.2.Unwritable)) := by
  rcases (Source.document u).accepted_or_refused with ⟨form, h⟩ | ⟨e, h⟩
  · rw [exists_accepted_iff h]
    cases hjson : form.noJson? with
    | none =>
      obtain ⟨v, hv⟩ := compile_of_accepted (s := s) (w := w) h hjson
      rw [status_validate_of_compile hchecks hvetted hshort hv, or_iff_right (not_not.mpr rfl)]
      constructor
      · exact fun hbreaks => ⟨v, hv, hbreaks⟩
      · rintro ⟨v', hv', hbreaks⟩
        rw [hv] at hv'
        injection hv' with hv'
        exact hv' ▸ hbreaks
    | some e =>
      have herror : (s.validate w (.document u) submission).1 = .error (.build (.noJson e)) := by
        rw [validate_eq_bind, compile_without_document h hjson]
        rfl
      rw [respondWith_error herror]
      exact iff_of_true rfl (Or.inl (by simp))
  · refine status_of_refused hu h ?_
    rw [validate_eq_bind, compile_of_refused hchecks h]
    rfl

omit hchecks in
theorem one_le_roundsFor (s : Service) (rounds : Option Count) :
    1 ≤ s.roundsFor (rounds.map fun c => (c.1 : Int)) := by
  cases rounds with
  | none => exact Int.natCast_pos.mpr s.settings.rounds.2
  | some c =>
    have hpos : (0 : Int) < c.1 := Int.natCast_pos.mpr c.2
    rw [Option.map_some, Service.roundsFor, if_neg (by omega)]
    exact hpos

omit hchecks in
theorem status_visibilityResponse (p : VisibilityPayload) :
    (visibilityResponse p).status ≠ 500 := by
  rw [visibilityResponse]
  split
  · exact status_shown (shown_visibilityValue _)
  · exact show ¬ 400 = 500 by decide

/-- An endpoint fails exactly for what breaks it. -/
theorem status_serve_iff (hvetted : s.Vetted) (hutc : w.now.offset = some 0) (e : Endpoint) :
    (serve w (some s) body e).1.status = 500 ↔ Breaks w s body e := by
  cases e with
  | compile =>
    exact status_withPayload_iff fun es p hp hes => status_compile_iff hchecks (FormPayload.short hp hes)
  | validate =>
    refine status_withPayload_iff fun es p hp hes => ?_
    obtain ⟨hform, hdata⟩ := SubmissionPayload.short hp hes
    exact status_validate_iff hchecks hvetted hform hdata
  | jsonSchema =>
    exact status_withPayload_iff fun es p hp hes =>
      status_jsonSchema_iff hchecks (SchemaPayload.short hp hes) _ _
  | benchmark =>
    exact status_withPayload_iff fun es p hp hes =>
      status_benchmark_iff hchecks hutc (BenchmarkPayload.short hp hes)
        (one_le_roundsFor s p.rounds)
  | visibility =>
    exact status_withPayload_iff fun es p _ _ => iff_false_intro (status_visibilityResponse p)
  | cacheStats =>
    rw [serve, withService, status_answer, shown_iff_short rfl]
    exact not_congr short_cons_float
  | metrics =>
    rw [serve, withService, status_answer, shown_iff_short rfl]
    exact not_congr short_cons_float
  | health =>
    rw [serve, withService, status_answer, shown_iff_short rfl]
    refine not_congr ?_
    rw [Value.short_object_iff]
    simp only [List.forall_mem_cons]
    exact ⟨fun h => h.2.1, fun h => ⟨Value.short_text _, h, by simp⟩⟩
  | clearCache => exact iff_of_false (status_shown ⟨rfl, Value.hasShortIntegers_iff.mp rfl⟩) id
  | resetMetrics => exact iff_of_false (status_shown ⟨rfl, Value.hasShortIntegers_iff.mp rfl⟩) id

end Endpoints

/-! ## Requests and runs -/

/-- The request is one to an endpoint, by its path and its method. -/
def Request.Reaches (r : Request) (e : Endpoint) : Prop :=
  r.plainMethod = e.method ∧
    ∃ path, readPath r.target = .ok (some path) ∧ Endpoint.find? path = some e

theorem Request.Reaches.unique {r : Request} {e e' : Endpoint} (h : r.Reaches e)
    (h' : r.Reaches e') : e = e' := by
  obtain ⟨-, path, hpath, hfind⟩ := h
  obtain ⟨-, path', hpath', hfind'⟩ := h'
  rw [hpath] at hpath'
  injection hpath' with hpath'
  injection hpath' with hpath'
  rw [← hpath', hfind] at hfind'
  injection hfind'

/-- The server after some requests. One without a response leaves it as it is. -/
def after (server : Server) : List (Surroundings × Request) → Server
  | [] => server
  | (w, r) :: requests =>
    match respond w server r with
    | .ok (_, server) => after server requests
    | .error _ => after server requests

theorem method_ne_head (e : Endpoint) : e.method ≠ "HEAD" := by
  cases e <;> decide

/-- What an endpoint is asked for it answers. -/
theorem respond_of_reaches {r : Request} {e : Endpoint} (h : r.Reaches e) (w : Surroundings)
    (server : Server) : respond w server r = .ok (serve w server r.body e) := by
  obtain ⟨hmethod, path, hpath, hfind⟩ := h
  have hhead : (e.method == "HEAD") = false := beq_false_of_ne (method_ne_head e)
  simp only [respond, hpath, hmethod, bind, Except.bind, respondAt, hfind, beq_self_eq_true,
    if_true, hhead]
  rfl

theorem status_pageResponse (method : String) (path : List Char) :
    (pageResponse method path).status ≠ 500 := by
  have h200 : ¬ 200 = 500 := by decide
  have h404 : ¬ 404 = 500 := by decide
  have h405 : ¬ 405 = 500 := by decide
  simp only [pageResponse]
  split
  · split
    · exact h200
    · exact h405
  · exact h404

theorem respondAt_of_not_reaches {r : Request} (h : ∀ e, ¬ r.Reaches e) {path : List Char}
    (hpath : readPath r.target = .ok (some path)) (w : Surroundings) (server : Server) :
    (respondAt w server r.plainMethod path r.body).1.status ≠ 500 ∧
      (respondAt w server r.plainMethod path r.body).2 = server := by
  rw [respondAt]
  split
  · rename_i e hfind
    have hmethod : ¬ (e.method == r.plainMethod) = true := by
      intro hmethod
      exact h e ⟨(beq_iff_eq.mp hmethod).symm, path, hpath, hfind⟩
    rw [if_neg hmethod]
    exact ⟨show ¬ 405 = 500 by decide, rfl⟩
  · exact ⟨status_pageResponse _ _, rfl⟩

/-- What no endpoint is asked for fails nothing and changes nothing. -/
theorem respond_of_not_reaches {r : Request} (h : ∀ e, ¬ r.Reaches e) {w : Surroundings}
    {server server' : Server} {response : Response}
    (hr : respond w server r = .ok (response, server')) :
    response.status ≠ 500 ∧ server' = server := by
  obtain ⟨path?, hpath, hr⟩ := bind_eq_ok_iff.mp hr
  cases path? with
  | none =>
    simp only at hr
    split at hr <;> cases hr <;> exact ⟨show ¬ 404 = 500 by decide, rfl⟩
  | some path =>
    have hat := respondAt_of_not_reaches h hpath w server
    simp only at hr
    split at hr <;> cases hr <;> exact hat

/-! ## The service of a server -/

/-- A service that has done some work: it has the same settings, and as good a cache. -/
def Continues (s s' : Service) : Prop := s'.settings = s.settings ∧ (s.Vetted → s'.Vetted)

theorem Continues.refl (s : Service) : Continues s s := ⟨rfl, id⟩

theorem continues_perform (s : Service) (step : Service.Step) : Continues s (s.perform step).2 :=
  ⟨Service.perform_settings s step, fun h => h.perform step⟩

theorem continues_withPayload {act : α → Service → Response × Service}
    (h : ∀ p, Continues s (act p s).2) :
    ∃ s', (withPayload (some s) read body act).2 = some s' ∧ Continues s s' := by
  by_cases htaken : isTakenIn body = true
  · cases hread : (readBody read body).toExcept with
    | error fs => exact ⟨s, by rw [withPayload_faults htaken hread], .refl s⟩
    | ok p => exact ⟨_, by rw [withPayload_ok htaken hread], h p⟩
  · exact ⟨s, by rw [withPayload_unread htaken], .refl s⟩

/-- No endpoint loses the service, its settings, or what is known of its cache. -/
theorem continues_serve (w : Surroundings) (s : Service) (body : Option Value) (e : Endpoint) :
    ∃ s', (serve w (some s) body e).2 = some s' ∧ Continues s s' := by
  cases e with
  | compile =>
    refine continues_withPayload fun p => ?_
    rw [respondWith_snd]
    exact continues_perform s (.compile w (.document p.form))
  | validate =>
    refine continues_withPayload fun p => ?_
    rw [respondWith_snd]
    exact continues_perform s (.validate w (.document p.form) p.data)
  | benchmark =>
    refine continues_withPayload fun p => ?_
    rw [respondWith_snd]
    exact continues_perform s (.benchmark w (.document p.form) (p.rounds.map fun c => (c.1 : Int)))
  | jsonSchema =>
    refine continues_withPayload fun p => ?_
    rw [respondWith_snd]
    exact .refl s
  | visibility => exact continues_withPayload fun p => .refl s
  | cacheStats | metrics | health => exact ⟨s, rfl, .refl s⟩
  | clearCache => exact ⟨_, rfl, continues_perform s .clearCache⟩
  | resetMetrics => exact ⟨_, rfl, rfl, id⟩

theorem continues_respond {r : Request} {server' : Server} {response : Response}
    (hr : respond w (some s) r = .ok (response, server')) :
    ∃ s', server' = some s' ∧ Continues s s' := by
  by_cases h : ∃ e, r.Reaches e
  · obtain ⟨e, he⟩ := h
    rw [respond_of_reaches he] at hr
    injection hr with hr
    obtain ⟨s', hs', hcontinues⟩ := continues_serve w s r.body e
    exact ⟨s', (congrArg Prod.snd hr).symm.trans hs', hcontinues⟩
  · exact ⟨s, (respond_of_not_reaches (not_exists.mp h) hr).2, .refl s⟩

/-- Nor does any run. -/
theorem continues_after (requests : List (Surroundings × Request)) (s : Service) :
    ∃ s', after (some s) requests = some s' ∧ Continues s s' := by
  induction requests generalizing s with
  | nil => exact ⟨s, rfl, .refl s⟩
  | cons x requests ih =>
    obtain ⟨w, r⟩ := x
    rw [after]
    split
    · rename_i response server hr
      obtain ⟨s', rfl, hsettings, hvetted⟩ := continues_respond hr
      obtain ⟨s'', hs'', hsettings', hvetted'⟩ := ih s'
      exact ⟨s'', hs'', hsettings'.trans hsettings, hvetted' ∘ hvetted⟩
    · exact ih s

/-! ## Every response of a run -/

/-- The issues of a form are no reason to fail for a form that is accepted. -/
theorem validate_ne_formError {source : Source} (h : source.Accepted form) (submission : Value)
    (e : FormError) : (s.validate w source submission).1 ≠ .error (.form e) := by
  rw [validate_eq_bind]
  cases hjson : form.noJson? with
  | some e' =>
    rw [compile_without_document h hjson]
    exact nofun
  | none =>
    obtain ⟨v, hv⟩ := compile_of_accepted (s := s) (w := w) h hjson
    rw [hv]
    simp only [Except.bind]
    cases v.validate s.locale w.now.date submission <;> exact nofun

/-- A submission to a form that is accepted is answered with what becomes of it, and one to a form
that is refused with the issues. -/
theorem serve_validate {p : SubmissionPayload} (hchecks : s.settings.checksForms = true)
    (hbody : ∀ u, body = some u → u.Short)
    (hp : (readBody SubmissionPayload.read body).toExcept = .ok p) :
    ((¬ ∃ form, (Source.document p.form).Accepted form) →
      (serve w (some s) body .validate).1.status = 422) ∧
    ((serve w (some s) body .validate).1.status ≠ 500 →
      (∃ form, (Source.document p.form).Accepted form) →
      ∃ o, (s.validate w (.document p.form) p.data).1 = .ok o ∧
        (serve w (some s) body .validate).1 = .json 200 (outcomeValue o).toJson) := by
  have hserve : (serve w (some s) body .validate).1 =
      (respondWith 2 outcomeValue (s.validate w (.document p.form) p.data)).1 := by
    rw [serve, withPayload_ok (isTakenIn_iff.mpr hbody) hp]
  rw [hserve]
  constructor
  · intro hnone
    obtain ⟨es, hes, hshort⟩ := exists_of_readBody hbody hp
    obtain ⟨e, he⟩ := (Source.accepted_or_refused _).resolve_left hnone
    obtain ⟨e, rfl⟩ := exists_formError (SubmissionPayload.short hes hshort).1 he
    have herror : (s.validate w (.document p.form) p.data).1 = .error (.form e) := by
      rw [validate_eq_bind, compile_of_refused hchecks he]
      rfl
    rw [respondWith_error herror]
    exact status_formErrorResponse e
  · rintro hstatus ⟨form, hform⟩
    cases hresult : (s.validate w (.document p.form) p.data).1 with
    | ok o =>
      rw [respondWith_ok hresult] at hstatus ⊢
      exact ⟨o, rfl, answer_shown (not_not.mp ((status_answer 2 _).not.mp hstatus))⟩
    | error e =>
      rw [respondWith_error hresult] at hstatus
      cases e with
      | form e => exact absurd hresult (validate_ne_formError hform p.data e)
      | _ => exact absurd rfl hstatus

/-- A submission with an integer that is too long is not taken in. -/
theorem serve_validate_unread (hbody : ¬ ∀ u, body = some u → u.Short) :
    (serve w (some s) body .validate).1.status = 400 := by
  rw [serve, withPayload_unread (mt isTakenIn_iff.mp hbody)]
  rfl

/-- In every run of a new service that checks forms, and for every clock that shows UTC, a request
is answered with a failure exactly if it reaches an endpoint that it breaks. A submission that does
not is answered with what becomes of it where the form is accepted, with the issues where it is
refused, and not at all where it has an integer that is too long to be read. -/
theorem failure_iff_breaks (settings : Settings) (hchecks : settings.checksForms = true)
    (requests : List (Surroundings × Request)) (w : Surroundings) (hutc : w.now.offset = some 0)
    (r : Request) :
    ∃ s, after (some (Service.start settings none)) requests = some s ∧
      (∀ response server, respond w (some s) r = .ok (response, server) →
        (response.status = 500 ↔ ∃ e, r.Reaches e ∧ Breaks w s r.body e)) ∧
      (r.Reaches .validate → (¬ ∀ u, r.body = some u → u.Short) →
        ∃ response server, respond w (some s) r = .ok (response, server) ∧
          response.status = 400) ∧
      ∀ p, r.Reaches .validate → (∀ u, r.body = some u → u.Short) →
        (readBody SubmissionPayload.read r.body).toExcept = .ok p →
        ∃ response server, respond w (some s) r = .ok (response, server) ∧
          ((¬ ∃ form, (Source.document p.form).Accepted form) → response.status = 422) ∧
          ((∃ form, (Source.document p.form).Accepted form) → ¬ Breaks w s r.body .validate →
            ∃ o, (s.validate w (.document p.form) p.data).1 = .ok o ∧
              response = .json 200 (outcomeValue o).toJson) := by
  obtain ⟨s, hs, hsettings, hvetted⟩ :=
    continues_after requests (Service.start settings none)
  have hchecks' : s.settings.checksForms = true := by
    rw [hsettings]
    exact hchecks
  have hstatus : ∀ e, (serve w (some s) r.body e).1.status = 500 ↔ Breaks w s r.body e :=
    status_serve_iff hchecks' (hvetted (Service.vetted_start _)) hutc
  refine ⟨s, hs, fun response server hr => ?_, fun hreaches hbody => ?_,
    fun p hreaches hbody hp => ?_⟩
  · by_cases h : ∃ e, r.Reaches e
    · obtain ⟨e, he⟩ := h
      rw [respond_of_reaches he] at hr
      injection hr with hr
      obtain rfl : (serve w (some s) r.body e).1 = response := congrArg Prod.fst hr
      rw [hstatus e]
      constructor
      · exact fun hbreaks => ⟨e, he, hbreaks⟩
      · rintro ⟨e', he', hbreaks⟩
        exact he.unique he' ▸ hbreaks
    · refine iff_of_false (respond_of_not_reaches (not_exists.mp h) hr).1 ?_
      exact fun ⟨e, he, _⟩ => h ⟨e, he⟩
  · exact ⟨_, _, respond_of_reaches hreaches w _, serve_validate_unread hbody⟩
  · obtain ⟨hrefused, haccepted⟩ := serve_validate (w := w) hchecks' hbody hp
    refine ⟨_, _, respond_of_reaches hreaches w _, hrefused, fun hform hbreaks => ?_⟩
    exact haccepted (fun h => hbreaks ((hstatus .validate).mp h)) hform

/-! ## A submission of one date -/

/-- The document of a form of one date. -/
def dateDocument : Value :=
  .object [("version", .text "1"), ("fields", .list [.object [("id", .text "a"),
    ("name", .text "x"), ("type", .text "date"), ("label", .text "X"), ("defaultValue", .null)]])]

/-- The request to validate a submission of a text for the date. -/
def submit (text : String) : Request :=
  ⟨"POST", "/api/validate",
    some (.object [("metadata", dateDocument), ("data", .object [("x", .text text)])])⟩

/-- Noon in UTC. -/
def noon : Surroundings :=
  ⟨⟨Service.someDay, ⟨12, 0, 0, 0, by decide⟩, some 0⟩, Binary64.zero, Binary64.zero⟩

theorem accepted_dateDocument :
    (Source.document dateDocument).Accepted (Service.withDefault .null) :=
  ⟨rfl, @Service.admits_withDefault .standard .null rfl⟩

theorem reaches_submit (text : String) : (submit text).Reaches .validate := by
  have hpath : readPath "/api/validate" = .ok (some "/api/validate".toList) := by cbv
  have hmethod : String.ofList ("POST".toList.flatMap capitals) = "POST" := by decide
  exact ⟨hmethod, _, hpath, by decide⟩

theorem readBody_submit (text : String) :
    (readBody SubmissionPayload.read (submit text).body).toExcept =
      .ok ⟨dateDocument, .object [("x", .text text)]⟩ := rfl

theorem short_submit (text : String) : ∀ u, (submit text).body = some u → u.Short := by
  rintro _ ⟨⟩
  exact Value.hasShortIntegers_iff.mp rfl

/-- What breaks a new server that gets the request is the text or the value that is kept. -/
theorem breaks_submit_iff (text : String) :
    ∃ name, Breaks noon (Service.start .standard none) (submit text).body .validate ↔
      ¬ (Service.dateValidator name).Tells Service.someDay (.object [("x", .text text)]) ∨
        ∃ data, (Service.dateValidator name).validate .english Service.someDay
          (.object [("x", .text text)]) = .ok (.accepted data) ∧ ∃ e ∈ data, e.2.Unwritable := by
  obtain ⟨name, hcompile⟩ := @Service.exists_compile_date (.document dateDocument) rfl noon
  refine ⟨name, ?_, fun h => ?_⟩
  · rintro ⟨-, ⟨fs, hfs, -⟩ | ⟨p, hp, form, hform, hbreaks⟩⟩
    · rw [readBody_submit] at hfs
      cases hfs
    rw [readBody_submit] at hp
    injection hp with hp
    subst hp
    obtain rfl := accepted_dateDocument.unique hform
    rcases hbreaks with hnone | ⟨v, hv, h⟩
    · exact absurd rfl hnone
    · rw [hcompile] at hv
      injection hv with hv
      subst hv
      exact h
  · exact ⟨short_submit text, Or.inr ⟨_, readBody_submit text, _, accepted_dateDocument,
      Or.inr ⟨_, congrArg Prod.fst hcompile, h⟩⟩⟩

/-- A submission with an overlong number is answered with a failure, although the form is
accepted. -/
theorem overlong_submission_fails :
    (Source.document dateDocument).Accepted (Service.withDefault .null) ∧
    ∃ response server,
      respond noon (some (Service.start .standard none)) (submit DateText.manyHours) =
        .ok (response, server) ∧ response.status = 500 := by
  have hreaches := reaches_submit DateText.manyHours
  have hstatus := @status_serve_iff (Service.start .standard none) noon
    (submit DateText.manyHours).body rfl (Service.vetted_start _) rfl .validate
  refine ⟨accepted_dateDocument, _, _, respond_of_reaches hreaches noon _, hstatus.mpr ?_⟩
  obtain ⟨name, hbreaks⟩ := breaks_submit_iff DateText.manyHours
  refine hbreaks.mpr (Or.inl fun htells => ?_)
  obtain ⟨o, ho⟩ := (@Validator.exists_answer_iff_tells _ .english _ _).mpr htells
  rw [Service.dateValidator_validate] at ho
  cases ho

/-- A submission with another text for the date is answered with the complaint about it. -/
theorem failure_iff_breaks_soon :
    Settings.standard.checksForms = true ∧ noon.now.offset = some 0 ∧
    ∃ s, after (some (Service.start .standard none)) [] = some s ∧
      ∃ response server, respond noon (some s) (submit "soon") = .ok (response, server) ∧
        response.status = 200 := by
  obtain ⟨s, hs, -, -, hvalidate⟩ := failure_iff_breaks .standard rfl [] noon rfl (submit "soon")
  obtain ⟨response, server, hr, -, haccepted⟩ :=
    hvalidate _ (reaches_submit "soon") (short_submit "soon") (readBody_submit "soon")
  obtain rfl : Service.start .standard none = s := Option.some.inj hs
  have hworks : ¬ Breaks noon (Service.start .standard none) (submit "soon").body .validate := by
    obtain ⟨name, hbreaks⟩ := breaks_submit_iff "soon"
    have hrejected : (Service.dateValidator name).validate .english Service.someDay
        (.object [("x", .text "soon")]) =
          .ok (.rejected [⟨"x", "invalid_date", "X must be a valid date"⟩]) := by cbv
    rw [hbreaks]
    rintro (htells | ⟨data, hdata, -⟩)
    · exact htells (Validator.exists_answer_iff_tells.mp ⟨_, hrejected⟩)
    · rw [hrejected] at hdata
      cases hdata
  obtain ⟨o, -, rfl⟩ := haccepted ⟨_, accepted_dateDocument⟩ hworks
  exact ⟨rfl, rfl, _, hs, _, server, hr, rfl⟩

end Http

end Formwork
