import Formwork.Export.JsonSchema
import Formwork.Form.Reader
import Formwork.Service.Cache
import Formwork.Service.Measurement
import Formwork.Service.Settings

/-!
# The service

A service compiles forms into validators and takes submissions. It keeps validators in its cache,
counts and times its work, and speaks one language. Every operation returns the service afterwards.
-/

namespace Formwork

/-- A form, or the document of one. -/
inductive Source where
  | document (v : Value)
  | form (f : Form)

/-- The form of a source, or all faults of its document. -/
def Source.form? : Source → Except FormError Form
  | document v =>
    match (Form.read v).toExcept with
    | .ok f => .ok f
    | .error fs => .error (.invalid (fs.map Issue.malformed))
  | form f => .ok f

structure Service where
  settings : Settings
  cache : Cache
  metrics : Metrics
  locale : Locale

namespace Service

/-- A new service. A cache that it is given is used unless it is empty. -/
def start (settings : Settings) (cache : Option Cache) : Service :=
  let fresh := Cache.empty settings.capacity
  { settings
    cache := match cache with
      | some c => if c.entries.isEmpty then fresh else c
      | none => fresh
    metrics := Metrics.start
    locale := Locale.resolve (some settings.localeTag) }

/-! ## Compiling forms -/

/-- Refuses a form with issues, if the service checks forms. -/
def check (s : Service) (form : Form) : Except ServiceError Unit :=
  if s.settings.checksForms then form.check.mapError CheckError.asError else .ok ()

/-- The validator of a form under its name, from the cache or new, and the cache afterwards. Only
the cache needs the name first. -/
def fetch (s : Service) (name : Except Value.NoJson String) (form : Form) :
    Except ServiceError (Validator × Bool × Cache) :=
  if s.settings.keepsValidators then
    ((name.mapError BuildError.noJson).bind (s.cache.lookup · form)).mapError .build
  else ((Validator.named form name).map fun v => (v, false, s.cache)).mapError .build

/-- The service after a compilation. -/
def compiled (s : Service) (w : Surroundings) (hit : Bool) (cache : Cache) : Service :=
  { s with cache, metrics := s.metrics.compiled w.elapsed hit }

/-- The validator of a form. What fails is counted as well. -/
def compile (s : Service) (w : Surroundings) (source : Source) :
    Except ServiceError Validator × Service :=
  let attempt : Except ServiceError (Validator × Bool × Cache) := do
    let form ← source.form?.mapError .form
    s.check form
    s.fetch form.contentHash form
  match attempt with
  | .ok (v, hit, cache) => (.ok v, s.compiled w hit cache)
  | .error e => (.error e, s.compiled w false s.cache)

/-- The service after a validation. -/
def validated (s : Service) (w : Surroundings) : Service :=
  { s with metrics := s.metrics.validated w.elapsed }

/-- What becomes of a submission to a form. -/
def validate (s : Service) (w : Surroundings) (source : Source) (submission : Value) :
    Except ServiceError Outcome × Service :=
  match s.compile w source with
  | (.ok v, s) =>
    match v.validate s.locale w.now.date submission with
    | .ok outcome => (.ok outcome, s.validated w)
    | .error e => (.error (.breakdown e), s)
  | (.error e, s) => (.error e, s)

/-! ## Measuring -/

/-- How many rounds a measurement takes: those asked for, or the usual ones where none are. -/
def roundsFor (s : Service) (rounds : Option Int) : Int :=
  match rounds with
  | some n => if n = 0 then s.settings.rounds.1 else n
  | none => s.settings.rounds.1

/-- One round: a compilation of a form of which the name and the check are known. -/
def compileRound (w : Surroundings) (checked : Except ServiceError Unit)
    (name : Except Value.NoJson String) (form : Form) (s : Service) :
    Except ServiceError Service := do
  checked
  let (_, hit, cache) ← s.fetch name form
  return s.compiled w hit cache

/-- Measures compilation and validation of a form. -/
def benchmark (s : Service) (w : Surroundings) (source : Source) (rounds : Option Int) :
    Except ServiceError Benchmark × Service :=
  match source.form? with
  | .error e => (.error (.form e), s)
  | .ok form =>
    measure w form (compileRound w (s.check form) form.contentHash form) (·.validated w)
      (s.roundsFor rounds) s

/-! ## Everything else -/

/-- The schema of a form. -/
def jsonSchema (s : Service) (source : Source) (title : Option String) (strict : Bool) :
    Except ServiceError JsonSchema := do
  let form ← source.form?.mapError .form
  s.check form
  (form.jsonSchema title strict).mapError fun e => .build (.unknownKind e)

def clearCache (s : Service) : Service := { s with cache := s.cache.clear }

def resetMetrics (s : Service) : Service := { s with metrics := Metrics.start }

/-- The service in the language of a tag. -/
def speak (s : Service) (tag : Option String) : Service := { s with locale := Locale.resolve tag }

/-- What the metrics tell. -/
def report (s : Service) : List (String × Value) := s.metrics.report s.cache.size

end Service

end Formwork
