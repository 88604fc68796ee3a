import Formwork.Export.Sample
import Formwork.Service.Error
import Formwork.Service.Metrics
import Formwork.Submission.Validator

/-!
# Measurements

A measurement compiles a form for a number of rounds, and then validates a sample of it as often.
Every round counts as any other compilation or validation.
-/

namespace Formwork

/-- What the surroundings tell a service. -/
structure Surroundings where
  now : DateTime
  /-- How many milliseconds every compilation and validation takes. -/
  elapsed : Binary64
  /-- Megabytes of memory in use. -/
  memory : Binary64

/-- What a measurement shows. -/
structure Benchmark where
  rounds : Nat
  compilation : Timing
  validation : Timing

/-- The lack of a sample as an error of a service. -/
def NoSample.asError : NoSample → ServiceError
  | unknownKind e => .build (.unknownKind e)
  | noChoice => .noChoice

/-- What becomes of the sample of a form. -/
def trial (w : Surroundings) (form : Form) : Except ServiceError Outcome := do
  let payload ← (form.sample w.now).mapError NoSample.asError
  let v ← (Validator.named form (.ok "")).mapError .build
  (v.validate .english w.now.date (.object payload)).mapError .breakdown

/-- Some rounds of a step that may fail, with the state after the last one that did not. -/
def rounds {σ : Type} (step : σ → Except ServiceError σ) :
    Nat → σ → Except ServiceError Unit × σ
  | 0, s => (.ok (), s)
  | n + 1, s =>
    match step s with
    | .ok s => rounds step n s
    | .error e => (.error e, s)

/-- Measures a form, given how it is compiled once and how a validation is noted. -/
def measure {σ : Type} (w : Surroundings) (form : Form) (compile : σ → Except ServiceError σ)
    (validated : σ → σ) (n : Int) (s : σ) : Except ServiceError Benchmark × σ :=
  if n < 1 then (.error (.tooFewRounds n), s)
  else
    match rounds compile n.toNat s with
    | (.error e, s) => (.error e, s)
    | (.ok _, s) =>
      match trial w form with
      | .error e => (.error e, s)
      | .ok _ =>
        let timing := Timing.ofRounds w.elapsed n.toNat
        (.ok ⟨n.toNat, timing, timing⟩, Nat.repeat validated n.toNat s)

/-- The rounds of a form with metrics of their own: whether its validator is kept is told round by
round. -/
def Metrics.compileRound (w : Surroundings) (form : Form) :
    Metrics × List Bool → Except ServiceError (Metrics × List Bool)
  | (m, hits) => do
    let _ ← (Validator.build form none).mapError ServiceError.build
    return (m.compiled w.elapsed (hits.headD false), hits.drop 1)

end Formwork
