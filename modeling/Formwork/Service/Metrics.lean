import Formwork.Value.Basic

/-!
# Metrics

How often forms were compiled and submissions validated since the last reset, and how long that
took in milliseconds.
-/

namespace Formwork

structure Metrics where
  compilationTime : Binary64
  validationTime : Binary64
  compilations : Nat
  validations : Nat
  /-- Compilations for which the validator was kept. -/
  hits : Nat

namespace Metrics

/-- The duration that a number is, which is not negative. A whole number may be too large for
one. -/
def duration? : Value → Option Binary64
  | .int n =>
    let n := max n 0
    match Binary64.ofInt n with
    | .infinite _ => none
    | x => some x
  | .bool b => some (Binary64.ofInt (if b then 1 else 0))
  | .float x => some x.atLeastZero
  | _ => some Binary64.zero

def start : Metrics := ⟨Binary64.zero, Binary64.zero, 0, 0, 0⟩

/-- One more compilation. Time does not run backwards. -/
def compiled (m : Metrics) (elapsed : Binary64) (hit : Bool) : Metrics :=
  { m with
    compilationTime := m.compilationTime.add elapsed.atLeastZero
    compilations := m.compilations + 1
    hits := if hit then m.hits + 1 else m.hits }

/-- One more validation. -/
def validated (m : Metrics) (elapsed : Binary64) : Metrics :=
  { m with
    validationTime := m.validationTime.add elapsed.atLeastZero
    validations := m.validations + 1 }

def hitRate (m : Metrics) : Binary64 := Binary64.percentage m.hits m.compilations

/-- The mean of a sum, zero where nothing was summed. -/
def mean (total : Binary64) (count : Nat) : Binary64 :=
  if count = 0 then Binary64.zero else total.divNat count

def averageCompilationTime (m : Metrics) : Binary64 := mean m.compilationTime m.compilations

def averageValidationTime (m : Metrics) : Binary64 := mean m.validationTime m.validations

/-- What the metrics tell, next to the size of the cache. -/
def report (m : Metrics) (cacheSize : Int) : List (String × Value) := [
  ("compilation_time", .float m.compilationTime),
  ("validation_time", .float m.validationTime),
  ("total_compilations", .int m.compilations),
  ("total_validations", .int m.validations),
  ("cache_hit_rate", .float m.hitRate),
  ("cache_size", .int cacheSize),
  ("average_compilation_time", .float m.averageCompilationTime),
  ("average_validation_time", .float m.averageValidationTime)]

end Metrics

/-- What a row of equal measurements shows. -/
structure Timing where
  average : Binary64
  least : Binary64
  greatest : Binary64

/-- The timing of some rounds that all take the same time. -/
def Timing.ofRounds (elapsed : Binary64) (rounds : Nat) : Timing :=
  let total := Nat.repeat (Binary64.add · elapsed) rounds Binary64.zero
  ⟨total.divNat rounds, elapsed, elapsed⟩

def Timing.toValue (t : Timing) : Value :=
  .object [("avg", .float t.average), ("min", .float t.least), ("max", .float t.greatest)]

end Formwork
