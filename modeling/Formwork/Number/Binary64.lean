import Formwork.Number.Rounding

/-!
# Binary64 numbers

A finite number is a sign and a count of units of `2^-1074`; sums, products and quotients are
computed exactly on the counts and rounded once.
-/

namespace Formwork

/-- A finite binary64 number. Zero has both signs. -/
structure Finite64 where
  /-- Below zero, or the negative zero. -/
  negative : Bool
  /-- The magnitude in units of `2^-1074`. -/
  units : Nat
  representable : Representable units
deriving DecidableEq

/-- A binary64 number. A mark tells one NaN from another. -/
inductive Binary64 where
  | finite (x : Finite64)
  | infinite (negative : Bool)
  | nan (mark : Nat)
deriving DecidableEq

namespace Finite64

/-- The signed count of units. -/
def scaled (x : Finite64) : Int := if x.negative then -(x.units : Int) else x.units

/-- A whole number, if it is one. -/
def whole? (x : Finite64) : Option Int :=
  if x.units % unitsPerOne = 0 then
    some (if x.negative then -((x.units / unitsPerOne : Nat) : Int) else (x.units / unitsPerOne : Nat))
  else none

end Finite64

namespace Binary64

/-- A magnitude in units with a sign; too large a magnitude is infinite. -/
def ofUnits (negative : Bool) (units : Nat) : Binary64 :=
  if h : Representable units then .finite ⟨negative, units, h⟩ else .infinite negative

/-- The number nearest to a ratio of units. -/
def ofRatio (negative : Bool) (num den : Nat) : Binary64 :=
  ofUnits negative (nearestUnits num den)

def zero : Binary64 := .finite ⟨false, 0, representable_zero⟩

def isFinite : Binary64 → Bool
  | .finite _ => true
  | _ => false

/-- The number nearest to an integer. -/
def ofInt (n : Int) : Binary64 := ofRatio (n < 0) (n.natAbs * unitsPerOne) 1

/-- The number nearest to a quotient of an integer by a positive one. -/
def ofQuotient (n : Int) (d : Nat) : Binary64 := ofRatio (n < 0) (n.natAbs * unitsPerOne) d

/-- Zero sums are positive, but for two negative zeros. -/
def add : Binary64 → Binary64 → Binary64
  | .finite x, .finite y =>
    let s := x.scaled + y.scaled
    if s = 0 then ofUnits (x.negative && y.negative) 0 else ofRatio (s < 0) s.natAbs 1
  | .nan m, _ => .nan m
  | _, .nan m => .nan m
  | .infinite a, .infinite b => if a == b then .infinite a else .nan 0
  | .infinite a, .finite _ => .infinite a
  | .finite _, .infinite b => .infinite b

def mul : Binary64 → Binary64 → Binary64
  | .finite x, .finite y =>
    ofRatio (x.negative != y.negative) (x.units * y.units) unitsPerOne
  | .nan m, _ => .nan m
  | _, .nan m => .nan m
  | .infinite a, .infinite b => .infinite (a != b)
  | .infinite a, .finite y => if y.units = 0 then .nan 0 else .infinite (a != y.negative)
  | .finite x, .infinite b => if x.units = 0 then .nan 0 else .infinite (x.negative != b)

/-- Division by a positive count, which is first rounded to a binary64 number itself. -/
def divNat (x : Binary64) (d : Nat) : Binary64 :=
  match x, ofInt d with
  | .finite x, .finite y => ofRatio x.negative (x.units * unitsPerOne) y.units
  | .finite x, _ => ofUnits x.negative 0
  | x, _ => x

/-- The greater of a number and zero; a NaN and the negative zero stay. -/
def atLeastZero : Binary64 → Binary64
  | .finite x => if x.negative && x.units != 0 then zero else .finite x
  | .infinite true => zero
  | x => x

/-- The share of a part in a whole, in hundredths; zero of nothing. -/
def percentage (part whole : Nat) : Binary64 :=
  if whole = 0 then zero else (ofQuotient part whole).mul (ofInt 100)

end Binary64

end Formwork
