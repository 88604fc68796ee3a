import Formwork.Value.Basic

/-!
# Equality of values

Values are compared without conversion: a Boolean equals only a Boolean, and numbers are equal by
value whichever their kind. Members of a container are compared more loosely, there a Boolean
counts as the number 0 or 1, and a NaN equals itself.
-/

namespace Formwork.Value

/-- Equal as binary64 numbers. A NaN equals none. -/
def floatEqv : Binary64 → Binary64 → Bool
  | .finite x, .finite y => x.scaled == y.scaled
  | .infinite a, .infinite b => a == b
  | _, _ => false

/-- The exact value, in units of `2^-1074`, of what counts as a finite number in a container. -/
def magnitude? : Value → Option Int
  | bool b => some (if b then unitsPerOne else 0)
  | int n => some (n * unitsPerOne)
  | float (.finite x) => some x.scaled
  | _ => none

/-- Equal as members of a container, for two values that are no containers themselves. -/
def scalarEqv : Value → Value → Bool
  | null, null => true
  | missing, missing => true
  | text s, text t => s == t
  | date d, date e => d == e
  | dateTime t, dateTime u => t.eqv u
  | float x, float y => x == y || floatEqv x y
  | v, w =>
    match v.magnitude?, w.magnitude? with
    | some a, some b => a == b
    | _, _ => false

mutual

/-- Equal as members of a container. Objects are equal whatever the order of their keys. -/
def eqv : Value → Value → Bool
  | list xs, list ys => eqvAll xs ys
  | tuple xs, tuple ys => eqvAll xs ys
  | set xs, set ys => xs.length == ys.length && eqvEach xs ys
  | object xs, object ys => xs.length == ys.length && eqvEntries xs ys
  | v, w => scalarEqv v w
termination_by structural v => v

/-- Equal one by one. -/
def eqvAll : List Value → List Value → Bool
  | [], [] => true
  | x :: xs, y :: ys => eqv x y && eqvAll xs ys
  | _, _ => false
termination_by structural xs => xs

/-- Each equal to some value of another list. -/
def eqvEach : List Value → List Value → Bool
  | [], _ => true
  | x :: xs, ys => ys.any (eqv x) && eqvEach xs ys
termination_by structural xs => xs

/-- Each key bound to an equal value. -/
def eqvEntries : List (String × Value) → List (String × Value) → Bool
  | [], _ => true
  | (k, x) :: xs, ys => (ys.lookup k).any (eqv x) && eqvEntries xs ys
termination_by structural xs => xs

end

/-- Equality without conversion. -/
def strictEq (v w : Value) : Bool :=
  match v, w with
  | bool a, bool b => a == b
  | bool _, _ => false
  | _, bool _ => false
  | int m, int n => m == n
  | int m, float (.finite y) => m * unitsPerOne == y.scaled
  | float (.finite x), int n => x.scaled == n * unitsPerOne
  | float x, float y => floatEqv x y
  | v, w => eqv v w

/-- Whether a value strictly equals some member of a list. -/
def isAmong (v : Value) (ws : List Value) : Bool := ws.any (strictEq v)

end Formwork.Value
