import Formwork.Number.Count
import Formwork.Submission.Validator

/-!
# Kept validators

A cache keeps the validators that were used last, up to its capacity, under the names of their
forms. One that is used moves to the end; where there is no room the first one goes.
-/

namespace Formwork

structure Cache where
  capacity : Count
  /-- Validators by name, the one used last at the end. -/
  entries : List (String × Validator)
  hits : Nat
  misses : Nat

namespace Cache

def empty (capacity : Count) : Cache := ⟨capacity, [], 0, 0⟩

def names (c : Cache) : List String := c.entries.map (·.1)

def size (c : Cache) : Nat := c.entries.length

def contains (c : Cache) (name : String) : Bool := (c.entries.lookup name).isSome

/-- The entries without one. -/
def without (name : String) (entries : List (String × Validator)) : List (String × Validator) :=
  entries.filter (·.1 != name)

/-- An entry was used. -/
def hit (c : Cache) (name : String) (v : Validator) : Cache :=
  { c with entries := without name c.entries ++ [(name, v)], hits := c.hits + 1 }

/-- A new entry, with room made for it. -/
def miss (c : Cache) (name : String) (v : Validator) : Cache :=
  { c with
    entries := c.entries.drop (c.entries.length + 1 - c.capacity.1) ++ [(name, v)]
    misses := c.misses + 1 }

/-- The validator of a form under its name, whether it was kept, and the cache afterwards. A form
without a validator leaves the cache as it is. -/
def lookup (c : Cache) (name : String) (form : Form) :
    Except BuildError (Validator × Bool × Cache) :=
  match c.entries.lookup name with
  | some v => .ok (v, true, c.hit name v)
  | none => (Validator.build form (some name)).map fun v => (v, false, c.miss name v)

/-- No entries and no counts. -/
def clear (c : Cache) : Cache := { c with entries := [], hits := 0, misses := 0 }

/-- The share of hits in hundredths, zero before the first lookup. -/
def hitRate (c : Cache) : Binary64 := Binary64.percentage c.hits (c.hits + c.misses)

/-- What the cache tells about itself. -/
def report (c : Cache) : List (String × Value) := [
  ("size", .int c.size),
  ("max_size", .int c.capacity.1),
  ("hit_rate", .float c.hitRate),
  ("hits", .int c.hits),
  ("misses", .int c.misses)]

end Cache

end Formwork
