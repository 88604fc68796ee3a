import Formwork.Value.Equality

/-!
# Members of a set

A set has each of its members once. Sets of numbers keep their members in a table, where the place
of a number follows from its value, and list them by their places; other sets list their members as
they came.
-/

namespace Formwork.Value

/-- The members without those that equal an earlier one. -/
def distinct (members : List Value) : List Value :=
  members.foldl (fun seen v => if seen.any (eqv v) then seen else seen ++ [v]) []

/-! ## Keys -/

/-- The number of different keys of magnitudes, a prime. -/
def keyModulus : Nat := twoPow 61 - 1

/-- The key of a number: its residue with its sign, where `2^-1074` counts as `2^24`, and -1 is left
out. Infinities have keys of their own. -/
def numberKey? : Value → Option Int
  | float (.infinite negative) => some (if negative then -314159 else 314159)
  | v => v.magnitude?.map fun units =>
    let residue := units.natAbs % keyModulus * twoPow 24 % keyModulus
    if units < 0 then (if residue = 1 then -2 else -(residue : Int)) else residue

/-! ## The table -/

/-- Places with the members that are there; the number of places is a power of two. -/
structure MemberTable where
  places : List (Option (Int × Value))

namespace MemberTable

def empty (size : Nat) : MemberTable := ⟨List.replicate size none⟩

def size (t : MemberTable) : Nat := t.places.length

def isFree (t : MemberTable) (place : Nat) : Bool := (t.places[place]?.getD none).isNone

/-- The places that a search looks at around one: also nine behind it, if there are so many. -/
def around (t : MemberTable) (place : Nat) : List Nat :=
  if place + 9 < t.size then (List.range 10).map (place + ·) else [place]

/-- The first free place for a key. The search starts at the residue of the key and jumps on, for
which it uses up the bits of the key. -/
def freePlace (t : MemberTable) : (fuel place bits : Nat) → Nat
  | 0, place, _ => place
  | fuel + 1, place, bits =>
    match (t.around place).find? t.isFree with
    | some free => free
    | none =>
      let bits := bits / 32
      t.freePlace fuel ((place * 5 + 1 + bits) % t.size) bits

/-- The table with one more member. Thirteen jumps use up a key, and then every place has its
turn. -/
def insert (t : MemberTable) (member : Int × Value) : MemberTable :=
  let bits := (member.1 % (twoPow 64 : Int)).toNat
  ⟨t.places.set (t.freePlace (13 + t.size) (bits % t.size) bits) (some member)⟩

/-- The members by their places. -/
def members (t : MemberTable) : List (Int × Value) := t.places.filterMap id

/-- The size of a table in which four times as many members have room. -/
def roomySize : (fuel count size : Nat) → Nat
  | 0, _, size => size
  | fuel + 1, count, size => if 4 * count < size then size else roomySize fuel count (2 * size)

/-- The table with one more member, made larger once three fifths of it are full. -/
def add (t : MemberTable) (member : Int × Value) : MemberTable :=
  let t := t.insert member
  let count := t.members.length
  if 5 * count < 3 * (t.size - 1) then t
  else t.members.foldl insert (empty (roomySize (count + 1) count 8))

end MemberTable

/-- The set of some members. -/
def ofMembers (members : List Value) : Value :=
  let members := distinct members
  match members.mapM fun v => v.numberKey?.map (·, v) with
  | some keyed =>
    set ((keyed.foldl MemberTable.add (MemberTable.empty 8)).members.map (·.2))
  | none => set members

end Formwork.Value
