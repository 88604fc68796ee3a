/-!
# Counts

Numbers of things of which there is at least one.
-/

namespace Formwork

abbrev Count : Type := { n : Nat // 0 < n }

/-- A positive integer as a count. -/
def Count.ofInt? (n : Int) : Option Count :=
  if h : 0 < n then some ⟨n.toNat, by omega⟩ else none

end Formwork
