/-!
# Ranges of characters

Classes of characters are given by the ranges of their code points.
-/

namespace Formwork.Text

/-- Whether a character lies in one of some ranges, whose ends are included. -/
def inRanges (ranges : List (Nat × Nat)) (c : Char) : Bool :=
  ranges.any fun r => r.1 ≤ c.toNat && c.toNat ≤ r.2

end Formwork.Text
