import Formwork.Number.Binary64
import Formwork.Text.Digit

/-!
# Shortest decimals

The text of a binary64 number is the shortest decimal that rounds to it, and of those the nearest.
A decimal rounds to the number iff it lies between the midpoints to the two neighbours, the
midpoints included when the number's last bit is even.
-/

namespace Formwork

/-- A decimal: digits and the power of ten that the last of them counts. -/
structure Decimal where
  digits : Nat
  exponent : Int
deriving DecidableEq

namespace Decimal

/-- The same decimal without trailing zeros. -/
def normalize (d : Decimal) : Decimal :=
  if h : d.digits = 0 then ⟨0, 0⟩
  else if d.digits % 10 = 0 then normalize ⟨d.digits / 10, d.exponent + 1⟩ else d
termination_by d.digits
decreasing_by exact Nat.div_lt_self (Nat.pos_of_ne_zero h) (by decide)

end Decimal

/-- The decimal exponent of the leading digit of `units * 2^-1074`. -/
def leadingExponent (units : Nat) : Int :=
  if unitsPerOne ≤ units then (Text.decimalDigits (units / unitsPerOne)).length - 1
  else -(Text.decimalDigits (unitsPerOne / units)).length

/-- Four times the distance from a magnitude to its midpoint with the next one above. -/
def gapAbove (units : Nat) : Nat := 2 * twoPow (units.log2 - 52)

/-- Four times the distance from a magnitude to its midpoint with the next one below, which is
half as far below a power of two. -/
def gapBelow (units : Nat) : Nat :=
  if units = twoPow units.log2 && 52 < units.log2 then twoPow (units.log2 - 52) else gapAbove units

/-- The decimals of a fixed last place next to a magnitude that round to it, the nearer first. -/
def gridHit? (units : Nat) (place : Int) : Option Decimal :=
  let scale := tenPow (-place).toNat
  let grid := tenPow place.toNat * unitsPerOne
  let even := (units >>> (units.log2 - 52)) % 2 == 0
  let low := (4 * units - gapBelow units) * scale
  let high := (4 * units + gapAbove units) * scale
  let hit (c : Nat) : Bool :=
    let x := 4 * (c * grid)
    if even then low ≤ x && x ≤ high else low < x && x < high
  let below := units * scale / grid
  let rest := units * scale % grid
  let nearAbove := grid < 2 * rest || (grid == 2 * rest && below % 2 == 1)
  let order := if nearAbove then [below + 1, below] else [below, below + 1]
  ((order.filter (0 < ·)).find? hit).map fun c => Decimal.mk c place

/-- The shortest decimal that rounds to a positive magnitude, and of those the nearest. -/
def shortestDecimal (units : Nat) : Decimal :=
  let lead := leadingExponent units
  let places := (List.range 18).map fun (n : Nat) => lead - n
  ((places.findSome? (gridHit? units)).getD ⟨0, 0⟩).normalize

namespace Decimal

/-- Digits around a point, with at least one digit on each side, or with an exponent of two digits
or more when the leading digit stands at `10^16` and above or at `10^-5` and below. -/
def text (d : Decimal) : List Char :=
  let ds := Text.decimalDigits d.digits
  let lead : Int := d.exponent + ds.length - 1
  if -5 < lead && lead < 16 then
    if d.exponent ≥ 0 then ds ++ List.replicate d.exponent.toNat '0' ++ ['.', '0']
    else if lead ≥ 0 then ds.take (lead.toNat + 1) ++ '.' :: ds.drop (lead.toNat + 1)
    else '0' :: '.' :: (List.replicate (-lead - 1).toNat '0' ++ ds)
  else
    let mantissa := match ds with
      | [c] => [c]
      | c :: rest => c :: '.' :: rest
      | [] => []
    let power := Text.decimalDigits lead.natAbs
    mantissa ++ 'e' :: (if lead < 0 then '-' else '+') ::
      (List.replicate (2 - power.length) '0' ++ power)

end Decimal

/-- The text of a finite number, which always shows a point or an exponent. -/
def Finite64.text (x : Finite64) : String :=
  let magnitude := if x.units = 0 then ['0', '.', '0'] else (shortestDecimal x.units).text
  String.ofList (if x.negative then '-' :: magnitude else magnitude)

/-- The text of a number. -/
def Binary64.text : Binary64 → String
  | .finite x => x.text
  | .infinite false => "inf"
  | .infinite true => "-inf"
  | .nan _ => "nan"

end Formwork
