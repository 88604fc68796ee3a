import Formwork.Number.Power

/-!
# Punycode

A label with characters beyond ASCII is written in ASCII: its ASCII characters, a hyphen, and then
for each other character, in the order of code points, how far a counter of pairs (code point,
position) moves on to reach it. The distances are numbers in base 36 whose digits end by
themselves: a digit below a threshold is the last one.
-/

namespace Formwork.Url.Punycode

/-- The value of a digit in base 36. Letters of either case come before the ten digits. -/
def digit? (c : Char) : Option Nat :=
  if c.isDigit then some (c.toNat - 48 + 26)
  else if c.isAlpha then some (c.toLower.toNat - 97)
  else none

/-- How often the distance is cut down, and what is left of it. -/
def cutDown (rounds delta : Nat) : Nat × Nat :=
  if 455 < delta then cutDown (rounds + 1) (delta / 35) else (rounds, delta)
termination_by delta
decreasing_by omega

/-- The bias that the distances so far make likely for the next one. -/
def adapt (delta length : Nat) (first : Bool) : Nat :=
  let delta := if first then delta / 700 else delta / 2
  let (rounds, rest) := cutDown 0 (delta + delta / length)
  36 * rounds + 36 * rest / (rest + 38)

/-- Where the reading of a label stands. -/
structure Reader where
  /-- The characters so far. -/
  label : List Char
  /-- The counter when the last distance was complete. -/
  codePoint : Nat
  position : Nat
  bias : Nat
  /-- The number of digits of the distance that is being read, its value and the next weight. -/
  digits : Nat
  distance : Nat
  weight : Nat

namespace Reader

def start (label : List Char) : Reader := ⟨label, 128, 0, 72, 0, 0, 1⟩

/-- The next digit ends the number if it is below this. -/
def threshold (r : Reader) : Nat := min 26 (max 1 (36 * (r.digits + 1) - r.bias))

/-- The counter moves on by the distance, and a character is put in. -/
def insert? (r : Reader) : Option Reader :=
  let length := r.label.length + 1
  let moved := r.position + r.distance
  let codePoint := r.codePoint + moved / length
  if Nat.isValidChar codePoint then
    let bias := adapt r.distance length (r.position == 0)
    some ⟨r.label.insertIdx (moved % length) (Char.ofNat codePoint), codePoint, moved % length + 1,
      bias, 0, 0, 1⟩
  else none

/-- One more digit. The counter and the weight have 32 bits. -/
def step? (r : Reader) (c : Char) : Option Reader := do
  let d ← digit? c
  let r' := { r with distance := r.distance + d * r.weight }
  guard (r'.position + r'.distance < twoPow 32)
  if d < r.threshold then r'.insert?
  else
    let weight := r.weight * (36 - r.threshold)
    guard (weight < twoPow 32)
    some { r' with digits := r.digits + 1, weight := weight }

end Reader

/-- The label that a text in ASCII writes. The last hyphen ends its ASCII characters, if it has
any. -/
def decode? (cs : List Char) : Option (List Char) := do
  let distances := (cs.reverse.takeWhile (· != '-')).reverse
  let basic := cs.take (cs.length - distances.length - 1)
  let r ← (if basic.isEmpty then cs else distances).foldlM Reader.step? (Reader.start basic)
  guard (r.digits == 0)
  some r.label

end Formwork.Url.Punycode
