import Formwork.Text.Digit

/-!
# Escaped bytes

A text can write the bytes of its characters with `%` and two hexadecimal digits each.
-/

namespace Formwork.Text

/-- Bytes with `%` and two hexadecimal digits read as the byte that they write. -/
def percentDecode : List UInt8 → List UInt8
  | 0x25 :: a :: b :: rest =>
    match baseValue? 16 [Char.ofNat a.toNat, Char.ofNat b.toNat] with
    | some n => n.toUInt8 :: percentDecode rest
    | none => 0x25 :: percentDecode (a :: b :: rest)
  | x :: rest => x :: percentDecode rest
  | [] => []

/-- The text that remains when escaped bytes are read, if it is one. -/
def unescape? (cs : List Char) : Option (List Char) :=
  let bytes := percentDecode (String.ofList cs).toUTF8.toList
  (String.fromUTF8? ⟨bytes.toArray⟩).map String.toList

end Formwork.Text
