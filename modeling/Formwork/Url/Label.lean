import Formwork.Text.Search
import Formwork.Url.Punycode
import Formwork.Url.Script.Composition
import Formwork.Url.Script.Direction
import Formwork.Url.Script.Folding
import Formwork.Url.Script.Joining

/-!
# Domains

A domain is a row of labels with points between. Its characters are folded and composed first; a
label that starts with `xn--` writes another one in ASCII.
-/

namespace Formwork.Url

/-- ASCII characters that no domain contains. -/
def isForbidden (c : Char) : Bool :=
  c.toNat ≤ 32 || c.toNat == 127 || "%#/:<>?@[\\]^|".toList.contains c

/-- A label that is not all ASCII starts with no mark and has its joiners in place. -/
def isFit (label : List Char) : Bool :=
  label.all (·.toNat < 128) || (!label.head?.any isMark && joinersFit [] label)

/-- The most characters that a label may have of which some are not ASCII. -/
def longestLabel : Nat := 1000

/-- The most characters that may write such a label in ASCII. -/
def longestWritten : Nat := 2000

/-- What a folded label reads as. An ASCII form has to stand for a label that needs one. -/
def readLabel? (label : List Char) : Option (List Char) :=
  match label with
  | 'x' :: 'n' :: '-' :: '-' :: rest => do
    guard (rest.all (·.toNat < 128) && rest.length ≤ longestWritten)
    let decoded ← Punycode.decode? rest
    guard (decoded.any (128 ≤ ·.toNat) && decoded.all isSettled && composedForm decoded == decoded)
    some decoded
  | _ => if label.all (·.toNat < 128) || label.length ≤ longestLabel then some label else none

/-- The labels of a domain as they read. -/
def readDomain? (cs : List Char) : Option (List (List Char)) := do
  let folded ← cs.mapM fold?
  let cs := composedForm folded.flatten
  guard (!cs.any isForbidden)
  let labels ← (Text.splitAt '.' cs).mapM readLabel?
  guard (labels.all isFit)
  guard (!labels.any hasRight || labels.all readsOneWay)
  some labels

end Formwork.Url
