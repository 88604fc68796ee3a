import Formwork.Text.Percent
import Formwork.Url.Address

/-!
# Hosts

A host is a numeric address or a domain. Outside of the web's own schemes it may also be any text
without a few characters.
-/

namespace Formwork.Url

/-- The inside of square brackets around a text. -/
def inBrackets? : List Char → Option (List Char)
  | '[' :: rest => if rest.getLast? == some ']' then some rest.dropLast else none
  | _ => none

/-- A host of one of the web's own schemes. -/
def isWebHost (cs : List Char) : Bool :=
  if cs.head? == some '[' then (inBrackets? cs).any isAddress128
  else
    match (Text.unescape? cs).bind readDomain? with
    | some labels =>
      labels != [[]] && (!endsInNumber labels || isAddress32 labels)
    | none => false

/-- Characters that no host of another scheme contains. -/
def isForbiddenElsewhere (c : Char) : Bool := "\x00\t\n\r #/:<>?@[\\]^|".toList.contains c

/-- A host of another scheme. -/
def isOtherHost (cs : List Char) : Bool :=
  if cs.head? == some '[' then (inBrackets? cs).any isAddress128
  else !cs.any isForbiddenElsewhere

end Formwork.Url
