import Formwork.Number.Power
import Formwork.Text.Digit
import Formwork.Url.Label

/-!
# Numeric addresses

An address of 32 bits is one to four numbers with points between, of which the last fills the bits
that the others leave. An address of 128 bits is eight groups of 16 bits with colons between; one
row of zero groups may be left out, and the last two groups may be written as an address of 32 bits.
-/

namespace Formwork.Url

/-- A number that is decimal, octal behind a zero, or hexadecimal behind `0x`. -/
def addressNumber? (cs : List Char) : Option Nat :=
  match cs with
  | [] => none
  | '0' :: 'x' :: rest => Text.baseValue? 16 rest
  | '0' :: 'X' :: rest => Text.baseValue? 16 rest
  | ['0'] => some 0
  | '0' :: rest => Text.baseValue? 8 rest
  | _ => Text.baseValue? 10 cs

/-- The labels without an empty one at the end. -/
def withoutRoot (labels : List (List Char)) : List (List Char) :=
  if labels.getLast? == some [] then labels.dropLast else labels

/-- Whether the last label is a number, so that the domain has to be an address. -/
def endsInNumber (labels : List (List Char)) : Bool :=
  if labels == [[]] then false
  else
    match (withoutRoot labels).getLast? with
    | some last => (!last.isEmpty && last.all Char.isDigit) || (addressNumber? last).isSome
    | none => false

/-- The labels form an address of 32 bits. -/
def isAddress32 (labels : List (List Char)) : Bool :=
  match (withoutRoot labels).mapM addressNumber? with
  | some numbers =>
    numbers.length ≤ 4
      && numbers.dropLast.all (· ≤ 255)
      && numbers.getLast?.any (· < twoPow (8 * (5 - numbers.length)))
  | none => false

/-! ## Addresses of 128 bits -/

/-- A part of a dotted address inside one of 128 bits: decimal, at most 255, no leading zero. -/
def isOctet (cs : List Char) : Bool :=
  !cs.isEmpty && cs.length ≤ 3 && cs.all Char.isDigit && (cs.length == 1 || cs.head? != some '0')
    && (Text.baseValue? 10 cs).any (· ≤ 255)

def isDotted (cs : List Char) : Bool :=
  let parts := Text.splitAt '.' cs
  parts.length == 4 && parts.all isOctet

def isGroup (cs : List Char) : Bool :=
  !cs.isEmpty && cs.length ≤ 4 && (Text.baseValue? 16 cs).isSome

/-- How many groups of 16 bits stand between colons; a dotted address counts as two. -/
def groupCount? (dottedEnd : Bool) (cs : List Char) : Option Nat :=
  if cs.isEmpty then some 0
  else
    let parts := Text.splitAt ':' cs
    if dottedEnd && parts.getLast?.any isDotted then
      if parts.dropLast.all isGroup then some (parts.length + 1) else none
    else if parts.all isGroup then some parts.length else none

/-- The text before and behind the first two colons in a row. -/
def cutAtGap? : List Char → Option (List Char × List Char)
  | [] => none
  | ':' :: ':' :: rest => some ([], rest)
  | c :: rest => (cutAtGap? rest).map fun (l, r) => (c :: l, r)

/-- An address of 128 bits. Two colons in a row stand for at least one group. -/
def isAddress128 (cs : List Char) : Bool :=
  match cutAtGap? cs with
  | none => groupCount? true cs == some 8
  | some (l, r) =>
    match groupCount? false l, groupCount? true r with
    | some m, some n => m + n ≤ 7
    | _, _ => false

end Formwork.Url
