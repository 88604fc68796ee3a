import Formwork.Text.Alphabet
import Formwork.Text.Blank
import Formwork.Text.Digit

/-!
# Tokens of a date text

Words, numbers and single signs. A point keeps a run of letters or digits together for as long as
it may belong to it; a run that turns out to be more than one decimal is taken apart again.
-/

namespace Formwork.DateText

abbrev Token := List Char

/-- What a run of characters has been so far. -/
inductive Run where
  | word
  | number
  | dottedWord
  | dottedNumber
deriving DecidableEq

/-- A token still being read, its last character first. -/
structure Partial where
  run : Run
  /-- Whether a letter run has gone on past its first character. -/
  letters : Bool
  chars : List Char

namespace Partial

/-- The run with one more character, if the character belongs to it. -/
def extend? (p : Partial) (c : Char) : Option Partial :=
  let more (run : Run) (letters : Bool) : Option Partial := some ⟨run, letters, c :: p.chars⟩
  match p.run with
  | .word =>
    if Text.isLetter c then more .word true
    else if c == '.' then more .dottedWord true
    else none
  | .number =>
    if Text.isDigitLike c then more .number p.letters
    else if c == '.' || (c == ',' && 2 ≤ p.chars.length) then more .dottedNumber p.letters
    else none
  | .dottedWord =>
    if c == '.' || Text.isLetter c then more .dottedWord true
    else if Text.isDigitLike c && p.chars.head? == some '.' then more .dottedNumber true
    else none
  | .dottedNumber =>
    if c == '.' || Text.isDigitLike c then more .dottedNumber p.letters
    else if Text.isLetter c && p.chars.head? == some '.' then more .dottedWord p.letters
    else none

/-- The pieces between points and commas, and the points and commas. -/
def pieces (cs : List Char) : List Token :=
  let add (c : Char) (done : List Token) : List Token :=
    if c == '.' || c == ',' then [c] :: done
    else match done with
      | (d :: ds) :: rest => if d == '.' || d == ',' then [c] :: done else (c :: d :: ds) :: rest
      | _ => [c] :: done
  cs.foldr add []

/-- The tokens of a finished run. One that was ended by a character rather than by the end of the
text counts its last letter as going on. -/
def tokens (p : Partial) (atEnd : Bool) : List Token :=
  let cs := p.chars.reverse
  let dotted := p.run == .dottedWord || p.run == .dottedNumber
  let letters := p.letters || (p.run == .dottedWord && !atEnd)
  let last := p.chars.head?
  if dotted && (letters || 1 < cs.count '.' || last == some '.' || last == some ',') then pieces cs
  else if p.run == .dottedNumber && !cs.contains '.' then
    [cs.map fun c => if c == ',' then '.' else c]
  else [cs]

end Partial

/-- The tokens before, the latest first, and the run being read. -/
structure Scan where
  done : List Token
  current : Option Partial

namespace Scan

/-- A character that begins a run or stands alone. Any blank is the token of one space. -/
def start (done : List Token) (c : Char) : Scan :=
  if Text.isLetter c then ⟨done, some ⟨.word, false, [c]⟩⟩
  else if Text.isDigitLike c then ⟨done, some ⟨.number, false, [c]⟩⟩
  else if Text.isBlank c then ⟨[' '] :: done, none⟩
  else ⟨[c] :: done, none⟩

def feed (s : Scan) (c : Char) : Scan :=
  match s.current with
  | none => start s.done c
  | some p =>
    match p.extend? c with
    | some p => ⟨s.done, some p⟩
    | none => start ((p.tokens false).reverse ++ s.done) c

def finish (s : Scan) : List Token :=
  s.done.reverse ++ ((s.current.map (·.tokens true)).getD [])

end Scan

/-- The tokens of a text, in which NUL characters do not count. -/
def tokens (text : List Char) : List Token :=
  ((text.filter (· != '\x00')).foldl Scan.feed ⟨[], none⟩).finish

end Formwork.DateText
