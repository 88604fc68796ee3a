import Formwork.Document.Fault
import Formwork.Document.IntegerText
import Formwork.Number.Count

/-!
# Reading documents

A reading is the thing that a document describes, or all the faults of the document in the order of
its parts. Readings of several parts are joined by `<*>`, which keeps the faults of both sides.
-/

namespace Formwork

/-- What a document describes, or its faults. -/
def Reading (α : Type) : Type := Except (List Fault) α

namespace Reading

variable {α β : Type}

def ok (a : α) : Reading α := Except.ok a

def faults (fs : List Fault) : Reading α := Except.error fs

/-- A single fault at the place of a value. -/
def fail (kind : FaultKind) (found : Value) : Reading α := faults [⟨[], kind, found⟩]

def map (f : α → β) : Reading α → Reading β
  | .ok a => ok (f a)
  | .error fs => faults fs

/-- A function and its argument, with the faults of both. -/
def apply : Reading (α → β) → Reading α → Reading β
  | .ok f, .ok a => ok (f a)
  | .ok _, .error gs => faults gs
  | .error fs, .ok _ => faults fs
  | .error fs, .error gs => faults (fs ++ gs)

instance : Applicative Reading where
  pure := ok
  map := map
  seq f a := apply f (a ())

/-- The reading of a part, whose faults lie one step deeper in the whole. -/
def inside (step : PathStep) : Reading α → Reading α
  | .ok a => ok a
  | .error fs => faults (fs.map fun f => { f with path := step :: f.path })

/-- A further condition on what was read. -/
def check (r : Reading α) (bad : α → Option FaultKind) (found : Value) : Reading α :=
  match r with
  | .ok a => match bad a with
    | some kind => fail kind found
    | none => ok a
  | .error fs => faults fs

def toExcept (r : Reading α) : Except (List Fault) α := r

end Reading

namespace Document

variable {α : Type}

/-! ## Scalars -/

def text : Value → Reading String
  | .text s => .ok s
  | v => .fail .notText v

def nonEmptyText (v : Value) : Reading String :=
  (text v).check (fun s => if s.isEmpty then some .emptyText else none) v

/-- Whether a number fits into 64 bits with a sign. -/
def fitsInt64 (n : Int) : Bool := -(twoPow 63 : Int) ≤ n && n < twoPow 63

/-- The Boolean that one of the usual words stands for, in any case. -/
def boolWord? (s : String) : Option Bool :=
  let w := Text.lowerAscii s
  if ["0", "off", "f", "false", "n", "no"].contains w then some false
  else if ["1", "on", "t", "true", "y", "yes"].contains w then some true
  else none

/-- A Boolean, one of the usual words for it, or the number 0 or 1. -/
def bool : Value → Reading Bool
  | .bool b => .ok b
  | .text s =>
    match boolWord? s with
    | some b => .ok b
    | none => .fail .unclearBool (.text s)
  | .int n =>
    if n = 0 then .ok false
    else if n = 1 then .ok true
    else .fail (if fitsInt64 n then .unclearBool else .notBool) (.int n)
  | .float x =>
    match x with
    | .finite f =>
      match f.whole? with
      | some 0 => .ok false
      | some 1 => .ok true
      | some n => .fail (if n.natAbs < twoPow 63 then .unclearBool else .notBool) (.float x)
      | none => .fail .notBool (.float x)
    | _ => .fail .notBool (.float x)
  | v => .fail .notBool v

/-- An integer, a Boolean as 0 or 1, a whole binary64 number, or the text of an integer. -/
def int : Value → Reading Int
  | .int n => .ok n
  | .bool b => .ok (if b then 1 else 0)
  | .float x =>
    match x with
    | .finite f =>
      match f.whole? with
      | some n => if n.natAbs < twoPow 63 then .ok n else .fail .oversizedInt (.float x)
      | none => .fail .fractionalInt (.float x)
    | _ => .fail .notFinite (.float x)
  | .text s =>
    match IntegerText.read s with
    | .integer n => .ok n
    | .oversized => .fail .oversizedInt (.text s)
    | .unclear => .fail .unclearInt (.text s)
  | v => .fail .notInt v

/-- A positive integer. -/
def count (v : Value) : Reading Count :=
  match int v with
  | .ok n =>
    match Count.ofInt? n with
    | some c => .ok c
    | none => .fail (.below 1) v
  | .error fs => .faults fs

/-- A positive integer up to a limit. -/
def countUpTo (greatest : Nat) (v : Value) : Reading Count :=
  (count v).check (fun c => if greatest < c.1 then some (.above greatest) else none) v

/-- Null or a value. -/
def nullable (read : Value → Reading α) : Value → Reading (Option α)
  | .null => .ok none
  | v => (read v).map some

/-- One of some words, each with its meaning. -/
def oneOf (words : List (String × α)) (v : Value) : Reading α :=
  let refuse := Reading.fail (.notOneOf (words.map (·.1))) v
  match v with
  | .text s =>
    match words.lookup s with
    | some a => .ok a
    | none => refuse
  | _ => refuse

/-! ## Lists and objects -/

/-- Readings one after the other, each inside its index. -/
def inOrder : Nat → List (Reading α) → Reading (List α)
  | _, [] => .ok []
  | i, r :: rs => List.cons <$> r.inside (.index i) <*> inOrder (i + 1) rs

/-- The members of a list, a tuple or a set. -/
def list (read : Value → Reading α) (v : Value) : Reading (List α) :=
  match v.elements? with
  | some xs => inOrder 0 (xs.map read)
  | none => .fail .notList v

/-- The first of some keys that an object has, and its value. -/
def find? (keys : List String) (es : List (String × Value)) : Option (String × Value) :=
  keys.findSome? fun key => (es.lookup key).map (key, ·)

/-- An entry that may be left out. Its place is called by the key that it has. -/
def optionalEntry (keys : List String) (read : Value → Reading α) (es : List (String × Value)) :
    Reading (Option α) :=
  match find? keys es with
  | some (key, v) => ((read v).inside (.key key)).map some
  | none => .ok none

/-- An entry with a default. -/
def entryOr (fallback : α) (keys : List String) (read : Value → Reading α)
    (es : List (String × Value)) : Reading α :=
  (optionalEntry keys read es).map (·.getD fallback)

/-- An entry that has to be there. One that is not is called by the first of its keys. -/
def entry (keys : List String) (read : Value → Reading α) (es : List (String × Value)) :
    Reading α :=
  match find? keys es with
  | some (key, v) => (read v).inside (.key key)
  | none => (Reading.fail .missing (.object es)).inside (.key (keys.headD ""))

/-- An object with any entries. -/
def object : Value → Reading (List (String × Value))
  | .object es => .ok es
  | v => .fail .notObject v

/-- An object that describes a record. -/
def record (model : String) (read : List (String × Value) → Reading α) : Value → Reading α
  | .object es => read es
  | v => .fail (.notRecord model) v

end Document

end Formwork
