/-!
# Message templates

A template is words with slots between them. It is filled when every slot has a text; the texts go
in as they are, whatever they contain.
-/

namespace Formwork

/-- What a message can tell about a value that was refused. -/
inductive Slot where
  | label
  | expected
  | received
  | allowed
  | value
  | minimum
  | maximum
deriving DecidableEq

def Slot.name : Slot → String
  | label => "label"
  | expected => "expected"
  | received => "received"
  | allowed => "allowed"
  | value => "value"
  | minimum => "minimum"
  | maximum => "maximum"

/-- A part of a template. -/
inductive Piece where
  | words (s : String)
  | slot (s : Slot)
deriving DecidableEq

namespace Piece

/-- The words, or the name of the slot in braces. -/
def shown : Piece → String
  | words s => s
  | slot s => "\x7b" ++ s.name ++ "\x7d"

/-- The words, or the text for the slot. -/
def text? (texts : Slot → Option String) : Piece → Option String
  | words s => some s
  | slot s => texts s

end Piece

abbrev Template : Type := List Piece

namespace Template

/-- The template with the names of its slots. -/
def unfilled (t : Template) : String := String.join (t.map Piece.shown)

/-- The message with a text for every slot, if there is one. -/
def fill? (texts : Slot → Option String) (t : Template) : Option String :=
  (t.mapM (Piece.text? texts)).map String.join

/-- The message, or the template itself where a slot has no text. -/
def fill (texts : Slot → Option String) (t : Template) : String :=
  (t.fill? texts).getD t.unfilled

end Template

end Formwork
