import Formwork.Form.Words
import Formwork.Text.Search

/-!
# What a field's words lead to expect

The name and the label of a text field tell whether it takes email addresses, URLs or phone
numbers; those of a number field tell within which bounds a number makes sense.
-/

namespace Formwork

inductive TextFormat where
  | email
  | url
  | phone
deriving DecidableEq

namespace TextFormat

def word : TextFormat → String
  | email => "email"
  | url => "url"
  | phone => "phone"

/-- The words that imply a format. -/
def hints : TextFormat → List String
  | email => ["email", "mail"]
  | url => ["url", "website", "homepage"]
  | phone => ["phone", "tel", "telephone", "mobile"]

end TextFormat

/-- The formats that the words of a field imply, in the order in which they are checked. -/
def Field.formats (f : Field) : List TextFormat :=
  [TextFormat.email, .url, .phone].filter fun format => f.mentions format.hints

/-- Bounds of a number, which are allowed themselves. -/
structure Bounds where
  least : Option Int
  greatest : Option Int
deriving DecidableEq

/-- Whether one of some words occurs in the label of a field. -/
def Field.labelHas (f : Field) (words : List String) : Bool :=
  words.any fun w => Text.occursIn w.toList f.label.toList

/-- An age is at most 150; ages, counts and prices are not negative. -/
def Field.bounds (f : Field) : Bounds :=
  if f.mentions ["age"] || f.labelHas ["年龄"] then ⟨some 0, some 150⟩
  else if f.mentions ["quantity", "count", "price", "amount"]
      || f.labelHas ["数量", "计数", "价格", "金额"] then ⟨some 0, none⟩
  else ⟨none, none⟩

end Formwork
