import Formwork.Form.Expectation
import Formwork.Text.Blank
import Formwork.Text.Digit
import Formwork.Url.Basic

/-!
# Formats of texts

An email address has one `@` with something before it, and a point inside of what is behind it. A
phone number is digits, blanks, hyphens and round brackets, perhaps with a plus in front.
-/

namespace Formwork

namespace Email

/-- What may stand on either side of the `@`. -/
def isPart (c : Char) : Bool := c != '@' && !Text.isBlank c

/-- A whole email address. -/
def isAddress (cs : List Char) : Bool :=
  match cs.dropWhile isPart with
  | '@' :: domain =>
    !(cs.takeWhile isPart).isEmpty && domain.all isPart && (domain.drop 1).dropLast.contains '.'
  | _ => false

/-- An email address, perhaps with a line end behind it. -/
def accepts (cs : List Char) : Bool :=
  isAddress cs || (cs.getLast? == some '\n' && isAddress cs.dropLast)

end Email

namespace Phone

def isPart (c : Char) : Bool :=
  Text.isDigit c || Text.isBlank c || c == '-' || c == '(' || c == ')'

def accepts (cs : List Char) : Bool :=
  let number := if cs.head? == some '+' then cs.drop 1 else cs
  !number.isEmpty && number.all isPart

end Phone

/-- Whether a text has a format. -/
def TextFormat.accepts (format : TextFormat) (s : String) : Bool :=
  match format with
  | email => Email.accepts s.toList
  | url => Url.isUrl s
  | phone => Phone.accepts s.toList

end Formwork
