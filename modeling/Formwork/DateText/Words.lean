import Formwork.DateText.Token

/-!
# Words of a date text

The vocabulary, in which upper and lower case are the same.
-/

namespace Formwork.DateText

def Token.lower (t : Token) : String := String.ofList (t.map Char.toLower)

/-- The index of the list that a word stands in. -/
def indexIn (groups : List (List String)) (t : Token) : Option Nat :=
  groups.findIdx? (·.contains (Token.lower t))

/-- Words and signs without a meaning of their own. -/
def isFiller (t : Token) : Bool :=
  [" ", ".", ",", ";", "-", "/", "'", "at", "on", "and", "ad", "m", "t", "of", "st", "nd", "rd",
    "th"].contains (Token.lower t)

/-- Days since Monday. -/
def weekday? (t : Token) : Option Nat :=
  indexIn [["mon", "monday"], ["tue", "tuesday"], ["wed", "wednesday"], ["thu", "thursday"],
    ["fri", "friday"], ["sat", "saturday"], ["sun", "sunday"]] t

def month? (t : Token) : Option Nat :=
  (indexIn [["jan", "january"], ["feb", "february"], ["mar", "march"], ["apr", "april"], ["may"],
    ["jun", "june"], ["jul", "july"], ["aug", "august"], ["sep", "sept", "september"],
    ["oct", "october"], ["nov", "november"], ["dec", "december"]] t).map (· + 1)

/-- Hours are unit 0, minutes 1 and seconds 2. -/
def unit? (t : Token) : Option Nat :=
  indexIn [["h", "hour", "hours"], ["m", "minute", "minutes"], ["s", "second", "seconds"]] t

/-- Whether a word for a half of the day means the second half. -/
def afterNoon? (t : Token) : Option Bool :=
  (indexIn [["am", "a"], ["pm", "p"]] t).map (· == 1)

/-- The word between a month and its year. -/
def isOf (t : Token) : Bool := Token.lower t == "of"

/-- A name of UTC in any case. -/
def isUtcName (t : Token) : Bool := ["utc", "gmt", "z"].contains (Token.lower t)

/-- The shape of a time zone's name: up to five capitals, or a lone z. -/
def isZoneShaped (t : Token) : Bool :=
  t.length ≤ 5 && (t.all Char.isUpper || t == ['z'])

end Formwork.DateText
