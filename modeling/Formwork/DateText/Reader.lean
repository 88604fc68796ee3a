import Formwork.DateText.Clues

/-!
# Reading a date text

The tokens are read from left to right. Each is a number, a word of the vocabulary, a sign of an
offset or a filler, and may take some of the tokens after it along; one that is none of these, or
that contradicts what was read before, makes the text unreadable.
-/

namespace Formwork.DateText

/-- The clues after a token, and how many tokens after it were taken along. -/
abbrev Step := Except Trouble (Clues × Nat)

/-- A label of hours, minutes or seconds for a number: behind it, with or without a space, else in
front of it, where it labels the unit above. Gives the unit and the tokens taken along. -/
def unitAround? (before rest : List Token) : Option (Nat × Nat) :=
  let behind := match rest with
    | w :: _ => (unit? w).map (·, 1)
    | [] => none
  let spaced := match rest with
    | [' '] :: w :: _ => (unit? w).map (·, 2)
    | _ => none
  let inFront := match before with
    | w :: _ => (unit? w).map fun u => (u + 1, 0)
    | [] => none
  let inFrontSpaced := match before, rest with
    | [' '] :: w :: _, [] => (unit? w).map fun u => (u + 1, 0)
    | _, _ => none
  behind <|> spaced <|> inFront <|> inFrontSpaced

/-- A labelled number. Past the seconds a label says nothing. -/
def labelled (c : Clues) (t : Token) (a : Amount) (unit : Nat) : Except Trouble Clues := do
  match unit with
  | 0 => return { c with hour := some a.whole, minute := (← a.sixtieths) <|> c.minute }
  | 1 => c.setMinute a
  | 2 => c.setSecond? t
  | _ => return c

/-- Hours and minutes, and seconds where another colon follows. -/
def clockTime (c : Clues) (a : Amount) (minutes : Token) (rest : List Token) : Step := do
  let m ← Amount.ofToken? minutes
  let c ← { c with hour := some a.whole }.setMinute m
  match rest with
  | [':'] :: seconds :: _ => return (← c.setSecond? seconds, 4)
  | _ => return (c, 2)

/-- A member of a date between separators: a number or the word of a month. -/
def addMember? (p : Parts) (t : Token) : Option Parts :=
  match month? t with
  | some m => p.addMonth? m
  | none => p.addToken? t

/-- Numbers joined by a separator. A filler behind the separator ends the date. -/
def separated (c : Clues) (t separator : Token) (rest : List Token) : Step := do
  let p ← c.parts.addToken? t
  match rest with
  | [] => return ({ c with parts := p }, 1)
  | second :: more =>
    if isFiller second then return ({ c with parts := p }, 1)
    else
      let p ← addMember? p second
      match more with
      | s :: more =>
        if s == separator then
          let third ← more.head?
          let p ← addMember? p third
          return ({ c with parts := p }, 4)
        else return ({ c with parts := p }, 2)
      | [] => return ({ c with parts := p }, 2)

/-- Year, month and day in one run of digits, and perhaps hours, minutes and seconds. -/
def packedDate (c : Clues) (t : Token) : Option Clues := do
  let year ← natural? (t.take 4)
  let p ← c.parts.addYear? year true
  let p ← p.addToken? ((t.drop 4).take 2)
  let p ← p.addToken? ((t.drop 6).take 2)
  let c := { c with parts := p }
  if t.length ≤ 8 then some c
  else
    let hour ← natural? ((t.drop 8).take 2)
    let minute ← natural? ((t.drop 10).take 2)
    let c := { c with hour := some hour, minute := some minute }
    if t.length ≤ 12 then some c
    else some { c with second := some (← natural? (t.drop 12)) }

/-- Six digits: a date with two digits for each part if there is none yet, else a time of day. -/
def packedSix (c : Clues) (t : Token) : Option Clues := do
  if c.parts.values.isEmpty && !t.contains '.' then
    let p ← c.parts.addToken? (t.take 2)
    let p ← p.addToken? ((t.drop 2).take 2)
    let p ← p.addToken? (t.drop 4)
    some { c with parts := p }
  else
    let hour ← natural? (t.take 2)
    let minute ← natural? ((t.drop 2).take 2)
    { c with hour := some hour, minute := some minute }.setSecond? (t.drop 4)

/-- Two or four digits behind a date: an hour, and perhaps minutes. -/
def packedTime (c : Clues) (t : Token) : Option Clues := do
  let c := { c with hour := some (← natural? (t.take 2)) }
  if t.length = 4 then some { c with minute := some (← natural? (t.drop 2)) } else some c

/-- A number by what stands around it. -/
def number (c : Clues) (before : List Token) (t : Token) (rest : List Token) : Step := do
  let a ← Amount.ofToken? t
  let unlabelled := match rest with
    | [] => true
    | w :: _ => w != [':'] && (unit? w).isNone
  if c.parts.values.length = 3 && (t.length = 2 || t.length = 4) && c.hour.isNone && unlabelled then
    return (← packedTime c t, 0)
  else if t.length = 6 || (6 < t.length && t.findIdx? (· == '.') = some 6) then
    return (← packedSix c t, 0)
  else if t.length = 8 || t.length = 12 || t.length = 14 then
    return (← packedDate c t, 0)
  else match unitAround? before rest with
  | some (unit, taken) => return (← labelled c t a unit, taken)
  | none =>
    match rest with
    | [':'] :: minutes :: more => clockTime c a minutes more
    | next :: more =>
      if next == ['-'] || next == ['/'] || next == ['.'] then separated c t next more
      else if isFiller next then
        match more.head?.bind afterNoon? with
        | some half => return ({ c with hour := some (Clues.hourOf a.whole half) }, 2)
        | none => return ({ c with parts := ← c.parts.addAmount? a }, 1)
      else match (afterNoon? next).filter fun _ => a.whole < 24 with
      | some half => return ({ c with hour := some (Clues.hourOf a.whole half) }, 1)
      | none =>
        if c.parts.couldBeDay a then return ({ c with parts := ← c.parts.addAmount? a }, 0)
        else throw .unreadable
    | [] => return ({ c with parts := ← c.parts.addAmount? a }, 0)

/-- The word of a month with what is joined to it: a day and a year, or a year behind "of". -/
def monthWord (today : Date) (c : Clues) (month : Nat) (rest : List Token) : Step := do
  let p ← c.parts.addMonth? month
  match rest with
  | [' '] :: o :: [' '] :: year :: _ =>
    if isOf o then
      if !year.isEmpty && year.all Text.isDigitLike then
        let n ← natural? year
        return ({ c with parts := ← p.addYear? (fullYear today.year n false) true }, 4)
      else return ({ c with parts := p }, 4)
    else return ({ c with parts := p }, 0)
  | s :: more =>
    if s == ['-'] || s == ['/'] then
      let second ← more.head?
      let p ← p.addToken? second
      match more.tail with
      | s' :: more =>
        if s' == s then
          let third ← more.head?
          return ({ c with parts := ← p.addToken? third }, 4)
        else return ({ c with parts := p }, 2)
      | [] => return ({ c with parts := p }, 2)
    else return ({ c with parts := p }, 0)
  | [] => return ({ c with parts := p }, 0)

/-- A zone's name in brackets behind its offset. -/
def bracketedName (c : Clues) (rest : List Token) (taken : Nat) : Clues × Nat :=
  match rest with
  | w :: ['('] :: name :: [')'] :: _ =>
    if isFiller w && 3 ≤ name.length && c.couldBeZone name then
      ({ c with zoneName := some name }, taken + 4)
    else (c, taken)
  | _ => (c, taken)

/-- An offset behind its sign: hours with or without minutes. -/
def zoneOffset (c : Clues) (behindUtc : Bool) (rest : List Token) : Step := do
  let seconds (hours minutes : Nat) : Int :=
    let s : Int := hours * 3600 + minutes * 60
    if behindUtc then -s else s
  let t ← rest.head?
  if t.length = 4 then
    let hours ← natural? (t.take 2)
    let minutes ← natural? (t.drop 2)
    return bracketedName { c with zoneOffset := some (seconds hours minutes) } (rest.drop 1) 1
  else match rest with
  | _ :: [':'] :: more =>
    let hours ← natural? t
    let minutes ← natural? (← more.head?)
    return bracketedName { c with zoneOffset := some (seconds hours minutes) } (rest.drop 3) 3
  | _ =>
    if 2 < t.length then throw .unreadable
    let hours ← natural? t
    return bracketedName { c with zoneOffset := some (seconds hours 0) } (rest.drop 1) 1

/-- The name of a zone. A sign behind it tells how far the zone's clock is from the named one, so it
counts the other way round. -/
def zoneWord (c : Clues) (t : Token) (rest : List Token) : Step :=
  match rest with
  | [sign] :: more =>
    if sign == '+' || sign == '-' then
      let name := if isUtcName t then none else some t
      (zoneOffset { c with zoneName := name } (sign == '+') more).map fun (c, n) => (c, n + 1)
    else .ok ({ c with zoneName := some t, zoneOffset := if t == ['z'] then some 0 else none }, 0)
  | _ => .ok ({ c with zoneName := some t, zoneOffset := if t == ['z'] then some 0 else none }, 0)

/-- Words for infinity and for no number at all are numbers that nothing can be read from. -/
def isUnreadableNumber (t : Token) : Bool := ["inf", "infinity", "nan"].contains t.lower

/-- One token. -/
def step (today : Date) (c : Clues) (before : List Token) (t : Token) (rest : List Token) : Step :=
  if t.head?.any Text.isDigit && (Amount.ofToken? t).isSome then number c before t rest
  else if isUnreadableNumber t then .error .unreadable
  else match weekday? t with
  | some w => .ok ({ c with weekday := some w }, 0)
  | none =>
    match month? t with
    | some m => monthWord today c m rest
    | none =>
      match afterNoon? t, c.hour with
      | some half, some hour =>
        if hour ≤ 12 then .ok ({ c with hour := some (Clues.hourOf hour half) }, 0)
        else .error .unreadable
      | some _, none => .error .unreadable
      | none, _ =>
        if c.couldBeZone t && c.zoneOffset.isNone then zoneWord c t rest
        else if c.hour.isSome && (t == ['+'] || t == ['-']) then zoneOffset c (t == ['-']) rest
        else if isFiller t then .ok (c, 0)
        else .error .unreadable

/-- All tokens, with those before at hand, the latest first. -/
def walk (today : Date) (c : Clues) (before : List Token) : List Token → Except Trouble Clues
  | [] => .ok c
  | t :: rest =>
    match step today c before t rest with
    | .ok (c, taken) => walk today c ((rest.take taken).reverse ++ t :: before) (rest.drop taken)
    | .error e => .error e
termination_by tokens => tokens.length
decreasing_by simp only [List.length_drop, List.length_cons]; omega

/-- A text may name a date, but has a number that is too long to be worked with. -/
structure Overlong where
deriving DecidableEq

/-- The date and time that a text names, if it names one, on a day from which it takes what it
leaves open. -/
def read (today : Date) (s : String) : Except Overlong (Option DateTime) :=
  match walk today Clues.none [] (tokens s.toList) with
  | .ok c => .ok (c.dateTime? today)
  | .error .unreadable => .ok none
  | .error .overlong => .error ⟨⟩

end Formwork.DateText
