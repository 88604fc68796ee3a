import Formwork.Text.Blank
import Formwork.Url.Host

/-!
# URLs

A URL starts with a scheme and a colon. The web's own schemes need a host behind any number of
slashes, which may lean either way; the scheme for files has none or one without a port; any other
scheme may have a host behind two slashes.
-/

namespace Formwork.Url

/-- What a scheme asks of the rest. -/
inductive SchemeKind where
  | web
  | file
  | other
deriving DecidableEq

/-- The text without controls and blanks at its ends, and without tabs and line ends inside. -/
def cleaned (cs : List Char) : List Char :=
  let trimmed := Text.trimEnds (·.toNat ≤ 32) cs
  trimmed.filter fun c => !(c == '\t' || c == '\n' || c == '\r')

def isSchemeChar (c : Char) : Bool := c.isAlphanum || c == '+' || c == '-' || c == '.'

/-- The scheme, which starts with a letter, and what stands behind its colon. -/
def cutScheme? (cs : List Char) : Option (List Char × List Char) :=
  let scheme := cs.takeWhile isSchemeChar
  match cs.dropWhile isSchemeChar with
  | ':' :: rest => if scheme.head?.any Char.isAlpha then some (scheme, rest) else none
  | _ => none

def schemeKind (scheme : List Char) : SchemeKind :=
  let word := String.ofList (scheme.map Char.toLower)
  if word == "file" then .file
  else if ["http", "https", "ws", "wss", "ftp"].contains word then .web
  else .other

def isSlash (c : Char) : Bool := c == '/' || c == '\\'

/-- Where the authority of a URL ends. -/
def endsAuthority (kind : SchemeKind) (c : Char) : Bool :=
  c == '/' || c == '?' || c == '#' || (kind != .other && c == '\\')

/-- The part before the last `@`, if there is one, and the part behind. -/
def cutUser (authority : List Char) : Option (List Char) × List Char :=
  let behind := (authority.reverse.takeWhile (· != '@')).reverse
  if behind.length < authority.length then
    (some (authority.take (authority.length - behind.length - 1)), behind)
  else (none, authority)

/-- The host, up to a colon outside of brackets, and what follows it. -/
def cutHost (inside : Bool) : List Char → List Char × List Char
  | [] => ([], [])
  | c :: rest =>
    if c == ':' && !inside then ([], c :: rest)
    else
      let (host, more) := cutHost (if c == '[' then true else if c == ']' then false else inside) rest
      (c :: host, more)

/-- Nothing, or a colon and a number of at most 16 bits, which may be empty. A backslash ends it. -/
def isPort : List Char → Bool
  | ':' :: rest =>
    let digits := rest.takeWhile (· != '\\')
    digits.all Char.isDigit && (Text.baseValue? 10 digits).any (· < twoPow 16)
  | _ => true

/-- A user, host and port, and then perhaps more. Who names a user has to name a host. -/
def isAuthority (kind : SchemeKind) (cs : List Char) : Bool :=
  let authority := cs.takeWhile (!endsAuthority kind ·)
  let (user, place) := cutUser authority
  let (host, port) := cutHost false place
  if host.isEmpty then
    kind == .other && port.isEmpty
      && match user with
        | none => true
        | some [] => authority.length == cs.length
        | some u => u == [':']
  else (if kind == .web then isWebHost host else isOtherHost host) && isPort port

/-- The name of a disk. -/
def isDrive : List Char → Bool
  | [letter, mark] => letter.isAlpha && (mark == ':' || mark == '|')
  | _ => false

/-- Behind two slashes the scheme for files may have a host. -/
def isFilePlace : List Char → Bool
  | a :: b :: rest =>
    if isSlash a && isSlash b then
      let host := rest.takeWhile (!endsAuthority .file ·)
      host.isEmpty || isDrive host || isWebHost host
    else true
  | _ => true

/-- A text is a URL by itself. -/
def isUrl (s : String) : Bool :=
  match cutScheme? (cleaned s.toList) with
  | none => false
  | some (scheme, rest) =>
    match schemeKind scheme with
    | .file => isFilePlace rest
    | .web => isAuthority .web (rest.dropWhile isSlash)
    | .other =>
      match rest with
      | '/' :: '/' :: place => isAuthority .other place
      | _ => true

end Formwork.Url
