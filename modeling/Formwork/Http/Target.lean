import Formwork.Number.Literal
import Formwork.Text.Percent
import Formwork.Text.Quoted
import Formwork.Text.Search

/-!
# Targets of requests

A target is a path on the server, perhaps with a scheme, an authority, a query and a fragment, none
of which matters to the server. Its segments of one or two points are steps on the way, and its
escapes are read twice: once by the client and once by the server.
-/

namespace Formwork.Http

/-- Why a text is no target. -/
inductive TargetError where
  | tooLong
  | unprintable (c : Char) (position : Nat)
  | badPort (port : String)
  /-- A path behind nothing starts with two slashes. -/
  | doubleSlash
  /-- A path behind nothing starts with a colon. -/
  | colon
deriving DecidableEq

namespace TargetError

def message : TargetError → String
  | tooLong => "URL too long"
  | unprintable c position =>
    let shown := Text.quoted (String.singleton c)
    s!"Invalid non-printable ASCII character in URL, {shown} at position {position}."
  | badPort port => s!"Invalid port: {Text.quoted port}"
  | doubleSlash => "Relative URLs cannot have a path starting with '//'"
  | colon => "Relative URLs cannot have a path starting with ':'"

end TargetError

/-! ## Parts of a target -/

def isSchemeChar (c : Char) : Bool := c.isAlphanum || c == '+' || c == '-' || c == '.'

/-- The scheme before a colon, which may be empty, and what stands behind; all of the text where
there is no scheme. -/
def cutScheme (cs : List Char) : List Char × List Char :=
  let scheme := cs.takeWhile isSchemeChar
  match cs.dropWhile isSchemeChar with
  | ':' :: rest => if scheme.head?.all Char.isAlpha then (scheme, rest) else ([], cs)
  | _ => ([], cs)

/-- The authority between two slashes and the path, and the path with what follows it. -/
def cutAuthority : List Char → List Char × List Char
  | '/' :: '/' :: rest =>
    let inside (c : Char) : Bool := !(c == '/' || c == '?' || c == '#')
    (rest.takeWhile inside, rest.dropWhile inside)
  | cs => ([], cs)

/-- The text behind the last of some separators, if there is one. -/
def behindLast (separator : Char) (cs : List Char) : List Char :=
  (cs.reverse.takeWhile (· != separator)).reverse

/-- The host of an authority behind its user, and the port behind a colon; either may be empty. -/
def hostAndPort (authority : List Char) : List Char × List Char :=
  let place := behindLast '@' authority
  let port :=
    if place.head? == some '[' && place.contains ']' then behindLast ']' place
    else place.dropWhile (· != ':')
  (place.take (place.length - port.length), if port.head? == some ':' then port.drop 1 else port)

/-- Whether an authority names a user, a host or a port. -/
def namesSomething (authority : List Char) : Bool :=
  !([[], ['@'], [':'], ['@', ':']] : List (List Char)).contains authority

/-- A path without its segments of one point, and without those of two points and the segments
before them. -/
def withoutSteps (path : List Char) : List Char :=
  let segments := (Text.splitAt '/' path).foldl (fun done segment =>
    if segment == ['.'] then done
    else if segment == ['.', '.'] then (if done == [[]] then done else done.dropLast)
    else done ++ [segment]) []
  List.intercalate ['/'] segments

/-! ## Reading a target -/

def longestTarget : Nat := 65536

/-- A path from the root of the server. -/
def fromRoot (path : List Char) : List Char := withoutSteps ('/' :: path.dropWhile (· == '/'))

/-- The path of a target as the client sends it. A target with a scheme and a host is complete, and
all others start at the root. -/
def sentPath (target : String) : Except TargetError (List Char) := do
  let cs := target.toList
  if longestTarget < cs.length then throw .tooLong
  match cs.findIdx? fun c => c.toNat < 32 || c.toNat == 127 with
  | some i => throw (.unprintable (cs.getD i ' ') i)
  | none => pure ()
  let (scheme, rest) := cutScheme cs
  let (authority, rest) := cutAuthority rest
  let path := rest.takeWhile fun c => !(c == '?' || c == '#')
  let (host, port) := hostAndPort authority
  if !port.isEmpty && (Literal.integer? port).isNone then throw (.badPort (String.ofList port))
  if !scheme.isEmpty && !host.isEmpty then return withoutSteps path
  else if !scheme.isEmpty || namesSomething authority then return fromRoot (withoutSteps path)
  else if path.take 2 == ['/', '/'] then throw .doubleSlash
  else if path.head? == some ':' then throw .colon
  else return fromRoot path

/-- The path of a target as the server reads it; nothing where the bytes are no text. -/
def readPath (target : String) : Except TargetError (Option (List Char)) :=
  (sentPath target).map fun path => (Text.unescape? path).bind Text.unescape?

end Formwork.Http
