import PersistedDocument.Decimal.Reading
import PersistedDocument.Text.Base64
import PersistedDocument.Url.Host
import PersistedDocument.Url.Parts

/-!
# Addresses

Addresses in normal form. Reading an address brings its parts into this form or refuses them, and so
does every change, since it puts parts together anew.
-/

namespace PersistedDocument

open Text Url

/-- An address in normal form. -/
structure Url where
  /-- The scheme in lower case; empty if there is none. -/
  scheme : List Char
  /-- Who asks; empty if that is not said. -/
  userInfo : List Char
  /-- The host; empty if there is none. -/
  host : List Char
  /-- The port, unless it is the usual one of the scheme. -/
  port : Option Int
  /-- The path. -/
  path : List Char
  /-- The query. -/
  query : Option (List Char)
  /-- The fragment. -/
  fragment : Option (List Char)
deriving DecidableEq, Repr

namespace Url

/-! ### What is kept as it is -/

/-- The printable characters of ASCII but for those in a list. -/
def printableBut (excluded : String) (c : Char) : Bool :=
  ' ' ≤ c && c ≤ '~' && !excluded.contains c

/-- The characters that stay as they are in a fragment. -/
def isKeptInFragment : Char → Bool := printableBut " \"<>\x60"

/-- The characters that stay as they are in a query. -/
def isKeptInQuery : Char → Bool := printableBut " \"#<>"

/-- The characters that stay as they are in a path. -/
def isKeptInPath : Char → Bool := printableBut " \"#<>?\x60\x7b\x7d"

/-- The characters that stay as they are in user information. -/
def isKeptInUserInfo : Char → Bool := printableBut " \"#<>?\x60\x7b\x7d/;=@[\\]^|"

/-! ### Normal forms of parts -/

/-- The port that a scheme has unless another is given. -/
def usualPort? : List Char → Option Int
  | ['f', 't', 'p'] => some 21
  | ['h', 't', 't', 'p'] => some 80
  | ['w', 's'] => some 80
  | ['h', 't', 't', 'p', 's'] => some 443
  | ['w', 's', 's'] => some 443
  | _ => none

/-- The normal form of a port of a scheme; none if it is no number. -/
def normalizePort? (scheme port : List Char) : Option (Option Int) :=
  if port.isEmpty then some none
  else do
    let n ← Decimal.int? (String.ofList port)
    return if usualPort? scheme = some n then none else some n

/-- Adds a segment to those before it, which are given last first: a point adds nothing, and two
points take one away, but never the empty one before the first slash. -/
def pushSegment (before : List (List Char)) (segment : List Char) : List (List Char) :=
  if segment = ['.'] then before
  else if segment = ['.', '.'] then if before = [[]] then before else before.tail
  else segment :: before

/-- A path without segments of one or two points. -/
def resolveSegments (path : List Char) : List Char :=
  joinWith ['/'] ((splitOn '/' path).foldl pushSegment []).reverse

/-- Whether a path can stand in an address. After a host it starts with a slash, if it is not empty;
where nothing comes before it, it starts neither with two slashes nor with a colon. -/
def isPathAllowed (hasScheme hasAuthority : Bool) (path : List Char) : Bool :=
  if hasAuthority then path.isEmpty || path.head? = some '/'
  else hasScheme || !(path.take 2 = ['/', '/'] || path.head? = some ':')

/-- The normal form of an address, if its parts are in order. -/
def ofParts? (p : Parts) : Option Url := do
  let authority := Authority.ofText p.authority
  let scheme := p.scheme.map Char.toLower
  let userInfo := Percent.encode isKeptInUserInfo authority.userInfo
  let host ← normalizeHost? authority.host
  let port ← normalizePort? p.scheme authority.port
  let hasScheme := !scheme.isEmpty
  let hasAuthority := !userInfo.isEmpty || !host.isEmpty || port.isSome
  guard (isPathAllowed hasScheme hasAuthority p.path)
  let path := if hasScheme || hasAuthority then resolveSegments p.path else p.path
  return {
    scheme, userInfo, host, port
    path := Percent.encode isKeptInPath path
    query := p.query.map (Percent.encode isKeptInQuery)
    fragment := p.fragment.map (Percent.encode isKeptInFragment) }

/-! ### Reading and writing -/

/-- The greatest length of an address and of each of its parts. -/
def maximalLength : Nat := 65536

/-- Whether a text is short enough and without control characters. -/
def isAdmissible (cs : List Char) : Bool :=
  cs.length ≤ maximalLength && cs.all fun c => ' ' ≤ c && c ≠ '\x7f'

/-- Reads an address. -/
def read? (text : List Char) : Option Url :=
  if isAdmissible text then ofParts? (Parts.ofText text) else none

/-- The host and the port as they are written. -/
def hostAndPort (u : Url) : List Char :=
  (if u.host.contains ':' then '[' :: u.host ++ [']'] else u.host)
    ++ u.port.elim [] fun n => ':' :: (toString n).toList

/-- The authority as it is written. -/
def authority (u : Url) : List Char :=
  (if u.userInfo.isEmpty then [] else u.userInfo ++ ['@']) ++ u.hostAndPort

/-- The parts of an address. -/
def parts (u : Url) : Parts := ⟨u.scheme, u.authority, u.path, u.query, u.fragment⟩

/-- An address as it is written. -/
def text (u : Url) : List Char :=
  (if u.scheme.isEmpty then [] else u.scheme ++ [':'])
    ++ (if u.authority.isEmpty then [] else '/' :: '/' :: u.authority)
    ++ u.path
    ++ u.query.elim [] ('?' :: ·)
    ++ u.fragment.elim [] ('#' :: ·)

/-- The normal form of parts that are short enough and without control characters. -/
def recompose? (p : Parts) : Option Url :=
  if isAdmissible p.scheme && isAdmissible p.authority && isAdmissible p.path
    && p.query.all isAdmissible && p.fragment.all isAdmissible
  then ofParts? p else none

/-- An address with another query. -/
def withQuery? (u : Url) (query : List Char) : Option Url :=
  recompose? { u.parts with query := some query }

/-! ### Asking -/

/-- Whether an address says how and whom to ask. -/
def isAbsolute (u : Url) : Bool := !u.scheme.isEmpty && !u.host.isEmpty

/-- Whether a host is written in ASCII. A zone of an address of eight groups need not be. -/
def hasAsciiHost (u : Url) : Bool := u.host.all fun c => c.toNat < 0x80

/-- The address that is asked: an absolute one itself, and of any other the path from the root and
the query. -/
def target? (u : Url) : Option Url :=
  if u.isAbsolute then some u
  else recompose? ⟨[], [], '/' :: u.path.dropWhile (· = '/'), u.query, none⟩

/-- The path that is asked for, with its escapes undone. -/
def requestPath (u : Url) : List Char := if u.path.isEmpty then ['/'] else Percent.decode u.path

/-- The query that is asked for. -/
def requestQuery (u : Url) : List Char := u.query.getD []

/-- The credentials in the user information, for an authorization by name and password. -/
def basicCredentials? (u : Url) : Option (List Char) :=
  let (user, password) := cutAt ':' u.userInfo
  let password := password.getD []
  if user.isEmpty && password.isEmpty then none
  else
    let secret := Percent.decode user ++ ':' :: Percent.decode password
    some (Base64.encode (Utf8.encodeCharacters secret))

end Url

end PersistedDocument
