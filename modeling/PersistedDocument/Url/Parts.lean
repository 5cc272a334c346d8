import PersistedDocument.Text.Split

/-!
# The parts of an address

An address is cut at its marks: a scheme before a colon, an authority after two slashes, a path, a
query after a question mark and a fragment after a number sign. Of these only the path is always
there, though it may be empty.
-/

namespace PersistedDocument.Url

open PersistedDocument.Text

/-- The parts of an address as they are written. -/
structure Parts where
  /-- The scheme; empty if there is none. -/
  scheme : List Char
  /-- The authority; empty if there is none. -/
  authority : List Char
  /-- The path. -/
  path : List Char
  /-- The query. -/
  query : Option (List Char)
  /-- The fragment. -/
  fragment : Option (List Char)
deriving DecidableEq, Repr

/-- Whether a text can be a scheme. -/
def isScheme : List Char → Bool
  | [] => true
  | c :: cs => c.isAlpha && cs.all fun c => c.isAlphanum || c = '+' || c = '.' || c = '-'

/-- The scheme at the start of an address, and what follows it. -/
def cutScheme (cs : List Char) : List Char × List Char :=
  match cutAt ':' cs with
  | (scheme, some rest) => if isScheme scheme then (scheme, rest) else ([], cs)
  | (_, none) => ([], cs)

/-- The authority at the start of an address without scheme, and what follows it. -/
def cutAuthority : List Char → List Char × List Char
  | '/' :: '/' :: cs => cs.span fun c => c ≠ '/' && c ≠ '?' && c ≠ '#'
  | cs => ([], cs)

/-- The parts of an address. -/
def Parts.ofText (cs : List Char) : Parts :=
  let (scheme, cs) := cutScheme cs
  let (authority, cs) := cutAuthority cs
  let (cs, fragment) := cutAt '#' cs
  let (path, query) := cutAt '?' cs
  ⟨scheme, authority, path, query, fragment⟩

/-- The parts of an authority as they are written. -/
structure Authority where
  /-- Who asks; empty if that is not said. -/
  userInfo : List Char
  /-- The host. -/
  host : List Char
  /-- The port; empty if it is not given. -/
  port : List Char
deriving DecidableEq, Repr

/-- The host at the start of a text: up to the last closing bracket if it starts with an opening
one, else up to a colon or an at sign. -/
def hostLength (cs : List Char) : Nat :=
  match cs, cutAtLast ']' cs with
  | '[' :: _, (some before, _) => before.length + 1
  | _, _ => (cs.takeWhile fun c => c ≠ ':' && c ≠ '@').length

/-- The parts of an authority. -/
def Authority.ofText (cs : List Char) : Authority :=
  let (userInfo, cs) := cutAtLast '@' cs
  let host := cs.take (hostLength cs)
  let port := match cs.drop (hostLength cs) with
    | ':' :: port => port
    | port => port
  ⟨userInfo.getD [], host, port⟩

end PersistedDocument.Url
