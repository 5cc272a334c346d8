import PersistedDocument.Text.Quoted
import PersistedDocument.Text.Split
import PersistedDocument.Text.Utf8

/-!
# Directories

A tree of files below the directory in which the program runs, and what opening a path in it gives.
Nothing is known of what lies outside the tree but that it holds the directory itself.
-/

namespace PersistedDocument.CommandLine

open PersistedDocument.Text

/-- What a path can lead to. -/
inductive Entry where
  | file (content : Octets)
  | directory
deriving DecidableEq, Repr

/-- Why a file cannot be opened. -/
inductive OpenError where
  /-- There is no such file. -/
  | notFound
  /-- The path goes through something that is no directory. -/
  | notDirectory
  /-- The path leads to a directory. -/
  | isDirectory
  /-- The path or a name in it is too long. -/
  | nameTooLong
  /-- Anything else that the system says. -/
  | system (number : Nat) (description : String)
deriving DecidableEq, Repr

namespace OpenError

/-- The number of an error. -/
def number : OpenError → Nat
  | .notFound => 2
  | .notDirectory => 20
  | .isDirectory => 21
  | .nameTooLong => 36
  | .system number _ => number

/-- What is said about an error. -/
def description : OpenError → String
  | .notFound => "No such file or directory"
  | .notDirectory => "Not a directory"
  | .isDirectory => "Is a directory"
  | .nameTooLong => "File name too long"
  | .system _ description => description

/-- What is said about an error with a file. -/
def message (e : OpenError) (file : String) : String :=
  "[Errno " ++ toString e.number ++ "] " ++ e.description ++ ": " ++ quote file

end OpenError

/-- A way through directories, by names. -/
abbrev Path := List (List Char)

/-- The names in a path. A slash at the end stands for the directory itself. -/
def Path.ofText (cs : List Char) : Path :=
  (splitOn '/' cs).filter (fun name => !name.isEmpty)
    ++ if cs.getLast? = some '/' then [['.']] else []

/-- A directory: what it holds, by path. -/
structure Directory where
  /-- The entries, by their paths. -/
  entries : List (Path × Entry)

namespace Directory

/-- What stands at a path without steps up. A directory is there too if something stands in it. -/
def entry? (d : Directory) (path : Path) : Option Entry :=
  match d.entries.lookup path with
  | some e => some e
  | none => if path.isEmpty || d.entries.any (path.isPrefixOf ·.1) then some .directory else none

/-- A place in or around a directory. -/
inductive Place where
  /-- Inside, at a path that is given last name first. -/
  | inside (path : Path)
  /-- Outside. -/
  | outside

/-- The place above a place. -/
def Place.parent : Place → Place
  | .inside (_ :: path) => .inside path
  | .inside [] | .outside => .outside

/-- What stands at a place. -/
def entryAt? (d : Directory) : Place → Option Entry
  | .inside path => d.entry? path.reverse
  | .outside => some .directory

/-- The greatest number of octets of a name. -/
def longestName : Nat := 255

/-- The least number of octets that is too much for a path. -/
def tooLongPath : Nat := 4096

/-- The place that a name leads to from a directory. -/
def step (d : Directory) (place : Place) (name : List Char) : Except OpenError Place :=
  if name = ['.'] then .ok place
  else if name = ['.', '.'] then .ok place.parent
  else if (Utf8.encodeCharacters name).length > longestName then .error .nameTooLong
  else
    match place with
    | .outside => .error .notFound
    | .inside path =>
      if (d.entry? (name :: path).reverse).isSome then .ok (.inside (name :: path))
      else .error .notFound

/-- What a path leads to from a place. -/
def walk (d : Directory) (place : Place) : Path → Except OpenError Entry
  | [] => (d.entryAt? place).elim (.error .notFound) .ok
  | name :: rest =>
    match d.entryAt? place with
    | some .directory => do
      let next ← d.step place name
      d.walk next rest
    | some (.file _) => .error .notDirectory
    | none => .error .notFound

/-- The content of the file with a name. -/
def read (d : Directory) (file : String) : Except OpenError Octets := do
  let cs := file.toList
  if cs.isEmpty then throw .notFound
  if (Utf8.encode file).length ≥ tooLongPath then throw .nameTooLong
  let start := if cs.head? = some '/' then .outside else .inside []
  match ← d.walk start (Path.ofText cs) with
  | .file content => return content
  | .directory => throw .isDirectory

/-- The content of a file in the directory itself, if there is one. -/
def content? (d : Directory) (name : String) : Option Octets :=
  match d.entry? [name.toList] with
  | some (.file content) => some content
  | _ => none

end Directory

end PersistedDocument.CommandLine
