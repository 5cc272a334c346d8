import PersistedDocument.Text.Blank
import PersistedDocument.Text.Lines
import PersistedDocument.Text.Utf8

/-!
# Environment files

A file of lines `name=value`, from which settings are read. A value may be quoted, and then it may
spread over several lines; a name without an equals sign has no value. A line that cannot be read is
skipped from where it stops making sense. Afterwards references in braces after a dollar sign are
replaced by the values that names have earlier in the file or in the environment.
-/

namespace PersistedDocument.Settings.EnvironmentFile

open PersistedDocument.Text

/-- A name and what a file says about it. -/
structure Binding where
  /-- The name. -/
  name : String
  /-- Its value, if the name is followed by an equals sign. -/
  value : Option String
deriving DecidableEq, Repr

/-! ### Lines -/

/-- The blanks that do not end a line. -/
def isInlineBlank (c : Char) : Bool := isBlank c && c ≠ '\n'

/-- The characters of a name without quotes. -/
def isNameCharacter (c : Char) : Bool := c ≠ '=' && c ≠ '#' && !isBlank c

/-- A text from the next line on. -/
def nextLine (cs : List Char) : List Char := (cs.dropWhile (· ≠ '\n')).drop 1

/-- A text without the word `export` and the blanks after it. -/
def skipExport : List Char → List Char
  | 'e' :: 'x' :: 'p' :: 'o' :: 'r' :: 't' :: c :: cs =>
    if isInlineBlank c then cs.dropWhile isInlineBlank
    else 'e' :: 'x' :: 'p' :: 'o' :: 'r' :: 't' :: c :: cs
  | cs => cs

/-- What a scanner gives: what it read and the text after it, or the text at which it stopped. -/
abbrev Scan := Except (List Char)

/-- The name at the start of a line; none in a line that is a comment. -/
def scanName (cs : List Char) : Scan (Option (List Char) × List Char) :=
  match cs with
  | '#' :: _ => .ok (none, cs)
  | '\'' :: rest =>
    let inner := rest.takeWhile (· ≠ '\'')
    match inner, rest.drop inner.length with
    | _ :: _, _ :: after => .ok (some inner, after)
    | _, _ => .error cs
  | _ =>
    let run := cs.takeWhile isNameCharacter
    if run.isEmpty then .error cs else .ok (some run, cs.drop run.length)

/-- The escapes between single quotes. -/
def singleEscape? : Char → Option Char
  | '\\' => some '\\'
  | '\'' => some '\''
  | _ => none

/-- The escapes between double quotes. -/
def doubleEscape? : Char → Option Char
  | '\\' => some '\\'
  | '\'' => some '\''
  | '"' => some '"'
  | 'a' => some '\x07'
  | 'b' => some '\x08'
  | 'f' => some '\x0c'
  | 'n' => some '\n'
  | 'r' => some '\r'
  | 't' => some '\t'
  | 'v' => some '\x0b'
  | _ => none

/-- A quoted value, read after its opening quote up to the closing one. A backslash keeps the next
character from closing it, and stays where the two are no escape. -/
def quotedValue (quote : Char) (escape? : Char → Option Char) :
    List Char → Option (List Char × List Char)
  | [] => none
  | '\\' :: c :: cs => do
    let (value, rest) ← quotedValue quote escape? cs
    match escape? c with
    | some decoded => return (decoded :: value, rest)
    | none => return ('\\' :: c :: value, rest)
  | c :: cs =>
    if c = quote then some ([], cs)
    else if c = '\\' then none
    else do
      let (value, rest) ← quotedValue quote escape? cs
      return (c :: value, rest)

/-- A line of text up to the blanks before a comment in it. -/
def beforeComment : List Char → List Char
  | [] => []
  | c :: cs =>
    if isBlank c && ((c :: cs).dropWhile isBlank).head? = some '#' then []
    else c :: beforeComment cs

/-- A value without quotes: the rest of the line up to a comment, without blanks at its end. -/
def plainValue (cs : List Char) : List Char × List Char :=
  (trimEnd isBlank (beforeComment (cs.takeWhile (· ≠ '\n'))), cs.dropWhile (· ≠ '\n'))

/-- The value after an equals sign. -/
def scanValue (afterEquals : List Char) : Scan (List Char × List Char) :=
  let cs := afterEquals.dropWhile isInlineBlank
  match cs with
  | '#' :: _ =>
    if cs.length < afterEquals.length then .ok ([], cs) else .ok (plainValue cs)
  | '\'' :: rest => (quotedValue '\'' singleEscape? rest).elim (.error cs) .ok
  | '"' :: rest => (quotedValue '"' doubleEscape? rest).elim (.error cs) .ok
  | _ => .ok (plainValue cs)

/-- The equals sign and the value after a name, if there are any. -/
def scanAssignment : List Char → Scan (Option (List Char) × List Char)
  | '=' :: rest => do
    let (value, after) ← scanValue rest
    return (some value, after)
  | cs => .ok (none, cs)

/-- A text without the comment that it starts with, blanks before it included. -/
def skipComment (cs : List Char) : List Char :=
  match cs.dropWhile isInlineBlank with
  | '#' :: rest => rest.dropWhile (· ≠ '\n')
  | _ => cs

/-- The end of a line, possibly after blanks. -/
def scanLineEnd (cs : List Char) : Scan (List Char) :=
  match cs.dropWhile isInlineBlank with
  | [] => .ok []
  | '\n' :: rest => .ok rest
  | _ => .error cs

/-- A binding or a comment, up to the end of its line. -/
def scanBinding (cs : List Char) : Scan (Option Binding × List Char) := do
  let (name, cs) ← scanName (skipExport cs)
  let (value, cs) ← scanAssignment (cs.dropWhile isInlineBlank)
  let rest ← scanLineEnd (skipComment cs)
  return (name.map fun n => ⟨String.ofList n, value.map String.ofList⟩, rest)

/-- The bindings of a file, in order. Each step moves on in the file, which bounds their number. -/
def bindings (cs : List Char) : List Binding :=
  let start := cs.dropWhile isBlank
  if start.isEmpty then []
  else
    let (found, rest) := match scanBinding start with
      | .ok (found, rest) => (found, rest)
      | .error stopped => (none, nextLine stopped)
    if rest.length < cs.length then found.toList ++ bindings rest else found.toList
termination_by cs.length

/-! ### References -/

/-- A reference to a name. -/
structure Reference where
  /-- The name that is referred to. -/
  name : List Char
  /-- What stands for it when it is nowhere given. -/
  default : List Char
  /-- The number of characters that the reference takes after its dollar sign and brace. -/
  size : Nat

/-- The reference at the start of a text, read after the dollar sign and the opening brace. -/
def reference? (cs : List Char) : Option Reference :=
  let name := cs.takeWhile fun c => c ≠ '}' && c ≠ ':'
  match cs.drop name.length with
  | '}' :: _ => some ⟨name, [], name.length + 1⟩
  | ':' :: '-' :: rest =>
    let default := rest.takeWhile (· ≠ '}')
    if default.length < rest.length then some ⟨name, default, name.length + default.length + 3⟩
    else none
  | _ => none

/-- A text with its references replaced. -/
def interpolate (lookup : String → Option String) : List Char → List Char
  | [] => []
  | c :: cs =>
    match if c = '$' && cs.head? = some '{' then reference? (cs.drop 1) else none with
    | some r =>
      ((lookup (String.ofList r.name)).elim r.default String.toList)
        ++ interpolate lookup (cs.drop (1 + r.size))
    | none => c :: interpolate lookup cs
termination_by cs => cs.length
decreasing_by all_goals simp only [List.length_cons, List.length_drop]; omega

/-- What a name stands for in a reference: what the file says last, where a name without a value is
empty, else what the environment says. The bindings come newest first. -/
def meaning (env : String → Option String) (known : List Binding) (name : String) : Option String :=
  match known.find? (·.name = name) with
  | some b => some (b.value.getD "")
  | none => env name

/-- Replaces the references in the values of bindings, given the earlier ones, newest first. The
result has the newest first. -/
def resolveOnto (env : String → Option String) (known : List Binding) : List Binding → List Binding
  | [] => known
  | b :: bs =>
    let value := b.value.map fun v => String.ofList (interpolate (meaning env known) v.toList)
    resolveOnto env (⟨b.name, value⟩ :: known) bs

/-- The value that a name has after all bindings of a file. -/
def lookup (env : String → Option String) (bs : List Binding) (name : String) : Option String :=
  ((resolveOnto env [] bs).find? (·.name = name)).bind (·.value)

/-! ### Files -/

/-- The text of a file without a byte order mark and with line feeds at its line ends. -/
def fileText? (octets : Octets) : Option (List Char) := do
  let s ← Utf8.decode? octets
  return unifyNewlines <| match s.toList with
    | '\uFEFF' :: cs => cs
    | cs => cs

/-- The values of the names in a file; none if the file is no text. -/
def values? (env : String → Option String) (octets : Octets) : Option (String → Option String) :=
  (fun cs => lookup env (bindings cs)) <$> fileText? octets

end PersistedDocument.Settings.EnvironmentFile
