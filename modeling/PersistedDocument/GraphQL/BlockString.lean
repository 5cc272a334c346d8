import PersistedDocument.Text.Lines

/-!
# Block strings

The value of a block string is what its lines say once the indentation that they share is removed,
and a printed block string is laid out so that this removal gives the value back.
-/

namespace PersistedDocument.GraphQL.BlockString

open PersistedDocument.Text

/-- The characters that indent a line. -/
def isBlank (c : Char) : Bool := c = ' ' || c = '\t'

/-- A line of blanks only. -/
def isBlankLine (line : List Char) : Bool := line.all isBlank

/-- The number of blanks that a line starts with. -/
def indentation (line : List Char) : Nat := (line.takeWhile isBlank).length

/-- The least indentation of the lines that are not blank, if there are any. -/
def commonIndentation (lines : List (List Char)) : Option Nat :=
  ((lines.filter fun line => !isBlankLine line).map indentation).min?

/-- Removes the indentation that all lines but the first share. -/
def removeIndentation : List (List Char) → List (List Char)
  | [] => []
  | first :: rest => first :: rest.map (List.drop ((commonIndentation rest).getD 0))

/-- Removes the blank lines at both ends. -/
def trimBlankLines (lines : List (List Char)) : List (List Char) :=
  ((lines.dropWhile isBlankLine).reverse.dropWhile isBlankLine).reverse

/-- The value that the text between the triple quotes stands for. -/
def value (raw : List Char) : List Char :=
  joinLines (trimBlankLines (removeIndentation (splitLines (unifyNewlines raw))))

/-- Three quotation marks, which open and close a block string. -/
def fence : List Char := ['"', '"', '"']

/-- Writes a backslash before each run of three quotation marks. -/
def escapeFences : List Char → List Char
  | '"' :: '"' :: '"' :: cs => '\\' :: '"' :: '"' :: '"' :: escapeFences cs
  | c :: cs => c :: escapeFences cs
  | [] => []

/-- The length above which a single line is put between fences of their own. -/
def longestInline : Nat := 70

/-- A value is written on lines of its own when it has several lines, is long, or ends in a
character that would run into the closing fence. -/
def standsAlone (value : List Char) : Bool :=
  let escaped := escapeFences value
  (splitLines (unifyNewlines escaped)).length > 1
    || value.length > longestInline
    || value.getLast? == some '"'
    || value.getLast? == some '\\'
    || ['\\', '"', '"', '"'].isSuffixOf escaped

/-- All lines after the first are empty or indented, so that they would lose their indentation if
the first line stood beside the opening fence. -/
def restIsIndented (lines : List (List Char)) : Bool :=
  lines.length > 1 && (lines.drop 1).all fun line => line.head?.all isBlank

/-- A single line that starts with a blank stays beside the opening fence. -/
def startsBlank (lines : List (List Char)) : Bool :=
  lines.length = 1 && (lines.flatten.head?.any isBlank)

/-- The written form of a value, fences included. -/
def written (value : List Char) : List Char :=
  let escaped := escapeFences value
  let lines := splitLines (unifyNewlines escaped)
  let before :=
    if restIsIndented lines || (standsAlone value && !startsBlank lines) then ['\n'] else []
  let after := if standsAlone value then ['\n'] else []
  fence ++ before ++ escaped ++ after ++ fence

end PersistedDocument.GraphQL.BlockString
