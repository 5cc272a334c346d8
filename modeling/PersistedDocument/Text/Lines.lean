import PersistedDocument.Text.Split

/-!
# Lines of text

A line ends at a line feed, at a carriage return, or at the two together. `unifyNewlines` writes
every line end as a line feed, so that lines are what lies between line feeds.
-/

namespace PersistedDocument.Text

/-- Writes each line end as one line feed. -/
def unifyNewlines : List Char → List Char
  | [] => []
  | '\r' :: '\n' :: cs => '\n' :: unifyNewlines cs
  | c :: cs => (if c = '\r' then '\n' else c) :: unifyNewlines cs

/-- The lines of a text whose line ends are line feeds. -/
def splitLines (cs : List Char) : List (List Char) := splitOn '\n' cs

/-- Joins lines with line feeds. -/
def joinLines (lines : List (List Char)) : List Char := joinWith ['\n'] lines

/-- Starts every line but the first with `margin`, which goes after each line feed. -/
def indentAfterNewlines (margin : List Char) (cs : List Char) : List Char :=
  cs.flatMap fun c => if c = '\n' then '\n' :: margin else [c]

end PersistedDocument.Text
