import PersistedDocument.CommandLine.Arguments
import PersistedDocument.CommandLine.Template
import PersistedDocument.Decimal.Reading
import PersistedDocument.Text.Lines
import PersistedDocument.Text.Wrap

/-!
# Help

The texts that explain the program, laid out for a number of columns.
-/

namespace PersistedDocument.CommandLine

open PersistedDocument.Text

/-- The name of the program. -/
def programName : String := "persist-query"

/-- What the program does. -/
def programPurpose : String := "Persist a GraphQL document on OneGraph and print its id."

/-- The name of the operand. -/
def operandName : String := "file"

/-- What the operand is. -/
def operandPurpose : String := "GraphQL document to persist (default: stdin)"

/-- What a switch does. -/
def Switch.purpose : Switch → String
  | .help => "show this help message and exit"
  | .dryRun => "print the rewritten query and its free variables without submitting"
  | .version => "show program's version number and exit"

/-! ### Columns -/

/-- The columns when nothing else is known. -/
def usualColumns : Nat := 80

/-- The number of columns that the environment gives; anything but a positive number counts as
nothing. -/
def columns (given : Option String) : Nat :=
  match given >>= Decimal.int? with
  | some n => if 0 < n then n.toNat else usualColumns
  | none => usualColumns

/-- The width of texts on a number of columns. -/
def textWidth (columns : Nat) : Nat := columns - 2

/-- The least width to which text is wrapped. -/
def leastWidth : Nat := 11

/-! ### Usage -/

/-- The word before a usage. -/
def usageHeading : List Char := "usage: ".toList

/-- The switches as they stand in a usage: each in its shortest form, in brackets. -/
def switchParts : List (List Char) :=
  Switch.all.map fun s => '[' :: (s.short?.getD s.long).toList ++ [']']

/-- The operand as it stands in a usage. -/
def operandParts : List (List Char) := ['[' :: operandName.toList ++ [']']]

/-- Distributes parts over lines. A part goes on the next line if it does not fit on the current
one, which is `used` long, unless that line has no part yet. -/
def distribute (width margin : Nat) (used : Nat) (line : List (List Char)) :
    List (List Char) → List (List (List Char))
  | [] => if line.isEmpty then [] else [line]
  | part :: parts =>
    if used + 1 + part.length > width && !line.isEmpty then
      line :: distribute width margin (margin + part.length) [part] parts
    else distribute width margin (used + 1 + part.length) (line ++ [part]) parts

/-- Lines of parts after a margin. -/
def marginLines (width margin : Nat) (parts : List (List Char)) : List (List Char) :=
  (distribute width margin (margin - 1) [] parts).map fun line =>
    List.replicate margin ' ' ++ joinWith [' '] line

/-- The lines of a usage that does not fit on one line: after the name of the program if that
leaves a quarter of the width, else below it. The operand starts a line of its own, unless
everything fits on one. -/
def usageLines (width : Nat) : List (List Char) :=
  let name := programName.toList
  let beside := usageHeading.length + name.length
  if 4 * beside ≤ 3 * width then
    let margin := beside + 1
    let switches := distribute width margin (usageHeading.length - 1) [] (name :: switchParts)
    let first := switches.take 1 |>.map (joinWith [' '])
    let others := switches.drop 1 |>.map fun line =>
      List.replicate margin ' ' ++ joinWith [' '] line
    first ++ others ++ marginLines width margin operandParts
  else
    let margin := usageHeading.length
    let together := marginLines width margin (switchParts ++ operandParts)
    name :: if together.length > 1 then
      marginLines width margin switchParts ++ marginLines width margin operandParts
    else together

/-- The usage of the program, without a line end. -/
def usage (columns : Nat) : List Char :=
  let width := max (textWidth columns) leastWidth
  let whole := joinWith [' '] (programName.toList :: switchParts ++ operandParts)
  usageHeading ++
    if usageHeading.length + whole.length > width then joinLines (usageLines width) else whole

/-! ### The help text -/

/-- The column in which explanations start. -/
def purposeColumn (columns : Nat) : Nat := min 14 (min 24 (max (textWidth columns - 20) 4))

/-- An entry of a list: a name, and its explanation beside it or below it. -/
def entry (columns : Nat) (name purpose : String) : List (List Char) :=
  let column := purposeColumn columns
  let margin := List.replicate column ' '
  let lines := wrap (max (textWidth columns - column) leastWidth) purpose.toList
  let heading := ' ' :: ' ' :: name.toList
  if heading.length + 2 ≤ column then
    let beside := heading ++ List.replicate (column - heading.length) ' '
    (lines.take 1).map (beside ++ ·) ++ (lines.drop 1).map (margin ++ ·)
  else heading :: lines.map (margin ++ ·)

/-- A list of entries under a heading. -/
def entryList (heading : String) (entries : List (List (List Char))) : List Char :=
  joinLines ((heading ++ ":").toList :: entries.flatten)

/-- The help text. -/
def helpText (columns : Nat) : String :=
  let operands := entryList "positional arguments" [entry columns operandName operandPurpose]
  let switches := entryList "options" (Switch.all.map fun s =>
    entry columns (", ".intercalate s.forms) s.purpose)
  let purpose := fill (max (textWidth columns) leastWidth) programPurpose.toList
  String.ofList
    (joinWith ['\n', '\n'] [usage columns, purpose, operands, switches] ++ ['\n'])

/-! ### The version -/

/-- The word by which templates name the program. -/
def programWord : List Char := "prog".toList

/-- The values of templates: the name of the program. All values together are written as a table. -/
def programValues : Template.Values :=
  let quoted := quoteCharacters programName.toList
  let table := '\x7b' :: quoteCharacters programWord ++ ':' :: ' ' :: quoted ++ ['\x7d']
  ⟨[(programWord, ⟨programName.toList, quoted⟩)], ⟨table, table⟩⟩

/-- A text, in which the name of the program is filled in if it has a slot for that. Other texts
are no templates. -/
def fillIn (text : List Char) : Except Template.Flaw (List Char) :=
  if occursIn ('%' :: '(' :: programWord ++ [')']) text then Template.fill programValues text
  else .ok text

/-- The text that gives the version. -/
def versionText (columns : Nat) (projectName version : String) : Except Template.Flaw String := do
  let text ← fillIn (projectName ++ " " ++ version).toList
  return String.ofList (fill (max (textWidth columns) leastWidth) text ++ ['\n'])

/-! ### Misuse -/

/-- The text that reports a misuse. -/
def misuseText (columns : Nat) (m : Misuse) : String :=
  String.ofList (usage columns) ++ "\n" ++ programName ++ ": error: " ++ m.message ++ "\n"

end PersistedDocument.CommandLine
