import PersistedDocument.Text.Hexadecimal
import PersistedDocument.Text.Printable

/-!
# Quoted names

A name from outside is shown in quotation marks, so that its ends can be seen and nothing in it is
invisible. The marks are single ones, unless the name holds such a mark and no double one.
-/

namespace PersistedDocument.Text

/-- The mark around a quoted text. -/
def quotationMark (cs : List Char) : Char :=
  if cs.contains '\'' && !cs.contains '"' then '"' else '\''

/-- The escape of a character by its number, in two, four or eight digits. -/
def numberEscape (c : Char) : List Char :=
  let n := c.toNat
  if n < 0x100 then '\\' :: 'x' :: Hexadecimal.fixed Hexadecimal.lower 2 n
  else if n < 0x10000 then '\\' :: 'u' :: Hexadecimal.fixed Hexadecimal.lower 4 n
  else '\\' :: 'U' :: Hexadecimal.fixed Hexadecimal.lower 8 n

/-- A character between two marks. -/
def quoteCharacter (mark c : Char) : List Char :=
  if c = mark || c = '\\' then ['\\', c]
  else if c = '\t' then ['\\', 't']
  else if c = '\n' then ['\\', 'n']
  else if c = '\r' then ['\\', 'r']
  else if isPrintable c then [c]
  else numberEscape c

/-- A text in quotation marks. -/
def quoteCharacters (cs : List Char) : List Char :=
  let mark := quotationMark cs
  mark :: cs.flatMap (quoteCharacter mark) ++ [mark]

/-- A string in quotation marks. -/
def quote (s : String) : String := String.ofList (quoteCharacters s.toList)

end PersistedDocument.Text
