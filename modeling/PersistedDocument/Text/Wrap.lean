import PersistedDocument.Text.Blank
import PersistedDocument.Text.Split
import PersistedDocument.Text.WordCharacter

/-!
# Wrapping text

A text is broken into lines of a width. It is cut into chunks, which are words, parts of words after
which a break may come, and the spaces between them. A line takes as many chunks as fit. A word that
fits on no line is broken where the line ends, or after a hyphen before that.
-/

namespace PersistedDocument.Text

/-! ### Chunks -/

/-- The characters that count as space between words. -/
def isSpace (c : Char) : Bool :=
  c = ' ' || c = '\t' || c = '\n' || c = '\r' || c = '\x0b' || c = '\x0c'

/-- A text with one space for each run of spaces, and nothing blank at its ends. -/
def collapseSpaces (cs : List Char) : List Char :=
  let words := splitOn ' ' (cs.map fun c => if isSpace c then ' ' else c)
  trim isBlank (joinWith [' '] (words.filter fun word => !word.isEmpty))

/-- Whether a character can end a word. -/
def isWordEnd (c : Char) : Bool := isWordCharacter c || "!\"'&.,?".contains c

/-- Whether a text starts with two letters, between which a hyphen may stand. -/
def startsHyphenated : List Char → Bool
  | a :: '-' :: b :: _ => isWordLetter a && isWordLetter b
  | a :: b :: _ => isWordLetter a && isWordLetter b
  | _ => false

/-- Whether a break may come after a hyphen in a word. What stands before the break is given last
first: the hyphen, and then two letters, between which another hyphen may stand. -/
def breaksAfterHyphen (before after : List Char) : Bool :=
  before.head? = some '-' && startsHyphenated before.tail && startsHyphenated after

/-- What follows a dash, which is written as two hyphens or more, at the start of a text. -/
def afterDash? : List Char → Option Char
  | '-' :: '-' :: cs => (cs.dropWhile (· = '-')).head?
  | _ => none

/-- Whether a break may come before a dash between words. -/
def breaksBeforeDash (before after : List Char) : Bool :=
  before.head?.any isWordEnd && (afterDash? after).any isWordCharacter

/-- Whether a break may come after a dash between words. What stands before the break is given last
first. -/
def breaksAfterDash (before after : List Char) : Bool :=
  after.head?.any isWordCharacter && (afterDash? before).any isWordEnd

/-- Whether a break may come between two parts of a word, of which the first is given last first. -/
def breaksBetween (before after : List Char) : Bool :=
  breaksAfterHyphen before after || breaksBeforeDash before after || breaksAfterDash before after

/-- The parts of a word between which a break may come. `before` is what of the word was read, last
first. -/
def wordParts (before : List Char) : List Char → List (List Char)
  | [] => []
  | c :: cs =>
    match wordParts (c :: before) cs with
    | [] => [[c]]
    | part :: parts =>
      if breaksBetween (c :: before) cs then [c] :: part :: parts else (c :: part) :: parts

/-- The chunks of a text in which single spaces separate words. -/
def chunks (cs : List Char) : List (List Char) :=
  (((splitOn ' ' cs).map (wordParts [])).intersperse [[' ']]).flatten

/-! ### Lines -/

/-- The chunks that fit on a line that is already filled up to `used`, and the other chunks. -/
def fitting (width : Nat) : Nat → List (List Char) → List (List Char) × List (List Char)
  | _, [] => ([], [])
  | used, c :: cs =>
    if used + c.length ≤ width then
      let (line, rest) := fitting width (used + c.length) cs
      (c :: line, rest)
    else ([], c :: cs)

/-- Where a chunk is broken of which `room` characters fit: after the last hyphen among them with
another character before it, else where the room ends. -/
def breakPoint (room : Nat) (chunk : List Char) : Nat :=
  match cutAtLast '-' (chunk.take room) with
  | (some before, _) => if before.any (· ≠ '-') then before.length + 1 else room
  | (none, _) => room

/-- The first line of chunks, and the chunks after it. A chunk that fits on no line is broken. -/
def firstLine (width : Nat) (cs : List (List Char)) : List (List Char) × List (List Char) :=
  match fitting width 0 cs with
  | (line, c :: rest) =>
    if c.length > width then
      let point := breakPoint (width - line.flatten.length) c
      (line ++ [c.take point], c.drop point :: rest)
    else (line, c :: rest)
  | (line, []) => (line, [])

/-- Chunks without a last one that is blank. -/
def dropLastBlank (line : List (List Char)) : List (List Char) :=
  match line.getLast? with
  | some chunk => if chunk.all isBlank then line.dropLast else line
  | none => line

/-- The lines of chunks, at most `count` of them. A line does not start with a space. -/
def linesOf (width : Nat) : Nat → List (List Char) → List (List Char)
  | 0, _ => []
  | count + 1, cs =>
    if cs.isEmpty then []
    else
      let (line, rest) := firstLine width cs
      let rest := match rest with
        | chunk :: more => if chunk.all isBlank then more else rest
        | [] => []
      (dropLastBlank line).flatten :: linesOf width count rest

/-- The lines of a text that is wrapped to a width, which must not be zero. Every line uses up at
least a character, which bounds their number. -/
def wrap (width : Nat) (cs : List Char) : List (List Char) :=
  let text := collapseSpaces cs
  linesOf width text.length (chunks text)

/-- A text that is wrapped to a width. -/
def fill (width : Nat) (cs : List Char) : List Char := joinWith ['\n'] (wrap width cs)

end PersistedDocument.Text
