import PersistedDocument.Decimal.Shortest
import PersistedDocument.Json.Value
import PersistedDocument.Text.Hexadecimal
import PersistedDocument.Text.Split

/-!
# Writing JSON

JSON texts without gaps or laid out over lines. They differ further in how they write the characters
of a string: `asciiOnly` escapes all but printable ASCII, `minimal` escapes only what must be.
-/

namespace PersistedDocument.Json

/-! ### Strings -/

/-- The escape by letter that a character has. -/
def letterOf? : Char → Option Char
  | '"' => some '"'
  | '\\' => some '\\'
  | '\x08' => some 'b'
  | '\x0c' => some 'f'
  | '\n' => some 'n'
  | '\r' => some 'r'
  | '\t' => some 't'
  | _ => none

/-- The escape of a code unit. -/
def unitEscape (n : Nat) : List Char := '\\' :: 'u' :: Hexadecimal.fixed Hexadecimal.lower 4 n

/-- How a code point is written in a string. -/
abbrev Escaping := CodePoint → List Char

/-- Escapes all but printable ASCII, beyond the first plane as a surrogate pair. -/
def asciiOnly : Escaping
  | .surrogate offset => unitEscape (CodePoint.firstSurrogate + offset.val)
  | .scalar c =>
    match letterOf? c with
    | some letter => ['\\', letter]
    | none =>
      if ' ' ≤ c ∧ c ≤ '~' then [c]
      else if c.toNat < 0x10000 then unitEscape c.toNat
      else
        let (leading, trailing) := CodePoint.pairOf c.toNat
        unitEscape leading ++ unitEscape trailing

/-- Escapes control characters below `0x20`, quotation marks, backslashes and surrogates. -/
def minimal : Escaping
  | .surrogate offset => unitEscape (CodePoint.firstSurrogate + offset.val)
  | .scalar c =>
    match letterOf? c with
    | some letter => ['\\', letter]
    | none => if c.toNat < 0x20 then unitEscape c.toNat else [c]

/-- A written string. -/
def writeString (esc : Escaping) (s : LooseText) : List Char := '"' :: s.flatMap esc ++ ['"']

/-! ### Numbers -/

/-- Numbers are positional from `0.0001` up to sixteen digits, and keep a fraction. -/
def numberLayout : Decimal.Layout := ⟨-4, 15, 2, "NaN", "Infinity"⟩

/-- A written whole number. -/
def writeInteger : Int → List Char
  | .ofNat n => Decimal.digits n
  | .negSucc n => '-' :: Decimal.digits (n + 1)

/-! ### Values -/

/-- How the parts of arrays and objects are set apart. -/
structure Spacing where
  /-- What goes between two items inside a given number of brackets. -/
  between : Nat → List Char
  /-- What goes after an opening and before a closing bracket that is not empty. -/
  around : Nat → List Char
  /-- What goes after a name. -/
  afterName : List Char

/-- Everything side by side. -/
def compact : Spacing := ⟨fun _ => [','], fun _ => [], [':']⟩

/-- A line break and the indentation of a level. -/
def lineBreak (level : Nat) : List Char := '\n' :: List.replicate (2 * level) ' '

/-- One item on a line, two spaces further right on each level. -/
def spread : Spacing := ⟨fun level => ',' :: lineBreak level, lineBreak, [':', ' ']⟩

/-- Items in brackets. -/
def bracket (spacing : Spacing) (level : Nat) (opening close : Char) (items : List (List Char)) :
    List Char :=
  if items.isEmpty then [opening, close]
  else
    opening :: spacing.around (level + 1) ++ Text.joinWith (spacing.between (level + 1)) items
      ++ spacing.around level ++ [close]

mutual

/-- A written value inside a given number of brackets. -/
def write (spacing : Spacing) (esc : Escaping) (level : Nat) : Json → List Char
  | .null => "null".toList
  | .boolean b => if b then "true".toList else "false".toList
  | .integer n => writeInteger n
  | .real x => (numberLayout.write x).toList
  | .string s => writeString esc s
  | .array vs => bracket spacing level '[' ']' (writeItems spacing esc (level + 1) vs)
  | .object ms => bracket spacing level '{' '}' (writeMembers spacing esc (level + 1) ms)

/-- The written items of an array. -/
def writeItems (spacing : Spacing) (esc : Escaping) (level : Nat) : List Json → List (List Char)
  | [] => []
  | v :: vs => write spacing esc level v :: writeItems spacing esc level vs

/-- The written members of an object. -/
def writeMembers (spacing : Spacing) (esc : Escaping) (level : Nat) :
    List (LooseText × Json) → List (List Char)
  | [] => []
  | (n, v) :: ms =>
    (writeString esc n ++ spacing.afterName ++ write spacing esc level v)
      :: writeMembers spacing esc level ms

end

/-- A value on one line of printable ASCII. -/
def serialize (v : Json) : String := String.ofList (write compact asciiOnly 0 v)

/-- A value on one line, with other characters than controls as they are. -/
def encode (v : Json) : String := String.ofList (write compact minimal 0 v)

/-- A value in printable ASCII over several lines. -/
def prettyPrint (v : Json) : String := String.ofList (write spread asciiOnly 0 v)

end PersistedDocument.Json
