import PersistedDocument.GraphQL.BlockString
import PersistedDocument.GraphQL.Token
import PersistedDocument.Text.CodePoint
import PersistedDocument.Text.Hexadecimal

/-!
# Lexical analysis

`lex` turns a text into its tokens. It never fails as a whole: what it returns is the tokens up to
the first lexical error, if there is one, and that error. A reader of tokens that stops before the
error is reached never learns of it.

Each scanner below returns what it read and the number of characters that this took.
-/

namespace PersistedDocument.GraphQL

/-- Why a text cannot be cut into tokens any further. -/
inductive LexicalError where
  /-- No token starts with this character. -/
  | unexpectedCharacter (c : Char)
  /-- A digit follows a leading zero. -/
  | digitAfterZero (found : Char)
  /-- A number goes on with something else than a digit, or not at all. -/
  | expectedDigit (found : Option Char)
  /-- A string has no closing quotation mark, on its line if it is a quoted one. -/
  | unterminatedString
  /-- No escape is written this way. -/
  | invalidEscape (written : List Char)
  /-- An escape by code point is cut short or names no character. -/
  | invalidUnicodeEscape (written : List Char)
deriving DecidableEq, Repr

/-- How a message refers to a character; `none` is the end of the text. -/
def describeCharacter : Option Char → String
  | none => "<EOF>"
  | some c =>
    if ' ' ≤ c ∧ c ≤ '~' then "'" ++ c.toString ++ "'"
    else "U+" ++ String.ofList (Hexadecimal.atLeast 4 c.toNat)

/-- What is said about a lexical error. -/
def LexicalError.message : LexicalError → String
  | .unexpectedCharacter c =>
    if c = '\'' then
      "Unexpected single quote character ('), did you mean to use a double quote (\")?"
    else "Unexpected character: " ++ describeCharacter (some c) ++ "."
  | .digitAfterZero c =>
    "Invalid number, unexpected digit after 0: " ++ describeCharacter (some c) ++ "."
  | .expectedDigit c => "Invalid number, expected digit but got: " ++ describeCharacter c ++ "."
  | .unterminatedString => "Unterminated string."
  | .invalidEscape w => "Invalid character escape sequence: '" ++ String.ofList w ++ "'."
  | .invalidUnicodeEscape w => "Invalid Unicode escape sequence: '" ++ String.ofList w ++ "'."

namespace Lexer

/-- The characters that stand for nothing between tokens, comments apart. -/
def isIgnored (c : Char) : Bool :=
  c = ' ' || c = '\t' || c = ',' || c = '\n' || c = '\r' || c = '\uFEFF'

/-- The characters at which a comment ends. -/
def isLineEnd (c : Char) : Bool := c = '\n' || c = '\r'

/-- The characters that a name starts with. -/
def isNameStart (c : Char) : Bool := c.isAlpha || c = '_'

/-- The characters that a name goes on with. -/
def isNameContinue (c : Char) : Bool := c.isAlphanum || c = '_'

/-! ### Numbers -/

/-- A run of digits that must not be empty. -/
def digits (cs : List Char) : Except LexicalError (List Char) :=
  let run := cs.takeWhile Char.isDigit
  if run.isEmpty then .error (.expectedDigit cs.head?) else .ok run

/-- The integer part of a number, without its sign: a zero, or digits of which the first is not
one. -/
def wholePart : List Char → Except LexicalError (List Char)
  | '0' :: c :: _ => if c.isDigit then .error (.digitAfterZero c) else .ok ['0']
  | '0' :: [] => .ok ['0']
  | cs => digits cs

/-- The fraction of a number, with its point; empty when there is none. -/
def fractionPart : List Char → Except LexicalError (List Char)
  | '.' :: cs => ('.' :: ·) <$> digits cs
  | _ => .ok []

/-- The digits of an exponent and the sign before them. -/
def signedDigits : List Char → Except LexicalError (List Char)
  | '+' :: cs => ('+' :: ·) <$> digits cs
  | '-' :: cs => ('-' :: ·) <$> digits cs
  | cs => digits cs

/-- The exponent of a number, with its letter; empty when there is none. -/
def exponentPart : List Char → Except LexicalError (List Char)
  | 'e' :: cs => ('e' :: ·) <$> signedDigits cs
  | 'E' :: cs => ('E' :: ·) <$> signedDigits cs
  | _ => .ok []

/-- The minus sign of a number; empty when there is none. -/
def signPart : List Char → List Char
  | '-' :: _ => ['-']
  | _ => []

/-- A number, which a point or a name must not follow. -/
def number (cs : List Char) : Except LexicalError (Token × Nat) := do
  let sign := signPart cs
  let rest := cs.drop sign.length
  let whole ← wholePart rest
  let rest := rest.drop whole.length
  let fraction ← fractionPart rest
  let rest := rest.drop fraction.length
  let exponent ← exponentPart rest
  let rest := rest.drop exponent.length
  let text := sign ++ whole ++ fraction ++ exponent
  if rest.head?.any fun c => c = '.' || isNameStart c then
    throw (.expectedDigit rest.head?)
  else if fraction.isEmpty && exponent.isEmpty then
    return (.int (String.ofList text), text.length)
  else
    return (.float (String.ofList text), text.length)

/-! ### Strings -/

/-- The number that four hexadecimal digits at the start of a text spell. -/
def unicodeUnit? : List Char → Option Nat
  | a :: b :: c :: d :: _ => Hexadecimal.read? [a, b, c, d]
  | _ => none

/-- An escape of four digits, read after its letter; two of them may form a surrogate pair. -/
def fixedEscape (cs : List Char) : Except LexicalError (Char × Nat) :=
  let refused := .error (.invalidUnicodeEscape ('\\' :: 'u' :: cs.take 4))
  match unicodeUnit? cs with
  | none => refused
  | some n =>
    if CodePoint.isLeading n then
      match cs.drop 4 with
      | '\\' :: 'u' :: more =>
        match unicodeUnit? more with
        | some m =>
          if CodePoint.isTrailing m then .ok (Char.ofNat (CodePoint.pairValue n m), 11) else refused
        | none => refused
      | _ => refused
    else if CodePoint.isTrailing n then refused
    else .ok (Char.ofNat n, 5)

/-- The most characters that may follow the opening brace of an escape, the closing one
included. -/
def bracedLimit : Nat := 9

/-- An escape of any number of digits between braces, read after the opening one. -/
def bracedEscape (cs : List Char) : Except LexicalError (Char × Nat) :=
  let window := cs.take bracedLimit
  let run := window.takeWhile fun c => (Hexadecimal.value? c).isSome
  let refused (last : List Char) :=
    .error (.invalidUnicodeEscape ('\\' :: 'u' :: '{' :: run ++ last))
  match window.drop run.length with
  | [] => refused []
  | '}' :: _ =>
    match Hexadecimal.read? run with
    | some n =>
      if !run.isEmpty && n.isValidChar then .ok (Char.ofNat n, run.length + 3) else refused ['}']
    | none => refused ['}']
  | c :: _ => refused [c]

/-- The character that an escape stands for, read after the backslash. -/
def escape : List Char → Except LexicalError (Char × Nat)
  | [] => .error (.invalidEscape ['\\'])
  | '"' :: _ => .ok ('"', 1)
  | '\\' :: _ => .ok ('\\', 1)
  | '/' :: _ => .ok ('/', 1)
  | 'b' :: _ => .ok ('\x08', 1)
  | 'f' :: _ => .ok ('\x0c', 1)
  | 'n' :: _ => .ok ('\n', 1)
  | 'r' :: _ => .ok ('\r', 1)
  | 't' :: _ => .ok ('\t', 1)
  | 'u' :: '{' :: cs => bracedEscape cs
  | 'u' :: cs => fixedEscape cs
  | c :: _ => .error (.invalidEscape ['\\', c])

/-- A quoted string, read after its opening quotation mark up to the closing one. -/
def quoted : List Char → Except LexicalError (List Char × Nat)
  | [] => .error .unterminatedString
  | c :: cs =>
    if c = '"' then .ok ([], 1)
    else if c = '\\' then do
      let (decoded, size) ← escape cs
      let (value, used) ← quoted (cs.drop size)
      return (decoded :: value, 1 + size + used)
    else if isLineEnd c then .error .unterminatedString
    else do
      let (value, used) ← quoted cs
      return (c :: value, 1 + used)
termination_by cs => cs.length
decreasing_by all_goals simp only [List.length_cons, List.length_drop]; omega

/-- The text between triple quotes, read after the opening ones up to the closing ones. -/
def blockText : List Char → Except LexicalError (List Char × Nat)
  | '"' :: '"' :: '"' :: _ => .ok ([], 3)
  | '\\' :: '"' :: '"' :: '"' :: cs => do
    let (raw, used) ← blockText cs
    return ('"' :: '"' :: '"' :: raw, 4 + used)
  | c :: cs => do
    let (raw, used) ← blockText cs
    return (c :: raw, 1 + used)
  | [] => .error .unterminatedString

/-! ### Tokens -/

/-- The token that starts with `c` and goes on in `cs`, where `c` is not ignored. -/
def token (c : Char) (cs : List Char) : Except LexicalError (Token × Nat) :=
  match Punctuator.ofChar? c with
  | some p => .ok (.punctuator p, 1)
  | none =>
    if c = '"' then
      match cs with
      | '"' :: '"' :: raw => do
        let (text, used) ← blockText raw
        return (.block (String.ofList (BlockString.value text)), 3 + used)
      | _ => do
        let (value, used) ← quoted cs
        return (.string (String.ofList value), 1 + used)
    else if c = '.' then
      match cs with
      | '.' :: '.' :: _ => .ok (.punctuator .spread, 3)
      | _ => .error (.unexpectedCharacter c)
    else if c.isDigit || c = '-' then number (c :: cs)
    else if isNameStart c then
      let rest := cs.takeWhile isNameContinue
      .ok (.name (String.ofList (c :: rest)), 1 + rest.length)
    else .error (.unexpectedCharacter c)

end Lexer

open Lexer in
/-- The tokens of a text, and the lexical error that ends them if the text does not end first. -/
def lexCharacters : List Char → List Token × Option LexicalError
  | [] => ([], none)
  | c :: cs =>
    if isIgnored c then lexCharacters cs
    else if c = '#' then lexCharacters (cs.dropWhile fun c => !isLineEnd c)
    else
      match token c cs with
      | .error e => ([], some e)
      | .ok (t, used) =>
        let (tokens, ending) := lexCharacters (cs.drop (used - 1))
        (t :: tokens, ending)
termination_by cs => cs.length
decreasing_by
  · simp
  · have := (List.dropWhile_suffix (fun c => !isLineEnd c) (l := cs)).length_le
    simp only [List.length_cons]; omega
  · simp only [List.length_cons, List.length_drop]; omega

/-- The tokens of a text, and the lexical error that ends them if the text does not end first. -/
def lex (text : String) : List Token × Option LexicalError := lexCharacters text.toList

end PersistedDocument.GraphQL
