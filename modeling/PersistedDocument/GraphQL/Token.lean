/-!
# Tokens

The lexical vocabulary of GraphQL documents: punctuators, names, numbers and the two kinds of
string. A token carries its decoded text and no position, so two texts with the same tokens are the
same to everything that follows.
-/

namespace PersistedDocument.GraphQL

/-- The punctuators that the grammar uses. -/
inductive Punctuator where
  | bang
  | dollar
  | ampersand
  | parenOpen
  | parenClose
  | spread
  | colon
  | equals
  | atSign
  | bracketOpen
  | bracketClose
  | braceOpen
  | braceClose
  | pipe
deriving DecidableEq, Repr

/-- The spelling of a punctuator. -/
def Punctuator.text : Punctuator → String
  | .bang => "!"
  | .dollar => "$"
  | .ampersand => "&"
  | .parenOpen => "("
  | .parenClose => ")"
  | .spread => "..."
  | .colon => ":"
  | .equals => "="
  | .atSign => "@"
  | .bracketOpen => "["
  | .bracketClose => "]"
  | .braceOpen => "\x7b"
  | .braceClose => "\x7d"
  | .pipe => "|"

/-- The punctuator that consists of one character; the spread is the only longer one. -/
def Punctuator.ofChar? : Char → Option Punctuator
  | '!' => some .bang
  | '$' => some .dollar
  | '&' => some .ampersand
  | '(' => some .parenOpen
  | ')' => some .parenClose
  | ':' => some .colon
  | '=' => some .equals
  | '@' => some .atSign
  | '[' => some .bracketOpen
  | ']' => some .bracketClose
  | '{' => some .braceOpen
  | '}' => some .braceClose
  | '|' => some .pipe
  | _ => none

/-- A lexical token with its decoded text. -/
inductive Token where
  /-- A punctuator. -/
  | punctuator (p : Punctuator)
  /-- A name, which may be a keyword. -/
  | name (text : String)
  /-- An integer literal, as written. -/
  | int (text : String)
  /-- A literal with a fraction or an exponent, as written. -/
  | float (text : String)
  /-- A quoted string, with its escapes resolved. -/
  | string (value : String)
  /-- A block string, with its common indentation removed. -/
  | block (value : String)
deriving DecidableEq, Repr

/-- The text that a token stands for; for a punctuator its spelling. -/
def Token.text : Token → String
  | .punctuator p => p.text
  | .name t | .int t | .float t | .string t | .block t => t

/-- How a message refers to a token; `none` is the end of the text. -/
def Token.describe : Option Token → String
  | none => "<EOF>"
  | some (.punctuator p) => "'" ++ p.text ++ "'"
  | some (.name t) => "Name '" ++ t ++ "'"
  | some (.int t) => "Int '" ++ t ++ "'"
  | some (.float t) => "Float '" ++ t ++ "'"
  | some (.string t) => "String '" ++ t ++ "'"
  | some (.block t) => "BlockString '" ++ t ++ "'"

end PersistedDocument.GraphQL
