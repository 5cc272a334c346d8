import PersistedDocument.GraphQL.Lexer

/-!
# Errors of syntax

Why a text is not a document, as a cause and as the message that reports it. A token of `none` is
the end of the text.
-/

namespace PersistedDocument.GraphQL

/-- What a rule of the grammar asks for at some point. -/
inductive Expectation where
  /-- Any name. -/
  | name
  /-- One particular name. -/
  | keyword (text : String)
  /-- One particular punctuator. -/
  | punctuator (p : Punctuator)
deriving DecidableEq, Repr

/-- How a message refers to what is expected. -/
def Expectation.describe : Expectation → String
  | .name => "Name"
  | .keyword k => "'" ++ k ++ "'"
  | .punctuator p => "'" ++ p.text ++ "'"

/-- Why a text is not a document. -/
inductive SyntaxError where
  /-- The next token cannot be read. -/
  | lexical (cause : LexicalError)
  /-- A rule asks for one thing and finds another. -/
  | expected (what : Expectation) (found : Option Token)
  /-- No rule applies to a token. -/
  | unexpected (found : Option Token)
  /-- A variable stands where only constants may. -/
  | variableInConstant (name : String)
  /-- A literal keyword is used as the name of an enumeration value. -/
  | reservedEnumValue (found : Option Token)
  /-- An operation in shorthand has a description. -/
  | descriptionOnShorthand
  /-- Something that takes no description has one. -/
  | descriptionNotAllowed
  /-- Too many selection sets, lists and objects are open at once. -/
  | nestedTooDeeply
deriving DecidableEq, Repr

/-- What is said about an error of syntax. -/
def SyntaxError.message (e : SyntaxError) : String :=
  "Syntax Error: " ++
    match e with
    | .lexical cause => cause.message
    | .expected what found =>
      "Expected " ++ what.describe ++ ", found " ++ Token.describe found ++ "."
    | .unexpected found => "Unexpected " ++ Token.describe found ++ "."
    | .variableInConstant name => "Unexpected variable '$" ++ name ++ "' in constant value."
    | .reservedEnumValue found =>
      Token.describe found ++ " is reserved and cannot be used for an enum value."
    | .descriptionOnShorthand =>
      "Unexpected description, descriptions are not supported on shorthand queries."
    | .descriptionNotAllowed =>
      "Unexpected description, only GraphQL definitions support descriptions."
    | .nestedTooDeeply => "Document is nested too deeply. Parsing aborted."

end PersistedDocument.GraphQL
