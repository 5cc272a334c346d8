import PersistedDocument.GraphQL.Parser.TypeSystem

/-!
# Whole documents

A document is one definition after another. `Document.parse` reads a text as a document or says why
it is none; what it does depends on the tokens of the text alone.
-/

namespace PersistedDocument.GraphQL

namespace Parser

/-- A definition that starts with the given keyword, possibly after a description. -/
def keywordDefinition (hasDescription : Bool) (k : String) : Parser Definition := do
  if k = "directive" then
    let description ← description?
    advance
    return .directive (← directiveDefinition description)
  else
    match itemBody .definition k with
    | some body =>
      let description ← description?
      advance
      return .typeSystem description (← body)
    | none =>
      if (OperationKind.ofKeyword? k).isSome then return .operation (← operation)
      else if k = "fragment" then return .fragment (← fragment)
      else if hasDescription then throw .descriptionNotAllowed
      else if k = "extend" then
        advance
        return .extension (← extension)
      else throw (.unexpected (some (.name k)))

/-- One definition. -/
def definition : Parser Definition := do
  let next ← peek
  let hasDescription := (stringLiteral? next).isSome
  match ← if hasDescription then lookahead else pure next with
  | some (.punctuator .braceOpen) =>
    if hasDescription then throw .descriptionOnShorthand
    else return .operation (← shorthand)
  | some (.name k) => keywordDefinition hasDescription k
  | found => throw (.unexpected found)

/-- All definitions up to the end, at least one. -/
def document : Parser Document := do
  let first ← definition
  let rest ← collect do
    match ← peek with
    | none => return none
    | some _ => return some (← definition)
  return ⟨first :: rest⟩

end Parser

/-- Reads a stream of tokens as a document. -/
def Document.ofTokens (s : TokenStream) : Except SyntaxError Document := do
  let start ← Parser.reach s
  let (document, _) ← Parser.document start
  return document

/-- Reads a text as a document. -/
def Document.parse (text : String) : Except SyntaxError Document :=
  let (tokens, ending) := lex text
  Document.ofTokens ⟨tokens, ending⟩

end PersistedDocument.GraphQL
