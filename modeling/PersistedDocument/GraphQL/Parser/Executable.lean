import PersistedDocument.GraphQL.Document
import PersistedDocument.GraphQL.Parser.Basic

/-!
# Values, types, selections and operations

The parts of the grammar that executable documents use. Selection sets, lists, objects and list
types may be nested in one another up to `maximalNesting` levels; `room` is the number of levels
that may still be opened, and every recursion below is on it.
-/

namespace PersistedDocument.GraphQL.Parser

/-- The number of selection sets, lists, objects and list types that may be open at once. -/
def maximalNesting : Nat := 200

/-! ### Values -/

/-- A variable. -/
def variableName : Parser String := do
  expect .dollar
  name

/-- The error for a variable where only constants may stand. -/
def variableInConstant : Parser Value := do
  expect .dollar
  match ← peek with
  | some (.name n) => throw (.variableInConstant n)
  | _ => throw (.unexpected (some (.punctuator .dollar)))

/-- The value that a name stands for. -/
def namedValue (n : String) : Value :=
  if n = "true" then .boolean true
  else if n = "false" then .boolean false
  else if n = "null" then .null
  else .enum n

/-- A value, given how to read the lists and objects among values. -/
def valueWith (isConst : Bool) (list object : Parser Value) : Parser Value := do
  match ← peek with
  | some (.punctuator .bracketOpen) => list
  | some (.punctuator .braceOpen) => object
  | some (.punctuator .dollar) =>
    if isConst then variableInConstant else return .variable (← variableName)
  | some (.int t) => do advance; return .int t
  | some (.float t) => do advance; return .float t
  | some (.string t) => do advance; return .string ⟨t, false⟩
  | some (.block t) => do advance; return .string ⟨t, true⟩
  | some (.name n) => do advance; return namedValue n
  | found => throw (.unexpected found)

/-- A field of an object value, given how to read its value. -/
def objectField (value : Parser Value) : Parser (String × Value) := do
  let n ← name
  expect .colon
  return (n, ← value)

/-- A value, in which variables may stand unless it is constant. -/
def value (isConst : Bool) : Nat → Parser Value
  | 0 => valueWith isConst (throw .nestedTooDeeply) (throw .nestedTooDeeply)
  | room + 1 =>
    valueWith isConst
      (return .list (← anyBetween .bracketOpen (value isConst room) .bracketClose))
      (return .object (← anyBetween .braceOpen (objectField (value isConst room)) .braceClose))

/-! ### Arguments and directives -/

/-- A named argument. -/
def argument (isConst : Bool) (room : Nat) : Parser Argument := do
  let n ← name
  expect .colon
  return ⟨n, ← value isConst room⟩

/-- Arguments in parentheses, or none. -/
def arguments (isConst : Bool) (room : Nat) : Parser (List Argument) :=
  optionallyBetween .parenOpen (argument isConst room) .parenClose

/-- One directive. -/
def directive (isConst : Bool) (room : Nat) : Parser Directive := do
  expect .atSign
  let n ← name
  return ⟨n, ← arguments isConst room⟩

/-- All directives that follow. -/
def directives (isConst : Bool) (room : Nat) : Parser (List Directive) :=
  collect do
    if (← peek) = some (.punctuator .atSign) then return some (← directive isConst room)
    else return none

/-! ### Types and descriptions -/

/-- A reference to a type, given how to read the item type of a list. -/
def typeReferenceWith (item : Parser TypeReference) : Parser TypeReference := do
  if ← accept .bracketOpen then
    let inner ← item
    expect .bracketClose
    return .list inner (← accept .bang)
  else
    let n ← name
    return .named n (← accept .bang)

/-- A reference to a type. -/
def typeReference : Nat → Parser TypeReference
  | 0 => typeReferenceWith (throw .nestedTooDeeply)
  | room + 1 => typeReferenceWith (typeReference room)

/-- The literal that a token is, if it is a string. -/
def stringLiteral? : Option Token → Option StringLiteral
  | some (.string t) => some ⟨t, false⟩
  | some (.block t) => some ⟨t, true⟩
  | _ => none

/-- A description, if a string comes next. -/
def description? : Parser (Option StringLiteral) := do
  match stringLiteral? (← peek) with
  | some literal => do advance; return some literal
  | none => return none

/-! ### Selections -/

/-- The name of a fragment, which may be any name but the one that starts a type condition. The
text of the next token is what counts, also where that token is no name. -/
def fragmentName : Parser String := do
  match ← peek with
  | some t => if t.text = "on" then throw (.unexpected (some t)) else name
  | none => name

/-- A field, given how to read the selections in it. -/
def field (nested : Parser (List Selection)) (room : Nat) : Parser Selection := do
  let first ← name
  let renamed ← accept .colon
  let n ← if renamed then name else pure first
  let args ← arguments false room
  let dirs ← directives false room
  let selections ← if (← peek) = some (.punctuator .braceOpen) then nested else pure []
  return .field (if renamed then some first else none) n args dirs selections

/-- What follows a spread: a fragment by name, or selections in place with or without a type
condition. -/
def fragmentSelection (nested : Parser (List Selection)) (room : Nat) : Parser Selection := do
  expect .spread
  if ← acceptKeyword "on" then
    let type ← name
    let dirs ← directives false room
    return .inline (some type) dirs (← nested)
  else
    match ← peek with
    | some (.name _) => do
      let n ← fragmentName
      return .spread n (← directives false room)
    | _ => do
      let dirs ← directives false room
      return .inline none dirs (← nested)

/-- One selection. -/
def selection (nested : Parser (List Selection)) (room : Nat) : Parser Selection := do
  if (← peek) = some (.punctuator .spread) then fragmentSelection nested room
  else field nested room

/-- A selection set, which counts as a level even before its opening brace is found. -/
def selectionSet : Nat → Parser (List Selection)
  | 0 => throw .nestedTooDeeply
  | room + 1 => someBetween .braceOpen (selection (selectionSet room) room) .braceClose

/-! ### Operations and fragments -/

/-- The kind of an operation, by its keyword. -/
def operationKind : Parser OperationKind := do
  let n ← name
  match OperationKind.ofKeyword? n with
  | some kind => return kind
  | none => throw (.unexpected (some (.name n)))

/-- A constant default value, if there is one. -/
def default? : Parser (Option Value) := do
  if ← accept .equals then return some (← value true maximalNesting) else return none

/-- A variable of an operation. -/
def variableDefinition : Parser VariableDefinition := do
  let description ← description?
  let n ← variableName
  expect .colon
  let type ← typeReference maximalNesting
  let default ← default?
  return ⟨description, n, type, default, ← directives true maximalNesting⟩

/-- An operation in shorthand, which is a selection set alone. -/
def shorthand : Parser Operation := do
  return ⟨none, .query, none, [], [], ← selectionSet maximalNesting⟩

/-- An operation with its keyword. -/
def operation : Parser Operation := do
  let description ← description?
  let kind ← operationKind
  let n ← match ← peek with
    | some (.name n) => do advance; pure (some n)
    | _ => pure none
  let declared ← optionallyBetween .parenOpen variableDefinition .parenClose
  let dirs ← directives false maximalNesting
  return ⟨description, kind, n, declared, dirs, ← selectionSet maximalNesting⟩

/-- A fragment with its keyword. -/
def fragment : Parser Fragment := do
  let description ← description?
  expectKeyword "fragment"
  let n ← fragmentName
  expectKeyword "on"
  let type ← name
  let dirs ← directives false maximalNesting
  return ⟨description, n, type, dirs, ← selectionSet maximalNesting⟩

end PersistedDocument.GraphQL.Parser
