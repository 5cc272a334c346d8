import PersistedDocument.GraphQL.Parser.Executable

/-!
# Type systems

The parts of the grammar that define and extend types, and directives. All values in them are
constant.
-/

namespace PersistedDocument.GraphQL.Parser

/-- Constant directives at the outermost level. -/
def constDirectives : Parser (List Directive) := directives true maximalNesting

/-! ### Members -/

/-- A parameter, or a field of an input type. -/
def inputValue : Parser InputValue := do
  let description ← description?
  let n ← name
  expect .colon
  let type ← typeReference maximalNesting
  let default ← default?
  return ⟨description, n, type, default, ← constDirectives⟩

/-- Parameters in parentheses, or none. -/
def parameters : Parser (List InputValue) := optionallyBetween .parenOpen inputValue .parenClose

/-- A field of an object or interface type. -/
def fieldDefinition : Parser FieldDefinition := do
  let description ← description?
  let n ← name
  let parameters ← parameters
  expect .colon
  let type ← typeReference maximalNesting
  return ⟨description, n, parameters, type, ← constDirectives⟩

/-- Fields in braces, or none. -/
def fieldDefinitions : Parser (List FieldDefinition) :=
  optionallyBetween .braceOpen fieldDefinition .braceClose

/-- The interfaces that a type implements. -/
def interfaces : Parser (List String) := do
  if ← acceptKeyword "implements" then separatedBy .ampersand name else return []

/-- The members of a union. -/
def members : Parser (List String) := do
  if ← accept .equals then separatedBy .pipe name else return []

/-- The names that literals use, which no enumeration value may have. -/
def reservedNames : List String := ["true", "false", "null"]

/-- The name of an enumeration value. The text of the next token is what counts for the reserved
names, also where that token is no name. -/
def enumValueName : Parser String := do
  match ← peek with
  | some t => if t.text ∈ reservedNames then throw (.reservedEnumValue (some t)) else name
  | none => name

/-- A value of an enumeration. -/
def enumValue : Parser EnumValue := do
  let description ← description?
  let n ← enumValueName
  return ⟨description, n, ← constDirectives⟩

/-- The type on which operations of one kind start. -/
def rootType : Parser RootType := do
  let kind ← operationKind
  expect .colon
  return ⟨kind, ← name⟩

/-- A place where a directive may stand. -/
def directiveLocation : Parser String := do
  let n ← name
  if n ∈ directiveLocations then return n else throw (.unexpected (some (.name n)))

/-! ### Definitions and extensions -/

/-- Whether the parts of an item may all be missing: in a definition they may, in an extension
something must be there to extend with. -/
inductive Role where
  | definition
  | extension
deriving DecidableEq, Repr

/-- Refuses an extension that extends with nothing. -/
def requireContent (role : Role) (isEmpty : Bool) : Parser Unit := do
  if role = .extension && isEmpty then throw (.unexpected (← peek))

/-- The root types of a schema, which a definition has at least one of. -/
def rootTypes : Role → Parser (List RootType)
  | .definition => someBetween .braceOpen rootType .braceClose
  | .extension => optionallyBetween .braceOpen rootType .braceClose

/-- An object or interface type after its keyword. -/
def fieldsItem (role : Role)
    (make : String → List String → List Directive → List FieldDefinition → TypeSystemItem) :
    Parser TypeSystemItem := do
  let n ← name
  let implemented ← interfaces
  let dirs ← constDirectives
  let fields ← fieldDefinitions
  requireContent role (implemented.isEmpty && dirs.isEmpty && fields.isEmpty)
  return make n implemented dirs fields

/-- What comes after the keyword of an item. -/
def itemBody (role : Role) : String → Option (Parser TypeSystemItem)
  | "schema" => some do
    let dirs ← constDirectives
    let roots ← rootTypes role
    requireContent role (dirs.isEmpty && roots.isEmpty)
    return .schema dirs roots
  | "scalar" => some do
    let n ← name
    let dirs ← constDirectives
    requireContent role dirs.isEmpty
    return .scalar n dirs
  | "type" => some (fieldsItem role .object)
  | "interface" => some (fieldsItem role .interface)
  | "union" => some do
    let n ← name
    let dirs ← constDirectives
    let choices ← members
    requireContent role (dirs.isEmpty && choices.isEmpty)
    return .union n dirs choices
  | "enum" => some do
    let n ← name
    let dirs ← constDirectives
    let values ← optionallyBetween .braceOpen enumValue .braceClose
    requireContent role (dirs.isEmpty && values.isEmpty)
    return .enum n dirs values
  | "input" => some do
    let n ← name
    let dirs ← constDirectives
    let fields ← optionallyBetween .braceOpen inputValue .braceClose
    requireContent role (dirs.isEmpty && fields.isEmpty)
    return .input n dirs fields
  | _ => none

/-- The definition of a directive, after its keyword. -/
def directiveDefinition (description : Option StringLiteral) : Parser DirectiveDefinition := do
  expect .atSign
  let n ← name
  let parameters ← parameters
  let isRepeatable ← acceptKeyword "repeatable"
  expectKeyword "on"
  return ⟨description, n, parameters, isRepeatable, ← separatedBy .pipe directiveLocation⟩

/-- An extension, after its keyword. -/
def extension : Parser TypeSystemItem := do
  match ← peek with
  | some (.name k) =>
    match itemBody .extension k with
    | some body => do advance; body
    | none => throw (.unexpected (some (.name k)))
  | found => throw (.unexpected found)

end PersistedDocument.GraphQL.Parser
