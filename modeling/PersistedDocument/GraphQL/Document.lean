/-!
# Documents

The tree of a GraphQL document: operations and fragments, and the definitions and extensions of a
type system. Nothing in it remembers how the text was laid out, except that a string keeps whether
it was a block string. An absent list of arguments, directives, selections or members is the empty
list, since the grammar admits no empty one.
-/

namespace PersistedDocument.GraphQL

/-- A string literal: its value and whether it is written between triple quotes. -/
structure StringLiteral where
  /-- The text that the literal stands for. -/
  value : String
  /-- Whether it is a block string. -/
  isBlock : Bool
deriving DecidableEq, Repr

/-- A literal or variable in the place of an input value. -/
inductive Value where
  /-- A variable, without its dollar sign. -/
  | variable (name : String)
  /-- An integer, as written. -/
  | int (text : String)
  /-- A number with a fraction or an exponent, as written. -/
  | float (text : String)
  /-- A string of either kind. -/
  | string (literal : StringLiteral)
  /-- One of the two truth values. -/
  | boolean (value : Bool)
  /-- The absence of a value. -/
  | null
  /-- A name that stands for itself. -/
  | enum (name : String)
  /-- A list of values. -/
  | list (items : List Value)
  /-- Named fields, in the order written, which may repeat a name. -/
  | object (fields : List (String × Value))
deriving Repr

/-- A named value given to a field or a directive. -/
structure Argument where
  /-- The name of the parameter. -/
  name : String
  /-- What it is given. -/
  value : Value
deriving Repr

/-- An annotation on a part of a document. -/
structure Directive where
  /-- The name, without its at sign. -/
  name : String
  /-- The arguments, in the order written. -/
  arguments : List Argument
deriving Repr

/-- A reference to a type; each of its levels may exclude null. -/
inductive TypeReference where
  /-- A type by its name. -/
  | named (name : String) (isRequired : Bool)
  /-- The lists of an item type. -/
  | list (item : TypeReference) (isRequired : Bool)
deriving DecidableEq, Repr

/-- A part of a selection set. -/
inductive Selection where
  /-- A field, with the name of its result if that differs. -/
  | field (alias? : Option String) (name : String) (arguments : List Argument)
      (directives : List Directive) (selections : List Selection)
  /-- The selections of a named fragment. -/
  | spread (fragment : String) (directives : List Directive)
  /-- Selections in place, for one type or for any. -/
  | inline (type? : Option String) (directives : List Directive) (selections : List Selection)
deriving Repr

/-- What an operation does. -/
inductive OperationKind where
  | query
  | mutation
  | subscription
deriving DecidableEq, Repr

/-- The keyword of a kind of operation. -/
def OperationKind.keyword : OperationKind → String
  | .query => "query"
  | .mutation => "mutation"
  | .subscription => "subscription"

/-- The kind of operation that a keyword names. -/
def OperationKind.ofKeyword? : String → Option OperationKind
  | "query" => some .query
  | "mutation" => some .mutation
  | "subscription" => some .subscription
  | _ => none

/-- A variable of an operation. -/
structure VariableDefinition where
  /-- What the variable is for. -/
  description : Option StringLiteral
  /-- The name, without its dollar sign. -/
  name : String
  /-- The type of its values. -/
  type : TypeReference
  /-- The value it has when none is given. -/
  default? : Option Value
  /-- Its directives. -/
  directives : List Directive
deriving Repr

/-- An operation that a service can execute. -/
structure Operation where
  /-- What the operation is for. -/
  description : Option StringLiteral
  /-- What it does. -/
  kind : OperationKind
  /-- Its name, unless it is anonymous. -/
  name : Option String
  /-- The variables that it declares. -/
  declared : List VariableDefinition
  /-- The directives on the operation itself. -/
  directives : List Directive
  /-- What it selects. -/
  selections : List Selection
deriving Repr

/-- Selections that other selections can refer to. -/
structure Fragment where
  /-- What the fragment is for. -/
  description : Option StringLiteral
  /-- The name that spreads refer to. -/
  name : String
  /-- The type that it applies to. -/
  type : String
  /-- The directives on the fragment itself. -/
  directives : List Directive
  /-- What it selects. -/
  selections : List Selection
deriving Repr

/-- A parameter of a field or directive, or a field of an input type. -/
structure InputValue where
  /-- What the value is for. -/
  description : Option StringLiteral
  /-- The name. -/
  name : String
  /-- The type of its values. -/
  type : TypeReference
  /-- The value it has when none is given. -/
  default? : Option Value
  /-- Its directives. -/
  directives : List Directive
deriving Repr

/-- A field of an object or interface type. -/
structure FieldDefinition where
  /-- What the field holds. -/
  description : Option StringLiteral
  /-- The name. -/
  name : String
  /-- Its parameters. -/
  parameters : List InputValue
  /-- The type of its values. -/
  type : TypeReference
  /-- Its directives. -/
  directives : List Directive
deriving Repr

/-- A value of an enumeration type. -/
structure EnumValue where
  /-- What the value means. -/
  description : Option StringLiteral
  /-- The name. -/
  name : String
  /-- Its directives. -/
  directives : List Directive
deriving Repr

/-- The type on which operations of one kind start. -/
structure RootType where
  /-- The kind of operation. -/
  kind : OperationKind
  /-- The name of the type. -/
  type : String
deriving DecidableEq, Repr

/-- What a definition in a type system, or an extension of one, says. -/
inductive TypeSystemItem where
  /-- The types on which operations start. -/
  | schema (directives : List Directive) (roots : List RootType)
  /-- A type of leaf values. -/
  | scalar (name : String) (directives : List Directive)
  /-- A type with fields. -/
  | object (name : String) (interfaces : List String) (directives : List Directive)
      (fields : List FieldDefinition)
  /-- Fields that other types implement. -/
  | interface (name : String) (interfaces : List String) (directives : List Directive)
      (fields : List FieldDefinition)
  /-- A choice between types. -/
  | union (name : String) (directives : List Directive) (members : List String)
  /-- A choice between names. -/
  | enum (name : String) (directives : List Directive) (values : List EnumValue)
  /-- Structured input. -/
  | input (name : String) (directives : List Directive) (fields : List InputValue)
deriving Repr

/-- The definition of a directive. -/
structure DirectiveDefinition where
  /-- What the directive is for. -/
  description : Option StringLiteral
  /-- The name, without its at sign. -/
  name : String
  /-- Its parameters. -/
  parameters : List InputValue
  /-- Whether it may stand several times in one place. -/
  isRepeatable : Bool
  /-- The places where it may stand. -/
  locations : List String
deriving Repr

/-- A top-level part of a document. -/
inductive Definition where
  /-- An operation. -/
  | operation (operation : Operation)
  /-- A fragment. -/
  | fragment (fragment : Fragment)
  /-- A definition in a type system. -/
  | typeSystem (description : Option StringLiteral) (item : TypeSystemItem)
  /-- The definition of a directive. -/
  | directive (definition : DirectiveDefinition)
  /-- An extension of a type system. -/
  | extension (item : TypeSystemItem)
deriving Repr

/-- A document: its definitions in order. -/
structure Document where
  /-- The definitions, of which a parsed document has at least one. -/
  definitions : List Definition
deriving Repr

/-- The operations of a document, in order. -/
def Document.operations (document : Document) : List Operation :=
  document.definitions.filterMap fun
    | .operation o => some o
    | _ => none

/-- The places where a directive may stand. -/
def directiveLocations : List String :=
  ["QUERY", "MUTATION", "SUBSCRIPTION", "FIELD", "FRAGMENT_DEFINITION", "FRAGMENT_SPREAD",
    "INLINE_FRAGMENT", "VARIABLE_DEFINITION", "SCHEMA", "SCALAR", "OBJECT", "FIELD_DEFINITION",
    "ARGUMENT_DEFINITION", "INTERFACE", "UNION", "ENUM", "ENUM_VALUE", "INPUT_OBJECT",
    "INPUT_FIELD_DEFINITION", "DIRECTIVE_DEFINITION"]

end PersistedDocument.GraphQL
