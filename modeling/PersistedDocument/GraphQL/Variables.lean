import PersistedDocument.GraphQL.Document

/-!
# Variables

The names of the variables that occur in a part of a document, in document order and as often as
they occur: where they are declared as well as where they are used.
-/

namespace PersistedDocument.GraphQL

mutual

/-- The variables in a value. -/
def Value.variableNames : Value → List String
  | .variable n => [n]
  | .list items => Value.variableNamesOfItems items
  | .object fields => Value.variableNamesOfFields fields
  | _ => []

/-- The variables in the items of a list. -/
def Value.variableNamesOfItems : List Value → List String
  | [] => []
  | v :: vs => v.variableNames ++ Value.variableNamesOfItems vs

/-- The variables in the fields of an object. -/
def Value.variableNamesOfFields : List (String × Value) → List String
  | [] => []
  | (_, v) :: fields => v.variableNames ++ Value.variableNamesOfFields fields

end

/-- The variables in the arguments of a directive. -/
def Directive.variableNames (d : Directive) : List String :=
  d.arguments.flatMap (·.value.variableNames)

mutual

/-- The variables in a selection. -/
def Selection.variableNames : Selection → List String
  | .field _ _ arguments dirs selections =>
    arguments.flatMap (·.value.variableNames) ++ dirs.flatMap Directive.variableNames
      ++ Selection.variableNamesOfAll selections
  | .spread _ dirs => dirs.flatMap Directive.variableNames
  | .inline _ dirs selections =>
    dirs.flatMap Directive.variableNames ++ Selection.variableNamesOfAll selections

/-- The variables in a selection set. -/
def Selection.variableNamesOfAll : List Selection → List String
  | [] => []
  | s :: ss => s.variableNames ++ Selection.variableNamesOfAll ss

end

/-- A declared variable and those in its default value and its directives. -/
def VariableDefinition.variableNames (v : VariableDefinition) : List String :=
  v.name :: v.default?.elim [] Value.variableNames ++ v.directives.flatMap Directive.variableNames

/-- The variables of an operation. -/
def Operation.variableNames (o : Operation) : List String :=
  o.declared.flatMap VariableDefinition.variableNames
    ++ o.directives.flatMap Directive.variableNames
    ++ Selection.variableNamesOfAll o.selections

/-- The variables of a fragment. -/
def Fragment.variableNames (f : Fragment) : List String :=
  f.directives.flatMap Directive.variableNames ++ Selection.variableNamesOfAll f.selections

/-- The variables in a parameter or an input field. -/
def InputValue.variableNames (v : InputValue) : List String :=
  v.default?.elim [] Value.variableNames ++ v.directives.flatMap Directive.variableNames

/-- The variables in the definition of a field. -/
def FieldDefinition.variableNames (f : FieldDefinition) : List String :=
  f.parameters.flatMap InputValue.variableNames ++ f.directives.flatMap Directive.variableNames

/-- The variables in an enumeration value. -/
def EnumValue.variableNames (v : EnumValue) : List String :=
  v.directives.flatMap Directive.variableNames

/-- The variables in an item of a type system. -/
def TypeSystemItem.variableNames : TypeSystemItem → List String
  | .schema dirs _ | .scalar _ dirs | .union _ dirs _ => dirs.flatMap Directive.variableNames
  | .object _ _ dirs fields | .interface _ _ dirs fields =>
    dirs.flatMap Directive.variableNames ++ fields.flatMap FieldDefinition.variableNames
  | .enum _ dirs values =>
    dirs.flatMap Directive.variableNames ++ values.flatMap EnumValue.variableNames
  | .input _ dirs fields =>
    dirs.flatMap Directive.variableNames ++ fields.flatMap InputValue.variableNames

/-- The variables in a definition. -/
def Definition.variableNames : Definition → List String
  | .operation o => o.variableNames
  | .fragment f => f.variableNames
  | .typeSystem _ i | .extension i => i.variableNames
  | .directive d => d.parameters.flatMap InputValue.variableNames

/-- The variables in a document. -/
def Document.variableNames (document : Document) : List String :=
  document.definitions.flatMap Definition.variableNames

end PersistedDocument.GraphQL
