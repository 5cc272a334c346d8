import PersistedDocument.GraphQL.BlockString
import PersistedDocument.GraphQL.Document
import PersistedDocument.GraphQL.Token
import PersistedDocument.Text.Hexadecimal

/-!
# Printing

The canonical text of a document: one blank line between definitions, two spaces of indentation per
block, and the arguments of a field on lines of their own when they do not fit on one. A part of a
definition that is empty vanishes together with the separator before it.
-/

namespace PersistedDocument.GraphQL

namespace Printer

open PersistedDocument.Text

/-! ### Putting text together -/

/-- Items with a separator between them. -/
def separated (separator : String) : List String → String
  | [] => ""
  | [item] => item
  | item :: items => item ++ separator ++ separated separator items

/-- The parts that are not empty, with a separator between them. -/
def joined (separator : String) (parts : List String) : String :=
  separated separator (parts.filter (· ≠ ""))

/-- A text between two others, or nothing when it is empty. -/
def wrapped (before text after : String) : String :=
  if text = "" then "" else before ++ text ++ after

/-- A text one level further to the right, all its lines but the first. -/
def shifted (text : String) : String :=
  String.ofList (indentAfterNewlines [' ', ' '] text.toList)

/-- A text one level further to the right. -/
def indented (text : String) : String := "  " ++ shifted text

/-- Items in braces, one on a line, or nothing. -/
def braced : List String → String
  | [] => ""
  | items => "\x7b\n" ++ indented (separated "\n" items) ++ "\n\x7d"

/-- Whether a text spreads over several lines. -/
def isMultiline (text : String) : Bool := text.toList.contains '\n'

/-- The line length above which the arguments of a field are broken up. -/
def maximalLineLength : Nat := 80

/-! ### Literals -/

/-- A character as it is written inside a quoted string. -/
def escapedCharacter (c : Char) : List Char :=
  match c with
  | '"' => ['\\', '"']
  | '\\' => ['\\', '\\']
  | '\x08' => ['\\', 'b']
  | '\x0c' => ['\\', 'f']
  | '\n' => ['\\', 'n']
  | '\r' => ['\\', 'r']
  | '\t' => ['\\', 't']
  | c =>
    if c.toNat < 0x20 ∨ (0x7F ≤ c.toNat ∧ c.toNat ≤ 0x9F) then
      '\\' :: 'u' :: Hexadecimal.fixed Hexadecimal.upper 4 c.toNat
    else [c]

/-- A quoted string. -/
def quoted (value : String) : String :=
  String.ofList ('"' :: value.toList.flatMap escapedCharacter ++ ['"'])

/-- A string of either kind. -/
def stringLiteral (literal : StringLiteral) : String :=
  if literal.isBlock then String.ofList (BlockString.written literal.value.toList)
  else quoted literal.value

mutual

/-- A value. -/
def value : Value → String
  | .variable n => "$" ++ n
  | .int t => t
  | .float t => t
  | .string literal => stringLiteral literal
  | .boolean b => if b then "true" else "false"
  | .null => "null"
  | .enum n => n
  | .list items => "[" ++ separated ", " (values items) ++ "]"
  | .object fields => "\x7b" ++ separated ", " (objectFields fields) ++ "\x7d"

/-- The values of a list. -/
def values : List Value → List String
  | [] => []
  | v :: vs => value v :: values vs

/-- The fields of an object. -/
def objectFields : List (String × Value) → List String
  | [] => []
  | (n, v) :: fields => (n ++ ": " ++ value v) :: objectFields fields

end

/-- A reference to a type. -/
def typeReference : TypeReference → String
  | .named n isRequired => n ++ if isRequired then "!" else ""
  | .list item isRequired => "[" ++ typeReference item ++ "]" ++ if isRequired then "!" else ""

/-! ### Arguments, directives and selections -/

/-- A named argument. -/
def argument (a : Argument) : String := a.name ++ ": " ++ value a.value

/-- A directive; its arguments stay on one line. -/
def directive (d : Directive) : String :=
  "@" ++ d.name ++ wrapped "(" (separated ", " (d.arguments.map argument)) ")"

/-- Directives, with a space between them. -/
def directives (ds : List Directive) : String := separated " " (ds.map directive)

/-- The name of a field and its arguments, which go on lines of their own when they do not fit. -/
def fieldHead (alias? : Option String) (name : String) (arguments : List Argument) : String :=
  let start := (alias?.elim "" (· ++ ": ")) ++ name
  let arguments := arguments.map argument
  let line := start ++ wrapped "(" (separated ", " arguments) ")"
  if line.length > maximalLineLength then
    start
      ++ wrapped "(\n" (if arguments.isEmpty then "" else indented (separated "\n" arguments)) "\n)"
  else line

mutual

/-- A selection. -/
def selection : Selection → String
  | .field alias? name arguments dirs selections =>
    joined " "
      [fieldHead alias? name arguments, directives dirs, braced (selectionTexts selections)]
  | .spread fragment dirs => "..." ++ fragment ++ wrapped " " (directives dirs) ""
  | .inline type? dirs selections =>
    joined " "
      ["...", type?.elim "" ("on " ++ ·), directives dirs, braced (selectionTexts selections)]

/-- The selections of a selection set. -/
def selectionTexts : List Selection → List String
  | [] => []
  | s :: ss => selection s :: selectionTexts ss

end

/-- A selection set. -/
def selectionSet (selections : List Selection) : String := braced (selectionTexts selections)

/-! ### Operations and fragments -/

/-- A description on lines of its own. -/
def description (literal? : Option StringLiteral) : String :=
  literal?.elim "" (stringLiteral · ++ "\n")

/-- A default value with its equals sign. -/
def default? (before : String) (v : Option Value) : String := v.elim "" fun v => before ++ value v

/-- A variable of an operation. -/
def variableDefinition (v : VariableDefinition) : String :=
  description v.description ++ "$" ++ v.name ++ ": " ++ typeReference v.type
    ++ default? " = " v.default?
    ++ wrapped " " (directives v.directives) ""

/-- The variables of an operation. They go on lines of their own, which are not indented, when one
of them spreads over several lines. -/
def variableDefinitions (vs : List VariableDefinition) : String :=
  let texts := vs.map variableDefinition
  if texts.any isMultiline then "(\n" ++ separated "\n" texts ++ "\n)"
  else wrapped "(" (separated ", " texts) ")"

/-- An operation. A query with neither name nor variables nor directives nor description is its
selection set alone. -/
def operation (o : Operation) : String :=
  let head := joined " "
    [o.kind.keyword, o.name.getD "" ++ variableDefinitions o.declared, directives o.directives]
  let start := description o.description ++ head
  (if start = "query" then "" else start ++ " ") ++ selectionSet o.selections

/-- A fragment. -/
def fragment (f : Fragment) : String :=
  description f.description ++ "fragment " ++ f.name ++ " on " ++ f.type ++ " "
    ++ wrapped "" (directives f.directives) " " ++ selectionSet f.selections

/-! ### Type systems -/

/-- A parameter, or a field of an input type. -/
def inputValue (v : InputValue) : String :=
  description v.description
    ++ joined " "
      [v.name ++ ": " ++ typeReference v.type, default? "= " v.default?, directives v.directives]

/-- Parameters. They go on lines of their own when one of them spreads over several lines. -/
def parameters (ps : List InputValue) : String :=
  let texts := ps.map inputValue
  if texts.any isMultiline then "(\n" ++ indented (separated "\n" texts) ++ "\n)"
  else wrapped "(" (separated ", " texts) ")"

/-- A field of an object or interface type. -/
def fieldDefinition (f : FieldDefinition) : String :=
  description f.description ++ f.name ++ parameters f.parameters ++ ": " ++ typeReference f.type
    ++ wrapped " " (directives f.directives) ""

/-- A value of an enumeration. -/
def enumValue (v : EnumValue) : String :=
  description v.description ++ joined " " [v.name, directives v.directives]

/-- The type on which operations of one kind start. -/
def rootType (r : RootType) : String := r.kind.keyword ++ ": " ++ r.type

/-- What a definition or an extension says, from its keyword on. -/
def item : TypeSystemItem → String
  | .schema dirs roots => joined " " ["schema", directives dirs, braced (roots.map rootType)]
  | .scalar n dirs => joined " " ["scalar", n, directives dirs]
  | .object n interfaces dirs fields =>
    joined " " ["type", n, wrapped "implements " (separated " & " interfaces) "", directives dirs,
      braced (fields.map fieldDefinition)]
  | .interface n interfaces dirs fields =>
    joined " " ["interface", n, wrapped "implements " (separated " & " interfaces) "",
      directives dirs, braced (fields.map fieldDefinition)]
  | .union n dirs members =>
    joined " " ["union", n, directives dirs, wrapped "= " (separated " | " members) ""]
  | .enum n dirs values => joined " " ["enum", n, directives dirs, braced (values.map enumValue)]
  | .input n dirs fields => joined " " ["input", n, directives dirs, braced (fields.map inputValue)]

/-- The definition of a directive. -/
def directiveDefinition (d : DirectiveDefinition) : String :=
  description d.description ++ "directive @" ++ d.name ++ parameters d.parameters
    ++ (if d.isRepeatable then " repeatable" else "") ++ " on " ++ separated " | " d.locations

/-- A definition. -/
def definition : Definition → String
  | .operation o => operation o
  | .fragment f => fragment f
  | .typeSystem literal? i => description literal? ++ item i
  | .directive d => directiveDefinition d
  | .extension i => "extend " ++ item i

end Printer

/-- The canonical text of a document. -/
def Document.print (document : Document) : String :=
  Printer.separated "\n\n" (document.definitions.map Printer.definition)

end PersistedDocument.GraphQL
