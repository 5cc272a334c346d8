import PersistedDocument.GraphQL.Parser.Document
import PersistedDocument.Proofs.Spelling

/-!
# Proofs: readable documents

The tokens of the canonical text of an executable document, and what is true of a document that was
read from a text: its names are names, its numbers are numerals, its block strings have no common
indentation, its constants have no variables, no selection set is empty, and nothing is nested too
deeply. Printing such a document gives its tokens, and reading its tokens gives the document back.
-/

namespace PersistedDocument.GraphQL

open GraphQL.Parser (maximalNesting)

/-! ## Tokens of a tree -/

/-- Items between two punctuators, or nothing. -/
def between (opening closing : Punctuator) : List (List Token) → List Token
  | [] => []
  | items => .punctuator opening :: (items.flatten ++ [.punctuator closing])

/-- The token of a string. -/
def StringLiteral.token (literal : StringLiteral) : Token :=
  if literal.isBlock then .block literal.value else .string literal.value

mutual

/-- The tokens of a value. -/
def Value.tokens : Value → List Token
  | .variable n => [.punctuator .dollar, .name n]
  | .int t => [.int t]
  | .float t => [.float t]
  | .string literal => [literal.token]
  | .boolean b => [.name (if b then "true" else "false")]
  | .null => [.name "null"]
  | .enum n => [.name n]
  | .list items =>
    .punctuator .bracketOpen :: (Value.tokensOfItems items ++ [.punctuator .bracketClose])
  | .object fields =>
    .punctuator .braceOpen :: (Value.tokensOfFields fields ++ [.punctuator .braceClose])

/-- The tokens of the items of a list. -/
def Value.tokensOfItems : List Value → List Token
  | [] => []
  | v :: vs => v.tokens ++ Value.tokensOfItems vs

/-- The tokens of the fields of an object. -/
def Value.tokensOfFields : List (String × Value) → List Token
  | [] => []
  | (n, v) :: fields =>
    .name n :: .punctuator .colon :: (v.tokens ++ Value.tokensOfFields fields)

end

/-- The tokens of an argument. -/
def Argument.tokens (a : Argument) : List Token :=
  .name a.name :: .punctuator .colon :: a.value.tokens

/-- The tokens of the arguments of a field or a directive. -/
def argumentTokens (arguments : List Argument) : List Token :=
  between .parenOpen .parenClose (arguments.map Argument.tokens)

/-- The tokens of a directive. -/
def Directive.tokens (d : Directive) : List Token :=
  .punctuator .atSign :: .name d.name :: argumentTokens d.arguments

/-- The tokens of a reference to a type. -/
def TypeReference.tokens : TypeReference → List Token
  | .named n isRequired => .name n :: if isRequired then [.punctuator .bang] else []
  | .list item isRequired =>
    .punctuator .bracketOpen ::
      (item.tokens ++ .punctuator .bracketClose :: if isRequired then [.punctuator .bang] else [])

mutual

/-- The tokens of a selection. -/
def Selection.tokens : Selection → List Token
  | .field alias? n arguments dirs selections =>
    (alias?.elim [] fun a => [.name a, .punctuator .colon])
      ++ .name n :: (argumentTokens arguments ++ (dirs.flatMap Directive.tokens
      ++ between .braceOpen .braceClose (Selection.tokensOfAll selections)))
  | .spread n dirs => .punctuator .spread :: .name n :: dirs.flatMap Directive.tokens
  | .inline type? dirs selections =>
    .punctuator .spread :: ((type?.elim [] fun t => [.name "on", .name t])
      ++ (dirs.flatMap Directive.tokens
      ++ between .braceOpen .braceClose (Selection.tokensOfAll selections)))

/-- The tokens of each selection of a selection set. -/
def Selection.tokensOfAll : List Selection → List (List Token)
  | [] => []
  | s :: ss => s.tokens :: Selection.tokensOfAll ss

end

/-- The tokens of a selection set. -/
def selectionTokens (selections : List Selection) : List Token :=
  between .braceOpen .braceClose (selections.map Selection.tokens)

/-- The token of a description, if there is one. -/
def descriptionTokens (literal? : Option StringLiteral) : List Token :=
  literal?.elim [] fun literal => [literal.token]

/-- The tokens of a variable of an operation. -/
def VariableDefinition.tokens (v : VariableDefinition) : List Token :=
  descriptionTokens v.description ++ .punctuator .dollar :: .name v.name :: .punctuator .colon ::
    (v.type.tokens ++ ((v.default?.elim [] fun d => .punctuator .equals :: d.tokens)
    ++ v.directives.flatMap Directive.tokens))

/-- Whether an operation is written as a selection set alone. -/
def Operation.isShorthand (o : Operation) : Bool :=
  o.description.isNone && o.kind = .query && o.name.isNone && o.declared.isEmpty
    && o.directives.isEmpty

/-- The tokens of an operation from its keyword up to its selection set. -/
def Operation.headTokens (o : Operation) : List Token :=
  .name o.kind.keyword :: ((o.name.elim [] fun n => [.name n])
    ++ (between .parenOpen .parenClose (o.declared.map VariableDefinition.tokens)
    ++ o.directives.flatMap Directive.tokens))

/-- The tokens of an operation. -/
def Operation.tokens (o : Operation) : List Token :=
  if o.isShorthand then selectionTokens o.selections
  else descriptionTokens o.description ++ (o.headTokens ++ selectionTokens o.selections)

/-- The tokens of a fragment. -/
def Fragment.tokens (f : Fragment) : List Token :=
  descriptionTokens f.description ++ .name "fragment" :: .name f.name :: .name "on" ::
    .name f.type :: (f.directives.flatMap Directive.tokens ++ selectionTokens f.selections)

/-- The tokens of an executable definition. -/
def Definition.tokens : Definition → List Token
  | .operation o => o.tokens
  | .fragment f => f.tokens
  | _ => []

/-! ### Lists of parts -/

theorem tokensOfItems_eq_flatMap (items : List Value) :
    Value.tokensOfItems items = items.flatMap Value.tokens := by
  induction items with
  | nil => rfl
  | cons v vs ih => rw [Value.tokensOfItems, ih, List.flatMap_cons]

theorem tokensOfFields_eq_flatMap (fields : List (String × Value)) :
    Value.tokensOfFields fields
      = fields.flatMap fun f => .name f.1 :: .punctuator .colon :: f.2.tokens := by
  induction fields with
  | nil => rfl
  | cons f fields ih => rw [Value.tokensOfFields, ih, List.flatMap_cons]; rfl

theorem tokensOfAll_eq_map (selections : List Selection) :
    Selection.tokensOfAll selections = selections.map Selection.tokens := by
  induction selections with
  | nil => rfl
  | cons s ss ih => rw [Selection.tokensOfAll, ih, List.map_cons]

theorem between_map {α : Type} {opening closing : Punctuator} {items : List α} (h : items ≠ [])
    (tokens : α → List Token) :
    between opening closing (items.map tokens)
      = .punctuator opening :: (items.flatMap tokens ++ [.punctuator closing]) := by
  cases items with
  | nil => exact absurd rfl h
  | cons a items => rw [List.flatMap_def]; rfl

/-! ## Trees that are read -/

/-- A value as it is read with room for so many levels. -/
def Value.IsReadable (isConst : Bool) : Nat → Value → Prop
  | _, .variable n => isConst = false ∧ IsName n
  | _, .int t => (Token.int t).IsLexed
  | _, .float t => (Token.float t).IsLexed
  | _, .string literal => literal.token.IsLexed
  | _, .boolean _ | _, .null => True
  | _, .enum n => IsName n ∧ n ≠ "true" ∧ n ≠ "false" ∧ n ≠ "null"
  | 0, .list _ | 0, .object _ => False
  | room + 1, .list items => ∀ v ∈ items, v.IsReadable isConst room
  | room + 1, .object fields => ∀ f ∈ fields, IsName f.1 ∧ f.2.IsReadable isConst room

/-- An argument as it is read. -/
structure Argument.IsReadable (isConst : Bool) (room : Nat) (a : Argument) : Prop where
  name : IsName a.name
  value : a.value.IsReadable isConst room

/-- A directive as it is read. -/
structure Directive.IsReadable (isConst : Bool) (room : Nat) (d : Directive) : Prop where
  name : IsName d.name
  arguments : ∀ a ∈ d.arguments, a.IsReadable isConst room

/-- A reference to a type as it is read with room for so many levels. -/
def TypeReference.IsReadable : Nat → TypeReference → Prop
  | _, .named n _ => IsName n
  | 0, .list _ _ => False
  | room + 1, .list item _ => item.IsReadable room

/-- A selection as it is read, given what is true of the selection sets in it. -/
def Selection.IsReadable (nested : List Selection → Prop) (room : Nat) : Selection → Prop
  | .field alias? n arguments dirs selections =>
    (∀ a ∈ alias?, IsName a) ∧ IsName n ∧ (∀ a ∈ arguments, a.IsReadable false room) ∧
      (∀ d ∈ dirs, d.IsReadable false room) ∧ (selections = [] ∨ nested selections)
  | .spread n dirs => IsName n ∧ n ≠ "on" ∧ ∀ d ∈ dirs, d.IsReadable false room
  | .inline type? dirs selections =>
    (∀ t ∈ type?, IsName t) ∧ (∀ d ∈ dirs, d.IsReadable false room) ∧ nested selections

/-- A selection set as it is read with room for so many levels. -/
def AreReadable : Nat → List Selection → Prop
  | 0, _ => False
  | room + 1, selections =>
    selections ≠ [] ∧ ∀ s ∈ selections, s.IsReadable (AreReadable room) room

/-- A variable of an operation as it is read. -/
structure VariableDefinition.IsReadable (v : VariableDefinition) : Prop where
  description : ∀ literal ∈ v.description, literal.token.IsLexed
  name : IsName v.name
  type : v.type.IsReadable maximalNesting
  default? : ∀ d ∈ v.default?, d.IsReadable true maximalNesting
  directives : ∀ d ∈ v.directives, d.IsReadable true maximalNesting

/-- An operation as it is read. -/
structure Operation.IsReadable (o : Operation) : Prop where
  description : ∀ literal ∈ o.description, literal.token.IsLexed
  name : ∀ n ∈ o.name, IsName n
  declared : ∀ v ∈ o.declared, v.IsReadable
  directives : ∀ d ∈ o.directives, d.IsReadable false maximalNesting
  selections : AreReadable maximalNesting o.selections

/-- A fragment as it is read. -/
structure Fragment.IsReadable (f : Fragment) : Prop where
  description : ∀ literal ∈ f.description, literal.token.IsLexed
  name : IsName f.name
  name_ne_on : f.name ≠ "on"
  type : IsName f.type
  directives : ∀ d ∈ f.directives, d.IsReadable false maximalNesting
  selections : AreReadable maximalNesting f.selections

/-- Whether a definition is for execution: an operation or a fragment. -/
def Definition.isExecutable : Definition → Bool
  | .operation _ | .fragment _ => true
  | _ => false

/-- An executable definition as it is read; nothing is said about the others. -/
def Definition.IsReadable : Definition → Prop
  | .operation o => o.IsReadable
  | .fragment f => f.IsReadable
  | _ => True

/-- A selection set that is read has a selection. -/
theorem AreReadable.ne_nil {room : Nat} {selections : List Selection}
    (h : AreReadable room selections) : selections ≠ [] := by
  cases room with
  | zero => exact h.elim
  | succ room => exact h.1

end PersistedDocument.GraphQL
