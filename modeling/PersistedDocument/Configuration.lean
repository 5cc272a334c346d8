import PersistedDocument.Failure
import PersistedDocument.GraphQL.Parser.Document
import PersistedDocument.GraphQL.Printer
import PersistedDocument.GraphQL.Variables
import PersistedDocument.Log
import PersistedDocument.Text.NameSet

/-!
# The configuration directive

An operation may carry a directive that says from which environment variable the access token of the
persisted document is read. The directive is for the service that stores the document, so it is
taken off the operation; what remains is what the document asks for, and its variables are the free
variables of the persisted document.

A `Collector` gathers free variables and the token. It may be shared by several documents, and it
keeps what it gathered from a document that turns out to be wrong.
-/

namespace PersistedDocument

open GraphQL

/-- The environment: the values of the variables that are set. -/
abbrev Environment := String → Option String

/-! ### Reading the directive -/

/-- The directive that configures how a document is persisted. -/
def configurationDirective : String := "persistedQueryConfiguration"

/-- The argument that says where the access token is. -/
def accessTokenArgument : String := "accessToken"

/-- The field that names the environment variable. -/
def environmentVariableField : String := "environmentVariable"

/-- The text of a string, number or enumeration literal. -/
def GraphQL.Value.literalText? : Value → Option String
  | .string literal => some literal.value
  | .int t | .float t | .enum t => some t
  | _ => none

/-- The fields of an object value. -/
def GraphQL.Value.fields? : Value → Option (List (String × Value))
  | .object fields => some fields
  | _ => none

/-- The environment variable that a directive names: the text of the first field of that purpose in
the first argument of that purpose. -/
def GraphQL.Directive.environmentVariable? (d : Directive) : Option String := do
  let argument ← d.arguments.find? (·.name = accessTokenArgument)
  let fields ← argument.value.fields?
  let field ← fields.find? (·.1 = environmentVariableField)
  field.2.literalText?

/-- Whether a directive is one for the service that stores the document. -/
def GraphQL.Directive.isConfiguration (d : Directive) : Bool := d.name = configurationDirective

/-- An operation without its configuration directives. -/
def GraphQL.Operation.withoutConfiguration (o : Operation) : Operation :=
  { o with directives := o.directives.filter fun d => !d.isConfiguration }

/-- A definition without the configuration directives of an operation. -/
def GraphQL.Definition.withoutConfiguration : Definition → Definition
  | .operation o => .operation o.withoutConfiguration
  | d => d

/-- A document without the configuration directives of its operations. -/
def GraphQL.Document.withoutConfiguration (document : Document) : Document :=
  ⟨document.definitions.map Definition.withoutConfiguration⟩

/-- The name by which an operation is reported. -/
def GraphQL.Operation.reportedName (o : Operation) : String := o.name.getD "<anonymous>"

/-! ### Collecting -/

/-- What has been gathered so far. -/
structure Collector where
  /-- The variables met. -/
  freeVariables : NameSet
  /-- The access token, once a directive has given it. -/
  accessToken : Option String
  /-- What there is to report, oldest first. -/
  events : List Event

/-- A collector that has gathered nothing. -/
def Collector.fresh : Collector := ⟨.empty, none, []⟩

/-- Steps that gather, and that keep what they gathered when they fail. -/
abbrev Collecting := EStateM Failure Collector

/-- Adds an event. -/
def report (e : Event) : Collecting Unit := modify fun c => { c with events := c.events ++ [e] }

/-- Adds variables. -/
def gather (names : List String) : Collecting Unit :=
  modify fun c => { c with freeVariables := c.freeVariables.insertAll names }

/-- Reads the access token from the variable that a directive names. A token that is there already
is an error before the environment is looked at, and an empty variable counts as missing. -/
def readToken (env : Environment) (operation varName : String) : Collecting Unit := do
  if (← get).accessToken.isSome then throw (.duplicateToken operation)
  match env varName with
  | none => throw (.missingVariable varName)
  | some token =>
    if token = "" then throw (.missingVariable varName)
    report (.tokenRead operation varName)
    modify fun c => { c with accessToken := some token }

/-- Reads the access token if a directive configures one. -/
def visitDirective (env : Environment) (operation : String) (d : Directive) : Collecting Unit :=
  match if d.isConfiguration then d.environmentVariable? else none with
  | some varName => readToken env operation varName
  | none => pure ()

/-- Reads the access token from the directives of an operation and gathers the variables of what
remains of it. -/
def visitOperation (env : Environment) (o : Operation) : Collecting Operation := do
  o.directives.forM (visitDirective env o.reportedName)
  gather o.withoutConfiguration.variableNames
  return o.withoutConfiguration

/-- Visits a definition; only an operation can be configured. -/
def visitDefinition (env : Environment) : Definition → Collecting Definition
  | .operation o => return .operation (← visitOperation env o)
  | d => do
    gather d.variableNames
    return d

/-- Visits the definitions of a document in order. -/
def visitDocument (env : Environment) (document : Document) : Collecting Document := do
  return ⟨← document.definitions.mapM (visitDefinition env)⟩

/-! ### Transformed documents -/

/-- A document that is ready to be persisted. -/
structure Transformed where
  /-- The canonical text without configuration. -/
  query : String
  /-- The variables that a caller of the persisted document supplies. -/
  freeVariables : NameSet
  /-- The access token to store with it. -/
  accessToken : Option String
deriving DecidableEq

/-- Reads a text as a document and makes it ready to be persisted. -/
def transform (env : Environment) (text : String) : Collecting Transformed := do
  match Document.parse text with
  | .error e => throw (.parse e.message)
  | .ok document =>
    let stripped ← visitDocument env document
    let c ← get
    report (.variablesCollected c.freeVariables.members c.accessToken.isSome)
    return ⟨stripped.print, c.freeVariables, c.accessToken⟩

end PersistedDocument
