import PersistedDocument.Text.CodePoint

/-!
# The log

What a run reports about itself, as events. An event holds only what its line shows; how it is
worded, who reports it and how grave it is follow from the event.
-/

namespace PersistedDocument

/-- How grave an event is. -/
inductive Severity where
  | debug
  | info
  | error
deriving DecidableEq, Repr

/-- The word for a severity. -/
def Severity.name : Severity → String
  | .debug => "DEBUG"
  | .info => "INFO"
  | .error => "ERROR"

/-- The place of a severity on the scale of thresholds. -/
def Severity.rank : Severity → Nat
  | .debug => 10
  | .info => 20
  | .error => 40

/-- What is reported when a response has come. -/
structure Completion where
  /-- The label of the request. -/
  rid : String
  /-- The time of day. -/
  time : String
  /-- The host that was asked. -/
  host : String
  /-- The method of the request. -/
  method : String
  /-- The path that was asked for. -/
  path : String
  /-- The status of the response. -/
  status : Int
  /-- The query of the request. -/
  query : String
  /-- The milliseconds that the request took. -/
  elapsed : String
deriving DecidableEq, Repr

/-- Something that a run reports. -/
inductive Event where
  /-- A directive gave the access token. -/
  | tokenRead (operation varName : String)
  /-- A document was read to its end. -/
  | variablesCollected (names : List String) (hasToken : Bool)
  /-- A request is about to be sent. -/
  | requestStarted (rid path : String)
  /-- A response has come. -/
  | requestCompleted (completion : Completion)
  /-- The service gave an id. -/
  | persisted (id : LooseText)
  /-- The run ends with a failure of a known kind. -/
  | failed (kind message : String)
  /-- The settings of the service are incomplete or wrong. -/
  | settingsInvalid (fields : List String)
  /-- The document cannot be read. -/
  | unreadable (reason : String)
deriving DecidableEq, Repr

namespace Event

/-- How grave an event is. -/
def severity : Event → Severity
  | .tokenRead .. | .variablesCollected .. => .debug
  | .requestStarted .. | .requestCompleted .. | .persisted .. => .info
  | .failed .. | .settingsInvalid .. | .unreadable .. => .error

/-- The part of the program that reports an event. -/
def source : Event → String
  | .tokenRead .. | .variablesCollected .. =>
    "persist_query.transforms.persisted_query_configuration"
  | .requestStarted .. | .requestCompleted .. => "persist_query.middleware.requestlogger"
  | .persisted .. => "persist_query.adapters.onegraph"
  | .failed .. | .settingsInvalid .. | .unreadable .. => "persist_query.main"

/-- A list of names as the log shows it. -/
def nameList (names : List String) : String :=
  "[" ++ ", ".intercalate (names.map fun n => "'" ++ n ++ "'") ++ "]"

/-- A truth value as the log shows it. -/
def truth (b : Bool) : String := if b then "True" else "False"

/-- The wording of a completion. -/
def completionText (c : Completion) : String :=
  "rid=" ++ c.rid ++ " time=" ++ c.time ++ " host=" ++ c.host ++ " method=" ++ c.method
    ++ " path=" ++ c.path ++ " status_code=" ++ toString c.status ++ " query=" ++ c.query
    ++ " completed_in=" ++ c.elapsed ++ "ms"

/-- The wording of an event. -/
def message : Event → LooseText
  | .tokenRead operation varName =>
    .ofString ("operation=" ++ operation ++ " access token read from " ++ varName)
  | .variablesCollected names hasToken =>
    .ofString
      ("collected free variables=" ++ nameList names ++ " token_configured=" ++ truth hasToken)
  | .requestStarted rid path => .ofString ("rid=" ++ rid ++ " start request path=" ++ path)
  | .requestCompleted c => .ofString (completionText c)
  | .persisted id => .ofString "persisted query id=" ++ id
  | .failed kind message => .ofString (kind ++ ": " ++ message)
  | .settingsInvalid fields =>
    .ofString ("Invalid OneGraph settings: " ++ ", ".intercalate fields)
  | .unreadable reason => .ofString ("Cannot read query: " ++ reason)

/-- An event as a line without its time. -/
def line (e : Event) : LooseText :=
  .ofString (e.severity.name ++ " " ++ e.source ++ ": ") ++ e.message

end Event

end PersistedDocument
