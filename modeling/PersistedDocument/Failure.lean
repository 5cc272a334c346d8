import PersistedDocument.Json.Value

/-!
# Failures

The ways in which persisting a document fails and is reported as such. Each has a name, by which
the command line reports it, and a message.
-/

namespace PersistedDocument

/-- A failure of persisting a document. -/
inductive Failure where
  /-- A failure of no particular kind. -/
  | general (message : String)
  /-- The text is no document. -/
  | parse (message : String)
  /-- A second directive configures an access token. -/
  | duplicateToken (operation : String)
  /-- The environment variable that a directive names is not set, or empty. -/
  | missingVariable (varName : String)
  /-- The service answered with errors, which are also given as a text. -/
  | remote (errors : Json) (serialized : String)
  /-- The service could not be reached; `cause` is the kind of network error, if one was met. -/
  | network (message : String) (cause : Option String)
  /-- The service answered with something else than an id. -/
  | invalidResponse (message : String) (status : Option Int)

namespace Failure

/-- The name of the kind of a failure. -/
def name : Failure → String
  | .general _ => "PersistQueryError"
  | .parse _ => "ParseError"
  | .duplicateToken _ => "DuplicateTokenConfigError"
  | .missingVariable _ => "MissingEnvironmentVariableError"
  | .remote _ _ => "RemoteMutationError"
  | .network _ _ => "NetworkError"
  | .invalidResponse _ _ => "InvalidResponseError"

/-- What is said about a failure. -/
def message : Failure → String
  | .general m | .parse m | .network m _ => m
  | .duplicateToken operation => "Access token is already defined for operation=" ++ operation
  | .missingVariable varName =>
    "Cannot persist query. Missing environment variable " ++ "\x60" ++ varName ++ "\x60."
  | .remote _ serialized => "Error persisting query, errors=" ++ serialized
  | .invalidResponse m status =>
    m ++ " (status_code=" ++ (status.elim "None" toString) ++ ")"

end Failure

end PersistedDocument
