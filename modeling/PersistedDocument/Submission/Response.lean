import PersistedDocument.Failure
import PersistedDocument.Json.Reader
import PersistedDocument.Json.Writer
import PersistedDocument.Submission.Request
import PersistedDocument.Validation

/-!
# Responses

What a response of the service means: an id, or a failure. The status takes no part in the
judgement; it is only reported with a failure.
-/

namespace PersistedDocument

/-! ### Faults -/

/-- A fault that is met instead of a response. -/
inductive Fault where
  | connectError
  | connectTimeout
  | readTimeout
  | writeTimeout
  | poolTimeout
  | readError
  | writeError
  | closeError
  | proxyError
  | unsupportedProtocol
  | localProtocolError
  | remoteProtocolError
  | networkError
  | timeoutException
  | transportError
  | decodingError
  | tooManyRedirects
deriving DecidableEq, Repr

namespace Fault

/-- All faults. -/
def all : List Fault :=
  [.connectError, .connectTimeout, .readTimeout, .writeTimeout, .poolTimeout, .readError,
    .writeError, .closeError, .proxyError, .unsupportedProtocol, .localProtocolError,
    .remoteProtocolError, .networkError, .timeoutException, .transportError, .decodingError,
    .tooManyRedirects]

/-- The name of a fault. -/
def name : Fault → String
  | .connectError => "ConnectError"
  | .connectTimeout => "ConnectTimeout"
  | .readTimeout => "ReadTimeout"
  | .writeTimeout => "WriteTimeout"
  | .poolTimeout => "PoolTimeout"
  | .readError => "ReadError"
  | .writeError => "WriteError"
  | .closeError => "CloseError"
  | .proxyError => "ProxyError"
  | .unsupportedProtocol => "UnsupportedProtocol"
  | .localProtocolError => "LocalProtocolError"
  | .remoteProtocolError => "RemoteProtocolError"
  | .networkError => "NetworkError"
  | .timeoutException => "TimeoutException"
  | .transportError => "TransportError"
  | .decodingError => "DecodingError"
  | .tooManyRedirects => "TooManyRedirects"

/-- The fault with a name. -/
def ofName? (name : String) : Option Fault := all.find? (·.name = name)

/-- Whether a fault means that the service could not be reached. -/
def isTransport : Fault → Bool
  | .decodingError | .tooManyRedirects => false
  | _ => true

end Fault

/-! ### How a run ends without an id -/

/-- Why a run gives no id. -/
inductive RunError where
  /-- A failure of a known kind. -/
  | failure (f : Failure)
  /-- The settings are incomplete or wrong. -/
  | invalidSettings (problems : List Problem)
  /-- The environment file is no text. -/
  | unreadableSettings
  /-- The request cannot be made. -/
  | refused (r : Refusal)
  /-- A fault that is not about reaching the service. -/
  | fault (f : Fault)
  /-- A whole number in the response has too many digits. -/
  | oversizedInteger
  /-- Arrays and objects in the response are nested too deeply. -/
  | nestedTooDeeply
  /-- The response belongs to no absolute address. -/
  | unattributableResponse

/-! ### Judging -/

/-- The names of the objects around the id, from the outside in. -/
def idPath : List String := ["data", "oneGraph", "createPersistedQuery", "persistedQuery"]

/-- The greatest number of levels of values in the extensions of a response. -/
def greatestExtensionDepth : Nat := 255

/-- Whether the extensions of a response are not nested too deeply. Other members may be. -/
def Json.hasShallowExtensions (v : Json) : Bool :=
  (v.member? "extensions").all (·.isWithin greatestExtensionDepth)

/-- The id in the value of a response. -/
def Json.persistedId? (v : Json) : Option LooseText := do
  guard v.hasShallowExtensions
  let inner ← idPath.foldlM (fun v name => v.member? name) v
  let id ← inner.member? "id"
  id.string?

/-- The errors in the value of a response. -/
def Json.errors? (v : Json) : Option Json := (v.member? "errors").filter fun e => !e.isNull

/-- The failure of a response that holds no id. -/
def invalidResponse {α : Type} (message : String) (status : Int) : Except RunError α :=
  .error (.failure (.invalidResponse message (some status)))

/-- What the value of a response means. Errors count more than an id. -/
def judgeValue (status : Int) (v : Json) : Except RunError LooseText :=
  match v.members? with
  | none => invalidResponse "Persisted query service returned an unexpected body" status
  | some _ =>
    match v.errors? with
    | some errors => .error (.failure (.remote errors errors.serialize))
    | none =>
      match v.persistedId? with
      | some id => .ok id
      | none => invalidResponse "Persisted query id missing from response" status

/-- What a response means, with room for so many arrays and objects in each other. -/
def judge (room : Nat) (status : Int) (body : Octets) : Except RunError LooseText :=
  match Json.readOctets room body with
  | .error .malformed => invalidResponse "Persisted query service returned a non JSON body" status
  | .error .oversizedInteger => .error .oversizedInteger
  | .error .nestedTooDeeply => .error .nestedTooDeeply
  | .ok v => judgeValue status v

end PersistedDocument
