import PersistedDocument.Configuration
import PersistedDocument.Json.Writer
import PersistedDocument.Settings.Service
import PersistedDocument.Url.Basic

/-!
# Requests

The request that asks the service to keep a document. Its body is a JSON text with the mutation to
run and the variables to run it with, its address names the application in the query, and its
headers say who asks.
-/

namespace PersistedDocument

open Text

/-! ### The body -/

/-- The mutation that keeps a document. -/
def persistMutation : String :=
  "\n".intercalate
    ["",
      "  mutation PersistQuery(",
      "    $freeVariables: [String!]!",
      "    $appId: String!",
      "    $accessToken: String",
      "    $query: String!",
      "  ) \x7b",
      "    oneGraph \x7b",
      "      createPersistedQuery(",
      "        input: \x7b",
      "          query: $query",
      "          accessToken: $accessToken",
      "          appId: $appId",
      "          cacheStrategy: \x7b timeToLiveSeconds: 300 \x7d",
      "          freeVariables: $freeVariables",
      "        \x7d",
      "      ) \x7b",
      "        persistedQuery \x7b",
      "          id",
      "        \x7d",
      "      \x7d",
      "    \x7d",
      "  \x7d",
      ""]

/-- The body of the request for a document, as a value. Without an access token it says so. -/
def requestValue (appId : String) (t : Transformed) : Json :=
  .ofFields
    [("query", .text persistMutation),
      ("variables", .ofFields
        [("query", .text t.query),
          ("appId", .text appId),
          ("accessToken", t.accessToken.elim .null .text),
          ("freeVariables", .array (t.freeVariables.members.map .text))])]

/-- The body of the request for a document. -/
def requestBody (appId : String) (t : Transformed) : String := (requestValue appId t).encode

/-! ### The headers -/

/-- The headers of a request. -/
structure Headers where
  /-- What kind of text the body is. -/
  contentType : String
  /-- The number of octets of the body. -/
  contentLength : String
  /-- What authorizes the caller. -/
  authorization : String
deriving DecidableEq, Repr

/-- The headers for a body, with the token from the settings. -/
def ServiceSettings.headers (s : ServiceSettings) (body : String) : Headers where
  contentType := "application/json"
  contentLength := toString (Utf8.encode body).length
  authorization := "Bearer " ++ s.dashboardToken

/-! ### Requests -/

/-- A request. -/
structure Request where
  /-- Where it goes. -/
  address : Url
  /-- Its headers. -/
  headers : Headers
  /-- Its body. -/
  body : String
deriving DecidableEq, Repr

/-- The method of requests. -/
def Request.method : String := "POST"

/-- The address of a request as it is written. -/
def Request.addressText (r : Request) : String := String.ofList r.address.text

/-- Why a request cannot be made. -/
inductive Refusal where
  /-- The address is none. -/
  | invalidAddress
  /-- A header would hold characters beyond ASCII. -/
  | unencodableHeader
deriving DecidableEq, Repr

/-- The name of a refusal. -/
def Refusal.name : Refusal → String
  | .invalidAddress => "InvalidURL"
  | .unencodableHeader => "UnicodeEncodeError"

/-- The query that names an application. -/
def applicationQuery (appId : String) : List Char :=
  "app_id=".toList ++ Percent.formEncode appId.toList

/-- The address in a text; a refusal if it is none. -/
def readAddress (text : String) : Except Refusal Url :=
  match Url.read? text.toList >>= Url.target? with
  | some u => .ok u
  | none => .error .invalidAddress

/-- An address, if there is one and a header can name its host. -/
def admitAddress : Option Url → Except Refusal Url
  | some u => if u.hasAsciiHost then .ok u else .error .unencodableHeader
  | none => .error .invalidAddress

/-- The address of a request on behalf of an application. -/
def addressFor (endpoint : Url) (appId : String) : Except Refusal Url :=
  admitAddress (endpoint.withQuery? (applicationQuery appId))

/-- Headers for an address. Credentials in the address replace the authorization. -/
def Headers.forAddress (h : Headers) (u : Url) : Headers :=
  match u.basicCredentials? with
  | some credentials => { h with authorization := "Basic " ++ String.ofList credentials }
  | none => h

/-- The request for a document. -/
def Request.prepare (s : ServiceSettings) (t : Transformed) : Except Refusal Request := do
  let body := requestBody s.appId t
  let headers := s.headers body
  let endpoint ← readAddress s.endpoint
  if headers.authorization.toList.any (fun c => 0x80 ≤ c.toNat) then throw .unencodableHeader
  let address ← addressFor endpoint s.appId
  return ⟨address, headers.forAddress address, body⟩

end PersistedDocument
