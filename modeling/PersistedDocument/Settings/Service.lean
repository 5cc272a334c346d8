import PersistedDocument.Decimal.Shortest
import PersistedDocument.Settings.Sources
import PersistedDocument.Validation

/-!
# Settings of the service

Where the service is and how the caller identifies itself. The names of the fields are those of the
variables. The endpoint may be given as a whole; otherwise it is assembled from a host and a path.
-/

namespace PersistedDocument

open Settings

/-- The settings of the service. -/
structure ServiceSettings where
  /-- The application on whose behalf documents are persisted. -/
  appId : String
  /-- The token that authorizes the caller. -/
  dashboardToken : String
  /-- The host of the service. -/
  host : String
  /-- The path of the service on its host. -/
  path : String
  /-- The seconds to wait for the service, if that is limited. -/
  timeout : Option Float
  /-- The address that requests go to. -/
  endpoint : String

namespace ServiceSettings

/-- The address of a path on a host. One slash is put before a path that starts with none. -/
def assembleEndpoint (host path : String) : String :=
  "https://" ++ host ++ (if path.toList.head? = some '/' then path else "/" ++ path)

/-- Settings whose endpoint is given or assembled. -/
def assemble (appId dashboardToken host path : String) (timeout : Option Float)
    (endpoint : Option String) : ServiceSettings :=
  ⟨appId, dashboardToken, host, path, timeout, endpoint.getD (assembleEndpoint host path)⟩

/-- The settings that the sources give. -/
def resolve (s : Sources) : Checked ServiceSettings :=
  let raw? := fun name => s.raw? name name
  assemble
    <$> Checked.required "RAZZLE_ONEGRAPH_APP_ID" Checked.string (raw? "RAZZLE_ONEGRAPH_APP_ID")
    <*> Checked.required "OG_DASHBOARD_ACCESS_TOKEN" Checked.string
      (raw? "OG_DASHBOARD_ACCESS_TOKEN")
    <*> Checked.withDefault "ONEGRAPH_HOST" "serve.onegraph.com" Checked.string
      (raw? "ONEGRAPH_HOST")
    <*> Checked.withDefault "ONEGRAPH_PATH" "/graphql" Checked.string (raw? "ONEGRAPH_PATH")
    <*> Checked.withDefault "ONEGRAPH_TIMEOUT" none (Checked.nullable Checked.number)
      (raw? "ONEGRAPH_TIMEOUT")
    <*> Checked.withDefault "ONEGRAPH_URI" none (Checked.nullable Checked.string)
      (raw? "ONEGRAPH_URI")

/-- Durations are positional from `0.0001` up to sixteen digits, and keep a fraction. -/
def durationLayout : Decimal.Layout := ⟨-4, 15, 2, "nan", "inf"⟩

/-- The text of a duration. -/
def durationText (seconds : Float) : String := durationLayout.write seconds

end ServiceSettings

end PersistedDocument
