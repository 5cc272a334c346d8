import PersistedDocument.Settings.Service
import PersistedDocument.Text.Quoted

/-!
# Assigned settings

Once there are settings, their fields can be given any values, which are not checked. A value that
is no string is written out where a text is needed. Only the application has to be a string again
by the time it identifies the caller.
-/

namespace PersistedDocument.Settings

open Text

/-! ### Values written out -/

mutual

/-- A value that is written out, with strings in quotation marks. -/
def writeOut : Json → List Char
  | .null => "None".toList
  | .boolean b => if b then "True".toList else "False".toList
  | .integer n => (toString n).toList
  | .real x => (ServiceSettings.durationText x).toList
  | .string s => quoteCharacters (s.filterMap CodePoint.toChar?)
  | .array vs => '[' :: joinWith [',', ' '] (writeOutItems vs) ++ [']']
  | .object ms => '\x7b' :: joinWith [',', ' '] (writeOutMembers ms) ++ ['\x7d']

/-- The items of a list, written out. -/
def writeOutItems : List Json → List (List Char)
  | [] => []
  | v :: vs => writeOut v :: writeOutItems vs

/-- Named values, written out. -/
def writeOutMembers : List (LooseText × Json) → List (List Char)
  | [] => []
  | (n, v) :: ms =>
    (quoteCharacters (n.filterMap CodePoint.toChar?) ++ ':' :: ' ' :: writeOut v)
      :: writeOutMembers ms

end

/-- A value where a text is needed: a string as it is, and any other value written out. -/
def textOf (v : Json) : String :=
  (v.string? >>= LooseText.toString?).getD (String.ofList (writeOut v))

/-! ### Assignments -/

/-- Settings of the service in which values may have been assigned. -/
structure Assigned where
  /-- The settings. -/
  settings : ServiceSettings
  /-- The application as it was assigned. -/
  appId : Json

namespace Assigned

/-- Settings in which nothing has been assigned yet. -/
def ofSettings (s : ServiceSettings) : Assigned := ⟨s, .text s.appId⟩

/-- Settings in which a field has been assigned a value; none if there is no such field. -/
def assign (a : Assigned) (field : String) (value : Json) : Option Assigned :=
  let s := a.settings
  match field with
  | "RAZZLE_ONEGRAPH_APP_ID" => some { a with appId := value }
  | "OG_DASHBOARD_ACCESS_TOKEN" =>
    some { a with settings := { s with dashboardToken := textOf value } }
  | "ONEGRAPH_HOST" => some { a with settings := { s with host := textOf value } }
  | "ONEGRAPH_PATH" => some { a with settings := { s with path := textOf value } }
  | "ONEGRAPH_TIMEOUT" => some a
  | "ONEGRAPH_URI" => some { a with settings := { s with endpoint := textOf value } }
  | _ => none

/-- The settings to submit with. -/
def check (a : Assigned) : Checked ServiceSettings :=
  Checked.map (fun appId => { a.settings with appId })
    ((Checked.string a.appId).within (.field "appId"))

end Assigned

end PersistedDocument.Settings
