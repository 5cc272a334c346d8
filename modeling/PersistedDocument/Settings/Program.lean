import PersistedDocument.Log
import PersistedDocument.Settings.Sources
import PersistedDocument.Text.UpperCase
import PersistedDocument.Validation

/-!
# Settings of the program

How the program calls itself and how much it reports. The variables of these settings are the names
of the fields with `PERSIST_QUERY_` before them.
-/

namespace PersistedDocument

open Settings

/-- How grave an event must be to be shown. -/
inductive Threshold where
  | critical
  | fatal
  | error
  | warn
  | warning
  | info
  | debug
  | notSet
deriving DecidableEq, Repr

namespace Threshold

/-- All thresholds. -/
def all : List Threshold := [.critical, .fatal, .error, .warn, .warning, .info, .debug, .notSet]

/-- The word for a threshold. -/
def name : Threshold → String
  | .critical => "CRITICAL"
  | .fatal => "FATAL"
  | .error => "ERROR"
  | .warn => "WARN"
  | .warning => "WARNING"
  | .info => "INFO"
  | .debug => "DEBUG"
  | .notSet => "NOTSET"

/-- The place of a threshold on the scale of severities. -/
def rank : Threshold → Nat
  | .critical | .fatal => 50
  | .error => 40
  | .warn | .warning => 30
  | .info => 20
  | .debug => 10
  | .notSet => 0

/-- The threshold that a word stands for in any case. -/
def ofName? (word : String) : Option Threshold :=
  all.find? (·.name = Text.upperText word)

/-- Whether an event is shown. -/
def admits (t : Threshold) (e : Event) : Bool := t.rank ≤ e.severity.rank

end Threshold

/-- The settings of the program. -/
structure ProgramSettings where
  /-- The name that the program reports. -/
  projectName : String
  /-- The version that the program reports. -/
  version : String
  /-- How grave an event must be to be shown. -/
  threshold : Threshold
deriving DecidableEq, Repr

namespace ProgramSettings

/-- Settings whose threshold is given by a word. An unknown word is a problem with the settings as a
whole. -/
def assemble (projectName version level : String) : Checked ProgramSettings :=
  match Threshold.ofName? level with
  | some threshold => .valid ⟨projectName, version, threshold⟩
  | none => Checked.complain (.unknownLogLevel level)

/-- The settings that the sources give. The word for the threshold is only looked at when all fields
are what they should be. -/
def resolve (s : Sources) : Checked ProgramSettings :=
  let raw? := fun name => s.raw? name ("PERSIST_QUERY_" ++ name)
  Checked.join <| assemble
    <$> Checked.withDefault "PROJECT_NAME" "persist_query" Checked.string (raw? "PROJECT_NAME")
    <*> Checked.withDefault "API_VERSION" "0.1.0" Checked.string (raw? "API_VERSION")
    <*> Checked.withDefault "LOG_LEVEL" "INFO" Checked.string (raw? "LOG_LEVEL")

end ProgramSettings

end PersistedDocument
