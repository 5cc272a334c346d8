import PersistedDocument.Settings.EnvironmentFile
import PersistedDocument.Json.Value

/-!
# Where settings come from

A setting is given by the caller, by the environment or by an environment file, and the first of
these that gives it decides. A variable of the environment gives its setting also when it is empty,
and a name in the file only if it has a value there.
-/

namespace PersistedDocument.Settings

/-- The sources of settings, the strongest first. -/
structure Sources where
  /-- The values that the caller gives, by field. -/
  given : String → Option Json
  /-- The environment. -/
  environment : String → Option String
  /-- The values of the names in the environment file. -/
  file : String → Option String

/-- What the sources say about a field whose variable has a given name. -/
def Sources.raw? (s : Sources) (field varName : String) : Option Json :=
  (s.given field).or (((s.environment varName).or (s.file varName)).map .text)

/-- The sources when there may be an environment file; none if it is no text. -/
def Sources.ofFile? (given : String → Option Json) (environment : String → Option String) :
    Option Octets → Option Sources
  | none => some ⟨given, environment, fun _ => none⟩
  | some octets => Sources.mk given environment <$> EnvironmentFile.values? environment octets

end PersistedDocument.Settings
