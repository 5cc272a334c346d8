import PersistedDocument.Configuration
import PersistedDocument.Validation

/-!
# Transformed documents as named values

A transformed document may be given by named values instead of a text.
-/

namespace PersistedDocument

/-- The transformed document that named values give. -/
def Transformed.check (given : String → Option Json) : Checked Transformed :=
  Transformed.mk
    <$> Checked.required "query" Checked.string (given "query")
    <*> Checked.withDefault "free_variables" .empty Checked.names (given "free_variables")
    <*> Checked.withDefault "access_token" none (Checked.nullable Checked.string)
      (given "access_token")

end PersistedDocument
