import PersistedDocument.CommandLine.Program
import PersistedDocument.Proofs.JsonAscii
import PersistedDocument.Proofs.RequestBody

/-!
# Proofs: the preview of a document

What is shown of a document instead of submitting it is a JSON text, laid out for readers and in
ASCII, while the body of a request is written without blanks and in UTF-8. Read again they say the
same of the document, up to the access token, of which a preview only says whether there is one.
-/

namespace PersistedDocument

open Json

/-- Two values say the same of a document: what is shown of it and the variables with which it is
submitted. -/
structure IsPreviewOf (preview given : Json) : Prop where
  query : ∃ query, preview.member? "query" = some (.text query)
    ∧ given.member? "query" = some (.text query)
  freeVariables : ∃ names : List String,
    preview.member? "freeVariables" = some (.array (names.map .text))
      ∧ given.member? "freeVariables" = some (.array (names.map .text))
  accessToken : ∃ token, given.member? "accessToken" = some token
    ∧ preview.member? "accessTokenConfigured" = some (.boolean !token.isNull)

namespace CommandLine

/-- What is shown of a document, as a value. -/
def previewValue (t : Transformed) : Json :=
  ofFields
    [("query", .text t.query),
      ("freeVariables", .array (t.freeVariables.members.map .text)),
      ("accessTokenConfigured", .boolean t.accessToken.isSome)]

theorem isExact_previewValue (t : Transformed) : (previewValue t).IsExact := by
  refine isExact_ofFields ?_ ?_
  · show ["query", "freeVariables", "accessTokenConfigured"].Nodup
    decide
  · simp only [List.forall_mem_cons]
    exact ⟨isExact_text _, isExact_texts _, .boolean _, nofun⟩

theorem fitsIn_previewValue (t : Transformed) : (previewValue t).FitsIn 2 := by
  refine fitsIn_ofFields ?_
  simp only [List.forall_mem_cons]
  exact ⟨.string _, fitsIn_texts 0 _, .boolean _, nofun⟩

/-- What is shown is read as the value that it was written for. -/
theorem read_previewText (t : Transformed) {room : Nat} (hroom : 2 ≤ room) :
    Json.read room (.ofString (previewText t ++ "\n")) = .ok (previewValue t) :=
  read_prettyPrint_line (isExact_previewValue t) ((fitsIn_previewValue t).mono hroom)

/-- What is shown is an object. -/
theorem exists_read_previewText (t : Transformed) :
    ∃ members, ∀ room, 2 ≤ room →
      Json.read room (.ofString (previewText t ++ "\n")) = .ok (.object members) :=
  ⟨_, fun _ => read_previewText t⟩

/-- What is shown is ASCII, whatever the document holds. -/
theorem ascii_previewText (t : Transformed) : ∀ c ∈ (previewText t).toList, c.toNat < 0x80 := by
  refine ascii_prettyPrint (.object ?_)
  simp only [List.map_cons, List.map_nil, List.forall_mem_cons]
  refine ⟨.string _, .array fun v hv => ?_, .boolean _, nofun⟩
  obtain ⟨name, -, rfl⟩ := List.mem_map.1 hv
  exact .string _

/-- What is shown of a document says what its request would. -/
theorem isPreviewOf_previewValue (appId : String) (t : Transformed) :
    ∃ given, (requestValue appId t).member? "variables" = some given
      ∧ IsPreviewOf (previewValue t) given := by
  have htoken : t.accessToken.isSome = !(t.accessToken.elim Json.null Json.text).isNull := by
    cases t.accessToken <;> rfl
  have hconfigured : (previewValue t).member? "accessTokenConfigured"
      = some (.boolean !(t.accessToken.elim Json.null Json.text).isNull) := by
    rw [← htoken]
    exact member?_ofFields _ _
  refine ⟨_, member?_ofFields _ _, ⟨t.query, ?_, ?_⟩, ⟨t.freeVariables.members, ?_, ?_⟩,
    ⟨t.accessToken.elim .null .text, ?_, hconfigured⟩⟩
  all_goals exact member?_ofFields _ _

end CommandLine

end PersistedDocument
