import PersistedDocument.Proofs.Collecting
import PersistedDocument.Proofs.Mentions
import PersistedDocument.Proofs.PrintedTokens
import PersistedDocument.Proofs.Rereading
import PersistedDocument.Proofs.Yields

/-!
# Proofs: preservation

What is submitted means what was written. The text that a transformation gives is read as the
document from which it was made, definition by definition, without the configuration directives of
its operations and without any other difference.
-/

namespace PersistedDocument

open GraphQL

/-- A readable document of operations and fragments is printed as a text that is read as this
document. -/
theorem parse_print {document : Document}
    (hexecutable : ∀ d ∈ document.definitions, d.isExecutable = true)
    (h : ∀ d ∈ document.definitions, d.IsReadable) (hne : document.definitions ≠ []) :
    Document.parse document.print = .ok document := by
  rw [Document.parse, (spells_print hexecutable h).lex_eq]
  exact Parser.ofTokens_tokens hexecutable h hne

/-- A definition without configuration directives is as readable as with them. -/
theorem isReadable_withoutConfiguration {d : Definition} (h : d.IsReadable) :
    d.withoutConfiguration.IsReadable := by
  cases d with
  | operation o =>
    rw [Definition.IsReadable] at h
    exact ⟨h.description, h.name, h.declared,
      fun d hd => h.directives d (List.mem_filter.1 hd).1, h.selections⟩
  | _ => exact h

theorem isExecutable_withoutConfiguration (d : Definition) :
    d.withoutConfiguration.isExecutable = d.isExecutable := by
  cases d <;> rfl

/-- A text is transformed only if it is a document, and then into the canonical text of the document
without configuration. -/
theorem query_of_transform {env : Environment} {text : String} {c c' : Collector} {t : Transformed}
    (h : transform env text c = .ok t c') :
    ∃ document, Document.parse text = .ok document
      ∧ t.query = document.withoutConfiguration.print := by
  cases hparse : Document.parse text with
  | error e => cases (transform_of_parse_error hparse c).symm.trans h
  | ok document =>
    refine ⟨document, rfl, ?_⟩
    cases hfailure : failure? env c.accessToken document.configurations with
    | some e =>
      obtain ⟨_, hfails⟩ := transform_eq_of_failure hparse hfailure
      cases hfails.symm.trans h
    | none =>
      obtain ⟨_, hends, -⟩ := ends_transform hparse hfailure
      cases hends.symm.trans h
      rfl

/-- The text that is made from a document of operations and fragments is read as a document with the
same definitions in the same order, of which only the operations differ, and these only in the
directives that they do not keep. -/
theorem parse_transformed_query {env : Environment} {text : String} {c c' : Collector}
    {t : Transformed} (h : transform env text c = .ok t c') :
    ∃ document, Document.parse text = .ok document ∧
      ((∀ d ∈ document.definitions, d.isExecutable = true) →
        ∃ left, Document.parse t.query = .ok left ∧ ∀ i : Nat,
          Option.Rel Definition.IsVisitedAs document.definitions[i]? left.definitions[i]?) := by
  obtain ⟨document, hparse, hquery⟩ := query_of_transform h
  refine ⟨document, hparse, fun hexecutable => ?_⟩
  refine ⟨document.withoutConfiguration, ?_, isVisitedAs_iff.2 rfl⟩
  obtain ⟨hne, hreadable⟩ := Parser.isReadable_of_parse hparse
  rw [hquery]
  apply parse_print
  · intro d hd
    obtain ⟨d', hd', rfl⟩ := List.mem_map.1 hd
    rw [isExecutable_withoutConfiguration]
    exact hexecutable d' hd'
  · intro d hd
    obtain ⟨d', hd', rfl⟩ := List.mem_map.1 hd
    exact isReadable_withoutConfiguration (hreadable d' hd')
  · rw [Document.withoutConfiguration, ne_eq, List.map_eq_nil_iff]
    exact hne

/-- A mutation whose token is in an environment variable. -/
def mutationText : String :=
  "mutation Rename($id: ID!) "
    ++ "@persistedQueryConfiguration(accessToken: \x7benvironmentVariable: \"T\"\x7d) @live "
    ++ "\x7brename(id: $id, note: \"\"\"x\n  y\n z\"\"\")\x7d"

/-- A mutation with a name, a variable and a block string whose lines have an indentation in
common. -/
def namedMutation (directives : List Directive) : Operation where
  description := none
  kind := .mutation
  name := some "Rename"
  declared := [⟨none, "id", .named "ID" true, none, []⟩]
  directives := directives
  selections := [.field none "rename"
    [⟨"id", .variable "id"⟩, ⟨"note", .string ⟨"x\n y\nz", true⟩⟩] [] []]

/-- A directive that gives a token. -/
def configuringDirective : Directive :=
  ⟨configurationDirective, [⟨accessTokenArgument,
    .object [(environmentVariableField, .string ⟨"T", false⟩)]⟩]⟩

section

set_option maxRecDepth 4096

/-- Of a mutation with a token, only the directive that gives it is gone after a round trip. -/
theorem parse_transformed_query_mutation :
    ∃ t c, transform (fun _ => some "t") mutationText .fresh = .ok t c
      ∧ Document.parse t.query = .ok ⟨[.operation (namedMutation [⟨"live", []⟩])]⟩ := by
  have hparse : Document.parse mutationText
      = .ok ⟨[.operation (namedMutation [configuringDirective, ⟨"live", []⟩])]⟩ := by cbv
  obtain ⟨c, htransform, -⟩ := @ends_transform (fun _ => some "t") _ _ .fresh hparse (by decide)
  obtain ⟨document, hdocument, hquery⟩ := parse_transformed_query htransform
  obtain rfl := Except.ok.inj (hparse.symm.trans hdocument)
  obtain ⟨left, hleft, hvisited⟩ := hquery (by decide)
  obtain rfl := isVisitedAs_iff.1 hvisited
  exact ⟨_, c, htransform, hleft⟩

end

end PersistedDocument
