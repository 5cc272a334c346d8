import PersistedDocument.Proofs.SharedCollector

/-!
# Proofs: the free variables of a visited document

What a visit collects are exactly the variables that are mentioned in what it leaves. It mentions
what it leaves, not what it is given: a variable that occurs only in a directive that is taken off
is not collected.
-/

namespace PersistedDocument

open GraphQL

/-- A visit that comes to its end leaves the document without the configuration directives of its
operations, and adds the variables of what it leaves. -/
theorem visitDocument_eq_ok {env : Environment} {document visited : Document} {c c' : Collector}
    (h : visitDocument env document c = .ok visited c') :
    visited = document.withoutConfiguration
      ∧ c'.freeVariables = c.freeVariables.insertAll visited.variableNames := by
  obtain ⟨hnone, -⟩ := failure?_of_visitDocument h
  obtain ⟨hvisited, hvariables, -⟩ := (ends_visitDocument hnone).of_ok h
  obtain rfl := Except.ok.inj hvisited
  refine ⟨rfl, ?_⟩
  rw [hvariables, Document.variableNames, List.flatMap_map]

/-- A visit keeps every definition, apart from the configuration directives on operations, and its
free variables are the variables mentioned anywhere in what it leaves. These are the ones that the
document mentions elsewhere than in a directive that is taken off. -/
theorem mem_freeVariables_of_visitDocument {env : Environment} {document visited : Document}
    {c : Collector} (h : visitDocument env document .fresh = .ok visited c) :
    (∀ i : Nat,
      Option.Rel Definition.IsVisitedAs document.definitions[i]? visited.definitions[i]?) ∧
    (∀ x, x ∈ c.freeVariables ↔ visited.Mentions x) ∧
    ∀ x, x ∈ c.freeVariables ↔ ∃ d ∈ document.definitions, d.MentionsElsewhere x := by
  obtain ⟨rfl, hvariables⟩ := visitDocument_eq_ok h
  have hmentions (x : String) :
      x ∈ c.freeVariables ↔ document.withoutConfiguration.Mentions x := by
    have hfresh : x ∉ Collector.fresh.freeVariables := List.not_mem_nil
    rw [hvariables, NameSet.mem_insertAll, or_iff_left hfresh, Document.mem_variableNames]
  refine ⟨isVisitedAs_iff.2 rfl, hmentions, fun x => ?_⟩
  rw [hmentions]
  constructor
  · rintro ⟨left, hleft, h⟩
    obtain ⟨d, hd, rfl⟩ := List.mem_map.1 hleft
    exact ⟨d, hd, Definition.mentions_withoutConfiguration.1 h⟩
  · rintro ⟨d, hd, h⟩
    have hkept : d.withoutConfiguration ∈ document.withoutConfiguration.definitions :=
      List.mem_map_of_mem hd
    exact ⟨_, hkept, Definition.mentions_withoutConfiguration.2 h⟩

/-- A configuration directive with two variables, which gives no token. -/
def listedVariables : Directive :=
  ⟨configurationDirective, [⟨accessTokenArgument, .list [.variable "a", .variable "b"]⟩]⟩

/-- An operation that uses one of them besides. -/
def usingVariable (directives : List Directive) : Operation where
  description := none
  kind := .query
  name := none
  declared := []
  directives := directives
  selections := [.field none "f" [⟨"x", .variable "b"⟩] [] []]

section

set_option maxRecDepth 2048

/-- A variable that is only in a directive that is taken off is not collected, and one that is also
in the argument of a field is. -/
theorem mem_freeVariables_of_visitDocument_two :
    ∃ document c,
      Document.parse "query @persistedQueryConfiguration(accessToken: [$a, $b]) \x7bf(x: $b)\x7d"
        = .ok document ∧
      visitDocument (fun _ => none) document .fresh = .ok ⟨[.operation (usingVariable [])]⟩ c ∧
      "a" ∉ c.freeVariables ∧ "b" ∈ c.freeVariables := by
  have hparse : Document.parse
      "query @persistedQueryConfiguration(accessToken: [$a, $b]) \x7bf(x: $b)\x7d"
      = .ok ⟨[.operation (usingVariable [listedVariables])]⟩ := by cbv
  obtain ⟨c, hvisit, -⟩ := @ends_visitDocument (fun _ => none)
    [.operation (usingVariable [listedVariables])] .fresh (by decide)
  obtain ⟨-, hmentions, -⟩ := mem_freeVariables_of_visitDocument hvisit
  refine ⟨_, c, hparse, hvisit, ?_, ?_⟩
  · rw [hmentions, ← Document.mem_variableNames]
    decide
  · rw [hmentions, ← Document.mem_variableNames]
    decide

end

end PersistedDocument
