import PersistedDocument.Proofs.Collecting
import PersistedDocument.Proofs.Mentions

/-!
# Proofs: a collector that several documents share

A collector may be used for one text after the other, while the environment changes. It keeps the
first token that it could read, and with a token every further configuration is an error. It keeps
the variables of the texts that were transformed, and of the others those of the definitions before
the operation that failed.
-/

namespace PersistedDocument

open GraphQL

/-! ## Runs -/

/-- The collector after a step, which transforms a text in an environment or fails to. -/
def Collector.step (c : Collector) (s : Environment × String) : Collector :=
  match transform s.1 s.2 c with
  | .ok _ c' => c'
  | .error _ c' => c'

/-- The collector after steps one after the other. -/
def Collector.run (c : Collector) (steps : List (Environment × String)) : Collector :=
  steps.foldl Collector.step c

/-- A step contributes a variable to a collector: one that is mentioned in what is left of some
definition, which is any definition of a document that is transformed, and one of those before the
operation at which the visit fails otherwise. A text that is no document contributes nothing. -/
inductive Contributes (c : Collector) (env : Environment) (text x : String) : Prop
  /-- The text is transformed. -/
  | transformed {document : Document} {t : Transformed} {c' : Collector} {d left : Definition}
    (hparse : Document.parse text = .ok document) (htransform : transform env text c = .ok t c')
    (hd : d ∈ document.definitions) (hleft : d.IsVisitedAs left) (h : left.Mentions x)
  /-- The visit fails at an operation. -/
  | failed {document visited : Document} {before after : List Definition} {o : Operation}
    {c₁ c₂ : Collector} {e : Failure} {d left : Definition}
    (hparse : Document.parse text = .ok document)
    (hdefinitions : document.definitions = before ++ .operation o :: after)
    (hbefore : visitDocument env ⟨before⟩ c = .ok visited c₁)
    (ho : visitOperation env o c₁ = .error e c₂)
    (hd : d ∈ before) (hleft : d.IsVisitedAs left) (h : left.Mentions x)

/-- The token that the first configuration in a text gives, if there is one and its variable is set
and not empty. -/
def firstToken? (s : Environment × String) : Option String :=
  match Document.parse s.2 with
  | .ok document => document.configurations.head?.bind fun c => s.1.token? c.2
  | .error _ => none

/-! ## One step -/

theorem Ends.step {env : Environment} {text : String} {c : Collector}
    {result : Except Failure Transformed} {free : NameSet} {token : Option String}
    (h : Ends (transform env text c) result free token) :
    (c.step (env, text)).freeVariables = free ∧ (c.step (env, text)).accessToken = token := by
  obtain ⟨c', hc', hvariables, htoken⟩ := h
  have hstep : c.step (env, text) = c' := by
    rw [Collector.step]
    cases result with
    | ok t => rw [hc']
    | error e => rw [hc']
  rw [hstep]
  exact ⟨hvariables, htoken⟩

/-- Only the first configuration in a text can give a token, and only if there is none. -/
theorem accessToken_step (c : Collector) (s : Environment × String) :
    (c.step s).accessToken = c.accessToken.or (firstToken? s) := by
  obtain ⟨env, text⟩ := s
  rw [firstToken?]
  cases hparse : Document.parse text with
  | error e =>
    rw [Collector.step, transform_of_parse_error hparse]
    exact (Option.or_none ..).symm
  | ok document =>
    cases hfailure : failure? env c.accessToken document.configurations with
    | none => exact (ends_transform hparse hfailure).step.2
    | some e =>
      rw [configurations_eq_flatMap] at hfailure
      obtain ⟨before, o, after, hdefinitions, hbefore, ho⟩ := exists_failing_operation hfailure
      exact (ends_transform_of_failure hparse hdefinitions hbefore ho).step.2

/-- Definitions that are visited to their end have no configurations that fail. -/
theorem failure?_of_visitDocument {env : Environment} {ds : List Definition} {c c' : Collector}
    {visited : Document} (h : visitDocument env ⟨ds⟩ c = .ok visited c') :
    failure? env c.accessToken (ds.flatMap Definition.configurations) = none
      ∧ c'.accessToken = tokenAfter env c.accessToken (ds.flatMap Definition.configurations) := by
  cases hfailure : failure? env c.accessToken (ds.flatMap Definition.configurations) with
  | none => exact ⟨rfl, ((ends_visitDocument hfailure).of_ok h).2.2⟩
  | some e =>
    obtain ⟨before, o, after, hds, hbefore, ho⟩ := exists_failing_operation hfailure
    rw [hds] at h
    cases ((ends_visitDocument_of_failure hbefore ho).of_ok h).1

/-- An operation whose visit fails has configurations that fail. -/
theorem failure?_of_visitOperation {env : Environment} {o : Operation} {c c' : Collector}
    {e : Failure} (h : visitOperation env o c = .error e c') :
    failure? env c.accessToken o.configurations = some e := by
  have hresult := ((ends_visitOperation env o c).of_error h).1
  cases hfailure : failure? env c.accessToken o.configurations with
  | none =>
    rw [hfailure] at hresult
    cases hresult
  | some e' =>
    rw [hfailure] at hresult
    rw [Except.error.inj hresult]

/-- The variables that are collected in what is left of definitions. -/
theorem mem_variableNames_left {ds : List Definition} {x : String} :
    x ∈ ds.flatMap (fun d => d.withoutConfiguration.variableNames)
      ↔ ∃ d ∈ ds, ∃ left, d.IsVisitedAs left ∧ left.Mentions x := by
  simp only [List.mem_flatMap, Definition.mem_variableNames, Definition.isVisitedAs_iff,
    exists_eq_left]

/-- What a step contributes is among the variables after it. -/
theorem Contributes.mem_step {c : Collector} {env : Environment} {text x : String}
    (h : Contributes c env text x) : x ∈ (c.step (env, text)).freeVariables := by
  cases h with
  | @transformed document t c' d left hparse htransform hd hleft h =>
    cases hfailure : failure? env c.accessToken document.configurations with
    | none =>
      rw [(ends_transform hparse hfailure).step.1, NameSet.mem_insertAll,
        variableNames_withoutConfiguration, mem_variableNames_left]
      exact Or.inl ⟨d, hd, left, hleft, h⟩
    | some e =>
      obtain ⟨_, hfails⟩ := transform_eq_of_failure hparse hfailure
      cases hfails.symm.trans htransform
  | failed hparse hdefinitions hbefore ho hd hleft h =>
    obtain ⟨hnone, htoken⟩ := failure?_of_visitDocument hbefore
    have hsome := failure?_of_visitOperation ho
    rw [htoken] at hsome
    rw [(ends_transform_of_failure hparse hdefinitions hnone hsome).step.1, NameSet.mem_insertAll,
      mem_variableNames_left]
    exact Or.inl ⟨_, hd, _, hleft, h⟩

/-- A step adds variables to the collector, of which each is one that it contributes. -/
theorem exists_freeVariables_step (c : Collector) (env : Environment) (text : String) :
    ∃ names, (c.step (env, text)).freeVariables = c.freeVariables.insertAll names
      ∧ ∀ x ∈ names, Contributes c env text x := by
  cases hparse : Document.parse text with
  | error e =>
    rw [Collector.step, transform_of_parse_error hparse]
    exact ⟨[], rfl, nofun⟩
  | ok document =>
    cases hfailure : failure? env c.accessToken document.configurations with
    | none =>
      have hstep := (ends_transform hparse hfailure).step.1
      obtain ⟨_, htransform, -⟩ := ends_transform hparse hfailure
      refine ⟨_, hstep, fun x hx => ?_⟩
      rw [variableNames_withoutConfiguration] at hx
      obtain ⟨d, hd, left, hleft, h⟩ := mem_variableNames_left.1 hx
      exact .transformed hparse htransform hd hleft h
    | some e =>
      rw [configurations_eq_flatMap] at hfailure
      obtain ⟨before, o, after, hdefinitions, hnone, hsome⟩ := exists_failing_operation hfailure
      obtain ⟨c₁, hbefore, -, htoken⟩ := ends_visitDocument hnone
      have hoperation := ends_visitOperation env o c₁
      rw [htoken, hsome] at hoperation
      obtain ⟨c₂, ho, -⟩ := hoperation
      refine ⟨_, (ends_transform_of_failure hparse hdefinitions hnone hsome).step.1,
        fun x hx => ?_⟩
      obtain ⟨d, hd, left, hleft, h⟩ := mem_variableNames_left.1 hx
      exact .failed hparse hdefinitions hbefore ho hd hleft h

/-- A step adds to the variables those that it contributes, and nothing else. -/
theorem mem_freeVariables_step {c : Collector} {env : Environment} {text x : String} :
    x ∈ (c.step (env, text)).freeVariables
      ↔ Contributes c env text x ∨ x ∈ c.freeVariables := by
  obtain ⟨names, hstep, hnames⟩ := exists_freeVariables_step c env text
  constructor
  · intro hx
    rw [hstep, NameSet.mem_insertAll] at hx
    exact hx.imp_left (hnames x)
  · rintro (h | hx)
    · exact h.mem_step
    · rw [hstep, NameSet.mem_insertAll]
      exact Or.inr hx

/-! ## Whole runs -/

/-- A collector keeps the first token that it could read. -/
theorem accessToken_run (c : Collector) (steps : List (Environment × String)) :
    (c.run steps).accessToken = c.accessToken.or (steps.findSome? firstToken?) := by
  induction steps generalizing c with
  | nil => exact (Option.or_none ..).symm
  | cons s steps ih =>
    have hrun : c.run (s :: steps) = (c.step s).run steps := rfl
    rw [hrun, ih, accessToken_step, Option.or_assoc, List.findSome?_cons]
    cases firstToken? s <;> rfl

/-- The variables of a collector are those that it had and those that the steps contribute. -/
theorem mem_freeVariables_run (c : Collector) (steps : List (Environment × String)) (x : String) :
    x ∈ (c.run steps).freeVariables ↔ x ∈ c.freeVariables ∨
      ∃ before env text after, steps = before ++ (env, text) :: after
        ∧ Contributes (c.run before) env text x := by
  induction steps generalizing c with
  | nil =>
    have hnone : ¬ ∃ before env text after, ([] : List (Environment × String))
        = before ++ (env, text) :: after ∧ Contributes (c.run before) env text x := by
      rintro ⟨before, env, text, after, hsteps, -⟩
      simp at hsteps
    exact (or_iff_left hnone).symm
  | cons s steps ih =>
    obtain ⟨env, text⟩ := s
    have hrun (more : List (Environment × String)) :
        c.run ((env, text) :: more) = (c.step (env, text)).run more := rfl
    rw [hrun, ih, mem_freeVariables_step]
    constructor
    · rintro ((h | hx) | ⟨before, env', text', after, rfl, h⟩)
      · exact Or.inr ⟨[], env, text, steps, rfl, h⟩
      · exact Or.inl hx
      · exact Or.inr ⟨(env, text) :: before, env', text', after, rfl, h⟩
    · rintro (hx | ⟨before, env', text', after, hsteps, h⟩)
      · exact Or.inl (Or.inr hx)
      · cases before with
        | nil =>
          obtain ⟨rfl, rfl⟩ := Prod.mk.inj (List.cons.inj hsteps).1
          exact Or.inl (Or.inl h)
        | cons s before =>
          obtain ⟨rfl, rfl⟩ := List.cons.inj hsteps
          exact Or.inr ⟨before, env', text', after, rfl, h⟩

/-- With a token, a document is transformed if and only if it configures none. -/
theorem transform_of_isSome {env : Environment} {text : String} {document : Document}
    {c : Collector} (hparse : Document.parse text = .ok document)
    (htoken : c.accessToken.isSome = true) :
    ((∃ t c', transform env text c = .ok t c') ↔ document.configurations = []) ∧
      ∀ operation varName cs, document.configurations = (operation, varName) :: cs →
        ∃ c', transform env text c = .error (.duplicateToken operation) c' := by
  have hfailure := @failure?_eq_none_of_isSome env _ document.configurations htoken
  have hrefused (operation varName : String) (cs : List (String × String))
      (hcs : document.configurations = (operation, varName) :: cs) :
      ∃ c', transform env text c = .error (.duplicateToken operation) c' := by
    rw [hcs] at hfailure
    exact transform_eq_of_failure hparse (hcs ▸ hfailure)
  refine ⟨⟨fun ⟨t, c', htransform⟩ => ?_, fun hnone => ?_⟩, hrefused⟩
  · cases hcs : document.configurations with
    | nil => rfl
    | cons configuration cs =>
      obtain ⟨c'', hfails⟩ := hrefused _ _ _ hcs
      cases hfails.symm.trans htransform
  · have hfailure : failure? env c.accessToken document.configurations = none := by
      rw [hnone]
      rfl
    obtain ⟨c', htransform, -⟩ := ends_transform hparse hfailure
    exact ⟨_, c', htransform⟩

/-- What a collector holds after any steps. Its variables are those that the steps contribute; its
token is the first one that a text gives; a token that is there at some time stays; and while there
is one, a document is transformed if and only if it configures none, and is refused under the name
of the first operation that does otherwise. -/
theorem shared_collector (steps : List (Environment × String)) :
    (∀ x, x ∈ (Collector.fresh.run steps).freeVariables ↔
      ∃ before env text after, steps = before ++ (env, text) :: after
        ∧ Contributes (Collector.fresh.run before) env text x) ∧
    (Collector.fresh.run steps).accessToken = steps.findSome? firstToken? ∧
    (∀ more token, (Collector.fresh.run steps).accessToken = some token →
      (Collector.fresh.run (steps ++ more)).accessToken = some token) ∧
    ∀ env text document, Document.parse text = .ok document →
      (Collector.fresh.run steps).accessToken.isSome = true →
      ((∃ t c, transform env text (Collector.fresh.run steps) = .ok t c)
        ↔ document.configurations = []) ∧
      ∀ operation varName cs, document.configurations = (operation, varName) :: cs →
        ∃ c, transform env text (Collector.fresh.run steps)
          = .error (.duplicateToken operation) c := by
  refine ⟨fun x => ?_, accessToken_run .fresh steps, fun more token htoken => ?_,
    fun env text document hparse htoken => transform_of_isSome hparse htoken⟩
  · have hfresh : x ∉ Collector.fresh.freeVariables := List.not_mem_nil
    exact (mem_freeVariables_run .fresh steps x).trans (or_iff_right hfresh)
  · have hrun : Collector.fresh.run (steps ++ more) = (Collector.fresh.run steps).run more :=
      List.foldl_append
    rw [hrun, accessToken_run, htoken]
    rfl

end PersistedDocument
