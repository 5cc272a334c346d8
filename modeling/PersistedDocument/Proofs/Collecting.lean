import Mathlib
import PersistedDocument.Configuration

/-!
# Proofs: collecting

What a visit does to a collector depends on the configurations of the operations alone: the pairs of
an operation and an environment variable in the order in which they are written. The first one that
can fail is the first one of a collector without a token, whose variable may be missing; every other
one fails since there is a token already.
-/

namespace PersistedDocument

open GraphQL

variable {α β : Type}

/-! ## Configurations -/

/-- The environment variable from which a directive of an operation takes the token. -/
def GraphQL.Directive.tokenVariable? (d : Directive) : Option String :=
  if d.isConfiguration then d.environmentVariable? else none

/-- The name of an operation with each environment variable that one of its directives names. -/
def GraphQL.Operation.configurations (o : Operation) : List (String × String) :=
  (o.directives.filterMap Directive.tokenVariable?).map fun v => (o.reportedName, v)

/-- The configurations in a definition: those of an operation. -/
def GraphQL.Definition.configurations : Definition → List (String × String)
  | .operation o => o.configurations
  | _ => []

/-- The configurations in a document, in the order in which they are written. -/
def GraphQL.Document.configurations (document : Document) : List (String × String) :=
  document.operations.flatMap Operation.configurations

theorem configurations_eq_flatMap (document : Document) :
    document.configurations = document.definitions.flatMap Definition.configurations := by
  obtain ⟨definitions⟩ := document
  rw [Document.configurations, Document.operations]
  induction definitions with
  | nil => rfl
  | cons d ds ih =>
    cases d with
    | operation o => exact congrArg (o.configurations ++ ·) ih
    | _ => exact ih

/-- The token in an environment variable, which must not be empty. -/
def Environment.token? (env : Environment) (varName : String) : Option String :=
  (env varName).filter (· ≠ "")

theorem token?_eq_none_iff {env : Environment} {varName : String} :
    env.token? varName = none ↔ env varName = none ∨ env varName = some "" := by
  rw [Environment.token?]
  cases env varName with
  | none => simp
  | some value => simp [Option.filter_some]

theorem token?_eq_some_iff {env : Environment} {varName token : String} :
    env.token? varName = some token ↔ env varName = some token ∧ token ≠ "" := by
  rw [Environment.token?, Option.filter_eq_some_iff, decide_eq_true_eq]

/-- The token of a collector that has met configurations. -/
def tokenAfter (env : Environment) (token : Option String) (cs : List (String × String)) :
    Option String :=
  token.or (cs.head?.bind fun c => env.token? c.2)

@[simp] theorem tokenAfter_nil (env : Environment) (token : Option String) :
    tokenAfter env token [] = token :=
  Option.or_none ..

/-- Why configurations fail for a collector with the given token, if they do. -/
def failure? (env : Environment) (token : Option String) : List (String × String) → Option Failure
  | [] => none
  | (operation, varName) :: cs =>
    if token.isSome then some (.duplicateToken operation)
    else if env.token? varName = none then some (.missingVariable varName)
    else cs.head?.map fun c => .duplicateToken c.1

theorem failure?_eq_none_of_isSome {env : Environment} {token : Option String}
    {cs : List (String × String)} (h : token.isSome = true) :
    failure? env token cs = cs.head?.map fun c => .duplicateToken c.1 := by
  cases cs with
  | nil => rfl
  | cons c cs => exact if_pos h

/-- Configurations do not fail only if there are none, or if there is one which gives the token. -/
theorem failure?_eq_none_iff {env : Environment} {token : Option String}
    {cs : List (String × String)} :
    failure? env token cs = none
      ↔ cs = [] ∨ token = none ∧ ∃ c t, cs = [c] ∧ env.token? c.2 = some t := by
  cases cs with
  | nil => simp [failure?]
  | cons c cs =>
    cases token with
    | some t => simp [failure?]
    | none =>
      cases htoken : env.token? c.2 with
      | none =>
        have hno : ¬ ∃ c' t, c :: cs = [c'] ∧ env.token? c'.2 = some t := by
          rintro ⟨c', t, he, ht⟩
          rw [← (List.cons.inj he).1, htoken] at ht
          cases ht
        simpa [failure?, htoken] using hno
      | some t => cases cs <;> simp [failure?, htoken]

/-- Configurations that do not fail leave the rest to those after them. -/
theorem failure?_append_of_none {env : Environment} {token : Option String}
    {cs cs' : List (String × String)} (h : failure? env token cs = none) :
    failure? env token (cs ++ cs') = failure? env (tokenAfter env token cs) cs'
      ∧ tokenAfter env token (cs ++ cs') = tokenAfter env (tokenAfter env token cs) cs' := by
  rcases failure?_eq_none_iff.1 h with rfl | ⟨rfl, c, t, rfl, ht⟩
  · rw [tokenAfter_nil]
    exact ⟨rfl, rfl⟩
  · have htoken : tokenAfter env none ([c] ++ cs') = some t := by
      simpa [tokenAfter] using ht
    have hafter : tokenAfter env none [c] = some t := by
      simpa [tokenAfter] using ht
    rw [htoken, hafter, @failure?_eq_none_of_isSome env (some t) cs' rfl]
    refine ⟨?_, rfl⟩
    rw [List.singleton_append, failure?, if_neg nofun, ht, if_neg nofun]

/-- Configurations that fail do so whatever comes after them. -/
theorem failure?_append_of_some {env : Environment} {token : Option String}
    {cs cs' : List (String × String)} {e : Failure} (h : failure? env token cs = some e) :
    failure? env token (cs ++ cs') = some e
      ∧ tokenAfter env token (cs ++ cs') = tokenAfter env token cs := by
  cases cs with
  | nil => cases h
  | cons c cs =>
    refine ⟨?_, rfl⟩
    rw [List.cons_append, failure?]
    rw [failure?] at h
    split at h
    · next htoken => rwa [if_pos htoken]
    · next htoken =>
      rw [if_neg htoken]
      split at h
      · next hmissing => rwa [if_pos hmissing]
      · next hmissing =>
        rw [if_neg hmissing]
        cases cs with
        | nil => cases h
        | cons c' cs => exact h

/-! ## Visiting -/

/-- A step of collecting ends with a result or a failure, and leaves behind the given variables and
the given token. -/
def Ends (r : EStateM.Result Failure Collector α) (result : Except Failure α)
    (free : NameSet) (token : Option String) : Prop :=
  ∃ c : Collector, (match result with | .ok a => r = .ok a c | .error e => r = .error e c)
    ∧ c.freeVariables = free ∧ c.accessToken = token

/-- A result, unless there is a failure. -/
def resultUnless (failure : Option Failure) (a : α) : Except Failure α :=
  failure.elim (.ok a) .error

theorem Ends.bind {x : Collecting α} {f : α → Collecting β} {c : Collector} {a : α}
    {result : Except Failure β} {free free' : NameSet} {token token' : Option String}
    (hx : Ends (x c) (.ok a) free token)
    (hf : ∀ c', c'.freeVariables = free → c'.accessToken = token →
      Ends (f a c') result free' token') :
    Ends ((x >>= f) c) result free' token' := by
  obtain ⟨c', hc', hvariables, htoken⟩ := hx
  have hbind : (x >>= f) c = f a c' := by
    simp only [Bind.bind, EStateM.bind, hc']
  rw [hbind]
  exact hf c' hvariables htoken

theorem Ends.bind_of_error {x : Collecting α} {f : α → Collecting β} {c : Collector} {e : Failure}
    {free : NameSet} {token : Option String} (hx : Ends (x c) (.error e) free token) :
    Ends ((x >>= f) c) (.error e) free token := by
  obtain ⟨c', hc', hvariables, htoken⟩ := hx
  refine ⟨c', ?_, hvariables, htoken⟩
  simp only [Bind.bind, EStateM.bind, hc']

theorem Ends.of_ok {r : EStateM.Result Failure Collector α} {result : Except Failure α} {a : α}
    {c : Collector} {free : NameSet} {token : Option String}
    (h : Ends r result free token) (hr : r = .ok a c) :
    result = .ok a ∧ c.freeVariables = free ∧ c.accessToken = token := by
  obtain ⟨c', hc', hvariables, htoken⟩ := h
  cases result with
  | ok a' =>
    cases hc'.symm.trans hr
    exact ⟨rfl, hvariables, htoken⟩
  | error e => cases hc'.symm.trans hr

theorem Ends.of_error {r : EStateM.Result Failure Collector α} {result : Except Failure α}
    {e : Failure} {c : Collector} {free : NameSet} {token : Option String}
    (h : Ends r result free token) (hr : r = .error e c) :
    result = .error e ∧ c.freeVariables = free ∧ c.accessToken = token := by
  obtain ⟨c', hc', hvariables, htoken⟩ := h
  cases result with
  | ok a => cases hc'.symm.trans hr
  | error e' =>
    cases hc'.symm.trans hr
    exact ⟨rfl, hvariables, htoken⟩

/-- A second token is refused before the environment is looked at. -/
theorem readToken_of_isSome {c : Collector} (h : c.accessToken.isSome = true) (env : Environment)
    (operation varName : String) :
    readToken env operation varName c = .error (.duplicateToken operation) c := by
  obtain ⟨free, token, events⟩ := c
  cases token with
  | none => cases h
  | some t => rfl

theorem readToken_of_missing {env : Environment} {varName : String} {c : Collector}
    (h : c.accessToken = none) (hmissing : env.token? varName = none) (operation : String) :
    readToken env operation varName c = .error (.missingVariable varName) c := by
  obtain ⟨free, token, events⟩ := c
  obtain rfl : token = none := h
  rcases token?_eq_none_iff.1 hmissing with hvalue | hvalue
  all_goals
    simp only [readToken, hvalue]
    rfl

theorem readToken_of_token {env : Environment} {varName token : String} {c : Collector}
    (h : c.accessToken = none) (htoken : env.token? varName = some token) (operation : String) :
    readToken env operation varName c = .ok ()
      ⟨c.freeVariables, some token, c.events ++ [.tokenRead operation varName]⟩ := by
  obtain ⟨free, token, events⟩ := c
  obtain rfl : token = none := h
  obtain ⟨hvalue, hne⟩ := token?_eq_some_iff.1 htoken
  simp only [readToken, hvalue, if_neg hne]
  rfl

/-- Reading a token is meeting one configuration. -/
theorem ends_readToken (env : Environment) (operation varName : String) (c : Collector) :
    Ends (readToken env operation varName c)
      (resultUnless (failure? env c.accessToken [(operation, varName)]) ()) c.freeVariables
      (tokenAfter env c.accessToken [(operation, varName)]) := by
  rw [failure?]
  cases htoken : c.accessToken with
  | some t =>
    rw [readToken_of_isSome (by rw [htoken]; rfl)]
    exact ⟨c, rfl, rfl, htoken⟩
  | none =>
    cases hvalue : env.token? varName with
    | none =>
      rw [readToken_of_missing htoken hvalue, if_neg nofun, if_pos rfl]
      exact ⟨c, rfl, rfl, htoken.trans hvalue.symm⟩
    | some t =>
      rw [readToken_of_token htoken hvalue, if_neg nofun, if_neg nofun]
      exact ⟨_, rfl, rfl, hvalue.symm⟩

/-- The configuration in a directive of an operation, if it is one. -/
theorem ends_visitDirective (env : Environment) (operation : String) (d : Directive)
    (c : Collector) :
    Ends (visitDirective env operation d c)
      (resultUnless (failure? env c.accessToken
        (d.tokenVariable?.toList.map fun v => (operation, v))) ())
      c.freeVariables
      (tokenAfter env c.accessToken (d.tokenVariable?.toList.map fun v => (operation, v))) := by
  rw [visitDirective, ← Directive.tokenVariable?]
  cases d.tokenVariable? with
  | none => exact ⟨c, rfl, rfl, (tokenAfter_nil ..).symm⟩
  | some varName => exact ends_readToken env operation varName c

/-- Visiting the directives of an operation is meeting their configurations. -/
theorem ends_directives (env : Environment) (operation : String) (ds : List Directive)
    (c : Collector) :
    Ends (ds.forM (visitDirective env operation) c)
      (resultUnless (failure? env c.accessToken
        ((ds.filterMap Directive.tokenVariable?).map fun v => (operation, v))) ())
      c.freeVariables
      (tokenAfter env c.accessToken
        ((ds.filterMap Directive.tokenVariable?).map fun v => (operation, v))) := by
  induction ds generalizing c with
  | nil => exact ⟨c, rfl, rfl, (tokenAfter_nil ..).symm⟩
  | cons d ds ih =>
    have hcons : ((d :: ds).filterMap Directive.tokenVariable?).map (fun v => (operation, v))
        = d.tokenVariable?.toList.map (fun v => (operation, v))
          ++ (ds.filterMap Directive.tokenVariable?).map fun v => (operation, v) := by
      cases hd : d.tokenVariable? with
      | none => rw [List.filterMap_cons_none hd]; rfl
      | some v => rw [List.filterMap_cons_some hd]; rfl
    have hfirst := ends_visitDirective env operation d c
    have hforM : (d :: ds).forM (visitDirective env operation)
        = visitDirective env operation d >>= fun _ => ds.forM (visitDirective env operation) := rfl
    rw [hcons, hforM]
    cases hfailure : failure? env c.accessToken
        (d.tokenVariable?.toList.map fun v => (operation, v)) with
    | some e =>
      obtain ⟨hfails, htoken⟩ := @failure?_append_of_some _ _ _ _ _ hfailure
      rw [hfailure] at hfirst
      rw [hfails, htoken]
      exact hfirst.bind_of_error
    | none =>
      obtain ⟨hrest, htoken⟩ := @failure?_append_of_none _ _ _ _ hfailure
      rw [hfailure] at hfirst
      rw [hrest, htoken]
      refine hfirst.bind fun c' hvariables htoken' => ?_
      rw [← hvariables, ← htoken']
      exact ih c'

/-- An operation that fails adds no variables; one that does not adds those of what remains of
it. -/
theorem ends_visitOperation (env : Environment) (o : Operation) (c : Collector) :
    Ends (visitOperation env o c)
      (resultUnless (failure? env c.accessToken o.configurations) o.withoutConfiguration)
      (if failure? env c.accessToken o.configurations = none
        then c.freeVariables.insertAll o.withoutConfiguration.variableNames else c.freeVariables)
      (tokenAfter env c.accessToken o.configurations) := by
  have hdirectives := ends_directives env o.reportedName o.directives c
  rw [← Operation.configurations] at hdirectives
  cases hfailure : failure? env c.accessToken o.configurations with
  | some e =>
    rw [hfailure] at hdirectives
    exact hdirectives.bind_of_error
  | none =>
    rw [hfailure] at hdirectives
    refine hdirectives.bind fun c' hvariables htoken => ?_
    rw [← hvariables, ← htoken]
    exact ⟨_, rfl, rfl, rfl⟩

/-- Only an operation can fail; the other definitions just add their variables. -/
theorem ends_visitDefinition (env : Environment) (d : Definition) (c : Collector) :
    Ends (visitDefinition env d c)
      (resultUnless (failure? env c.accessToken d.configurations) d.withoutConfiguration)
      (if failure? env c.accessToken d.configurations = none
        then c.freeVariables.insertAll d.withoutConfiguration.variableNames else c.freeVariables)
      (tokenAfter env c.accessToken d.configurations) := by
  cases d with
  | operation o =>
    have hoperation := ends_visitOperation env o c
    rw [Definition.configurations]
    cases hfailure : failure? env c.accessToken o.configurations with
    | some e =>
      rw [hfailure] at hoperation
      exact hoperation.bind_of_error
    | none =>
      rw [hfailure] at hoperation
      exact hoperation.bind fun c' hvariables htoken => ⟨c', rfl, hvariables, htoken⟩
  | _ => exact ⟨_, rfl, rfl, (tokenAfter_nil ..).symm⟩

theorem insertAll_append (names names' : List String) (s : NameSet) :
    s.insertAll (names ++ names') = (s.insertAll names).insertAll names' :=
  List.foldl_append

/-- Where configurations fail there is a first operation at which they do. -/
theorem exists_failing_operation {env : Environment} {token : Option String} {e : Failure}
    {ds : List Definition}
    (h : failure? env token (ds.flatMap Definition.configurations) = some e) :
    ∃ before o after, ds = before ++ .operation o :: after
      ∧ failure? env token (before.flatMap Definition.configurations) = none
      ∧ failure? env (tokenAfter env token (before.flatMap Definition.configurations))
          o.configurations = some e := by
  induction ds generalizing token with
  | nil => cases h
  | cons d ds ih =>
    rw [List.flatMap_cons] at h
    cases hd : failure? env token d.configurations with
    | some e' =>
      obtain rfl := Option.some.inj ((failure?_append_of_some hd).1.symm.trans h)
      cases d with
      | operation o =>
        refine ⟨[], o, ds, rfl, rfl, ?_⟩
        rw [List.flatMap_nil, tokenAfter_nil]
        exact hd
      | _ => cases hd
    | none =>
      obtain ⟨hrest, -⟩ := @failure?_append_of_none env _ _
        (ds.flatMap Definition.configurations) hd
      obtain ⟨before, o, after, hds, hbefore, ho⟩ := ih (hrest ▸ h)
      obtain ⟨hfailure, htoken⟩ := @failure?_append_of_none env _ _
        (before.flatMap Definition.configurations) hd
      refine ⟨d :: before, o, after, by rw [hds]; rfl, ?_, ?_⟩
      · rw [List.flatMap_cons, hfailure]
        exact hbefore
      · rw [List.flatMap_cons, htoken]
        exact ho

/-- Definitions are visited to their end if their configurations do not fail. -/
theorem ends_definitions {env : Environment} {ds : List Definition} {c : Collector}
    (h : failure? env c.accessToken (ds.flatMap Definition.configurations) = none) :
    Ends (ds.mapM (visitDefinition env) c) (.ok (ds.map Definition.withoutConfiguration))
      (c.freeVariables.insertAll (ds.flatMap fun d => d.withoutConfiguration.variableNames))
      (tokenAfter env c.accessToken (ds.flatMap Definition.configurations)) := by
  induction ds generalizing c with
  | nil => exact ⟨c, rfl, rfl, (tokenAfter_nil ..).symm⟩
  | cons d ds ih =>
    have hfirst := ends_visitDefinition env d c
    rw [List.flatMap_cons] at h ⊢
    rw [List.flatMap_cons, List.mapM_cons, insertAll_append]
    cases hd : failure? env c.accessToken d.configurations with
    | some e => cases h.symm.trans (failure?_append_of_some hd).1
    | none =>
      obtain ⟨hrest, htoken⟩ := @failure?_append_of_none env _ _
        (ds.flatMap Definition.configurations) hd
      rw [hrest] at h
      rw [hd, if_pos rfl] at hfirst
      rw [htoken]
      refine hfirst.bind fun c' hvariables htoken' => ?_
      rw [← htoken'] at h ⊢
      rw [← hvariables]
      exact (ih h).bind fun c'' hvariables' htoken'' => ⟨c'', rfl, hvariables', htoken''⟩

theorem ends_visitDocument {env : Environment} {ds : List Definition} {c : Collector}
    (h : failure? env c.accessToken (ds.flatMap Definition.configurations) = none) :
    Ends (visitDocument env ⟨ds⟩ c) (.ok ⟨ds.map Definition.withoutConfiguration⟩)
      (c.freeVariables.insertAll (ds.flatMap fun d => d.withoutConfiguration.variableNames))
      (tokenAfter env c.accessToken (ds.flatMap Definition.configurations)) :=
  (ends_definitions h).bind fun c' hvariables htoken => ⟨c', rfl, hvariables, htoken⟩

/-- A document of which an operation fails is visited up to that operation. -/
theorem ends_visitDocument_of_failure {env : Environment} {before after : List Definition}
    {o : Operation} {c : Collector} {e : Failure}
    (hbefore : failure? env c.accessToken (before.flatMap Definition.configurations) = none)
    (ho : failure? env (tokenAfter env c.accessToken (before.flatMap Definition.configurations))
      o.configurations = some e) :
    Ends (visitDocument env ⟨before ++ .operation o :: after⟩ c) (.error e)
      (c.freeVariables.insertAll (before.flatMap fun d => d.withoutConfiguration.variableNames))
      (tokenAfter env c.accessToken
        ((before ++ .operation o :: after).flatMap Definition.configurations)) := by
  obtain ⟨hfailure, htoken⟩ := @failure?_append_of_none env _ _
    ((Definition.operation o :: after).flatMap Definition.configurations) hbefore
  rw [visitDocument, List.mapM_append, List.flatMap_append, htoken, List.flatMap_cons]
  refine Ends.bind_of_error ((ends_definitions hbefore).bind fun c' hvariables htoken' => ?_)
  rw [← htoken'] at ho ⊢
  rw [← hvariables]
  have hfails := ends_visitDefinition env (.operation o) c'
  rw [Definition.configurations, ho, if_neg nofun] at hfails
  rw [Definition.configurations, (failure?_append_of_some ho).2, List.mapM_cons]
  exact Ends.bind_of_error hfails.bind_of_error

/-! ## Transforming -/

/-- A text that is no document leaves a collector as it was. -/
theorem transform_of_parse_error {env : Environment} {text : String} {e : SyntaxError}
    (hparse : Document.parse text = .error e) (c : Collector) :
    transform env text c = .error (.parse e.message) c := by
  rw [transform, hparse]
  rfl

theorem variableNames_withoutConfiguration (document : Document) :
    document.withoutConfiguration.variableNames
      = document.definitions.flatMap fun d => d.withoutConfiguration.variableNames := by
  rw [Document.variableNames, Document.withoutConfiguration, List.flatMap_map]

section

variable {env : Environment} {text : String} {document : Document} {c : Collector}
  (hparse : Document.parse text = .ok document)

include hparse

/-- A document whose configurations do not fail is transformed. -/
theorem ends_transform (h : failure? env c.accessToken document.configurations = none) :
    Ends (transform env text c)
      (.ok ⟨document.withoutConfiguration.print,
        c.freeVariables.insertAll document.withoutConfiguration.variableNames,
        tokenAfter env c.accessToken document.configurations⟩)
      (c.freeVariables.insertAll document.withoutConfiguration.variableNames)
      (tokenAfter env c.accessToken document.configurations) := by
  rw [configurations_eq_flatMap] at h
  rw [variableNames_withoutConfiguration, configurations_eq_flatMap, transform, hparse]
  refine (ends_visitDocument h).bind fun c' hvariables htoken => ?_
  rw [← hvariables, ← htoken]
  exact ⟨_, rfl, rfl, rfl⟩

/-- A document whose configurations fail is not transformed. What is gathered are the variables
before the operation that fails. -/
theorem ends_transform_of_failure {before after : List Definition} {o : Operation} {e : Failure}
    (hdefinitions : document.definitions = before ++ .operation o :: after)
    (hbefore : failure? env c.accessToken (before.flatMap Definition.configurations) = none)
    (ho : failure? env (tokenAfter env c.accessToken (before.flatMap Definition.configurations))
      o.configurations = some e) :
    Ends (transform env text c) (.error e)
      (c.freeVariables.insertAll (before.flatMap fun d => d.withoutConfiguration.variableNames))
      (tokenAfter env c.accessToken document.configurations) := by
  have hfails := @ends_visitDocument_of_failure env before after o c e hbefore ho
  rw [← hdefinitions] at hfails
  rw [configurations_eq_flatMap, transform, hparse]
  exact hfails.bind_of_error

/-- A text that is a document is transformed exactly as its configurations say. -/
theorem transform_eq_of_failure {e : Failure}
    (h : failure? env c.accessToken document.configurations = some e) :
    ∃ c', transform env text c = .error e c' := by
  rw [configurations_eq_flatMap] at h
  obtain ⟨before, o, after, hdefinitions, hbefore, ho⟩ := exists_failing_operation h
  obtain ⟨c', hc', -⟩ := ends_transform_of_failure hparse hdefinitions hbefore ho
  exact ⟨c', hc'⟩

end

/-! ## The token of a document -/

/-- The token of a document is settled by its configurations, in the order in which they are
written. Without any there is no token. The first one must name a variable that is set and not
empty, however many there are. If it is the only one its variable holds the token, and otherwise
the second one is refused under the name of its operation, be its variable set or not. -/
theorem token_of_configurations {env : Environment} {text : String} {document : Document}
    (hparse : Document.parse text = .ok document) :
    (document.configurations = [] →
      ∃ t c, transform env text .fresh = .ok t c ∧ t.accessToken = none) ∧
    (∀ operation varName cs, document.configurations = (operation, varName) :: cs →
      (env varName = none ∨ env varName = some "" →
        ∃ c, transform env text .fresh = .error (.missingVariable varName) c) ∧
      ∀ token, env varName = some token → token ≠ "" →
        (cs = [] → ∃ t c, transform env text .fresh = .ok t c ∧ t.accessToken = some token) ∧
        ∀ operation' varName' cs', cs = (operation', varName') :: cs' →
          ∃ c, transform env text .fresh = .error (.duplicateToken operation') c) := by
  refine ⟨fun hnone => ?_, fun operation varName cs hcs => ⟨fun hmissing => ?_,
    fun token hvalue hne => ⟨fun hlast => ?_, fun operation' varName' cs' hsecond => ?_⟩⟩⟩
  · have hfailure : failure? env Collector.fresh.accessToken document.configurations = none := by
      rw [hnone]
      rfl
    obtain ⟨c, hc, -⟩ := ends_transform hparse hfailure
    refine ⟨_, c, hc, ?_⟩
    rw [hnone]
    rfl
  · apply transform_eq_of_failure hparse
    rw [hcs, failure?, if_neg nofun, if_pos (token?_eq_none_iff.2 hmissing)]
  · have htoken := token?_eq_some_iff.2 ⟨hvalue, hne⟩
    have hfailure : failure? env Collector.fresh.accessToken document.configurations = none := by
      rw [hcs, hlast]
      exact failure?_eq_none_iff.2 (Or.inr ⟨rfl, _, token, rfl, htoken⟩)
    obtain ⟨c, hc, -⟩ := ends_transform hparse hfailure
    refine ⟨_, c, hc, ?_⟩
    rw [hcs]
    exact htoken
  · have htoken := token?_eq_some_iff.2 ⟨hvalue, hne⟩
    apply transform_eq_of_failure hparse
    rw [hcs, hsecond, failure?, if_neg nofun, if_neg (by simp [htoken])]
    rfl

/-- An operation that takes the token from an environment variable. -/
def tokenOperation (name varName : String) : Operation where
  description := none
  kind := .query
  name := some name
  declared := []
  directives := [⟨configurationDirective,
    [⟨accessTokenArgument, .object [(environmentVariableField, .enum varName)]⟩]⟩]
  selections := [.field none "a" [] [] []]

section

set_option maxRecDepth 2048

/-- Of two operations that configure a token the second is refused, though its variable is not
set. -/
theorem token_of_configurations_two :
    ∃ c, transform (fun v => if v = "T" then some "secret" else none)
      "query A @persistedQueryConfiguration(accessToken: \x7benvironmentVariable: T\x7d) \x7ba\x7d
      query B @persistedQueryConfiguration(accessToken: \x7benvironmentVariable: U\x7d) \x7ba\x7d"
      .fresh = .error (.duplicateToken "B") c := by
  have hparse : Document.parse
      "query A @persistedQueryConfiguration(accessToken: \x7benvironmentVariable: T\x7d) \x7ba\x7d
      query B @persistedQueryConfiguration(accessToken: \x7benvironmentVariable: U\x7d) \x7ba\x7d"
      = .ok ⟨[.operation (tokenOperation "A" "T"), .operation (tokenOperation "B" "U")]⟩ := by
    cbv
  obtain ⟨-, hfirst⟩ := token_of_configurations hparse
  obtain ⟨-, hsecond⟩ := hfirst "A" "T" [("B", "U")] rfl
  exact (hsecond "secret" rfl (by decide)).2 "B" "U" [] rfl

end

end PersistedDocument
