import PersistedDocument.Proofs.Collecting
import PersistedDocument.Proofs.Submission

/-!
# Proofs: what a run reports

A run reports no errors, however it ends: an error is only reported by the program around it, and
once. While a document is made ready this holds of every step, so a report is quiet if the reports
before it were.
-/

namespace PersistedDocument

open GraphQL

variable {α β : Type}

/-- Events among which there is no error. -/
def IsQuiet (events : List Event) : Prop := ∀ e ∈ events, e.severity ≠ .error

theorem isQuiet_nil : IsQuiet [] := fun _ he => absurd he List.not_mem_nil

theorem isQuiet_cons {e : Event} {events : List Event} (he : e.severity ≠ .error)
    (h : IsQuiet events) : IsQuiet (e :: events) :=
  List.forall_mem_cons.2 ⟨he, h⟩

theorem IsQuiet.append {before after : List Event} (h : IsQuiet before) (h' : IsQuiet after) :
    IsQuiet (before ++ after) :=
  List.forall_mem_append.2 ⟨h, h'⟩

/-! ## Making a document ready -/

/-- The collector that a step leaves behind. -/
def leftBehind : EStateM.Result Failure Collector α → Collector
  | .ok _ c => c
  | .error _ c => c

/-- Steps that add no errors to what was reported. -/
def KeepsQuiet (x : Collecting α) : Prop :=
  ∀ c : Collector, IsQuiet c.events → IsQuiet (leftBehind (x c)).events

theorem KeepsQuiet.pure (a : α) : KeepsQuiet (Pure.pure a : Collecting α) := fun _ hc => hc

theorem KeepsQuiet.bind {x : Collecting α} {f : α → Collecting β} (hx : KeepsQuiet x)
    (hf : ∀ a, KeepsQuiet (f a)) : KeepsQuiet (x >>= f) := by
  intro c hc
  have hfirst := hx c hc
  simp only [Bind.bind, EStateM.bind]
  cases hr : x c with
  | ok a c' =>
    rw [hr] at hfirst
    exact hf a c' hfirst
  | error e c' =>
    rw [hr] at hfirst
    exact hfirst

theorem keepsQuiet_report {e : Event} (he : e.severity ≠ .error) : KeepsQuiet (report e) :=
  fun _ hc => hc.append (isQuiet_cons he isQuiet_nil)

theorem keepsQuiet_gather (names : List String) : KeepsQuiet (gather names) := fun _ hc => hc

theorem keepsQuiet_readToken (env : Environment) (operation varName : String) :
    KeepsQuiet (readToken env operation varName) := by
  intro c hc
  cases htoken : c.accessToken with
  | some t =>
    rw [readToken_of_isSome (by rw [htoken]; rfl)]
    exact hc
  | none =>
    cases hvalue : env.token? varName with
    | none =>
      rw [readToken_of_missing htoken hvalue]
      exact hc
    | some t =>
      rw [readToken_of_token htoken hvalue]
      exact hc.append (isQuiet_cons nofun isQuiet_nil)

theorem keepsQuiet_visitDirective (env : Environment) (operation : String) (d : Directive) :
    KeepsQuiet (visitDirective env operation d) := by
  rw [visitDirective]
  split
  · exact keepsQuiet_readToken env operation _
  · exact KeepsQuiet.pure ()

theorem keepsQuiet_directives (env : Environment) (operation : String) (ds : List Directive) :
    KeepsQuiet (ds.forM (visitDirective env operation)) := by
  induction ds with
  | nil => exact KeepsQuiet.pure ()
  | cons d ds ih => exact (keepsQuiet_visitDirective env operation d).bind fun _ => ih

theorem keepsQuiet_visitOperation (env : Environment) (o : Operation) :
    KeepsQuiet (visitOperation env o) :=
  (keepsQuiet_directives env o.reportedName o.directives).bind fun _ =>
    (keepsQuiet_gather _).bind fun _ => KeepsQuiet.pure _

theorem keepsQuiet_visitDefinition (env : Environment) (d : Definition) :
    KeepsQuiet (visitDefinition env d) := by
  cases d with
  | operation o => exact (keepsQuiet_visitOperation env o).bind fun _ => KeepsQuiet.pure _
  | _ => exact (keepsQuiet_gather _).bind fun _ => KeepsQuiet.pure _

theorem keepsQuiet_definitions (env : Environment) (ds : List Definition) :
    KeepsQuiet (ds.mapM (visitDefinition env)) := by
  induction ds with
  | nil => exact KeepsQuiet.pure []
  | cons d ds ih =>
    rw [List.mapM_cons]
    exact (keepsQuiet_visitDefinition env d).bind fun _ => ih.bind fun _ => KeepsQuiet.pure _

theorem keepsQuiet_visitDocument (env : Environment) (document : Document) :
    KeepsQuiet (visitDocument env document) :=
  (keepsQuiet_definitions env document.definitions).bind fun _ => KeepsQuiet.pure _

theorem keepsQuiet_transform (env : Environment) (text : String) :
    KeepsQuiet (transform env text) := by
  cases hparse : Document.parse text with
  | error e =>
    intro c hc
    rw [transform_of_parse_error hparse]
    exact hc
  | ok document =>
    rw [transform, hparse]
    have hget : KeepsQuiet (get : Collecting Collector) := fun _ hc => hc
    refine (keepsQuiet_visitDocument env document).bind fun _ => hget.bind fun _ =>
      (keepsQuiet_report ?_).bind fun _ => KeepsQuiet.pure _
    intro hsevere
    cases hsevere

section

variable {env : Environment} {text : String} {c : Collector}

theorem isQuiet_of_transform {t : Transformed} (h : transform env text .fresh = .ok t c) :
    IsQuiet c.events := by
  have hquiet := keepsQuiet_transform env text .fresh isQuiet_nil
  rwa [h] at hquiet

theorem isQuiet_of_transform_error {f : Failure} (h : transform env text .fresh = .error f c) :
    IsQuiet c.events := by
  have hquiet := keepsQuiet_transform env text .fresh isQuiet_nil
  rwa [h] at hquiet

/-! ## Submitting -/

theorem isQuiet_judgementEvents (outcome : Except RunError LooseText) :
    IsQuiet (judgementEvents outcome) := by
  cases outcome with
  | ok id => exact isQuiet_cons nofun isQuiet_nil
  | error e => exact isQuiet_nil

/-- No run reports an error. -/
theorem Course.isQuiet {w : World} {settings : Except RunError ServiceSettings} {run : Run}
    (h : Course w env settings text run) : IsQuiet run.events := by
  cases h with
  | untransformed ht => exact isQuiet_of_transform_error ht
  | unsettled ht | refused ht => exact isQuiet_of_transform ht
  | faulted ht | unattributable ht =>
    exact (isQuiet_of_transform ht).append (isQuiet_cons nofun isQuiet_nil)
  | judged ht =>
    exact (isQuiet_of_transform ht).append
      (isQuiet_cons nofun (isQuiet_cons nofun (isQuiet_judgementEvents _)))

end

end PersistedDocument
