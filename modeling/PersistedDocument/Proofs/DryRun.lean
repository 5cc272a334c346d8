import PersistedDocument.Proofs.Composition
import PersistedDocument.Proofs.Output

/-!
# Proofs: showing and submitting

A document is shown as it would be submitted. Both make the document ready in the same way, so if a
request is sent the document is shown with the same content, and if it cannot be shown it is not
submitted either. Nothing that is shown depends on the settings of the service, and of the
environment it only depends on the variables that the document names.
-/

namespace PersistedDocument

/-! ## The environment of a document -/

/-- Environments agree on the variables that a document takes tokens from. -/
def AgreeOn (document : GraphQL.Document) (env env' : Environment) : Prop :=
  ∀ c ∈ document.configurations, env c.2 = env' c.2

section

variable {env env' : Environment} {cs : List (String × String)}
  (h : ∀ c ∈ cs, env c.2 = env' c.2)

include h

theorem tokenAfter_congr (token : Option String) :
    tokenAfter env token cs = tokenAfter env' token cs := by
  cases cs with
  | nil => rfl
  | cons c cs =>
    rw [tokenAfter, tokenAfter, List.head?_cons, Option.bind_some, Option.bind_some,
      Environment.token?, Environment.token?, h c List.mem_cons_self]

theorem failure?_congr (token : Option String) :
    failure? env token cs = failure? env' token cs := by
  cases cs with
  | nil => rfl
  | cons c cs =>
    rw [failure?, failure?, Environment.token?, Environment.token?, h c List.mem_cons_self]

end

/-- What a text is transformed into depends on the variables that it names alone. -/
theorem transformed?_congr {env env' : Environment} {text : String}
    (h : ∀ document, GraphQL.Document.parse text = .ok document → AgreeOn document env env') :
    transformed? env text = transformed? env' text := by
  cases hparse : GraphQL.Document.parse text with
  | error e =>
    rw [transformed?, transformed?, transform_of_parse_error hparse,
      transform_of_parse_error hparse]
  | ok document =>
    have hagree : ∀ c ∈ configurationsOf text, env c.2 = env' c.2 := by
      rw [configurationsOf, definitionsOf_of_parse hparse, ← configurations_eq_flatMap]
      exact h document hparse
    rw [transformed?_eq hparse, transformed?_eq hparse, failure?_congr hagree, transformedOf,
      tokenAfter_congr hagree]
    rfl

namespace CommandLine

/-! ## Asking for a document to be shown -/

/-- What is understood if the document is to be shown besides. -/
def Understood.showing (u : Understood) : Understood := { u with dryRun := true }

theorem isPlaceTaken_showing (u : Understood) : u.showing.isPlaceTaken = u.isPlaceTaken := rfl

theorem showing_ite (b : Bool) (u v : Understood) :
    (if b then u else v).showing = if b then u.showing else v.showing := by
  cases b <;> rfl

theorem understand_showing {u : Understood} {kinds : List Argument} {file : Option String}
    {dryRun : Bool} (h : understand u kinds = .ok (.task ⟨file, dryRun⟩)) :
    understand u.showing kinds = .ok (.task ⟨file, true⟩) := by
  -- Whether the document is to be shown matters at the end alone; on the way only the place of the
  -- operand is asked for.
  fun_induction understand u kinds with
  | case1 u =>
    rw [Understood.conclude] at h
    rw [understand, Understood.conclude]
    split at h
    · next hempty =>
      cases h
      exact if_pos hempty
    · cases h
  | case2 | case3 | case4 | case6 | case7 => cases h
  | case5 _ _ ih | case8 _ _ _ ih =>
    rw [understand]
    exact ih h
  | case9 _ _ _ hplace ih =>
    rw [understand, isPlaceTaken_showing, if_pos hplace]
    exact ih h
  | case10 _ _ _ hplace ih =>
    rw [understand, isPlaceTaken_showing, if_neg hplace]
    exact ih h
  | case11 _ _ hnext ih | case13 _ _ _ hnext ih =>
    rw [showing_ite] at ih
    rw [understand]
    · exact ih h
    · exact hnext
  | case12 _ _ _ ih =>
    rw [showing_ite] at ih
    rw [understand]
    exact ih h

/-- Arguments that ask for work on a document ask with one switch more to show it. -/
theorem readArguments_showing {arguments : List String} {file : Option String} {dryRun : Bool}
    (h : readArguments arguments = .ok (.task ⟨file, dryRun⟩)) :
    readArguments ("--dry-run" :: arguments) = .ok (.task ⟨file, true⟩) := by
  have hswitch : classify "--dry-run" = .ok (.switch .dryRun none) := by rfl
  rw [readArguments, bind_eq_ok] at h ⊢
  obtain ⟨kinds, hkinds, hunderstand⟩ := h
  refine ⟨.switch .dryRun none :: kinds, ?_, ?_⟩
  · rw [classifyAll, if_neg (by decide), bind_eq_of_ok hswitch, bind_eq_of_ok hkinds]
    rfl
  · rw [understand]
    exact understand_showing hunderstand

section

variable {s : Surroundings} {file : Option String}

/-! ## Showing -/

theorem holds_of_readDocument {text : String} (h : readDocument s file = .ok text) :
    s.Holds file text := by
  rcases readDocument_cases s file with
    ⟨text', hholds⟩ | ⟨octets, hprovides, hdecode⟩ | ⟨name, rfl, hname⟩ | ⟨reason, hreason⟩
  · rw [readDocument_of_holds hholds] at h
    rwa [← Except.ok.inj h]
  · rw [readDocument_of_provides hprovides, documentText_of_undecodable hdecode] at h
    cases h
  · rw [readDocument_of_null hname] at h
    cases h
  · cases hreason.symm.trans h

/-- What is shown of a text is what it is transformed into. -/
def shownAs : Option Transformed → LooseText × Ending
  | some t => (.ofString (previewText t ++ "\n"), .status succeeded)
  | none => ([], .status failed)

theorem shownAs_transformed? (s : Surroundings) (text : String) :
    ((preview s text).output, (preview s text).ending)
      = shownAs (transformed? s.environment text) := by
  rw [transformed?]
  cases ht : transform s.environment text .fresh with
  | ok t c => rw [preview_of_transform ht, shownAs]
  | error f c =>
    rw [preview, ht]
    rfl

theorem requests_preview (s : Surroundings) (text : String) : (preview s text).requests = [] := by
  cases ht : transform s.environment text .fresh with
  | ok t c => rw [preview_of_transform ht]
  | error f c =>
    rw [preview, ht]
    rfl

theorem requests_of_showing : (Task.work s ⟨file, true⟩).requests = [] := by
  rw [Task.work]
  split
  · rfl
  · rfl
  · split
    · rfl
    · exact requests_preview s _

/-- Of the environment, what is shown depends on the variables that the document names alone. -/
theorem work_showing_congr {environment : Environment}
    (h : ∀ text document, s.Reads file text → GraphQL.Document.parse text = .ok document →
      AgreeOn document s.environment environment) :
    (Task.work { s with environment } ⟨file, true⟩).ending = (Task.work s ⟨file, true⟩).ending
      ∧ (Task.work { s with environment } ⟨file, true⟩).output
        = (Task.work s ⟨file, true⟩).output := by
  have hsame : readDocument { s with environment } file = readDocument s file := by
    cases file <;> rfl
  rw [Task.work, Task.work, hsame]
  cases hread : readDocument s file with
  | error u => cases u <;> exact ⟨rfl, rfl⟩
  | ok text =>
    dsimp only
    cases hexhausts : s.exhausts text with
    | true => exact ⟨rfl, rfl⟩
    | false =>
      have htransformed : transformed? s.environment text = transformed? environment text :=
        transformed?_congr fun document hparse =>
          h text document ⟨holds_of_readDocument hread, hexhausts⟩ hparse
      have hshown : ((preview { s with environment } text).output,
          (preview { s with environment } text).ending)
          = ((preview s text).output, (preview s text).ending) := by
        rw [shownAs_transformed?, shownAs_transformed?, htransformed]
      obtain ⟨houtput, hending⟩ := Prod.mk.inj hshown
      exact ⟨hending, houtput⟩

/-! ## Showing and submitting -/

theorem requests_ofError (requests : List Request) (before : List Event) (e : RunError) :
    (Work.ofError requests before e).requests = requests := by
  cases e <;> rfl

/-- A document for which a request is sent is ready, and the request is made for it. -/
theorem exists_transform_of_request {r : Request}
    (hr : r ∈ (Task.work s ⟨file, false⟩).requests) :
    ∃ text t c appId, s.Reads file text ∧ transform s.environment text .fresh = .ok t c
      ∧ r.body = requestBody appId t := by
  have hproceeds := proceeds_work s ⟨file, false⟩
  generalize Task.work s ⟨file, false⟩ = work at hproceeds hr
  cases hproceeds with
  | unreadable | unnameable | undecodable | exhausting => exact absurd hr List.not_mem_nil
  | unshown _ hdry | shown _ hdry => exact absurd hdry Bool.false_ne_true
  | persisted hread _ hcourse | unprintable hread _ hcourse =>
    obtain ⟨t, c, settings, ht, -, hprepare⟩ := hcourse.of_mem_requests hr
    exact ⟨_, t, c, settings.appId, hread, ht, body_of_prepare hprepare⟩
  | unpersisted hread _ hcourse =>
    rw [requests_ofError] at hr
    obtain ⟨t, c, settings, ht, -, hprepare⟩ := hcourse.of_mem_requests hr
    exact ⟨_, t, c, settings.appId, hread, ht, body_of_prepare hprepare⟩

/-- A document for which a request is sent is shown with the content of the request. -/
theorem isPreviewOf_of_request {r : Request} (hr : r ∈ (Task.work s ⟨file, false⟩).requests) :
    (Task.work s ⟨file, true⟩).ending = .status succeeded
      ∧ ∃ preview body given,
        (∀ room, 2 ≤ room → Json.read room (Task.work s ⟨file, true⟩).output = .ok preview)
        ∧ (∀ room, 3 ≤ room → Json.readOctets room (Utf8.encode r.body) = .ok body)
        ∧ body.member? "variables" = some given ∧ IsPreviewOf preview given := by
  obtain ⟨text, t, c, appId, hread, ht, hbody⟩ := exists_transform_of_request hr
  have hshown : Proceeds s ⟨file, true⟩ _ := .shown hread rfl ht
  obtain ⟨given, hgiven, hpreview⟩ := isPreviewOf_previewValue appId t
  rw [hshown.eq_work, hbody]
  dsimp only
  exact ⟨rfl, previewValue t, requestValue appId t, given, fun _ => read_previewText t,
    fun _ => readOctets_requestBody appId t, hgiven, hpreview⟩

/-- What cannot be shown fails to be submitted in the same way. -/
theorem work_eq_of_showing_failed (hending : (Task.work s ⟨file, true⟩).ending = .status failed) :
    Task.work s ⟨file, false⟩ = Task.work s ⟨file, true⟩ := by
  have hproceeds := proceeds_work s ⟨file, true⟩
  generalize hwork : Task.work s ⟨file, true⟩ = work at hproceeds hending
  cases hproceeds with
  | unreadable hread =>
    have hsubmitted : Proceeds s ⟨file, false⟩ _ := .unreadable hread
    exact hsubmitted.eq_work
  | unshown hread _ ht =>
    have hsubmitted : Proceeds s ⟨file, false⟩ _ :=
      .unpersisted hread rfl (.untransformed ht) rfl
    exact hsubmitted.eq_work
  | unnameable | undecodable | exhausting | shown => cases hending
  | persisted _ hdry | unprintable _ hdry | unpersisted _ hdry => exact absurd hdry.symm Bool.false_ne_true

/-- Showing a document agrees with submitting it. If the submission sends a request the document is
shown with the content of that request. If the document cannot be shown the submission fails with
the same report and sends nothing. Showing sends no request, and what it comes to and writes stays
the same in every environment in which the program has its settings and that agrees on the variables
that the document names. One switch more asks for it. -/
theorem showing_agrees {settings : ProgramSettings} {arguments showing : List String}
    (hloads : s.Loads settings)
    (harguments : readArguments arguments = .ok (.task ⟨file, false⟩))
    (hshowing : readArguments showing = .ok (.task ⟨file, true⟩)) :
    ∃ submitted shown, runProgram s arguments = submitted ∧ runProgram s showing = shown ∧
      (∀ r ∈ submitted.requests, shown.ending = .status succeeded ∧
        ∃ preview body given,
          (∀ room, 2 ≤ room → Json.read room shown.output = .ok preview) ∧
          (∀ room, 3 ≤ room → Json.readOctets room (Utf8.encode r.body) = .ok body) ∧
          body.member? "variables" = some given ∧ IsPreviewOf preview given) ∧
      (shown.ending = .status failed →
        submitted = shown ∧ submitted.requests = [] ∧
        EndsWithError (Task.work s ⟨file, true⟩).events ∧
        (Task.work s ⟨file, false⟩).events = (Task.work s ⟨file, true⟩).events) ∧
      shown.requests = [] ∧
      (∀ (environment : Environment) (settings' : ProgramSettings),
        Surroundings.Loads { s with environment } settings' →
        (∀ text document, s.Reads file text → GraphQL.Document.parse text = .ok document →
          AgreeOn document s.environment environment) →
        (runProgram { s with environment } showing).ending = shown.ending ∧
        (runProgram { s with environment } showing).output = shown.output) ∧
      readArguments ("--dry-run" :: arguments) = .ok (.task ⟨file, true⟩) := by
  have hrequests := @requests_of_showing s file
  refine ⟨_, _, runProgram_of_task hloads harguments, runProgram_of_task hloads hshowing,
    fun r hr => isPreviewOf_of_request hr, fun hending => ?_, hrequests,
    fun environment settings' hloads' hagree => ?_, readArguments_showing harguments⟩
  · have hsame := work_eq_of_showing_failed hending
    rw [hsame]
    exact ⟨rfl, hrequests, (isOrderly_work s _).endsWithError hending, rfl⟩
  · rw [runProgram_of_task hloads' hshowing]
    exact work_showing_congr hagree

end

/-- Surroundings with settings of the service of which the endpoint is a path. -/
def pathSurroundings : Surroundings :=
  .ofInput (fun v =>
      if v = "OG_DASHBOARD_ACCESS_TOKEN" then some "tok"
      else if v = "RAZZLE_ONEGRAPH_APP_ID" then some "app-id"
      else if v = "ONEGRAPH_URI" then some "serve.onegraph.com/graphql"
      else none)
    "\x7ba\x7d" (.fault .readTimeout "late")

/-- A document for which a request is sent is shown. -/
theorem showing_agrees_field :
    pathSurroundings.Loads ⟨"persist_query", "0.1.0", .info⟩ ∧
      readArguments [] = .ok (.task ⟨none, false⟩) ∧
      readArguments ["--dry-run"] = .ok (.task ⟨none, true⟩) ∧
      (runProgram pathSurroundings []).requests ≠ [] ∧
      (runProgram pathSurroundings ["--dry-run"]).ending = .status succeeded := by
  have hloads : pathSurroundings.Loads ⟨"persist_query", "0.1.0", .info⟩ := ⟨_, rfl, by rfl⟩
  have harguments : readArguments [] = .ok (.task ⟨none, false⟩) := by rfl
  have hshowing : readArguments ["--dry-run"] = .ok (.task ⟨none, true⟩) := by rfl
  have hread : pathSurroundings.Reads none "\x7ba\x7d" := reads_ofInput (by cbv)
  have hsettings : settingsFrom pathSurroundings.sources? = .ok pathSettings := by rfl
  obtain ⟨t, c, ht⟩ := exists_transform_field pathSurroundings.environment
  have hsubmitted : Proceeds pathSurroundings ⟨none, false⟩ _ :=
    .unpersisted hread rfl (.faulted ht hsettings (prepare_pathSettings t) rfl) rfl
  obtain ⟨submitted, shown, hsubmits, hshows, hagree, -⟩ :=
    showing_agrees hloads harguments hshowing
  have hsent : submitted.requests
      = [requestTo pathSettings t (pathAddress (some "app_id=app-id"))] := by
    rw [← hsubmits, runProgram_of_task hloads harguments, hsubmitted.eq_work]
    exact requests_ofError _ _ _
  have hshown := (hagree _ (hsent ▸ List.mem_singleton_self _)).1
  rw [hsubmits, hshows, hsent]
  exact ⟨hloads, harguments, hshowing, List.cons_ne_nil _ _, hshown⟩

end CommandLine

end PersistedDocument
