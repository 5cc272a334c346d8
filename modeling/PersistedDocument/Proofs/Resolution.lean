import PersistedDocument.Proofs.Checking
import PersistedDocument.Proofs.References
import PersistedDocument.Settings.Service

/-!
# Proofs: resolving settings of the service

Each field has at most one raw value: the one that is given, else that of the environment, else that
of the last binding in the file, else the default. There are settings if every field has a raw value
that it accepts. Otherwise each field without one is reported once, in the order of the fields. What
decides for no field makes no difference.
-/

namespace PersistedDocument

open Settings EnvironmentFile

/-- The fields of the settings of the service. -/
inductive ServiceField where
  | appId
  | dashboardToken
  | host
  | path
  | timeout
  | endpoint
deriving DecidableEq, Repr

namespace ServiceField

/-- The fields in the order in which they are declared. -/
def all : List ServiceField := [.appId, .dashboardToken, .host, .path, .timeout, .endpoint]

theorem mem_all (f : ServiceField) : f ∈ all := by
  cases f <;> decide

/-- The name of a field. -/
def name : ServiceField → String
  | .appId => "RAZZLE_ONEGRAPH_APP_ID"
  | .dashboardToken => "OG_DASHBOARD_ACCESS_TOKEN"
  | .host => "ONEGRAPH_HOST"
  | .path => "ONEGRAPH_PATH"
  | .timeout => "ONEGRAPH_TIMEOUT"
  | .endpoint => "ONEGRAPH_URI"

/-- The raw value of a field that no source gives. -/
def default? : ServiceField → Option Json
  | .appId | .dashboardToken => none
  | .host => some (.text "serve.onegraph.com")
  | .path => some (.text "/graphql")
  | .timeout | .endpoint => some .null

/-- The values that are valid for the type of a field. -/
def Accepts : ServiceField → Json → Prop
  | .timeout, v => v = .null ∨ ∃ x, Checked.number v = .valid x
  | .endpoint, v => v = .null ∨ ∃ text, v = .text text
  | _, v => ∃ text, v = .text text

end ServiceField

/-! ## Raw values -/

/-- The raw value of a field, by the source that decides: what is given, the environment, what the
last binding of the name in the file comes to if it has a value, or the default. -/
inductive IsRaw (given : String → Option Json) (env : String → Option String) (bs : List Binding)
    (f : ServiceField) : Json → Prop
  | given {v : Json} (hv : given f.name = some v) : IsRaw given env bs f v
  | environment {text : String} (hg : given f.name = none) (he : env f.name = some text) :
    IsRaw given env bs f (.text text)
  | file {earlier later results : List Binding} {value : String} {out : List Char}
    (hg : given f.name = none) (he : env f.name = none)
    (hb : bs = earlier ++ ⟨f.name, some value⟩ :: later) (hlast : ∀ b ∈ later, b.name ≠ f.name)
    (hearlier : AllComeTo env earlier results) (hvalue : ComesTo env results value.toList out) :
    IsRaw given env bs f (.text (String.ofList out))
  | default {v : Json} (hg : given f.name = none) (he : env f.name = none)
    (hb : lastValue? bs f.name = none) (hd : f.default? = some v) : IsRaw given env bs f v

/-- What a field is checked for: what the sources say about it, else its default. -/
def Settings.Sources.value? (s : Sources) (f : ServiceField) : Option Json :=
  (s.raw? f.name f.name).or f.default?

section

variable {given : String → Option Json} {env : String → Option String} {bs : List Binding}
  {f : ServiceField} {v : Json}

theorem Settings.Sources.value?_of_given (h : given f.name = some v) :
    Sources.value? ⟨given, env, lookup env bs⟩ f = some v := by
  simp [Sources.value?, Sources.raw?, h]

theorem Settings.Sources.value?_of_environment {text : String} (hg : given f.name = none)
    (he : env f.name = some text) :
    Sources.value? ⟨given, env, lookup env bs⟩ f = some (.text text) := by
  simp [Sources.value?, Sources.raw?, hg, he]

theorem Settings.Sources.value?_of_file (hg : given f.name = none) (he : env f.name = none) :
    Sources.value? ⟨given, env, lookup env bs⟩ f
      = ((lookup env bs f.name).map .text).or f.default? := by
  simp [Sources.value?, Sources.raw?, hg, he]

theorem isRaw_iff :
    IsRaw given env bs f v ↔ Sources.value? ⟨given, env, lookup env bs⟩ f = some v := by
  constructor
  · intro h
    cases h with
    | given hv => exact Sources.value?_of_given hv
    | environment hg he => exact Sources.value?_of_environment hg he
    | @file earlier later results value out hg he hb hlast hearlier hvalue =>
      rw [Sources.value?_of_file hg he, hb, lookup_append_cons (b := ⟨f.name, some value⟩) hlast,
        Option.map_some, interpolated_eq hearlier hvalue]
      rfl
    | default hg he hb hd =>
      rw [Sources.value?_of_file hg he, lookup_eq_none_iff.2 hb, Option.map_none,
        Option.none_or, hd]
  · intro h
    cases hg : given f.name with
    | some u =>
      rw [Sources.value?_of_given hg] at h
      cases h
      exact .given hg
    | none =>
      cases he : env f.name with
      | some text =>
        rw [Sources.value?_of_environment hg he] at h
        cases h
        exact .environment hg he
      | none =>
        rw [Sources.value?_of_file hg he] at h
        cases hlast : lastValue? bs f.name with
        | none =>
          rw [lookup_eq_none_iff.2 hlast, Option.map_none, Option.none_or] at h
          exact .default hg he hlast h
        | some value =>
          obtain ⟨earlier, later, rfl, hlater⟩ := exists_of_lastValue? hlast
          obtain ⟨results, out, hearlier, hvalue⟩ := exists_comesTo env earlier value
          rw [lookup_append_cons (b := ⟨f.name, some value⟩) hlater, Option.map_some,
            interpolated_eq hearlier hvalue] at h
          cases h
          exact .file hg he rfl hlater hearlier hvalue

/-- A field has no other raw value. -/
theorem IsRaw.unique {u : Json} (h : IsRaw given env bs f u) (h' : IsRaw given env bs f v) :
    u = v := by
  rw [isRaw_iff] at h h'
  exact Option.some.inj (h.symm.trans h')

end

/-! ## Resolving -/

theorem exists_text_iff {v : Json} :
    (∃ text, v = .text text) ↔ ∃ text, Checked.string v = .valid text := by
  simp only [Checked.string_eq_valid_iff]

theorem accepts_endpoint_iff {v : Json} :
    ServiceField.endpoint.Accepts v ↔
      ∃ text?, Checked.nullable Checked.string v = .valid text? := by
  rw [Checked.exists_nullable_eq_valid_iff, ← exists_text_iff]
  rfl

section

variable {s : Sources}

/-- Defaults are raw values like others. -/
theorem ServiceSettings.resolve_eq (s : Sources) :
    ServiceSettings.resolve s = ServiceSettings.assemble
      <$> Checked.required ServiceField.appId.name Checked.string (s.value? .appId)
      <*> Checked.required ServiceField.dashboardToken.name Checked.string
        (s.value? .dashboardToken)
      <*> Checked.required ServiceField.host.name Checked.string (s.value? .host)
      <*> Checked.required ServiceField.path.name Checked.string (s.value? .path)
      <*> Checked.required ServiceField.timeout.name (Checked.nullable Checked.number)
        (s.value? .timeout)
      <*> Checked.required ServiceField.endpoint.name (Checked.nullable Checked.string)
        (s.value? .endpoint) := by
  have happ : s.value? .appId = s.raw? "RAZZLE_ONEGRAPH_APP_ID" "RAZZLE_ONEGRAPH_APP_ID" :=
    Option.or_none
  have htoken : s.value? .dashboardToken
      = s.raw? "OG_DASHBOARD_ACCESS_TOKEN" "OG_DASHBOARD_ACCESS_TOKEN" := Option.or_none
  have hstring (name default : String) (raw : Option Json) :
      Checked.withDefault name default Checked.string raw
        = Checked.required name Checked.string (raw.or (some (.text default))) :=
    Checked.withDefault_eq_required (Checked.string_eq_valid_iff.2 rfl)
  have hnull {α : Type} (name : String) (check : Json → Checked α) (raw : Option Json) :
      Checked.withDefault name none (Checked.nullable check) raw
        = Checked.required name (Checked.nullable check) (raw.or (some .null)) :=
    Checked.withDefault_eq_required rfl
  rw [ServiceSettings.resolve]
  dsimp only
  rw [hstring, hstring, hnull, hnull, happ, htoken]
  rfl

/-- Settings hold what the raw values of their fields are. -/
theorem ServiceSettings.resolve_eq_valid_iff {settings : ServiceSettings} :
    ServiceSettings.resolve s = .valid settings ↔
      s.value? .appId = some (.text settings.appId) ∧
      s.value? .dashboardToken = some (.text settings.dashboardToken) ∧
      s.value? .host = some (.text settings.host) ∧
      s.value? .path = some (.text settings.path) ∧
      (∃ v, s.value? .timeout = some v ∧
        Checked.nullable Checked.number v = .valid settings.timeout) ∧
      ∃ v uri, s.value? .endpoint = some v ∧ Checked.nullable Checked.string v = .valid uri ∧
        settings.endpoint
          = uri.getD (ServiceSettings.assembleEndpoint settings.host settings.path) := by
  rw [ServiceSettings.resolve_eq]
  simp only [Checked.seq_eq_valid, Checked.map_eq_valid, Checked.required_eq_valid_iff,
    Checked.string_eq_valid_iff]
  constructor
  · rintro ⟨_, uri, ⟨_, timeout, ⟨_, path, ⟨_, host, ⟨_, token, ⟨appId, ⟨_, happ, rfl⟩, rfl⟩,
      ⟨_, htoken, rfl⟩, rfl⟩, ⟨_, hhost, rfl⟩, rfl⟩, ⟨_, hpath, rfl⟩, rfl⟩, ⟨u, hu, htimeout⟩, rfl⟩,
      ⟨v, hv, huri⟩, rfl⟩
    exact ⟨happ, htoken, hhost, hpath, ⟨u, hu, htimeout⟩, v, uri, hv, huri, rfl⟩
  · obtain ⟨appId, token, host, path, timeout, endpoint⟩ := settings
    rintro ⟨happ, htoken, hhost, hpath, ⟨u, hu, htimeout⟩, v, uri, hv, huri, hendpoint⟩
    dsimp only at hendpoint
    subst hendpoint
    exact ⟨_, uri, ⟨_, timeout, ⟨_, path, ⟨_, host, ⟨_, token, ⟨appId, ⟨_, happ, rfl⟩, rfl⟩,
      ⟨_, htoken, rfl⟩, rfl⟩, ⟨_, hhost, rfl⟩, rfl⟩, ⟨_, hpath, rfl⟩, rfl⟩, ⟨u, hu, htimeout⟩, rfl⟩,
      ⟨v, hv, huri⟩, rfl⟩

/-- There are settings if each field has a raw value that it accepts. -/
theorem ServiceSettings.exists_resolve_eq_valid_iff :
    (∃ settings, ServiceSettings.resolve s = .valid settings) ↔
      ∀ f : ServiceField, ∃ v, s.value? f = some v ∧ f.Accepts v := by
  simp only [ServiceSettings.resolve_eq_valid_iff]
  constructor
  · rintro ⟨settings, happ, htoken, hhost, hpath, ⟨u, hu, htimeout⟩, v, uri, hv, huri, -⟩ f
    cases f with
    | appId => exact ⟨_, happ, _, rfl⟩
    | dashboardToken => exact ⟨_, htoken, _, rfl⟩
    | host => exact ⟨_, hhost, _, rfl⟩
    | path => exact ⟨_, hpath, _, rfl⟩
    | timeout => exact ⟨u, hu, Checked.exists_nullable_eq_valid_iff.1 ⟨_, htimeout⟩⟩
    | endpoint => exact ⟨v, hv, accepts_endpoint_iff.2 ⟨uri, huri⟩⟩
  · intro h
    obtain ⟨_, happ, appId, rfl⟩ := h .appId
    obtain ⟨_, htoken, token, rfl⟩ := h .dashboardToken
    obtain ⟨_, hhost, host, rfl⟩ := h .host
    obtain ⟨_, hpath, path, rfl⟩ := h .path
    obtain ⟨u, hu, htimeout⟩ := h .timeout
    obtain ⟨timeout, htimeout⟩ := Checked.exists_nullable_eq_valid_iff.2 htimeout
    obtain ⟨v, hv, hendpoint⟩ := h .endpoint
    obtain ⟨uri, huri⟩ := accepts_endpoint_iff.1 hendpoint
    exact ⟨⟨appId, token, host, path, timeout,
      uri.getD (ServiceSettings.assembleEndpoint host path)⟩, happ, htoken, hhost, hpath,
      ⟨u, hu, htimeout⟩, v, uri, hv, huri, rfl⟩

/-- The problems with a field. -/
def Settings.Sources.problems (s : Sources) (f : ServiceField) : List Problem :=
  match f with
  | .timeout =>
    (Checked.required f.name (Checked.nullable Checked.number) (s.value? f)).problems
  | .endpoint =>
    (Checked.required f.name (Checked.nullable Checked.string) (s.value? f)).problems
  | _ => (Checked.required f.name Checked.string (s.value? f)).problems

theorem ServiceSettings.problems_resolve (s : Sources) :
    (ServiceSettings.resolve s).problems = ServiceField.all.flatMap s.problems := by
  rw [ServiceSettings.resolve_eq]
  simp only [Checked.problems_seq, Checked.problems_map, List.append_assoc]
  show _ = s.problems .appId ++ (s.problems .dashboardToken ++ (s.problems .host ++
    (s.problems .path ++ (s.problems .timeout ++ (s.problems .endpoint ++ [])))))
  rw [List.append_nil]
  rfl

section

variable {f : ServiceField} {α : Type} {check : Json → Checked α} (hplain : Checked.IsPlain check)
  (haccepts : ∀ v, f.Accepts v ↔ ∃ a, check v = .valid a)
  (hproblems : s.problems f = (Checked.required f.name check (s.value? f)).problems)

include hplain haccepts hproblems

theorem Settings.Sources.problems_of_check :
    ∃ c, (∃ v, s.value? f = some v ∧ f.Accepts v) ∧ s.problems f = [] ∨
      (¬∃ v, s.value? f = some v ∧ f.Accepts v) ∧ s.problems f = [⟨[.field f.name], c⟩]
        ∧ (c = .missing ↔ s.value? f = none) := by
  rw [hproblems]
  rcases @Checked.problems_required _ check f.name (s.value? f) hplain with
    ⟨v, a, hv, ha, hnone⟩ | ⟨hinvalid, c, hone, hmissing⟩
  · exact ⟨.missing, Or.inl ⟨⟨v, hv, (haccepts v).2 ⟨a, ha⟩⟩, hnone⟩⟩
  · refine ⟨c, Or.inr ⟨?_, hone, hmissing⟩⟩
    rintro ⟨v, hv, haccepted⟩
    obtain ⟨a, ha⟩ := (haccepts v).1 haccepted
    exact hinvalid v hv a ha

end

/-- A field that accepts its raw value has no problem, and any other field has one. -/
theorem Settings.Sources.problems_cases (s : Sources) (f : ServiceField) :
    ∃ c, (∃ v, s.value? f = some v ∧ f.Accepts v) ∧ s.problems f = [] ∨
      (¬∃ v, s.value? f = some v ∧ f.Accepts v) ∧ s.problems f = [⟨[.field f.name], c⟩]
        ∧ (c = .missing ↔ s.value? f = none) := by
  cases f with
  | timeout =>
    exact Sources.problems_of_check Checked.isPlain_number.nullable
      (fun v => Checked.exists_nullable_eq_valid_iff.symm) rfl
  | endpoint =>
    exact Sources.problems_of_check Checked.isPlain_string.nullable
      (fun v => accepts_endpoint_iff) rfl
  | appId | dashboardToken | host | path =>
    exact Sources.problems_of_check Checked.isPlain_string (fun v => exists_text_iff) rfl

/-- The problems of some fields are one for each of them that does not accept its raw value. -/
theorem Settings.Sources.exists_rejected (s : Sources) (fs : List ServiceField) :
    ∃ (rejected : List ServiceField) (complaint : ServiceField → Complaint),
      rejected.Sublist fs ∧
      (∀ f ∈ fs, f ∈ rejected ↔ ¬∃ v, s.value? f = some v ∧ f.Accepts v) ∧
      (∀ f ∈ rejected, complaint f = .missing ↔ s.value? f = none) ∧
      fs.flatMap s.problems = rejected.map fun f => ⟨[.field f.name], complaint f⟩ := by
  classical
  obtain ⟨complaint, hcomplaint⟩ := Classical.axiomOfChoice (Sources.problems_cases s)
  refine ⟨fs.filter fun f => ¬∃ v, s.value? f = some v ∧ f.Accepts v, complaint,
    List.filter_sublist, fun f hf => by simp [hf], fun f hf => ?_, ?_⟩
  · have hrejected : ¬∃ v, s.value? f = some v ∧ f.Accepts v := by
      simpa using (List.mem_filter.1 hf).2
    rcases hcomplaint f with ⟨haccepted, -⟩ | ⟨-, -, hmissing⟩
    · exact absurd haccepted hrejected
    · exact hmissing
  · induction fs with
    | nil => rfl
    | cons f fs ih =>
      rw [List.flatMap_cons, ih]
      rcases hcomplaint f with ⟨haccepted, hnone⟩ | ⟨hrejected, hone, -⟩
      · rw [List.filter_cons_of_neg (by simpa using haccepted), hnone, List.nil_append]
      · rw [List.filter_cons_of_pos (by simpa using hrejected), hone, List.map_cons,
          List.singleton_append]

/-- Settings depend on their sources only through the values of their fields. -/
theorem ServiceSettings.resolve_congr {s s' : Sources} (h : ∀ f, s'.value? f = s.value? f) :
    ServiceSettings.resolve s' = ServiceSettings.resolve s := by
  simp only [ServiceSettings.resolve_eq, h]

end

/-! ## Settings and their sources -/

/-- The text of an environment file, which is empty where there is no file. -/
def Settings.Sources.fileText? : Option Octets → Option (List Char)
  | none => some []
  | some octets => EnvironmentFile.fileText? octets

/-- Settings with the raw values of their fields. An endpoint that is not given is assembled. -/
structure HoldsRaw (given : String → Option Json) (env : String → Option String)
    (bs : List Binding) (settings : ServiceSettings) : Prop where
  appId : IsRaw given env bs .appId (.text settings.appId)
  dashboardToken : IsRaw given env bs .dashboardToken (.text settings.dashboardToken)
  host : IsRaw given env bs .host (.text settings.host)
  path : IsRaw given env bs .path (.text settings.path)
  timeout : ∃ v, IsRaw given env bs .timeout v ∧
    Checked.nullable Checked.number v = .valid settings.timeout
  endpoint : IsRaw given env bs .endpoint (.text settings.endpoint) ∨
    IsRaw given env bs .endpoint .null ∧
      settings.endpoint = "https://" ++ settings.host
        ++ (if settings.path.toList.head? = some '/' then "" else "/") ++ settings.path

/-- Sources that agree on what decides for a field. -/
def ServiceField.DecidedAlike (given given' : String → Option Json)
    (env env' : String → Option String) (bs bs' : List Binding) (f : ServiceField) : Prop :=
  given' f.name = given f.name ∧
    (given f.name = none → env' f.name = env f.name ∧
      (env f.name = none → lastValue? bs' f.name = lastValue? bs f.name))

section

variable {given given' : String → Option Json} {env env' : String → Option String}
  {bs bs' : List Binding} {f : ServiceField}

theorem Settings.Sources.ofFile?_eq {file : Option Octets} {text : List Char}
    (h : Sources.fileText? file = some text) :
    Sources.ofFile? given env file = some ⟨given, env, lookup env (bindings text)⟩ := by
  cases file with
  | none =>
    cases h
    rw [bindings_nil]
    rfl
  | some octets =>
    have hread : EnvironmentFile.fileText? octets = some text := h
    rw [Sources.ofFile?, values?, hread]
    rfl

/-- A field of which nothing has a reference is what decides for it. -/
theorem Settings.Sources.value?_eq_of_decidedAlike
    (hplain : ∀ v, lastValue? bs f.name = some v → HasNoReference v.toList)
    (h : f.DecidedAlike given given' env env' bs bs') :
    Sources.value? ⟨given', env', lookup env' bs'⟩ f
      = Sources.value? ⟨given, env, lookup env bs⟩ f := by
  obtain ⟨hgiven, h⟩ := h
  cases hg : given f.name with
  | some v => rw [Sources.value?_of_given hg, Sources.value?_of_given (hgiven.trans hg)]
  | none =>
    obtain ⟨henv, h⟩ := h hg
    cases he : env f.name with
    | some text =>
      rw [Sources.value?_of_environment hg he,
        Sources.value?_of_environment (hgiven.trans hg) (henv.trans he)]
    | none =>
      have hlast := h he
      have hplain' : ∀ v, lastValue? bs' f.name = some v → HasNoReference v.toList := by
        rwa [hlast]
      rw [Sources.value?_of_file hg he, Sources.value?_of_file (hgiven.trans hg) (henv.trans he),
        lookup_eq_lastValue? hplain, lookup_eq_lastValue? hplain', hlast]

theorem assembleEndpoint_eq (host path : String) :
    ServiceSettings.assembleEndpoint host path
      = "https://" ++ host ++ (if path.toList.head? = some '/' then "" else "/") ++ path := by
  rw [ServiceSettings.assembleEndpoint]
  split
  · rw [String.append_empty]
  · simp only [String.append_assoc]

theorem ServiceSettings.holdsRaw_of_resolve {settings : ServiceSettings}
    (h : ServiceSettings.resolve ⟨given, env, lookup env bs⟩ = .valid settings) :
    HoldsRaw given env bs settings := by
  obtain ⟨happ, htoken, hhost, hpath, ⟨u, hu, htimeout⟩, v, uri, hv, huri, hendpoint⟩ :=
    ServiceSettings.resolve_eq_valid_iff.1 h
  refine ⟨isRaw_iff.2 happ, isRaw_iff.2 htoken, isRaw_iff.2 hhost, isRaw_iff.2 hpath,
    ⟨u, isRaw_iff.2 hu, htimeout⟩, ?_⟩
  rcases Checked.nullable_eq_valid_iff.1 huri with ⟨rfl, rfl⟩ | ⟨-, text, htext, rfl⟩
  · refine Or.inr ⟨isRaw_iff.2 hv, ?_⟩
    rw [hendpoint, Option.getD_none, assembleEndpoint_eq]
  · rw [Checked.string_eq_valid_iff] at htext
    subst htext
    rw [Option.getD_some] at hendpoint
    rw [hendpoint]
    exact Or.inl (isRaw_iff.2 hv)

end

/-- The settings of the service are there if every field has a raw value that it accepts, and they
hold these values. Otherwise each of the other fields has one problem, in the order of the fields.
Unless the environment file has references, only what decides for a field makes a difference. -/
theorem settings_resolution (given : String → Option Json) (env : String → Option String)
    (file : Option Octets) (text : List Char) (htext : Sources.fileText? file = some text) :
    ∃ s, Sources.ofFile? given env file = some s ∧
      ((∃ settings, ServiceSettings.resolve s = .valid settings) ↔
        ∀ f : ServiceField, ∃ v, IsRaw given env (bindings text) f v ∧ f.Accepts v) ∧
      (∀ settings, ServiceSettings.resolve s = .valid settings →
        HoldsRaw given env (bindings text) settings) ∧
      (∀ ps, ServiceSettings.resolve s = .invalid ps →
        ∃ (rejected : List ServiceField) (complaint : ServiceField → Complaint),
          rejected.Sublist ServiceField.all ∧
          (∀ f, f ∈ rejected ↔ ¬∃ v, IsRaw given env (bindings text) f v ∧ f.Accepts v) ∧
          (∀ f ∈ rejected, complaint f = .missing ↔ ¬∃ v, IsRaw given env (bindings text) f v) ∧
          ps = rejected.map fun f => ⟨[.field f.name], complaint f⟩) ∧
      (HasNoReference text → ∀ given' env' file' text', Sources.fileText? file' = some text' →
        (∀ f : ServiceField,
          f.DecidedAlike given given' env env' (bindings text) (bindings text')) →
        ∃ s', Sources.ofFile? given' env' file' = some s' ∧
          ServiceSettings.resolve s' = ServiceSettings.resolve s) := by
  refine ⟨⟨given, env, lookup env (bindings text)⟩, Sources.ofFile?_eq htext, ?_, ?_, ?_, ?_⟩
  · simp only [isRaw_iff]
    exact ServiceSettings.exists_resolve_eq_valid_iff
  · intro settings h
    exact ServiceSettings.holdsRaw_of_resolve h
  · intro ps h
    obtain ⟨rejected, complaint, hsublist, hrejected, hmissing, hps⟩ :=
      Sources.exists_rejected ⟨given, env, lookup env (bindings text)⟩ ServiceField.all
    refine ⟨rejected, complaint, hsublist, fun f => ?_, fun f hf => ?_, ?_⟩
    · simp only [isRaw_iff]
      exact hrejected f (ServiceField.mem_all f)
    · simp only [isRaw_iff, hmissing f hf, Option.eq_none_iff_forall_ne_some, not_exists, ne_eq]
    · rw [← hps, ← ServiceSettings.problems_resolve, h]
      rfl
  · intro hplain given' env' file' text' htext' halike
    refine ⟨_, Sources.ofFile?_eq htext', ServiceSettings.resolve_congr fun f => ?_⟩
    refine Sources.value?_eq_of_decidedAlike (fun v hv => ?_) (halike f)
    obtain ⟨b, hb, hbv⟩ := mem_of_lastValue? hv
    exact hasNoReference_of_mem_bindings hplain hb hbv

section

variable {given : String → Option Json} {env : String → Option String} {bs : List Binding}
  {appId token host path : String}

/-- Texts, and nothing for the two fields that accept it, are enough for settings. -/
theorem exists_accepted (happ : IsRaw given env bs .appId (.text appId))
    (htoken : IsRaw given env bs .dashboardToken (.text token))
    (hhost : IsRaw given env bs .host (.text host)) (hpath : IsRaw given env bs .path (.text path))
    (htimeout : IsRaw given env bs .timeout .null)
    (hendpoint : IsRaw given env bs .endpoint .null) (f : ServiceField) :
    ∃ v, IsRaw given env bs f v ∧ f.Accepts v := by
  cases f with
  | appId => exact ⟨_, happ, _, rfl⟩
  | dashboardToken => exact ⟨_, htoken, _, rfl⟩
  | host => exact ⟨_, hhost, _, rfl⟩
  | path => exact ⟨_, hpath, _, rfl⟩
  | timeout => exact ⟨_, htimeout, Or.inl rfl⟩
  | endpoint => exact ⟨_, hendpoint, Or.inl rfl⟩

/-- Without a given endpoint it is assembled from the raw values of host and path. -/
theorem HoldsRaw.endpoint_eq {settings : ServiceSettings} (h : HoldsRaw given env bs settings)
    (hhost : IsRaw given env bs .host (.text host)) (hpath : IsRaw given env bs .path (.text path))
    (hendpoint : IsRaw given env bs .endpoint .null) :
    settings.endpoint
      = "https://" ++ host ++ (if path.toList.head? = some '/' then "" else "/") ++ path := by
  rcases h.endpoint with hgiven | ⟨-, hassembled⟩
  · cases hgiven.unique hendpoint
  · rw [hassembled, Json.text_injective (h.host.unique hhost),
      Json.text_injective (h.path.unique hpath)]

end

/-- A reference with nothing but a name. -/
def zoneReference : WrittenReference where
  name := ['Z', 'O', 'N', 'E']
  default? := none
  name_ends := by simp
  default_ends := nofun

/-- A reference with a default. -/
def domainReference : WrittenReference where
  name := ['D', 'O', 'M', 'A', 'I', 'N']
  default? := some "onegraph.com".toList
  name_ends := by simp
  default_ends := by
    rintro _ ⟨⟩
    decide

/-- The two one after the other, with a point between them. -/
def hostText : String := "$\x7bZONE\x7d.$\x7bDOMAIN:-onegraph.com\x7d"

theorem comesTo_references {env : String → Option String} (henv : env "DOMAIN" = none) :
    ComesTo env [⟨"RAZZLE_ONEGRAPH_APP_ID", some "app"⟩, ⟨"ZONE", some "eu"⟩]
      hostText.toList "eu.onegraph.com".toList := by
  have hbefore : [⟨"RAZZLE_ONEGRAPH_APP_ID", some "app"⟩, ⟨"ZONE", some "eu"⟩]
      = [⟨"RAZZLE_ONEGRAPH_APP_ID", some "app"⟩]
        ++ ⟨String.ofList zoneReference.name, some "eu"⟩ :: ([] : List Binding) := rfl
  have hzone : zoneReference.StandsFor env
      [⟨"RAZZLE_ONEGRAPH_APP_ID", some "app"⟩, ⟨"ZONE", some "eu"⟩] "eu".toList :=
    .binding hbefore nofun
  have hdomain : domainReference.StandsFor env
      [⟨"RAZZLE_ONEGRAPH_APP_ID", some "app"⟩, ⟨"ZONE", some "eu"⟩] "onegraph.com".toList :=
    .default (by decide) henv
  have hpoint := ComesTo.kept (c := '.') (fun r => r.not_prefix (by decide) _)
    (.reference hdomain .nil)
  exact .reference hzone hpoint

/-- An empty variable of the environment counts, and so does the last binding of a name. What is
given under another name, and a binding that is shadowed, make no difference. A reference stands for
what the file says before, also where the environment says something else, and for its default where
neither says anything. -/
theorem settings_resolution_with_references :
    let given : String → Option Json := fun name =>
      if name = "ONEGRAPH_URI" then some .null else none
    let given' : String → Option Json := fun name =>
      if name = "ONEGRAPH_URI" then some .null
      else if name = "PROJECT_NAME" then some (.boolean true) else none
    let env : String → Option String := fun name =>
      if name = "OG_DASHBOARD_ACCESS_TOKEN" then some ""
      else if name = "ZONE" then some "us" else none
    let text := "RAZZLE_ONEGRAPH_APP_ID=old\nONEGRAPH_HOST\nRAZZLE_ONEGRAPH_APP_ID=app\n"
    let text' := "OG_DASHBOARD_ACCESS_TOKEN=token\nRAZZLE_ONEGRAPH_APP_ID=app\n"
    let referring := "RAZZLE_ONEGRAPH_APP_ID=app\nZONE=eu\n"
      ++ "ONEGRAPH_HOST=" ++ hostText ++ "\n"
    Sources.fileText? (some (Utf8.encode text)) = some text.toList ∧
      (∃ s s' settings, Sources.ofFile? given env (some (Utf8.encode text)) = some s ∧
        Sources.ofFile? given' env (some (Utf8.encode text')) = some s' ∧
        ServiceSettings.resolve s = .valid settings ∧
        ServiceSettings.resolve s' = .valid settings ∧
        settings.appId = "app" ∧ settings.dashboardToken = "" ∧
        settings.endpoint = "https://serve.onegraph.com/graphql") ∧
      Sources.fileText? (some (Utf8.encode referring)) = some referring.toList ∧
      ∃ s settings, Sources.ofFile? given env (some (Utf8.encode referring)) = some s ∧
        ServiceSettings.resolve s = .valid settings ∧
        settings.host = "eu.onegraph.com" ∧
        settings.endpoint = "https://eu.onegraph.com/graphql" := by
  intro given given' env text text' referring
  have htext : Sources.fileText? (some (Utf8.encode text)) = some text.toList := by decide +kernel
  have hreferring : Sources.fileText? (some (Utf8.encode referring)) = some referring.toList := by
    decide +kernel
  refine ⟨htext, ?_, hreferring, ?_⟩
  · have htext' : Sources.fileText? (some (Utf8.encode text')) = some text'.toList := by
      decide +kernel
    have hplain : HasNoReference text.toList := by decide +kernel
    have hbs : bindings text.toList = [⟨"RAZZLE_ONEGRAPH_APP_ID", some "old"⟩,
        ⟨"ONEGRAPH_HOST", none⟩, ⟨"RAZZLE_ONEGRAPH_APP_ID", some "app"⟩] := by decide +kernel
    have hbs' : bindings text'.toList = [⟨"OG_DASHBOARD_ACCESS_TOKEN", some "token"⟩,
        ⟨"RAZZLE_ONEGRAPH_APP_ID", some "app"⟩] := by decide +kernel
    obtain ⟨s, hs, hvalid, hholds, -, hagree⟩ :=
      settings_resolution given env (some (Utf8.encode text)) text.toList htext
    have hlast (f : ServiceField) (happ : f ≠ .appId) :
        lastValue? (bindings text.toList) f.name = none := by
      rw [hbs]
      cases f with
      | appId => exact absurd rfl happ
      | _ => rfl
    have hsplit : bindings text.toList = [⟨"RAZZLE_ONEGRAPH_APP_ID", some "old"⟩,
        ⟨"ONEGRAPH_HOST", none⟩] ++ ⟨ServiceField.appId.name, some "app"⟩ :: [] := hbs
    have happ : IsRaw given env (bindings text.toList) .appId (.text (.ofList "app".toList)) :=
      .file rfl rfl hsplit nofun (allComeTo_self (by decide)) (comesTo_self (by decide))
    have htoken : IsRaw given env (bindings text.toList) .dashboardToken (.text "") :=
      .environment rfl rfl
    have hhost : IsRaw given env (bindings text.toList) .host (.text "serve.onegraph.com") :=
      .default rfl rfl (hlast _ nofun) rfl
    have hpath : IsRaw given env (bindings text.toList) .path (.text "/graphql") :=
      .default rfl rfl (hlast _ nofun) rfl
    have htimeout : IsRaw given env (bindings text.toList) .timeout .null :=
      .default rfl rfl (hlast _ nofun) rfl
    have hendpoint : IsRaw given env (bindings text.toList) .endpoint .null := .given rfl
    obtain ⟨settings, hsettings⟩ :=
      hvalid.2 (exists_accepted happ htoken hhost hpath htimeout hendpoint)
    obtain ⟨s', hs', hsame⟩ := hagree hplain given' env _ _ htext' fun f => by
      rw [hbs, hbs']
      cases f with
      | dashboardToken => exact ⟨rfl, fun _ => ⟨rfl, nofun⟩⟩
      | _ => exact ⟨rfl, fun _ => ⟨rfl, fun _ => rfl⟩⟩
    have hholds := hholds settings hsettings
    refine ⟨s, s', settings, hs, hs', hsettings, hsame.trans hsettings, ?_, ?_, ?_⟩
    · exact Json.text_injective (hholds.appId.unique happ)
    · exact Json.text_injective (hholds.dashboardToken.unique htoken)
    · rw [hholds.endpoint_eq hhost hpath hendpoint]
      decide
  · have hbs : bindings referring.toList = [⟨"RAZZLE_ONEGRAPH_APP_ID", some "app"⟩,
        ⟨"ZONE", some "eu"⟩, ⟨"ONEGRAPH_HOST", some hostText⟩] := by decide +kernel
    obtain ⟨s, hs, hvalid, hholds, -, -⟩ :=
      settings_resolution given env (some (Utf8.encode referring)) referring.toList hreferring
    have hlast (f : ServiceField) (happ : f ≠ .appId) (hhost : f ≠ .host) :
        lastValue? (bindings referring.toList) f.name = none := by
      rw [hbs]
      cases f with
      | appId => exact absurd rfl happ
      | host => exact absurd rfl hhost
      | _ => rfl
    have hfirst : bindings referring.toList = [] ++ ⟨ServiceField.appId.name, some "app"⟩
        :: [⟨"ZONE", some "eu"⟩, ⟨"ONEGRAPH_HOST", some hostText⟩] := hbs
    have happ : IsRaw given env (bindings referring.toList) .appId
        (.text (.ofList "app".toList)) :=
      .file rfl rfl hfirst (by decide) .nil (comesTo_self (by decide))
    have htoken : IsRaw given env (bindings referring.toList) .dashboardToken (.text "") :=
      .environment rfl rfl
    have hfinal : bindings referring.toList = [⟨"RAZZLE_ONEGRAPH_APP_ID", some "app"⟩,
        ⟨"ZONE", some "eu"⟩] ++ ⟨ServiceField.host.name, some hostText⟩ :: [] := hbs
    have hhost : IsRaw given env (bindings referring.toList) .host
        (.text (.ofList "eu.onegraph.com".toList)) :=
      .file rfl rfl hfinal nofun (allComeTo_self (by decide)) (comesTo_references rfl)
    have hpath : IsRaw given env (bindings referring.toList) .path (.text "/graphql") :=
      .default rfl rfl (hlast _ nofun nofun) rfl
    have htimeout : IsRaw given env (bindings referring.toList) .timeout .null :=
      .default rfl rfl (hlast _ nofun nofun) rfl
    have hendpoint : IsRaw given env (bindings referring.toList) .endpoint .null := .given rfl
    obtain ⟨settings, hsettings⟩ :=
      hvalid.2 (exists_accepted happ htoken hhost hpath htimeout hendpoint)
    have hholds := hholds settings hsettings
    refine ⟨s, settings, hs, hsettings, ?_, ?_⟩
    · exact Json.text_injective (hholds.host.unique hhost)
    · rw [hholds.endpoint_eq hhost hpath hendpoint]
      decide

end PersistedDocument
