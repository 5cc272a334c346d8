import PersistedDocument.Proofs.Collecting
import PersistedDocument.Proofs.Requests
import PersistedDocument.Submission.Run

/-!
# Proofs: secrecy of tokens

Two runs that differ in nothing but the values of tokens report the same, come to the same end and
send requests that differ only where the tokens belong. Collectors are *alike* if they differ at
most in the value of their token; steps from alike collectors give the same and leave alike
collectors behind.
-/

namespace PersistedDocument

open GraphQL

variable {α β : Type}

/-! ## Alike collectors -/

/-- Collectors that differ at most in the value of their token. -/
structure Collector.Alike (c c' : Collector) : Prop where
  freeVariables : c.freeVariables = c'.freeVariables
  events : c.events = c'.events
  hasToken : c.accessToken.isSome = c'.accessToken.isSome

/-- Ends of steps that are of the same kind, with related results and alike collectors. -/
def AlikeEnds (R : α → α → Prop) :
    EStateM.Result Failure Collector α → EStateM.Result Failure Collector α → Prop
  | .ok a c, .ok a' c' => R a a' ∧ c.Alike c'
  | .error e c, .error e' c' => e = e' ∧ c.Alike c'
  | _, _ => False

theorem AlikeEnds.cases {R : α → α → Prop} {r r' : EStateM.Result Failure Collector α}
    (h : AlikeEnds R r r') :
    (∃ a a' c c', r = .ok a c ∧ r' = .ok a' c' ∧ R a a' ∧ c.Alike c')
      ∨ ∃ e c c', r = .error e c ∧ r' = .error e c' ∧ c.Alike c' := by
  cases r with
  | ok a c =>
    cases r' with
    | ok a' c' => exact Or.inl ⟨a, a', c, c', rfl, rfl, h⟩
    | error e' c' => exact h.elim
  | error e c =>
    cases r' with
    | ok a' c' => exact h.elim
    | error e' c' =>
      obtain ⟨rfl, hc⟩ := h
      exact Or.inr ⟨e, c, c', rfl, rfl, hc⟩

/-- Steps that end alike from alike collectors. -/
def AlikeSteps (R : α → α → Prop) (x x' : Collecting α) : Prop :=
  ∀ c c' : Collector, c.Alike c' → AlikeEnds R (x c) (x' c')

/-- Environments that give values to the same variables, of which empty ones do not count. -/
def Environment.Alike (env env' : Environment) : Prop :=
  ∀ varName, (∃ token, env varName = some token ∧ token ≠ "")
    ↔ ∃ token, env' varName = some token ∧ token ≠ ""

theorem AlikeSteps.pure {R : α → α → Prop} {a a' : α} (h : R a a') :
    AlikeSteps R (Pure.pure a) (Pure.pure a') :=
  fun _ _ hc => ⟨h, hc⟩

theorem AlikeSteps.throw {R : α → α → Prop} (e : Failure) :
    AlikeSteps R (throw e : Collecting α) (throw e) :=
  fun _ _ hc => ⟨rfl, hc⟩

theorem AlikeSteps.bind {R : α → α → Prop} {S : β → β → Prop} {x x' : Collecting α}
    {f f' : α → Collecting β} (hx : AlikeSteps R x x')
    (hf : ∀ a a', R a a' → AlikeSteps S (f a) (f' a')) :
    AlikeSteps S (x >>= f) (x' >>= f') := by
  intro c c' hc
  simp only [Bind.bind, EStateM.bind]
  rcases (hx c c' hc).cases with ⟨a, a', d, d', hr, hr', ha, hd⟩ | ⟨e, d, d', hr, hr', hd⟩
  · rw [hr, hr']
    exact hf a a' ha d d' hd
  · rw [hr, hr']
    exact ⟨rfl, hd⟩

theorem alikeSteps_get : AlikeSteps Collector.Alike (get : Collecting Collector) get :=
  fun _ _ hc => ⟨hc, hc⟩

theorem alikeSteps_report (e : Event) : AlikeSteps Eq (report e) (report e) :=
  fun _ _ hc => ⟨rfl, hc.freeVariables, congrArg (· ++ [e]) hc.events, hc.hasToken⟩

theorem alikeSteps_gather (names : List String) : AlikeSteps Eq (gather names) (gather names) :=
  fun _ _ hc => ⟨rfl, congrArg (·.insertAll names) hc.freeVariables, hc.events, hc.hasToken⟩

/-! ## Transforming -/

/-- Documents that are ready to be persisted and differ at most in the value of their token. -/
structure Transformed.Alike (t t' : Transformed) : Prop where
  query : t.query = t'.query
  freeVariables : t.freeVariables = t'.freeVariables

section

variable {env env' : Environment} (henv : env.Alike env')

include henv

theorem Environment.Alike.isSome_token? (varName : String) :
    (env.token? varName).isSome = (env'.token? varName).isSome := by
  rw [Bool.eq_iff_iff, Option.isSome_iff_exists, Option.isSome_iff_exists]
  simp only [token?_eq_some_iff]
  exact henv varName

/-- What is reported about a token, and the failures to read one, do not depend on its value. -/
theorem alikeSteps_readToken (operation varName : String) :
    AlikeSteps Eq (readToken env operation varName) (readToken env' operation varName) := by
  intro c c' hc
  have htokens := hc.hasToken
  have hvalues := henv.isSome_token? varName
  cases htoken : c.accessToken with
  | some t =>
    rw [htoken] at htokens
    rw [readToken_of_isSome (by rw [htoken]; rfl), readToken_of_isSome htokens.symm]
    exact ⟨rfl, hc⟩
  | none =>
    rw [htoken] at htokens
    have htoken' : c'.accessToken = none := by simpa using htokens.symm
    cases hvalue : env.token? varName with
    | none =>
      rw [hvalue] at hvalues
      have hvalue' : env'.token? varName = none := by simpa using hvalues.symm
      rw [readToken_of_missing htoken hvalue, readToken_of_missing htoken' hvalue']
      exact ⟨rfl, hc⟩
    | some t =>
      rw [hvalue] at hvalues
      obtain ⟨t', hvalue'⟩ := Option.isSome_iff_exists.1 hvalues.symm
      rw [readToken_of_token htoken hvalue, readToken_of_token htoken' hvalue']
      exact ⟨rfl, hc.freeVariables, congrArg (· ++ _) hc.events, rfl⟩

theorem alikeSteps_visitDirective (operation : String) (d : Directive) :
    AlikeSteps Eq (visitDirective env operation d) (visitDirective env' operation d) := by
  rw [visitDirective, visitDirective]
  split
  · exact alikeSteps_readToken henv operation _
  · exact AlikeSteps.pure rfl

theorem alikeSteps_directives (operation : String) (ds : List Directive) :
    AlikeSteps Eq (ds.forM (visitDirective env operation))
      (ds.forM (visitDirective env' operation)) := by
  induction ds with
  | nil => exact AlikeSteps.pure rfl
  | cons d ds ih => exact (alikeSteps_visitDirective henv operation d).bind fun _ _ _ => ih

theorem alikeSteps_visitOperation (o : Operation) :
    AlikeSteps Eq (visitOperation env o) (visitOperation env' o) :=
  (alikeSteps_directives henv o.reportedName o.directives).bind fun _ _ _ =>
    (alikeSteps_gather _).bind fun _ _ _ => AlikeSteps.pure rfl

theorem alikeSteps_visitDefinition (d : Definition) :
    AlikeSteps Eq (visitDefinition env d) (visitDefinition env' d) := by
  cases d with
  | operation o =>
    exact (alikeSteps_visitOperation henv o).bind fun _ _ h => AlikeSteps.pure (congrArg _ h)
  | _ => exact (alikeSteps_gather _).bind fun _ _ _ => AlikeSteps.pure rfl

theorem alikeSteps_visitDocument (document : Document) :
    AlikeSteps Eq (visitDocument env document) (visitDocument env' document) := by
  obtain ⟨definitions⟩ := document
  have hdefinitions : AlikeSteps Eq (definitions.mapM (visitDefinition env))
      (definitions.mapM (visitDefinition env')) := by
    induction definitions with
    | nil => exact AlikeSteps.pure rfl
    | cons d ds ih =>
      rw [List.mapM_cons, List.mapM_cons]
      refine (alikeSteps_visitDefinition henv d).bind fun _ _ hd => ih.bind fun _ _ hds => ?_
      rw [hd, hds]
      exact AlikeSteps.pure rfl
  exact hdefinitions.bind fun _ _ h => AlikeSteps.pure (congrArg _ h)

/-- Transforming a text gives the same but for the token. -/
theorem alikeSteps_transform (text : String) :
    AlikeSteps Transformed.Alike (transform env text) (transform env' text) := by
  rw [transform, transform]
  cases Document.parse text with
  | error e => exact AlikeSteps.throw _
  | ok document =>
    refine (alikeSteps_visitDocument henv document).bind fun stripped _ hstripped =>
      alikeSteps_get.bind fun c c' hc => ?_
    rw [← hstripped, hc.freeVariables, hc.hasToken]
    exact (alikeSteps_report _).bind fun _ _ _ => AlikeSteps.pure ⟨rfl, rfl⟩

end

/-! ## Requests -/

/-- A value in which what is found under the given names, one inside the other, is replaced. -/
def Json.replace : Json → List String → Json → Json
  | _, [], value => value
  | .object members, name :: path, value =>
    .object (members.map fun m =>
      if m.1 = .ofString name then (m.1, m.2.replace path value) else m)
  | v, _ :: _, _ => v

/-- Where the access token of a document stands in the body of a request. -/
def accessTokenPath : List String := ["variables", "accessToken"]

/-- Requests that differ at most in the authorization and in the access token in the body, and in
the length of the body. -/
structure Request.Alike (r r' : Request) : Prop where
  address : r.address = r'.address
  headers : { r.headers with
    contentLength := r'.headers.contentLength, authorization := r'.headers.authorization }
      = r'.headers
  body : ∃ v v' : Json, r.body = v.encode ∧ r'.body = v'.encode ∧
    v.replace accessTokenPath .null = v'.replace accessTokenPath .null

/-- Settings that differ at most in the token, which is ASCII in both. -/
structure ServiceSettings.Alike (s s' : ServiceSettings) : Prop where
  others : { s with dashboardToken := s'.dashboardToken } = s'
  isAscii : ∀ c ∈ s.dashboardToken.toList, c.toNat < 0x80
  isAscii' : ∀ c ∈ s'.dashboardToken.toList, c.toNat < 0x80

/-- The value of a body without its token does not depend on the token. -/
theorem replace_requestValue {t t' : Transformed} (h : t.Alike t') (appId : String) :
    (requestValue appId t).replace accessTokenPath .null
      = (requestValue appId t').replace accessTokenPath .null := by
  obtain ⟨query, free, token⟩ := t
  obtain ⟨query', free', token'⟩ := t'
  obtain ⟨rfl, rfl⟩ := h
  simp [requestValue, accessTokenPath, Json.ofFields, Json.replace]

/-- Credentials in an address replace the authorization and nothing else. -/
theorem headers_forAddress (h : Headers) (u : Url) :
    ∃ authorization, h.forAddress u = { h with authorization } := by
  rw [Headers.forAddress]
  split
  · exact ⟨_, rfl⟩
  · exact ⟨h.authorization, rfl⟩

/-- With an ASCII token, whether a request can be made is a matter of its address alone. -/
theorem prepare_eq {s : ServiceSettings} (h : ∀ c ∈ s.dashboardToken.toList, c.toNat < 0x80)
    (t : Transformed) :
    Request.prepare s t = (readAddress s.endpoint >>= fun endpoint =>
      addressFor endpoint s.appId) >>= fun address =>
        .ok ⟨address, (s.headers (requestBody s.appId t)).forAddress address,
          requestBody s.appId t⟩ := by
  cases hread : readAddress s.endpoint with
  | error refusal =>
    rw [Request.prepare]
    exact bind_eq_of_error hread
  | ok endpoint =>
    rw [prepare_of_ascii hread h, bind_eq_of_ok rfl]
    cases addressFor endpoint s.appId <;> rfl

/-- Ends of making a request that are of the same kind. -/
def AlikeRequests : Except Refusal Request → Except Refusal Request → Prop
  | .ok r, .ok r' => r.Alike r'
  | .error e, .error e' => e = e'
  | _, _ => False

theorem AlikeRequests.cases {x x' : Except Refusal Request} (h : AlikeRequests x x') :
    (∃ r r', x = .ok r ∧ x' = .ok r' ∧ r.Alike r') ∨ ∃ e, x = .error e ∧ x' = .error e := by
  cases x with
  | ok r =>
    cases x' with
    | ok r' => exact Or.inl ⟨r, r', rfl, rfl, h⟩
    | error e' => exact h.elim
  | error e =>
    cases x' with
    | ok r' => exact h.elim
    | error e' =>
      obtain rfl : e = e' := h
      exact Or.inr ⟨e, rfl, rfl⟩

/-- Whether a request can be made does not depend on tokens, and it is the same but for them. -/
theorem alikeRequests_prepare {s s' : ServiceSettings} {t t' : Transformed} (hs : s.Alike s')
    (ht : t.Alike t') : AlikeRequests (Request.prepare s t) (Request.prepare s' t') := by
  obtain ⟨hothers, hascii, hascii'⟩ := hs
  have happId : s'.appId = s.appId := by rw [← hothers]
  have hendpoint : s'.endpoint = s.endpoint := by rw [← hothers]
  rw [prepare_eq hascii, prepare_eq hascii', happId, hendpoint]
  cases readAddress s.endpoint >>= fun endpoint => addressFor endpoint s.appId with
  | error e => exact rfl
  | ok address =>
    obtain ⟨authorization, h⟩ := headers_forAddress (s.headers (requestBody s.appId t)) address
    obtain ⟨authorization', h'⟩ := headers_forAddress (s'.headers (requestBody s.appId t')) address
    exact ⟨rfl, by rw [h, h']; rfl, _, _, rfl, rfl, replace_requestValue ht s.appId⟩

/-! ## Runs -/

/-- Settings as far as they can be had: alike, or missing for the same reason. -/
def AlikeSettings : Except RunError ServiceSettings → Except RunError ServiceSettings → Prop
  | .ok s, .ok s' => s.Alike s'
  | .error e, .error e' => e = e'
  | _, _ => False

/-- Runs that differ at most in the tokens of their requests. -/
structure Run.Alike (r r' : Run) : Prop where
  events : r.events = r'.events
  outcome : r.outcome = r'.outcome
  sent : r.requests.length = r'.requests.length
  requests : ∀ p ∈ r.requests.zip r'.requests, p.1.Alike p.2

/-- Runs that send nothing. -/
theorem Run.Alike.unsent {events events' : List Event} {outcome : Except RunError LooseText}
    (h : events = events') : Run.Alike ⟨[], events, outcome⟩ ⟨[], events', outcome⟩ :=
  ⟨h, rfl, rfl, fun _ hp => absurd hp List.not_mem_nil⟩

/-- What is reported about a request and what comes of it depends on its address alone. -/
theorem alike_send {r r' : Request} (h : r.Alike r') (w : World) (endpoint : String) :
    (r.send w endpoint).Alike (r'.send w endpoint) := by
  have hwatched : r.watched w = r'.watched w := by
    rw [Request.watched, Request.watched, h.address]
  have hpair : ∀ p ∈ [r].zip [r'], p.1.Alike p.2 := by
    intro p hp
    obtain rfl := List.mem_singleton.1 hp
    exact h
  rw [Request.send, Request.send]
  cases w.reply with
  | fault kind text =>
    rw [hwatched]
    exact ⟨rfl, rfl, rfl, hpair⟩
  | response status body =>
    have hreceive : r.receive w status body = r'.receive w status body := by
      rw [Request.receive, Request.receive, hwatched, h.address]
    dsimp only
    rw [hwatched, hreceive]
    exact ⟨rfl, rfl, rfl, hpair⟩

theorem alike_submit {s s' : ServiceSettings} {t t' : Transformed} (hs : s.Alike s')
    (ht : t.Alike t') (w : World) : (submit w s t).Alike (submit w s' t') := by
  have hendpoint : s.endpoint = s'.endpoint := by rw [← hs.others]
  rw [submit, submit, ← hendpoint]
  rcases (alikeRequests_prepare hs ht).cases with ⟨r, r', hr, hr', h⟩ | ⟨e, hr, hr'⟩
  · rw [hr, hr']
    exact alike_send h w s.endpoint
  · rw [hr, hr']
    exact Run.Alike.unsent rfl

/-- Submitting after reports that are the same. -/
theorem alike_submitAfter {s s' : ServiceSettings} {t t' : Transformed} (hs : s.Alike s')
    (ht : t.Alike t') (w : World) {events events' : List Event} (hevents : events = events') :
    (submitAfter w s t events).Alike (submitAfter w s' t' events') := by
  have hsubmit : (submit w s t).Alike (submit w s' t') := alike_submit hs ht w
  have hall : events ++ (submit w s t).events = events' ++ (submit w s' t').events := by
    rw [hevents, hsubmit.events]
  exact ⟨hall, hsubmit.outcome, hsubmit.sent, hsubmit.requests⟩

/-- Runs of which the environments give values to the same variables, and of which the settings
differ at most in an ASCII token, report the same and come to the same end. They send the same
number of requests, and these differ at most in the authorization, in the access token in the body,
and in the length of the body. -/
theorem alike_persist {env env' : Environment}
    {settings settings' : Except RunError ServiceSettings} (henv : env.Alike env')
    (hsettings : AlikeSettings settings settings') (w : World) (text : String) :
    (persist w env settings text).Alike (persist w env' settings' text) := by
  have hfresh : Collector.fresh.Alike .fresh := ⟨rfl, rfl, rfl⟩
  rw [persist, persist]
  rcases (alikeSteps_transform henv text .fresh .fresh hfresh).cases with
    ⟨t, t', c, c', hr, hr', ht, hc⟩ | ⟨e, c, c', hr, hr', hc⟩
  · rw [hr, hr']
    cases settings with
    | error e =>
      cases settings' with
      | error e' =>
        obtain rfl : e = e' := hsettings
        exact Run.Alike.unsent hc.events
      | ok s' => exact hsettings.elim
    | ok s =>
      cases settings' with
      | error e' => exact hsettings.elim
      | ok s' => exact alike_submitAfter hsettings ht w hc.events
  · rw [hr, hr']
    exact Run.Alike.unsent hc.events

/-- Two tokens in the environment and two in the settings, of different lengths. -/
theorem alike_persist_two_tokens :
    (persist ⟨"1", "12:00", fun _ => 0, 1000, .fault .readTimeout "late"⟩
        (fun v => if v = "T" then some "first" else none)
        (.ok ⟨"app", "mine", "h", "/", none, "https://h/"⟩)
        "query A @persistedQueryConfiguration(accessToken: \x7benvironmentVariable: T\x7d)
        \x7ba\x7d").Alike
      (persist ⟨"1", "12:00", fun _ => 0, 1000, .fault .readTimeout "late"⟩
        (fun v => if v = "T" then some "second" else none)
        (.ok ⟨"app", "yours", "h", "/", none, "https://h/"⟩)
        "query A @persistedQueryConfiguration(accessToken: \x7benvironmentVariable: T\x7d)
        \x7ba\x7d") := by
  refine alike_persist (fun varName => ?_) ?_ _ _
  · by_cases h : varName = "T" <;> simp [h]
  · exact ServiceSettings.Alike.mk rfl (by simp) (by simp)

end PersistedDocument
