import PersistedDocument.Proofs.Judgement
import PersistedDocument.Proofs.RequestBody
import PersistedDocument.Proofs.Requests
import PersistedDocument.Submission.Run

/-!
# Proofs: submitting once

`Course` lists the ways in which a run can go, from a text that is no document up to a response that
is judged, each with what stands in the way. A run goes in exactly one of them, so what holds of
all ways holds of every run: a second request is sent in none.
-/

namespace PersistedDocument

/-- How a run goes, by the first thing that stands in the way of an id: a text that cannot be made
ready, settings that are missing or admit no request, a fault, a response from an address that is
not absolute, or what the response is judged to be. -/
inductive Course (w : World) (env : Environment) (settings : Except RunError ServiceSettings)
    (text : String) : Run → Prop
  | untransformed {f : Failure} {c : Collector} (ht : transform env text .fresh = .error f c) :
    Course w env settings text ⟨[], c.events, .error (.failure f)⟩
  | unsettled {t : Transformed} {c : Collector} {e : RunError}
    (ht : transform env text .fresh = .ok t c) (hs : settings = .error e) :
    Course w env settings text ⟨[], c.events, .error e⟩
  | refused {t : Transformed} {c : Collector} {s : ServiceSettings} {refusal : Refusal}
    (ht : transform env text .fresh = .ok t c) (hs : settings = .ok s)
    (hrefuses : s.Refuses refusal) :
    Course w env settings text ⟨[], c.events, .error (.refused refusal)⟩
  | faulted {t : Transformed} {c : Collector} {s : ServiceSettings} {r : Request} {kind : Fault}
    {reason : String} (ht : transform env text .fresh = .ok t c) (hs : settings = .ok s)
    (hr : Request.prepare s t = .ok r) (hreply : w.reply = .fault kind reason) :
    Course w env settings text
      ⟨[r], c.events ++ [(r.watched w).startEvent w.rid],
        .error (faultError s.endpoint kind reason)⟩
  | unattributable {t : Transformed} {c : Collector} {s : ServiceSettings} {r : Request}
    {status : Int} {body : Octets} (ht : transform env text .fresh = .ok t c)
    (hs : settings = .ok s) (hr : Request.prepare s t = .ok r)
    (hreply : w.reply = .response status body) (habsolute : ¬r.address.isAbsolute = true) :
    Course w env settings text
      ⟨[r], c.events ++ [(r.watched w).startEvent w.rid], .error .unattributableResponse⟩
  | judged {t : Transformed} {c : Collector} {s : ServiceSettings} {r : Request} {status : Int}
    {body : Octets} (ht : transform env text .fresh = .ok t c) (hs : settings = .ok s)
    (hr : Request.prepare s t = .ok r) (hreply : w.reply = .response status body)
    (habsolute : r.address.isAbsolute = true) :
    Course w env settings text
      ⟨[r], c.events ++ (r.watched w).startEvent w.rid
          :: (r.watched w).completionEvent w.time status (w.clock 1) (w.clock 2)
          :: judgementEvents (judge w.room status body),
        judge w.room status body⟩

section

variable {w : World} {env : Environment} {settings : Except RunError ServiceSettings}
  {text : String}

/-! ## Every run goes in one way -/

theorem send_of_fault {r : Request} {kind : Fault} {reason : String} (endpoint : String)
    (hreply : w.reply = .fault kind reason) :
    r.send w endpoint
      = ⟨[r], [(r.watched w).startEvent w.rid], .error (faultError endpoint kind reason)⟩ := by
  rw [Request.send, hreply]

theorem send_of_not_absolute {r : Request} {status : Int} {body : Octets} (endpoint : String)
    (hreply : w.reply = .response status body) (habsolute : ¬r.address.isAbsolute = true) :
    r.send w endpoint
      = ⟨[r], [(r.watched w).startEvent w.rid], .error .unattributableResponse⟩ := by
  simp only [Request.send, hreply, Request.receive, if_neg habsolute]

theorem send_of_absolute {r : Request} {status : Int} {body : Octets} (endpoint : String)
    (hreply : w.reply = .response status body) (habsolute : r.address.isAbsolute = true) :
    r.send w endpoint
      = ⟨[r], (r.watched w).startEvent w.rid
          :: (r.watched w).completionEvent w.time status (w.clock 1) (w.clock 2)
          :: judgementEvents (judge w.room status body),
        judge w.room status body⟩ := by
  simp only [Request.send, hreply, Request.receive, if_pos habsolute]

theorem persist_of_transform {t : Transformed} {c : Collector} {s : ServiceSettings}
    (ht : transform env text .fresh = .ok t c) (hs : settings = .ok s) :
    persist w env settings text = submitAfter w s t c.events := by
  rw [persist, ht, hs]

theorem submit_of_prepare {s : ServiceSettings} {t : Transformed} {r : Request}
    (hr : Request.prepare s t = .ok r) : submit w s t = r.send w s.endpoint := by
  rw [submit, hr]

/-- What a way says of a run is what the run is. -/
theorem Course.eq_persist {run : Run} (h : Course w env settings text run) :
    persist w env settings text = run := by
  cases h with
  | untransformed ht => rw [persist, ht]
  | unsettled ht hs => rw [persist, ht, hs]
  | refused ht hs hrefuses =>
    rw [persist_of_transform ht hs, submitAfter, submit, prepare_of_refuses hrefuses]
    simp only [List.append_nil]
  | faulted ht hs hr hreply =>
    rw [persist_of_transform ht hs, submitAfter, submit_of_prepare hr, send_of_fault _ hreply]
  | unattributable ht hs hr hreply habsolute =>
    rw [persist_of_transform ht hs, submitAfter, submit_of_prepare hr,
      send_of_not_absolute _ hreply habsolute]
  | judged ht hs hr hreply habsolute =>
    rw [persist_of_transform ht hs, submitAfter, submit_of_prepare hr,
      send_of_absolute _ hreply habsolute]

variable (w env settings text)

theorem exists_course : ∃ run, Course w env settings text run := by
  -- The stages are met in this order: the text, the settings, the request, the reply.
  cases ht : transform env text .fresh with
  | error f c => exact ⟨_, .untransformed ht⟩
  | ok t c =>
    cases hs : settings with
    | error e => exact ⟨_, .unsettled ht rfl⟩
    | ok s =>
      cases hr : Request.prepare s t with
      | error refusal => exact ⟨_, .refused ht rfl (prepare_eq_error_iff.1 hr)⟩
      | ok r =>
        cases hreply : w.reply with
        | fault kind reason => exact ⟨_, .faulted ht rfl hr hreply⟩
        | response status body =>
          by_cases habsolute : r.address.isAbsolute = true
          · exact ⟨_, .judged ht rfl hr hreply habsolute⟩
          · exact ⟨_, .unattributable ht rfl hr hreply habsolute⟩

theorem course_persist : Course w env settings text (persist w env settings text) := by
  obtain ⟨run, hcourse⟩ := exists_course w env settings text
  rwa [hcourse.eq_persist]

variable {w env settings text}

/-! ## Requests -/

/-- No run sends more than one request. -/
theorem Course.length_requests {run : Run} (h : Course w env settings text run) :
    run.requests.length ≤ 1 := by
  cases h with
  | untransformed | unsettled | refused => exact Nat.zero_le 1
  | faulted | unattributable | judged => exact Nat.le_refl 1

/-- The request of a run is the one that the settings give for the document. -/
theorem Course.of_mem_requests {run : Run} {r : Request} (h : Course w env settings text run)
    (hr : r ∈ run.requests) :
    ∃ t c s, transform env text .fresh = .ok t c ∧ settings = .ok s
      ∧ Request.prepare s t = .ok r := by
  cases h with
  | untransformed | unsettled | refused => exact absurd hr List.not_mem_nil
  | faulted ht hs hprepare | unattributable ht hs hprepare | judged ht hs hprepare =>
    rw [List.mem_singleton.1 hr]
    exact ⟨_, _, _, ht, hs, hprepare⟩

/-- An id comes from a response to the one request of a run. -/
theorem Course.of_outcome_ok {run : Run} {id : LooseText} (h : Course w env settings text run)
    (hid : run.outcome = .ok id) :
    ∃ t c s r status body, transform env text .fresh = .ok t c ∧ settings = .ok s
      ∧ Request.prepare s t = .ok r ∧ run.requests = [r] ∧ w.reply = .response status body
      ∧ r.address.isAbsolute = true ∧ judge w.room status body = .ok id := by
  cases h with
  | untransformed | unsettled | refused | unattributable => cases hid
  | faulted =>
    rw [faultError] at hid
    split at hid <;> cases hid
  | judged ht hs hr hreply habsolute =>
    exact ⟨_, _, _, _, _, _, ht, hs, hr, rfl, hreply, habsolute, hid⟩

end

/-- A request submits a document as settings say. -/
structure Request.Submits (r : Request) (s : ServiceSettings) (t : Transformed) : Prop where
  post : Request.method = "POST"
  address : s.Addresses r.address
  contentType : r.headers.contentType = "application/json"
  authorization : s.HasNoUserInfo → r.headers.authorization = "Bearer " ++ s.dashboardToken
  body : r.body = requestBody s.appId t
  content (room : Nat) (hroom : 3 ≤ room) :
    Json.readOctets room (Utf8.encode r.body) = .ok (requestValue s.appId t)

theorem submits_requestTo {s : ServiceSettings} {u : Url} (hu : s.Addresses u) (t : Transformed) :
    (requestTo s t u).Submits s t where
  post := rfl
  address := hu
  contentType := by
    show ((s.headers (requestBody s.appId t)).forAddress u).contentType = "application/json"
    rw [Headers.forAddress]
    split <;> rfl
  authorization hnone := by
    rw [headers_requestTo hnone hu]
    rfl
  body := rfl
  content _ := readOctets_requestBody s.appId t

section

variable {w : World} {env : Environment} {settings : Except RunError ServiceSettings}
  {text : String} {t : Transformed} {c : Collector} {s : ServiceSettings} {r : Request}

/-- A request that can be made is sent, and the reply decides what comes of it. -/
theorem persist_of_prepare (ht : transform env text .fresh = .ok t c) (hs : settings = .ok s)
    (hr : Request.prepare s t = .ok r) :
    (persist w env settings text).requests = [r]
      ∧ (∀ kind reason, w.reply = .fault kind reason →
        (persist w env settings text).outcome = .error (faultError s.endpoint kind reason))
      ∧ ∀ status body, w.reply = .response status body →
        (persist w env settings text).outcome
          = if r.address.isAbsolute then judge w.room status body
            else .error .unattributableResponse := by
  cases hreply : w.reply with
  | fault kind reason =>
    rw [(Course.faulted ht hs hr hreply).eq_persist]
    refine ⟨rfl, ?_, nofun⟩
    rintro _ _ ⟨⟩
    rfl
  | response status body =>
    by_cases habsolute : r.address.isAbsolute = true
    · rw [(Course.judged ht hs hr hreply habsolute).eq_persist]
      refine ⟨rfl, nofun, ?_⟩
      rintro _ _ ⟨⟩
      rw [if_pos habsolute]
    · rw [(Course.unattributable ht hs hr hreply habsolute).eq_persist]
      refine ⟨rfl, nofun, ?_⟩
      rintro _ _ ⟨⟩
      rw [if_neg habsolute]

end

/-- A run sends at most one request. It sends none if the text cannot be made ready, which is what
counts whatever the settings are, nor without settings, nor if something stands in the way of
requests. Otherwise it sends one, which holds all that there is to submit. A fault in reaching the
service is a network failure and any other fault is passed on, and a response is judged if its
address is absolute. -/
theorem persist_sends_once (w : World) (env : Environment)
    (settings : Except RunError ServiceSettings) (text : String) :
    ∃ run, persist w env settings text = run ∧ run.requests.length ≤ 1 ∧
      (∀ f c, transform env text .fresh = .error f c →
        run.requests = [] ∧ run.outcome = .error (.failure f)) ∧
      ∀ t c, transform env text .fresh = .ok t c →
        (∀ e, settings = .error e → run.requests = [] ∧ run.outcome = .error e) ∧
        ∀ s, settings = .ok s →
          (∀ refusal, s.Refuses refusal →
            run.requests = [] ∧ run.outcome = .error (.refused refusal)) ∧
          ((¬∃ refusal, s.Refuses refusal) →
            ∃ r, run.requests = [r] ∧ r.Submits s t ∧
              (∀ kind reason, w.reply = .fault kind reason →
                (kind.isTransport = true → run.outcome = .error (.failure (.network
                  ("Could not reach " ++ s.endpoint ++ ": " ++ kind.name ++ ": " ++ reason)
                  (some kind.name)))) ∧
                (kind.isTransport = false → run.outcome = .error (.fault kind))) ∧
              ∀ status body, w.reply = .response status body →
                (r.address.isAbsolute = true → run.outcome = judge w.room status body) ∧
                (r.address.isAbsolute = false →
                  run.outcome = .error .unattributableResponse)) := by
  refine ⟨_, rfl, (course_persist w env settings text).length_requests, fun f c ht => ?_,
    fun t c ht => ⟨fun e hs => ?_, fun s hs => ⟨fun refusal hrefuses => ?_, fun hnone => ?_⟩⟩⟩
  · rw [(Course.untransformed ht).eq_persist]
    exact ⟨rfl, rfl⟩
  · rw [(Course.unsettled ht hs).eq_persist]
    exact ⟨rfl, rfl⟩
  · rw [(Course.refused ht hs hrefuses).eq_persist]
    exact ⟨rfl, rfl⟩
  · rcases s.refuses_or_addresses with hrefuses | ⟨u, hu, hascii, hhost⟩
    · exact absurd hrefuses hnone
    obtain ⟨hrequests, hfault, hresponse⟩ :=
      @persist_of_prepare w _ _ _ _ _ _ _ ht hs (prepare_of_addresses hu hascii hhost)
    refine ⟨requestTo s t u, hrequests, submits_requestTo hu t, fun kind reason hreply => ?_,
      fun status body hreply => ?_⟩
    · rw [hfault kind reason hreply, faultError]
      exact ⟨fun htransport => by rw [if_pos htransport],
        fun htransport => by rw [htransport, if_neg Bool.false_ne_true]⟩
    · rw [hresponse status body hreply]
      exact ⟨fun habsolute => if_pos habsolute,
        fun habsolute => if_neg (Bool.eq_false_iff.1 habsolute)⟩

/-- Settings of which the endpoint is a path, and no absolute address. -/
def pathSettings : ServiceSettings :=
  ⟨"app-id", "tok", "serve.onegraph.com", "/graphql", none, "serve.onegraph.com/graphql"⟩

/-- The address of requests if the endpoint is a path. -/
def pathAddress (query : Option String) : Url :=
  ⟨[], [], [], none, "/serve.onegraph.com/graphql".toList, query.map String.toList, none⟩

theorem addresses_pathSettings :
    pathSettings.Addresses (pathAddress (some "app_id=app-id")) := by
  have hquery : applicationQuery pathSettings.appId = "app_id=app-id".toList := rfl
  refine ⟨pathAddress none, by cbv, ?_⟩
  rw [hquery]
  cbv

theorem prepare_pathSettings (t : Transformed) :
    Request.prepare pathSettings t
      = .ok (requestTo pathSettings t (pathAddress (some "app_id=app-id"))) := by
  have hascii : pathSettings.HasAsciiToken := by
    show ∀ c ∈ "tok".toList, c.toNat < 0x80
    simp
  exact prepare_of_addresses addresses_pathSettings hascii rfl

section

set_option maxRecDepth 2048

/-- A document that asks for one field is made ready in every environment. -/
theorem exists_transform_field (env : Environment) :
    ∃ t c, transform env "\x7ba\x7d" .fresh = .ok t c := by
  have hparse : GraphQL.Document.parse "\x7ba\x7d"
      = .ok ⟨[.operation ⟨none, .query, none, [], [], [.field none "a" [] [] []]⟩]⟩ := by
    cbv
  rw [transform, hparse]
  exact ⟨_, _, rfl⟩

/-- A response to a request that was sent need not be judged. -/
theorem not_forall_outcome_judged :
    ¬∀ (w : World) (env : Environment) (settings : Except RunError ServiceSettings) (text : String)
      (r : Request) (status : Int) (body : Octets),
      (persist w env settings text).requests = [r] → w.reply = .response status body →
      (persist w env settings text).outcome = judge w.room status body := by
  intro h
  obtain ⟨t, c, ht⟩ := exists_transform_field fun _ => none
  obtain ⟨hsent, -, hresponse⟩ := @persist_of_prepare
    ⟨"1", "12:00", fun _ => 0, 1000, .response 500 (Utf8.encode "oops")⟩ _ _ _ _ _ _ _ ht rfl
    (prepare_pathSettings t)
  have hjudged := h _ _ _ _ _ _ _ hsent rfl
  rw [hresponse _ _ rfl] at hjudged
  have hnotid : judge 1000 500 (Utf8.encode "oops") ≠ .error .unattributableResponse := by
    rcases judge_cases 1000 500 (Utf8.encode "oops") with
      ⟨_, h⟩ | ⟨_, h⟩ | ⟨_, h⟩ | ⟨-, h⟩ | ⟨-, h⟩
    all_goals
      rw [h]
      nofun
  exact hnotid hjudged.symm

end

end PersistedDocument
