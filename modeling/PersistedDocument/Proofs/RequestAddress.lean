import PersistedDocument.Proofs.FormEncoding
import PersistedDocument.Proofs.Submission

/-!
# Proofs: the addresses of requests

The application on whose behalf a document is submitted shows nowhere in the address of the request
but in its query, which takes the place of any query of the endpoint. An address takes a query as a
whole and normalizes each part for itself, so requests for two applications go to the same place.
The query says which application it is, as the body of the request does.
-/

namespace PersistedDocument

/-! ## Addresses with another query -/

namespace Url

/-- The query of the parts decides the query of an address and nothing else of it. -/
theorem ofParts?_with_query (p : Parts) (query : Option (List Char)) :
    ofParts? { p with query }
      = (ofParts? { p with query := none }).map fun u =>
        { u with query := query.map (Percent.encode isKeptInQuery) } := by
  simp only [ofParts?, Option.bind_eq_bind, Option.map_bind, Function.comp_def, Option.pure_def,
    Option.map_some]

/-- An address put together anew without its query. -/
def withoutQuery? (u : Url) : Option Url := recompose? { u.parts with query := none }

theorem withQuery?_eq (u : Url) (query : List Char) :
    u.withQuery? query
      = if isAdmissible query then
          u.withoutQuery?.map fun v => { v with query := some (Percent.encode isKeptInQuery query) }
        else none := by
  have hparts := ofParts?_with_query u.parts (some query)
  rw [withQuery?, withoutQuery?, recompose?, recompose?, hparts]
  cases hadmissible : isAdmissible query with
  | false => simp [hadmissible]
  | true =>
    simp only [Option.all_some, Option.all_none, hadmissible, Bool.and_true, if_true]
    split <;> rfl

/-- Only its length keeps a query out of an address if nothing in it needs an escape. -/
theorem isAdmissible_iff_of_kept {query : List Char} (h : ∀ c ∈ query, isKeptInQuery c = true) :
    isAdmissible query = true ↔ query.length ≤ maximalLength := by
  have hplain : (query.all fun c => ' ' ≤ c && c ≠ '\x7f') = true := by
    refine List.all_eq_true.2 fun c hc => ?_
    have hkept := h c hc
    simp only [isKeptInQuery, printableBut, Bool.and_eq_true, decide_eq_true_eq] at hkept
    have hne : c ≠ '\x7f' := by
      rintro rfl
      exact absurd hkept.1.2 (by decide)
    rw [decide_eq_true hkept.1.1, decide_eq_true hne]
    rfl
  rw [isAdmissible, hplain, Bool.and_true, decide_eq_true_eq]

/-- A query in which nothing needs an escape is taken as it is, if it is not too long. -/
theorem withQuery?_of_kept {query : List Char} (h : ∀ c ∈ query, isKeptInQuery c = true)
    (u : Url) :
    u.withQuery? query
      = if query.length ≤ maximalLength then
          u.withoutQuery?.map fun v => { v with query := some query }
        else none := by
  simp only [withQuery?_eq, isAdmissible_iff_of_kept h, Percent.encode_of_kept h]

/-- Addresses that differ in their queries are written differently. -/
theorem text_with_query_injective {u : Url} {query query' : List Char}
    (h : { u with query := some query }.text = { u with query := some query' }.text) :
    query = query' := by
  have hquery : '?' :: query = '?' :: query' :=
    List.append_cancel_left (List.append_cancel_right h)
  exact (List.cons.inj hquery).2

end Url

/-! ## The query of an application -/

theorem applicationQuery_kept (appId : String) :
    ∀ c ∈ applicationQuery appId, Url.isKeptInQuery c = true := by
  have hname : ∀ c ∈ "app_id=".toList, Url.isKeptInQuery c = true := by
    simp [Url.isKeptInQuery, Url.printableBut, String.contains_char_eq]
  intro c hc
  rcases List.mem_append.1 hc with hc | hc
  · exact hname c hc
  · exact Url.isKeptInQuery_of_isFormCharacter (Percent.isFormCharacter_of_mem_formEncode hc)

theorem applicationQuery_injective {appId appId' : String}
    (h : applicationQuery appId = applicationQuery appId') : appId = appId' :=
  Percent.formEncode_injective (List.append_cancel_left h)

/-- Requests go to the endpoint with the query of the application in place of its own. -/
theorem ServiceSettings.addresses_iff {s : ServiceSettings} {u : Url} :
    s.Addresses u ↔ (applicationQuery s.appId).length ≤ Url.maximalLength
      ∧ ∃ endpoint v, readAddress s.endpoint = .ok endpoint ∧ endpoint.withoutQuery? = some v
        ∧ u = { v with query := some (applicationQuery s.appId) } := by
  simp only [Addresses, Url.withQuery?_of_kept (applicationQuery_kept s.appId)]
  constructor
  · rintro ⟨endpoint, hendpoint, hquery⟩
    split at hquery
    · next hlength =>
      obtain ⟨v, hv, rfl⟩ := Option.map_eq_some_iff.1 hquery
      exact ⟨hlength, endpoint, v, hendpoint, hv, rfl⟩
    · cases hquery
  · rintro ⟨hlength, endpoint, v, hendpoint, hv, rfl⟩
    refine ⟨endpoint, hendpoint, ?_⟩
    rw [if_pos hlength, hv]
    rfl

/-- The address for one application says what those for all others at the same endpoint are. -/
theorem addresses_other_iff {s s' : ServiceSettings} {u u' : Url} (hu : s.Addresses u)
    (hendpoint : s'.endpoint = s.endpoint) :
    s'.Addresses u' ↔ (applicationQuery s'.appId).length ≤ Url.maximalLength
      ∧ u' = { u with query := some (applicationQuery s'.appId) } := by
  obtain ⟨-, endpoint, v, hread, hv, rfl⟩ := ServiceSettings.addresses_iff.1 hu
  rw [ServiceSettings.addresses_iff, hendpoint]
  refine and_congr_right fun _ => ⟨?_, fun hu' => ⟨endpoint, v, hread, hv, hu'⟩⟩
  rintro ⟨endpoint', v', hread', hv', rfl⟩
  obtain rfl := Except.ok.inj (hread.symm.trans hread')
  obtain rfl := Option.some.inj (hv.symm.trans hv')
  rfl

/-! ## Requests that are sent -/

section

variable {w : World} {s : ServiceSettings} {t : Transformed} {r : Request}

theorem requests_send (r : Request) (w : World) (endpoint : String) :
    (r.send w endpoint).requests = [r] := by
  unfold Request.send
  split <;> rfl

theorem requests_submit_iff : (submit w s t).requests = [r] ↔ Request.prepare s t = .ok r := by
  rw [submit]
  cases Request.prepare s t with
  | error refusal => simp
  | ok r' => simp [requests_send]

theorem mem_requests_submit_iff : r ∈ (submit w s t).requests ↔ Request.prepare s t = .ok r := by
  rw [submit]
  cases Request.prepare s t with
  | error refusal => simp
  | ok r' => simp [requests_send, eq_comm]

/-- The query that is reported with a response is that of the request. -/
theorem query_of_completed {endpoint : String} {c : Completion}
    (h : .requestCompleted c ∈ (r.send w endpoint).events) :
    c.query = String.ofList r.address.requestQuery := by
  have hstarted {x : Watched} : Event.requestCompleted c ≠ x.startEvent w.rid := nofun
  cases hreply : w.reply with
  | fault kind reason =>
    rw [send_of_fault endpoint hreply] at h
    exact absurd (List.mem_singleton.1 h) hstarted
  | response status body =>
    by_cases habsolute : r.address.isAbsolute = true
    · rw [send_of_absolute endpoint hreply habsolute] at h
      rcases List.mem_cons.1 h with h | h
      · exact absurd h hstarted
      rcases List.mem_cons.1 h with h | h
      · rw [Event.requestCompleted.inj h]
        rfl
      · cases hjudged : judge w.room status body with
        | ok id =>
          rw [hjudged] at h
          cases List.mem_singleton.1 h
        | error e =>
          rw [hjudged] at h
          exact absurd h List.not_mem_nil
    · rw [send_of_not_absolute endpoint hreply habsolute] at h
      exact absurd (List.mem_singleton.1 h) hstarted

/-- The body of a request names the application. -/
theorem appId_of_requestValue (appId : String) (t : Transformed) :
    ∃ named, (requestValue appId t).member? "variables" = some named
      ∧ named.member? "appId" = some (.text appId) :=
  ⟨_, Json.member?_ofFields _ _, Json.member?_ofFields _ _⟩

/-- The application of a request cannot change where it goes. The query of its address consists of
the name of a parameter and a value, written in letters and digits of ASCII and marks that part
nothing, which stands for the application; the body says the same, and so does what is reported when
a response is there. Requests for other applications to the same endpoint have addresses that differ
from it in the query and in nothing else, and they are made unless the query is too long. -/
theorem application_shows_in_query (hr : r ∈ (submit w s t).requests) :
    (∃ written, r.address.query = some ("app_id=".toList ++ written)
      ∧ (∀ c ∈ written, c.isAlphanum = true ∨ c ∈ ['-', '.', '_', '~', '+', '%'])
      ∧ Percent.formDecode? written = some s.appId
      ∧ ∀ c, .requestCompleted c ∈ (submit w s t).events →
        c.query.toList = "app_id=".toList ++ written) ∧
    (∃ value named,
      (∀ room, 3 ≤ room → Json.readOctets room (Utf8.encode r.body) = .ok value)
      ∧ value.member? "variables" = some named
      ∧ named.member? "appId" = some (.text s.appId)) ∧
    ∀ w' s' t', s'.endpoint = s.endpoint →
      (∀ r' ∈ (submit w' s' t').requests,
        r'.address = { r.address with query := r'.address.query }
          ∧ (s'.appId ≠ s.appId → r'.address.query ≠ r.address.query
            ∧ r'.addressText ≠ r.addressText)) ∧
      (s'.HasAsciiToken → ((∃ r', (submit w' s' t').requests = [r'])
        ↔ (applicationQuery s'.appId).length ≤ Url.maximalLength)) := by
  have hprepare := mem_requests_submit_iff.1 hr
  obtain ⟨u, hu, htoken, hhost, rfl⟩ := prepare_eq_ok_iff.1 hprepare
  obtain ⟨-, endpoint, v, -, -, rfl⟩ := ServiceSettings.addresses_iff.1 hu
  obtain ⟨named, hnamed, happId⟩ := appId_of_requestValue s.appId t
  -- What another request needs of the endpoint and of its host is known from this one.
  refine ⟨⟨Percent.formEncode s.appId.toList, rfl,
    fun c => Percent.isFormCharacter_of_mem_formEncode, Percent.formDecode?_formEncode s.appId,
    fun c hc => ?_⟩, ⟨_, named, fun _ => readOctets_requestBody s.appId t, hnamed, happId⟩,
    fun w' s' t' hendpoint => ⟨fun r' hr' => ?_, fun htoken' => ⟨?_, fun hlength => ?_⟩⟩⟩
  · rw [submit_of_prepare hprepare] at hc
    rw [query_of_completed hc, String.toList_ofList]
    rfl
  · obtain ⟨u', hu', -, -, rfl⟩ := prepare_eq_ok_iff.1 (mem_requests_submit_iff.1 hr')
    obtain ⟨-, rfl⟩ := (addresses_other_iff hu hendpoint).1 hu'
    refine ⟨rfl, fun hne => ⟨fun hquery => ?_, fun htext => ?_⟩⟩
    · exact hne (applicationQuery_injective (Option.some.inj hquery))
    · have hquery := Url.text_with_query_injective (String.ofList_injective htext)
      exact hne (applicationQuery_injective hquery)
  · rintro ⟨r', hr'⟩
    obtain ⟨u', hu', -, -, -⟩ := prepare_eq_ok_iff.1 (requests_submit_iff.1 hr')
    exact ((addresses_other_iff hu hendpoint).1 hu').1
  · have hu' := (addresses_other_iff hu hendpoint).2 ⟨hlength, rfl⟩
    exact ⟨_, requests_submit_iff.2 (prepare_of_addresses hu' htoken' hhost)⟩

end

/-- Settings of which the application and the endpoint hold the marks of addresses. -/
def markSettings : ServiceSettings :=
  ⟨"a&b=c#d %41é", "tok", "h", "/p", none, "https://u@h/p?x=1#f"⟩

/-- The address of that endpoint with a query. -/
def markAddress (query : String) : Url :=
  ⟨"https".toList, "u".toList, "h".toList, none, "/p".toList, some query.toList, some "f".toList⟩

theorem addresses_markSettings :
    markSettings.Addresses (markAddress "app_id=a%26b%3Dc%23d+%2541%C3%A9") := by
  have hquery : applicationQuery markSettings.appId
      = "app_id=a%26b%3Dc%23d+%2541%C3%A9".toList := rfl
  refine ⟨markAddress "x=1", by cbv, ?_⟩
  rw [hquery]
  cbv

/-- The marks of addresses in the name of an application stay in the query. -/
theorem application_shows_in_query_marks :
    (submit ⟨"1", "12:00", fun _ => 0, 1000, .response 200 []⟩ markSettings
        ⟨"\x7ba\x7d", .ofList [], none⟩).requests
      = [requestTo markSettings ⟨"\x7ba\x7d", .ofList [], none⟩
          (markAddress "app_id=a%26b%3Dc%23d+%2541%C3%A9")]
      ∧ Percent.formDecode? "a%26b%3Dc%23d+%2541%C3%A9".toList = some "a&b=c#d %41é" := by
  have hascii : markSettings.HasAsciiToken := by
    show ∀ c ∈ "tok".toList, c.toNat < 0x80
    simp
  have hsent : (submit ⟨"1", "12:00", fun _ => 0, 1000, .response 200 []⟩ markSettings
      ⟨"\x7ba\x7d", .ofList [], none⟩).requests
      = [requestTo markSettings ⟨"\x7ba\x7d", .ofList [], none⟩
          (markAddress "app_id=a%26b%3Dc%23d+%2541%C3%A9")] :=
    requests_submit_iff.2 (prepare_of_addresses addresses_markSettings hascii rfl)
  obtain ⟨⟨written, hquery, -, hdecode, -⟩, -, -⟩ :=
    application_shows_in_query (hsent ▸ List.mem_singleton_self _)
  have hwritten : "app_id=".toList ++ "a%26b%3Dc%23d+%2541%C3%A9".toList
      = "app_id=".toList ++ written := Option.some.inj hquery
  obtain rfl := List.append_cancel_left hwritten
  exact ⟨hsent, hdecode⟩

end PersistedDocument
