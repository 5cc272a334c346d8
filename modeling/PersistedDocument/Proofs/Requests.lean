import PersistedDocument.Proofs.Fallible
import PersistedDocument.Proofs.UserInfo
import PersistedDocument.Submission.Request

/-!
# Proofs: making requests

Whether a request can be made is decided by the settings alone, and nothing in the document to
submit matters for it. `Refuses` lists what stands in the way, in the order in which it is met. If
nothing does, the request goes to the endpoint with the application in its query.
-/

namespace PersistedDocument

/-! ## What settings say -/

namespace ServiceSettings

variable {s : ServiceSettings}

/-- The token can stand in a header. -/
def HasAsciiToken (s : ServiceSettings) : Prop := ∀ c ∈ s.dashboardToken.toList, c.toNat < 0x80

/-- The endpoint does not say who asks. -/
def HasNoUserInfo (s : ServiceSettings) : Prop :=
  ∀ u, Url.read? s.endpoint.toList = some u → u.userInfo = []

/-- Requests go to an address: to the endpoint with the application in its query. -/
def Addresses (s : ServiceSettings) (u : Url) : Prop :=
  ∃ endpoint, readAddress s.endpoint = .ok endpoint ∧
    endpoint.withQuery? (applicationQuery s.appId) = some u

/-- What stands in the way of requests: an endpoint that is no address or is none with the query, or
a token or host that cannot stand in a header. The token is looked at before the query. -/
inductive Refuses (s : ServiceSettings) : Refusal → Prop
  | endpoint (h : ∀ endpoint, readAddress s.endpoint ≠ .ok endpoint) : Refuses s .invalidAddress
  | token {endpoint : Url} (he : readAddress s.endpoint = .ok endpoint) (h : ¬s.HasAsciiToken) :
    Refuses s .unencodableHeader
  | query {endpoint : Url} (he : readAddress s.endpoint = .ok endpoint) (ht : s.HasAsciiToken)
    (h : endpoint.withQuery? (applicationQuery s.appId) = none) : Refuses s .invalidAddress
  | host {u : Url} (hu : s.Addresses u) (ht : s.HasAsciiToken) (h : u.hasAsciiHost = false) :
    Refuses s .unencodableHeader

theorem any_authorization_iff (body : String) :
    (s.headers body).authorization.toList.any (fun c => 0x80 ≤ c.toNat) = true
      ↔ ¬s.HasAsciiToken := by
  have hbearer : ∀ c ∈ "Bearer ".toList, c.toNat < 0x80 := by simp
  rw [headers, String.toList_append, List.any_eq_true]
  constructor
  · rintro ⟨c, hc, hlarge⟩ hascii
    have hsmall := (List.mem_append.1 hc).elim (hbearer c) (hascii c)
    exact absurd (of_decide_eq_true hlarge) (Nat.not_le.2 hsmall)
  · intro h
    obtain ⟨c, hc, hlarge⟩ : ∃ c ∈ s.dashboardToken.toList, ¬c.toNat < 0x80 := by
      simpa only [HasAsciiToken, Classical.not_forall, exists_prop] using h
    exact ⟨c, List.mem_append_right _ hc, decide_eq_true (Nat.not_lt.1 hlarge)⟩

/-- Requests of settings of which the endpoint does not say who asks do not say so either. -/
theorem HasNoUserInfo.of_addresses {u : Url} (h : s.HasNoUserInfo) (hu : s.Addresses u) :
    u.userInfo = [] := by
  obtain ⟨endpoint, hendpoint, hquery⟩ := hu
  rw [readAddress] at hendpoint
  split at hendpoint
  · next v hv =>
    obtain rfl := Except.ok.inj hendpoint
    obtain ⟨written, hread, htarget⟩ := Option.bind_eq_some_iff.1 hv
    obtain ⟨hhost, hnone⟩ := Url.of_target? (Url.hasPlainHost_of_read? hread) htarget
    exact Url.userInfo_of_withQuery? hhost (hnone (h written hread)) hquery
  · cases hendpoint

end ServiceSettings

/-! ## Requests -/

section

variable {s : ServiceSettings} {t : Transformed}

/-- The request to an address. -/
def requestTo (s : ServiceSettings) (t : Transformed) (u : Url) : Request :=
  ⟨u, (s.headers (requestBody s.appId t)).forAddress u, requestBody s.appId t⟩

theorem prepare_of_endpoint {endpoint : Url} (h : readAddress s.endpoint = .ok endpoint) :
    Request.prepare s t
      = if (s.headers (requestBody s.appId t)).authorization.toList.any (fun c => 0x80 ≤ c.toNat)
        then .error .unencodableHeader
        else requestTo s t <$> addressFor endpoint s.appId := by
  rw [Request.prepare]
  dsimp only
  rw [bind_eq_of_ok h]
  split
  · rfl
  · cases addressFor endpoint s.appId <;> rfl

theorem prepare_of_ascii {endpoint : Url} (h : readAddress s.endpoint = .ok endpoint)
    (ht : s.HasAsciiToken) :
    Request.prepare s t = requestTo s t <$> addressFor endpoint s.appId := by
  rw [prepare_of_endpoint h, if_neg]
  exact fun hany => (ServiceSettings.any_authorization_iff _).1 hany ht

theorem prepare_of_refuses {refusal : Refusal} (h : s.Refuses refusal) :
    Request.prepare s t = .error refusal := by
  cases h with
  | endpoint h =>
    have hno : readAddress s.endpoint = .error .invalidAddress := by
      rw [readAddress] at h ⊢
      split at h
      · exact absurd rfl (h _)
      · rfl
    rw [Request.prepare]
    exact bind_eq_of_error hno
  | token he h =>
    rw [prepare_of_endpoint he, if_pos]
    exact (ServiceSettings.any_authorization_iff _).2 h
  | query he ht h =>
    rw [prepare_of_ascii he ht, addressFor, h]
    rfl
  | host hu ht h =>
    obtain ⟨endpoint, he, hquery⟩ := hu
    rw [prepare_of_ascii he ht, addressFor, hquery, admitAddress, h]
    rfl

theorem prepare_of_addresses {u : Url} (hu : s.Addresses u) (ht : s.HasAsciiToken)
    (h : u.hasAsciiHost = true) : Request.prepare s t = .ok (requestTo s t u) := by
  obtain ⟨endpoint, he, hquery⟩ := hu
  rw [prepare_of_ascii he ht, addressFor, hquery, admitAddress, if_pos h]
  rfl

/-- Either something stands in the way of requests, or there is an address to which they go. -/
theorem ServiceSettings.refuses_or_addresses (s : ServiceSettings) :
    (∃ refusal, s.Refuses refusal)
      ∨ ∃ u, s.Addresses u ∧ s.HasAsciiToken ∧ u.hasAsciiHost = true := by
  by_cases he : ∃ endpoint, readAddress s.endpoint = .ok endpoint
  · obtain ⟨endpoint, he⟩ := he
    by_cases ht : s.HasAsciiToken
    · cases hquery : endpoint.withQuery? (applicationQuery s.appId) with
      | none => exact .inl ⟨_, .query he ht hquery⟩
      | some u =>
        have hu : s.Addresses u := ⟨endpoint, he, hquery⟩
        cases hhost : u.hasAsciiHost with
        | false => exact .inl ⟨_, .host hu ht hhost⟩
        | true => exact .inr ⟨u, hu, ht, hhost⟩
    · exact .inl ⟨_, .token he ht⟩
  · exact .inl ⟨_, .endpoint (not_exists.1 he)⟩

theorem prepare_eq_error_iff {refusal : Refusal} :
    Request.prepare s t = .error refusal ↔ s.Refuses refusal := by
  constructor
  · intro h
    rcases s.refuses_or_addresses with ⟨refusal', hrefuses⟩ | ⟨u, hu, ht, hhost⟩
    · rw [prepare_of_refuses hrefuses] at h
      rwa [← Except.error.inj h]
    · rw [prepare_of_addresses hu ht hhost] at h
      cases h
  · exact prepare_of_refuses

theorem prepare_eq_ok_iff {r : Request} :
    Request.prepare s t = .ok r
      ↔ ∃ u, s.Addresses u ∧ s.HasAsciiToken ∧ u.hasAsciiHost = true ∧ r = requestTo s t u := by
  constructor
  · intro h
    rcases s.refuses_or_addresses with ⟨refusal, hrefuses⟩ | ⟨u, hu, ht, hhost⟩
    · rw [prepare_of_refuses hrefuses] at h
      cases h
    · rw [prepare_of_addresses hu ht hhost] at h
      exact ⟨u, hu, ht, hhost, (Except.ok.inj h).symm⟩
  · rintro ⟨u, hu, ht, hhost, rfl⟩
    exact prepare_of_addresses hu ht hhost

theorem body_of_prepare {r : Request} (h : Request.prepare s t = .ok r) :
    r.body = requestBody s.appId t := by
  obtain ⟨u, -, -, -, rfl⟩ := prepare_eq_ok_iff.1 h
  rfl

end

/-- Without credentials in the address the headers of a request are those of the settings. -/
theorem headers_requestTo {s : ServiceSettings} {u : Url} (h : s.HasNoUserInfo)
    (hu : s.Addresses u) (t : Transformed) :
    (requestTo s t u).headers = s.headers (requestBody s.appId t) := by
  show (s.headers (requestBody s.appId t)).forAddress u = s.headers (requestBody s.appId t)
  rw [Headers.forAddress, Url.basicCredentials?_of_userInfo (h.of_addresses hu)]

end PersistedDocument
