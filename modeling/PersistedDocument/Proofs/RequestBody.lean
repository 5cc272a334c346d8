import PersistedDocument.Proofs.JsonText
import PersistedDocument.Submission.Request

/-!
# Proofs: the body of a request

The octets of a body say all that there is to persist: they are read as the mutation and its
variables, with the free variables in increasing order of code points. So they depend on the set of
free variables alone, and not on how it was gathered.
-/

namespace PersistedDocument

/-! ## Order by code points -/

/-- Names increase strictly by their code points. -/
def IncreasesByCodePoint (names : List String) : Prop :=
  names.Pairwise fun m n => m.toList.map Char.toNat < n.toList.map Char.toNat

theorem lt_iff_codePoints {m n : String} :
    m < n ↔ m.toList.map Char.toNat < n.toList.map Char.toNat := by
  have hlist (cs ds : List Char) : cs < ds ↔ cs.map Char.toNat < ds.map Char.toNat := by
    induction cs generalizing ds with
    | nil =>
      cases ds with
      | nil => simp
      | cons d ds => simp
    | cons c cs ih =>
      cases ds with
      | nil => simp
      | cons d ds =>
        rw [List.map_cons, List.map_cons, List.cons_lt_cons_iff, List.cons_lt_cons_iff, ih,
          Char.toNat_inj]
        rfl
  rw [String.lt_iff, hlist]

/-- There is only one list of the members of a set that increases by code points. -/
theorem eq_members_iff {names : List String} {s : NameSet} :
    names = s.members ↔ IncreasesByCodePoint names ∧ ∀ x, x ∈ names ↔ x ∈ s := by
  have hincreases (names : List String) :
      IncreasesByCodePoint names ↔ names.Pairwise (· < ·) := by
    simp only [IncreasesByCodePoint, lt_iff_codePoints]
  rw [hincreases]
  constructor
  · rintro rfl
    exact ⟨s.increasing, fun x => Iff.rfl⟩
  · rintro ⟨hnames, hmem⟩
    exact NameSet.eq_of_increasing hnames s.increasing hmem

open Json

/-! ## The body of a request -/

theorem isExact_requestValue (appId : String) (t : Transformed) :
    (requestValue appId t).IsExact := by
  have htoken : (t.accessToken.elim Json.null Json.text).IsExact := by
    cases t.accessToken with
    | none => exact .null
    | some token => exact isExact_text token
  have hvariables : (ofFields [("query", .text t.query), ("appId", .text appId),
      ("accessToken", t.accessToken.elim .null .text),
      ("freeVariables", .array (t.freeVariables.members.map .text))]).IsExact := by
    refine isExact_ofFields ?_ ?_
    · show ["query", "appId", "accessToken", "freeVariables"].Nodup
      decide
    · simp only [List.forall_mem_cons]
      exact ⟨isExact_text _, isExact_text _, htoken, isExact_texts _, nofun⟩
  refine isExact_ofFields ?_ ?_
  · show ["query", "variables"].Nodup
    decide
  · simp only [List.forall_mem_cons]
    exact ⟨isExact_text _, hvariables, nofun⟩

/-- A request takes up room for itself, for its variables and for the free ones among them. -/
theorem fitsIn_requestValue (appId : String) (t : Transformed) :
    (requestValue appId t).FitsIn 3 := by
  have htoken : (t.accessToken.elim Json.null Json.text).FitsIn 1 := by
    cases t.accessToken with
    | none => exact .null
    | some token => exact .string _
  have hvariables : (ofFields [("query", .text t.query), ("appId", .text appId),
      ("accessToken", t.accessToken.elim .null .text),
      ("freeVariables", .array (t.freeVariables.members.map .text))]).FitsIn 2 := by
    refine fitsIn_ofFields ?_
    simp only [List.forall_mem_cons]
    exact ⟨.string _, .string _, htoken, fitsIn_texts 0 _, nofun⟩
  refine fitsIn_ofFields ?_
  simp only [List.forall_mem_cons]
  exact ⟨.string _, hvariables, nofun⟩

/-- A body is read as the value that it was written for. -/
theorem read_requestBody (appId : String) (t : Transformed) {room : Nat} (hroom : 3 ≤ room) :
    read room (.ofString (requestBody appId t)) = .ok (requestValue appId t) :=
  read_encode (isExact_requestValue appId t) ((fitsIn_requestValue appId t).mono hroom)

/-- The octets of a body are read as the value that it was written for. -/
theorem readOctets_requestBody (appId : String) (t : Transformed) {room : Nat} (hroom : 3 ≤ room) :
    readOctets room (Utf8.encode (requestBody appId t)) = .ok (requestValue appId t) :=
  readOctets_of_read (read_requestBody appId t hroom)

/-- The body of a request loses nothing of what there is to persist. Its octets hold UTF-8, and the
reader of responses, where it has room for the three levels of it, finds in them an object with the
mutation and an object with the four variables, of which the access token is never left out and the free variables are in the only order that
increases by code points. The octets are the same however the free variables were supplied, and the
headers give their number. -/
theorem request_encoding (s : ServiceSettings) (t : Transformed) :
    (∃ (value : Json) (free : List String),
      value = .object
        [(.ofString "query", .text persistMutation),
          (.ofString "variables", .object
            [(.ofString "query", .text t.query),
              (.ofString "appId", .text s.appId),
              (.ofString "accessToken", t.accessToken.elim .null .text),
              (.ofString "freeVariables", .array (free.map .text))])] ∧
      (∀ names, names = free ↔
        IncreasesByCodePoint names ∧ ∀ x, x ∈ names ↔ x ∈ t.freeVariables) ∧
      (∃ body, Utf8.decode? (Utf8.encode (requestBody s.appId t)) = some body
        ∧ ∀ room, 3 ≤ room → Json.read room (.ofString body) = .ok value) ∧
      ∀ room, 3 ≤ room →
        Json.readOctets room (Utf8.encode (requestBody s.appId t)) = .ok value) ∧
    (∀ names names' : List String, (∀ x, x ∈ names ↔ x ∈ names') →
      Utf8.encode (requestBody s.appId { t with freeVariables := .ofList names })
        = Utf8.encode (requestBody s.appId { t with freeVariables := .ofList names' })) ∧
    (s.headers (requestBody s.appId t)).contentLength
      = toString (Utf8.encode (requestBody s.appId t)).length ∧
    (Utf8.encode (requestBody s.appId t)).length = (requestBody s.appId t).utf8ByteSize := by
  refine ⟨⟨requestValue s.appId t, t.freeVariables.members, rfl, fun names => eq_members_iff,
    ⟨requestBody s.appId t, Utf8.decode?_encode _, fun room => read_requestBody s.appId t⟩,
    fun room => readOctets_requestBody s.appId t⟩,
    fun names names' hmem => ?_, rfl, Utf8.length_encode _⟩
  · have hset : NameSet.ofList names = NameSet.ofList names' := by
      ext x
      rw [NameSet.mem_ofList, NameSet.mem_ofList, hmem]
    rw [hset]

end PersistedDocument
