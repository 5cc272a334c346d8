import PersistedDocument.Proofs.JsonAscii
import PersistedDocument.Proofs.JsonText
import PersistedDocument.Submission.Run

/-!
# Proofs: what responses mean

What a response means depends on the value that it is read as, and on nothing else of its octets:
not on the encoding of its text, nor on a byte order mark. Errors count first, and are repeated in a
text that loses nothing of them. Otherwise an id counts that objects lead to by name, whatever else
is there. There is one exception: no id counts beside extensions that are nested too deeply.
-/

namespace PersistedDocument

/-! ## Responses in other encodings -/

/-- What a response means is what its text means, in whichever encoding it comes, with or without a
byte order mark. -/
theorem judge_octets {s : String} (h : Json.IsText s) (room : Nat) (status : Int)
    (e : Json.Encoding) (marked : Bool) :
    judge room status (e.octets marked s)
      = match Json.read room (.ofString s) with
        | .ok v => judgeValue status v
        | .error .nestedTooDeeply => .error .nestedTooDeeply
        | .error _ => .error .oversizedInteger := by
  rw [judge, Json.readOctets_octets h]
  cases hread : Json.read room (.ofString s) with
  | ok v => rfl
  | error e =>
    cases e with
    | malformed => exact absurd hread (h room)
    | oversizedInteger => rfl
    | nestedTooDeeply => rfl

/-- A JSON text in octets is read as the same value, gives the same id or the same failure, and is
reported alike, in whichever two encodings it comes and whether or not a byte order mark is
there. -/
theorem judged_alike_in_all_encodings {s : String} (h : Json.IsText s) (room : Nat) (status : Int)
    (e e' : Json.Encoding) (marked marked' : Bool) :
    Json.readOctets room (e.octets marked s) = Json.readOctets room (e'.octets marked' s)
      ∧ judge room status (e.octets marked s) = judge room status (e'.octets marked' s)
      ∧ judgementEvents (judge room status (e.octets marked s))
        = judgementEvents (judge room status (e'.octets marked' s)) := by
  have hjudge : judge room status (e.octets marked s)
      = judge room status (e'.octets marked' s) := by
    rw [judge_octets h, judge_octets h]
  refine ⟨?_, hjudge, congrArg judgementEvents hjudge⟩
  rw [Json.readOctets_octets h, Json.readOctets_octets h]

/-- A single character beyond the first plane, in quotation marks, without a mark in UTF-16 and with
one in UTF-32. -/
theorem judged_alike_in_all_encodings_emoji :
    Json.IsText "\"😀\""
      ∧ judge 1000 200 ((Json.Encoding.utf16 .littleEndian).octets false "\"😀\"")
        = judge 1000 200 ((Json.Encoding.utf32 .bigEndian).octets true "\"😀\"") := by
  have hread : Json.read 1000 (.ofString "\"😀\"") = .ok (.string (.ofString "😀")) := by cbv
  have htext : Json.IsText "\"😀\"" := Json.isText_of_read hread
  exact ⟨htext, (judged_alike_in_all_encodings htext 1000 200 (.utf16 .littleEndian)
    (.utf32 .bigEndian) false true).2.1⟩

/-! ## Errors and ids in values -/

namespace Json

variable {v : Json} {id : LooseText}

theorem isNull_iff : v.isNull = true ↔ v = .null := by
  cases v <;> simp [isNull]

theorem errors?_eq_some_iff {errors : Json} :
    v.errors? = some errors ↔ v.member? "errors" = some errors ∧ errors ≠ .null := by
  rw [errors?, Option.filter_eq_some_iff, Bool.not_eq_true', Bool.eq_false_iff, ne_eq, isNull_iff]

/-- Objects lead from a value to an id, each by its name in the one before. -/
def HoldsId (v : Json) (id : LooseText) : Prop :=
  ∃ data service created persisted : Json,
    v.member? "data" = some data
      ∧ data.member? "oneGraph" = some service
      ∧ service.member? "createPersistedQuery" = some created
      ∧ created.member? "persistedQuery" = some persisted
      ∧ persisted.member? "id" = some (.string id)

theorem persistedId?_eq_some_iff :
    v.persistedId? = some id ↔ v.HoldsId id ∧ v.hasShallowExtensions = true := by
  have hstring (w : Json) : w.string? = some id ↔ w = .string id := by
    cases w <;> simp [string?]
  have hpath (inner : Json) : idPath.foldlM (fun (v : Json) name => v.member? name) v = some inner
      ↔ ∃ data, v.member? "data" = some data
        ∧ ∃ service, data.member? "oneGraph" = some service
        ∧ ∃ created, service.member? "createPersistedQuery" = some created
        ∧ created.member? "persistedQuery" = some inner := by
    simp [idPath, Option.bind_eq_some_iff]
  rw [persistedId?]
  cases v.hasShallowExtensions with
  | false =>
    show none = some id ↔ v.HoldsId id ∧ false = true
    simp
  | true =>
    show (idPath.foldlM (fun (v : Json) name => v.member? name) v).bind
      (fun inner => (inner.member? "id").bind string?) = some id ↔ v.HoldsId id ∧ true = true
    simp only [Option.bind_eq_some_iff, hpath, hstring, and_true]
    constructor
    · rintro ⟨persisted, ⟨data, hdata, service, hservice, created, hcreated, hpersisted⟩, -, hid,
        rfl⟩
      exact ⟨data, service, created, persisted, hdata, hservice, hcreated, hpersisted, hid⟩
    · rintro ⟨data, service, created, persisted, hdata, hservice, hcreated, hpersisted, hid⟩
      exact ⟨persisted, ⟨data, hdata, service, hservice, created, hcreated, hpersisted⟩, _, hid,
        rfl⟩

end Json

/-! ## Judging values -/

section Judging

variable {room : Nat} {status : Int} {body : Octets} {v : Json}

theorem judge_of_readOctets (h : Json.readOctets room body = .ok v) :
    judge room status body = judgeValue status v := by
  rw [judge, h]

theorem judgeValue_of_not_object (h : ∀ members, v ≠ .object members) :
    judgeValue status v
      = invalidResponse "Persisted query service returned an unexpected body" status := by
  cases v with
  | object members => exact absurd rfl (h members)
  | null | boolean | integer | real | string | array => rfl

theorem judgeValue_of_errors {errors : Json} (herrors : v.member? "errors" = some errors)
    (hcontent : errors ≠ .null) :
    judgeValue status v = .error (.failure (.remote errors errors.serialize)) := by
  obtain ⟨members, hmembers, -⟩ := Option.bind_eq_some_iff.1 herrors
  simp only [judgeValue, hmembers, Json.errors?_eq_some_iff.2 ⟨herrors, hcontent⟩]

theorem judgeValue_of_no_errors {members : List (LooseText × Json)} (hv : v = .object members)
    (h : ∀ errors, v.member? "errors" = some errors → errors = .null) :
    judgeValue status v = v.persistedId?.elim
      (invalidResponse "Persisted query id missing from response" status) .ok := by
  have hnone : v.errors? = none := by
    refine Option.eq_none_iff_forall_ne_some.2 fun errors he => ?_
    obtain ⟨herrors, hcontent⟩ := Json.errors?_eq_some_iff.1 he
    exact hcontent (h errors herrors)
  have hmembers : v.members? = some members := by
    rw [hv]
    rfl
  simp only [judgeValue, hmembers, hnone]
  cases v.persistedId? <;> rfl

/-- The status shows nowhere but in a failure that says so. -/
theorem judgeValue_status (status status' : Int) (v : Json) :
    judgeValue status' v = judgeValue status v
      ∨ ∃ message, judgeValue status v = invalidResponse message status
        ∧ judgeValue status' v = invalidResponse message status' := by
  unfold judgeValue
  split
  · exact .inr ⟨_, rfl, rfl⟩
  · split
    · exact .inl rfl
    · split
      · exact .inl rfl
      · exact .inr ⟨_, rfl, rfl⟩

theorem line_persisted (id : LooseText) : (Event.persisted id).line
    = .ofString "INFO persist_query.adapters.onegraph: persisted query id=" ++ id := by
  rw [Event.line, Event.message, ← List.append_assoc, ← LooseText.ofString_append]
  rfl

/-! ### Responses with an id -/

/-- A response with an id and with extensions. -/
def responseWith (extensions : Json) : Json :=
  .ofFields
    [("data", .ofFields
        [("oneGraph", .ofFields
          [("createPersistedQuery", .ofFields
            [("persistedQuery", .ofFields [("id", .text "i1")])])])]),
      ("extensions", extensions)]

theorem isExact_responseWith {extensions : Json} (h : extensions.IsExact) :
    (responseWith extensions).IsExact := by
  have hsingle (name : String) {v : Json} (hv : v.IsExact) : (Json.ofFields [(name, v)]).IsExact :=
    Json.isExact_ofFields (List.pairwise_singleton _ _) (List.forall_mem_singleton.2 hv)
  refine Json.isExact_ofFields ?_ ?_
  · show ["data", "extensions"].Nodup
    decide
  · simp only [List.forall_mem_cons]
    exact ⟨hsingle _ (hsingle _ (hsingle _ (hsingle _ (Json.isExact_text _)))), h, nofun⟩

/-- The objects around the id take up some room, the extensions one unit besides their own. -/
theorem fitsIn_responseWith {extensions : Json} (h : extensions.FitsIn (room + 4)) :
    (responseWith extensions).FitsIn (room + 5) := by
  have hsingle {room : Nat} (name : String) {v : Json} (hv : v.FitsIn room) :
      (Json.ofFields [(name, v)]).FitsIn (room + 1) :=
    Json.fitsIn_ofFields (List.forall_mem_singleton.2 hv)
  refine Json.fitsIn_ofFields ?_
  simp only [List.forall_mem_cons]
  exact ⟨hsingle _ (hsingle _ (hsingle _ (hsingle _ (.string _)))), h, nofun⟩

theorem readOctets_responseWith {extensions : Json} (h : extensions.IsExact)
    (hfits : extensions.FitsIn (room + 4)) :
    Json.readOctets (room + 5) (Utf8.encode (responseWith extensions).encode)
      = .ok (responseWith extensions) :=
  Json.readOctets_of_read (Json.read_encode (isExact_responseWith h) (fitsIn_responseWith hfits))

theorem holdsId_responseWith (extensions : Json) :
    (responseWith extensions).HoldsId (.ofString "i1") :=
  ⟨_, _, _, _, Json.member?_ofFields _ _, Json.member?_ofFields _ _, Json.member?_ofFields _ _,
    Json.member?_ofFields _ _, Json.member?_ofFields _ _⟩

theorem errors_responseWith (extensions errors : Json)
    (h : (responseWith extensions).member? "errors" = some errors) : errors = .null := by
  rw [responseWith, Json.member?_ofFields] at h
  cases h

/-! ### All values -/

/-- How a response is judged that is read as a value. In objects the last value of a name counts.
A value that is no object is a failure. Errors in it that are not null are a failure that repeats
them. Without errors an id is given that objects lead to by name, whatever else is there, unless
there are extensions of more than 255 levels; otherwise it is missing. The id is reported as soon as
there is one, and only then. The status only shows in failures that are not about errors. -/
theorem judge_of_value (status : Int) (h : Json.readOctets room body = .ok v) :
    (∃ text rest, Json.decodeOctets? body = some text
      ∧ Json.Reads room (Json.Reader.skipGap text) (.value v) rest
      ∧ Json.Reader.skipGap rest = []) ∧
    (∀ outer t w rest, Json.Reads outer (.scalar '{' :: t) (.value w) rest →
      ∃ inner written, outer = inner + 1
        ∧ (written = [] ∨ Json.Reads inner (Json.Reader.skipGap t) (.members written) rest)
        ∧ ∀ name, w.member? name = written.reverse.lookup (.ofString name)) ∧
    ((∀ members, v ≠ .object members) → judge room status body
      = invalidResponse "Persisted query service returned an unexpected body" status) ∧
    (∀ errors, v.member? "errors" = some errors → errors ≠ .null →
      judge room status body = .error (.failure (.remote errors errors.serialize))) ∧
    (∀ members, v = .object members →
      (∀ errors, v.member? "errors" = some errors → errors = .null) →
        (∀ id, judge room status body = .ok id
          ↔ v.HoldsId id ∧ v.hasShallowExtensions = true)
        ∧ ((∀ id, judge room status body ≠ .ok id) → judge room status body
          = invalidResponse "Persisted query id missing from response" status)) ∧
    ((∀ id, judge room status body = .ok id →
        judgementEvents (judge room status body) = [.persisted id]
          ∧ (Event.persisted id).line
            = .ofString "INFO persist_query.adapters.onegraph: persisted query id=" ++ id)
      ∧ ((∀ id, judge room status body ≠ .ok id) →
        judgementEvents (judge room status body) = [])) ∧
    ∀ status', judge room status' body = judge room status body
      ∨ ∃ message, judge room status body = invalidResponse message status
        ∧ judge room status' body = invalidResponse message status' := by
  simp only [judge_of_readOctets h]
  -- Only the values without errors need the path to the id.
  refine ⟨Json.readOctets_eq_ok_iff.1 h, fun outer t w rest hread => hread.exists_written,
    judgeValue_of_not_object, fun errors => judgeValue_of_errors, ?_, ⟨?_, ?_⟩,
    fun status' => judgeValue_status status status' v⟩
  · intro members hv herrors
    rw [judgeValue_of_no_errors hv herrors]
    cases hid : v.persistedId? with
    | some found =>
      refine ⟨fun id => ?_, fun hno => absurd rfl (hno found)⟩
      rw [← Json.persistedId?_eq_some_iff, hid]
      simp
    | none =>
      refine ⟨fun id => ?_, fun _ => rfl⟩
      rw [← Json.persistedId?_eq_some_iff, hid]
      simp [invalidResponse]
  · intro id hid
    rw [hid]
    exact ⟨rfl, line_persisted id⟩
  · intro hno
    cases hresult : judgeValue status v with
    | ok id => exact absurd hresult (hno id)
    | error e => rfl

/-- A response with empty extensions gives its id. -/
theorem judge_of_value_empty_extensions :
    Json.readOctets 5 (Utf8.encode (responseWith (.array [])).encode)
        = .ok (responseWith (.array []))
      ∧ judge 5 200 (Utf8.encode (responseWith (.array [])).encode) = .ok (.ofString "i1") := by
  have hexact : (Json.array []).IsExact := .array nofun
  have hread : Json.readOctets 5 _ = _ := @readOctets_responseWith 0 _ hexact (.array nofun)
  obtain ⟨-, -, -, -, hno, -, -⟩ := judge_of_value 200 hread
  obtain ⟨hid, -⟩ := hno _ rfl (errors_responseWith _)
  exact ⟨hread, (hid _).2 ⟨holdsId_responseWith _, rfl⟩⟩

/-! ### Extensions that are nested too deeply -/

/-- Arrays inside each other, one more than a number says. -/
def nestedArrays : Nat → Json
  | 0 => .array []
  | n + 1 => .array [nestedArrays n]

theorem isExact_nestedArrays (n : Nat) : (nestedArrays n).IsExact := by
  induction n with
  | zero => exact .array nofun
  | succ n ih => exact .array (List.forall_mem_singleton.2 ih)

theorem not_isWithin_nestedArrays (n : Nat) : (nestedArrays n).isWithin n = false := by
  induction n with
  | zero => rfl
  | succ n ih => rw [nestedArrays, Json.isWithin, List.all_cons, ih, Bool.false_and]

theorem fitsIn_nestedArrays (n : Nat) : (nestedArrays n).FitsIn (n + 1) := by
  induction n with
  | zero => exact .array nofun
  | succ n ih => exact .array (List.forall_mem_singleton.2 ih)

/-- Where there is room for the extensions, some response without errors leads to an id that is not
given. -/
theorem not_forall_holdsId_given :
    ¬∃ room, greatestExtensionDepth + 2 ≤ room ∧
      ∀ (status : Int) (body : Octets) (v : Json) (id : LooseText),
        Json.readOctets room body = .ok v →
        (∀ errors, v.member? "errors" = some errors → errors = .null) → v.HoldsId id →
        judge room status body = .ok id := by
  rintro ⟨room, hroom, h⟩
  have hexact := isExact_nestedArrays greatestExtensionDepth
  have hfits := fitsIn_nestedArrays greatestExtensionDepth
  obtain ⟨rest, rfl⟩ : ∃ rest, room = rest + 5 := ⟨room - 5, by
    have hdepth : greatestExtensionDepth = 255 := rfl
    omega⟩
  have hread := readOctets_responseWith hexact (hfits.mono (Nat.le_of_succ_le_succ hroom))
  have hgiven := h 200 _ _ _ hread (errors_responseWith _)
    (holdsId_responseWith _)
  obtain ⟨members, hmembers⟩ :
    ∃ members, responseWith (nestedArrays greatestExtensionDepth) = .object members := ⟨_, rfl⟩
  rw [judge_of_readOctets hread,
    judgeValue_of_no_errors hmembers (errors_responseWith _)] at hgiven
  have hdeep : (responseWith (nestedArrays greatestExtensionDepth)).hasShallowExtensions
      = false := by
    have hmember : (responseWith (nestedArrays greatestExtensionDepth)).member? "extensions"
        = some (nestedArrays greatestExtensionDepth) := Json.member?_ofFields _ _
    rw [Json.hasShallowExtensions, hmember, Option.all_some, not_isWithin_nestedArrays]
  have hnone : (responseWith (nestedArrays greatestExtensionDepth)).persistedId? = none := by
    refine Option.eq_none_iff_forall_ne_some.2 fun id hid => ?_
    rw [Json.persistedId?_eq_some_iff, hdeep] at hid
    exact Bool.false_ne_true hid.2
  rw [hnone] at hgiven
  cases hgiven

/-! ## Errors as text -/

theorem judgeValue_eq_remote {errors : Json} {text : String}
    (h : judgeValue status v = .error (.failure (.remote errors text))) :
    v.member? "errors" = some errors ∧ errors ≠ .null ∧ text = errors.serialize := by
  unfold judgeValue at h
  split at h
  · cases h
  · split at h
    · next errors herrors =>
      obtain ⟨hmember, hcontent⟩ := Json.errors?_eq_some_iff.1 herrors
      cases h
      exact ⟨hmember, hcontent, rfl⟩
    · split at h <;> cases h

/-- When a response in octets is judged to hold errors, they are what its text says they are, and if
all numbers in them are whole numbers, the failure loses nothing of them: it repeats them in
printable ASCII, on one line, which is read as the same errors again. -/
theorem remote_errors_are_repeated {s : String} (hs : Json.IsText s) {e : Json.Encoding}
    {marked : Bool} {errors : Json} {text : String}
    (h : judge room status (e.octets marked s) = .error (.failure (.remote errors text))) :
    ∃ v, Json.read room (.ofString s) = .ok v
      ∧ v.member? "errors" = some errors ∧ errors ≠ .null ∧ text = errors.serialize
      ∧ (errors.HasOnlyIntegers →
        Json.IsPrintable text.toList
          ∧ Json.IsPrintable (Failure.remote errors text).message.toList
          ∧ Json.read room (.ofString text) = .ok errors
          ∧ Json.readOctets room (Utf8.encode text) = .ok errors) := by
  rw [judge_octets hs] at h
  cases hread : Json.read room (.ofString s) with
  | error e =>
    rw [hread] at h
    cases e <;> cases h
  | ok v =>
    rw [hread] at h
    obtain ⟨herrors, hcontent, rfl⟩ := judgeValue_eq_remote h
    refine ⟨v, rfl, herrors, hcontent, rfl, fun hintegers => ?_⟩
    have hprintable := Json.isPrintable_serialize hintegers
    -- The errors lie inside of what was read, so there is room enough to read them again.
    have hagain := Json.read_serialize
      (((Json.isLegible_of_read hread).member? herrors).isExact hintegers)
      ((Json.fitsIn_of_read hread).member? herrors)
    have hbefore : ∀ c ∈ "Error persisting query, errors=".toList,
        0x20 ≤ c.toNat ∧ c.toNat < 0x7F := by
      simp
    refine ⟨hprintable, ?_, hagain, Json.readOctets_of_read hagain⟩
    show Json.IsPrintable ("Error persisting query, errors=" ++ errors.serialize).toList
    rw [String.toList_append]
    exact Json.IsPrintable.append hbefore hprintable

/-- A character beyond the first plane and a negative number, after a byte order mark. -/
theorem remote_errors_are_repeated_emoji :
    Json.IsText "\x7b\"errors\":[\"😀\",-12]\x7d"
      ∧ judge 2 200 (Json.Encoding.utf8.octets true "\x7b\"errors\":[\"😀\",-12]\x7d")
        = .error (.failure (.remote (.array [.text "😀", .integer (-12)])
          "[\"\\ud83d\\ude00\",-12]"))
      ∧ Json.read 2 (.ofString "[\"\\ud83d\\ude00\",-12]")
        = .ok (.array [.text "😀", .integer (-12)]) := by
  have hexact : (Json.array [.text "😀", .integer (-12)]).IsExact := by
    refine .array ?_
    simp only [List.forall_mem_cons]
    exact ⟨Json.isExact_text _, .integer (by decide), nofun⟩
  have hfits : (Json.array [.text "😀", .integer (-12)]).FitsIn 1 := by
    refine .array ?_
    simp only [List.forall_mem_cons]
    exact ⟨.string _, .integer _, nofun⟩
  have hread : Json.read 2 (.ofString "\x7b\"errors\":[\"😀\",-12]\x7d")
      = .ok (.ofFields [("errors", .array [.text "😀", .integer (-12)])]) := by
    have hwritten : (Json.ofFields [("errors", .array [.text "😀", .integer (-12)])]).encode
        = "\x7b\"errors\":[\"😀\",-12]\x7d" := rfl
    rw [← hwritten]
    exact Json.read_encode (Json.isExact_ofFields (List.pairwise_singleton _ _)
      (List.forall_mem_singleton.2 hexact))
      (Json.fitsIn_ofFields (List.forall_mem_singleton.2 hfits))
  have hs := Json.isText_of_read hread
  have hjudge : judge 2 200 (Json.Encoding.utf8.octets true "\x7b\"errors\":[\"😀\",-12]\x7d")
      = .error (.failure (.remote (.array [.text "😀", .integer (-12)])
        "[\"\\ud83d\\ude00\",-12]")) := by
    rw [judge_octets hs, hread]
    rfl
  obtain ⟨v, -, -, -, -, hrepeated⟩ := remote_errors_are_repeated hs hjudge
  refine ⟨hs, hjudge, (hrepeated (.array ?_)).2.2.1⟩
  simp only [List.forall_mem_cons]
  exact ⟨.string _, .integer _, nofun⟩

end Judging

end PersistedDocument
