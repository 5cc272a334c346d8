import PersistedDocument.Proofs.JsonEncoding
import PersistedDocument.Proofs.JsonLimit
import PersistedDocument.Submission.Response

/-!
# Proofs: the judgement of responses

A response gives an id or one of the two failures that are about responses, whatever its octets.
There are two exceptions, which are no failures of a known kind: reading has come to a whole number
of too many digits, or to a bracket for which there is no room left.
-/

namespace PersistedDocument

variable {room : Nat} {body : Octets}

/-- The octets of a response hold a text of which the reading comes to something that the reader
gives up on. -/
def BreaksOff (e : Json.ReadError) (room : Nat) (body : Octets) : Prop :=
  ∃ t, Json.decodeOctets? body = some t ∧ Json.Meets e room t

/-- The reading of a response comes to a whole number of too many digits. -/
def IsOversized (room : Nat) (body : Octets) : Prop := BreaksOff .oversizedInteger room body

/-- The reading of a response comes to a bracket for which there is no room. -/
def IsTooDeep (room : Nat) (body : Octets) : Prop := BreaksOff .nestedTooDeeply room body

/-- An id, or one of the failures that are about responses. -/
def IsJudged (result : Except RunError LooseText) : Prop :=
  (∃ id, result = .ok id)
    ∨ ∃ f : Failure, result = .error (.failure f)
      ∧ (f.name = "InvalidResponseError" ∨ f.name = "RemoteMutationError")

/-! ## Octets and values -/

theorem readOctets_eq_error_iff {e : Json.ReadError} (he : e ≠ .malformed) :
    Json.readOctets room body = .error e ↔ BreaksOff e room body := by
  rw [Json.readOctets, BreaksOff]
  cases Json.decodeOctets? body with
  | none => simp [he.symm]
  | some t => simp [Json.read_eq_error_iff he]

theorem readOctets_eq_oversized_iff :
    Json.readOctets room body = .error .oversizedInteger ↔ IsOversized room body :=
  readOctets_eq_error_iff (e := .oversizedInteger) nofun

theorem readOctets_eq_tooDeep_iff :
    Json.readOctets room body = .error .nestedTooDeeply ↔ IsTooDeep room body :=
  readOctets_eq_error_iff (e := .nestedTooDeeply) nofun

theorem judgeValue_cases (status : Int) (v : Json) :
    (∃ id, judgeValue status v = .ok id)
      ∨ (∃ message, judgeValue status v = invalidResponse message status)
      ∨ ∃ errors : Json,
        judgeValue status v = .error (.failure (.remote errors errors.serialize)) := by
  unfold judgeValue
  split
  · exact .inr (.inl ⟨_, rfl⟩)
  · split
    · next errors _ => exact .inr (.inr ⟨errors, rfl⟩)
    · split
      · next id _ => exact .inl ⟨id, rfl⟩
      · exact .inr (.inl ⟨_, rfl⟩)

theorem judge_of_isOversized (status : Int) (h : IsOversized room body) :
    judge room status body = .error .oversizedInteger := by
  rw [judge, readOctets_eq_oversized_iff.2 h]

theorem judge_of_isTooDeep (status : Int) (h : IsTooDeep room body) :
    judge room status body = .error .nestedTooDeeply := by
  rw [judge, readOctets_eq_tooDeep_iff.2 h]

/-- What a response can come to. -/
theorem judge_cases (room : Nat) (status : Int) (body : Octets) :
    (∃ id, judge room status body = .ok id)
      ∨ (∃ message, judge room status body = invalidResponse message status)
      ∨ (∃ errors : Json,
        judge room status body = .error (.failure (.remote errors errors.serialize)))
      ∨ (IsOversized room body ∧ judge room status body = .error .oversizedInteger)
      ∨ (IsTooDeep room body ∧ judge room status body = .error .nestedTooDeeply) := by
  cases hread : Json.readOctets room body with
  | ok v =>
    have hjudge : judge room status body = judgeValue status v := by rw [judge, hread]
    rw [hjudge]
    rcases judgeValue_cases status v with hid | hmessage | herrors
    · exact .inl hid
    · exact .inr (.inl hmessage)
    · exact .inr (.inr (.inl herrors))
  | error e =>
    cases e with
    | malformed => exact .inr (.inl ⟨_, by rw [judge, hread]⟩)
    | oversizedInteger =>
      have hlong := readOctets_eq_oversized_iff.1 hread
      exact .inr (.inr (.inr (.inl ⟨hlong, judge_of_isOversized status hlong⟩)))
    | nestedTooDeeply =>
      have hdeep := readOctets_eq_tooDeep_iff.1 hread
      exact .inr (.inr (.inr (.inr ⟨hdeep, judge_of_isTooDeep status hdeep⟩)))

/-! ## Responses -/

/-- A response of which the reading breaks off, at a number or at a bracket, is not judged. Any other
response gives an id, or a failure that reports its status, or one that repeats the errors in it. -/
theorem judge_outcome (room : Nat) (status : Int) (body : Octets) :
    (IsOversized room body ∧ judge room status body = .error .oversizedInteger)
      ∨ (IsTooDeep room body ∧ judge room status body = .error .nestedTooDeeply)
      ∨ (¬IsOversized room body ∧ ¬IsTooDeep room body
        ∧ ((∃ id, judge room status body = .ok id)
          ∨ (∃ message, judge room status body
              = .error (.failure (.invalidResponse message (some status))))
          ∨ ∃ errors : Json, judge room status body
              = .error (.failure (.remote errors errors.serialize)))) := by
  by_cases hlong : IsOversized room body
  · exact .inl ⟨hlong, judge_of_isOversized status hlong⟩
  by_cases hdeep : IsTooDeep room body
  · exact .inr (.inl ⟨hdeep, judge_of_isTooDeep status hdeep⟩)
  refine .inr (.inr ⟨hlong, hdeep, ?_⟩)
  rcases judge_cases room status body with hid | hmessage | herrors | ⟨hlong', -⟩ | ⟨hdeep', -⟩
  · exact .inl hid
  · exact .inr (.inl hmessage)
  · exact .inr (.inr herrors)
  · exact absurd hlong' hlong
  · exact absurd hdeep' hdeep

/-! ## Responses that are not judged -/

theorem toNat_of_isDigit {c : Char} (h : c.isDigit = true) : 0 < c.toNat :=
  Nat.lt_of_lt_of_le (by decide) (Char.isDigit_iff_toNat.1 h).1

/-- Reading comes to a number in an array before it comes to the end that the array lacks. -/
theorem isOversized_openBracket (room : Nat) {ds : List Char} (hds : Json.IsWhole ds)
    (hlong : Decimal.maximalDigits < ds.length) :
    IsOversized (room + 1) (Utf8.encode (String.ofList ('[' :: ds))) := by
  obtain ⟨d, es, rfl⟩ := List.exists_cons_of_ne_nil hds.nonempty
  have hd := hds.digits d List.mem_cons_self
  have hdecode := Json.decodeOctets?_encode (Json.showsEncoding_of_toList
    (@String.toList_ofList ('[' :: d :: es)) (by decide) (toNat_of_isDigit hd))
  rw [LooseText.ofString, String.toList_ofList] at hdecode
  have hstart : Json.Reader.skipGap ((d :: es).map .scalar) = (d :: es).map .scalar :=
    Json.skipGap_of_not (Json.StartsNumber.isGap_eq (.inl hd))
  have hopen (rest : LooseText) : (d :: es).map .scalar ≠ .scalar ']' :: rest := by
    intro he
    exact Json.ne_of_isDigit hd (by decide) (CodePoint.scalar.inj (List.cons.inj he).1)
  refine ⟨_, hdecode, room, (d :: es).map .scalar, ?_,
    .oversizedInteger ⟨false, d :: es, [], ?_, hds, hlong, ?_⟩⟩
  · show Json.Reaches (room + 1) (.scalar '[' :: (d :: es).map .scalar) .value room
      ((d :: es).map .scalar)
    refine .inArray ?_ ?_
    · rwa [hstart]
    · rw [hstart]
      exact .inItem .here
  · exact (List.append_nil _).symm
  · exact ⟨rfl, rfl, rfl⟩

theorem isWhole_replicate {n : Nat} (h : 0 < n) : Json.IsWhole (List.replicate n '1') := by
  refine ⟨fun c hc => ?_, ?_, fun es he => ?_⟩
  · rw [List.eq_of_mem_replicate hc]
    decide
  · exact List.ne_nil_of_length_pos (by rwa [List.length_replicate])
  · have hzero : '0' ∈ List.replicate n '1' := he ▸ List.mem_cons_self
    exact absurd (List.eq_of_mem_replicate hzero) (by decide)

/-- An array that is not closed, with a number of ones in it. -/
def openArray (n : Nat) : Octets := Utf8.encode (String.ofList ('[' :: List.replicate n '1'))

theorem isOversized_openArray (room : Nat) {n : Nat} (h : Decimal.maximalDigits < n) :
    IsOversized (room + 1) (openArray n) :=
  isOversized_openBracket room (isWhole_replicate (Nat.lt_of_le_of_lt (Nat.zero_le _) h))
    (by rwa [List.length_replicate])

/-- Opening brackets, each inside the one before. -/
def openBrackets (n : Nat) : List Char := List.replicate n '['

theorem skipGap_openBrackets (n : Nat) :
    Json.Reader.skipGap ((openBrackets (n + 1)).map .scalar)
      = (openBrackets (n + 1)).map .scalar :=
  Json.skipGap_of_not rfl

/-- Reading goes into one bracket after the other, up to the one for which there is no room. -/
theorem reaches_openBrackets (room : Nat) :
    ∃ u, Json.Reaches room ((openBrackets (room + 1)).map .scalar) .value 0 u
      ∧ Json.Stops .nestedTooDeeply 0 u := by
  induction room with
  | zero => exact ⟨_, .here, .array⟩
  | succ room ih =>
    obtain ⟨u, hu, hstops⟩ := ih
    refine ⟨u, .inArray (fun rest => ?_) ?_, hstops⟩
    · show Json.Reader.skipGap ((openBrackets (room + 1)).map .scalar) ≠ _
      rw [skipGap_openBrackets]
      nofun
    · show Json.Reaches room (Json.Reader.skipGap ((openBrackets (room + 1)).map .scalar)) .item 0 u
      rw [skipGap_openBrackets]
      exact .inItem hu

/-- One bracket more than there is room for is too much, although no bracket is closed. -/
theorem isTooDeep_openBrackets (room : Nat) :
    IsTooDeep room (Utf8.encode (String.ofList (openBrackets (room + 1)))) := by
  have hshows : Json.ShowsEncoding (String.ofList (openBrackets (room + 1))) := by
    refine ⟨'[', openBrackets room, String.toList_ofList, by decide, fun d hd => ?_⟩
    rw [List.eq_of_mem_replicate (List.mem_of_mem_head? hd)]
    decide
  have hdecode := Json.decodeOctets?_encode hshows
  rw [LooseText.ofString, String.toList_ofList] at hdecode
  obtain ⟨u, hu, hstops⟩ := reaches_openBrackets room
  refine ⟨_, hdecode, 0, u, ?_, hstops⟩
  rwa [skipGap_openBrackets]

/-- However much room there is for arrays, some response gives neither an id nor a failure that is
about responses. -/
theorem not_forall_isJudged :
    ¬∃ room, ∀ (status : Int) (body : Octets), IsJudged (judge (room + 1) status body) := by
  rintro ⟨room, h⟩
  have hlong : Decimal.maximalDigits < 4301 := by decide
  have hjudged := h 200 (openArray 4301)
  rw [judge_of_isOversized 200 (isOversized_openArray room hlong)] at hjudged
  rcases hjudged with ⟨id, hid⟩ | ⟨f, hf, -⟩
  · cases hid
  · cases hf

end PersistedDocument
