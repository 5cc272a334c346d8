import PersistedDocument.Proofs.JsonEncoding
import PersistedDocument.Proofs.JsonLimit
import PersistedDocument.Proofs.JsonValues

/-!
# Proofs: JSON texts in octets

A JSON text always shows its encoding: it begins with a character of ASCII, and the null character
is not among its first two, since the reader goes past none. So its octets are read as the text is,
in whichever encoding they hold it.
-/

namespace PersistedDocument.Json

open Reader

/-! ## How JSON texts begin -/

/-- A text in which the reader finds no fault, whatever room there is. It is a JSON text, but for what
comes after a whole number of too many digits, at which the reader stops. -/
def IsText (s : String) : Prop := ∀ room, read room (.ofString s) ≠ .error .malformed

/-- No number starts with anything else than a digit or a minus sign. -/
theorem number_of_not_startsNumber {c : Char} (hc : ¬StartsNumber c) (rest : LooseText) :
    number (.scalar c :: rest) = .error .malformed := by
  obtain ⟨hdigit, hminus⟩ := not_or.1 hc
  have hsign : minusSign (.scalar c :: rest) = false := by
    rw [minusSign]
    rintro rest' he
    exact hminus (CodePoint.scalar.inj (List.cons.inj he).1)
  have hwhole : wholeDigits (.scalar c :: rest) = [] := by
    rw [wholeDigits, digitRun, if_neg hdigit]
    rintro rest' he
    rw [CodePoint.scalar.inj (List.cons.inj he).1] at hdigit
    exact hdigit rfl
  simp only [number, hsign, Bool.false_eq_true, if_false, hwhole, List.isEmpty_nil, if_true]

/-- No value begins with the null character or beyond ASCII. -/
theorem value_of_not_ascii {c : Char} (hc : ¬(0 < c.toNat ∧ c.toNat < 0x80)) (room bound : Nat)
    (rest : LooseText) : value room bound (.scalar c :: rest) = .error .malformed := by
  have hne (d : Char) (hd : 0 < d.toNat ∧ d.toNat < 0x80) : d ≠ c := by
    rintro rfl
    exact hc hd
  have hnumber : ¬StartsNumber c := by
    rintro (hdigit | rfl)
    · obtain ⟨hlow, hhigh⟩ := Char.isDigit_iff_toNat.1 hdigit
      exact hc ⟨Nat.lt_of_lt_of_le (by decide) hlow, Nat.lt_of_le_of_lt hhigh (by decide)⟩
    · exact hc (by decide)
  have hword : word? (.scalar c :: rest) = none := by
    simp [word?, words, LooseText.ofString, hne 'n' (by decide), hne 't' (by decide),
      hne 'f' (by decide), hne 'N' (by decide), hne 'I' (by decide), hne '-' (by decide)]
  cases bound with
  | zero => rfl
  | succ bound =>
    have hplain : IsPlain (.scalar c :: rest) :=
      isPlain_cons ⟨(hne '"' (by decide)).symm, (hne '[' (by decide)).symm,
        (hne '{' (by decide)).symm⟩ rest
    rw [value_of_isPlain hplain, plain, hword]
    exact number_of_not_startsNumber hnumber rest

/-! ### The null character -/

theorem skipGap_null (rest : LooseText) :
    skipGap (.scalar '\x00' :: rest) = .scalar '\x00' :: rest :=
  skipGap_of_not rfl

theorem value_null (room bound : Nat) (rest : LooseText) :
    value room bound (.scalar '\x00' :: rest) = .error .malformed :=
  value_of_not_ascii (by decide) room bound rest

theorem items_null (room bound : Nat) (rest : LooseText) :
    items room bound (.scalar '\x00' :: rest) = .error .malformed := by
  cases bound with
  | zero => rfl
  | succ bound => rw [items, bind_eq_of_error (value_null room bound rest)]

theorem members_null (room bound : Nat) (rest : LooseText) :
    members room bound (.scalar '\x00' :: rest) = .error .malformed := by
  cases bound <;> rfl

theorem string_null (rest : LooseText) :
    Reader.string (.scalar '\x00' :: rest) = .error .malformed := by
  rw [Reader.string, stringParts, if_neg (by decide), if_neg (by decide), if_pos (by decide)]
  rfl

/-- A word or a number does not go on with the null character. -/
theorem plain_second_null (c : Char) (rest : LooseText) :
    plain (.scalar c :: .scalar '\x00' :: rest) = .error .malformed
      ∨ ∃ v, plain (.scalar c :: .scalar '\x00' :: rest) = .ok (v, .scalar '\x00' :: rest) := by
  have hword : word? (.scalar c :: .scalar '\x00' :: rest) = none := by
    simp [word?, words, LooseText.ofString]
  rw [plain, hword]
  dsimp only
  by_cases hnumber : StartsNumber c
  · rcases hnumber with hdigit | rfl
    · have hwhole : IsWhole [c] :=
        ⟨List.forall_mem_singleton.2 hdigit, List.cons_ne_nil c [],
          fun es he => (List.cons.inj he).2.symm⟩
      have hends : EndsWhole (.scalar '\x00' :: rest) := ⟨rfl, rfl, rfl⟩
      have hread := number_whole hwhole hends false
      have hfew : ¬Decimal.maximalDigits < [c].length := by
        rw [List.length_singleton]
        decide
      rw [if_neg hfew] at hread
      exact .inr ⟨_, hread⟩
    · exact .inl rfl
  · exact .inl (number_of_not_startsNumber hnumber _)

/-- The null character as the second one is a fault, or is what is left after the first, if there is
any room. -/
theorem value_second_null (c : Char) (room bound : Nat) (rest : LooseText) :
    value (room + 1) (bound + 1) (.scalar c :: .scalar '\x00' :: rest) = .error .malformed
      ∨ ∃ v, value (room + 1) (bound + 1) (.scalar c :: .scalar '\x00' :: rest)
          = .ok (v, .scalar '\x00' :: rest) := by
  -- A bracket or a quotation mark leads the reader to the null character, a plain value ends there.
  rcases forms (.scalar c :: .scalar '\x00' :: rest) with ⟨w, h⟩ | ⟨w, h⟩ | ⟨w, h⟩ | hplain
  · obtain ⟨hc, rfl⟩ := List.cons.inj h
    rw [hc, value, string_null]
    exact .inl rfl
  · obtain ⟨hc, rfl⟩ := List.cons.inj h
    rw [hc, value, bind_eq_of_ok (enter_eq_ok_iff.2 rfl), skipGap_null]
    exact .inl (bind_eq_of_error (items_null room bound rest))
  · obtain ⟨hc, rfl⟩ := List.cons.inj h
    rw [hc, value, bind_eq_of_ok (enter_eq_ok_iff.2 rfl), skipGap_null]
    exact .inl (bind_eq_of_error (members_null room bound rest))
  · rw [value_of_isPlain hplain]
    exact plain_second_null c rest

/-! ### The first two characters -/

theorem ascii_of_isGap {c : Char} (h : isGap (.scalar c) = true) :
    0 < c.toNat ∧ c.toNat < 0x80 := by
  simp only [isGap, Bool.or_eq_true, decide_eq_true_eq] at h
  rcases h with ((rfl | rfl) | rfl) | rfl <;> decide

theorem read_of_not_ascii {c : Char} (hc : ¬(0 < c.toNat ∧ c.toNat < 0x80)) (room : Nat)
    (rest : LooseText) : read room (.scalar c :: rest) = .error .malformed := by
  have hgap : isGap (.scalar c) = false := Bool.eq_false_iff.2 fun h => hc (ascii_of_isGap h)
  rw [read, skipGap_of_not hgap, bind_eq_of_error (value_of_not_ascii hc _ _ rest)]

theorem read_second_null (c : Char) (room : Nat) (rest : LooseText) :
    read (room + 1) (.scalar c :: .scalar '\x00' :: rest) = .error .malformed := by
  cases hgap : isGap (.scalar c) with
  | true =>
    have hskip : skipGap (.scalar c :: .scalar '\x00' :: rest) = .scalar '\x00' :: rest := by
      rw [skipGap, List.dropWhile_cons, hgap]
      exact skipGap_null rest
    rw [read, hskip, bind_eq_of_error (value_null _ _ rest)]
  | false =>
    rw [read, skipGap_of_not hgap]
    rcases value_second_null c room (2 * (rest.length + 2) + 1) rest with h | ⟨v, h⟩
    · exact bind_eq_of_error h
    · refine (bind_eq_of_ok h).trans ?_
      simp only [skipGap_null]
      rfl

/-- A JSON text shows in which encoding it is. -/
theorem IsText.showsEncoding {s : String} (h : IsText s) : ShowsEncoding s := by
  rw [IsText, LooseText.ofString] at h
  cases hs : s.toList with
  | nil =>
    rw [hs] at h
    exact absurd rfl (h 0)
  | cons c cs =>
    rw [hs] at h
    refine ⟨c, cs, hs, Classical.byContradiction fun hc => h 0 (read_of_not_ascii hc 0 _), ?_⟩
    intro d hd
    obtain ⟨ds, rfl⟩ := List.head?_eq_some_iff.1 hd
    refine Nat.pos_of_ne_zero fun hzero => h 1 ?_
    obtain rfl : d = '\x00' := Char.toNat_inj.1 hzero
    exact read_second_null c 0 _

/-! ## Octets -/

theorem readOctets_eq_ok_iff {room : Nat} {octets : Octets} {v : Json} :
    readOctets room octets = .ok v ↔ ∃ text rest, decodeOctets? octets = some text
      ∧ Reads room (skipGap text) (.value v) rest ∧ skipGap rest = [] := by
  rw [readOctets]
  cases decodeOctets? octets with
  | none => simp
  | some text => simp [read_eq_ok_iff]

/-- The octets of a text are read as the text, in whichever encoding they hold it and whether or not
a byte order mark is there. -/
theorem readOctets_octets {s : String} (h : IsText s) (room : Nat) (e : Encoding) (marked : Bool) :
    readOctets room (e.octets marked s) = read room (.ofString s) := by
  rw [readOctets, decodeOctets?_octets h.showsEncoding]

theorem isText_of_read {room : Nat} {s : String} {v : Json}
    (h : read room (.ofString s) = .ok v) : IsText s := by
  intro other
  rcases read_of_read h other with hread | hread
  · rw [hread]
    nofun
  · rw [hread]
    nofun

/-- The octets of a text that is read as a value are read as the value. -/
theorem readOctets_of_read {room : Nat} {s : String} {v : Json}
    (h : read room (.ofString s) = .ok v) : readOctets room (Utf8.encode s) = .ok v :=
  (readOctets_octets (isText_of_read h) room .utf8 false).trans h

end PersistedDocument.Json
