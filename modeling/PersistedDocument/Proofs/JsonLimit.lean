import PersistedDocument.Proofs.JsonGrammar

/-!
# Proofs: the limits of the reader

Apart from faults, two things make the reader give up: all that comes before has been read without
fault, and what comes next is a whole number of too many digits, or a bracket for which there is no
room left. The length of a number in a string or in a fraction does not matter, nor does anything
after the first fault of a text.
-/

namespace PersistedDocument.Json

open Reader

/-! ## How far reading gets -/

/-- Reading a text that starts with what is expected, with room for so many arrays and objects, gets
to a value that starts another text, with the room that is left there. -/
inductive Reaches : Nat → LooseText → Spot → Nat → LooseText → Prop
  | here {room : Nat} {t : LooseText} : Reaches room t .value room t
  | inArray {room left : Nat} {t u : LooseText} (hopen : ∀ rest, skipGap t ≠ .scalar ']' :: rest)
    (h : Reaches room (skipGap t) .item left u) :
    Reaches (room + 1) (.scalar '[' :: t) .value left u
  | inObject {room left : Nat} {t u : LooseText} (h : Reaches room (skipGap t) .member left u) :
    Reaches (room + 1) (.scalar '{' :: t) .value left u
  | inItem {room left : Nat} {t u : LooseText} (h : Reaches room t .value left u) :
    Reaches room t .item left u
  | nextItem {room left : Nat} {t w x u : LooseText} {v : Json} (hv : Reads room t (.value v) w)
    (hmark : skipGap w = .scalar ',' :: x) (h : Reaches room (skipGap x) .item left u) :
    Reaches room t .item left u
  | inMember {room left : Nat} {t n w x u : LooseText} (hname : Reader.string t = .ok (n, w))
    (hcolon : skipGap w = .scalar ':' :: x) (h : Reaches room (skipGap x) .value left u) :
    Reaches room (.scalar '"' :: t) .member left u
  | nextMember {room left : Nat} {t n w x y z u : LooseText} {v : Json}
    (hname : Reader.string t = .ok (n, w)) (hcolon : skipGap w = .scalar ':' :: x)
    (hv : Reads room (skipGap x) (.value v) y) (hmark : skipGap y = .scalar ',' :: z)
    (h : Reaches room (skipGap z) .member left u) : Reaches room (.scalar '"' :: t) .member left u

/-- What the reader gives up on at the start of a text, with room for so many arrays and objects. -/
inductive Stops : ReadError → Nat → LooseText → Prop
  | oversizedInteger {room : Nat} {t : LooseText} (h : BeginsOversized t) :
    Stops .oversizedInteger room t
  | array {t : LooseText} : Stops .nestedTooDeeply 0 (.scalar '[' :: t)
  | object {t : LooseText} : Stops .nestedTooDeeply 0 (.scalar '{' :: t)

/-- The reader ends with an error within a bound. -/
def StopsWithin (e : ReadError) (room bound : Nat) (t : LooseText) : Spot → Prop
  | .value => value room bound t = .error e
  | .item => items room bound t = .error e
  | .member => members room bound t = .error e

/-! ## Where the reader stops -/

section

variable {e : ReadError}

theorem eq_malformed_of_escapePart {t : LooseText} (h : escapePart t = .error e) :
    e = .malformed := by
  rw [escapePart.eq_def] at h
  split at h
  · split at h <;> cases h
    rfl
  · split at h <;> cases h
    rfl
  · cases h
    rfl

/-- Strings are read but for faults. -/
theorem eq_malformed_of_stringParts {t : LooseText} (h : stringParts t = .error e) :
    e = .malformed := by
  fun_induction stringParts t with
  | case1 =>
    cases h
    rfl
  | case2 => cases h
  | case3 t _ ih =>
    rcases bind_eq_error.1 h with h | ⟨⟨part, size⟩, -, h⟩
    · exact eq_malformed_of_escapePart h
    rcases bind_eq_error.1 h with h | ⟨⟨parts, after⟩, -, h⟩
    · exact ih size h
    · cases h
  | case4 =>
    cases h
    rfl
  | case5 c t _ _ _ ih =>
    rcases bind_eq_error.1 h with h | ⟨⟨parts, after⟩, -, h⟩
    · exact ih h
    · cases h

theorem eq_malformed_of_string {t : LooseText} (h : Reader.string t = .error e) :
    e = .malformed := by
  rcases bind_eq_error.1 h with h | ⟨⟨parts, after⟩, -, h⟩
  · exact eq_malformed_of_stringParts h
  · cases h

variable (he : e ≠ .malformed)

include he

theorem stops_of_plain {room : Nat} {t : LooseText} (h : plain t = .error e) :
    Stops e room t := by
  unfold plain at h
  split at h
  · cases h
  · rcases eq_of_number_eq_error h with rfl | rfl
    · exact absurd rfl he
    · exact .oversizedInteger (number_eq_oversized_iff.1 h)

/-- Where the reader stops, reading has got to what it gives up on. -/
theorem reaches_of_stopsWithin {room bound : Nat} {t : LooseText} {p : Spot}
    (h : StopsWithin e room bound t p) : ∃ left u, Reaches room t p left u ∧ Stops e left u := by
  induction bound generalizing room t p with
  | zero =>
    cases p with
    | value | item | member =>
      cases h
      exact absurd rfl he
  | succ bound ih =>
    cases p with
    | value =>
      change value room (bound + 1) t = .error e at h
      rcases forms t with ⟨w, rfl⟩ | ⟨w, rfl⟩ | ⟨w, rfl⟩ | hplain
      · rw [value] at h
        rcases bind_eq_error.1 h with h | ⟨⟨s, x⟩, -, h⟩
        · exact absurd (eq_malformed_of_string h) he
        · cases h
      · rw [value] at h
        rcases bind_eq_error.1 h with h | ⟨inner, hinner, h⟩
        · obtain ⟨rfl, rfl⟩ := enter_eq_error_iff.1 h
          exact ⟨0, _, .here, .array⟩
        rw [enter_eq_ok_iff.1 hinner]
        split at h
        · cases h
        · next hopen =>
          rcases bind_eq_error.1 h with h | ⟨⟨vs, x⟩, -, h⟩
          · obtain ⟨left, u, hu, hstops⟩ := ih (p := .item) h
            exact ⟨left, u, .inArray hopen hu, hstops⟩
          · cases h
      · rw [value] at h
        rcases bind_eq_error.1 h with h | ⟨inner, hinner, h⟩
        · obtain ⟨rfl, rfl⟩ := enter_eq_error_iff.1 h
          exact ⟨0, _, .here, .object⟩
        rw [enter_eq_ok_iff.1 hinner]
        split at h
        · cases h
        · rcases bind_eq_error.1 h with h | ⟨⟨ms, x⟩, -, h⟩
          · obtain ⟨left, u, hu, hstops⟩ := ih (p := .member) h
            exact ⟨left, u, .inObject hu, hstops⟩
          · cases h
      · rw [value_of_isPlain hplain] at h
        exact ⟨room, t, .here, stops_of_plain he h⟩
    | item =>
      change items room (bound + 1) t = .error e at h
      rw [items] at h
      rcases bind_eq_error.1 h with h | ⟨⟨v, w⟩, hv, h⟩
      · obtain ⟨left, u, hu, hstops⟩ := ih (p := .value) h
        exact ⟨left, u, .inItem hu, hstops⟩
      have hv := reads_of_findsWithin (p := .value v) hv
      simp only at h
      split at h
      · next x hmark =>
        rcases bind_eq_error.1 h with h | ⟨⟨vs, y⟩, -, h⟩
        · obtain ⟨left, u, hu, hstops⟩ := ih (p := .item) h
          exact ⟨left, u, .nextItem hv hmark hu, hstops⟩
        · cases h
      · cases h
      · cases h
        exact absurd rfl he
    | member =>
      change members room (bound + 1) t = .error e at h
      rw [members.eq_def] at h
      simp only at h
      split at h
      · next w =>
        rcases bind_eq_error.1 h with h | ⟨⟨n, x⟩, hname, h⟩
        · exact absurd (eq_malformed_of_string h) he
        simp only at h
        split at h
        · next y hcolon =>
          rcases bind_eq_error.1 h with h | ⟨⟨v, z⟩, hv, h⟩
          · obtain ⟨left, u, hu, hstops⟩ := ih (p := .value) h
            exact ⟨left, u, .inMember hname hcolon hu, hstops⟩
          have hv := reads_of_findsWithin (p := .value v) hv
          simp only at h
          split at h
          · next more hmark =>
            rcases bind_eq_error.1 h with h | ⟨⟨ms, _⟩, -, h⟩
            · obtain ⟨left, u, hu, hstops⟩ := ih (p := .member) h
              exact ⟨left, u, .nextMember hname hcolon hv hmark hu, hstops⟩
            · cases h
          · cases h
          · cases h
            exact absurd rfl he
        · cases h
          exact absurd rfl he
      · cases h
        exact absurd rfl he

end

/-! ## Stopping -/

theorem Stops.value_eq {e : ReadError} {room : Nat} {t : LooseText} (h : Stops e room t)
    (bound : Nat) : value room (bound + 1) t = .error e := by
  cases h with
  | oversizedInteger h =>
    have hnumber := number_eq_oversized_iff.2 h
    obtain ⟨isNegative, ds, rest, rfl, hds, -, -⟩ := h
    rw [value_of_isPlain (isPlain_withSign hds isNegative rest), plain_withSign hds, hnumber]
  | array => rw [value, bind_eq_of_error (enter_eq_error_iff.2 ⟨rfl, rfl⟩)]
  | object => rw [value, bind_eq_of_error (enter_eq_error_iff.2 ⟨rfl, rfl⟩)]

/-- The reader stops where reading gets to what it gives up on. -/
theorem Reaches.stopsWithin {e : ReadError} {room left : Nat} {t u : LooseText} {p : Spot}
    (h : Reaches room t p left u) (hu : Stops e left u) {bound : Nat}
    (hbound : 2 * t.length + p.margin ≤ bound) : StopsWithin e room bound t p := by
  induction h generalizing bound with
  | @here room t =>
    obtain ⟨bound, rfl⟩ := exists_eq_succ hbound
    show value room (bound + 1) t = .error e
    exact hu.value_eq bound
  | @inArray room left t u hopen h ih =>
    obtain ⟨bound, rfl⟩ := exists_eq_succ hbound
    have hgap := (skipGap_suffix t).length_le
    simp only [List.length_cons, Spot.margin] at hbound ih
    have hitems : items room bound (skipGap t) = .error e := ih hu (by omega)
    show value (room + 1) (bound + 1) (.scalar '[' :: t) = .error e
    rw [value, bind_eq_of_ok (enter_eq_ok_iff.2 rfl)]
    split
    · next w hclose => exact absurd hclose (hopen w)
    · rw [bind_eq_of_error hitems]
  | @inObject room left t u h ih =>
    obtain ⟨bound, rfl⟩ := exists_eq_succ hbound
    have hgap := (skipGap_suffix t).length_le
    simp only [List.length_cons, Spot.margin] at hbound ih
    have hmembers : members room bound (skipGap t) = .error e := ih hu (by omega)
    show value (room + 1) (bound + 1) (.scalar '{' :: t) = .error e
    rw [value, bind_eq_of_ok (enter_eq_ok_iff.2 rfl)]
    split
    · next w hclose =>
      rw [hclose] at h
      cases h
    · rw [bind_eq_of_error hmembers]
  | @inItem room left t u h ih =>
    obtain ⟨bound, rfl⟩ := exists_eq_succ hbound
    simp only [Spot.margin] at hbound ih
    have hvalue : value room bound t = .error e := ih hu (by omega)
    show items room (bound + 1) t = .error e
    rw [items, bind_eq_of_error hvalue]
  | @nextItem room left t w x u v hv hmark h ih =>
    obtain ⟨bound, rfl⟩ := exists_eq_succ hbound
    have hless := length_of_mark hmark
    have hleft := hv.suffix.length_le
    simp only [Spot.margin] at hbound ih
    have hfinds : value room bound t = .ok (v, w) :=
      hv.findsWithin (by simp only [Portion.spot, Spot.margin]; omega)
    have hitems : items room bound (skipGap x) = .error e := ih hu (by omega)
    show items room (bound + 1) t = .error e
    rw [items, bind_eq_of_ok hfinds]
    simp only [hmark]
    rw [bind_eq_of_error hitems]
  | @inMember room left t n w x u hname hcolon h ih =>
    obtain ⟨bound, rfl⟩ := exists_eq_succ hbound
    have hlength := (suffix_of_memberName hname hcolon).length_le
    simp only [List.length_cons, Spot.margin] at hbound ih
    have hvalue : value room bound (skipGap x) = .error e := ih hu (by omega)
    show members room (bound + 1) (.scalar '"' :: t) = .error e
    rw [members, bind_eq_of_ok hname]
    simp only [hcolon]
    rw [bind_eq_of_error hvalue]
  | @nextMember room left t n w x y z u v hname hcolon hv hmark h ih =>
    obtain ⟨bound, rfl⟩ := exists_eq_succ hbound
    have hlength := (suffix_of_memberName hname hcolon).length_le
    have hleft := hv.suffix.length_le
    have hless := length_of_mark hmark
    simp only [List.length_cons, Spot.margin] at hbound ih
    have hfinds : value room bound (skipGap x) = .ok (v, y) :=
      hv.findsWithin (by simp only [Portion.spot, Spot.margin]; omega)
    have hmembers : members room bound (skipGap z) = .error e := ih hu (by omega)
    show members room (bound + 1) (.scalar '"' :: t) = .error e
    rw [members, bind_eq_of_ok hname]
    simp only [hcolon]
    rw [bind_eq_of_ok hfinds]
    simp only [hmark]
    rw [bind_eq_of_error hmembers]

/-! ## Whole texts -/

/-- The reading of a text, with room for so many arrays and objects in each other, comes to
something that the reader gives up on. -/
def Meets (e : ReadError) (room : Nat) (t : LooseText) : Prop :=
  ∃ left u, Reaches room (skipGap t) .value left u ∧ Stops e left u

/-- The reader gives up on a text without a fault exactly if it comes to a number that is too long or
to a bracket for which there is no room. -/
theorem read_eq_error_iff {e : ReadError} (he : e ≠ .malformed) {room : Nat} {t : LooseText} :
    read room t = .error e ↔ Meets e room t := by
  rw [read, bind_eq_error]
  constructor
  · rintro (h | ⟨⟨v, rest⟩, -, h⟩)
    · exact reaches_of_stopsWithin he (p := .value) h
    · simp only at h
      split at h
      · cases h
      · cases h
        exact absurd rfl he
  · rintro ⟨left, u, hreach, hstops⟩
    have hgap := (skipGap_suffix t).length_le
    exact .inl (hreach.stopsWithin hstops (by simp only [Spot.margin]; omega))

/-! ## Other room -/

/-- In any other room, what is read stays the same, unless reading gets to a bracket for which there
is no room left. -/
theorem Reads.reads_or_stops {room : Nat} {t rest : LooseText} {p : Portion}
    (h : Reads room t p rest) (other : Nat) :
    Reads other t p rest
      ∨ ∃ u, Reaches other t p.spot 0 u ∧ Stops .nestedTooDeeply 0 u := by
  induction h generalizing other with
  | string h => exact .inl (.string h)
  | emptyArray h =>
    cases other with
    | zero => exact .inr ⟨_, .here, .array⟩
    | succ other => exact .inl (.emptyArray h)
  | array h ih =>
    cases other with
    | zero => exact .inr ⟨_, .here, .array⟩
    | succ other =>
      rcases ih other with hitems | ⟨u, hu, hstops⟩
      · exact .inl (.array hitems)
      · exact .inr ⟨u, .inArray (h.ne_close (.inl rfl)) hu, hstops⟩
  | emptyObject h =>
    cases other with
    | zero => exact .inr ⟨_, .here, .object⟩
    | succ other => exact .inl (.emptyObject h)
  | object h ih =>
    cases other with
    | zero => exact .inr ⟨_, .here, .object⟩
    | succ other =>
      rcases ih other with hmembers | ⟨u, hu, hstops⟩
      · exact .inl (.object hmembers)
      · exact .inr ⟨u, .inObject hu, hstops⟩
  | plain hplain h => exact .inl (.plain hplain h)
  | lastItem _ hmark ih =>
    rcases ih other with hv | ⟨u, hu, hstops⟩
    · exact .inl (.lastItem hv hmark)
    · exact .inr ⟨u, .inItem hu, hstops⟩
  | item _ hmark _ ih ihmore =>
    rcases ih other with hv | ⟨u, hu, hstops⟩
    · rcases ihmore other with hmore | ⟨u, hu, hstops⟩
      · exact .inl (.item hv hmark hmore)
      · exact .inr ⟨u, .nextItem hv hmark hu, hstops⟩
    · exact .inr ⟨u, .inItem hu, hstops⟩
  | lastMember hname hcolon _ hmark ih =>
    rcases ih other with hv | ⟨u, hu, hstops⟩
    · exact .inl (.lastMember hname hcolon hv hmark)
    · exact .inr ⟨u, .inMember hname hcolon hu, hstops⟩
  | member hname hcolon _ hmark _ ih ihmore =>
    rcases ih other with hv | ⟨u, hu, hstops⟩
    · rcases ihmore other with hmore | ⟨u, hu, hstops⟩
      · exact .inl (.member hname hcolon hv hmark hmore)
      · exact .inr ⟨u, .nextMember hname hcolon hv hmark hu, hstops⟩
    · exact .inr ⟨u, .inMember hname hcolon hu, hstops⟩

/-- The room has no say in what a text is read as, but for whether it is enough. -/
theorem read_of_read {room : Nat} {t : LooseText} {v : Json} (h : read room t = .ok v)
    (other : Nat) : read other t = .ok v ∨ read other t = .error .nestedTooDeeply := by
  obtain ⟨rest, hreads, hrest⟩ := read_eq_ok_iff.1 h
  rcases hreads.reads_or_stops other with hreads | ⟨u, hu, hstops⟩
  · exact .inl (read_eq_ok_iff.2 ⟨rest, hreads, hrest⟩)
  · have hne : ReadError.nestedTooDeeply ≠ .malformed := nofun
    exact .inr ((read_eq_error_iff hne).2 ⟨0, u, hu, hstops⟩)

end PersistedDocument.Json
