import PersistedDocument.Proofs.Fallible
import PersistedDocument.Proofs.JsonNumbers

/-!
# Proofs: the grammar of JSON texts

The reader works within a bound, which it takes from the length of its text. `Reads` says what there
is to read with no bound at all: which portion at the start of a text stands for which value, and
where the text goes on. The reader finds exactly that, and the length of the text is bound enough.
What is left of the bound is the room for arrays and objects in each other, which is part of what
there is to read, and more room never hurts.
-/

namespace PersistedDocument.Json

open Reader

/-! ## The grammar -/

/-- What a portion of a text stands for. Items and members include the bracket that closes them. -/
inductive Portion where
  | value (v : Json)
  | items (vs : List Json)
  | members (ms : List (LooseText × Json))

/-- A text begins with neither a quotation mark nor an opening bracket. -/
def IsPlain (t : LooseText) : Prop := ∀ c ∈ ['"', '[', '{'], t.head? ≠ some (.scalar c)

/-- A word or a number. -/
def plain (t : LooseText) : Except ReadError (Json × LooseText) :=
  match word? t with
  | some found => .ok found
  | none => number t

/-- What the portion at the start of a text stands for, and the text after it, with room for so many
arrays and objects in each other. -/
inductive Reads : Nat → LooseText → Portion → LooseText → Prop
  | string {room : Nat} {t s rest : LooseText} (h : Reader.string t = .ok (s, rest)) :
    Reads room (.scalar '"' :: t) (.value (.string s)) rest
  | emptyArray {room : Nat} {t rest : LooseText} (h : skipGap t = .scalar ']' :: rest) :
    Reads (room + 1) (.scalar '[' :: t) (.value (.array [])) rest
  | array {room : Nat} {t rest : LooseText} {vs : List Json}
    (h : Reads room (skipGap t) (.items vs) rest) :
    Reads (room + 1) (.scalar '[' :: t) (.value (.array vs)) rest
  | emptyObject {room : Nat} {t rest : LooseText} (h : skipGap t = .scalar '}' :: rest) :
    Reads (room + 1) (.scalar '{' :: t) (.value (.object [])) rest
  | object {room : Nat} {t rest : LooseText} {ms : List (LooseText × Json)}
    (h : Reads room (skipGap t) (.members ms) rest) :
    Reads (room + 1) (.scalar '{' :: t) (.value (.object (dedupe ms))) rest
  | plain {room : Nat} {t rest : LooseText} {v : Json} (hplain : IsPlain t)
    (h : Json.plain t = .ok (v, rest)) : Reads room t (.value v) rest
  | lastItem {room : Nat} {t u rest : LooseText} {v : Json} (h : Reads room t (.value v) u)
    (hmark : skipGap u = .scalar ']' :: rest) : Reads room t (.items [v]) rest
  | item {room : Nat} {t u w rest : LooseText} {v : Json} {vs : List Json}
    (h : Reads room t (.value v) u) (hmark : skipGap u = .scalar ',' :: w)
    (hmore : Reads room (skipGap w) (.items vs) rest) : Reads room t (.items (v :: vs)) rest
  | lastMember {room : Nat} {t n u w x rest : LooseText} {v : Json}
    (hname : Reader.string t = .ok (n, u)) (hcolon : skipGap u = .scalar ':' :: w)
    (h : Reads room (skipGap w) (.value v) x) (hmark : skipGap x = .scalar '}' :: rest) :
    Reads room (.scalar '"' :: t) (.members [(n, v)]) rest
  | member {room : Nat} {t n u w x y rest : LooseText} {v : Json} {ms : List (LooseText × Json)}
    (hname : Reader.string t = .ok (n, u)) (hcolon : skipGap u = .scalar ':' :: w)
    (h : Reads room (skipGap w) (.value v) x) (hmark : skipGap x = .scalar ',' :: y)
    (hmore : Reads room (skipGap y) (.members ms) rest) :
    Reads room (.scalar '"' :: t) (.members ((n, v) :: ms)) rest

/-! ## Gaps -/

theorem skipGap_of_not {c : CodePoint} {rest : LooseText} (h : isGap c = false) :
    skipGap (c :: rest) = c :: rest := by
  rw [skipGap, List.dropWhile_cons, h]
  rfl

theorem skipGap_of_head? {c : CodePoint} {t : LooseText} (ht : t.head? = some c)
    (h : isGap c = false) : skipGap t = t := by
  obtain ⟨rest, rfl⟩ := List.head?_eq_some_iff.1 ht
  exact skipGap_of_not h

/-- A gap is skipped up to what comes after it. -/
theorem skipGap_append {gap : List Char} {t : LooseText}
    (hgap : ∀ c ∈ gap, isGap (.scalar c) = true) (ht : skipGap t = t) :
    skipGap (gap.map .scalar ++ t) = t := by
  induction gap with
  | nil => exact ht
  | cons c gap ih =>
    obtain ⟨hc, hgap⟩ := List.forall_mem_cons.1 hgap
    rw [List.map_cons, List.cons_append, skipGap, List.dropWhile_cons, hc]
    exact ih hgap

/-! ## Nothing is put back -/

theorem skipGap_suffix (t : LooseText) : skipGap t <:+ t := List.dropWhile_suffix isGap

theorem suffix_of_skipGap_eq {t rest : LooseText} {c : CodePoint} (h : skipGap t = c :: rest) :
    rest <:+ t :=
  (List.suffix_cons c rest).trans (h ▸ skipGap_suffix t)

/-- What comes after a mark and a gap is the end of what the mark was found in. -/
theorem suffix_of_mark {t rest : LooseText} {c : CodePoint} (h : skipGap t = c :: rest) :
    skipGap rest <:+ t :=
  (skipGap_suffix rest).trans (suffix_of_skipGap_eq h)

theorem length_of_mark {t rest : LooseText} {c : CodePoint} (h : skipGap t = c :: rest) :
    (skipGap rest).length < t.length := by
  have hle := (skipGap_suffix t).length_le
  rw [h, List.length_cons] at hle
  exact Nat.lt_of_le_of_lt (skipGap_suffix rest).length_le hle

theorem suffix_of_stringParts {t rest : LooseText} {parts : List StringPart}
    (h : stringParts t = .ok (parts, rest)) : rest <:+ t := by
  fun_induction stringParts t generalizing parts rest with
  | case1 => cases h
  | case2 t =>
    cases h
    exact List.suffix_cons _ t
  | case3 t _ ih =>
    obtain ⟨⟨part, size⟩, -, h⟩ := bind_eq_ok.1 h
    obtain ⟨⟨more, after⟩, hmore, hret⟩ := bind_eq_ok.1 h
    cases hret
    exact (ih size hmore).trans ((List.drop_suffix size t).trans (List.suffix_cons _ t))
  | case4 => cases h
  | case5 c t _ _ _ ih =>
    obtain ⟨⟨more, after⟩, hmore, hret⟩ := bind_eq_ok.1 h
    cases hret
    exact (ih hmore).trans (List.suffix_cons c t)

theorem suffix_of_string {t s rest : LooseText} (h : Reader.string t = .ok (s, rest)) :
    rest <:+ t := by
  obtain ⟨⟨parts, after⟩, hparts, hret⟩ := bind_eq_ok.1 h
  cases hret
  exact suffix_of_stringParts hparts

theorem suffix_of_memberName {t n u w : LooseText} (hname : Reader.string t = .ok (n, u))
    (hcolon : skipGap u = .scalar ':' :: w) : skipGap w <:+ t :=
  (suffix_of_mark hcolon).trans (suffix_of_string hname)

theorem suffix_of_plain {t rest : LooseText} {v : Json} (h : plain t = .ok (v, rest)) :
    rest <:+ t := by
  unfold plain at h
  split at h
  · next found hfound =>
    cases h
    obtain ⟨⟨w, u⟩, hmem, hword⟩ := List.exists_of_findSome?_eq_some hfound
    simp only at hword
    split at hword
    · cases hword
      exact List.drop_suffix _ t
    · cases hword
  · exact suffix_of_number h

/-- The text after a portion is the end of the text that the portion starts. -/
theorem Reads.suffix {room : Nat} {t rest : LooseText} {p : Portion} (h : Reads room t p rest) :
    rest <:+ t := by
  induction h with
  | string h => exact (suffix_of_string h).trans (List.suffix_cons _ _)
  | emptyArray h | emptyObject h => exact (suffix_of_skipGap_eq h).trans (List.suffix_cons _ _)
  | array _ ih | object _ ih => exact ih.trans ((skipGap_suffix _).trans (List.suffix_cons _ _))
  | plain _ h => exact suffix_of_plain h
  | lastItem _ hmark ih => exact (suffix_of_skipGap_eq hmark).trans ih
  | item _ hmark _ ih ihmore => exact ihmore.trans ((suffix_of_mark hmark).trans ih)
  | lastMember hname hcolon _ hmark ih =>
    have hvalue := (suffix_of_skipGap_eq hmark).trans ih
    exact (hvalue.trans (suffix_of_memberName hname hcolon)).trans (List.suffix_cons _ _)
  | member hname hcolon _ hmark _ ih ihmore =>
    have hvalue := ihmore.trans ((suffix_of_mark hmark).trans ih)
    exact (hvalue.trans (suffix_of_memberName hname hcolon)).trans (List.suffix_cons _ _)

/-! ## Room -/

theorem enter_eq_ok_iff {room inner : Nat} : enter room = .ok inner ↔ room = inner + 1 := by
  cases room <;> simp [enter]

theorem enter_eq_error_iff {room : Nat} {e : ReadError} :
    enter room = .error e ↔ room = 0 ∧ e = .nestedTooDeeply := by
  cases room <;> simp [enter, eq_comm]

/-! ## The reader finds what there is to read -/

theorem value_of_isPlain {t : LooseText} (h : IsPlain t) (room bound : Nat) :
    value room (bound + 1) t = plain t := by
  have hne {c : Char} (hc : c ∈ ['"', '[', '{']) (rest : LooseText) (ht : t = .scalar c :: rest) :
      False := h c hc (ht ▸ rfl)
  rw [value]
  · rfl
  · exact hne (by decide)
  · exact hne (by decide)
  · exact hne (by decide)

theorem isPlain_cons {c : Char} (hc : c ≠ '"' ∧ c ≠ '[' ∧ c ≠ '{') (rest : LooseText) :
    IsPlain (.scalar c :: rest) := by
  intro d hd he
  obtain rfl := CodePoint.scalar.inj (Option.some.inj he)
  simp only [List.mem_cons, List.not_mem_nil, or_false] at hd
  rcases hd with rfl | rfl | rfl
  · exact hc.1 rfl
  · exact hc.2.1 rfl
  · exact hc.2.2 rfl

theorem isPlain_withSign {ds : List Char} (hds : IsWhole ds) (isNegative : Bool)
    (rest : LooseText) : IsPlain ((withSign isNegative ds).map .scalar ++ rest) := by
  obtain ⟨c, cs, htext, hc⟩ := exists_head_withSign hds isNegative
  rw [htext]
  exact isPlain_cons ⟨hc.ne (by decide), hc.ne (by decide), hc.ne (by decide)⟩ _

theorem plain_withSign {ds : List Char} (hds : IsWhole ds) (isNegative : Bool)
    (rest : LooseText) :
    plain ((withSign isNegative ds).map .scalar ++ rest)
      = number ((withSign isNegative ds).map .scalar ++ rest) := by
  rw [plain, word?_withSign hds]

theorem forms (t : LooseText) :
    (∃ rest, t = .scalar '"' :: rest) ∨ (∃ rest, t = .scalar '[' :: rest)
      ∨ (∃ rest, t = .scalar '{' :: rest) ∨ IsPlain t := by
  by_cases h : ∃ c ∈ ['"', '[', '{'], t.head? = some (.scalar c)
  · obtain ⟨c, hc, ht⟩ := h
    obtain ⟨rest, rfl⟩ := List.head?_eq_some_iff.1 ht
    simp only [List.mem_cons, List.not_mem_nil, or_false] at hc
    rcases hc with rfl | rfl | rfl
    · exact .inl ⟨rest, rfl⟩
    · exact .inr (.inl ⟨rest, rfl⟩)
    · exact .inr (.inr (.inl ⟨rest, rfl⟩))
  · exact .inr (.inr (.inr fun c hc ht => h ⟨c, hc, ht⟩))

/-- The reader finds the given portion within a bound. -/
def FindsWithin (room bound : Nat) (t : LooseText) : Portion → LooseText → Prop
  | .value v, rest => value room bound t = .ok (v, rest)
  | .items vs, rest => items room bound t = .ok (vs, rest)
  | .members ms, rest => members room bound t = .ok (ms, rest)

theorem reads_of_findsWithin {room bound : Nat} {t rest : LooseText} {p : Portion}
    (h : FindsWithin room bound t p rest) : Reads room t p rest := by
  induction bound generalizing room t p rest with
  | zero =>
    cases p with
    | value v => cases h
    | items vs => cases h
    | members ms => cases h
  | succ bound ih =>
    cases p with
    | value v =>
      change value room (bound + 1) t = .ok (v, rest) at h
      rcases forms t with ⟨u, rfl⟩ | ⟨u, rfl⟩ | ⟨u, rfl⟩ | hplain
      · rw [value] at h
        obtain ⟨⟨s, w⟩, hs, hret⟩ := bind_eq_ok.1 h
        cases hret
        exact .string hs
      · rw [value] at h
        obtain ⟨inner, hinner, hinside⟩ := bind_eq_ok.1 h
        obtain rfl := enter_eq_ok_iff.1 hinner
        split at hinside
        · next hclose =>
          cases hinside
          exact .emptyArray hclose
        · obtain ⟨⟨vs, w⟩, hvs, hret⟩ := bind_eq_ok.1 hinside
          cases hret
          exact .array (ih (p := .items vs) hvs)
      · rw [value] at h
        obtain ⟨inner, hinner, hinside⟩ := bind_eq_ok.1 h
        obtain rfl := enter_eq_ok_iff.1 hinner
        split at hinside
        · next hclose =>
          cases hinside
          exact .emptyObject hclose
        · obtain ⟨⟨ms, w⟩, hms, hret⟩ := bind_eq_ok.1 hinside
          cases hret
          exact .object (ih (p := .members ms) hms)
      · rw [value_of_isPlain hplain] at h
        exact .plain hplain h
    | items vs =>
      change items room (bound + 1) t = .ok (vs, rest) at h
      rw [items] at h
      obtain ⟨⟨v, u⟩, hv, h⟩ := bind_eq_ok.1 h
      have hv := ih (p := .value v) hv
      simp only at h
      split at h
      · next w hmark =>
        obtain ⟨⟨ws, w⟩, hws, hret⟩ := bind_eq_ok.1 h
        cases hret
        exact .item hv hmark (ih (p := .items ws) hws)
      · next w hmark =>
        cases h
        exact .lastItem hv hmark
      · cases h
    | members ms =>
      change members room (bound + 1) t = .ok (ms, rest) at h
      rw [members.eq_def] at h
      simp only at h
      split at h
      · obtain ⟨⟨n, u⟩, hn, h⟩ := bind_eq_ok.1 h
        simp only at h
        split at h
        · next w hcolon =>
          obtain ⟨⟨v, x⟩, hv, h⟩ := bind_eq_ok.1 h
          have hv := ih (p := .value v) hv
          simp only at h
          split at h
          · next y hmark =>
            obtain ⟨⟨ms, z⟩, hms, hret⟩ := bind_eq_ok.1 h
            cases hret
            exact .member hn hcolon hv hmark (ih (p := .members ms) hms)
          · next y hmark =>
            cases h
            exact .lastMember hn hcolon hv hmark
          · cases h
        · cases h
      · cases h

/-- No portion starts with a closing bracket. -/
theorem Reads.ne_close {room : Nat} {t rest : LooseText} {p : Portion} (h : Reads room t p rest)
    {c : Char} (hc : c = ']' ∨ c = '}') (u : LooseText) : t ≠ .scalar c :: u := by
  induction h with
  | string | emptyArray | array | emptyObject | object | lastMember | member =>
    rcases hc with rfl | rfl <;> nofun
  | plain _ h =>
    rintro rfl
    have hmalformed : Json.plain (.scalar c :: u) = .error .malformed := by
      rcases hc with rfl | rfl <;> rfl
    rw [hmalformed] at h
    cases h
  | lastItem _ _ ih => exact ih
  | item _ _ _ ih => exact ih

/-- An array is found if its items are. -/
theorem value_array {room bound : Nat} {t rest : LooseText} {vs : List Json}
    (hitems : items room bound (skipGap t) = .ok (vs, rest)) :
    value (room + 1) (bound + 1) (.scalar '[' :: t) = .ok (.array vs, rest) := by
  rw [value, bind_eq_of_ok (enter_eq_ok_iff.2 rfl)]
  split
  · next u hclose =>
    have hreads : Reads room (skipGap t) (.items vs) rest :=
      reads_of_findsWithin (p := .items vs) hitems
    exact absurd hclose (hreads.ne_close (.inl rfl) u)
  · rw [bind_eq_of_ok hitems]
    rfl

/-- An object is found if its members are. -/
theorem value_object {room bound : Nat} {t rest : LooseText} {ms : List (LooseText × Json)}
    (hmembers : members room bound (skipGap t) = .ok (ms, rest)) :
    value (room + 1) (bound + 1) (.scalar '{' :: t) = .ok (.object (dedupe ms), rest) := by
  rw [value, bind_eq_of_ok (enter_eq_ok_iff.2 rfl)]
  split
  · next u hclose =>
    have hreads : Reads room (skipGap t) (.members ms) rest :=
      reads_of_findsWithin (p := .members ms) hmembers
    exact absurd hclose (hreads.ne_close (.inr rfl) u)
  · rw [bind_eq_of_ok hmembers]
    rfl

/-- What the reader expects at the start of a text. -/
inductive Spot where
  | value
  | item
  | member
deriving DecidableEq

/-- Where a portion stands. -/
def Portion.spot : Portion → Spot
  | .value _ => .value
  | .items _ => .item
  | .members _ => .member

/-- How much more than twice the length of its text a spot needs as a bound. -/
def Spot.margin : Spot → Nat
  | .value => 1
  | .item | .member => 2

theorem exists_eq_succ {p : Spot} {n bound : Nat} (h : 2 * n + p.margin ≤ bound) :
    ∃ b, bound = b + 1 :=
  ⟨bound - 1, by cases p <;> simp only [Spot.margin] at h <;> omega⟩

/-- The length of a text is bound enough for all that there is to read. -/
theorem Reads.findsWithin {room : Nat} {t rest : LooseText} {p : Portion}
    (h : Reads room t p rest) {bound : Nat} (hbound : 2 * t.length + p.spot.margin ≤ bound) :
    FindsWithin room bound t p rest := by
  induction h generalizing bound with
  | @string room t s rest h =>
    obtain ⟨bound, rfl⟩ := exists_eq_succ hbound
    show value room (bound + 1) (.scalar '"' :: t) = .ok (.string s, rest)
    rw [value, bind_eq_of_ok h]
    rfl
  | @emptyArray room t rest h =>
    obtain ⟨bound, rfl⟩ := exists_eq_succ hbound
    show value (room + 1) (bound + 1) (.scalar '[' :: t) = .ok (.array [], rest)
    rw [value, bind_eq_of_ok (enter_eq_ok_iff.2 rfl), h]
    rfl
  | @array room t rest vs h ih =>
    obtain ⟨bound, rfl⟩ := exists_eq_succ hbound
    have hgap := (skipGap_suffix t).length_le
    simp only [List.length_cons, Portion.spot, Spot.margin] at hbound ih
    exact value_array (ih (by omega))
  | @emptyObject room t rest h =>
    obtain ⟨bound, rfl⟩ := exists_eq_succ hbound
    show value (room + 1) (bound + 1) (.scalar '{' :: t) = .ok (.object [], rest)
    rw [value, bind_eq_of_ok (enter_eq_ok_iff.2 rfl), h]
    rfl
  | @object room t rest ms h ih =>
    obtain ⟨bound, rfl⟩ := exists_eq_succ hbound
    have hgap := (skipGap_suffix t).length_le
    simp only [List.length_cons, Portion.spot, Spot.margin] at hbound ih
    exact value_object (ih (by omega))
  | @plain room t rest v hplain h =>
    obtain ⟨bound, rfl⟩ := exists_eq_succ hbound
    show value room (bound + 1) t = .ok (v, rest)
    rw [value_of_isPlain hplain, h]
  | @lastItem room t u rest v h hmark ih =>
    obtain ⟨bound, rfl⟩ := exists_eq_succ hbound
    simp only [Portion.spot, Spot.margin] at hbound ih
    have hv : value room bound t = .ok (v, u) := ih (by omega)
    show items room (bound + 1) t = .ok ([v], rest)
    rw [items, bind_eq_of_ok hv]
    simp only [hmark]
    rfl
  | @item room t u w rest v vs h hmark hmore ih ihmore =>
    obtain ⟨bound, rfl⟩ := exists_eq_succ hbound
    have hless := length_of_mark hmark
    have hleft := h.suffix.length_le
    simp only [Portion.spot, Spot.margin] at hbound ih ihmore
    have hv : value room bound t = .ok (v, u) := ih (by omega)
    have hvs : items room bound (skipGap w) = .ok (vs, rest) := ihmore (by omega)
    show items room (bound + 1) t = .ok (v :: vs, rest)
    rw [items, bind_eq_of_ok hv]
    simp only [hmark]
    rw [bind_eq_of_ok hvs]
    rfl
  | @lastMember room t n u w x rest v hname hcolon h hmark ih =>
    obtain ⟨bound, rfl⟩ := exists_eq_succ hbound
    have hlength := (suffix_of_memberName hname hcolon).length_le
    simp only [List.length_cons, Portion.spot, Spot.margin] at hbound ih
    have hv : value room bound (skipGap w) = .ok (v, x) := ih (by omega)
    show members room (bound + 1) (.scalar '"' :: t) = .ok ([(n, v)], rest)
    rw [members, bind_eq_of_ok hname]
    simp only [hcolon]
    rw [bind_eq_of_ok hv]
    simp only [hmark]
    rfl
  | @member room t n u w x y rest v ms hname hcolon h hmark hmore ih ihmore =>
    obtain ⟨bound, rfl⟩ := exists_eq_succ hbound
    have hlength := (suffix_of_memberName hname hcolon).length_le
    have hleft := h.suffix.length_le
    have hless := length_of_mark hmark
    simp only [List.length_cons, Portion.spot, Spot.margin] at hbound ih ihmore
    have hv : value room bound (skipGap w) = .ok (v, x) := ih (by omega)
    have hms : members room bound (skipGap y) = .ok (ms, rest) := ihmore (by omega)
    show members room (bound + 1) (.scalar '"' :: t) = .ok ((n, v) :: ms, rest)
    rw [members, bind_eq_of_ok hname]
    simp only [hcolon]
    rw [bind_eq_of_ok hv]
    simp only [hmark]
    rw [bind_eq_of_ok hms]
    rfl

/-- A text is read as a value if it holds the value and nothing else. -/
theorem read_eq_ok_iff {room : Nat} {t : LooseText} {v : Json} :
    read room t = .ok v ↔ ∃ rest, Reads room (skipGap t) (.value v) rest ∧ skipGap rest = [] := by
  rw [read, bind_eq_ok]
  constructor
  · rintro ⟨⟨w, rest⟩, hw, h⟩
    simp only at h
    split at h
    · next hempty =>
      cases h
      exact ⟨rest, reads_of_findsWithin (p := .value v) hw, List.isEmpty_iff.1 hempty⟩
    · cases h
  · rintro ⟨rest, hreads, hrest⟩
    have hgap := (skipGap_suffix t).length_le
    have hfinds : FindsWithin room (2 * t.length + 2) (skipGap t) (.value v) rest :=
      hreads.findsWithin (by simp only [Portion.spot, Spot.margin]; omega)
    refine ⟨(v, rest), hfinds, ?_⟩
    simp only [hrest, List.isEmpty_nil]
    rfl

end PersistedDocument.Json
