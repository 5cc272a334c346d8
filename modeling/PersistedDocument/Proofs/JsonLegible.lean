import PersistedDocument.Proofs.JsonValues

/-!
# Proofs: what JSON texts are read as

A text of characters is not read as any value. In its strings no leading surrogate stands directly
before a trailing one, for two escapes of such surrogates are one character; its whole numbers have
not too many digits; and in its objects no name stands twice. Up to other numbers these are the
values that are read as they were when they are written.
-/

namespace PersistedDocument

/-! ## Surrogates in read strings -/

namespace CodePoint

theorem toNat_of_ofNat? {n : Nat} {c : CodePoint} (h : ofNat? n = some c) : c.toNat = n := by
  rw [ofNat?] at h
  split at h
  · next hin =>
    obtain rfl := Option.some.inj h
    show firstSurrogate + (n - firstSurrogate) = n
    omega
  · split at h
    · next hvalid =>
      obtain rfl := Option.some.inj h
      rw [toNat, Char.ofNat, dif_pos hvalid]
      rfl
    · cases h

theorem not_isTrailing_scalar (c : Char) : ¬isTrailing (CodePoint.scalar c).toNat = true := by
  have hvalid : c.toNat.isValidChar := c.valid
  unfold Nat.isValidChar at hvalid
  rw [isTrailing_iff]
  show ¬(0xDC00 ≤ c.toNat ∧ c.toNat ≤ 0xDFFF)
  omega

/-- A unit is the surrogate that it stands for. -/
theorem single_eq_or (n : Nat) : (Utf16.single n).toNat = n ∨ ∃ c, Utf16.single n = .scalar c := by
  rw [Utf16.single]
  cases h : ofNat? n with
  | none => exact .inr ⟨_, rfl⟩
  | some c => exact .inl (toNat_of_ofNat? h)

theorem isLeading_of_single {n : Nat} (h : isLeading (Utf16.single n).toNat = true) :
    isLeading n = true := by
  rcases single_eq_or n with hn | ⟨c, hc⟩
  · rwa [hn] at h
  · rw [hc] at h
    exact absurd h (not_isLeading_scalar c)

theorem isTrailing_of_single {n : Nat} (h : isTrailing (Utf16.single n).toNat = true) :
    isTrailing n = true := by
  rcases single_eq_or n with hn | ⟨c, hc⟩
  · rwa [hn] at h
  · rw [hc] at h
    exact absurd h (not_isTrailing_scalar c)

/-- What a pair stands for is no surrogate. -/
theorem not_isLeading_pairValue (n m : Nat) :
    ¬isLeading (pairValue n m) = true ∧ ¬isTrailing (pairValue n m) = true := by
  rw [isLeading_iff, isTrailing_iff]
  unfold pairValue
  omega

end CodePoint

namespace LooseText

/-- A text without surrogates. -/
def IsOrdinary (t : LooseText) : Prop := ∀ c ∈ t, ∃ d, c = .scalar d

theorem isOrdinary_ofString (s : String) : IsOrdinary (ofString s) := by
  intro c hc
  obtain ⟨d, -, rfl⟩ := List.mem_map.1 hc
  exact ⟨d, rfl⟩

theorem IsOrdinary.of_suffix {t u : LooseText} (h : IsOrdinary t) (hu : u <:+ t) : IsOrdinary u :=
  fun c hc => h c (hu.subset hc)

theorem hasNoPair_nil : HasNoPair [] := by
  intro before c d after h
  exact absurd h.symm (List.append_ne_nil_of_right_ne_nil _ (List.cons_ne_nil _ _))

theorem HasNoPair.cons {c : CodePoint} {t : LooseText} (h : HasNoPair t)
    (hc : ∀ d ∈ t.head?, ¬(CodePoint.isLeading c.toNat = true
      ∧ CodePoint.isTrailing d.toNat = true)) : HasNoPair (c :: t) := by
  intro before d e after ht
  cases before with
  | nil =>
    obtain ⟨rfl, rfl⟩ := List.cons.inj ht
    exact hc e rfl
  | cons b before => exact h before d e after (List.cons.inj ht).2

end LooseText

namespace Json

open Reader

/-! ## Strings -/

/-- Characters are the only code points among the parts of a string. -/
def ArePlain (parts : List StringPart) : Prop := ∀ c, .point c ∈ parts → ∃ d, c = .scalar d

theorem arePlain_of_escapePart {t : LooseText} {part : StringPart} {size : Nat}
    (h : escapePart t = .ok (part, size)) : ArePlain [part] := by
  rintro c hc
  obtain rfl := List.mem_singleton.1 hc
  rw [escapePart.eq_def] at h
  split at h
  · split at h <;> cases h
  · split at h
    · cases h
      exact ⟨_, rfl⟩
    · cases h
  · cases h

theorem arePlain_of_stringParts {t rest : LooseText} {parts : List StringPart}
    (ht : t.IsOrdinary) (h : stringParts t = .ok (parts, rest)) : ArePlain parts := by
  fun_induction stringParts t generalizing parts rest with
  | case1 => cases h
  | case2 t =>
    cases h
    exact fun c hc => absurd hc List.not_mem_nil
  | case3 t _ ih =>
    obtain ⟨⟨part, size⟩, hpart, h⟩ := bind_eq_ok.1 h
    obtain ⟨⟨more, after⟩, hmore, hret⟩ := bind_eq_ok.1 h
    cases hret
    have hleft := ht.of_suffix ((List.drop_suffix size t).trans (List.suffix_cons _ t))
    intro c hc
    rcases List.mem_cons.1 hc with hc | hc
    · exact arePlain_of_escapePart hpart c (List.mem_singleton.2 hc)
    · exact ih size hleft hmore c hc
  | case4 => cases h
  | case5 c t _ _ _ ih =>
    obtain ⟨⟨more, after⟩, hmore, hret⟩ := bind_eq_ok.1 h
    cases hret
    intro d hd
    rcases List.mem_cons.1 hd with hd | hd
    · obtain rfl := StringPart.point.inj hd
      exact ht d List.mem_cons_self
    · exact ih (ht.of_suffix (List.suffix_cons c t)) hmore d hd

/-- If a string begins with a trailing surrogate, parts begin with its unit. -/
def TrailsLike (s : LooseText) (parts : List StringPart) : Prop :=
  ∀ c ∈ s.head?, CodePoint.isTrailing c.toNat = true →
    ∃ n tail, parts = .unit n :: tail ∧ CodePoint.isTrailing n = true

theorem trailsLike_single (n : Nat) (s : LooseText) (tail : List StringPart) :
    TrailsLike (Utf16.single n :: s) (.unit n :: tail) := by
  intro c hc htrailing
  obtain rfl := Option.some.inj hc
  exact ⟨n, tail, rfl, CodePoint.isTrailing_of_single htrailing⟩

/-- A unit makes no pair with a string whose parts do not begin with the other half. -/
theorem hasNoPair_single_cons {n : Nat} {s : LooseText} {parts : List StringPart}
    (hs : s.HasNoPair) (htrails : TrailsLike s parts)
    (hpair : ∀ m tail, parts = .unit m :: tail →
      ¬(CodePoint.isLeading n = true ∧ CodePoint.isTrailing m = true)) :
    LooseText.HasNoPair (Utf16.single n :: s) := by
  refine hs.cons fun c hc hsplit => ?_
  obtain ⟨m, tail, hparts, htrailing⟩ := htrails c hc hsplit.2
  exact hpair m tail hparts ⟨CodePoint.isLeading_of_single hsplit.1, htrailing⟩

/-- Parts make up a string without pairs. -/
theorem hasNoPair_joinParts {parts : List StringPart} (h : ArePlain parts) :
    (joinParts parts).HasNoPair ∧ TrailsLike (joinParts parts) parts := by
  -- The second half is what keeps a leading unit apart from the string that comes after it.
  fun_induction joinParts parts with
  | case1 => exact ⟨LooseText.hasNoPair_nil, nofun⟩
  | case2 c parts ih =>
    obtain ⟨d, rfl⟩ := h c List.mem_cons_self
    obtain ⟨hmore, -⟩ := ih fun e he => h e (List.mem_cons_of_mem _ he)
    refine ⟨hmore.cons fun e _ hpair => CodePoint.not_isLeading_scalar d hpair.1, ?_⟩
    intro e he htrailing
    obtain rfl := Option.some.inj he
    exact absurd htrailing (CodePoint.not_isTrailing_scalar d)
  | case3 n m parts hpair ih =>
    obtain ⟨hmore, -⟩ := ih fun e he => h e (List.mem_cons_of_mem _ (List.mem_cons_of_mem _ he))
    obtain ⟨hleading, htrailing⟩ := CodePoint.not_isLeading_pairValue n m
    refine ⟨hmore.cons fun e _ he => hleading (CodePoint.isLeading_of_single he.1), ?_⟩
    intro e he hsingle
    obtain rfl := Option.some.inj he
    exact absurd (CodePoint.isTrailing_of_single hsingle) htrailing
  | case4 n m parts hpair ih =>
    obtain ⟨hmore, htrails⟩ := ih fun e he => h e (List.mem_cons_of_mem _ he)
    refine ⟨hasNoPair_single_cons hmore htrails fun k tail hparts hsplit => hpair ?_,
      trailsLike_single n _ _⟩
    obtain rfl := StringPart.unit.inj (List.cons.inj hparts).1
    exact Bool.and_eq_true_iff.2 hsplit
  | case5 n parts hno ih =>
    obtain ⟨hmore, htrails⟩ := ih fun e he => h e (List.mem_cons_of_mem _ he)
    exact ⟨hasNoPair_single_cons hmore htrails fun m tail hparts => absurd hparts (hno m tail),
      trailsLike_single n _ _⟩

theorem hasNoPair_of_string {t s rest : LooseText} (ht : t.IsOrdinary)
    (h : Reader.string t = .ok (s, rest)) : s.HasNoPair := by
  obtain ⟨⟨parts, after⟩, hparts, hret⟩ := bind_eq_ok.1 h
  cases hret
  exact (hasNoPair_joinParts (arePlain_of_stringParts ht hparts)).1

/-! ## Values -/

/-- A value that a text of characters can be read as. -/
inductive IsLegible : Json → Prop
  /-- The value without content. -/
  | null : IsLegible .null
  /-- A truth value. -/
  | boolean (b : Bool) : IsLegible (.boolean b)
  /-- A whole number that has not too many digits. -/
  | integer {n : Int} (h : (Decimal.digits n.natAbs).length ≤ Decimal.maximalDigits) :
    IsLegible (.integer n)
  /-- Any other number. -/
  | real (x : Float) : IsLegible (.real x)
  /-- A string in which no two surrogates make a pair. -/
  | string {s : LooseText} (h : s.HasNoPair) : IsLegible (.string s)
  /-- An array of such values. -/
  | array {items : List Json} (h : ∀ v ∈ items, IsLegible v) : IsLegible (.array items)
  /-- An object with such names and values, each name once. -/
  | object {members : List (LooseText × Json)} (hdistinct : (members.map Prod.fst).Nodup)
    (hnames : ∀ m ∈ members, m.1.HasNoPair) (h : ∀ m ∈ members, IsLegible m.2) :
    IsLegible (.object members)

/-- All numbers in a value are whole numbers. -/
inductive HasOnlyIntegers : Json → Prop
  | null : HasOnlyIntegers .null
  | boolean (b : Bool) : HasOnlyIntegers (.boolean b)
  | integer (n : Int) : HasOnlyIntegers (.integer n)
  | string (s : LooseText) : HasOnlyIntegers (.string s)
  | array {items : List Json} (h : ∀ v ∈ items, HasOnlyIntegers v) : HasOnlyIntegers (.array items)
  | object {members : List (LooseText × Json)} (h : ∀ m ∈ members, HasOnlyIntegers m.2) :
    HasOnlyIntegers (.object members)

/-- Up to other numbers, what can be read is read as it was when it is written. -/
theorem IsLegible.isExact {v : Json} (h : v.IsLegible) (hv : v.HasOnlyIntegers) : v.IsExact := by
  induction h with
  | null => exact .null
  | boolean b => exact .boolean b
  | integer h => exact .integer h
  | real x => cases hv
  | string h => exact .string h
  | array _ ih =>
    cases hv with
    | array hv => exact .array fun v hmem => ih v hmem (hv v hmem)
  | object hdistinct hnames _ ih =>
    cases hv with
    | object hv => exact .object hdistinct hnames fun m hmem => ih m hmem (hv m hmem)

theorem mem_of_lookup {members : List (LooseText × Json)} {name : LooseText} {w : Json}
    (h : members.lookup name = some w) : (name, w) ∈ members := by
  obtain ⟨before, after, rfl, -⟩ := List.lookup_eq_some_iff.1 h
  exact List.mem_append_right _ List.mem_cons_self

/-- The value of a name in a legible object is legible. -/
theorem IsLegible.member? {v w : Json} {name : String} (h : v.IsLegible)
    (hw : v.member? name = some w) : w.IsLegible := by
  obtain ⟨members, hmembers, hlookup⟩ := Option.bind_eq_some_iff.1 hw
  cases h with
  | object _ _ h =>
    obtain rfl := Option.some.inj hmembers
    exact h _ (mem_of_lookup hlookup)
  | null | boolean | integer | real | string | array => cases hmembers

/-! ### Words and numbers -/

/-- The values that words and numbers stand for. -/
inductive IsPlainValue : Json → Prop
  | null : IsPlainValue .null
  | boolean (b : Bool) : IsPlainValue (.boolean b)
  | integer {n : Int} (h : (Decimal.digits n.natAbs).length ≤ Decimal.maximalDigits) :
    IsPlainValue (.integer n)
  | real (x : Float) : IsPlainValue (.real x)

theorem isPlainValue_of_word? {t rest : LooseText} {v : Json} (h : word? t = some (v, rest)) :
    IsPlainValue v := by
  have hwords : ∀ w ∈ words, IsPlainValue w.2 := by
    simp only [words, List.forall_mem_cons]
    exact ⟨.null, .boolean _, .boolean _, .real _, .real _, .real _,
      fun w hw => absurd hw List.not_mem_nil⟩
  obtain ⟨w, hmem, hword⟩ := List.exists_of_findSome?_eq_some h
  simp only at hword
  split at hword
  · cases hword
    exact hwords w hmem
  · cases hword

/-- No number of fewer digits spells more. -/
theorem length_digits_ofDigits {ds : List Char} (hds : ∀ c ∈ ds, c.isDigit = true)
    (hne : ds ≠ []) : (Decimal.digits (Decimal.ofDigits ds)).length ≤ ds.length := by
  have hfold (ds : List Char) (hds : ∀ c ∈ ds, c.isDigit = true) (n : Nat) :
      ds.foldl (fun n c => n * 10 + Decimal.digitValue c) n < (n + 1) * 10 ^ ds.length := by
    induction ds generalizing n with
    | nil => simp
    | cons d ds ih =>
      obtain ⟨hd, hds⟩ := List.forall_mem_cons.1 hds
      have hvalue : Decimal.digitValue d ≤ 9 := by
        have hhigh : d.toNat ≤ 57 := (Char.isDigit_iff_toNat.1 hd).2
        show d.toNat - 48 ≤ 9
        omega
      calc (d :: ds).foldl (fun n c => n * 10 + Decimal.digitValue c) n
          < (n * 10 + Decimal.digitValue d + 1) * 10 ^ ds.length := ih hds _
        _ ≤ ((n + 1) * 10) * 10 ^ ds.length := Nat.mul_le_mul_right _ (by omega)
        _ = (n + 1) * 10 ^ (d :: ds).length := by
          rw [List.length_cons, Nat.pow_succ, Nat.mul_assoc, Nat.mul_comm 10]
  have hlt := hfold ds hds 0
  rw [Nat.zero_add, Nat.one_mul] at hlt
  exact (Nat.length_toDigits_le_iff (by decide) (List.length_pos_iff.2 hne)).2 hlt

theorem isDigit_of_mem_wholeDigits {t : LooseText} {c : Char} (h : c ∈ wholeDigits t) :
    c.isDigit = true := by
  rw [wholeDigits.eq_def] at h
  split at h
  · rw [List.mem_singleton.1 h]
    rfl
  · exact (digitRun_spec t).2.2 c h

theorem isPlainValue_of_number {t rest : LooseText} {v : Json} (h : number t = .ok (v, rest)) :
    IsPlainValue v := by
  simp only [number] at h
  generalize (if minusSign t then t.drop 1 else t) = u at h
  split at h
  · cases h
  next hne =>
  split at h
  · cases h
    exact .real _
  · split at h
    · split at h
      · cases h
      · next hfew =>
        cases h
        have hlength := length_digits_ofDigits (fun c hc => isDigit_of_mem_wholeDigits (t := u) hc)
          (fun hnil => hne (List.isEmpty_iff.2 hnil))
        refine .integer ?_
        have habs : (if minusSign t then -(Decimal.ofDigits (wholeDigits u) : Int)
            else Decimal.ofDigits (wholeDigits u)).natAbs = Decimal.ofDigits (wholeDigits u) := by
          split <;> omega
        rw [habs]
        exact Nat.le_trans hlength (Nat.le_of_not_lt hfew)
    · cases h
      exact .real _

theorem isPlainValue_of_plain {t rest : LooseText} {v : Json} (h : plain t = .ok (v, rest)) :
    IsPlainValue v := by
  unfold plain at h
  split at h
  · next found hfound =>
    cases h
    exact isPlainValue_of_word? hfound
  · exact isPlainValue_of_number h

theorem IsPlainValue.isLegible {v : Json} (h : IsPlainValue v) : v.IsLegible := by
  cases h with
  | null => exact .null
  | boolean b => exact .boolean b
  | integer h => exact .integer h
  | real x => exact .real x

/-! ### Arrays and objects -/

/-- What a portion of a text of characters stands for. -/
def Portion.IsLegible : Portion → Prop
  | .value v => v.IsLegible
  | .items vs => ∀ v ∈ vs, v.IsLegible
  | .members ms => ∀ m ∈ ms, m.1.HasNoPair ∧ m.2.IsLegible

theorem Reads.isLegible {room : Nat} {t rest : LooseText} {p : Portion} (h : Reads room t p rest)
    (ht : t.IsOrdinary) : p.IsLegible := by
  -- Every portion is read from an end of the text, so there are only characters in it.
  induction h with
  | string h =>
    exact .string (hasNoPair_of_string (ht.of_suffix (List.suffix_cons _ _)) h)
  | emptyArray => exact .array nofun
  | emptyObject => exact .object List.nodup_nil nofun nofun
  | array _ ih =>
    exact .array (ih (ht.of_suffix ((skipGap_suffix _).trans (List.suffix_cons _ _))))
  | object _ ih =>
    have hms := ih (ht.of_suffix ((skipGap_suffix _).trans (List.suffix_cons _ _)))
    exact .object (nodup_dedupe _) (fun m hm => (hms m (mem_of_mem_dedupe hm)).1)
      fun m hm => (hms m (mem_of_mem_dedupe hm)).2
  | plain _ h => exact (isPlainValue_of_plain h).isLegible
  | lastItem _ _ ih => exact List.forall_mem_singleton.2 (ih ht)
  | item h hmark _ ih ihmore =>
    exact List.forall_mem_cons.2
      ⟨ih ht, ihmore (ht.of_suffix ((suffix_of_mark hmark).trans h.suffix))⟩
  | lastMember hname hcolon h hmark ih =>
    have ht := ht.of_suffix (List.suffix_cons _ _)
    exact List.forall_mem_singleton.2
      ⟨hasNoPair_of_string ht hname, ih (ht.of_suffix (suffix_of_memberName hname hcolon))⟩
  | member hname hcolon h hmark _ ih ihmore =>
    have ht := ht.of_suffix (List.suffix_cons _ _)
    have hvalue := ht.of_suffix (suffix_of_memberName hname hcolon)
    exact List.forall_mem_cons.2 ⟨⟨hasNoPair_of_string ht hname, ih hvalue⟩,
      ihmore (hvalue.of_suffix ((suffix_of_mark hmark).trans h.suffix))⟩

/-- What a text of characters is read as. -/
theorem isLegible_of_read {room : Nat} {s : String} {v : Json}
    (h : read room (.ofString s) = .ok v) : v.IsLegible := by
  obtain ⟨rest, hreads, -⟩ := read_eq_ok_iff.1 h
  exact hreads.isLegible ((LooseText.isOrdinary_ofString s).of_suffix (skipGap_suffix _))

/-! ## The room that values take up -/

/-- There is room for what a portion stands for. -/
def Portion.FitsIn (room : Nat) : Portion → Prop
  | .value v => v.FitsIn room
  | .items vs => ∀ v ∈ vs, v.FitsIn room
  | .members ms => ∀ m ∈ ms, m.2.FitsIn room

theorem IsPlainValue.fitsIn {v : Json} (h : IsPlainValue v) (room : Nat) : v.FitsIn room := by
  cases h with
  | null => exact .null
  | boolean b => exact .boolean b
  | integer => exact .integer _
  | real x => exact .real x

/-- What is read with some room is read into no more. -/
theorem Reads.fitsIn {room : Nat} {t rest : LooseText} {p : Portion} (h : Reads room t p rest) :
    p.FitsIn room := by
  induction h with
  | string => exact .string _
  | emptyArray => exact .array nofun
  | array _ ih => exact .array ih
  | emptyObject => exact .object nofun
  | object _ ih => exact .object fun m hm => ih m (mem_of_mem_dedupe hm)
  | plain _ h => exact (isPlainValue_of_plain h).fitsIn _
  | lastItem _ _ ih => exact List.forall_mem_singleton.2 ih
  | item _ _ _ ih ihmore => exact List.forall_mem_cons.2 ⟨ih, ihmore⟩
  | lastMember _ _ _ _ ih => exact List.forall_mem_singleton.2 ih
  | member _ _ _ _ _ ih ihmore => exact List.forall_mem_cons.2 ⟨ih, ihmore⟩

theorem fitsIn_of_read {room : Nat} {t : LooseText} {v : Json} (h : read room t = .ok v) :
    v.FitsIn room := by
  obtain ⟨rest, hreads, -⟩ := read_eq_ok_iff.1 h
  exact hreads.fitsIn

/-- There is room for the value of a name where there is room for the object. -/
theorem FitsIn.member? {room : Nat} {v w : Json} {name : String} (h : v.FitsIn room)
    (hw : v.member? name = some w) : w.FitsIn room := by
  obtain ⟨members, hmembers, hlookup⟩ := Option.bind_eq_some_iff.1 hw
  cases h with
  | object h =>
    obtain rfl := Option.some.inj hmembers
    exact (h _ (mem_of_lookup hlookup)).mono (Nat.le_succ _)
  | null | boolean | integer | real | string | array => cases hmembers

end Json

end PersistedDocument
