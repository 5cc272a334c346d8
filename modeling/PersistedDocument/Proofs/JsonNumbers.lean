import PersistedDocument.Json.Reader
import PersistedDocument.Json.Writer

/-!
# Proofs: numbers in JSON texts

What the reader of numbers does with whole numbers. Those that are written are read as they were,
and those of too many digits are where it stops.
-/

namespace PersistedDocument

/-! ## Decimal digits -/

namespace Decimal

theorem isDigit_of_mem_digits {n : Nat} {c : Char} (h : c ∈ digits n) : c.isDigit = true :=
  Nat.isDigit_of_mem_toDigits (by decide) (by decide) h

theorem digits_ne_nil (n : Nat) : digits n ≠ [] := Nat.toDigits_ne_nil

theorem ofDigits_digits (n : Nat) : ofDigits (digits n) = n := by
  have hspelled := @Nat.ofDigitChars_toDigits 10 n (by decide) (by decide)
  rw [Nat.ofDigitChars] at hspelled
  rw [ofDigits, digits]
  simpa only [digitValue, Nat.mul_comm] using hspelled

/-- Only zero has a zero as its first digit. -/
theorem digits_eq_zero {n : Nat} {ds : List Char} (h : digits n = '0' :: ds) : ds = [] := by
  induction n using Nat.strongRecOn generalizing ds with
  | ind n ih =>
    by_cases hn : n < 10
    · rw [digits, Nat.toDigits_of_lt_base hn] at h
      exact (List.cons.inj h).2.symm
    · have hle : 10 ≤ n := Nat.le_of_not_lt hn
      have hcut : digits n = digits (n / 10) ++ [(n % 10).digitChar] :=
        Nat.toDigits_of_base_le (by decide) hle
      obtain ⟨d, es, hes⟩ := List.exists_cons_of_ne_nil (digits_ne_nil (n / 10))
      rw [hcut, hes] at h
      obtain ⟨rfl, -⟩ := List.cons.inj h
      have hnil := ih (n / 10) (by omega) hes
      have hzero : n / 10 = 0 := by
        rw [← ofDigits_digits (n / 10), hes, hnil]
        rfl
      omega

end Decimal

namespace Json

open Reader

/-! ## Runs of digits -/

theorem ne_of_isDigit {c d : Char} (hc : c.isDigit = true) (hd : d.isDigit = false) : c ≠ d := by
  rintro rfl
  rw [hc] at hd
  cases hd

theorem digitRun_append {ds : List Char} (hds : ∀ c ∈ ds, c.isDigit = true) (rest : LooseText) :
    digitRun (ds.map .scalar ++ rest) = ds ++ digitRun rest := by
  induction ds with
  | nil => rfl
  | cons c ds ih =>
    obtain ⟨hc, hds⟩ := List.forall_mem_cons.1 hds
    rw [List.map_cons, List.cons_append, digitRun, if_pos hc, ih hds]
    rfl

/-- A text is the digits at its start and what no digit starts. -/
theorem digitRun_spec (t : LooseText) :
    t = (digitRun t).map .scalar ++ t.drop (digitRun t).length
      ∧ digitRun (t.drop (digitRun t).length) = [] ∧ ∀ c ∈ digitRun t, c.isDigit = true := by
  fun_induction digitRun t with
  | case1 c t hc ih =>
    obtain ⟨ht, hrest, hall⟩ := ih
    exact ⟨congrArg (CodePoint.scalar c :: ·) ht, hrest, List.forall_mem_cons.2 ⟨hc, hall⟩⟩
  | case2 c t hc =>
    refine ⟨rfl, ?_, nofun⟩
    rw [List.length_nil, List.drop_zero, digitRun, if_neg hc]
  | case3 t hne =>
    refine ⟨rfl, ?_, nofun⟩
    rw [List.length_nil, List.drop_zero, digitRun]
    exact hne

/-- A whole number is over: neither a digit nor a fraction nor an exponent comes next. -/
structure EndsWhole (t : LooseText) : Prop where
  digit : digitRun t = []
  fraction : fractionDigits t = []
  exponent : exponentParts t = none

/-- What does not go on with a number. -/
def EndsNumber (t : LooseText) : Prop :=
  ∀ c, t.head? = some (.scalar c) → c.isDigit = false ∧ c ≠ '.' ∧ c ≠ 'e' ∧ c ≠ 'E'

theorem EndsNumber.endsWhole {t : LooseText} (h : EndsNumber t) : EndsWhole t := by
  refine ⟨?_, ?_, ?_⟩
  · rw [digitRun.eq_def]
    split
    · next c _ => rw [(h c rfl).1]; rfl
    · rfl
  · rw [fractionDigits.eq_def]
    split
    · exact absurd rfl (h '.' rfl).2.1
    · rfl
  · rw [exponentParts.eq_def]
    split
    · next c rest =>
      obtain ⟨-, -, he, hE⟩ := h c rfl
      rw [if_neg (not_or.2 ⟨he, hE⟩)]
    · rfl

/-! ## Whole numbers -/

/-- Digits that a whole number is written with: at least one, and a zero in front only alone. -/
structure IsWhole (ds : List Char) : Prop where
  digits : ∀ c ∈ ds, c.isDigit = true
  nonempty : ds ≠ []
  zero : ∀ es, ds = '0' :: es → es = []

theorem isWhole_digits (n : Nat) : IsWhole (Decimal.digits n) :=
  ⟨fun _ => Decimal.isDigit_of_mem_digits, Decimal.digits_ne_nil n, fun _ => Decimal.digits_eq_zero⟩

theorem wholeDigits_append {ds : List Char} {rest : LooseText} (hds : IsWhole ds)
    (hrest : digitRun rest = []) : wholeDigits (ds.map .scalar ++ rest) = ds := by
  obtain ⟨d, es, rfl⟩ := List.exists_cons_of_ne_nil hds.nonempty
  by_cases hd : d = '0'
  · subst hd
    rw [hds.zero es rfl]
    rfl
  · have hrun := digitRun_append hds.digits rest
    rw [List.map_cons, List.cons_append, hrest, List.append_nil] at hrun
    rw [List.map_cons, List.cons_append, wholeDigits]
    · exact hrun
    · rintro rest' he
      exact hd (CodePoint.scalar.inj (List.cons.inj he).1)

/-- The integer part of a number of more than one digit is all the digits that come first. -/
theorem isWhole_of_wholeDigits {t : LooseText} (h : 1 < (wholeDigits t).length) :
    IsWhole (wholeDigits t)
      ∧ t = (wholeDigits t).map .scalar ++ t.drop (wholeDigits t).length
      ∧ digitRun (t.drop (wholeDigits t).length) = [] := by
  have hzero (u : LooseText) : t ≠ .scalar '0' :: u := by
    rintro rfl
    exact Nat.lt_irrefl 1 h
  have hrun : wholeDigits t = digitRun t := by
    rw [wholeDigits]
    exact hzero
  rw [hrun] at h ⊢
  obtain ⟨ht, hrest, hall⟩ := digitRun_spec t
  refine ⟨⟨hall, ?_, fun es he => ?_⟩, ht, hrest⟩
  · exact List.ne_nil_of_length_pos (Nat.lt_trans Nat.zero_lt_one h)
  · rw [he] at ht
    exact absurd ht (hzero _)

/-- Digits with or without a minus sign before them. -/
def withSign (isNegative : Bool) (ds : List Char) : List Char :=
  if isNegative then '-' :: ds else ds

/-- A digit or a minus sign. -/
def StartsNumber (c : Char) : Prop := c.isDigit = true ∨ c = '-'

theorem StartsNumber.ne {c d : Char} (hc : StartsNumber c) (hd : d.isDigit = false ∧ d ≠ '-') :
    c ≠ d := by
  rcases hc with hc | rfl
  · exact ne_of_isDigit hc hd.1
  · exact hd.2.symm

theorem StartsNumber.isGap_eq {c : Char} (hc : StartsNumber c) : isGap (.scalar c) = false := by
  simp [isGap, hc.ne (show ' '.isDigit = false ∧ ' ' ≠ '-' by decide),
    hc.ne (show '\t'.isDigit = false ∧ '\t' ≠ '-' by decide),
    hc.ne (show '\n'.isDigit = false ∧ '\n' ≠ '-' by decide),
    hc.ne (show '\r'.isDigit = false ∧ '\r' ≠ '-' by decide)]

theorem exists_head_withSign {ds : List Char} (hds : IsWhole ds) (isNegative : Bool) :
    ∃ c cs, withSign isNegative ds = c :: cs ∧ StartsNumber c := by
  obtain ⟨d, es, rfl⟩ := List.exists_cons_of_ne_nil hds.nonempty
  cases isNegative with
  | true => exact ⟨'-', d :: es, rfl, .inr rfl⟩
  | false => exact ⟨d, es, rfl, .inl (hds.digits d List.mem_cons_self)⟩

/-- No word begins with a digit, and the one that begins with a minus sign goes on with a letter. -/
theorem word?_of_isDigit {c : Char} (hc : c.isDigit = true) (rest : LooseText) :
    word? (.scalar c :: rest) = none ∧ word? (.scalar '-' :: .scalar c :: rest) = none := by
  have hne (d : Char) (hd : d.isDigit = false) : d ≠ c := (ne_of_isDigit hc hd).symm
  have hI : 'I' ≠ c := hne 'I' (by decide)
  constructor
  · simp [word?, words, LooseText.ofString, hI, hne 'n' (by decide), hne 't' (by decide),
      hne 'f' (by decide), hne 'N' (by decide), hne '-' (by decide)]
  · simp [word?, words, LooseText.ofString, hI]

theorem word?_withSign {ds : List Char} (hds : IsWhole ds) (isNegative : Bool)
    (rest : LooseText) : word? ((withSign isNegative ds).map .scalar ++ rest) = none := by
  obtain ⟨d, es, rfl⟩ := List.exists_cons_of_ne_nil hds.nonempty
  have hd := hds.digits d List.mem_cons_self
  cases isNegative with
  | true => exact (word?_of_isDigit hd _).2
  | false => exact (word?_of_isDigit hd _).1

/-- A whole number is read to its end, unless it has too many digits. -/
theorem number_whole {ds : List Char} {rest : LooseText} (hds : IsWhole ds) (hrest : EndsWhole rest)
    (isNegative : Bool) :
    number ((withSign isNegative ds).map .scalar ++ rest)
      = if Decimal.maximalDigits < ds.length then .error .oversizedInteger
        else .ok (.integer (if isNegative then -Decimal.ofDigits ds else Decimal.ofDigits ds),
          rest) := by
  have hsign : minusSign ((withSign isNegative ds).map .scalar ++ rest) = isNegative := by
    cases isNegative with
    | true => rfl
    | false =>
      obtain ⟨d, es, rfl⟩ := List.exists_cons_of_ne_nil hds.nonempty
      have hd : d ≠ '-' := ne_of_isDigit (hds.digits d List.mem_cons_self) (by decide)
      show minusSign (.scalar d :: (es.map .scalar ++ rest)) = false
      rw [minusSign]
      rintro rest' he
      exact hd (CodePoint.scalar.inj (List.cons.inj he).1)
  have hunsigned : (if isNegative = true
      then ((withSign isNegative ds).map CodePoint.scalar ++ rest).drop 1
      else (withSign isNegative ds).map CodePoint.scalar ++ rest) = ds.map .scalar ++ rest := by
    cases isNegative <;> rfl
  have hne : ds.isEmpty = false := List.isEmpty_eq_false_iff.2 hds.nonempty
  have hdrop : (ds.map CodePoint.scalar ++ rest).drop ds.length = rest :=
    List.drop_left' (List.length_map _)
  simp only [number, hsign, hunsigned, wholeDigits_append hds hrest.digit, hne, hdrop,
    hrest.fraction, hrest.exponent, List.isEmpty_nil, Bool.false_eq_true, if_false, if_true,
    gt_iff_lt]

theorem exists_writeInteger_eq (n : Int) :
    ∃ isNegative, writeInteger n = withSign isNegative (Decimal.digits n.natAbs) := by
  cases n with
  | ofNat n => exact ⟨false, rfl⟩
  | negSucc n => exact ⟨true, rfl⟩

/-- A written whole number is read as it was, up to what does not go on with a number. -/
theorem number_writeInteger {n : Int} {rest : LooseText}
    (h : (Decimal.digits n.natAbs).length ≤ Decimal.maximalDigits) (hrest : EndsNumber rest) :
    number ((writeInteger n).map .scalar ++ rest) = .ok (.integer n, rest) := by
  cases n with
  | ofNat n =>
    have hread := number_whole (isWhole_digits n) hrest.endsWhole false
    have hfew : ¬Decimal.maximalDigits < (Decimal.digits n).length := Nat.not_lt.2 h
    rw [if_neg hfew, Decimal.ofDigits_digits] at hread
    exact hread
  | negSucc n =>
    have hread := number_whole (isWhole_digits (n + 1)) hrest.endsWhole true
    have hfew : ¬Decimal.maximalDigits < (Decimal.digits (n + 1)).length := Nat.not_lt.2 h
    rw [if_neg hfew, Decimal.ofDigits_digits] at hread
    exact hread

/-- A text begins with a whole number of too many digits. -/
def BeginsOversized (t : LooseText) : Prop :=
  ∃ (isNegative : Bool) (ds : List Char) (rest : LooseText),
    t = (withSign isNegative ds).map .scalar ++ rest ∧ IsWhole ds
      ∧ Decimal.maximalDigits < ds.length ∧ EndsWhole rest

theorem exists_withSign (t : LooseText) :
    ∃ isNegative, ∀ (ds : List Char) (rest : LooseText),
      (if minusSign t then t.drop 1 else t) = ds.map .scalar ++ rest →
        t = (withSign isNegative ds).map .scalar ++ rest := by
  rw [minusSign.eq_def]
  split
  · next u =>
    exact ⟨true, fun ds rest h => congrArg (CodePoint.scalar '-' :: ·) h⟩
  · exact ⟨false, fun ds rest h => h⟩

/-- Numbers are read but for whole numbers of too many digits, and but for what is no number. -/
theorem number_eq_oversized_iff {t : LooseText} :
    number t = .error .oversizedInteger ↔ BeginsOversized t := by
  constructor
  · intro h
    obtain ⟨isNegative, hsign⟩ := exists_withSign t
    simp only [number] at h
    generalize (if minusSign t then t.drop 1 else t) = u at h hsign
    split at h
    · cases h
    split at h
    · cases h
    next hexponent =>
    split at h
    · next hfraction =>
      split at h
      · next hlong =>
        have hone : 1 < (wholeDigits u).length := Nat.lt_trans (by decide) hlong
        obtain ⟨hwhole, hu, hrun⟩ := isWhole_of_wholeDigits hone
        rw [if_pos hfraction] at hexponent
        exact ⟨isNegative, wholeDigits u, _, hsign _ _ hu, hwhole, hlong,
          ⟨hrun, List.isEmpty_iff.1 hfraction, hexponent⟩⟩
      · cases h
    · cases h
  · rintro ⟨isNegative, ds, rest, rfl, hds, hlong, hrest⟩
    rw [number_whole hds hrest, if_pos hlong]

/-- Nothing but its digits makes the reader give up on a number. -/
theorem eq_of_number_eq_error {t : LooseText} {e : ReadError} (h : number t = .error e) :
    e = .malformed ∨ e = .oversizedInteger := by
  simp only [number] at h
  generalize (if minusSign t then t.drop 1 else t) = u at h
  split at h
  · cases h
    exact .inl rfl
  split at h
  · cases h
  split at h
  · split at h
    · cases h
      exact .inr rfl
    · cases h
  · cases h

/-! ## Any numbers -/

theorem suffix_of_number {t rest : LooseText} {v : Json} (h : number t = .ok (v, rest)) :
    rest <:+ t := by
  have hsign : (if minusSign t then t.drop 1 else t) <:+ t := by
    split
    · exact List.drop_suffix 1 t
    · exact List.suffix_refl t
  simp only [number] at h
  -- what is left after each part of the number is named, and is an end of what was left before
  generalize (if minusSign t then t.drop 1 else t) = u at h hsign
  split at h
  · cases h
  have hwhole : u.drop (wholeDigits u).length <:+ u := List.drop_suffix _ u
  generalize u.drop (wholeDigits u).length = w at h hwhole
  have hfraction : (if (fractionDigits w).isEmpty then w
      else w.drop ((fractionDigits w).length + 1)) <:+ w := by
    split
    · exact List.suffix_refl w
    · exact List.drop_suffix _ w
  generalize (if (fractionDigits w).isEmpty then w
      else w.drop ((fractionDigits w).length + 1)) = x at h hfraction
  have hx := hfraction.trans (hwhole.trans hsign)
  split at h
  · cases h
    exact (List.drop_suffix _ x).trans hx
  · split at h
    · split at h
      · cases h
      · cases h
        exact hx
    · cases h
      exact hx

end Json

end PersistedDocument
