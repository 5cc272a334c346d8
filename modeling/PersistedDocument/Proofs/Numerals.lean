import PersistedDocument.GraphQL.Lexer
import PersistedDocument.Proofs.Fallible

/-!
# Proofs: number literals

What is scanned as a number is scanned again, to the same end, wherever it stands before something
that does not run into it. Each part of a number is scanned up to the first character that does not
belong to it, so that it depends on no more than that character.
-/

namespace PersistedDocument

namespace GraphQL.Lexer

/-! ## What stands apart -/

/-- A character that runs into a name, a number or a string before it. -/
def isTight (c : Char) : Bool := isNameContinue c || c = '.' || c = '"'

/-- A text that does not run into what stands before it. -/
def StandsApart (rest : List Char) : Prop := ∀ c ∈ rest.head?, isTight c = false

/-- A text that does not go on with a digit. -/
def NoDigit (rest : List Char) : Prop := ∀ c ∈ rest.head?, c.isDigit = false

theorem StandsApart.noDigit {rest : List Char} (h : StandsApart rest) : NoDigit rest := by
  intro c hc
  have htight := h c hc
  simp only [isTight, isNameContinue, Char.isAlphanum, Bool.or_eq_false_iff] at htight
  exact htight.1.1.1.2

/-- A text with which a number before it does not go on. -/
def EndsNumber (rest : List Char) : Prop :=
  ∀ c ∈ rest.head?, c.isDigit = false ∧ c ≠ '.' ∧ isNameStart c = false

theorem EndsNumber.noDigit {rest : List Char} (h : EndsNumber rest) : NoDigit rest :=
  fun c hc => (h c hc).1

theorem StandsApart.endsNumber {rest : List Char} (h : StandsApart rest) : EndsNumber rest := by
  intro c hc
  have hdigit := h.noDigit c hc
  have htight := h c hc
  simp only [isTight, isNameContinue, Char.isAlphanum, Bool.or_eq_false_iff,
    decide_eq_false_iff_not] at htight
  exact ⟨hdigit, htight.1.2, by simp [isNameStart, htight]⟩

/-- What ends a number is what the scanner of numbers lets follow, a digit apart. -/
theorem endsNumber_iff {rest : List Char} : EndsNumber rest ↔
    NoDigit rest ∧ rest.head?.any (fun c => c = '.' || isNameStart c) = false := by
  cases rest with
  | nil => simp [EndsNumber, NoDigit]
  | cons c rest => simp [EndsNumber, NoDigit]

/-! ## The parts of a number -/

theorem digits_append {run rest : List Char} (hrun : ∀ c ∈ run, c.isDigit = true) (hne : run ≠ [])
    (hrest : NoDigit rest) : digits (run ++ rest) = .ok run := by
  have htake : (run ++ rest).takeWhile Char.isDigit = run := by
    rw [List.takeWhile_append_of_pos hrun]
    cases rest with
    | nil => simp
    | cons c rest =>
      rw [List.takeWhile_cons_of_neg (by simp [hrest c rfl]), List.append_nil]
  rw [digits, htake]
  simp [hne]

theorem exists_digits {cs run : List Char} (h : digits cs = .ok run) :
    (∃ rest, cs = run ++ rest ∧ NoDigit rest) ∧ run ≠ [] ∧ ∀ c ∈ run, c.isDigit = true := by
  rw [digits] at h
  split at h
  · cases h
  · next hne =>
    obtain rfl := Except.ok.inj h
    refine ⟨⟨cs.dropWhile Char.isDigit, List.takeWhile_append_dropWhile.symm, ?_⟩,
      by simpa using hne, fun c hc => ?_⟩
    · intro c hc
      have hhead := List.head?_dropWhile_not Char.isDigit cs
      rw [Option.mem_def.1 hc] at hhead
      simpa using hhead
    · exact List.all_eq_true.1 List.all_takeWhile c hc

theorem not_newline_mem_digits {run : List Char} (h : ∀ c ∈ run, c.isDigit = true) : '\n' ∉ run :=
  fun hmem => absurd (h _ hmem) (by decide)

theorem wholePart_append {cs whole : List Char} (h : wholePart cs = .ok whole) :
    (∃ rest, cs = whole ++ rest ∧ NoDigit rest) ∧ whole ≠ [] ∧ (∀ c ∈ whole, c.isDigit = true) ∧
      ∀ rest, NoDigit rest → wholePart (whole ++ rest) = .ok whole := by
  fun_cases wholePart cs with
  | case1 c cs hc => simp [wholePart, hc] at h
  | case2 c cs hc =>
    obtain rfl : ['0'] = whole := by simpa [wholePart, hc] using h
    have hnext : NoDigit (c :: cs) := by simpa [NoDigit] using hc
    refine ⟨⟨c :: cs, rfl, hnext⟩, by simp, by simp, fun rest hrest => ?_⟩
    cases rest with
    | nil => rfl
    | cons d rest => simp [wholePart, hrest d rfl]
  | case3 =>
    obtain rfl : ['0'] = whole := by simpa [wholePart] using h
    refine ⟨⟨[], rfl, nofun⟩, by simp, by simp, fun rest hrest => ?_⟩
    cases rest with
    | nil => rfl
    | cons d rest => simp [wholePart, hrest d rfl]
  | case4 _ hnocons hnonil =>
    rw [wholePart.eq_3 _ hnocons hnonil] at h
    obtain ⟨⟨rest', rfl, hnext⟩, hne, hdigits⟩ := exists_digits h
    refine ⟨⟨rest', rfl, hnext⟩, hne, hdigits, fun rest hrest => ?_⟩
    have hzero : ∀ ds, whole ≠ '0' :: ds := by
      rintro ds rfl
      cases hds : ds ++ rest' with
      | nil => exact hnonil (by rw [List.cons_append, hds])
      | cons d ds' => exact hnocons d ds' (by rw [List.cons_append, hds])
    obtain ⟨d, ds, rfl⟩ := List.exists_cons_of_ne_nil hne
    rw [wholePart.eq_3]
    · exact digits_append hdigits hne hrest
    · exact fun c tail he => hzero ds (by rw [(List.cons.inj he).1])
    · exact fun he => hzero ds (by rw [(List.cons.inj he).1])

theorem fractionPart_append {cs fraction : List Char} (h : fractionPart cs = .ok fraction) :
    (∃ rest, cs = fraction ++ rest ∧ (NoDigit cs → NoDigit rest)) ∧
      (∀ c ∈ fraction.head?, c = '.') ∧ '\n' ∉ fraction ∧
      ∀ rest, NoDigit rest → (∀ c ∈ rest.head?, c ≠ '.') →
        fractionPart (fraction ++ rest) = .ok fraction := by
  fun_cases fractionPart cs with
  | case1 cs =>
    rw [fractionPart, map_eq_ok] at h
    obtain ⟨run, hrun, rfl⟩ := h
    obtain ⟨⟨rest', rfl, hnext⟩, hne, hdigits⟩ := exists_digits hrun
    refine ⟨⟨rest', rfl, fun _ => hnext⟩, by simp, by simp [not_newline_mem_digits hdigits],
      fun rest hrest _ => ?_⟩
    rw [List.cons_append, fractionPart, digits_append hdigits hne hrest]
    rfl
  | case2 _ hno =>
    rw [fractionPart.eq_2 _ hno] at h
    obtain rfl := Except.ok.inj h
    refine ⟨⟨cs, rfl, id⟩, by simp, by simp, fun rest _ hpoint => ?_⟩
    refine fractionPart.eq_2 _ fun ds hds => hpoint '.' ?_ rfl
    rw [← List.nil_append rest, hds]
    rfl

theorem signedDigits_append {cs signed : List Char} (h : signedDigits cs = .ok signed) :
    (∃ rest, cs = signed ++ rest ∧ NoDigit rest) ∧ '\n' ∉ signed ∧
      ∀ rest, NoDigit rest → signedDigits (signed ++ rest) = .ok signed := by
  fun_cases signedDigits cs with
  | case1 cs =>
    rw [signedDigits, map_eq_ok] at h
    obtain ⟨run, hrun, rfl⟩ := h
    obtain ⟨⟨rest', rfl, hnext⟩, hne, hdigits⟩ := exists_digits hrun
    refine ⟨⟨rest', rfl, hnext⟩, by simp [not_newline_mem_digits hdigits], fun rest hrest => ?_⟩
    rw [List.cons_append, signedDigits, digits_append hdigits hne hrest]
    rfl
  | case2 cs =>
    rw [signedDigits, map_eq_ok] at h
    obtain ⟨run, hrun, rfl⟩ := h
    obtain ⟨⟨rest', rfl, hnext⟩, hne, hdigits⟩ := exists_digits hrun
    refine ⟨⟨rest', rfl, hnext⟩, by simp [not_newline_mem_digits hdigits], fun rest hrest => ?_⟩
    rw [List.cons_append, signedDigits, digits_append hdigits hne hrest]
    rfl
  | case3 _ hplus hminus =>
    rw [signedDigits.eq_3 _ hplus hminus] at h
    obtain ⟨⟨rest', rfl, hnext⟩, hne, hdigits⟩ := exists_digits h
    refine ⟨⟨rest', rfl, hnext⟩, not_newline_mem_digits hdigits, fun rest hrest => ?_⟩
    obtain ⟨d, ds, rfl⟩ := List.exists_cons_of_ne_nil hne
    have hd := hdigits d (List.mem_cons_self ..)
    rw [signedDigits.eq_3]
    · exact digits_append hdigits hne hrest
    · rintro tail he
      rw [(List.cons.inj he).1] at hd
      cases hd
    · rintro tail he
      rw [(List.cons.inj he).1] at hd
      cases hd

theorem exponentPart_append {cs exponent : List Char} (h : exponentPart cs = .ok exponent) :
    (∃ rest, cs = exponent ++ rest ∧ (NoDigit cs → NoDigit rest)) ∧
      (∀ c ∈ exponent.head?, c = 'e' ∨ c = 'E') ∧ '\n' ∉ exponent ∧
      ∀ rest, EndsNumber rest → exponentPart (exponent ++ rest) = .ok exponent := by
  fun_cases exponentPart cs with
  | case1 cs =>
    rw [exponentPart, map_eq_ok] at h
    obtain ⟨signed, hsigned, rfl⟩ := h
    obtain ⟨⟨rest', rfl, hnext⟩, hnewline, hstable⟩ := signedDigits_append hsigned
    refine ⟨⟨rest', rfl, fun _ => hnext⟩, by simp, by simp [hnewline], fun rest hrest => ?_⟩
    rw [List.cons_append, exponentPart, hstable rest hrest.noDigit]
    rfl
  | case2 cs =>
    rw [exponentPart, map_eq_ok] at h
    obtain ⟨signed, hsigned, rfl⟩ := h
    obtain ⟨⟨rest', rfl, hnext⟩, hnewline, hstable⟩ := signedDigits_append hsigned
    refine ⟨⟨rest', rfl, fun _ => hnext⟩, by simp, by simp [hnewline], fun rest hrest => ?_⟩
    rw [List.cons_append, exponentPart, hstable rest hrest.noDigit]
    rfl
  | case3 _ hlower hupper =>
    rw [exponentPart.eq_3 _ hlower hupper] at h
    obtain rfl := Except.ok.inj h
    refine ⟨⟨cs, rfl, id⟩, by simp, by simp, fun rest hrest => ?_⟩
    rw [List.nil_append, exponentPart.eq_3]
    · rintro tail rfl
      exact absurd (hrest 'e' rfl).2.2 (by decide)
    · rintro tail rfl
      exact absurd (hrest 'E' rfl).2.2 (by decide)

/-! ## Numbers -/

/-- A text that is scanned as the number `t` before whatever stands apart from it. -/
structure IsNumeral (text : List Char) (t : Token) : Prop where
  /-- It starts the way that tells numbers from other tokens. -/
  starts : ∃ c ∈ text.head?, c.isDigit = true ∨ c = '-'
  /-- It is on one line. -/
  single_line : '\n' ∉ text
  /-- It is scanned to its end and no further. -/
  scanned : ∀ rest, StandsApart rest → number (text ++ rest) = .ok (t, text.length)

/-- What holds of the first characters of two texts holds of that of both together. -/
theorem forall_head_append {p : Char → Prop} {cs ds : List Char} (hcs : ∀ c ∈ cs.head?, p c)
    (hds : ∀ c ∈ ds.head?, p c) : ∀ c ∈ (cs ++ ds).head?, p c := by
  cases cs with
  | nil => exact hds
  | cons c cs => exact hcs

theorem signPart_append (cs : List Char) :
    (∃ rest, cs = signPart cs ++ rest) ∧ '\n' ∉ signPart cs ∧
      ∀ rest, (∀ c ∈ rest.head?, c ≠ '-') → signPart (signPart cs ++ rest) = signPart cs := by
  fun_cases signPart cs with
  | case1 cs => exact ⟨⟨cs, rfl⟩, by decide, fun rest _ => rfl⟩
  | case2 _ hno =>
    refine ⟨⟨cs, rfl⟩, by simp, fun rest hrest => ?_⟩
    rw [List.nil_append, signPart.eq_2]
    rintro tail rfl
    exact hrest '-' rfl rfl

/-- The literal that the parts of a number are together. -/
def numeralToken (sign whole fraction exponent : List Char) : Token :=
  let text := String.ofList (sign ++ whole ++ fraction ++ exponent)
  if fraction.isEmpty && exponent.isEmpty then .int text else .float text

/-- A number whose parts are scanned one after the other comes to their literal, unless it runs into
what follows. -/
theorem number_append {sign whole fraction exponent rest : List Char}
    (hsign : signPart (sign ++ (whole ++ (fraction ++ (exponent ++ rest)))) = sign)
    (hwhole : wholePart (whole ++ (fraction ++ (exponent ++ rest))) = .ok whole)
    (hfraction : fractionPart (fraction ++ (exponent ++ rest)) = .ok fraction)
    (hexponent : exponentPart (exponent ++ rest) = .ok exponent) :
    number (sign ++ (whole ++ (fraction ++ (exponent ++ rest))))
      = if rest.head?.any fun c => c = '.' || isNameStart c then .error (.expectedDigit rest.head?)
        else .ok (numeralToken sign whole fraction exponent,
          (sign ++ whole ++ fraction ++ exponent).length) := by
  rw [number, hsign, List.drop_left, bind_eq_of_ok hwhole, List.drop_left, bind_eq_of_ok hfraction,
    List.drop_left, bind_eq_of_ok hexponent, List.drop_left, numeralToken]
  dsimp only
  split
  · rfl
  · split
    · rfl
    · rfl

/-- A number is scanned up to what ends it, and is the same before anything else that does. -/
theorem exists_scanned_number {cs : List Char} {t : Token} {used : Nat}
    (h : number cs = .ok (t, used)) :
    ∃ text rest, cs = text ++ rest ∧ used = text.length ∧ text ≠ [] ∧ '\n' ∉ text ∧
      (t = .int (String.ofList text) ∨ t = .float (String.ofList text)) ∧ EndsNumber rest ∧
      ∀ rest', EndsNumber rest' → number (text ++ rest') = .ok (t, text.length) := by
  have hnumber := h
  rw [number] at h
  obtain ⟨⟨r₀, hr₀⟩, hsign_line, hsign⟩ := signPart_append cs
  generalize hs : signPart cs = sign at h hr₀ hsign_line hsign
  subst hr₀
  obtain ⟨whole, hw, h⟩ := bind_eq_ok.1 h
  rw [List.drop_left] at hw h
  obtain ⟨⟨r₁, rfl, hr₁⟩, hne, hdigits, hwhole⟩ := wholePart_append hw
  obtain ⟨fraction, hf, h⟩ := bind_eq_ok.1 h
  rw [List.drop_left] at hf h
  obtain ⟨⟨r₂, rfl, hr₂⟩, hpoint, hfraction_line, hfraction⟩ := fractionPart_append hf
  obtain ⟨exponent, he, h⟩ := bind_eq_ok.1 h
  rw [List.drop_left] at he
  obtain ⟨⟨r₃, rfl, hr₃⟩, hletter, hexponent_line, hexponent⟩ := exponentPart_append he
  rw [number_append hs hw hf he] at hnumber
  split at hnumber
  · cases hnumber
  · next hend =>
    obtain ⟨rfl, rfl⟩ := Prod.mk.inj (Except.ok.inj hnumber)
    refine ⟨sign ++ whole ++ fraction ++ exponent, r₃, by simp only [List.append_assoc], rfl,
      by simp [hne], ?_, ?_, ?_, ?_⟩
    · have hwhole_line := not_newline_mem_digits hdigits
      simp [hsign_line, hwhole_line, hfraction_line, hexponent_line]
    · rw [numeralToken]
      split
      · exact Or.inl rfl
      · exact Or.inr rfl
    · exact endsNumber_iff.2 ⟨hr₃ (hr₂ hr₁), by simpa using hend⟩
    · intro rest hrest
      have hrest' : NoDigit (exponent ++ rest) :=
        forall_head_append (fun c hc => by rcases hletter c hc with rfl | rfl <;> rfl) hrest.noDigit
      have hpoint' : ∀ c ∈ (exponent ++ rest).head?, c ≠ '.' := by
        refine forall_head_append (fun c hc => ?_) fun c hc => (hrest c hc).2.1
        rcases hletter c hc with rfl | rfl <;> decide
      have hrest'' : NoDigit (fraction ++ (exponent ++ rest)) :=
        forall_head_append (fun c hc => by rw [hpoint c hc]; rfl) hrest'
      have hminus : ∀ c ∈ (whole ++ (fraction ++ (exponent ++ rest))).head?, c ≠ '-' := by
        obtain ⟨d, ds, hds⟩ := List.exists_cons_of_ne_nil hne
        have hd := hdigits d (by rw [hds]; exact List.mem_cons_self ..)
        intro c hc
        obtain rfl : d = c := by simpa [hds] using hc
        rintro rfl
        cases hd
      have happly := number_append (hsign _ hminus) (hwhole _ hrest'') (hfraction _ hrest' hpoint')
        (hexponent _ hrest)
      rw [(endsNumber_iff.1 hrest).2, if_neg Bool.false_ne_true] at happly
      simpa only [List.append_assoc] using happly

/-- A scanned number is the numeral that it was scanned from. -/
theorem exists_numeral {cs : List Char} {t : Token} {used : Nat} (h : number cs = .ok (t, used))
    (hstart : ∃ c ∈ cs.head?, c.isDigit = true ∨ c = '-') :
    ∃ text rest, cs = text ++ rest ∧ used = text.length ∧
      (t = .int (String.ofList text) ∨ t = .float (String.ofList text)) ∧ IsNumeral text t := by
  obtain ⟨text, rest, rfl, hused, hne, hline, ht, -, hscanned⟩ := exists_scanned_number h
  refine ⟨text, rest, rfl, hused, ht, ?_, hline, fun rest' hrest' => hscanned _ hrest'.endsNumber⟩
  obtain ⟨c, hc, hstart⟩ := hstart
  obtain ⟨d, ds, rfl⟩ := List.exists_cons_of_ne_nil hne
  exact ⟨c, hc, hstart⟩

end GraphQL.Lexer

end PersistedDocument
