import PersistedDocument.GraphQL.Printer
import PersistedDocument.Proofs.BlockString
import PersistedDocument.Proofs.Numerals

/-!
# Proofs: texts that spell tokens

Every token that is cut from a text can be written down again (`Token.IsLexed`). A text *spells* a
list of tokens if it is cut into them wherever it stands: moved to any indentation, and before
anything that does not run into it. Spelling is closed under putting texts side by side and under
moving them to the right, which is all that printing does.
-/

namespace PersistedDocument.GraphQL

open Text Lexer

/-! ## Tokens that can be written -/

/-- A text that is a name. -/
def IsName (n : String) : Prop :=
  ∃ c cs, n.toList = c :: cs ∧ isNameStart c = true ∧ ∀ d ∈ cs, isNameContinue d = true

instance (n : String) : Decidable (IsName n) :=
  match hn : n.toList with
  | [] => isFalse fun ⟨_, _, hcons, _⟩ => List.cons_ne_nil _ _ (hcons.symm.trans hn)
  | c :: cs =>
    decidable_of_iff (isNameStart c = true ∧ cs.all isNameContinue = true)
      ⟨fun h => ⟨c, cs, hn, h.1, List.all_eq_true.1 h.2⟩, fun ⟨_, _, hcons, hc, hcs⟩ => by
        obtain ⟨rfl, rfl⟩ := List.cons.inj (hcons.symm.trans hn)
        exact ⟨hc, List.all_eq_true.2 hcs⟩⟩

/-- What the text of a token is if the token is cut from a text. -/
def Token.IsLexed : Token → Prop
  | .punctuator _ | .string _ => True
  | .name n => IsName n
  | .int t => IsNumeral t.toList (.int t)
  | .float t => IsNumeral t.toList (.float t)
  | .block v => BlockString.DedentedText v.toList

theorem ofChar?_eq_none {c : Char} (h : isNameContinue c = true ∨ c = '-' ∨ c = '"' ∨ c = '.') :
    Punctuator.ofChar? c = none := by
  unfold Punctuator.ofChar?
  split
  all_goals first
    | rfl
    | revert h; decide

/-- A token cut from a text can be written. -/
theorem isLexed_of_token {c : Char} {cs : List Char} {t : Token} {used : Nat}
    (h : token c cs = .ok (t, used)) : t.IsLexed := by
  unfold token at h
  split at h
  · obtain ⟨rfl, rfl⟩ := Prod.mk.inj (Except.ok.inj h)
    trivial
  split at h
  · split at h
    · obtain ⟨⟨text, n⟩, -, h⟩ := bind_eq_ok.1 h
      obtain ⟨rfl, -⟩ := Prod.mk.inj (Except.ok.inj h)
      rw [Token.IsLexed, String.toList_ofList]
      exact BlockString.dedentedText_value text
    · obtain ⟨⟨text, n⟩, -, h⟩ := bind_eq_ok.1 h
      obtain ⟨rfl, -⟩ := Prod.mk.inj (Except.ok.inj h)
      trivial
  split at h
  · split at h
    · obtain ⟨rfl, -⟩ := Prod.mk.inj (Except.ok.inj h)
      trivial
    · cases h
  split at h
  · next hstart =>
    have hstart : c.isDigit = true ∨ c = '-' := by simpa using hstart
    obtain ⟨text, rest, -, -, rfl | rfl, hnumeral⟩ := exists_numeral h ⟨c, rfl, hstart⟩
    · rwa [Token.IsLexed, String.toList_ofList]
    · rwa [Token.IsLexed, String.toList_ofList]
  split at h
  · next hstart =>
    obtain ⟨rfl, -⟩ := Prod.mk.inj (Except.ok.inj h)
    refine ⟨c, cs.takeWhile isNameContinue, String.toList_ofList, hstart, fun d hd => ?_⟩
    exact List.all_eq_true.1 List.all_takeWhile d hd
  · cases h

/-- All tokens of a text can be written. -/
theorem isLexed_of_mem_lexCharacters {cs : List Char} {t : Token}
    (h : t ∈ (lexCharacters cs).1) : t.IsLexed := by
  fun_induction lexCharacters cs with
  | case1 => simp at h
  | case2 c cs hc ih => exact ih h
  | case3 cs hc ih => exact ih h
  | case4 c cs hc hcomment e he => simp at h
  | case5 c cs hc hcomment t' used ht tokens ending heq ih =>
    rcases List.mem_cons.1 h with rfl | h
    · exact isLexed_of_token ht
    · rw [heq] at ih
      exact ih h

/-! ## Cutting from the left -/

/-- More tokens before those that a text is cut into. -/
def prepend (tokens : List Token) (cut : List Token × Option LexicalError) :
    List Token × Option LexicalError :=
  (tokens ++ cut.1, cut.2)

theorem prepend_append (ts us : List Token) (cut : List Token × Option LexicalError) :
    prepend (ts ++ us) cut = prepend ts (prepend us cut) := by
  simp [prepend]

theorem lexCharacters_ignored {c : Char} (h : isIgnored c = true) (cs : List Char) :
    lexCharacters (c :: cs) = lexCharacters cs := by
  rw [lexCharacters, if_pos h]

theorem lexCharacters_ignored_append {ignored : List Char}
    (h : ∀ c ∈ ignored, isIgnored c = true) (cs : List Char) :
    lexCharacters (ignored ++ cs) = lexCharacters cs := by
  induction ignored with
  | nil => rfl
  | cons c ignored ih =>
    rw [List.cons_append, lexCharacters_ignored (h c (List.mem_cons_self ..))]
    exact ih fun d hd => h d (List.mem_cons_of_mem _ hd)

/-- A token is cut off, and cutting goes on behind it. -/
theorem lexCharacters_token {c : Char} {written rest : List Char} {t : Token}
    (hignored : isIgnored c = false) (hcomment : c ≠ '#')
    (ht : token c (written ++ rest) = .ok (t, written.length + 1)) :
    lexCharacters (c :: (written ++ rest)) = prepend [t] (lexCharacters rest) := by
  rw [lexCharacters, hignored, if_neg Bool.false_ne_true, if_neg hcomment, ht]
  dsimp only
  rw [Nat.add_sub_cancel, List.drop_left]
  rfl

/-! ## Spelling -/

/-- A text that is cut into the given tokens at every indentation and before everything that does
not run into it. -/
def Spells (text : String) (tokens : List Token) : Prop :=
  ∀ (n : Nat) (rest : List Char), StandsApart rest →
    lexCharacters (indentAfterNewlines (List.replicate n ' ') text.toList ++ rest)
      = prepend tokens (lexCharacters rest)

/-- A spelled text as a whole is cut into its tokens, and without error. -/
theorem Spells.lex_eq {text : String} {tokens : List Token} (h : Spells text tokens) :
    lex text = (tokens, none) := by
  have hlex := h 0 [] (by simp [StandsApart])
  rwa [List.replicate_zero, indentAfterNewlines_nil, List.append_nil, prepend, lexCharacters,
    List.append_nil] at hlex

theorem Spells.nil : Spells "" [] := fun _ _ _ => rfl

/-- A margin leaves the first character of a text in front. -/
theorem standsApart_indentAfterNewlines {margin cs rest : List Char} (hcs : StandsApart cs)
    (hrest : StandsApart rest) : StandsApart (indentAfterNewlines margin cs ++ rest) := by
  cases cs with
  | nil => exact hrest
  | cons c cs =>
    by_cases hc : c = '\n'
    · rw [hc, indentAfterNewlines_newline]
      intro d hd
      obtain rfl : '\n' = d := by simpa using hd
      rfl
    · rw [indentAfterNewlines_cons hc]
      exact hcs

/-- Texts side by side, of which the second does not run into the first. -/
theorem Spells.append {s s' : String} {ts ts' : List Token} (h : Spells s ts)
    (h' : Spells s' ts') (hapart : StandsApart s'.toList) : Spells (s ++ s') (ts ++ ts') := by
  intro n rest hrest
  rw [String.toList_append, indentAfterNewlines_append, List.append_assoc,
    h n _ (standsApart_indentAfterNewlines hapart hrest), h' n rest hrest, prepend_append]

/-- A text moved to the right spells the same. -/
theorem Spells.shifted {s : String} {ts : List Token} (h : Spells s ts) :
    Spells (Printer.shifted s) ts := by
  intro n rest hrest
  have hmargin : List.replicate n ' ' ++ List.replicate 2 ' ' = List.replicate (n + 2) ' ' :=
    List.replicate_append_replicate
  rw [Printer.shifted, String.toList_ofList, indentAfterNewlines_indentAfterNewlines (by decide)]
  exact hmargin ▸ h (n + 2) rest hrest

/-! ### Punctuation and gaps -/

/-- A character that is a token of its own or nothing at all. -/
def isMark (c : Char) : Bool := isIgnored c || (Punctuator.ofChar? c).isSome

/-- A text of marks, in which are the given tokens. -/
def IsMarks (mark : String) (tokens : List Token) : Prop :=
  mark ≠ "" ∧ mark.toList.all isMark = true
    ∧ (mark.toList.filterMap Punctuator.ofChar?).map .punctuator = tokens

instance (mark : String) (tokens : List Token) : Decidable (IsMarks mark tokens) :=
  inferInstanceAs (Decidable (_ ∧ _ ∧ _))

theorem ofChar?_eq_none_of_isIgnored {c : Char} (h : isIgnored c = true) :
    Punctuator.ofChar? c = none := by
  unfold Punctuator.ofChar?
  split
  all_goals first
    | rfl
    | revert h; decide

/-- Marks are cut off whatever follows them. -/
theorem lexCharacters_marks_append {marks : List Char} (h : ∀ c ∈ marks, isMark c = true) (n : Nat)
    (cs : List Char) :
    lexCharacters (indentAfterNewlines (List.replicate n ' ') marks ++ cs)
      = prepend ((marks.filterMap Punctuator.ofChar?).map .punctuator) (lexCharacters cs) := by
  induction marks with
  | nil => rfl
  | cons c marks ih =>
    have ih := ih fun d hd => h d (List.mem_cons_of_mem _ hd)
    have hc := h c (List.mem_cons_self ..)
    by_cases hignored : isIgnored c = true
    · rw [List.filterMap_cons_none (ofChar?_eq_none_of_isIgnored hignored), ← ih]
      by_cases hnewline : c = '\n'
      · have hblanks : ∀ d ∈ '\n' :: List.replicate n ' ', isIgnored d = true := by
          intro d hd
          rcases List.mem_cons.1 hd with rfl | hd
          · rfl
          · rw [List.eq_of_mem_replicate hd]
            rfl
        rw [hnewline, indentAfterNewlines_newline, ← List.cons_append, List.append_assoc,
          lexCharacters_ignored_append hblanks]
      · rw [indentAfterNewlines_cons hnewline, List.cons_append, lexCharacters_ignored hignored]
    · obtain ⟨p, hp⟩ : ∃ p, Punctuator.ofChar? c = some p := by
        simpa [isMark, hignored, Option.isSome_iff_exists] using hc
      have hnewline : c ≠ '\n' := by
        rintro rfl
        exact hignored rfl
      have hcomment : c ≠ '#' := by
        rintro rfl
        cases hp
      have htoken : token c ([] ++ (indentAfterNewlines (List.replicate n ' ') marks ++ cs))
          = .ok (.punctuator p, 1) := by
        rw [token.eq_def, hp]
      rw [indentAfterNewlines_cons hnewline, List.cons_append, List.filterMap_cons_some hp]
      exact (lexCharacters_token (by simpa using hignored) hcomment htoken).trans (by rw [ih]; rfl)

/-- Marks in front of a text. -/
theorem Spells.mark_append {mark s : String} {ms ts : List Token} (h : Spells s ts)
    (hmark : IsMarks mark ms) : Spells (mark ++ s) (ms ++ ts) := by
  obtain ⟨-, hmarks, htokens⟩ := hmark
  intro n rest hrest
  rw [String.toList_append, indentAfterNewlines_append, List.append_assoc,
    lexCharacters_marks_append (List.all_eq_true.1 hmarks), h n rest hrest, htokens,
    prepend_append]

/-- The spread in front of a text. -/
theorem Spells.spread_append {s : String} {ts : List Token} (h : Spells s ts) :
    Spells ("..." ++ s) (.punctuator .spread :: ts) := by
  intro n rest hrest
  have hdots : indentAfterNewlines (List.replicate n ' ') "...".toList = ['.', '.', '.'] :=
    indentAfterNewlines_eq_self (by decide)
  have htoken (cs : List Char) : token '.' (['.', '.'] ++ cs) = .ok (.punctuator .spread, 3) := rfl
  rw [String.toList_append, indentAfterNewlines_append, hdots, List.append_assoc]
  exact (lexCharacters_token rfl (by decide) (htoken _)).trans (by rw [h n rest hrest]; rfl)

/-! ### Names and numbers -/

/-- A character that starts a name or a number starts nothing else. -/
theorem separate_of_word {c : Char} (h : isNameContinue c = true ∨ c = '-') :
    isIgnored c = false ∧ c ≠ '#' ∧ c ≠ '"' ∧ c ≠ '.' := by
  refine ⟨?_, ?_, ?_, ?_⟩
  · cases hignored : isIgnored c with
    | false => rfl
    | true =>
      simp only [isIgnored, Bool.or_eq_true, decide_eq_true_eq] at hignored
      rcases hignored with ((((rfl | rfl) | rfl) | rfl) | rfl) | rfl <;> revert h <;> decide
  all_goals
    rintro rfl
    revert h
    decide

theorem isDigit_eq_false_of_isNameStart {c : Char} (h : isNameStart c = true) :
    c.isDigit = false ∧ c ≠ '-' := by
  constructor
  · cases hdigit : c.isDigit with
    | false => rfl
    | true =>
      simp only [isNameStart, Bool.or_eq_true, decide_eq_true_eq] at h
      rcases h with h | rfl
      · have hletter : c.isUpper = true ∨ c.isLower = true := (Bool.or_eq_true ..).mp h
        obtain ⟨-, hdigit⟩ := Char.isDigit_iff_toNat.1 hdigit
        rcases hletter with hupper | hlower
        · have hupper : 'A'.toNat ≤ c.toNat := (of_decide_eq_true hupper).1
          exact absurd (Nat.le_trans hupper hdigit) (by decide)
        · have hlower : 'a'.toNat ≤ c.toNat :=
            of_decide_eq_true (Bool.and_eq_true_iff.1 hlower).1
          exact absurd (Nat.le_trans hlower hdigit) (by decide)
      · cases hdigit
  · rintro rfl
    cases h

theorem isNameContinue_of_isNameStart {c : Char} (h : isNameStart c = true) :
    isNameContinue c = true := by
  simp only [isNameStart, isNameContinue, Char.isAlphanum, Bool.or_eq_true] at h ⊢
  rcases h with h | h
  · exact Or.inl (Or.inl h)
  · exact Or.inr h

/-- A name spells itself. -/
theorem Spells.name {s : String} (h : IsName s) : Spells s [.name s] := by
  obtain ⟨c, cs, hs, hc, hcs⟩ := h
  intro n rest hrest
  have hcontinue := isNameContinue_of_isNameStart hc
  obtain ⟨hignored, hcomment, hquote, hpoint⟩ := separate_of_word (Or.inl hcontinue)
  obtain ⟨hdigit, hminus⟩ := isDigit_eq_false_of_isNameStart hc
  have hnewline : '\n' ∉ c :: cs := by
    intro h
    rcases List.mem_cons.1 h with rfl | h
    · cases hcontinue
    · cases hcs _ h
  have htake : (cs ++ rest).takeWhile isNameContinue = cs := by
    rw [List.takeWhile_append_of_pos hcs]
    cases rest with
    | nil => simp
    | cons d rest =>
      have htight := hrest d rfl
      simp only [isTight, Bool.or_eq_false_iff] at htight
      rw [List.takeWhile_cons_of_neg (by simp [htight]), List.append_nil]
  have htoken : token c (cs ++ rest) = .ok (.name s, cs.length + 1) := by
    have hofList : String.ofList (c :: cs) = s := by rw [← hs, String.ofList_toList]
    rw [token.eq_def, ofChar?_eq_none (Or.inl hcontinue)]
    dsimp only
    rw [if_neg hquote, if_neg hpoint, if_neg (by simp [hdigit, hminus]), if_pos hc, htake, hofList,
      Nat.add_comm]
  rw [hs, indentAfterNewlines_eq_self hnewline]
  exact lexCharacters_token hignored hcomment htoken

/-- A numeral spells the number that it is scanned as. -/
theorem Spells.numeral {s : String} {t : Token} (h : IsNumeral s.toList t) : Spells s [t] := by
  obtain ⟨⟨c, hc, hstart⟩, hnewline, hscanned⟩ := h
  obtain ⟨cs, hs⟩ := List.head?_eq_some_iff.1 hc
  rw [hs] at hnewline hscanned
  intro n rest hrest
  have hword : isNameContinue c = true ∨ c = '-' := by
    refine hstart.imp_left fun hdigit => ?_
    simp [isNameContinue, Char.isAlphanum, hdigit]
  obtain ⟨hignored, hcomment, hquote, hpoint⟩ := separate_of_word hword
  have htoken : token c (cs ++ rest) = .ok (t, cs.length + 1) := by
    have hnone : Punctuator.ofChar? c = none :=
      ofChar?_eq_none (hword.imp_right Or.inl)
    rw [token.eq_def, hnone]
    dsimp only
    rw [if_neg hquote, if_neg hpoint, if_pos (by simpa using hstart)]
    exact hscanned rest hrest
  rw [hs, indentAfterNewlines_eq_self hnewline]
  exact lexCharacters_token hignored hcomment htoken

/-! ### Strings -/

/-- An escape is scanned as the character that it stands for. -/
theorem quoted_escape {written cs value : List Char} {c : Char} {used : Nat}
    (hescape : escape (written ++ cs) = .ok (c, written.length))
    (h : quoted cs = .ok (value, used)) :
    quoted ('\\' :: (written ++ cs)) = .ok (c :: value, ('\\' :: written).length + used) := by
  rw [quoted, if_neg (by decide), if_pos rfl, bind_eq_of_ok hescape]
  dsimp only
  rw [List.drop_left, bind_eq_of_ok h]
  dsimp only
  rw [List.length_cons, Nat.add_comm 1]
  rfl

/-- Four digits for the number of a control character are read as this number. -/
theorem read?_fixed {n : Nat} (h : n < 0xA0) :
    ∃ d₁ d₂ d₃, Hexadecimal.fixed Hexadecimal.upper 4 n = ['0', d₁, d₂, d₃] ∧
      Hexadecimal.read? ['0', d₁, d₂, d₃] = some n ∧ '\n' ∉ ['0', d₁, d₂, d₃] := by
  have hall : ∀ m < 0xA0, Hexadecimal.upper (m / 16 / 16 / 16 % 16) = '0' ∧
      Hexadecimal.read? (Hexadecimal.fixed Hexadecimal.upper 4 m) = some m ∧
      '\n' ∉ Hexadecimal.fixed Hexadecimal.upper 4 m := by
    decide +kernel
  obtain ⟨hzero, hread, hnewline⟩ := hall n h
  have hfixed : Hexadecimal.fixed Hexadecimal.upper 4 n
      = [Hexadecimal.upper (n / 16 / 16 / 16 % 16), Hexadecimal.upper (n / 16 / 16 % 16),
        Hexadecimal.upper (n / 16 % 16), Hexadecimal.upper (n % 16)] := rfl
  rw [hfixed, hzero] at hread hnewline
  exact ⟨_, _, _, by rw [hfixed, hzero], hread, hnewline⟩

/-- The escape by number of a control character stands for it. -/
theorem escape_fixed {c : Char} (h : c.toNat < 0xA0) (cs : List Char) :
    escape ('u' :: Hexadecimal.fixed Hexadecimal.upper 4 c.toNat ++ cs) = .ok (c, 5) := by
  obtain ⟨d₁, d₂, d₃, hfixed, hread, -⟩ := read?_fixed h
  have hleading : CodePoint.isLeading c.toNat = false := by
    simp only [CodePoint.isLeading, Bool.and_eq_false_iff, decide_eq_false_iff_not]
    omega
  have htrailing : CodePoint.isTrailing c.toNat = false := by
    simp only [CodePoint.isTrailing, Bool.and_eq_false_iff, decide_eq_false_iff_not]
    omega
  have hescape : escape ('u' :: (['0', d₁, d₂, d₃] ++ cs))
      = fixedEscape (['0', d₁, d₂, d₃] ++ cs) := by
    simp [escape]
  have hunit : unicodeUnit? (['0', d₁, d₂, d₃] ++ cs) = some c.toNat := hread
  rw [hfixed, List.cons_append, hescape, fixedEscape]
  simp only [hunit, hleading, htrailing, Bool.false_eq_true, if_false, Char.ofNat_toNat]

/-- What is written for a character is scanned as that character. -/
theorem quoted_escapedCharacter {c : Char} {cs value : List Char} {used : Nat}
    (h : quoted cs = .ok (value, used)) :
    quoted (Printer.escapedCharacter c ++ cs)
      = .ok (c :: value, (Printer.escapedCharacter c).length + used) := by
  unfold Printer.escapedCharacter
  split
  case h_8 hquote hbackslash _ _ hnewline hreturn _ =>
    split
    · next hcontrol =>
      have hcontrol : c.toNat < 0xA0 := by omega
      obtain ⟨_, _, _, hfixed, -⟩ := read?_fixed hcontrol
      have hlength : ('u' :: Hexadecimal.fixed Hexadecimal.upper 4 c.toNat).length = 5 := by
        rw [hfixed]
        rfl
      exact quoted_escape (hlength ▸ escape_fixed hcontrol cs) h
    · have hlineend : isLineEnd c = false := by
        rw [isLineEnd, Bool.or_eq_false_iff, decide_eq_false_iff_not, decide_eq_false_iff_not]
        exact ⟨hnewline, hreturn⟩
      rw [List.singleton_append, quoted, if_neg hquote, if_neg hbackslash, hlineend,
        if_neg Bool.false_ne_true, bind_eq_of_ok h]
      rfl
  all_goals exact @quoted_escape [_] cs value _ used rfl h

/-- Escaped characters up to a quotation mark are scanned as the characters. -/
theorem quoted_flatMap_escapedCharacter (value rest : List Char) :
    quoted (value.flatMap Printer.escapedCharacter ++ '"' :: rest)
      = .ok (value, (value.flatMap Printer.escapedCharacter).length + 1) := by
  induction value with
  | nil => rw [List.flatMap_nil, List.nil_append, quoted, if_pos rfl]; rfl
  | cons c value ih =>
    rw [List.flatMap_cons, List.append_assoc, quoted_escapedCharacter ih, List.length_append,
      Nat.add_assoc]

/-- What is written for a character starts with no quotation mark and stays on the line. -/
theorem exists_escapedCharacter (c : Char) :
    ∃ d ds, Printer.escapedCharacter c = d :: ds ∧ d ≠ '"' ∧ '\n' ∉ d :: ds := by
  unfold Printer.escapedCharacter
  split
  case h_8 hquote _ _ _ hnewline _ _ =>
    split
    · next hcontrol =>
      obtain ⟨_, _, _, hfixed, -, hline⟩ := read?_fixed (show c.toNat < 0xA0 by omega)
      refine ⟨'\\', _, rfl, by decide, ?_⟩
      rw [hfixed]
      simpa using hline
    · exact ⟨c, [], rfl, hquote, by simpa using Ne.symm hnewline⟩
  all_goals exact ⟨'\\', [_], rfl, by decide, by decide⟩

theorem token_quoted {cs value : List Char} {used : Nat} (hcs : ∀ raw, cs ≠ '"' :: '"' :: raw)
    (h : quoted cs = .ok (value, used)) :
    token '"' cs = .ok (.string (String.ofList value), used + 1) := by
  have hnone : Punctuator.ofChar? '"' = none := rfl
  rw [token.eq_def, hnone]
  dsimp only
  rw [if_pos rfl]
  split
  · next raw => exact absurd rfl (hcs raw)
  · rw [bind_eq_of_ok h, Nat.add_comm used]
    rfl

theorem token_block {raw text : List Char} {used : Nat} (h : blockText raw = .ok (text, used)) :
    token '"' ('"' :: '"' :: raw)
      = .ok (.block (String.ofList (BlockString.value text)), used + 3) := by
  have hnone : Punctuator.ofChar? '"' = none := rfl
  rw [token.eq_def, hnone]
  dsimp only
  rw [if_pos rfl]
  split
  · next heq =>
    obtain rfl := (List.cons.inj (List.cons.inj heq).2).2
    rw [bind_eq_of_ok h, Nat.add_comm used]
    rfl
  · next hne => exact absurd rfl (hne raw)

/-- A quoted string spells its value. -/
theorem Spells.quoted (value : String) : Spells (Printer.quoted value) [.string value] := by
  intro n rest hrest
  have hline : '\n' ∉ '"' :: (value.toList.flatMap Printer.escapedCharacter ++ ['"']) := by
    have hflat : '\n' ∉ value.toList.flatMap Printer.escapedCharacter := by
      intro h
      obtain ⟨c, -, hc⟩ := List.mem_flatMap.1 h
      obtain ⟨d, ds, hds, -, hnewline⟩ := exists_escapedCharacter c
      exact hnewline (hds ▸ hc)
    simpa using hflat
  have hfence : ∀ raw, value.toList.flatMap Printer.escapedCharacter ++ '"' :: rest
      ≠ '"' :: '"' :: raw := by
    intro raw he
    cases hvalue : value.toList with
    | nil =>
      rw [hvalue] at he
      exact absurd (hrest '"' (by rw [(List.cons.inj he).2]; rfl)) (by decide)
    | cons c cs =>
      obtain ⟨d, ds, hds, hquote, -⟩ := exists_escapedCharacter c
      rw [hvalue, List.flatMap_cons, hds] at he
      exact hquote (List.cons.inj he).1
  have hscan := token_quoted hfence (quoted_flatMap_escapedCharacter value.toList rest)
  rw [String.ofList_toList] at hscan
  rw [Printer.quoted, String.toList_ofList, List.cons_append, indentAfterNewlines_eq_self hline]
  refine lexCharacters_token rfl (by decide) ?_
  rw [List.append_assoc, List.length_append]
  exact hscan

/-- The written form of a block string spells its value. -/
theorem Spells.block {value : String} (h : BlockString.DedentedText value.toList) :
    Spells (String.ofList (BlockString.written value.toList)) [.block value] := by
  intro n rest hrest
  obtain ⟨text, hwritten, hclear, hvalue⟩ := BlockString.exists_written h n
  rw [String.toList_ofList, hwritten]
  have hscan := token_block (BlockString.blockText_escapeFences hclear rest)
  rw [hvalue, String.ofList_toList] at hscan
  have htoken : token '"'
      ('"' :: '"' :: (BlockString.escapeFences text ++ BlockString.fence) ++ rest)
      = .ok (.block value,
        ('"' :: '"' :: (BlockString.escapeFences text ++ BlockString.fence)).length + 1) := by
    rw [List.length_cons, List.length_cons, List.length_append, List.cons_append, List.cons_append,
      List.append_assoc]
    exact hscan
  exact lexCharacters_token rfl (by decide) htoken

end PersistedDocument.GraphQL
