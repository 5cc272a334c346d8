import PersistedDocument.Proofs.Spelling

/-!
# Proofs: cutting texts into tokens

What a scanner reads off the front of a text it reads off every text with the same front. A string
is read up to its closing quotation marks, whatever comes after them; a name, a number and an empty
string end at the first character that does not run into them. So a text that is cut into tokens up
to its end is cut into the same tokens when a line break and another text follow.
-/

namespace PersistedDocument.GraphQL

namespace Lexer

variable {α : Type}

/-! ## Strings -/

/-- A scanner reads a certain text off the front, whatever comes after it. -/
def Scans (scan : List Char → Except LexicalError (α × Nat)) (written : List Char) (a : α) : Prop :=
  ∀ rest, scan (written ++ rest) = .ok (a, written.length)

/-- A text has a front that a scanner reads as a certain result. -/
def ScansFront (scan : List Char → Except LexicalError (α × Nat)) (cs : List Char) (a : α)
    (used : Nat) : Prop :=
  ∃ written rest, cs = written ++ rest ∧ used = written.length ∧ Scans scan written a

theorem exists_of_unicodeUnit? {cs : List Char} {n : Nat} (h : unicodeUnit? cs = some n) :
    ∃ a b c d rest, cs = a :: b :: c :: d :: rest ∧ Hexadecimal.read? [a, b, c, d] = some n := by
  unfold unicodeUnit? at h
  split at h
  · exact ⟨_, _, _, _, _, rfl, h⟩
  · cases h

/-- An escape of four digits is read off the front, and the second one of a pair with it. -/
theorem scansFront_fixedEscape {cs : List Char} {c : Char} {size : Nat}
    (h : fixedEscape cs = .ok (c, size)) :
    ∃ written rest, cs = written ++ rest ∧ written ≠ [] ∧ size = written.length + 1 ∧
      ∀ rest', fixedEscape (written ++ rest') = .ok (c, written.length + 1) := by
  unfold fixedEscape at h
  dsimp only at h
  split at h
  · cases h
  · next n hn =>
    obtain ⟨a₁, a₂, a₃, a₄, more, rfl, hread⟩ := exists_of_unicodeUnit? hn
    have hunit (rest : List Char) : unicodeUnit? (a₁ :: a₂ :: a₃ :: a₄ :: rest) = some n := hread
    split at h
    · next hleading =>
      dsimp only [List.drop] at h
      split at h
      · next more =>
        split at h
        · next m hm =>
          obtain ⟨b₁, b₂, b₃, b₄, rest, rfl, hread'⟩ := exists_of_unicodeUnit? hm
          split at h
          · next htrailing =>
            obtain ⟨rfl, rfl⟩ := Prod.mk.inj (Except.ok.inj h)
            refine ⟨[a₁, a₂, a₃, a₄, '\\', 'u', b₁, b₂, b₃, b₄], rest, rfl,
              List.cons_ne_nil _ _, rfl, fun rest' => ?_⟩
            have hunit' : unicodeUnit? (b₁ :: b₂ :: b₃ :: b₄ :: rest') = some m := hread'
            simp only [List.cons_append, List.nil_append, fixedEscape, hunit, hleading, if_true,
              List.drop, hunit', htrailing]
            rfl
          · cases h
        · cases h
      · cases h
    · next hleading =>
      split at h
      · cases h
      · next htrailing =>
        obtain ⟨rfl, rfl⟩ := Prod.mk.inj (Except.ok.inj h)
        refine ⟨[a₁, a₂, a₃, a₄], more, rfl, List.cons_ne_nil _ _, rfl, fun rest' => ?_⟩
        simp only [List.cons_append, List.nil_append, fixedEscape, hunit, hleading, htrailing]
        rfl

/-- An escape between braces is read off the front. -/
theorem scansFront_bracedEscape {cs : List Char} {c : Char} {size : Nat}
    (h : bracedEscape cs = .ok (c, size)) :
    ∃ written rest, cs = written ++ rest ∧ size = written.length + 2 ∧
      ∀ rest', bracedEscape (written ++ rest') = .ok (c, written.length + 2) := by
  unfold bracedEscape at h
  dsimp only at h
  have hsplit := List.takeWhile_append_dropWhile (p := fun c => (Hexadecimal.value? c).isSome)
    (l := cs.take bracedLimit)
  have hdigits : ∀ d ∈ (cs.take bracedLimit).takeWhile fun c => (Hexadecimal.value? c).isSome,
      (Hexadecimal.value? d).isSome = true := List.all_eq_true.1 List.all_takeWhile
  generalize (cs.take bracedLimit).takeWhile (fun c => (Hexadecimal.value? c).isSome) = run
    at h hsplit hdigits
  generalize (cs.take bracedLimit).dropWhile (fun c => (Hexadecimal.value? c).isSome) = more
    at hsplit
  rw [← hsplit, List.drop_left] at h
  split at h
  · cases h
  · next more =>
    split at h
    · next n hread =>
      split at h
      · next hvalid =>
        obtain ⟨rfl, rfl⟩ := Prod.mk.inj (Except.ok.inj h)
        have hroom : run.length + 1 ≤ bracedLimit := by
          have hlength := congrArg List.length hsplit
          simp only [List.length_take, List.length_append, List.length_cons] at hlength
          omega
        have hcs : cs = (run ++ ['}']) ++ (more ++ cs.drop bracedLimit) := by
          calc cs = cs.take bracedLimit ++ cs.drop bracedLimit := (List.take_append_drop ..).symm
            _ = (run ++ ['}']) ++ (more ++ cs.drop bracedLimit) := by rw [← hsplit]; simp
        refine ⟨run ++ ['}'], more ++ cs.drop bracedLimit, hcs, by simp, fun rest' => ?_⟩
        have hwindow : ((run ++ ['}']) ++ rest').take bracedLimit
            = run ++ '}' :: rest'.take (bracedLimit - (run.length + 1)) := by
          have hlength : (run ++ ['}']).length ≤ bracedLimit := by simpa using hroom
          rw [List.take_append, List.take_of_length_le hlength]
          simp
        have hrun : (run ++ '}' :: rest'.take (bracedLimit - (run.length + 1))).takeWhile
            (fun c => (Hexadecimal.value? c).isSome) = run := by
          rw [List.takeWhile_append_of_pos hdigits, List.takeWhile_cons_of_neg (by decide),
            List.append_nil]
        simp only [bracedEscape, hwindow, hrun, List.drop_left, hread, hvalid, if_true]
        simp
      · cases h
    · cases h
  · cases h

/-- An escape is read off the front. -/
theorem scansFront_escape {cs : List Char} {c : Char} {size : Nat} (h : escape cs = .ok (c, size)) :
    ScansFront escape cs c size := by
  have hfront : ∃ written rest, cs = written ++ rest ∧ size = written.length ∧
      ∀ rest', escape (written ++ rest') = .ok (c, written.length) := by
    unfold escape at h
    split at h
    case h_10 cs =>
      obtain ⟨written, rest, rfl, rfl, hscan⟩ := scansFront_bracedEscape h
      exact ⟨'u' :: '{' :: written, rest, rfl, rfl, hscan⟩
    case h_11 cs hbrace =>
      obtain ⟨written, rest, rfl, hne, rfl, hscan⟩ := scansFront_fixedEscape h
      obtain ⟨d, ds, rfl⟩ := List.exists_cons_of_ne_nil hne
      have hd : d ≠ '{' := by
        rintro rfl
        exact hbrace _ rfl
      refine ⟨'u' :: d :: ds, rest, rfl, rfl, fun rest' => ?_⟩
      have hfixed : escape ('u' :: (d :: (ds ++ rest'))) = fixedEscape (d :: (ds ++ rest')) := by
        simp [escape, hd]
      exact hfixed.trans (hscan rest')
    all_goals
      first
        | obtain ⟨rfl, rfl⟩ := Prod.mk.inj (Except.ok.inj h)
          exact ⟨[_], _, rfl, rfl, fun _ => rfl⟩
        | cases h
  exact hfront

/-- A quoted string is read off the front, up to its closing quotation mark. -/
theorem scansFront_quoted {cs value : List Char} {used : Nat} (h : quoted cs = .ok (value, used)) :
    ScansFront quoted cs value used := by
  fun_induction quoted cs generalizing value used with
  | case1 => cases h
  | case2 cs =>
    obtain ⟨rfl, rfl⟩ := Prod.mk.inj (Except.ok.inj h)
    refine ⟨['"'], cs, rfl, rfl, fun rest => ?_⟩
    rw [List.singleton_append, quoted, if_pos rfl]
    rfl
  | case3 cs hquote ih =>
    obtain ⟨⟨c, size⟩, hescape, h⟩ := bind_eq_ok.1 h
    obtain ⟨⟨value, n⟩, hvalue, h⟩ := bind_eq_ok.1 h
    obtain ⟨rfl, rfl⟩ := Prod.mk.inj (Except.ok.inj h)
    obtain ⟨w, r, hw, hn, hscan⟩ := ih size hvalue
    obtain ⟨w', r', rfl, hsize, hescape⟩ := scansFront_escape hescape
    rw [hsize, List.drop_left] at hw
    refine ⟨'\\' :: (w' ++ w), r, by rw [hw, List.cons_append, List.append_assoc], ?_,
      fun rest => ?_⟩
    · simp only [List.length_cons, List.length_append]
      omega
    · have hquoted := quoted_escape (hescape (w ++ rest)) (hscan rest)
      rw [List.cons_append, List.append_assoc, hquoted]
      simp only [List.length_cons, List.length_append]
      congr 2
      omega
  | case4 c cs hquote hbackslash hline => cases h
  | case5 c cs hquote hbackslash hline ih =>
    obtain ⟨⟨value, n⟩, hvalue, h⟩ := bind_eq_ok.1 h
    obtain ⟨rfl, rfl⟩ := Prod.mk.inj (Except.ok.inj h)
    obtain ⟨w, r, rfl, rfl, hscan⟩ := ih hvalue
    refine ⟨c :: w, r, rfl, by rw [List.length_cons, Nat.add_comm], fun rest => ?_⟩
    rw [List.cons_append, quoted, if_neg hquote, if_neg hbackslash, if_neg hline,
      bind_eq_of_ok (hscan rest), List.length_cons, Nat.add_comm w.length]
    rfl

/-- The text of a block string is read off the front, up to its closing quotation marks. -/
theorem scansFront_blockText {cs text : List Char} {used : Nat}
    (h : blockText cs = .ok (text, used)) : ScansFront blockText cs text used ∧ 3 ≤ used := by
  fun_induction blockText cs generalizing text used with
  | case1 cs =>
    obtain ⟨rfl, rfl⟩ := Prod.mk.inj (Except.ok.inj h)
    exact ⟨⟨['"', '"', '"'], cs, rfl, rfl, fun _ => rfl⟩, Nat.le_refl 3⟩
  | case2 cs ih =>
    obtain ⟨⟨raw, n⟩, hraw, h⟩ := bind_eq_ok.1 h
    obtain ⟨rfl, rfl⟩ := Prod.mk.inj (Except.ok.inj h)
    obtain ⟨⟨w, r, rfl, rfl, hscan⟩, hn⟩ := ih hraw
    refine ⟨⟨'\\' :: '"' :: '"' :: '"' :: w, r, rfl, ?_, fun rest => ?_⟩, by omega⟩
    · simp only [List.length_cons]
      omega
    · simp only [List.cons_append, blockText, bind_eq_of_ok (hscan rest), List.length_cons]
      rw [Nat.add_comm 4]
      rfl
  | case3 c cs hclose hescaped ih =>
    obtain ⟨⟨raw, n⟩, hraw, h⟩ := bind_eq_ok.1 h
    obtain ⟨rfl, rfl⟩ := Prod.mk.inj (Except.ok.inj h)
    obtain ⟨⟨w, r, rfl, rfl, hscan⟩, hn⟩ := ih hraw
    refine ⟨⟨c :: w, r, rfl, by rw [List.length_cons, Nat.add_comm], fun rest => ?_⟩, by omega⟩
    -- The closing marks lie within `w`, so that what follows does not decide which case applies.
    obtain ⟨x, y, z, w, rfl⟩ : ∃ x y z w', w = x :: y :: z :: w' := by
      rcases w with _ | ⟨x, _ | ⟨y, _ | ⟨z, w⟩⟩⟩
      all_goals simp only [List.length_nil, List.length_cons] at hn
      all_goals first | omega | exact ⟨x, y, z, w, rfl⟩
    have hlength : (c :: x :: y :: z :: w).length = 1 + (x :: y :: z :: w).length :=
      Nat.add_comm ..
    rw [List.cons_append, blockText.eq_3, bind_eq_of_ok (hscan rest), hlength]
    · rfl
    · rintro tail rfl he
      simp only [List.cons_append, List.cons.injEq] at he
      obtain ⟨rfl, rfl, -⟩ := he
      exact hclose _ rfl rfl
    · rintro tail rfl he
      simp only [List.cons_append, List.cons.injEq] at he
      obtain ⟨rfl, rfl, rfl, -⟩ := he
      exact hescaped _ rfl rfl
  | case4 => cases h

/-- A string that begins with its closing quotation mark is empty. -/
theorem eq_of_scans_quoted {written value rest cs : List Char} (h : Scans quoted written value)
    (hquote : written ++ rest = '"' :: cs) : written = ['"'] := by
  have hscan := h []
  rw [List.append_nil] at hscan
  cases written with
  | nil =>
    rw [quoted] at hscan
    cases hscan
  | cons d written =>
    obtain rfl : d = '"' := (List.cons.inj hquote).1
    rw [quoted, if_pos rfl] at hscan
    have hlength := (Prod.mk.inj (Except.ok.inj hscan)).2
    rw [List.length_cons] at hlength
    have hnil : written = [] := List.eq_nil_of_length_eq_zero (by omega)
    rw [hnil]

/-! ## Tokens -/

/-- A token is cut off the front of a text, and off every text with the same front that goes on with
the same character or with one that does not run into the token. -/
def CutsFront (c : Char) (cs : List Char) (t : Token) (used : Nat) : Prop :=
  ∃ written rest, cs = written ++ rest ∧ used = written.length + 1 ∧
    ∀ rest', rest'.head? = rest.head? ∨ StandsApart rest' →
      token c (written ++ rest') = .ok (t, used)

theorem cutsFront_block {raw text : List Char} {n : Nat} (h : blockText raw = .ok (text, n)) :
    CutsFront '"' ('"' :: '"' :: raw) (.block (String.ofList (BlockString.value text)))
      (3 + n) := by
  obtain ⟨⟨w, r, rfl, rfl, hscan⟩, -⟩ := scansFront_blockText h
  refine ⟨'"' :: '"' :: w, r, rfl, ?_, fun rest' _ => ?_⟩
  · simp only [List.length_cons]
    omega
  · rw [Nat.add_comm]
    exact token_block (hscan rest')

/-- A quoted string that is empty must not be followed by a quotation mark. -/
theorem cutsFront_quoted {cs value : List Char} {n : Nat}
    (hfence : ∀ raw, cs ≠ '"' :: '"' :: raw) (h : quoted cs = .ok (value, n)) :
    CutsFront '"' cs (.string (String.ofList value)) (1 + n) := by
  obtain ⟨w, r, rfl, rfl, hscan⟩ := scansFront_quoted h
  refine ⟨w, r, rfl, Nat.add_comm .., fun rest' hrest' => ?_⟩
  rw [Nat.add_comm]
  refine token_quoted (fun raw he => ?_) (hscan rest')
  obtain rfl := eq_of_scans_quoted hscan he
  have hrest : rest' = '"' :: raw := (List.cons.inj he).2
  have hhead : rest'.head? = some '"' := by
    rw [hrest]
    rfl
  rcases hrest' with hsame | hapart
  · obtain ⟨tail, rfl⟩ := List.head?_eq_some_iff.1 (hsame.symm.trans hhead)
    exact hfence tail rfl
  · exact absurd (hapart '"' hhead) (by decide)

section

variable {c : Char} {cs : List Char} {t : Token} {used : Nat}
  (hmark : Punctuator.ofChar? c = none) (hquote : c ≠ '"') (hpoint : c ≠ '.')

include hmark hquote hpoint

theorem cutsFront_number (hstart : (c.isDigit || decide (c = '-')) = true)
    (h : number (c :: cs) = .ok (t, used)) : CutsFront c cs t used := by
  obtain ⟨text, rest, hcs, rfl, hne, -, -, hend, hscan⟩ := exists_scanned_number h
  obtain ⟨d, written, rfl⟩ := List.exists_cons_of_ne_nil hne
  obtain ⟨rfl, rfl⟩ := List.cons.inj hcs
  refine ⟨written, rest, rfl, rfl, fun rest' hrest' => ?_⟩
  have hends : EndsNumber rest' := by
    rcases hrest' with hsame | hapart
    · rw [EndsNumber, hsame]
      exact hend
    · exact hapart.endsNumber
  rw [token.eq_def, hmark]
  dsimp only
  rw [if_neg hquote, if_neg hpoint, if_pos hstart]
  exact hscan rest' hends

theorem cutsFront_name (hnumber : ¬(c.isDigit || decide (c = '-')) = true)
    (hstart : isNameStart c = true) :
    CutsFront c cs (.name (String.ofList (c :: cs.takeWhile isNameContinue)))
      (1 + (cs.takeWhile isNameContinue).length) := by
  refine ⟨cs.takeWhile isNameContinue, cs.dropWhile isNameContinue,
    List.takeWhile_append_dropWhile.symm, Nat.add_comm .., fun rest' hrest' => ?_⟩
  have hstop : ∀ d ∈ rest'.head?, isNameContinue d = false := by
    rcases hrest' with hsame | hapart
    · rw [hsame]
      intro d hd
      have hhead := List.head?_dropWhile_not isNameContinue cs
      rw [Option.mem_def.1 hd] at hhead
      simpa using hhead
    · intro d hd
      have htight := hapart d hd
      simp only [isTight, Bool.or_eq_false_iff] at htight
      exact htight.1.1
  have htake : (cs.takeWhile isNameContinue ++ rest').takeWhile isNameContinue
      = cs.takeWhile isNameContinue := by
    rw [List.takeWhile_append_of_pos (List.all_eq_true.1 List.all_takeWhile)]
    cases rest' with
    | nil => simp
    | cons d rest' =>
      rw [List.takeWhile_cons_of_neg (by simp [hstop d rfl]), List.append_nil]
  rw [token.eq_def, hmark]
  dsimp only
  rw [if_neg hquote, if_neg hpoint, if_neg hnumber, if_pos hstart, htake]

end

/-- Every token that is cut is cut off the front. -/
theorem cutsFront_token {c : Char} {cs : List Char} {t : Token} {used : Nat}
    (h : token c cs = .ok (t, used)) : CutsFront c cs t used := by
  unfold token at h
  split at h
  · next p hp =>
    obtain ⟨rfl, rfl⟩ := Prod.mk.inj (Except.ok.inj h)
    refine ⟨[], cs, rfl, rfl, fun rest' _ => ?_⟩
    rw [token.eq_def, hp]
  next hmark =>
  split at h
  · next hquote =>
    subst hquote
    split at h
    · obtain ⟨⟨text, n⟩, hraw, h⟩ := bind_eq_ok.1 h
      obtain ⟨rfl, rfl⟩ := Prod.mk.inj (Except.ok.inj h)
      exact cutsFront_block hraw
    · next hfence =>
      obtain ⟨⟨value, n⟩, hvalue, h⟩ := bind_eq_ok.1 h
      obtain ⟨rfl, rfl⟩ := Prod.mk.inj (Except.ok.inj h)
      exact cutsFront_quoted hfence hvalue
  next hquote =>
  split at h
  · next hpoint =>
    subst hpoint
    split at h
    · next rest =>
      obtain ⟨rfl, rfl⟩ := Prod.mk.inj (Except.ok.inj h)
      exact ⟨['.', '.'], rest, rfl, rfl, fun rest' _ => rfl⟩
    · cases h
  next hpoint =>
  split at h
  · next hstart => exact cutsFront_number hmark hquote hpoint hstart h
  next hnumber =>
  split at h
  · next hstart =>
    obtain ⟨rfl, rfl⟩ := Prod.mk.inj (Except.ok.inj h)
    exact cutsFront_name hmark hquote hpoint hnumber hstart
  · cases h

/-! ## Texts -/

/-- A comment ends at the latest where the line does. -/
theorem dropWhile_append_newline (cs rest : List Char) :
    (cs ++ '\n' :: rest).dropWhile (fun c => !isLineEnd c)
      = cs.dropWhile (fun c => !isLineEnd c) ++ '\n' :: rest := by
  induction cs with
  | nil => rfl
  | cons c cs ih =>
    by_cases hc : isLineEnd c = true
    · simp [hc]
    · simp [hc, ih]

/-- A text that is cut up to its end is cut the same before a line break, and what follows the line
break is cut on its own. -/
theorem lexCharacters_append_newline {cs : List Char} {tokens : List Token}
    (h : lexCharacters cs = (tokens, none)) (rest : List Char) :
    lexCharacters (cs ++ '\n' :: rest) = prepend tokens (lexCharacters rest) := by
  fun_induction lexCharacters cs generalizing tokens with
  | case1 =>
    obtain rfl := (Prod.mk.inj h).1
    exact lexCharacters_ignored rfl rest
  | case2 c cs hc ih =>
    rw [List.cons_append, lexCharacters_ignored hc]
    exact ih h
  | case3 cs hc ih =>
    rw [List.cons_append, lexCharacters, if_neg hc, if_pos rfl, dropWhile_append_newline]
    exact ih h
  | case4 c cs hc hcomment e he => cases h
  | case5 c cs hc hcomment t used ht more ending heq ih =>
    obtain ⟨rfl, rfl⟩ := Prod.mk.inj h
    obtain ⟨written, r, rfl, rfl, hstable⟩ := cutsFront_token ht
    rw [Nat.add_sub_cancel, List.drop_left] at heq ih
    have hhead : (r ++ '\n' :: rest).head? = r.head? ∨ StandsApart (r ++ '\n' :: rest) := by
      cases r with
      | nil =>
        right
        intro d hd
        obtain rfl : '\n' = d := by simpa using hd
        rfl
      | cons d r => exact Or.inl rfl
    have hcut := lexCharacters_token (by simpa using hc) hcomment (hstable _ hhead)
    rw [List.cons_append, List.append_assoc, hcut, ih heq]
    exact (prepend_append [t] more _).symm

end Lexer

open Lexer in
/-- Texts on lines of their own are cut into the tokens of the one and those of the other. -/
theorem lex_append_newline {s : String} {tokens : List Token} (h : lex s = (tokens, none))
    (s' : String) : lex (s ++ "\n" ++ s') = (tokens ++ (lex s').1, (lex s').2) := by
  rw [lex, String.toList_append, String.toList_append, List.append_assoc]
  exact lexCharacters_append_newline h s'.toList

end PersistedDocument.GraphQL
