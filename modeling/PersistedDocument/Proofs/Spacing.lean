import Mathlib
import PersistedDocument.Proofs.Cutting
import PersistedDocument.Submission.Run

/-!
# Proofs: spacing

What stands between the tokens of a text means nothing. A text that is cut up to its end falls into
pieces: the ignored characters, the comments and what is written for the tokens. Between any two of
them, before the first and after the last, fillers may be put in, and the text is cut into the same
tokens. Everything after that works on tokens, so it makes no difference to what is submitted.
-/

namespace PersistedDocument

namespace GraphQL

open Lexer

/-! ## Fillers -/

/-- A text of ignored characters and of comments that are closed by a line end. -/
inductive IsFiller : List Char → Prop
  | nil : IsFiller []
  | ignored {c : Char} {cs : List Char} (hc : isIgnored c = true) (hcs : IsFiller cs) :
    IsFiller (c :: cs)
  | comment {body : List Char} {c : Char} {cs : List Char}
    (hbody : ∀ d ∈ body, isLineEnd d = false) (hc : isLineEnd c = true) (hcs : IsFiller cs) :
    IsFiller ('#' :: (body ++ c :: cs))

theorem isIgnored_of_isLineEnd {c : Char} (h : isLineEnd c = true) : isIgnored c = true := by
  simp only [isLineEnd, Bool.or_eq_true, decide_eq_true_eq] at h
  rcases h with rfl | rfl
  · rfl
  · rfl

theorem isTight_eq_false_of_isIgnored {c : Char} (h : isIgnored c = true) : isTight c = false := by
  simp only [isIgnored, Bool.or_eq_true, decide_eq_true_eq] at h
  rcases h with ((((rfl | rfl) | rfl) | rfl) | rfl) | rfl <;> rfl

/-- A comment reaches up to the first line end. -/
theorem dropWhile_comment {body : List Char} (hbody : ∀ d ∈ body, isLineEnd d = false)
    (rest : List Char) :
    (body ++ rest).dropWhile (fun d => !isLineEnd d) = rest.dropWhile fun d => !isLineEnd d := by
  refine List.dropWhile_append_of_pos fun d hd => ?_
  simp [hbody d hd]

theorem lexCharacters_comment (cs : List Char) :
    lexCharacters ('#' :: cs) = lexCharacters (cs.dropWhile fun d => !isLineEnd d) := by
  rw [lexCharacters, if_neg (by decide), if_pos rfl]

/-- A filler before a text is cut into no tokens. -/
theorem IsFiller.lexCharacters_append {w : List Char} (h : IsFiller w) (rest : List Char) :
    lexCharacters (w ++ rest) = lexCharacters rest := by
  induction h with
  | nil => rfl
  | @ignored c cs hc _ ih =>
    rw [List.cons_append, lexCharacters_ignored hc]
    exact ih
  | @comment body c cs hbody hc _ ih =>
    have hstop : (c :: (cs ++ rest)).dropWhile (fun d => !isLineEnd d) = c :: (cs ++ rest) := by
      simp [hc]
    rw [List.cons_append, lexCharacters_comment, List.append_assoc, dropWhile_comment hbody,
      List.cons_append, hstop, lexCharacters_ignored (isIgnored_of_isLineEnd hc)]
    exact ih

/-- A filler may stand in a comment at its end: what of it goes on with the comment is closed by a
line end, or by the one that closes the comment itself. -/
theorem IsFiller.lexCharacters_dropWhile {w : List Char} (h : IsFiller w) {rest : List Char}
    (hrest : ∀ d ∈ rest.head?, isLineEnd d = true) :
    lexCharacters ((w ++ rest).dropWhile fun d => !isLineEnd d) = lexCharacters rest := by
  induction h with
  | nil =>
    cases rest with
    | nil => rfl
    | cons d rest => simp [hrest d rfl]
  | @ignored c cs hc hcs ih =>
    by_cases hend : isLineEnd c = true
    · have hstop : (c :: (cs ++ rest)).dropWhile (fun d => !isLineEnd d) = c :: (cs ++ rest) := by
        simp [hend]
      rw [List.cons_append, hstop, lexCharacters_ignored hc]
      exact hcs.lexCharacters_append rest
    · have hskip : (c :: (cs ++ rest)).dropWhile (fun d => !isLineEnd d)
          = (cs ++ rest).dropWhile fun d => !isLineEnd d := by
        simp [hend]
      rw [List.cons_append, hskip]
      exact ih
  | @comment body c cs hbody hc hcs _ =>
    have hopen : ('#' :: (body ++ (c :: cs ++ rest))).dropWhile (fun d => !isLineEnd d)
        = (body ++ (c :: cs ++ rest)).dropWhile fun d => !isLineEnd d := rfl
    have hstop : (c :: cs ++ rest).dropWhile (fun d => !isLineEnd d) = c :: (cs ++ rest) := by
      simp [hc]
    rw [List.cons_append, List.append_assoc, hopen, dropWhile_comment hbody, hstop,
      lexCharacters_ignored (isIgnored_of_isLineEnd hc)]
    exact hcs.lexCharacters_append rest

/-- A filler does not run into what stands before it. -/
theorem IsFiller.standsApart {w : List Char} (h : IsFiller w) : StandsApart w := by
  intro d hd
  cases h with
  | nil => cases hd
  | ignored hc _ =>
    obtain rfl := Option.some.inj hd
    exact isTight_eq_false_of_isIgnored hc
  | comment _ _ _ =>
    obtain rfl := Option.some.inj hd
    rfl

/-! ## Pieces -/

/-- The pieces of a text: ignored characters, comments without the line ends that close them, and
what is written for tokens. What cannot be cut any further is one piece. -/
def pieces : List Char → List (List Char)
  | [] => []
  | c :: cs =>
    if isIgnored c then [c] :: pieces cs
    else if c = '#' then
      ('#' :: cs.takeWhile fun d => !isLineEnd d) :: pieces (cs.dropWhile fun d => !isLineEnd d)
    else
      match token c cs with
      | .error _ => [c :: cs]
      | .ok (_, used) => (c :: cs.take (used - 1)) :: pieces (cs.drop (used - 1))
termination_by cs => cs.length
decreasing_by
  · simp
  · have := (List.dropWhile_suffix (fun d => !isLineEnd d) (l := cs)).length_le
    simp only [List.length_cons]; omega
  · simp only [List.length_cons, List.length_drop]; omega

/-- Cutting a text into pieces loses nothing. -/
theorem flatten_pieces (cs : List Char) : (pieces cs).flatten = cs := by
  fun_induction pieces cs with
  | case1 => rfl
  | case2 c cs hc ih => simp [ih]
  | case3 cs hc ih => simp [ih, List.takeWhile_append_dropWhile]
  | case4 c cs hc hcomment e he => simp
  | case5 c cs hc hcomment t used ht ih => simp [ih]

/-- Pieces with something before each of them and after the last. -/
def interleave (fill : Nat → List Char) : List (List Char) → List Char
  | [] => fill 0
  | p :: ps => fill 0 ++ p ++ interleave (fun i => fill (i + 1)) ps

/-- A text with something put in at the boundaries between its pieces. -/
def respaced (fill : Nat → List Char) (text : String) : String :=
  String.ofList (interleave fill (pieces text.toList))

/-- The first character of a text stays in front, unless it comes to stand apart. -/
theorem head?_interleave_pieces {fill : Nat → List Char} (hfill : ∀ i, IsFiller (fill i))
    (cs : List Char) :
    (interleave fill (pieces cs)).head? = cs.head?
      ∨ StandsApart (interleave fill (pieces cs)) := by
  have hpiece (p : List Char) (ps : List (List Char)) (c : Char) (tail : List Char)
      (hp : p = c :: tail) :
      (interleave fill (p :: ps)).head? = some c ∨ StandsApart (interleave fill (p :: ps)) := by
    have hfirst := (hfill 0).standsApart
    rw [interleave, hp]
    cases hw : fill 0 with
    | nil => exact Or.inl rfl
    | cons d w =>
      rw [hw] at hfirst
      exact Or.inr hfirst
  cases cs with
  | nil =>
    rw [pieces]
    exact Or.inr (hfill 0).standsApart
  | cons c cs =>
    rw [pieces]
    split
    · exact hpiece _ _ c _ rfl
    split
    · next hcomment => exact hpiece _ _ c _ (by rw [hcomment])
    split
    · exact hpiece _ _ c _ rfl
    · exact hpiece _ _ c _ rfl

/-! ## Cutting respaced texts -/

/-- A comment with fillers behind it is followed by what followed it before. -/
theorem lexCharacters_dropWhile_interleave {fill : Nat → List Char}
    (hfill : ∀ i, IsFiller (fill i)) {cs : List Char}
    (hcs : ∀ d ∈ cs.head?, isLineEnd d = true) :
    lexCharacters ((interleave fill (pieces cs)).dropWhile fun d => !isLineEnd d)
      = lexCharacters (interleave fill (pieces cs)) := by
  cases cs with
  | nil =>
    have hend := @IsFiller.lexCharacters_dropWhile _ (hfill 0) [] nofun
    rw [List.append_nil] at hend
    rw [pieces, interleave, hend]
    have hnone := (hfill 0).lexCharacters_append []
    rw [List.append_nil] at hnone
    exact hnone.symm
  | cons c cs =>
    have hc : isLineEnd c = true := hcs c rfl
    rw [pieces, if_pos (isIgnored_of_isLineEnd hc), interleave, List.append_assoc,
      (hfill 0).lexCharacters_dropWhile, (hfill 0).lexCharacters_append]
    intro d hd
    obtain rfl : c = d := Option.some.inj hd
    exact hc

/-- A text that is cut up to its end is cut into the same tokens with fillers between its pieces. -/
theorem lexCharacters_interleave {cs : List Char} (h : (lexCharacters cs).2 = none)
    {fill : Nat → List Char} (hfill : ∀ i, IsFiller (fill i)) :
    lexCharacters (interleave fill (pieces cs)) = lexCharacters cs := by
  -- The induction is on the pieces, each of which takes the first of the fillers that are left.
  fun_induction pieces cs generalizing fill with
  | case1 =>
    have hnone := (hfill 0).lexCharacters_append []
    rwa [List.append_nil] at hnone
  | case2 c cs hc ih =>
    rw [lexCharacters_ignored hc] at h ⊢
    rw [interleave, List.append_assoc, (hfill 0).lexCharacters_append, List.singleton_append,
      lexCharacters_ignored hc]
    exact ih h fun i => hfill (i + 1)
  | case3 cs hc ih =>
    rw [lexCharacters_comment] at h ⊢
    have hbody : ∀ d ∈ cs.takeWhile (fun d => !isLineEnd d), isLineEnd d = false := by
      intro d hd
      simpa using List.all_eq_true.1 List.all_takeWhile d hd
    have hrest : ∀ d ∈ (cs.dropWhile fun d => !isLineEnd d).head?, isLineEnd d = true := by
      intro d hd
      have hhead := List.head?_dropWhile_not (fun d => !isLineEnd d) cs
      rw [Option.mem_def.1 hd] at hhead
      simpa using hhead
    have hnext : ∀ i, IsFiller (fill (i + 1)) := fun i => hfill (i + 1)
    rw [interleave, List.append_assoc, (hfill 0).lexCharacters_append, List.cons_append,
      lexCharacters_comment, dropWhile_comment hbody,
      lexCharacters_dropWhile_interleave hnext hrest]
    exact ih h hnext
  | case4 c cs hc hcomment e he =>
    rw [lexCharacters, if_neg hc, if_neg hcomment, he] at h
    cases h
  | case5 c cs hc hcomment t used ht ih =>
    obtain ⟨written, rest, rfl, rfl, hstable⟩ := cutsFront_token ht
    rw [Nat.add_sub_cancel, List.drop_left] at ih ⊢
    have hignored : isIgnored c = false := by simpa using hc
    have hcut := lexCharacters_token hignored hcomment (hstable rest (Or.inl rfl))
    rw [hcut] at h ⊢
    have hnext : ∀ i, IsFiller (fill (i + 1)) := fun i => hfill (i + 1)
    -- The fillers behind the token do not run into it, and without any its neighbour stays.
    have hapart := hstable _ (head?_interleave_pieces hnext rest)
    rw [interleave, List.append_assoc, (hfill 0).lexCharacters_append, List.take_left,
      List.cons_append, lexCharacters_token hignored hcomment hapart, ih h hnext]

theorem lex_respaced {text : String} (h : (lex text).2 = none) {fill : Nat → List Char}
    (hfill : ∀ i, IsFiller (fill i)) : lex (respaced fill text) = lex text := by
  rw [lex, respaced, String.toList_ofList]
  exact lexCharacters_interleave h hfill

end GraphQL

open GraphQL Lexer

/-! ## Submitting respaced texts -/

theorem transform_eq_of_lex {s s' : String} (h : lex s = lex s') (env : Environment) :
    transform env s = transform env s' := by
  have hparse : Document.parse s = Document.parse s' := by rw [Document.parse, Document.parse, h]
  rw [transform, transform, hparse]

/-- Fillers at the boundaries between the pieces of a text that is cut up to its end change nothing
in how it is transformed, be it to a document or to a failure, and nothing in what is submitted. -/
theorem spacing_is_ignored {text : String} (h : (lex text).2 = none) {fill : Nat → List Char}
    (hfill : ∀ i, IsFiller (fill i)) :
    (pieces text.toList).flatten = text.toList ∧
      (∀ env, transform env (respaced fill text) = transform env text) ∧
      ∀ w env settings,
        persist w env settings (respaced fill text) = persist w env settings text := by
  have htransform (env : Environment) : transform env (respaced fill text) = transform env text :=
    transform_eq_of_lex (lex_respaced h hfill) env
  refine ⟨flatten_pieces _, htransform, fun w env settings => ?_⟩
  rw [persist, htransform, persist]

/-- An empty string and a last comment, with a quotation mark in a comment at each boundary. -/
theorem spacing_is_ignored_empty_string :
    (lex "\x7ba(b:\"\")\x7d#end").2 = none ∧ (∀ _ : Nat, IsFiller "#\"\n,".toList) ∧
      (pieces "\x7ba(b:\"\")\x7d#end".toList).flatten = "\x7ba(b:\"\")\x7d#end".toList ∧
      (∀ env, transform env (respaced (fun _ => "#\"\n,".toList) "\x7ba(b:\"\")\x7d#end")
        = transform env "\x7ba(b:\"\")\x7d#end") ∧
      ∀ w env settings,
        persist w env settings (respaced (fun _ => "#\"\n,".toList) "\x7ba(b:\"\")\x7d#end")
          = persist w env settings "\x7ba(b:\"\")\x7d#end" := by
  have hlex : (lex "\x7ba(b:\"\")\x7d#end").2 = none := by cbv
  have hfiller : IsFiller "#\"\n,".toList := by
    have hquote : ∀ d ∈ ['"'], isLineEnd d = false := by simp [isLineEnd]
    exact .comment (c := '\n') hquote rfl (.ignored rfl .nil)
  exact ⟨hlex, fun _ => hfiller, spacing_is_ignored hlex fun _ => hfiller⟩

end PersistedDocument
