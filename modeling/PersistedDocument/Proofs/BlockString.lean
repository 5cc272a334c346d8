import PersistedDocument.GraphQL.Lexer
import PersistedDocument.Proofs.Lines

/-!
# Proofs: block strings

The value of a block string is a `DedentedText`: no line end but the line feed, no blank line at
either end, and among several lines one that starts at the margin. The written form of such a text,
moved to any indentation, is scanned to its end and has the text as its value.
-/

namespace PersistedDocument.GraphQL.BlockString

open PersistedDocument.Text

/-! ## Values -/

/-- What a text is that block strings have as their value. -/
structure DedentedText (v : List Char) : Prop where
  /-- Every line end is a line feed. -/
  unified : '\r' ∉ v
  /-- The first line is not blank. -/
  first_line : v ≠ [] → ∀ line ∈ (splitLines v).head?, isBlankLine line = false
  /-- The last line is not blank. -/
  last_line : v ≠ [] → ∀ line ∈ (splitLines v).getLast?, isBlankLine line = false
  /-- Among several lines there is one that is not indented. -/
  flush : 1 < (splitLines v).length → ∃ line ∈ splitLines v, ∃ c ∈ line.head?, isBlank c = false

theorem isBlankLine_append {margin line : List Char} (h : isBlankLine margin = true) :
    isBlankLine (margin ++ line) = isBlankLine line := by
  simp only [isBlankLine, List.all_append] at h ⊢
  rw [h, Bool.true_and]

theorem indentation_append {margin line : List Char} (h : isBlankLine margin = true) :
    indentation (margin ++ line) = margin.length + indentation line := by
  have h' : ∀ c ∈ margin, isBlank c = true := List.all_eq_true.1 h
  rw [indentation, indentation, List.takeWhile_append_of_pos h', List.length_append]

/-- A line whose first character is no blank is neither indented nor blank. -/
theorem indentation_eq_zero {line : List Char} {c : Char} (h : c ∈ line.head?)
    (hc : isBlank c = false) : indentation line = 0 ∧ isBlankLine line = false := by
  cases line with
  | nil => simp at h
  | cons d line =>
    obtain rfl : d = c := by simpa using h
    simp [indentation, isBlankLine, hc]

/-- The common indentation is reached by a line that is not blank, and by none undercut. -/
theorem commonIndentation_eq_some {lines : List (List Char)} {d : Nat} :
    commonIndentation lines = some d ↔
      (∃ line ∈ lines, isBlankLine line = false ∧ indentation line = d) ∧
      ∀ line ∈ lines, isBlankLine line = false → d ≤ indentation line := by
  rw [commonIndentation, List.min?_eq_some_iff]
  simp only [List.mem_map, List.mem_filter, Bool.not_eq_true', and_assoc]
  constructor
  · rintro ⟨hreached, hleast⟩
    exact ⟨hreached, fun line hline hblank => hleast _ ⟨line, hline, hblank, rfl⟩⟩
  · rintro ⟨hreached, hleast⟩
    refine ⟨hreached, ?_⟩
    rintro _ ⟨line, hline, hblank, rfl⟩
    exact hleast line hline hblank

theorem commonIndentation_eq_none {lines : List (List Char)} :
    commonIndentation lines = none ↔ ∀ line ∈ lines, isBlankLine line = true := by
  rw [commonIndentation, List.min?_eq_none_iff, List.map_eq_nil_iff, List.filter_eq_nil_iff]
  simp

/-! ### Blank lines at the ends -/

theorem dropWhile_append_of_blank {lines rest : List (List Char)}
    (h : ∀ line ∈ lines, isBlankLine line = true) :
    (lines ++ rest).dropWhile isBlankLine = rest.dropWhile isBlankLine := by
  induction lines with
  | nil => rfl
  | cons line lines ih =>
    rw [List.cons_append, List.dropWhile_cons_of_pos (h line (List.mem_cons_self ..))]
    exact ih fun l hl => h l (List.mem_cons_of_mem _ hl)

theorem dropWhile_eq_self_of_head {lines : List (List Char)}
    (h : ∀ line ∈ lines.head?, isBlankLine line = false) :
    lines.dropWhile isBlankLine = lines := by
  cases lines with
  | nil => rfl
  | cons line lines => exact List.dropWhile_cons_of_neg (by simp [h line rfl])

/-- Blank lines around lines that are not blank at their ends are what is trimmed. -/
theorem trimBlankLines_append {before lines after : List (List Char)}
    (hbefore : ∀ line ∈ before, isBlankLine line = true)
    (hafter : ∀ line ∈ after, isBlankLine line = true)
    (hfirst : ∀ line ∈ lines.head?, isBlankLine line = false)
    (hlast : ∀ line ∈ lines.getLast?, isBlankLine line = false) :
    trimBlankLines (before ++ lines ++ after) = lines := by
  have hafter' : ∀ line ∈ after.reverse, isBlankLine line = true :=
    fun line h => hafter line (List.mem_reverse.1 h)
  rw [trimBlankLines, List.append_assoc, dropWhile_append_of_blank hbefore]
  cases lines with
  | nil =>
    have hnone : (after ++ []).dropWhile isBlankLine = [] := dropWhile_append_of_blank hafter
    rw [List.append_nil] at hnone
    simp [hnone]
  | cons line lines =>
    have hkept : (line :: lines ++ after).dropWhile isBlankLine = line :: lines ++ after :=
      dropWhile_eq_self_of_head hfirst
    have hlast' : ∀ l ∈ (line :: lines).reverse.head?, isBlankLine l = false := by
      rwa [List.head?_reverse]
    rw [hkept, List.reverse_append, dropWhile_append_of_blank hafter',
      dropWhile_eq_self_of_head hlast', List.reverse_reverse]

theorem head_dropWhile_blank {lines : List (List Char)} :
    ∀ line ∈ (lines.dropWhile isBlankLine).head?, isBlankLine line = false := by
  induction lines with
  | nil => simp
  | cons line lines ih =>
    by_cases h : isBlankLine line = true
    · rw [List.dropWhile_cons_of_pos h]
      exact ih
    · rw [List.dropWhile_cons_of_neg h]
      simpa using h

theorem dropWhile_blank_eq_append (lines : List (List Char)) :
    ∃ before, (∀ line ∈ before, isBlankLine line = true) ∧
      lines = before ++ lines.dropWhile isBlankLine := by
  refine ⟨lines.takeWhile isBlankLine, fun line h => ?_, List.takeWhile_append_dropWhile.symm⟩
  exact List.all_eq_true.1 List.all_takeWhile line h

/-- Trimming takes blank lines away at both ends until there are none. -/
theorem exists_trimBlankLines (lines : List (List Char)) :
    ∃ before after, (∀ line ∈ before, isBlankLine line = true) ∧
      (∀ line ∈ after, isBlankLine line = true) ∧
      lines = before ++ trimBlankLines lines ++ after ∧
      (∀ line ∈ (trimBlankLines lines).head?, isBlankLine line = false) ∧
      ∀ line ∈ (trimBlankLines lines).getLast?, isBlankLine line = false := by
  obtain ⟨before, hbefore, hlines⟩ := dropWhile_blank_eq_append lines
  obtain ⟨after, hafter, hrest⟩ := dropWhile_blank_eq_append (lines.dropWhile isBlankLine).reverse
  have hrest' : lines.dropWhile isBlankLine = trimBlankLines lines ++ after.reverse := by
    have := congrArg List.reverse hrest
    rwa [List.reverse_reverse, List.reverse_append] at this
  refine ⟨before, after.reverse, hbefore, fun l h => hafter l (List.mem_reverse.1 h), ?_, ?_, ?_⟩
  · rw [List.append_assoc, ← hrest', ← hlines]
  · intro line hline
    have hhead := @head_dropWhile_blank lines line
    rw [hrest', List.head?_append, Option.mem_def.1 hline] at hhead
    exact hhead rfl
  · rw [trimBlankLines, List.getLast?_reverse]
    exact head_dropWhile_blank

/-! ### The value of a block string is dedented -/

/-- Every line of the value is a line of the text, perhaps with less indentation. -/
theorem mem_removeIndentation {lines : List (List Char)} {line : List Char}
    (h : line ∈ removeIndentation lines) : ∃ l ∈ lines, ∃ n, line = l.drop n := by
  cases lines with
  | nil => simp [removeIndentation] at h
  | cons first rest =>
    rcases List.mem_cons.1 h with rfl | h
    · exact ⟨line, List.mem_cons_self .., 0, rfl⟩
    · obtain ⟨l, hl, rfl⟩ := List.mem_map.1 h
      exact ⟨l, List.mem_cons_of_mem _ hl, _, rfl⟩

/-- Dropping the indentation of a line that is not blank leaves a line that starts flush. -/
theorem exists_head_drop_indentation {line : List Char} (h : isBlankLine line = false) :
    ∃ c ∈ (line.drop (indentation line)).head?, isBlank c = false := by
  induction line with
  | nil => simp [isBlankLine] at h
  | cons c line ih =>
    by_cases hc : isBlank c = true
    · have hline : isBlankLine line = false := by simpa [isBlankLine, hc] using h
      obtain ⟨d, hd, hblank⟩ := ih hline
      have hind : indentation (c :: line) = indentation line + 1 := by simp [indentation, hc]
      exact ⟨d, by rwa [hind, List.drop_succ_cons], hblank⟩
    · have hind : indentation (c :: line) = 0 := by simp [indentation, hc]
      exact ⟨c, by rw [hind, List.drop_zero]; rfl, by simpa using hc⟩

/-- Trimming keeps what is not blank. -/
theorem mem_trimBlankLines {lines : List (List Char)} {line : List Char} (h : line ∈ lines)
    (hblank : isBlankLine line = false) : line ∈ trimBlankLines lines := by
  obtain ⟨before, after, hbefore, hafter, heq, -, -⟩ := exists_trimBlankLines lines
  rw [heq, List.append_assoc] at h
  rcases List.mem_append.1 h with h | h
  · exact absurd (hbefore line h) (by simp [hblank])
  · rcases List.mem_append.1 h with h | h
    · exact h
    · exact absurd (hafter line h) (by simp [hblank])

/-- Among several lines that remain, one starts flush: removing the common indentation uncovers the
start of the line that has no more than that. -/
theorem exists_flush_line {first : List Char} {rest : List (List Char)}
    (h : 1 < (trimBlankLines (removeIndentation (first :: rest))).length) :
    ∃ line ∈ trimBlankLines (removeIndentation (first :: rest)),
      ∃ c ∈ line.head?, isBlank c = false := by
  cases hcommon : commonIndentation rest with
  | some d =>
    obtain ⟨⟨line, hline, hblank, rfl⟩, -⟩ := commonIndentation_eq_some.1 hcommon
    obtain ⟨c, hc, hflush⟩ := exists_head_drop_indentation hblank
    refine ⟨line.drop (indentation line), mem_trimBlankLines ?_ (indentation_eq_zero hc hflush).2,
      c, hc, hflush⟩
    rw [removeIndentation, hcommon]
    exact List.mem_cons_of_mem _ (List.mem_map.2 ⟨line, hline, rfl⟩)
  | none =>
    -- all lines but the first are blank, so that at most the first one remains
    have hrest : ∀ line ∈ rest, isBlankLine line = true := commonIndentation_eq_none.1 hcommon
    have hkept : removeIndentation (first :: rest) = first :: rest := by
      rw [removeIndentation, hcommon, Option.getD_none, List.map_id'' (fun _ => List.drop_zero)]
    rw [hkept] at h
    by_cases hfirst : isBlankLine first = true
    · have hall : ∀ line ∈ first :: rest, isBlankLine line = true := by
        simpa [hfirst] using hrest
      have hnil : trimBlankLines ((first :: rest) ++ [] ++ []) = [] :=
        trimBlankLines_append hall (by simp) (by simp) (by simp)
      rw [List.append_nil, List.append_nil] at hnil
      simp [hnil] at h
    · have hone : trimBlankLines ([] ++ [first] ++ rest) = [first] :=
        trimBlankLines_append (by simp) hrest (by simpa using hfirst) (by simpa using hfirst)
      rw [List.nil_append, List.singleton_append] at hone
      simp [hone] at h

/-- Lines that fit together, joined. -/
theorem dedentedText_joinLines {lines : List (List Char)}
    (hchars : ∀ line ∈ lines, '\n' ∉ line ∧ '\r' ∉ line)
    (hfirst : ∀ line ∈ lines.head?, isBlankLine line = false)
    (hlast : ∀ line ∈ lines.getLast?, isBlankLine line = false)
    (hflush : 1 < lines.length → ∃ line ∈ lines, ∃ c ∈ line.head?, isBlank c = false) :
    DedentedText (joinLines lines) := by
  have hunified : '\r' ∉ joinLines lines := by
    intro h
    rcases mem_joinWith h with h | ⟨line, hline, h⟩
    · simp at h
    · exact (hchars line hline).2 h
  by_cases hnil : lines = []
  · subst hnil
    exact ⟨hunified, fun h => absurd rfl h, fun h => absurd rfl h, fun h => absurd h (by decide)⟩
  · have hsplit : splitLines (joinLines lines) = lines :=
      splitOn_joinWith hnil fun line hline => (hchars line hline).1
    exact ⟨hunified, fun _ => by rwa [hsplit], fun _ => by rwa [hsplit], by rwa [hsplit]⟩

/-- The value of a block string is dedented, whatever stands between its fences. -/
theorem dedentedText_value (raw : List Char) : DedentedText (value raw) := by
  obtain ⟨first, rest, hlines⟩ :=
    List.exists_cons_of_ne_nil (splitOn_ne_nil '\n' (unifyNewlines raw))
  obtain ⟨before, after, -, -, heq, hfirst, hlast⟩ :=
    exists_trimBlankLines (removeIndentation (first :: rest))
  rw [value, splitLines, hlines]
  refine dedentedText_joinLines (fun line hline => ?_) hfirst hlast exists_flush_line
  have hremoved : line ∈ removeIndentation (first :: rest) := by
    rw [heq]
    exact List.mem_append_left _ (List.mem_append_right _ hline)
  obtain ⟨l, hl, n, rfl⟩ := mem_removeIndentation hremoved
  rw [← hlines] at hl
  exact ⟨fun h => not_mem_of_mem_splitOn hl (List.mem_of_mem_drop h),
    fun h => not_mem_unifyNewlines raw (mem_of_mem_splitOn hl (List.mem_of_mem_drop h))⟩

/-! ## Fences -/

theorem escapeFences_cons {c : Char} {cs : List Char}
    (h : ∀ ds, c :: cs ≠ '"' :: '"' :: '"' :: ds) :
    escapeFences (c :: cs) = c :: escapeFences cs := by
  rw [escapeFences]
  intro ds hc hcs
  exact h ds (by rw [hc, hcs])

/-- A character that is no quotation mark keeps the runs of quotation marks on both sides apart. -/
theorem escapeFences_append_cons {c : Char} (hc : c ≠ '"') (cs ds : List Char) :
    escapeFences (cs ++ c :: ds) = escapeFences cs ++ c :: escapeFences ds := by
  fun_induction escapeFences cs with
  | case1 cs ih => simp [escapeFences, ih]
  | case2 d cs hd ih =>
    rw [List.cons_append, escapeFences_cons, ih, List.cons_append]
    intro es he
    rcases cs with - | ⟨e, - | ⟨f, cs⟩⟩
    · simp [hc] at he
    · simp [hc] at he
    · simp only [List.cons_append, List.cons.injEq] at he
      obtain ⟨hd', he', hf', -⟩ := he
      exact hd cs hd' (by rw [he', hf'])
  | case3 =>
    rw [List.nil_append, escapeFences_cons]
    · rfl
    · intro es he
      exact hc (List.cons.inj he).1

theorem escapeFences_append_of_blank {blanks : List Char} (h : ∀ c ∈ blanks, c ≠ '"')
    (cs : List Char) : escapeFences (blanks ++ cs) = blanks ++ escapeFences cs := by
  induction blanks with
  | nil => rfl
  | cons c blanks ih =>
    have hc : c ≠ '"' := h c (List.mem_cons_self ..)
    have hcons := escapeFences_append_cons hc [] (blanks ++ cs)
    rw [ih fun d hd => h d (List.mem_cons_of_mem _ hd)] at hcons
    exact hcons

/-- A margin leaves the characters before the first line feed where they are. -/
theorem quotes_of_indentAfterNewlines {margin cs ds : List Char}
    (h : indentAfterNewlines margin cs = '"' :: ds) :
    ∃ cs', cs = '"' :: cs' ∧ indentAfterNewlines margin cs' = ds := by
  cases cs with
  | nil => simp [indentAfterNewlines] at h
  | cons c cs =>
    by_cases hc : c = '\n'
    · rw [hc, indentAfterNewlines_newline] at h
      simp at h
    · rw [indentAfterNewlines_cons hc] at h
      obtain ⟨rfl, rfl⟩ := List.cons.inj h
      exact ⟨cs, rfl, rfl⟩

/-- Escaping fences and putting a margin after line feeds do not interfere. -/
theorem escapeFences_indentAfterNewlines {margin : List Char} (h : ∀ c ∈ margin, c ≠ '"')
    (cs : List Char) :
    escapeFences (indentAfterNewlines margin cs)
      = indentAfterNewlines margin (escapeFences cs) := by
  fun_induction escapeFences cs with
  | case1 cs ih => simp [indentAfterNewlines_cons, escapeFences, ih]
  | case2 c cs hcs ih =>
    by_cases hc : c = '\n'
    · have hblanks : ∀ d ∈ '\n' :: margin, d ≠ '"' := by simpa using h
      rw [hc, indentAfterNewlines_newline, indentAfterNewlines_newline, ← List.cons_append,
        escapeFences_append_of_blank hblanks, ih, List.cons_append]
    · rw [indentAfterNewlines_cons hc, indentAfterNewlines_cons hc, escapeFences_cons, ih]
      intro ds hds
      obtain ⟨hquote, hds⟩ := List.cons.inj hds
      obtain ⟨cs₁, rfl, hds₁⟩ := quotes_of_indentAfterNewlines hds
      obtain ⟨cs₂, rfl, -⟩ := quotes_of_indentAfterNewlines hds₁
      exact hcs cs₂ hquote rfl
  | case3 => rfl

/-- A quotation mark in front of an escaped text is one of the text, and starts no fence. -/
theorem head_of_escapeFences_append {cs tail ds : List Char}
    (h : escapeFences cs ++ tail = '"' :: ds) :
    cs = [] ∨ ∃ cs', cs = '"' :: cs' ∧ (∀ es, cs ≠ '"' :: '"' :: '"' :: es) ∧
      escapeFences cs' ++ tail = ds := by
  cases cs with
  | nil => exact Or.inl rfl
  | cons c cs =>
    by_cases hfence : ∃ es, c :: cs = '"' :: '"' :: '"' :: es
    · obtain ⟨es, hes⟩ := hfence
      rw [hes] at h
      simp [escapeFences] at h
    · have hno : ∀ es, c :: cs ≠ '"' :: '"' :: '"' :: es := fun es he => hfence ⟨es, he⟩
      rw [escapeFences_cons hno, List.cons_append] at h
      obtain ⟨rfl, rfl⟩ := List.cons.inj h
      exact Or.inr ⟨cs, rfl, hno, rfl⟩

/-- The text does not run into the fence that closes it. -/
def EndsClear (cs : List Char) : Prop := ∀ c ∈ cs.getLast?, c ≠ '"' ∧ c ≠ '\\'

theorem EndsClear.of_append {cs ds : List Char} (h : EndsClear (cs ++ ds)) : EndsClear ds := by
  intro d hd
  refine h d ?_
  rw [List.getLast?_append, Option.mem_def.1 hd]
  rfl

/-- Before a fence, an escaped text that ends clear never has three quotation marks in a row. -/
theorem not_fence_escapeFences {cs rest ds : List Char} (h : EndsClear cs) (hne : cs ≠ []) :
    escapeFences cs ++ (fence ++ rest) ≠ '"' :: '"' :: '"' :: ds := by
  intro he
  rcases head_of_escapeFences_append he with h₁ | ⟨cs₁, rfl, hfence, he₁⟩
  · exact hne h₁
  · rcases head_of_escapeFences_append he₁ with rfl | ⟨cs₂, rfl, -, he₂⟩
    · exact (h '"' rfl).1 rfl
    · rcases head_of_escapeFences_append he₂ with rfl | ⟨cs₃, rfl, -, -⟩
      · exact (h '"' rfl).1 rfl
      · exact hfence cs₃ rfl

/-- Scanning an escaped text up to the fence after it gives the text. -/
theorem blockText_escapeFences {cs : List Char} (h : EndsClear cs) (rest : List Char) :
    Lexer.blockText (escapeFences cs ++ (fence ++ rest))
      = .ok (cs, (escapeFences cs).length + fence.length) := by
  fun_induction escapeFences cs with
  | case1 cs ih =>
    have hcs : EndsClear cs := @EndsClear.of_append ['"', '"', '"'] cs h
    simp only [List.cons_append, Lexer.blockText, ih hcs]
    simp only [bind, Except.bind, pure, Except.pure, List.length_cons]
    rw [show 4 + ((escapeFences cs).length + fence.length)
      = (escapeFences cs).length + 1 + 1 + 1 + 1 + fence.length by omega]
  | case2 c cs hcs ih =>
    have hclear : EndsClear cs := @EndsClear.of_append [c] cs h
    rw [List.cons_append, Lexer.blockText.eq_3 c, ih hclear]
    · simp only [bind, Except.bind, pure, Except.pure, List.length_cons]
      rw [show 1 + ((escapeFences cs).length + fence.length)
        = (escapeFences cs).length + 1 + fence.length by omega]
    · intro ds hc he
      have hcons : escapeFences (c :: cs) = c :: escapeFences cs :=
        escapeFences_cons fun es hes => hcs es (List.cons.inj hes).1 (List.cons.inj hes).2
      have hfence : escapeFences (c :: cs) ++ (fence ++ rest) = '"' :: '"' :: '"' :: ds := by
        rw [hcons, List.cons_append, hc, he]
      exact not_fence_escapeFences h (List.cons_ne_nil c cs) hfence
    · intro ds hc he
      by_cases hne : cs = []
      · subst hne
        exact (h c rfl).2 hc
      · exact not_fence_escapeFences hclear hne he
  | case3 => rfl

/-! ## The written form -/

/-- What stands between the fences of the written form before and after the text itself. -/
inductive Layout (v : List Char) : List Char → List Char → Prop where
  /-- A text on one line, beside both fences. -/
  | inline (single : '\n' ∉ v) (clear : EndsClear v) : Layout v [] []
  /-- A text on one line beside the opening fence. -/
  | closed (single : '\n' ∉ v) (nonempty : v ≠ []) : Layout v [] ['\n']
  /-- Lines of their own, one of which is not indented. -/
  | alone (nonempty : v ≠ [])
      (flush : ∃ line ∈ splitLines v, ∃ c ∈ line.head?, isBlank c = false) : Layout v ['\n'] ['\n']

/-- Escaping fences adds no line. -/
theorem length_splitLines_escapeFences (v : List Char) :
    (splitLines (escapeFences v)).length = (splitLines v).length := by
  have hcount : (escapeFences v).count '\n' = v.count '\n' := by
    fun_induction escapeFences v with
    | case1 cs ih => simp [ih]
    | case2 c cs _ ih => simp [List.count_cons, ih]
    | case3 => rfl
  rw [splitLines, splitLines, length_splitOn, length_splitOn, hcount]

theorem mem_of_mem_escapeFences {v : List Char} {c : Char} (h : c ∈ escapeFences v) :
    c ∈ v ∨ c = '\\' := by
  fun_induction escapeFences v with
  | case1 cs ih => grind
  | case2 d cs _ ih => grind
  | case3 => simp at h

/-- An escaped text starts with a blank only if the text does. -/
theorem isBlank_head_of_escapeFences {v : List Char} (hne : v ≠ [])
    (h : (escapeFences v).head?.any isBlank = false) : ∃ c ∈ v.head?, isBlank c = false := by
  fun_cases escapeFences v with
  | case1 cs => exact ⟨'"', rfl, rfl⟩
  | case2 c cs hcs =>
    rw [escapeFences_cons fun es hes => hcs es (List.cons.inj hes).1 (List.cons.inj hes).2] at h
    exact ⟨c, rfl, h⟩
  | case3 => exact absurd rfl hne

/-- The written form of a dedented text has one of the layouts. -/
theorem exists_layout {v : List Char} (hv : DedentedText v) :
    ∃ before after, Layout v before after ∧
      written v = fence ++ (before ++ escapeFences v ++ after) ++ fence := by
  have hunified : unifyNewlines (escapeFences v) = escapeFences v := by
    refine unifyNewlines_eq_self fun h => ?_
    rcases mem_of_mem_escapeFences h with h | h
    · exact hv.unified h
    · exact absurd h (by decide)
  by_cases hmany : 1 < (splitLines v).length
  · have hlines : 1 < (splitLines (escapeFences v)).length := by
      rwa [length_splitLines_escapeFences]
    have halone : standsAlone v = true := by
      simp [standsAlone, hunified, hlines]
    have hblank : startsBlank (splitLines (escapeFences v)) = false := by
      simp [startsBlank, show (splitLines (escapeFences v)).length ≠ 1 by omega]
    have hne : v ≠ [] := by
      rintro rfl
      exact absurd hmany (by decide)
    refine ⟨_, _, Layout.alone hne (hv.flush hmany), ?_⟩
    simp [written, hunified, halone, hblank]
  · have hsingle : '\n' ∉ v := by
      rw [splitLines, length_splitOn] at hmany
      exact List.count_eq_zero.1 (by omega)
    have hsingle' : '\n' ∉ escapeFences v := by
      intro h
      rcases mem_of_mem_escapeFences h with h | h
      · exact hsingle h
      · exact absurd h (by decide)
    have hlines : splitLines (escapeFences v) = [escapeFences v] := splitOn_eq_singleton hsingle'
    by_cases halone : standsAlone v = true
    · have hne : v ≠ [] := by
        rintro rfl
        exact absurd halone (by decide)
      cases hblank : (escapeFences v).head?.any isBlank with
      | true =>
        refine ⟨_, _, Layout.closed hsingle hne, ?_⟩
        simp [written, hunified, hlines, halone, restIsIndented, startsBlank, hblank]
      | false =>
        have hflush : ∃ line ∈ splitLines v, ∃ c ∈ line.head?, isBlank c = false := by
          refine ⟨v, ?_, isBlank_head_of_escapeFences hne hblank⟩
          rw [splitLines, splitOn_eq_singleton hsingle]
          exact List.mem_singleton_self v
        refine ⟨_, _, Layout.alone hne hflush, ?_⟩
        simp [written, hunified, hlines, halone, restIsIndented, startsBlank, hblank]
    · have hclear : EndsClear v := by
        simp only [standsAlone, Bool.or_eq_true, beq_iff_eq, not_or] at halone
        intro c hc
        rw [Option.mem_def] at hc
        rw [hc] at halone
        simp_all
      refine ⟨_, _, Layout.inline hsingle hclear, ?_⟩
      simp [written, hunified, hlines, halone, restIsIndented]

section Margin

variable {v before after : List Char} (n : Nat)

theorem mem_margin {c : Char} (h : c ∈ List.replicate n ' ') : c = ' ' := List.eq_of_mem_replicate h

theorem not_newline_mem_margin : '\n' ∉ List.replicate n ' ' :=
  fun h => absurd (mem_margin n h) (by decide)

theorem isBlankLine_margin : isBlankLine (List.replicate n ' ') = true := by
  refine List.all_eq_true.2 fun c hc => ?_
  rw [mem_margin n hc]
  rfl

theorem endsClear_of_blank {cs blanks : List Char} (hne : blanks ≠ [])
    (h : ∀ c ∈ blanks, c = '\n' ∨ c = ' ') : EndsClear (cs ++ blanks) := by
  intro c hc
  rw [List.getLast?_append, List.getLast?_eq_some_getLast hne, Option.some_or] at hc
  obtain rfl := Option.some.inj hc
  rcases h _ (List.getLast_mem hne) with hlast | hlast <;> rw [hlast]
  · decide
  · decide

/-- Whatever the layout and the indentation, the text does not run into the closing fence. -/
theorem Layout.endsClear (hl : Layout v before after) :
    EndsClear (indentAfterNewlines (List.replicate n ' ') (before ++ v ++ after)) := by
  have hend : ∀ c ∈ '\n' :: List.replicate n ' ', c = '\n' ∨ c = ' ' := by
    intro c hc
    rcases List.mem_cons.1 hc with rfl | hc
    · exact Or.inl rfl
    · exact Or.inr (mem_margin n hc)
  have hlast : indentAfterNewlines (List.replicate n ' ') ['\n']
      = '\n' :: List.replicate n ' ' := by
    simp [indentAfterNewlines]
  cases hl with
  | inline hsingle hclear =>
    rwa [List.nil_append, List.append_nil, indentAfterNewlines_eq_self hsingle]
  | closed hsingle hne =>
    rw [indentAfterNewlines_append, hlast]
    exact endsClear_of_blank (List.cons_ne_nil _ _) hend
  | alone hne hflush =>
    rw [indentAfterNewlines_append, hlast]
    exact endsClear_of_blank (List.cons_ne_nil _ _) hend

/-- Lines of their own with a margin in front lose the margin again, since one of them has no
indentation beyond it. -/
theorem removeIndentation_margin {lines : List (List Char)}
    (hflush : ∃ line ∈ lines, ∃ c ∈ line.head?, isBlank c = false) :
    removeIndentation
        ([] :: (lines.map (List.replicate n ' ' ++ ·) ++ [List.replicate n ' ']))
      = [[]] ++ lines ++ [[]] := by
  have hblank := isBlankLine_margin n
  obtain ⟨line, hline, c, hc, hflush⟩ := hflush
  obtain ⟨hind, hnot⟩ := indentation_eq_zero hc hflush
  have hcommon : commonIndentation
      (lines.map (List.replicate n ' ' ++ ·) ++ [List.replicate n ' ']) = some n := by
    refine commonIndentation_eq_some.2 ⟨⟨List.replicate n ' ' ++ line, ?_, ?_, ?_⟩, ?_⟩
    · exact List.mem_append_left _ (List.mem_map.2 ⟨line, hline, rfl⟩)
    · rw [isBlankLine_append hblank, hnot]
    · rw [indentation_append hblank, hind, List.length_replicate, Nat.add_zero]
    · intro l hl hnb
      rcases List.mem_append.1 hl with hl | hl
      · obtain ⟨l, -, rfl⟩ := List.mem_map.1 hl
        rw [indentation_append hblank, List.length_replicate]
        exact Nat.le_add_right ..
      · rw [List.mem_singleton.1 hl, hblank] at hnb
        cases hnb
  have hdrop : List.drop n ∘ (List.replicate n ' ' ++ ·) = id := by
    funext l
    rw [Function.comp_apply, List.drop_append_of_le_length (by simp), List.drop_replicate,
      Nat.sub_self]
    rfl
  simp [removeIndentation, hcommon, hdrop]

/-- The value of what is written is the text, whatever the layout and the indentation. -/
theorem Layout.value_eq (hl : Layout v before after) (hv : DedentedText v) :
    value (indentAfterNewlines (List.replicate n ' ') (before ++ v ++ after)) = v := by
  have hmargin := not_newline_mem_margin n
  have hunified : '\r' ∉ indentAfterNewlines (List.replicate n ' ') (before ++ v ++ after) := by
    intro h
    rcases mem_indentAfterNewlines h with h | h
    · have hends : '\r' ∉ before ∧ '\r' ∉ after := by cases hl <;> decide
      simp only [List.mem_append, hends.1, hends.2, hv.unified, or_self] at h
    · exact absurd (mem_margin n h) (by decide)
  rw [value, unifyNewlines_eq_self hunified]
  cases hl with
  | inline hsingle hclear =>
    rw [List.nil_append, List.append_nil, indentAfterNewlines_eq_self hsingle]
    by_cases hne : v = []
    · subst hne
      rfl
    · have hfirst := hv.first_line hne
      rw [splitLines, splitOn_eq_singleton hsingle] at hfirst ⊢
      have htrim : trimBlankLines ([] ++ [v] ++ []) = [v] :=
        trimBlankLines_append (by simp) (by simp) hfirst hfirst
      simp only [List.nil_append, List.append_nil] at htrim
      rw [removeIndentation, List.map_nil, htrim]
      rfl
  | closed hsingle hne =>
    have hfirst := hv.first_line hne
    have hlines : splitLines (v ++ '\n' :: List.replicate n ' ') = [v, List.replicate n ' '] := by
      rw [splitLines, splitOn_append_cons, splitOn_eq_singleton hsingle,
        splitOn_eq_singleton hmargin]
      rfl
    have hnone : commonIndentation [List.replicate n ' '] = none :=
      commonIndentation_eq_none.2 fun line hline => by
        rw [List.mem_singleton.1 hline, isBlankLine_margin]
    rw [splitLines, splitOn_eq_singleton hsingle] at hfirst
    have htrim : trimBlankLines ([] ++ [v] ++ [List.replicate n ' ']) = [v] := by
      refine trimBlankLines_append (by simp) (fun line hline => ?_) hfirst hfirst
      rw [List.mem_singleton.1 hline, isBlankLine_margin]
    rw [List.nil_append, indentAfterNewlines_append, indentAfterNewlines_eq_self hsingle,
      indentAfterNewlines_newline, indentAfterNewlines, List.flatMap_nil, List.append_nil, hlines,
      removeIndentation, hnone, Option.getD_none, List.map_cons, List.drop_zero, List.map_nil]
    rw [List.nil_append] at htrim
    exact congrArg joinLines htrim
  | alone hne hflush =>
    have hlines : splitLines (['\n'] ++ v ++ ['\n']) = [] :: (splitLines v ++ [[]]) := by
      rw [splitLines, splitOn_append_cons]
      rfl
    rw [splitLines_indentAfterNewlines hmargin hlines, List.map_append, List.map_singleton,
      List.append_nil, removeIndentation_margin n hflush,
      trimBlankLines_append (by simp [isBlankLine]) (by simp [isBlankLine]) (hv.first_line hne)
        (hv.last_line hne)]
    exact joinWith_splitOn '\n' v

end Margin

/-- The written form of a dedented text, at any indentation, is a text between fences that is
scanned to its end and whose value is the dedented text. -/
theorem exists_written {v : List Char} (hv : DedentedText v) (n : Nat) :
    ∃ text, indentAfterNewlines (List.replicate n ' ') (written v)
        = fence ++ (escapeFences text ++ fence) ∧ EndsClear text ∧ value text = v := by
  obtain ⟨before, after, hl, hwritten⟩ := exists_layout hv
  have hfence : indentAfterNewlines (List.replicate n ' ') fence = fence :=
    indentAfterNewlines_eq_self (by decide)
  have hescape : escapeFences (before ++ v ++ after) = before ++ escapeFences v ++ after := by
    cases hl with
    | inline => simp
    | closed => exact escapeFences_append_cons (by decide) v []
    | alone => exact congrArg ('\n' :: ·) (escapeFences_append_cons (by decide) v [])
  have hmargin : ∀ c ∈ List.replicate n ' ', c ≠ '"' := by
    intro c hc
    rw [mem_margin n hc]
    decide
  refine ⟨indentAfterNewlines (List.replicate n ' ') (before ++ v ++ after), ?_,
    hl.endsClear n, hl.value_eq n hv⟩
  rw [hwritten, indentAfterNewlines_append, indentAfterNewlines_append, hfence,
    escapeFences_indentAfterNewlines hmargin, hescape, List.append_assoc]

end PersistedDocument.GraphQL.BlockString
