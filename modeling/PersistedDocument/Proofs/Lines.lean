import PersistedDocument.Text.Lines

/-!
# Proofs: lines of a text

Cutting a text into lines undoes joining lines, a margin put after each line feed shows on every
line but the first, and unifying line ends leaves no carriage return.
-/

namespace PersistedDocument.Text

section Cutting

variable {α : Type} [DecidableEq α] {separator : α}

/-- No piece holds the separator at which the text is cut. -/
theorem not_mem_of_mem_splitOn {cs piece : List α} (h : piece ∈ splitOn separator cs) :
    separator ∉ piece := by
  induction cs generalizing piece with
  | nil => simp_all [splitOn]
  | cons c cs ih =>
    obtain ⟨p, ps, hs⟩ := List.exists_cons_of_ne_nil (splitOn_ne_nil separator cs)
    simp only [splitOn, hs] at h ih
    split at h
    · rcases List.mem_cons.1 h with rfl | h
      · simp
      · exact ih h
    · next hc =>
      rcases List.mem_cons.1 h with rfl | h
      · have := ih (List.mem_cons_self ..)
        simp [this, Ne.symm hc]
      · exact ih (List.mem_cons_of_mem _ h)

/-- A piece holds nothing that the text does not hold. -/
theorem mem_of_mem_splitOn {cs piece : List α} (h : piece ∈ splitOn separator cs) {a : α}
    (ha : a ∈ piece) : a ∈ cs := by
  induction cs generalizing piece with
  | nil => simp_all [splitOn]
  | cons c cs ih =>
    obtain ⟨p, ps, hs⟩ := List.exists_cons_of_ne_nil (splitOn_ne_nil separator cs)
    simp only [splitOn, hs] at h ih
    split at h
    · rcases List.mem_cons.1 h with rfl | h
      · simp at ha
      · exact List.mem_cons_of_mem _ (ih h ha)
    · rcases List.mem_cons.1 h with rfl | h
      · rcases List.mem_cons.1 ha with rfl | ha
        · exact List.mem_cons_self ..
        · exact List.mem_cons_of_mem _ (ih (List.mem_cons_self ..) ha)
      · exact List.mem_cons_of_mem _ (ih (List.mem_cons_of_mem _ h) ha)

/-- What holds no separator goes to the first piece. -/
theorem splitOn_append_of_not_mem {before cs piece : List α} {pieces : List (List α)}
    (h : separator ∉ before) (hs : splitOn separator cs = piece :: pieces) :
    splitOn separator (before ++ cs) = (before ++ piece) :: pieces := by
  induction before with
  | nil => exact hs
  | cons b before ih =>
    obtain ⟨hb, hbefore⟩ := not_or.1 (mt List.mem_cons.2 h)
    rw [List.cons_append, splitOn, if_neg (Ne.symm hb), ih hbefore]
    rfl

/-- A text without a separator is a single piece. -/
theorem splitOn_eq_singleton {cs : List α} (h : separator ∉ cs) :
    splitOn separator cs = [cs] := by
  simpa using splitOn_append_of_not_mem h (show splitOn separator [] = [[]] from rfl)

/-- A separator ends a piece. -/
theorem splitOn_append_cons (cs ds : List α) :
    splitOn separator (cs ++ separator :: ds) = splitOn separator cs ++ splitOn separator ds := by
  induction cs with
  | nil => simp [splitOn]
  | cons c cs ih =>
    obtain ⟨p, ps, hs⟩ := List.exists_cons_of_ne_nil (splitOn_ne_nil separator cs)
    by_cases hc : c = separator
    · simp [splitOn, hc, ih]
    · simp only [List.cons_append, splitOn, if_neg hc, ih, hs]

/-- Cutting what was joined gives the pieces back. -/
theorem splitOn_joinWith {pieces : List (List α)} (hne : pieces ≠ [])
    (h : ∀ piece ∈ pieces, separator ∉ piece) :
    splitOn separator (joinWith [separator] pieces) = pieces := by
  induction pieces with
  | nil => exact absurd rfl hne
  | cons piece pieces ih =>
    have hpiece := h piece (List.mem_cons_self ..)
    cases pieces with
    | nil => exact splitOn_eq_singleton hpiece
    | cons p ps =>
      have ih := ih (List.cons_ne_nil p ps) fun q hq => h q (List.mem_cons_of_mem _ hq)
      rw [joinWith, List.append_assoc, List.singleton_append, splitOn_append_cons, ih,
        splitOn_eq_singleton hpiece]
      · rfl
      · simp

/-- There is one piece more than there are separators. -/
theorem length_splitOn (cs : List α) :
    (splitOn separator cs).length = cs.count separator + 1 := by
  induction cs with
  | nil => rfl
  | cons c cs ih =>
    obtain ⟨p, ps, hs⟩ := List.exists_cons_of_ne_nil (splitOn_ne_nil separator cs)
    rw [hs] at ih
    by_cases hc : c = separator
    · simp [splitOn, hc, hs, ← ih]
    · simp [splitOn, hc, hs, ← ih]

end Cutting

/-- A joined text holds what the pieces and the separator hold. -/
theorem mem_joinWith {α : Type} {between : List α} {pieces : List (List α)} {a : α}
    (h : a ∈ joinWith between pieces) : a ∈ between ∨ ∃ piece ∈ pieces, a ∈ piece := by
  induction pieces with
  | nil => simp [joinWith] at h
  | cons piece pieces ih =>
    cases pieces with
    | nil => exact Or.inr ⟨piece, List.mem_cons_self .., h⟩
    | cons p ps =>
      rw [joinWith, List.mem_append, List.mem_append] at h
      · rcases h with (h | h) | h
        · exact Or.inr ⟨piece, List.mem_cons_self .., h⟩
        · exact Or.inl h
        · refine (ih h).imp_right ?_
          rintro ⟨q, hq, ha⟩
          exact ⟨q, List.mem_cons_of_mem _ hq, ha⟩
      · simp

/-! ### Line ends -/

/-- Unifying line ends leaves no carriage return. -/
theorem not_mem_unifyNewlines (cs : List Char) : '\r' ∉ unifyNewlines cs := by
  fun_induction unifyNewlines cs with
  | case1 => simp
  | case2 cs ih => simp [ih]
  | case3 c cs _ ih =>
    by_cases hc : c = '\r'
    · simp [hc, ih]
    · simp [hc, ih, Ne.symm hc]

/-- A text without carriage returns keeps its line ends. -/
theorem unifyNewlines_eq_self {cs : List Char} (h : '\r' ∉ cs) : unifyNewlines cs = cs := by
  fun_induction unifyNewlines cs with
  | case1 => rfl
  | case2 cs ih => simp at h
  | case3 c cs _ ih =>
    obtain ⟨hc, hcs⟩ := not_or.1 (mt List.mem_cons.2 h)
    rw [ih hcs, if_neg (Ne.symm hc)]

/-! ### Margins -/

theorem indentAfterNewlines_newline (margin cs : List Char) :
    indentAfterNewlines margin ('\n' :: cs)
      = '\n' :: (margin ++ indentAfterNewlines margin cs) := by
  simp [indentAfterNewlines]

theorem indentAfterNewlines_cons {margin : List Char} {c : Char} (h : c ≠ '\n') (cs : List Char) :
    indentAfterNewlines margin (c :: cs) = c :: indentAfterNewlines margin cs := by
  simp [indentAfterNewlines, h]

theorem indentAfterNewlines_append (margin cs ds : List Char) :
    indentAfterNewlines margin (cs ++ ds)
      = indentAfterNewlines margin cs ++ indentAfterNewlines margin ds :=
  List.flatMap_append

theorem mem_indentAfterNewlines {margin cs : List Char} {c : Char}
    (h : c ∈ indentAfterNewlines margin cs) : c ∈ cs ∨ c ∈ margin := by
  obtain ⟨d, hd, hc⟩ := List.mem_flatMap.1 h
  split at hc
  · next hnewline =>
    rcases List.mem_cons.1 hc with rfl | hc
    · exact Or.inl (hnewline ▸ hd)
    · exact Or.inr hc
  · rw [List.mem_singleton.1 hc]
    exact Or.inl hd

/-- A text on one line has no place for a margin. -/
theorem indentAfterNewlines_eq_self {margin cs : List Char} (h : '\n' ∉ cs) :
    indentAfterNewlines margin cs = cs := by
  induction cs with
  | nil => rfl
  | cons c cs ih =>
    obtain ⟨hc, hcs⟩ := not_or.1 (mt List.mem_cons.2 h)
    rw [indentAfterNewlines_cons (Ne.symm hc), ih hcs]

/-- No margin at all changes nothing. -/
theorem indentAfterNewlines_nil (cs : List Char) : indentAfterNewlines [] cs = cs := by
  induction cs with
  | nil => rfl
  | cons c cs ih =>
    by_cases hc : c = '\n'
    · rw [hc, indentAfterNewlines_newline, List.nil_append, ih]
    · rw [indentAfterNewlines_cons hc, ih]

/-- A margin after a margin is a single, longer one. -/
theorem indentAfterNewlines_indentAfterNewlines {outer inner : List Char} (h : '\n' ∉ inner)
    (cs : List Char) :
    indentAfterNewlines outer (indentAfterNewlines inner cs)
      = indentAfterNewlines (outer ++ inner) cs := by
  induction cs with
  | nil => rfl
  | cons c cs ih =>
    by_cases hc : c = '\n'
    · rw [hc, indentAfterNewlines_newline, indentAfterNewlines_newline,
        indentAfterNewlines_newline, indentAfterNewlines_append, indentAfterNewlines_eq_self h, ih,
        List.append_assoc]
    · rw [indentAfterNewlines_cons hc, indentAfterNewlines_cons hc, indentAfterNewlines_cons hc, ih]

/-- A margin shows on every line but the first. -/
theorem splitLines_indentAfterNewlines {margin cs line : List Char} {lines : List (List Char)}
    (hm : '\n' ∉ margin) (hs : splitLines cs = line :: lines) :
    splitLines (indentAfterNewlines margin cs) = line :: lines.map (margin ++ ·) := by
  induction cs generalizing line lines with
  | nil =>
    obtain ⟨rfl, rfl⟩ := List.cons.inj hs
    rfl
  | cons c cs ih =>
    obtain ⟨p, ps, hp⟩ := List.exists_cons_of_ne_nil (splitOn_ne_nil '\n' cs)
    have ih := ih hp
    by_cases hc : c = '\n'
    · simp only [splitLines, splitOn, if_pos hc, hp] at hs
      obtain ⟨rfl, rfl⟩ := List.cons.inj hs
      rw [hc, indentAfterNewlines_newline, splitLines, splitOn, if_pos rfl,
        splitOn_append_of_not_mem hm ih]
      rfl
    · simp only [splitLines, splitOn, if_neg hc, hp] at hs
      obtain ⟨rfl, rfl⟩ := List.cons.inj hs
      simp only [splitLines] at ih
      rw [indentAfterNewlines_cons hc, splitLines, splitOn, if_neg hc, ih]

end PersistedDocument.Text
