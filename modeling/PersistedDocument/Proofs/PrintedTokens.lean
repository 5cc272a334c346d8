import PersistedDocument.Proofs.Readable

/-!
# Proofs: printed tokens

The text that is printed for a readable executable document spells the tokens of the document. Lines
are broken and moved to the right by the printer in several ways; none of them shows in the tokens.
-/

namespace PersistedDocument.GraphQL

open Text Lexer
open GraphQL.Parser (maximalNesting)

variable {α : Type}

/-! ## Separators -/

theorem isTight_eq_false_of_isMark {c : Char} (h : isMark c = true) : isTight c = false := by
  cases htight : isTight c with
  | false => rfl
  | true =>
    have hword : isNameContinue c = true ∨ c = '-' ∨ c = '"' ∨ c = '.' := by
      simp only [isTight, Bool.or_eq_true, decide_eq_true_eq] at htight
      rcases htight with (h | h) | h
      · exact Or.inl h
      · exact Or.inr (Or.inr (Or.inr h))
      · exact Or.inr (Or.inr (Or.inl h))
    rw [isMark, ofChar?_eq_none hword, Option.isSome_none, Bool.or_false] at h
    simp only [isIgnored, Bool.or_eq_true, decide_eq_true_eq] at h
    rcases h with ((((rfl | rfl) | rfl) | rfl) | rfl) | rfl <;> cases htight

/-- A text that starts with a mark stands apart. -/
theorem IsMarks.standsApart_append {mark : String} {ms : List Token} (h : IsMarks mark ms)
    (s : String) : StandsApart (mark ++ s).toList := by
  obtain ⟨hne, hmarks, -⟩ := h
  rw [String.toList_append]
  cases hcs : mark.toList with
  | nil => exact absurd (String.toList_eq_nil_iff.1 hcs) hne
  | cons c cs =>
    rw [hcs] at hmarks
    intro d hd
    obtain rfl : c = d := by simpa using hd
    exact isTight_eq_false_of_isMark (List.all_eq_true.1 hmarks _ (List.mem_cons_self ..))

theorem standsApart_empty : StandsApart "".toList := fun _ h => by cases h

theorem isMarks_blank : IsMarks " " [] := by decide

theorem isMarks_newline : IsMarks "\n" [] := by decide

theorem isMarks_comma : IsMarks ", " [] := by decide

theorem isMarks_colon : IsMarks ": " [.punctuator .colon] := by decide

variable {s s' mark : String} {ts ts' ms : List Token}

/-- A text before marks. -/
theorem Spells.append_mark (h : Spells s ts) (hmark : IsMarks mark ms) :
    Spells (s ++ mark) (ts ++ ms) := by
  have happ := h.append (Spells.nil.mark_append hmark) (hmark.standsApart_append _)
  rwa [String.append_empty, List.append_nil] at happ

/-- Two texts with marks between them. -/
theorem Spells.append_mark_append (h : Spells s ts) (hmark : IsMarks mark ms)
    (h' : Spells s' ts') : Spells (s ++ mark ++ s') (ts ++ (ms ++ ts')) := by
  rw [String.append_assoc]
  exact h.append (h'.mark_append hmark) (hmark.standsApart_append _)

/-- A text between two punctuators. -/
theorem Spells.enclosed {before after : String} {opening closing : Punctuator}
    (h : Spells s ts) (hbefore : IsMarks before [.punctuator opening])
    (hafter : IsMarks after [.punctuator closing]) :
    Spells (before ++ s ++ after) (.punctuator opening :: (ts ++ [.punctuator closing])) := by
  rw [String.append_assoc]
  exact (h.append_mark hafter).mark_append hbefore

/-- A word and a blank in front of a text. -/
theorem Spells.word_append {n word : String} (h : Spells s ts) (hn : IsName n)
    (hword : word = n ++ " ") : Spells (word ++ s) (.name n :: ts) := by
  rw [hword]
  exact (Spells.name hn).append_mark_append isMarks_blank h

/-- Nothing spells no tokens. -/
theorem Spells.eq_nil (h : Spells "" ts) : ts = [] :=
  congrArg Prod.fst (h.lex_eq.symm.trans Spells.nil.lex_eq)

theorem Spells.ne_empty (h : Spells s ts) (hne : ts ≠ []) : s ≠ "" := by
  rintro rfl
  exact hne h.eq_nil

/-! ## Texts put together -/

/-- Items with a gap between them. -/
theorem Spells.separated {separator : String} {text : α → String} {tokens : α → List Token}
    {items : List α} (hgap : IsMarks separator []) (h : ∀ a ∈ items, Spells (text a) (tokens a)) :
    Spells (Printer.separated separator (items.map text)) (items.flatMap tokens) := by
  induction items with
  | nil => exact Spells.nil
  | cons a items ih =>
    have ha := h a (List.mem_cons_self ..)
    have ih := ih fun b hb => h b (List.mem_cons_of_mem _ hb)
    cases items with
    | nil => simpa [Printer.separated] using ha
    | cons b items =>
      rw [List.map_cons, List.map_cons, Printer.separated, List.flatMap_cons]
      · have happ := ha.append_mark_append hgap ih
        exact happ
      · simp

/-- Separated items are empty only if there are none. -/
theorem separated_eq_empty_iff {separator : String} {text : α → String} {items : List α}
    (h : ∀ a ∈ items, text a ≠ "") :
    Printer.separated separator (items.map text) = "" ↔ items = [] := by
  cases items with
  | nil => simp [Printer.separated]
  | cons a items =>
    have ha := h a (List.mem_cons_self ..)
    cases items with
    | nil => simpa [Printer.separated] using ha
    | cons b items => simp [Printer.separated, ha]

/-- Parts with a blank between those that are not empty. -/
theorem Spells.joined {parts : List (String × List Token)} (h : ∀ p ∈ parts, Spells p.1 p.2) :
    Spells (Printer.joined " " (parts.map Prod.fst)) (parts.flatMap Prod.snd) := by
  have hdropped : parts.flatMap Prod.snd = (parts.filter (·.1 ≠ "")).flatMap Prod.snd := by
    induction parts with
    | nil => rfl
    | cons p parts ih =>
      have ih := ih fun q hq => h q (List.mem_cons_of_mem _ hq)
      by_cases hp : p.1 = ""
      · have hnone : p.2 = [] := Spells.eq_nil (hp ▸ h p (List.mem_cons_self ..))
        rw [List.filter_cons_of_neg (by simpa using hp), List.flatMap_cons, hnone, ih]
        rfl
      · rw [List.filter_cons_of_pos (by simpa using hp), List.flatMap_cons, List.flatMap_cons, ih]
  rw [Printer.joined, List.filter_map, hdropped]
  exact Spells.separated isMarks_blank fun p hp => h p (List.mem_filter.1 hp).1

/-- A text behind a blank, or nothing. -/
theorem Spells.wrapped_blank (h : Spells s ts) :
    Spells (Printer.wrapped " " s "") ts ∧ StandsApart (Printer.wrapped " " s "").toList := by
  rw [Printer.wrapped]
  split
  · next hs => exact ⟨hs ▸ h, standsApart_empty⟩
  · rw [String.append_empty]
    exact ⟨h.mark_append isMarks_blank, isMarks_blank.standsApart_append _⟩

section Parts

variable {s₁ s₂ s₃ s₄ : String} {ts₁ ts₂ ts₃ ts₄ : List Token}

theorem Spells.joined_three (h₁ : Spells s₁ ts₁) (h₂ : Spells s₂ ts₂) (h₃ : Spells s₃ ts₃) :
    Spells (Printer.joined " " [s₁, s₂, s₃]) (ts₁ ++ (ts₂ ++ ts₃)) := by
  have hparts := @Spells.joined [(s₁, ts₁), (s₂, ts₂), (s₃, ts₃)] (by simp [h₁, h₂, h₃])
  simpa using hparts

theorem Spells.joined_four (h₁ : Spells s₁ ts₁) (h₂ : Spells s₂ ts₂) (h₃ : Spells s₃ ts₃)
    (h₄ : Spells s₄ ts₄) :
    Spells (Printer.joined " " [s₁, s₂, s₃, s₄]) (ts₁ ++ (ts₂ ++ (ts₃ ++ ts₄))) := by
  have hparts := @Spells.joined [(s₁, ts₁), (s₂, ts₂), (s₃, ts₃), (s₄, ts₄)]
    (by simp [h₁, h₂, h₃, h₄])
  simpa using hparts

end Parts

/-- A text one level further to the right. -/
theorem Spells.indented (h : Spells s ts) : Spells (Printer.indented s) ts :=
  h.shifted.mark_append (by decide : IsMarks "  " [])

/-- Items that are put into the text `inside`, between two punctuators or not at all. -/
theorem Spells.wrapped_between {before inside after : String} {opening closing : Punctuator}
    {tokens : α → List Token} {items : List α} (hinside : Spells inside (items.flatMap tokens))
    (hempty : inside = "" ↔ items = []) (hbefore : IsMarks before [.punctuator opening])
    (hafter : IsMarks after [.punctuator closing]) :
    Spells (Printer.wrapped before inside after) (between opening closing (items.map tokens))
      ∧ StandsApart (Printer.wrapped before inside after).toList := by
  rw [Printer.wrapped]
  split
  · next hnone =>
    rw [hempty.1 hnone]
    exact ⟨Spells.nil, standsApart_empty⟩
  · next hsome =>
    rw [between_map fun hnone => hsome (hempty.2 hnone)]
    refine ⟨hinside.enclosed hbefore hafter, ?_⟩
    rw [String.append_assoc]
    exact hbefore.standsApart_append _

/-- Items in braces, one on a line. -/
theorem Spells.braced {text : α → String} {tokens : α → List Token} {items : List α}
    (h : ∀ a ∈ items, Spells (text a) (tokens a)) :
    Spells (Printer.braced (items.map text))
      (between .braceOpen .braceClose (items.map tokens)) := by
  by_cases hitems : items = []
  · rw [hitems]
    exact Spells.nil
  · rw [between_map hitems, Printer.braced]
    · exact (Spells.separated isMarks_newline h).indented.enclosed (by decide) (by decide)
    · simpa using hitems

/-! ## Values, types, arguments and directives -/

theorem values_eq_map (items : List Value) : Printer.values items = items.map Printer.value := by
  induction items with
  | nil => rfl
  | cons v vs ih => rw [Printer.values, ih, List.map_cons]

theorem objectFields_eq_map (fields : List (String × Value)) :
    Printer.objectFields fields = fields.map fun f => f.1 ++ ": " ++ Printer.value f.2 := by
  induction fields with
  | nil => rfl
  | cons f fields ih => rw [Printer.objectFields, ih, List.map_cons]

/-- A string of either kind spells its token. -/
theorem Spells.stringLiteral {literal : StringLiteral} (h : literal.token.IsLexed) :
    Spells (Printer.stringLiteral literal) [literal.token] := by
  rw [Printer.stringLiteral]
  unfold StringLiteral.token at h ⊢
  cases hblock : literal.isBlock with
  | true =>
    rw [hblock] at h
    exact Spells.block h
  | false => exact Spells.quoted literal.value

/-- A name that is given something after a colon. -/
theorem Spells.named {n : String} (hn : IsName n) (h : Spells s ts) :
    Spells (n ++ ": " ++ s) (.name n :: .punctuator .colon :: ts) :=
  (Spells.name hn).append_mark_append isMarks_colon h

/-- A value. -/
theorem Spells.value {isConst : Bool} : ∀ {room : Nat} {v : Value}, v.IsReadable isConst room →
    Spells (Printer.value v) v.tokens
  | _, .variable n, h => by
    rw [Value.IsReadable] at h
    exact (Spells.name h.2).mark_append (by decide : IsMarks "$" [.punctuator .dollar])
  | _, .int t, h => by
    rw [Value.IsReadable] at h
    exact Spells.numeral h
  | _, .float t, h => by
    rw [Value.IsReadable] at h
    exact Spells.numeral h
  | _, .string literal, h => by
    rw [Value.IsReadable] at h
    exact Spells.stringLiteral h
  | _, .boolean true, _ => Spells.name (by decide)
  | _, .boolean false, _ => Spells.name (by decide)
  | _, .null, _ => Spells.name (by decide)
  | _, .enum n, h => by
    rw [Value.IsReadable] at h
    exact Spells.name h.1
  | room + 1, .list items, h => by
    rw [Value.IsReadable] at h
    rw [Printer.value, values_eq_map, Value.tokens, tokensOfItems_eq_flatMap]
    have hitems := Spells.separated isMarks_comma fun v hv => Spells.value (h v hv)
    exact hitems.enclosed (by decide) (by decide)
  | room + 1, .object fields, h => by
    rw [Value.IsReadable] at h
    rw [Printer.value, objectFields_eq_map, Value.tokens, tokensOfFields_eq_flatMap]
    have hfields := Spells.separated isMarks_comma
      fun f hf => Spells.named (h f hf).1 (Spells.value (h f hf).2)
    exact hfields.enclosed (by decide) (by decide)

/-- The mark that excludes null. -/
theorem Spells.append_bang (h : Spells s ts) (isRequired : Bool) :
    Spells (s ++ if isRequired then "!" else "")
      (ts ++ if isRequired then [.punctuator .bang] else []) := by
  cases isRequired with
  | true => exact h.append_mark (by decide)
  | false =>
    rw [if_neg Bool.false_ne_true, if_neg Bool.false_ne_true, String.append_empty, List.append_nil]
    exact h

/-- A reference to a type. -/
theorem Spells.typeReference : ∀ {room : Nat} {t : TypeReference}, t.IsReadable room →
    Spells (Printer.typeReference t) t.tokens
  | _, .named n isRequired, h => by
    rw [TypeReference.IsReadable] at h
    exact (Spells.name h).append_bang isRequired
  | room + 1, .list item isRequired, h => by
    rw [TypeReference.IsReadable] at h
    have hitem : Spells ("[" ++ Printer.typeReference item ++ "]")
        (.punctuator .bracketOpen :: (item.tokens ++ [.punctuator .bracketClose])) :=
      (Spells.typeReference h).enclosed (by decide) (by decide)
    have hbang := hitem.append_bang isRequired
    rwa [List.cons_append, List.append_assoc] at hbang

/-- An argument. -/
theorem Spells.argument {isConst : Bool} {room : Nat} {a : Argument}
    (h : a.IsReadable isConst room) : Spells (Printer.argument a) a.tokens :=
  Spells.named h.name (Spells.value h.value)

/-- Arguments in parentheses on one line, or none. -/
theorem Spells.argumentLine {isConst : Bool} {room : Nat} {arguments : List Argument}
    (h : ∀ a ∈ arguments, a.IsReadable isConst room) {line : String}
    (hline : line = Printer.wrapped "("
      (Printer.separated ", " (arguments.map Printer.argument)) ")") :
    Spells line (argumentTokens arguments) ∧ StandsApart line.toList := by
  have hempty : ∀ a ∈ arguments, Printer.argument a ≠ "" :=
    fun a ha => (Spells.argument (h a ha)).ne_empty (List.cons_ne_nil _ _)
  rw [hline]
  exact (Spells.separated isMarks_comma fun a ha => Spells.argument (h a ha)).wrapped_between
    (separated_eq_empty_iff hempty) (by decide) (by decide)

/-- Arguments in parentheses, each on a line of its own, or none. -/
theorem Spells.argumentLines {isConst : Bool} {room : Nat} {arguments : List Argument}
    (h : ∀ a ∈ arguments, a.IsReadable isConst room) {lines : String}
    (hlines : lines = Printer.wrapped "(\n" (if (arguments.map Printer.argument).isEmpty then ""
      else Printer.indented (Printer.separated "\n" (arguments.map Printer.argument))) "\n)") :
    Spells lines (argumentTokens arguments) ∧ StandsApart lines.toList := by
  have hinside := (Spells.separated isMarks_newline fun a ha => Spells.argument (h a ha)).indented
  rw [hlines]
  cases arguments with
  | nil => exact ⟨Spells.nil, standsApart_empty⟩
  | cons a arguments =>
    have hne := hinside.ne_empty (by simp [Argument.tokens])
    exact hinside.wrapped_between (iff_of_false hne (List.cons_ne_nil _ _)) (by decide) (by decide)

/-- A directive. -/
theorem Spells.directive {isConst : Bool} {room : Nat} {d : Directive}
    (h : d.IsReadable isConst room) : Spells (Printer.directive d) d.tokens := by
  obtain ⟨hline, hapart⟩ := Spells.argumentLine h.arguments rfl
  rw [Printer.directive, String.append_assoc]
  have hmark : IsMarks "@" [.punctuator .atSign] := by decide
  exact ((Spells.name h.name).append hline hapart).mark_append hmark

/-- Directives. -/
theorem Spells.directives {isConst : Bool} {room : Nat} {ds : List Directive}
    (h : ∀ d ∈ ds, d.IsReadable isConst room) :
    Spells (Printer.directives ds) (ds.flatMap Directive.tokens) :=
  Spells.separated isMarks_blank fun d hd => Spells.directive (h d hd)

/-! ## Selections -/

/-- The name of a field and its arguments, however long they are. -/
theorem Spells.fieldHead {alias? : Option String} {n : String} {arguments : List Argument}
    {isConst : Bool} {room : Nat} (halias : ∀ a ∈ alias?, IsName a) (hn : IsName n)
    (harguments : ∀ a ∈ arguments, a.IsReadable isConst room) :
    Spells (Printer.fieldHead alias? n arguments)
      ((alias?.elim [] fun a => [.name a, .punctuator .colon])
        ++ .name n :: argumentTokens arguments) := by
  have hstart : Spells ((alias?.elim "" (· ++ ": ")) ++ n)
      ((alias?.elim [] fun a => [.name a, .punctuator .colon]) ++ [.name n]) := by
    cases alias? with
    | none => exact (@String.empty_append n).symm ▸ Spells.name hn
    | some a => exact Spells.named (halias a rfl) (Spells.name hn)
  obtain ⟨hline, hlineApart⟩ := Spells.argumentLine harguments rfl
  obtain ⟨hlines, hlinesApart⟩ := Spells.argumentLines harguments rfl
  rw [List.append_cons, Printer.fieldHead]
  split
  · exact hstart.append hlines hlinesApart
  · exact hstart.append hline hlineApart

theorem selectionTexts_eq_map (selections : List Selection) :
    Printer.selectionTexts selections = selections.map Printer.selection := by
  induction selections with
  | nil => rfl
  | cons s ss ih => rw [Printer.selectionTexts, ih, List.map_cons]

/-- A selection, given that the selections in it are printed well. -/
theorem Spells.selection {nested : List Selection → Prop} {room : Nat}
    (hnested : ∀ ss, nested ss → ∀ s ∈ ss, Spells (Printer.selection s) s.tokens) {s : Selection}
    (h : s.IsReadable nested room) : Spells (Printer.selection s) s.tokens := by
  cases s with
  | field alias? n arguments dirs selections =>
    rw [Selection.IsReadable] at h
    obtain ⟨halias, hn, harguments, hdirs, hselections⟩ := h
    have hinner : ∀ s ∈ selections, Spells (Printer.selection s) s.tokens := by
      rcases hselections with rfl | hselections
      · exact fun s hs => absurd hs List.not_mem_nil
      · exact hnested _ hselections
    rw [Printer.selection, Selection.tokens, selectionTexts_eq_map, tokensOfAll_eq_map]
    rw [← List.cons_append, ← List.append_assoc]
    exact Spells.joined_three (Spells.fieldHead halias hn harguments) (Spells.directives hdirs)
      (Spells.braced hinner)
  | spread n dirs =>
    rw [Selection.IsReadable] at h
    obtain ⟨hn, -, hdirs⟩ := h
    obtain ⟨hwrapped, hapart⟩ := (Spells.directives hdirs).wrapped_blank
    rw [Printer.selection, String.append_assoc]
    exact ((Spells.name hn).append hwrapped hapart).spread_append
  | inline type? dirs selections =>
    rw [Selection.IsReadable] at h
    obtain ⟨htype, hdirs, hselections⟩ := h
    have hcondition : Spells (type?.elim "" ("on " ++ ·))
        (type?.elim [] fun t => [.name "on", .name t]) := by
      cases type? with
      | none => exact Spells.nil
      | some t =>
        exact (Spells.name (htype t rfl)).word_append (by decide : IsName "on") (by decide)
    have hspread : Spells "..." [.punctuator .spread] := Spells.nil.spread_append
    rw [Printer.selection, Selection.tokens, selectionTexts_eq_map, tokensOfAll_eq_map]
    exact Spells.joined_four hspread hcondition (Spells.directives hdirs)
      (Spells.braced (hnested _ hselections))

/-- Each selection of a selection set. -/
theorem AreReadable.spells {room : Nat} {selections : List Selection}
    (h : AreReadable room selections) :
    ∀ s ∈ selections, Spells (Printer.selection s) s.tokens := by
  induction room generalizing selections with
  | zero => exact h.elim
  | succ room ih => exact fun s hs => Spells.selection (fun ss hss => ih hss) (h.2 s hs)

/-- A selection set. -/
theorem Spells.selectionSet {room : Nat} {selections : List Selection}
    (h : AreReadable room selections) :
    Spells (Printer.selectionSet selections) (selectionTokens selections) := by
  rw [Printer.selectionSet, selectionTexts_eq_map]
  exact Spells.braced h.spells

/-! ## Operations and fragments -/

/-- A description in front of a text. -/
theorem Spells.description_append {literal? : Option StringLiteral}
    (hliteral : ∀ literal ∈ literal?, literal.token.IsLexed) (h : Spells s ts) :
    Spells (Printer.description literal? ++ s) (descriptionTokens literal? ++ ts) := by
  cases literal? with
  | none => rwa [Printer.description, Option.elim_none, String.empty_append]
  | some literal =>
    exact (Spells.stringLiteral (hliteral literal rfl)).append_mark_append isMarks_newline h

/-- A default value in front of directives. -/
theorem Spells.default_append {default? : Option Value} {isConst : Bool} {room : Nat}
    (hdefault : ∀ d ∈ default?, d.IsReadable isConst room) (h : Spells s ts)
    (hapart : StandsApart s.toList) :
    Spells (Printer.default? " = " default? ++ s)
        ((default?.elim [] fun d => .punctuator .equals :: d.tokens) ++ ts)
      ∧ StandsApart (Printer.default? " = " default? ++ s).toList := by
  cases default? with
  | none => 
    rw [Printer.default?, Option.elim_none, String.empty_append]
    exact ⟨h, hapart⟩
  | some d =>
    have hequals : IsMarks " = " [.punctuator .equals] := by decide
    have hd := Spells.value (hdefault d rfl)
    rw [Printer.default?, Option.elim_some, String.append_assoc]
    exact ⟨(hd.append h hapart).mark_append hequals, hequals.standsApart_append _⟩

/-- A variable of an operation. -/
theorem Spells.variableDefinition {v : VariableDefinition} (h : v.IsReadable) :
    Spells (Printer.variableDefinition v) v.tokens := by
  obtain ⟨hdirs, hdirsApart⟩ := (Spells.directives h.directives).wrapped_blank
  obtain ⟨hdefault, hdefaultApart⟩ := hdirs.default_append h.default? hdirsApart
  have htyped := Spells.named h.name ((Spells.typeReference h.type).append hdefault hdefaultApart)
  have hdollar : IsMarks "$" [.punctuator .dollar] := by decide
  have hwhole := (htyped.mark_append hdollar).description_append h.description
  rw [Printer.variableDefinition]
  simp only [String.append_assoc] at hwhole ⊢
  exact hwhole

/-- The variables of an operation in parentheses, or nothing. -/
theorem Spells.variableDefinitions {vs : List VariableDefinition} (h : ∀ v ∈ vs, v.IsReadable) :
    Spells (Printer.variableDefinitions vs)
        (between .parenOpen .parenClose (vs.map VariableDefinition.tokens))
      ∧ StandsApart (Printer.variableDefinitions vs).toList := by
  have htexts (v : VariableDefinition) (hv : v ∈ vs) := Spells.variableDefinition (h v hv)
  rw [Printer.variableDefinitions]
  split
  · next hmultiline =>
    have hne : vs ≠ [] := by
      rintro rfl
      cases hmultiline
    have hopen : IsMarks "(\n" [.punctuator .parenOpen] := by decide
    rw [between_map hne]
    refine ⟨(Spells.separated isMarks_newline htexts).enclosed hopen (by decide), ?_⟩
    rw [String.append_assoc]
    exact hopen.standsApart_append _
  · have hempty : ∀ v ∈ vs, Printer.variableDefinition v ≠ "" :=
      fun v hv => (htexts v hv).ne_empty (by simp [VariableDefinition.tokens])
    exact (Spells.separated isMarks_comma htexts).wrapped_between (separated_eq_empty_iff hempty)
      (by decide) (by decide)

theorem isName_keyword (kind : OperationKind) : IsName kind.keyword := by
  cases kind <;> decide

/-- An operation from its description up to its selection set. -/
theorem Spells.operationStart {o : Operation} (h : o.IsReadable) :
    Spells (Printer.description o.description ++ Printer.joined " " [o.kind.keyword,
        o.name.getD "" ++ Printer.variableDefinitions o.declared, Printer.directives o.directives])
      (descriptionTokens o.description ++ o.headTokens) := by
  obtain ⟨hdeclared, hapart⟩ := Spells.variableDefinitions h.declared
  have hname : Spells (o.name.getD "" ++ Printer.variableDefinitions o.declared)
      ((o.name.elim [] fun n => [.name n])
        ++ between .parenOpen .parenClose (o.declared.map VariableDefinition.tokens)) := by
    cases hn : o.name with
    | none => rwa [Option.getD_none, String.empty_append]
    | some n => exact (Spells.name (h.name n hn)).append hdeclared hapart
  have hhead := Spells.joined_three (Spells.name (isName_keyword o.kind)) hname
    (Spells.directives h.directives)
  rw [List.append_assoc] at hhead
  exact hhead.description_append h.description

theorem between_eq_nil_iff {opening closing : Punctuator} {items : List (List Token)} :
    between opening closing items = [] ↔ items = [] := by
  cases items <;> simp [between]

/-- Only an operation in shorthand has no token before its selection set but that of a query. -/
theorem headTokens_eq_iff (o : Operation) :
    descriptionTokens o.description ++ o.headTokens = [.name "query"] ↔ o.isShorthand = true := by
  obtain ⟨description, kind, name, declared, directives, selections⟩ := o
  have hdirectives : directives.flatMap Directive.tokens = [] ↔ directives = [] := by
    cases directives <;> simp [Directive.tokens]
  have hkind : kind.keyword = "query" ↔ kind = .query := by
    cases kind <;> decide
  have hname : (name.elim [] fun n => [Token.name n]) = [] ↔ name = none := by
    cases name <;> simp
  have htoken (literal : StringLiteral) : literal.token ≠ .name "query" := by
    unfold StringLiteral.token
    split <;> simp
  cases description with
  | some literal => simp [Operation.isShorthand, descriptionTokens, htoken]
  | none =>
    simp [Operation.isShorthand, Operation.headTokens, descriptionTokens, hdirectives, hkind, hname,
      between_eq_nil_iff, and_assoc]

/-- Before the selection set of an operation in shorthand nothing would stand but its keyword. -/
theorem start_eq_query {o : Operation} (h : o.isShorthand = true) :
    Printer.description o.description ++ Printer.joined " " [o.kind.keyword,
      o.name.getD "" ++ Printer.variableDefinitions o.declared, Printer.directives o.directives]
        = "query" := by
  simp only [Operation.isShorthand, Bool.and_eq_true, decide_eq_true_eq, Option.isNone_iff_eq_none,
    List.isEmpty_iff] at h
  obtain ⟨⟨⟨⟨hdescription, hkind⟩, hname⟩, hdeclared⟩, hdirectives⟩ := h
  rw [hdescription, hkind, hname, hdeclared, hdirectives]
  decide

/-- An operation. -/
theorem Spells.operation {o : Operation} (h : o.IsReadable) :
    Spells (Printer.operation o) o.tokens := by
  have hstart := Spells.operationStart h
  have hselections := Spells.selectionSet h.selections
  have hquery : Spells "query" [.name "query"] := Spells.name (by decide)
  rw [Printer.operation]
  split
  · next hs =>
    rw [hs] at hstart
    have htokens := congrArg Prod.fst (hstart.lex_eq.symm.trans hquery.lex_eq)
    rw [Operation.tokens, if_pos ((headTokens_eq_iff o).1 htokens), String.empty_append]
    exact hselections
  · next hs =>
    have hshorthand : ¬ o.isShorthand = true :=
      fun hshorthand => hs (start_eq_query hshorthand)
    rw [Operation.tokens, if_neg hshorthand, ← List.append_assoc]
    exact hstart.append_mark_append isMarks_blank hselections

/-- A fragment. -/
theorem Spells.fragment {f : Fragment} (h : f.IsReadable) :
    Spells (Printer.fragment f) f.tokens := by
  have hselections := Spells.selectionSet h.selections
  have hdirectives : Spells
      (Printer.wrapped "" (Printer.directives f.directives) " "
        ++ Printer.selectionSet f.selections)
      (f.directives.flatMap Directive.tokens ++ selectionTokens f.selections) := by
    have hdirs := Spells.directives h.directives
    rw [Printer.wrapped]
    split
    · next hs =>
      rw [hs] at hdirs
      rwa [hdirs.eq_nil, String.empty_append]
    · rw [String.empty_append]
      exact hdirs.append_mark_append isMarks_blank hselections
  have htype := (Spells.name h.type).append_mark_append isMarks_blank hdirectives
  have hon := htype.word_append (by decide : IsName "on") (by decide : "on " = _)
  have hname := (Spells.name h.name).append_mark_append isMarks_blank hon
  have hkeyword := hname.word_append (by decide : IsName "fragment") (by decide : "fragment " = _)
  have hblank : " on " = " " ++ "on " := by decide
  rw [Printer.fragment, hblank]
  simp only [String.append_assoc] at hkeyword ⊢
  exact hkeyword.description_append h.description

/-- A whole document of operations and fragments. -/
theorem spells_print {document : Document}
    (hexecutable : ∀ d ∈ document.definitions, d.isExecutable = true)
    (h : ∀ d ∈ document.definitions, d.IsReadable) :
    Spells document.print (document.definitions.flatMap Definition.tokens) := by
  have hgap : IsMarks "\n\n" [] := by decide
  refine Spells.separated hgap fun d hd => ?_
  have hreadable := h d hd
  cases d with
  | operation o => exact Spells.operation hreadable
  | fragment f => exact Spells.fragment hreadable
  | typeSystem | directive | extension => cases hexecutable _ hd

end PersistedDocument.GraphQL
