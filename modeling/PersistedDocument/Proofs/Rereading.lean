import PersistedDocument.Proofs.Readable

/-!
# Proofs: reading tokens again

The tokens of a readable tree are read as that tree, whatever follows them, as long as what follows
does not begin with a punctuator with which the tree could have gone on. The lemma for each part of
the grammar names these punctuators.
-/

namespace PersistedDocument.GraphQL.Parser

variable {α β : Type} {rest : List Token}

/-! ## Single steps -/

/-- After a step that gives a result the next one runs on what is left. -/
theorem bind_of_ok {p : Parser α} {f : α → Parser β} {s s' : TokenStream} {a : α}
    (h : p s = .ok (a, s')) : (p >>= f) s = f a s' := by
  simp only [bind, StateT.bind, h, Except.bind]

theorem peek_apply (s : TokenStream) : peek s = .ok (s.tokens.head?, s) := rfl

theorem advance_cons (t : Token) : advance ⟨t :: rest, none⟩ = .ok ((), ⟨rest, none⟩) := by
  cases rest <;> rfl

theorem lookahead_cons (t : Token) :
    lookahead ⟨t :: rest, none⟩ = .ok (rest.head?, ⟨t :: rest, none⟩) := by
  cases rest <;> rfl

theorem accept_cons (p : Punctuator) :
    accept p ⟨.punctuator p :: rest, none⟩ = .ok (true, ⟨rest, none⟩) := by
  rw [accept, bind_of_ok (peek_apply _), List.head?_cons, if_pos rfl, bind_of_ok (advance_cons _)]
  rfl

theorem accept_of_ne {p : Punctuator} (h : rest.head? ≠ some (.punctuator p)) :
    accept p ⟨rest, none⟩ = .ok (false, ⟨rest, none⟩) := by
  rw [accept, bind_of_ok (peek_apply _), if_neg h]
  rfl

theorem expect_cons (p : Punctuator) :
    expect p ⟨.punctuator p :: rest, none⟩ = .ok ((), ⟨rest, none⟩) := by
  rw [expect, bind_of_ok (accept_cons p)]
  rfl

theorem acceptKeyword_cons (k : String) :
    acceptKeyword k ⟨.name k :: rest, none⟩ = .ok (true, ⟨rest, none⟩) := by
  rw [acceptKeyword, bind_of_ok (peek_apply _), List.head?_cons, if_pos rfl,
    bind_of_ok (advance_cons _)]
  rfl

theorem acceptKeyword_of_ne {k : String} (h : rest.head? ≠ some (.name k)) :
    acceptKeyword k ⟨rest, none⟩ = .ok (false, ⟨rest, none⟩) := by
  rw [acceptKeyword, bind_of_ok (peek_apply _), if_neg h]
  rfl

theorem expectKeyword_cons (k : String) :
    expectKeyword k ⟨.name k :: rest, none⟩ = .ok ((), ⟨rest, none⟩) := by
  rw [expectKeyword, bind_of_ok (acceptKeyword_cons k)]
  rfl

theorem name_cons (n : String) : name ⟨.name n :: rest, none⟩ = .ok (n, ⟨rest, none⟩) := by
  rw [name, bind_of_ok (peek_apply _)]
  exact bind_of_ok (advance_cons _)

/-! ## What follows -/

/-- Tokens that do not begin with one of the given punctuators. -/
def Apart (ps : List Punctuator) (tokens : List Token) : Prop :=
  ∀ p ∈ ps, tokens.head? ≠ some (.punctuator p)

theorem Apart.mono {ps qs : List Punctuator} {tokens : List Token} (h : Apart ps tokens)
    (hqs : ∀ q ∈ qs, q ∈ ps) : Apart qs tokens :=
  fun q hq => h q (hqs q hq)

theorem apart_punctuator {ps : List Punctuator} {p : Punctuator} (h : p ∉ ps) :
    Apart ps (.punctuator p :: rest) := by
  intro q hq he
  obtain rfl : p = q := by simpa using he
  exact h hq

theorem apart_name (ps : List Punctuator) (n : String) : Apart ps (.name n :: rest) :=
  fun _ _ he => by simp at he

/-- What is optional either begins with its opening punctuator or is not there. -/
theorem apart_between_append {ps : List Punctuator} {opening closing : Punctuator}
    {items : List (List Token)} (h : opening ∉ ps) (hrest : Apart ps rest) :
    Apart ps (between opening closing items ++ rest) := by
  cases items with
  | nil => exact hrest
  | cons ts items => exact apart_punctuator h

theorem apart_directives_append {ps : List Punctuator} {ds : List Directive} (h : .atSign ∉ ps)
    (hrest : Apart ps rest) : Apart ps (ds.flatMap Directive.tokens ++ rest) := by
  cases ds with
  | nil => exact hrest
  | cons d ds => exact apart_punctuator h

/-- Optional items before a punctuator leave a punctuator in front. -/
theorem exists_punctuator_between {opening closing : Punctuator} {items : List (List Token)}
    (hrest : ∃ p ts, rest = .punctuator p :: ts) :
    ∃ p ts, between opening closing items ++ rest = .punctuator p :: ts := by
  cases items with
  | nil => exact hrest
  | cons ts items => exact ⟨_, _, rfl⟩

theorem exists_punctuator_directives {ds : List Directive}
    (hrest : ∃ p ts, rest = .punctuator p :: ts) :
    ∃ p ts, ds.flatMap Directive.tokens ++ rest = .punctuator p :: ts := by
  cases ds with
  | nil => exact hrest
  | cons d ds => exact ⟨_, _, rfl⟩

/-- A selection set begins with its brace. -/
theorem exists_selectionTokens {selections : List Selection} (h : selections ≠ [])
    (rest : List Token) :
    ∃ ts, selectionTokens selections ++ rest = .punctuator .braceOpen :: ts := by
  rw [selectionTokens, between_map h]
  exact ⟨_, rfl⟩

/-! ## Lists of items -/

/-- What follows an item is the next one or what follows all of them. -/
theorem apart_flatMap_append {ps : List Punctuator} {tokens : α → List Token} {items : List α}
    (hapart : ∀ a ∈ items, ∀ ts, Apart ps (tokens a ++ ts)) (hrest : Apart ps rest) :
    Apart ps (items.flatMap tokens ++ rest) := by
  cases items with
  | nil => exact hrest
  | cons a items =>
    rw [List.flatMap_cons, List.append_assoc]
    exact hapart a (List.mem_cons_self ..) _

/-- Items are collected up to the first step that gives none, if there is room for all of them. -/
theorem collectWithin_flatMap {step : Parser (Option α)} {tokens : α → List Token} {items : List α}
    {ps : List Punctuator} {after : List Token}
    (hstep : ∀ a ∈ items, ∀ ts, Apart ps ts →
      step ⟨tokens a ++ ts, none⟩ = .ok (some a, ⟨ts, none⟩))
    (hapart : ∀ a ∈ items, ∀ ts, Apart ps (tokens a ++ ts)) (hrest : Apart ps rest)
    (hstop : step ⟨rest, none⟩ = .ok (none, ⟨after, none⟩)) {bound : List Token}
    (hbound : items.length ≤ bound.length) :
    collectWithin step bound ⟨items.flatMap tokens ++ rest, none⟩ = .ok (items, ⟨after, none⟩) := by
  induction items generalizing bound with
  | nil =>
    cases bound with
    | nil => exact bind_of_ok hstop
    | cons t bound => exact bind_of_ok hstop
  | cons a items ih =>
    cases bound with
    | nil => exact absurd hbound (Nat.not_succ_le_zero _)
    | cons t bound =>
      have hnext := apart_flatMap_append (fun b hb => hapart b (List.mem_cons_of_mem _ hb)) hrest
      have hrec := ih (fun b hb => hstep b (List.mem_cons_of_mem _ hb))
        (fun b hb => hapart b (List.mem_cons_of_mem _ hb)) (Nat.le_of_succ_le_succ hbound)
      rw [List.flatMap_cons, List.append_assoc, collectWithin,
        bind_of_ok (hstep a (List.mem_cons_self ..) _ hnext)]
      exact bind_of_ok hrec

theorem length_le_length_flatMap {tokens : α → List Token} {items : List α}
    (hne : ∀ a ∈ items, tokens a ≠ []) : items.length ≤ (items.flatMap tokens).length := by
  induction items with
  | nil => exact Nat.le_refl 0
  | cons a items ih =>
    have hpos := List.length_pos_iff.2 (hne a (List.mem_cons_self ..))
    have ih := ih fun b hb => hne b (List.mem_cons_of_mem _ hb)
    rw [List.flatMap_cons, List.length_append, List.length_cons]
    omega

/-- Items with at least one token each are collected up to the first step that gives none. -/
theorem collect_flatMap {step : Parser (Option α)} {tokens : α → List Token} {items : List α}
    {ps : List Punctuator} {after : List Token}
    (hstep : ∀ a ∈ items, ∀ ts, Apart ps ts →
      step ⟨tokens a ++ ts, none⟩ = .ok (some a, ⟨ts, none⟩))
    (hapart : ∀ a ∈ items, ∀ ts, Apart ps (tokens a ++ ts)) (hne : ∀ a ∈ items, tokens a ≠ [])
    (hrest : Apart ps rest) (hstop : step ⟨rest, none⟩ = .ok (none, ⟨after, none⟩)) :
    collect step ⟨items.flatMap tokens ++ rest, none⟩ = .ok (items, ⟨after, none⟩) := by
  have hbound : items.length ≤ (items.flatMap tokens ++ rest).length := by
    rw [List.length_append]
    exact Nat.le_add_right_of_le (length_le_length_flatMap hne)
  exact collectWithin_flatMap hstep hapart hrest hstop hbound

section Items

variable {item : Parser α} {opening closing : Punctuator} {tokens : α → List Token}
  {items : List α} {ps : List Punctuator}
  (hitem : ∀ a ∈ items, ∀ ts, Apart ps ts → item ⟨tokens a ++ ts, none⟩ = .ok (a, ⟨ts, none⟩))
  (hapart : ∀ a ∈ items, ∀ ts, Apart (closing :: ps) (tokens a ++ ts)) (hclosing : closing ∉ ps)

include hitem hapart hclosing

/-- Items up to a closing punctuator. -/
theorem itemsUntil_flatMap :
    itemsUntil item closing ⟨items.flatMap tokens ++ .punctuator closing :: rest, none⟩
      = .ok (items, ⟨rest, none⟩) := by
  have hne : ∀ a ∈ items, tokens a ≠ [] := by
    intro a ha hnone
    have hhead := hapart a ha [.punctuator closing] closing (List.mem_cons_self ..)
    rw [hnone] at hhead
    exact hhead rfl
  refine collect_flatMap (fun a ha ts hts => ?_) (fun a ha ts => ?_) hne
    (apart_punctuator hclosing) ?_
  · rw [bind_of_ok (accept_of_ne (hapart a ha ts closing (List.mem_cons_self ..)))]
    exact bind_of_ok (hitem a ha ts hts)
  · exact (hapart a ha ts).mono fun q hq => List.mem_cons_of_mem _ hq
  · exact bind_of_ok (accept_cons closing)

/-- Items between two punctuators, possibly none. -/
theorem anyBetween_flatMap :
    anyBetween opening item closing
        ⟨.punctuator opening :: (items.flatMap tokens ++ .punctuator closing :: rest), none⟩
      = .ok (items, ⟨rest, none⟩) := by
  rw [anyBetween, bind_of_ok (expect_cons opening)]
  exact itemsUntil_flatMap hitem hapart hclosing

/-- Items up to a closing punctuator, of which the first must be there. -/
theorem first_itemsUntil_flatMap (hne : items ≠ []) :
    (do return (← item) :: (← itemsUntil item closing) : Parser (List α))
        ⟨items.flatMap tokens ++ .punctuator closing :: rest, none⟩
      = .ok (items, ⟨rest, none⟩) := by
  cases items with
  | nil => exact absurd rfl hne
  | cons a items =>
    have hmem (b : α) (hb : b ∈ items) : b ∈ a :: items := List.mem_cons_of_mem _ hb
    have hnext : Apart ps (items.flatMap tokens ++ .punctuator closing :: rest) :=
      apart_flatMap_append (fun b hb ts => (hapart b (hmem b hb) ts).mono fun q hq =>
        List.mem_cons_of_mem _ hq) (apart_punctuator hclosing)
    rw [List.flatMap_cons, List.append_assoc, bind_of_ok (hitem a (List.mem_cons_self ..) _ hnext)]
    exact bind_of_ok (itemsUntil_flatMap (fun b hb => hitem b (hmem b hb))
      (fun b hb => hapart b (hmem b hb)) hclosing)

/-- Items between two punctuators, at least one. -/
theorem someBetween_between (hne : items ≠ []) :
    someBetween opening item closing
        ⟨between opening closing (items.map tokens) ++ rest, none⟩
      = .ok (items, ⟨rest, none⟩) := by
  rw [between_map hne, List.cons_append, List.append_assoc, someBetween,
    bind_of_ok (expect_cons opening)]
  exact first_itemsUntil_flatMap hitem hapart hclosing hne

/-- Items between two punctuators, or nothing. -/
theorem optionallyBetween_between (hrest : Apart [opening] rest) :
    optionallyBetween opening item closing
        ⟨between opening closing (items.map tokens) ++ rest, none⟩
      = .ok (items, ⟨rest, none⟩) := by
  by_cases hne : items = []
  · rw [hne]
    exact bind_of_ok (accept_of_ne (hrest opening (List.mem_singleton_self _)))
  · rw [between_map hne, List.cons_append, List.append_assoc, optionallyBetween,
      bind_of_ok (accept_cons opening)]
    exact first_itemsUntil_flatMap hitem hapart hclosing hne

end Items

/-! ## Values -/

theorem variableName_cons (n : String) :
    variableName ⟨.punctuator .dollar :: .name n :: rest, none⟩ = .ok (n, ⟨rest, none⟩) := by
  rw [variableName, bind_of_ok (expect_cons .dollar)]
  exact name_cons n

/-- A name that is no literal stands for itself. -/
theorem namedValue_eq_enum {n : String} (h : n ≠ "true" ∧ n ≠ "false" ∧ n ≠ "null") :
    namedValue n = .enum n := by
  rw [namedValue, if_neg h.1, if_neg h.2.1, if_neg h.2.2]

theorem token_ne_punctuator (literal : StringLiteral) (p : Punctuator) :
    literal.token ≠ .punctuator p := by
  unfold StringLiteral.token
  split <;> exact Token.noConfusion

/-- A value begins with no punctuator that closes anything. -/
theorem apart_value_append (v : Value) : Apart [.bracketClose] (v.tokens ++ rest) := by
  intro p hp he
  rw [List.mem_singleton.1 hp] at he
  cases v with
  | string literal => exact token_ne_punctuator _ _ (Option.some.inj he)
  | _ => cases he

/-- Values other than lists and objects. -/
theorem valueWith_tokens {isConst : Bool} {room : Nat} {list object : Parser Value} {v : Value}
    (h : v.IsReadable isConst room) (hlist : ∀ items, v ≠ .list items)
    (hobject : ∀ fields, v ≠ .object fields) :
    valueWith isConst list object ⟨v.tokens ++ rest, none⟩ = .ok (v, ⟨rest, none⟩) := by
  rw [valueWith, bind_of_ok (peek_apply _)]
  cases v with
  | list items => exact absurd rfl (hlist items)
  | object fields => exact absurd rfl (hobject fields)
  | «variable» n =>
    rw [Value.IsReadable] at h
    obtain ⟨rfl, -⟩ := h
    exact bind_of_ok (variableName_cons n)
  | string literal =>
    obtain ⟨value, isBlock⟩ := literal
    cases isBlock with
    | true => exact bind_of_ok (advance_cons _)
    | false => exact bind_of_ok (advance_cons _)
  | boolean b =>
    cases b with
    | true => exact bind_of_ok (advance_cons _)
    | false => exact bind_of_ok (advance_cons _)
  | enum n =>
    rw [Value.IsReadable] at h
    refine (bind_of_ok (advance_cons _)).trans ?_
    rw [namedValue_eq_enum h.2]
    rfl
  | int t | float t | null => exact bind_of_ok (advance_cons _)

/-- The tokens of a value are read as the value. -/
theorem value_tokens {isConst : Bool} {room : Nat} {v : Value} (h : v.IsReadable isConst room) :
    value isConst room ⟨v.tokens ++ rest, none⟩ = .ok (v, ⟨rest, none⟩) := by
  induction room generalizing v rest with
  | zero =>
    cases v with
    | list items | object fields =>
      rw [Value.IsReadable] at h
      exact h.elim
    | _ => exact valueWith_tokens h nofun nofun
  | succ room ih =>
    cases v with
    | list items =>
      rw [Value.IsReadable] at h
      have hitems : anyBetween .bracketOpen (value isConst room) .bracketClose
          ⟨.punctuator .bracketOpen ::
            (items.flatMap Value.tokens ++ .punctuator .bracketClose :: rest), none⟩
          = .ok (items, ⟨rest, none⟩) :=
        anyBetween_flatMap (fun v hv ts _ => ih (h v hv)) (fun v _ ts => apart_value_append v)
          List.not_mem_nil
      rw [Value.tokens, tokensOfItems_eq_flatMap, List.cons_append, List.append_assoc, value,
        valueWith, bind_of_ok (peek_apply _)]
      exact bind_of_ok hitems
    | object fields =>
      rw [Value.IsReadable] at h
      have hfield (f : String × Value) (hf : f ∈ fields) (ts : List Token) :
          objectField (value isConst room)
            ⟨.name f.1 :: .punctuator .colon :: f.2.tokens ++ ts, none⟩ = .ok (f, ⟨ts, none⟩) := by
        rw [objectField, List.cons_append, bind_of_ok (name_cons f.1), List.cons_append,
          bind_of_ok (expect_cons .colon)]
        exact bind_of_ok (ih (h f hf).2)
      have hfields : anyBetween .braceOpen (objectField (value isConst room)) .braceClose
          ⟨.punctuator .braceOpen ::
            (fields.flatMap (fun f => .name f.1 :: .punctuator .colon :: f.2.tokens)
              ++ .punctuator .braceClose :: rest), none⟩
          = .ok (fields, ⟨rest, none⟩) :=
        anyBetween_flatMap (fun f hf ts _ => hfield f hf ts) (fun f _ ts => apart_name _ f.1)
          List.not_mem_nil
      rw [Value.tokens, tokensOfFields_eq_flatMap, List.cons_append, List.append_assoc, value,
        valueWith, bind_of_ok (peek_apply _)]
      exact bind_of_ok hfields
    | _ => exact valueWith_tokens h nofun nofun

/-! ## Arguments, directives and types -/

theorem argument_tokens {isConst : Bool} {room : Nat} {a : Argument}
    (h : a.IsReadable isConst room) :
    argument isConst room ⟨a.tokens ++ rest, none⟩ = .ok (a, ⟨rest, none⟩) := by
  rw [argument, Argument.tokens, List.cons_append, bind_of_ok (name_cons a.name), List.cons_append,
    bind_of_ok (expect_cons .colon)]
  exact bind_of_ok (value_tokens h.value)

theorem arguments_tokens {isConst : Bool} {room : Nat} {as : List Argument}
    (h : ∀ a ∈ as, a.IsReadable isConst room) (hrest : Apart [.parenOpen] rest) :
    arguments isConst room ⟨argumentTokens as ++ rest, none⟩ = .ok (as, ⟨rest, none⟩) :=
  optionallyBetween_between (fun a ha _ _ => argument_tokens (h a ha))
    (fun a _ _ => apart_name _ a.name) List.not_mem_nil hrest

theorem directive_tokens {isConst : Bool} {room : Nat} {d : Directive}
    (h : d.IsReadable isConst room) (hrest : Apart [.parenOpen] rest) :
    directive isConst room ⟨d.tokens ++ rest, none⟩ = .ok (d, ⟨rest, none⟩) := by
  rw [directive, Directive.tokens, List.cons_append, bind_of_ok (expect_cons .atSign),
    List.cons_append, bind_of_ok (name_cons d.name)]
  exact bind_of_ok (arguments_tokens h.arguments hrest)

/-- The tokens of directives are read as the directives if no more directives follow. -/
theorem directives_tokens {isConst : Bool} {room : Nat} {ds : List Directive}
    (h : ∀ d ∈ ds, d.IsReadable isConst room) (hrest : Apart [.atSign, .parenOpen] rest) :
    directives isConst room ⟨ds.flatMap Directive.tokens ++ rest, none⟩
      = .ok (ds, ⟨rest, none⟩) := by
  refine collect_flatMap (fun d hd ts hts => ?_)
    (fun d _ ts => apart_punctuator (by decide : Punctuator.atSign ∉ [.parenOpen]))
    (fun d _ => List.cons_ne_nil _ _) (hrest.mono (by decide)) ?_
  · rw [bind_of_ok (peek_apply _), if_pos (by rfl)]
    exact bind_of_ok (directive_tokens (h d hd) hts)
  · rw [bind_of_ok (peek_apply _), if_neg (hrest .atSign (by decide))]
    rfl

theorem accept_bang (isRequired : Bool) (hrest : Apart [.bang] rest) :
    accept .bang ⟨(if isRequired then [.punctuator .bang] else []) ++ rest, none⟩
      = .ok (isRequired, ⟨rest, none⟩) := by
  cases isRequired with
  | true => exact accept_cons .bang
  | false => exact accept_of_ne (hrest .bang (by decide))

/-- A type by its name. -/
theorem typeReferenceWith_named {n : String} {isRequired : Bool} {item : Parser TypeReference}
    (hrest : Apart [.bang] rest) :
    typeReferenceWith item ⟨(TypeReference.named n isRequired).tokens ++ rest, none⟩
      = .ok (.named n isRequired, ⟨rest, none⟩) := by
  have hname (ts : List Token) : (Token.name n :: ts).head? ≠ some (.punctuator .bracketOpen) := by
    simp
  rw [typeReferenceWith, TypeReference.tokens, List.cons_append,
    bind_of_ok (accept_of_ne (hname _)), if_neg Bool.false_ne_true, bind_of_ok (name_cons n)]
  exact bind_of_ok (accept_bang isRequired hrest)

/-- The tokens of a reference to a type are read as the reference. -/
theorem typeReference_tokens {room : Nat} {t : TypeReference} (h : t.IsReadable room)
    (hrest : Apart [.bang] rest) :
    typeReference room ⟨t.tokens ++ rest, none⟩ = .ok (t, ⟨rest, none⟩) := by
  induction room generalizing t rest with
  | zero =>
    cases t with
    | named n isRequired => exact typeReferenceWith_named hrest
    | list item isRequired =>
      rw [TypeReference.IsReadable] at h
      exact h.elim
  | succ room ih =>
    cases t with
    | named n isRequired => exact typeReferenceWith_named hrest
    | list item isRequired =>
      rw [TypeReference.IsReadable] at h
      rw [typeReference, typeReferenceWith, TypeReference.tokens, List.cons_append,
        List.append_assoc, List.cons_append, bind_of_ok (accept_cons .bracketOpen), if_pos rfl,
        bind_of_ok (ih h (apart_punctuator (by decide))), bind_of_ok (expect_cons .bracketClose)]
      exact bind_of_ok (accept_bang isRequired hrest)

/-! ## Selections -/

/-- The names of fragments are names other than that which starts a type condition. -/
theorem fragmentName_cons {n : String} (h : n ≠ "on") :
    fragmentName ⟨.name n :: rest, none⟩ = .ok (n, ⟨rest, none⟩) := by
  have htext : ¬ (Token.name n).text = "on" := h
  rw [fragmentName, bind_of_ok (peek_apply _)]
  dsimp only [List.head?_cons]
  rw [if_neg htext, name_cons]

section Selections

variable {nested : Parser (List Selection)} {readable : List Selection → Prop}
  (hnested : ∀ ss, readable ss → ∀ ts,
    nested ⟨selectionTokens ss ++ ts, none⟩ = .ok (ss, ⟨ts, none⟩))

include hnested

/-- The selection set of a field, if it has one. -/
theorem fieldSelections_tokens {ss : List Selection} (h : ss = [] ∨ readable ss)
    (hrest : Apart [.braceOpen] rest) (k : List Selection → Parser β) :
    (if (selectionTokens ss ++ rest).head? = some (.punctuator .braceOpen) then nested >>= k
      else pure [] >>= k) ⟨selectionTokens ss ++ rest, none⟩ = k ss ⟨rest, none⟩ := by
  cases ss with
  | nil =>
    have hnone : (selectionTokens [] ++ rest).head? ≠ some (.punctuator .braceOpen) :=
      hrest .braceOpen (by decide)
    rw [if_neg hnone]
    rfl
  | cons s ss =>
    rw [if_pos (by rfl)]
    exact bind_of_ok (hnested _ (h.resolve_left (List.cons_ne_nil _ _)) _)

/-- The tokens of a field are read as the field if nothing follows that would belong to it. -/
theorem field_tokens {room : Nat} {alias? : Option String} {n : String} {args : List Argument}
    {dirs : List Directive} {selections : List Selection}
    (h : (Selection.field alias? n args dirs selections).IsReadable readable room)
    (hrest : Apart [.colon, .parenOpen, .atSign, .braceOpen] rest) :
    field nested room ⟨(Selection.field alias? n args dirs selections).tokens ++ rest, none⟩
      = .ok (.field alias? n args dirs selections, ⟨rest, none⟩) := by
  rw [Selection.IsReadable] at h
  obtain ⟨-, -, hargs, hdirs, hselections⟩ := h
  have hset : Apart [.colon, .parenOpen, .atSign] (selectionTokens selections ++ rest) :=
    apart_between_append (by decide) (hrest.mono (by decide))
  have hafterArgs : Apart [.colon, .parenOpen]
      (dirs.flatMap Directive.tokens ++ (selectionTokens selections ++ rest)) :=
    apart_directives_append (by decide) (hset.mono (by decide))
  have hafterName : Apart [.colon] (argumentTokens args
      ++ (dirs.flatMap Directive.tokens ++ (selectionTokens selections ++ rest))) :=
    apart_between_append (by decide) (hafterArgs.mono (by decide))
  have htail (k : List Argument → List Directive → List Selection → Parser Selection) :
      (do
        let args ← arguments false room
        let dirs ← directives false room
        let next ← peek
        if next = some (Token.punctuator .braceOpen) then nested >>= k args dirs
          else pure [] >>= k args dirs) ⟨argumentTokens args
            ++ (dirs.flatMap Directive.tokens ++ (selectionTokens selections ++ rest)), none⟩
        = k args dirs selections ⟨rest, none⟩ := by
    rw [bind_of_ok (arguments_tokens hargs (hafterArgs.mono (by decide))),
      bind_of_ok (directives_tokens hdirs (hset.mono (by decide))), bind_of_ok (peek_apply _)]
    exact fieldSelections_tokens hnested hselections (hrest.mono (by decide)) _
  rw [Selection.tokens, tokensOfAll_eq_map, ← selectionTokens]
  simp only [List.append_assoc, List.cons_append]
  cases alias? with
  | none =>
    rw [Option.elim_none, List.nil_append, field, bind_of_ok (name_cons n),
      bind_of_ok (accept_of_ne (hafterName .colon (by decide)))]
    exact htail fun args dirs selections => pure (.field none n args dirs selections)
  | some a =>
    rw [Option.elim_some, List.cons_append, field, bind_of_ok (name_cons a), List.cons_append,
      bind_of_ok (accept_cons .colon)]
    refine (bind_of_ok (name_cons n)).trans ?_
    exact htail fun args dirs selections => pure (.field (some a) n args dirs selections)

omit hnested in
/-- The tokens of a fragment spread are read as the spread. -/
theorem spread_tokens {room : Nat} {n : String} {dirs : List Directive}
    (h : (Selection.spread n dirs).IsReadable readable room)
    (hrest : Apart [.atSign, .parenOpen] rest) :
    fragmentSelection nested room ⟨(Selection.spread n dirs).tokens ++ rest, none⟩
      = .ok (.spread n dirs, ⟨rest, none⟩) := by
  rw [Selection.IsReadable] at h
  obtain ⟨-, hon, hdirs⟩ := h
  have hnoton : (Token.name n :: (dirs.flatMap Directive.tokens ++ rest)).head?
      ≠ some (.name "on") := by
    simpa using hon
  rw [Selection.tokens, List.cons_append, List.cons_append, fragmentSelection,
    bind_of_ok (expect_cons .spread), bind_of_ok (acceptKeyword_of_ne hnoton),
    if_neg Bool.false_ne_true, bind_of_ok (peek_apply _)]
  refine (bind_of_ok (fragmentName_cons hon)).trans ?_
  exact bind_of_ok (directives_tokens hdirs hrest)

/-- The tokens of an inline fragment are read as the fragment. -/
theorem inline_tokens (hne : ∀ ss, readable ss → ss ≠ []) {room : Nat} {type? : Option String}
    {dirs : List Directive} {selections : List Selection}
    (h : (Selection.inline type? dirs selections).IsReadable readable room)
    (hrest : Apart [.atSign, .parenOpen] rest) :
    fragmentSelection nested room ⟨(Selection.inline type? dirs selections).tokens ++ rest, none⟩
      = .ok (.inline type? dirs selections, ⟨rest, none⟩) := by
  rw [Selection.IsReadable] at h
  obtain ⟨-, hdirs, hselections⟩ := h
  have hset : Apart [.atSign, .parenOpen] (selectionTokens selections ++ rest) :=
    apart_between_append (by decide) hrest
  have htail (type? : Option String) :
      (do
        let dirs ← directives false room
        return Selection.inline type? dirs (← nested))
          ⟨dirs.flatMap Directive.tokens ++ (selectionTokens selections ++ rest), none⟩
        = .ok (.inline type? dirs selections, ⟨rest, none⟩) := by
    rw [bind_of_ok (directives_tokens hdirs hset)]
    exact bind_of_ok (hnested _ hselections _)
  rw [Selection.tokens, tokensOfAll_eq_map, ← selectionTokens]
  simp only [List.append_assoc, List.cons_append]
  rw [fragmentSelection, bind_of_ok (expect_cons .spread)]
  cases type? with
  | none =>
    have hbrace := exists_selectionTokens (hne _ hselections) rest
    obtain ⟨p, ts, hts⟩ := @exists_punctuator_directives _ dirs ⟨_, hbrace⟩
    have htail := htail none
    rw [hts] at htail
    have hnoname : (Token.punctuator p :: ts).head? ≠ some (.name "on") := by
      simp
    rw [Option.elim_none, List.nil_append, hts, bind_of_ok (acceptKeyword_of_ne hnoname),
      if_neg Bool.false_ne_true, bind_of_ok (peek_apply _)]
    exact htail
  | some t =>
    rw [Option.elim_some, List.cons_append, bind_of_ok (acceptKeyword_cons "on"), if_pos rfl,
      List.cons_append, bind_of_ok (name_cons t)]
    exact htail (some t)

/-- The tokens of a selection are read as the selection if nothing follows that would belong to a
field. -/
theorem selection_tokens (hne : ∀ ss, readable ss → ss ≠ []) {room : Nat} {s : Selection}
    (h : s.IsReadable readable room)
    (hrest : Apart [.colon, .parenOpen, .atSign, .braceOpen] rest) :
    selection nested room ⟨s.tokens ++ rest, none⟩ = .ok (s, ⟨rest, none⟩) := by
  rw [selection, bind_of_ok (peek_apply _)]
  cases s with
  | field alias? n args dirs selections =>
    have hname : ((Selection.field alias? n args dirs selections).tokens ++ rest).head?
        ≠ some (.punctuator .spread) := by
      cases alias? <;> exact nofun
    rw [if_neg hname]
    exact field_tokens hnested h hrest
  | spread n dirs =>
    rw [if_pos (by rfl)]
    exact spread_tokens h (hrest.mono (by decide))
  | inline type? dirs selections =>
    rw [if_pos (by rfl)]
    exact inline_tokens hnested hne h (hrest.mono (by decide))

end Selections

/-- A selection begins with no punctuator but the spread. -/
theorem apart_selection_append (s : Selection) {ps : List Punctuator} (h : .spread ∉ ps) :
    Apart ps (s.tokens ++ rest) := by
  cases s with
  | field alias? n args dirs selections =>
    cases alias? with
    | none => exact apart_name ps n
    | some a => exact apart_name ps a
  | spread n dirs => exact apart_punctuator h
  | inline type? dirs selections => exact apart_punctuator h

/-- The tokens of a selection set are read as the selection set. -/
theorem selectionSet_tokens {room : Nat} {ss : List Selection} (h : AreReadable room ss) :
    selectionSet room ⟨selectionTokens ss ++ rest, none⟩ = .ok (ss, ⟨rest, none⟩) := by
  induction room generalizing ss rest with
  | zero => exact h.elim
  | succ room ih =>
    have hitem (s : Selection) (hs : s ∈ ss) (ts : List Token)
        (hts : Apart [.colon, .parenOpen, .atSign, .braceOpen] ts) :=
      selection_tokens (fun _ hss _ => ih hss) (fun _ hss => hss.ne_nil) (h.2 s hs) hts
    exact someBetween_between hitem (fun s _ _ => apart_selection_append s (by decide)) (by decide)
      h.1

/-! ## Operations and fragments -/

theorem stringLiteral?_token (literal : StringLiteral) :
    stringLiteral? (some literal.token) = some literal := by
  obtain ⟨value, isBlock⟩ := literal
  cases isBlock <;> rfl

/-- A description is read if there is one and if none is taken for one. -/
theorem description?_tokens (literal? : Option StringLiteral)
    (hrest : stringLiteral? rest.head? = none) :
    description? ⟨descriptionTokens literal? ++ rest, none⟩ = .ok (literal?, ⟨rest, none⟩) := by
  rw [description?, bind_of_ok (peek_apply _)]
  cases literal? with
  | none =>
    rw [descriptionTokens, Option.elim_none, List.nil_append, hrest]
    rfl
  | some literal =>
    rw [descriptionTokens, Option.elim_some, List.cons_append, List.head?_cons,
      stringLiteral?_token]
    exact bind_of_ok (advance_cons _)

theorem default?_tokens {default : Option Value}
    (h : ∀ d ∈ default, d.IsReadable true maximalNesting) (hrest : Apart [.equals] rest) :
    default? ⟨(default.elim [] fun d => .punctuator .equals :: d.tokens) ++ rest, none⟩
      = .ok (default, ⟨rest, none⟩) := by
  rw [default?]
  cases default with
  | none => exact bind_of_ok (accept_of_ne (hrest .equals (by decide)))
  | some d =>
    rw [Option.elim_some, List.cons_append, bind_of_ok (accept_cons .equals)]
    exact bind_of_ok (value_tokens (h d rfl))

/-- The tokens of a variable of an operation are read as the variable. -/
theorem variableDefinition_tokens {v : VariableDefinition} (h : v.IsReadable)
    (hrest : Apart [.bang, .equals, .atSign, .parenOpen] rest) :
    variableDefinition ⟨v.tokens ++ rest, none⟩ = .ok (v, ⟨rest, none⟩) := by
  have hdirs : Apart [.bang, .equals] (v.directives.flatMap Directive.tokens ++ rest) :=
    apart_directives_append (by decide) (hrest.mono (by decide))
  have hdefault : Apart [.bang] ((v.default?.elim [] fun d => .punctuator .equals :: d.tokens)
      ++ (v.directives.flatMap Directive.tokens ++ rest)) := by
    cases v.default? with
    | none => exact hdirs.mono (by decide)
    | some d => exact apart_punctuator (by decide)
  rw [variableDefinition, VariableDefinition.tokens]
  simp only [List.append_assoc, List.cons_append]
  rw [bind_of_ok (description?_tokens v.description rfl), bind_of_ok (variableName_cons v.name),
    bind_of_ok (expect_cons .colon), bind_of_ok (typeReference_tokens h.type hdefault),
    bind_of_ok (default?_tokens h.default? (hdirs.mono (by decide)))]
  exact bind_of_ok (directives_tokens h.directives (hrest.mono (by decide)))

/-- A variable of an operation begins with its description or its dollar sign. -/
theorem apart_variableDefinition_append (v : VariableDefinition) {ps : List Punctuator}
    (h : .dollar ∉ ps) : Apart ps (v.tokens ++ rest) := by
  rw [VariableDefinition.tokens]
  cases v.description with
  | none => exact apart_punctuator h
  | some literal => exact fun p _ he => token_ne_punctuator literal p (Option.some.inj he)

/-- The tokens of the variables of an operation are read as the variables. -/
theorem declared_tokens {vs : List VariableDefinition} (h : ∀ v ∈ vs, v.IsReadable)
    (hrest : Apart [.parenOpen] rest) :
    optionallyBetween .parenOpen variableDefinition .parenClose
        ⟨between .parenOpen .parenClose (vs.map VariableDefinition.tokens) ++ rest, none⟩
      = .ok (vs, ⟨rest, none⟩) := by
  have hitem (v : VariableDefinition) (hv : v ∈ vs) (ts : List Token)
      (hts : Apart [.bang, .equals, .atSign, .parenOpen] ts) :=
    variableDefinition_tokens (h v hv) hts
  exact optionallyBetween_between hitem
    (fun v _ _ => apart_variableDefinition_append v (by decide)) (by decide) hrest

theorem operationKind_cons (kind : OperationKind) :
    operationKind ⟨.name kind.keyword :: rest, none⟩ = .ok (kind, ⟨rest, none⟩) := by
  rw [operationKind, bind_of_ok (name_cons _)]
  cases kind <;> rfl

/-- An operation with its keyword. -/
theorem operation_tokens {o : Operation} (h : o.IsReadable) :
    operation ⟨descriptionTokens o.description
        ++ (o.headTokens ++ (selectionTokens o.selections ++ rest)), none⟩
      = .ok (o, ⟨rest, none⟩) := by
  obtain ⟨description, kind, n, declared, dirs, selections⟩ := o
  obtain ⟨body, hbody⟩ := exists_selectionTokens h.selections.ne_nil rest
  have hset : Apart [.atSign, .parenOpen] (selectionTokens selections ++ rest) :=
    hbody ▸ apart_punctuator (by decide)
  have hdirs : Apart [.parenOpen]
      (dirs.flatMap Directive.tokens ++ (selectionTokens selections ++ rest)) :=
    apart_directives_append (by decide) (hset.mono (by decide))
  have htail (n : Option String) :
      (do
        let declared ← optionallyBetween .parenOpen variableDefinition .parenClose
        let dirs ← directives false maximalNesting
        return Operation.mk description kind n declared dirs (← selectionSet maximalNesting))
          ⟨between .parenOpen .parenClose (declared.map VariableDefinition.tokens)
            ++ (dirs.flatMap Directive.tokens ++ (selectionTokens selections ++ rest)), none⟩
        = .ok (⟨description, kind, n, declared, dirs, selections⟩, ⟨rest, none⟩) := by
    rw [bind_of_ok (declared_tokens h.declared hdirs),
      bind_of_ok (directives_tokens h.directives hset)]
    exact bind_of_ok (selectionSet_tokens h.selections)
  rw [operation, Operation.headTokens]
  simp only [List.append_assoc, List.cons_append]
  rw [bind_of_ok (description?_tokens description rfl), bind_of_ok (operationKind_cons kind),
    bind_of_ok (peek_apply _)]
  cases n with
  | none =>
    obtain ⟨p, ts, hts⟩ := @exists_punctuator_between _ .parenOpen .parenClose
      (declared.map VariableDefinition.tokens)
      (@exists_punctuator_directives _ dirs ⟨_, body, hbody⟩)
    have htail := htail none
    rw [hts] at htail
    rw [Option.elim_none, List.nil_append, hts]
    exact htail
  | some n =>
    refine (bind_of_ok (advance_cons _)).trans ?_
    exact htail (some n)

/-- An operation in shorthand. -/
theorem shorthand_tokens {o : Operation} (hshorthand : o.isShorthand = true)
    (h : AreReadable maximalNesting o.selections) :
    shorthand ⟨selectionTokens o.selections ++ rest, none⟩ = .ok (o, ⟨rest, none⟩) := by
  obtain ⟨description, kind, name, declared, dirs, selections⟩ := o
  simp only [Operation.isShorthand, Bool.and_eq_true, decide_eq_true_eq, Option.isNone_iff_eq_none,
    List.isEmpty_iff] at hshorthand
  obtain ⟨⟨⟨⟨rfl, rfl⟩, rfl⟩, rfl⟩, rfl⟩ := hshorthand
  exact bind_of_ok (selectionSet_tokens h)

/-- The tokens of a fragment are read as the fragment. -/
theorem fragment_tokens {f : Fragment} (h : f.IsReadable) :
    fragment ⟨f.tokens ++ rest, none⟩ = .ok (f, ⟨rest, none⟩) := by
  obtain ⟨body, hbody⟩ := exists_selectionTokens h.selections.ne_nil rest
  have hset : Apart [.atSign, .parenOpen] (selectionTokens f.selections ++ rest) :=
    hbody ▸ apart_punctuator (by decide)
  rw [fragment, Fragment.tokens]
  simp only [List.append_assoc, List.cons_append]
  rw [bind_of_ok (description?_tokens f.description rfl),
    bind_of_ok (expectKeyword_cons "fragment"), bind_of_ok (fragmentName_cons h.name_ne_on),
    bind_of_ok (expectKeyword_cons "on"), bind_of_ok (name_cons f.type),
    bind_of_ok (directives_tokens h.directives hset)]
  exact bind_of_ok (selectionSet_tokens h.selections)

/-! ## Documents -/

/-- A definition with a keyword, possibly after a description, is read by its keyword. -/
theorem definition_keyword (literal? : Option StringLiteral) (k : String) :
    definition ⟨descriptionTokens literal? ++ .name k :: rest, none⟩
      = keywordDefinition literal?.isSome k
        ⟨descriptionTokens literal? ++ .name k :: rest, none⟩ := by
  rw [definition, bind_of_ok (peek_apply _)]
  cases literal? with
  | none => rfl
  | some literal =>
    rw [descriptionTokens, Option.elim_some, List.cons_append, List.head?_cons,
      stringLiteral?_token]
    exact bind_of_ok (lookahead_cons _)

/-- A definition with an opening brace is an operation in shorthand. -/
theorem definition_braceOpen :
    definition ⟨.punctuator .braceOpen :: rest, none⟩
      = (Definition.operation <$> shorthand) ⟨.punctuator .braceOpen :: rest, none⟩ := by
  rw [definition, bind_of_ok (peek_apply _)]
  rfl

theorem keywordDefinition_operation (hasDescription : Bool) (kind : OperationKind) :
    keywordDefinition hasDescription kind.keyword = Definition.operation <$> operation := by
  cases kind <;> rfl

theorem keywordDefinition_fragment (hasDescription : Bool) :
    keywordDefinition hasDescription "fragment" = Definition.fragment <$> fragment := by
  rfl

/-- A definition that is made from a part which is read. -/
theorem map_of_ok {p : Parser α} {f : α → β} {s s' : TokenStream} {a : α}
    (h : p s = .ok (a, s')) : (f <$> p) s = .ok (f a, s') := by
  simp only [Functor.map, StateT.map, h, bind, Except.bind, pure, Except.pure]

/-- The tokens of an executable definition are read as the definition. -/
theorem definition_tokens {d : Definition} (hexecutable : d.isExecutable = true)
    (h : d.IsReadable) : definition ⟨d.tokens ++ rest, none⟩ = .ok (d, ⟨rest, none⟩) := by
  cases d with
  | operation o =>
    rw [Definition.IsReadable] at h
    rw [Definition.tokens, Operation.tokens]
    split
    · next hshorthand =>
      obtain ⟨body, hbody⟩ := exists_selectionTokens h.selections.ne_nil rest
      have hread := @shorthand_tokens rest o hshorthand h.selections
      rw [hbody] at hread
      rw [hbody, definition_braceOpen]
      exact map_of_ok hread
    · have hread := @operation_tokens rest o h
      rw [Operation.headTokens, List.cons_append] at hread
      rw [List.append_assoc, List.append_assoc, Operation.headTokens, List.cons_append,
        definition_keyword, keywordDefinition_operation]
      exact map_of_ok hread
  | fragment f =>
    rw [Definition.IsReadable] at h
    have hread := @fragment_tokens rest f h
    rw [Fragment.tokens, List.append_assoc, List.cons_append] at hread
    rw [Definition.tokens, Fragment.tokens, List.append_assoc, List.cons_append,
      definition_keyword, keywordDefinition_fragment]
    exact map_of_ok hread
  | typeSystem | directive | extension => cases hexecutable

theorem definition_tokens_ne_nil {d : Definition} (hexecutable : d.isExecutable = true)
    (h : d.IsReadable) : d.tokens ≠ [] := by
  intro hnone
  have hread := @definition_tokens [] d hexecutable h
  rw [hnone] at hread
  cases hread

/-- The tokens of an executable document are read as the document. -/
theorem ofTokens_tokens {document : Document}
    (hexecutable : ∀ d ∈ document.definitions, d.isExecutable = true)
    (h : ∀ d ∈ document.definitions, d.IsReadable) (hne : document.definitions ≠ []) :
    Document.ofTokens ⟨document.definitions.flatMap Definition.tokens, none⟩ = .ok document := by
  obtain ⟨definitions⟩ := document
  cases definitions with
  | nil => exact absurd rfl hne
  | cons d ds =>
    obtain ⟨hd, hds⟩ := List.forall_mem_cons.1 h
    obtain ⟨hdexecutable, hdsexecutable⟩ := List.forall_mem_cons.1 hexecutable
    have hdocument : document ⟨d.tokens ++ ds.flatMap Definition.tokens, none⟩
        = .ok (⟨d :: ds⟩, ⟨[], none⟩) := by
      rw [document, bind_of_ok (definition_tokens hdexecutable hd),
        ← List.append_nil (ds.flatMap Definition.tokens)]
      refine bind_of_ok (@collect_flatMap _ [] _ Definition.tokens ds [] [] ?_
        (fun _ _ _ _ hp => absurd hp List.not_mem_nil)
        (fun b hb => definition_tokens_ne_nil (hdsexecutable b hb) (hds b hb))
        (fun _ hp => absurd hp List.not_mem_nil) rfl)
      intro b hb ts _
      have hread := @definition_tokens ts b (hdsexecutable b hb) (hds b hb)
      obtain ⟨t, us, ht⟩ := List.exists_cons_of_ne_nil
        (definition_tokens_ne_nil (hdsexecutable b hb) (hds b hb))
      rw [ht] at hread ⊢
      rw [bind_of_ok (peek_apply _)]
      exact bind_of_ok hread
    have hreach (ts : List Token) : reach ⟨ts, none⟩ = .ok ⟨ts, none⟩ := by
      cases ts <;> rfl
    rw [Document.ofTokens, List.flatMap_cons, bind_eq_of_ok (hreach _), bind_eq_of_ok hdocument]
    rfl

end PersistedDocument.GraphQL.Parser
