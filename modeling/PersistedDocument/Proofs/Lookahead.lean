import PersistedDocument.Proofs.Rereading
import PersistedDocument.Proofs.Yields

/-!
# Proofs: how far parsers look ahead

A parser that stops before the last token has looked at no more than the next token, so that it runs
the same when more tokens stand behind. A parser whose last step is to use up a closing brace does
so even if it stops at the last token. Executable definitions end in such a step, and therefore a
document of executable definitions may be followed by any other document.
-/

namespace PersistedDocument.GraphQL.Parser

variable {α β : Type} {p : Parser α}

/-! ## Runs with more tokens behind -/

/-- A run of a parser is the same when more tokens stand behind. -/
def Extends (p : Parser α) (s : TokenStream) (a : α) (s' : TokenStream) : Prop :=
  ∀ more, p ⟨s.tokens ++ more, none⟩ = .ok (a, ⟨s'.tokens ++ more, none⟩)

/-- A run that uses up a token and does not depend on what stands behind. -/
def Closes (p : Parser α) (s : TokenStream) (a : α) (s' : TokenStream) : Prop :=
  s'.tokens.length < s.tokens.length ∧ Extends p s a s'

/-- A parser that looks at no more than the token after those that it uses up. -/
def IsLocal (p : Parser α) : Prop :=
  ∀ s s' a, p s = .ok (a, s') →
    s'.tokens.length ≤ s.tokens.length ∧ (s'.tokens ≠ [] → Extends p s a s')

/-- A parser that looks at no more than the tokens that it uses up, of which there is at least
one. -/
def IsClosed (p : Parser α) : Prop := ∀ s s' a, p s = .ok (a, s') → Closes p s a s'

theorem IsClosed.isLocal (h : IsClosed p) : IsLocal p := by
  intro s s' a ha
  obtain ⟨hlength, hextends⟩ := h s s' a ha
  exact ⟨Nat.le_of_lt hlength, fun _ => hextends⟩

/-! ## Putting parsers together -/

theorem Extends.bind {f : α → Parser β} {s t s' : TokenStream} {a : α} {b : β}
    (hp : Extends p s a t) (hf : Extends (f a) t b s') : Extends (p >>= f) s b s' :=
  fun more => (bind_of_ok (hp more)).trans (hf more)

theorem IsLocal.pure (a : α) : IsLocal (pure a) := by
  intro s s' b hb
  obtain ⟨rfl, rfl⟩ := Prod.mk.inj (Except.ok.inj hb)
  exact ⟨Nat.le_refl _, fun _ _ => rfl⟩

theorem IsLocal.throw {e : SyntaxError} : IsLocal (throw e : Parser α) := by
  intro s s' a ha
  cases ha

theorem IsLocal.bind {f : α → Parser β} (hp : IsLocal p) (hf : ∀ a, IsLocal (f a)) :
    IsLocal (p >>= f) := by
  intro s s' b hb
  obtain ⟨a, t, ha, hb⟩ := exists_of_bind hb
  obtain ⟨hlength, hextends⟩ := hp _ _ _ ha
  obtain ⟨hlength', hextends'⟩ := hf a _ _ _ hb
  refine ⟨Nat.le_trans hlength' hlength, fun hne => ?_⟩
  have hmiddle : t.tokens ≠ [] := by
    have hpos := List.length_pos_iff.2 hne
    exact List.length_pos_iff.1 (by omega)
  exact (hextends hmiddle).bind (hextends' hne)

/-- A parser is closed if the last parser in it is. -/
theorem IsLocal.bind_closed {f : α → Parser β} (hp : IsLocal p) (hf : ∀ a, IsClosed (f a)) :
    IsClosed (p >>= f) := by
  intro s s' b hb
  obtain ⟨a, t, ha, hb⟩ := exists_of_bind hb
  obtain ⟨hlength, hextends⟩ := hp _ _ _ ha
  obtain ⟨hlength', hextends'⟩ := hf a _ _ _ hb
  have hmiddle : t.tokens ≠ [] := List.length_pos_iff.1 (by omega)
  exact ⟨by omega, (hextends hmiddle).bind hextends'⟩

theorem Closes.map {s s' : TokenStream} {a : α} (h : Closes p s a s') (g : α → β) :
    Closes (do return g (← p)) s (g a) s' :=
  ⟨h.1, h.2.bind fun _ => rfl⟩

theorem IsClosed.map (hp : IsClosed p) (g : α → β) : IsClosed (do return g (← p)) := by
  intro s s' b hb
  obtain ⟨a, t, ha, hb⟩ := exists_of_bind hb
  obtain ⟨rfl, rfl⟩ := Prod.mk.inj (Except.ok.inj hb)
  exact (hp _ _ _ ha).map g

theorem IsLocal.ite {c : Prop} [Decidable c] {q : Parser α} (hp : IsLocal p) (hq : IsLocal q) :
    IsLocal (if c then p else q) := by
  split
  · exact hp
  · exact hq

/-! ## Single steps -/

theorem local_peek : IsLocal peek := by
  intro s s' next hnext
  obtain ⟨rfl, rfl⟩ := Prod.mk.inj (Except.ok.inj hnext)
  refine ⟨Nat.le_refl _, fun hne more => ?_⟩
  obtain ⟨tokens, ending⟩ := s
  cases tokens with
  | nil => exact absurd rfl hne
  | cons t tokens => rfl

theorem local_advance : IsLocal advance := by
  intro s s' a ha
  obtain ⟨t, ht, he⟩ := map_eq_ok.1 ha
  obtain ⟨-, rfl⟩ := Prod.mk.inj he
  obtain ⟨rfl, -⟩ := eq_of_reach ht
  refine ⟨by simp, fun hne more => ?_⟩
  obtain ⟨tokens, ending⟩ := s
  cases tokens with
  | nil => exact absurd rfl hne
  | cons t tokens => exact advance_cons t

/-- A step onto a punctuator that is there uses it up and looks no further. -/
theorem closes_accept {q : Punctuator} {s s' : TokenStream} (h : accept q s = .ok (true, s')) :
    Closes (accept q) s true s' := by
  obtain ⟨next, t, hnext, h⟩ := exists_of_bind h
  obtain ⟨rfl, rfl⟩ := Prod.mk.inj (Except.ok.inj hnext)
  split at h
  · next hhead =>
    obtain ⟨_, t, ha, h⟩ := exists_of_bind h
    obtain ⟨-, rfl⟩ := Prod.mk.inj (Except.ok.inj h)
    obtain ⟨t, ht, he⟩ := map_eq_ok.1 ha
    obtain ⟨-, rfl⟩ := Prod.mk.inj he
    obtain ⟨rfl, -⟩ := eq_of_reach ht
    obtain ⟨tokens, ending⟩ := s
    obtain ⟨rest, rfl⟩ := List.head?_eq_some_iff.1 hhead
    exact ⟨Nat.lt_succ_self _, fun more => accept_cons q⟩
  · cases h

theorem local_accept (q : Punctuator) : IsLocal (accept q) :=
  local_peek.bind fun _ => (local_advance.bind fun _ => .pure true).ite (.pure false)

theorem local_expect (q : Punctuator) : IsLocal (expect q) :=
  (local_accept q).bind fun _ => IsLocal.ite (.pure ()) (local_peek.bind fun _ => .throw)

theorem local_acceptKeyword (k : String) : IsLocal (acceptKeyword k) :=
  local_peek.bind fun _ => (local_advance.bind fun _ => .pure true).ite (.pure false)

theorem local_expectKeyword (k : String) : IsLocal (expectKeyword k) :=
  (local_acceptKeyword k).bind fun _ => IsLocal.ite (.pure ()) (local_peek.bind fun _ => .throw)

theorem local_name : IsLocal name := by
  refine local_peek.bind fun next => ?_
  split
  · exact local_advance.bind fun _ => .pure _
  · exact .throw

/-! ## Lists of items -/

/-- What is collected by steps that look at no more than the next token ends with a step that gives
nothing; if this step is the same with more tokens behind, so is the whole, within any bound that is
no smaller. -/
theorem exists_last_of_local {step : Parser (Option α)} (hstep : IsLocal step)
    {bound : List Token} {s s' : TokenStream} {as : List α}
    (h : collectWithin step bound s = .ok (as, s')) :
    ∃ t, step t = .ok (none, s') ∧ t.tokens.length ≤ s.tokens.length
      ∧ (t.tokens ≠ [] → Extends step t none s' → ∀ bound' : List Token,
          bound.length ≤ bound'.length → Extends (collectWithin step bound') s as s') := by
  induction bound generalizing s as with
  | nil =>
    obtain ⟨a?, t, ha, h⟩ := exists_of_bind h
    cases a? with
    | none =>
      obtain ⟨rfl, rfl⟩ := Prod.mk.inj (Except.ok.inj h)
      refine ⟨s, ha, Nat.le_refl _, fun _ hextends bound' _ => ?_⟩
      cases bound' with
      | nil => exact hextends.bind fun _ => rfl
      | cons b bound' => exact hextends.bind fun _ => rfl
    | some a => cases h
  | cons b bound ih =>
    obtain ⟨a?, u, ha, h⟩ := exists_of_bind h
    cases a? with
    | none =>
      obtain ⟨rfl, rfl⟩ := Prod.mk.inj (Except.ok.inj h)
      refine ⟨s, ha, Nat.le_refl _, fun _ hextends bound' hbound => ?_⟩
      obtain ⟨b', bound', rfl⟩ := List.exists_cons_of_length_pos (Nat.zero_lt_of_lt hbound)
      exact hextends.bind fun _ => rfl
    | some a =>
      obtain ⟨more, v, hmore, h⟩ := exists_of_bind h
      obtain ⟨rfl, rfl⟩ := Prod.mk.inj (Except.ok.inj h)
      obtain ⟨t, ht, hlength, hextends⟩ := ih hmore
      obtain ⟨hlength', hextends'⟩ := hstep _ _ _ ha
      refine ⟨t, ht, Nat.le_trans hlength hlength', fun hne hlast bound' hbound => ?_⟩
      obtain ⟨b', bound', rfl⟩ := List.exists_cons_of_length_pos (Nat.zero_lt_of_lt hbound)
      have hmiddle : u.tokens ≠ [] := by
        have hpos := List.length_pos_iff.2 hne
        exact List.length_pos_iff.1 (by omega)
      have hbehind := hextends hne hlast bound' (Nat.le_of_succ_le_succ hbound)
      exact (hextends' hmiddle).bind (hbehind.bind fun _ => rfl)

/-- The tokens that are left bound what is collected, and they are no fewer with more behind. -/
theorem exists_last_of_collect {step : Parser (Option α)} (hstep : IsLocal step)
    {s s' : TokenStream} {as : List α} (h : collect step s = .ok (as, s')) :
    ∃ t, step t = .ok (none, s') ∧ t.tokens.length ≤ s.tokens.length
      ∧ (t.tokens ≠ [] → Extends step t none s' → Extends (collect step) s as s') := by
  obtain ⟨t, ht, hlength, hextends⟩ := exists_last_of_local hstep h
  refine ⟨t, ht, hlength, fun hne hlast more => ?_⟩
  exact hextends hne hlast (s.tokens ++ more) (by simp) more

theorem local_collect {step : Parser (Option α)} (hstep : IsLocal step) :
    IsLocal (collect step) := by
  intro s s' as h
  obtain ⟨t, ht, hlength, hextends⟩ := exists_last_of_collect hstep h
  obtain ⟨hlength', hlast⟩ := hstep _ _ _ ht
  refine ⟨Nat.le_trans hlength' hlength, fun hne => hextends ?_ (hlast hne)⟩
  have hpos := List.length_pos_iff.2 hne
  exact List.length_pos_iff.1 (by omega)

/-- What is collected up to a step that uses up a token ends with that step. -/
theorem closed_collect {step : Parser (Option α)} (hstep : IsLocal step)
    (hlast : ∀ t t', step t = .ok (none, t') → Closes step t none t') :
    IsClosed (collect step) := by
  intro s s' as h
  obtain ⟨t, ht, hlength, hextends⟩ := exists_last_of_collect hstep h
  obtain ⟨hlength', hlast'⟩ := hlast _ _ ht
  have hne : t.tokens ≠ [] := List.length_pos_iff.1 (Nat.zero_lt_of_lt hlength')
  exact ⟨Nat.lt_of_lt_of_le hlength' hlength, hextends hne hlast'⟩

theorem closed_itemsUntil (h : IsLocal p) (closing : Punctuator) :
    IsClosed (itemsUntil p closing) := by
  have hitem : IsLocal (do return some (← p)) := h.bind fun a => .pure (some a)
  refine closed_collect ((local_accept closing).bind fun _ => (IsLocal.pure none).ite hitem) ?_
  intro t t' ht
  obtain ⟨found, u, hfound, ht⟩ := exists_of_bind ht
  cases found with
  | false =>
    obtain ⟨a, v, -, ht⟩ := exists_of_bind ht
    cases ht
  | true =>
    obtain ⟨-, rfl⟩ := Prod.mk.inj (Except.ok.inj ht)
    obtain ⟨hlength, hextends⟩ := closes_accept hfound
    exact ⟨hlength, hextends.bind fun _ => rfl⟩

theorem closed_anyBetween (opening : Punctuator) (h : IsLocal p) (closing : Punctuator) :
    IsClosed (anyBetween opening p closing) :=
  (local_expect opening).bind_closed fun _ => closed_itemsUntil h closing

theorem closed_first_itemsUntil (h : IsLocal p) (closing : Punctuator) :
    IsClosed (do return (← p) :: (← itemsUntil p closing) : Parser (List α)) :=
  h.bind_closed fun a => (closed_itemsUntil h closing).map (a :: ·)

theorem closed_someBetween (opening : Punctuator) (h : IsLocal p) (closing : Punctuator) :
    IsClosed (someBetween opening p closing) :=
  (local_expect opening).bind_closed fun _ => closed_first_itemsUntil h closing

theorem local_optionallyBetween (opening : Punctuator) (h : IsLocal p) (closing : Punctuator) :
    IsLocal (optionallyBetween opening p closing) :=
  (local_accept opening).bind fun _ =>
    (closed_first_itemsUntil h closing).isLocal.ite (.pure [])

/-! ## Values, arguments, directives and types -/

theorem local_variableName : IsLocal variableName :=
  (local_expect .dollar).bind fun _ => local_name

theorem local_variableInConstant : IsLocal variableInConstant := by
  refine (local_expect .dollar).bind fun _ => local_peek.bind fun next => ?_
  split
  · exact .throw
  · exact .throw

theorem local_valueWith {isConst : Bool} {list object : Parser Value} (hlist : IsLocal list)
    (hobject : IsLocal object) : IsLocal (valueWith isConst list object) := by
  refine local_peek.bind fun next => ?_
  split
  · exact hlist
  · exact hobject
  · exact local_variableInConstant.ite (local_variableName.bind fun _ => .pure _)
  · exact local_advance.bind fun _ => .pure _
  · exact local_advance.bind fun _ => .pure _
  · exact local_advance.bind fun _ => .pure _
  · exact local_advance.bind fun _ => .pure _
  · exact local_advance.bind fun _ => .pure _
  · exact .throw

theorem local_value (isConst : Bool) (room : Nat) : IsLocal (value isConst room) := by
  induction room with
  | zero => exact local_valueWith .throw .throw
  | succ room ih =>
    have hfield : IsLocal (objectField (value isConst room)) :=
      local_name.bind fun n => (local_expect .colon).bind fun _ => ih.bind fun v => .pure (n, v)
    exact local_valueWith ((closed_anyBetween .bracketOpen ih .bracketClose).map Value.list).isLocal
      ((closed_anyBetween .braceOpen hfield .braceClose).map Value.object).isLocal

theorem local_argument (isConst : Bool) (room : Nat) : IsLocal (argument isConst room) :=
  local_name.bind fun _ => (local_expect .colon).bind fun _ =>
    (local_value isConst room).bind fun _ => .pure _

theorem local_arguments (isConst : Bool) (room : Nat) : IsLocal (arguments isConst room) :=
  local_optionallyBetween .parenOpen (local_argument isConst room) .parenClose

theorem local_directives (isConst : Bool) (room : Nat) : IsLocal (directives isConst room) := by
  have hdirective : IsLocal (directive isConst room) :=
    (local_expect .atSign).bind fun _ => local_name.bind fun _ =>
      (local_arguments isConst room).bind fun _ => .pure _
  exact local_collect (local_peek.bind fun _ =>
    (hdirective.bind fun d => IsLocal.pure (some d)).ite (.pure none))

theorem local_typeReferenceWith {item : Parser TypeReference} (h : IsLocal item) :
    IsLocal (typeReferenceWith item) :=
  (local_accept .bracketOpen).bind fun _ => IsLocal.ite
    (h.bind fun _ => (local_expect .bracketClose).bind fun _ =>
      (local_accept .bang).bind fun _ => .pure _)
    (local_name.bind fun _ => (local_accept .bang).bind fun _ => .pure _)

theorem local_typeReference (room : Nat) : IsLocal (typeReference room) := by
  induction room with
  | zero => exact local_typeReferenceWith .throw
  | succ room ih => exact local_typeReferenceWith ih

theorem local_description? : IsLocal description? := by
  refine local_peek.bind fun next => ?_
  split
  · exact local_advance.bind fun _ => .pure _
  · exact .pure none

/-! ## Selections -/

theorem local_fragmentName : IsLocal fragmentName := by
  refine local_peek.bind fun next => ?_
  split
  · exact IsLocal.throw.ite local_name
  · exact local_name

theorem local_field {nested : Parser (List Selection)} (hnested : IsLocal nested) (room : Nat) :
    IsLocal (field nested room) := by
  refine local_name.bind fun first => (local_accept .colon).bind fun renamed => ?_
  have hfield (n : String) : IsLocal (do
      let args ← arguments false room
      let dirs ← directives false room
      let next ← peek
      let make := fun selections =>
        Selection.field (if renamed then some first else none) n args dirs selections
      if next = some (Token.punctuator .braceOpen) then do return make (← nested)
        else return make (← Pure.pure [])) :=
    (local_arguments false room).bind fun args => (local_directives false room).bind fun dirs =>
      local_peek.bind fun _ => (hnested.bind fun _ => .pure _).ite (.pure _)
  exact (local_name.bind hfield).ite (hfield first)

theorem local_fragmentSelection {nested : Parser (List Selection)} (hnested : IsLocal nested)
    (room : Nat) : IsLocal (fragmentSelection nested room) := by
  have hinline (type? : Option String) : IsLocal (do
      let dirs ← directives false room
      return Selection.inline type? dirs (← nested)) :=
    (local_directives false room).bind fun _ => hnested.bind fun _ => .pure _
  refine (local_expect .spread).bind fun _ => (local_acceptKeyword "on").bind fun _ =>
    IsLocal.ite (local_name.bind fun t => hinline (some t)) (local_peek.bind fun next => ?_)
  split
  · exact local_fragmentName.bind fun n => (local_directives false room).bind fun _ => .pure _
  · exact hinline none

theorem local_selection {nested : Parser (List Selection)} (hnested : IsLocal nested)
    (room : Nat) : IsLocal (selection nested room) :=
  local_peek.bind fun _ =>
    (local_fragmentSelection hnested room).ite (local_field hnested room)

theorem closed_selectionSet (room : Nat) : IsClosed (selectionSet room) := by
  induction room with
  | zero =>
    intro s s' a ha
    cases ha
  | succ room ih =>
    exact closed_someBetween .braceOpen (local_selection ih.isLocal room) .braceClose

/-! ## Operations and fragments -/

theorem closed_shorthand : IsClosed shorthand :=
  (closed_selectionSet maximalNesting).map (Operation.mk none .query none [] [])

theorem local_operationKind : IsLocal operationKind := by
  refine local_name.bind fun n => ?_
  split
  · exact .pure _
  · exact .throw

theorem local_variableDefinition : IsLocal variableDefinition := by
  have hdefault : IsLocal default? := (local_accept .equals).bind fun _ =>
    ((local_value true maximalNesting).bind fun v => IsLocal.pure (some v)).ite (.pure none)
  exact local_description?.bind fun _ => local_variableName.bind fun _ =>
    (local_expect .colon).bind fun _ => (local_typeReference maximalNesting).bind fun _ =>
      hdefault.bind fun _ => (local_directives true maximalNesting).bind fun _ => .pure _

theorem closed_operation : IsClosed operation := by
  refine local_description?.bind_closed fun description =>
    local_operationKind.bind_closed fun kind => local_peek.bind_closed fun next => ?_
  have htail (n : Option String) : IsClosed (do
      let declared ← optionallyBetween .parenOpen variableDefinition .parenClose
      let dirs ← directives false maximalNesting
      return Operation.mk description kind n declared dirs (← selectionSet maximalNesting)) :=
    (local_optionallyBetween .parenOpen local_variableDefinition .parenClose).bind_closed
      fun declared => (local_directives false maximalNesting).bind_closed fun dirs =>
        (closed_selectionSet maximalNesting).map
          (Operation.mk description kind n declared dirs)
  split
  · next n => exact local_advance.bind_closed fun _ => htail (some n)
  · exact htail none

theorem closed_fragment : IsClosed fragment :=
  local_description?.bind_closed fun description =>
    (local_expectKeyword "fragment").bind_closed fun _ =>
      local_fragmentName.bind_closed fun n => (local_expectKeyword "on").bind_closed fun _ =>
        local_name.bind_closed fun type =>
          (local_directives false maximalNesting).bind_closed fun dirs =>
            (closed_selectionSet maximalNesting).map (Fragment.mk description n type dirs)

/-! ## Definitions

The definitions of a type system may end in a part that is left out, so that they depend on the
token behind them. Of the runs of `definition` only those that give an executable definition are
closed. -/

/-- A parser that looks at no more than the tokens that it uses up for an executable definition. -/
def IsClosedOnExecutable (p : Parser Definition) : Prop :=
  ∀ s s' d, p s = .ok (d, s') → d.isExecutable = true → Closes p s d s'

/-- A parser that gives no executable definition. -/
def GivesNoExecutable (p : Parser Definition) : Prop :=
  ∀ s s' d, p s = .ok (d, s') → d.isExecutable = false

theorem GivesNoExecutable.pure {d : Definition} (h : d.isExecutable = false) :
    GivesNoExecutable (pure d) := by
  intro s s' e he
  obtain ⟨rfl, -⟩ := Prod.mk.inj (Except.ok.inj he)
  exact h

theorem GivesNoExecutable.throw {e : SyntaxError} : GivesNoExecutable (throw e) := by
  intro s s' d hd
  cases hd

theorem GivesNoExecutable.bind {p : Parser α} {f : α → Parser Definition}
    (h : ∀ a, GivesNoExecutable (f a)) : GivesNoExecutable (p >>= f) := by
  intro s s' d hd
  obtain ⟨a, t, -, hd⟩ := exists_of_bind hd
  exact h a t s' d hd

theorem GivesNoExecutable.closed {p : Parser Definition} (h : GivesNoExecutable p) :
    IsClosedOnExecutable p := by
  intro s s' d hd hexecutable
  rw [h s s' d hd] at hexecutable
  cases hexecutable

theorem IsClosed.onExecutable {p : Parser Definition} (h : IsClosed p) : IsClosedOnExecutable p :=
  fun s s' d hd _ => h s s' d hd

theorem IsClosedOnExecutable.ite {c : Prop} [Decidable c] {p q : Parser Definition}
    (hp : IsClosedOnExecutable p) (hq : IsClosedOnExecutable q) :
    IsClosedOnExecutable (if c then p else q) := by
  split
  · exact hp
  · exact hq

theorem closed_keywordDefinition (hasDescription : Bool) (k : String) :
    IsClosedOnExecutable (keywordDefinition hasDescription k) := by
  have hdirective : GivesNoExecutable (do
      let description ← description?
      advance
      return .directive (← directiveDefinition description)) :=
    .bind fun _ => .bind fun _ => .bind fun _ => .pure rfl
  have hitem (body : Parser TypeSystemItem) : GivesNoExecutable (do
      let description ← description?
      advance
      return .typeSystem description (← body)) :=
    .bind fun _ => .bind fun _ => .bind fun _ => .pure rfl
  have hextension : GivesNoExecutable (do
      advance
      return .extension (← extension)) :=
    .bind fun _ => .bind fun _ => .pure rfl
  refine hdirective.closed.ite ?_
  split
  · exact (hitem _).closed
  refine (closed_operation.map Definition.operation).onExecutable.ite ?_
  refine (closed_fragment.map Definition.fragment).onExecutable.ite ?_
  exact GivesNoExecutable.throw.closed.ite (hextension.closed.ite GivesNoExecutable.throw.closed)

/-- A definition, given the token that it starts with after a description. -/
def definitionFrom (hasDescription : Bool) (start : Option Token) : Parser Definition :=
  match start with
  | some (.punctuator .braceOpen) =>
    if hasDescription then throw .descriptionOnShorthand
    else return .operation (← shorthand)
  | some (.name k) => keywordDefinition hasDescription k
  | found => throw (.unexpected found)

theorem closed_definitionFrom (hasDescription : Bool) (start : Option Token) :
    IsClosedOnExecutable (definitionFrom hasDescription start) := by
  rw [definitionFrom.eq_def]
  split
  · exact GivesNoExecutable.throw.closed.ite
      (closed_shorthand.map Definition.operation).onExecutable
  · exact closed_keywordDefinition hasDescription _
  · exact GivesNoExecutable.throw.closed

/-- A definition with a description is read by the token after it. -/
theorem definition_of_string {t : Token} (h : (stringLiteral? (some t)).isSome = true) (u : Token)
    (rest : List Token) (ending : Option LexicalError) :
    definition ⟨t :: u :: rest, ending⟩
      = definitionFrom true (some u) ⟨t :: u :: rest, ending⟩ := by
  rw [definition, bind_of_ok (peek_apply _), List.head?_cons, h]
  rfl

/-- A definition without a description is read by its first token. -/
theorem definition_of_no_string {t : Token} (h : (stringLiteral? (some t)).isSome = false)
    (rest : List Token) (ending : Option LexicalError) :
    definition ⟨t :: rest, ending⟩ = definitionFrom false (some t) ⟨t :: rest, ending⟩ := by
  rw [definition, bind_of_ok (peek_apply _), List.head?_cons, h]
  rfl

theorem closed_definition : IsClosedOnExecutable definition := by
  rintro ⟨tokens, ending⟩ s' d hd hexecutable
  cases tokens with
  | nil => cases hd
  | cons t tokens =>
    cases hstring : (stringLiteral? (some t)).isSome with
    | false =>
      rw [definition_of_no_string hstring] at hd
      obtain ⟨hlength, hextends⟩ := closed_definitionFrom _ _ _ _ _ hd hexecutable
      exact ⟨hlength, fun more => (definition_of_no_string hstring _ _).trans (hextends more)⟩
    | true =>
      cases tokens with
      | nil =>
        rw [definition, bind_of_ok (peek_apply _), List.head?_cons, hstring] at hd
        obtain ⟨ahead, u, hahead, hd⟩ := exists_of_bind hd
        obtain ⟨v, hv, he⟩ := map_eq_ok.1 hahead
        obtain ⟨rfl, -⟩ := Prod.mk.inj he
        obtain ⟨rfl, -⟩ := eq_of_reach hv
        cases hd
      | cons u rest =>
        rw [definition_of_string hstring] at hd
        obtain ⟨hlength, hextends⟩ := closed_definitionFrom _ _ _ _ _ hd hexecutable
        exact ⟨hlength, fun more => (definition_of_string hstring _ _ _).trans (hextends more)⟩

/-! ## Documents -/

/-- Tokens that are definitions one after another, each of which is read without a look at the
next. -/
inductive Consecutive : List Token → List Definition → Prop
  | nil : Consecutive [] []
  | cons {tokens tokens' : List Token} {d : Definition} {ds : List Definition} :
      Closes definition ⟨tokens, none⟩ d ⟨tokens', none⟩ → Consecutive tokens' ds →
        Consecutive tokens (d :: ds)

theorem Consecutive.append {tokens tokens' : List Token} {ds ds' : List Definition}
    (h : Consecutive tokens ds) (h' : Consecutive tokens' ds') :
    Consecutive (tokens ++ tokens') (ds ++ ds') := by
  induction h with
  | nil => exact h'
  | @cons tokens rest d ds hd _ ih =>
    obtain ⟨hlength, hextends⟩ := hd
    refine .cons ⟨?_, fun more => ?_⟩ ih
    · show (rest ++ tokens').length < (tokens ++ tokens').length
      have hlength : rest.length < tokens.length := hlength
      simp only [List.length_append]
      omega
    · show definition ⟨tokens ++ tokens' ++ more, none⟩ = .ok (d, ⟨rest ++ tokens' ++ more, none⟩)
      rw [List.append_assoc, List.append_assoc]
      exact hextends (tokens' ++ more)

theorem Consecutive.length_le {tokens : List Token} {ds : List Definition}
    (h : Consecutive tokens ds) : ds.length ≤ tokens.length := by
  induction h with
  | nil => exact Nat.le_refl 0
  | cons hd _ ih => exact Nat.lt_of_le_of_lt ih hd.1

/-- Definitions that are collected are consecutive if they are executable. -/
theorem consecutive_of_collectWithin {bound : List Token} {s s' : TokenStream}
    {ds : List Definition} (h : collectWithin nextDefinition bound s = .ok (ds, s'))
    (hexecutable : ∀ d ∈ ds, d.isExecutable = true) : Consecutive s.tokens ds := by
  induction bound generalizing s ds with
  | nil =>
    obtain ⟨d?, t, hd, h⟩ := exists_of_bind h
    cases d? with
    | none =>
      obtain ⟨rfl, rfl⟩ := Prod.mk.inj (Except.ok.inj h)
      rw [(tokens_of_nextDefinition hd).1]
      exact .nil
    | some d => cases h
  | cons b bound ih =>
    obtain ⟨d?, t, hd, h⟩ := exists_of_bind h
    cases d? with
    | none =>
      obtain ⟨rfl, rfl⟩ := Prod.mk.inj (Except.ok.inj h)
      rw [(tokens_of_nextDefinition hd).1]
      exact .nil
    | some d =>
      obtain ⟨ds, u, hds, h⟩ := exists_of_bind h
      obtain ⟨rfl, rfl⟩ := Prod.mk.inj (Except.ok.inj h)
      obtain ⟨hdexecutable, hexecutable⟩ := List.forall_mem_cons.1 hexecutable
      have hcloses := closed_definition _ _ _ (definition_of_nextDefinition hd) hdexecutable
      exact .cons hcloses (ih hds hexecutable)

theorem consecutive_of_document {s s' : TokenStream} {d : Document}
    (h : document s = .ok (d, s')) (hexecutable : ∀ e ∈ d.definitions, e.isExecutable = true) :
    d.definitions ≠ [] ∧ Consecutive s.tokens d.definitions := by
  obtain ⟨first, t, hfirst, h⟩ := exists_of_bind h
  obtain ⟨more, u, hmore, h⟩ := exists_of_bind h
  obtain ⟨rfl, rfl⟩ := Prod.mk.inj (Except.ok.inj h)
  obtain ⟨hfirstexecutable, hexecutable⟩ := List.forall_mem_cons.1 hexecutable
  have hcloses := closed_definition _ _ _ hfirst hfirstexecutable
  exact ⟨List.cons_ne_nil _ _, .cons hcloses (consecutive_of_collectWithin hmore hexecutable)⟩

theorem nextDefinition_of_ok {s s' : TokenStream} {d : Definition} (hne : s.tokens ≠ [])
    (h : definition s = .ok (d, s')) : nextDefinition s = .ok (some d, s') := by
  obtain ⟨t, tokens, ht⟩ := List.exists_cons_of_ne_nil hne
  rw [nextDefinition, bind_of_ok (peek_apply _), ht, List.head?_cons]
  exact bind_of_ok h

theorem Consecutive.collectWithin {tokens : List Token} {ds : List Definition}
    (h : Consecutive tokens ds) (bound : List Token) (hbound : ds.length ≤ bound.length) :
    collectWithin nextDefinition bound ⟨tokens, none⟩ = .ok (ds, ⟨[], none⟩) := by
  induction h generalizing bound with
  | nil => cases bound <;> rfl
  | @cons tokens rest d ds hd _ ih =>
    obtain ⟨b, bound, rfl⟩ := List.exists_cons_of_length_pos (Nat.zero_lt_of_lt hbound)
    have hread : definition ⟨tokens, none⟩ = .ok (d, ⟨rest, none⟩) := by
      have hextends := hd.2 []
      rwa [List.append_nil, List.append_nil] at hextends
    have hne : tokens ≠ [] := List.length_pos_iff.1 (Nat.zero_lt_of_lt hd.1)
    refine (bind_of_ok (nextDefinition_of_ok hne hread)).trans ?_
    exact bind_of_ok (ih bound (Nat.le_of_succ_le_succ hbound))

theorem Consecutive.document {tokens : List Token} {ds : List Definition}
    (h : Consecutive tokens ds) (hne : ds ≠ []) :
    Parser.document ⟨tokens, none⟩ = .ok (⟨ds⟩, ⟨[], none⟩) := by
  cases h with
  | nil => exact absurd rfl hne
  | @cons tokens rest d ds hd hds =>
    have hread : definition ⟨tokens, none⟩ = .ok (d, ⟨rest, none⟩) := by
      have hextends := hd.2 []
      rwa [List.append_nil, List.append_nil] at hextends
    have hcollect : collect nextDefinition ⟨rest, none⟩ = .ok (ds, ⟨[], none⟩) :=
      hds.collectWithin rest hds.length_le
    exact (bind_of_ok hread).trans (bind_of_ok hcollect)

end PersistedDocument.GraphQL.Parser
