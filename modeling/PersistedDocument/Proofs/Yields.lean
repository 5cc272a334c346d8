import PersistedDocument.Proofs.Readable

/-!
# Proofs: what parsers yield

A parser that runs on tokens cut from a text gives trees that are readable, and leaves tokens cut
from a text. There is one lemma for each way to put parsers together, and from these one for each
part of the grammar of executable documents.
-/

namespace PersistedDocument.GraphQL.Parser

variable {α β : Type} {p : Parser α} {P Q : α → Prop} {R : β → Prop}

/-- A stream of tokens that are cut from a text up to the given ending, and that are not used up
unless they reach the end of the text. -/
structure IsCut (ending : Option LexicalError) (s : TokenStream) : Prop where
  /-- Every token is one that a text is cut into. -/
  lexed : ∀ t ∈ s.tokens, t.IsLexed
  /-- Why there are no more. -/
  ending_eq : s.ending = ending
  /-- The place where the text cannot be cut is never reached. -/
  reached : s.tokens = [] → ending = none

/-- From tokens cut from a text, a parser gives only results of one kind and leaves tokens cut from
the same text. -/
def Yields (p : Parser α) (P : α → Prop) : Prop :=
  ∀ (ending : Option LexicalError) (s s' : TokenStream) (a : α), IsCut ending s →
    p s = .ok (a, s') → P a ∧ IsCut ending s'

/-! ## Putting parsers together -/

/-- Parsers one after the other give a result only if each of them does. -/
theorem exists_of_bind {f : α → Parser β} {s : TokenStream} {r : β × TokenStream}
    (h : (p >>= f) s = .ok r) : ∃ a t, p s = .ok (a, t) ∧ f a t = .ok r := by
  obtain ⟨⟨a, t⟩, ha, hb⟩ := bind_eq_ok.1 h
  exact ⟨a, t, ha, hb⟩

theorem Yields.pure {a : α} (h : P a) : Yields (pure a) P := by
  intro ending s s' b hs hb
  obtain ⟨rfl, rfl⟩ := Prod.mk.inj (Except.ok.inj hb)
  exact ⟨h, hs⟩

theorem Yields.throw {e : SyntaxError} : Yields (throw e : Parser α) P := by
  intro ending s s' a _ ha
  cases ha

theorem Yields.bind {f : α → Parser β} (hp : Yields p P) (hf : ∀ a, P a → Yields (f a) R) :
    Yields (p >>= f) R := by
  intro ending s s' b hs hb
  obtain ⟨a, t, ha, hb⟩ := exists_of_bind hb
  obtain ⟨haP, ht⟩ := hp _ _ _ _ hs ha
  exact hf a haP _ _ _ _ ht hb

theorem Yields.mono (hp : Yields p P) (hPQ : ∀ a, P a → Q a) : Yields p Q := by
  intro ending s s' a hs ha
  obtain ⟨haP, hs'⟩ := hp _ _ _ _ hs ha
  exact ⟨hPQ a haP, hs'⟩

theorem Yields.ite {c : Prop} [Decidable c] {q : Parser α} (hp : c → Yields p P)
    (hq : ¬c → Yields q P) : Yields (if c then p else q) P := by
  split
  · exact hp ‹_›
  · exact hq ‹_›

/-! ## Single steps -/

theorem yields_peek : Yields peek fun next => ∀ t ∈ next, t.IsLexed := by
  intro ending s s' next hs hnext
  obtain ⟨rfl, rfl⟩ := Prod.mk.inj (Except.ok.inj hnext)
  exact ⟨fun t ht => hs.lexed t (List.mem_of_mem_head? ht), hs⟩

/-- A place in a stream that is reached is the same place, and not where its text cannot be cut. -/
theorem eq_of_reach {s s' : TokenStream} (h : reach s = .ok s') :
    s' = s ∧ (s.tokens = [] → s.ending = none) := by
  obtain ⟨tokens, ending⟩ := s
  unfold reach at h
  split at h
  · cases h
  · next hplace =>
    obtain rfl := Except.ok.inj h
    refine ⟨rfl, fun hnil => ?_⟩
    cases ending with
    | none => rfl
    | some e => exact absurd rfl (hplace e hnil)

theorem isCut_of_reach {s s' : TokenStream} (h : reach s = .ok s')
    (hlexed : ∀ t ∈ s.tokens, t.IsLexed) : IsCut s.ending s' := by
  obtain ⟨rfl, hreached⟩ := eq_of_reach h
  exact ⟨hlexed, rfl, hreached⟩

theorem yields_advance : Yields advance fun _ => True := by
  intro ending s s' a hs ha
  obtain ⟨t, ht, he⟩ := map_eq_ok.1 ha
  obtain ⟨-, rfl⟩ := Prod.mk.inj he
  obtain rfl := hs.ending_eq
  have hcut := isCut_of_reach ht fun u hu => hs.lexed u (List.mem_of_mem_tail hu)
  exact ⟨trivial, hcut⟩

theorem yields_lookahead : Yields lookahead fun _ => True := by
  intro ending s s' a hs ha
  obtain ⟨t, -, he⟩ := map_eq_ok.1 ha
  obtain ⟨-, rfl⟩ := Prod.mk.inj he
  exact ⟨trivial, hs⟩

theorem yields_accept (q : Punctuator) : Yields (accept q) fun _ => True :=
  yields_peek.bind fun _ _ => Yields.ite
    (fun _ => yields_advance.bind fun _ _ => Yields.pure trivial) fun _ => Yields.pure trivial

theorem yields_expect (q : Punctuator) : Yields (expect q) fun _ => True := by
  refine (yields_accept q).bind fun found _ => Yields.ite (fun _ => ?_) fun _ => ?_
  · exact Yields.pure trivial
  · exact yields_peek.bind fun _ _ => Yields.throw

theorem yields_acceptKeyword (k : String) : Yields (acceptKeyword k) fun _ => True :=
  yields_peek.bind fun _ _ => Yields.ite
    (fun _ => yields_advance.bind fun _ _ => Yields.pure trivial) fun _ => Yields.pure trivial

theorem yields_expectKeyword (k : String) : Yields (expectKeyword k) fun _ => True := by
  refine (yields_acceptKeyword k).bind fun found _ => Yields.ite (fun _ => ?_) fun _ => ?_
  · exact Yields.pure trivial
  · exact yields_peek.bind fun _ _ => Yields.throw

theorem yields_name : Yields name IsName := by
  refine yields_peek.bind fun next hnext => ?_
  split
  · next n => exact yields_advance.bind fun _ _ => Yields.pure (hnext _ rfl)
  · exact Yields.throw

/-! ## Lists of items -/

theorem yields_collectWithin {step : Parser (Option α)} (h : Yields step fun a? => ∀ a ∈ a?, P a)
    (bound : List Token) : Yields (collectWithin step bound) fun as => ∀ a ∈ as, P a := by
  induction bound with
  | nil =>
    refine h.bind fun a? ha => ?_
    cases a? with
    | none => exact Yields.pure nofun
    | some a => exact Yields.throw
  | cons t bound ih =>
    refine h.bind fun a? ha => ?_
    cases a? with
    | none => exact Yields.pure nofun
    | some a => exact ih.bind fun as has => Yields.pure (List.forall_mem_cons.2 ⟨ha a rfl, has⟩)

theorem yields_collect {step : Parser (Option α)} (h : Yields step fun a? => ∀ a ∈ a?, P a) :
    Yields (collect step) fun as => ∀ a ∈ as, P a := by
  intro ending s s' as hs has
  exact yields_collectWithin h s.tokens _ _ _ _ hs has

theorem yields_itemsUntil (h : Yields p P) (closing : Punctuator) :
    Yields (itemsUntil p closing) fun as => ∀ a ∈ as, P a :=
  yields_collect ((yields_accept closing).bind fun _ _ => Yields.ite
    (fun _ => Yields.pure nofun) fun _ => h.bind fun a ha => Yields.pure (by simpa using ha))

theorem yields_anyBetween (opening : Punctuator) (h : Yields p P) (closing : Punctuator) :
    Yields (anyBetween opening p closing) fun as => ∀ a ∈ as, P a :=
  (yields_expect opening).bind fun _ _ => yields_itemsUntil h closing

theorem yields_first_itemsUntil (h : Yields p P) (closing : Punctuator) :
    Yields (do return (← p) :: (← itemsUntil p closing) : Parser (List α))
      fun as => as ≠ [] ∧ ∀ a ∈ as, P a :=
  h.bind fun _ ha => (yields_itemsUntil h closing).bind fun _ has =>
    Yields.pure ⟨List.cons_ne_nil _ _, List.forall_mem_cons.2 ⟨ha, has⟩⟩

theorem yields_someBetween (opening : Punctuator) (h : Yields p P) (closing : Punctuator) :
    Yields (someBetween opening p closing) fun as => as ≠ [] ∧ ∀ a ∈ as, P a :=
  (yields_expect opening).bind fun _ _ => yields_first_itemsUntil h closing

theorem yields_optionallyBetween (opening : Punctuator) (h : Yields p P) (closing : Punctuator) :
    Yields (optionallyBetween opening p closing) fun as => ∀ a ∈ as, P a :=
  (yields_accept opening).bind fun _ _ => Yields.ite
    (fun _ => (yields_first_itemsUntil h closing).mono fun _ has => has.2)
    fun _ => Yields.pure nofun

/-! ## Values, arguments, directives and types -/

theorem yields_variableName : Yields variableName IsName :=
  (yields_expect .dollar).bind fun _ _ => yields_name

theorem yields_variableInConstant {P : Value → Prop} : Yields variableInConstant P := by
  refine (yields_expect .dollar).bind fun _ _ => yields_peek.bind fun next _ => ?_
  split
  · exact Yields.throw
  · exact Yields.throw

theorem isReadable_namedValue {isConst : Bool} {room : Nat} {n : String} (h : IsName n) :
    (namedValue n).IsReadable isConst room := by
  rw [namedValue]
  split
  · rw [Value.IsReadable]
    trivial
  split
  · rw [Value.IsReadable]
    trivial
  split
  · rw [Value.IsReadable]
    trivial
  · next htrue hfalse hnull =>
    rw [Value.IsReadable]
    exact ⟨h, htrue, hfalse, hnull⟩

/-- A value, given that lists and objects are read well. -/
theorem yields_valueWith {isConst : Bool} {room : Nat} {list object : Parser Value}
    (hlist : Yields list (·.IsReadable isConst room))
    (hobject : Yields object (·.IsReadable isConst room)) :
    Yields (valueWith isConst list object) (·.IsReadable isConst room) := by
  refine yields_peek.bind fun next hnext => ?_
  split
  · exact hlist
  · exact hobject
  · refine Yields.ite (fun _ => yields_variableInConstant) fun hconst => ?_
    refine yields_variableName.bind fun n hn => Yields.pure ?_
    rw [Value.IsReadable]
    exact ⟨by simpa using hconst, hn⟩
  · next t =>
    refine yields_advance.bind fun _ _ => Yields.pure ?_
    rw [Value.IsReadable]
    exact hnext _ rfl
  · next t =>
    refine yields_advance.bind fun _ _ => Yields.pure ?_
    rw [Value.IsReadable]
    exact hnext _ rfl
  · next t =>
    refine yields_advance.bind fun _ _ => Yields.pure ?_
    rw [Value.IsReadable]
    exact hnext _ rfl
  · next t =>
    refine yields_advance.bind fun _ _ => Yields.pure ?_
    rw [Value.IsReadable]
    exact hnext _ rfl
  · next n => exact yields_advance.bind fun _ _ => Yields.pure (isReadable_namedValue (hnext _ rfl))
  · exact Yields.throw

theorem yields_value (isConst : Bool) (room : Nat) :
    Yields (value isConst room) (·.IsReadable isConst room) := by
  induction room with
  | zero => exact yields_valueWith Yields.throw Yields.throw
  | succ room ih =>
    have hfield : Yields (objectField (value isConst room))
        fun f => IsName f.1 ∧ f.2.IsReadable isConst room :=
      yields_name.bind fun n hn => (yields_expect .colon).bind fun _ _ =>
        ih.bind fun v hv => Yields.pure ⟨hn, hv⟩
    refine yields_valueWith ?_ ?_
    · refine (yields_anyBetween .bracketOpen ih .bracketClose).bind fun items hitems =>
        Yields.pure ?_
      rw [Value.IsReadable]
      exact hitems
    · refine (yields_anyBetween .braceOpen hfield .braceClose).bind fun fields hfields =>
        Yields.pure ?_
      rw [Value.IsReadable]
      exact hfields

theorem yields_argument (isConst : Bool) (room : Nat) :
    Yields (argument isConst room) (·.IsReadable isConst room) :=
  yields_name.bind fun _ hn => (yields_expect .colon).bind fun _ _ =>
    (yields_value isConst room).bind fun _ hv => Yields.pure ⟨hn, hv⟩

theorem yields_arguments (isConst : Bool) (room : Nat) :
    Yields (arguments isConst room) fun as => ∀ a ∈ as, a.IsReadable isConst room :=
  yields_optionallyBetween .parenOpen (yields_argument isConst room) .parenClose

theorem yields_directive (isConst : Bool) (room : Nat) :
    Yields (directive isConst room) (·.IsReadable isConst room) :=
  (yields_expect .atSign).bind fun _ _ => yields_name.bind fun _ hn =>
    (yields_arguments isConst room).bind fun _ has => Yields.pure ⟨hn, has⟩

theorem yields_directives (isConst : Bool) (room : Nat) :
    Yields (directives isConst room) fun ds => ∀ d ∈ ds, d.IsReadable isConst room :=
  yields_collect (yields_peek.bind fun _ _ => Yields.ite
    (fun _ => (yields_directive isConst room).bind fun _ hd => Yields.pure (by simpa using hd))
    fun _ => Yields.pure nofun)

theorem yields_typeReferenceWith {room : Nat} {item : Parser TypeReference}
    (h : Yields item fun t => ∀ isRequired, (TypeReference.list t isRequired).IsReadable room) :
    Yields (typeReferenceWith item) (·.IsReadable room) := by
  refine (yields_accept .bracketOpen).bind fun _ _ => Yields.ite (fun _ => ?_) fun _ => ?_
  · exact h.bind fun t ht => (yields_expect .bracketClose).bind fun _ _ =>
      (yields_accept .bang).bind fun isRequired _ => Yields.pure (ht isRequired)
  · refine yields_name.bind fun n hn => (yields_accept .bang).bind fun isRequired _ =>
      Yields.pure ?_
    rw [TypeReference.IsReadable]
    exact hn

theorem yields_typeReference (room : Nat) :
    Yields (typeReference room) (·.IsReadable room) := by
  induction room with
  | zero => exact yields_typeReferenceWith Yields.throw
  | succ room ih =>
    refine yields_typeReferenceWith (ih.mono fun t ht isRequired => ?_)
    rw [TypeReference.IsReadable]
    exact ht

theorem eq_token_of_stringLiteral? {next : Option Token} {literal : StringLiteral}
    (h : stringLiteral? next = some literal) : next = some literal.token := by
  unfold stringLiteral? at h
  split at h
  · obtain rfl := Option.some.inj h
    rfl
  · obtain rfl := Option.some.inj h
    rfl
  · cases h

theorem yields_description? :
    Yields description? fun literal? => ∀ literal ∈ literal?, literal.token.IsLexed := by
  refine yields_peek.bind fun next hnext => ?_
  split
  · next literal hliteral =>
    have hlexed := hnext _ (eq_token_of_stringLiteral? hliteral)
    exact yields_advance.bind fun _ _ => Yields.pure (by simpa using hlexed)
  · exact Yields.pure nofun

/-! ## Selections -/

/-- A name that is read is the next token. -/
theorem head?_of_name {s s' : TokenStream} {n : String} (h : name s = .ok (n, s')) :
    s.tokens.head? = some (.name n) := by
  rw [name] at h
  obtain ⟨next, t, hnext, h⟩ := exists_of_bind h
  obtain ⟨rfl, rfl⟩ := Prod.mk.inj (Except.ok.inj hnext)
  cases hhead : s.tokens.head? with
  | none =>
    rw [hhead] at h
    cases h
  | some t =>
    rw [hhead] at h
    cases t with
    | name m =>
      obtain ⟨_, t, -, h⟩ := exists_of_bind h
      obtain ⟨rfl, -⟩ := Prod.mk.inj (Except.ok.inj h)
      rfl
    | _ => cases h

theorem yields_fragmentName : Yields fragmentName fun n => IsName n ∧ n ≠ "on" := by
  intro ending s s' n hs h
  rw [fragmentName] at h
  obtain ⟨next, t, hnext, h⟩ := exists_of_bind h
  obtain ⟨rfl, rfl⟩ := Prod.mk.inj (Except.ok.inj hnext)
  have hname : name s = .ok (n, s') ∧ s.tokens.head? ≠ some (.name "on") := by
    cases hhead : s.tokens.head? with
    | none =>
      rw [hhead] at h
      exact ⟨h, nofun⟩
    | some t =>
      rw [hhead] at h
      dsimp only at h
      split at h
      · cases h
      · next htext =>
        refine ⟨h, ?_⟩
        rintro ⟨⟩
        exact htext rfl
  obtain ⟨hn, hs'⟩ := yields_name _ _ _ _ hs hname.1
  refine ⟨⟨hn, ?_⟩, hs'⟩
  rintro rfl
  exact hname.2 (head?_of_name hname.1)

/-- A field, given that the selections in it are read well. -/
theorem yields_field {nested : Parser (List Selection)} {readable : List Selection → Prop}
    (hnested : Yields nested readable) (room : Nat) :
    Yields (field nested room) (·.IsReadable readable room) := by
  refine yields_name.bind fun first hfirst => (yields_accept .colon).bind fun renamed _ => ?_
  have halias : ∀ a ∈ if renamed then some first else none, IsName a := by
    cases renamed with
    | true => exact fun a ha => Option.some.inj ha ▸ hfirst
    | false => exact nofun
  have hfield (n : String) (hn : IsName n) : Yields (do
      let args ← arguments false room
      let dirs ← directives false room
      let next ← peek
      let make := fun selections =>
        Selection.field (if renamed then some first else none) n args dirs selections
      if next = some (Token.punctuator .braceOpen) then do return make (← nested)
        else return make (← Pure.pure []))
      (·.IsReadable readable room) := by
    refine (yields_arguments false room).bind fun args hargs =>
      (yields_directives false room).bind fun dirs hdirs => yields_peek.bind fun next _ =>
        Yields.ite (fun _ => hnested.bind fun ss hss => Yields.pure ?_) fun _ => Yields.pure ?_
    · rw [Selection.IsReadable]
      exact ⟨halias, hn, hargs, hdirs, Or.inr hss⟩
    · rw [Selection.IsReadable]
      exact ⟨halias, hn, hargs, hdirs, Or.inl rfl⟩
  exact Yields.ite (fun _ => yields_name.bind hfield) fun _ => hfield first hfirst

/-- What follows a spread, given that selections in it are read well. -/
theorem yields_fragmentSelection {nested : Parser (List Selection)}
    {readable : List Selection → Prop} (hnested : Yields nested readable) (room : Nat) :
    Yields (fragmentSelection nested room) (·.IsReadable readable room) := by
  have hinline (type? : Option String) (htype : ∀ t ∈ type?, IsName t) : Yields (do
      let dirs ← directives false room
      return Selection.inline type? dirs (← nested)) (·.IsReadable readable room) := by
    refine (yields_directives false room).bind fun dirs hdirs => hnested.bind fun ss hss =>
      Yields.pure ?_
    rw [Selection.IsReadable]
    exact ⟨htype, hdirs, hss⟩
  refine (yields_expect .spread).bind fun _ _ => (yields_acceptKeyword "on").bind fun _ _ =>
    Yields.ite (fun _ => ?_) fun _ => yields_peek.bind fun next _ => ?_
  · exact yields_name.bind fun t ht => hinline (some t) (by simpa using ht)
  · split
    · refine yields_fragmentName.bind fun n hn => (yields_directives false room).bind
        fun dirs hdirs => Yields.pure ?_
      rw [Selection.IsReadable]
      exact ⟨hn.1, hn.2, hdirs⟩
    · exact hinline none fun t ht => absurd ht (Option.not_mem_none t)

theorem yields_selection {nested : Parser (List Selection)} {readable : List Selection → Prop}
    (hnested : Yields nested readable) (room : Nat) :
    Yields (selection nested room) (·.IsReadable readable room) :=
  yields_peek.bind fun _ _ => Yields.ite (fun _ => yields_fragmentSelection hnested room)
    fun _ => yields_field hnested room

theorem yields_selectionSet (room : Nat) : Yields (selectionSet room) (AreReadable room) := by
  induction room with
  | zero => exact Yields.throw
  | succ room ih => exact yields_someBetween .braceOpen (yields_selection ih room) .braceClose

/-! ## Operations and fragments -/

theorem yields_operationKind : Yields operationKind fun _ => True := by
  refine yields_name.bind fun n _ => ?_
  split
  · exact Yields.pure trivial
  · exact Yields.throw

theorem yields_default? :
    Yields default? fun default => ∀ d ∈ default, d.IsReadable true maximalNesting :=
  (yields_accept .equals).bind fun _ _ => Yields.ite
    (fun _ => (yields_value true maximalNesting).bind fun _ hv => Yields.pure (by simpa using hv))
    fun _ => Yields.pure nofun

theorem yields_variableDefinition : Yields variableDefinition (·.IsReadable) :=
  yields_description?.bind fun _ hdescription => yields_variableName.bind fun _ hn =>
    (yields_expect .colon).bind fun _ _ => (yields_typeReference maximalNesting).bind
      fun _ htype => yields_default?.bind fun _ hdefault =>
        (yields_directives true maximalNesting).bind fun _ hdirs =>
          Yields.pure ⟨hdescription, hn, htype, hdefault, hdirs⟩

theorem yields_shorthand : Yields shorthand (·.IsReadable) :=
  (yields_selectionSet maximalNesting).bind fun _ hss =>
    Yields.pure ⟨nofun, nofun, nofun, nofun, hss⟩

theorem yields_operation : Yields operation (·.IsReadable) := by
  refine yields_description?.bind fun description hdescription =>
    yields_operationKind.bind fun kind _ => yields_peek.bind fun next hnext => ?_
  have htail (n : Option String) (hn : ∀ m ∈ n, IsName m) : Yields (do
      let declared ← optionallyBetween .parenOpen variableDefinition .parenClose
      let dirs ← directives false maximalNesting
      return Operation.mk description kind n declared dirs (← selectionSet maximalNesting))
      (·.IsReadable) :=
    (yields_optionallyBetween .parenOpen yields_variableDefinition .parenClose).bind
      fun _ hdeclared => (yields_directives false maximalNesting).bind fun _ hdirs =>
        (yields_selectionSet maximalNesting).bind fun _ hss =>
          Yields.pure ⟨hdescription, hn, hdeclared, hdirs, hss⟩
  split
  · next n => exact yields_advance.bind fun _ _ => htail (some n) fun _ hm =>
      Option.some.inj hm ▸ hnext (.name n) rfl
  · exact htail none nofun

theorem yields_fragment : Yields fragment (·.IsReadable) :=
  yields_description?.bind fun _ hdescription => (yields_expectKeyword "fragment").bind fun _ _ =>
    yields_fragmentName.bind fun _ hn => (yields_expectKeyword "on").bind fun _ _ =>
      yields_name.bind fun _ htype => (yields_directives false maximalNesting).bind
        fun _ hdirs => (yields_selectionSet maximalNesting).bind fun _ hss =>
          Yields.pure ⟨hdescription, hn.1, hn.2, htype, hdirs, hss⟩

/-! ## Type systems

Nothing is asked of the parts of a type system; that their parsers leave tokens cut from a text is
what the definitions after them need. -/

theorem yields_separatedBy (separator : Punctuator) (h : Yields p P) :
    Yields (separatedBy separator p) fun as => ∀ a ∈ as, P a :=
  (yields_accept separator).bind fun _ _ => h.bind fun _ ha =>
    (yields_collect ((yields_accept separator).bind fun _ _ => Yields.ite
      (fun _ => h.bind fun _ hb => Yields.pure (by simpa using hb))
      fun _ => Yields.pure nofun)).bind fun _ has =>
        Yields.pure (List.forall_mem_cons.2 ⟨ha, has⟩)

theorem yields_constDirectives : Yields constDirectives fun _ => True :=
  (yields_directives true maximalNesting).mono fun _ _ => trivial

theorem yields_inputValue : Yields inputValue fun _ => True :=
  yields_description?.bind fun _ _ => yields_name.bind fun _ _ =>
    (yields_expect .colon).bind fun _ _ => (yields_typeReference maximalNesting).bind fun _ _ =>
      yields_default?.bind fun _ _ => yields_constDirectives.bind fun _ _ => Yields.pure trivial

theorem yields_parameters : Yields parameters fun _ => True :=
  (yields_optionallyBetween .parenOpen yields_inputValue .parenClose).mono fun _ _ => trivial

theorem yields_fieldDefinition : Yields fieldDefinition fun _ => True :=
  yields_description?.bind fun _ _ => yields_name.bind fun _ _ => yields_parameters.bind fun _ _ =>
    (yields_expect .colon).bind fun _ _ => (yields_typeReference maximalNesting).bind fun _ _ =>
      yields_constDirectives.bind fun _ _ => Yields.pure trivial

theorem yields_interfaces : Yields interfaces fun _ => True :=
  (yields_acceptKeyword "implements").bind fun _ _ => Yields.ite
    (fun _ => (yields_separatedBy .ampersand yields_name).mono fun _ _ => trivial)
    fun _ => Yields.pure trivial

theorem yields_members : Yields members fun _ => True :=
  (yields_accept .equals).bind fun _ _ => Yields.ite
    (fun _ => (yields_separatedBy .pipe yields_name).mono fun _ _ => trivial)
    fun _ => Yields.pure trivial

theorem yields_enumValueName : Yields enumValueName IsName := by
  refine yields_peek.bind fun next _ => ?_
  split
  · exact Yields.ite (fun _ => Yields.throw) fun _ => yields_name
  · exact yields_name

theorem yields_enumValue : Yields enumValue fun _ => True :=
  yields_description?.bind fun _ _ => yields_enumValueName.bind fun _ _ =>
    yields_constDirectives.bind fun _ _ => Yields.pure trivial

theorem yields_rootType : Yields rootType fun _ => True :=
  yields_operationKind.bind fun _ _ => (yields_expect .colon).bind fun _ _ =>
    yields_name.bind fun _ _ => Yields.pure trivial

theorem yields_rootTypes (role : Role) : Yields (rootTypes role) fun _ => True := by
  cases role with
  | definition =>
    exact (yields_someBetween .braceOpen yields_rootType .braceClose).mono fun _ _ => trivial
  | extension =>
    exact (yields_optionallyBetween .braceOpen yields_rootType .braceClose).mono fun _ _ => trivial

theorem yields_requireContent (role : Role) (isEmpty : Bool) :
    Yields (requireContent role isEmpty) fun _ => True :=
  Yields.ite (fun _ => yields_peek.bind fun _ _ => Yields.throw) fun _ => Yields.pure trivial

theorem yields_fieldsItem (role : Role)
    (make : String → List String → List Directive → List FieldDefinition → TypeSystemItem) :
    Yields (fieldsItem role make) fun _ => True :=
  yields_name.bind fun _ _ => yields_interfaces.bind fun _ _ =>
    yields_constDirectives.bind fun _ _ =>
      (yields_optionallyBetween .braceOpen yields_fieldDefinition .braceClose).bind fun _ _ =>
        (yields_requireContent role _).bind fun _ _ => Yields.pure trivial

theorem yields_itemBody (role : Role) (k : String) :
    ∀ body ∈ itemBody role k, Yields body fun _ => True := by
  intro body hbody
  unfold itemBody at hbody
  split at hbody <;> cases hbody
  · exact yields_constDirectives.bind fun _ _ => (yields_rootTypes role).bind fun _ _ =>
      (yields_requireContent role _).bind fun _ _ => Yields.pure trivial
  · exact yields_name.bind fun _ _ => yields_constDirectives.bind fun _ _ =>
      (yields_requireContent role _).bind fun _ _ => Yields.pure trivial
  · exact yields_fieldsItem role .object
  · exact yields_fieldsItem role .interface
  · exact yields_name.bind fun _ _ => yields_constDirectives.bind fun _ _ =>
      yields_members.bind fun _ _ => (yields_requireContent role _).bind fun _ _ =>
        Yields.pure trivial
  · exact yields_name.bind fun _ _ => yields_constDirectives.bind fun _ _ =>
      (yields_optionallyBetween .braceOpen yields_enumValue .braceClose).bind fun _ _ =>
        (yields_requireContent role _).bind fun _ _ => Yields.pure trivial
  · exact yields_name.bind fun _ _ => yields_constDirectives.bind fun _ _ =>
      (yields_optionallyBetween .braceOpen yields_inputValue .braceClose).bind fun _ _ =>
        (yields_requireContent role _).bind fun _ _ => Yields.pure trivial

theorem yields_directiveLocation : Yields directiveLocation fun _ => True :=
  yields_name.bind fun _ _ => Yields.ite (fun _ => Yields.pure trivial) fun _ => Yields.throw

theorem yields_directiveDefinition (description : Option StringLiteral) :
    Yields (directiveDefinition description) fun _ => True :=
  (yields_expect .atSign).bind fun _ _ => yields_name.bind fun _ _ =>
    yields_parameters.bind fun _ _ => (yields_acceptKeyword "repeatable").bind fun _ _ =>
      (yields_expectKeyword "on").bind fun _ _ =>
        (yields_separatedBy .pipe yields_directiveLocation).bind fun _ _ => Yields.pure trivial

theorem yields_extension : Yields extension fun _ => True := by
  refine yields_peek.bind fun next _ => ?_
  split
  · split
    · next body hbody =>
      exact yields_advance.bind fun _ _ => yields_itemBody .extension _ body hbody
    · exact Yields.throw
  · exact Yields.throw

/-! ## Documents -/

theorem yields_keywordDefinition (hasDescription : Bool) (k : String) :
    Yields (keywordDefinition hasDescription k) (·.IsReadable) := by
  refine Yields.ite (fun _ => ?_) fun _ => ?_
  · exact yields_description?.bind fun _ _ => yields_advance.bind fun _ _ =>
      (yields_directiveDefinition _).bind fun _ _ => Yields.pure trivial
  split
  · next body hbody =>
    exact yields_description?.bind fun _ _ => yields_advance.bind fun _ _ =>
      (yields_itemBody .definition k body hbody).bind fun _ _ => Yields.pure trivial
  refine Yields.ite (fun _ => yields_operation.bind fun _ ho => Yields.pure ho) fun _ => ?_
  refine Yields.ite (fun _ => yields_fragment.bind fun _ hf => Yields.pure hf) fun _ => ?_
  refine Yields.ite (fun _ => Yields.throw) fun _ => Yields.ite (fun _ => ?_) fun _ => Yields.throw
  exact yields_advance.bind fun _ _ => yields_extension.bind fun _ _ => Yields.pure trivial

theorem yields_definition : Yields definition (·.IsReadable) := by
  refine yields_peek.bind fun next _ => Yields.ite
    (fun _ => yields_lookahead.bind fun ahead _ => ?_)
    fun _ => Yields.bind (Yields.pure trivial) fun found (_ : True) => ?_
  all_goals
    dsimp only
    split
    · refine Yields.ite (fun _ => Yields.throw) fun _ => yields_shorthand.bind fun o ho => ?_
      exact Yields.pure ho
    · exact yields_keywordDefinition _ _
    · exact Yields.throw

theorem yields_document :
    Yields document fun d => d.definitions ≠ [] ∧ ∀ e ∈ d.definitions, e.IsReadable := by
  refine yields_definition.bind fun first hfirst => ?_
  refine (yields_collect (yields_peek.bind fun next _ => ?_)).bind fun more hmore =>
    Yields.pure ⟨List.cons_ne_nil _ _, List.forall_mem_cons.2 ⟨hfirst, hmore⟩⟩
  split
  · exact Yields.pure nofun
  · exact yields_definition.bind fun d hd => Yields.pure (by simpa using hd)

/-- What is collected ends with a step that gives nothing. -/
theorem exists_last_of_collectWithin {step : Parser (Option α)} {bound : List Token}
    {s s' : TokenStream} {as : List α} (h : collectWithin step bound s = .ok (as, s')) :
    ∃ t, step t = .ok (none, s') := by
  induction bound generalizing s as with
  | nil =>
    obtain ⟨a?, t, ha, h⟩ := exists_of_bind h
    cases a? with
    | none =>
      obtain ⟨-, rfl⟩ := Prod.mk.inj (Except.ok.inj h)
      exact ⟨s, ha⟩
    | some a => cases h
  | cons b bound ih =>
    obtain ⟨a?, t, ha, h⟩ := exists_of_bind h
    cases a? with
    | none =>
      obtain ⟨-, rfl⟩ := Prod.mk.inj (Except.ok.inj h)
      exact ⟨s, ha⟩
    | some a =>
      obtain ⟨more, u, hmore, h⟩ := exists_of_bind h
      obtain ⟨-, rfl⟩ := Prod.mk.inj (Except.ok.inj h)
      exact ih hmore

/-- The next definition of a document, unless there are no more tokens. -/
def nextDefinition : Parser (Option Definition) := do
  match ← peek with
  | none => return none
  | some _ => return some (← definition)

theorem tokens_of_nextDefinition {s s' : TokenStream} (h : nextDefinition s = .ok (none, s')) :
    s.tokens = [] ∧ s' = s := by
  obtain ⟨next, t, hnext, h⟩ := exists_of_bind h
  obtain ⟨rfl, rfl⟩ := Prod.mk.inj (Except.ok.inj hnext)
  cases hhead : s.tokens.head? with
  | none =>
    rw [hhead] at h
    obtain ⟨-, rfl⟩ := Prod.mk.inj (Except.ok.inj h)
    exact ⟨List.head?_eq_none_iff.1 hhead, rfl⟩
  | some t =>
    rw [hhead] at h
    obtain ⟨d, t, -, h⟩ := exists_of_bind h
    cases h

theorem definition_of_nextDefinition {s s' : TokenStream} {d : Definition}
    (h : nextDefinition s = .ok (some d, s')) : definition s = .ok (d, s') := by
  obtain ⟨next, t, hnext, h⟩ := exists_of_bind h
  obtain ⟨rfl, rfl⟩ := Prod.mk.inj (Except.ok.inj hnext)
  cases hhead : s.tokens.head? with
  | none =>
    rw [hhead] at h
    cases h
  | some t =>
    rw [hhead] at h
    obtain ⟨e, u, he, h⟩ := exists_of_bind h
    obtain ⟨hsome, rfl⟩ := Prod.mk.inj (Except.ok.inj h)
    obtain rfl := Option.some.inj hsome
    exact he

/-- A document goes up to where there are no more tokens. -/
theorem tokens_eq_nil_of_document {s s' : TokenStream} {d : Document}
    (h : document s = .ok (d, s')) : s'.tokens = [] := by
  obtain ⟨first, t, -, h⟩ := exists_of_bind h
  obtain ⟨more, u, hmore, h⟩ := exists_of_bind h
  obtain ⟨-, rfl⟩ := Prod.mk.inj (Except.ok.inj h)
  have hmore : collectWithin nextDefinition t.tokens t = .ok (more, u) := hmore
  obtain ⟨v, hlast⟩ := exists_last_of_collectWithin hmore
  obtain ⟨hnil, rfl⟩ := tokens_of_nextDefinition hlast
  exact hnil

theorem exists_document_of_parse {text : String} {d : Document}
    (h : Document.parse text = .ok d) :
    ∃ start s, IsCut (lex text).2 start ∧ start.tokens = (lex text).1
      ∧ document start = .ok (d, s) := by
  obtain ⟨start, hstart, h⟩ := bind_eq_ok.1 h
  obtain ⟨⟨d', s⟩, hd, h⟩ := bind_eq_ok.1 h
  obtain rfl := Except.ok.inj h
  have hcut := isCut_of_reach hstart fun t ht => isLexed_of_mem_lexCharacters ht
  exact ⟨start, s, hcut, by rw [(eq_of_reach hstart).1]; rfl, hd⟩

/-- A document that is read from a text has a definition, and its executable definitions are
readable. -/
theorem isReadable_of_parse {text : String} {d : Document} (h : Document.parse text = .ok d) :
    d.definitions ≠ [] ∧ ∀ e ∈ d.definitions, e.IsReadable := by
  obtain ⟨start, s, hcut, -, hd⟩ := exists_document_of_parse h
  exact (yields_document _ _ _ _ hcut hd).1

/-- A text that is read as a document is cut into tokens up to its end, and these are what is
read. -/
theorem document_of_parse {text : String} {d : Document} (h : Document.parse text = .ok d) :
    lex text = ((lex text).1, none)
      ∧ document ⟨(lex text).1, none⟩ = .ok (d, ⟨[], none⟩) := by
  obtain ⟨⟨tokens, ending⟩, ⟨tokens', ending'⟩, hcut, htokens, hd⟩ := exists_document_of_parse h
  have htokens : tokens = (lex text).1 := htokens
  have hnil : tokens' = [] := tokens_eq_nil_of_document hd
  have hleft := (yields_document _ _ _ _ hcut hd).2
  have hnone : (lex text).2 = none := hleft.reached hnil
  have hending : ending = none := hcut.ending_eq.trans hnone
  have hending' : ending' = none := hleft.ending_eq.trans hnone
  rw [hending, hending', hnil, htokens] at hd
  exact ⟨Prod.ext rfl hnone, hd⟩

end PersistedDocument.GraphQL.Parser
