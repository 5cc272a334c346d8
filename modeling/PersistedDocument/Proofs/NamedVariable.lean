import Mathlib.Logic.Relation
import PersistedDocument.Configuration

/-!
# Proofs: the environment variable that a directive names

A directive may repeat an argument, and an object a field. Of the arguments for the access token the
first one counts, whatever its value is, and so does the first field for the environment variable in
its object. That field names a variable if its value is a literal with a text. The relations below
say so without a search, and what a search finds is what they say.

So nothing is changed by arguments and fields of other names, wherever they stand, or by repetitions
of the ones that count, whatever they hold; and what the first one lacks, no repetition supplies.
-/

namespace PersistedDocument

open GraphQL

variable {α β : Type}

/-! ## First elements and insertions -/

/-- An element of a list is the first one there with a property. -/
def IsFirst (p : α → Prop) (x : α) (xs : List α) : Prop :=
  p x ∧ ∃ before after, xs = before ++ x :: after ∧ ∀ y ∈ before, ¬ p y

/-- The second list is the first one with an element inserted: anywhere one without the property,
and behind an element with the property any other. -/
inductive Inserts (p : α → Prop) : List α → List α → Prop
  /-- The element has not got the property. -/
  | other {before after : List α} {x : α} (hx : ¬ p x) :
    Inserts p (before ++ after) (before ++ x :: after)
  /-- An element before it has the property. -/
  | repetition {before after : List α} {x y : α} (hy : y ∈ before) (hp : p y) :
    Inserts p (before ++ after) (before ++ x :: after)

section

variable {p : α → Prop} [DecidablePred p]

theorem find?_eq_some_iff_isFirst {xs : List α} {x : α} :
    xs.find? (p ·) = some x ↔ IsFirst p x xs := by
  simp [List.find?_eq_some_iff_append, IsFirst]

/-- What a search gives is what the first element with the property gives. -/
theorem find?_bind_eq_some_iff {xs : List α} {g : α → Option β} {b : β} :
    (xs.find? (p ·)).bind g = some b ↔ ∃ x, IsFirst p x xs ∧ g x = some b := by
  simp only [Option.bind_eq_some_iff, find?_eq_some_iff_isFirst]

/-- A search gives nothing if no element has the property, or if the first one gives nothing. -/
theorem find?_bind_eq_none_iff {xs : List α} {g : α → Option β} :
    (xs.find? (p ·)).bind g = none
      ↔ (∀ x ∈ xs, ¬ p x) ∨ ∃ x, IsFirst p x xs ∧ g x = none := by
  constructor
  · intro h
    cases hfound : xs.find? (p ·) with
    | none => exact Or.inl (by simpa using hfound)
    | some x =>
      rw [hfound] at h
      exact Or.inr ⟨x, find?_eq_some_iff_isFirst.1 hfound, h⟩
  · rintro (hnone | ⟨x, hx, hg⟩)
    · rw [List.find?_eq_none.2 (by simpa using hnone)]
      rfl
    · rw [find?_eq_some_iff_isFirst.2 hx]
      exact hg

theorem Inserts.find?_eq {xs ys : List α} (h : Inserts p xs ys) :
    ys.find? (p ·) = xs.find? (p ·) := by
  cases h with
  | other hx =>
    rw [List.find?_append, List.find?_append, List.find?_cons_of_neg (by simpa using hx)]
  | repetition hy hp =>
    have hfound : (List.find? (p ·) _).isSome = true :=
      List.find?_isSome.2 ⟨_, hy, decide_eq_true hp⟩
    rw [List.find?_append, List.find?_append, Option.or_of_isSome hfound,
      Option.or_of_isSome hfound]

/-- An element may be replaced by another one that is found as it is and gives the same. -/
theorem find?_bind_replace {before after : List α} {x y : α} {g : α → Option β} (hp : p y ↔ p x)
    (hg : g y = g x) :
    ((before ++ y :: after).find? (p ·)).bind g = ((before ++ x :: after).find? (p ·)).bind g := by
  rw [List.find?_append, List.find?_append]
  cases before.find? (p ·) with
  | some z => rfl
  | none =>
    rw [Option.none_or, Option.none_or, List.find?_cons, List.find?_cons, decide_eq_decide.2 hp]
    cases decide (p x) with
    | true => exact hg
    | false => rfl

end

/-! ## What is named -/

/-- A literal with a text: what a string of either kind stands for, and how a number or an
enumeration value is written. -/
inductive GraphQL.Value.HasText (s : String) : Value → Prop
  | quoted : HasText s (.string ⟨s, false⟩)
  | block : HasText s (.string ⟨s, true⟩)
  | int : HasText s (.int s)
  | float : HasText s (.float s)
  | enum : HasText s (.enum s)

/-- A value without a text. -/
inductive GraphQL.Value.HasNoText : Value → Prop
  | variable (name : String) : HasNoText (.variable name)
  | boolean (value : Bool) : HasNoText (.boolean value)
  | null : HasNoText .null
  | list (items : List Value) : HasNoText (.list items)
  | object (fields : List (String × Value)) : HasNoText (.object fields)

/-- An object names the environment variable whose name is the text of the first field for it. -/
inductive GraphQL.Value.Names (s : String) : Value → Prop
  | intro {fields : List (String × Value)} {f : String × Value}
    (hf : IsFirst (·.1 = environmentVariableField) f fields) (htext : f.2.HasText s) :
    Names s (.object fields)

/-- A value names no environment variable. -/
inductive GraphQL.Value.NamesNothing : Value → Prop
  /-- It is not an object. -/
  | noObject {v : Value} (hv : ∀ fields, v ≠ .object fields) : NamesNothing v
  /-- It has no field for one. -/
  | noField {fields : List (String × Value)} (h : ∀ f ∈ fields, f.1 ≠ environmentVariableField) :
    NamesNothing (.object fields)
  /-- The first field for one has no text. -/
  | noText {fields : List (String × Value)} {f : String × Value}
    (hf : IsFirst (·.1 = environmentVariableField) f fields) (htext : f.2.HasNoText) :
    NamesNothing (.object fields)

/-- A directive names the environment variable that its first argument for the access token does. -/
inductive GraphQL.Directive.Names (s : String) (d : Directive) : Prop
  | intro {a : Argument} (ha : IsFirst (·.name = accessTokenArgument) a d.arguments)
    (hnames : a.value.Names s)

/-- A directive names no environment variable. -/
inductive GraphQL.Directive.NamesNothing (d : Directive) : Prop
  /-- It has no argument for the access token. -/
  | noArgument (h : ∀ a ∈ d.arguments, a.name ≠ accessTokenArgument)
  /-- The first argument for it names none. -/
  | argument {a : Argument} (ha : IsFirst (·.name = accessTokenArgument) a d.arguments)
    (hnothing : a.value.NamesNothing)

/-- The environment variable that an argument with this value names. -/
def GraphQL.Value.environmentVariable? (v : Value) : Option String := do
  let fields ← v.fields?
  let field ← fields.find? (·.1 = environmentVariableField)
  field.2.literalText?

theorem environmentVariable?_eq_bind (d : Directive) :
    d.environmentVariable? = (d.arguments.find? (·.name = accessTokenArgument)).bind
      fun a => a.value.environmentVariable? := rfl

theorem environmentVariable?_object (fields : List (String × Value)) :
    (Value.object fields).environmentVariable?
      = (fields.find? (·.1 = environmentVariableField)).bind fun f => f.2.literalText? := rfl

theorem literalText?_eq_some_iff {v : Value} {s : String} :
    v.literalText? = some s ↔ v.HasText s := by
  constructor
  · intro h
    cases v with
    | string literal =>
      obtain ⟨value, isBlock⟩ := literal
      cases h
      cases isBlock with
      | false => exact .quoted
      | true => exact .block
    | int t => cases h; exact .int
    | float t => cases h; exact .float
    | enum t => cases h; exact .enum
    | «variable» _ | boolean _ | null | list _ | object _ => cases h
  · rintro (_ | _ | _ | _ | _) <;> rfl

theorem literalText?_eq_none_iff {v : Value} : v.literalText? = none ↔ v.HasNoText := by
  constructor
  · intro h
    cases v with
    | string _ | int _ | float _ | enum _ => cases h
    | «variable» name => exact .variable name
    | boolean value => exact .boolean value
    | null => exact .null
    | list items => exact .list items
    | object fields => exact .object fields
  · rintro (_ | _ | _ | _ | _) <;> rfl

theorem environmentVariable?_of_noObject {v : Value} (hv : ∀ fields, v ≠ .object fields) :
    v.environmentVariable? = none := by
  cases v with
  | object fields => exact absurd rfl (hv fields)
  | _ => rfl

/-- A value names the variable that is found in it. -/
theorem GraphQL.Value.environmentVariable?_eq_some_iff {v : Value} {s : String} :
    v.environmentVariable? = some s ↔ v.Names s := by
  constructor
  · intro h
    cases v with
    | object fields =>
      rw [environmentVariable?_object, find?_bind_eq_some_iff] at h
      obtain ⟨f, hf, htext⟩ := h
      exact .intro hf (literalText?_eq_some_iff.1 htext)
    | _ => cases h
  · rintro ⟨hf, htext⟩
    rw [environmentVariable?_object, find?_bind_eq_some_iff]
    exact ⟨_, hf, literalText?_eq_some_iff.2 htext⟩

/-- A value names nothing if no variable is found in it. -/
theorem GraphQL.Value.environmentVariable?_eq_none_iff {v : Value} :
    v.environmentVariable? = none ↔ v.NamesNothing := by
  constructor
  · intro h
    cases v with
    | object fields =>
      rw [environmentVariable?_object, find?_bind_eq_none_iff] at h
      rcases h with hnone | ⟨f, hf, htext⟩
      · exact .noField hnone
      · exact .noText hf (literalText?_eq_none_iff.1 htext)
    | _ => exact .noObject nofun
  · rintro (hv | hnone | ⟨hf, htext⟩)
    · exact environmentVariable?_of_noObject hv
    · rw [environmentVariable?_object, find?_bind_eq_none_iff]
      exact Or.inl hnone
    · rw [environmentVariable?_object, find?_bind_eq_none_iff]
      exact Or.inr ⟨_, hf, literalText?_eq_none_iff.2 htext⟩

/-- A directive names the variable that is found in it. -/
theorem GraphQL.Directive.environmentVariable?_eq_some_iff {d : Directive} {s : String} :
    d.environmentVariable? = some s ↔ d.Names s := by
  rw [environmentVariable?_eq_bind, find?_bind_eq_some_iff]
  constructor
  · rintro ⟨a, ha, hnames⟩
    exact .intro ha (Value.environmentVariable?_eq_some_iff.1 hnames)
  · rintro ⟨ha, hnames⟩
    exact ⟨_, ha, Value.environmentVariable?_eq_some_iff.2 hnames⟩

/-- A directive names nothing if no variable is found in it. -/
theorem GraphQL.Directive.environmentVariable?_eq_none_iff {d : Directive} :
    d.environmentVariable? = none ↔ d.NamesNothing := by
  rw [environmentVariable?_eq_bind, find?_bind_eq_none_iff]
  constructor
  · rintro (hnone | ⟨a, ha, hnothing⟩)
    · exact .noArgument hnone
    · exact .argument ha (Value.environmentVariable?_eq_none_iff.1 hnothing)
  · rintro (hnone | ⟨ha, hnothing⟩)
    · exact Or.inl hnone
    · exact Or.inr ⟨_, ha, Value.environmentVariable?_eq_none_iff.2 hnothing⟩

/-! ## What changes nothing -/

/-- The second value is the first one with a field inserted, at any depth. -/
inductive GraphQL.Value.InsertsField : Value → Value → Prop
  /-- Into the fields of an object. -/
  | here {fields fields' : List (String × Value)}
    (h : Inserts (·.1 = environmentVariableField) fields fields') :
    InsertsField (.object fields) (.object fields')
  /-- Into the value of a field. -/
  | field {before after : List (String × Value)} {n : String} {v v' : Value}
    (h : v.InsertsField v') :
    InsertsField (.object (before ++ (n, v) :: after)) (.object (before ++ (n, v') :: after))
  /-- Into an item of a list. -/
  | item {before after : List Value} {v v' : Value} (h : v.InsertsField v') :
    InsertsField (.list (before ++ v :: after)) (.list (before ++ v' :: after))

/-- The second directive is the first one with an argument inserted, or with a field inserted into
the value of an argument. -/
inductive GraphQL.Directive.InsertsOne : Directive → Directive → Prop
  /-- Among the arguments. -/
  | argument {n : String} {arguments arguments' : List Argument}
    (h : Inserts (·.name = accessTokenArgument) arguments arguments') :
    InsertsOne ⟨n, arguments⟩ ⟨n, arguments'⟩
  /-- In the value of an argument. -/
  | field {n parameter : String} {before after : List Argument} {v v' : Value}
    (h : v.InsertsField v') :
    InsertsOne ⟨n, before ++ ⟨parameter, v⟩ :: after⟩ ⟨n, before ++ ⟨parameter, v'⟩ :: after⟩

theorem GraphQL.Value.InsertsField.literalText?_eq {v v' : Value} (h : v.InsertsField v') :
    v'.literalText? = v.literalText? := by
  cases h with
  | here | field | item => rfl

theorem GraphQL.Value.InsertsField.environmentVariable?_eq {v v' : Value}
    (h : v.InsertsField v') : v'.environmentVariable? = v.environmentVariable? := by
  cases h with
  | here h => rw [environmentVariable?_object, environmentVariable?_object, h.find?_eq]
  -- Only an object or a list holds fields deeper down, and neither has a text before or after.
  | field h => exact find?_bind_replace Iff.rfl h.literalText?_eq
  | item h => rfl

/-- One insertion does not change what a directive names. -/
theorem GraphQL.Directive.InsertsOne.environmentVariable?_eq {d d' : Directive}
    (h : d.InsertsOne d') : d'.environmentVariable? = d.environmentVariable? := by
  rw [environmentVariable?_eq_bind, environmentVariable?_eq_bind]
  cases h with
  | argument h => rw [h.find?_eq]
  | field h => exact find?_bind_replace Iff.rfl h.environmentVariable?_eq

/-- Any number of insertions does not change what a directive names. -/
theorem environmentVariable?_of_insertions {d d' : Directive}
    (h : Relation.ReflTransGen Directive.InsertsOne d d') :
    d'.environmentVariable? = d.environmentVariable? := by
  induction h with
  | refl => rfl
  | tail _ hstep ih => exact hstep.environmentVariable?_eq.trans ih

/-! ## What is not made up for -/

theorem GraphQL.Value.namesNothing_of_not_names {v : Value} (h : ∀ s, ¬ v.Names s) :
    v.NamesNothing := by
  rw [← Value.environmentVariable?_eq_none_iff, Option.eq_none_iff_forall_ne_some]
  intro s hs
  exact h s (Value.environmentVariable?_eq_some_iff.1 hs)

theorem GraphQL.Value.hasNoText_of_not_hasText {v : Value} (h : ∀ s, ¬ v.HasText s) :
    v.HasNoText := by
  rw [← literalText?_eq_none_iff, Option.eq_none_iff_forall_ne_some]
  intro s hs
  exact h s (literalText?_eq_some_iff.1 hs)

/-- The first argument for the access token and the first field for the environment variable in its
object decide what a directive names: it is the text of that field, and nothing if one of the two is
missing or has a value of another kind. Insertions do not change it. If the first argument names
nothing, or the first field has no text, a repetition of the argument or the field does not make up
for it. -/
theorem first_occurrences_decide (d : Directive) :
    (∀ s, d.environmentVariable? = some s ↔ d.Names s) ∧
    (d.environmentVariable? = none ↔ d.NamesNothing) ∧
    (∀ d', Relation.ReflTransGen Directive.InsertsOne d d' →
      d'.environmentVariable? = d.environmentVariable?) ∧
    (∀ a, IsFirst (·.name = accessTokenArgument) a d.arguments → (∀ s, ¬ a.value.Names s) →
      d.environmentVariable? = none) ∧
    ∀ a fields f, IsFirst (·.name = accessTokenArgument) a d.arguments →
      a.value = .object fields → IsFirst (·.1 = environmentVariableField) f fields →
      (∀ s, ¬ f.2.HasText s) → d.environmentVariable? = none := by
  refine ⟨fun s => Directive.environmentVariable?_eq_some_iff,
    Directive.environmentVariable?_eq_none_iff, fun d' => environmentVariable?_of_insertions,
    fun a ha hnames => ?_, fun a fields f ha hfields hf htext => ?_⟩
  · exact Directive.environmentVariable?_eq_none_iff.2
      (.argument ha (Value.namesNothing_of_not_names hnames))
  · have hnothing : a.value.NamesNothing := by
      rw [hfields]
      exact .noText hf (Value.hasNoText_of_not_hasText htext)
    exact Directive.environmentVariable?_eq_none_iff.2 (.argument ha hnothing)

/-- A field that names the variable with the empty name. -/
def emptyNameField : String × Value := (environmentVariableField, .string ⟨"", true⟩)

/-- An argument that names a variable. -/
def namingArgument : Argument :=
  ⟨accessTokenArgument, .object [(environmentVariableField, .enum "T")]⟩

/-- A configuration directive with a first argument for the access token, and with others. -/
def configuredBy (before : List Argument) (value : Value) (after : List Argument) : Directive :=
  ⟨configurationDirective, before ++ ⟨accessTokenArgument, value⟩ :: after⟩

/-- Four insertions around the empty name: of an argument and a field of other names before it, and
of repetitions of both behind it. -/
theorem insertions_emptyNameField :
    Relation.ReflTransGen Directive.InsertsOne (configuredBy [] (.object [emptyNameField]) [])
      (configuredBy [⟨"label", .null⟩]
        (.object [("scope", .enum "ALL"), emptyNameField, (environmentVariableField, .null)])
        [namingArgument]) := by
  have hscope : Inserts (·.1 = environmentVariableField) [emptyNameField]
      [("scope", .enum "ALL"), emptyNameField] :=
    @Inserts.other _ _ [] [emptyNameField] _ (by decide)
  have hrepeated : Inserts (·.1 = environmentVariableField)
      [("scope", .enum "ALL"), emptyNameField]
      [("scope", .enum "ALL"), emptyNameField, (environmentVariableField, .null)] :=
    @Inserts.repetition _ (·.1 = environmentVariableField) [("scope", .enum "ALL"), emptyNameField]
      [] _ emptyNameField (.tail _ (.head _)) rfl
  have hlabel (a : Argument) : Inserts (·.name = accessTokenArgument) [a] [⟨"label", .null⟩, a] :=
    @Inserts.other _ _ [] [a] _ (by decide)
  have hsecond (a b : Argument) (hb : b.name = accessTokenArgument) :
      Inserts (·.name = accessTokenArgument) [a, b] [a, b, namingArgument] :=
    @Inserts.repetition _ _ [a, b] [] _ b (.tail _ (.head _)) hb
  refine .head (@Directive.InsertsOne.field _ _ [] [] _ _ (.here hscope)) ?_
  refine .head (@Directive.InsertsOne.field _ _ [] [] _ _ (.here hrepeated)) ?_
  refine .head (.argument (hlabel _)) ?_
  exact .single (.argument (hsecond _ _ rfl))

/-- A block string without a text names a variable all the same, whatever is around it; an argument
without an object names none, and a null field neither, though repetitions of them do. -/
theorem first_occurrences_decide_repeated :
    (configuredBy [⟨"label", .null⟩]
      (.object [("scope", .enum "ALL"), emptyNameField, (environmentVariableField, .null)])
      [namingArgument]).environmentVariable? = some "" ∧
    (configuredBy [] (.list []) [namingArgument]).environmentVariable? = none ∧
    (configuredBy [] (.object [(environmentVariableField, .null), emptyNameField])
      [namingArgument]).environmentVariable? = none := by
  have hfirst (value : Value) : IsFirst (·.name = accessTokenArgument) ⟨accessTokenArgument, value⟩
      (configuredBy [] value [namingArgument]).arguments :=
    ⟨rfl, [], [namingArgument], rfl, nofun⟩
  refine ⟨?_, ?_, ?_⟩
  · obtain ⟨hnames, -, hinsertions, -⟩ :=
      first_occurrences_decide (configuredBy [] (.object [emptyNameField]) [])
    rw [hinsertions _ insertions_emptyNameField, hnames]
    exact .intro ⟨rfl, [], [], rfl, nofun⟩ (.intro ⟨rfl, [], [], rfl, nofun⟩ .block)
  · obtain ⟨-, -, -, hargument, -⟩ :=
      first_occurrences_decide (configuredBy [] (.list []) [namingArgument])
    exact hargument _ (hfirst _) nofun
  · obtain ⟨-, -, -, -, hfield⟩ := first_occurrences_decide
      (configuredBy [] (.object [(environmentVariableField, .null), emptyNameField])
        [namingArgument])
    exact hfield _ _ _ (hfirst _) rfl ⟨rfl, [], [emptyNameField], rfl, nofun⟩ nofun

end PersistedDocument
