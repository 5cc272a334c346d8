import PersistedDocument.Configuration

/-!
# Proofs: where variables are mentioned

A variable is mentioned in a document where it is declared, where it is an argument, and at any
depth inside a list or an object. The relations below say so one place at a time, without collecting
anything, and what is collected in a document are exactly the variables that they say are mentioned.

In the same way `IsVisitedAs` says what a visit leaves of a definition without taking anything off:
a variable that occurs only in a directive that is taken off is not mentioned in what is left.
-/

namespace PersistedDocument

namespace GraphQL

/-! ## Where a variable is mentioned -/

/-- A variable is mentioned in a value. -/
inductive Value.Mentions (x : String) : Value → Prop
  /-- The value is the variable. -/
  | itself : Mentions x (.variable x)
  /-- In an item of a list. -/
  | item {items : List Value} {v : Value} (hv : v ∈ items) (h : v.Mentions x) :
    Mentions x (.list items)
  /-- In the value of a field of an object. -/
  | field {fields : List (String × Value)} {f : String × Value} (hf : f ∈ fields)
    (h : f.2.Mentions x) : Mentions x (.object fields)

/-- A variable is mentioned in an argument of a directive. -/
def Directive.Mentions (x : String) (d : Directive) : Prop := ∃ a ∈ d.arguments, a.value.Mentions x

/-- A variable is mentioned in a selection. -/
inductive Selection.Mentions (x : String) : Selection → Prop
  /-- In an argument of a field. -/
  | argument {alias? : Option String} {n : String} {arguments : List Argument}
    {dirs : List Directive} {selections : List Selection} {a : Argument} (ha : a ∈ arguments)
    (h : a.value.Mentions x) : Mentions x (.field alias? n arguments dirs selections)
  /-- In a directive of a field. -/
  | fieldDirective {alias? : Option String} {n : String} {arguments : List Argument}
    {dirs : List Directive} {selections : List Selection} {d : Directive} (hd : d ∈ dirs)
    (h : d.Mentions x) : Mentions x (.field alias? n arguments dirs selections)
  /-- In what is selected of a field. -/
  | fieldSelection {alias? : Option String} {n : String} {arguments : List Argument}
    {dirs : List Directive} {selections : List Selection} {s : Selection} (hs : s ∈ selections)
    (h : s.Mentions x) : Mentions x (.field alias? n arguments dirs selections)
  /-- In a directive of a spread. -/
  | spreadDirective {n : String} {dirs : List Directive} {d : Directive} (hd : d ∈ dirs)
    (h : d.Mentions x) : Mentions x (.spread n dirs)
  /-- In a directive of selections in place. -/
  | inlineDirective {type? : Option String} {dirs : List Directive} {selections : List Selection}
    {d : Directive} (hd : d ∈ dirs) (h : d.Mentions x) : Mentions x (.inline type? dirs selections)
  /-- In one of the selections in place. -/
  | inlineSelection {type? : Option String} {dirs : List Directive} {selections : List Selection}
    {s : Selection} (hs : s ∈ selections) (h : s.Mentions x) :
    Mentions x (.inline type? dirs selections)

/-- A variable is mentioned in the declaration of one. -/
inductive VariableDefinition.Mentions (x : String) (v : VariableDefinition) : Prop
  /-- It is the one that is declared. -/
  | declared (h : v.name = x)
  /-- In the default value. -/
  | default {d : Value} (hd : d ∈ v.default?) (h : d.Mentions x)
  /-- In a directive. -/
  | directive {d : Directive} (hd : d ∈ v.directives) (h : d.Mentions x)

/-- A variable is mentioned in an operation. -/
inductive Operation.Mentions (x : String) (o : Operation) : Prop
  /-- In the declaration of a variable. -/
  | declared {v : VariableDefinition} (hv : v ∈ o.declared) (h : v.Mentions x)
  /-- In a directive on the operation. -/
  | directive {d : Directive} (hd : d ∈ o.directives) (h : d.Mentions x)
  /-- In a selection. -/
  | selection {s : Selection} (hs : s ∈ o.selections) (h : s.Mentions x)

/-- A variable is mentioned in a fragment. -/
inductive Fragment.Mentions (x : String) (f : Fragment) : Prop
  /-- In a directive on the fragment. -/
  | directive {d : Directive} (hd : d ∈ f.directives) (h : d.Mentions x)
  /-- In a selection. -/
  | selection {s : Selection} (hs : s ∈ f.selections) (h : s.Mentions x)

/-- A variable is mentioned in a parameter or an input field. -/
inductive InputValue.Mentions (x : String) (v : InputValue) : Prop
  /-- In the default value. -/
  | default {d : Value} (hd : d ∈ v.default?) (h : d.Mentions x)
  /-- In a directive. -/
  | directive {d : Directive} (hd : d ∈ v.directives) (h : d.Mentions x)

/-- A variable is mentioned in the definition of a field. -/
inductive FieldDefinition.Mentions (x : String) (f : FieldDefinition) : Prop
  /-- In a parameter. -/
  | parameter {p : InputValue} (hp : p ∈ f.parameters) (h : p.Mentions x)
  /-- In a directive. -/
  | directive {d : Directive} (hd : d ∈ f.directives) (h : d.Mentions x)

/-- The directives on an item of a type system itself. -/
def TypeSystemItem.directives : TypeSystemItem → List Directive
  | .schema dirs _ | .scalar _ dirs | .object _ _ dirs _ | .interface _ _ dirs _ | .union _ dirs _
  | .enum _ dirs _ | .input _ dirs _ => dirs

/-- A variable is mentioned in an item of a type system. -/
inductive TypeSystemItem.Mentions (x : String) : TypeSystemItem → Prop
  /-- In a directive on the item. -/
  | directive {i : TypeSystemItem} {d : Directive} (hd : d ∈ i.directives) (h : d.Mentions x) :
    Mentions x i
  /-- In a field of an object type. -/
  | objectField {n : String} {interfaces : List String} {dirs : List Directive}
    {fields : List FieldDefinition} {f : FieldDefinition} (hf : f ∈ fields) (h : f.Mentions x) :
    Mentions x (.object n interfaces dirs fields)
  /-- In a field of an interface type. -/
  | interfaceField {n : String} {interfaces : List String} {dirs : List Directive}
    {fields : List FieldDefinition} {f : FieldDefinition} (hf : f ∈ fields) (h : f.Mentions x) :
    Mentions x (.interface n interfaces dirs fields)
  /-- In a directive on a value of an enumeration. -/
  | enumValue {n : String} {dirs : List Directive} {values : List EnumValue} {v : EnumValue}
    {d : Directive} (hv : v ∈ values) (hd : d ∈ v.directives) (h : d.Mentions x) :
    Mentions x (.enum n dirs values)
  /-- In a field of an input type. -/
  | inputField {n : String} {dirs : List Directive} {fields : List InputValue} {v : InputValue}
    (hv : v ∈ fields) (h : v.Mentions x) : Mentions x (.input n dirs fields)

/-- A variable is mentioned in a definition. -/
inductive Definition.Mentions (x : String) : Definition → Prop
  | operation {o : Operation} (h : o.Mentions x) : Mentions x (.operation o)
  | fragment {f : Fragment} (h : f.Mentions x) : Mentions x (.fragment f)
  | typeSystem {description : Option StringLiteral} {i : TypeSystemItem} (h : i.Mentions x) :
    Mentions x (.typeSystem description i)
  | directive {d : DirectiveDefinition} {p : InputValue} (hp : p ∈ d.parameters)
    (h : p.Mentions x) : Mentions x (.directive d)
  | extension {i : TypeSystemItem} (h : i.Mentions x) : Mentions x (.extension i)

/-- A variable is mentioned in a document. -/
def Document.Mentions (x : String) (document : Document) : Prop :=
  ∃ d ∈ document.definitions, d.Mentions x

/-! ## What is collected is what is mentioned -/

variable {x : String}

mutual

/-- The variables that are collected in a value are those mentioned in it. -/
theorem Value.mem_variableNames : (v : Value) → (x ∈ v.variableNames ↔ v.Mentions x)
  | .variable n => by
    rw [Value.variableNames, List.mem_singleton]
    constructor
    · rintro rfl
      exact .itself
    · rintro ⟨⟩
      rfl
  | .list items => by
    rw [Value.variableNames, Value.mem_variableNamesOfItems items]
    constructor
    · rintro ⟨v, hv, h⟩
      exact .item hv h
    · rintro (_ | ⟨hv, h⟩)
      exact ⟨_, hv, h⟩
  | .object fields => by
    rw [Value.variableNames, Value.mem_variableNamesOfFields fields]
    constructor
    · rintro ⟨f, hf, h⟩
      exact .field hf h
    · rintro (_ | _ | ⟨hf, h⟩)
      exact ⟨_, hf, h⟩
  | .int _ | .float _ | .string _ | .boolean _ | .null | .enum _ => by
    constructor
    · intro h
      cases h
    · rintro ⟨⟩

theorem Value.mem_variableNamesOfItems :
    (items : List Value) → (x ∈ Value.variableNamesOfItems items ↔ ∃ v ∈ items, v.Mentions x)
  | [] => by simp [Value.variableNamesOfItems]
  | v :: vs => by
    rw [Value.variableNamesOfItems, List.mem_append, Value.mem_variableNames v,
      Value.mem_variableNamesOfItems vs]
    simp

theorem Value.mem_variableNamesOfFields : (fields : List (String × Value)) →
    (x ∈ Value.variableNamesOfFields fields ↔ ∃ f ∈ fields, f.2.Mentions x)
  | [] => by simp [Value.variableNamesOfFields]
  | (n, v) :: fields => by
    rw [Value.variableNamesOfFields, List.mem_append, Value.mem_variableNames v,
      Value.mem_variableNamesOfFields fields]
    simp

end

theorem mem_variableNames_arguments {arguments : List Argument} :
    x ∈ arguments.flatMap (·.value.variableNames) ↔ ∃ a ∈ arguments, a.value.Mentions x := by
  simp only [List.mem_flatMap, Value.mem_variableNames]

theorem Directive.mem_variableNames {d : Directive} : x ∈ d.variableNames ↔ d.Mentions x :=
  mem_variableNames_arguments

theorem mem_variableNames_directives {ds : List Directive} :
    x ∈ ds.flatMap Directive.variableNames ↔ ∃ d ∈ ds, d.Mentions x := by
  simp only [List.mem_flatMap, Directive.mem_variableNames]

mutual

/-- The variables that are collected in a selection are those mentioned in it. -/
theorem Selection.mem_variableNames : (s : Selection) → (x ∈ s.variableNames ↔ s.Mentions x)
  | .field alias? n arguments dirs selections => by
    rw [Selection.variableNames, List.mem_append, List.mem_append, mem_variableNames_arguments,
      mem_variableNames_directives, Selection.mem_variableNamesOfAll selections]
    constructor
    · rintro ((⟨a, ha, h⟩ | ⟨d, hd, h⟩) | ⟨s, hs, h⟩)
      · exact .argument ha h
      · exact .fieldDirective hd h
      · exact .fieldSelection hs h
    · intro h
      cases h with
      | argument ha h => exact Or.inl (Or.inl ⟨_, ha, h⟩)
      | fieldDirective hd h => exact Or.inl (Or.inr ⟨_, hd, h⟩)
      | fieldSelection hs h => exact Or.inr ⟨_, hs, h⟩
  | .spread n dirs => by
    rw [Selection.variableNames, mem_variableNames_directives]
    constructor
    · rintro ⟨d, hd, h⟩
      exact .spreadDirective hd h
    · intro h
      cases h with
      | spreadDirective hd h => exact ⟨_, hd, h⟩
  | .inline type? dirs selections => by
    rw [Selection.variableNames, List.mem_append, mem_variableNames_directives,
      Selection.mem_variableNamesOfAll selections]
    constructor
    · rintro (⟨d, hd, h⟩ | ⟨s, hs, h⟩)
      · exact .inlineDirective hd h
      · exact .inlineSelection hs h
    · intro h
      cases h with
      | inlineDirective hd h => exact Or.inl ⟨_, hd, h⟩
      | inlineSelection hs h => exact Or.inr ⟨_, hs, h⟩

theorem Selection.mem_variableNamesOfAll : (selections : List Selection) →
    (x ∈ Selection.variableNamesOfAll selections ↔ ∃ s ∈ selections, s.Mentions x)
  | [] => by simp [Selection.variableNamesOfAll]
  | s :: ss => by
    rw [Selection.variableNamesOfAll, List.mem_append, Selection.mem_variableNames s,
      Selection.mem_variableNamesOfAll ss]
    simp

end

/-- A value that may be there and directives beside it. -/
theorem mem_variableNames_default {default? : Option Value} {dirs : List Directive} :
    x ∈ default?.elim [] Value.variableNames ++ dirs.flatMap Directive.variableNames
      ↔ (∃ d ∈ default?, d.Mentions x) ∨ ∃ d ∈ dirs, d.Mentions x := by
  rw [List.mem_append, mem_variableNames_directives]
  cases default? with
  | none => simp
  | some v => simp [Value.mem_variableNames v]

theorem VariableDefinition.mem_variableNames {v : VariableDefinition} :
    x ∈ v.variableNames ↔ v.Mentions x := by
  have hsplit : x ∈ v.variableNames ↔ x = v.name ∨ x ∈ v.default?.elim [] Value.variableNames
      ++ v.directives.flatMap Directive.variableNames := List.mem_cons
  rw [hsplit, mem_variableNames_default]
  constructor
  · rintro (rfl | ⟨d, hd, h⟩ | ⟨d, hd, h⟩)
    · exact .declared rfl
    · exact .default hd h
    · exact .directive hd h
  · rintro (rfl | ⟨hd, h⟩ | ⟨hd, h⟩)
    · exact Or.inl rfl
    · exact Or.inr (Or.inl ⟨_, hd, h⟩)
    · exact Or.inr (Or.inr ⟨_, hd, h⟩)

theorem Operation.mem_variableNames {o : Operation} : x ∈ o.variableNames ↔ o.Mentions x := by
  rw [Operation.variableNames, List.mem_append, List.mem_append, List.mem_flatMap,
    mem_variableNames_directives, Selection.mem_variableNamesOfAll]
  constructor
  · rintro ((⟨v, hv, h⟩ | ⟨d, hd, h⟩) | ⟨s, hs, h⟩)
    · exact .declared hv (VariableDefinition.mem_variableNames.1 h)
    · exact .directive hd h
    · exact .selection hs h
  · rintro (⟨hv, h⟩ | ⟨hd, h⟩ | ⟨hs, h⟩)
    · exact Or.inl (Or.inl ⟨_, hv, VariableDefinition.mem_variableNames.2 h⟩)
    · exact Or.inl (Or.inr ⟨_, hd, h⟩)
    · exact Or.inr ⟨_, hs, h⟩

theorem Fragment.mem_variableNames {f : Fragment} : x ∈ f.variableNames ↔ f.Mentions x := by
  rw [Fragment.variableNames, List.mem_append, mem_variableNames_directives,
    Selection.mem_variableNamesOfAll]
  constructor
  · rintro (⟨d, hd, h⟩ | ⟨s, hs, h⟩)
    · exact .directive hd h
    · exact .selection hs h
  · rintro (⟨hd, h⟩ | ⟨hs, h⟩)
    · exact Or.inl ⟨_, hd, h⟩
    · exact Or.inr ⟨_, hs, h⟩

theorem InputValue.mem_variableNames {v : InputValue} : x ∈ v.variableNames ↔ v.Mentions x := by
  rw [InputValue.variableNames, mem_variableNames_default]
  constructor
  · rintro (⟨d, hd, h⟩ | ⟨d, hd, h⟩)
    · exact .default hd h
    · exact .directive hd h
  · rintro (⟨hd, h⟩ | ⟨hd, h⟩)
    · exact Or.inl ⟨_, hd, h⟩
    · exact Or.inr ⟨_, hd, h⟩

theorem mem_variableNames_inputs {vs : List InputValue} :
    x ∈ vs.flatMap InputValue.variableNames ↔ ∃ v ∈ vs, v.Mentions x := by
  simp only [List.mem_flatMap, InputValue.mem_variableNames]

theorem FieldDefinition.mem_variableNames {f : FieldDefinition} :
    x ∈ f.variableNames ↔ f.Mentions x := by
  rw [FieldDefinition.variableNames, List.mem_append, mem_variableNames_inputs,
    mem_variableNames_directives]
  constructor
  · rintro (⟨p, hp, h⟩ | ⟨d, hd, h⟩)
    · exact .parameter hp h
    · exact .directive hd h
  · rintro (⟨hp, h⟩ | ⟨hd, h⟩)
    · exact Or.inl ⟨_, hp, h⟩
    · exact Or.inr ⟨_, hd, h⟩

theorem mem_variableNames_fields {fs : List FieldDefinition} :
    x ∈ fs.flatMap FieldDefinition.variableNames ↔ ∃ f ∈ fs, f.Mentions x := by
  simp only [List.mem_flatMap, FieldDefinition.mem_variableNames]

/-- The directives on an item come first; what else it has differs from item to item. -/
theorem TypeSystemItem.mem_variableNames {i : TypeSystemItem} :
    x ∈ i.variableNames ↔ i.Mentions x := by
  constructor
  · intro h
    cases i with
    | schema dirs roots | scalar n dirs | union n dirs members =>
      obtain ⟨d, hd, h⟩ := mem_variableNames_directives.1 h
      exact .directive hd h
    | object n interfaces dirs fields =>
      rcases List.mem_append.1 h with h | h
      · obtain ⟨d, hd, h⟩ := mem_variableNames_directives.1 h
        exact .directive hd h
      · obtain ⟨f, hf, h⟩ := mem_variableNames_fields.1 h
        exact .objectField hf h
    | interface n interfaces dirs fields =>
      rcases List.mem_append.1 h with h | h
      · obtain ⟨d, hd, h⟩ := mem_variableNames_directives.1 h
        exact .directive hd h
      · obtain ⟨f, hf, h⟩ := mem_variableNames_fields.1 h
        exact .interfaceField hf h
    | enum n dirs values =>
      rcases List.mem_append.1 h with h | h
      · obtain ⟨d, hd, h⟩ := mem_variableNames_directives.1 h
        exact .directive hd h
      · obtain ⟨v, hv, h⟩ := List.mem_flatMap.1 h
        obtain ⟨d, hd, h⟩ := mem_variableNames_directives.1 h
        exact .enumValue hv hd h
    | input n dirs fields =>
      rcases List.mem_append.1 h with h | h
      · obtain ⟨d, hd, h⟩ := mem_variableNames_directives.1 h
        exact .directive hd h
      · obtain ⟨v, hv, h⟩ := mem_variableNames_inputs.1 h
        exact .inputField hv h
  · intro h
    cases h with
    | @directive _ d hd h =>
      have hdirs := mem_variableNames_directives.2 ⟨d, hd, h⟩
      cases i with
      | schema dirs roots | scalar n dirs | union n dirs members => exact hdirs
      | _ => exact List.mem_append_left _ hdirs
    | objectField hf h | interfaceField hf h =>
      exact List.mem_append_right _ (mem_variableNames_fields.2 ⟨_, hf, h⟩)
    | enumValue hv hd h =>
      have hvalue := mem_variableNames_directives.2 ⟨_, hd, h⟩
      exact List.mem_append_right _ (List.mem_flatMap.2 ⟨_, hv, hvalue⟩)
    | inputField hv h =>
      exact List.mem_append_right _ (mem_variableNames_inputs.2 ⟨_, hv, h⟩)

theorem Definition.mem_variableNames {d : Definition} : x ∈ d.variableNames ↔ d.Mentions x := by
  constructor
  · intro h
    cases d with
    | operation o => exact .operation (Operation.mem_variableNames.1 h)
    | fragment f => exact .fragment (Fragment.mem_variableNames.1 h)
    | typeSystem description i => exact .typeSystem (TypeSystemItem.mem_variableNames.1 h)
    | directive d =>
      obtain ⟨p, hp, h⟩ := mem_variableNames_inputs.1 h
      exact .directive hp h
    | extension i => exact .extension (TypeSystemItem.mem_variableNames.1 h)
  · intro h
    cases h with
    | operation h => exact Operation.mem_variableNames.2 h
    | fragment h => exact Fragment.mem_variableNames.2 h
    | typeSystem h | extension h => exact TypeSystemItem.mem_variableNames.2 h
    | directive hp h => exact mem_variableNames_inputs.2 ⟨_, hp, h⟩

/-- The variables that are collected in a document are those mentioned in it. -/
theorem Document.mem_variableNames {document : Document} :
    x ∈ document.variableNames ↔ document.Mentions x := by
  rw [Document.variableNames, List.mem_flatMap]
  simp only [Definition.mem_variableNames]
  rfl

/-! ## What a visit leaves -/

/-- What a visit makes of a definition. -/
inductive Definition.IsVisitedAs : Definition → Definition → Prop
  /-- An operation keeps, in order, the directives that have another name than the one for
  configuration, and all the rest. -/
  | operation (o : Operation) : IsVisitedAs (.operation o) (.operation
    { o with directives := o.directives.filter fun d => d.name ≠ configurationDirective })
  /-- Every other definition stays as it is. -/
  | other {d : Definition} (h : ∀ o, d ≠ .operation o) : IsVisitedAs d d

/-- A variable is mentioned in a definition elsewhere than in a directive that is taken off. -/
inductive Definition.MentionsElsewhere (x : String) : Definition → Prop
  /-- In the declaration of a variable of an operation. -/
  | declared {o : Operation} {v : VariableDefinition} (hv : v ∈ o.declared) (h : v.Mentions x) :
    MentionsElsewhere x (.operation o)
  /-- In a directive on an operation that has another name. -/
  | directive {o : Operation} {d : Directive} (hd : d ∈ o.directives)
    (hname : d.name ≠ configurationDirective) (h : d.Mentions x) :
    MentionsElsewhere x (.operation o)
  /-- In a selection of an operation. -/
  | selection {o : Operation} {s : Selection} (hs : s ∈ o.selections) (h : s.Mentions x) :
    MentionsElsewhere x (.operation o)
  /-- Anywhere in a definition that is no operation. -/
  | other {d : Definition} (hother : ∀ o, d ≠ .operation o) (h : d.Mentions x) :
    MentionsElsewhere x d

theorem Directive.isConfiguration_eq_false_iff {d : Directive} :
    (!d.isConfiguration) = true ↔ d.name ≠ configurationDirective := by
  rw [Directive.isConfiguration, Bool.not_eq_true', decide_eq_false_iff_not]

theorem Operation.withoutConfiguration_eq (o : Operation) : o.withoutConfiguration
    = { o with directives := o.directives.filter fun d => d.name ≠ configurationDirective } := by
  have hfilter : (o.directives.filter fun d => !d.isConfiguration)
      = o.directives.filter fun d => d.name ≠ configurationDirective := by
    refine List.filter_congr fun d _ => ?_
    rw [Directive.isConfiguration, decide_not]
  rw [Operation.withoutConfiguration, hfilter]

/-- There is exactly one way in which a definition can be visited. -/
theorem Definition.isVisitedAs_iff {d left : Definition} :
    d.IsVisitedAs left ↔ left = d.withoutConfiguration := by
  constructor
  · intro h
    cases h with
    | operation o => rw [Definition.withoutConfiguration, Operation.withoutConfiguration_eq]
    | other hother =>
      cases d with
      | operation o => exact absurd rfl (hother o)
      | _ => rfl
  · rintro rfl
    cases d with
    | operation o =>
      rw [Definition.withoutConfiguration, Operation.withoutConfiguration_eq]
      exact .operation o
    | _ => exact .other nofun

/-- What is left of a definition mentions what the definition mentions elsewhere than in a directive
that is taken off. -/
theorem Definition.mentions_withoutConfiguration {d : Definition} :
    d.withoutConfiguration.Mentions x ↔ d.MentionsElsewhere x := by
  constructor
  · intro h
    cases d with
    | operation o =>
      cases h with
      | operation h =>
        rcases h with ⟨hv, h⟩ | ⟨hd, h⟩ | ⟨hs, h⟩
        · exact .declared hv h
        · obtain ⟨hd, hname⟩ := List.mem_filter.1 hd
          exact .directive hd (Directive.isConfiguration_eq_false_iff.1 hname) h
        · exact .selection hs h
    | _ => exact .other nofun h
  · intro h
    cases h with
    | declared hv h => exact .operation (.declared hv h)
    | directive hd hname h =>
      have hkept := Directive.isConfiguration_eq_false_iff.2 hname
      exact .operation (.directive (List.mem_filter.2 ⟨hd, hkept⟩) h)
    | selection hs h => exact .operation (.selection hs h)
    | other hother h =>
      cases d with
      | operation o => exact absurd rfl (hother o)
      | _ => exact h

/-- Definitions that are visited one after the other make up the document without configuration. -/
theorem isVisitedAs_iff {document left : Document} :
    (∀ i : Nat, Option.Rel Definition.IsVisitedAs document.definitions[i]? left.definitions[i]?)
      ↔ left = document.withoutConfiguration := by
  constructor
  · intro h
    obtain ⟨definitions⟩ := left
    refine congrArg Document.mk (List.ext_getElem? fun i => ?_)
    have hi := h i
    rw [List.getElem?_map]
    revert hi
    generalize document.definitions[i]? = d?, definitions[i]? = left?
    rintro (hd | -)
    · rw [Option.map_some, Definition.isVisitedAs_iff.1 hd]
    · rfl
  · rintro rfl i
    rw [Document.withoutConfiguration, List.getElem?_map]
    cases document.definitions[i]? with
    | none => exact .none
    | some d => exact .some (Definition.isVisitedAs_iff.2 rfl)

end GraphQL

end PersistedDocument
