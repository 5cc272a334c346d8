import PersistedDocument.Proofs.Collecting
import PersistedDocument.Proofs.Cutting
import PersistedDocument.Proofs.Lookahead

/-!
# Proofs: documents put together

Texts of operations and fragments may be written one below the other. The joined text is read as the
definitions of all of them, printed as their canonical texts with a blank line between them, and has
the variables of all of them. It is transformed if every text is transformed by itself and no two of
them give a token. The order of the texts matters for the order of what is printed, and for nothing
else.
-/

namespace PersistedDocument

open GraphQL

/-! ## Reading joined texts -/

/-- A text that is a document of operations and fragments. -/
def IsExecutable (text : String) : Prop :=
  ∃ document, Document.parse text = .ok document
    ∧ ∀ d ∈ document.definitions, d.isExecutable = true

/-- The definitions in a text, if it is a document. -/
def definitionsOf (text : String) : List Definition :=
  match Document.parse text with
  | .ok document => document.definitions
  | .error _ => []

theorem IsExecutable.parse_eq {text : String} (h : IsExecutable text) :
    Document.parse text = .ok ⟨definitionsOf text⟩ := by
  obtain ⟨document, hparse, -⟩ := h
  rw [definitionsOf, hparse]

theorem IsExecutable.isExecutable {text : String} (h : IsExecutable text) :
    ∀ d ∈ definitionsOf text, d.isExecutable = true := by
  obtain ⟨document, hparse, hexecutable⟩ := h
  rw [definitionsOf, hparse]
  exact hexecutable

theorem definitionsOf_of_parse {text : String} {document : Document}
    (h : Document.parse text = .ok document) : definitionsOf text = document.definitions := by
  rw [definitionsOf, h]

/-- A document of operations and fragments is cut into tokens that are its definitions one after
another. -/
theorem IsExecutable.consecutive {text : String} (h : IsExecutable text) :
    lex text = ((lex text).1, none) ∧ definitionsOf text ≠ []
      ∧ Parser.Consecutive (lex text).1 (definitionsOf text) := by
  obtain ⟨hlex, hdocument⟩ := Parser.document_of_parse h.parse_eq
  obtain ⟨hne, hconsecutive⟩ := Parser.consecutive_of_document hdocument h.isExecutable
  exact ⟨hlex, hne, hconsecutive⟩

/-- A text that is cut into the tokens of definitions one after another is read as them. -/
theorem parse_of_consecutive {text : String} {tokens : List Token} {ds : List Definition}
    (hlex : lex text = (tokens, none)) (h : Parser.Consecutive tokens ds) (hne : ds ≠ []) :
    Document.parse text = .ok ⟨ds⟩ := by
  have hreach : Parser.reach ⟨tokens, none⟩ = .ok ⟨tokens, none⟩ := by
    cases tokens <;> rfl
  rw [Document.parse, hlex]
  show Document.ofTokens ⟨tokens, none⟩ = .ok ⟨ds⟩
  rw [Document.ofTokens, bind_eq_of_ok hreach, bind_eq_of_ok (h.document hne)]
  rfl

/-- Two texts one below the other are read as the definitions of both. -/
theorem parse_append_newline {s s' : String} (h : IsExecutable s) (h' : IsExecutable s') :
    Document.parse (s ++ "\n" ++ s') = .ok ⟨definitionsOf s ++ definitionsOf s'⟩ := by
  obtain ⟨hlex, hne, hconsecutive⟩ := h.consecutive
  obtain ⟨hlex', -, hconsecutive'⟩ := h'.consecutive
  have hjoined := lex_append_newline hlex s'
  rw [hlex'] at hjoined
  have hboth : definitionsOf s ++ definitionsOf s' ≠ [] :=
    List.append_ne_nil_of_left_ne_nil hne _
  exact parse_of_consecutive hjoined (hconsecutive.append hconsecutive') hboth

/-- Texts one below the other are read as the definitions of all of them. -/
theorem parse_joined {texts : List String} (hne : texts ≠ [])
    (h : ∀ text ∈ texts, IsExecutable text) :
    Document.parse ("\n".intercalate texts) = .ok ⟨texts.flatMap definitionsOf⟩ := by
  induction texts with
  | nil => exact absurd rfl hne
  | cons text texts ih =>
    obtain ⟨htext, htexts⟩ := List.forall_mem_cons.1 h
    cases texts with
    | nil =>
      rw [String.intercalate_singleton, List.flatMap_singleton]
      exact htext.parse_eq
    | cons text' texts =>
      have hrest := ih (List.cons_ne_nil _ _) htexts
      have hexecutable : IsExecutable ("\n".intercalate (text' :: texts)) := by
        refine ⟨_, hrest, fun d hd => ?_⟩
        obtain ⟨t, ht, hd⟩ := List.mem_flatMap.1 hd
        exact (htexts t ht).isExecutable d hd
      rw [String.intercalate_cons_cons, parse_append_newline htext hexecutable,
        definitionsOf_of_parse hrest]
      rfl

/-! ## Printing joined texts -/

/-- The canonical texts of the definitions in a text, without configuration. -/
def printedDefinitions (text : String) : List String :=
  (definitionsOf text).map fun d => Printer.definition d.withoutConfiguration

theorem separated_eq_intercalate (separator : String) (items : List String) :
    Printer.separated separator items = separator.intercalate items := by
  induction items with
  | nil => rfl
  | cons item items ih =>
    cases items with
    | nil => exact String.intercalate_singleton.symm
    | cons item' items => rw [Printer.separated, ih, String.intercalate_cons_cons]; exact nofun

/-- Separating all items is separating those of each part, and then the parts. -/
theorem intercalate_flatMap {α : Type} (separator : String) {items : α → List String}
    {parts : List α} (h : ∀ p ∈ parts, items p ≠ []) :
    separator.intercalate (parts.flatMap items)
      = separator.intercalate (parts.map fun p => separator.intercalate (items p)) := by
  induction parts with
  | nil => rfl
  | cons p parts ih =>
    obtain ⟨hp, hparts⟩ := List.forall_mem_cons.1 h
    cases parts with
    | nil => rw [List.flatMap_singleton, List.map_singleton, String.intercalate_singleton]
    | cons p' parts =>
      have hne : (p' :: parts).flatMap items ≠ [] := by
        rw [List.flatMap_cons]
        exact List.append_ne_nil_of_left_ne_nil (hparts p' List.mem_cons_self) _
      rw [List.flatMap_cons, String.intercalate_append_of_ne_nil hp hne, ih hparts]
      exact String.intercalate_cons_cons.symm

theorem print_withoutConfiguration (ds : List Definition) :
    (Document.mk ds).withoutConfiguration.print
      = "\n\n".intercalate (ds.map fun d => Printer.definition d.withoutConfiguration) := by
  rw [Document.print, Document.withoutConfiguration, separated_eq_intercalate, List.map_map]
  rfl

/-! ## Tokens of joined texts -/

/-- Configurations do not fail if there is at most one and its variable holds a token. -/
theorem failure?_none_iff {env : Environment} {cs : List (String × String)} :
    failure? env none cs = none ↔ cs.length ≤ 1 ∧ ∀ c ∈ cs, (env.token? c.2).isSome = true := by
  rw [failure?_eq_none_iff]
  constructor
  · rintro (rfl | ⟨-, c, t, rfl, ht⟩)
    · exact ⟨Nat.zero_le 1, nofun⟩
    · refine ⟨Nat.le_refl 1, fun c' hc' => ?_⟩
      rw [List.mem_singleton.1 hc', ht]
      rfl
  · rintro ⟨hlength, htokens⟩
    match cs with
    | [] => exact Or.inl rfl
    | [c] =>
      obtain ⟨t, ht⟩ := Option.isSome_iff_exists.1 (htokens c List.mem_cons_self)
      exact Or.inr ⟨rfl, c, t, rfl, ht⟩
    | _ :: _ :: _ => simp at hlength

/-- Configurations that do not fail give the tokens that their variables hold. -/
theorem toList_tokenAfter {env : Environment} {cs : List (String × String)}
    (h : failure? env none cs = none) :
    (tokenAfter env none cs).toList = cs.filterMap fun c => env.token? c.2 := by
  rcases failure?_eq_none_iff.1 h with rfl | ⟨-, c, t, rfl, ht⟩
  · rfl
  · simp [tokenAfter, ht]

/-- The tokens that configurations in several places give, if they do not fail in any. -/
theorem filterMap_tokenAfter {env : Environment} {css : List (List (String × String))}
    (h : ∀ cs ∈ css, failure? env none cs = none) :
    css.filterMap (tokenAfter env none) = css.flatten.filterMap fun c => env.token? c.2 := by
  induction css with
  | nil => rfl
  | cons cs css ih =>
    obtain ⟨hcs, hcss⟩ := List.forall_mem_cons.1 h
    rw [List.flatten_cons, List.filterMap_append, ← ih hcss, ← toList_tokenAfter hcs,
      List.filterMap_cons]
    cases tokenAfter env none cs <;> rfl

/-- Configurations in several places do not fail together if they do not in any place and give at
most one token altogether. -/
theorem failure?_flatten {env : Environment} {css : List (List (String × String))} :
    failure? env none css.flatten = none
      ↔ (∀ cs ∈ css, failure? env none cs = none)
        ∧ (css.filterMap (tokenAfter env none)).length ≤ 1 := by
  have hlength (h : ∀ cs ∈ css, failure? env none cs = none) :
      (css.filterMap (tokenAfter env none)).length = css.flatten.length := by
    rw [filterMap_tokenAfter h, List.filterMap_length_eq_length]
    intro c hc
    obtain ⟨cs, hcs, hc⟩ := List.mem_flatten.1 hc
    exact (failure?_none_iff.1 (h cs hcs)).2 c hc
  constructor
  · intro h
    obtain ⟨hone, htokens⟩ := failure?_none_iff.1 h
    have hparts : ∀ cs ∈ css, failure? env none cs = none := by
      intro cs hcs
      have hfewer := (List.sublist_flatten_of_mem hcs).length_le
      refine failure?_none_iff.2 ⟨Nat.le_trans hfewer hone, fun c hc => ?_⟩
      exact htokens c (List.mem_flatten_of_mem hcs hc)
    exact ⟨hparts, hlength hparts ▸ hone⟩
  · rintro ⟨hparts, hone⟩
    refine failure?_none_iff.2 ⟨hlength hparts ▸ hone, fun c hc => ?_⟩
    obtain ⟨cs, hcs, hc⟩ := List.mem_flatten.1 hc
    exact (failure?_none_iff.1 (hparts cs hcs)).2 c hc

/-! ## Transforming a text by itself -/

/-- What a text is transformed into with a collector that has gathered nothing. -/
def transformed? (env : Environment) (text : String) : Option Transformed :=
  match transform env text .fresh with
  | .ok t _ => some t
  | .error _ _ => none

/-- The configurations in a text, in the order in which they are written. -/
def configurationsOf (text : String) : List (String × String) :=
  (definitionsOf text).flatMap Definition.configurations

/-- What a text is transformed into if its configurations do not fail. -/
def transformedOf (env : Environment) (text : String) : Transformed where
  query := "\n\n".intercalate (printedDefinitions text)
  freeVariables := .ofList
    ((definitionsOf text).flatMap fun d => d.withoutConfiguration.variableNames)
  accessToken := tokenAfter env none (configurationsOf text)

/-- A text is transformed if and only if it is a document whose configurations do not fail. -/
theorem transformed?_eq {env : Environment} {text : String} {document : Document}
    (hparse : Document.parse text = .ok document) :
    transformed? env text
      = if failure? env none (configurationsOf text) = none then some (transformedOf env text)
        else none := by
  have hdefinitions := definitionsOf_of_parse hparse
  have hconfigurations : document.configurations = configurationsOf text := by
    rw [configurations_eq_flatMap, configurationsOf, hdefinitions]
  cases hfailure : failure? env none (configurationsOf text) with
  | none =>
    rw [← hconfigurations] at hfailure
    obtain ⟨c, htransform, -⟩ := @ends_transform env text document .fresh hparse hfailure
    rw [if_pos rfl, transformed?, htransform, variableNames_withoutConfiguration,
      hconfigurations, ← hdefinitions]
    rw [transformedOf, printedDefinitions, ← print_withoutConfiguration, hdefinitions]
    rfl
  | some e =>
    rw [← hconfigurations] at hfailure
    obtain ⟨c, hfails⟩ := @transform_eq_of_failure env text document .fresh hparse e hfailure
    rw [if_neg nofun, transformed?, hfails]

theorem exists_transformed?_iff {env : Environment} {text : String} {document : Document}
    (hparse : Document.parse text = .ok document) :
    (∃ t, transformed? env text = some t) ↔ failure? env none (configurationsOf text) = none := by
  rw [transformed?_eq hparse]
  constructor
  · rintro ⟨t, ht⟩
    split at ht
    · assumption
    · cases ht
  · intro hfailure
    exact ⟨_, if_pos hfailure⟩

theorem eq_transformedOf {env : Environment} {text : String} {document : Document}
    {t : Transformed} (hparse : Document.parse text = .ok document)
    (h : transformed? env text = some t) : t = transformedOf env text := by
  have hfailure := (exists_transformed?_iff hparse).1 ⟨t, h⟩
  rw [transformed?_eq hparse, if_pos hfailure] at h
  exact (Option.some.inj h).symm

/-! ## Transforming joined texts -/

section

variable {env : Environment} {texts : List String} (hne : texts ≠ [])
  (h : ∀ text ∈ texts, IsExecutable text)

include h

/-- What texts are transformed into one by one, if their configurations do not fail. -/
theorem filterMap_transformed?
    (hfailure : ∀ text ∈ texts, failure? env none (configurationsOf text) = none) :
    texts.filterMap (transformed? env) = texts.map (transformedOf env) := by
  have hsome (text : String) (htext : text ∈ texts) :
      transformed? env text = some (transformedOf env text) := by
    rw [transformed?_eq (h text htext).parse_eq, if_pos (hfailure text htext)]
  clear h hfailure
  induction texts with
  | nil => rfl
  | cons text texts ih =>
    obtain ⟨htext, htexts⟩ := List.forall_mem_cons.1 hsome
    rw [List.filterMap_cons_some htext, ih htexts, List.map_cons]

include hne

theorem definitionsOf_joined :
    definitionsOf ("\n".intercalate texts) = texts.flatMap definitionsOf :=
  definitionsOf_of_parse (parse_joined hne h)

theorem configurationsOf_joined :
    configurationsOf ("\n".intercalate texts) = (texts.map configurationsOf).flatten := by
  rw [configurationsOf, definitionsOf_joined hne h, List.flatMap_assoc, List.flatMap_def]
  rfl

theorem printedDefinitions_joined :
    printedDefinitions ("\n".intercalate texts) = texts.flatMap printedDefinitions := by
  rw [printedDefinitions, definitionsOf_joined hne h, List.map_flatMap]
  rfl

/-- Joined texts are transformed if each of them is and they give at most one token. -/
theorem exists_transformed?_joined_iff :
    (∃ t, transformed? env ("\n".intercalate texts) = some t) ↔
      (∀ text ∈ texts, ∃ t, transformed? env text = some t) ∧
        ((texts.filterMap (transformed? env)).filterMap (·.accessToken)).length ≤ 1 := by
  have hparts : (∀ cs ∈ texts.map configurationsOf, failure? env none cs = none)
      ↔ ∀ text ∈ texts, ∃ t, transformed? env text = some t := by
    rw [List.forall_mem_map]
    refine forall₂_congr fun text htext => ?_
    exact (exists_transformed?_iff (h text htext).parse_eq).symm
  rw [exists_transformed?_iff (parse_joined hne h), configurationsOf_joined hne h,
    failure?_flatten, hparts]
  refine and_congr_right fun hsucceed => ?_
  have hfailure := List.forall_mem_map.1 (hparts.2 hsucceed)
  rw [filterMap_transformed? h hfailure, List.filterMap_map, List.filterMap_map]
  rfl

/-- What joined texts are transformed into, in terms of what each of them is transformed into. -/
theorem transformed?_joined_eq_some {t : Transformed}
    (ht : transformed? env ("\n".intercalate texts) = some t) :
    t.query = "\n\n".intercalate ((texts.filterMap (transformed? env)).map (·.query)) ∧
    (∀ x, x ∈ t.freeVariables ↔
      ∃ part ∈ texts.filterMap (transformed? env), x ∈ part.freeVariables) ∧
    t.accessToken.toList = (texts.filterMap (transformed? env)).filterMap (·.accessToken) := by
  obtain rfl := eq_transformedOf (parse_joined hne h) ht
  have hjoined := (exists_transformed?_iff (parse_joined hne h)).1 ⟨_, ht⟩
  rw [configurationsOf_joined hne h] at hjoined
  have hparts := (failure?_flatten.1 hjoined).1
  rw [filterMap_transformed? h (List.forall_mem_map.1 hparts), List.map_map, List.filterMap_map]
  refine ⟨?_, fun x => ?_, ?_⟩
  · have hprinted : ∀ text ∈ texts, printedDefinitions text ≠ [] := by
      intro text htext
      rw [printedDefinitions, ne_eq, List.map_eq_nil_iff]
      exact (h text htext).consecutive.2.1
    rw [transformedOf, printedDefinitions_joined hne h]
    exact intercalate_flatMap "\n\n" hprinted
  · have hmem (text : String) : x ∈ (transformedOf env text).freeVariables
        ↔ ∃ d ∈ definitionsOf text, x ∈ d.withoutConfiguration.variableNames := by
      rw [transformedOf, NameSet.mem_ofList, List.mem_flatMap]
    rw [hmem, definitionsOf_joined hne h]
    constructor
    · rintro ⟨d, hd, hx⟩
      obtain ⟨text, htext, hd⟩ := List.mem_flatMap.1 hd
      exact ⟨_, List.mem_map_of_mem htext, (hmem text).2 ⟨d, hd, hx⟩⟩
    · rintro ⟨t, ht, hx⟩
      obtain ⟨text, htext, rfl⟩ := List.mem_map.1 ht
      obtain ⟨d, hd, hx⟩ := (hmem text).1 hx
      exact ⟨d, List.mem_flatMap.2 ⟨text, htext, hd⟩, hx⟩
  · rw [transformedOf, configurationsOf_joined hne h, toList_tokenAfter hjoined,
      ← filterMap_tokenAfter hparts, List.filterMap_map]
    rfl

theorem query_joined {t : Transformed}
    (ht : transformed? env ("\n".intercalate texts) = some t) :
    t.query = "\n\n".intercalate (texts.flatMap printedDefinitions) := by
  obtain rfl := eq_transformedOf (parse_joined hne h) ht
  rw [transformedOf, printedDefinitions_joined hne h]

end

theorem eq_of_perm_toList {α : Type} {a? b? : Option α} (h : a?.toList.Perm b?.toList) :
    a? = b? := by
  cases b? with
  | none => exact Option.toList_eq_nil_iff.1 (List.perm_nil.1 h)
  | some b => exact Option.toList_eq_singleton_iff.1 (List.perm_singleton.1 h)

/-- Texts of operations and fragments that are written one below the other are transformed together
if and only if each of them is transformed by itself and at most one of these gives a token. What
they are transformed into then has the texts of all, with a blank line between them, the variables
of all, and the one token that there is. In another order they are transformed together just as
well, into the same definitions in that order, with the same variables and the same token. -/
theorem transform_joined {env : Environment} {texts : List String} (hne : texts ≠ [])
    (h : ∀ text ∈ texts, IsExecutable text) :
    ((∃ t, transformed? env ("\n".intercalate texts) = some t) ↔
      (∀ text ∈ texts, ∃ t, transformed? env text = some t) ∧
        ((texts.filterMap (transformed? env)).filterMap (·.accessToken)).length ≤ 1) ∧
    (∀ t, transformed? env ("\n".intercalate texts) = some t →
      t.query = "\n\n".intercalate ((texts.filterMap (transformed? env)).map (·.query)) ∧
      (∀ x, x ∈ t.freeVariables ↔
        ∃ part ∈ texts.filterMap (transformed? env), x ∈ part.freeVariables) ∧
      t.accessToken.toList = (texts.filterMap (transformed? env)).filterMap (·.accessToken)) ∧
    ∀ texts' : List String, texts'.Perm texts →
      ((∃ t', transformed? env ("\n".intercalate texts') = some t') ↔
        ∃ t, transformed? env ("\n".intercalate texts) = some t) ∧
      ∀ t t', transformed? env ("\n".intercalate texts) = some t →
        transformed? env ("\n".intercalate texts') = some t' →
        t'.freeVariables = t.freeVariables ∧ t'.accessToken = t.accessToken ∧
        t.query = "\n\n".intercalate (texts.flatMap printedDefinitions) ∧
        t'.query = "\n\n".intercalate (texts'.flatMap printedDefinitions) := by
  refine ⟨exists_transformed?_joined_iff hne h, fun t ht => transformed?_joined_eq_some hne h ht,
    fun texts' hperm => ?_⟩
  have hne' : texts' ≠ [] := fun hnil => hne (hnil ▸ hperm).nil_eq.symm
  have h' : ∀ text ∈ texts', IsExecutable text := fun text htext => h text (hperm.mem_iff.1 htext)
  have hparts := hperm.filterMap (transformed? env)
  have htokens := hparts.filterMap (·.accessToken)
  constructor
  · rw [exists_transformed?_joined_iff hne' h', exists_transformed?_joined_iff hne h,
      htokens.length_eq]
    simp only [hperm.mem_iff]
  · intro t t' ht ht'
    obtain ⟨-, hvariables, htoken⟩ := transformed?_joined_eq_some hne h ht
    obtain ⟨-, hvariables', htoken'⟩ := transformed?_joined_eq_some hne' h' ht'
    refine ⟨?_, ?_, query_joined hne h ht, query_joined hne' h' ht'⟩
    · ext x
      rw [hvariables, hvariables']
      simp only [hparts.mem_iff]
    · rw [← htoken, ← htoken'] at htokens
      exact eq_of_perm_toList htokens

/-- An environment with one variable. -/
def oneVariable : Environment := fun varName => if varName = "T" then some "secret" else none

/-- A text that ends in a comment. -/
def commentedText : String := "\x7ba\x7d # b"

/-- A text that starts with a byte order mark and configures a token. -/
def markedText : String :=
  "\uFEFFquery A @persistedQueryConfiguration(accessToken: \x7benvironmentVariable: T\x7d) \x7ba\x7d"

section

set_option maxRecDepth 2048

theorem parse_commentedText : Document.parse commentedText
    = .ok ⟨[.operation ⟨none, .query, none, [], [], [.field none "a" [] [] []]⟩]⟩ := by
  cbv

theorem parse_markedText :
    Document.parse markedText = .ok ⟨[.operation (tokenOperation "A" "T")]⟩ := by
  cbv

/-- The second of two texts gives the token of both. -/
theorem transform_joined_two :
    ∃ t, transformed? oneVariable ("\n".intercalate [commentedText, markedText]) = some t
      ∧ t.accessToken = some "secret" := by
  have hexecutable : ∀ text ∈ [commentedText, markedText], IsExecutable text := by
    refine List.forall_mem_cons.2 ⟨⟨_, parse_commentedText, by decide⟩, ?_⟩
    exact List.forall_mem_singleton.2 ⟨_, parse_markedText, by decide⟩
  obtain ⟨hsucceeds, hresult, -⟩ :=
    @transform_joined oneVariable _ (List.cons_ne_nil _ _) hexecutable
  have hcommented : configurationsOf commentedText = [] := by
    rw [configurationsOf, definitionsOf_of_parse parse_commentedText]
    rfl
  have hmarked : configurationsOf markedText = [("A", "T")] := by
    rw [configurationsOf, definitionsOf_of_parse parse_markedText]
    rfl
  have hfailure : ∀ text ∈ [commentedText, markedText],
      failure? oneVariable none (configurationsOf text) = none := by
    refine List.forall_mem_cons.2 ⟨by rw [hcommented]; rfl, ?_⟩
    exact List.forall_mem_singleton.2 (by rw [hmarked]; rfl)
  have hparts := filterMap_transformed? hexecutable hfailure
  have htokens : ([commentedText, markedText].filterMap (transformed? oneVariable)).filterMap
      (·.accessToken) = ["secret"] := by
    rw [hparts, List.map_cons, List.map_singleton, transformedOf, transformedOf, hcommented,
      hmarked]
    rfl
  have hall : ∀ text ∈ [commentedText, markedText], ∃ t, transformed? oneVariable text = some t :=
    fun text htext => (exists_transformed?_iff (hexecutable text htext).parse_eq).2
      (hfailure text htext)
  rw [htokens] at hsucceeds hresult
  obtain ⟨t, ht⟩ := hsucceeds.2 ⟨hall, Nat.le_refl 1⟩
  exact ⟨t, ht, Option.toList_eq_singleton_iff.1 (hresult t ht).2.2⟩

end

end PersistedDocument
