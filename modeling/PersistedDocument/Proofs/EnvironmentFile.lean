import PersistedDocument.Proofs.Fallible
import PersistedDocument.Settings.Sources

/-!
# Proofs: environment files

Two facts about reading files of settings. A scanner goes on in the text that it is given, and what
it takes for a value has no reference in it if the text has none: the escapes write neither a dollar
sign nor a brace. And of the bindings of a name the last one counts, with the references in it
replaced by what the bindings before it say.
-/

namespace PersistedDocument.Settings.EnvironmentFile

open Text

/-- A run ends where its condition fails. -/
theorem takeWhile_append_cons {p : Char → Bool} {run : List Char} {d : Char}
    (hrun : ∀ c ∈ run, p c = true) (hd : p d = false) (rest : List Char) :
    (run ++ d :: rest).takeWhile p = run := by
  rw [List.takeWhile_append_of_pos hrun, List.takeWhile_cons_of_neg (by simp [hd]),
    List.append_nil]

/-! ## References -/

/-- A text in which no dollar sign stands before an opening brace. -/
def HasNoReference (cs : List Char) : Prop := ¬['$', '{'] <:+: cs

instance : DecidablePred HasNoReference := fun cs =>
  inferInstanceAs (Decidable (¬['$', '{'] <:+: cs))

theorem HasNoReference.of_infix {cs ds : List Char} (h : HasNoReference cs) (hds : ds <:+: cs) :
    HasNoReference ds :=
  fun href => h (href.trans hds)

theorem hasNoReference_cons {c : Char} {cs : List Char} :
    HasNoReference (c :: cs) ↔ ¬(c = '$' ∧ cs.head? = some '{') ∧ HasNoReference cs := by
  have hfront : ['$', '{'] <+: c :: cs ↔ c = '$' ∧ cs.head? = some '{' := by
    cases cs with
    | nil => simp
    | cons d ds => simp [List.cons_prefix_cons, eq_comm]
  rw [HasNoReference, List.infix_cons_iff, not_or, hfront]
  rfl

/-- There is nothing to replace in a text without references. -/
theorem interpolate_eq_self (lookup : String → Option String) {cs : List Char}
    (h : HasNoReference cs) : interpolate lookup cs = cs := by
  induction cs with
  | nil => rw [interpolate]
  | cons c cs ih =>
    obtain ⟨hfront, hcs⟩ := hasNoReference_cons.1 h
    have hno : ¬(decide (c = '$') && decide (cs.head? = some '{')) = true := by
      simpa using hfront
    rw [interpolate, if_neg hno]
    dsimp only
    rw [ih hcs]

/-! ## Quoted values -/

theorem singleEscape?_ne {c d : Char} (h : singleEscape? c = some d) : d ≠ '$' ∧ d ≠ '{' := by
  unfold singleEscape? at h
  split at h <;> cases h <;> decide

theorem doubleEscape?_ne {c d : Char} (h : doubleEscape? c = some d) : d ≠ '$' ∧ d ≠ '{' := by
  unfold doubleEscape? at h
  split at h <;> cases h <;> decide

section

variable {quote : Char} {escape? : Char → Option Char} {cs value rest : List Char}

theorem suffix_of_quotedValue (h : quotedValue quote escape? cs = some (value, rest)) :
    rest <:+ cs := by
  fun_induction quotedValue quote escape? cs generalizing value rest with
  | case1 => cases h
  | case2 c cs ih =>
    obtain ⟨⟨v, r⟩, hv, h⟩ := Option.bind_eq_some_iff.1 h
    have hsuffix := (ih hv).trans ((List.suffix_cons c cs).trans (List.suffix_cons '\\' _))
    dsimp only at h
    split at h <;> cases h <;> exact hsuffix
  | case3 cs _ =>
    cases h
    exact List.suffix_cons _ cs
  | case4 => cases h
  | case5 c cs _ _ _ ih =>
    obtain ⟨⟨v, r⟩, hv, h⟩ := Option.bind_eq_some_iff.1 h
    cases h
    exact (ih hv).trans (List.suffix_cons c cs)

/-- Undoing escapes makes no reference. For the induction, it brings no brace to the front. -/
theorem hasNoReference_of_quotedValue
    (hescape : ∀ c d, escape? c = some d → d ≠ '$' ∧ d ≠ '{')
    (h : quotedValue quote escape? cs = some (value, rest)) (hcs : HasNoReference cs) :
    HasNoReference value ∧ (value.head? = some '{' → cs.head? = some '{') := by
  fun_induction quotedValue quote escape? cs generalizing value rest with
  | case1 => cases h
  | case2 c cs ih =>
    obtain ⟨⟨v, r⟩, hv, h⟩ := Option.bind_eq_some_iff.1 h
    obtain ⟨-, hcons⟩ := hasNoReference_cons.1 hcs
    obtain ⟨hfront, htail⟩ := hasNoReference_cons.1 hcons
    obtain ⟨hvalue, hhead⟩ := ih hv htail
    dsimp only at h
    split at h
    · next d hd =>
      cases h
      obtain ⟨hdollar, hbrace⟩ := hescape c d hd
      refine ⟨hasNoReference_cons.2 ⟨fun hd => hdollar hd.1, hvalue⟩, fun hd => ?_⟩
      exact absurd (Option.some.inj hd) hbrace
    · cases h
      have hkept : HasNoReference (c :: v) :=
        hasNoReference_cons.2 ⟨fun hc => hfront ⟨hc.1, hhead hc.2⟩, hvalue⟩
      exact ⟨hasNoReference_cons.2 ⟨by simp, hkept⟩, by simp⟩
  | case3 cs _ =>
    cases h
    exact ⟨by simp [HasNoReference], by simp⟩
  | case4 => cases h
  | case5 c cs _ _ _ ih =>
    obtain ⟨⟨v, r⟩, hv, h⟩ := Option.bind_eq_some_iff.1 h
    cases h
    obtain ⟨hfront, htail⟩ := hasNoReference_cons.1 hcs
    obtain ⟨hvalue, hhead⟩ := ih hv htail
    exact ⟨hasNoReference_cons.2 ⟨fun hc => hfront ⟨hc.1, hhead hc.2⟩, hvalue⟩, id⟩

end

/-! ## Scanners -/

section

variable {cs value rest stopped : List Char}

theorem prefix_beforeComment (cs : List Char) : beforeComment cs <+: cs := by
  induction cs with
  | nil => exact List.nil_prefix
  | cons c cs ih =>
    rw [beforeComment]
    split
    · exact List.nil_prefix
    · exact List.cons_prefix_cons.2 ⟨rfl, ih⟩

theorem prefix_trimEnd (p : Char → Bool) (cs : List Char) : trimEnd p cs <+: cs := by
  rw [trimEnd, ← List.reverse_suffix, List.reverse_reverse]
  exact List.dropWhile_suffix p

theorem plainValue_spec (cs : List Char) : (plainValue cs).1 <+: cs ∧ (plainValue cs).2 <:+ cs :=
  ⟨((prefix_trimEnd _ _).trans (prefix_beforeComment _)).trans (List.takeWhile_prefix _),
    List.dropWhile_suffix _⟩

theorem suffix_nextLine (cs : List Char) : nextLine cs <:+ cs :=
  (List.drop_suffix _ _).trans (List.dropWhile_suffix _)

theorem suffix_skipExport (cs : List Char) : skipExport cs <:+ cs := by
  unfold skipExport
  split
  · next c cs =>
    split
    · have hword : cs <:+ 'e' :: 'x' :: 'p' :: 'o' :: 'r' :: 't' :: c :: cs :=
        ⟨['e', 'x', 'p', 'o', 'r', 't', c], rfl⟩
      exact (List.dropWhile_suffix _).trans hword
    · exact List.suffix_rfl
  · exact List.suffix_rfl

theorem suffix_skipComment (cs : List Char) : skipComment cs <:+ cs := by
  unfold skipComment
  split
  · next rest hrest =>
    have hmark : rest <:+ cs.dropWhile isInlineBlank := hrest ▸ List.suffix_cons _ _
    exact (List.dropWhile_suffix _).trans (hmark.trans (List.dropWhile_suffix _))
  · exact List.suffix_rfl

/-- A scanner goes on, or stops, in the text that it is given. -/
def StaysIn {α : Type} (cs : List Char) (scan : Scan (α × List Char)) : Prop :=
  (∀ a rest, scan = .ok (a, rest) → rest <:+ cs) ∧ ∀ stopped, scan = .error stopped → stopped <:+ cs

theorem staysIn_scanName (cs : List Char) : StaysIn cs (scanName cs) := by
  unfold scanName
  split
  · refine ⟨fun a rest h => ?_, nofun⟩
    cases h
    exact List.suffix_rfl
  · next tail =>
    dsimp only
    split
    · next after _ hafter =>
      refine ⟨fun a rest h => ?_, nofun⟩
      cases h
      have hdrop : after <:+ tail.drop (tail.takeWhile (· ≠ '\'')).length :=
        hafter ▸ List.suffix_cons _ _
      exact (hdrop.trans (List.drop_suffix _ _)).trans (List.suffix_cons _ _)
    · refine ⟨nofun, fun stopped h => ?_⟩
      cases h
      exact List.suffix_rfl
  · dsimp only
    split
    · refine ⟨nofun, fun stopped h => ?_⟩
      cases h
      exact List.suffix_rfl
    · refine ⟨fun a rest h => ?_, nofun⟩
      cases h
      exact List.drop_suffix _ _

theorem scanLineEnd_spec (cs : List Char) :
    (∀ rest, scanLineEnd cs = .ok rest → rest <:+ cs)
      ∧ ∀ stopped, scanLineEnd cs = .error stopped → stopped <:+ cs := by
  unfold scanLineEnd
  split
  · refine ⟨fun rest h => ?_, nofun⟩
    cases h
    exact List.nil_suffix
  · next tail htail =>
    refine ⟨fun rest h => ?_, nofun⟩
    cases h
    have hline : tail <:+ cs.dropWhile isInlineBlank := htail ▸ List.suffix_cons _ _
    exact hline.trans (List.dropWhile_suffix _)
  · refine ⟨nofun, fun stopped h => ?_⟩
    cases h
    exact List.suffix_rfl

theorem staysIn_elim {quote : Char} {escape? : Char → Option Char} {c : Char}
    (hcs : c :: rest <:+ cs) :
    StaysIn cs ((quotedValue quote escape? rest).elim (.error (c :: rest)) .ok) := by
  have hrest : rest <:+ cs := (List.suffix_cons c rest).trans hcs
  cases hquoted : quotedValue quote escape? rest with
  | none =>
    refine ⟨nofun, fun stopped h => ?_⟩
    cases h
    exact hcs
  | some r =>
    refine ⟨fun a after h => ?_, nofun⟩
    cases h
    exact (suffix_of_quotedValue hquoted).trans hrest

theorem staysIn_scanValue (cs : List Char) : StaysIn cs (scanValue cs) := by
  have hblanks : cs.dropWhile isInlineBlank <:+ cs := List.dropWhile_suffix _
  have hplain : StaysIn cs (.ok (plainValue (cs.dropWhile isInlineBlank))) := by
    refine ⟨fun a rest h => ?_, nofun⟩
    have hsuffix := (plainValue_spec (cs.dropWhile isInlineBlank)).2
    rw [Except.ok.inj h] at hsuffix
    exact hsuffix.trans hblanks
  unfold scanValue
  dsimp only
  generalize hds : cs.dropWhile isInlineBlank = ds at hblanks hplain
  split
  · split
    · refine ⟨fun a rest h => ?_, nofun⟩
      cases h
      exact hblanks
    · exact hplain
  · exact staysIn_elim hblanks
  · exact staysIn_elim hblanks
  · exact hplain

theorem hasNoReference_of_elim {quote : Char} {escape? : Char → Option Char} {c : Char}
    {tail : List Char} (hescape : ∀ c d, escape? c = some d → d ≠ '$' ∧ d ≠ '{')
    (htail : HasNoReference (c :: tail))
    (h : (quotedValue quote escape? tail).elim (.error (c :: tail)) Except.ok
      = .ok (value, rest)) : HasNoReference value := by
  cases hv : quotedValue quote escape? tail with
  | none =>
    rw [hv] at h
    cases h
  | some r =>
    rw [hv] at h
    cases h
    exact (hasNoReference_of_quotedValue hescape hv (hasNoReference_cons.1 htail).2).1

/-- What is scanned as a value has no reference if the text has none. -/
theorem hasNoReference_of_scanValue (hcs : HasNoReference cs)
    (h : scanValue cs = .ok (value, rest)) : HasNoReference value := by
  have hds := hcs.of_infix (List.dropWhile_suffix isInlineBlank).isInfix
  have hplain (h : plainValue (cs.dropWhile isInlineBlank) = (value, rest)) :
      HasNoReference value := by
    have hprefix := (plainValue_spec (cs.dropWhile isInlineBlank)).1
    rw [h] at hprefix
    exact hds.of_infix hprefix.isInfix
  unfold scanValue at h
  dsimp only at h
  generalize cs.dropWhile isInlineBlank = ds at h hds hplain
  split at h
  · split at h
    · cases h
      simp [HasNoReference]
    · exact hplain (Except.ok.inj h)
  · exact hasNoReference_of_elim (fun _ _ => singleEscape?_ne) hds h
  · exact hasNoReference_of_elim (fun _ _ => doubleEscape?_ne) hds h
  · exact hplain (Except.ok.inj h)

theorem staysIn_scanAssignment (cs : List Char) : StaysIn cs (scanAssignment cs) := by
  unfold scanAssignment
  split
  · next tail =>
    obtain ⟨hok, herror⟩ := staysIn_scanValue tail
    have hequals : tail <:+ '=' :: tail := List.suffix_cons _ _
    constructor
    · intro a rest h
      obtain ⟨⟨value, after⟩, hvalue, h⟩ := bind_eq_ok.1 h
      cases h
      exact (hok value rest hvalue).trans hequals
    · intro stopped h
      rcases bind_eq_error.1 h with hvalue | ⟨_, -, h⟩
      · exact (herror stopped hvalue).trans hequals
      · cases h
  · refine ⟨fun a rest h => ?_, nofun⟩
    cases h
    exact List.suffix_rfl

theorem hasNoReference_of_scanAssignment (hcs : HasNoReference cs)
    (h : scanAssignment cs = .ok (some value, rest)) : HasNoReference value := by
  unfold scanAssignment at h
  split at h
  · obtain ⟨⟨v, after⟩, hvalue, h⟩ := bind_eq_ok.1 h
    cases h
    exact hasNoReference_of_scanValue (hasNoReference_cons.1 hcs).2 hvalue
  · cases h

/-! ## Bindings -/

theorem bindings_nil : bindings [] = [] := by
  rw [bindings]
  rfl

theorem staysIn_scanBinding (cs : List Char) : StaysIn cs (scanBinding cs) := by
  obtain ⟨hname, hnoname⟩ := staysIn_scanName (skipExport cs)
  have hexport := suffix_skipExport cs
  have hblanks (ds : List Char) : ds.dropWhile isInlineBlank <:+ ds := List.dropWhile_suffix _
  constructor
  · intro found rest h
    obtain ⟨⟨n, ds⟩, hn, h⟩ := bind_eq_ok.1 h
    obtain ⟨⟨v, es⟩, hv, h⟩ := bind_eq_ok.1 h
    obtain ⟨fs, hend, h⟩ := bind_eq_ok.1 h
    cases h
    have hds := (hname n ds hn).trans hexport
    have hes := ((staysIn_scanAssignment _).1 v es hv).trans ((hblanks ds).trans hds)
    exact ((scanLineEnd_spec _).1 rest hend).trans ((suffix_skipComment es).trans hes)
  · intro stopped h
    rcases bind_eq_error.1 h with hn | ⟨⟨n, ds⟩, hn, h⟩
    · exact (hnoname stopped hn).trans hexport
    have hds := (hname n ds hn).trans hexport
    rcases bind_eq_error.1 h with hv | ⟨⟨v, es⟩, hv, h⟩
    · exact ((staysIn_scanAssignment _).2 stopped hv).trans ((hblanks ds).trans hds)
    have hes := ((staysIn_scanAssignment _).1 v es hv).trans ((hblanks ds).trans hds)
    rcases bind_eq_error.1 h with hend | ⟨fs, -, h⟩
    · exact ((scanLineEnd_spec _).2 stopped hend).trans ((suffix_skipComment es).trans hes)
    · cases h

theorem hasNoReference_of_scanBinding {b : Binding} {v : String} (hcs : HasNoReference cs)
    (h : scanBinding cs = .ok (some b, rest)) (hv : b.value = some v) :
    HasNoReference v.toList := by
  obtain ⟨⟨n, ds⟩, hn, h⟩ := bind_eq_ok.1 h
  obtain ⟨⟨v?, es⟩, hvalue, h⟩ := bind_eq_ok.1 h
  obtain ⟨fs, -, h⟩ := bind_eq_ok.1 h
  have hds : ds <:+ cs := ((staysIn_scanName _).1 n ds hn).trans (suffix_skipExport cs)
  have hassignment : ds.dropWhile isInlineBlank <:+: cs :=
    ((List.dropWhile_suffix _).trans hds).isInfix
  obtain ⟨hfound, -⟩ := Prod.mk.inj (Except.ok.inj h)
  obtain ⟨name, -, rfl⟩ := Option.map_eq_some_iff.1 hfound
  obtain ⟨value, rfl, rfl⟩ := Option.map_eq_some_iff.1 hv
  rw [String.toList_ofList]
  exact hasNoReference_of_scanAssignment (hcs.of_infix hassignment) hvalue

/-- One step in a file: what it finds, and where it goes on. A line that cannot be read is skipped
from where it stops. -/
theorem step_cases {found : Option Binding}
    (h : (match scanBinding cs with
      | .ok (found, rest) => (found, rest)
      | .error stopped => (none, nextLine stopped)) = (found, rest)) :
    scanBinding cs = .ok (found, rest)
      ∨ ∃ stopped, scanBinding cs = .error stopped ∧ found = none ∧ rest = nextLine stopped := by
  cases hscan : scanBinding cs with
  | ok r =>
    rw [hscan] at h
    exact Or.inl (congrArg Except.ok h)
  | error stopped =>
    rw [hscan] at h
    obtain ⟨rfl, rfl⟩ := Prod.mk.inj h
    exact Or.inr ⟨stopped, rfl, rfl, rfl⟩

/-- No value of a file has a reference if the text of the file has none. -/
theorem hasNoReference_of_mem_bindings {b : Binding} {v : String} (hcs : HasNoReference cs)
    (hb : b ∈ bindings cs) (hv : b.value = some v) : HasNoReference v.toList := by
  have hstep {cs rest : List Char} {found : Option Binding} (hcs : HasNoReference cs)
      (hscan : scanBinding (cs.dropWhile isBlank) = .ok (found, rest)
        ∨ ∃ stopped, scanBinding (cs.dropWhile isBlank) = .error stopped ∧ found = none
          ∧ rest = nextLine stopped) :
      rest <:+ cs ∧ (b ∈ found.toList → HasNoReference v.toList) := by
    have hstart : cs.dropWhile isBlank <:+ cs := List.dropWhile_suffix _
    rcases hscan with hok | ⟨stopped, herror, rfl, rfl⟩
    · refine ⟨((staysIn_scanBinding _).1 found rest hok).trans hstart, fun hb => ?_⟩
      rw [Option.mem_toList.1 hb] at hok
      exact hasNoReference_of_scanBinding (hcs.of_infix hstart.isInfix) hok hv
    · have hstopped := (staysIn_scanBinding _).2 stopped herror
      exact ⟨(suffix_nextLine stopped).trans (hstopped.trans hstart), nofun⟩
  -- The induction is on the steps in the file, each of which goes on in a suffix of it.
  fun_induction bindings cs with
  | case1 => cases hb
  | case2 cs start hstart found rest hscan hlt ih =>
    obtain ⟨hrest, hfound⟩ := hstep hcs (step_cases hscan)
    rcases List.mem_append.1 hb with hb | hb
    · exact hfound hb
    · exact ih (hcs.of_infix hrest.isInfix) hb
  | case3 cs start hstart found rest hscan hlt =>
    exact (hstep hcs (step_cases hscan)).2 hb

end

/-! ## The last binding -/

section

variable {env : String → Option String}

theorem resolveOnto_append (known bs bs' : List Binding) :
    resolveOnto env known (bs ++ bs') = resolveOnto env (resolveOnto env known bs) bs' := by
  induction bs generalizing known with
  | nil => rfl
  | cons b bs ih => exact ih _

/-- Bindings of other names leave what is known of a name. -/
theorem find?_resolveOnto_of_ne {name : String} {bs : List Binding}
    (h : ∀ b ∈ bs, b.name ≠ name) (known : List Binding) :
    (resolveOnto env known bs).find? (·.name = name) = known.find? (·.name = name) := by
  induction bs generalizing known with
  | nil => rfl
  | cons b bs ih =>
    obtain ⟨hb, hbs⟩ := List.forall_mem_cons.1 h
    rw [resolveOnto, ih hbs, List.find?_cons_of_neg (by simpa using hb)]

/-- A value with its references replaced, given the bindings before it in the file. -/
def interpolated (env : String → Option String) (earlier : List Binding) (v : String) : String :=
  String.ofList (interpolate (meaning env (resolveOnto env [] earlier)) v.toList)

/-- The last binding of a name decides. -/
theorem lookup_append_cons {earlier later : List Binding} {b : Binding}
    (h : ∀ b' ∈ later, b'.name ≠ b.name) :
    lookup env (earlier ++ b :: later) b.name = b.value.map (interpolated env earlier) := by
  rw [lookup, resolveOnto_append, resolveOnto, find?_resolveOnto_of_ne h,
    List.find?_cons_of_pos (by simp)]
  rfl

theorem lookup_eq_none {bs : List Binding} {name : String} (h : ∀ b ∈ bs, b.name ≠ name) :
    lookup env bs name = none := by
  rw [lookup, find?_resolveOnto_of_ne h]
  rfl

/-- The value of the last binding of a name, as it stands in the file. -/
def lastValue? (bs : List Binding) (name : String) : Option String :=
  (bs.reverse.find? (·.name = name)).bind (·.value)

theorem find?_reverse_append_cons {earlier later : List Binding} {b : Binding}
    (h : ∀ b' ∈ later, b'.name ≠ b.name) :
    (earlier ++ b :: later).reverse.find? (·.name = b.name) = some b := by
  have hlater : later.reverse.find? (·.name = b.name) = none := by
    rw [List.find?_eq_none]
    intro b' hb'
    simpa using h b' (List.mem_reverse.1 hb')
  rw [List.reverse_append, List.reverse_cons, List.append_assoc, List.find?_append,
    hlater, Option.none_or, List.singleton_append, List.find?_cons_of_pos (by simp)]

theorem find?_reverse_eq_none {bs : List Binding} {name : String} (h : ∀ b ∈ bs, b.name ≠ name) :
    bs.reverse.find? (·.name = name) = none := by
  rw [List.find?_eq_none]
  intro b hb
  simpa using h b (List.mem_reverse.1 hb)

theorem lastValue?_append_cons {earlier later : List Binding} {b : Binding}
    (h : ∀ b' ∈ later, b'.name ≠ b.name) :
    lastValue? (earlier ++ b :: later) b.name = b.value := by
  rw [lastValue?, find?_reverse_append_cons h]
  rfl

theorem lastValue?_eq_none {bs : List Binding} {name : String} (h : ∀ b ∈ bs, b.name ≠ name) :
    lastValue? bs name = none := by
  rw [lastValue?, find?_reverse_eq_none h]
  rfl

/-- Either no binding has a name, or there is a last one that has it. -/
theorem exists_last_binding (bs : List Binding) (name : String) :
    (∀ b ∈ bs, b.name ≠ name)
      ∨ ∃ earlier b later, bs = earlier ++ b :: later ∧ b.name = name
        ∧ ∀ b' ∈ later, b'.name ≠ name := by
  induction bs with
  | nil => exact Or.inl nofun
  | cons b bs ih =>
    rcases ih with hnone | ⟨earlier, b', later, rfl, hname, hlater⟩
    · by_cases hb : b.name = name
      · exact Or.inr ⟨[], b, bs, rfl, hb, hnone⟩
      · exact Or.inl (List.forall_mem_cons.2 ⟨hb, hnone⟩)
    · exact Or.inr ⟨b :: earlier, b', later, rfl, hname, hlater⟩

theorem lookup_eq_none_iff {bs : List Binding} {name : String} :
    lookup env bs name = none ↔ lastValue? bs name = none := by
  rcases exists_last_binding bs name with hnone | ⟨earlier, b, later, rfl, rfl, hlast⟩
  · rw [lookup_eq_none hnone, lastValue?_eq_none hnone]
  · rw [lookup_append_cons hlast, lastValue?_append_cons hlast, Option.map_eq_none_iff]

theorem interpolated_eq_self {v : String} (h : HasNoReference v.toList) (earlier : List Binding) :
    interpolated env earlier v = v := by
  rw [interpolated, interpolate_eq_self _ h, String.ofList_toList]

/-- Without references a name has the value that stands in its last binding. -/
theorem lookup_eq_lastValue? {bs : List Binding} {name : String}
    (h : ∀ v, lastValue? bs name = some v → HasNoReference v.toList) :
    lookup env bs name = lastValue? bs name := by
  rcases exists_last_binding bs name with hnone | ⟨earlier, b, later, rfl, rfl, hlast⟩
  · rw [lookup_eq_none hnone, lastValue?_eq_none hnone]
  · rw [lastValue?_append_cons hlast] at h
    rw [lookup_append_cons hlast, lastValue?_append_cons hlast]
    cases hv : b.value with
    | none => rfl
    | some v => rw [Option.map_some, interpolated_eq_self (h v hv)]

theorem exists_of_lastValue? {bs : List Binding} {name v : String}
    (h : lastValue? bs name = some v) :
    ∃ earlier later, bs = earlier ++ ⟨name, some v⟩ :: later ∧ ∀ b ∈ later, b.name ≠ name := by
  rcases exists_last_binding bs name with hnone | ⟨earlier, ⟨n, v?⟩, later, rfl, rfl, hlast⟩
  · rw [lastValue?_eq_none hnone] at h
    cases h
  · rw [lastValue?_append_cons hlast] at h
    obtain rfl : v? = some v := h
    exact ⟨earlier, later, rfl, hlast⟩

theorem mem_of_lastValue? {bs : List Binding} {name v : String}
    (h : lastValue? bs name = some v) : ∃ b ∈ bs, b.value = some v := by
  obtain ⟨b, hb, hv⟩ := Option.bind_eq_some_iff.1 h
  exact ⟨b, List.mem_reverse.1 (List.mem_of_find?_eq_some hb), hv⟩

end

end PersistedDocument.Settings.EnvironmentFile
