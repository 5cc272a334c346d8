import Mathlib.Data.List.Induction
import PersistedDocument.Proofs.EnvironmentFile

/-!
# Proofs: references in environment files

A reference is a name in braces after a dollar sign, possibly with what stands for it by default.
The relations below say, without a scan, how references are written, what each of them stands for,
what a value comes to that has some, and so what the bindings of a file come to one after the other.
Reading a file gives what they say, and they leave nothing open.
-/

namespace PersistedDocument.Settings.EnvironmentFile

/-! ## What references come to -/

/-- A reference as it is written. A name ends at a brace or a colon, and a default at a brace. -/
structure WrittenReference where
  /-- The name that is referred to. -/
  name : List Char
  /-- What stands for it by default, if the reference says so. -/
  default? : Option (List Char)
  /-- The name has no brace or colon in it. -/
  name_ends : ∀ c ∈ name, c ≠ '}' ∧ c ≠ ':'
  /-- The default has no brace in it. -/
  default_ends : ∀ d ∈ default?, '}' ∉ d

namespace WrittenReference

/-- A reference from its name on. -/
def body (r : WrittenReference) : List Char :=
  r.name ++ (r.default?.elim [] fun d => ':' :: '-' :: d) ++ ['}']

/-- The text of a reference. -/
def text (r : WrittenReference) : List Char := '$' :: '{' :: r.body

/-- What a reference stands for after some bindings, given in the order of the file and with their
references replaced. The last of them that has the name comes first, as an empty text if it has no
value, then the environment, and then the default, which is empty where the reference has none. -/
inductive StandsFor (env : String → Option String) (earlier : List Binding)
    (r : WrittenReference) : List Char → Prop
  | binding {before after : List Binding} {value? : Option String}
    (h : earlier = before ++ ⟨String.ofList r.name, value?⟩ :: after)
    (hlast : ∀ b ∈ after, b.name ≠ String.ofList r.name) :
    StandsFor env earlier r (value?.getD "").toList
  | environment {value : String} (hnone : ∀ b ∈ earlier, b.name ≠ String.ofList r.name)
    (he : env (String.ofList r.name) = some value) : StandsFor env earlier r value.toList
  | default (hnone : ∀ b ∈ earlier, b.name ≠ String.ofList r.name)
    (he : env (String.ofList r.name) = none) : StandsFor env earlier r (r.default?.getD [])

end WrittenReference

/-- What a value comes to after some bindings. From left to right each reference gives way to what
it stands for, and a character at which no reference starts stays. -/
inductive ComesTo (env : String → Option String) (earlier : List Binding) :
    List Char → List Char → Prop
  | nil : ComesTo env earlier [] []
  | reference {r : WrittenReference} {replacement rest out : List Char}
    (hr : r.StandsFor env earlier replacement) (h : ComesTo env earlier rest out) :
    ComesTo env earlier (r.text ++ rest) (replacement ++ out)
  | kept {c : Char} {rest out : List Char} (hc : ∀ r : WrittenReference, ¬r.text <+: c :: rest)
    (h : ComesTo env earlier rest out) : ComesTo env earlier (c :: rest) (c :: out)

/-- What bindings come to in the order of the file: each value by the bindings before it. -/
inductive AllComeTo (env : String → Option String) : List Binding → List Binding → Prop
  | nil : AllComeTo env [] []
  | valueless {bs results : List Binding} {name : String} (h : AllComeTo env bs results) :
    AllComeTo env (bs ++ [⟨name, none⟩]) (results ++ [⟨name, none⟩])
  | value {bs results : List Binding} {name value : String} {out : List Char}
    (h : AllComeTo env bs results) (hvalue : ComesTo env results value.toList out) :
    AllComeTo env (bs ++ [⟨name, some value⟩]) (results ++ [⟨name, some (String.ofList out)⟩])

/-! ## Reading a reference -/

/-- What is read of a reference. -/
def WrittenReference.reading (r : WrittenReference) : Reference :=
  ⟨r.name, r.default?.getD [], r.body.length⟩

section

variable {name : List Char} (hname : ∀ c ∈ name, c ≠ '}' ∧ c ≠ ':')

include hname

theorem takeWhile_referredName {d : Char} (hd : d = '}' ∨ d = ':') (rest : List Char) :
    (name ++ d :: rest).takeWhile (fun c => c ≠ '}' && c ≠ ':') = name := by
  refine takeWhile_append_cons (fun c hc => by simpa using hname c hc) ?_ rest
  rcases hd with rfl | rfl <;> decide

theorem reference?_name (rest : List Char) :
    reference? (name ++ '}' :: rest) = some ⟨name, [], name.length + 1⟩ := by
  rw [reference?, takeWhile_referredName hname (Or.inl rfl), List.drop_left]
  rfl

theorem reference?_default {d : List Char} (hd : '}' ∉ d) (rest : List Char) :
    reference? (name ++ ':' :: '-' :: (d ++ '}' :: rest))
      = some ⟨name, d, name.length + d.length + 3⟩ := by
  have hdefault : (d ++ '}' :: rest).takeWhile (· ≠ '}') = d := by
    refine takeWhile_append_cons (fun c hc => ?_) (by decide) rest
    rw [decide_eq_true_eq]
    rintro rfl
    exact hd hc
  rw [reference?, takeWhile_referredName hname (Or.inr rfl), List.drop_left]
  simp only [hdefault]
  rw [if_pos (by simp)]

end

theorem reference?_body (r : WrittenReference) (rest : List Char) :
    reference? (r.body ++ rest) = some r.reading := by
  obtain ⟨name, default?, hname, hdefault⟩ := r
  rw [WrittenReference.reading, WrittenReference.body]
  cases default? with
  | none => simp [reference?_name hname]
  | some d => simp [reference?_default hname (hdefault d rfl), Nat.add_assoc]

theorem holds_of_mem_takeWhile {p : Char → Bool} {cs : List Char} {c : Char}
    (h : c ∈ cs.takeWhile p) : p c = true :=
  List.all_eq_true.1 List.all_takeWhile c h

/-- A default that ends before the text does ends at a brace. -/
theorem exists_before_brace {cs : List Char} (h : (cs.takeWhile (· ≠ '}')).length < cs.length) :
    ∃ d, '}' ∉ d ∧ ∃ after, cs = d ++ '}' :: after := by
  have hsplit := List.takeWhile_append_dropWhile (p := (· ≠ '}')) (l := cs)
  have hbefore : '}' ∉ cs.takeWhile (· ≠ '}') := fun hc => by
    simpa using holds_of_mem_takeWhile hc
  cases hafter : cs.dropWhile (· ≠ '}') with
  | nil =>
    rw [hafter, List.append_nil] at hsplit
    rw [hsplit] at h
    exact absurd h (Nat.lt_irrefl _)
  | cons c after =>
    obtain rfl : c = '}' := by
      have hc := List.head?_dropWhile_not (p := (· ≠ '}')) (l := cs)
      rw [hafter] at hc
      simpa using hc
    exact ⟨_, hbefore, after, by rw [← hafter, hsplit]⟩

theorem exists_of_reference? {cs : List Char} {ref : Reference} (h : reference? cs = some ref) :
    ∃ r : WrittenReference, r.body <+: cs := by
  have hname : ∀ c ∈ cs.takeWhile fun c => c ≠ '}' && c ≠ ':', c ≠ '}' ∧ c ≠ ':' := fun c hc => by
    simpa using holds_of_mem_takeWhile hc
  have hcs := List.prefix_iff_eq_append.1
    (List.takeWhile_prefix (l := cs) fun c => c ≠ '}' && c ≠ ':')
  unfold reference? at h
  dsimp only at h
  generalize (cs.takeWhile fun c => c ≠ '}' && c ≠ ':') = name at h hname hcs
  rw [← hcs]
  split at h
  · next rest hrest =>
    rw [hrest]
    exact ⟨⟨name, none, hname, nofun⟩, rest, by simp [WrittenReference.body]⟩
  · next rest hrest =>
    split at h
    · next hlt =>
      obtain ⟨d, hd, after, rfl⟩ := exists_before_brace hlt
      rw [hrest]
      refine ⟨⟨name, some d, hname, ?_⟩, after, by simp [WrittenReference.body]⟩
      rintro _ ⟨⟩
      exact hd
    · cases h
  · cases h

/-- A reference that is read is taken off, and its replacement put in its place. -/
theorem interpolate_text (lookup : String → Option String) (r : WrittenReference)
    (rest : List Char) :
    interpolate lookup (r.text ++ rest)
      = (lookup (String.ofList r.name)).elim (r.default?.getD []) String.toList
        ++ interpolate lookup rest := by
  have htext : r.text ++ rest = '$' :: '{' :: (r.body ++ rest) := rfl
  have hdrop : ('{' :: (r.body ++ rest)).drop (1 + r.body.length) = rest := by
    rw [Nat.add_comm, List.drop_succ_cons, List.drop_left]
  rw [htext, interpolate, if_pos (by simp), List.drop_succ_cons, List.drop_zero, reference?_body]
  dsimp only [WrittenReference.reading]
  rw [hdrop]

theorem interpolate_cons (lookup : String → Option String) {c : Char} {rest : List Char}
    (h : ∀ r : WrittenReference, ¬r.text <+: c :: rest) :
    interpolate lookup (c :: rest) = c :: interpolate lookup rest := by
  have hnone : (if c = '$' && rest.head? = some '{' then reference? (rest.drop 1) else none)
      = none := by
    split
    · next hstart =>
      obtain ⟨rfl, hbrace⟩ : c = '$' ∧ rest.head? = some '{' := by simpa using hstart
      obtain ⟨rest, rfl⟩ := List.head?_eq_some_iff.1 hbrace
      rw [List.drop_succ_cons, List.drop_zero, Option.eq_none_iff_forall_ne_some]
      intro ref href
      obtain ⟨r, hr⟩ := exists_of_reference? href
      have htext : r.text <+: '$' :: '{' :: rest :=
        List.cons_prefix_cons.2 ⟨rfl, List.cons_prefix_cons.2 ⟨rfl, hr⟩⟩
      exact h r htext
    · rfl
  rw [interpolate, hnone]

/-! ## Reading a file -/

section

variable {env : String → Option String} {earlier results : List Binding}

theorem WrittenReference.standsFor_iff {r : WrittenReference} {replacement : List Char} :
    r.StandsFor env earlier replacement ↔ replacement
      = (meaning env earlier.reverse (String.ofList r.name)).elim (r.default?.getD [])
        String.toList := by
  have hmeaning (hnone : ∀ b ∈ earlier, b.name ≠ String.ofList r.name) :
      meaning env earlier.reverse (String.ofList r.name) = env (String.ofList r.name) := by
    rw [meaning, find?_reverse_eq_none hnone]
  constructor
  · intro h
    cases h with
    | @binding before after value? h hlast =>
      rw [h, meaning, find?_reverse_append_cons (b := ⟨String.ofList r.name, value?⟩) hlast]
      rfl
    | environment hnone he =>
      rw [hmeaning hnone, he]
      rfl
    | default hnone he =>
      rw [hmeaning hnone, he]
      rfl
  · rintro rfl
    rcases exists_last_binding earlier (String.ofList r.name) with
      hnone | ⟨before, ⟨name, value?⟩, after, rfl, rfl, hlast⟩
    · rw [hmeaning hnone]
      cases he : env (String.ofList r.name) with
      | none => exact .default hnone he
      | some value => exact .environment hnone he
    · rw [meaning, find?_reverse_append_cons (b := ⟨String.ofList r.name, value?⟩) hlast]
      exact .binding rfl hlast

/-- A value comes to what reading it after the bindings before gives, and to nothing else. -/
theorem comesTo_iff {cs out : List Char} :
    ComesTo env earlier cs out ↔ out = interpolate (meaning env earlier.reverse) cs := by
  constructor
  · intro h
    induction h with
    | nil => rw [interpolate]
    | reference hr h ih => rw [interpolate_text, ih, WrittenReference.standsFor_iff.1 hr]
    | kept hc h ih => rw [interpolate_cons _ hc, ih]
  · rintro rfl
    -- The induction is on the length, since a reference takes several characters at once.
    induction hn : cs.length using Nat.strongRecOn generalizing cs with
    | ind n ih =>
      cases cs with
      | nil =>
        rw [interpolate]
        exact .nil
      | cons c rest =>
        by_cases hc : ∃ r : WrittenReference, r.text <+: c :: rest
        · obtain ⟨r, after, hafter⟩ := hc
          rw [← hafter, interpolate_text]
          refine .reference (WrittenReference.standsFor_iff.2 rfl) (ih _ ?_ rfl)
          rw [← hn, ← hafter, WrittenReference.text]
          simp
          omega
        · have hkept := not_exists.1 hc
          rw [interpolate_cons _ hkept]
          exact .kept hkept (ih _ (by rw [← hn]; simp) rfl)

theorem resolveOnto_concat (known bs : List Binding) (b : Binding) :
    resolveOnto env known (bs ++ [b])
      = ⟨b.name, b.value.map fun v =>
          String.ofList (interpolate (meaning env (resolveOnto env known bs)) v.toList)⟩
        :: resolveOnto env known bs := by
  rw [resolveOnto_append]
  rfl

/-- Bindings come to what reading the file gives, and to nothing else. -/
theorem allComeTo_iff {bs : List Binding} :
    AllComeTo env bs results ↔ results.reverse = resolveOnto env [] bs := by
  constructor
  · intro h
    induction h with
    | nil => rfl
    | valueless h ih =>
      rw [resolveOnto_concat, List.reverse_append, ih]
      rfl
    | value h hvalue ih =>
      rw [resolveOnto_concat, List.reverse_append, ih, comesTo_iff.1 hvalue, ih]
      rfl
  · intro h
    induction bs using List.reverseRecOn generalizing results with
    | nil =>
      obtain rfl := List.reverse_eq_nil_iff.1 h
      exact .nil
    | append_singleton bs b ih =>
      obtain ⟨name, value?⟩ := b
      rw [resolveOnto_concat, List.reverse_eq_cons_iff] at h
      rw [h]
      have hbefore := ih (List.reverse_reverse (resolveOnto env [] bs))
      cases value? with
      | none => exact .valueless hbefore
      | some value =>
        refine .value hbefore (comesTo_iff.2 ?_)
        rw [List.reverse_reverse]

theorem WrittenReference.not_prefix {c : Char} (hc : c ≠ '$') (r : WrittenReference)
    (rest : List Char) : ¬r.text <+: c :: rest :=
  fun h => hc (List.cons_prefix_cons.1 h).1.symm

theorem comesTo_self {cs : List Char} (h : HasNoReference cs) : ComesTo env earlier cs cs :=
  comesTo_iff.2 (interpolate_eq_self _ h).symm

/-- Bindings without references come to themselves. -/
theorem allComeTo_self {bs : List Binding}
    (h : ∀ b ∈ bs, ∀ v ∈ b.value, HasNoReference v.toList) : AllComeTo env bs bs := by
  induction bs using List.reverseRecOn with
  | nil => exact .nil
  | append_singleton bs b ih =>
    obtain ⟨hbs, hb⟩ := List.forall_mem_append.1 h
    obtain ⟨name, value?⟩ := b
    cases value? with
    | none => exact .valueless (ih hbs)
    | some v =>
      have hself : AllComeTo env (bs ++ [⟨name, some v⟩])
          (bs ++ [⟨name, some (.ofList v.toList)⟩]) :=
        .value (ih hbs) (comesTo_self (hb _ (List.mem_singleton_self _) v rfl))
      rwa [String.ofList_toList] at hself

/-- What a value comes to is the value that a name has by it. -/
theorem interpolated_eq {value : String} {out : List Char} (hearlier : AllComeTo env earlier results)
    (hvalue : ComesTo env results value.toList out) :
    interpolated env earlier value = String.ofList out := by
  rw [interpolated, ← allComeTo_iff.1 hearlier, comesTo_iff.1 hvalue]

/-- Every value comes to something. -/
theorem exists_comesTo (env : String → Option String) (earlier : List Binding) (value : String) :
    ∃ results out, AllComeTo env earlier results ∧ ComesTo env results value.toList out :=
  ⟨_, _, allComeTo_iff.2 (List.reverse_reverse _), comesTo_iff.2 rfl⟩

end

end PersistedDocument.Settings.EnvironmentFile
