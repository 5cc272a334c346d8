import PersistedDocument.Validation

/-!
# Proofs: checking given values

Checks of several fields succeed if each of them does, and otherwise their problems are those of the
fields, one after another. A field that must be given, or that has a default, has at most one
problem: there is no value for it, or the value is not what it should be.
-/

namespace PersistedDocument

variable {α β : Type}

namespace LooseText

theorem eq_of_mapM_toChar? {t : LooseText} {cs : List Char}
    (h : t.mapM CodePoint.toChar? = some cs) : t = cs.map .scalar := by
  induction t generalizing cs with
  | nil =>
    cases h
    rfl
  | cons c t ih =>
    rw [List.mapM_cons] at h
    obtain ⟨d, hd, h⟩ := Option.bind_eq_some_iff.1 h
    obtain ⟨ds, hds, h⟩ := Option.bind_eq_some_iff.1 h
    cases h
    cases c with
    | scalar c =>
      cases hd
      rw [ih hds, List.map_cons]
    | surrogate offset => cases hd

theorem toString?_eq_some_iff {t : LooseText} {s : String} :
    t.toString? = some s ↔ t = ofString s := by
  constructor
  · intro h
    obtain ⟨cs, hcs, rfl⟩ := Option.map_eq_some_iff.1 h
    rw [ofString, String.toList_ofList]
    exact eq_of_mapM_toChar? hcs
  · rintro rfl
    exact toString?_ofString s

end LooseText

theorem Json.text_injective {s s' : String} (h : Json.text s = Json.text s') : s = s' := by
  have hloose : LooseText.ofString s = LooseText.ofString s' := Json.string.inj h
  have hread := LooseText.toString?_ofString s'
  rw [← hloose, LooseText.toString?_ofString] at hread
  exact Option.some.inj hread

namespace Checked

/-! ## Several checks -/

theorem map_eq_valid {f : α → β} {c : Checked α} {b : β} :
    f <$> c = .valid b ↔ ∃ a, c = .valid a ∧ f a = b := by
  cases c with
  | valid a => simp [Functor.map, map]
  | invalid ps => simp [Functor.map, map]

theorem seq_eq_valid {f : Checked (α → β)} {c : Checked α} {b : β} :
    f <*> c = .valid b ↔ ∃ g a, f = .valid g ∧ c = .valid a ∧ g a = b := by
  cases f with
  | valid g => cases c <;> simp [Seq.seq, ap, map]
  | invalid ps => simp [Seq.seq, ap]

theorem problems_map (f : α → β) (c : Checked α) : (f <$> c).problems = c.problems := by
  cases c <;> rfl

/-- The problems of two checks are those of the one and those of the other. -/
theorem problems_seq (f : Checked (α → β)) (c : Checked α) :
    (f <*> c).problems = f.problems ++ c.problems := by
  cases f with
  | valid g => cases c <;> rfl
  | invalid ps => rfl

theorem join_eq_valid {c : Checked (Checked α)} {a : α} :
    join c = .valid a ↔ c = .valid (.valid a) := by
  cases c <;> simp [join]

/-! ## Single values -/

/-- A check of a value that is there: it has at most one complaint, and not that there is none. -/
def IsPlain (check : Json → Checked α) : Prop :=
  ∀ v, (∃ a, check v = .valid a) ∨ ∃ c, c ≠ .missing ∧ check v = complain c

theorem string_eq_valid_iff {v : Json} {s : String} : string v = .valid s ↔ v = .text s := by
  constructor
  · intro h
    unfold string at h
    split at h
    · next t ht =>
      cases h
      obtain ⟨loose, hloose, hs⟩ := Option.bind_eq_some_iff.1 ht
      cases v with
      | string value =>
        cases hloose
        rw [LooseText.toString?_eq_some_iff.1 hs]
        rfl
      | _ => cases hloose
    · cases h
  · rintro rfl
    have hread : ((Json.text s).string? >>= LooseText.toString?) = some s :=
      LooseText.toString?_ofString s
    rw [string, hread]

theorem isPlain_string : IsPlain string := by
  intro v
  unfold string
  split
  · exact Or.inl ⟨_, rfl⟩
  · exact Or.inr ⟨.notString, nofun, rfl⟩

theorem isPlain_number : IsPlain number := by
  intro v
  unfold number
  split
  · exact Or.inl ⟨_, rfl⟩
  · exact Or.inl ⟨_, rfl⟩
  · dsimp only
    split
    · exact Or.inr ⟨.notNumber, nofun, rfl⟩
    · exact Or.inl ⟨_, rfl⟩
  · split
    · exact Or.inl ⟨_, rfl⟩
    · exact Or.inr ⟨.unreadableNumber, nofun, rfl⟩
  · exact Or.inr ⟨.notNumber, nofun, rfl⟩

theorem isNull_eq_true_iff {v : Json} : v.isNull = true ↔ v = .null := by
  cases v <;> simp [Json.isNull]

theorem nullable_eq_valid_iff {check : Json → Checked α} {v : Json} {a? : Option α} :
    nullable check v = .valid a?
      ↔ v = .null ∧ a? = none ∨ v ≠ .null ∧ ∃ a, check v = .valid a ∧ a? = some a := by
  unfold nullable
  split
  · next h =>
    rw [isNull_eq_true_iff] at h
    simp [h, eq_comm]
  · next h =>
    rw [isNull_eq_true_iff] at h
    simp [h, map_eq_valid, eq_comm]

theorem exists_nullable_eq_valid_iff {check : Json → Checked α} {v : Json} :
    (∃ a?, nullable check v = .valid a?) ↔ v = .null ∨ ∃ a, check v = .valid a := by
  simp only [nullable_eq_valid_iff]
  constructor
  · rintro ⟨a?, ⟨hnull, -⟩ | ⟨-, a, ha, -⟩⟩
    · exact Or.inl hnull
    · exact Or.inr ⟨a, ha⟩
  · intro h
    by_cases hnull : v = .null
    · exact ⟨none, Or.inl ⟨hnull, rfl⟩⟩
    · obtain ⟨a, ha⟩ := h.resolve_left hnull
      exact ⟨some a, Or.inr ⟨hnull, a, ha, rfl⟩⟩

theorem IsPlain.nullable {check : Json → Checked α} (h : IsPlain check) :
    IsPlain (nullable check) := by
  intro v
  unfold Checked.nullable
  split
  · exact Or.inl ⟨none, rfl⟩
  · rcases h v with ⟨a, ha⟩ | ⟨c, hc, hv⟩
    · exact Or.inl ⟨some a, by rw [ha]; rfl⟩
    · exact Or.inr ⟨c, hc, by rw [hv]; rfl⟩

/-! ## Fields -/

section

variable {check : Json → Checked α} {name : String} {raw : Option Json}

theorem within_eq_valid_iff {outer : Location} {c : Checked α} {a : α} :
    within outer c = .valid a ↔ c = .valid a := by
  cases c <;> simp [within]

theorem required_eq_valid_iff {a : α} :
    required name check raw = .valid a ↔ ∃ v, raw = some v ∧ check v = .valid a := by
  rw [required.eq_def, within_eq_valid_iff]
  cases raw with
  | none => simp [complain]
  | some v => simp

/-- A default is what a value would be checked to be. -/
theorem withDefault_eq_required {default : α} {v : Json} (h : check v = .valid default) :
    withDefault name default check raw = required name check (raw.or (some v)) := by
  cases raw with
  | none =>
    rw [Option.none_or, withDefault, required, h]
  | some u => rfl

/-- A field that is not what it should be has one problem, and that there is no value is the problem
exactly if there is none. -/
theorem problems_required (h : IsPlain check) :
    (∃ v a, raw = some v ∧ check v = .valid a ∧ (required name check raw).problems = []) ∨
      (∀ v, raw = some v → ∀ a, check v ≠ .valid a) ∧
        ∃ c, (required name check raw).problems = [⟨[.field name], c⟩]
          ∧ (c = .missing ↔ raw = none) := by
  cases raw with
  | none => exact Or.inr ⟨nofun, .missing, rfl, by simp⟩
  | some v =>
    rcases h v with ⟨a, ha⟩ | ⟨c, hc, hv⟩
    · refine Or.inl ⟨v, a, rfl, ha, ?_⟩
      rw [required, ha]
      rfl
    · refine Or.inr ⟨fun u hu a ha => ?_, c, ?_, by simp [hc]⟩
      · cases hu
        rw [hv] at ha
        cases ha
      · rw [required, hv]
        rfl

end

end Checked

end PersistedDocument
