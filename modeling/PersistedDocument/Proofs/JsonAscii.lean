import PersistedDocument.Proofs.JsonLegible

/-!
# Proofs: JSON in printable ASCII

Values hold no control characters and nothing beyond ASCII, for what is not printable is escaped in
strings and in names, and whole numbers are digits. Only the gaps between their parts can hold line
breaks, and on one line there are none.
-/

namespace PersistedDocument.Json

/-- All characters of a text are printable ASCII. -/
def IsPrintable (cs : List Char) : Prop := ∀ c ∈ cs, 0x20 ≤ c.toNat ∧ c.toNat < 0x7F

theorem IsPrintable.append {cs ds : List Char} (hcs : IsPrintable cs) (hds : IsPrintable ds) :
    IsPrintable (cs ++ ds) :=
  List.forall_mem_append.2 ⟨hcs, hds⟩

theorem isPrintable_of_isDigit {cs : List Char} (h : ∀ c ∈ cs, c.isDigit = true) :
    IsPrintable cs := by
  intro c hc
  obtain ⟨hlow, hhigh⟩ := Char.isDigit_iff_toNat.1 (h c hc)
  exact ⟨Nat.le_trans (by decide) hlow, Nat.lt_of_le_of_lt hhigh (by decide)⟩

/-! ## Strings -/

theorem isPrintable_unitEscape (n : Nat) : IsPrintable (unitEscape n) := by
  have hall : ∀ m < 16, 0x20 ≤ (Hexadecimal.lower m).toNat
      ∧ (Hexadecimal.lower m).toNat < 0x7F := by
    decide
  have hdigit (m : Nat) := hall (m % 16) (Nat.mod_lt m (by decide))
  rw [unitEscape, Hexadecimal.fixed_four]
  simp only [IsPrintable, List.forall_mem_cons]
  exact ⟨by decide, by decide, hdigit _, hdigit _, hdigit _, hdigit _, nofun⟩

theorem isPrintable_letterOf? {c letter : Char} (h : letterOf? c = some letter) :
    IsPrintable [letter] := by
  refine List.forall_mem_singleton.2 ?_
  unfold letterOf? at h
  split at h <;> cases h <;> decide

theorem isPrintable_asciiOnly (c : CodePoint) : IsPrintable (asciiOnly c) := by
  cases c with
  | surrogate offset => exact isPrintable_unitEscape _
  | scalar c =>
    rw [asciiOnly]
    split
    · next letter hletter =>
      exact List.forall_mem_cons.2 ⟨by decide, isPrintable_letterOf? hletter⟩
    split
    · next hprintable =>
      exact List.forall_mem_singleton.2 ⟨hprintable.1, Nat.lt_succ_of_le hprintable.2⟩
    split
    · exact isPrintable_unitEscape _
    · exact (isPrintable_unitEscape _).append (isPrintable_unitEscape _)

theorem isPrintable_writeString (s : LooseText) : IsPrintable (writeString asciiOnly s) := by
  refine IsPrintable.append (List.forall_mem_cons.2 ⟨by decide, ?_⟩)
    (List.forall_mem_singleton.2 (by decide))
  intro c hc
  obtain ⟨point, -, hc⟩ := List.mem_flatMap.1 hc
  exact isPrintable_asciiOnly point c hc

/-! ## Values -/

theorem isPrintable_writeInteger (n : Int) : IsPrintable (writeInteger n) := by
  have hdigits (n : Nat) : IsPrintable (Decimal.digits n) :=
    isPrintable_of_isDigit fun c => Decimal.isDigit_of_mem_digits
  cases n with
  | ofNat n => exact hdigits n
  | negSucc n => exact List.forall_mem_cons.2 ⟨by decide, hdigits _⟩

/-- All characters of a text are of one kind, to which the printable ones belong. -/
def ConsistsOf (P : Char → Prop) (cs : List Char) : Prop := ∀ c ∈ cs, P c

theorem IsPrintable.consistsOf {P : Char → Prop}
    (hP : ∀ c : Char, 0x20 ≤ c.toNat ∧ c.toNat < 0x7F → P c) {cs : List Char}
    (h : IsPrintable cs) : ConsistsOf P cs :=
  fun c hc => hP c (h c hc)

/-- What sets the parts of a value apart is of one kind. -/
structure Spacing.ConsistsOf (P : Char → Prop) (spacing : Spacing) : Prop where
  between (level : Nat) : Json.ConsistsOf P (spacing.between level)
  around (level : Nat) : Json.ConsistsOf P (spacing.around level)
  afterName : Json.ConsistsOf P spacing.afterName

section

variable {P : Char → Prop} (hP : ∀ c : Char, 0x20 ≤ c.toNat ∧ c.toNat < 0x7F → P c)

theorem consistsOf_append {cs ds : List Char} (hcs : ConsistsOf P cs) (hds : ConsistsOf P ds) :
    ConsistsOf P (cs ++ ds) :=
  List.forall_mem_append.2 ⟨hcs, hds⟩

theorem consistsOf_joinWith {sep : List Char} (hsep : ConsistsOf P sep)
    {parts : List (List Char)} (h : ∀ part ∈ parts, ConsistsOf P part) :
    ConsistsOf P (Text.joinWith sep parts) := by
  induction parts with
  | nil => exact nofun
  | cons part parts ih =>
    obtain ⟨hpart, hparts⟩ := List.forall_mem_cons.1 h
    cases parts with
    | nil => exact hpart
    | cons next parts =>
      exact consistsOf_append (consistsOf_append hpart hsep) (ih hparts)

theorem consistsOf_bracket {spacing : Spacing} (hspacing : spacing.ConsistsOf P)
    {opening closing : Char} (hopening : P opening) (hclosing : P closing)
    {parts : List (List Char)} (h : ∀ part ∈ parts, ConsistsOf P part) (level : Nat) :
    ConsistsOf P (bracket spacing level opening closing parts) := by
  rw [bracket]
  split
  · exact List.forall_mem_cons.2 ⟨hopening, List.forall_mem_singleton.2 hclosing⟩
  · have hopened : ConsistsOf P (opening :: spacing.around (level + 1)) :=
      List.forall_mem_cons.2 ⟨hopening, hspacing.around _⟩
    have hjoined := consistsOf_joinWith (hspacing.between (level + 1)) h
    exact consistsOf_append (consistsOf_append (consistsOf_append hopened hjoined)
      (hspacing.around level)) (List.forall_mem_singleton.2 hclosing)

include hP

/-- Up to other numbers, a value is written in printable ASCII and what sets its parts apart. -/
theorem consistsOf_write {spacing : Spacing} (hspacing : spacing.ConsistsOf P) {v : Json}
    (h : v.HasOnlyIntegers) (level : Nat) : ConsistsOf P (write spacing asciiOnly level v) := by
  induction h generalizing level with
  | null =>
    rw [write]
    exact IsPrintable.consistsOf hP (by simp [IsPrintable])
  | boolean b =>
    rw [write]
    cases b <;> exact IsPrintable.consistsOf hP (by simp [IsPrintable])
  | integer n =>
    rw [write]
    exact (isPrintable_writeInteger n).consistsOf hP
  | string s =>
    rw [write]
    exact (isPrintable_writeString s).consistsOf hP
  | array _ ih =>
    rw [write, writeItems_eq_map]
    refine consistsOf_bracket hspacing (hP _ (by decide)) (hP _ (by decide)) (fun part hpart => ?_)
      level
    obtain ⟨v, hv, rfl⟩ := List.mem_map.1 hpart
    exact ih v hv (level + 1)
  | object _ ih =>
    rw [write, writeMembers_eq_map]
    refine consistsOf_bracket hspacing (hP _ (by decide)) (hP _ (by decide)) (fun part hpart => ?_)
      level
    obtain ⟨m, hm, rfl⟩ := List.mem_map.1 hpart
    have hname := (isPrintable_writeString m.1).consistsOf hP
    exact consistsOf_append (consistsOf_append hname hspacing.afterName) (ih m hm (level + 1))

end

/-- Up to other numbers, a value on one line is printable ASCII. -/
theorem isPrintable_serialize {v : Json} (h : v.HasOnlyIntegers) :
    IsPrintable v.serialize.toList := by
  have hcompact : compact.ConsistsOf fun c => 0x20 ≤ c.toNat ∧ c.toNat < 0x7F := by
    refine ⟨fun level => ?_, fun level => nofun, ?_⟩
    · exact List.forall_mem_singleton.2 (by decide)
    · exact List.forall_mem_singleton.2 (by decide)
  rw [serialize, String.toList_ofList]
  exact consistsOf_write (fun c hc => hc) hcompact h 0

/-- Up to other numbers, a value over several lines is ASCII. -/
theorem ascii_prettyPrint {v : Json} (h : v.HasOnlyIntegers) :
    ∀ c ∈ v.prettyPrint.toList, c.toNat < 0x80 := by
  have hbreak (level : Nat) : ConsistsOf (fun c => c.toNat < 0x80) (lineBreak level) := by
    intro c hc
    rcases List.mem_cons.1 hc with rfl | hc
    · decide
    · rw [List.eq_of_mem_replicate hc]
      decide
  have hspread : spread.ConsistsOf fun c => c.toNat < 0x80 := by
    refine ⟨fun level => ?_, hbreak, ?_⟩
    · exact List.forall_mem_cons.2 ⟨by decide, hbreak level⟩
    · exact List.forall_mem_cons.2 ⟨by decide, List.forall_mem_singleton.2 (by decide)⟩
  rw [prettyPrint, String.toList_ofList]
  exact consistsOf_write (fun c hc => Nat.lt_succ_of_lt hc.2) hspread h 0

end PersistedDocument.Json
