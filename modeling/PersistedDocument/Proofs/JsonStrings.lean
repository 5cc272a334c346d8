import PersistedDocument.Json.Reader
import PersistedDocument.Json.Writer
import PersistedDocument.Proofs.Fallible
import PersistedDocument.Proofs.WideEncodings

/-!
# Proofs: JSON strings

A code point is written in one of four ways: as it is, as an escape by letter, as an escape of its
code unit, or as two escapes of a surrogate pair. All of them are read as the code point, so that a
written string is read as it was, unless it holds a leading surrogate directly before a trailing
one, which would be read as the character that the two stand for.
-/

namespace PersistedDocument

/-! ## Hexadecimal digits -/

namespace Hexadecimal

theorem value?_lower {n : Nat} (h : n < 16) : value? (lower n) = some n := by
  have hall : ∀ m < 16, value? (lower m) = some m := by decide
  exact hall n h

theorem fixed_four (digit : Nat → Char) (n : Nat) :
    fixed digit 4 n = [digit (n / 16 / 16 / 16 % 16), digit (n / 16 / 16 % 16),
      digit (n / 16 % 16), digit (n % 16)] :=
  rfl

theorem read?_fixed_lower {n : Nat} (h : n < 0x10000) : read? (fixed lower 4 n) = some n := by
  have hvalue (m : Nat) : value? (lower (m % 16)) = some (m % 16) := value?_lower (by omega)
  rw [fixed_four, read?]
  simp only [List.foldl_cons, List.foldl_nil, hvalue, Option.pure_def, Option.bind_eq_bind,
    Option.bind_some, Option.some.injEq]
  omega

end Hexadecimal

/-! ## Surrogates next to each other -/

/-- No leading surrogate stands directly before a trailing one. -/
def LooseText.HasNoPair (t : LooseText) : Prop :=
  ∀ before c d after, t = before ++ c :: d :: after →
    ¬(CodePoint.isLeading c.toNat = true ∧ CodePoint.isTrailing d.toNat = true)

theorem LooseText.HasNoPair.tail {c : CodePoint} {t : LooseText} (h : HasNoPair (c :: t)) :
    HasNoPair t := by
  intro before d e after ht
  exact h (c :: before) d e after (by rw [ht, List.cons_append])

theorem LooseText.hasNoPair_ofString (s : String) : (LooseText.ofString s).HasNoPair := by
  intro before c d after hs
  have hc : c ∈ LooseText.ofString s := by
    rw [hs]
    exact List.mem_append_right _ List.mem_cons_self
  obtain ⟨c, -, rfl⟩ := List.mem_map.1 hc
  exact fun hpair => CodePoint.not_isLeading_scalar c hpair.1

namespace Json

open Reader

/-! ## Code points -/

/-- A code point is written as some characters, which are read as some parts of a string. -/
inductive WrittenAs : CodePoint → List Char → List StringPart → Prop
  /-- As it is. -/
  | plain {c : Char} (hquote : c ≠ '"') (hbackslash : c ≠ '\\') (hcontrol : 0x20 ≤ c.toNat) :
    WrittenAs (.scalar c) [c] [.point (.scalar c)]
  /-- As an escape by letter. -/
  | letter {c letter : Char} (h : letterOf? c = some letter) :
    WrittenAs (.scalar c) ['\\', letter] [.point (.scalar c)]
  /-- As an escape of its code unit. -/
  | unit {c : CodePoint} (h : c.toNat < 0x10000) :
    WrittenAs c (unitEscape c.toNat) [.unit c.toNat]
  /-- As a surrogate pair. -/
  | pair {c : Char} (h : 0x10000 ≤ c.toNat) :
    WrittenAs (.scalar c)
      (unitEscape (CodePoint.pairOf c.toNat).1 ++ unitEscape (CodePoint.pairOf c.toNat).2)
      [.unit (CodePoint.pairOf c.toNat).1, .unit (CodePoint.pairOf c.toNat).2]

/-- An escaping that writes every code point so that it can be read. -/
def Escaping.IsFaithful (esc : Escaping) : Prop := ∀ c, ∃ parts, WrittenAs c (esc c) parts

theorem letterOf?_eq_none {c : Char} (h : letterOf? c = none) : c ≠ '"' ∧ c ≠ '\\' := by
  constructor
  · rintro rfl
    cases h
  · rintro rfl
    cases h

theorem writtenAs_surrogate (offset : Fin 0x800) :
    WrittenAs (.surrogate offset) (unitEscape (CodePoint.firstSurrogate + offset.val))
      [.unit (CodePoint.firstSurrogate + offset.val)] := by
  refine WrittenAs.unit (c := .surrogate offset) ?_
  show CodePoint.firstSurrogate + offset.val < 0x10000
  unfold CodePoint.firstSurrogate
  omega

theorem isFaithful_minimal : Escaping.IsFaithful minimal := by
  intro c
  cases c with
  | surrogate offset => exact ⟨_, writtenAs_surrogate offset⟩
  | scalar c =>
    rw [minimal]
    split
    · next letter hletter => exact ⟨_, .letter hletter⟩
    · next hletter =>
      obtain ⟨hquote, hbackslash⟩ := letterOf?_eq_none hletter
      split
      · next hcontrol =>
        refine ⟨_, WrittenAs.unit (c := .scalar c) ?_⟩
        exact Nat.lt_trans hcontrol (by decide)
      · next hcontrol => exact ⟨_, .plain hquote hbackslash (Nat.le_of_not_lt hcontrol)⟩

theorem isFaithful_asciiOnly : Escaping.IsFaithful asciiOnly := by
  intro c
  cases c with
  | surrogate offset => exact ⟨_, writtenAs_surrogate offset⟩
  | scalar c =>
    rw [asciiOnly]
    split
    · next letter hletter => exact ⟨_, .letter hletter⟩
    next hletter =>
    obtain ⟨hquote, hbackslash⟩ := letterOf?_eq_none hletter
    split
    · next hprintable => exact ⟨_, .plain hquote hbackslash hprintable.1⟩
    split
    · next hplane => exact ⟨_, WrittenAs.unit (c := .scalar c) hplane⟩
    · next hplane => exact ⟨_, .pair (Nat.le_of_not_lt hplane)⟩

theorem codeUnit?_fixed {n : Nat} (h : n < 0x10000) (rest : LooseText) :
    codeUnit? ((Hexadecimal.fixed Hexadecimal.lower 4 n).map .scalar ++ rest) = some n := by
  have hread := Hexadecimal.read?_fixed_lower h
  rw [Hexadecimal.fixed_four] at hread ⊢
  exact hread

/-- An escape is read as the part that it is. -/
theorem stringParts_escape {text rest after : LooseText} {part : StringPart}
    {parts : List StringPart} (hpart : escapePart (text ++ rest) = .ok (part, text.length))
    (hrest : stringParts rest = .ok (parts, after)) :
    stringParts (.scalar '\\' :: (text ++ rest)) = .ok (part :: parts, after) := by
  rw [stringParts, if_neg (by decide), if_pos rfl, bind_eq_of_ok hpart]
  dsimp only
  rw [List.drop_left, bind_eq_of_ok hrest]
  rfl

/-- An escape of a code unit is read as the unit. -/
theorem stringParts_unitEscape {n : Nat} (h : n < 0x10000) {rest after : LooseText}
    {parts : List StringPart} (hrest : stringParts rest = .ok (parts, after)) :
    stringParts ((unitEscape n).map .scalar ++ rest) = .ok (.unit n :: parts, after) := by
  have hpart : escapePart (('u' :: Hexadecimal.fixed Hexadecimal.lower 4 n).map .scalar ++ rest)
      = .ok (.unit n, 5) := by
    rw [List.map_cons, List.cons_append, escapePart, codeUnit?_fixed h]
  exact stringParts_escape hpart hrest

/-- An escape by letter is read as the character that it was written for. -/
theorem escapeLetter?_letterOf? {c letter : Char} (h : letterOf? c = some letter) :
    escapeLetter? letter = some c ∧ letter ≠ 'u' := by
  unfold letterOf? at h
  split at h
  all_goals first
    | obtain rfl := Option.some.inj h
      exact ⟨rfl, by decide⟩
    | cases h

theorem stringParts_written {c : CodePoint} {written : List Char} {parts more : List StringPart}
    {rest after : LooseText} (h : WrittenAs c written parts)
    (hrest : stringParts rest = .ok (more, after)) :
    stringParts (written.map .scalar ++ rest) = .ok (parts ++ more, after) := by
  cases h with
  | @plain c hquote hbackslash hcontrol =>
    have hnot : ¬(CodePoint.scalar c).toNat < 0x20 := Nat.not_lt.2 hcontrol
    rw [List.map_singleton, List.singleton_append, stringParts, if_neg (by simpa using hquote),
      if_neg (by simpa using hbackslash), if_neg hnot, bind_eq_of_ok hrest]
    rfl
  | @letter c letter hletter =>
    obtain ⟨hread, hu⟩ := escapeLetter?_letterOf? hletter
    have hpart : escapePart ([CodePoint.scalar letter] ++ rest) = .ok (.point (.scalar c), 1) := by
      rw [List.singleton_append, escapePart]
      · rw [hread]
      · simpa using hu
    exact stringParts_escape hpart hrest
  | unit h => exact stringParts_unitEscape h hrest
  | @pair c h =>
    obtain ⟨hleading, htrailing⟩ := And.intro (CodePoint.isLeading_iff.1
      (CodePoint.isLeading_pairOf h (CodePoint.scalar c).toNat_lt))
      (CodePoint.isTrailing_iff.1 (CodePoint.isTrailing_pairOf c.toNat))
    rw [List.map_append, List.append_assoc]
    exact stringParts_unitEscape (by omega) (stringParts_unitEscape (by omega) hrest)

/-- The parts of a string give back the code point that is written first, unless it makes a pair
with the unit after it. -/
theorem joinParts_written {c : CodePoint} {written : List Char} {parts more : List StringPart}
    (h : WrittenAs c written parts)
    (hpair : ∀ n tail, more = .unit n :: tail →
      ¬(CodePoint.isLeading c.toNat = true ∧ CodePoint.isTrailing n = true)) :
    joinParts (parts ++ more) = c :: joinParts more := by
  cases h with
  | plain | letter => rfl
  | unit h =>
    match more with
    | [] => simp only [List.append_nil, joinParts, CodePoint.single_toNat]
    | .point d :: more =>
      simp only [List.cons_append, List.nil_append, joinParts, CodePoint.single_toNat]
    | .unit n :: more =>
      have hno : ¬(CodePoint.isLeading c.toNat && CodePoint.isTrailing n) = true := by
        rw [Bool.and_eq_true]
        exact hpair n more rfl
      simp only [List.cons_append, List.nil_append, joinParts, if_neg hno, CodePoint.single_toNat]
  | @pair c h =>
    have hyes : (CodePoint.isLeading (CodePoint.pairOf c.toNat).1
        && CodePoint.isTrailing (CodePoint.pairOf c.toNat).2) = true := by
      rw [Bool.and_eq_true]
      exact ⟨CodePoint.isLeading_pairOf h (CodePoint.scalar c).toNat_lt,
        CodePoint.isTrailing_pairOf c.toNat⟩
    have hsingle : Utf16.single c.toNat = .scalar c := CodePoint.single_toNat (.scalar c)
    simp only [List.cons_append, List.nil_append, joinParts, if_pos hyes,
      CodePoint.pairValue_pairOf h, hsingle]

/-- Only a trailing surrogate is written so that it begins with the unit of one. -/
theorem isTrailing_of_written {c : CodePoint} {written : List Char} {parts more : List StringPart}
    {n : Nat} {tail : List StringPart} (h : WrittenAs c written parts)
    (hparts : parts ++ more = .unit n :: tail) (hn : CodePoint.isTrailing n = true) :
    CodePoint.isTrailing c.toNat = true := by
  cases h with
  | plain | letter => cases hparts
  | unit h =>
    obtain ⟨hunit, -⟩ := List.cons.inj hparts
    rwa [StringPart.unit.inj hunit]
  | @pair c h =>
    obtain ⟨hunit, -⟩ := List.cons.inj hparts
    have hleading := CodePoint.isLeading_pairOf h (CodePoint.scalar c).toNat_lt
    rw [StringPart.unit.inj hunit] at hleading
    exact absurd hn (CodePoint.not_isTrailing_of_isLeading hleading)

/-! ## Strings -/

/-- The parts of a written string give it back. If they begin with the unit of a trailing surrogate,
the string begins with one. -/
theorem exists_stringParts {esc : Escaping} (hesc : esc.IsFaithful) {s : LooseText}
    (hs : s.HasNoPair) (rest : LooseText) :
    ∃ parts, stringParts ((s.flatMap esc).map .scalar ++ .scalar '"' :: rest) = .ok (parts, rest)
      ∧ joinParts parts = s
      ∧ ∀ n tail, parts = .unit n :: tail → CodePoint.isTrailing n = true →
        ∃ c t, s = c :: t ∧ CodePoint.isTrailing c.toNat = true := by
  induction s with
  | nil =>
    refine ⟨[], ?_, rfl, nofun⟩
    rw [List.flatMap_nil, List.map_nil, List.nil_append, stringParts, if_pos rfl]
  | cons c s ih =>
    obtain ⟨more, hmore, hjoin, hhead⟩ := ih hs.tail
    obtain ⟨parts, hc⟩ := hesc c
    have hpair : ∀ n tail, more = .unit n :: tail →
        ¬(CodePoint.isLeading c.toNat = true ∧ CodePoint.isTrailing n = true) := by
      rintro n tail hn ⟨hleading, htrailing⟩
      obtain ⟨d, t, rfl, hd⟩ := hhead n tail hn htrailing
      exact hs [] c d t rfl ⟨hleading, hd⟩
    refine ⟨parts ++ more, ?_, ?_, fun n tail hn htrailing => ?_⟩
    · rw [List.flatMap_cons, List.map_append, List.append_assoc]
      exact stringParts_written hc hmore
    · rw [joinParts_written hc hpair, hjoin]
    · exact ⟨c, s, rfl, isTrailing_of_written hc hn htrailing⟩

theorem map_writeString (esc : Escaping) (s rest : LooseText) :
    (writeString esc s).map .scalar ++ rest
      = .scalar '"' :: ((s.flatMap esc).map .scalar ++ .scalar '"' :: rest) := by
  rw [writeString, List.map_append, List.map_singleton, List.append_assoc]
  rfl

/-- A written string is read as it was. -/
theorem string_written {esc : Escaping} (hesc : esc.IsFaithful) {s : LooseText} (hs : s.HasNoPair)
    (rest : LooseText) :
    Reader.string ((s.flatMap esc).map .scalar ++ .scalar '"' :: rest) = .ok (s, rest) := by
  obtain ⟨parts, hparts, hjoin, -⟩ := exists_stringParts hesc hs rest
  rw [Reader.string, bind_eq_of_ok hparts]
  show Except.ok (joinParts parts, rest) = Except.ok (s, rest)
  rw [hjoin]

end Json

end PersistedDocument
