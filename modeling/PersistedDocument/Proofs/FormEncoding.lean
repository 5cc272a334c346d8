import PersistedDocument.Proofs.UserInfo
import PersistedDocument.Proofs.Utf8

/-!
# Proofs: values in queries

A value in a query is written without the marks that an address is cut at, and undoing its escapes
gives it back, whatever characters it holds. An address with such a query keeps it as it is, since
nothing in it needs an escape.
-/

namespace PersistedDocument

namespace Percent

/-! ## Characters -/

/-- A character that stands in values in queries: a letter or a digit of ASCII, or a mark. -/
def IsFormCharacter (c : Char) : Prop := c.isAlphanum = true ∨ c ∈ ['-', '.', '_', '~', '+', '%']

instance (c : Char) : Decidable (IsFormCharacter c) :=
  inferInstanceAs (Decidable (c.isAlphanum = true ∨ c ∈ ['-', '.', '_', '~', '+', '%']))

theorem isFormCharacter_of_isUnreserved {c : Char} (h : isUnreserved c = true) :
    IsFormCharacter c := by
  simp only [isUnreserved, Bool.or_eq_true, decide_eq_true_eq] at h
  rcases h with (((h | rfl) | rfl) | rfl) | rfl
  · exact .inl h
  all_goals exact .inr (by decide)

theorem isFormCharacter_of_mem_escapeCharacter {c d : Char} (h : d ∈ escapeCharacter c) :
    IsFormCharacter d := by
  rcases mem_escapeCharacter h with rfl | ⟨n, hn, rfl⟩
  · decide
  · have hall : ∀ m < 16, IsFormCharacter (Hexadecimal.upper m) := by decide
    exact hall n hn

theorem isFormCharacter_of_mem_formEncode {cs : List Char} {d : Char} (h : d ∈ formEncode cs) :
    IsFormCharacter d := by
  obtain ⟨c, -, hd⟩ := List.mem_flatMap.1 h
  split at hd
  · next hkept =>
    rw [List.mem_singleton.1 hd]
    exact isFormCharacter_of_isUnreserved hkept
  split at hd
  · rw [List.mem_singleton.1 hd]
    decide
  · exact isFormCharacter_of_mem_escapeCharacter hd

/-! ## Undoing escapes -/

theorem octet?_upper (b : UInt8) :
    octet? (Hexadecimal.upper (b.toNat / 16 % 16)) (Hexadecimal.upper (b.toNat % 16)) = some b := by
  have hvalue : ∀ m < 16, Hexadecimal.value? (Hexadecimal.upper m) = some m := by decide
  have hb : b.toNat < 256 := b.toNat_lt
  have hspelled : (b.toNat / 16 % 16) * 16 + b.toNat % 16 = b.toNat := by omega
  rw [octet?, Hexadecimal.read?]
  simp only [List.foldl_cons, List.foldl_nil, hvalue _ (Nat.mod_lt _ (by decide : 0 < 16)),
    Option.pure_def, Option.bind_eq_bind, Option.bind_some, Nat.zero_mul, Nat.zero_add, hspelled]
  exact congrArg some UInt8.ofNat_toNat

/-- Escapes stand for their octets, whatever comes after them. -/
theorem octets_escapes (octets : Octets) (rest : List Char) :
    Percent.octets (octets.flatMap escape ++ rest) = octets ++ Percent.octets rest := by
  induction octets with
  | nil => rfl
  | cons b more ih =>
    have hescape : escape b = ['%', Hexadecimal.upper (b.toNat / 16 % 16),
        Hexadecimal.upper (b.toNat % 16)] := rfl
    rw [List.flatMap_cons, List.append_assoc, hescape, List.cons_append, List.cons_append,
      List.cons_append, List.nil_append, Percent.octets, octet?_upper, ih]
    rfl

theorem octets_cons {c : Char} (hc : c ≠ '%') (cs : List Char) :
    octets (c :: cs) = Utf8.encodeNat c.toNat ++ octets cs := by
  rw [octets]
  rintro a b rest rfl
  exact absurd rfl hc

/-- A plus sign stands for a space. -/
def spaced (c : Char) : Char := if c = '+' then ' ' else c

/-- The string that stands in a query as a value, if it is one. -/
def formDecode? (cs : List Char) : Option String := Utf8.decode? (octets (cs.map spaced))

theorem map_spaced_escapeCharacter (c : Char) :
    (escapeCharacter c).map spaced = escapeCharacter c := by
  have hdigits : ∀ n < 16, spaced (Hexadecimal.upper n) = Hexadecimal.upper n := by decide
  refine (List.map_congr_left fun d hd => ?_).trans (List.map_id _)
  rcases mem_escapeCharacter hd with rfl | ⟨n, hn, rfl⟩
  · rfl
  · exact hdigits n hn

/-- What is written of a value stands for its octets. -/
theorem octets_formEncode (cs : List Char) :
    octets ((formEncode cs).map spaced) = Utf8.encodeCharacters cs := by
  induction cs with
  | nil => rfl
  | cons c cs ih =>
    rw [formEncode, List.flatMap_cons, List.map_append, ← formEncode, Utf8.encodeCharacters,
      List.flatMap_cons, ← Utf8.encodeCharacters, ← ih]
    -- Kept characters, spaces and escapes each give the octets of the character back.
    split
    · next hkept =>
      have hplain : c ≠ '+' ∧ c ≠ '%' := by
        constructor <;> rintro rfl <;> exact absurd hkept (by decide)
      rw [List.map_cons, List.map_nil, spaced, if_neg hplain.1, List.singleton_append,
        octets_cons hplain.2]
    split
    · next hspace =>
      rw [hspace]
      exact octets_cons (by decide) _
    · rw [map_spaced_escapeCharacter]
      exact octets_escapes _ _

/-- A value is given back from what is written of it. -/
theorem formDecode?_formEncode (s : String) : formDecode? (formEncode s.toList) = some s := by
  rw [formDecode?, octets_formEncode]
  exact Utf8.decode?_encode s

example : formEncode "a b&é".toList = "a+b%26%C3%A9".toList := by decide

theorem formEncode_injective {s s' : String} (h : formEncode s.toList = formEncode s'.toList) :
    s = s' := by
  have hsame := congrArg formDecode? h
  rw [formDecode?_formEncode, formDecode?_formEncode] at hsame
  exact Option.some.inj hsame

/-- What needs no escape is kept as it is. -/
theorem encode_of_kept {keep : Char → Bool} {cs : List Char} (h : ∀ c ∈ cs, keep c = true) :
    encode keep cs = cs := by
  induction cs with
  | nil => rfl
  | cons c cs ih =>
    obtain ⟨hc, hcs⟩ := List.forall_mem_cons.1 h
    rw [encode, List.flatMap_cons, if_pos hc, ← encode, ih hcs]
    rfl

end Percent

/-! ## Queries -/

namespace Url

open Percent

theorem bounds_of_isFormCharacter {c : Char} (h : IsFormCharacter c) :
    0x20 < c.toNat ∧ c.toNat < 0x7F := by
  rcases h with h | h
  · simp only [Char.isAlphanum, Char.isAlpha, Char.isUpper, Char.isLower, Char.isDigit,
      Bool.or_eq_true, Bool.and_eq_true, decide_eq_true_eq, UInt32.le_iff_toNat_le, ge_iff_le] at h
    show 0x20 < c.val.toNat ∧ c.val.toNat < 0x7F
    rcases h with (⟨hlow, hhigh⟩ | ⟨hlow, hhigh⟩) | ⟨hlow, hhigh⟩
    all_goals exact ⟨Nat.lt_of_lt_of_le (by decide) hlow, Nat.lt_of_le_of_lt hhigh (by decide)⟩
  · have hall : ∀ d ∈ ['-', '.', '_', '~', '+', '%'], 0x20 < d.toNat ∧ d.toNat < 0x7F := by
      simp
    exact hall c h

/-- What is written of values is kept in queries. -/
theorem isKeptInQuery_of_isFormCharacter {c : Char} (h : IsFormCharacter c) :
    isKeptInQuery c = true := by
  have hescaped : ∀ d ∈ " \"#<>".toList, ¬IsFormCharacter d := by simp [IsFormCharacter]
  obtain ⟨hlow, hhigh⟩ := bounds_of_isFormCharacter h
  have hprintable : ' ' ≤ c ∧ c ≤ '~' := ⟨Nat.le_of_lt hlow, Nat.le_of_lt_succ hhigh⟩
  rw [isKeptInQuery, printableBut, String.contains_char_eq,
    decide_eq_false fun hmem => hescaped c hmem h, decide_eq_true hprintable.1,
    decide_eq_true hprintable.2]
  rfl

end Url

end PersistedDocument
