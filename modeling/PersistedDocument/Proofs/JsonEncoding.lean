import PersistedDocument.Json.Encoding
import PersistedDocument.Proofs.WideEncodings

/-!
# Proofs: the encoding of JSON texts

The octets of a text show in which of the five encodings they hold it, with or without a byte order
mark, if the text begins with a character of ASCII and the null character is not among its first
two: the zeros among the first four octets are then those of the first unit, or of the first two.
-/

namespace PersistedDocument.Json

/-! ## Texts in octets -/

namespace Encoding

/-- The octets of a character. -/
def encodeCharacter : Encoding → Char → Octets
  | .utf8, c => Utf8.encodeNat c.toNat
  | .utf16 order, c => Utf16.encodeCharacter order c
  | .utf32 order, c => Utf32.encodeCharacter order c

/-- The octets of a string. -/
def encode (e : Encoding) (s : String) : Octets := s.toList.flatMap e.encodeCharacter

/-- The byte order mark. -/
def mark (e : Encoding) : Octets := e.encodeCharacter '\uFEFF'

example : mark .utf8 = [0xEF, 0xBB, 0xBF] ∧ mark (.utf16 .littleEndian) = [0xFF, 0xFE]
    ∧ mark (.utf32 .littleEndian) = [0xFF, 0xFE, 0x00, 0x00] := by decide

/-- The octets of a string, after the byte order mark if it is to be there. -/
def octets (e : Encoding) (marked : Bool) (s : String) : Octets :=
  (if marked then e.mark else []) ++ e.encode s

theorem decode?_encode (e : Encoding) (s : String) :
    e.decode? (e.encode s) = some (.ofString s) := by
  cases e with
  | utf8 => exact Utf8.decodeLoose?_encode s
  | utf16 order => exact Utf16.decode?_encodeCharacter order s.toList
  | utf32 order => exact Utf32.decode?_encodeCharacter order s.toList

end Encoding

/-! ## First octets -/

theorem ofNat_ne_zero {n : Nat} (hpos : 0 < n) (hlt : n < 0x100) : UInt8.ofNat n ≠ 0 := by
  intro hzero
  have hn := Utf8.toNat_ofNat hlt
  rw [hzero] at hn
  exact absurd hn.symm (Nat.ne_of_gt hpos)

/-- Only the null character begins with a zero in UTF-8. -/
theorem exists_encodeNat_ne_zero {n : Nat} (hpos : 0 < n) (hlt : n < 0x110000) :
    ∃ a more, Utf8.encodeNat n = a :: more ∧ a ≠ 0 := by
  rw [Utf8.encodeNat]
  split
  · exact ⟨_, _, rfl, ofNat_ne_zero hpos (by omega)⟩
  split
  · exact ⟨_, _, rfl, ofNat_ne_zero (by omega) (by omega)⟩
  split
  · exact ⟨_, _, rfl, ofNat_ne_zero (by omega) (by omega)⟩
  · exact ⟨_, _, rfl, ofNat_ne_zero (by omega) (by omega)⟩

/-- Only the null character begins with a unit of zeros in UTF-16. -/
theorem exists_encodeCharacter_ne_zero (order : ByteOrder) {c : Char} (hpos : 0 < c.toNat) :
    ∃ a b more, Utf16.encodeCharacter order c = a :: b :: more ∧ ¬(a = 0 ∧ b = 0) := by
  obtain ⟨n, ns, hunits, hn, hlt⟩ : ∃ n ns, Utf16.units c = n :: ns ∧ 0 < n ∧ n < 0x10000 := by
    have hmem {n : Nat} (h : n ∈ Utf16.units c) : n < 0x10000 := Utf16.lt_of_mem_units h
    rw [Utf16.units] at hmem ⊢
    split at hmem
    · next hplane => exact ⟨_, _, if_pos hplane, hpos, hplane⟩
    · next hplane =>
      refine ⟨_, _, if_neg hplane, ?_, hmem List.mem_cons_self⟩
      rw [CodePoint.pairOf]
      omega
  obtain ⟨a, b, hoctets⟩ := order.octets_two n
  refine ⟨a, b, ns.flatMap (order.octets 2), ?_, ?_⟩
  · rw [Utf16.encodeCharacter, hunits, List.flatMap_cons, hoctets]
    rfl
  · rintro ⟨rfl, rfl⟩
    have hvalue := order.value_octets 2 hlt
    rw [hoctets] at hvalue
    have hzero : order.value [0, 0] = 0 := by cases order <;> rfl
    omega

/-- A character of ASCII is a single octet in UTF-8, and is filled up with zeros to a unit in the
other encodings. -/
theorem encodeCharacter_of_ascii {c : Char} (hc : 0 < c.toNat ∧ c.toNat < 0x80) :
    ∃ a : UInt8, (a ≠ 0 ∧ a < 0x80)
      ∧ Encoding.encodeCharacter .utf8 c = [a]
      ∧ Encoding.encodeCharacter (.utf16 .bigEndian) c = [0, a]
      ∧ Encoding.encodeCharacter (.utf16 .littleEndian) c = [a, 0]
      ∧ Encoding.encodeCharacter (.utf32 .bigEndian) c = [0, 0, 0, a]
      ∧ Encoding.encodeCharacter (.utf32 .littleEndian) c = [a, 0, 0, 0] := by
  have hlt : c.toNat < 0x100 := Nat.lt_trans hc.2 (by decide)
  have hunits : Utf16.units c = [c.toNat] := if_pos (Nat.lt_trans hc.2 (by decide))
  have htwo := ByteOrder.significantFirst_of_lt hlt 1
  have hfour := ByteOrder.significantFirst_of_lt hlt 3
  refine ⟨UInt8.ofNat c.toNat, ⟨ofNat_ne_zero hc.1 hlt, ?_⟩, if_pos hc.2, ?_, ?_, hfour, ?_⟩
  · rw [UInt8.lt_iff_toNat_lt, Utf8.toNat_ofNat hlt]
    exact hc.2
  · rw [Encoding.encodeCharacter, Utf16.encodeCharacter, hunits, List.flatMap_singleton]
    exact htwo
  · rw [Encoding.encodeCharacter, Utf16.encodeCharacter, hunits, List.flatMap_singleton]
    exact congrArg List.reverse htwo
  · exact congrArg List.reverse hfour

/-! ## Finding the encoding -/

/-- A text begins with a character of ASCII, and neither this one nor the next is the null
character. -/
def ShowsEncoding (s : String) : Prop :=
  ∃ c cs, s.toList = c :: cs ∧ (0 < c.toNat ∧ c.toNat < 0x80) ∧ ∀ d ∈ cs.head?, 0 < d.toNat

theorem showsEncoding_of_toList {s : String} {c d : Char} {cs : List Char}
    (hs : s.toList = c :: d :: cs) (hc : 0 < c.toNat ∧ c.toNat < 0x80) (hd : 0 < d.toNat) :
    ShowsEncoding s :=
  ⟨c, d :: cs, hs, hc, fun e he => by rwa [← Option.some.inj he]⟩

/-- Octets that begin with a character of ASCII have no byte order mark. -/
theorem detect_of_ascii {a : UInt8} (ha : a ≠ 0 ∧ a < 0x80) (rest : Octets) :
    Encoding.detect (a :: rest) = (Encoding.guess (a :: rest), a :: rest) := by
  have hmark {c : UInt8} (hc : ¬(c ≠ 0 ∧ c < 0x80)) : a ≠ c := by
    rintro rfl
    exact hc ha
  rw [Encoding.detect.eq_def]
  split
  · next heq => exact absurd (List.cons.inj heq).1 (hmark (by decide))
  · next heq => exact absurd (List.cons.inj heq).1 (hmark (by decide))
  · next heq => exact absurd (List.cons.inj heq).1 (hmark (by decide))
  · next heq => exact absurd (List.cons.inj heq).1 (hmark (by decide))
  · next heq => exact absurd (List.cons.inj heq).1 (hmark (by decide))
  · rfl

/-- Octets that begin with a zero have a byte order mark only if it is that of UTF-32. -/
theorem detect_of_zero {rest : Octets} (h : ¬[0x00, 0xFE, 0xFF] <+: rest) :
    Encoding.detect (0x00 :: rest) = (Encoding.guess (0x00 :: rest), 0x00 :: rest) := by
  rw [Encoding.detect.eq_def]
  split
  · next heq => exact absurd (List.cons.inj heq).1 (by decide)
  · next heq => exact absurd ⟨_, (List.cons.inj heq).2.symm⟩ h
  · next heq => exact absurd (List.cons.inj heq).1 (by decide)
  · next heq => exact absurd (List.cons.inj heq).1 (by decide)
  · next heq => exact absurd (List.cons.inj heq).1 (by decide)
  · rfl

/-- A byte order mark is found, unless two zeros make the one of UTF-16 that of UTF-32. -/
theorem detect_mark_append (e : Encoding) {octets : Octets}
    (h : e = .utf16 .littleEndian → ¬[0x00, 0x00] <+: octets) :
    Encoding.detect (e.mark ++ octets) = (e, octets) := by
  match e, h with
  | .utf8, _ => rfl
  | .utf16 .bigEndian, _ => rfl
  | .utf16 .littleEndian, h =>
    show Encoding.detect (0xFF :: 0xFE :: octets) = (.utf16 .littleEndian, octets)
    rw [Encoding.detect.eq_def]
    split
    · next heq => exact absurd ⟨_, (List.cons.inj (List.cons.inj heq).2).2.symm⟩ (h rfl)
    · next heq => exact absurd (List.cons.inj heq).1 (by decide)
    · next heq =>
      obtain ⟨-, rfl⟩ := List.cons.inj (List.cons.inj heq).2
      rfl
    · next heq => exact absurd (List.cons.inj heq).1 (by decide)
    · next heq => exact absurd (List.cons.inj heq).1 (by decide)
    · next hno _ _ => exact absurd rfl (hno octets)
  | .utf32 .bigEndian, _ => rfl
  | .utf32 .littleEndian, _ => rfl

theorem guess_of_nonzero {a b : UInt8} (ha : a ≠ 0) (hb : b ≠ 0) (rest : Octets) :
    Encoding.guess (a :: b :: rest) = .utf8 := by
  match rest with
  | [] => rw [Encoding.guess, if_neg ha, if_neg hb]
  | [_] => rfl
  | _ :: _ :: _ => rw [Encoding.guess, if_neg ha, if_neg hb]

section

variable {c : Char} {cs : List Char} (hc : 0 < c.toNat ∧ c.toNat < 0x80)
  (hcs : ∀ d ∈ cs.head?, 0 < d.toNat)

include hc

/-- The octets of a text that begins with a character of ASCII are not taken for a mark. -/
theorem detect_flatMap (e : Encoding) :
    Encoding.detect ((c :: cs).flatMap e.encodeCharacter)
      = (Encoding.guess ((c :: cs).flatMap e.encodeCharacter),
        (c :: cs).flatMap e.encodeCharacter) := by
  obtain ⟨a, ha, h8, h16, h16', h32, h32'⟩ := encodeCharacter_of_ascii hc
  rw [List.flatMap_cons]
  match e with
  | .utf8 =>
    rw [h8]
    exact detect_of_ascii ha _
  | .utf16 .bigEndian =>
    rw [h16]
    refine detect_of_zero fun hmark => ?_
    exact ha.1 (List.cons_prefix_cons.1 hmark).1.symm
  | .utf16 .littleEndian =>
    rw [h16']
    exact detect_of_ascii ha _
  | .utf32 .bigEndian =>
    rw [h32]
    refine detect_of_zero fun hmark => ?_
    exact absurd (List.cons_prefix_cons.1 (List.cons_prefix_cons.1 hmark).2).1 (by decide)
  | .utf32 .littleEndian =>
    rw [h32']
    exact detect_of_ascii ha _

/-- With a character of ASCII in front, no text in UTF-16 begins with two zeros. -/
theorem not_zeros_prefix_flatMap :
    ¬[0x00, 0x00] <+: (c :: cs).flatMap (Encoding.utf16 .littleEndian).encodeCharacter := by
  obtain ⟨a, ha, -, -, h16', -, -⟩ := encodeCharacter_of_ascii hc
  rw [List.flatMap_cons, h16']
  intro hzeros
  exact ha.1 (List.cons_prefix_cons.1 hzeros).1.symm

include hcs

/-- The zeros among the first octets of a text are those of its encoding. -/
theorem guess_flatMap (e : Encoding) :
    Encoding.guess ((c :: cs).flatMap e.encodeCharacter) = e := by
  obtain ⟨a, ha, h8, h16, h16', h32, h32'⟩ := encodeCharacter_of_ascii hc
  rw [List.flatMap_cons]
  -- Only the encodings that take fewer than four octets look at the second character.
  match e, cs, hcs with
  | .utf8, [], _ => rw [h8]; rfl
  | .utf8, d :: ds, hcs =>
    obtain ⟨b, more, hd, hb⟩ := exists_encodeNat_ne_zero (hcs d rfl) (CodePoint.scalar d).toNat_lt
    rw [h8, List.flatMap_cons, Encoding.encodeCharacter, hd]
    exact guess_of_nonzero ha.1 hb _
  | .utf16 .bigEndian, [], _ => rw [h16]; rfl
  | .utf16 .littleEndian, [], _ =>
    rw [h16']
    show Encoding.guess [a, 0] = _
    rw [Encoding.guess, if_neg ha.1, if_pos rfl]
  | .utf16 .bigEndian, d :: ds, hcs =>
    obtain ⟨x, y, more, hd, -⟩ := exists_encodeCharacter_ne_zero .bigEndian (hcs d rfl)
    rw [h16, List.flatMap_cons, Encoding.encodeCharacter, hd]
    show Encoding.guess (0 :: a :: x :: y :: _) = _
    rw [Encoding.guess, if_pos rfl, if_neg ha.1]
  | .utf16 .littleEndian, d :: ds, hcs =>
    obtain ⟨x, y, more, hd, hxy⟩ := exists_encodeCharacter_ne_zero .littleEndian (hcs d rfl)
    rw [h16', List.flatMap_cons, Encoding.encodeCharacter, hd]
    show Encoding.guess (a :: 0 :: x :: y :: _) = _
    rw [Encoding.guess, if_neg ha.1, if_pos rfl, if_neg (by simpa using hxy)]
  | .utf32 .bigEndian, cs, _ => rw [h32]; rfl
  | .utf32 .littleEndian, cs, _ =>
    rw [h32']
    show Encoding.guess (a :: 0 :: 0 :: 0 :: _) = _
    rw [Encoding.guess, if_neg ha.1, if_pos rfl]
    rfl

end

/-- The octets of a text are found to be in the encoding in which they are, with a mark or without
one. -/
theorem decodeOctets?_octets {s : String} (hs : ShowsEncoding s) (e : Encoding) (marked : Bool) :
    decodeOctets? (e.octets marked s) = some (.ofString s) := by
  have hdetect : Encoding.detect (e.octets marked s) = (e, e.encode s) := by
    obtain ⟨c, cs, hs, hc, hcs⟩ := hs
    rw [Encoding.octets, Encoding.encode, hs]
    cases marked with
    | false =>
      show Encoding.detect ((c :: cs).flatMap e.encodeCharacter) = _
      rw [detect_flatMap hc, guess_flatMap hc hcs]
    | true =>
      refine detect_mark_append e ?_
      rintro rfl
      exact not_zeros_prefix_flatMap hc
  rw [decodeOctets?, hdetect]
  exact e.decode?_encode s

theorem decodeOctets?_encode {s : String} (hs : ShowsEncoding s) :
    decodeOctets? (Utf8.encode s) = some (.ofString s) :=
  decodeOctets?_octets hs .utf8 false

end PersistedDocument.Json
