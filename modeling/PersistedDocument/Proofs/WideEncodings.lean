import PersistedDocument.Proofs.Utf8
import PersistedDocument.Text.WideEncodings

/-!
# Proofs: UTF-16 and UTF-32

Texts are written in units of two or four octets in either order, and are decoded as they were. A
character beyond the first plane takes two units of UTF-16, which no other character takes, so that
every unit says by itself whether it is one of a pair.
-/

namespace PersistedDocument

/-! ## Surrogate pairs -/

namespace CodePoint

theorem isLeading_iff {n : Nat} : isLeading n = true ↔ 0xD800 ≤ n ∧ n ≤ 0xDBFF := by
  rw [isLeading, Bool.and_eq_true, decide_eq_true_eq, decide_eq_true_eq]

theorem isTrailing_iff {n : Nat} : isTrailing n = true ↔ 0xDC00 ≤ n ∧ n ≤ 0xDFFF := by
  rw [isTrailing, Bool.and_eq_true, decide_eq_true_eq, decide_eq_true_eq]

theorem isLeading_pairOf {n : Nat} (h : 0x10000 ≤ n) (hlt : n < 0x110000) :
    isLeading (pairOf n).1 = true := by
  rw [isLeading_iff, pairOf]
  omega

theorem isTrailing_pairOf (n : Nat) : isTrailing (pairOf n).2 = true := by
  rw [isTrailing_iff, pairOf]
  omega

theorem pairValue_pairOf {n : Nat} (h : 0x10000 ≤ n) :
    pairValue (pairOf n).1 (pairOf n).2 = n := by
  unfold pairValue pairOf
  omega

/-- No surrogate comes both first and second in pairs. -/
theorem not_isTrailing_of_isLeading {n : Nat} (h : isLeading n = true) : ¬isTrailing n = true := by
  rw [isLeading_iff] at h
  rw [isTrailing_iff]
  omega

theorem not_isLeading_scalar (c : Char) : ¬isLeading (CodePoint.scalar c).toNat = true := by
  have hvalid : c.toNat.isValidChar := c.valid
  unfold Nat.isValidChar at hvalid
  rw [isLeading_iff]
  show ¬(0xD800 ≤ c.toNat ∧ c.toNat ≤ 0xDBFF)
  omega

theorem single_toNat (c : CodePoint) : Utf16.single c.toNat = c := by
  rw [Utf16.single, ofNat?_toNat, Option.getD_some]

end CodePoint

/-! ## Units -/

namespace ByteOrder

/-- The octets of a number, the most significant first. -/
def significantFirst : Nat → Nat → Octets
  | 0, _ => []
  | width + 1, n => significantFirst width (n / 0x100) ++ [UInt8.ofNat (n % 0x100)]

/-- The octets of a unit of a width. -/
def octets (order : ByteOrder) (width n : Nat) : Octets :=
  match order with
  | .bigEndian => significantFirst width n
  | .littleEndian => (significantFirst width n).reverse

/-- How many numbers the units of a width can spell. -/
def capacity : Nat → Nat
  | 0 => 1
  | width + 1 => capacity width * 0x100

/-- A unit spells the number that it was written for. -/
theorem value_octets (order : ByteOrder) (width : Nat) {n : Nat} (h : n < capacity width) :
    order.value (order.octets width n) = n := by
  have hfold : (significantFirst width n).foldl (fun n b => n * 0x100 + b.toNat) 0 = n := by
    induction width generalizing n with
    | zero => exact (Nat.lt_one_iff.1 h).symm
    | succ width ih =>
      have hlast : (UInt8.ofNat (n % 0x100)).toNat = n % 0x100 := Utf8.toNat_ofNat (by omega)
      rw [capacity] at h
      rw [significantFirst, List.foldl_append, ih (by omega), List.foldl_cons, List.foldl_nil,
        hlast]
      omega
  cases order with
  | bigEndian => exact hfold
  | littleEndian =>
    show (significantFirst width n).reverse.reverse.foldl _ 0 = n
    rw [List.reverse_reverse]
    exact hfold

/-- A small number takes one octet, and all those that are more significant are zero. -/
theorem significantFirst_of_lt {n : Nat} (h : n < 0x100) (width : Nat) :
    significantFirst (width + 1) n = List.replicate width 0 ++ [UInt8.ofNat n] := by
  induction width generalizing n with
  | zero => rw [significantFirst, Nat.mod_eq_of_lt h, significantFirst, List.replicate_zero]
  | succ width ih =>
    rw [significantFirst, Nat.div_eq_of_lt h, ih (by decide), Nat.mod_eq_of_lt h,
      List.replicate_succ']
    rfl

theorem octets_two (order : ByteOrder) (n : Nat) : ∃ a b, order.octets 2 n = [a, b] := by
  cases order <;> exact ⟨_, _, rfl⟩

theorem octets_four (order : ByteOrder) (n : Nat) :
    ∃ a b c d, order.octets 4 n = [a, b, c, d] := by
  cases order <;> exact ⟨_, _, _, _, rfl⟩

end ByteOrder

/-! ## UTF-16 -/

namespace Utf16

/-- The units of a character: one, or a surrogate pair. -/
def units (c : Char) : List Nat :=
  if c.toNat < 0x10000 then [c.toNat]
  else [(CodePoint.pairOf c.toNat).1, (CodePoint.pairOf c.toNat).2]

/-- The octets of a character. -/
def encodeCharacter (order : ByteOrder) (c : Char) : Octets := (units c).flatMap (order.octets 2)

theorem units?_flatMap (order : ByteOrder) {ns : List Nat} (h : ∀ n ∈ ns, n < 0x10000) :
    units? order (ns.flatMap (order.octets 2)) = some ns := by
  induction ns with
  | nil => rfl
  | cons n ns ih =>
    obtain ⟨hn, hns⟩ := List.forall_mem_cons.1 h
    have hvalue := order.value_octets 2 hn
    obtain ⟨a, b, hoctets⟩ := order.octets_two n
    rw [hoctets] at hvalue
    rw [List.flatMap_cons, hoctets, List.cons_append, List.cons_append, List.nil_append, units?,
      ih hns, hvalue]
    rfl

/-- A unit that comes first in no pair stands for a code point by itself. -/
theorem join_cons {n : Nat} (h : ¬CodePoint.isLeading n = true) (ns : List Nat) :
    join (n :: ns) = single n :: join ns := by
  cases ns with
  | nil => rfl
  | cons m ns =>
    have hno : ¬(CodePoint.isLeading n && CodePoint.isTrailing m) = true :=
      fun hpair => h (Bool.and_eq_true_iff.1 hpair).1
    rw [join, if_neg hno]

theorem join_units (cs : List Char) : join (cs.flatMap units) = cs.map .scalar := by
  induction cs with
  | nil => rfl
  | cons c cs ih =>
    have hsingle : single c.toNat = .scalar c := CodePoint.single_toNat (.scalar c)
    rw [List.flatMap_cons, units]
    split
    · have hnotLeading : ¬CodePoint.isLeading c.toNat = true := CodePoint.not_isLeading_scalar c
      rw [List.singleton_append, join_cons hnotLeading, ih, hsingle]
      rfl
    · next hplane =>
      have hbeyond : 0x10000 ≤ c.toNat := Nat.le_of_not_lt hplane
      have hpair : (CodePoint.isLeading (CodePoint.pairOf c.toNat).1
          && CodePoint.isTrailing (CodePoint.pairOf c.toNat).2) = true :=
        Bool.and_eq_true_iff.2 ⟨CodePoint.isLeading_pairOf hbeyond (CodePoint.scalar c).toNat_lt,
          CodePoint.isTrailing_pairOf c.toNat⟩
      rw [List.cons_append, List.cons_append, List.nil_append, join, if_pos hpair, ih,
        CodePoint.pairValue_pairOf hbeyond, hsingle]
      rfl

theorem lt_of_mem_units {c : Char} {n : Nat} (h : n ∈ units c) : n < 0x10000 := by
  have hlt : c.toNat < 0x110000 := (CodePoint.scalar c).toNat_lt
  rw [units] at h
  split at h
  · next hplane => rwa [List.mem_singleton.1 h]
  · simp only [CodePoint.pairOf, List.mem_cons, List.not_mem_nil, or_false] at h
    omega

/-- What is encoded is decoded as it was. -/
theorem decode?_encodeCharacter (order : ByteOrder) (cs : List Char) :
    decode? order (cs.flatMap (encodeCharacter order)) = some (cs.map .scalar) := by
  have hsmall : ∀ n ∈ cs.flatMap units, n < 0x10000 := by
    intro n hn
    obtain ⟨c, -, hc⟩ := List.mem_flatMap.1 hn
    exact lt_of_mem_units hc
  have hoctets : cs.flatMap (encodeCharacter order)
      = (cs.flatMap units).flatMap (order.octets 2) := List.flatMap_assoc.symm
  rw [decode?, hoctets, units?_flatMap order hsmall]
  exact congrArg some (join_units cs)

end Utf16

/-! ## UTF-32 -/

namespace Utf32

/-- The octets of a character. -/
def encodeCharacter (order : ByteOrder) (c : Char) : Octets := order.octets 4 c.toNat

/-- What is encoded is decoded as it was. -/
theorem decode?_encodeCharacter (order : ByteOrder) (cs : List Char) :
    decode? order (cs.flatMap (encodeCharacter order)) = some (cs.map .scalar) := by
  induction cs with
  | nil => rfl
  | cons c cs ih =>
    have hlt : c.toNat < ByteOrder.capacity 4 :=
      Nat.lt_trans (CodePoint.scalar c).toNat_lt (by decide)
    have hvalue := order.value_octets 4 hlt
    have hpoint : CodePoint.ofNat? c.toNat = some (.scalar c) := (CodePoint.scalar c).ofNat?_toNat
    obtain ⟨w, x, y, z, hoctets⟩ := order.octets_four c.toNat
    rw [hoctets] at hvalue
    rw [List.flatMap_cons, encodeCharacter, hoctets, List.cons_append, List.cons_append,
      List.cons_append, List.cons_append, List.nil_append, decode?, hvalue, hpoint, ih]
    rfl

end Utf32

end PersistedDocument
