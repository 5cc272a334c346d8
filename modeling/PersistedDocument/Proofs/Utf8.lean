import PersistedDocument.Text.Utf8

/-!
# Proofs: UTF-8

What is encoded is decoded as it was. The leading octet announces how many follow and the least and
the greatest that may come next, and the octets of a code point keep to that.
-/

namespace PersistedDocument

/-! ## Code points by number -/

namespace CodePoint

theorem ofNat?_toNat (c : CodePoint) : ofNat? c.toNat = some c := by
  cases c with
  | scalar c =>
    have hvalid : c.toNat.isValidChar := c.valid
    have hno : ¬(firstSurrogate ≤ c.toNat ∧ c.toNat < firstSurrogate + 0x800) := by
      unfold Nat.isValidChar at hvalid
      unfold firstSurrogate
      omega
    rw [ofNat?, toNat, dif_neg hno, if_pos hvalid, Char.ofNat_toNat]
  | surrogate offset =>
    have hin : firstSurrogate ≤ firstSurrogate + offset.val
        ∧ firstSurrogate + offset.val < firstSurrogate + 0x800 := by omega
    rw [ofNat?, toNat, dif_pos hin]
    simp only [Nat.add_sub_cancel_left]

theorem toNat_lt (c : CodePoint) : c.toNat < 0x110000 := by
  cases c with
  | scalar c =>
    have hvalid : c.toNat.isValidChar := c.valid
    unfold Nat.isValidChar at hvalid
    show c.toNat < 0x110000
    omega
  | surrogate offset =>
    show firstSurrogate + offset.val < 0x110000
    unfold firstSurrogate
    omega

end CodePoint

namespace Utf8

/-! ## One code point -/

theorem toNat_ofNat {n : Nat} (h : n < 0x100) : (UInt8.ofNat n).toNat = n := by
  rw [UInt8.toNat_ofNat']
  omega

/-- The octet of the last six bits of a number. -/
theorem toNat_continuation (n : Nat) :
    (UInt8.ofNat (0x80 + n % 0x40)).toNat = 0x80 + n % 0x40 :=
  toNat_ofNat (by omega)

theorem isContinuation_ofNat (n : Nat) :
    isContinuation (UInt8.ofNat (0x80 + n % 0x40)) = true := by
  rw [isContinuation, toNat_continuation, Bool.and_eq_true, decide_eq_true_eq, decide_eq_true_eq]
  omega

/-- The octets that a leading one announces are those that are taken with it. -/
theorem followers_append {lead : Lead} {b : UInt8} {more : Octets}
    (hcount : lead.count = more.length + 1) (hlow : lead.low ≤ b.toNat)
    (hhigh : b.toNat ≤ lead.high) (hmore : ∀ x ∈ more, isContinuation x = true) (rest : Octets) :
    followers lead (b :: more ++ rest) = b :: more := by
  have htake : (more ++ rest).take (lead.count - 1) = more := by
    rw [hcount, Nat.add_sub_cancel, List.take_left]
  have hall : more.takeWhile isContinuation = more := by
    have happend := @List.takeWhile_append_of_pos _ isContinuation more [] hmore
    rwa [List.append_nil, List.takeWhile_nil, List.append_nil] at happend
  have hpos : 0 < lead.count := by omega
  rw [List.cons_append, followers, if_pos ⟨hpos, hlow, hhigh⟩, htake, hall]

/-- A leading octet and the octets that it announces are the code point that their bits spell. -/
theorem codePoint_of_lead {a b : UInt8} {more : Octets} {low high bits : Nat} {c : CodePoint}
    (hlead : lead? true a.toNat = some ⟨more.length + 1, low, high, bits⟩)
    (hlow : low ≤ b.toNat) (hhigh : b.toNat ≤ high)
    (hmore : ∀ x ∈ more, isContinuation x = true)
    (hvalue : (b :: more).foldl (fun n b => n * 0x40 + (b.toNat - 0x80)) bits = c.toNat)
    (rest : Octets) : codePoint true a (b :: more ++ rest) = .ok (c, (b :: more).length) := by
  have hfollowers := @followers_append ⟨more.length + 1, low, high, bits⟩ b more rfl hlow hhigh
    hmore rest
  rw [codePoint, hlead]
  simp only [hfollowers, List.length_cons, if_true, hvalue, CodePoint.ofNat?_toNat]

theorem lead?_two {n : Nat} (hlow : 0x80 ≤ n) (hhigh : n < 0x800) :
    lead? true (0xC0 + n / 0x40) = some ⟨1, 0x80, 0xBF, n / 0x40⟩ := by
  have hbits : 0xC0 + n / 0x40 - 0xC0 = n / 0x40 := by omega
  rw [lead?, if_neg (by omega), if_neg (by omega), if_pos (by omega), hbits]

/-- The octet that follows first excludes numbers that two octets could hold. -/
theorem lead?_three {n : Nat} (hlow : 0x800 ≤ n) (hhigh : n < 0x10000) :
    ∃ low high, lead? true (0xE0 + n / 0x1000) = some ⟨2, low, high, n / 0x1000⟩
      ∧ low ≤ 0x80 + n / 0x40 % 0x40 ∧ 0x80 + n / 0x40 % 0x40 ≤ high := by
  by_cases hzero : n / 0x1000 = 0
  · refine ⟨0xA0, 0xBF, ?_, by omega, by omega⟩
    rw [hzero]
    rfl
  · refine ⟨0x80, 0xBF, ?_, by omega, by omega⟩
    have hbits : 0xE0 + n / 0x1000 - 0xE0 = n / 0x1000 := by omega
    rw [lead?, if_neg (by omega), if_neg (by omega), if_neg (by omega), if_neg (by omega),
      if_neg (by simp), if_pos (by omega), hbits]

/-- The octet that follows first excludes numbers that three octets could hold, and those that are
too great. -/
theorem lead?_four {n : Nat} (hlow : 0x10000 ≤ n) (hhigh : n < 0x110000) :
    ∃ low high, lead? true (0xF0 + n / 0x40000) = some ⟨3, low, high, n / 0x40000⟩
      ∧ low ≤ 0x80 + n / 0x1000 % 0x40 ∧ 0x80 + n / 0x1000 % 0x40 ≤ high := by
  have hcases : n / 0x40000 = 0 ∨ n / 0x40000 = 4 ∨ 0 < n / 0x40000 ∧ n / 0x40000 < 4 := by omega
  rcases hcases with hzero | hfour | hbetween
  · refine ⟨0x90, 0xBF, ?_, by omega, by omega⟩
    rw [hzero]
    rfl
  · refine ⟨0x80, 0x8F, ?_, by omega, by omega⟩
    rw [hfour]
    rfl
  · refine ⟨0x80, 0xBF, ?_, by omega, by omega⟩
    have hbits : 0xF0 + n / 0x40000 - 0xF0 = n / 0x40000 := by omega
    rw [lead?, if_neg (by omega), if_neg (by omega), if_neg (by omega), if_neg (by omega),
      if_neg (by simp), if_neg (by omega), if_neg (by omega), if_pos (by omega), hbits]

/-- The octets of a code point are decoded as the code point, whatever comes after them. -/
theorem exists_encodeNat (c : CodePoint) :
    ∃ a more, encodeNat c.toNat = a :: more ∧
      ∀ rest, codePoint true a (more ++ rest) = .ok (c, more.length) := by
  have hlt := c.toNat_lt
  generalize hn : c.toNat = n at hlt
  rw [encodeNat]
  split
  · next hone =>
    refine ⟨_, _, rfl, fun rest => ?_⟩
    have hlead : lead? true (UInt8.ofNat n).toNat = some ⟨0, 0, 0, n⟩ := by
      rw [toNat_ofNat (by omega), lead?, if_pos hone]
    have hnone : followers ⟨0, 0, 0, n⟩ rest = [] := by cases rest <;> rfl
    have hpoint : CodePoint.ofNat? n = some c := hn ▸ c.ofNat?_toNat
    rw [List.nil_append, codePoint, hlead]
    simp only [hnone, List.length_nil, if_true, List.foldl_nil, hpoint]
  split
  · have hlead : lead? true (UInt8.ofNat (0xC0 + n / 0x40)).toNat
        = some ⟨1, 0x80, 0xBF, n / 0x40⟩ := by
      rw [toNat_ofNat (by omega)]
      exact lead?_two (by omega) (by omega)
    refine ⟨_, _, rfl, codePoint_of_lead hlead ?_ ?_ nofun ?_⟩
    all_goals simp only [List.foldl_cons, List.foldl_nil, toNat_continuation]
    all_goals omega
  split
  · obtain ⟨low, high, hlead, hlow, hhigh⟩ := @lead?_three n (by omega) (by omega)
    rw [← toNat_ofNat (by omega : 0xE0 + n / 0x1000 < 0x100)] at hlead
    refine ⟨_, _, rfl, codePoint_of_lead hlead ?_ ?_ ?_ ?_⟩
    · rwa [toNat_continuation]
    · rwa [toNat_continuation]
    · exact List.forall_mem_singleton.2 (isContinuation_ofNat _)
    · simp only [List.foldl_cons, List.foldl_nil, toNat_continuation]
      omega
  · obtain ⟨low, high, hlead, hlow, hhigh⟩ := @lead?_four n (by omega) (by omega)
    rw [← toNat_ofNat (by omega : 0xF0 + n / 0x40000 < 0x100)] at hlead
    refine ⟨_, _, rfl, codePoint_of_lead hlead ?_ ?_ ?_ ?_⟩
    · rwa [toNat_continuation]
    · rwa [toNat_continuation]
    · exact List.forall_mem_cons.2
        ⟨isContinuation_ofNat _, List.forall_mem_singleton.2 (isContinuation_ofNat _)⟩
    · simp only [List.foldl_cons, List.foldl_nil, toNat_continuation]
      omega

/-! ## Whole texts -/

theorem encodeLoose_cons (c : CodePoint) (t : LooseText) :
    encodeLoose (c :: t) = encodeNat c.toNat ++ encodeLoose t :=
  List.flatMap_cons ..

/-- What is encoded is decoded as it was, unpaired surrogates included. -/
theorem decodeLoose?_encodeLoose (t : LooseText) : decodeLoose? (encodeLoose t) = some t := by
  induction t with
  | nil => rw [encodeLoose, List.flatMap_nil, decodeLoose?]
  | cons c t ih =>
    obtain ⟨a, more, hencode, hdecode⟩ := exists_encodeNat c
    rw [encodeLoose_cons, hencode, List.cons_append, decodeLoose?, hdecode]
    show (c :: ·) <$> decodeLoose? ((more ++ encodeLoose t).drop more.length) = some (c :: t)
    rw [List.drop_left, ih]
    rfl

theorem encode_eq_encodeLoose (s : String) : encode s = encodeLoose (LooseText.ofString s) := by
  rw [encode, encodeCharacters, encodeLoose, LooseText.ofString, List.flatMap_map]
  rfl

theorem decodeLoose?_encode (s : String) :
    decodeLoose? (encode s) = some (LooseText.ofString s) := by
  rw [encode_eq_encodeLoose, decodeLoose?_encodeLoose]

/-- A string that is encoded is decoded as it was. -/
theorem decode?_encode (s : String) : decode? (encode s) = some s := by
  rw [decode?, decodeLoose?_encode]
  exact LooseText.toString?_ofString s

/-! ## Numbers of octets -/

theorem length_encodeNat (c : Char) : (encodeNat c.toNat).length = c.utf8Size := by
  have hle (n : Nat) (hn : n < UInt32.size) :
      c.val ≤ UInt32.ofNatLT n hn ↔ c.toNat < n + 1 := Nat.lt_succ_iff.symm
  unfold encodeNat Char.utf8Size
  simp only [hle]
  split
  · rfl
  split
  · rfl
  split <;> rfl

theorem length_encode (s : String) : (encode s).length = s.utf8ByteSize := by
  have hlist (cs : List Char) :
      (encodeCharacters cs).length = (String.ofList cs).utf8ByteSize := by
    induction cs with
    | nil => rfl
    | cons c cs ih =>
      rw [String.ofList_cons, String.utf8ByteSize_append, String.utf8ByteSize_singleton, ← ih,
        ← length_encodeNat, ← List.length_append]
      rfl
  rw [encode, hlist, String.ofList_toList]

end Utf8

end PersistedDocument
