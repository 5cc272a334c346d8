import PersistedDocument.Text.CodePoint

/-!
# UTF-8

Octets and code points. Encoding is total, also on surrogates, which take three octets like the
characters around them. Decoding refuses every other sequence than the shortest one of a code point;
the strict form refuses surrogates too, and the lossy form puts a replacement character where the
strict form would stop.
-/

namespace PersistedDocument

/-- A sequence of octets. -/
abbrev Octets := List UInt8

namespace Utf8

/-- The octets of the code point with a number. -/
def encodeNat (n : Nat) : Octets :=
  if n < 0x80 then [UInt8.ofNat n]
  else if n < 0x800 then [UInt8.ofNat (0xC0 + n / 0x40), UInt8.ofNat (0x80 + n % 0x40)]
  else if n < 0x10000 then
    [UInt8.ofNat (0xE0 + n / 0x1000), UInt8.ofNat (0x80 + n / 0x40 % 0x40),
      UInt8.ofNat (0x80 + n % 0x40)]
  else
    [UInt8.ofNat (0xF0 + n / 0x40000), UInt8.ofNat (0x80 + n / 0x1000 % 0x40),
      UInt8.ofNat (0x80 + n / 0x40 % 0x40), UInt8.ofNat (0x80 + n % 0x40)]

/-- The octets of a loose text. -/
def encodeLoose (t : LooseText) : Octets := t.flatMap fun c => encodeNat c.toNat

/-- The octets of a list of characters. -/
def encodeCharacters (cs : List Char) : Octets := cs.flatMap fun c => encodeNat c.toNat

/-- The octets of a string. -/
def encode (s : String) : Octets := encodeCharacters s.toList

/-- What a leading octet announces. -/
structure Lead where
  /-- How many octets follow. -/
  count : Nat
  /-- The least octet that may follow first. -/
  low : Nat
  /-- The greatest octet that may follow first. -/
  high : Nat
  /-- The bits that the leading octet contributes. -/
  bits : Nat
deriving DecidableEq, Repr

/-- What an octet announces as the first one of a code point. -/
def lead? (surrogates : Bool) (a : Nat) : Option Lead :=
  if a < 0x80 then some ⟨0, 0, 0, a⟩
  else if a < 0xC2 then none
  else if a < 0xE0 then some ⟨1, 0x80, 0xBF, a - 0xC0⟩
  else if a = 0xE0 then some ⟨2, 0xA0, 0xBF, 0⟩
  else if a = 0xED ∧ !surrogates then some ⟨2, 0x80, 0x9F, 0xD⟩
  else if a < 0xF0 then some ⟨2, 0x80, 0xBF, a - 0xE0⟩
  else if a = 0xF0 then some ⟨3, 0x90, 0xBF, 0⟩
  else if a < 0xF4 then some ⟨3, 0x80, 0xBF, a - 0xF0⟩
  else if a = 0xF4 then some ⟨3, 0x80, 0x8F, 4⟩
  else none

/-- Whether an octet can only go on with a code point. -/
def isContinuation (b : UInt8) : Bool := 0x80 ≤ b.toNat && b.toNat ≤ 0xBF

/-- The octets that go on with a leading one, as far as they are what it announces. -/
def followers (lead : Lead) : Octets → Octets
  | [] => []
  | b :: rest =>
    if 0 < lead.count ∧ lead.low ≤ b.toNat ∧ b.toNat ≤ lead.high then
      b :: (rest.take (lead.count - 1)).takeWhile isContinuation
    else []

/-- The code point that starts with an octet and how many octets follow the first one in it; for an
invalid start, how many octets belong to the part that could have been valid. -/
def codePoint (surrogates : Bool) (a : UInt8) (rest : Octets) : Except Nat (CodePoint × Nat) :=
  match lead? surrogates a.toNat with
  | none => .error 0
  | some lead =>
    let more := followers lead rest
    if more.length = lead.count then
      let n := more.foldl (fun n b => n * 0x40 + (b.toNat - 0x80)) lead.bits
      match CodePoint.ofNat? n with
      | some c => .ok (c, lead.count)
      | none => .error 0
    else .error more.length

/-- The text of a sequence of octets, in which surrogates may be encoded like characters. -/
def decodeLoose? : Octets → Option LooseText
  | [] => some []
  | a :: rest =>
    match codePoint true a rest with
    | .ok (c, used) => (c :: ·) <$> decodeLoose? (rest.drop used)
    | .error _ => none
termination_by octets => octets.length
decreasing_by simp only [List.length_cons, List.length_drop]; omega

/-- The string of a sequence of octets. -/
def decode? (octets : Octets) : Option String := decodeLoose? octets >>= LooseText.toString?

/-- The character that stands for octets that are no text. -/
def replacement : Char := '\uFFFD'

/-- The characters of a sequence of octets, with a replacement for each longest start of a code
point that is not completed, and for each octet that starts none. -/
def decodeLossy : Octets → List Char
  | [] => []
  | a :: rest =>
    match codePoint false a rest with
    | .ok (c, used) => c.toChar?.getD replacement :: decodeLossy (rest.drop used)
    | .error used => replacement :: decodeLossy (rest.drop used)
termination_by octets => octets.length
decreasing_by all_goals simp only [List.length_cons, List.length_drop]; omega

end Utf8

end PersistedDocument
