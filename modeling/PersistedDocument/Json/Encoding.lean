import PersistedDocument.Text.WideEncodings

/-!
# The encoding of JSON texts

A JSON text comes in one of five encodings, with or without a byte order mark. Without a mark the
encoding shows in where the zeros are among the first octets, since a JSON text starts with a
character below `0x80`.
-/

namespace PersistedDocument.Json

/-- An encoding of text in octets. -/
inductive Encoding where
  | utf8
  | utf16 (order : ByteOrder)
  | utf32 (order : ByteOrder)
deriving DecidableEq, Repr

/-- The text of a sequence of octets in an encoding. -/
def Encoding.decode? : Encoding → Octets → Option LooseText
  | .utf8 => Utf8.decodeLoose?
  | .utf16 order => Utf16.decode? order
  | .utf32 order => Utf32.decode? order

/-- The encoding of octets without a byte order mark. -/
def Encoding.guess : Octets → Encoding
  | a :: b :: c :: d :: _ =>
    if a = 0 then if b = 0 then .utf32 .bigEndian else .utf16 .bigEndian
    else if b = 0 then if c = 0 && d = 0 then .utf32 .littleEndian else .utf16 .littleEndian
    else .utf8
  | [a, b] =>
    if a = 0 then .utf16 .bigEndian else if b = 0 then .utf16 .littleEndian else .utf8
  | _ => .utf8

/-- The encoding of octets and what they hold after a byte order mark. -/
def Encoding.detect : Octets → Encoding × Octets
  | 0xFF :: 0xFE :: 0x00 :: 0x00 :: rest => (.utf32 .littleEndian, rest)
  | 0x00 :: 0x00 :: 0xFE :: 0xFF :: rest => (.utf32 .bigEndian, rest)
  | 0xFF :: 0xFE :: rest => (.utf16 .littleEndian, rest)
  | 0xFE :: 0xFF :: rest => (.utf16 .bigEndian, rest)
  | 0xEF :: 0xBB :: 0xBF :: rest => (.utf8, rest)
  | octets => (Encoding.guess octets, octets)

/-- The text of a sequence of octets in the encoding that they show. -/
def decodeOctets? (octets : Octets) : Option LooseText :=
  let (encoding, rest) := Encoding.detect octets
  encoding.decode? rest

end PersistedDocument.Json
