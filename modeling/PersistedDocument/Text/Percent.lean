import PersistedDocument.Text.Hexadecimal
import PersistedDocument.Text.Utf8

/-!
# Percent encoding

Characters that an address cannot hold as they are stand in it as the octets of their UTF-8 form,
each a percent sign with two digits. The form encoding of values in a query also writes a space as a
plus sign.
-/

namespace PersistedDocument.Percent

/-- The escape of an octet. -/
def escape (b : UInt8) : List Char := '%' :: Hexadecimal.fixed Hexadecimal.upper 2 b.toNat

/-- The escapes of the octets of a character. -/
def escapeCharacter (c : Char) : List Char := (Utf8.encodeNat c.toNat).flatMap escape

/-- A text in which the characters that are not kept are escaped. -/
def encode (keep : Char → Bool) (cs : List Char) : List Char :=
  cs.flatMap fun c => if keep c then [c] else escapeCharacter c

/-- The octet that two digits spell. -/
def octet? (high low : Char) : Option UInt8 := UInt8.ofNat <$> Hexadecimal.read? [high, low]

/-- The octets of a text, in which an escape is the octet that it stands for. A percent sign without
two digits after it stands for itself. -/
def octets : List Char → Octets
  | '%' :: a :: b :: cs =>
    match octet? a b with
    | some o => o :: octets cs
    | none => Utf8.encodeNat '%'.toNat ++ octets (a :: b :: cs)
  | c :: cs => Utf8.encodeNat c.toNat ++ octets cs
  | [] => []

/-- A text with its escapes undone. What does not become text is replaced. -/
def decode (cs : List Char) : List Char := Utf8.decodeLossy (octets cs)

/-- The characters that never need an escape: ASCII letters, digits and four marks. -/
def isUnreserved (c : Char) : Bool :=
  c.isAlphanum || c = '-' || c = '.' || c = '_' || c = '~'

/-- A text as a value in a query. -/
def formEncode (cs : List Char) : List Char :=
  cs.flatMap fun c =>
    if isUnreserved c then [c] else if c = ' ' then ['+'] else escapeCharacter c

end PersistedDocument.Percent
