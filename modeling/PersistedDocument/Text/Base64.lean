import PersistedDocument.Text.Utf8

/-!
# Base 64

Three octets are four digits of six bits each. At the end, one octet is two digits and two padding
signs, and two octets are three digits and one padding sign.
-/

namespace PersistedDocument.Base64

/-- The digit for a value below sixty-four. -/
def digit (n : Nat) : Char :=
  if n < 26 then Char.ofNat ('A'.toNat + n)
  else if n < 52 then Char.ofNat ('a'.toNat + n - 26)
  else if n < 62 then Char.ofNat ('0'.toNat + n - 52)
  else if n = 62 then '+'
  else '/'

/-- The first `count` of the four digits of a number of twenty-four bits. -/
def digits (count n : Nat) : List Char :=
  ([n / 0x40000, n / 0x1000 % 0x40, n / 0x40 % 0x40, n % 0x40].take count).map digit

/-- A sequence of octets in base 64. -/
def encode : Octets → List Char
  | a :: b :: c :: rest => digits 4 (a.toNat * 0x10000 + b.toNat * 0x100 + c.toNat) ++ encode rest
  | [a, b] => digits 3 (a.toNat * 0x10000 + b.toNat * 0x100) ++ ['=']
  | [a] => digits 2 (a.toNat * 0x10000) ++ ['=', '=']
  | [] => []

end PersistedDocument.Base64
