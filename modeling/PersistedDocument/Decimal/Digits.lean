/-!
# Decimal digits

Natural numbers and their digits in base ten.
-/

namespace PersistedDocument.Decimal

/-- The value of a digit. -/
def digitValue (c : Char) : Nat := c.toNat - '0'.toNat

/-- The number of digits that a whole number may have to be read. -/
def maximalDigits : Nat := 4300

/-- The number that a list of digits spells, most significant first. -/
def ofDigits (cs : List Char) : Nat := cs.foldl (fun n c => n * 10 + digitValue c) 0

/-- The digits of a number, most significant first, with no leading zero but for zero itself. -/
def digits (n : Nat) : List Char := Nat.toDigits 10 n

/-- The digits of a number, with zeros in front up to a given count. -/
def padded (width n : Nat) : List Char :=
  let ds := digits n
  List.replicate (width - ds.length) '0' ++ ds

end PersistedDocument.Decimal
