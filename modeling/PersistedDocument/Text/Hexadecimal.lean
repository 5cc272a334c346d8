/-!
# Hexadecimal digits

Reading and writing single base-sixteen digits, and numbers of a fixed count of them.
-/

namespace PersistedDocument.Hexadecimal

/-- The value of a hexadecimal digit of either case. -/
def value? (c : Char) : Option Nat :=
  if '0' ≤ c ∧ c ≤ '9' then some (c.toNat - '0'.toNat)
  else if 'a' ≤ c ∧ c ≤ 'f' then some (c.toNat - 'a'.toNat + 10)
  else if 'A' ≤ c ∧ c ≤ 'F' then some (c.toNat - 'A'.toNat + 10)
  else none

/-- The lower-case digit for a value below sixteen. -/
def lower (n : Nat) : Char :=
  if n < 10 then Char.ofNat ('0'.toNat + n) else Char.ofNat ('a'.toNat + n - 10)

/-- The upper-case digit for a value below sixteen. -/
def upper (n : Nat) : Char :=
  if n < 10 then Char.ofNat ('0'.toNat + n) else Char.ofNat ('A'.toNat + n - 10)

/-- The number that a list of digits spells, most significant first. -/
def read? (cs : List Char) : Option Nat :=
  cs.foldl (fun acc c => do return (← acc) * 16 + (← value? c)) (some 0)

/-- The last `width` digits of a number, most significant first, written with `digit`. -/
def fixed (digit : Nat → Char) : Nat → Nat → List Char
  | 0, _ => []
  | width + 1, n => fixed digit width (n / 16) ++ [digit (n % 16)]

/-- The digits of a number without leading zeros, at least `width` of them, in upper case. -/
def atLeast (width n : Nat) : List Char :=
  let digits := Nat.toDigits 16 n |>.map Char.toUpper
  List.replicate (width - digits.length) '0' ++ digits

end PersistedDocument.Hexadecimal
