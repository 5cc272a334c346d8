/-!
# Binary floating point

The exact value of a floating-point number: a sign and a whole number times a power of two.
-/

namespace PersistedDocument.Decimal

/-- A finite number `(-1) ^ isNegative * significand * 2 ^ exponent`. -/
structure Binary64 where
  /-- Whether the sign bit is set. -/
  isNegative : Bool
  /-- The significand as a whole number below `2 ^ 53`. -/
  significand : Nat
  /-- The exponent of its unit. -/
  exponent : Int
  /-- Whether the next smaller number is only half as far away as the next greater one. -/
  isAtPowerOfTwo : Bool
deriving DecidableEq, Repr

/-- What the bits of a floating-point number stand for. -/
inductive Unpacked where
  | finite (value : Binary64)
  | infinite (isNegative : Bool)
  | notANumber
deriving DecidableEq, Repr

/-- Takes the bits of a floating-point number apart. -/
def unpack (bits : Nat) : Unpacked :=
  let isNegative := decide (bits / Nat.pow 2 63 % 2 = 1)
  let biased : Nat := bits / Nat.pow 2 52 % Nat.pow 2 11
  let fraction : Nat := bits % Nat.pow 2 52
  if biased = 2047 then if fraction = 0 then .infinite isNegative else .notANumber
  else if biased = 0 then .finite ⟨isNegative, fraction, -1074, false⟩
  else
    .finite ⟨isNegative, Nat.pow 2 52 + fraction, (biased : Int) - 1075, fraction = 0 && biased > 1⟩

/-- Takes a floating-point number apart. -/
def ofFloat (x : Float) : Unpacked := unpack x.toBits.toNat

/-- The quotient rounded to the nearest whole number, a half to the even neighbour. -/
def roundHalfEven (numerator denominator : Nat) : Nat :=
  let q := numerator / denominator
  let twice := 2 * (numerator % denominator)
  if twice > denominator || (twice = denominator && q % 2 = 1) then q + 1 else q

end PersistedDocument.Decimal
