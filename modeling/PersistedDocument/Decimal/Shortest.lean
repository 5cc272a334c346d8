import PersistedDocument.Decimal.Binary64
import PersistedDocument.Decimal.Digits

/-!
# Shortest decimals

The decimal with the fewest digits among those that read back as a given floating-point number, and
of these the nearest to it. The number is the middle of an interval, the decimals in which round to
it; on each grid of decimals only the two neighbours of the number need to be tried.
-/

namespace PersistedDocument.Decimal

/-- A positive number in quarters of its unit, with the ends of the interval around it. -/
structure Interval where
  /-- The lower end. -/
  low : Nat
  /-- The number itself. -/
  middle : Nat
  /-- The upper end. -/
  high : Nat
  /-- The power of two that a quarter of the unit is. -/
  exponent : Int
  /-- Whether the ends round to the number too. -/
  isClosed : Bool

/-- The interval around a positive number. -/
def Interval.around (x : Binary64) : Interval where
  low := 4 * x.significand - if x.isAtPowerOfTwo then 1 else 2
  middle := 4 * x.significand
  high := 4 * x.significand + 2
  exponent := x.exponent - 2
  isClosed := x.significand % 2 = 0

/-- The two sides of the comparison of a multiple of the quarter unit with `digits * 10 ^ place`,
as whole numbers. -/
def Interval.sides (i : Interval) (multiple digits : Nat) (place : Int) : Nat × Nat :=
  (multiple * Nat.pow 2 i.exponent.toNat * Nat.pow 10 (-place).toNat,
    digits * Nat.pow 2 (-i.exponent).toNat * Nat.pow 10 place.toNat)

/-- Whether a decimal reads back as the number. -/
def Interval.contains (i : Interval) (digits : Nat) (place : Int) : Bool :=
  let (low, d) := i.sides i.low digits place
  let (high, _) := i.sides i.high digits place
  if i.isClosed then low ≤ d && d ≤ high else low < d && d < high

/-- The number of places before the point: the number is below `10 ^ magnitude`, but no smaller
power. -/
def Interval.magnitude (i : Interval) : Int :=
  let scaled := i.middle * Nat.pow 2 i.exponent.toNat * Nat.pow 10 400
    / Nat.pow 2 (-i.exponent).toNat
  ((digits scaled).length : Int) - 400

/-- The decimal of a given number of digits that reads back, if one of the neighbours does. -/
def Interval.onGrid (i : Interval) (count : Nat) : Option (Nat × Int) :=
  let place := i.magnitude - count
  let (middle, unit) := i.sides i.middle 1 place
  let below := middle / unit
  let rest := 2 * (middle % unit)
  let preferBelow := rest < unit || (rest = unit && below % 2 = 0)
  match i.contains below place, i.contains (below + 1) place with
  | true, true => some (if preferBelow then below else below + 1, place)
  | true, false => some (below, place)
  | false, true => some (below + 1, place)
  | false, false => none

/-- The first grid on which a decimal reads back, from `count` digits on. -/
def Interval.shortestFrom (i : Interval) : Nat → Nat → Nat × Int
  | 0, count => (i.onGrid count).getD (i.middle, i.exponent)
  | more + 1, count =>
    match i.onGrid count with
    | some d => d
    | none => i.shortestFrom more (count + 1)

/-- The digits of the shortest decimal that reads back as a positive number and the place of the
point: the number is `0.digits * 10 ^ point`. -/
def shortest (x : Binary64) : List Char × Int :=
  let (n, place) := (Interval.around x).shortestFrom 16 1
  let ds := digits n
  let significant := (ds.reverse.dropWhile (· = '0')).reverse
  (significant, ds.length + place)

/-- How a shortest decimal is laid out. -/
structure Layout where
  /-- The least exponent that is written with zeros instead. -/
  leastPositional : Int
  /-- The greatest exponent that is written with zeros instead. -/
  greatestPositional : Int
  /-- The least number of digits of an exponent. -/
  exponentWidth : Nat
  /-- What stands for no number. -/
  notANumber : String
  /-- What stands for positive infinity. -/
  infinity : String

/-- Digits with the point among them or zeros around them. -/
def positional (ds : List Char) (point : Int) : List Char :=
  if point ≤ 0 then '0' :: '.' :: List.replicate (-point).toNat '0' ++ ds
  else
    let before := point.toNat
    if ds.length ≤ before then ds ++ List.replicate (before - ds.length) '0' ++ ['.', '0']
    else ds.take before ++ '.' :: ds.drop before

/-- Digits with the point after the first one and an exponent. -/
def scientific (width : Nat) (ds : List Char) (exponent : Int) : List Char :=
  ds.take 1 ++ (if ds.length > 1 then '.' :: ds.drop 1 else [])
    ++ 'e' :: (if exponent < 0 then '-' else '+') :: padded width exponent.natAbs

/-- A floating-point number in a layout. -/
def Layout.write (layout : Layout) (x : Float) : String :=
  let signed (isNegative : Bool) (text : String) := if isNegative then "-" ++ text else text
  match ofFloat x with
  | .notANumber => layout.notANumber
  | .infinite isNegative => signed isNegative layout.infinity
  | .finite v =>
    signed v.isNegative <| String.ofList <|
      if v.significand = 0 then ['0', '.', '0']
      else
        let (ds, point) := shortest v
        if layout.leastPositional < point ∧ point ≤ layout.greatestPositional + 1 then
          positional ds point
        else scientific layout.exponentWidth ds (point - 1)

/-- A floating-point number with a fixed number of places, a half going to the even neighbour. -/
def fixed (places : Nat) (x : Float) : String :=
  match ofFloat x with
  | .notANumber => "nan"
  | .infinite isNegative => if isNegative then "-inf" else "inf"
  | .finite v =>
    let n := roundHalfEven (v.significand * Nat.pow 2 v.exponent.toNat * Nat.pow 10 places)
      (Nat.pow 2 (-v.exponent).toNat)
    let ds := padded (places + 1) n
    let whole := ds.length - places
    String.ofList ((if v.isNegative then ['-'] else []) ++ ds.take whole ++ '.' :: ds.drop whole)

end PersistedDocument.Decimal
