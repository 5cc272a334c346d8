import PersistedDocument.Decimal.Digits
import PersistedDocument.Text.Blank
import PersistedDocument.Text.Digit
import PersistedDocument.Text.Split

/-!
# Reading decimals

The floating-point number nearest to a decimal, the decimals that settings are given in, and whole
numbers as they stand in the environment.
-/

namespace PersistedDocument.Decimal

open PersistedDocument.Text

/-- Positive infinity. -/
def infinity : Float := 1.0 / 0.0

/-- A value that is no number. -/
def notANumber : Float := 0.0 / 0.0

/-- The number nearest to `significand * 10 ^ exponent`. Beyond the range of floating point the
exponent decides alone, so that it is never raised to a power that nothing can hold. -/
def nearest (significand : Nat) (exponent : Int) : Float :=
  let magnitude := ((digits significand).length : Int) + exponent
  if significand = 0 then 0.0
  else if magnitude > 400 then infinity
  else if magnitude < -400 then 0.0
  else Float.ofScientific significand (exponent < 0) exponent.natAbs

/-- A number with a sign. -/
def signed (isNegative : Bool) (x : Float) : Float := if isNegative then -x else x

/-- The number that digits before and after a point and an exponent spell. -/
def ofParts (whole fraction : List Char) (exponent : Int) : Float :=
  nearest (ofDigits (whole ++ fraction)) (exponent - fraction.length)

/-- A sign at the start of a text, and what follows it. -/
def takeSign : List Char → Bool × List Char
  | '-' :: cs => (true, cs)
  | '+' :: cs => (false, cs)
  | cs => (false, cs)

/-- The exponent at the end of a decimal: none, or a letter and a whole number. -/
def exponent? : List Char → Option Int
  | [] => some 0
  | c :: cs =>
    if c = 'e' ∨ c = 'E' then
      let (isNegative, ds) := takeSign cs
      if ds.isEmpty || !ds.all Char.isDigit then none
      else if isNegative then some (-(ofDigits ds : Int)) else some (ofDigits ds)
    else none

/-- A decimal without a sign: digits with a point before, among or after them, or none. -/
def unsigned? (cs : List Char) : Option Float :=
  let whole := cs.takeWhile Char.isDigit
  let rest := cs.drop whole.length
  let (fraction, rest) := match rest with
    | '.' :: more => (more.takeWhile Char.isDigit, more.dropWhile Char.isDigit)
    | _ => ([], rest)
  if whole.isEmpty && fraction.isEmpty then none
  else ofParts whole fraction <$> exponent? rest

/-- The words that stand for a number. -/
def word? (cs : List Char) : Option Float :=
  let w := String.ofList (cs.map Char.toLower)
  if w = "inf" || w = "infinity" then some infinity
  else if w = "nan" then some notANumber
  else none

/-- A text without the underscores that separate its digits; none if an underscore stands anywhere
else. `afterDigit` says whether a digit comes before. -/
def withoutSeparators (afterDigit : Bool) : List Char → Option (List Char)
  | [] => some []
  | '_' :: c :: cs =>
    if afterDigit && c.isDigit then (c :: ·) <$> withoutSeparators true cs else none
  | c :: cs => if c = '_' then none else (c :: ·) <$> withoutSeparators c.isDigit cs

/-- A decimal with or without a sign. -/
def signed? (cs : List Char) : Option Float :=
  let (isNegative, cs) := takeSign cs
  signed isNegative <$> (word? cs).or (unsigned? cs)

/-- A text without its underscores; none if one stands at an end or beside another. -/
def withoutUnderscores? (cs : List Char) : Option (List Char) :=
  let parts := splitOn '_' cs
  if parts.all fun part => !part.isEmpty then some parts.flatten else none

/-- The number that a setting gives as text: a decimal with white space around it, or one with
single underscores anywhere inside it. -/
def float? (text : String) : Option Float :=
  (signed? (trim isWhiteSpace text.toList)).or (withoutUnderscores? text.toList >>= signed?)

/-- The whole number that a text gives, in the digits of any script. -/
def int? (text : String) : Option Int := do
  let cs ← withoutSeparators false ((trim isBlank text.toList).map withAsciiDigit)
  let (isNegative, ds) := takeSign cs
  if ds.isEmpty || !ds.all Char.isDigit || ds.length > maximalDigits then none
  else return if isNegative then -(ofDigits ds : Int) else ofDigits ds

end PersistedDocument.Decimal
