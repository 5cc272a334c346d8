import PersistedDocument.Text.Utf8

/-!
# UTF-16 and UTF-32

Texts in units of two or four octets, in either order. Surrogates that form a pair in UTF-16 are the
character that they stand for; all others are passed on as they are.
-/

namespace PersistedDocument

/-- The order of the octets in a unit. -/
inductive ByteOrder where
  | bigEndian
  | littleEndian
deriving DecidableEq, Repr

/-- The number that the octets of a unit spell. -/
def ByteOrder.value (order : ByteOrder) (unit : Octets) : Nat :=
  let inOrder := match order with
    | .bigEndian => unit
    | .littleEndian => unit.reverse
  inOrder.foldl (fun n b => n * 0x100 + b.toNat) 0

namespace Utf16

/-- The units of a sequence of octets, which must not end inside one. -/
def units? (order : ByteOrder) : Octets → Option (List Nat)
  | [] => some []
  | a :: b :: rest => (order.value [a, b] :: ·) <$> units? order rest
  | [_] => none

/-- The code point of a single unit. -/
def single (n : Nat) : CodePoint := (CodePoint.ofNat? n).getD (.scalar Utf8.replacement)

/-- The code points of units, in which a leading surrogate before a trailing one makes a pair. -/
def join : List Nat → LooseText
  | [] => []
  | [n] => [single n]
  | n :: m :: rest =>
    if CodePoint.isLeading n && CodePoint.isTrailing m then
      single (CodePoint.pairValue n m) :: join rest
    else single n :: join (m :: rest)

/-- The text of a sequence of octets. -/
def decode? (order : ByteOrder) (octets : Octets) : Option LooseText := join <$> units? order octets

end Utf16

namespace Utf32

/-- The text of a sequence of octets, which must not end inside a unit. -/
def decode? (order : ByteOrder) : Octets → Option LooseText
  | [] => some []
  | a :: b :: c :: d :: rest => do
    let point ← CodePoint.ofNat? (order.value [a, b, c, d])
    return point :: (← decode? order rest)
  | _ => none

end Utf32

end PersistedDocument
