/-!
# Code points

Text that arrives in escapes or in damaged encodings can hold surrogates that belong to no pair.
`LooseText` is text that may hold them; every ordinary string is such a text.
-/

namespace PersistedDocument

/-- A Unicode code point: a character, or a surrogate by its distance from the first one. -/
inductive CodePoint where
  | scalar (c : Char)
  | surrogate (offset : Fin 0x800)
deriving DecidableEq, Repr

namespace CodePoint

/-- The first surrogate. -/
def firstSurrogate : Nat := 0xD800

/-- The number of a code point. -/
def toNat : CodePoint → Nat
  | .scalar c => c.toNat
  | .surrogate offset => firstSurrogate + offset.val

/-- The code point with a number, if there is one. -/
def ofNat? (n : Nat) : Option CodePoint :=
  if h : firstSurrogate ≤ n ∧ n < firstSurrogate + 0x800 then
    some (.surrogate ⟨n - firstSurrogate, by omega⟩)
  else if n.isValidChar then some (.scalar (Char.ofNat n))
  else none

/-- The character of a code point that is no surrogate. -/
def toChar? : CodePoint → Option Char
  | .scalar c => some c
  | .surrogate _ => none

/-- A surrogate that comes first in a pair. -/
def isLeading (n : Nat) : Bool := 0xD800 ≤ n && n ≤ 0xDBFF

/-- A surrogate that comes second in a pair. -/
def isTrailing (n : Nat) : Bool := 0xDC00 ≤ n && n ≤ 0xDFFF

/-- The number of the code point that a surrogate pair stands for. -/
def pairValue (leading trailing : Nat) : Nat :=
  0x10000 + (leading - 0xD800) * 0x400 + (trailing - 0xDC00)

/-- The two surrogates that stand for a code point from `0x10000` on. -/
def pairOf (n : Nat) : Nat × Nat :=
  (0xD800 + (n - 0x10000) / 0x400, 0xDC00 + (n - 0x10000) % 0x400)

end CodePoint

/-- Text that may hold unpaired surrogates. -/
abbrev LooseText := List CodePoint

namespace LooseText

/-- An ordinary string as loose text. -/
def ofString (s : String) : LooseText := s.toList.map .scalar

theorem ofString_append (s t : String) : ofString (s ++ t) = ofString s ++ ofString t := by
  rw [ofString, String.toList_append, List.map_append]
  rfl

/-- The string that a loose text is, unless it holds a surrogate. -/
def toString? (t : LooseText) : Option String := String.ofList <$> t.mapM CodePoint.toChar?

theorem mapM_toChar?_map_scalar (cs : List Char) :
    (cs.map CodePoint.scalar).mapM CodePoint.toChar? = some cs := by
  induction cs with
  | nil => rfl
  | cons c cs ih => simp [CodePoint.toChar?, ih]

/-- Every string survives the way there and back. -/
@[simp] theorem toString?_ofString (s : String) : toString? (ofString s) = some s := by
  rw [toString?, ofString, mapM_toChar?_map_scalar]
  simp

end LooseText

end PersistedDocument
